import ObservabilityOperator.OperandInitialization

/-!
# Starting the operator again

What the initializer has written gives it no reason to write again: a replaced
operand has the label, and on a cloud storage and retention.  An update that
does not concern the stored object of the same version is refused, so after a
start without an error every operand that was replaced is in its place.
-/

namespace ObservabilityOperator

open Program

def restartAnswers (ns : String) (configMap : Except ApiError Unit)
    (infrastructure : Except ApiError (Option String))
    (order : List ObjectKey) : InitializerAnswers ControllerState where
  ns := ns
  configMap := configMap
  infrastructure := infrastructure
  list state := order.filterMap state.find
  others := Choice.answer {}

/-- The initializer returns without writing an operand. -/
structure StartsQuietly (answers : InitializerAnswers ControllerState)
    (state : ControllerState) : Prop where
  returns : ∃ after, initializeOperand.run answers.handler state =
    (.ok (.ok ()), after)
  silent : ∀ op : ControllerCall, op.WritesOperand →
    ¬ initializeOperand.Issues answers.handler state op

/-- Different objects have different resource versions. -/
def ControllerState.Versioned (state : ControllerState) : Prop :=
  ∀ key other obs found, state.find key = some obs →
    state.find other = some found →
    found.resourceVersion = obs.resourceVersion → other = key

def survives (lacks : Bool) (existing : CustomResource) : Bool :=
  !(isReplaced lacks existing && existing.deletionTimestamp.isSome)

/-- The first operand that survives the start is replaced by it, or needs no
storage, or has some. -/
def LeavesSettled (infrastructure : Except ApiError (Option String))
    (items : List CustomResource) : Prop :=
  let lacks := firstLacksStorage infrastructure items
  ∃ first ∈ (items.filter (survives lacks)).head?,
    isReplaced lacks first = true ∨ isCloud infrastructure = false ∨
      first.lacksStorage = false

section Default

variable {ns : String} {infrastructure : Except ApiError (Option String)}

theorem isManaged_defaultOperand :
    (defaultOperand ns infrastructure).isManaged = true := by
  unfold defaultOperand
  split <;> rfl

theorem finalizers_defaultOperand :
    (defaultOperand ns infrastructure).finalizers = [] := by
  unfold defaultOperand
  split <;> rfl

theorem lacksStorage_defaultOperand :
    (defaultOperand ns infrastructure).lacksStorage =
      !isCloud infrastructure := by
  unfold defaultOperand
  cases isCloud infrastructure <;> rfl

end Default

/-! ## The operands after the first start -/

def Adopted (target : CustomResource) (lacks : Bool)
    (existing : CustomResource) (slot : Option CustomResource) : Prop :=
  if isReplaced lacks existing then
    if existing.deletionTimestamp.isSome then slot = none
    else ∃ obs, slot = some obs ∧ obs.isManaged = target.isManaged ∧
      obs.lacksStorage = target.lacksStorage
  else slot = some existing

section Adopting

variable {answers : InitializerAnswers ControllerState}
  {state after : ControllerState} {target existing : CustomResource}
  {lacks : Bool} {items : List CustomResource}

theorem ControllerState.Versioned.store (hversioned : state.Versioned)
    (hkeyed : state.Keyed) (obs : CustomResource) :
    (state.store obs).Versioned := by
  intro key other first second hfirst hsecond hsame
  rcases find_store_eq_some hfirst with hbefore | ⟨rfl, rfl⟩ <;>
    rcases find_store_eq_some hsecond with hother | ⟨rfl, rfl⟩
  · exact hversioned key other first second hbefore hother hsame
  · have hold := (hkeyed key first hbefore).2
    simp only at hsame
    omega
  · have hold := (hkeyed other second hother).2
    simp only at hsame
    omega
  · rfl

theorem adopted_of_update (hversioned : state.Versioned)
    (hfind : state.find existing.key = some existing)
    (hplain : target.finalizers = [])
    (hreplaced : isReplaced lacks existing = true)
    (haccepted : state.acceptUpdate (updateOperand existing target) =
      .ok after) :
    ∃ written : CustomResource, written.key = existing.key ∧
      after = state.store written ∧
      Adopted target lacks existing (after.find existing.key) := by
  obtain ⟨stored, hstored, hversion, rfl⟩ :=
    ControllerState.acceptUpdate_eq_ok haccepted
  have hkey : (updateOperand existing target).key = existing.key :=
    hversioned _ _ _ _ hfind hstored hversion
  obtain rfl : existing = stored := by
    rw [hkey, hfind] at hstored
    exact Option.some.inj hstored
  refine ⟨_, ?_, rfl, ?_⟩
  · exact hkey
  rw [Adopted, if_pos hreplaced, ← hkey]
  split
  next hdeleted =>
    have hgone : existing.deletionTimestamp.isSome ∧
        (updateOperand existing target).finalizers = [] :=
      ⟨hdeleted, hplain⟩
    unfold ControllerState.store ControllerState.find
    rw [if_pos hgone]
    exact AList.lookup_erase _ _
  next hkept =>
    have hnone : existing.deletionTimestamp = none := by simpa using hkept
    exact ⟨_, find_store_of_none hnone, rfl, rfl⟩

theorem adopted_of_run (hother : answers.others = Choice.answer {})
    (hplain : target.finalizers = []) (hkeyed : state.Keyed)
    (hversioned : state.Versioned)
    (hitems : ∀ existing ∈ items, state.find existing.key = some existing)
    (hnodup : (items.map CustomResource.key).Nodup)
    (hrun : (adoptOperands target lacks items).run answers.handler state =
      (.ok (.ok ()), after)) :
    (∀ existing ∈ items,
        Adopted target lacks existing (after.find existing.key)) ∧
      ∀ key ∉ items.map CustomResource.key,
        after.find key = state.find key := by
  induction items generalizing state with
  | nil =>
    obtain rfl : state = after := congrArg Prod.snd hrun
    exact ⟨by simp, fun _ _ => rfl⟩
  | cons existing rest ih =>
    have hfresh : existing.key ∉ rest.map CustomResource.key :=
      (List.nodup_cons.mp hnodup).1
    have hfind := hitems existing List.mem_cons_self
    have hrest : ∀ other ∈ rest, state.find other.key = some other :=
      fun other hmem => hitems other (List.mem_cons_of_mem _ hmem)
    cases hreplaced : isReplaced lacks existing with
    | false =>
      rw [adoptOperands_cons_of_kept rest hreplaced] at hrun
      obtain ⟨hadopted, hframe⟩ := ih hkeyed hversioned hrest
        (List.nodup_cons.mp hnodup).2 hrun
      have hslot : Adopted target lacks existing
          (after.find existing.key) := by
        rw [Adopted, if_neg (by simp [hreplaced]), hframe _ hfresh, hfind]
      refine ⟨List.forall_mem_cons.mpr ⟨hslot, hadopted⟩,
        fun key hkey => hframe key ?_⟩
      exact fun hmem => hkey (List.mem_cons_of_mem _ hmem)
    | true =>
      rw [adoptOperands_cons_of_replaced rest hreplaced] at hrun
      have hreply : answers.handler
          (.update (updateOperand existing target)) state =
        state.settle none
          (state.acceptUpdate (updateOperand existing target)) :=
        congrFun (congrFun hother _) _
      simp only [call, request_bind, run_request, done_bind, hreply] at hrun
      cases haccepted : state.acceptUpdate (updateOperand existing target) with
      | error error => simp [haccepted, ControllerState.settle] at hrun
      | ok next =>
        obtain ⟨written, hkey, rfl, hslot⟩ := adopted_of_update
          hversioned hfind hplain hreplaced haccepted
        have hsame : ∀ key, key ≠ existing.key →
            (state.store written).find key = state.find key :=
          fun key hne => ControllerState.find_store_of_ne (hkey.symm ▸ hne)
        simp only [haccepted, ControllerState.settle] at hrun
        have hrest' : ∀ other ∈ rest,
            (state.store written).find other.key = some other := by
          intro other hmem
          rw [hsame other.key ?_, hrest other hmem]
          intro hequal
          exact hfresh (hequal ▸ List.mem_map_of_mem hmem)
        obtain ⟨hadopted, hframe⟩ := ih
          ((ControllerState.evolves_store state written).keyed hkeyed)
          (hversioned.store hkeyed written) hrest'
          (List.nodup_cons.mp hnodup).2 hrun
        refine ⟨List.forall_mem_cons.mpr ⟨?_, hadopted⟩,
          fun key hnot => ?_⟩
        · rwa [hframe _ hfresh]
        · obtain ⟨hne, hnot⟩ :=
            List.ne_and_not_mem_of_not_mem_cons hnot
          exact (hframe key hnot).trans (hsame key hne)

end Adopting

/-! ## Quiet starts -/

section Quiet

variable {S : Type} {answers : InitializerAnswers S} {state : S}
  {target : CustomResource} {lacks : Bool} {items : List CustomResource}

theorem adoptOperands_eq_done
    (hkept : ∀ existing ∈ items, isReplaced lacks existing = false) :
    adoptOperands target lacks items = .done (.ok ()) := by
  induction items with
  | nil => rfl
  | cons existing rest ih =>
    rw [adoptOperands_cons_of_kept rest (hkept existing List.mem_cons_self)]
    exact ih fun other hmem => hkept other (List.mem_cons_of_mem _ hmem)

theorem exists_issues_adoptOperands {existing : CustomResource}
    (hexisting : existing ∈ items)
    (hreplaced : isReplaced lacks existing = true) :
    ∃ written, (adoptOperands target lacks items).Issues answers.handler state
      (.update written) := by
  induction items with
  | nil => cases hexisting
  | cons first rest ih =>
    cases hfirst : isReplaced lacks first with
    | true =>
      rw [adoptOperands_cons_of_replaced rest hfirst]
      exact ⟨_, (issues_request _ _ _ _ _).mpr (.inl rfl)⟩
    | false =>
      rw [adoptOperands_cons_of_kept rest hfirst]
      refine ih (List.mem_of_ne_of_mem ?_ hexisting)
      rintro rfl
      simp [hfirst] at hreplaced

end Quiet

section Restart

variable {ns : String} {configMap : Except ApiError Unit}
  {infrastructure : Except ApiError (Option String)} {order : List ObjectKey}
  {state after : ControllerState} {lacks : Bool} {slot : Option CustomResource}

theorem startsQuietly_of_configMap (hns : ns ≠ "") :
    StartsQuietly (restartAnswers ns (.ok ()) infrastructure order) state := by
  have hreply : (restartAnswers ns (.ok ()) infrastructure order).handler
      .operatorNamespace state = (ns, state) := rfl
  have hread (key : ObjectKey) : (restartAnswers ns (.ok ()) infrastructure
      order).handler (.getConfigMap key) state = (.ok (), state) := rfl
  constructor
  · rw [initializeOperand, bind_eq_bind, call, request_bind,
      run_request, hreply]
    simp only [done_bind, if_neg hns]
    simp only [noInitConfigmapExists, call, bind_eq_bind,
      request_bind, done_bind, run_request, hread,
      if_true, pure_eq_done, run_done]
    exact ⟨_, rfl⟩
  · intro op hop
    have hfirst : ∀ first : ControllerCall, ¬ first.WritesOperand →
        first ≠ op := by
      rintro first hreads rfl
      exact hreads hop
    rw [initializeOperand, bind_eq_bind, call, request_bind,
      issues_request, or_iff_right (hfirst _ id), hreply]
    simp only [done_bind, if_neg hns]
    simp only [noInitConfigmapExists, call, bind_eq_bind,
      request_bind, done_bind, issues_request, hread, if_true, pure_eq_done]
    rw [or_iff_right (hfirst _ id), or_iff_right (hfirst _ id)]
    exact not_issues_done _ _ _ _

theorem run_restart_eq_ok (hns : ns ≠ "") (hknown : infrastructure ≠ .ok none) :
    initializeOperand.run
        (restartAnswers ns (.error .notFound) infrastructure order).handler
        state = (.ok (.ok ()), after) ↔
      (settleOperands ns infrastructure (order.filterMap state.find)).run
        (restartAnswers ns (.error .notFound) infrastructure order).handler
        { state with noInit := false } = (.ok (.ok ()), after) := by
  rw [run_initializeOperand_eq_ok hns rfl]
  exact Eq.congr_left (run_provideOperand hknown)

theorem startsQuietly_iff (hns : ns ≠ "") (hknown : infrastructure ≠ .ok none) :
    StartsQuietly (restartAnswers ns (.error .notFound) infrastructure order)
        state ↔
      order.filterMap state.find ≠ [] ∧
        ∀ existing ∈ order.filterMap state.find,
          isReplaced (firstLacksStorage infrastructure
            (order.filterMap state.find)) existing = false := by
  let answers := restartAnswers ns (.error .notFound) infrastructure order
  let ready : ControllerState := { state with noInit := false }
  have hissues {op : ControllerCall} (hop : op.WritesOperand) :
      initializeOperand.Issues answers.handler state op ↔
        (settleOperands ns infrastructure
          (order.filterMap state.find)).Issues answers.handler ready op :=
    (issues_initializeOperand_iff hns rfl hop).trans
      (issues_provideOperand_iff hknown hop)
  cases hitems : order.filterMap state.find with
  | nil =>
    rw [hitems] at hissues
    refine iff_of_false (fun hquiet => ?_) fun hnone => hnone.1 rfl
    have hop : (ControllerCall.create
      (defaultOperand ns infrastructure)).WritesOperand := trivial
    refine hquiet.silent _ hop ((hissues hop).mpr ?_)
    exact (issues_request _ _ _ _ _).mpr (.inl rfl)
  | cons first rest =>
    rw [hitems] at hissues
    constructor
    · refine fun hquiet => ⟨List.cons_ne_nil _ _, fun existing hmem => ?_⟩
      by_contra hreplaced
      obtain ⟨written, hwritten⟩ := exists_issues_adoptOperands hmem
        (Bool.not_eq_false _ ▸ hreplaced)
      have hop : (ControllerCall.update written).WritesOperand := trivial
      exact hquiet.silent _ hop ((hissues hop).mpr hwritten)
    · rintro ⟨-, hkept⟩
      have hdone : settleOperands ns infrastructure (first :: rest) =
          .done (.ok ()) := adoptOperands_eq_done hkept
      refine ⟨⟨ready, (run_restart_eq_ok hns hknown).mpr ?_⟩,
        fun op hop hwrites => ?_⟩
      · rw [hitems, hdone, run_done]
      · have hnone := (hissues hop).mp hwrites
        rw [hdone] at hnone
        exact not_issues_done _ _ _ _ hnone

theorem surroundings_of_run
    (hrun : initializeOperand.run
      (restartAnswers ns configMap infrastructure order).handler state =
        (.ok (.ok ()), after)) :
    ns ≠ "" ∧ (configMap = .ok () ∨
      configMap = .error .notFound ∧ infrastructure ≠ .ok none) := by
  have hreply : (restartAnswers ns configMap infrastructure order).handler
      .operatorNamespace state = (ns, state) := rfl
  have hread (key : ObjectKey) : (restartAnswers ns configMap infrastructure
      order).handler (.getConfigMap key) state = (configMap, state) := rfl
  have hns : ns ≠ "" := by
    rintro rfl
    rw [initializeOperand, bind_eq_bind, call, request_bind,
      run_request, hreply] at hrun
    simp at hrun
  refine ⟨hns, ?_⟩
  rcases configMap with error | ⟨⟩
  · cases error with
    | notFound =>
      refine .inr ⟨rfl, ?_⟩
      rintro rfl
      have hprovided := (run_initializeOperand_eq_ok hns rfl).mp hrun
      cases hprovided
    | _ =>
      rw [initializeOperand, bind_eq_bind, call,
        request_bind, run_request, hreply] at hrun
      simp [if_neg hns, noInitConfigmapExists, call, hread] at hrun
  · exact .inl rfl

theorem settled_iff_of_managed {items : List CustomResource}
    (hmanaged : ∀ existing ∈ items, existing.isManaged = true) :
    (items ≠ [] ∧ ∀ existing ∈ items,
        isReplaced (firstLacksStorage infrastructure items) existing = false) ↔
      ∃ first ∈ items.head?,
        (first.lacksStorage && isCloud infrastructure) = false := by
  cases items with
  | nil => simp
  | cons first rest =>
    have hlacks : firstLacksStorage infrastructure (first :: rest) =
        (first.lacksStorage && isCloud infrastructure) := by
      simp [firstLacksStorage]
    rw [hlacks]
    constructor
    · rintro ⟨-, hkept⟩
      have hfirst := hkept first List.mem_cons_self
      rw [isReplaced, Bool.or_eq_false_iff] at hfirst
      exact ⟨first, rfl, hfirst.2⟩
    · rintro ⟨head, hhead, hstored⟩
      obtain rfl : first = head := Option.some.inj hhead
      refine ⟨List.cons_ne_nil _ _, fun existing hmem => ?_⟩
      rw [isReplaced, hmanaged existing hmem, hstored]
      rfl

theorem startsQuietly_of_created (hns : ns ≠ "")
    (hknown : infrastructure ≠ .ok none)
    (hempty : order.filterMap state.find = [])
    (hdefault : (defaultOperand ns infrastructure).key ∈ order)
    (hrun : initializeOperand.run
      (restartAnswers ns (.error .notFound) infrastructure order).handler
      state = (.ok (.ok ()), after)) :
    StartsQuietly (restartAnswers ns (.error .notFound) infrastructure order)
      after := by
  let target := defaultOperand ns infrastructure
  let ready : ControllerState := { state with noInit := false }
  have hcreated : ready.settle none (ready.acceptCreate target) =
      (.ok (), after) := by
    have hsettled := (run_restart_eq_ok hns hknown).mp hrun
    rw [hempty] at hsettled
    have hreply := Prod.mk.inj hsettled
    exact Prod.ext (Except.ok.inj hreply.1) hreply.2
  obtain ⟨-, rfl⟩ : ready.find target.key = none ∧
      after = ready.store { target with deletionTimestamp := none } := by
    cases haccepted : ready.acceptCreate target with
    | error error => simp [haccepted, ControllerState.settle] at hcreated
    | ok next =>
      rw [haccepted] at hcreated
      obtain rfl : next = after := congrArg Prod.snd hcreated
      exact ControllerState.acceptCreate_eq_ok haccepted
  have hfound : (ready.store { target with deletionTimestamp := none }).find
      target.key = some { target with
        deletionTimestamp := none, resourceVersion := ready.revision + 1 } :=
    find_store_of_none rfl
  have hlisted : ∀ existing ∈ order.filterMap
      (ready.store { target with deletionTimestamp := none }).find,
      existing.isManaged = true ∧
        (existing.lacksStorage && isCloud infrastructure) = false := by
    intro existing hmem
    obtain ⟨key, hkey, hfind⟩ := List.mem_filterMap.mp hmem
    rcases ControllerState.find_store_eq_some hfind with hbefore | ⟨-, rfl⟩
    · have hnone : ready.find key = none :=
        List.filterMap_eq_nil_iff.mp hempty key hkey
      cases hnone.symm.trans hbefore
    · refine ⟨@isManaged_defaultOperand ns infrastructure, ?_⟩
      change (target.lacksStorage && isCloud infrastructure) = false
      rw [lacksStorage_defaultOperand, Bool.not_and_self]
  rw [startsQuietly_iff hns hknown,
    settled_iff_of_managed fun existing hmem => (hlisted existing hmem).1]
  have hmem := List.mem_filterMap.mpr ⟨target.key, hdefault, hfound⟩
  obtain ⟨first, rest, hlist⟩ := List.exists_cons_of_ne_nil
    (List.ne_nil_of_mem hmem)
  rw [hlist] at hlisted ⊢
  exact ⟨first, rfl, (hlisted first List.mem_cons_self).2⟩

theorem forall₂_filterMap {κ α β : Type} {order : List κ}
    {before : κ → Option α} {after : κ → Option β} {keep : α → Bool}
    {R : α → β → Prop}
    (hnone : ∀ key ∈ order, before key = none → after key = none)
    (hgone : ∀ key ∈ order, ∀ old, before key = some old →
      keep old = false → after key = none)
    (hkept : ∀ key ∈ order, ∀ old, before key = some old →
      keep old = true → ∃ new, after key = some new ∧ R old new) :
    List.Forall₂ R ((order.filterMap before).filter keep)
      (order.filterMap after) := by
  induction order with
  | nil => exact .nil
  | cons key rest ih =>
    have hrest := ih
      (fun other hmem => hnone other (List.mem_cons_of_mem _ hmem))
      (fun other hmem => hgone other (List.mem_cons_of_mem _ hmem))
      (fun other hmem => hkept other (List.mem_cons_of_mem _ hmem))
    cases hbefore : before key with
    | none =>
      rw [List.filterMap_cons_none hbefore,
        List.filterMap_cons_none (hnone key List.mem_cons_self hbefore)]
      exact hrest
    | some old =>
      rw [List.filterMap_cons_some hbefore]
      cases hkeep : keep old with
      | false =>
        rw [List.filter_cons_of_neg (by simp [hkeep]),
          List.filterMap_cons_none
            (hgone key List.mem_cons_self old hbefore hkeep)]
        exact hrest
      | true =>
        obtain ⟨new, hafter, hrelated⟩ :=
          hkept key List.mem_cons_self old hbefore hkeep
        rw [List.filter_cons_of_pos hkeep,
          List.filterMap_cons_some hafter]
        exact .cons hrelated hrest

structure FoundAgain (infrastructure : Except ApiError (Option String))
    (lacks : Bool) (old new : CustomResource) : Prop where
  managed : new.isManaged = true
  storage : (new.lacksStorage && isCloud infrastructure) = false ↔
    isReplaced lacks old = true ∨ isCloud infrastructure = false ∨
      old.lacksStorage = false

theorem Adopted.foundAgain {old : CustomResource}
    (hadopted : Adopted (defaultOperand ns infrastructure) lacks old slot)
    (hsurvives : survives lacks old = true) :
    ∃ new, slot = some new ∧ FoundAgain infrastructure lacks old new := by
  unfold Adopted at hadopted
  cases hreplaced : isReplaced lacks old with
  | false =>
    rw [if_neg (by simp [hreplaced])] at hadopted
    refine ⟨old, hadopted, ?_, ?_⟩
    · rw [isReplaced, Bool.or_eq_false_iff] at hreplaced
      simpa using hreplaced.1
    · rw [hreplaced, Bool.and_eq_false_iff]
      simp [or_comm]
  | true =>
    rw [survives, hreplaced, Bool.true_and, Bool.not_eq_true'] at hsurvives
    rw [if_pos hreplaced, if_neg (by simp [hsurvives])] at hadopted
    obtain ⟨new, hslot, hmanaged, hstorage⟩ := hadopted
    refine ⟨new, hslot, hmanaged.trans isManaged_defaultOperand, ?_⟩
    rw [hstorage, lacksStorage_defaultOperand, Bool.not_and_self, hreplaced]
    simp

theorem Adopted.eq_none {target old : CustomResource}
    (hadopted : Adopted target lacks old slot)
    (hgone : survives lacks old = false) : slot = none := by
  have hboth : isReplaced lacks old = true ∧
      old.deletionTimestamp.isSome = true := by
    simpa [survives] using hgone
  rwa [Adopted, if_pos hboth.1, if_pos hboth.2] at hadopted

theorem FoundAgain.forall_managed {remaining listed : List CustomResource}
    (hfound : List.Forall₂ (FoundAgain infrastructure lacks) remaining
      listed) : ∀ new ∈ listed, new.isManaged = true := by
  induction hfound with
  | nil => simp
  | cons hfirst _ ih => exact List.forall_mem_cons.mpr ⟨hfirst.managed, ih⟩

theorem forall₂_foundAgain (hkeyed : state.Keyed)
    (hversioned : state.Versioned) (hnodup : order.Nodup)
    (hns : ns ≠ "") (hknown : infrastructure ≠ .ok none)
    (hsome : order.filterMap state.find ≠ [])
    (hrun : initializeOperand.run
      (restartAnswers ns (.error .notFound) infrastructure order).handler
      state = (.ok (.ok ()), after)) :
    List.Forall₂ (FoundAgain infrastructure
        (firstLacksStorage infrastructure (order.filterMap state.find)))
      ((order.filterMap state.find).filter (survives
        (firstLacksStorage infrastructure (order.filterMap state.find))))
      (order.filterMap after.find) := by
  have hsettled := (run_restart_eq_ok hns hknown).mp hrun
  have hitems : ∀ existing ∈ order.filterMap state.find,
      state.find existing.key = some existing := by
    intro existing hmem
    obtain ⟨key, -, hfind⟩ := List.mem_filterMap.mp hmem
    rw [(hkeyed key existing hfind).1, hfind]
  have hdistinct :
      ((order.filterMap state.find).map CustomResource.key).Nodup := by
    rw [List.map_filterMap]
    refine hnodup.filterMap fun key other shared hkey hother => ?_
    obtain ⟨obs, hobs, rfl⟩ := Option.map_eq_some_iff.mp hkey
    obtain ⟨found, hfound, hsame⟩ := Option.map_eq_some_iff.mp hother
    rw [← (hkeyed key obs hobs).1, ← hsame, (hkeyed other found hfound).1]
  obtain ⟨hadopted, hframe⟩ : (∀ existing ∈ order.filterMap state.find,
      Adopted (defaultOperand ns infrastructure) (firstLacksStorage
        infrastructure (order.filterMap state.find)) existing
          (after.find existing.key)) ∧
      ∀ key ∉ (order.filterMap state.find).map CustomResource.key,
        after.find key = state.find key := by
    obtain ⟨first, rest, hlist⟩ := List.exists_cons_of_ne_nil hsome
    rw [hlist] at hsettled hitems hdistinct ⊢
    let ready : ControllerState := { state with noInit := false }
    have hready : ready.Keyed ∧ ready.Versioned := ⟨hkeyed, hversioned⟩
    have hstored : ∀ existing ∈ first :: rest,
        ready.find existing.key = some existing := hitems
    have hslots := adopted_of_run rfl finalizers_defaultOperand hready.1
      hready.2 hstored hdistinct hsettled
    exact hslots
  have hslot : ∀ key ∈ order, ∀ old, state.find key = some old →
      Adopted (defaultOperand ns infrastructure) (firstLacksStorage
        infrastructure (order.filterMap state.find)) old (after.find key) := by
    intro key hmem old hfind
    rw [← (hkeyed key old hfind).1]
    exact hadopted old (List.mem_filterMap.mpr ⟨key, hmem, hfind⟩)
  refine forall₂_filterMap (fun key _ hnone => ?_)
    (fun key hmem old hfind hgone => (hslot key hmem old hfind).eq_none hgone)
    (fun key hmem old hfind hkeep =>
      (hslot key hmem old hfind).foundAgain hkeep)
  rw [hframe key, hnone]
  intro hmem
  obtain ⟨existing, hexisting, rfl⟩ := List.mem_map.mp hmem
  rw [hitems existing hexisting] at hnone
  cases hnone

end Restart

theorem leavesSettled_of_not_deleted
    {infrastructure : Except ApiError (Option String)}
    {items : List CustomResource} (hsome : items ≠ [])
    (hnone : ∀ existing ∈ items, existing.deletionTimestamp = none) :
    LeavesSettled infrastructure items := by
  have hall : items.filter
      (survives (firstLacksStorage infrastructure items)) = items := by
    refine List.filter_eq_self.mpr fun existing hmem => ?_
    simp [survives, hnone existing hmem]
  obtain ⟨first, rest, rfl⟩ := List.exists_cons_of_ne_nil hsome
  rw [LeavesSettled, hall]
  refine ⟨first, rfl, ?_⟩
  cases hcloud : isCloud infrastructure with
  | false => exact .inr (.inl rfl)
  | true =>
    cases hlacks : first.lacksStorage with
    | false => exact .inr (.inr rfl)
    | true => simp [isReplaced, firstLacksStorage, hcloud, hlacks]

/-- After a start without an error the next one writes nothing exactly if the
ConfigMap stops both, there was no operand before the first one, or the first
operand that is left has been replaced or lacks no storage. -/
theorem restart_quiet_iff {ns : String} {configMap : Except ApiError Unit}
    {infrastructure : Except ApiError (Option String)}
    {order : List ObjectKey} {state after : ControllerState}
    (hkeyed : state.Keyed) (hversioned : state.Versioned) (hnodup : order.Nodup)
    (hdefault : (defaultOperand ns infrastructure).key ∈ order)
    (hrun : initializeOperand.run
      (restartAnswers ns configMap infrastructure order).handler state =
        (.ok (.ok ()), after)) :
    StartsQuietly (restartAnswers ns configMap infrastructure order) after ↔
      configMap = .ok () ∨ order.filterMap state.find = [] ∨
        LeavesSettled infrastructure (order.filterMap state.find) := by
  obtain ⟨hns, rfl | ⟨rfl, hknown⟩⟩ := surroundings_of_run hrun
  · exact iff_of_true (startsQuietly_of_configMap hns) (.inl rfl)
  rw [or_iff_right (by simp)]
  by_cases hempty : order.filterMap state.find = []
  · exact iff_of_true
      (startsQuietly_of_created hns hknown hempty hdefault hrun) (.inl hempty)
  rw [or_iff_right hempty, startsQuietly_iff hns hknown, LeavesSettled]
  have hfound := forall₂_foundAgain hkeyed hversioned hnodup hns hknown hempty
    hrun
  rw [settled_iff_of_managed (FoundAgain.forall_managed hfound)]
  revert hfound
  generalize (order.filterMap state.find).filter _ = remaining
  generalize order.filterMap after.find = listed
  rintro (- | ⟨hfirst, -⟩)
  · simp
  · simpa using hfirst.storage

def foreignOperand (deletionTimestamp : Option Int) : CustomResource where
  body := { name := "stack", ns := "managed" }
  finalizers := [observabilityFinalizer]
  deletionTimestamp := deletionTimestamp

def foreignState (deletionTimestamp : Option Int) : ControllerState where
  stored := AList.singleton (foreignOperand deletionTimestamp).key
    (foreignOperand deletionTimestamp)

def stackOrder : List ObjectKey :=
  [⟨"managed", "stack"⟩, ⟨"managed", "observability-stack"⟩]

theorem versioned_of_singleton {state : ControllerState} {key : ObjectKey}
    {obs : CustomResource} (hstored : state.stored = AList.singleton key obs) :
    state.Versioned := by
  have hfind : ∀ other found, state.find other = some found → other = key := by
    intro other found hother
    by_contra hne
    rw [ControllerState.find, hstored, ← AList.insert_empty,
      AList.lookup_insert_ne hne] at hother
    cases hother
  intro first second _ _ hfirst hsecond _
  rw [hfind second _ hsecond, hfind first _ hfirst]

theorem restart_quiet_foreign :
    ∃ after, initializeOperand.run (restartAnswers "managed"
        (.error .notFound) (.ok (some "AWS")) stackOrder).handler
        (foreignState none) = (.ok (.ok ()), after) ∧
      StartsQuietly (restartAnswers "managed" (.error .notFound)
        (.ok (some "AWS")) stackOrder) after := by
  have hkeyed : (foreignState none).Keyed :=
    keyed_of_singleton rfl (Nat.le_refl _)
  have hversioned : (foreignState none).Versioned :=
    versioned_of_singleton rfl
  refine ⟨_, rfl, (restart_quiet_iff hkeyed hversioned (by decide) (by decide)
    rfl).mpr ?_⟩
  exact .inr (.inr (leavesSettled_of_not_deleted (by decide) (by decide)))

/-- The operand is gone after the first start, and the second one creates
another. -/
theorem deletedOperand_not_quiet :
    ∃ after, initializeOperand.run (restartAnswers "managed"
        (.error .notFound) (.ok (some "AWS")) stackOrder).handler
        (foreignState (some 1)) = (.ok (.ok ()), after) ∧
      ¬ StartsQuietly (restartAnswers "managed" (.error .notFound)
        (.ok (some "AWS")) stackOrder) after := by
  refine ⟨_, rfl, fun hquiet => ?_⟩
  exact ((startsQuietly_iff (by decide) (by simp)).mp hquiet).1 rfl

end ObservabilityOperator
