import ObservabilityOperator.ResourceFrame

/-!
# Operands at the start of the operator

Without the ConfigMap that stops it, the initializer replaces the operands that
it finds and that are not labelled as its own or, on a cloud, have no storage
or no retention.  If there is no operand at all it creates one.
-/

namespace ObservabilityOperator

open Program

/-! ## The initializer and the replies to its calls -/

structure InitializerAnswers (S : Type) where
  ns : String
  configMap : Except ApiError Unit
  infrastructure : Except ApiError (Option String)
  list : S → List CustomResource
  others : Handler ControllerCall.Reply S

def InitializerAnswers.handler {S : Type} (answers : InitializerAnswers S) :
    Handler ControllerCall.Reply S
  | .operatorNamespace, state => (answers.ns, state)
  | .getConfigMap _, state => (answers.configMap, state)
  | .getInfrastructure, state => (answers.infrastructure, state)
  | .listInstances, state => (.ok (answers.list state), state)
  | op, state => answers.others op state

def isCloud : Except ApiError (Option String) → Bool
  | .ok (some platform) => decide (platform ≠ "Libvirt" ∧ platform ≠ "None")
  | _ => false

def defaultOperand (ns : String)
    (infrastructure : Except ApiError (Option String)) : CustomResource :=
  if isCloud infrastructure then observabilityInstanceWithStorage ns
  else observabilityInstanceWithoutStorage ns

namespace CustomResource

def isManaged (obs : CustomResource) : Bool :=
  obs.body.labels.get "managed-by" = "observability-operator"

def lacksStorage (obs : CustomResource) : Bool :=
  obs.body.spec.storage.isNone || obs.body.spec.retention = ""

end CustomResource

def firstLacksStorage (infrastructure : Except ApiError (Option String))
    (items : List CustomResource) : Bool :=
  (items.head?.any CustomResource.lacksStorage) && isCloud infrastructure

section Calls

variable {S : Type} {answers : InitializerAnswers S} {state : S}
  {op : ControllerCall}

theorem run_runsOnCloud (hknown : answers.infrastructure ≠ .ok none) :
    runsOnCloud.run answers.handler state =
      (.ok (isCloud answers.infrastructure), state) := by
  rcases hreply : answers.infrastructure with error | platform
  · simp [runsOnCloud, call, InitializerAnswers.handler, hreply, isCloud]
  · cases platform with
    | none => exact absurd hreply hknown
    | some platform =>
      simp [runsOnCloud, call, InitializerAnswers.handler, hreply, isCloud]

def settleOperands (ns : String)
    (infrastructure : Except ApiError (Option String))
    (items : List CustomResource) : Controller (Except ApiError Unit) :=
  match items with
  | [] => call (.create (defaultOperand ns infrastructure))
  | first :: rest => adoptOperands (defaultOperand ns infrastructure)
      (firstLacksStorage infrastructure (first :: rest)) (first :: rest)

/-- The call creates or updates an operand. -/
def ControllerCall.WritesOperand : ControllerCall → Prop
  | .update _ => True
  | .create _ => True
  | _ => False

theorem not_issues_runsOnCloud (hop : op.WritesOperand) :
    ¬ runsOnCloud.Issues answers.handler state op := by
  unfold runsOnCloud call
  simp only [bind_eq_bind, request_bind, done_bind, issues_request]
  rintro (rfl | hrest)
  · exact hop
  · split at hrest <;> obtain ⟨event, hevent, -⟩ := hrest <;> cases hevent

theorem handler_listInstances :
    answers.handler .listInstances state = (.ok (answers.list state), state) :=
  rfl

theorem run_provideOperand (hknown : answers.infrastructure ≠ .ok none) :
    (provideOperand answers.ns).run answers.handler state =
      (settleOperands answers.ns answers.infrastructure
        (answers.list state)).run answers.handler state := by
  rw [provideOperand, bind_eq_bind, run_bind_ok (run_runsOnCloud hknown)]
  simp only [bind_eq_bind, call, request_bind, done_bind, run_request]
  rw [handler_listInstances]
  cases answers.list state with
  | nil => rfl
  | cons first rest => rfl

theorem issues_provideOperand_iff (hknown : answers.infrastructure ≠ .ok none)
    (hop : op.WritesOperand) :
    (provideOperand answers.ns).Issues answers.handler state op ↔
      (settleOperands answers.ns answers.infrastructure
        (answers.list state)).Issues answers.handler state op := by
  rw [provideOperand, bind_eq_bind, issues_bind_of_ok (run_runsOnCloud hknown),
    or_iff_right (not_issues_runsOnCloud hop)]
  simp only [bind_eq_bind, call, request_bind, done_bind, issues_request]
  have hlist : .listInstances ≠ op := by
    rintro rfl
    exact hop
  rw [or_iff_right hlist]
  rw [handler_listInstances]
  cases answers.list state with
  | nil => rfl
  | cons first rest => rfl

theorem issues_initializeOperand_iff (hns : answers.ns ≠ "")
    (habsent : answers.configMap = .error .notFound) (hop : op.WritesOperand) :
    initializeOperand.Issues answers.handler state op ↔
      (provideOperand answers.ns).Issues answers.handler
        (answers.others (.assignNoInit false) state).2 op := by
  have hfirst : ∀ first : ControllerCall, ¬ first.WritesOperand →
      first ≠ op := by
    rintro first hreads rfl
    exact hreads hop
  have hreply : answers.handler .operatorNamespace state =
      (answers.ns, state) := rfl
  have hread (key : ObjectKey) : answers.handler (.getConfigMap key) state =
      (.error .notFound, state) := congrArg (·, state) habsent
  rw [initializeOperand, bind_eq_bind, call, request_bind,
    issues_request, or_iff_right (hfirst _ id), hreply]
  simp only [done_bind, if_neg hns]
  simp only [noInitConfigmapExists, call, bind_eq_bind,
    request_bind, done_bind, issues_request, hread,
    Bool.false_eq_true, if_false, pure_eq_done]
  rw [or_iff_right (hfirst _ id), or_iff_right (hfirst _ id)]
  refine ⟨fun hissues => ?_, Program.Issues.bind⟩
  rcases hissues.of_bind with hprovided | ⟨result, after, -, hrest⟩
  · exact hprovided
  · split at hrest <;> exact absurd hrest (not_issues_done _ _ _ _)

theorem run_initializeOperand_eq_ok (hns : answers.ns ≠ "")
    (habsent : answers.configMap = .error .notFound) {after : S} :
    initializeOperand.run answers.handler state = (.ok (.ok ()), after) ↔
      (provideOperand answers.ns).run answers.handler
        (answers.others (.assignNoInit false) state).2 =
          (.ok (.ok ()), after) := by
  have hreply : answers.handler .operatorNamespace state =
      (answers.ns, state) := rfl
  have hread (key : ObjectKey) : answers.handler (.getConfigMap key) state =
      (.error .notFound, state) := congrArg (·, state) habsent
  have hassign : answers.handler (.assignNoInit false) state =
      answers.others (.assignNoInit false) state := rfl
  rw [initializeOperand, bind_eq_bind, call, request_bind, run_request, hreply]
  simp only [done_bind, if_neg hns]
  simp only [noInitConfigmapExists, call, bind_eq_bind,
    request_bind, done_bind, run_request, hread,
    Bool.false_eq_true, if_false, pure_eq_done, run_bind]
  rw [hassign]
  rcases Program.run answers.handler (provideOperand answers.ns)
    (answers.others (.assignNoInit false) state).2 with ⟨result, last⟩
  rcases result with panic | error | ⟨⟩ <;> simp

end Calls

section Adopting

variable {S : Type} {answers : InitializerAnswers S} {state : S}
  {target existing : CustomResource} {lacks : Bool}
  {items : List CustomResource}

def isReplaced (lacks : Bool) (existing : CustomResource) : Bool :=
  !existing.isManaged || lacks

theorem isReplaced_iff : isReplaced lacks existing = true ↔
    existing.body.labels.get "managed-by" ≠ "observability-operator" ∨
      lacks = true := by
  simp [isReplaced, CustomResource.isManaged]

theorem adoptOperands_cons_of_replaced (rest : List CustomResource)
    (hreplaced : isReplaced lacks existing = true) :
    adoptOperands target lacks (existing :: rest) =
      (call (.update (updateOperand existing target))).bind fun reply =>
        match reply with
        | .error error => .done (.error error)
        | .ok () => adoptOperands target lacks rest := by
  rw [adoptOperands, if_pos (isReplaced_iff.mp hreplaced)]
  rfl

theorem adoptOperands_cons_of_kept (rest : List CustomResource)
    (hkept : isReplaced lacks existing = false) :
    adoptOperands target lacks (existing :: rest) =
      adoptOperands target lacks rest := by
  have hnone := (not_congr isReplaced_iff).mp (Bool.eq_false_iff.mp hkept)
  rw [adoptOperands, if_neg hnone]

end Adopting

/-! ## Given operands -/

def givenOperands (ns : String)
    (infrastructure : Except ApiError (Option String))
    (items : List CustomResource) : InitializerAnswers Unit where
  ns := ns
  configMap := .error .notFound
  infrastructure := infrastructure
  list _ := items
  others
    | .update _, _ => (.ok (), ())
    | .create _, _ => (.ok (), ())
    | op, _ => ((Choice.answer {} op { stored := ∅ }).1, ())

/-- The operand is not labelled, or lacks storage in a cloud. -/
def NeedsReplacement (infrastructure : Except ApiError (Option String))
    (existing : CustomResource) : Prop :=
  existing.isManaged = false ∨
    (isCloud infrastructure = true ∧ existing.lacksStorage = true)

instance (infrastructure : Except ApiError (Option String))
    (existing : CustomResource) :
    Decidable (NeedsReplacement infrastructure existing) :=
  inferInstanceAs (Decidable (_ ∨ _))

def inPlaceOf (existing target : CustomResource) : CustomResource :=
  { target with
    body :=
      { target.body with
        name := existing.body.name
        ns := existing.body.ns }
    resourceVersion := existing.resourceVersion }

/-- The operands that need it are replaced, each in its place, and one is
created if there is none. -/
structure OverwritesExactly (ns : String)
    (infrastructure : Except ApiError (Option String))
    (items : List CustomResource) : Prop where
  replaced : ∀ existing ∈ items,
    (∃ written, initializeOperand.Issues
        (givenOperands ns infrastructure items).handler () (.update written) ∧
      written.resourceVersion = existing.resourceVersion) ↔
      NeedsReplacement infrastructure existing
  kept : ∀ written, initializeOperand.Issues
      (givenOperands ns infrastructure items).handler () (.update written) →
    ∃ existing ∈ items,
      written = inPlaceOf existing (defaultOperand ns infrastructure)
  created : ∀ written, initializeOperand.Issues
      (givenOperands ns infrastructure items).handler () (.create written) ↔
    items = [] ∧ written = defaultOperand ns infrastructure

section Given

variable {ns : String} {infrastructure : Except ApiError (Option String)}
  {items all : List CustomResource} {target : CustomResource} {lacks : Bool}
  {written : CustomResource}

theorem issues_adoptOperands_update_iff :
    (adoptOperands target lacks items).Issues
        (givenOperands ns infrastructure all).handler () (.update written) ↔
      ∃ existing ∈ items, isReplaced lacks existing = true ∧
        written = updateOperand existing target := by
  induction items with
  | nil => simp [adoptOperands]
  | cons existing rest ih =>
    cases hreplaced : isReplaced lacks existing with
    | false =>
      rw [adoptOperands_cons_of_kept rest hreplaced, ih]
      simp [hreplaced]
    | true =>
      rw [adoptOperands_cons_of_replaced rest hreplaced]
      refine (issues_request _ _ _ _ _).trans ?_
      rw [List.exists_mem_cons_iff, ControllerCall.update.injEq]
      refine or_congr ⟨fun hfirst => ⟨hreplaced, hfirst.symm⟩,
        fun hfirst => hfirst.2.symm⟩ ih

theorem not_issues_adoptOperands_create :
    ¬ (adoptOperands target lacks items).Issues
      (givenOperands ns infrastructure all).handler () (.create written) := by
  induction items with
  | nil => simp [adoptOperands]
  | cons existing rest ih =>
    cases hreplaced : isReplaced lacks existing with
    | false =>
      rw [adoptOperands_cons_of_kept rest hreplaced]
      exact ih
    | true =>
      rw [adoptOperands_cons_of_replaced rest hreplaced]
      intro hissues
      rcases (issues_request _ _ _ _ _).mp hissues with
        hfirst | hrest
      · cases hfirst
      · exact ih hrest

theorem issues_givenOperands_iff (hns : ns ≠ "")
    (hknown : infrastructure ≠ .ok none) {op : ControllerCall}
    (hop : op.WritesOperand) :
    initializeOperand.Issues (givenOperands ns infrastructure items).handler
        () op ↔
      (settleOperands ns infrastructure items).Issues
        (givenOperands ns infrastructure items).handler () op :=
  (issues_initializeOperand_iff hns rfl hop).trans
    (issues_provideOperand_iff hknown hop)

theorem issues_update_iff (hns : ns ≠ "") (hknown : infrastructure ≠ .ok none) :
    initializeOperand.Issues (givenOperands ns infrastructure items).handler
        () (.update written) ↔
      ∃ existing ∈ items, isReplaced (firstLacksStorage infrastructure items)
          existing = true ∧
        written = updateOperand existing
          (defaultOperand ns infrastructure) := by
  have hop : (ControllerCall.update written).WritesOperand := trivial
  rw [issues_givenOperands_iff hns hknown hop]
  cases items with
  | nil => simp [settleOperands, call, issues_request]
  | cons first rest => exact issues_adoptOperands_update_iff

theorem issues_create_iff (hns : ns ≠ "") (hknown : infrastructure ≠ .ok none) :
    initializeOperand.Issues (givenOperands ns infrastructure items).handler
        () (.create written) ↔
      items = [] ∧ written = defaultOperand ns infrastructure := by
  have hop : (ControllerCall.create written).WritesOperand := trivial
  rw [issues_givenOperands_iff hns hknown hop]
  cases items with
  | nil => simp [settleOperands, call, issues_request, eq_comm]
  | cons first rest =>
    simpa [settleOperands] using not_issues_adoptOperands_create

theorem not_issues_of_unknown (hns : ns ≠ "") {op : ControllerCall}
    (hop : op.WritesOperand) :
    ¬ initializeOperand.Issues (givenOperands ns (.ok none) items).handler ()
      op := by
  rw [issues_initializeOperand_iff hns rfl hop]
  intro hissues
  rcases hissues.of_bind with hlooks | ⟨cloud, after, hrun, -⟩
  · exact not_issues_runsOnCloud hop hlooks
  · cases hrun

end Given

/-! ## When exactly these are replaced -/

/-- All operands of the operator are judged as the first one rightly is, and
those to be replaced are in the namespace of the operator. -/
structure JudgedAlike (ns : String)
    (infrastructure : Except ApiError (Option String))
    (items : List CustomResource) : Prop where
  alike : ∀ existing ∈ items, existing.isManaged = true →
    (isCloud infrastructure && existing.lacksStorage) =
      firstLacksStorage infrastructure items
  atHome : ∀ existing ∈ items, NeedsReplacement infrastructure existing →
    existing.body.ns = GoStrings.trimSpace ns

section Judging

variable {ns : String} {infrastructure : Except ApiError (Option String)}
  {items : List CustomResource} {existing : CustomResource}

theorem ns_defaultOperand :
    (defaultOperand ns infrastructure).body.ns = GoStrings.trimSpace ns := by
  unfold defaultOperand
  split <;> rfl

theorem issues_replacement_iff (hns : ns ≠ "")
    (hknown : infrastructure ≠ .ok none)
    (hversions : (items.map (·.resourceVersion)).Nodup)
    (hexisting : existing ∈ items) :
    (∃ written, initializeOperand.Issues
        (givenOperands ns infrastructure items).handler () (.update written) ∧
      written.resourceVersion = existing.resourceVersion) ↔
      isReplaced (firstLacksStorage infrastructure items) existing = true := by
  simp only [issues_update_iff hns hknown]
  constructor
  · rintro ⟨_, ⟨other, hother, hreplaced, rfl⟩, hversion⟩
    have hsame : other = existing :=
      List.inj_on_of_nodup_map hversions hother hexisting hversion
    rwa [hsame] at hreplaced
  · intro hreplaced
    exact ⟨_, ⟨existing, hexisting, hreplaced, rfl⟩, rfl⟩

theorem JudgedAlike.isReplaced_iff
    (hjudged : JudgedAlike ns infrastructure items)
    (hexisting : existing ∈ items) :
    isReplaced (firstLacksStorage infrastructure items) existing = true ↔
      NeedsReplacement infrastructure existing := by
  cases hmanaged : existing.isManaged with
  | false => simp [isReplaced, NeedsReplacement, hmanaged]
  | true =>
    rw [← hjudged.alike existing hexisting hmanaged]
    simp [isReplaced, NeedsReplacement, hmanaged]

theorem OverwritesExactly.judgedAlike (hns : ns ≠ "")
    (hknown : infrastructure ≠ .ok none)
    (hversions : (items.map (·.resourceVersion)).Nodup)
    (hexactly : OverwritesExactly ns infrastructure items) :
    JudgedAlike ns infrastructure items where
  alike existing hexisting hmanaged := by
    have hreplaced := (hexactly.replaced existing hexisting).symm.trans
      (issues_replacement_iff hns hknown hversions hexisting)
    simp only [NeedsReplacement, isReplaced, hmanaged, Bool.true_eq_false,
      false_or, Bool.not_true, Bool.false_or] at hreplaced
    rw [Bool.eq_iff_iff, Bool.and_eq_true]
    exact hreplaced
  atHome existing hexisting hneeds := by
    obtain ⟨written, hissues, hversion⟩ :=
      (hexactly.replaced existing hexisting).mpr hneeds
    obtain ⟨replaced, hreplaced, -, hwritten⟩ :=
      (issues_update_iff hns hknown).mp hissues
    obtain ⟨other, hother, hplace⟩ := hexactly.kept written hissues
    have hsame : other = existing := by
      refine List.inj_on_of_nodup_map hversions hother hexisting ?_
      rw [← hversion, hplace]
      rfl
    have hkey : written.body.ns = existing.body.ns := by
      rw [hplace, hsame]
      rfl
    rw [← hkey, hwritten]
    exact ns_defaultOperand

theorem JudgedAlike.overwritesExactly (hns : ns ≠ "")
    (hknown : infrastructure ≠ .ok none)
    (hversions : (items.map (·.resourceVersion)).Nodup)
    (hjudged : JudgedAlike ns infrastructure items) :
    OverwritesExactly ns infrastructure items where
  replaced existing hexisting :=
    (issues_replacement_iff hns hknown hversions hexisting).trans
      (hjudged.isReplaced_iff hexisting)
  kept written hissues := by
    obtain ⟨existing, hexisting, hreplaced, rfl⟩ :=
      (issues_update_iff hns hknown).mp hissues
    have hhome := hjudged.atHome existing hexisting
      ((hjudged.isReplaced_iff hexisting).mp hreplaced)
    refine ⟨existing, hexisting, ?_⟩
    rw [inPlaceOf, hhome, ← @ns_defaultOperand ns infrastructure]
    rfl
  created _ := issues_create_iff hns hknown

end Judging

/-- The initializer replaces exactly the operands that need it exactly if it
judges them rightly and finds them in its namespace, or, on a platform without
a status, if there are operands and none of them needs it. -/
theorem operands_overwritten_iff {ns : String}
    {infrastructure : Except ApiError (Option String)}
    {items : List CustomResource} (hns : ns ≠ "")
    (hversions : (items.map (·.resourceVersion)).Nodup) :
    OverwritesExactly ns infrastructure items ↔
      (infrastructure ≠ .ok none ∧ JudgedAlike ns infrastructure items) ∨
        (infrastructure = .ok none ∧ items ≠ [] ∧
          ∀ existing ∈ items, existing.isManaged = true) := by
  by_cases hknown : infrastructure = .ok none
  · subst hknown
    have hupdate (written : CustomResource) : ¬ initializeOperand.Issues
        (givenOperands ns (.ok none) items).handler () (.update written) :=
      not_issues_of_unknown hns trivial
    have hcreate (written : CustomResource) : ¬ initializeOperand.Issues
        (givenOperands ns (.ok none) items).handler () (.create written) :=
      not_issues_of_unknown hns trivial
    constructor
    · intro hexactly
      refine .inr ⟨rfl, fun hnil => ?_, fun existing hexisting => ?_⟩
      · exact hcreate _ ((hexactly.created _).mpr ⟨hnil, rfl⟩)
      · by_contra hmanaged
        obtain ⟨written, hissues, -⟩ := (hexactly.replaced existing
          hexisting).mpr (.inl (Bool.eq_false_iff.mpr hmanaged))
        exact hupdate written hissues
    · rintro (⟨hknown, -⟩ | ⟨-, hnonempty, hmanaged⟩)
      · exact absurd rfl hknown
      · refine ⟨fun existing hexisting => iff_of_false ?_ ?_,
          fun written hissues => absurd hissues (hupdate written),
          fun written => iff_of_false (hcreate written)
            fun hcreated => hnonempty hcreated.1⟩
        · rintro ⟨written, hissues, -⟩
          exact hupdate written hissues
        · simp [NeedsReplacement, hmanaged existing hexisting, isCloud]
  · rw [or_iff_left fun hunknown => hknown hunknown.1]
    exact ⟨fun hexactly => ⟨hknown,
        hexactly.judgedAlike hns hknown hversions⟩,
      fun hjudged => hjudged.2.overwritesExactly hns hknown hversions⟩

def cloudOperand (name ns : String) (withStorage : Bool) (version : ℕ) :
    CustomResource :=
  { observabilityInstance withStorage ns with
    body := { (observabilityInstance withStorage ns).body with name := name }
    resourceVersion := version }

def unlabelledOperand : CustomResource :=
  { cloudOperand "second" "managed" false 2 with
    body := { name := "second", ns := "managed" } }

/-- The operand between the other two is not labelled as the operator's own and
is the one that is replaced. -/
theorem operands_overwritten_unlabelled :
    OverwritesExactly "managed" (.ok (some "AWS"))
        [cloudOperand "first" "managed" true 1, unlabelledOperand,
          cloudOperand "third" "managed" true 3] ∧
      [cloudOperand "first" "managed" true 1, unlabelledOperand,
          cloudOperand "third" "managed" true 3].filter
        (NeedsReplacement (.ok (some "AWS"))) = [unlabelledOperand] :=
  ⟨(operands_overwritten_iff (by decide) (by decide)).mpr
    (.inl ⟨by simp, by decide, by decide⟩), by decide⟩

/-- The second operand has no storage and is left alone, because the first one
has some.  An operand of another namespace is written to that of the
operator. -/
theorem secondOperand_not_overwritten :
    ¬ OverwritesExactly "managed" (.ok (some "AWS"))
        [cloudOperand "first" "managed" true 1,
          cloudOperand "second" "managed" false 2] ∧
      ¬ OverwritesExactly "managed" (.ok (some "AWS"))
        [cloudOperand "stack" "other" false 1] := by
  constructor
  · intro hexactly
    have hjudged := hexactly.judgedAlike (by decide) (by simp) (by decide)
    exact absurd (hjudged.alike (cloudOperand "second" "managed" false 2)
      (by decide) (by decide)) (by decide)
  · intro hexactly
    have hjudged := hexactly.judgedAlike (by decide) (by simp) (by decide)
    exact absurd (hjudged.atHome _ List.mem_cons_self (by decide)) (by decide)

end ObservabilityOperator
