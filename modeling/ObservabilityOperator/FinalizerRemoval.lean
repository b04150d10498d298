import ObservabilityOperator.ObservabilityController

/-!
# When the finalizer of a custom resource is removed

A custom resource that is being deleted stays until the operator takes its
finalizer off.  A pass does so after a clean-up all of whose stages have
succeeded.  It also does so at its end, clean-up or not, where it finds the
flag `noInit` unset, and the flag is unset from a start of the operator until
the initializer has looked for its ConfigMap.
-/

namespace ObservabilityOperator

/-! ## What a pass has been told -/

def fetchedCopy : ControllerExchange → Option CustomResource
  | ⟨.get _, .ok obs⟩ => some obs
  | _ => none

def fetched (history : List ControllerExchange) : Option CustomResource :=
  history.head?.bind fetchedCopy

def cleanupResult : ControllerExchange →
    Option (ObservabilityStageName × ObservabilityStageStatus)
  | ⟨.cleanupStage stage _, outcome⟩ => some (stage, outcome.status)
  | _ => none

def cleanupResults (history : List ControllerExchange) :
    List (ObservabilityStageName × ObservabilityStageStatus) :=
  history.filterMap cleanupResult

/-- Every clean-up stage has been called once, in order, and has succeeded. -/
def CleanupSucceeded (history : List ControllerExchange) : Prop :=
  cleanupResults history = getCleanupStages.map fun stage => (stage, .success)

instance (history : List ControllerExchange) :
    Decidable (CleanupSucceeded history) :=
  inferInstanceAs (Decidable (_ = _))

variable {history : List ControllerExchange}

theorem fetched_append {copy : CustomResource}
    (hfetched : fetched history = some copy) (later : List ControllerExchange) :
    fetched (history ++ later) = some copy := by
  cases history with
  | nil => cases hfetched
  | cons first rest => exact hfetched

/-- What may be written to the resource, and after which replies. -/
def PassAllowed (history : List ControllerExchange) : ControllerCall → Prop
  | .update obs => ∃ copy, fetched history = some copy ∧
      obs.key = copy.key ∧ obs.resourceVersion = copy.resourceVersion ∧
      (copy.deletionTimestamp ≠ none →
        CleanupSucceeded history ∨ ⟨.noInit, false⟩ ∈ history)
  | .create _ => False
  | _ => True

/-- The copy in memory is still that of the fetched resource, up to what the
stages change. -/
structure Holds (copy obs : CustomResource)
    (history : List ControllerExchange) : Prop where
  fetched : fetched history = some copy
  key : obs.key = copy.key
  version : obs.resourceVersion = copy.resourceVersion
  deletion : obs.deletionTimestamp = copy.deletionTimestamp

section Justification

variable {copy obs : CustomResource} {history : List ControllerExchange}

theorem Holds.append (hholds : Holds copy obs history)
    (later : List ControllerExchange) : Holds copy obs (history ++ later) :=
  ⟨fetched_append hholds.fetched later, hholds.key, hholds.version,
    hholds.deletion⟩

theorem Holds.after (hholds : Holds copy obs history)
    (outcome : StageOutcome) : Holds copy (obs.after outcome) history :=
  ⟨hholds.fetched, hholds.key, hholds.version, hholds.deletion⟩

theorem runStages_justified (stages done : List ObservabilityStageName)
    (nextStatus : ObservabilityStatus) (hholds : Holds copy obs history)
    (hdone : copy.deletionTimestamp ≠ none →
      cleanupResults history = done.map fun stage => (stage, .success)) :
    (runStages stages obs nextStatus).Justified PassAllowed history
      fun outcome after => Holds copy outcome.obs after ∧
        (copy.deletionTimestamp ≠ none → outcome.finished = true →
          cleanupResults after =
            (done ++ stages).map fun stage => (stage, .success)) := by
  induction stages generalizing obs nextStatus history done with
  | nil =>
    refine ⟨hholds, fun hdeleting _ => ?_⟩
    rw [List.append_nil]
    exact hdone hdeleting
  | cons stage rest ih =>
    have hstage : (runStage stage obs
        { nextStatus with stage := some stage }).Justified PassAllowed
          history fun result after => Holds copy obs after ∧
            (copy.deletionTimestamp ≠ none → cleanupResults after =
              cleanupResults history ++ [(stage, result.1.status)]) := by
      unfold runStage
      split
      next hinstalling =>
        refine ⟨trivial, fun reply => ⟨hholds.append _, fun hdeleting => ?_⟩⟩
        exact absurd (hholds.deletion.symm.trans hinstalling) hdeleting
      next =>
        refine ⟨trivial, fun reply => ⟨hholds.append _, fun _ => ?_⟩⟩
        simp [cleanupResults, cleanupResult]
    refine hstage.bind ?_
    rintro ⟨outcome, written⟩ after ⟨hafter, hresults⟩
    simp only
    split
    · exact ⟨hafter.after outcome, fun _ hfinished => by cases hfinished⟩
    next hsuccess =>
      have hnext : copy.deletionTimestamp ≠ none → cleanupResults after =
          (done ++ [stage]).map fun stage => (stage, .success) := by
        intro hdeleting
        rw [hresults hdeleting, hdone hdeleting, not_not.mp hsuccess,
          List.map_append, List.map_singleton]
      rw [show done ++ stage :: rest = (done ++ [stage]) ++ rest by simp]
      exact ih (done ++ [stage]) _ (hafter.after outcome) hnext

theorem updateStatus_justified (obs : CustomResource)
    (nextStatus : ObservabilityStatus) (history : List ControllerExchange) :
    (updateStatus obs nextStatus).Justified PassAllowed history
      fun _ _ => True := by
  have hfailed : (if obs.body.status ≠ nextStatus then do
      let reply ← call (.updateStatus
        { obs with body := { obs.body with status := nextStatus } })
      return errorOf reply
    else .done none : Controller (Option ApiError)).Justified PassAllowed
      history fun _ _ => True := by
    split
    · exact ⟨trivial, fun _ => trivial⟩
    · trivial
  refine hfailed.bind fun failed _ _ => ?_
  split <;> trivial

theorem concludePass_justified {outcome : StagesOutcome}
    (hholds : Holds copy outcome.obs history)
    (hfinished : copy.deletionTimestamp ≠ none → outcome.finished = true →
      CleanupSucceeded history) :
    (concludePass outcome).Justified PassAllowed history fun _ _ => True := by
  have hnote : (noteInstallation outcome).Justified PassAllowed history
      fun _ after => Holds copy outcome.obs after ∧
        (copy.deletionTimestamp ≠ none → after = history) := by
    unfold noteInstallation
    split
    next hinstalled =>
      have hnone := hholds.deletion.symm.trans hinstalled.1
      refine ⟨trivial, fun complete => ?_⟩
      cases complete with
      | true =>
        exact ⟨hholds.append _, fun hdeleting => absurd hnone hdeleting⟩
      | false =>
        exact ⟨trivial, fun _ => ⟨(hholds.append _).append _,
          fun hdeleting => absurd hnone hdeleting⟩⟩
    next => exact ⟨hholds, fun _ => rfl⟩
  refine hnote.bind fun _ after hafter => ?_
  obtain ⟨hafter, hsame⟩ := hafter
  dsimp only
  split
  next hcleaned =>
    refine ⟨⟨copy, hafter.fetched, hafter.key, hafter.version,
      fun hdeleting => .inl ?_⟩, fun _ => ⟨trivial, fun _ => trivial⟩⟩
    rw [hsame hdeleting]
    exact hfinished hdeleting hcleaned.2
  next =>
    have hdrop : (dropsFinalizers outcome.obs).Justified PassAllowed after
        fun drops later => Holds copy outcome.obs later ∧
          (drops = true → ⟨.noInit, false⟩ ∈ later) := by
      unfold dropsFinalizers
      split
      · refine ⟨trivial, fun noInit => ⟨hafter.append _, fun hdrops => ?_⟩⟩
        cases noInit with
        | true => cases hdrops
        | false => simp
      · exact ⟨hafter, fun hdrops => by cases hdrops⟩
    refine hdrop.bind fun drops later hlater => ?_
    split
    next hdrops =>
      exact ⟨⟨copy, hlater.1.fetched, hlater.1.key, hlater.1.version,
        fun _ => .inr (hlater.2 hdrops)⟩, fun _ => trivial⟩
    next => exact updateStatus_justified _ _ _

theorem reconcileRequest_justified (key : ObjectKey) :
    (reconcileRequest key).Justified PassAllowed [] fun _ _ => True := by
  refine ⟨trivial, fun reply => ?_⟩
  rcases reply with error | obs
  · cases error <;> trivial
  have hholds : Holds obs obs [⟨.get key, .ok obs⟩] := ⟨rfl, rfl, rfl, rfl⟩
  have hneeds : (needsFinalizer obs).Justified PassAllowed
      [⟨.get key, .ok obs⟩] fun needs after => Holds obs obs after ∧
        cleanupResults after = [] ∧
        (needs = true → obs.deletionTimestamp = none) := by
    unfold needsFinalizer
    split
    next hnone =>
      exact ⟨trivial, fun _ => ⟨hholds.append _, rfl, fun _ => hnone.1⟩⟩
    next => exact ⟨hholds, rfl, fun hneeds => by cases hneeds⟩
  refine hneeds.bind fun needs after hafter => ?_
  obtain ⟨hafter, hresults, hinstalling⟩ := hafter
  split
  next hadds =>
    exact ⟨⟨obs, hafter.fetched, rfl, rfl, fun hdeleting =>
      absurd (hinstalling hadds) hdeleting⟩, fun _ => trivial⟩
  next =>
    refine (runStages_justified _ [] obs.body.status hafter
      fun _ => hresults).bind fun outcome later hlater => ?_
    refine concludePass_justified hlater.1 fun hdeleting hfinished => ?_
    have hstages := hlater.2 hdeleting hfinished
    rwa [if_neg hdeleting, List.nil_append] at hstages

end Justification

def InitializerAllowed (history : List ControllerExchange) :
    ControllerCall → Prop
  | .update _ | .updateStatus _ | .create _ =>
    ∃ key, ⟨.getConfigMap key, .error .notFound⟩ ∈ history
  | _ => True

theorem justified_of_missing {α : Type} (program : Controller α)
    {key : ObjectKey}
    (hmissing : ⟨.getConfigMap key, .error .notFound⟩ ∈ history) :
    program.Justified InitializerAllowed history fun _ _ => True := by
  induction program generalizing history with
  | done value => trivial
  | fail error => trivial
  | request op next ih =>
    refine ⟨?_, fun reply => ih reply (List.mem_append_left _ hmissing)⟩
    cases op <;> first | trivial | exact ⟨key, hmissing⟩

theorem initializeOperand_justified :
    initializeOperand.Justified InitializerAllowed [] fun _ _ => True := by
  refine ⟨trivial, fun ns => ?_⟩
  simp only [Program.done_bind]
  split
  · trivial
  have hlooks (history : List ControllerExchange) :
      (noInitConfigmapExists ns).Justified InitializerAllowed history
        fun found after => found = .ok false →
          ∃ key, ⟨.getConfigMap key, .error .notFound⟩ ∈ after := by
    refine ⟨trivial, fun reply => ?_⟩
    rcases reply with error | found
    · cases error <;> intro hfound
      case notFound =>
        exact ⟨_, List.mem_append_right _ (List.mem_singleton.mpr rfl)⟩
      all_goals cases hfound
    · intro hfound
      cases hfound
  refine (hlooks _).bind fun found after hafter => ?_
  split
  · trivial
  next exists? =>
    refine ⟨trivial, fun _ => ?_⟩
    cases exists? with
    | true => trivial
    | false =>
      obtain ⟨key, hmissing⟩ := hafter rfl
      exact justified_of_missing _ (List.mem_append_left _ hmissing)

/-! ## How the stored resources change -/

namespace ControllerState

variable {state next : ControllerState} {obs stored : CustomResource}
  {key : ObjectKey}

/-- Every resource is stored under its own key, with a version of the past. -/
def Keyed (state : ControllerState) : Prop :=
  ∀ key obs, state.find key = some obs →
    obs.key = key ∧ obs.resourceVersion ≤ state.revision

def UpToDate (state : ControllerState) (copy : CustomResource) : Prop :=
  copy.resourceVersion ≤ state.revision ∧
    ∀ obs, state.find copy.key = some obs →
      obs.resourceVersion = copy.resourceVersion → obs = copy

def Evolves (state next : ControllerState) : Prop :=
  (next.stored = state.stored ∧ next.revision = state.revision) ∨
    ∃ obs, next.stored = (state.store obs).stored ∧
      next.revision = state.revision + 1

theorem find_store_of_ne (hkey : key ≠ obs.key) :
    (state.store obs).find key = state.find key := by
  unfold store find
  dsimp only
  split
  · exact AList.lookup_erase_ne hkey
  · exact AList.lookup_insert_ne hkey

theorem find_store_self (hfinalizers : obs.finalizers ≠ []) :
    (state.store obs).find obs.key =
      some { obs with resourceVersion := state.revision + 1 } := by
  unfold store find
  simp [hfinalizers]

theorem find_store_eq_some (hfind : (state.store obs).find key = some stored) :
    state.find key = some stored ∨
      key = obs.key ∧
        stored = { obs with resourceVersion := state.revision + 1 } := by
  by_cases hkey : key = obs.key
  · subst hkey
    unfold store find at hfind
    dsimp only at hfind
    split at hfind
    · simp at hfind
    · simp only [AList.lookup_insert, Option.some.injEq] at hfind
      exact .inr ⟨rfl, hfind.symm⟩
  · rw [find_store_of_ne hkey] at hfind
    exact .inl hfind

theorem find_congr (hstored : next.stored = state.stored) (key : ObjectKey) :
    next.find key = state.find key := by
  unfold find
  rw [hstored]

theorem Evolves.keyed (hevolves : Evolves state next) (hkeyed : state.Keyed) :
    next.Keyed := by
  intro key obs hfind
  rcases hevolves with ⟨hstored, hrevision⟩ | ⟨written, hstored, hrevision⟩
  · rw [find_congr hstored] at hfind
    rw [hrevision]
    exact hkeyed key obs hfind
  · rw [find_congr hstored] at hfind
    rw [hrevision]
    rcases find_store_eq_some hfind with hbefore | ⟨rfl, rfl⟩
    · obtain ⟨hkey, hversion⟩ := hkeyed key obs hbefore
      exact ⟨hkey, by omega⟩
    · exact ⟨rfl, le_refl _⟩

theorem Evolves.upToDate (hevolves : Evolves state next)
    {copy : CustomResource} (hcopy : state.UpToDate copy) :
    next.UpToDate copy := by
  obtain ⟨hversion, hsame⟩ := hcopy
  rcases hevolves with ⟨hstored, hrevision⟩ | ⟨written, hstored, hrevision⟩
  · refine ⟨by omega, fun obs hfind => ?_⟩
    rw [find_congr hstored] at hfind
    exact hsame obs hfind
  · refine ⟨by omega, fun obs hfind hequal => ?_⟩
    rw [find_congr hstored] at hfind
    rcases find_store_eq_some hfind with hbefore | ⟨-, rfl⟩
    · exact hsame obs hbefore hequal
    · simp only at hequal
      omega

theorem evolves_of_eq (hstored : next.stored = state.stored)
    (hrevision : next.revision = state.revision) : Evolves state next :=
  .inl ⟨hstored, hrevision⟩

theorem evolves_store (state : ControllerState) (obs : CustomResource) :
    Evolves state (state.store obs) :=
  .inr ⟨obs, rfl, rfl⟩

theorem current_eq_ok (hcurrent : state.current obs = .ok stored) :
    state.find obs.key = some stored ∧
      stored.resourceVersion = obs.resourceVersion := by
  unfold current at hcurrent
  split at hcurrent
  next => cases hcurrent
  next found hfind =>
    split at hcurrent
    next hversion =>
      obtain rfl := Except.ok.inj hcurrent
      exact ⟨hfind, hversion⟩
    next => cases hcurrent

theorem settle_cases (fault : Option Fault)
    (accepted : Except ApiError ControllerState) :
    (state.settle fault accepted).2 = state ∨
      accepted = .ok (state.settle fault accepted).2 := by
  rcases fault with - | fault <;> rcases accepted with error | next
  · exact .inl rfl
  · exact .inr rfl
  · exact .inl rfl
  · simp only [settle]
    split
    · exact .inr rfl
    · exact .inl rfl

theorem acceptUpdate_eq_ok (haccepted : state.acceptUpdate obs = .ok next) :
    ∃ stored, state.find obs.key = some stored ∧
      stored.resourceVersion = obs.resourceVersion ∧
      next = state.store
        { stored with
          body := { obs.body with status := stored.body.status }
          finalizers := obs.finalizers } := by
  unfold acceptUpdate at haccepted
  cases hcurrent : state.current obs with
  | error error => simp [hcurrent, Except.map] at haccepted
  | ok stored =>
    obtain ⟨hfind, hversion⟩ := current_eq_ok hcurrent
    rw [hcurrent] at haccepted
    exact ⟨stored, hfind, hversion, (Except.ok.inj haccepted).symm⟩

theorem acceptStatus_eq_ok (haccepted : state.acceptStatus obs = .ok next) :
    ∃ stored, state.find obs.key = some stored ∧
      next = state.store
        { stored with
          body := { stored.body with status := obs.body.status } } := by
  unfold acceptStatus at haccepted
  cases hcurrent : state.current obs with
  | error error => simp [hcurrent, Except.map] at haccepted
  | ok stored =>
    rw [hcurrent] at haccepted
    exact ⟨stored, (current_eq_ok hcurrent).1, (Except.ok.inj haccepted).symm⟩

theorem acceptCreate_eq_ok (haccepted : state.acceptCreate obs = .ok next) :
    state.find obs.key = none ∧
      next = state.store { obs with deletionTimestamp := none } := by
  unfold acceptCreate at haccepted
  split at haccepted
  next => cases haccepted
  next hnone =>
    exact ⟨by simpa using hnone, (Except.ok.inj haccepted).symm⟩

theorem evolves_answer (state : ControllerState) (choice : Choice)
    (op : ControllerCall) : Evolves state (choice.answer op state).2 := by
  have hsettle {accepted : Except ApiError ControllerState}
      (haccepted : ∀ after, accepted = .ok after → Evolves state after) :
      Evolves state (state.settle choice.fault accepted).2 := by
    rcases settle_cases choice.fault accepted with hsame | hthrough
    · rw [hsame]
      exact evolves_of_eq rfl rfl
    · exact haccepted _ hthrough
  cases op with
  | update obs =>
    refine hsettle fun after hafter => ?_
    obtain ⟨stored, -, -, rfl⟩ := acceptUpdate_eq_ok hafter
    exact evolves_store state _
  | updateStatus obs =>
    refine hsettle fun after hafter => ?_
    obtain ⟨stored, -, rfl⟩ := acceptStatus_eq_ok hafter
    exact evolves_store state _
  | create obs =>
    refine hsettle fun after hafter => ?_
    obtain ⟨-, rfl⟩ := acceptCreate_eq_ok hafter
    exact evolves_store state _
  | _ => exact evolves_of_eq rfl rfl

end ControllerState

/-! ## Removal -/

/-- The resource is being deleted, and the operator's finalizer is gone from
one state to the next. -/
def RemovesFinalizer (key : ObjectKey) (before after : ControllerState) :
    Prop :=
  ∃ obs, before.find key = some obs ∧ obs.deletionTimestamp ≠ none ∧
    observabilityFinalizer ∈ obs.finalizers ∧
    ∀ later, after.find key = some later →
      observabilityFinalizer ∉ later.finalizers

section Removal

variable {key : ObjectKey} {state after : ControllerState}

theorem not_removesFinalizer_of_stored_eq
    (hstored : after.stored = state.stored) :
    ¬ RemovesFinalizer key state after := by
  rintro ⟨obs, hfind, -, hfinalizer, hgone⟩
  rw [← ControllerState.find_congr hstored] at hfind
  exact hgone obs hfind hfinalizer

theorem RemovesFinalizer.of_store {obs : CustomResource}
    (hremoves : RemovesFinalizer key state (state.store obs)) :
    key = obs.key ∧ observabilityFinalizer ∉ obs.finalizers := by
  obtain ⟨stored, hfind, -, hfinalizer, hgone⟩ := hremoves
  by_cases hkey : key = obs.key
  · subst hkey
    refine ⟨rfl, fun hkept => ?_⟩
    have hnonempty : obs.finalizers ≠ [] := List.ne_nil_of_mem hkept
    exact hgone _ (ControllerState.find_store_self hnonempty) hkept
  · rw [← ControllerState.find_store_of_ne hkey] at hfind
    exact absurd hfinalizer (hgone stored hfind)

theorem RemovesFinalizer.exists_find
    (hremoves : RemovesFinalizer key state after) :
    ∃ obs, state.find key = some obs ∧ obs.deletionTimestamp ≠ none ∧
      observabilityFinalizer ∈ obs.finalizers := by
  obtain ⟨obs, hfind, hdeleting, hfinalizer, -⟩ := hremoves
  exact ⟨obs, hfind, hdeleting, hfinalizer⟩

/-- Of all calls only an update that goes through removes the finalizer of a
resource, that of the copy it is given. -/
theorem RemovesFinalizer.of_answer (hkeyed : state.Keyed) {choice : Choice}
    {op : ControllerCall}
    (hremoves : RemovesFinalizer key state (choice.answer op state).2) :
    ∃ obs stored, op = .update obs ∧ state.find obs.key = some stored ∧
      stored.resourceVersion = obs.resourceVersion ∧
      stored.deletionTimestamp ≠ none := by
  have hsettle {accepted : Except ApiError ControllerState}
      (hremoves : RemovesFinalizer key state
        (state.settle choice.fault accepted).2) :
      ∃ next, accepted = .ok next ∧ RemovesFinalizer key state next := by
    rcases ControllerState.settle_cases choice.fault accepted with
      hsame | hthrough
    · rw [hsame] at hremoves
      exact absurd hremoves (not_removesFinalizer_of_stored_eq rfl)
    · exact ⟨_, hthrough, hremoves⟩
  obtain ⟨found, hfound, hdeleting, hfinalizer⟩ := hremoves.exists_find
  cases op with
  | update obs =>
    obtain ⟨next, haccepted, hnext⟩ := hsettle hremoves
    obtain ⟨stored, hfind, hversion, rfl⟩ :=
      ControllerState.acceptUpdate_eq_ok haccepted
    obtain ⟨rfl, -⟩ := hnext.of_store
    refine ⟨obs, stored, rfl, hfind, hversion, ?_⟩
    obtain rfl : found = stored := Option.some.inj (hfound.symm.trans hfind)
    exact hdeleting
  | updateStatus obs =>
    obtain ⟨next, haccepted, hnext⟩ := hsettle hremoves
    obtain ⟨stored, hfind, rfl⟩ :=
      ControllerState.acceptStatus_eq_ok haccepted
    obtain ⟨hkey, hleft⟩ := hnext.of_store
    have hstored : stored.key = obs.key := (hkeyed _ _ hfind).1
    obtain rfl : key = obs.key := hkey.trans hstored
    obtain rfl : found = stored := Option.some.inj (hfound.symm.trans hfind)
    exact absurd hfinalizer hleft
  | create obs =>
    obtain ⟨next, haccepted, hnext⟩ := hsettle hremoves
    obtain ⟨hnone, rfl⟩ := ControllerState.acceptCreate_eq_ok haccepted
    obtain ⟨rfl, -⟩ := hnext.of_store
    exact absurd (hfound.symm.trans hnone) (by simp)
  | _ => exact absurd hremoves (not_removesFinalizer_of_stored_eq rfl)

end Removal

/-! ## Runs -/

namespace Manager

def readsNoInitForDeletion (manager : Manager) : Bool :=
  match manager.pass with
  | some ⟨.request .noInit _, history⟩ =>
    (fetched history).any fun copy => copy.deletionTimestamp.isSome
  | _ => false

/-- A pass over a resource that is being deleted reads the flag of the
initializer only once it is set. -/
def InitializedInTime (manager : Manager) : Move → Prop
  | .runPass _ =>
    manager.readsNoInitForDeletion = true → manager.state.noInit = true
  | _ => True

instance (manager : Manager) :
    (move : Move) → Decidable (manager.InitializedInTime move)
  | .runPass _ => inferInstanceAs (Decidable (_ → _))
  | .restart | .runInitializer _ | .begin _ | .finish | .create _ | .edit _
  | .delete _ _ => inferInstanceAs (Decidable True)

/-- The states of a run from a start of the operator, all of whose moves meet
the condition. -/
inductive Reached (Meets : Manager → Move → Prop) : Manager → Prop where
  | start {state : ControllerState} (hkeyed : state.Keyed)
      (hnoInit : state.noInit = false)
      (hinstallComplete : state.installComplete = false) :
      Reached Meets { state }
  | move {manager next : Manager} (hreached : Reached Meets manager)
      {move : Move} (hmeets : Meets manager move)
      (hmove : manager.move move = some next) : Reached Meets next

def run (Meets : Manager → Move → Prop)
    [∀ manager move, Decidable (Meets manager move)] :
    List Move → Manager → Option Manager
  | [], manager => some manager
  | move :: rest, manager =>
    if Meets manager move then (manager.move move).bind (run Meets rest)
    else none

theorem Reached.of_run {Meets : Manager → Move → Prop}
    [∀ manager move, Decidable (Meets manager move)] {moves : List Move}
    {manager last : Manager} (hreached : Reached Meets manager)
    (hrun : run Meets moves manager = some last) : Reached Meets last := by
  induction moves generalizing manager with
  | nil =>
    obtain rfl := Option.some.inj hrun
    exact hreached
  | cons move rest ih =>
    simp only [run] at hrun
    split at hrun
    next hmeets =>
      obtain ⟨next, hmove, hrest⟩ := Option.bind_eq_some_iff.mp hrun
      exact ih (.move hreached hmeets hmove) hrest
    next => cases hrun

structure Sound (manager : Manager) : Prop where
  keyed : manager.state.Keyed
  initializer : manager.initializer.Justified InitializerAllowed
  present : ∀ key,
    ⟨.getConfigMap key, .error .notFound⟩ ∉ manager.initializer.history
  pass : ∀ thread, manager.pass = some thread → thread.Justified PassAllowed
  upToDate : ∀ thread copy, manager.pass = some thread →
    fetched thread.history = some copy → manager.state.UpToDate copy
  noInit : ∀ thread copy, manager.pass = some thread →
    fetched thread.history = some copy → copy.deletionTimestamp ≠ none →
      ⟨.noInit, false⟩ ∉ thread.history

variable {manager next : Manager} {state : ControllerState} {choice : Choice}
  {key : ObjectKey}

theorem Sound.evolve (hsound : manager.Sound)
    (hevolves : manager.state.Evolves state) :
    ({ manager with state } : Manager).Sound where
  keyed := hevolves.keyed hsound.keyed
  initializer := hsound.initializer
  present := hsound.present
  pass := hsound.pass
  upToDate thread copy hpass hfetched :=
    hevolves.upToDate (hsound.upToDate thread copy hpass hfetched)
  noInit := hsound.noInit

variable {op : ControllerCall} {copy : CustomResource} {move : Move}

theorem getConfigMap_answer_ne
    (hexchange : (⟨.getConfigMap key, .error .notFound⟩ :
      ControllerExchange) = ⟨op, (choice.answer op state).1⟩) : False := by
  obtain rfl : .getConfigMap key = op := congrArg Exchange.op hexchange
  have hreply := eq_of_heq (Exchange.mk.inj hexchange).2
  cases hfault : choice.fault with
  | none => simp [Choice.answer, hfault, withFault] at hreply
  | some fault =>
    cases hfailure : fault.failure <;>
      simp [Choice.answer, hfault, withFault, hfailure, Failure.toError]
        at hreply

theorem Sound.runInitializer (hsound : manager.Sound)
    {thread : Thread ControllerCall.Reply Panic
      (Except (GoError ApiError) Unit)}
    (hadvance : manager.initializer.advance choice.answer manager.state =
      some (thread, state)) :
    ({ manager with initializer := thread, state } : Manager).Sound := by
  obtain ⟨op, rest, hrest, rfl, rfl⟩ := Thread.advance_eq_some hadvance
  have hevolved := hsound.evolve
    (ControllerState.evolves_answer manager.state choice op)
  refine ⟨hevolved.keyed, ((hsound.initializer.request hrest).2 _),
    fun key hmissing => ?_, hevolved.pass, hevolved.upToDate, hevolved.noInit⟩
  rcases List.mem_append.mp hmissing with hbefore | hlast
  · exact hsound.present key hbefore
  · exact getConfigMap_answer_ne (List.mem_singleton.mp hlast)

theorem fetched_append_singleton {history : List ControllerExchange}
    {exchange : ControllerExchange}
    (hfetched : fetched (history ++ [exchange]) = some copy) :
    fetched history = some copy ∨
      history = [] ∧ fetchedCopy exchange = some copy := by
  cases history with
  | nil => exact .inr ⟨rfl, hfetched⟩
  | cons first rest => exact .inl hfetched

theorem upToDate_of_fetchedCopy (hkeyed : state.Keyed)
    (hcopy : fetchedCopy ⟨op, (choice.answer op state).1⟩ = some copy) :
    state.UpToDate copy := by
  cases op with
  | get key =>
    have hfind : state.find key = some copy := by
      cases hfault : choice.fault with
      | some fault => simp [fetchedCopy, Choice.answer, hfault,
          withFault] at hcopy
      | none =>
        cases hstored : state.find key with
        | none => simp [fetchedCopy, Choice.answer, hfault, withFault,
            hstored] at hcopy
        | some stored => simpa [fetchedCopy, Choice.answer, hfault,
            withFault, hstored] using hcopy
    obtain ⟨rfl, hversion⟩ := hkeyed key copy hfind
    refine ⟨hversion, fun obs hobs _ => ?_⟩
    exact Option.some.inj (hobs.symm.trans hfind)
  | _ => cases hcopy

theorem Sound.runPass (hsound : manager.Sound)
    (hintime : manager.InitializedInTime (.runPass choice))
    {thread after : Thread ControllerCall.Reply Panic ReconcileResult}
    (hpass : manager.pass = some thread)
    (hadvance : thread.advance choice.answer manager.state =
      some (after, state)) :
    ({ manager with pass := some after, state } : Manager).Sound := by
  obtain ⟨op, rest, hrest, rfl, rfl⟩ := Thread.advance_eq_some hadvance
  have hevolves := ControllerState.evolves_answer manager.state choice op
  refine ⟨hevolves.keyed hsound.keyed, hsound.initializer, hsound.present,
    ?_, ?_, ?_⟩
  · rintro _ ⟨rfl⟩
    exact (hsound.pass thread hpass).request hrest |>.2 _
  · rintro _ copy ⟨rfl⟩ hfetched
    rcases fetched_append_singleton hfetched with hbefore | ⟨-, hcopy⟩
    · exact hevolves.upToDate (hsound.upToDate thread copy hpass hbefore)
    · exact hevolves.upToDate (upToDate_of_fetchedCopy hsound.keyed hcopy)
  · rintro _ copy ⟨rfl⟩ hfetched hdeleting hread
    rcases List.mem_append.mp hread with hbefore | hlast
    · rcases fetched_append_singleton hfetched with hcopy | ⟨hnil, -⟩
      · exact hsound.noInit thread copy hpass hcopy hdeleting hbefore
      · rw [hnil] at hbefore
        cases hbefore
    · have hexchange := List.mem_singleton.mp hlast
      obtain rfl : .noInit = op := congrArg Exchange.op hexchange
      have hunset : false = manager.state.noInit :=
        eq_of_heq (Exchange.mk.inj hexchange).2
      rcases fetched_append_singleton hfetched with hcopy | ⟨-, hcopy⟩
      · have hreads : manager.readsNoInitForDeletion = true := by
          obtain ⟨left, history⟩ := thread
          obtain rfl : left = .request .noInit rest := hrest
          simpa [readsNoInitForDeletion, hpass, hcopy,
            Option.isSome_iff_ne_none] using hdeleting
        have hset := hintime hreads
        rw [← hunset] at hset
        cases hset
      · cases hcopy

theorem Sound.of_no_pass (hkeyed : manager.state.Keyed)
    (hinitializer : manager.initializer.Justified InitializerAllowed)
    (hpresent : ∀ key,
      ⟨.getConfigMap key, .error .notFound⟩ ∉ manager.initializer.history)
    (hnone : manager.pass = none) : manager.Sound := by
  refine ⟨hkeyed, hinitializer, hpresent, ?_, ?_, ?_⟩
  all_goals
    intros
    simp_all

theorem edited_eq_some {after : ControllerState} {obs : CustomResource}
    (hedited : edited state obs = some after) :
    ∃ stored, state.find obs.key = some stored ∧
      (observabilityFinalizer ∈ stored.finalizers →
        observabilityFinalizer ∈ obs.finalizers) ∧
      after = state.store
        { obs with deletionTimestamp := stored.deletionTimestamp } := by
  unfold edited at hedited
  split at hedited
  next => cases hedited
  next stored hfind =>
    split at hedited
    next hkept =>
      exact ⟨stored, hfind, hkept, (Option.some.inj hedited).symm⟩
    next => cases hedited

theorem deleted_eq_some {after : ControllerState} {time : Int}
    (hdeleted : deleted state key time = some after) :
    after = state ∨ ∃ stored, state.find key = some stored ∧
      after = state.store { stored with deletionTimestamp := some time } := by
  unfold deleted at hdeleted
  split at hdeleted
  next => cases hdeleted
  next stored hfind =>
    split at hdeleted
    next => exact .inr ⟨stored, hfind, (Option.some.inj hdeleted).symm⟩
    next => exact .inl (Option.some.inj hdeleted).symm

theorem Sound.of_move (hsound : manager.Sound)
    (hintime : manager.InitializedInTime move)
    (hmove : manager.move move = some next) : next.Sound := by
  cases move with
  | restart =>
    obtain rfl := Option.some.inj hmove
    exact .of_no_pass hsound.keyed initializeOperand_justified
      (fun _ => List.not_mem_nil) rfl
  | runInitializer choice =>
    obtain ⟨⟨thread, state⟩, hadvance, hnext⟩ :=
      Option.bind_eq_some_iff.mp hmove
    obtain rfl := Option.some.inj hnext
    exact hsound.runInitializer hadvance
  | begin key =>
    simp only [Manager.move] at hmove
    split at hmove
    · obtain rfl := Option.some.inj hmove
      refine ⟨hsound.keyed, hsound.initializer, hsound.present, ?_, ?_, ?_⟩
      · rintro _ ⟨rfl⟩
        exact reconcileRequest_justified key
      · rintro _ copy ⟨rfl⟩ hfetched
        cases hfetched
      · rintro _ copy ⟨rfl⟩ hfetched
        cases hfetched
    · cases hmove
  | runPass choice =>
    obtain ⟨thread, hpass, hcontinues⟩ := Option.bind_eq_some_iff.mp hmove
    obtain ⟨⟨after, state⟩, hadvance, hnext⟩ :=
      Option.bind_eq_some_iff.mp hcontinues
    obtain rfl := Option.some.inj hnext
    exact hsound.runPass hintime hpass hadvance
  | finish =>
    simp only [Manager.move] at hmove
    split at hmove
    · obtain rfl := Option.some.inj hmove
      exact .of_no_pass hsound.keyed hsound.initializer hsound.present rfl
    · cases hmove
  | create obs =>
    simp only [Manager.move] at hmove
    split at hmove
    next state haccepted =>
      obtain rfl := Option.some.inj hmove
      obtain ⟨-, rfl⟩ := ControllerState.acceptCreate_eq_ok haccepted
      exact hsound.evolve (ControllerState.evolves_store _ _)
    next => cases hmove
  | edit obs =>
    obtain ⟨state, hedited, rfl⟩ := Option.map_eq_some_iff.mp hmove
    obtain ⟨-, -, -, rfl⟩ := edited_eq_some hedited
    exact hsound.evolve (ControllerState.evolves_store _ _)
  | delete key time =>
    obtain ⟨state, hdeleted, rfl⟩ := Option.map_eq_some_iff.mp hmove
    rcases deleted_eq_some hdeleted with rfl | ⟨stored, -, rfl⟩
    · exact hsound
    · exact hsound.evolve (ControllerState.evolves_store _ _)

theorem Reached.sound (hreached : Reached InitializedInTime manager) :
    manager.Sound := by
  induction hreached with
  | start hkeyed =>
    exact .of_no_pass hkeyed initializeOperand_justified
      (fun _ => List.not_mem_nil) rfl
  | move _ hintime hmove ih => exact ih.of_move hintime hmove

/-- A move that removes the finalizer is an update by the pass under way. -/
theorem Sound.removesFinalizer_of_move (hsound : manager.Sound)
    (hmove : manager.move move = some next)
    (hremoves : RemovesFinalizer key manager.state next.state) :
    ∃ choice thread obs stored rest, move = .runPass choice ∧
      manager.pass = some thread ∧ thread.rest = .request (.update obs) rest ∧
      manager.state.find obs.key = some stored ∧
      stored.resourceVersion = obs.resourceVersion ∧
      stored.deletionTimestamp ≠ none := by
  obtain ⟨found, hfound, hdeleting, hfinalizer⟩ := hremoves.exists_find
  cases move with
  | restart =>
    obtain rfl := Option.some.inj hmove
    exact absurd hremoves (not_removesFinalizer_of_stored_eq rfl)
  | runInitializer choice =>
    obtain ⟨⟨thread, state⟩, hadvance, hnext⟩ :=
      Option.bind_eq_some_iff.mp hmove
    obtain rfl := Option.some.inj hnext
    obtain ⟨op, rest, hrest, rfl, rfl⟩ := Thread.advance_eq_some hadvance
    obtain ⟨obs, -, rfl, -⟩ := hremoves.of_answer hsound.keyed
    obtain ⟨missing, hmissing⟩ := (hsound.initializer.request hrest).1
    exact absurd hmissing (hsound.present missing)
  | begin key =>
    simp only [Manager.move] at hmove
    split at hmove
    · obtain rfl := Option.some.inj hmove
      exact absurd hremoves (not_removesFinalizer_of_stored_eq rfl)
    · cases hmove
  | runPass choice =>
    obtain ⟨thread, hpass, hcontinues⟩ := Option.bind_eq_some_iff.mp hmove
    obtain ⟨⟨after, state⟩, hadvance, hnext⟩ :=
      Option.bind_eq_some_iff.mp hcontinues
    obtain rfl := Option.some.inj hnext
    obtain ⟨op, rest, hrest, rfl, rfl⟩ := Thread.advance_eq_some hadvance
    obtain ⟨obs, stored, rfl, hstored⟩ := hremoves.of_answer hsound.keyed
    exact ⟨choice, thread, obs, stored, rest, rfl, hpass, hrest, hstored⟩
  | finish =>
    simp only [Manager.move] at hmove
    split at hmove
    · obtain rfl := Option.some.inj hmove
      exact absurd hremoves (not_removesFinalizer_of_stored_eq rfl)
    · cases hmove
  | create obs =>
    simp only [Manager.move] at hmove
    split at hmove
    next state haccepted =>
      obtain rfl := Option.some.inj hmove
      obtain ⟨hnone, rfl⟩ := ControllerState.acceptCreate_eq_ok haccepted
      obtain ⟨rfl, -⟩ := hremoves.of_store
      exact absurd (hfound.symm.trans hnone) (by simp)
    next => cases hmove
  | edit obs =>
    obtain ⟨state, hedited, rfl⟩ := Option.map_eq_some_iff.mp hmove
    obtain ⟨stored, hfind, hkept, rfl⟩ := edited_eq_some hedited
    obtain ⟨rfl, hleft⟩ := hremoves.of_store
    obtain rfl : found = stored := Option.some.inj (hfound.symm.trans hfind)
    exact absurd (hkept hfinalizer) hleft
  | delete key time =>
    obtain ⟨state, hdeleted, rfl⟩ := Option.map_eq_some_iff.mp hmove
    rcases deleted_eq_some hdeleted with rfl | ⟨stored, hfind, rfl⟩
    · exact absurd hremoves (not_removesFinalizer_of_stored_eq rfl)
    · obtain ⟨hkey, hleft⟩ := hremoves.of_store
      obtain rfl : _ = key := hkey.trans (hsound.keyed key stored hfind).1
      obtain rfl : found = stored := Option.some.inj (hfound.symm.trans hfind)
      exact absurd hfinalizer hleft

/-- In a run in which the flag is set in time, only a pass all of whose
clean-up stages have succeeded removes the finalizer of a resource that is
being deleted. -/
theorem finalizer_removed_only_after_cleanup {move : Move} {key : ObjectKey}
    (hreached : Reached InitializedInTime manager)
    (hmove : manager.move move = some next)
    (hremoves : RemovesFinalizer key manager.state next.state) :
    ∃ choice thread, move = .runPass choice ∧ manager.pass = some thread ∧
      CleanupSucceeded thread.history := by
  have hsound := hreached.sound
  obtain ⟨choice, thread, obs, stored, rest, rfl, hpass, hrest, hfind,
    hversion, hdeleting⟩ := hsound.removesFinalizer_of_move hmove hremoves
  obtain ⟨copy, hfetched, hkey, hcopied, hreason⟩ :=
    ((hsound.pass thread hpass).request hrest).1
  have hsame : stored = copy := by
    refine (hsound.upToDate thread copy hpass hfetched).2 stored ?_ ?_
    · rw [← hkey, hfind]
    · rw [hversion, hcopied]
  subst hsame
  refine ⟨choice, thread, rfl, hpass, (hreason hdeleting).resolve_right ?_⟩
  exact hsound.noInit thread stored hpass hfetched hdeleting

/-! ## Two runs -/

def fresh : Manager := { state := { stored := ∅ } }

def handMade : CustomResource where
  body := { name := "observability", ns := "managed" }

def untilDeletion : List Move :=
  [.create handMade,
    .runInitializer { ns := "managed" }, .runInitializer {},
    .runInitializer {},
    .begin handMade.key, .runPass {}, .runPass {}, .runPass {}, .finish,
    .delete handMade.key 1]

def cleanPass : List Move :=
  .begin handMade.key :: .runPass {} ::
    getCleanupStages.map fun _ => .runPass {}

def hastyPass : List Move :=
  [.restart, .begin handMade.key, .runPass {},
    .runPass { outcome := { status := .failed } }, .runPass {}]

theorem fresh_reached (Meets : Manager → Move → Prop) : Reached Meets fresh :=
  .start (fun _ _ hfind => by cases hfind) rfl rfl

def cleaned : Manager :=
  (run InitializedInTime (untilDeletion ++ cleanPass) fresh).get rfl

def cleanedNext : Manager := (cleaned.move (.runPass {})).get rfl

theorem cleaned_removes_finalizer :
    Reached InitializedInTime cleaned ∧
      cleaned.move (.runPass {}) = some cleanedNext ∧
      RemovesFinalizer handMade.key cleaned.state cleanedNext.state ∧
      ∃ choice thread, Move.runPass {} = .runPass choice ∧
        cleaned.pass = some thread ∧ CleanupSucceeded thread.history := by
  have hreached : Reached InitializedInTime cleaned :=
    (fresh_reached _).of_run (Option.some_get _).symm
  have hmove : cleaned.move (.runPass {}) = some cleanedNext :=
    (Option.some_get _).symm
  have hremoves :
      RemovesFinalizer handMade.key cleaned.state cleanedNext.state :=
    ⟨_, rfl, by decide, by decide, fun _ hfind => by cases hfind⟩
  exact ⟨hreached, hmove, hremoves,
    finalizer_removed_only_after_cleanup hreached hmove hremoves⟩

def hasty : Manager :=
  (run (fun _ _ => True) (untilDeletion ++ hastyPass) fresh).get rfl

def hastyNext : Manager := (hasty.move (.runPass {})).get rfl

theorem hasty_removes_finalizer :
    Reached (fun _ _ => True) hasty ∧
      hasty.move (.runPass {}) = some hastyNext ∧
      RemovesFinalizer handMade.key hasty.state hastyNext.state ∧
      ∃ thread, hasty.pass = some thread ∧
        cleanupResults thread.history = [(.prometheusConfiguration, .failed)] ∧
        ¬ CleanupSucceeded thread.history :=
  ⟨(fresh_reached _).of_run (Option.some_get _).symm,
    (Option.some_get _).symm,
    ⟨_, rfl, by decide, by decide, fun _ hfind => by cases hfind⟩,
    _, rfl, rfl, by decide⟩

end Manager

end ObservabilityOperator
