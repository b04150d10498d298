import ObservabilityOperator.ResourceFrame

/-!
# The status that a pass stores

A pass fills a status of its own while its stages run, and at the end it
stores this status if it is different from that of the custom resource in
memory.  The stage that asks for the id of the cluster writes it to both, so
that the stages after it find it in the resource.  If nothing else has changed
by then the two are equal, and the id is not stored.
-/

namespace ObservabilityOperator

open Program

/-! ## A pass and the results of its stages -/

structure StageReport where
  status : ObservabilityStageStatus := .success
  error : Option String := none
  labels : StringMap := []
  clusterId : Option String := none
  written : ObservabilityStatus → ObservabilityStatus := id

namespace StageReport

def outcome (report : StageReport) (observed : ObservabilityStatus) :
    StageOutcome where
  status := report.status
  error := report.error
  labels := report.labels
  observed := observed

def reconcile (report : StageReport) (obs : CustomResource)
    (nextStatus : ObservabilityStatus) : StageOutcome × ObservabilityStatus :=
  match report.clusterId with
  | none => (report.outcome obs.body.status, report.written nextStatus)
  | some clusterId =>
    if obs.body.status.clusterId ≠ "" then
      (report.outcome obs.body.status, report.written nextStatus)
    else
      (report.outcome { obs.body.status with clusterId },
        { report.written nextStatus with clusterId })

end StageReport

def stageHandler (reports : ObservabilityStageName → StageReport) :
    Handler ControllerCall.Reply ControllerState
  | .reconcileStage stage obs nextStatus, state =>
    ((reports stage).reconcile obs nextStatus, state)
  | .cleanupStage stage obs, state =>
    ((reports stage).outcome obs.body.status, state)
  | op, state => Choice.answer {} op state

def stageReply (reports : ObservabilityStageName → StageReport)
    (stage : ObservabilityStageName) (obs : CustomResource)
    (nextStatus : ObservabilityStatus) : StageOutcome × ObservabilityStatus :=
  if obs.deletionTimestamp = none then (reports stage).reconcile obs nextStatus
  else ((reports stage).outcome obs.body.status, nextStatus)

def stagesLeft (reports : ObservabilityStageName → StageReport) :
    List ObservabilityStageName → CustomResource → ObservabilityStatus →
      StagesOutcome
  | [], obs, nextStatus => ⟨obs, nextStatus, true⟩
  | stage :: rest, obs, nextStatus =>
    let reply := stageReply reports stage obs
      { nextStatus with stage := some stage }
    let reported : ObservabilityStatus :=
      { reply.2 with
        lastMessage := reply.1.error.getD ""
        stageStatus := some reply.1.status }
    if reply.1.status ≠ .success then
      ⟨obs.after reply.1, reported, false⟩
    else stagesLeft reports rest (obs.after reply.1) reported

def passLeft (reports : ObservabilityStageName → StageReport)
    (obs : CustomResource) : StagesOutcome :=
  stagesLeft reports
    (if obs.deletionTimestamp = none then getInstallationStages
      else getCleanupStages) obs obs.body.status

/-- The pass takes none of the branches that end with a write of finalizers. -/
structure ReachesUpdateStatus (reports : ObservabilityStageName → StageReport)
    (noInit : Bool) (obs : CustomResource) : Prop where
  finalized : ¬ (obs.deletionTimestamp = none ∧ obs.finalizers = [] ∧
    noInit = true)
  unfinished : ¬ (obs.deletionTimestamp ≠ none ∧
    (passLeft reports obs).finished = true)
  held : ¬ (obs.finalizers ≠ [] ∧ noInit = false)

/-! ## The copy in memory -/

/-- The copy has another id at most, and only if there was none. -/
structure StatusCopy (before obs : CustomResource) : Prop where
  key : obs.key = before.key
  version : obs.resourceVersion = before.resourceVersion
  finalizers : obs.finalizers = before.finalizers
  deletion : obs.deletionTimestamp = before.deletionTimestamp
  status : obs.body.status =
    { before.body.status with clusterId := obs.body.status.clusterId }
  clusterId : before.body.status.clusterId ≠ "" →
    obs.body.status.clusterId = before.body.status.clusterId

section Stages

variable {reports : ObservabilityStageName → StageReport}
  {before obs : CustomResource} {state : ControllerState}

theorem StatusCopy.refl (obs : CustomResource) : StatusCopy obs obs where
  key := rfl
  version := rfl
  finalizers := rfl
  deletion := rfl
  status := rfl
  clusterId _ := rfl

theorem StatusCopy.outcome (hcopy : StatusCopy before obs)
    (report : StageReport) :
    StatusCopy before (obs.after (report.outcome obs.body.status)) where
  key := hcopy.key
  version := hcopy.version
  finalizers := hcopy.finalizers
  deletion := hcopy.deletion
  status := hcopy.status
  clusterId := hcopy.clusterId

theorem StatusCopy.reconcile (hcopy : StatusCopy before obs)
    (report : StageReport) (nextStatus : ObservabilityStatus) :
    StatusCopy before (obs.after (report.reconcile obs nextStatus).1) := by
  unfold StageReport.reconcile
  split
  next => exact hcopy.outcome report
  next clusterId hobtained =>
    split
    next => exact hcopy.outcome report
    next hempty =>
      refine ⟨hcopy.key, hcopy.version, hcopy.finalizers, hcopy.deletion, ?_,
        fun hbefore => ?_⟩
      · change { obs.body.status with clusterId } = _
        rw [hcopy.status]
        rfl
      · rw [← hcopy.clusterId hbefore] at hbefore
        exact absurd (not_not.mp hempty) hbefore

theorem StatusCopy.reply (hcopy : StatusCopy before obs)
    (stage : ObservabilityStageName) (nextStatus : ObservabilityStatus) :
    StatusCopy before
      (obs.after (stageReply reports stage obs nextStatus).1) := by
  unfold stageReply
  split
  next => exact hcopy.reconcile _ _
  next => exact hcopy.outcome _

theorem StatusCopy.stagesLeft (stages : List ObservabilityStageName)
    (nextStatus : ObservabilityStatus) (hcopy : StatusCopy before obs) :
    StatusCopy before (stagesLeft reports stages obs nextStatus).obs := by
  induction stages generalizing obs nextStatus with
  | nil => exact hcopy
  | cons stage rest ih =>
    unfold ObservabilityOperator.stagesLeft
    dsimp only
    split
    next => exact hcopy.reply _ _
    next => exact ih _ (hcopy.reply _ _)

theorem run_runStage (stage : ObservabilityStageName)
    (nextStatus : ObservabilityStatus) :
    (runStage stage obs nextStatus).run (stageHandler reports) state =
      (.ok (stageReply reports stage obs nextStatus), state) := by
  unfold runStage stageReply
  split <;> rfl

theorem run_runStages (stages : List ObservabilityStageName)
    (nextStatus : ObservabilityStatus) :
    (runStages stages obs nextStatus).run (stageHandler reports) state =
      (.ok (stagesLeft reports stages obs nextStatus), state) := by
  induction stages generalizing obs nextStatus with
  | nil => rfl
  | cons stage rest ih =>
    rw [runStages, bind_eq_bind,
      run_bind_ok (run_runStage stage _), stagesLeft]
    dsimp only
    split
    next => rfl
    next => exact ih _

/-! ## The end of a pass -/

theorem run_noteInstallation_stageHandler (outcome : StagesOutcome) :
    ∃ noted, (noteInstallation outcome).run (stageHandler reports) state =
        (.ok (), noted) ∧
      noted.stored = state.stored ∧ noted.revision = state.revision ∧
      noted.noInit = state.noInit := by
  unfold noteInstallation
  split
  · cases hcomplete : state.installComplete with
    | true =>
      refine ⟨state, ?_, rfl, rfl, rfl⟩
      simp [bind_eq_bind, call, stageHandler, Choice.answer, hcomplete]
    | false =>
      refine ⟨{ state with installComplete := true }, ?_, rfl, rfl, rfl⟩
      simp [bind_eq_bind, call, stageHandler, Choice.answer, hcomplete]
  · exact ⟨state, rfl, rfl, rfl, rfl⟩

theorem run_dropsFinalizers (hheld : ¬ (obs.finalizers ≠ [] ∧
      state.noInit = false)) :
    (dropsFinalizers obs).run (stageHandler reports) state =
      (.ok false, state) := by
  unfold dropsFinalizers
  split
  next hsome =>
    have hnoInit : state.noInit = true := by
      simpa using fun hunset => hheld ⟨hsome, hunset⟩
    simp [bind_eq_bind, call, stageHandler, Choice.answer, hnoInit]
  next => rfl

theorem run_needsFinalizer (hfinalized : ¬ (obs.deletionTimestamp = none ∧
      obs.finalizers = [] ∧ state.noInit = true)) :
    (needsFinalizer obs).run (stageHandler reports) state =
      (.ok false, state) := by
  unfold needsFinalizer
  split
  next hnew =>
    have hnoInit : state.noInit = false := by
      simpa using fun hset => hfinalized ⟨hnew.1, hnew.2, hset⟩
    simp [call, stageHandler, Choice.answer, hnoInit]
  next => rfl

theorem run_reconcileRequest {key : ObjectKey}
    (hfind : state.find key = some obs)
    (hreaches : ReachesUpdateStatus reports state.noInit obs) :
    ∃ noted : ControllerState, noted.stored = state.stored ∧
      noted.revision = state.revision ∧
      (reconcileRequest key).run (stageHandler reports) state =
        (updateStatus (passLeft reports obs).obs
          (passLeft reports obs).nextStatus).run (stageHandler reports)
            noted := by
  have hcopy : StatusCopy obs (passLeft reports obs).obs :=
    (StatusCopy.refl obs).stagesLeft _ _
  obtain ⟨noted, hnote, hstored, hrevision, hnoInit⟩ :=
    @run_noteInstallation_stageHandler reports state (passLeft reports obs)
  have hdrops := @run_dropsFinalizers reports (passLeft reports obs).obs noted
    (by rw [hcopy.finalizers, hnoInit]; exact hreaches.held)
  refine ⟨noted, hstored, hrevision, ?_⟩
  have hget : (stageHandler reports (.get key) state) = (.ok obs, state) := by
    simp [stageHandler, Choice.answer, hfind, withFault]
  have hfetched : (reconcileRequest key).run (stageHandler reports) state =
      (reconcileFetched obs).run (stageHandler reports) state := by
    rw [reconcileRequest, bind_eq_bind, call, request_bind,
      run_request, hget]
    rfl
  rw [hfetched, reconcileFetched, bind_eq_bind,
    run_bind_ok (run_needsFinalizer hreaches.finalized)]
  simp only [Bool.false_eq_true, if_false, bind_eq_bind]
  rw [run_bind_ok (run_runStages _ _)]
  change (concludePass (passLeft reports obs)).run _ _ = _
  rw [concludePass, bind_eq_bind, run_bind_ok hnote]
  dsimp only
  rw [hcopy.deletion, if_neg hreaches.unfinished, bind_eq_bind,
    run_bind_ok hdrops]
  rfl

theorem status_of_run_updateStatus {key : ObjectKey}
    {nextStatus : ObservabilityStatus} (hkeyed : state.Keyed)
    (hfind : state.find key = some before) (hcopy : StatusCopy before obs)
    (hkept : before.deletionTimestamp ≠ none → before.finalizers ≠ []) :
    (((updateStatus obs nextStatus).run (stageHandler reports)
        state).2.find key).map (·.body.status) =
      some (if obs.body.status ≠ nextStatus then nextStatus
        else before.body.status) := by
  by_cases hsame : obs.body.status = nextStatus
  · unfold updateStatus
    simp [hsame, hfind, bind_eq_bind]
  · have hkey : obs.key = key := hcopy.key.trans (hkeyed key before hfind).1
    have hfound : state.find obs.key = some before := hkey ▸ hfind
    let stored : CustomResource :=
      { before with body := { before.body with status := nextStatus } }
    have haccepted : state.acceptStatus
        { obs with body := { obs.body with status := nextStatus } } =
          .ok (state.store stored) := by
      have hcurrent : state.current
          { obs with body := { obs.body with status := nextStatus } } =
            .ok before := current_of_find hfound hcopy.version.symm
      rw [ControllerState.acceptStatus, hcurrent]
      rfl
    have hrun : ((updateStatus obs nextStatus).run (stageHandler reports)
        state).2 = state.store stored := by
      unfold updateStatus
      simp [hsame, bind_eq_bind, call, stageHandler, Choice.answer,
        haccepted, ControllerState.settle, errorOf]
    have hwritten : (state.store stored).find stored.key =
        some { stored with resourceVersion := state.revision + 1 } := by
      by_cases hinstalling : before.deletionTimestamp = none
      · exact find_store_of_none hinstalling
      · exact ControllerState.find_store_self (hkept hinstalling)
    have hstored : stored.key = key := (hkeyed key before hfind).1
    rw [hrun, ← hstored, hwritten, if_pos hsame]
    rfl

end Stages

/-- The status that the stages leave is stored exactly if it does not differ
from the stored one in the id of the cluster alone, with an id that has been
obtained in this pass. -/
theorem status_stored_iff (reports : ObservabilityStageName → StageReport)
    {state : ControllerState} {key : ObjectKey} {obs : CustomResource}
    (hkeyed : state.Keyed) (hfind : state.find key = some obs)
    (hkept : obs.deletionTimestamp ≠ none → obs.finalizers ≠ [])
    (hreaches : ReachesUpdateStatus reports state.noInit obs) :
    (((reconcileRequest key).run (stageHandler reports) state).2.find
        key).map (·.body.status) = some (passLeft reports obs).nextStatus ↔
      ¬ (obs.body.status.clusterId = "" ∧
        (passLeft reports obs).obs.body.status.clusterId ≠ "" ∧
        (passLeft reports obs).nextStatus =
          { obs.body.status with
            clusterId :=
              (passLeft reports obs).obs.body.status.clusterId }) := by
  obtain ⟨noted, hstored, hrevision, hrun⟩ :=
    run_reconcileRequest hfind hreaches
  have hcopy : StatusCopy obs (passLeft reports obs).obs :=
    (StatusCopy.refl obs).stagesLeft _ _
  have hnotedKeyed : noted.Keyed :=
    (ControllerState.evolves_of_eq hstored hrevision).keyed hkeyed
  have hnotedFind : noted.find key = some obs :=
    (ControllerState.find_congr hstored key).trans hfind
  rw [hrun, status_of_run_updateStatus hnotedKeyed hnotedFind hcopy hkept,
    Option.some.injEq, ← hcopy.status]
  by_cases hsame : (passLeft reports obs).obs.body.status =
      (passLeft reports obs).nextStatus
  · rw [if_neg (not_not.mpr hsame), ← hsame]
    constructor
    · rintro hunchanged ⟨hempty, hobtained, -⟩
      rw [← hunchanged] at hobtained
      exact hobtained hempty
    · intro hlost
      rw [hcopy.status]
      by_cases hempty : obs.body.status.clusterId = ""
      · have hnone : (passLeft reports obs).obs.body.status.clusterId = "" := by
          by_contra hobtained
          exact hlost ⟨hempty, hobtained, rfl⟩
        rw [hnone, ← hempty]
      · rw [hcopy.clusterId hempty]
  · rw [if_pos hsame]
    exact iff_of_true rfl fun hlost => hsame hlost.2.2.symm

/-! ## A stage that fails as before -/

def failedOperand : CustomResource :=
  { ownOperand with
    finalizers := []
    body :=
      { ownOperand.body with
        spec := { ownOperand.body.spec with clusterId := "cluster" }
        status :=
          { stage := some .prometheusConfiguration
            stageStatus := some .failed
            lastMessage := "unavailable" } } }

def failedState : ControllerState where
  stored := AList.singleton failedOperand.key failedOperand

def endingWith (message : String) :
    ObservabilityStageName → StageReport
  | .prometheusConfiguration =>
    { status := .failed
      error := some message
      clusterId := some "cluster" }
  | _ => {}

theorem failedState_keyed : failedState.Keyed :=
  keyed_of_singleton rfl (Nat.le_refl _)

theorem find_failedState :
    failedState.find failedOperand.key = some failedOperand := rfl

theorem status_stored_failure :
    (((reconcileRequest failedOperand.key).run
        (stageHandler (endingWith "not found")) failedState).2.find
          failedOperand.key).map (·.body.status) =
      some
        { stage := some .prometheusConfiguration
          stageStatus := some .failed
          lastMessage := "not found"
          clusterId := "cluster" } :=
  (status_stored_iff (endingWith "not found") failedState_keyed
    find_failedState (fun hdeleted => absurd rfl hdeleted)
      ⟨by decide, by decide, by decide⟩).mpr (by decide)

def unavailableConfigMaps : Surroundings :=
  { Surroundings.quiet with
    fault := fun _ call => match call with
      | .create .configMap _ _ => some ⟨.internal "unavailable", false⟩
      | _ => none }

/-- The stage obtains the id and fails after that.  Where the stored status is
about such a failure already, the pass does not store the id. -/
theorem clusterId_not_stored :
    (unavailableConfigMaps.run ((getReconcilerForStage .plain .given
        .prometheusConfiguration).reconcile failedOperand.body false)
          Cluster.empty).1 =
      .error (.error (.api (.internal "unavailable"))) ∧
    (unavailableConfigMaps.run ((getReconcilerForStage .plain .given
        .prometheusConfiguration).reconcile failedOperand.body false)
          Cluster.empty).2.memory.clusterId = "cluster" ∧
    (passLeft (endingWith "unavailable") failedOperand).nextStatus.clusterId =
      "cluster" ∧
    (((reconcileRequest failedOperand.key).run
        (stageHandler (endingWith "unavailable")) failedState).2.find
          failedOperand.key).map (·.body.status.clusterId) = some "" := by
  refine ⟨rfl, rfl, rfl, rfl⟩

end ObservabilityOperator
