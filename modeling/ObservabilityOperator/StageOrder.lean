import ObservabilityOperator.FinalizerRemoval

/-!
# The order of the stages in a pass

A pass runs the stages of an installation or those of a clean-up, and never
both.  Each stage comes after those before it have succeeded, and the status
that the pass stores reports how the last one has ended.  Nothing is installed
for a resource without finalizers unless the flag `noInit` was found unset.
-/

namespace ObservabilityOperator

/-! ## What a pass may call next -/

def stageRun : ControllerExchange →
    Option (ObservabilityStageName × StageOutcome)
  | ⟨.reconcileStage stage _ _, reply⟩ => some (stage, reply.1)
  | ⟨.cleanupStage stage _, outcome⟩ => some (stage, outcome)
  | _ => none

def stageRuns (history : List ControllerExchange) :
    List (ObservabilityStageName × StageOutcome) :=
  history.filterMap stageRun

/-- The stages have succeeded, one after the other, and no other was run. -/
def HavePassed (stages : List ObservabilityStageName)
    (history : List ControllerExchange) : Prop :=
  (stageRuns history).map (fun result => (result.1, result.2.status)) =
    stages.map fun stage => (stage, .success)

/-- All stages before this one have passed. -/
def InTurn (stages : List ObservabilityStageName)
    (stage : ObservabilityStageName) (history : List ControllerExchange) :
    Prop :=
  ∃ before later, stages = before ++ stage :: later ∧ HavePassed before history

/-- The status says how the last stage has ended. -/
def Reports (status : ObservabilityStatus)
    (history : List ControllerExchange) : Prop :=
  ∃ result, (stageRuns history).getLast? = some result ∧
    status.stageStatus = some result.2.status ∧
    status.lastMessage = result.2.error.getD ""

/-- What a pass may call after these exchanges. -/
def StageAllowed (history : List ControllerExchange) : ControllerCall → Prop
  | .reconcileStage stage obs _ => ∃ copy, fetched history = some copy ∧
      obs.key = copy.key ∧ copy.deletionTimestamp = none ∧
      (copy.finalizers = [] → ⟨.noInit, false⟩ ∈ history) ∧
      InTurn getInstallationStages stage history
  | .cleanupStage stage obs => ∃ copy, fetched history = some copy ∧
      obs.key = copy.key ∧ copy.deletionTimestamp ≠ none ∧
      InTurn getCleanupStages stage history
  | .updateStatus obs => Reports obs.body.status history
  | _ => True

/-- Before an installation there is a finalizer, or the flag asks for none. -/
def Finalized (copy : CustomResource) (history : List ControllerExchange) :
    Prop :=
  copy.deletionTimestamp = none → copy.finalizers = [] →
    ⟨.noInit, false⟩ ∈ history

section Justification

variable {copy obs : CustomResource} {history : List ControllerExchange}
  {exchange : ControllerExchange} {status : ObservabilityStatus}

theorem Finalized.append (hfinalized : Finalized copy history) :
    Finalized copy (history ++ [exchange]) :=
  fun hnone hempty => List.mem_append_left _ (hfinalized hnone hempty)

theorem runStages_inTurn (stages before : List ObservabilityStageName)
    (hholds : Holds copy obs history)
    (hfinalized : Finalized copy history)
    (hstages : (if copy.deletionTimestamp = none then getInstallationStages
      else getCleanupStages) = before ++ stages)
    (hpassed : HavePassed before history)
    (hreports : stages = [] → Reports status history) :
    (runStages stages obs status).Justified StageAllowed history
      fun outcome after => Reports outcome.nextStatus after := by
  induction stages generalizing obs status history before with
  | nil => exact hreports rfl
  | cons stage rest ih =>
    have hstage : (runStage stage obs
        { status with stage := some stage }).Justified StageAllowed
          history fun result after => Holds copy obs after ∧
            Finalized copy after ∧ stageRuns after =
              stageRuns history ++ [(stage, result.1)] := by
      unfold runStage
      rw [hholds.deletion]
      split
      next hnone =>
        rw [if_pos hnone] at hstages
        exact ⟨⟨copy, hholds.fetched, hholds.key, hnone, hfinalized hnone,
          before, rest, hstages, hpassed⟩, fun reply => ⟨hholds.append _,
            hfinalized.append, by simp [stageRuns, stageRun]⟩⟩
      next hdeleting =>
        rw [if_neg hdeleting] at hstages
        exact ⟨⟨copy, hholds.fetched, hholds.key, hdeleting, before, rest,
          hstages, hpassed⟩, fun reply => ⟨hholds.append _,
            hfinalized.append, by simp [stageRuns, stageRun]⟩⟩
    refine hstage.bind ?_
    rintro ⟨outcome, written⟩ after ⟨hafter, hread, hresults⟩
    have hreported : Reports { written with
        lastMessage := outcome.error.getD ""
        stageStatus := some outcome.status } after :=
      ⟨(stage, outcome), by simp [hresults], rfl, rfl⟩
    simp only
    split
    · exact hreported
    next hsuccess =>
      refine ih (before ++ [stage]) (hafter.after outcome) hread
        (by simpa using hstages) ?_ fun _ => hreported
      rw [HavePassed, hresults, List.map_append, hpassed, List.map_append]
      simp [not_not.mp hsuccess]

theorem Reports.append (hreports : Reports status history)
    (hother : stageRun exchange = none) :
    Reports status (history ++ [exchange]) := by
  simpa [Reports, stageRuns, hother] using hreports

theorem updateStatus_reports (hreports : Reports status history) :
    (updateStatus obs status).Justified StageAllowed history
      fun _ _ => True := by
  unfold updateStatus
  refine Program.Justified.bind (show Program.Justified StageAllowed _
    history fun _ _ => True from ?_) fun failed _ _ => ?_
  · split
    · exact ⟨hreports, fun _ => trivial⟩
    · trivial
  · split <;> trivial

theorem concludePass_reports {outcome : StagesOutcome}
    (hreports : Reports outcome.nextStatus history) :
    (concludePass outcome).Justified StageAllowed history fun _ _ => True := by
  have hnote : (noteInstallation outcome).Justified StageAllowed history
      fun _ after => Reports outcome.nextStatus after := by
    unfold noteInstallation
    split
    · refine ⟨trivial, fun complete => ?_⟩
      cases complete with
      | true => exact hreports.append rfl
      | false => exact ⟨trivial, fun _ => (hreports.append rfl).append rfl⟩
    · exact hreports
  refine hnote.bind fun _ after hafter => ?_
  dsimp only
  split
  · exact ⟨trivial, fun _ => ⟨trivial, fun _ => trivial⟩⟩
  · have hdrop : (dropsFinalizers outcome.obs).Justified StageAllowed after
        fun _ later => Reports outcome.nextStatus later := by
      unfold dropsFinalizers
      split
      · exact ⟨trivial, fun _ => hafter.append rfl⟩
      · exact hafter
    refine hdrop.bind fun drops later hlater => ?_
    split
    · exact ⟨trivial, fun _ => trivial⟩
    · exact updateStatus_reports hlater

theorem reconcileRequest_inTurn (key : ObjectKey) :
    (reconcileRequest key).Justified StageAllowed [] fun _ _ => True := by
  refine ⟨trivial, fun reply => ?_⟩
  rcases reply with error | obs
  · cases error <;> trivial
  have hholds : Holds obs obs [⟨.get key, .ok obs⟩] := ⟨rfl, rfl, rfl, rfl⟩
  have hneeds : (needsFinalizer obs).Justified StageAllowed
      [⟨.get key, .ok obs⟩] fun needs after => Holds obs obs after ∧
        stageRuns after = [] ∧ (needs = false → Finalized obs after) := by
    unfold needsFinalizer
    split
    next =>
      refine ⟨trivial, fun noInit => ⟨hholds.append _, rfl, ?_⟩⟩
      rintro rfl _ _
      simp
    next hsome =>
      exact ⟨hholds, rfl, fun _ hnone hempty => absurd ⟨hnone, hempty⟩ hsome⟩
  refine hneeds.bind fun needs after hafter => ?_
  obtain ⟨hafter, hresults, hnoInit⟩ := hafter
  split
  · exact ⟨trivial, fun _ => trivial⟩
  next hneither =>
    have hsome : (if obs.deletionTimestamp = none then getInstallationStages
        else getCleanupStages) ≠ [] := by
      split <;> exact List.cons_ne_nil _ _
    exact (runStages_inTurn _ [] hafter (hnoInit (by simpa using hneither))
      rfl (by simp [HavePassed, hresults]) fun hnil => absurd hnil hsome).bind
        fun outcome later hlater => concludePass_reports hlater

end Justification

/-! ## Every run -/

namespace Manager

variable {Meets : Manager → Move → Prop} {manager next : Manager}
  {thread : Thread ControllerCall.Reply Panic ReconcileResult}

theorem pass_of_move {move : Move} (hmove : manager.move move = some next)
    (hpass : next.pass = some thread) :
    manager.pass = some thread ∨ (∃ key, thread = ⟨reconcileRequest key, []⟩) ∨
      ∃ earlier op rest reply, manager.pass = some earlier ∧
        earlier.rest = .request op rest ∧
        thread = ⟨rest reply, earlier.history ++ [⟨op, reply⟩]⟩ := by
  cases move with
  | runPass choice =>
    obtain ⟨earlier, hearlier, hrest⟩ := Option.bind_eq_some_iff.mp hmove
    obtain ⟨⟨after, state⟩, hadvance, hnext⟩ :=
      Option.bind_eq_some_iff.mp hrest
    cases hnext
    cases hpass
    obtain ⟨op, rest, hcall, rfl, -⟩ := Thread.advance_eq_some hadvance
    exact .inr (.inr ⟨earlier, op, rest, _, hearlier, hcall, rfl⟩)
  | _ =>
    simp only [Manager.move, Option.bind_eq_bind, Option.bind_eq_some_iff,
      Option.map_eq_some_iff] at hmove
    grind

theorem Reached.inTurn (hreached : Reached Meets manager)
    (hpass : manager.pass = some thread) : thread.Justified StageAllowed := by
  induction hreached generalizing thread with
  | start => cases hpass
  | move _ _ hmove ih =>
    rcases pass_of_move hmove hpass with
      hsame | ⟨key, rfl⟩ | ⟨earlier, op, rest, reply, hearlier, hcall, rfl⟩
    · exact ih hsame
    · exact reconcileRequest_inTurn key
    · exact ((ih hearlier).request hcall).2 reply

/-- Whatever the initializer and others do in between, and however the calls
of the pass end. -/
theorem stages_in_turn {op : ControllerCall}
    {rest : op.Reply → Controller ReconcileResult}
    (hreached : Reached Meets manager) (hpass : manager.pass = some thread)
    (hcall : thread.rest = .request op rest) : StageAllowed thread.history op :=
  ((hreached.inTurn hpass).request hcall).1

def cleaning : Manager :=
  (run (fun _ _ => True)
    (untilDeletion ++ [.begin handMade.key, .runPass {}, .runPass {}])
      fresh).get rfl

theorem cleaning_in_turn : ∃ thread obs rest, cleaning.pass = some thread ∧
    thread.rest = .request (.cleanupStage .grafanaConfiguration obs) rest ∧
    StageAllowed thread.history (.cleanupStage .grafanaConfiguration obs) := by
  have hreached : Reached (fun _ _ => True) cleaning :=
    (fresh_reached _).of_run (Option.some_get _).symm
  exact ⟨_, _, _, rfl, rfl, stages_in_turn hreached rfl rfl⟩

end Manager

end ObservabilityOperator
