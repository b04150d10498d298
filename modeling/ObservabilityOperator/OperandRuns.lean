import ObservabilityOperator.InstallationCalls
import ObservabilityOperator.ObservabilityWebhook

/-!
# Runs of the operator over one custom resource

From its creation to its deletion a custom resource is seen by stages of
installations and of clean-ups.  Calls fail or go through unnoticed, the
webhook lets updates of the custom resource pass, and others change the
cluster.  What the operator has created in the course of such a run is kept in
a list, so that one can ask what is left of it at the end.
-/

namespace ObservabilityOperator

/-! ## What has been created -/

def newlyCreated (call : ApiCall Kind.Spec Action) (before after : Cluster) :
    List (Kind × ObjectKey) :=
  match call with
  | .create kind key _ =>
    if (before.find kind key).isNone ∧ (after.find kind key).isSome then
      [(kind, key)]
    else []
  | _ => []

abbrev Tracked : Type := Cluster × List (Kind × ObjectKey)

def tracking (env : Surroundings) :
    Handler (ApiCall.Reply Kind.Spec Action.Reply) Tracked :=
  fun call state =>
    ((serve env.environment call state.1).1,
      ((serve env.environment call state.1).2,
        state.2 ++ newlyCreated call state.1
          (serve env.environment call state.1).2))

section Tracking

variable {α : Type} {env : Surroundings} {program : Go α}

theorem mem_newlyCreated {call : ApiCall Kind.Spec Action}
    {before after : Cluster} {kind : Kind} {key : ObjectKey}
    (hmem : (kind, key) ∈ newlyCreated call before after) :
    (∃ object, call = .create kind key object) ∧
      before.find kind key = none := by
  cases call with
  | create other name object =>
    simp only [newlyCreated] at hmem
    split at hmem
    next hnew =>
      cases List.mem_singleton.mp hmem
      exact ⟨⟨object, rfl⟩, Option.isNone_iff_eq_none.mp hnew.1⟩
    next => cases hmem
  | _ => cases hmem

theorem run_tracking (state : Tracked) :
    (program.run (tracking env) state).1 = (env.run program state.1).1 ∧
      (program.run (tracking env) state).2.1 = (env.run program state.1).2 := by
  induction program generalizing state with
  | done value => exact ⟨rfl, rfl⟩
  | fail error => exact ⟨rfl, rfl⟩
  | request call rest ih => exact ih _ _

theorem mem_of_run_tracking {allowed : ApiCall Kind.Spec Action → Prop}
    (huses : program.Uses allowed) {state : Tracked} {kind : Kind}
    {key : ObjectKey}
    (hmem : (kind, key) ∈ (program.run (tracking env) state).2.2) :
    (kind, key) ∈ state.2 ∨ ∃ object, allowed (.create kind key object) := by
  refine huses.run_preserves (fun before next : Tracked =>
    (kind, key) ∈ next.2 → (kind, key) ∈ before.2 ∨
      ∃ object, allowed (.create kind key object))
    (fun _ => .inl) ?_ ?_ state hmem
  · intro first second third hfirst hsecond hthird
    rcases hsecond hthird with hbetween | hcreated
    · exact hfirst hbetween
    · exact .inr hcreated
  · intro call hcall before hnext
    rcases List.mem_append.mp hnext with hbefore | hnew
    · exact .inl hbefore
    · obtain ⟨⟨object, rfl⟩, -⟩ := mem_newlyCreated hnew
      exact .inr ⟨object, hcall⟩

end Tracking

/-! ## Moves -/

structure OperandState where
  cr : Observability
  tracked : Tracked

inductive OperandMove where
  | install (platform : Platform) (order : IterationOrder)
      (env : Surroundings) (stage : ObservabilityStageName)
      (migrated : Bool)
  | cleanup (platform : Platform) (order : IterationOrder)
      (env : Surroundings) (stage : ObservabilityStageName)
  | edit (cr : Observability)
  | others (cluster : Cluster)

namespace OperandState

def next (state : OperandState) : OperandMove → OperandState
  | .install platform order env stage migrated =>
    { state with
      tracked := (((getReconcilerForStage platform order stage).reconcile
        state.cr migrated).run (tracking env) state.tracked).2 }
  | .cleanup platform order env stage =>
    { state with
      tracked := (((getReconcilerForStage platform order stage).cleanup
        state.cr).run (tracking env) state.tracked).2 }
  | .edit cr => { state with cr }
  | .others cluster => { state with tracked := (cluster, state.tracked.2) }

/-- An edit has to pass the webhook. -/
def Admits (state : OperandState) : OperandMove → Prop
  | .edit cr => AcceptsUpdate state.cr cr ∧ cr.name = state.cr.name ∧
      cr.ns = state.cr.ns
  | _ => True

/-- What is come to by admitted moves that meet the condition. -/
inductive Reached (Meets : OperandState → OperandMove → Prop) :
    OperandState → Prop where
  | start (cr : Observability) (cluster : Cluster) :
      Reached Meets ⟨cr, (cluster, [])⟩
  | move {state : OperandState} (move : OperandMove)
      (hreached : Reached Meets state) (hadmits : state.Admits move)
      (hmeets : Meets state move) : Reached Meets (state.next move)

theorem Reached.invariant {Meets : OperandState → OperandMove → Prop}
    {Inv : OperandState → Prop} (hstart : ∀ cr cluster, Inv ⟨cr, (cluster, [])⟩)
    (hmove : ∀ state move, state.Admits move → Meets state move →
      Inv state → Inv (state.next move))
    {state : OperandState} (hreached : Reached Meets state) : Inv state := by
  induction hreached with
  | start cr cluster => exact hstart cr cluster
  | move move hreached hadmits hmeets ih =>
    exact hmove _ move hadmits hmeets ih

/-- A pass over all clean-up stages succeeds and leaves this cluster. -/
def CleansUp (state : OperandState) (platform : Platform)
    (order : IterationOrder) (env : Surroundings)
    (after : Cluster) : Prop :=
  env.run (cleanupPass platform order state.cr getCleanupStages)
    state.tracked.1 = (.ok .success, after)

def after (state : OperandState) (moves : List OperandMove) : OperandState :=
  moves.foldl next state

end OperandState

end ObservabilityOperator
