import ObservabilityOperator.OperatorTypes

/-!
# The controller and the initializer

The manager runs two things side by side.  The initializer looks once for the
ConfigMap that says that custom resources are created by hand, and keeps the
answer in the flag `noInit`; without the ConfigMap it creates or adopts an
operand.  The controller makes one pass after the other over custom resources
and runs the stages of an installation, or of a clean-up where the resource is
being deleted.
-/

namespace ObservabilityOperator

variable (obs : CustomResource)

def observabilityFinalizer : String := "observability-cleanup"

def noInitConfigMapName : String := "observability-operator-no-init"

def requeueDelaySuccess : ℕ := 10

def requeueDelayError : ℕ := 5

structure CustomResource where
  body : Observability
  finalizers : List String := []
  deletionTimestamp : Option Int := none
  resourceVersion : ℕ := 0
  deriving DecidableEq, Repr

def CustomResource.key : ObjectKey :=
  ⟨obs.body.ns, obs.body.name⟩

structure StageOutcome where
  status : ObservabilityStageStatus
  error : Option String := none
  labels : StringMap := []
  observed : ObservabilityStatus := {}
  deriving DecidableEq, Repr

/-- The calls of a pass and of the initializer. -/
inductive ControllerCall where
  | get (key : ObjectKey)
  | update (obs : CustomResource)
  | updateStatus (obs : CustomResource)
  | reconcileStage (stage : ObservabilityStageName) (obs : CustomResource)
      (nextStatus : ObservabilityStatus)
  | cleanupStage (stage : ObservabilityStageName) (obs : CustomResource)
  | noInit
  | assignNoInit (value : Bool)
  | installComplete
  | assignInstallComplete (value : Bool)
  | operatorNamespace
  | getConfigMap (key : ObjectKey)
  | getInfrastructure
  | listInstances
  | create (obs : CustomResource)

/-- The platform of the infrastructure is behind a pointer. -/
abbrev ControllerCall.Reply : ControllerCall → Type
  | .get _ => Except ApiError CustomResource
  | .update _ => Except ApiError Unit
  | .updateStatus _ => Except ApiError Unit
  | .reconcileStage _ _ _ => StageOutcome × ObservabilityStatus
  | .cleanupStage _ _ => StageOutcome
  | .noInit => Bool
  | .assignNoInit _ => Unit
  | .installComplete => Bool
  | .assignInstallComplete _ => Unit
  | .operatorNamespace => String
  | .getConfigMap _ => Except ApiError Unit
  | .getInfrastructure => Except ApiError (Option String)
  | .listInstances => Except ApiError (List CustomResource)
  | .create _ => Except ApiError Unit

abbrev Controller (α : Type) : Type :=
  Program ControllerCall.Reply Panic α

abbrev ControllerExchange : Type := Exchange ControllerCall.Reply

def call (op : ControllerCall) : Controller op.Reply := .request op .done

/-! ## A pass -/

def getInstallationStages : List ObservabilityStageName :=
  [.tokenRequest, .prometheusInstallation, .prometheusConfiguration,
    .grafanaInstallation, .grafanaConfiguration, .alertmanagerInstallation,
    .promtailInstallation, .loggingInstallation, .csv, .migration,
    .configuration]

def getCleanupStages : List ObservabilityStageName :=
  [.prometheusConfiguration, .grafanaConfiguration, .prometheusInstallation,
    .grafanaInstallation, .alertmanagerInstallation, .promtailInstallation,
    .loggingInstallation, .configuration, .tokenRequest, .csv]

structure ReconcileResult where
  requeue : Bool := false
  requeueAfter : ℕ := 0
  error : Option ApiError := none
  deriving DecidableEq, Repr

def errorOf (reply : Except ApiError Unit) : Option ApiError :=
  match reply with
  | .ok () => none
  | .error error => some error

structure StagesOutcome where
  obs : CustomResource
  nextStatus : ObservabilityStatus
  finished : Bool

def CustomResource.after (outcome : StageOutcome) : CustomResource :=
  { obs with
    body :=
      { obs.body with
        labels := outcome.labels
        status := outcome.observed } }

def runStage (stage : ObservabilityStageName) (obs : CustomResource)
    (nextStatus : ObservabilityStatus) :
    Controller (StageOutcome × ObservabilityStatus) :=
  if obs.deletionTimestamp = none then
    call (.reconcileStage stage obs nextStatus)
  else do
    let outcome ← call (.cleanupStage stage obs)
    return (outcome, nextStatus)

def runStages :
    List ObservabilityStageName → CustomResource → ObservabilityStatus →
      Controller StagesOutcome
  | [], obs, nextStatus => return ⟨obs, nextStatus, true⟩
  | stage :: rest, obs, nextStatus => do
    let (outcome, written) ←
      runStage stage obs { nextStatus with stage := some stage }
    let reported : ObservabilityStatus :=
      { written with
        lastMessage := outcome.error.getD ""
        stageStatus := some outcome.status }
    if outcome.status ≠ .success then
      return ⟨obs.after outcome, reported, false⟩
    else runStages rest (obs.after outcome) reported

def updateStatus (nextStatus : ObservabilityStatus) :
    Controller ReconcileResult := do
  let failed ← (if obs.body.status ≠ nextStatus then do
      let reply ← call (.updateStatus
        { obs with body := { obs.body with status := nextStatus } })
      return errorOf reply
    else .done none : Controller (Option ApiError))
  match failed with
  | some error =>
    return { requeue := true
             requeueAfter := requeueDelayError
             error := some error }
  | none => return { requeue := true, requeueAfter := requeueDelaySuccess }

/-- The flags are read only where the conditions before them hold. -/
def needsFinalizer : Controller Bool :=
  if obs.deletionTimestamp = none ∧ obs.finalizers = [] then call .noInit
  else .done false

def dropsFinalizers : Controller Bool :=
  if obs.finalizers ≠ [] then do
    let noInit ← call .noInit
    return !noInit
  else .done false

def noteInstallation (outcome : StagesOutcome) : Controller Unit :=
  if outcome.obs.deletionTimestamp = none ∧ outcome.finished then do
    if ← call .installComplete then return ()
    else call (.assignInstallComplete true)
  else .done ()

def concludePass (outcome : StagesOutcome) : Controller ReconcileResult := do
  noteInstallation outcome
  let obs := outcome.obs
  if obs.deletionTimestamp ≠ none ∧ outcome.finished then
    let reply ← call (.update { obs with finalizers := [] })
    call (.assignInstallComplete false)
    return { error := errorOf reply }
  else
    if ← dropsFinalizers obs then
      let reply ← call (.update { obs with finalizers := [] })
      return { requeue := true
               requeueAfter := requeueDelaySuccess
               error := errorOf reply }
    else updateStatus obs outcome.nextStatus

def reconcileFetched : Controller ReconcileResult := do
  if ← needsFinalizer obs then
    let reply ← call (.update
      { obs with finalizers := obs.finalizers ++ [observabilityFinalizer] })
    return { error := errorOf reply }
  else
    let stages := if obs.deletionTimestamp = none then getInstallationStages
      else getCleanupStages
    let outcome ← runStages stages obs obs.body.status
    concludePass outcome

def reconcileRequest (key : ObjectKey) : Controller ReconcileResult := do
  match ← call (.get key) with
  | .error .notFound => return {}
  | .error error => return { error := some error }
  | .ok obs => reconcileFetched obs

/-! ## The initializer -/

/-- What the operator creates by itself.  The flag says whether there is
storage. -/
def observabilityInstance (withStorage : Bool) (ns : String) :
    CustomResource where
  body :=
    { name := "observability-stack"
      ns := GoStrings.trimSpace ns
      labels := [("managed-by", "observability-operator")]
      spec :=
        { resyncPeriod := "1h"
          retention := "45d"
          storage := if withStorage then some
              { prometheusStorageSpec := some
                  { claimName := "managed-services"
                    requests := some [("storage", "250Gi")] } }
            else none
          selfContained := some
            { disableBlackboxExporter := some true
              disableSmtp := if withStorage then none else some true }
          configurationSelector := some
            { matchLabels := [("configures", "observability-operator")] } } }

def observabilityInstanceWithStorage : String → CustomResource :=
  observabilityInstance true

def observabilityInstanceWithoutStorage : String → CustomResource :=
  observabilityInstance false

/-- Everything but the name and the version is taken over, also the absence
of finalizers. -/
def updateOperand (existing target : CustomResource) : CustomResource :=
  { target with
    body := { target.body with name := existing.body.name }
    resourceVersion := existing.resourceVersion }

def noInitConfigmapExists (ns : String) :
    Controller (Except ApiError Bool) := do
  match ← call (.getConfigMap
    ⟨GoStrings.trimSpace ns, noInitConfigMapName⟩) with
  | .ok () => return .ok true
  | .error .notFound => return .ok false
  | .error error => return .error error

/-- The storage of every operand is judged by that of the first one. -/
def adoptOperands (target : CustomResource) (lacksStorage : Bool) :
    List CustomResource → Controller (Except ApiError Unit)
  | [] => return .ok ()
  | existing :: rest => do
    if existing.body.labels.get "managed-by" ≠ "observability-operator" ∨
        lacksStorage then
      match ← call (.update (updateOperand existing target)) with
      | .error error => return .error error
      | .ok () => adoptOperands target lacksStorage rest
    else adoptOperands target lacksStorage rest

/-- A cluster of which nothing is known, or one that runs on a laptop, has no
storage. -/
def runsOnCloud : Controller Bool := do
  match ← call .getInfrastructure with
  | .error _ => return false
  | .ok none => .fail .nilPointer
  | .ok (some platform) =>
    return decide (platform ≠ "Libvirt" ∧ platform ≠ "None")

def provideOperand (ns : String) : Controller (Except ApiError Unit) := do
  let runningOnCloud ← runsOnCloud
  let target := if runningOnCloud then observabilityInstanceWithStorage ns
    else observabilityInstanceWithoutStorage ns
  match ← call .listInstances with
  | .error error => return .error error
  | .ok [] => call (.create target)
  | .ok (first :: rest) =>
    let lacksStorage := (first.body.spec.storage.isNone ||
      first.body.spec.retention = "") && runningOnCloud
    adoptOperands target lacksStorage (first :: rest)

def initializeOperand : Controller (Except (GoError ApiError) Unit) := do
  let ns ← call .operatorNamespace
  if ns = "" then
    return .error (.text
      "unable to create operand: cannot detect operator namespace")
  else
    match ← noInitConfigmapExists ns with
    | .error error => return .error (.api error)
    | .ok exists? =>
      call (.assignNoInit exists?)
      if exists? then return .ok ()
      else
        match ← provideOperand ns with
        | .ok () => return .ok ()
        | .error error => return .error (.api error)

/-! ## The server and the operator process -/

/-- The stored resources and the flags of the operator. -/
structure ControllerState where
  stored : AList fun _ : ObjectKey => CustomResource
  revision : ℕ := 0
  noInit : Bool := false
  installComplete : Bool := false

namespace ControllerState

variable (state : ControllerState)

def find (key : ObjectKey) : Option CustomResource :=
  state.stored.lookup key

/-- Store an object with a version of its own.  One that is being deleted is
gone with its last finalizer. -/
def store : ControllerState :=
  { state with
    stored :=
      if obs.deletionTimestamp.isSome ∧ obs.finalizers = [] then
        state.stored.erase obs.key
      else
        state.stored.insert obs.key
          { obs with resourceVersion := state.revision + 1 }
    revision := state.revision + 1 }

def current : Except ApiError CustomResource :=
  match state.find obs.key with
  | none => .error .notFound
  | some stored =>
    if stored.resourceVersion = obs.resourceVersion then .ok stored
    else .error (.internal "the object has been modified")

/-- The status is not written, and the deletion is not taken back. -/
def acceptUpdate : Except ApiError ControllerState :=
  (state.current obs).map fun stored => state.store
    { stored with
      body := { obs.body with status := stored.body.status }
      finalizers := obs.finalizers }

def acceptStatus : Except ApiError ControllerState :=
  (state.current obs).map fun stored => state.store
    { stored with body := { stored.body with status := obs.body.status } }

def acceptCreate : Except ApiError ControllerState :=
  if (state.find obs.key).isSome then .error .alreadyExists
  else .ok (state.store { obs with deletionTimestamp := none })

/-- The reply to a write and the state after it.  A write that fails may have
gone through. -/
def settle (fault : Option Fault) (accepted : Except ApiError ControllerState) :
    Except ApiError Unit × ControllerState :=
  match fault, accepted with
  | none, .ok next => (.ok (), next)
  | none, .error error => (.error error, state)
  | some fault, .ok next =>
    (.error fault.failure.toError, if fault.applied then next else state)
  | some fault, .error _ => (.error fault.failure.toError, state)

end ControllerState

/-- How the outside answers one call. -/
structure Choice where
  fault : Option Fault := none
  outcome : StageOutcome := { status := .success }
  nextStatus : ObservabilityStatus := {}
  ns : String := ""
  infrastructure : Option String := none

/-- The ConfigMap that stops the initializer is there. -/
def Choice.answer (choice : Choice) :
    Handler ControllerCall.Reply ControllerState
  | .get key, state =>
    (withFault choice.fault (match state.find key with
      | some obs => .ok obs
      | none => .error .notFound), state)
  | .update obs, state => state.settle choice.fault (state.acceptUpdate obs)
  | .updateStatus obs, state =>
    state.settle choice.fault (state.acceptStatus obs)
  | .create obs, state => state.settle choice.fault (state.acceptCreate obs)
  | .reconcileStage _ _ _, state =>
    ((choice.outcome, choice.nextStatus), state)
  | .cleanupStage _ _, state => (choice.outcome, state)
  | .noInit, state => (state.noInit, state)
  | .assignNoInit value, state => ((), { state with noInit := value })
  | .installComplete, state => (state.installComplete, state)
  | .assignInstallComplete value, state =>
    ((), { state with installComplete := value })
  | .operatorNamespace, state => (choice.ns, state)
  | .getConfigMap _, state => (withFault choice.fault (.ok ()), state)
  | .getInfrastructure, state =>
    (withFault choice.fault (.ok choice.infrastructure), state)
  | .listInstances, state =>
    (withFault choice.fault
      (.ok (state.stored.entries.map fun entry => entry.2)), state)

/-! ## The manager -/

/-- The operator process: its initializer and at most one pass. -/
structure Manager where
  state : ControllerState
  initializer :
    Thread ControllerCall.Reply Panic (Except (GoError ApiError) Unit) :=
      ⟨initializeOperand, []⟩
  pass : Option (Thread ControllerCall.Reply Panic ReconcileResult) := none

/-- What can happen next.  Others create, edit and delete resources. -/
inductive Move where
  | restart
  | runInitializer (choice : Choice)
  | begin (key : ObjectKey)
  | runPass (choice : Choice)
  | finish
  | create (obs : CustomResource)
  | edit (obs : CustomResource)
  | delete (key : ObjectKey) (time : Int)

namespace Manager

def edited (state : ControllerState) (obs : CustomResource) :
    Option ControllerState :=
  match state.find obs.key with
  | none => none
  | some stored =>
    if observabilityFinalizer ∈ stored.finalizers →
        observabilityFinalizer ∈ obs.finalizers then
      some (state.store
        { obs with deletionTimestamp := stored.deletionTimestamp })
    else none

def deleted (state : ControllerState) (key : ObjectKey) (time : Int) :
    Option ControllerState :=
  match state.find key with
  | none => none
  | some stored =>
    if stored.deletionTimestamp = none then
      some (state.store { stored with deletionTimestamp := some time })
    else some state

/-- The manager after a move, if the move is possible.  There is one pass at a
time. -/
def move (manager : Manager) : Move → Option Manager
  | .restart => some
      { state :=
          { manager.state with noInit := false, installComplete := false } }
  | .runInitializer choice => do
    let (initializer, state) ←
      manager.initializer.advance choice.answer manager.state
    return { manager with initializer, state }
  | .begin key =>
    if manager.pass.isNone then
      some { manager with pass := some ⟨reconcileRequest key, []⟩ }
    else none
  | .runPass choice => do
    let (pass, state) ← (← manager.pass).advance choice.answer manager.state
    return { manager with pass := some pass, state }
  | .finish =>
    match manager.pass with
    | some ⟨.done _, _⟩ => some { manager with pass := none }
    | _ => none
  | .create obs =>
    match manager.state.acceptCreate obs with
    | .ok state => some { manager with state }
    | .error _ => none
  | .edit obs =>
    (edited manager.state obs).map fun state => { manager with state }
  | .delete key time =>
    (deleted manager.state key time).map fun state =>
      { manager with state }

end Manager

end ObservabilityOperator
