import ObservabilityOperator.StageFootprints

/-!
# The logging stage

If the namespace of cluster logging exists and logging is not switched off, the
stage subscribes to the operator of cluster logging, unless a Deployment shows
that it is there already.  What the stage has subscribed to carries a label,
and only then are the two custom resources of cluster logging written.
-/

namespace ObservabilityOperator

namespace LoggingInstallation

variable (cr : Observability)

def noInitConfigMapName : String := "observability-operator-no-init"

def loggingNamespace : String := "openshift-logging"

def managedByLabels : StringMap :=
  [("app.kubernetes.io/managed-by", "observability-operator")]

def fleetshardLabels : StringMap :=
  [("app.kubernetes.io/managed-by", "kas-fleetshard-operator")]

def getLoggingSubscription (_cr : Observability) : ObjectKey :=
  ⟨loggingNamespace, "cluster-logging"⟩

def newLoggingSubscription : Resource SubscriptionSpec where
  labels := managedByLabels
  spec := {}

def getClusterLoggingCR : ObjectKey := ⟨loggingNamespace, "instance"⟩

def newClusterLoggingCR : Resource ClusterLoggingSpec where
  labels := managedByLabels
  spec :=
    { managementState := "Managed"
      collectionType := "fluentd"
      memoryRequest := "736Mi"
      tolerations := "bf2.org/kafkaInstanceProfileType:Exists:NoExecute" }

def getClusterLogForwarderCR : ObjectKey := ⟨loggingNamespace, "instance"⟩

def newClusterLogForwarderCR : Resource ClusterLogForwarderSpec where
  spec := {}

def inLoggingNamespace : ListOptions where
  ns := some loggingNamespace

def managedInLoggingNamespace : ListOptions where
  ns := some loggingNamespace
  labels := managedByLabels

/-! ## Installing -/

/-- The installed version is part of the status and stays. -/
def subscribed (subscription : Resource SubscriptionSpec) :
    Resource SubscriptionSpec :=
  { subscription with
    spec :=
      { catalogSource := "redhat-operators"
        catalogSourceNamespace := "openshift-marketplace"
        package := "cluster-logging"
        channel := "stable"
        installPlanApproval := "Automatic"
        installedCsv := subscription.spec.installedCsv } }

def reconcileSubscription : Go Unit := do
  let _ ← upsert Kind.subscription (getLoggingSubscription cr)
    newLoggingSubscription subscribed

def checkLoggingSubscriptionForLabel : Go Bool := do
  let list ← Client.orFail
    (← Client.list Kind.subscription managedInLoggingNamespace)
  return list.length > 0

def getInstalledLoggingCSVName : Go String := do
  let list ← Client.orFail
    (← Client.list Kind.subscription managedInLoggingNamespace)
  match list with
  | [] => .fail (.panic .indexOutOfRange)
  | (_, subscription) :: _ => return subscription.spec.installedCsv

def isLoggingOperator (deployment : ObjectKey × Resource DeploymentSpec) :
    Bool :=
  GoStrings.hasPrefix deployment.1.name "cluster-logging-operator"

def waitForLoggingOperator : Go ObservabilityStageStatus := do
  let deployments ← Client.orFail
    (← Client.list Kind.deployment inLoggingNamespace)
  return if deployments.any fun deployment =>
      isLoggingOperator deployment && deployment.2.spec.readyReplicas > 0
    then .success else .inProgress

def createClusterLoggingCr : Go Unit := do
  let list ← Client.orFail
    (← Client.list Kind.clusterLogging inLoggingNamespace)
  let labelList ← Client.orFail
    (← Client.list Kind.clusterLogging managedInLoggingNamespace)
  if list = [] ∨ labelList ≠ [] then
    let _ ← upsert Kind.clusterLogging getClusterLoggingCR
      newClusterLoggingCR fun object => object
  else return ()

def operatorApplicationLogs : LogInput where
  name := "kafka-operator-application-logs"
  namespaces :=
    ["redhat-kas-fleetshard-operator", "redhat-managed-kafka-operator",
      "redhat-kas-fleetshard-operator-qe",
      "redhat-managed-kafka-operator-qe", "openshift-logging",
      "managed-application-services-observability"]

def cloudwatchOutput : LogOutput where
  name := "cloudwatch"
  type := "cloudwatch"
  region := "eu-west-1"
  groupBy := "logType"
  secretName := "clo-cloudwatchlogs-creds"

def appLogsPipeline : LogPipeline where
  name := "observability-app-logs"
  inputRefs := ["kafka-operator-application-logs", "kafka-log-resources"]
  outputRefs := ["cloudwatch"]

def findKafkaLogResourcesInput (inputs : List LogInput) : Option LogInput :=
  inputs.find? fun input => input.name == "kafka-log-resources"

/-- The inputs are set anew, so the input of the namespaces is added to
them. -/
def forwardedInputs (namespaces : List String) : List LogInput :=
  let inputs := [operatorApplicationLogs]
  match findKafkaLogResourcesInput inputs with
  | none => inputs ++ [⟨"kafka-log-resources", namespaces⟩]
  | some found => inputs.map fun input =>
    if input = found then { input with namespaces } else input

def forwarding (namespaces : List String)
    (forwarder : Resource ClusterLogForwarderSpec) :
    Resource ClusterLogForwarderSpec :=
  { forwarder with
    spec :=
      { inputs := forwardedInputs
          (namespaces.mergeSort fun first second => first ≤ second)
        outputs := [cloudwatchOutput]
        pipelines := [appLogsPipeline] } }

def createClusterLogForwarderCr : Go Unit := do
  let list ← Client.orFail
    (← Client.list Kind.clusterLogForwarder inLoggingNamespace)
  let labelList ← Client.orFail
    (← Client.list Kind.clusterLogForwarder managedInLoggingNamespace)
  if list = [] ∨ labelList ≠ [] then
    let namespaces ← Client.orFail
      (← Client.list Kind.nameSpace { labels := fleetshardLabels })
    let _ ← upsert Kind.clusterLogForwarder getClusterLogForwarderCR
      newClusterLogForwarderCR
        (forwarding (namespaces.map fun item => item.1.name))
  else return ()

/-- The resources are written where the stage has subscribed to the
operator. -/
def createResources : Go ObservabilityStageStatus := do
  if ← checkLoggingSubscriptionForLabel then
    createClusterLoggingCr
    createClusterLogForwarderCr
    return .success
  else return .success

def installLogging : Go ObservabilityStageStatus := do
  let deployments ← Client.orFail
    (← Client.list Kind.deployment inLoggingNamespace)
  if deployments.any isLoggingOperator then createResources
  else
    reconcileSubscription cr
    match ← waitForLoggingOperator with
    | .success => createResources
    | status => return status

def selfContainedMode : Go Bool := do
  match ← Client.get Kind.configMap ⟨cr.ns, noInitConfigMapName⟩ with
  | .ok _ => return true
  | .error .notFound => return false
  | .error error => Client.orFail (.error error)

def loggingUnset : Bool :=
  match cr.spec.selfContained with
  | some selfContained => selfContained.disableLogging.isNone
  | none => false

def reconcile : Go ObservabilityStageStatus := do
  if cr.descopedModeEnabled then return .success
  else if (← selfContainedMode cr) && loggingUnset cr then return .success
  else
    let selfContained ← Program.derefSpec cr.spec.selfContained
    if selfContained.disableLogging = some true then return .success
    else
      match ← Client.get Kind.nameSpace ⟨"", loggingNamespace⟩ with
      | .ok _ => installLogging cr
      | .error .notFound => return .success
      | .error error => Client.orFail (.error error)

/-- Delete all that the stage may have written.  The version is the one that
the subscription has installed. -/
def deleteLogging (installedCsv : String) : Go Unit := do
  Client.deleteIfFound Kind.subscription (getLoggingSubscription cr)
  Client.deleteIfFound Kind.clusterServiceVersion
    ⟨loggingNamespace, installedCsv⟩
  Client.deleteIfFound Kind.clusterLogging getClusterLoggingCR
  Client.deleteIfFound Kind.clusterLogForwarder getClusterLogForwarderCR

def cleanup : Go ObservabilityStageStatus := do
  if cr.descopedModeEnabled then return .success
  else if ← checkLoggingSubscriptionForLabel then
    let installedCsv ← getInstalledLoggingCSVName
    if installedCsv = "" then return .failed
    else
      deleteLogging cr installedCsv
      return .success
  else return .success

end LoggingInstallation

end ObservabilityOperator
