import ObservabilityOperator.StageFootprints

/-!
# The stages that install operators

The operators of Prometheus and Grafana come from catalogs.  Their stages write
a catalog source, a subscription and an operator group and wait for the
Deployment of the operator.  An operator that an earlier version of this one
has installed from elsewhere is removed first.
-/

namespace ObservabilityOperator

variable (cr : Observability)

def Client.listFound (kind : Kind) (options : ListOptions) :
    Go (List (ObjectKey × Resource kind.Spec)) := do
  match ← Client.list kind options with
  | .error .notFound => return []
  | result => Client.orFail result

def hasOperatorGroupForNamespace (ns : String) : Go Bool := do
  let list ← Client.orFail (← Client.list Kind.operatorGroup { ns := some ns })
  return list.any fun group => group.2.spec.targetNamespaces.any (· == ns)

def waitForOperator (ns name : String) : Go ObservabilityStageStatus := do
  let deployments ← Client.orFail
    (← Client.list Kind.deployment { ns := some ns })
  return if deployments.any fun deployment =>
      deployment.1.name == name && deployment.2.spec.readyReplicas > 0
    then .success else .inProgress

def servedFrom (image : String) (source : Resource CatalogSourceSpec) :
    Resource CatalogSourceSpec :=
  { source with
    spec :=
      { sourceType := "grpc"
        image := image
        securityContextConfig := "restricted" } }

/-! ## The operator of Prometheus -/

namespace PrometheusInstallation

def getPrometheusNamespace : ObjectKey :=
  ⟨"", cr.getPrometheusOperatorNamespace⟩

def getPrometheusOperatorgroup : ObjectKey :=
  ⟨cr.getPrometheusOperatorNamespace, "observability-operatorgroup"⟩

def getPrometheusSubscription : ObjectKey :=
  ⟨cr.getPrometheusOperatorNamespace, "prometheus-subscription"⟩

def getPrometheusCatalogSource : ObjectKey :=
  ⟨cr.getPrometheusOperatorNamespace, "prometheus-catalogsource"⟩

def getPrometheusOperatorResourceRequirement : Document :=
  (cr.spec.selfContained.bind
    SelfContained.prometheusOperatorResourceRequirement).getD ""

def reconcileNamespace : Go Unit := do
  if cr.descopedModeEnabled then
    let _ ← upsert Kind.nameSpace (getPrometheusNamespace cr)
      Kind.nameSpace.blank fun object => object
  else return ()

def deleteNamespace : Go Unit := do
  if cr.descopedModeEnabled then
    Client.deleteIfFound Kind.nameSpace (getPrometheusNamespace cr)
  else return ()

def unwantedVersion : ObjectKey :=
  ⟨cr.getPrometheusOperatorNamespace, "prometheusoperator.0.56.3"⟩

def removePrometheusOperatorResources : Go Unit := do
  Client.deleteIfFound Kind.subscription (getPrometheusSubscription cr)
  Client.deleteIfFound Kind.clusterServiceVersion (unwantedVersion cr)

/-- Without the catalog source, the operator comes from elsewhere. -/
def removeUnwanted : Go Unit := do
  match ← Client.get Kind.catalogSource (getPrometheusCatalogSource cr) with
  | .ok _ => return ()
  | .error .notFound => removePrometheusOperatorResources cr
  | .error error => Client.orFail (.error error)

def reconcileCatalogSource : Go Unit := do
  removeUnwanted cr
  let _ ← upsert Kind.catalogSource (getPrometheusCatalogSource cr)
    Kind.catalogSource.blank
      (servedFrom "quay.io/integreatly/custom-prometheus-index:2.0.0")

/-- The installed version is part of the status and stays. -/
def subscribed (subscription : Resource SubscriptionSpec) :
    Resource SubscriptionSpec :=
  { subscription with
    spec :=
      { catalogSource := (getPrometheusCatalogSource cr).name
        catalogSourceNamespace := cr.getPrometheusOperatorNamespace
        package := "prometheus"
        channel := "preview"
        installPlanApproval := "Automatic"
        resources := some (getPrometheusOperatorResourceRequirement cr)
        installedCsv := subscription.spec.installedCsv } }

def reconcileSubscription : Go Unit := do
  let _ ← upsert Kind.subscription (getPrometheusSubscription cr)
    Kind.subscription.blank (subscribed cr)

/-- The groups of the namespace of the custom resource are looked at, wherever
the operator is installed. -/
def reconcileOperatorgroup : Go Unit := do
  if ← hasOperatorGroupForNamespace cr.ns then return ()
  else
    let _ ← upsert Kind.operatorGroup (getPrometheusOperatorgroup cr)
      Kind.operatorGroup.blank fun group =>
        { group with
          spec :=
            { targetNamespaces := [cr.getPrometheusOperatorNamespace] } }

def reconcile : Go ObservabilityStageStatus := do
  reconcileNamespace cr
  reconcileCatalogSource cr
  reconcileSubscription cr
  reconcileOperatorgroup cr
  waitForOperator cr.getPrometheusOperatorNamespace "prometheus-operator"

def cleanup : Go ObservabilityStageStatus := do
  Client.deleteIfFound Kind.subscription (getPrometheusSubscription cr)
  Client.deleteIfFound Kind.operatorGroup (getPrometheusOperatorgroup cr)
  Client.deleteIfFound Kind.catalogSource (getPrometheusCatalogSource cr)
  deleteNamespace cr
  return .success

end PrometheusInstallation

/-! ## The operator of Grafana -/

namespace GrafanaInstallation

def grafanaOperatorDefaultVersion : String := "v3.10.8"

def getGrafanaCatalogSource : ObjectKey :=
  ⟨cr.ns, "grafana-operator-catalog-source"⟩

def getGrafanaSubscription : ObjectKey :=
  ⟨cr.ns, "grafana-subscription"⟩

def getGrafanaOperatorGroup : ObjectKey :=
  ⟨cr.ns, "observability-operatorgroup"⟩

def getGrafanaOperatorResourceRequirement : Document :=
  (cr.spec.selfContained.bind
    SelfContained.grafanaOperatorResourceRequirement).getD ""

def isOldSubscription (subscription : ObjectKey × Resource SubscriptionSpec) :
    Bool :=
  subscription.1.name == (getGrafanaSubscription cr).name &&
    subscription.2.spec.catalogSourceNamespace == "openshift-marketplace" &&
    subscription.2.spec.catalogSource == "community-operators"

def isGrafanaVersion (csv : ObjectKey × Resource ClusterServiceVersionSpec) :
    Bool :=
  csv.1.ns == cr.ns && GoStrings.hasPrefix csv.1.name "grafana-operator."

/-- Versions are looked at only if an old subscription was found, and one of
them is deleted. -/
def deleteUnrequestedSubscriptions : Go ObservabilityStageStatus := do
  let list ← Client.orFail
    (← Client.list Kind.subscription { ns := some cr.ns })
  Program.forEach list fun subscription =>
    if isOldSubscription cr subscription then do
      Client.orFail (← Client.delete Kind.subscription subscription.1)
    else return ()
  if list.any (isOldSubscription cr) then
    let csvList ← Client.orFail
      (← Client.list Kind.clusterServiceVersion { ns := some cr.ns })
    match csvList.find? (isGrafanaVersion cr) with
    | some csv =>
      Client.deleteIfFound Kind.clusterServiceVersion csv.1
      return .inProgress
    | none => return .success
  else return .success

def reconcileCatalogSource : Go Unit := do
  let _ ← upsert Kind.catalogSource (getGrafanaCatalogSource cr)
    Kind.catalogSource.blank (servedFrom
      ("quay.io/rhoas/grafana-operator-index:" ++
        grafanaOperatorDefaultVersion))

def subscribed (subscription : Resource SubscriptionSpec) :
    Resource SubscriptionSpec :=
  { subscription with
    spec :=
      { catalogSource := (getGrafanaCatalogSource cr).name
        catalogSourceNamespace := (getGrafanaCatalogSource cr).ns
        package := "grafana-operator"
        channel := "alpha"
        startingCsv := "grafana-operator." ++ grafanaOperatorDefaultVersion
        resources := some (getGrafanaOperatorResourceRequirement cr)
        installedCsv := subscription.spec.installedCsv } }

def reconcileSubscription : Go Unit := do
  let _ ← upsert Kind.subscription (getGrafanaSubscription cr)
    Kind.subscription.blank (subscribed cr)

def reconcileOperatorgroup : Go Unit := do
  if ← hasOperatorGroupForNamespace cr.ns then return ()
  else
    let _ ← upsert Kind.operatorGroup (getGrafanaOperatorGroup cr)
      Kind.operatorGroup.blank fun group =>
        { group with spec := { targetNamespaces := [cr.ns] } }

def reconcile : Go ObservabilityStageStatus := do
  if cr.descopedModeEnabled then return .success
  else
    match ← deleteUnrequestedSubscriptions cr with
    | .success =>
      reconcileCatalogSource cr
      reconcileSubscription cr
      reconcileOperatorgroup cr
      waitForOperator cr.ns "grafana-operator"
    | status => return status

def cleanup : Go ObservabilityStageStatus := do
  if cr.descopedModeEnabled then return .success
  else
    Client.deleteIfFound Kind.catalogSource (getGrafanaCatalogSource cr)
    Client.deleteIfFound Kind.subscription (getGrafanaSubscription cr)
    Client.deleteIfFound Kind.operatorGroup (getGrafanaOperatorGroup cr)
    let deployments ← Client.orFail
      (← Client.list Kind.deployment { ns := some cr.ns })
    Program.forEach deployments fun deployment =>
      if deployment.1.name = "grafana-operator" then
        Client.deleteIfFound Kind.deployment deployment.1
      else return ()
    return .success

end GrafanaInstallation

namespace CsvStage

def isPrometheusVersion (csv : ObjectKey × Resource ClusterServiceVersionSpec) :
    Bool :=
  csv.1.ns == cr.ns && GoStrings.hasPrefix csv.1.name "prometheusoperator."

/-- Every Deployment of this name gets the priority class, and the version is
written each time. -/
def updateDeployments (key : ObjectKey) (labels annotations : StringMap)
    (name : String) (seen : StringMap) : StringMap → Go Unit
  | [] => return ()
  | (deployment, priorityClassName) :: rest => do
    if deployment = name then
      let updated := (deployment, observabilityPriorityClassName)
      Client.orFail (← Client.update Kind.clusterServiceVersion key
        { labels, annotations,
          spec := { deployments := seen ++ updated :: rest } })
      updateDeployments key labels annotations name (seen ++ [updated]) rest
    else
      updateDeployments key labels annotations name
        (seen ++ [(deployment, priorityClassName)]) rest

def updatePriority (csv : ObjectKey × Resource ClusterServiceVersionSpec)
    (applies : Bool) (name : String) : Go Unit :=
  if applies then
    updateDeployments csv.1 csv.2.labels csv.2.annotations name []
      csv.2.spec.deployments
  else .done ()

def reconcile : Go ObservabilityStageStatus := do
  let list ← Client.listFound Kind.clusterServiceVersion { ns := some cr.ns }
  Program.forEach list fun csv => do
    updatePriority csv (GrafanaInstallation.isGrafanaVersion cr csv)
      "grafana-operator"
    updatePriority csv (isPrometheusVersion cr csv) "prometheus-operator"
  return .success

def cleanup : Go ObservabilityStageStatus := do
  let list ← Client.listFound Kind.clusterServiceVersion { ns := some cr.ns }
  match list.find? fun csv =>
      GrafanaInstallation.isGrafanaVersion cr csv ||
        isPrometheusVersion cr csv with
  | some csv =>
    Client.deleteIfFound Kind.clusterServiceVersion csv.1
    return .inProgress
  | none => return .success

end CsvStage

end ObservabilityOperator
