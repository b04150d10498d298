import ObservabilityOperator.OperatorInstallation

/-!
# The stages of the components

What Prometheus, Alertmanager, Grafana and Promtail need besides their custom
resources: the secrets of the proxies, service accounts, permissions, services
and routes.
-/

namespace ObservabilityOperator

variable (platform : Platform) (cr : Observability)

def waitForRemoval (kind : Kind) (ns name : String) :
    Go ObservabilityStageStatus := do
  let list ← Client.listFound kind { ns := some ns }
  return if list.any fun item => item.1.name == name then .inProgress
    else .success

def waitForGrafanaToBeRemoved : Go ObservabilityStageStatus :=
  waitForRemoval .deployment cr.ns "grafana-deployment"

def waitForAlertmanagerToBeRemoved : Go ObservabilityStageStatus :=
  waitForRemoval .statefulSet cr.ns
    ("alertmanager-" ++ (getAlertmanagerCr cr).name)

def waitForPrometheusToBeRemoved : Go ObservabilityStageStatus :=
  waitForRemoval .statefulSet cr.ns ("prometheus-" ++ (getPrometheus cr).name)

def waitForRoute (key : ObjectKey) : Go ObservabilityStageStatus := do
  match ← Client.get Kind.route key with
  | .error .notFound => return .inProgress
  | .error error => Client.orFail (.error error)
  | .ok route => return if isRouteReady route.spec then .success
      else .inProgress

/-! ## Objects of the same shape -/

def withSessionSecret (length : ℕ) (secret : Resource SecretSpec) :
    Resource SecretSpec :=
  if secret.spec.data = [] then
    { secret with
      spec := { data :=
        [("session_secret", platform.generateRandomString length)] } }
  else secret

def reconcileProxySecret (key : ObjectKey) (length : ℕ) : Go Unit := do
  let _ ← upsert Kind.secret key Kind.secret.blank
    (withSessionSecret platform length)

def redirectReference (route : ObjectKey) : StringMap :=
  [("serviceaccounts.openshift.io/oauth-redirectreference.primary",
    "\x7b\"kind\":\"OAuthRedirectReference\",\"apiVersion\":\"v1\"," ++
      "\"reference\":\x7b\"kind\":\"Route\",\"name\":\"" ++ route.name ++
      "\"\x7d\x7d")]

/-- Only a service account that is created gets the annotations. -/
def reconcileServiceAccount (key : ObjectKey) (annotations : StringMap) :
    Go Unit := do
  let _ ← upsert Kind.serviceAccount key { annotations, spec := () }
    fun account => account

def reconcileClusterRole (key : ObjectKey) (rules : List PolicyRule) :
    Go Unit := do
  let _ ← upsert Kind.clusterRole key Kind.clusterRole.blank fun role =>
    { role with spec := { rules } }

def reconcileClusterRoleBinding (key account role : ObjectKey) :
    Go Unit := do
  let _ ← upsert Kind.clusterRoleBinding key Kind.clusterRoleBinding.blank
    fun binding =>
      { binding with
        spec :=
          { subjects := [{ name := account.name, ns := account.ns }]
            roleRef := some { name := role.name } } }

def servingCertSecret (name : String) : StringMap :=
  [("service.alpha.openshift.io/serving-cert-secret-name", name)]

def reconcileService (key : ObjectKey) (certSecret : String)
    (selector : StringMap) (ports : List ServicePort) : Go Unit := do
  let _ ← upsert Kind.service key Kind.service.blank fun service =>
    { service with
      annotations := servingCertSecret certSecret
      spec := { ports, selector } }

def routed (service : ObjectKey) (route : Resource RouteSpec) :
    Resource RouteSpec :=
  { route with
    spec :=
      { route.spec with
        toService := service.name
        targetPort := "web"
        wildcardPolicy := "None"
        tlsTermination := "reencrypt" } }

/-- A route that somebody else has created in the meantime is accepted. -/
def reconcileRoute (key service : ObjectKey) : Go Unit := do
  match ← (upsert Kind.route key Kind.route.blank (routed service) :
      Go (Resource RouteSpec)).attempt with
  | .ok _ => return ()
  | .error (.api .alreadyExists) => return ()
  | .error error => .fail (.error error)

def subjectAccessReviews : PolicyRule where
  verbs := ["create"]
  apiGroups := ["authorization.k8s.io"]
  resources := ["subjectaccessreviews"]

def tokenReviews : PolicyRule where
  verbs := ["create"]
  apiGroups := ["authentication.k8s.io"]
  resources := ["tokenreviews"]

namespace TokenStage

def reconcile : Go ObservabilityStageStatus := .done .success

def cleanup : Go ObservabilityStageStatus := do
  Client.deleteIfFound Kind.secret ⟨cr.ns, "observatorium-credentials"⟩
  return .success

end TokenStage

/-! ## Prometheus -/

namespace PrometheusConfiguration

def getPrometheusAuthTokenLifetimes : ObjectKey :=
  ⟨cr.ns, "observatorium-token-lifetimes"⟩

def getPrometheusTLSSecret : ObjectKey :=
  ⟨cr.getPrometheusOperatorNamespace, "prometheus-k8s-tls"⟩

def getPrometheusService : ObjectKey :=
  ⟨cr.getPrometheusOperatorNamespace, getDefaultNamePrometheus cr⟩

def getPrometheusClusterRole : ObjectKey :=
  ⟨"", getDefaultNamePrometheus cr⟩

def getPrometheusClusterRoleBinding : ObjectKey :=
  ⟨"", getDefaultNamePrometheus cr⟩

def clusterRoleRules : List PolicyRule :=
  [{ verbs := ["get", "list", "watch"]
     apiGroups := [""]
     resources := ["services", "endpoints", "pods"] },
    subjectAccessReviews,
    tokenReviews,
    { verbs := ["get"]
      apiGroups := [""]
      resources := ["configmaps", "namespaces"] },
    { verbs := ["get"]
      nonResourceUrls := ["/metrics"] }]

def servicePorts : List ServicePort :=
  [{ name := "web", port := 9091, targetPortName := "proxy" },
    { name := "upstream", port := 9090, targetPortName := "web" }]

/-- The identifier is assigned to the next status and to the custom resource
in memory. -/
def fetchClusterId : Go Unit := do
  if cr.status.clusterId ≠ "" then return ()
  else if cr.spec.clusterId ≠ "" then assignClusterId cr.spec.clusterId
  else
    let version ← Client.orFail
      (← Client.get Kind.clusterVersion ⟨"", "version"⟩)
    assignClusterId version.spec.clusterId

def reconcileTokenLifetimeStorage : Go Unit := do
  let _ ← upsert Kind.configMap (getPrometheusAuthTokenLifetimes cr)
    Kind.configMap.blank fun configMap =>
      { configMap with labels := managedLabels }

def reconcile : Go ObservabilityStageStatus := do
  reconcileProxySecret platform (getPrometheusProxySecret cr) 64
  reconcileServiceAccount (getPrometheusServiceAccount cr)
    (redirectReference (getPrometheusRoute cr))
  reconcileClusterRole (getPrometheusClusterRole cr) clusterRoleRules
  reconcileClusterRoleBinding (getPrometheusClusterRoleBinding cr)
    (getPrometheusServiceAccount cr) (getPrometheusClusterRole cr)
  reconcileService (getPrometheusService cr) "prometheus-k8s-tls"
    [("prometheus", (getPrometheus cr).name)] servicePorts
  reconcileRoute (getPrometheusRoute cr) (getPrometheusService cr)
  match ← waitForRoute (getPrometheusRoute cr) with
  | .success =>
    fetchClusterId cr
    reconcileTokenLifetimeStorage cr
    return .success
  | status => return status

def cleanup : Go ObservabilityStageStatus := do
  Client.deleteIfFound Kind.secret (getPrometheusAdditionalScrapeConfig cr)
  Client.deleteIfFound Kind.route (getPrometheusRoute cr)
  Client.deleteIfFound Kind.prometheus (getPrometheus cr)
  match ← waitForPrometheusToBeRemoved cr with
  | .success =>
    Client.deleteIfFound Kind.clusterRoleBinding
      (getPrometheusClusterRoleBinding cr)
    Client.deleteIfFound Kind.clusterRole (getPrometheusClusterRole cr)
    Client.deleteIfFound Kind.serviceAccount (getPrometheusServiceAccount cr)
    Client.deleteIfFound Kind.service (getPrometheusService cr)
    Client.deleteIfFound Kind.secret (getPrometheusProxySecret cr)
    Client.deleteIfFound Kind.secret (getPrometheusTLSSecret cr)
    return .success
  | status => return status

end PrometheusConfiguration

namespace AlertmanagerInstallation

def getAlertmanagerTLSSecret : ObjectKey :=
  ⟨cr.getPrometheusOperatorNamespace, "alertmanager-k8s-tls"⟩

def getAlertmanagerClusterRole : ObjectKey :=
  ⟨"", getDefaultNameAlertmanager cr⟩

def getAlertmanagerClusterRoleBinding : ObjectKey :=
  ⟨"", getDefaultNameAlertmanager cr⟩

def clusterRoleRules : List PolicyRule := [subjectAccessReviews, tokenReviews]

def servicePorts : List ServicePort :=
  [{ name := "web", protocol := "TCP", port := 9091,
     targetPortName := "proxy" }]

def reconcile : Go ObservabilityStageStatus := do
  reconcileProxySecret platform (getAlertmanagerProxySecret cr) 64
  reconcileServiceAccount (getAlertmanagerServiceAccount cr)
    (redirectReference (getAlertmanagerRoute cr))
  reconcileClusterRole (getAlertmanagerClusterRole cr) clusterRoleRules
  reconcileClusterRoleBinding (getAlertmanagerClusterRoleBinding cr)
    (getAlertmanagerServiceAccount cr) (getAlertmanagerClusterRole cr)
  reconcileService (getAlertmanagerService cr) "alertmanager-k8s-tls"
    [("alertmanager", (getAlertmanagerCr cr).name)] servicePorts
  reconcileRoute (getAlertmanagerRoute cr) (getAlertmanagerService cr)
  waitForRoute (getAlertmanagerRoute cr)

def cleanup : Go ObservabilityStageStatus := do
  Client.deleteIfFound Kind.alertmanager (getAlertmanagerCr cr)
  match ← waitForAlertmanagerToBeRemoved cr with
  | .success =>
    Client.deleteIfFound Kind.secret (getAlertmanagerSecret cr)
    Client.deleteIfFound Kind.secret (getAlertmanagerProxySecret cr)
    Client.deleteIfFound Kind.secret (getAlertmanagerTLSSecret cr)
    Client.deleteIfFound Kind.route (getAlertmanagerRoute cr)
    Client.deleteIfFound Kind.service (getAlertmanagerService cr)
    Client.deleteIfFound Kind.serviceAccount (getAlertmanagerServiceAccount cr)
    Client.deleteIfFound Kind.clusterRole (getAlertmanagerClusterRole cr)
    Client.deleteIfFound Kind.clusterRoleBinding
      (getAlertmanagerClusterRoleBinding cr)
    return .success
  | status => return status

end AlertmanagerInstallation

/-! ## Grafana -/

namespace GrafanaConfiguration

def getGrafanaProxySecret : ObjectKey :=
  ⟨cr.ns, "grafana-k8s-proxy"⟩

def getGrafanaClusterRole (_cr : Observability) : ObjectKey :=
  ⟨"", "grafana-oauth-proxy-cluster-role"⟩

def getGrafanaClusterRoleBinding (_cr : Observability) : ObjectKey :=
  ⟨"", "cluster-grafana-oauth-proxy-cluster-role-binding"⟩

def getGrafanaDatasource : ObjectKey :=
  ⟨cr.ns, "on-cluster-prometheus"⟩

def grafanaServiceAccount : ObjectKey :=
  ⟨cr.ns, "grafana-serviceaccount"⟩

def clusterRoleRules : List PolicyRule := [tokenReviews, subjectAccessReviews]

def prometheusDatasource : GrafanaDataSourceFields where
  name := "Prometheus"
  type := "prometheus"
  access := "proxy"
  url := "http://prometheus-operated." ++ cr.ns ++ ":9090"
  isDefault := true
  version := 1
  editable := true
  tlsSkipVerify := true
  timeInterval := "10s"

def reconcileGrafanaDatasource : Go Unit := do
  let _ ← upsert Kind.grafanaDataSource (getGrafanaDatasource cr)
    Kind.grafanaDataSource.blank fun datasource =>
      { datasource with
        spec :=
          { name := "obs-prometheus.yaml"
            datasources := [prometheusDatasource cr] } }

def reconcile : Go ObservabilityStageStatus := do
  if cr.descopedModeEnabled then return .success
  else
    reconcileProxySecret platform (getGrafanaProxySecret cr) 32
    reconcileClusterRole (getGrafanaClusterRole cr) clusterRoleRules
    reconcileClusterRoleBinding (getGrafanaClusterRoleBinding cr)
      (grafanaServiceAccount cr) (getGrafanaClusterRole cr)
    reconcileGrafanaDatasource cr
    return .success

def cleanup : Go ObservabilityStageStatus := do
  if cr.descopedModeEnabled then return .success
  else
    Client.deleteIfFound Kind.grafana (getGrafanaCr cr)
    match ← waitForGrafanaToBeRemoved cr with
    | .success =>
      Client.deleteIfFound Kind.grafanaDataSource (getGrafanaDatasource cr)
      Client.deleteIfFound Kind.secret (getGrafanaProxySecret cr)
      Client.deleteIfFound Kind.clusterRoleBinding
        (getGrafanaClusterRoleBinding cr)
      Client.deleteIfFound Kind.clusterRole (getGrafanaClusterRole cr)
      return .success
    | status => return status

end GrafanaConfiguration

namespace PromtailInstallation

def promtailDefaultName : String := "obs-promtail"

def getPromtailServiceAccount : ObjectKey :=
  ⟨cr.ns, promtailDefaultName⟩

def getPromtailClusterRole (_cr : Observability) : ObjectKey :=
  ⟨"", promtailDefaultName⟩

def getPromtailClusterRoleBinding (_cr : Observability) : ObjectKey :=
  ⟨"", promtailDefaultName⟩

def clusterRoleRules : List PolicyRule :=
  [{ verbs := ["get", "list", "watch"]
     apiGroups := [""]
     resources := ["nodes", "nodes/proxy", "services", "endpoints", "pods"] },
    { verbs := ["use"]
      apiGroups := ["security.openshift.io"]
      resources := ["securitycontextconstraints"]
      resourceNames := ["privileged"] }]

def isDisabled : Bool :=
  cr.observatoriumDisabled || cr.externalSyncDisabled

def reconcile : Go ObservabilityStageStatus := do
  if isDisabled cr then return .success
  else
    reconcileServiceAccount (getPromtailServiceAccount cr) []
    reconcileClusterRole (getPromtailClusterRole cr) clusterRoleRules
    reconcileClusterRoleBinding (getPromtailClusterRoleBinding cr)
      (getPromtailServiceAccount cr) (getPromtailClusterRole cr)
    return .success

def cleanup : Go ObservabilityStageStatus := do
  if isDisabled cr then return .success
  else
    Client.deleteIfFound Kind.clusterRoleBinding
      (getPromtailClusterRoleBinding cr)
    Client.deleteIfFound Kind.clusterRole (getPromtailClusterRole cr)
    Client.deleteIfFound Kind.serviceAccount (getPromtailServiceAccount cr)
    return .success

end PromtailInstallation

/-! ## Names of earlier versions -/

namespace Migration

def prometheusOldDefaultName : String := "kafka-prometheus"

def alertManagerOldDefaultName : String := "kafka-alertmanager"

def grafanaOldDefaultName : String := "kafka-grafana"

def promtailOldDefaultName : String := "kafka-promtail"

def waitAnyhow (wait : Go ObservabilityStageStatus) : Go Unit := do
  let _ ← wait.attempt
  return ()

def removePrometheus : Go Unit := do
  let key : ObjectKey :=
    ⟨cr.getPrometheusOperatorNamespace, prometheusOldDefaultName⟩
  if cr.spec.prometheusDefaultName = "" then
    Client.deleteIfFound Kind.prometheus key
    waitAnyhow (waitForPrometheusToBeRemoved cr)
    Client.deleteIfFound Kind.route key
    Client.deleteIfFound Kind.service key
    Client.deleteIfFound Kind.serviceAccount key
    Client.deleteIfFound Kind.clusterRole ⟨"", prometheusOldDefaultName⟩
    Client.deleteIfFound Kind.clusterRoleBinding ⟨"", prometheusOldDefaultName⟩
  else return ()

def removeAlertmanagerSecret : Go Unit := do
  if cr.hasAlertmanagerConfigSecret.isSome || cr.externalSyncDisabled then
    return ()
  else
    Client.deleteIfFound Kind.secret ⟨cr.getPrometheusOperatorNamespace,
      "alertmanager-" ++ alertManagerOldDefaultName⟩

def removeAlertmanager : Go Unit := do
  let key : ObjectKey :=
    ⟨cr.getPrometheusOperatorNamespace, alertManagerOldDefaultName⟩
  if cr.spec.alertManagerDefaultName = "" then
    removeAlertmanagerSecret cr
    Client.deleteIfFound Kind.alertmanager key
    waitAnyhow (waitForAlertmanagerToBeRemoved cr)
    Client.deleteIfFound Kind.serviceAccount key
    Client.deleteIfFound Kind.route key
    Client.deleteIfFound Kind.service key
    Client.deleteIfFound Kind.clusterRole ⟨"", alertManagerOldDefaultName⟩
    Client.deleteIfFound Kind.clusterRoleBinding
      ⟨"", alertManagerOldDefaultName⟩
  else return ()

def removeGrafana : Go Unit := do
  if cr.descopedModeEnabled ∨ cr.spec.grafanaDefaultName ≠ "" then return ()
  else
    Client.deleteIfFound Kind.grafana ⟨cr.ns, grafanaOldDefaultName⟩
    waitAnyhow (waitForGrafanaToBeRemoved cr)

def removePromtail : Go Unit := do
  if cr.externalSyncDisabled && cr.observatoriumDisabled then return ()
  else
    Client.deleteIfFound Kind.serviceAccount ⟨cr.ns, promtailOldDefaultName⟩
    Client.deleteIfFound Kind.clusterRole ⟨"", promtailOldDefaultName⟩
    Client.deleteIfFound Kind.clusterRoleBinding ⟨"", promtailOldDefaultName⟩

def reconcile (migrated : Bool) : Go ObservabilityStageStatus := do
  if migrated then return .success
  else
    removePrometheus cr
    removeAlertmanager cr
    removeGrafana cr
    removePromtail cr
    assignMigrated
    return .success

end Migration

end ObservabilityOperator
