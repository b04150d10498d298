import ObservabilityOperator.AlertmanagerConfig

/-!
# The Grafana of the operator

One Grafana shows the dashboards of all indexes.  Its version and the labels
of its dashboards are those of the first index, or those of the custom
resource.
-/

namespace ObservabilityOperator

variable (cr : Observability) (indexes : List RepositoryIndex)

def getDefaultNameGrafana : String :=
  if cr.spec.selfContained.isSome ∧ cr.spec.grafanaDefaultName ≠ "" then
    cr.spec.grafanaDefaultName
  else "obs-grafana"

def getGrafanaCr : ObjectKey :=
  ⟨cr.ns, getDefaultNameGrafana cr⟩

def defaultGrafanaLabelSelectors : StringMap := [("app", "strimzi")]

def getGrafanaDashboardLabelSelectors : LabelSelector :=
  match cr.spec.selfContained.bind
      SelfContained.grafanaDashboardLabelSelector with
  | some selector => selector
  | none =>
    let ofIndex := indexes.head?.bind fun index =>
      index.grafana.bind GrafanaIndex.dashboardLabelSelector
    ofIndex.getD { matchLabels := defaultGrafanaLabelSelectors }

def getGrafanaResourceRequirement : Document :=
  (cr.spec.selfContained.bind SelfContained.grafanaResourceRequirement).getD ""

def getGrafanaInitImage : String :=
  (cr.selfContainedName SelfContained.grafanaInitImage).getD
    "quay.io/grafana-operator/grafana_plugins_init:0.1.0"

/-- The version of the first index, whose Grafana section is read without a
check. -/
def grafanaVersionOfIndex : Go String :=
  match indexes.head?.bind RepositoryIndex.config with
  | none => return ""
  | some config => do
    let grafana ← Program.deref config.grafana
    return grafana.grafanaVersion

def getGrafanaVersion (cr : Observability) : Go String := do
  let ofIndex ← grafanaVersionOfIndex indexes
  if ofIndex ≠ "" then return ofIndex
  else return (cr.selfContainedName SelfContained.grafanaVersion).getD ""

/-- The image of a version, and none for a text that is not a version or that
is version zero. -/
def grafanaImage (platform : Platform) (version : String) : String :=
  match platform.semverParseTolerant version with
  | .ok version =>
    if version = "0.0.0" then "" else "docker.io/grafana/grafana:" ++ version
  | .error _ => ""

def grafanaProxyContainer : Container where
  name := "grafana-proxy"
  image := getOriginOauthProxyImage cr
  args :=
    ["-provider=openshift",
      "-pass-basic-auth=false",
      "-https-address=:9091",
      "-http-address=",
      "-email-domain=*",
      "-upstream=http://localhost:3000",
      "-openshift-sar=\x7b\"resource\": \"namespaces\", \"verb\": \"get\"\x7d",
      "-openshift-delegate-urls=\x7b\"/\": \x7b\"resource\": " ++
        "\"namespaces\", \"verb\": \"get\"\x7d\x7d",
      "-tls-cert=/etc/tls/private/tls.crt",
      "-tls-key=/etc/tls/private/tls.key",
      "-client-secret-file=" ++
        "/var/run/secrets/kubernetes.io/serviceaccount/token",
      "-cookie-secret-file=/etc/proxy/secrets/session_secret",
      "-openshift-service-account=grafana-serviceaccount",
      "-openshift-ca=/etc/pki/tls/cert.pem",
      "-openshift-ca=/var/run/secrets/kubernetes.io/serviceaccount/ca.crt",
      "-skip-auth-regex=^/metrics"]
  ports := [("grafana-proxy", 9091)]
  volumeMounts :=
    [("secret-grafana-k8s-tls", "/etc/tls/private"),
      ("secret-grafana-k8s-proxy", "/etc/proxy/secrets")]

def grafanaSpec (image : String) : GrafanaSpec where
  containers := [grafanaProxyContainer cr]
  baseImage := image
  dashboardLabelSelector := [getGrafanaDashboardLabelSelectors cr indexes]
  initImage := getGrafanaInitImage cr
  secrets := ["grafana-k8s-tls", "grafana-k8s-proxy"]
  priorityClassName := observabilityPriorityClassName
  resources := getGrafanaResourceRequirement cr
  tolerations := cr.spec.tolerations
  affinity := cr.spec.affinity

def reconcileGrafanaCr (platform : Platform) (cr : Observability)
    (indexes : List RepositoryIndex) : Go Unit := do
  let version ← getGrafanaVersion indexes cr
  let _ ← upsert Kind.grafana (getGrafanaCr cr) Kind.grafana.blank
    fun grafana =>
      { grafana with
        spec := grafanaSpec cr indexes (grafanaImage platform version) }

end ObservabilityOperator
