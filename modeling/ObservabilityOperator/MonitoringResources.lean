import ObservabilityOperator.FirstProviders
import ObservabilityOperator.ResourceFetching

/-!
# Rules, dashboards and pod monitors

Every index lists files with Prometheus rules, Grafana dashboards and pod
monitors.  A file becomes an object named after the file; of several files with
one name the first is taken.  Objects of the kind that no file asks for are
deleted first, then every requested file is fetched and its object created or
updated.
-/

namespace ObservabilityOperator

open FirstProviders

variable (platform : Platform) (cr : Observability)
  (indexes : List RepositoryIndex)

def prometheusRuleIdentifierKey : String := "observability"

def managedLabels : StringMap := [("managed-by", "observability-operator")]

def getNameFromUrl (path : String) : String :=
  let parts := GoStrings.split path '/'
  let part := parts.getLastD ""
  (GoStrings.split part '.').headD ""

def mergeLabels (requested existing : StringMap) : StringMap :=
  existing.merge requested

structure ResourceInfo where
  id : String
  name : String
  url : String
  accessToken : String
  tag : String
  deriving DecidableEq, Repr

structure DashboardInfo where
  name : String
  url : String
  accessToken : String
  tag : String
  deriving DecidableEq, Repr

namespace RepositoryIndex

def prometheus (index : RepositoryIndex) : Option PrometheusIndex :=
  index.config.bind RepositoryConfig.prometheus

def grafana (index : RepositoryIndex) : Option GrafanaIndex :=
  index.config.bind RepositoryConfig.grafana

def resourceInfo (index : RepositoryIndex) (path : String) :
    ResourceInfo where
  id := index.id
  name := getNameFromUrl path
  url := index.baseUrl ++ "/" ++ path
  accessToken := index.accessToken
  tag := index.tag

def dashboardInfo (index : RepositoryIndex) (path : String) :
    DashboardInfo where
  name := getNameFromUrl path
  url := index.baseUrl ++ "/" ++ path
  accessToken := index.accessToken
  tag := index.tag

def rules (index : RepositoryIndex) : List ResourceInfo :=
  match index.prometheus with
  | none => []
  | some prometheus => prometheus.rules.map index.resourceInfo

def podMonitors (index : RepositoryIndex) : List ResourceInfo :=
  match index.prometheus with
  | none => []
  | some prometheus => prometheus.podMonitors.map index.resourceInfo

def dashboards (index : RepositoryIndex) : List DashboardInfo :=
  match index.grafana with
  | none => []
  | some grafana => grafana.dashboards.map index.dashboardInfo

end RepositoryIndex

def getUniqueRules : List ResourceInfo :=
  indexes.foldl
    (fun result index =>
      keepNewUntilTaken ResourceInfo.name result index.rules) []

def getUniqueDashboards : List DashboardInfo :=
  indexes.foldl
    (fun result index =>
      keepNewUntilTaken DashboardInfo.name result index.dashboards) []

def getUniquePodMonitors : List ResourceInfo :=
  indexes.foldl
    (fun result index =>
      keepNew ResourceInfo.name result index.podMonitors) []

def deleteUnrequestedNames (kind : Kind) (ns : String)
    (requested : List String) : Go Unit := do
  let existing ← Client.orFail (← Client.list kind { ns := some ns })
  Program.forEach existing fun item =>
    if item.1.name ∈ requested then .done ()
    else do Client.orFail (← Client.delete kind item.1)

theorem deleteUnrequestedNames_eq_prune (kind : Kind) (ns : String)
    (requested : List String) :
    deleteUnrequestedNames kind ns requested =
      Client.prune kind { ns := some ns } fun key => key.name ∈ requested :=
  rfl

def deleteUnrequestedRules (rules : List ResourceInfo) : Go Unit :=
  deleteUnrequestedNames .prometheusRule cr.getPrometheusOperatorNamespace
    (rules.map ResourceInfo.name)

def deleteUnrequestedDashboards (dashboards : List DashboardInfo) : Go Unit :=
  deleteUnrequestedNames .grafanaDashboard cr.ns
    (dashboards.map DashboardInfo.name)

def deleteUnrequestedPodMonitors (monitors : List ResourceInfo) : Go Unit :=
  deleteUnrequestedNames .podMonitor cr.getPrometheusOperatorNamespace
    (monitors.map ResourceInfo.name)

/-! ## Creating what the files ask for -/

def injectIdLabel (spec : PrometheusRuleSpec) (id : String) :
    PrometheusRuleSpec :=
  { groups := spec.groups.map fun group =>
      { group with
        rules := group.rules.map fun rule =>
          { rule with
            labels := rule.labels.set prometheusRuleIdentifierKey id } } }

def applyManifest (kind : Kind) (key : ObjectKey)
    (parsed : Manifest kind.Spec) (content : kind.Spec) : Go Unit := do
  let _ ← upsert kind key
    { labels := parsed.labels
      annotations := parsed.annotations
      spec := parsed.spec }
    fun object =>
      { object with
        labels := mergeLabels managedLabels parsed.labels
        spec := content }

def createRequestedRule (rule : ResourceInfo) : Go Unit := do
  let bytes ← fetchResource platform rule.url rule.tag rule.accessToken
  let parsed ← Program.ofExcept (platform.unmarshalRule bytes)
  applyManifest .prometheusRule
    ⟨cr.getPrometheusOperatorNamespace, rule.name⟩ parsed
    (injectIdLabel parsed.spec rule.id)

def createRequestedRules (rules : List ResourceInfo) : Go Unit :=
  Program.forEach rules (createRequestedRule platform cr)

def createRequestedPodMonitor (monitor : ResourceInfo) : Go Unit := do
  let bytes ← fetchResource platform monitor.url monitor.tag monitor.accessToken
  let parsed ← Program.ofExcept (platform.unmarshalPodMonitor bytes)
  applyManifest .podMonitor
    ⟨cr.getPrometheusOperatorNamespace, monitor.name⟩ parsed parsed.spec

def createRequestedPodMonitors (monitors : List ResourceInfo) : Go Unit :=
  Program.forEach monitors (createRequestedPodMonitor platform cr)

def parseDashboardFromYaml (source : String) :
    Except String (Manifest GrafanaDashboardSpec) :=
  platform.unmarshalDashboard source

def createDashboardFromSource (name : String) (t : SourceType)
    (source : String) : Except String (Manifest GrafanaDashboardSpec) :=
  match t with
  | .json => .ok { spec := { json := source } }
  | .jsonnet => .ok { spec := { jsonnet := source } }
  | _ => .error ("unknown dashboard type: " ++ name)

/-- The manifest of a fetched dashboard.  Files in a language that has to be
compiled and files of unknown type are passed over. -/
def dashboardManifest (name : String) (t : SourceType) (source : String) :
    Except String (Option (Manifest GrafanaDashboardSpec)) :=
  match t with
  | .unknown => .ok none
  | .yaml => (parseDashboardFromYaml platform source).map some
  | .jsonnet => .ok none
  | .json => (createDashboardFromSource name t source).map some

def fetchRequestedDashboard (info : DashboardInfo) :
    Go (Option (String × Manifest GrafanaDashboardSpec)) := do
  let (sourceType, source) ←
    fetchDashboard platform info.url info.tag info.accessToken
  let manifest ← Program.ofExcept
    (dashboardManifest platform info.name sourceType source)
  return manifest.map fun parsed => (info.name, parsed)

def createRequestedDashboards (dashboards : List DashboardInfo) : Go Unit := do
  let fetched ← Program.collect dashboards (fetchRequestedDashboard platform)
  Program.forEach (fetched.filterMap fun dashboard => dashboard)
    fun dashboard =>
      applyManifest .grafanaDashboard ⟨cr.ns, dashboard.1⟩ dashboard.2
        dashboard.2.spec

def syncDashboards : Go Unit := do
  let dashboards := getUniqueDashboards indexes
  (deleteUnrequestedDashboards cr dashboards).wrapping
    "error deleting unrequested dashboards"
  (createRequestedDashboards platform cr dashboards).wrapping
    "error creating requested dashboards"

def syncRules : Go Unit := do
  let rules := getUniqueRules indexes
  (deleteUnrequestedRules cr rules).wrapping
    "error deleting unrequested prometheus rules"
  (createRequestedRules platform cr rules).wrapping
    "error creating requested prometheus rules"

def syncPodMonitors : Go Unit := do
  let monitors := getUniquePodMonitors indexes
  (deleteUnrequestedPodMonitors cr monitors).wrapping
    "error deleting unrequested pod monitors"
  (createRequestedPodMonitors platform cr monitors).wrapping
    "error creating requested pod monitors"

def getDeadmansSwitch : ObjectKey :=
  ⟨cr.getPrometheusOperatorNamespace, "generated-deadmansswitch"⟩

def deadmansSwitchGroups : List RuleGroup :=
  [{ name := "deadmansswitch"
     rules :=
      [{ alert := "DeadMansSwitch"
         expr := "vector(1)"
         labels := [("name", "DeadMansSwitchAlert")] }] }]

def createDMSAlert : Go Unit := do
  let selfContained ← Program.derefSpec cr.spec.selfContained
  if selfContained.disableRepoSync ≠ some true then return ()
  else
    let _ ← upsert Kind.prometheusRule (getDeadmansSwitch cr)
      Kind.prometheusRule.blank fun dms =>
        { dms with
          labels :=
            match selfContained.ruleLabelSelector with
            | some selector => dms.labels.merge selector.matchLabels
            | none => dms.labels
          spec := { dms.spec with groups := deadmansSwitchGroups } }

end ObservabilityOperator
