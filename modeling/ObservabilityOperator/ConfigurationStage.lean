import ObservabilityOperator.GrafanaConfig
import ObservabilityOperator.PrometheusConfig
import ObservabilityOperator.PromtailDaemonsets

/-!
# The configuration stage

One pass of the stage has three parts.  The first decides whether a sync is due
and collects the repositories from the configuration secrets; for a repository
that is a container image it also deploys the container.  The second loads the
index of every repository, in the order in which Go happens to iterate over a
map.  The third brings the cluster in line with the indexes.
-/

namespace ObservabilityOperator

variable (platform : Platform) (cr : Observability)
  (indexes : List RepositoryIndex)

/-! ## The container of a repository -/

def getResourcesDeployment : ObjectKey :=
  ⟨cr.ns, getResourcesDefaultName cr⟩

def getResourcesService : ObjectKey :=
  ⟨cr.ns, getResourcesDefaultName cr⟩

def getResourcesRoute : ObjectKey :=
  ⟨cr.ns, "observability-resources-route"⟩

def resourcesDeployment (image : String) (deployment : Resource DeploymentSpec) :
    Resource DeploymentSpec :=
  { deployment with
    labels := managedLabels
    spec :=
      { deployment.spec with
        selector := managedLabels
        podLabels := managedLabels
        pod :=
          { priorityClassName := observabilityPriorityClassName
            containers :=
              [{ name := getResourcesDefaultName cr
                 image := image
                 ports := [("http", 8080)]
                 command := ["python3", "server.py"] }]
            imagePullSecrets := ["rhoas-image-pull-secret"] } } }

def reconcileResourcesDeployment (image : String) : Go Unit := do
  let _ ← upsert Kind.deployment (getResourcesDeployment cr)
    Kind.deployment.blank (resourcesDeployment cr image)

def resourcesService (service : Resource ServiceSpec) :
    Resource ServiceSpec :=
  { service with
    spec :=
      { ports :=
          [{ name := "web", protocol := "TCP", port := 8080,
             targetPort := 8080 }]
        selector := managedLabels } }

def reconcileResourcesService : Go Unit := do
  let _ ← upsert Kind.service (getResourcesService cr) Kind.service.blank
    resourcesService

def resourcesRoute (route : Resource RouteSpec) : Resource RouteSpec :=
  { route with
    spec :=
      { route.spec with
        toService := (getResourcesService cr).name
        targetPort := "web" } }

def reconcileResourcesRoute : Go Unit := do
  let written ← (upsert Kind.route (getResourcesRoute cr) Kind.route.blank
    (resourcesRoute cr) : Go (Resource RouteSpec)).attempt
  match written with
  | .ok route =>
    if isRouteReady route.spec then assignResourcesRoute route.spec.host
    else return ()
  | .error (.api .alreadyExists) => assignResourcesRoute ""
  | .error error => .fail (.error error)

def reconcileResources (image : String) : Go Unit := do
  reconcileResourcesDeployment cr image
  reconcileResourcesService cr
  if platform.runningLocally then reconcileResourcesRoute cr
  else return ()

def waitForResourcesDeployment : Go ObservabilityStageStatus := do
  let deployments ← Client.orFail
    (← Client.list Kind.deployment { ns := some cr.ns })
  return if deployments.any fun item =>
      GoStrings.hasPrefix item.1.name (getResourcesDefaultName cr) &&
        item.2.spec.readyReplicas > 0
    then .success else .inProgress

def isMissing (kind : Kind) (key : ObjectKey) : Go Bool := do
  match ← Client.get kind key with
  | .ok _ => return false
  | .error .gone => Client.orFail (.error .gone)
  | .error _ => return true

def checkForMissingCR : Go Bool := do
  let alertmanager ← isMissing .alertmanager (getAlertmanagerCr cr)
  let prometheus ← isMissing .prometheus (getPrometheus cr)
  let grafana ← (if cr.descopedModeEnabled then .done false
    else isMissing .grafana (getGrafanaCr cr) : Go Bool)
  return alertmanager || prometheus || grafana

def syncIsDue (overrideLastSync : Bool) : Go Bool := do
  if cr.status.lastSynced = 0 ∨ overrideLastSync then return true
  else
    let period ← (Program.ofExcept
      (platform.parseDuration cr.spec.resyncPeriod) : Go Int).wrapping
        "error parsing operator resync period"
    let now ← timeNow
    return !(now + unixToInternal * nanoseconds <
      wrapInt64 (cr.status.lastSynced + unixToInternal) * nanoseconds + period)

def checkSync (migrated : Bool) : Go Bool := do
  let expired ← (tokensExpired cr).wrapping
    "error checking observatorium token lifetimes"
  let missing ← (if migrated then
      (checkForMissingCR cr).wrapping "error checking for migrated CR"
    else .done false : Go Bool)
  syncIsDue platform cr (expired || cr.externalSyncDisabled || missing)

/-! ## The repositories -/

def repositoryInfo (secret : Resource SecretSpec)
    (source : Option ConfigSource) : RepositoryInfo where
  repository := secret.spec.data.get "repository"
  channel := secret.spec.data.get "channel"
  tag := secret.spec.data.get "tag"
  accessToken := secret.spec.data.get "access_token"
  source := source

def lastSource (secrets : List (ObjectKey × Resource SecretSpec)) :
    Option ConfigSource :=
  secrets.getLast?.map fun item => ⟨item.1, item.2⟩

/-- Of several secrets with one name the first is taken.  Every repository
points to the variable of the loop. -/
def collectRepositories (platform : Platform) (cr : Observability)
    (source : Option ConfigSource) :
    List (String × RepositoryInfo) →
      List (ObjectKey × Resource SecretSpec) →
        Go (List (String × RepositoryInfo))
  | repos, [] => return repos
  | repos, (key, secret) :: rest =>
    if key.name ∈ repos.map Prod.fst then
      collectRepositories platform cr source repos rest
    else do
      let repo := repositoryInfo secret source
      (if !isGitHub repo.repository && !cr.externalSyncDisabled then
        reconcileResources platform cr (repo.repository ++ ":" ++ repo.tag)
      else .done () : Go Unit)
      collectRepositories platform cr source (repos ++ [(key.name, repo)]) rest

/-- What the first part of a pass finds: a status to return at once, or the
repositories to load. -/
inductive Prelude where
  | stop (status : ObservabilityStageStatus)
  | load (repos : List (String × RepositoryInfo))

def listConfigSecrets : Go (List (ObjectKey × Resource SecretSpec)) := do
  let selector ← Program.derefSpec cr.spec.configurationSelector
  if cr.externalSyncDisabled then return []
  else
    Client.orFail (← Client.list Kind.secret { labels := selector.matchLabels })

def prepareRepositories : Go Prelude := do
  let secrets ← listConfigSecrets cr
  if secrets = [] ∧ !cr.externalSyncDisabled then
    assignLastSynced 0
    return .stop .inProgress
  else
    let repos ← collectRepositories platform cr (lastSource secrets) [] secrets
    if !cr.externalSyncDisabled &&
        repos.any fun repo => !isGitHub repo.2.repository then
      match ← waitForResourcesDeployment cr with
      | .success => return .load repos
      | status => return .stop status
    else return .load repos

def prepare (migrated : Bool) : Go Prelude := do
  if cr.spec.configurationSelector = none ∧ !cr.externalSyncDisabled then
    return .stop .success
  else if ← checkSync platform cr migrated then
    prepareRepositories platform cr
  else return .stop .success

/-- The order in which a Go map is gone through. -/
structure IterationOrder where
  arrange : List RepositoryInfo → List RepositoryInfo
  perm : ∀ repos, (arrange repos).Perm repos

def IterationOrder.given : IterationOrder := ⟨fun repos => repos, fun _ => .refl _⟩

def loadIndex (repo : RepositoryInfo) : Go RepositoryIndex := do
  let indexBytes ← readIndexFile platform repo cr
  let (id, config) ← Program.ofExcept (platform.unmarshalIndex indexBytes)
  let baseUrl ← Program.ofExcept (getResourcesUrl platform repo cr)
  return { baseUrl := platform.urlString baseUrl
           accessToken := repo.accessToken
           tag := repo.tag
           source := repo.source
           id
           config }

def collectIndexes (order : IterationOrder)
    (repos : List (String × RepositoryInfo)) : Go (List RepositoryIndex) :=
  Program.collect (order.arrange (repos.map Prod.snd)) (loadIndex platform cr)

/-! ## Bringing the cluster in line -/

def expectedTokenSecrets : List String :=
  indexes.flatMap fun index =>
    index.observatoria.map getObservatoriumTokenSecretName

/-- A list that could not be fetched is taken for empty. -/
def deleteUnrequestedCredentialSecrets : Go Unit := do
  let list :=
    match ← Client.list Kind.secret
      { ns := some cr.ns, labels := observatoriumTokenLabels } with
    | .ok list => list
    | .error _ => []
  Program.forEach list fun item =>
    if item.1.name ∈ expectedTokenSecrets indexes then .done ()
    else
      ((Client.delete Kind.secret item.1).bind fun reply =>
        Client.orFail reply).wrapping
          ("error deleting unrequested token secret " ++ item.1.name)

def stampConfigSource (index : RepositoryIndex) : Go Unit :=
  match index.source with
  | none => .done ()
  | some source => do
    let _ ← Client.update Kind.secret source.key
      { source.secret with
        annotations := source.secret.annotations.set
          "observability-operator/status" "accepted" }

/-- An index whose Observatoria could not all be completed is used as it was
left. -/
def completeObservatoria (index : RepositoryIndex) : Go RepositoryIndex := do
  let (left, result) ← reconcileObservatoria platform cr index
  match result with
  | .error _ => return left
  | .ok () =>
    stampConfigSource left
    return left

def completeIndexes : Go (List RepositoryIndex) :=
  Program.collect indexes (completeObservatoria platform cr)

def syncTokenRefreshers : Go Unit := do
  (deleteUnrequestedTokenRefreshers platform cr indexes).wrapping
    "error deleting unrequested token refreshers"
  (deleteUnrequestedNetworkPolicies platform cr indexes).wrapping
    "error deleting unrequested network policies"
  if cr.observatoriumDisabled then return ()
  else
    (reconcileTokenRefresher platform cr indexes).wrapping
      "error reconciling token refresher"

def syncAlertmanagerSecret : Go Unit :=
  if cr.externalSyncDisabled || cr.hasAlertmanagerConfigSecret.isSome then
    .done ()
  else
    (reconcileAlertmanagerSecret platform cr indexes).wrapping
      "error reconciling alertmanager secret"

def syncInstances : Go Unit := do
  let patterns ← (fetchFederationConfigs platform cr indexes).wrapping
    "error fetching federation config"
  createAdditionalScrapeConfigSecret cr patterns
  let hash ← createBlackBoxConfig platform cr
  (reconcileAlertmanager platform cr indexes).wrapping
    "error reconciling alertmanager"
  (reconcilePrometheus platform cr indexes hash).wrapping
    "error reconciling prometheus"
  if cr.descopedModeEnabled then return ()
  else
    (reconcileGrafanaCr platform cr indexes).wrapping
      "error reconciling grafana"

def syncResources : Go Unit := do
  if cr.externalSyncDisabled then
    (createDMSAlert cr).wrapping "error creating deadmansswitch alert"
  else
    (if cr.descopedModeEnabled then .done ()
    else syncDashboards platform cr indexes : Go Unit)
    syncRules platform cr indexes
    syncPodMonitors platform cr indexes

def syncPromtail : Go Unit := do
  (deleteUnrequestedDaemonsets cr indexes).wrapping
    "error deleting unrequested promtail daemon sets"
  Program.forEach indexes fun index =>
    (createPromtailDaemonsetFor platform cr index).wrapping
      ("error creating promtail daemon set for " ++ index.id)

def assignSyncTime : Go Unit := do
  if cr.externalSyncDisabled then assignLastSynced 0
  else
    let now ← timeNow
    assignLastSynced (now / nanoseconds)

def applyIndexes : Go Unit := do
  syncTokenRefreshers platform cr indexes
  syncAlertmanagerSecret platform cr indexes
  syncInstances platform cr indexes
  syncResources platform cr indexes
  syncPromtail platform cr indexes
  assignSyncTime cr

/-- A sync of the loaded indexes. -/
def configure : Go Unit := do
  deleteUnrequestedCredentialSecrets cr indexes
  let completed ← completeIndexes platform cr indexes
  applyIndexes platform cr completed

def reconcileStage (order : IterationOrder) (cr : Observability)
    (migrated : Bool) : Go ObservabilityStageStatus := do
  match ← prepare platform cr migrated with
  | .stop status => return status
  | .load repos =>
    let indexes ← collectIndexes platform cr order repos
    configure platform cr indexes
    return .success

structure StageResult where
  status : ObservabilityStageStatus
  error : Option (GoError ApiError) := none

def stageResult (stage : Go ObservabilityStageStatus) : Go StageResult := do
  match ← stage.attempt with
  | .ok status => return { status }
  | .error error => return { status := .failed, error := some error }

def reconcile (order : IterationOrder) (cr : Observability) (migrated : Bool) :
    Go StageResult :=
  stageResult (reconcileStage platform order cr migrated)

def deleteListed (kind : Kind) (options : ListOptions) : Go Unit := do
  let list ← Client.orFail (← Client.list kind options)
  Program.forEach list fun item => do
    Client.orFail (← Client.delete kind item.1)

theorem deleteListed_eq_prune (kind : Kind) (options : ListOptions) :
    deleteListed kind options = Client.prune kind options fun _ => False := rfl

def managedIn (ns : String) : ListOptions where
  ns := some ns
  labels := managedLabels

def authenticationProxiesIn (ns : String) : ListOptions where
  ns := some ns
  labels := authenticationProxyLabels

def cleanupSynced : Go Unit := do
  if cr.externalSyncDisabled then return ()
  else
    (if cr.descopedModeEnabled then .done ()
    else deleteListed Kind.grafanaDashboard (managedIn cr.ns) : Go Unit)
    deleteListed Kind.prometheusRule (managedIn cr.ns)
    deleteListed Kind.podMonitor (managedIn cr.ns)

def cleanupStage : Go ObservabilityStageStatus := do
  deleteListed Kind.secret (managedIn cr.ns)
  deleteListed Kind.configMap (managedIn cr.ns)
  cleanupSynced cr
  deleteListed Kind.daemonSet (managedIn cr.ns)
  deleteListed Kind.deployment (authenticationProxiesIn cr.ns)
  Client.deleteIfFound Kind.deployment (getResourcesDeployment cr)
  Client.deleteIfFound Kind.service (getResourcesService cr)
  Client.deleteIfFound Kind.route (getResourcesRoute cr)
  deleteListed Kind.networkPolicy (authenticationProxiesIn cr.ns)
  return .success

def cleanup : Go StageResult :=
  stageResult (cleanupStage cr)

def selectingCr : Observability :=
  { plainCr with spec := { configurationSelector := some {} } }

def configuredCluster : Cluster :=
  Cluster.empty.put .secret ⟨"managed", "configuration"⟩
    { spec := { data := [("repository", "https://api.github.com")] } }

end ObservabilityOperator
