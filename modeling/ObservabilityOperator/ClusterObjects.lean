import ObservabilityOperator.OperatorTypes

/-!
# The objects of the cluster and the surroundings of the operator

The kinds of objects the stages read and write, with the fields they set or
look at.

Everything the operator reaches besides the API server is here too: HTTP, the
clock, the parts of the custom resource and of its next status that a stage
assigns in memory, and the decoders of third-party packages.
-/

namespace ObservabilityOperator

structure Container where
  name : String
  image : String
  command : List String := []
  args : List String := []
  env : StringMap := []
  ports : List (String × ℕ) := []
  volumeMounts : StringMap := []
  privileged : Bool := false
  deriving DecidableEq, Repr

inductive VolumeSource where
  | configMap (name : String)
  | secret (name : String)
  | hostPath (path : String)
  deriving DecidableEq, Repr

structure Volume where
  name : String
  source : VolumeSource
  deriving DecidableEq, Repr

structure PodSpec where
  serviceAccountName : String := ""
  priorityClassName : String := ""
  containers : List Container := []
  volumes : List Volume := []
  imagePullSecrets : List String := []
  affinity : Document := ""
  deriving DecidableEq, Repr

def observabilityPriorityClassName : String :=
  "observability-operator-priority-class"

structure DeploymentSpec where
  selector : StringMap := []
  podLabels : StringMap := []
  pod : PodSpec := {}
  readyReplicas : ℕ := 0
  deriving DecidableEq, Repr

structure DaemonSetSpec where
  selector : LabelSelector := {}
  podLabels : StringMap := []
  pod : PodSpec := {}
  deriving DecidableEq, Repr

structure ServicePort where
  name : String
  protocol : String := ""
  port : ℕ
  targetPort : ℕ := 0
  targetPortName : String := ""
  deriving DecidableEq, Repr

structure ServiceSpec where
  ports : List ServicePort := []
  selector : StringMap := []
  deriving DecidableEq, Repr

structure RouteCondition where
  type : String
  status : String
  deriving DecidableEq, Repr

/-- The host is allocated by the cluster and survives an update. -/
structure RouteSpec where
  toService : String := ""
  targetPort : String := ""
  host : String := ""
  wildcardPolicy : String := ""
  tlsTermination : String := ""
  ingress : List (List RouteCondition) := []
  deriving DecidableEq, Repr

structure NetworkPolicySpec where
  podSelector : StringMap := []
  ingress : List (List StringMap) := []
  policyTypes : List String := []
  deriving DecidableEq, Repr

/-- A URL given from outside, or one made of a service and a namespace. -/
inductive TargetUrl where
  | external (url : String)
  | service (name ns : String)
  deriving DecidableEq, Repr

def TargetUrl.render : TargetUrl → String
  | .external url => url
  | .service name ns => "http://" ++ name ++ "." ++ ns ++ ".svc.cluster.local"

/-! ## Monitoring -/

structure Rule where
  alert : String := ""
  expr : String := ""
  labels : StringMap := []
  rest : Document := ""
  deriving DecidableEq, Repr

structure RuleGroup where
  name : String := ""
  rules : List Rule := []
  rest : Document := ""
  deriving DecidableEq, Repr

structure PrometheusRuleSpec where
  groups : List RuleGroup := []
  deriving DecidableEq, Repr

structure GrafanaDashboardSpec where
  json : String := ""
  jsonnet : String := ""
  rest : Document := ""
  deriving DecidableEq, Repr

structure OAuth2 where
  clientIdSecret : String
  clientIdKey : String
  clientSecretSecret : String
  clientSecretKey : String
  tokenUrl : String
  deriving DecidableEq, Repr

structure RemoteWriteSpec where
  url : TargetUrl
  name : String
  remoteTimeout : String
  writeRelabelConfigs : Document
  bearerTokenFile : String := ""
  insecureSkipVerify : Bool := true
  proxyUrl : String
  queueConfig : Option Document
  oauth2 : Option OAuth2 := none
  deriving DecidableEq, Repr

structure AlertingSpec where
  ns : String
  name : String
  port : String
  scheme : String
  caFile : String
  serverName : String
  bearerTokenFile : String
  deriving DecidableEq, Repr

structure PrometheusSpec where
  podAnnotations : StringMap := []
  image : String := ""
  version : String := ""
  priorityClassName : String := ""
  serviceAccountName : String := ""
  externalUrl : String := ""
  additionalScrapeConfigs : String × String := ("", "")
  externalLabels : StringMap := []
  volumes : List Volume := []
  podMonitorSelector : Option LabelSelector := none
  podMonitorNamespaceSelector : Option LabelSelector := none
  serviceMonitorSelector : Option LabelSelector := none
  serviceMonitorNamespaceSelector : Option LabelSelector := none
  probeSelector : Option LabelSelector := none
  probeNamespaceSelector : Option LabelSelector := none
  remoteWrite : List RemoteWriteSpec := []
  secrets : List String := []
  containers : List Container := []
  resources : Document := ""
  retention : String := ""
  ruleSelector : Option LabelSelector := none
  ruleNamespaceSelector : Option LabelSelector := none
  alerting : Option AlertingSpec := none
  storage : Option StorageSpec := none
  tolerations : Option Document := none
  affinity : Option Document := none
  deriving DecidableEq, Repr

structure AlertmanagerSpec where
  podAnnotations : StringMap := []
  configSecret : String := ""
  listenLocal : Bool := false
  externalUrl : String := ""
  serviceAccountName : String := ""
  secrets : List String := []
  priorityClassName : String := ""
  containers : List Container := []
  version : String := ""
  resources : Document := ""
  storage : Option StorageSpec := none
  deriving DecidableEq, Repr

structure GrafanaSpec where
  containers : List Container := []
  baseImage : String := ""
  dashboardLabelSelector : List LabelSelector := []
  initImage : String := ""
  secrets : List String := []
  priorityClassName : String := ""
  resources : Document := ""
  tolerations : Option Document := none
  affinity : Option Document := none
  deriving DecidableEq, Repr

structure PersistentVolumeSpec where
  claimRef : Option ObjectKey := none
  capacity : StringMap := []
  deriving DecidableEq, Repr

structure PersistentVolumeClaimSpec where
  volumeName : String := ""
  deriving DecidableEq, Repr

structure PolicyRule where
  verbs : List String
  apiGroups : List String := []
  resources : List String := []
  resourceNames : List String := []
  nonResourceUrls : List String := []
  deriving DecidableEq, Repr

structure ClusterRoleSpec where
  rules : List PolicyRule := []
  deriving DecidableEq, Repr

structure Subject where
  kind : String := "ServiceAccount"
  name : String
  ns : String
  deriving DecidableEq, Repr

structure RoleRef where
  apiGroup : String := "rbac.authorization.k8s.io"
  kind : String := "ClusterRole"
  name : String
  deriving DecidableEq, Repr

structure ClusterRoleBindingSpec where
  subjects : List Subject := []
  roleRef : Option RoleRef := none
  deriving DecidableEq, Repr

structure CatalogSourceSpec where
  sourceType : String := ""
  image : String := ""
  securityContextConfig : String := ""
  deriving DecidableEq, Repr

structure SubscriptionSpec where
  catalogSource : String := ""
  catalogSourceNamespace : String := ""
  package : String := ""
  channel : String := ""
  startingCsv : String := ""
  installPlanApproval : String := ""
  resources : Option Document := none
  installedCsv : String := ""
  deriving DecidableEq, Repr

structure OperatorGroupSpec where
  targetNamespaces : List String := []
  deriving DecidableEq, Repr

structure ClusterServiceVersionSpec where
  deployments : StringMap := []
  deriving DecidableEq, Repr

structure ClusterVersionSpec where
  clusterId : String := ""
  deriving DecidableEq, Repr

structure ClusterLoggingSpec where
  managementState : String := ""
  collectionType : String := ""
  memoryRequest : String := ""
  tolerations : Document := ""
  deriving DecidableEq, Repr

structure LogInput where
  name : String
  namespaces : List String
  deriving DecidableEq, Repr

structure LogOutput where
  name : String
  type : String
  region : String
  groupBy : String
  secretName : String
  deriving DecidableEq, Repr

structure LogPipeline where
  name : String
  inputRefs : List String
  outputRefs : List String
  deriving DecidableEq, Repr

structure ClusterLogForwarderSpec where
  inputs : List LogInput := []
  outputs : List LogOutput := []
  pipelines : List LogPipeline := []
  deriving DecidableEq, Repr

structure GrafanaDataSourceFields where
  name : String
  type : String
  access : String
  url : String
  isDefault : Bool
  version : ℕ
  editable : Bool
  tlsSkipVerify : Bool
  timeInterval : String
  deriving DecidableEq, Repr

structure GrafanaDataSourceSpec where
  name : String := ""
  datasources : List GrafanaDataSourceFields := []
  deriving DecidableEq, Repr

/-! ## Kinds -/

inductive Kind where
  | secret
  | configMap
  | deployment
  | service
  | route
  | networkPolicy
  | prometheusRule
  | podMonitor
  | grafanaDashboard
  | daemonSet
  | prometheus
  | alertmanager
  | grafana
  | persistentVolume
  | persistentVolumeClaim
  | nameSpace
  | serviceAccount
  | clusterRole
  | clusterRoleBinding
  | statefulSet
  | grafanaDataSource
  | catalogSource
  | subscription
  | operatorGroup
  | clusterServiceVersion
  | clusterVersion
  | clusterLogging
  | clusterLogForwarder
  deriving DecidableEq, Repr

abbrev Kind.Spec : Kind → Type
  | .secret => SecretSpec
  | .configMap => StringMap
  | .deployment => DeploymentSpec
  | .service => ServiceSpec
  | .route => RouteSpec
  | .networkPolicy => NetworkPolicySpec
  | .prometheusRule => PrometheusRuleSpec
  | .podMonitor => Document
  | .grafanaDashboard => GrafanaDashboardSpec
  | .daemonSet => DaemonSetSpec
  | .prometheus => PrometheusSpec
  | .alertmanager => AlertmanagerSpec
  | .grafana => GrafanaSpec
  | .persistentVolume => PersistentVolumeSpec
  | .persistentVolumeClaim => PersistentVolumeClaimSpec
  | .nameSpace => Unit
  | .serviceAccount => Unit
  | .clusterRole => ClusterRoleSpec
  | .clusterRoleBinding => ClusterRoleBindingSpec
  | .statefulSet => Unit
  | .grafanaDataSource => GrafanaDataSourceSpec
  | .catalogSource => CatalogSourceSpec
  | .subscription => SubscriptionSpec
  | .operatorGroup => OperatorGroupSpec
  | .clusterServiceVersion => ClusterServiceVersionSpec
  | .clusterVersion => ClusterVersionSpec
  | .clusterLogging => ClusterLoggingSpec
  | .clusterLogForwarder => ClusterLogForwarderSpec

instance : (kind : Kind) → DecidableEq kind.Spec
  | .secret => inferInstanceAs (DecidableEq SecretSpec)
  | .configMap => inferInstanceAs (DecidableEq StringMap)
  | .deployment => inferInstanceAs (DecidableEq DeploymentSpec)
  | .service => inferInstanceAs (DecidableEq ServiceSpec)
  | .route => inferInstanceAs (DecidableEq RouteSpec)
  | .networkPolicy => inferInstanceAs (DecidableEq NetworkPolicySpec)
  | .prometheusRule => inferInstanceAs (DecidableEq PrometheusRuleSpec)
  | .podMonitor => inferInstanceAs (DecidableEq Document)
  | .grafanaDashboard => inferInstanceAs (DecidableEq GrafanaDashboardSpec)
  | .daemonSet => inferInstanceAs (DecidableEq DaemonSetSpec)
  | .prometheus => inferInstanceAs (DecidableEq PrometheusSpec)
  | .alertmanager => inferInstanceAs (DecidableEq AlertmanagerSpec)
  | .grafana => inferInstanceAs (DecidableEq GrafanaSpec)
  | .persistentVolume => inferInstanceAs (DecidableEq PersistentVolumeSpec)
  | .persistentVolumeClaim =>
    inferInstanceAs (DecidableEq PersistentVolumeClaimSpec)
  | .nameSpace => inferInstanceAs (DecidableEq Unit)
  | .serviceAccount => inferInstanceAs (DecidableEq Unit)
  | .clusterRole => inferInstanceAs (DecidableEq ClusterRoleSpec)
  | .clusterRoleBinding =>
    inferInstanceAs (DecidableEq ClusterRoleBindingSpec)
  | .statefulSet => inferInstanceAs (DecidableEq Unit)
  | .grafanaDataSource => inferInstanceAs (DecidableEq GrafanaDataSourceSpec)
  | .catalogSource => inferInstanceAs (DecidableEq CatalogSourceSpec)
  | .subscription => inferInstanceAs (DecidableEq SubscriptionSpec)
  | .operatorGroup => inferInstanceAs (DecidableEq OperatorGroupSpec)
  | .clusterServiceVersion =>
    inferInstanceAs (DecidableEq ClusterServiceVersionSpec)
  | .clusterVersion => inferInstanceAs (DecidableEq ClusterVersionSpec)
  | .clusterLogging => inferInstanceAs (DecidableEq ClusterLoggingSpec)
  | .clusterLogForwarder =>
    inferInstanceAs (DecidableEq ClusterLogForwarderSpec)

def Kind.blank : (kind : Kind) → Resource kind.Spec
  | .secret => { spec := ({} : SecretSpec) }
  | .configMap => { spec := ([] : StringMap) }
  | .deployment => { spec := ({} : DeploymentSpec) }
  | .service => { spec := ({} : ServiceSpec) }
  | .route => { spec := ({} : RouteSpec) }
  | .networkPolicy => { spec := ({} : NetworkPolicySpec) }
  | .prometheusRule => { spec := ({} : PrometheusRuleSpec) }
  | .podMonitor => { spec := ("" : Document) }
  | .grafanaDashboard => { spec := ({} : GrafanaDashboardSpec) }
  | .daemonSet => { spec := ({} : DaemonSetSpec) }
  | .prometheus => { spec := ({} : PrometheusSpec) }
  | .alertmanager => { spec := ({} : AlertmanagerSpec) }
  | .grafana => { spec := ({} : GrafanaSpec) }
  | .persistentVolume => { spec := ({} : PersistentVolumeSpec) }
  | .persistentVolumeClaim => { spec := ({} : PersistentVolumeClaimSpec) }
  | .nameSpace => { spec := () }
  | .serviceAccount => { spec := () }
  | .clusterRole => { spec := ({} : ClusterRoleSpec) }
  | .clusterRoleBinding => { spec := ({} : ClusterRoleBindingSpec) }
  | .statefulSet => { spec := () }
  | .grafanaDataSource => { spec := ({} : GrafanaDataSourceSpec) }
  | .catalogSource => { spec := ({} : CatalogSourceSpec) }
  | .subscription => { spec := ({} : SubscriptionSpec) }
  | .operatorGroup => { spec := ({} : OperatorGroupSpec) }
  | .clusterServiceVersion => { spec := ({} : ClusterServiceVersionSpec) }
  | .clusterVersion => { spec := ({} : ClusterVersionSpec) }
  | .clusterLogging => { spec := ({} : ClusterLoggingSpec) }
  | .clusterLogForwarder => { spec := ({} : ClusterLogForwarderSpec) }

/-! ## HTTP, the clock and the operator's own memory -/

structure Url where
  scheme : String := ""
  host : String := ""
  path : String := ""
  query : String := ""
  deriving DecidableEq, Repr

inductive HttpMethod where
  | get
  | post
  deriving DecidableEq, Repr

structure HttpRequest where
  method : HttpMethod
  url : Url
  authorization : Option String := none
  accept : Option String := none
  form : StringMap := []
  deriving DecidableEq, Repr

structure HttpResponse where
  statusCode : ℕ
  body : String
  deriving DecidableEq, Repr

/-- What the operator does besides calling the API server: HTTP, reading the
clock (in nanoseconds), and assigning a field of the next status or of the
custom resource it holds in memory. -/
inductive Action where
  | http (request : HttpRequest)
  | now
  | setLastSynced (seconds : Int)
  | setResourcesRoute (host : String)
  | setClusterId (clusterId : String)
  | setMigrated
  | setLabels (labels : StringMap)

abbrev Action.Reply : Action → Type
  | .http _ => Except String HttpResponse
  | .now => Int
  | .setLastSynced _ => Unit
  | .setResourcesRoute _ => Unit
  | .setClusterId _ => Unit
  | .setMigrated => Unit
  | .setLabels _ => Unit

/-- What the stages keep in the resource and its next status. -/
structure Memory where
  lastSynced : Int := 0
  resourcesRoute : String := ""
  clusterId : String := ""
  migrated : Bool := false
  labels : StringMap := []
  deriving DecidableEq, Repr

abbrev Cluster : Type := World Kind.Spec Memory

/-- A function of the operator. -/
abbrev Go (α : Type) : Type := ClientCall Kind.Spec Action.Reply α

/-- The failures, the HTTP answers and the clock readings a pass meets, by
the number of calls made before. -/
structure Surroundings where
  fault : ℕ → ApiCall Kind.Spec Action → Option Fault
  http : ℕ → HttpRequest → Except String HttpResponse
  clock : ℕ → Int

def Surroundings.environment (env : Surroundings) :
    Environment Kind.Spec Action.Reply Memory where
  fault := env.fault
  act
    | tick, .http request, memory => (env.http tick request, memory)
    | tick, .now, memory => (env.clock tick, memory)
    | _, .setLastSynced seconds, memory =>
      ((), { memory with lastSynced := seconds })
    | _, .setResourcesRoute host, memory =>
      ((), { memory with resourcesRoute := host })
    | _, .setClusterId clusterId, memory =>
      ((), { memory with clusterId := clusterId })
    | _, .setMigrated, memory => ((), { memory with migrated := true })
    | _, .setLabels labels, memory => ((), { memory with labels := labels })

abbrev Surroundings.run {α : Type} (env : Surroundings)
    (call : Go α) (cluster : Cluster) :
    Except (Abort ApiError) α × Cluster :=
  Program.run (serve env.environment) call cluster

abbrev Surroundings.events {α : Type} (env : Surroundings)
    (call : Go α) (cluster : Cluster) :
    List (Event (ApiCall.Reply Kind.Spec Action.Reply) Cluster) :=
  Program.events (serve env.environment) call cluster

section Run

variable {α : Type} {env : Surroundings} {call : Go α}
  {cluster after : Cluster} {result : Except (Abort ApiError) α}
  {kind : Kind} {key : ObjectKey} {options : ListOptions}
  {event : Event (ApiCall.Reply Kind.Spec Action.Reply) Cluster}
  {permitted : Kind → ObjectKey → Prop}
  {next : List (ObjectKey × Resource kind.Spec) → Go α}

theorem Surroundings.run_get_bind_of_find {object : Resource kind.Spec}
    {next : Except ApiError (Resource kind.Spec) → Go α}
    (hfind : cluster.find kind key = some object)
    (hreadable : env.fault cluster.tick (.get kind key) = none) :
    env.run ((Client.get kind key).bind next) cluster =
      env.run (next (.ok object)) cluster.advance := by
  have hfault : env.environment.fault cluster.tick
      (.get kind key) = none := hreadable
  rw [Surroundings.run, run_get_bind, hfault]
  simp [withFault, World.read, hfind]

theorem Surroundings.exists_run_get_bind (env : Surroundings)
    (cluster : Cluster) (kind : Kind) (key : ObjectKey)
    (next : Except ApiError (Resource kind.Spec) → Go α)
    (hunread : cluster.find kind key = none ∨
      env.fault cluster.tick (.get kind key) ≠ none) :
    ∃ error, env.run ((Client.get kind key).bind next) cluster =
      env.run (next (.error error)) cluster.advance := by
  rw [Surroundings.run, run_get_bind]
  cases hfault : env.environment.fault cluster.tick (.get kind key) with
  | some fault => exact ⟨_, rfl⟩
  | none =>
    have habsent := hunread.resolve_right fun hne => hne hfault
    exact ⟨.notFound, by simp [withFault, World.read, habsent]⟩

theorem Surroundings.find_of_run (hrun : env.run call cluster = (result, after))
    (huses : call.Uses fun op => ¬ op.Writes kind key) :
    after.find kind key = cluster.find kind key := by
  obtain rfl : _ = after := congrArg Prod.snd hrun
  exact huses.run_find env.environment cluster

theorem Surroundings.find_eq_none_of_run
    (hrun : env.run call cluster = (result, after))
    (huses : call.Uses fun op => ∀ object, op ≠ .create kind key object)
    (habsent : cluster.find kind key = none) : after.find kind key = none := by
  obtain rfl : _ = after := congrArg Prod.snd hrun
  exact huses.run_find_eq_none env.environment habsent

theorem Surroundings.isSome_find_of_run
    (hrun : env.run call cluster = (result, after))
    (huses : call.Uses fun op => op ≠ .delete kind key)
    (hfound : (cluster.find kind key).isSome) :
    (after.find kind key).isSome := by
  obtain rfl : _ = after := congrArg Prod.snd hrun
  exact huses.run_isSome_find env.environment hfound

theorem Surroundings.find_of_writesOnly
    (hrun : env.run call cluster = (result, after))
    (huses : call.Uses (ApiCall.WritesOnly permitted))
    (hkey : ¬ permitted kind key) :
    after.find kind key = cluster.find kind key :=
  Surroundings.find_of_run hrun
    (huses.mono fun _ hop hwrites => hkey (hop kind key hwrites))

theorem Surroundings.find_of_mem_events
    (hevent : event ∈ env.events call cluster)
    (huses : call.Uses (ApiCall.WritesOnly permitted))
    (hkey : ¬ permitted kind key) :
    event.after.find kind key = cluster.find kind key := by
  have hkept : call.Maintains (serve env.environment)
      fun state => state.find kind key = cluster.find kind key :=
    huses.maintains fun op hop state hstate =>
      (serve_find _ (fun hwrites => hkey (hop kind key hwrites))
        state).trans hstate
  exact hkept.of_mem_events rfl hevent

theorem run_list_orFail_eq_ok {items : List (ObjectKey × Resource kind.Spec)}
    (hrun : env.run
      ((Client.list kind options).bind fun reply => Client.orFail reply)
      cluster = (.ok items, after)) :
    items = cluster.select kind options ∧ after = cluster.advance :=
  run_listed_eq_ok hrun

theorem run_listed (Ends : Except (Abort ApiError) α × Cluster → Prop)
    (herror : ∀ error, Ends (.error error, cluster.advance))
    (hnext : Ends (env.run (next (cluster.select kind options))
      cluster.advance)) :
    Ends (env.run ((Client.list kind options).bind fun reply =>
      (Client.orFail reply).bind next) cluster) := by
  have hrun : env.run ((Client.list kind options).bind fun reply =>
      (Client.orFail reply).bind next) cluster = _ := run_list_bind _ _ _ _ _
  rw [hrun]
  cases env.environment.fault cluster.tick (.list kind options) with
  | some fault => exact herror _
  | none => exact hnext

theorem mem_events_listed
    (hevent : event ∈ env.events ((Client.list kind options).bind
      fun reply => (Client.orFail reply).bind next) cluster) :
    (∀ kind key, event.after.find kind key = cluster.find kind key) ∨
      event ∈ env.events (next (cluster.select kind options))
        cluster.advance := by
  rcases List.mem_cons.mp hevent with rfl | hrest
  · exact .inl fun _ _ => rfl
  · cases hfault : env.environment.fault cluster.tick (.list kind options) with
    | some fault =>
      simp only [serve, hfault, withFault] at hrest
      cases hrest
    | none =>
      simp only [serve, hfault, withFault] at hrest
      exact .inr hrest

section Upsert

variable {blank : Resource kind.Spec}
  {change : Resource kind.Spec → Resource kind.Spec}

theorem run_upsert_discarded_eq_ok
    (hrun : env.run
      ((upsert kind key blank change).bind fun _ => .done ()) cluster =
        (.ok (), after)) :
    after.find kind key = some (change ((cluster.find kind key).getD blank)) ∧
      after.memory = cluster.memory ∧
      ∀ other name, ¬ (kind = other ∧ key = name) →
        after.find other name = cluster.find other name := by
  obtain ⟨object, between, hupsert, hdone⟩ := Program.run_bind_eq_ok hrun
  simp only [Program.run_done, Prod.mk.injEq, true_and] at hdone
  subst hdone
  obtain ⟨rfl, hfind, hmemory⟩ := run_upsert_eq_ok hupsert
  refine ⟨hfind, hmemory, fun other name hne => ?_⟩
  have huses : (upsert kind key blank change : Go _).Uses
      fun call => ¬ call.Writes other name :=
    upsert_uses (fun hwrites => hwrites) (fun _ hwrites => hne hwrites)
      fun _ hwrites => hne hwrites
  exact Surroundings.find_of_run hupsert huses

theorem exists_run_upsert_discarded
    (hfaultless : env.environment.Faultless) (cluster : Cluster) :
    ∃ after, env.run
      ((upsert kind key blank change).bind fun _ => .done ()) cluster =
        (.ok (), after) := by
  obtain ⟨object, after, hrun⟩ := exists_run_upsert hfaultless change cluster
  exact ⟨after, by rw [Surroundings.run, Program.run_bind_ok hrun]; rfl⟩

end Upsert

end Run

def fetchHttp (request : HttpRequest) : Go (Except String HttpResponse) :=
  Client.perform (Action.http request)

def timeNow : Go Int :=
  Client.perform Action.now

def assignLastSynced (seconds : Int) : Go Unit :=
  Client.perform (Action.setLastSynced seconds)

def assignResourcesRoute (host : String) : Go Unit :=
  Client.perform (Action.setResourcesRoute host)

def assignClusterId (clusterId : String) : Go Unit :=
  Client.perform (Action.setClusterId clusterId)

def assignMigrated : Go Unit :=
  Client.perform Action.setMigrated

def assignLabels (labels : StringMap) : Go Unit :=
  Client.perform (Action.setLabels labels)

structure Manifest (σ : Type) where
  labels : StringMap := []
  annotations : StringMap := []
  spec : σ
  deriving DecidableEq

/-- URL, duration, quantity and version syntax, the JSON and YAML decoders,
the hash function and random texts, as the operator calls them, whether the
operator runs outside a cluster, and how deep a function can call itself. -/
structure Platform where
  runningLocally : Bool
  stackDepth : ℕ
  urlParse : String → Except String Url
  urlParseRequestURI : String → Except String Url
  urlString : Url → String
  urlAddQuery : Url → String → String → Url
  urlJoinPath : String → String → Except String String
  parseDuration : String → Except String Int
  parseQuantity : String → Except String String
  semverParseTolerant : String → Except String String
  unmarshalIndex : String → Except String (String × Option RepositoryConfig)
  unmarshalRule : String → Except String (Manifest PrometheusRuleSpec)
  unmarshalDashboard : String → Except String (Manifest GrafanaDashboardSpec)
  unmarshalPodMonitor : String → Except String (Manifest Document)
  unmarshalRemoteWrite : String → Except String RemoteWriteIndex
  unmarshalFederation : String → Except String (List String)
  unmarshalToken : String → Except String (String × Int)
  marshalAlertmanager : AlertmanagerConfigRoot → Except String String
  sha256Hex : String → String
  htmlEscape : String → String
  generateRandomString : ℕ → String

def Surroundings.quiet : Surroundings where
  fault _ _ := none
  http _ _ := .error "no route to host"
  clock _ := 0

def answeringSurroundings : Surroundings :=
  { Surroundings.quiet with http := fun _ _ => .ok ⟨200, ""⟩ }

def plainCr : Observability := { name := "observability", ns := "managed" }

def Cluster.empty : Cluster where
  objects _ := ∅
  memory := {}

def Platform.plain : Platform where
  runningLocally := false
  stackDepth := 8
  urlParse url := .ok { host := url }
  urlParseRequestURI url := .ok { host := url }
  urlString url := url.host ++ url.path
  urlAddQuery url key value := { url with query := key ++ "=" ++ value }
  urlJoinPath base path := .ok (base ++ path)
  parseDuration _ := .ok 0
  parseQuantity text := .ok text
  semverParseTolerant text := .ok text
  unmarshalIndex _ := .error "not an index"
  unmarshalRule _ := .error "not a rule"
  unmarshalDashboard _ := .error "not a dashboard"
  unmarshalPodMonitor _ := .error "not a pod monitor"
  unmarshalRemoteWrite _ := .error "not a remote write index"
  unmarshalFederation _ := .error "not a federation config"
  unmarshalToken _ := .error "not a token"
  marshalAlertmanager _ := .error "not an alertmanager config"
  sha256Hex text := text
  htmlEscape text := text
  generateRandomString _ := "random"

def plainObservatorium (id logsClient : String) : ObservatoriumIndex where
  id := id
  gateway := "https://gateway"
  tenant := "tenant"
  authType := .redhat
  redhatSsoConfig := some
    { url := "https://sso"
      realm := "realm"
      metricsClient := "metrics"
      metricsSecret := "secret"
      logsClient := logsClient
      logsSecret := "secret" }

end ObservabilityOperator
