import ObservabilityOperator.MonitoringResources
import ObservabilityOperator.TokenManager
import ObservabilityOperator.TokenRefresher

/-!
# Promtail

Every index that asks for it has a Promtail of its own, a DaemonSet with a
configuration in a ConfigMap, which sends the logs of selected namespaces to an
Observatorium: to its gateway, or to the token refresher for its logs.
-/

namespace ObservabilityOperator

variable (cr : Observability)

def getPromtailConfigmap (name : String) : ObjectKey :=
  ⟨cr.ns, "promtail-config-" ++ name⟩

def getPromtailDaemonSet (name : String) : ObjectKey :=
  ⟨cr.ns, "promtail-" ++ name⟩

def getPromtailServiceAccount : ObjectKey :=
  ⟨cr.ns, "obs-promtail"⟩

/-! ## The configuration -/

structure PromtailSettings where
  clusterId : String
  observabilityId : String
  namespaces : List String
  url : TargetUrl
  requireToken : Bool
  deriving DecidableEq, Repr

def promtailScrapeConfigs : String :=
  "scrape_configs:\n" ++
  "  - job_name: \"strimzi\"\n" ++
  "    relabel_configs:\n" ++
  "    - source_labels:\n" ++
  "      - __meta_kubernetes_pod_node_name\n" ++
  "      target_label: __host__\n" ++
  "    - action: replace\n" ++
  "      source_labels:\n" ++
  "      - __meta_kubernetes_pod_node_name\n" ++
  "      target_label: nodename\n" ++
  "    - action: replace\n" ++
  "      source_labels:\n" ++
  "      - __meta_kubernetes_namespace\n" ++
  "      target_label: namespace\n" ++
  "    - action: replace\n" ++
  "      source_labels:\n" ++
  "      - __meta_kubernetes_pod_name\n" ++
  "      target_label: instance\n" ++
  "    - action: replace\n" ++
  "      source_labels:\n" ++
  "      - __meta_kubernetes_pod_container_name\n" ++
  "      target_label: container_name\n" ++
  "    - action: labelmap\n" ++
  "      regex: __meta_kubernetes_pod_label_strimzi_io_(.+)\n" ++
  "      replacement: strimzi_io_$1\n" ++
  "    - replacement: /var/log/pods/*$1/*.log\n" ++
  "      separator: /\n" ++
  "      source_labels:\n" ++
  "      - __meta_kubernetes_pod_uid\n" ++
  "      - __meta_kubernetes_pod_container_name\n" ++
  "      target_label: __path__\n" ++
  "    kubernetes_sd_configs:\n" ++
  "      - role: \"pod\"\n" ++
  "        namespaces:\n"

def PromtailSettings.render (settings : PromtailSettings) : String :=
  "\nserver:\n" ++
  "  http_listen_port: 9080\n" ++
  "  http_listen_address: 0.0.0.0\n" ++
  "clients:\n" ++
  "  - url: " ++ settings.url.render ++
  (if settings.requireToken then
    "\n    bearer_token_file: /opt/secrets/token" else "") ++ "\n" ++
  "    external_labels:\n" ++
  "      cluster_id: \"" ++ settings.clusterId ++ "\"\n" ++
  "      observability_id: \"" ++ settings.observabilityId ++ "\"\n" ++
  "    tls_config:\n" ++
  "      insecure_skip_verify: true\n" ++
  promtailScrapeConfigs ++
  "          names: [" ++ GoStrings.join settings.namespaces "," ++ "]\n"

/-- Where the logs of an Observatorium go, and whether with a token.  An
authentication type that is not known has the empty address. -/
def promtailTarget (observatorium : ObservatoriumIndex) :
    Except String (TargetUrl × Bool) :=
  if !observatorium.isValid then
    .error ("invalid observatorium config for " ++ observatorium.id)
  else
    match observatorium.authType with
    | .dex => .ok (.external (observatorium.gateway ++ "/api/logs/v1/" ++
        observatorium.tenant ++ "/loki/api/v1/push"), true)
    | .redhat =>
      match observatorium.redhatSsoConfig with
      | some sso =>
        if sso.hasLogs then
          .ok (.service (getTokenRefresherName observatorium.id .logs)
            cr.ns, false)
        else .error ("invalid sso config for " ++ observatorium.id)
      | none => .error ("invalid sso config for " ++ observatorium.id)
    | .unknown _ => .ok (.external "", false)

def promtailSettings (observatorium : ObservatoriumIndex) (indexId : String)
    (namespaces : List String) : Except String PromtailSettings :=
  (promtailTarget cr observatorium).map fun target =>
    { clusterId := cr.status.clusterId
      observabilityId := indexId
      namespaces := namespaces.mergeSort fun first second => first ≤ second
      url := target.1
      requireToken := target.2 }

def getPromtailConfig (observatorium : ObservatoriumIndex) (indexId : String)
    (namespaces : List String) : Except String String :=
  (promtailSettings cr observatorium indexId namespaces).map
    PromtailSettings.render

def getScrapeNamespacesFor (promtail : PromtailIndex) :
    Go (List String) := do
  let list ← Client.orFail (← Client.list Kind.nameSpace
    { labels := promtail.namespaceLabelSelector })
  return list.map fun item => item.1.name

def createPromtailConfigFor (index : RepositoryIndex) (promtail : PromtailIndex)
    (observatorium : ObservatoriumIndex) : Go String := do
  let namespaces ← getScrapeNamespacesFor promtail
  let config :=
    match getPromtailConfig cr observatorium index.id namespaces with
    | .ok config => config
    | .error _ => ""
  let _ ← upsert Kind.configMap (getPromtailConfigmap cr index.id)
    { Kind.configMap.blank with labels := managedLabels } fun configMap =>
      { configMap with
        labels := managedLabels
        spec := StringMap.set configMap.spec "promtail.yaml" config }
  return config

/-! ## The DaemonSets -/

def daemonsetShouldExist (indexes : List RepositoryIndex) (name : String) :
    Bool :=
  if cr.externalSyncDisabled || cr.observatoriumDisabled then false
  else
    match indexes.find? fun index => name = "promtail-" ++ index.id with
    | none => false
    | some index =>
      match index.config.bind RepositoryConfig.promtail with
      | none => false
      | some promtail => promtail.enabled && promtail.observatorium ≠ ""

def deleteUnrequestedDaemonsets (indexes : List RepositoryIndex) : Go Unit := do
  let list ← Client.orFail (← Client.list Kind.daemonSet { ns := some cr.ns })
  Program.forEach list fun item =>
    if daemonsetShouldExist cr indexes item.1.name then .done ()
    else do Client.orFail (← Client.delete Kind.daemonSet item.1)

theorem deleteUnrequestedDaemonsets_eq_prune (indexes : List RepositoryIndex) :
    deleteUnrequestedDaemonsets cr indexes =
      Client.prune .daemonSet { ns := some cr.ns } fun key =>
        daemonsetShouldExist cr indexes key.name = true := rfl

def getPromtailDaemonSetLabels (promtail : PromtailIndex) : LabelSelector :=
  promtail.daemonSetLabelSelector.getD
    { matchLabels := [("app", "promtail")] }

def promtailPod (index : RepositoryIndex) (observatorium : ObservatoriumIndex)
    (configHash : String) : PodSpec :=
  let mountsToken := observatorium.authType = .dex
  { affinity := "node-role.kubernetes.io/infra DoesNotExist"
    serviceAccountName := (getPromtailServiceAccount cr).name
    volumes :=
      [{ name := "config"
         source := .configMap (getPromtailConfigmap cr index.id).name },
        { name := "logs", source := .hostPath "/var/log/pods" }] ++
      if mountsToken then
        [{ name := "token"
           source := .secret (getObservatoriumTokenSecretName observatorium) }]
      else []
    priorityClassName := observabilityPriorityClassName
    containers :=
      [{ name := "promtail"
         image := "quay.io/integreatly/promtail:latest"
         privileged := true
         env :=
          [("HOSTNAME", "fieldRef spec.nodeName"), ("CONFIG_HASH", configHash)]
         args := ["-config.file=/opt/config/promtail.yaml"]
         volumeMounts :=
          [("config", "/opt/config"), ("logs", "/var/log/pods")] ++
          if mountsToken then [("token", "/opt/secrets")] else []
         ports := [("", 3100)] }] }

def createPromtailDaemonset (platform : Platform) (cr : Observability)
    (index : RepositoryIndex) (promtail : PromtailIndex)
    (observatorium : ObservatoriumIndex) : Go Unit := do
  let config ← createPromtailConfigFor cr index promtail observatorium
  let _ ← upsert Kind.daemonSet (getPromtailDaemonSet cr index.id)
    { Kind.daemonSet.blank with labels := managedLabels } fun daemonset =>
      { daemonset with
        labels := managedLabels
        spec :=
          { selector := getPromtailDaemonSetLabels promtail
            podLabels := (getPromtailDaemonSetLabels promtail).matchLabels
            pod := promtailPod cr index observatorium
              (platform.sha256Hex config) } }

def promtailObservatorium (index : RepositoryIndex) :
    Option (PromtailIndex × ObservatoriumIndex) :=
  match index.config.bind RepositoryConfig.promtail with
  | none => none
  | some promtail =>
    if !promtail.enabled then none
    else if cr.observatoriumDisabled || cr.externalSyncDisabled then none
    else if promtail.observatorium = "" then none
    else
      (getObservatoriumConfig index promtail.observatorium).map
        fun observatorium => (promtail, observatorium)

def createPromtailDaemonsetFor (platform : Platform) (cr : Observability)
    (index : RepositoryIndex) : Go Unit :=
  match promtailObservatorium cr index with
  | none => .done ()
  | some (promtail, observatorium) =>
    createPromtailDaemonset platform cr index promtail observatorium

end ObservabilityOperator
