import ObservabilityOperator.AlertmanagerConfig
import ObservabilityOperator.TokenManager
import ObservabilityOperator.TokenRefresher

/-!
# The Prometheus of the operator

The operator keeps one Prometheus for all indexes.  Its selectors and the size
of its volume come from the custom resource or else from the first index; there
is one remote write target for every index.
-/

namespace ObservabilityOperator

variable (platform : Platform) (cr : Observability)
  (indexes : List RepositoryIndex) (index : RepositoryIndex)

def getDefaultNamePrometheus : String :=
  if cr.spec.selfContained.isSome ∧ cr.spec.prometheusDefaultName ≠ "" then
    cr.spec.prometheusDefaultName
  else "obs-prometheus"

def getPrometheus : ObjectKey :=
  ⟨cr.getPrometheusOperatorNamespace, getDefaultNamePrometheus cr⟩

def getPrometheusRoute : ObjectKey :=
  ⟨cr.getPrometheusOperatorNamespace, getDefaultNamePrometheus cr⟩

def getPrometheusServiceAccount : ObjectKey :=
  ⟨cr.getPrometheusOperatorNamespace, getDefaultNamePrometheus cr⟩

def getPrometheusProxySecret : ObjectKey :=
  ⟨cr.getPrometheusOperatorNamespace, "prometheus-proxy"⟩

def getPrometheusAdditionalScrapeConfig : ObjectKey :=
  ⟨cr.getPrometheusOperatorNamespace, "additional-scrape-configs"⟩

def getPrometheusBlackBoxConfig : ObjectKey :=
  ⟨cr.getPrometheusOperatorNamespace, "black-box-config"⟩

def getPrometheusVersion : String :=
  (cr.selfContainedName SelfContained.prometheusVersion).getD "v2.36.2"

def getPrometheusResourceRequirement : Document :=
  (cr.spec.selfContained.bind
    SelfContained.prometheusResourceRequirement).getD ""

/-! ## Selectors -/

def getPrometheusRepositoryIndexConfig : Option PrometheusIndex :=
  match indexes with
  | [] => some {}
  | index :: _ =>
    match index.config with
    | some config => config.prometheus
    | none => some {}

def defaultPrometheusLabelSelectors : StringMap := [("app", "strimzi")]

/-- A selector of the custom resource, or else the empty one if selectors are
overridden, or else that of the first index, or else the default. -/
def selectorFrom (ofCr : SelfContained → Option LabelSelector)
    (ofIndex : PrometheusIndex → Option LabelSelector)
    (default : Option LabelSelector) : Option LabelSelector :=
  match cr.spec.selfContained.bind ofCr with
  | some selector => some selector
  | none =>
    if cr.overrideSelectors then some {}
    else
      match (getPrometheusRepositoryIndexConfig indexes).bind ofIndex with
      | some selector => some selector
      | none => default

def labelSelectorFrom (ofCr : SelfContained → Option LabelSelector)
    (ofIndex : PrometheusIndex → Option LabelSelector) : Option LabelSelector :=
  selectorFrom cr indexes ofCr ofIndex
    (some { matchLabels := defaultPrometheusLabelSelectors })

def namespaceSelectorFrom (ofCr : SelfContained → Option LabelSelector)
    (ofIndex : PrometheusIndex → Option LabelSelector) : Option LabelSelector :=
  selectorFrom cr indexes ofCr ofIndex none

def getPrometheusPodMonitorLabelSelectors : Option LabelSelector :=
  labelSelectorFrom cr indexes SelfContained.podMonitorLabelSelector
    PrometheusIndex.podMonitorLabelSelector

def getPrometheusServiceMonitorLabelSelectors : Option LabelSelector :=
  labelSelectorFrom cr indexes SelfContained.serviceMonitorLabelSelector
    PrometheusIndex.serviceMonitorLabelSelector

def getPrometheusRuleLabelSelectors : Option LabelSelector :=
  labelSelectorFrom cr indexes SelfContained.ruleLabelSelector
    PrometheusIndex.ruleLabelSelector

def getProbeLabelSelectors : Option LabelSelector :=
  labelSelectorFrom cr indexes SelfContained.probeLabelSelector
    PrometheusIndex.probeLabelSelector

def getPrometheusPodMonitorNamespaceSelectors : Option LabelSelector :=
  namespaceSelectorFrom cr indexes SelfContained.podMonitorNamespaceSelector
    PrometheusIndex.podMonitorNamespaceSelector

def getPrometheusServiceMonitorNamespaceSelectors : Option LabelSelector :=
  namespaceSelectorFrom cr indexes
    SelfContained.serviceMonitorNamespaceSelector
    PrometheusIndex.serviceMonitorNamespaceSelector

def getPrometheusRuleNamespaceSelectors : Option LabelSelector :=
  namespaceSelectorFrom cr indexes SelfContained.ruleNamespaceSelector
    PrometheusIndex.ruleNamespaceSelector

def getProbeNamespaceSelectors : Option LabelSelector :=
  namespaceSelectorFrom cr indexes SelfContained.probeNamespaceSelector
    PrometheusIndex.probeNamespaceSelector

/-! ## Federation -/

/-- A pattern is added in quotes unless it is there already, which is looked
up without quotes. -/
def addPatterns (result : List String) : List String → List String
  | [] => result
  | pattern :: rest =>
    if pattern ∈ result then addPatterns result rest
    else addPatterns (result ++ ["'" ++ pattern ++ "'"]) rest

def fetchFederationPatterns (platform : Platform) :
    List String → List RepositoryIndex → Go (List String)
  | result, [] => return result
  | result, index :: rest =>
    match index.config.bind RepositoryConfig.prometheus with
    | none => fetchFederationPatterns platform result rest
    | some prometheus =>
      if prometheus.federation = "" then
        fetchFederationPatterns platform result rest
      else do
        let bytes ← fetchResource platform
          (index.baseUrl ++ "/" ++ prometheus.federation) index.tag
          index.accessToken
        let patterns ← Program.ofExcept (platform.unmarshalFederation bytes)
        fetchFederationPatterns platform (addPatterns result patterns) rest

def fetchFederationConfigs : Go (List String) := do
  if cr.externalSyncDisabled then
    let selfContained ← Program.derefSpec cr.spec.selfContained
    return selfContained.federatedMetrics
  else fetchFederationPatterns platform [] indexes

def getFederationConfigBearerToken (patterns : List String) : String :=
  "\n- job_name: openshift-monitoring-federation\n" ++
  "  honor_labels: true\n" ++
  "  kubernetes_sd_configs:\n" ++
  "    - role: service\n" ++
  "      namespaces:\n" ++
  "        names:\n" ++
  "          - openshift-monitoring\n" ++
  "  scrape_interval: 120s\n" ++
  "  scrape_timeout: 60s\n" ++
  "  metrics_path: /federate\n" ++
  "  relabel_configs:\n" ++
  "    - action: keep\n" ++
  "      source_labels: [ '__meta_kubernetes_service_name' ]\n" ++
  "      regex: prometheus-k8s\n" ++
  "    - action: keep\n" ++
  "      source_labels: [ '__meta_kubernetes_service_port_name' ]\n" ++
  "      regex: web\n" ++
  "  params:\n" ++
  "    match[]: [" ++ GoStrings.join patterns "," ++ "]\n" ++
  "  scheme: https\n" ++
  "  bearer_token_file: " ++
    "\"/var/run/secrets/kubernetes.io/serviceaccount/token\"\n" ++
  "  tls_config:\n" ++
  "    insecure_skip_verify: true\n"

def createAdditionalScrapeConfigSecret (patterns : List String) : Go Unit := do
  let _ ← upsert Kind.secret (getPrometheusAdditionalScrapeConfig cr)
    Kind.secret.blank fun secret =>
      { secret with
        spec :=
          { data := secret.spec.data.set "additional-scrape-config.yaml"
              (getFederationConfigBearerToken patterns) } }

def getBlackboxBearerToken : Go (Option String) :=
  match cr.hasBlackboxBearerTokenSecret with
  | none => return none
  | some secretName => do
    match ← Client.get Kind.secret ⟨cr.ns, secretName⟩ with
    | .error _ => return none
    | .ok secret => return some (secret.spec.data.get "token")

def blackBoxTlsConfig : String :=
  "\n      tls_config:\n" ++
  "        ca_file: /var/run/secrets/kubernetes.io/serviceaccount/ca.crt\n" ++
  "        cert_file: /etc/tls/private/tls.crt\n" ++
  "        key_file: /etc/tls/private/tls.key"

def blackBoxConfig (selfSignedCerts : Bool) (bearerToken : Option String) :
    String :=
  let tlsConfig := if selfSignedCerts then blackBoxTlsConfig else ""
  "modules:\n" ++
  "  http_extern_2xx:\n" ++
  "    prober: http\n" ++
  "    http:\n" ++
  "      preferred_ip_protocol: ip4\n" ++
  "  http_2xx:\n" ++
  "    prober: http\n" ++
  "    http:\n" ++
  "      preferred_ip_protocol: ip4" ++ tlsConfig ++
  (match bearerToken with
    | some token => "\n      bearer_token: " ++ platform.htmlEscape token
    | none => "") ++ "\n" ++
  "  http_post_2xx:\n" ++
  "    prober: http\n" ++
  "    http:\n" ++
  "      method: POST\n" ++
  "      preferred_ip_protocol: ip4" ++ tlsConfig

def getDefaultBlackBoxConfig : Go (String × String) := do
  let bearerToken ← getBlackboxBearerToken cr
  let config := blackBoxConfig platform cr.selfSignedCerts bearerToken
  return (config, platform.sha256Hex config)

def createBlackBoxConfig : Go String := do
  let (config, hash) ← getDefaultBlackBoxConfig platform cr
  let _ ← upsert Kind.configMap (getPrometheusBlackBoxConfig cr)
    { Kind.configMap.blank with labels := managedLabels } fun configMap =>
      { configMap with spec := [("black-box-config.yaml", config)] }
  return hash

/-! ## Remote write -/

def getRemoteWriteIndex : Go RemoteWriteIndex := do
  let config ← Program.deref index.config
  let prometheus ← Program.deref config.prometheus
  let bytes ← fetchResource platform
    (index.baseUrl ++ "/" ++ prometheus.remoteWrite) index.tag
    index.accessToken
  (Program.ofExcept (platform.unmarshalRemoteWrite bytes) :
    Go RemoteWriteIndex).wrapping "error parsing remote write index"

def getRemoteWriteOauth2Config : Go (Option OAuth2) := do
  match ← getOauth2ConfigSecret cr with
  | none => return none
  | some secret =>
    let tokenUrl ← Program.ofExcept (platform.urlJoinPath
      (secret.spec.data.get "issuer_url")
      "/protocol/openid-connect/token")
    return some
      { clientIdSecret := remoteWriteOIDCSecretName
        clientIdKey := "client_id"
        clientSecretSecret := remoteWriteOIDCSecretName
        clientSecretKey := "client_secret"
        tokenUrl }

structure RemoteWriteTarget where
  spec : RemoteWriteSpec
  tokenSecret : String := ""
  deriving DecidableEq, Repr

def getRemoteWriteSpecForDex (observatorium : ObservatoriumIndex)
    (remoteWrite : RemoteWriteIndex) : RemoteWriteTarget :=
  let tokenSecret := getObservatoriumTokenSecretName observatorium
  { spec :=
      { url := .external (observatorium.gateway ++ "/api/metrics/v1/" ++
          observatorium.tenant ++ "/api/v1/receive")
        name := index.id
        remoteTimeout := remoteWrite.remoteTimeout
        writeRelabelConfigs := remoteWrite.writeRelabelConfigs
        bearerTokenFile :=
          "/etc/prometheus/secrets/" ++ tokenSecret ++ "/token"
        proxyUrl := remoteWrite.proxyUrl
        queueConfig := remoteWrite.queueConfig }
    tokenSecret }

/-- The gateway where there is an OAuth2 configuration, and otherwise the
token refresher. -/
def redHatRemoteWriteUrl (observatorium : ObservatoriumIndex) :
    Option OAuth2 → TargetUrl
  | some _ => .external observatorium.gateway
  | none => .service (getTokenRefresherName observatorium.id .metrics)
      cr.getPrometheusOperatorNamespace

def getRemoteWriteSpecForRedHat (observatorium : ObservatoriumIndex)
    (remoteWrite : RemoteWriteIndex) : Go RemoteWriteTarget := do
  let oauth2 ← getRemoteWriteOauth2Config platform cr
  return { spec :=
    { url := redHatRemoteWriteUrl cr observatorium oauth2
      name := index.id
      remoteTimeout := remoteWrite.remoteTimeout
      writeRelabelConfigs := remoteWrite.writeRelabelConfigs
      proxyUrl := remoteWrite.proxyUrl
      queueConfig := remoteWrite.queueConfig
      oauth2 } }

def getRemoteWriteSpec (remoteWrite : RemoteWriteIndex) :
    Go RemoteWriteTarget :=
  match index.config.bind RepositoryConfig.prometheus with
  | none => .fail (.error (.text
      ("no observatorium config found for " ++ index.id ++ " / prometheus")))
  | some prometheus =>
    if prometheus.observatorium = "" then
      .fail (.error (.text ("no observatorium config found for " ++
        index.id ++ " / prometheus")))
    else
      match getObservatoriumConfig index prometheus.observatorium with
      | none => .fail (.error (.text
          ("no observatorium config found for " ++ prometheus.observatorium)))
      | some observatorium =>
        match observatorium.authType with
        | .dex =>
          .done (getRemoteWriteSpecForDex index observatorium remoteWrite)
        | .redhat => getRemoteWriteSpecForRedHat platform cr index
            observatorium remoteWrite
        | .unknown text =>
          .fail (.error (.text ("unknown auth type " ++ text)))

/-- The target of an index.  An index without one is passed over, but its
remote write file has to be there. -/
def remoteWriteTargetOf : Go (Option RemoteWriteTarget) := do
  let remoteWrite ← getRemoteWriteIndex platform index
  match ← (getRemoteWriteSpec platform cr index remoteWrite).attempt with
  | .error _ => return none
  | .ok target => return some target

def remoteWriteTargets : Go (List RemoteWriteTarget) := do
  if cr.observatoriumDisabled then return []
  else
    let targets ← Program.collect indexes (remoteWriteTargetOf platform cr)
    return targets.filterMap fun target => target

/-! ## Storage -/

def getPrometheusStorageSize : String :=
  let requested :=
    match cr.spec.selfContained,
        cr.spec.storage.bind Storage.prometheusStorageSpec with
    | some _, some storage =>
      if storage.requests.isSome then storage.requestedSize else "250Gi"
    | _, _ => "250Gi"
  match getPrometheusRepositoryIndexConfig indexes with
  | some config =>
    if config.overridePrometheusPvcSize ≠ "" then
      config.overridePrometheusPvcSize
    else requested
  | none => requested

def getPrometheusStorageSpecHelper (storage : StorageSpec)
    (indexes : List RepositoryIndex) : Except String StorageSpec :=
  if cr.externalSyncDisabled then .ok storage
  else
    let customStorageSize := getPrometheusStorageSize cr indexes
    if customStorageSize = "" then .ok storage
    else
      (platform.parseQuantity customStorageSize).map fun quantity =>
        { claimName := "managed-services"
          requests := some [("storage", quantity)] }

def oldPrometheusClaim : String :=
  "managed-services-prometheus-kafka-prometheus-0"

/-- Whether the claim of an older version is there, and the volume of the
claim that was listed last. -/
def existingPVC : Go (Bool × String) := do
  let claims ← (Client.orFail (← Client.list Kind.persistentVolumeClaim
    { ns := some cr.getPrometheusOperatorNamespace }) :
      Go _).wrapping "error listing existing volume claims"
  return (claims.any fun claim => claim.1.name = oldPrometheusClaim,
    match claims.getLast? with
    | some claim => claim.2.spec.volumeName
    | none => "")

def useExistingPVForVolumeClaim (volumeName : String) : Go StorageSpec := do
  let volume ← Client.orFail
    (← Client.get Kind.persistentVolume ⟨"", volumeName⟩)
  Client.orFail (← Client.update Kind.persistentVolume ⟨"", volumeName⟩
    { volume with
      spec :=
        { volume.spec with
          claimRef := some ⟨cr.getPrometheusOperatorNamespace,
            "managed-services-prometheus-obs-prometheus-0"⟩ } })
  return { claimName := "managed-services"
           volumeName
           requests := some volume.spec.capacity }

def prometheusStorage : Go (Option StorageSpec) :=
  match cr.spec.storage.bind Storage.prometheusStorageSpec with
  | none => return none
  | some storage => do
    let (found, volumeName) ← existingPVC cr
    if found then
      return some (← useExistingPVForVolumeClaim cr volumeName)
    else
      return some (← Program.ofExcept
        (getPrometheusStorageSpecHelper platform cr storage indexes))

def removePVCPostMigration : Go Unit :=
  Client.deleteIfFound Kind.persistentVolumeClaim
    ⟨cr.getPrometheusOperatorNamespace, oldPrometheusClaim⟩

/-! ## The Prometheus -/

def isRetention (text : String) : Bool :=
  let digits := text.toList.takeWhile Char.isDigit
  let unit := String.ofList (text.toList.dropWhile Char.isDigit)
  !digits.isEmpty && unit ∈ ["ms", "y", "w", "d", "h", "m", "s"]

def getRetentionHelper : String :=
  if isRetention cr.spec.retention then cr.spec.retention else "45d"

def getAlerting : AlertingSpec where
  ns := cr.getPrometheusOperatorNamespace
  name := (getAlertmanagerCr cr).name
  port := "web"
  scheme := "https"
  caFile := "/var/run/secrets/kubernetes.io/serviceaccount/service-ca.crt"
  serverName := (getAlertmanagerService cr).name ++ "." ++
    cr.getPrometheusOperatorNamespace ++ ".svc"
  bearerTokenFile := "/var/run/secrets/kubernetes.io/serviceaccount/token"

def prometheusProxyContainer : Container where
  name := "oauth-proxy"
  image := getOriginOauthProxyImage cr
  args :=
    ["-provider=openshift",
      "-https-address=:9091",
      "-http-address=",
      "-email-domain=*",
      "-upstream=http://localhost:9090",
      "-openshift-service-account=" ++ (getPrometheusServiceAccount cr).name,
      "-openshift-sar=\x7b\"resource\": \"namespaces\", \"verb\": \"get\"\x7d",
      "-openshift-delegate-urls=\x7b\"/\": \x7b\"resource\": " ++
        "\"namespaces\", \"verb\": \"get\"\x7d\x7d",
      "-tls-cert=/etc/tls/private/tls.crt",
      "-tls-key=/etc/tls/private/tls.key",
      "-client-secret-file=" ++
        "/var/run/secrets/kubernetes.io/serviceaccount/token",
      "-cookie-secret-file=/etc/proxy/secrets/session_secret",
      "-openshift-ca=/etc/pki/tls/cert.pem",
      "-openshift-ca=/var/run/secrets/kubernetes.io/serviceaccount/ca.crt",
      "-skip-auth-regex=^/metrics"]
  env := [("HTTP_PROXY", ""), ("HTTPS_PROXY", ""), ("NO_PROXY", "")]
  ports := [("proxy", 9091)]
  volumeMounts :=
    [("secret-prometheus-k8s-tls", "/etc/tls/private"),
      ("secret-" ++ (getPrometheusProxySecret cr).name,
        "/etc/proxy/secrets")]

def blackboxExporterContainer (configHash : String) : Container where
  name := "blackbox-exporter"
  image := "quay.io/prometheus/blackbox-exporter:v0.19.0"
  args := ["--config.file=/opt/config/black-box-config.yaml"]
  env := [("CONFIG_HASH", configHash)]
  ports := [("http", 9115)]
  volumeMounts :=
    [("black-box-config", "/opt/config/"),
      ("secret-prometheus-k8s-tls", "/etc/tls/private")]

def prometheusSidecars (configHash : String) : List Container :=
  prometheusProxyContainer cr ::
    if cr.blackboxExporterDisabled then []
    else [blackboxExporterContainer configHash]

def prometheusSecrets (targets : List RemoteWriteTarget) : List String :=
  [(getPrometheusProxySecret cr).name, "prometheus-k8s-tls"] ++
    (targets.map RemoteWriteTarget.tokenSecret).filter (· ≠ "")

def prometheusSpec (configHash host : String) (targets : List RemoteWriteTarget)
    (storage : Option StorageSpec) : PrometheusSpec where
  podAnnotations := [("cluster-autoscaler.kubernetes.io/safe-to-evict", "true")]
  image := "quay.io/prometheus/prometheus:" ++ getPrometheusVersion cr
  version := getPrometheusVersion cr
  priorityClassName := observabilityPriorityClassName
  serviceAccountName := (getPrometheusServiceAccount cr).name
  externalUrl := "https://" ++ host
  additionalScrapeConfigs :=
    ("additional-scrape-configs", "additional-scrape-config.yaml")
  externalLabels := [("cluster_id", cr.status.clusterId)]
  volumes :=
    [{ name := "black-box-config", source := .configMap "black-box-config" }]
  podMonitorSelector := getPrometheusPodMonitorLabelSelectors cr indexes
  podMonitorNamespaceSelector :=
    getPrometheusPodMonitorNamespaceSelectors cr indexes
  serviceMonitorSelector := getPrometheusServiceMonitorLabelSelectors cr indexes
  serviceMonitorNamespaceSelector :=
    getPrometheusServiceMonitorNamespaceSelectors cr indexes
  probeSelector := getProbeLabelSelectors cr indexes
  probeNamespaceSelector := getProbeNamespaceSelectors cr indexes
  remoteWrite := targets.map RemoteWriteTarget.spec
  secrets := prometheusSecrets cr targets
  containers := prometheusSidecars cr configHash
  resources := getPrometheusResourceRequirement cr
  retention := getRetentionHelper cr
  ruleSelector := getPrometheusRuleLabelSelectors cr indexes
  ruleNamespaceSelector := getPrometheusRuleNamespaceSelectors cr indexes
  alerting := some (getAlerting cr)
  storage := storage
  tolerations := cr.spec.tolerations
  affinity := cr.spec.affinity

/-- The labels of the custom resource in memory are overwritten as well. -/
def reconcilePrometheus (configHash : String) : Go Unit := do
  let host ← getRouteHost (getPrometheusRoute cr)
  let targets ← remoteWriteTargets platform cr indexes
  let _ ← createOrUpdate Kind.prometheus (getPrometheus cr)
    Kind.prometheus.blank fun prometheus => do
      assignLabels [("app", "prometheus")]
      let storage ← prometheusStorage platform cr indexes
      return { prometheus with
        spec := prometheusSpec cr indexes configHash host targets storage }
  removePVCPostMigration cr

end ObservabilityOperator
