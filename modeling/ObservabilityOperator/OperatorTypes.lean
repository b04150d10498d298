import ObservabilityOperator.ApiServer

/-!
# The types of the operator's API

The custom resource `Observability`, the repository index that an application
service publishes, and the Alertmanager configuration that is generated from
the indexes.  An optional pointer of the source is an `Option`.  A value the
operator only copies from one object to another is a `Document`.
-/

namespace ObservabilityOperator

variable (cr : Observability)

abbrev Document : Type := String

structure LabelSelectorRequirement where
  key : String
  operator : String
  values : List String
  deriving DecidableEq, Repr

structure LabelSelector where
  matchLabels : StringMap := []
  matchExpressions : List LabelSelectorRequirement := []
  deriving DecidableEq, Repr

/-! ## The custom resource -/

inductive ObservabilityStageName where
  | grafanaInstallation
  | grafanaConfiguration
  | prometheusInstallation
  | prometheusConfiguration
  | csv
  | tokenRequest
  | promtailInstallation
  | alertmanagerInstallation
  | configuration
  | loggingInstallation
  | migration
  deriving DecidableEq, Repr

inductive ObservabilityStageStatus where
  | success
  | failed
  | inProgress
  deriving DecidableEq, Repr

inductive ObservabilityAuthType where
  | dex
  | redhat
  | unknown (text : String)
  deriving DecidableEq, Repr

def ObservabilityAuthType.ofString (text : String) : ObservabilityAuthType :=
  if text = "dex" then .dex
  else if text = "redhat" then .redhat
  else .unknown text

/-- A volume claim template: its name, the volume it asks for, its resource
requests by name, and its other fields. -/
structure StorageSpec where
  claimName : String := ""
  volumeName : String := ""
  requests : Option StringMap := none
  rest : Document := ""
  deriving DecidableEq, Repr

structure Storage where
  prometheusStorageSpec : Option StorageSpec := none
  alertManagerStorageSpec : Option StorageSpec := none
  deriving DecidableEq, Repr

structure SelfContained where
  disableRepoSync : Option Bool := none
  disableObservatorium : Option Bool := none
  disablePagerDuty : Option Bool := none
  disableDeadmansSnitch : Option Bool := none
  disableSmtp : Option Bool := none
  disableBlackboxExporter : Option Bool := none
  selfSignedCerts : Option Bool := none
  overrideSelectors : Option Bool := none
  federatedMetrics : List String := []
  podMonitorLabelSelector : Option LabelSelector := none
  podMonitorNamespaceSelector : Option LabelSelector := none
  serviceMonitorLabelSelector : Option LabelSelector := none
  serviceMonitorNamespaceSelector : Option LabelSelector := none
  ruleLabelSelector : Option LabelSelector := none
  ruleNamespaceSelector : Option LabelSelector := none
  probeLabelSelector : Option LabelSelector := none
  probeNamespaceSelector : Option LabelSelector := none
  grafanaDashboardLabelSelector : Option LabelSelector := none
  alertManagerConfigSecret : String := ""
  alertManagerVersion : String := ""
  blackboxBearerTokenSecret : String := ""
  prometheusVersion : String := ""
  alertManagerResourceRequirement : Option Document := none
  prometheusResourceRequirement : Option Document := none
  prometheusOperatorResourceRequirement : Option Document := none
  grafanaResourceRequirement : Option Document := none
  grafanaOperatorResourceRequirement : Option Document := none
  grafanaVersion : String := ""
  grafanaInitImage : String := ""
  disableLogging : Option Bool := none
  originOauthProxyImage : String := ""
  deriving DecidableEq, Repr

structure DescopedMode where
  enabled : Option Bool := none
  prometheusOperatorNamespace : String := ""
  deriving DecidableEq, Repr

structure ObservabilitySpec where
  clusterId : String := ""
  configurationSelector : Option LabelSelector := none
  resyncPeriod : String := ""
  storage : Option Storage := none
  tolerations : Option Document := none
  affinity : Option Document := none
  selfContained : Option SelfContained := none
  descopedMode : Option DescopedMode := none
  retention : String := ""
  alertManagerDefaultName : String := ""
  prometheusDefaultName : String := ""
  grafanaDefaultName : String := ""
  deriving DecidableEq, Repr

structure ObservabilityStatus where
  stage : Option ObservabilityStageName := none
  stageStatus : Option ObservabilityStageStatus := none
  lastMessage : String := ""
  tokenExpires : Int := 0
  clusterId : String := ""
  lastSynced : Int := 0
  migrated : Bool := false
  resourcesRoute : String := ""
  deriving DecidableEq, Repr

structure Observability where
  name : String
  ns : String
  labels : StringMap := []
  annotations : StringMap := []
  spec : ObservabilitySpec := {}
  status : ObservabilityStatus := {}
  deriving DecidableEq, Repr

namespace Observability

def selfContainedFlag (flag : SelfContained → Option Bool) : Bool :=
  match cr.spec.selfContained with
  | some selfContained => (flag selfContained).getD false
  | none => false

def externalSyncDisabled : Bool :=
  cr.selfContainedFlag SelfContained.disableRepoSync

variable {cr} in
theorem exists_of_externalSyncDisabled
    (hdisabled : cr.externalSyncDisabled = true) :
    ∃ selfContained, cr.spec.selfContained = some selfContained ∧
      selfContained.disableRepoSync = some true := by
  unfold externalSyncDisabled selfContainedFlag at hdisabled
  cases hsome : cr.spec.selfContained with
  | none => simp [hsome] at hdisabled
  | some selfContained =>
    cases hflag : selfContained.disableRepoSync <;>
      simp_all

def overrideSelectors : Bool :=
  cr.selfContainedFlag SelfContained.overrideSelectors

def observatoriumDisabled : Bool :=
  cr.selfContainedFlag SelfContained.disableObservatorium

def pagerDutyDisabled : Bool :=
  cr.selfContainedFlag SelfContained.disablePagerDuty

def deadMansSnitchDisabled : Bool :=
  cr.selfContainedFlag SelfContained.disableDeadmansSnitch

def smtpDisabled : Bool :=
  cr.selfContainedFlag SelfContained.disableSmtp

def blackboxExporterDisabled : Bool :=
  cr.selfContainedFlag SelfContained.disableBlackboxExporter

def selfSignedCerts (cr : Observability) : Bool :=
  cr.selfContainedFlag SelfContained.selfSignedCerts

def selfContainedName (name : SelfContained → String) : Option String :=
  match cr.spec.selfContained with
  | some selfContained =>
    if name selfContained ≠ "" then some (name selfContained) else none
  | none => none

def hasAlertmanagerConfigSecret : Option String :=
  cr.selfContainedName SelfContained.alertManagerConfigSecret

def hasBlackboxBearerTokenSecret : Option String :=
  cr.selfContainedName SelfContained.blackboxBearerTokenSecret

def descopedModeEnabled : Bool :=
  match cr.spec.descopedMode with
  | some descopedMode => descopedMode.enabled.getD false
  | none => false

def getPrometheusOperatorNamespace : String :=
  match cr.spec.descopedMode with
  | some descopedMode =>
    if cr.descopedModeEnabled ∧
        descopedMode.prometheusOperatorNamespace ≠ "" then
      descopedMode.prometheusOperatorNamespace
    else cr.ns
  | none => cr.ns

end Observability

/-! ## The repository index -/

structure DexConfig where
  url : String := ""
  username : String := ""
  password : String := ""
  secret : String := ""
  credentialSecretNamespace : String := ""
  credentialSecretName : String := ""
  deriving DecidableEq, Repr

structure RedhatSsoConfig where
  url : String := ""
  realm : String := ""
  metricsClient : String := ""
  metricsSecret : String := ""
  logsClient : String := ""
  logsSecret : String := ""
  deriving DecidableEq, Repr

namespace RedhatSsoConfig

def hasAuthServer (config : RedhatSsoConfig) : Bool :=
  config.url ≠ "" && config.realm ≠ ""

def hasMetrics (config : RedhatSsoConfig) : Bool :=
  config.hasAuthServer && config.metricsClient ≠ "" && config.metricsSecret ≠ ""

def hasLogs (config : RedhatSsoConfig) : Bool :=
  config.hasAuthServer && config.logsClient ≠ "" && config.logsSecret ≠ ""

end RedhatSsoConfig

structure ObservatoriumIndex where
  id : String
  secretName : String := ""
  gateway : String := ""
  tenant : String := ""
  authType : ObservabilityAuthType := .unknown ""
  dexConfig : Option DexConfig := none
  redhatSsoConfig : Option RedhatSsoConfig := none
  deriving DecidableEq, Repr

def ObservatoriumIndex.isValid (observatorium : ObservatoriumIndex) : Bool :=
  observatorium.gateway ≠ ""

structure GrafanaIndex where
  dashboards : List String := []
  dashboardLabelSelector : Option LabelSelector := none
  grafanaVersion : String := ""
  deriving DecidableEq, Repr

structure RemoteWriteIndex where
  queueConfig : Option Document := none
  remoteTimeout : String := ""
  proxyUrl : String := ""
  writeRelabelConfigs : Document := ""
  deriving DecidableEq, Repr

structure AlertmanagerIndex where
  pagerDutySecretName : String := ""
  pagerDutySecretNamespace : String := ""
  deadmansSnitchSecretName : String := ""
  deadmansSnitchSecretNamespace : String := ""
  smtpSecretName : String := ""
  smtpSecretNamespace : String := ""
  smtpToEmailAddress : List String := []
  smtpFromEmailAddress : String := ""
  overrideAlertmanagerPvcSize : String := ""
  deriving DecidableEq, Repr

structure PrometheusIndex where
  rules : List String := []
  podMonitors : List String := []
  federation : String := ""
  observatorium : String := ""
  remoteWrite : String := ""
  overridePrometheusPvcSize : String := ""
  podMonitorLabelSelector : Option LabelSelector := none
  podMonitorNamespaceSelector : Option LabelSelector := none
  serviceMonitorLabelSelector : Option LabelSelector := none
  serviceMonitorNamespaceSelector : Option LabelSelector := none
  ruleLabelSelector : Option LabelSelector := none
  ruleNamespaceSelector : Option LabelSelector := none
  probeLabelSelector : Option LabelSelector := none
  probeNamespaceSelector : Option LabelSelector := none
  deriving DecidableEq, Repr

structure PromtailIndex where
  enabled : Bool := false
  namespaceLabelSelector : StringMap := []
  observatorium : String := ""
  daemonSetLabelSelector : Option LabelSelector := none
  deriving DecidableEq, Repr

structure RepositoryConfig where
  grafana : Option GrafanaIndex := none
  prometheus : Option PrometheusIndex := none
  alertmanager : Option AlertmanagerIndex := none
  promtail : Option PromtailIndex := none
  observatoria : List ObservatoriumIndex := []
  deriving DecidableEq, Repr

def RepositoryConfig.promtailEnabled (config : RepositoryConfig) : Bool :=
  match config.promtail with
  | some promtail => promtail.enabled
  | none => false

structure SecretSpec where
  data : StringMap := []
  deriving DecidableEq, Repr

structure ConfigSource where
  key : ObjectKey
  secret : Resource SecretSpec
  deriving DecidableEq

structure RepositoryInfo where
  repository : String
  channel : String
  tag : String
  accessToken : String
  source : Option ConfigSource := none
  deriving DecidableEq

structure RepositoryIndex where
  baseUrl : String := ""
  accessToken : String := ""
  tag : String := ""
  source : Option ConfigSource := none
  id : String
  config : Option RepositoryConfig := none
  deriving DecidableEq

def RepositoryIndex.observatoria (index : RepositoryIndex) :
    List ObservatoriumIndex :=
  match index.config with
  | some config => config.observatoria
  | none => []

structure AlertmanagerConfigGlobal where
  resolveTimeout : String := ""
  smtpSmartHost : String := ""
  smtpFrom : String := ""
  smtpAuthUserName : String := ""
  smtpAuthPassword : String := ""
  smtpRequireTls : Bool := false
  deriving DecidableEq, Repr

structure AlertmanagerConfigRoute where
  receiver : String
  repeatInterval : String := ""
  matchLabels : StringMap := []
  deriving DecidableEq, Repr

structure EmailConfig where
  sendResolved : Bool
  toAddress : String
  deriving DecidableEq, Repr

structure AlertmanagerConfigReceiver where
  name : String
  pagerDutyServiceKeys : List String := []
  webhookUrls : List String := []
  emailConfig : List EmailConfig := []
  deriving DecidableEq, Repr

structure AlertmanagerConfigRoot where
  global : AlertmanagerConfigGlobal
  rootReceiver : String
  rootRepeatInterval : String
  routes : List AlertmanagerConfigRoute
  receivers : List AlertmanagerConfigReceiver
  deriving DecidableEq, Repr

end ObservabilityOperator
