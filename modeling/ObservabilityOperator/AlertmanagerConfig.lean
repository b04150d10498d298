import ObservabilityOperator.MonitoringResources

/-!
# The Alertmanager and its configuration

The configuration is generated from all indexes and stored as a secret: every
index may add a receiver for PagerDuty, one for Dead Man's Snitch and one for
mail, each with a route for the alerts that carry the id of the index.  An
index whose PagerDuty or Dead Man's Snitch secret cannot be read is left at
that point, with what it has added so far.
-/

namespace ObservabilityOperator

variable (cr : Observability) (indexes : List RepositoryIndex)

def getDefaultNameAlertmanager : String :=
  if cr.spec.selfContained.isSome ∧ cr.spec.alertManagerDefaultName ≠ "" then
    cr.spec.alertManagerDefaultName
  else "obs-alertmanager"

def getAlertmanagerCr : ObjectKey :=
  ⟨cr.getPrometheusOperatorNamespace, getDefaultNameAlertmanager cr⟩

def getAlertmanagerRoute : ObjectKey :=
  ⟨cr.getPrometheusOperatorNamespace, getDefaultNameAlertmanager cr⟩

def getAlertmanagerServiceAccount : ObjectKey :=
  ⟨cr.getPrometheusOperatorNamespace, getDefaultNameAlertmanager cr⟩

def getAlertmanagerService : ObjectKey :=
  ⟨cr.getPrometheusOperatorNamespace, getDefaultNameAlertmanager cr⟩

def getAlertmanagerProxySecret : ObjectKey :=
  ⟨cr.getPrometheusOperatorNamespace, "alertmanager-proxy"⟩

def getAlertmanagerSecret : ObjectKey :=
  ⟨cr.getPrometheusOperatorNamespace,
    "alertmanager-" ++ (getAlertmanagerCr cr).name⟩

def getAlertmanagerSecretName : String :=
  match cr.hasAlertmanagerConfigSecret with
  | some name => name
  | none => (getAlertmanagerSecret cr).name

def getAlertmanagerVersion : String :=
  (cr.selfContainedName SelfContained.alertManagerVersion).getD ""

def getAlertmanagerResourceRequirement : Document :=
  ((cr.spec.selfContained.bind
    SelfContained.alertManagerResourceRequirement).getD "")

/-- The size a claim template asks for: nothing without requests, and zero
where the requests do not name the storage. -/
def StorageSpec.requestedSize (storage : StorageSpec) : String :=
  match storage.requests with
  | some requests => (requests.get? "storage").getD "0"
  | none => ""

def getAlertmanagerRepositoryIndexConfig : Option AlertmanagerIndex :=
  match indexes with
  | [] => some {}
  | index :: _ =>
    match index.config with
    | some config => config.alertmanager
    | none => some {}

def getAlertmanagerStorageSize : String :=
  let requested :=
    match cr.spec.storage.bind Storage.alertManagerStorageSpec with
    | some storage => storage.requestedSize
    | none => ""
  match getAlertmanagerRepositoryIndexConfig indexes with
  | some config =>
    if config.overrideAlertmanagerPvcSize ≠ "" then
      config.overrideAlertmanagerPvcSize
    else requested
  | none => requested

/-- The storage of the custom resource.  The size is only checked, never
written into it. -/
def getAlertManagerStorageSpecHelper (platform : Platform)
    (cr : Observability) (storage : StorageSpec)
    (indexes : List RepositoryIndex) : Except String StorageSpec :=
  let customStorageSize := getAlertmanagerStorageSize cr indexes
  if customStorageSize = "" then .ok storage
  else (platform.parseQuantity customStorageSize).map fun _ => storage

def getOriginOauthProxyImage : String :=
  (cr.selfContainedName SelfContained.originOauthProxyImage).getD
    "registry.redhat.io/openshift4/ose-oauth-proxy:v4.12"

def isRouteReady (route : RouteSpec) : Bool :=
  route.ingress.all fun conditions =>
    conditions.all fun condition =>
      !(condition.type = "Admitted" && condition.status ≠ "True")

def getRouteHost (key : ObjectKey) : Go String := do
  match ← Client.get Kind.route key with
  | .error .notFound => return ""
  | .error error => Client.orFail (.error error)
  | .ok route =>
    return if isRouteReady route.spec then route.spec.host else ""

/-! ## The Alertmanager -/

def alertmanagerProxyContainer : Container where
  name := "oauth-proxy"
  image := getOriginOauthProxyImage cr
  args :=
    ["-provider=openshift",
      "-https-address=:9091",
      "-http-address=",
      "-email-domain=*",
      "-upstream=http://localhost:9093",
      "-openshift-sar=\x7b\"resource\": \"namespaces\", \"verb\": \"get\"\x7d",
      "-openshift-delegate-urls=\x7b\"/\": \x7b\"resource\": " ++
        "\"namespaces\", \"verb\": \"get\"\x7d\x7d",
      "-tls-cert=/etc/tls/private/tls.crt",
      "-tls-key=/etc/tls/private/tls.key",
      "-client-secret-file=" ++
        "/var/run/secrets/kubernetes.io/serviceaccount/token",
      "-cookie-secret-file=/etc/proxy/secrets/session_secret",
      "-openshift-service-account=" ++ (getAlertmanagerServiceAccount cr).name,
      "-openshift-ca=/etc/pki/tls/cert.pem",
      "-openshift-ca=/var/run/secrets/kubernetes.io/serviceaccount/ca.crt",
      "-skip-auth-regex=^/metrics"]
  env := [("HTTP_PROXY", ""), ("HTTPS_PROXY", ""), ("NO_PROXY", "")]
  ports := [("proxy", 9091)]
  volumeMounts :=
    [("secret-alertmanager-k8s-tls", "/etc/tls/private"),
      ("secret-" ++ (getAlertmanagerProxySecret cr).name,
        "/etc/proxy/secrets")]

def alertmanagerSpec (host : String) :
    AlertmanagerSpec where
  podAnnotations := [("cluster-autoscaler.kubernetes.io/safe-to-evict", "true")]
  configSecret := getAlertmanagerSecretName cr
  listenLocal := true
  externalUrl := "https://" ++ host
  serviceAccountName := (getAlertmanagerServiceAccount cr).name
  secrets := [(getAlertmanagerProxySecret cr).name, "alertmanager-k8s-tls"]
  priorityClassName := observabilityPriorityClassName
  containers := [alertmanagerProxyContainer cr]
  version := getAlertmanagerVersion cr
  resources := getAlertmanagerResourceRequirement cr

def reconcileAlertmanager (platform : Platform) (cr : Observability)
    (indexes : List RepositoryIndex) : Go Unit := do
  let host ← getRouteHost (getAlertmanagerRoute cr)
  let _ ← createOrUpdate Kind.alertmanager (getAlertmanagerCr cr)
    Kind.alertmanager.blank fun alertmanager =>
      match cr.spec.storage.bind Storage.alertManagerStorageSpec with
      | none => return { alertmanager with spec := alertmanagerSpec cr host }
      | some storage => do
        let helper ← Program.ofExcept
          (getAlertManagerStorageSpecHelper platform cr storage indexes)
        return { alertmanager with
          spec := { alertmanagerSpec cr host with storage := some helper } }

/-! ## Secrets of the integrations -/

def firstNonempty (data : StringMap) (first second : String) : String :=
  if data.get first ≠ "" then data.get first else data.get second

def getIntegrationSecret (name ns : String) : Go StringMap := do
  let secret ← Client.orFail
    (← Client.get Kind.secret ⟨if ns ≠ "" then ns else cr.ns, name⟩)
  return secret.spec.data

def getPagerDutySecret (config : AlertmanagerIndex) : Go String := do
  if config.pagerDutySecretName = "" then return "dummy"
  else
    let data ← getIntegrationSecret cr config.pagerDutySecretName
      config.pagerDutySecretNamespace
    return firstNonempty data "PAGERDUTY_KEY" "serviceKey"

def getDeadMansSnitchUrl (config : AlertmanagerIndex) : Go String := do
  if config.deadmansSnitchSecretName = "" then return "http://dummy"
  else
    let data ← getIntegrationSecret cr config.deadmansSnitchSecretName
      config.deadmansSnitchSecretNamespace
    return firstNonempty data "SNITCH_URL" "url"

def getSmtpSecret (config : AlertmanagerIndex) : Go StringMap := do
  if config.smtpSecretName = "" then return []
  else
    let data ← getIntegrationSecret cr config.smtpSecretName
      config.smtpSecretNamespace
    return (["password", "username", "host", "port"].map fun field =>
      (field, data.get field)).filter fun entry => entry.2 ≠ ""

def dummySmtpSecret : StringMap :=
  [("password", "dummy"), ("username", "dummy"), ("host", "dummy"),
    ("port", "dummy")]

/-- The Alertmanager section of the first index, which is read without a
check. -/
def firstAlertmanagerIndex : Go AlertmanagerIndex :=
  match indexes with
  | [] => .fail (.panic .indexOutOfRange)
  | index :: _ => do
    let config ← Program.deref index.config
    Program.deref config.alertmanager

def smtpGlobalConfig (config : AlertmanagerIndex) (smtpSecret : StringMap) :
    AlertmanagerConfigGlobal where
  resolveTimeout := "5m"
  smtpAuthUserName := smtpSecret.get "username"
  smtpAuthPassword := smtpSecret.get "password"
  smtpSmartHost := smtpSecret.get "host" ++ ":" ++ smtpSecret.get "port"
  smtpFrom := config.smtpFromEmailAddress

def createGlobalConfig : Go AlertmanagerConfigGlobal := do
  if cr.smtpDisabled then return { resolveTimeout := "5m" }
  else
    let config ← firstAlertmanagerIndex indexes
    if config.smtpToEmailAddress = [] ∨ config.smtpFromEmailAddress = "" then
      return { resolveTimeout := "5m" }
    else
      let smtpSecret ← getSmtpSecret cr config
      return smtpGlobalConfig config
        (if smtpSecret = [] then dummySmtpSecret else smtpSecret)

/-! ## Receivers and routes -/

structure Integration where
  receiver : AlertmanagerConfigReceiver
  route : AlertmanagerConfigRoute
  deriving DecidableEq, Repr

def pagerDutyIntegration (id serviceKey : String) : Integration where
  receiver :=
    { name := id ++ "-pagerduty", pagerDutyServiceKeys := [serviceKey] }
  route :=
    { receiver := id ++ "-pagerduty"
      matchLabels :=
        [("severity", "critical"), (prometheusRuleIdentifierKey, id)] }

def deadMansSnitchIntegration (id url : String) : Integration where
  receiver := { name := id ++ "-deadmanssnitch", webhookUrls := [url] }
  route :=
    { receiver := id ++ "-deadmanssnitch"
      repeatInterval := "5m"
      matchLabels :=
        [("alertname", "DeadMansSwitch"), (prometheusRuleIdentifierKey, id)] }

def smtpIntegration (id toEmailAddress : String) : Integration where
  receiver :=
    { name := id ++ "-smtp"
      emailConfig := [{ sendResolved := true, toAddress := toEmailAddress }] }
  route :=
    { receiver := id ++ "-smtp"
      matchLabels :=
        [("severity", "warning"), (prometheusRuleIdentifierKey, id)] }

/-- The integration of a secret, or nothing if it is disabled.  The index is
left where the secret cannot be read. -/
def addSecretIntegration (disabled : Bool) (secret : Go String)
    (integration : String → Integration) : Go (Option (List Integration)) := do
  if disabled then return some []
  else
    match ← secret.attempt with
    | .error _ => return none
    | .ok value => return some [integration value]

def addSmtp (id : String) (config : AlertmanagerIndex) : List Integration :=
  if cr.smtpDisabled ∨ config.smtpToEmailAddress = [] ∨
      config.smtpFromEmailAddress = "" then []
  else [smtpIntegration id (GoStrings.join config.smtpToEmailAddress ",")]

def addIntegrations (index : RepositoryIndex) : Go (List Integration) :=
  match index.config.bind RepositoryConfig.alertmanager with
  | none => return []
  | some config => do
    match ← addSecretIntegration cr.pagerDutyDisabled
        (getPagerDutySecret cr config) (pagerDutyIntegration index.id) with
    | none => return []
    | some pagerDuty =>
      match ← addSecretIntegration cr.deadMansSnitchDisabled
          (getDeadMansSnitchUrl cr config)
          (deadMansSnitchIntegration index.id) with
      | none => return pagerDuty
      | some snitch =>
        return pagerDuty ++ snitch ++ addSmtp cr index.id config

def alertmanagerConfigRoot (global : AlertmanagerConfigGlobal)
    (integrations : List Integration) : AlertmanagerConfigRoot where
  global := global
  rootReceiver := "default-receiver"
  rootRepeatInterval := "12h"
  routes := integrations.map Integration.route
  receivers :=
    { name := "default-receiver" } :: integrations.map Integration.receiver

def createAlertmanagerConfig : Go AlertmanagerConfigRoot := do
  let global ← createGlobalConfig cr indexes
  let integrations ← Program.collect indexes (addIntegrations cr)
  return alertmanagerConfigRoot global integrations.flatten

def reconcileAlertmanagerSecret (platform : Platform) (cr : Observability)
    (indexes : List RepositoryIndex) : Go Unit := do
  let config ← createAlertmanagerConfig cr indexes
  let configBytes ← Program.ofExcept (platform.marshalAlertmanager config)
  let _ ← upsert Kind.secret (getAlertmanagerSecret cr) Kind.secret.blank
    fun secret =>
      { secret with
        spec :=
          { data := secret.spec.data.set "alertmanager.yaml" configBytes } }

end ObservabilityOperator
