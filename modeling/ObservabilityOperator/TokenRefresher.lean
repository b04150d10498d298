import ObservabilityOperator.ClusterObjects

/-!
# Token refreshers

Metrics and logs bound for an Observatorium with `redhat` authentication go
through a token refresher: a Service and a Deployment in the namespace of the
Prometheus operator, and a NetworkPolicy that shields the Deployment.  The
three are written by `reconcileTokenRefresher`; Deployments and policies that
are no longer requested are removed before.
-/

namespace ObservabilityOperator

variable (platform : Platform) (cr : Observability)

def remoteWriteOIDCSecretName : String := "observability-proxy-credentials"

def tokenRefresherImageTag : String := "e96a181"

inductive TokenRefresherType where
  | metrics
  | logs
  deriving DecidableEq, Repr

def TokenRefresherType.text : TokenRefresherType → String
  | .metrics => "metrics"
  | .logs => "logs"

structure TokenRefresherConfigSet where
  observatoriumUrl : String
  authUrl : String
  name : String
  realm : String
  client : String
  tenant : String
  secret : String
  type : TokenRefresherType
  deriving DecidableEq, Repr

def getTokenRefresherName (id : String) (t : TokenRefresherType) : String :=
  "token-refresher-" ++ t.text ++ "-" ++ id

def networkPolicyName (name : String) : String :=
  name ++ "-network-policy"

def getTokenRefresherService (name : String) : ObjectKey :=
  ⟨cr.getPrometheusOperatorNamespace, name⟩

def getTokenRefresherDeployment (name : String) : ObjectKey :=
  ⟨cr.getPrometheusOperatorNamespace, name⟩

def getTokenRefresherNetworkPolicy (name : String) : ObjectKey :=
  ⟨cr.getPrometheusOperatorNamespace, networkPolicyName name⟩

def authenticationProxyLabels : StringMap :=
  [("app.kubernetes.io/component", "authentication-proxy")]

def tokenRefresherLabels (name : String) : StringMap :=
  [("app.kubernetes.io/component", "authentication-proxy"),
    ("app.kubernetes.io/name", name)]

/-- The credentials and the configuration of a refresher for logs or metrics,
if the Observatorium has them. -/
def getTokenRefresherConfigSetFor (t : TokenRefresherType)
    (observatorium : ObservatoriumIndex) :
    Except String (Option TokenRefresherConfigSet) :=
  match observatorium.redhatSsoConfig with
  | none => .ok none
  | some sso =>
    match platform.urlParse sso.url with
    | .error error => .error error
    | .ok authEndpoint =>
      let authUrl := platform.urlString
        { authEndpoint with
          path := GoStrings.pathJoin [authEndpoint.path, "realms", sso.realm] }
      match t with
      | .metrics =>
        if sso.hasMetrics then
          .ok (some
            { observatoriumUrl := observatorium.gateway ++
                "/api/metrics/v1/" ++ observatorium.tenant ++
                "/api/v1/receive"
              authUrl
              name := getTokenRefresherName observatorium.id .metrics
              realm := sso.realm
              client := sso.metricsClient
              tenant := observatorium.tenant
              secret := sso.metricsSecret
              type := .metrics })
        else .ok none
      | .logs =>
        if sso.hasLogs then
          .ok (some
            { observatoriumUrl := observatorium.gateway ++
                "/api/logs/v1/" ++ observatorium.tenant ++
                "/loki/api/v1/push"
              authUrl
              name := getTokenRefresherName observatorium.id .logs
              realm := sso.realm
              client := sso.logsClient
              tenant := observatorium.tenant
              secret := sso.logsSecret
              type := .logs })
        else .ok none

/-! ## Writing the objects of a refresher -/

def tokenRefresherService (config : TokenRefresherConfigSet)
    (service : Resource ServiceSpec) : Resource ServiceSpec :=
  { service with
    spec :=
      { ports := [{ name := "http", port := 80, targetPort := 8080 }]
        selector := tokenRefresherLabels config.name } }

def createServiceFor (config : TokenRefresherConfigSet) : Go Unit := do
  let _ ← upsert Kind.service (getTokenRefresherService cr config.name)
    Kind.service.blank (tokenRefresherService config)

def ingressSelector : TokenRefresherType → StringMap
  | .logs => [("app", "promtail")]
  | .metrics => [("app.kubernetes.io/name", "prometheus")]

def tokenRefresherNetworkPolicy (config : TokenRefresherConfigSet)
    (policy : Resource NetworkPolicySpec) : Resource NetworkPolicySpec :=
  { policy with
    labels := authenticationProxyLabels
    spec :=
      { podSelector := tokenRefresherLabels config.name
        ingress := [[ingressSelector config.type]]
        policyTypes := ["Ingress"] } }

def createNetworkPolicyFor (config : TokenRefresherConfigSet) : Go Unit := do
  let _ ← upsert Kind.networkPolicy
    (getTokenRefresherNetworkPolicy cr config.name)
    Kind.networkPolicy.blank (tokenRefresherNetworkPolicy config)

def tokenRefresherContainer (config : TokenRefresherConfigSet) : Container :=
  { name := config.name
    image := "quay.io/rhoas/mk-token-refresher:" ++ tokenRefresherImageTag
    args :=
      ["--oidc.audience=observatorium-telemeter",
        "--oidc.client-id=" ++ config.client,
        "--oidc.client-secret=" ++ config.secret,
        "--oidc.issuer-url=" ++ config.authUrl,
        "--url=" ++ config.observatoriumUrl]
    ports := [("http", 8080)] }

def tokenRefresherDeployment (config : TokenRefresherConfigSet)
    (deployment : Resource DeploymentSpec) : Resource DeploymentSpec :=
  { deployment with
    labels := tokenRefresherLabels config.name
    spec :=
      { deployment.spec with
        selector := tokenRefresherLabels config.name
        podLabels := tokenRefresherLabels config.name ++
          [("app.kubernetes.io/version", tokenRefresherImageTag)]
        pod :=
          { priorityClassName := observabilityPriorityClassName
            containers := [tokenRefresherContainer config] } } }

def createDeploymentFor (config : TokenRefresherConfigSet) : Go Unit := do
  createNetworkPolicyFor cr config
  let _ ← upsert Kind.deployment (getTokenRefresherDeployment cr config.name)
    Kind.deployment.blank (tokenRefresherDeployment config)

def getOauth2ConfigSecret : Go (Option (Resource SecretSpec)) := do
  match ← Client.get Kind.secret ⟨cr.ns, remoteWriteOIDCSecretName⟩ with
  | .ok secret => return some secret
  | .error .notFound => return none
  | .error error => Client.orFail (.error error)

def reconcileTokenRefresherOf (observatorium : ObservatoriumIndex)
    (logsDisabled : Bool) (t : TokenRefresherType) : Go Unit :=
  if t = .logs ∧ logsDisabled then .done ()
  else do
    match ← Program.ofExcept
        (getTokenRefresherConfigSetFor platform t observatorium) with
    | none => return ()
    | some configSet =>
      createServiceFor cr configSet
      createDeploymentFor cr configSet

def reconcileTokenRefresherFor (observatorium : ObservatoriumIndex)
    (logsDisabled : Bool) : Go Unit :=
  if !observatorium.isValid then
    .fail (.error (.text
      ("incomplete observatorium config, tenant or gateway missing for " ++
        observatorium.id)))
  else do
    match ← getOauth2ConfigSecret cr with
    | some _ => return ()
    | none =>
      Program.forEach [.metrics, .logs]
        (reconcileTokenRefresherOf platform cr observatorium logsDisabled)

def reconcileTokenRefresher (indexes : List RepositoryIndex) : Go Unit :=
  Program.forEach indexes fun index =>
    match index.config with
    | none => .done ()
    | some config =>
      Program.forEach config.observatoria fun observatorium =>
        if observatorium.authType = .redhat then
          reconcileTokenRefresherFor platform cr observatorium
            (!config.promtailEnabled)
        else .done ()

/-! ## Removing what is no longer requested -/

def searchObservatorium (render : String → String) (name : String)
    (promtailEnabled : Bool) (observatorium : ObservatoriumIndex) :
    Option (Except Panic Bool) :=
  if !observatorium.isValid || observatorium.redhatSsoConfig.isNone then
    some (.ok false)
  else
    [TokenRefresherType.metrics, .logs].findSome? fun t =>
      if t = .logs ∧ !promtailEnabled then some (.ok false)
      else
        match getTokenRefresherConfigSetFor platform t observatorium with
        | .error _ => some (.ok false)
        | .ok none => some (.error .nilPointer)
        | .ok (some configSet) =>
          if name = render configSet.name then some (.ok true) else none

def searchIndex (render : String → String) (name : String)
    (index : RepositoryIndex) : Option (Except Panic Bool) :=
  match index.config with
  | none => some (.ok false)
  | some config =>
    config.observatoria.findSome?
      (searchObservatorium platform render name config.promtailEnabled)

def shouldExist (render : String → String)
    (oauth2Secret : Option (Resource SecretSpec))
    (indexes : List RepositoryIndex) (name : String) : Except Panic Bool :=
  if cr.externalSyncDisabled || cr.observatoriumDisabled then .ok false
  else if oauth2Secret.isSome then .ok false
  else (indexes.findSome? (searchIndex platform render name)).getD (.ok false)

def deleteUnlessRequested (kind : Kind) (requested : Except Panic Bool)
    (key : ObjectKey) : Go Unit :=
  match requested with
  | .error panic => .fail (.panic panic)
  | .ok true => .done ()
  | .ok false => do Client.orFail (← Client.delete kind key)

def deleteUnrequested (kind : Kind) (render : String → String)
    (cr : Observability) (indexes : List RepositoryIndex) : Go Unit := do
  let list ← Client.orFail (← Client.list kind
    { ns := some cr.getPrometheusOperatorNamespace
      labels := authenticationProxyLabels })
  let oauth2Secret ← getOauth2ConfigSecret cr
  Program.forEach list fun item =>
    deleteUnlessRequested kind
      (shouldExist platform cr render oauth2Secret indexes item.1.name) item.1

def deleteUnrequestedNetworkPolicies :
    Observability → List RepositoryIndex → Go Unit :=
  deleteUnrequested platform .networkPolicy networkPolicyName

def deleteUnrequestedTokenRefreshers :
    Observability → List RepositoryIndex → Go Unit :=
  deleteUnrequested platform .deployment id

end ObservabilityOperator
