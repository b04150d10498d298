import ObservabilityOperator.ClusterObjects

/-!
# Credentials and tokens of the Observatoria

The entry of an Observatorium in an index may leave its gateway, its tenant and
its credentials to a secret.  `reconcileObservatoria` completes the entries of
one index, one after the other, and keeps a token in a secret for every
Observatorium that does not authenticate through a token refresher.
-/

namespace ObservabilityOperator

variable (platform : Platform) (cr : Observability)

def observatoriumTokenLabels : StringMap :=
  [("managed-by", "observability-operator"),
    ("purpose", "observatorium-token-secret")]

def getObservatoriumTokenSecretName (config : ObservatoriumIndex) : String :=
  "obs-token-" ++ config.id

def getObservatoriumConfig (index : RepositoryIndex) (id : String) :
    Option ObservatoriumIndex :=
  index.observatoria.find? fun observatorium => observatorium.id = id

/-! ## Tokens -/

def unixToInternal : Int := 62135596800

def nanoseconds : Int := 1000000000

/-- A token is renewed an hour before it expires.  An expiry date that is not
positive stands for a token that does not expire. -/
def authTokenExpires (expires : Int) : Go Bool := do
  if expires > 0 then
    let now ← timeNow
    return wrapInt64 (expires + unixToInternal) * nanoseconds <
      now + 3600 * nanoseconds + unixToInternal * nanoseconds
  else return false

def findToken (config : ObservatoriumIndex) : Go (String × Int) := do
  let secretName := getObservatoriumTokenSecretName config
  match ← Client.get Kind.secret ⟨cr.ns, secretName⟩ with
  | .error .notFound => return ("", 0)
  | .error error => Client.orFail (.error error)
  | .ok secret =>
    match secret.spec.data.get? "token" with
    | none => .fail (.error (.text ("no token found in " ++ secretName)))
    | some token =>
      let lifetime ← Program.ofExcept (GoStrings.parseInt64
        ((secret.spec.data.get? "lifetime").getD "0"))
      return (token, lifetime)

def dexTokenForm (config : ObservatoriumIndex) (dexConfig : DexConfig) :
    StringMap :=
  [("grant_type", "password"),
    ("username", dexConfig.username),
    ("password", dexConfig.password),
    ("client_id", config.tenant),
    ("client_secret", dexConfig.secret),
    ("scope", "openid email")]

def dexTokenRequest (config : ObservatoriumIndex) (dexConfig : DexConfig)
    (url : Url) : HttpRequest where
  method := .post
  url := url
  form := dexTokenForm config dexConfig

def fetchDexToken (config : ObservatoriumIndex) (oldToken : String) :
    Go (String × Int) :=
  match config.dexConfig with
  | none => return (oldToken, 0)
  | some dexConfig => do
    let url ← Program.ofExcept
      (platform.urlParse (dexConfig.url ++ "/dex/token"))
    let response ← Program.ofExcept
      (← fetchHttp (dexTokenRequest config dexConfig url))
    if response.statusCode ≠ 200 then
      .fail (.error (.text ("unexpected response from token endpoint: " ++
        toString response.statusCode)))
    else
      let (accessToken, expiresIn) ←
        Program.ofExcept (platform.unmarshalToken response.body)
      let now ← timeNow
      return (accessToken,
        (now + wrapInt64 (nanoseconds * expiresIn)) / nanoseconds)

/-- Fetch a token as the authentication type asks for.  Other types than Dex
have the empty token. -/
def fetchToken (config : ObservatoriumIndex) (oldToken : String) :
    Go (String × Int) :=
  match config.authType with
  | .dex => fetchDexToken platform config oldToken
  | _ => return ("", 0)

def refreshToken (config : ObservatoriumIndex) (oldToken : String) :
    Go (String × Int) :=
  (fetchToken platform config oldToken).wrapping
    ("error fetching token for " ++ config.id)

def tokenSecret (token : String) (lifetime : Int)
    (secret : Resource SecretSpec) : Resource SecretSpec :=
  { secret with
    labels := observatoriumTokenLabels
    spec :=
      { data := (secret.spec.data.set "token" token).set "lifetime"
          (GoStrings.formatInt lifetime) } }

def saveToken (config : ObservatoriumIndex) (token : String) (lifetime : Int) :
    Go Unit :=
  ((upsert Kind.secret ⟨cr.ns, getObservatoriumTokenSecretName config⟩
      Kind.secret.blank (tokenSecret token lifetime)).bind
    fun _ => .done ()).wrapping
      ("error creating token secret for " ++ config.id)

def anyTokenExpires : List (ObjectKey × Resource SecretSpec) → Go Bool
  | [] => return false
  | (key, secret) :: rest =>
    match secret.spec.data.get? "lifetime" with
    | none => return true
    | some lifetime => do
      let expires ← (Program.ofExcept (GoStrings.parseInt64 lifetime) :
        Go Int).wrapping
          ("error parsing token lifetime for secret " ++ key.name)
      if ← authTokenExpires expires then return true
      else anyTokenExpires rest

def tokensExpired : Go Bool := do
  let list ← (Client.orFail (← Client.list Kind.secret
    { ns := some cr.ns, labels := observatoriumTokenLabels }) :
      Go _).wrapping "error checking token secrets for expiration"
  anyTokenExpires list

/-! ## Credentials -/

def dexConfigOfSecret (data : StringMap) : DexConfig where
  url := data.get "dexUrl"
  secret := data.get "dexSecret"
  password := data.get "dexPassword"
  username := data.get "dexUsername"

def redhatSsoConfigOfSecret (data : StringMap) : RedhatSsoConfig where
  url := data.get "redHatSsoAuthServerUrl"
  realm := data.get "redHatSsoRealm"
  metricsSecret := data.get "metricsSecret"
  metricsClient := data.get "metricsClientId"
  logsSecret := data.get "logsSecret"
  logsClient := data.get "logsClientId"

def fillFromSecret (data : StringMap) (observatorium : ObservatoriumIndex) :
    ObservatoriumIndex :=
  { observatorium with
    authType :=
      if observatorium.authType = .unknown "" then
        .ofString (data.get "authType")
      else observatorium.authType
    gateway :=
      if observatorium.gateway = "" then data.get "gateway"
      else observatorium.gateway
    tenant :=
      if observatorium.tenant = "" then data.get "tenant"
      else observatorium.tenant }

def assignFromSecret (cr : Observability) :
    ℕ → ObservatoriumIndex → Go ObservatoriumIndex
  | 0, _ => .fail (.panic .stackOverflow)
  | depth + 1, observatorium => do
    let secret ← Client.orFail
      (← Client.get Kind.secret ⟨cr.ns, observatorium.secretName⟩)
    let data := secret.spec.data
    let filled := fillFromSecret data observatorium
    match filled.authType with
    | .dex =>
      match filled.dexConfig with
      | some _ => assignFromSecret cr depth filled
      | none => return { filled with
          dexConfig := some (dexConfigOfSecret data) }
    | .redhat => return { filled with
        redhatSsoConfig := some (redhatSsoConfigOfSecret data) }
    | .unknown text =>
      .fail (.error (.text ("unknown auth type " ++ text)))

def assignDexCredentials (dexConfig : DexConfig) : Go DexConfig := do
  let ns :=
    if dexConfig.credentialSecretNamespace ≠ "" then
      dexConfig.credentialSecretNamespace
    else cr.ns
  let secret ← Client.orFail
    (← Client.get Kind.secret ⟨ns, dexConfig.credentialSecretName⟩)
  let data := secret.spec.data
  return { dexConfig with
    username := (data.get? "username").getD (data.get "dexUsername")
    password := (data.get? "password").getD (data.get "dexPassword")
    secret := (data.get? "secret").getD (data.get "dexSecret") }

def transformObservatorium (observatorium : ObservatoriumIndex) :
    Go ObservatoriumIndex := do
  let assigned ←
    (if observatorium.secretName ≠ "" then
      assignFromSecret cr platform.stackDepth observatorium
    else .done observatorium : Go ObservatoriumIndex)
  match assigned.authType, assigned.dexConfig with
  | .dex, some dexConfig =>
    if dexConfig.credentialSecretName ≠ "" then
      let completed ← assignDexCredentials cr dexConfig
      return { assigned with dexConfig := some completed }
    else return assigned
  | _, _ => return assigned

def ObservatoriumIndex.sharing
    (original completed : ObservatoriumIndex) : ObservatoriumIndex :=
  { original with
    dexConfig :=
      match original.dexConfig with
      | some _ => completed.dexConfig
      | none => none }

/-- Fetch and store a new token.  What fails is logged and left. -/
def renewToken (observatorium : ObservatoriumIndex) (oldToken : String) :
    Go Unit := do
  match ← (refreshToken platform observatorium oldToken).attempt with
  | .error _ => return ()
  | .ok renewed =>
    let _ ← (saveToken cr observatorium renewed.1 renewed.2).attempt

/-- Renew the token of an entry if it is missing or about to expire.  Only
the search for the old token can fail. -/
def reconcileToken (observatorium : ObservatoriumIndex) : Go Unit :=
  if observatorium.authType = .redhat then .done ()
  else do
    let found ← (findToken cr observatorium).wrapping
      ("error checking existing observatorium token for " ++ observatorium.id)
    let expired ← (if found.1 = "" then .done true
      else authTokenExpires found.2 : Go Bool)
    if expired then renewToken platform cr observatorium found.1
    else return ()

structure ObservatoriaOutcome where
  result : Except (GoError ApiError) (List ObservatoriumIndex)
  left : List ObservatoriumIndex

def reconcileEntries (platform : Platform) (cr : Observability) :
    List ObservatoriumIndex → Go ObservatoriaOutcome
  | [] => return ⟨.ok [], []⟩
  | observatorium :: rest => do
    match ← (transformObservatorium platform cr observatorium).attempt with
    | .error error => return ⟨.error error, observatorium :: rest⟩
    | .ok completed =>
      let left := observatorium.sharing completed
      match ← (reconcileToken platform cr completed).attempt with
      | .error error => return ⟨.error error, left :: rest⟩
      | .ok () =>
        let others ← reconcileEntries platform cr rest
        return ⟨others.result.map fun copies => completed :: copies,
          left :: others.left⟩

/-- Complete the entries of an index.  The index is returned as it is left,
together with the error if there is one. -/
def reconcileObservatoria (index : RepositoryIndex) :
    Go (RepositoryIndex × Except (GoError ApiError) Unit) :=
  match index.config with
  | none => return (index, .ok ())
  | some config =>
    if config.observatoria = [] ∨ cr.observatoriumDisabled then
      return (index, .ok ())
    else do
      let outcome ← reconcileEntries platform cr config.observatoria
      match outcome.result with
      | .ok copies =>
        return ({ index with
          config := some { config with observatoria := copies } }, .ok ())
      | .error error =>
        return ({ index with
          config := some { config with observatoria := outcome.left } },
          .error error)

end ObservabilityOperator
