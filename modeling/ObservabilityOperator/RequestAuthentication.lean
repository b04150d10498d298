import ObservabilityOperator.ResourceFetching

/-!
# Requests with an access token

The three functions that fetch files of a repository decide on their own
whether to send the access token.  The index goes by the host of its address
and sends even an empty token, a resource goes by the whole text of the address
and by the token, and a dashboard by the token alone.
-/

namespace ObservabilityOperator

open Program

/-! ## One request, sent with the token or without -/

def withRef (platform : Platform) (target : Url) : Option String → Url
  | none => target
  | some tag => platform.urlAddQuery target "ref" tag

/-- The request has this authorization and this ref. -/
structure Carries (platform : Platform) (target : Url)
    (authorization ref : Option String) (request : HttpRequest) : Prop where
  authorization : request.authorization = authorization
  ref : request.url = withRef platform target ref

def decidedRequest (platform : Platform) (authenticates : Bool)
    (target : Url) (token tag : String) : HttpRequest :=
  if authenticates then authenticatedRequest platform target token tag
  else plainRequest target

/-- The program sends the HTTP request. -/
def Surroundings.Sends {α : Type} (env : Surroundings)
    (program : Go α) (cluster : Cluster) (request : HttpRequest) : Prop :=
  program.Issues (serve env.environment) cluster (.perform (.http request))

/-- A file of a repository, with its address in all its forms.  A file under
the base has the host of the base, and the text of its address shows whether
the host has the name of GitHub in it. -/
structure Addressed (platform : Platform) (cr : Observability)
    (repo : RepositoryInfo) (resource : String)
    (base indexTarget resourceUrl target : Url) : Prop where
  based : getResourcesUrl platform repo cr = .ok base
  indexed : platform.urlParse (platform.urlString (indexUrl base)) =
    .ok indexTarget
  located : platform.urlParseRequestURI
    (platform.urlString base ++ "/" ++ resource) = .ok resourceUrl
  targeted : platform.urlParse (platform.urlString resourceUrl) = .ok target
  indexHost : indexTarget.host = base.host
  targetHost : target.host = base.host
  shown : GoStrings.contains base.host "github.com" →
    GoStrings.contains (platform.urlString base ++ "/" ++ resource) "github.com"

section Requests

variable {platform : Platform} {env : Surroundings}
  {cr : Observability} {cluster : Cluster} {repo : RepositoryInfo}
  {resource : String} {base indexTarget resourceUrl target : Url}
  {request : HttpRequest}

theorem sends_fetchHttp_bind {α : Type} {sent : HttpRequest}
    {next : Except String HttpResponse → Go α}
    (hnext : ∀ reply, (next reply).Uses fun _ => False) :
    env.Sends ((fetchHttp sent).bind next) cluster request ↔
      request = sent := by
  refine (issues_request _ _ _ _ _).trans ⟨?_, ?_⟩
  · rintro (hsent | ⟨event, hevent, -⟩)
    · cases hsent
      rfl
    · exact ((hnext _).of_mem_events hevent).elim
  · rintro rfl
    exact .inl rfl

theorem uses_ofExcept_false {α : Type} (result : Except String α) :
    (Program.ofExcept result : Go α).Uses fun _ => False := by
  cases result <;> trivial

variable (haddressed : Addressed platform cr repo resource base indexTarget
  resourceUrl target)
include haddressed

theorem sends_readIndexFile_iff :
    env.Sends (readIndexFile platform repo cr) cluster request ↔
      request = decidedRequest platform
        (GoStrings.contains base.host "github.com") indexTarget
          repo.accessToken repo.tag := by
  unfold readIndexFile newRequest
  rw [haddressed.based, bind_eq_bind]
  simp only [Program.ofExcept, done_bind, bind_eq_bind, haddressed.indexed]
  refine sends_fetchHttp_bind fun reply =>
    .bind (uses_ofExcept_false reply) fun response => ?_
  split <;> trivial

theorem sends_fetchResource_iff (tag token : String) :
    env.Sends (fetchResource platform
        (platform.urlString base ++ "/" ++ resource) tag token) cluster
          request ↔
      request = decidedRequest platform
        (token ≠ "" && GoStrings.contains
          (platform.urlString base ++ "/" ++ resource) "github.com") target
            token tag := by
  unfold fetchResource newRequest
  rw [haddressed.located, bind_eq_bind]
  have hdone (message : String) (url : Url) :
      (Program.done url : Go Url).wrapping message = .done url := rfl
  simp only [Program.ofExcept, hdone, done_bind, bind_eq_bind,
    haddressed.targeted]
  refine sends_fetchHttp_bind fun reply =>
    .bind (.wrapping (uses_ofExcept_false reply)) fun response => ?_
  split <;> trivial

theorem sends_fetchDashboard_iff (tag token : String) :
    env.Sends (fetchDashboard platform
        (platform.urlString base ++ "/" ++ resource) tag token) cluster
          request ↔
      request = decidedRequest platform (token ≠ "") target token tag := by
  unfold fetchDashboard newRequest
  rw [haddressed.located, bind_eq_bind]
  simp only [Program.ofExcept, done_bind, bind_eq_bind, haddressed.targeted]
  have hrequest : dashboardRequest platform tag token target =
      decidedRequest platform (token ≠ "") target token tag := by
    unfold dashboardRequest decidedRequest
    by_cases hempty : token = "" <;> simp [hempty]
  rw [← hrequest]
  refine sends_fetchHttp_bind fun reply =>
    .bind (uses_ofExcept_false reply) fun response => ?_
  split <;> trivial

end Requests

/-! ## When the three agree -/

/-- The three requests for files under one base carry the same header and the
same `ref` parameter. -/
def AuthenticateAlike (platform : Platform) (env : Surroundings)
    (cr : Observability) (cluster : Cluster) (repo : RepositoryInfo)
    (path : String) (indexTarget target : Url) : Prop :=
  ∃ authorization ref,
    (∀ request, env.Sends (readIndexFile platform repo cr) cluster
        request →
      Carries platform indexTarget authorization ref request) ∧
    (∀ request, env.Sends (fetchResource platform path repo.tag
        repo.accessToken) cluster request →
      Carries platform target authorization ref request) ∧
    ∀ request, env.Sends (fetchDashboard platform path repo.tag
        repo.accessToken) cluster request →
      Carries platform target authorization ref request

/-- A header is sent to the host of GitHub's API only. -/
def AuthenticatesGitHub (platform : Platform) (env : Surroundings)
    (cr : Observability) (cluster : Cluster) (repo : RepositoryInfo)
    (path : String) : Prop :=
  ∀ request, (env.Sends (readIndexFile platform repo cr) cluster
      request ∨
    env.Sends (fetchResource platform path repo.tag
      repo.accessToken) cluster request ∨
    env.Sends (fetchDashboard platform path repo.tag
      repo.accessToken) cluster request) →
    request.authorization ≠ none → request.url.host = "api.github.com"

section Agreement

variable {platform : Platform} {authenticates other : Bool}
  {target otherTarget : Url} {token tag : String}

theorem carries_decidedRequest :
    Carries platform target
      (if authenticates then some ("token " ++ token) else none)
      (if authenticates = true ∧ tag ≠ "" then some tag else none)
      (decidedRequest platform authenticates target token tag) := by
  cases authenticates
  · exact ⟨rfl, rfl⟩
  · refine ⟨rfl, ?_⟩
    by_cases htag : tag = "" <;>
      simp [decidedRequest, authenticatedRequest, htag, withRef]

theorem authorization_decidedRequest :
    (decidedRequest platform authenticates target token tag).authorization =
      if authenticates then some ("token " ++ token) else none :=
  carries_decidedRequest.authorization

theorem eq_of_authorization_eq
    (hsame : (decidedRequest platform authenticates target token
      tag).authorization =
        (decidedRequest platform other otherTarget token tag).authorization) :
    authenticates = other := by
  rw [authorization_decidedRequest, authorization_decidedRequest] at hsame
  cases authenticates <;> cases other <;> simp at hsame ⊢

theorem host_decidedRequest
    (hquery : ∀ url key value,
      (platform.urlAddQuery url key value).host = url.host) :
    (decidedRequest platform authenticates target token tag).url.host =
      target.host := by
  cases authenticates
  · rfl
  · by_cases htag : tag = "" <;>
      simp [decidedRequest, authenticatedRequest, htag, hquery]

end Agreement

/-- The three functions authenticate alike, and GitHub's API only, exactly if
there is a token and the repository is on that host, or there is none and the
name of GitHub is not in the host. -/
theorem requests_authenticated_alike_iff {platform : Platform}
    {cr : Observability} {repo : RepositoryInfo} {resource : String}
    {base indexTarget resourceUrl target : Url}
    (hquery : ∀ url key value,
      (platform.urlAddQuery url key value).host = url.host)
    (haddressed : Addressed platform cr repo resource base indexTarget
      resourceUrl target) (env : Surroundings) (cluster : Cluster) :
    (AuthenticateAlike platform env cr cluster repo
        (platform.urlString base ++ "/" ++ resource) indexTarget target ∧
      AuthenticatesGitHub platform env cr cluster repo
        (platform.urlString base ++ "/" ++ resource)) ↔
      (repo.accessToken ≠ "" ∧ base.host = "api.github.com") ∨
        (repo.accessToken = "" ∧
          GoStrings.contains base.host "github.com" = false) := by
  unfold AuthenticateAlike AuthenticatesGitHub
  simp only [sends_readIndexFile_iff haddressed,
    sends_fetchResource_iff haddressed, sends_fetchDashboard_iff haddressed,
    forall_eq]
  constructor
  · rintro ⟨⟨authorization, ref, hindex, hresource, hdashboard⟩, hgithub⟩
    have hsame := eq_of_authorization_eq (hindex.authorization.trans
      hdashboard.authorization.symm)
    by_cases htoken : repo.accessToken = ""
    · refine .inr ⟨htoken, ?_⟩
      simpa [htoken] using hsame
    · refine .inl ⟨htoken, ?_⟩
      rw [← haddressed.targetHost]
      refine (host_decidedRequest hquery).symm.trans
        (hgithub _ (.inr (.inr rfl)) ?_)
      simp [authorization_decidedRequest, htoken]
  · rintro (⟨htoken, hhost⟩ | ⟨htoken, hhost⟩)
    · have hcontains : GoStrings.contains base.host "github.com" = true := by
        rw [hhost]
        decide
      have hshown := haddressed.shown hcontains
      have hdecided : decide (repo.accessToken ≠ "") = true := by
        simpa using htoken
      simp only [hcontains, hshown, hdecided, Bool.and_self]
      refine ⟨⟨_, _, carries_decidedRequest, carries_decidedRequest,
        carries_decidedRequest⟩, ?_⟩
      rintro request (rfl | rfl | rfl) -
      · rw [host_decidedRequest hquery, haddressed.indexHost, hhost]
      · rw [host_decidedRequest hquery, haddressed.targetHost, hhost]
      · rw [host_decidedRequest hquery, haddressed.targetHost, hhost]
    · have hdecided : decide (repo.accessToken ≠ "") = false := by
        simpa using htoken
      simp only [hhost, hdecided, Bool.false_and]
      refine ⟨⟨_, _, carries_decidedRequest, carries_decidedRequest,
        carries_decidedRequest⟩, ?_⟩
      rintro request (rfl | rfl | rfl) hsent <;> exact absurd rfl hsent

/-! ## Repositories of either kind -/

def splitUrl (text : String) : Url :=
  let address := (text.toList.dropWhile (· ≠ '/')).drop 2
  { scheme := String.ofList (text.toList.takeWhile (· ≠ '/'))
    host := String.ofList (address.takeWhile (· ≠ '/'))
    path := String.ofList (address.dropWhile (· ≠ '/')) }

def splittingPlatform : Platform :=
  { Platform.plain with
    urlParse := fun text => .ok (splitUrl text)
    urlParseRequestURI := fun text => .ok (splitUrl text)
    urlString := fun url => url.scheme ++ "//" ++ url.host ++ url.path }

def repositoryAt (repository accessToken : String) : RepositoryInfo where
  repository := repository
  channel := "resources"
  tag := "main"
  accessToken := accessToken

def gitHubBase : Url where
  scheme := "https:"
  host := "api.github.com"
  path := "/resources"

def containerBase : Url where
  scheme := "http:"
  host := "obs-resources.managed:8080"
  path := "/resources"

def ruleUrl (base : Url) : Url :=
  { base with path := "/resources/rule.yaml" }

theorem addressed_gitHub (accessToken : String) :
    Addressed splittingPlatform plainCr
      (repositoryAt "https://api.github.com" accessToken) "rule.yaml"
      gitHubBase (indexUrl gitHubBase) (ruleUrl gitHubBase) (ruleUrl gitHubBase)
      where
  based := by
    have hbase : getResourcesUrl splittingPlatform (repositoryAt
        "https://api.github.com" "") plainCr = .ok gitHubBase := by decide
    exact hbase
  indexed := by decide
  located := by decide
  targeted := by decide
  indexHost := rfl
  targetHost := rfl
  shown _ := by decide

theorem addressed_container (accessToken : String) :
    Addressed splittingPlatform plainCr
      (repositoryAt "https://example.com" accessToken) "rule.yaml"
      containerBase (indexUrl containerBase) (ruleUrl containerBase)
      (ruleUrl containerBase) where
  based := by
    have hbase : getResourcesUrl splittingPlatform (repositoryAt
        "https://example.com" "") plainCr = .ok containerBase := by decide
    exact hbase
  indexed := by decide
  located := by decide
  targeted := by decide
  indexHost := rfl
  targetHost := rfl
  shown hname := by
    revert hname
    decide

/-- The token goes to GitHub's API with all three requests, and without a
token the container is asked without a header. -/
theorem requests_authenticated_alike_plain :
    (AuthenticateAlike splittingPlatform .quiet plainCr Cluster.empty
        (repositoryAt "https://api.github.com" "secret")
        "https://api.github.com/resources/rule.yaml"
        (indexUrl gitHubBase) (ruleUrl gitHubBase) ∧
      AuthenticatesGitHub splittingPlatform .quiet plainCr Cluster.empty
        (repositoryAt "https://api.github.com" "secret")
        "https://api.github.com/resources/rule.yaml") ∧
    AuthenticateAlike splittingPlatform .quiet plainCr Cluster.empty
        (repositoryAt "https://example.com" "")
        "http://obs-resources.managed:8080/resources/rule.yaml"
        (indexUrl containerBase) (ruleUrl containerBase) ∧
      AuthenticatesGitHub splittingPlatform .quiet plainCr Cluster.empty
        (repositoryAt "https://example.com" "")
        "http://obs-resources.managed:8080/resources/rule.yaml" :=
  ⟨(requests_authenticated_alike_iff (fun _ _ _ => rfl)
      (addressed_gitHub "secret") .quiet Cluster.empty).mpr
        (.inl ⟨by decide, rfl⟩),
    (requests_authenticated_alike_iff (fun _ _ _ => rfl)
      (addressed_container "") .quiet Cluster.empty).mpr
        (.inr ⟨rfl, by decide⟩)⟩

/-- A dashboard from the container is asked for with the token, which the
index is not.  Without a token the index on GitHub is asked for with a header
and a tag, and the resources are not. -/
theorem containerDashboard_authenticated :
    (¬ AuthenticateAlike splittingPlatform .quiet plainCr Cluster.empty
        (repositoryAt "https://example.com" "secret")
        "http://obs-resources.managed:8080/resources/rule.yaml"
        (indexUrl containerBase) (ruleUrl containerBase) ∧
      ¬ AuthenticatesGitHub splittingPlatform .quiet plainCr Cluster.empty
        (repositoryAt "https://example.com" "secret")
        "http://obs-resources.managed:8080/resources/rule.yaml") ∧
    ¬ AuthenticateAlike splittingPlatform .quiet plainCr Cluster.empty
        (repositoryAt "https://api.github.com" "")
        "https://api.github.com/resources/rule.yaml"
        (indexUrl gitHubBase) (ruleUrl gitHubBase) := by
  have hcontainer : Surroundings.quiet.Sends (fetchDashboard splittingPlatform
      "http://obs-resources.managed:8080/resources/rule.yaml" "main" "secret")
        Cluster.empty (decidedRequest splittingPlatform true
          (ruleUrl containerBase) "secret" "main") :=
    (sends_fetchDashboard_iff (addressed_container "secret") _ _).mpr rfl
  refine ⟨⟨?_, ?_⟩, ?_⟩
  · rintro ⟨authorization, ref, hindex, -, hdashboard⟩
    have hsent := hindex _
      ((sends_readIndexFile_iff (addressed_container "secret")).mpr rfl)
    have htoken := hdashboard _ hcontainer
    have hsame := hsent.authorization.trans htoken.authorization.symm
    revert hsame
    decide
  · intro hgithub
    have hhost := hgithub _ (.inr (.inr hcontainer)) (by decide)
    revert hhost
    decide
  · rintro ⟨authorization, ref, hindex, hresource, -⟩
    have hheader := hindex _
      ((sends_readIndexFile_iff (addressed_gitHub "")).mpr rfl)
    have hplain := hresource _
      ((sends_fetchResource_iff (addressed_gitHub "") "main" "").mpr rfl)
    have hsame := hheader.authorization.trans hplain.authorization.symm
    revert hsame
    decide

end ObservabilityOperator
