import ObservabilityOperator.ClusterObjects

/-!
# Fetching files from a configuration repository

A repository is GitHub's API or, for any other address, a container of the
operator that serves the files inside the cluster.  The index of a repository,
the files an index lists and the dashboards are each fetched by a function of
their own, and the three differ in when they authenticate and in how they
report a failure.
-/

namespace ObservabilityOperator

variable (platform : Platform)

def getResourcesDefaultName (_cr : Observability) : String := "obs-resources"

def isGitHub (repository : String) : Bool :=
  GoStrings.hasPrefix repository "https://api.github.com"

/-- The base address of the files of a repository.  `resourcesRoute` is the
route of the previous status. -/
def getResourcesUrl (repo : RepositoryInfo) (cr : Observability) :
    Except String Url :=
  if !isGitHub repo.repository then
    if platform.runningLocally then
      if cr.status.resourcesRoute = "" then
        .error "resources route not ready yet"
      else
        platform.urlParseRequestURI
          ("http://" ++ cr.status.resourcesRoute ++ "/" ++ repo.channel)
    else
      platform.urlParseRequestURI
        ("http://" ++ getResourcesDefaultName cr ++ "." ++
          cr.getPrometheusOperatorNamespace ++ ":8080" ++ "/" ++ repo.channel)
  else
    platform.urlParseRequestURI (repo.repository ++ "/" ++ repo.channel)

def authenticatedRequest (url : Url) (token tag : String) : HttpRequest where
  method := .get
  url := if tag ≠ "" then platform.urlAddQuery url "ref" tag else url
  authorization := some ("token " ++ token)
  accept := some "application/vnd.github.v3.raw"

def plainRequest (url : Url) : HttpRequest where
  method := .get
  url := url

def newRequest (url : Url) : Go Url :=
  Program.ofExcept (platform.urlParse (platform.urlString url))

def indexUrl (base : Url) : Url :=
  { base with path := base.path ++ "/" ++ "index.json" }

def indexRequest (repo : RepositoryInfo) (repoUrl requestUrl : Url) :
    HttpRequest :=
  if GoStrings.contains repoUrl.host "github.com" then
    authenticatedRequest platform requestUrl repo.accessToken repo.tag
  else plainRequest requestUrl

def readIndexFile (repo : RepositoryInfo) (cr : Observability) : Go String := do
  let base ← Program.ofExcept (getResourcesUrl platform repo cr)
  let requestUrl ← newRequest platform (indexUrl base)
  let request := indexRequest platform repo (indexUrl base) requestUrl
  let response ← Program.ofExcept (← fetchHttp request)
  if response.statusCode ≠ 200 then
    .fail (.error (.text
      ("unexpected status code when reading index file from " ++
        platform.urlString request.url ++ ": " ++
        toString response.statusCode)))
  else return response.body

def resourceRequest (path tag token : String) (requestUrl : Url) :
    HttpRequest :=
  if token ≠ "" && GoStrings.contains path "github.com" then
    authenticatedRequest platform requestUrl token tag
  else plainRequest requestUrl

def fetchResource (path tag token : String) : Go String := do
  let resourceUrl ← (Program.ofExcept (platform.urlParseRequestURI path) :
    Go Url).wrapping ("error parsing resource url: " ++ path)
  let requestUrl ← (newRequest platform resourceUrl).wrapping
    "error creating http request"
  let request := resourceRequest platform path tag token requestUrl
  let response ← (Program.ofExcept (← fetchHttp request) :
    Go HttpResponse).wrapping ("error fetching resource from " ++ path)
  if response.statusCode ≠ 200 then
    .fail (.error (.text
      ("unexpected status code when resource from " ++
        platform.urlString request.url ++ ": " ++
        toString response.statusCode)))
  else return response.body

inductive SourceType where
  | json
  | jsonnet
  | yaml
  | unknown
  deriving DecidableEq, Repr

def getFileType (path : String) : SourceType :=
  let fragments := GoStrings.split path '.'
  let extension := GoStrings.trimSpace (fragments.getLastD "")
  match GoStrings.toLower extension with
  | "json" => .json
  | "grafonnet" => .jsonnet
  | "jsonnet" => .jsonnet
  | "yaml" => .yaml
  | _ => .unknown

def dashboardRequest (tag token : String) (requestUrl : Url) : HttpRequest :=
  if token = "" then plainRequest requestUrl
  else authenticatedRequest platform requestUrl token tag

def fetchDashboard (path tag token : String) : Go (SourceType × String) := do
  let url ← Program.ofExcept (platform.urlParseRequestURI path)
  let requestUrl ← newRequest platform url
  let response ← Program.ofExcept
    (← fetchHttp (dashboardRequest platform tag token requestUrl))
  if response.statusCode ≠ 200 then
    .fail (.error (.text
      ("unexpected status code: " ++ toString response.statusCode)))
  else return (getFileType url.path, response.body)

end ObservabilityOperator
