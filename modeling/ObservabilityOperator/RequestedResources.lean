import ObservabilityOperator.Completion
import ObservabilityOperator.MonitoringResources

/-!
# The objects of requested files after a sync

A sync of one kind deletes the objects no file asks for and then writes an
object for every chosen file.  Afterwards the objects of the kind in the
namespace are exactly those of the chosen files, each with the content that was
fetched for it.
-/

namespace ObservabilityOperator

open FirstProviders Program

section Runs

variable {platform : Platform} {cr : Observability}
  {env : Surroundings} {cluster after : Cluster}
  (indexes : List RepositoryIndex) {kind : Kind} {parsed : Manifest kind.Spec}
  {dashboards : List DashboardInfo} {content : kind.Spec}
  {allowed : ApiCall Kind.Spec Action → Prop}

variable {ns : String} {requested : List String} {info : DashboardInfo}

theorem run_deleteUnrequestedNames_eq_ok
    (hrun : env.run (deleteUnrequestedNames kind ns requested)
      cluster = (.ok (), after)) (name : String) :
    after.find kind ⟨ns, name⟩ =
      if name ∈ requested then cluster.find kind ⟨ns, name⟩ else none := by
  rw [deleteUnrequestedNames_eq_prune] at hrun
  obtain ⟨hgone, hkept⟩ := run_prune_eq_ok hrun
  by_cases hname : name ∈ requested
  · rw [if_pos hname]
    exact hkept kind ⟨ns, name⟩ fun _ _ _ _ => hname
  · rw [if_neg hname]
    cases hfind : cluster.find kind ⟨ns, name⟩ with
    | some object =>
      exact hgone _ object hfind (by simp [ListOptions.selects]) hname
    | none =>
      rw [← hfind]
      apply hkept
      intro _ object hfound
      rw [hfind] at hfound
      cases hfound

/-! ## Fetching -/

def ServedResource (platform : Platform) (env : Surroundings)
    (info : ResourceInfo) (tick : ℕ) (body : String) : Prop :=
  ∃ url requestUrl,
    platform.urlParseRequestURI info.url = .ok url ∧
      platform.urlParse (platform.urlString url) = .ok requestUrl ∧
      env.http tick
        (resourceRequest platform info.url info.tag info.accessToken
          requestUrl) = .ok ⟨200, body⟩

theorem run_fetchHttp_bind {α : Type} (request : HttpRequest)
    (next : Except String HttpResponse → Go α) :
    env.run ((fetchHttp request).bind next) cluster =
      env.run (next (env.http cluster.tick request)) cluster.advance := rfl

theorem run_fetchResource_eq_ok {info : ResourceInfo} {body : String}
    (hrun : env.run
      (fetchResource platform info.url info.tag info.accessToken) cluster =
        (.ok body, after)) :
    ServedResource platform env info cluster.tick body ∧
      after = cluster.advance := by
  unfold fetchResource at hrun
  simp only [bind_eq_bind] at hrun
  obtain ⟨url, _, hparse, hafterUrl⟩ := run_bind_eq_ok hrun
  obtain ⟨hurl, rfl⟩ := run_ofExcept_eq_ok (run_wrapping_eq_ok.mp hparse)
  obtain ⟨requestUrl, _, hnew, hafterNew⟩ := run_bind_eq_ok hafterUrl
  obtain ⟨hrequest, rfl⟩ := run_ofExcept_eq_ok (run_wrapping_eq_ok.mp hnew)
  have hsent := (run_fetchHttp_bind _ _).symm.trans hafterNew
  obtain ⟨response, _, hdo, hstatus⟩ := run_bind_eq_ok hsent
  obtain ⟨hresponse, rfl⟩ := run_ofExcept_eq_ok (run_wrapping_eq_ok.mp hdo)
  split at hstatus
  next => simp at hstatus
  next hcode =>
    cases hstatus
    refine ⟨⟨url, requestUrl, hurl, hrequest, ?_⟩, rfl⟩
    obtain ⟨statusCode, body⟩ := response
    obtain rfl : statusCode = 200 := by simpa using hcode
    exact hresponse

/-- At this time the dashboard is served with this text. -/
def ServedDashboard (platform : Platform) (env : Surroundings)
    (info : DashboardInfo) (tick : ℕ) (fetched : SourceType × String) :
    Prop :=
  ∃ url requestUrl,
    platform.urlParseRequestURI info.url = .ok url ∧
      platform.urlParse (platform.urlString url) = .ok requestUrl ∧
      env.http tick
        (dashboardRequest platform info.tag info.accessToken requestUrl) =
          .ok ⟨200, fetched.2⟩ ∧
      fetched.1 = getFileType url.path

theorem run_fetchDashboard_eq_ok {fetched : SourceType × String} (hrun : env.run
      (fetchDashboard platform info.url info.tag info.accessToken) cluster =
        (.ok fetched, after)) :
    ServedDashboard platform env info cluster.tick fetched := by
  unfold fetchDashboard at hrun
  simp only [bind_eq_bind] at hrun
  obtain ⟨url, hurl, hafterUrl⟩ := run_ofExcept_bind_eq_ok hrun
  obtain ⟨requestUrl, hrequest, hafterNew⟩ := run_ofExcept_bind_eq_ok hafterUrl
  have hsent := (run_fetchHttp_bind _ _).symm.trans hafterNew
  obtain ⟨response, hresponse, hstatus⟩ := run_ofExcept_bind_eq_ok hsent
  split at hstatus
  next => simp at hstatus
  next hcode =>
    simp only [pure_eq_done, run_done, Prod.mk.injEq,
      Except.ok.injEq] at hstatus
    obtain ⟨rfl, -⟩ := hstatus
    refine ⟨url, requestUrl, hurl, hrequest, ?_, by simp only⟩
    obtain ⟨statusCode, body⟩ := response
    obtain rfl : statusCode = 200 := by simpa using hcode
    exact hresponse

/-! ## Writing -/

def ManifestWritten (kind : Kind) (key : ObjectKey)
    (parsed : Manifest kind.Spec) (content : kind.Spec)
    (cluster : Cluster) : Prop :=
  ∃ object, cluster.find kind key = some object ∧
    object.labels = mergeLabels managedLabels parsed.labels ∧
    object.spec = content

theorem run_applyManifest_eq_ok {key : ObjectKey}
    (hrun : env.run (applyManifest kind key parsed content)
      cluster = (.ok (), after)) :
    ManifestWritten kind key parsed content after ∧
      ∀ other name, ¬ (kind = other ∧ key = name) →
        after.find other name = cluster.find other name := by
  unfold applyManifest at hrun
  obtain ⟨hfind, -, hothers⟩ := run_upsert_discarded_eq_ok hrun
  exact ⟨⟨_, hfind, rfl, rfl⟩, hothers⟩

/-- The rule is stored as it was served, with the id label. -/
def RuleWritten (platform : Platform) (env : Surroundings)
    (cr : Observability) (info : ResourceInfo) (cluster : Cluster) : Prop :=
  ∃ tick body parsed,
    ServedResource platform env info tick body ∧
      platform.unmarshalRule body = .ok parsed ∧
      ManifestWritten .prometheusRule
        ⟨cr.getPrometheusOperatorNamespace, info.name⟩ parsed
        (injectIdLabel parsed.spec info.id) cluster

/-- The dashboard is stored as it was served at some time. -/
def DashboardWritten (platform : Platform) (env : Surroundings)
    (cr : Observability) (info : DashboardInfo) (cluster : Cluster) : Prop :=
  ∃ tick fetched parsed,
    ServedDashboard platform env info tick fetched ∧
      dashboardManifest platform info.name fetched.1 fetched.2 =
        .ok (some parsed) ∧
      ManifestWritten .grafanaDashboard ⟨cr.ns, info.name⟩ parsed
        parsed.spec cluster

theorem ManifestWritten.of_find_eq {key : ObjectKey} {before : Cluster}
    (hwritten : ManifestWritten kind key parsed content
      before) (hfind : after.find kind key = before.find kind key) :
    ManifestWritten kind key parsed content after := by
  obtain ⟨object, hobject, hcontent⟩ := hwritten
  exact ⟨object, hfind.trans hobject, hcontent⟩

structure FileKind where
  kind : Kind
  ns : String
  decode : String → Except String (Manifest kind.Spec)
  content : ResourceInfo → kind.Spec → kind.Spec

namespace FileKind

def key (files : FileKind) (info : ResourceInfo) : ObjectKey :=
  ⟨files.ns, info.name⟩

def create (files : FileKind) (platform : Platform) (info : ResourceInfo) :
    Go Unit := do
  let bytes ← fetchResource platform info.url info.tag info.accessToken
  let parsed ← Program.ofExcept (files.decode bytes)
  applyManifest files.kind (files.key info) parsed
    (files.content info parsed.spec)

def Written (files : FileKind) (platform : Platform)
    (env : Surroundings) (info : ResourceInfo)
    (cluster : Cluster) : Prop :=
  ∃ tick body parsed,
    ServedResource platform env info tick body ∧
      files.decode body = .ok parsed ∧
      ManifestWritten files.kind (files.key info) parsed
        (files.content info parsed.spec) cluster

variable {files : FileKind}

theorem run_create_eq_ok {info : ResourceInfo}
    (hrun : env.run (files.create platform info) cluster = (.ok (), after)) :
    files.Written platform env info after ∧
      ∀ other name, ¬ (files.kind = other ∧ files.key info = name) →
        after.find other name = cluster.find other name := by
  unfold create at hrun
  simp only [bind_eq_bind] at hrun
  obtain ⟨body, _, hfetch, hafterFetch⟩ := run_bind_eq_ok hrun
  obtain ⟨hserved, rfl⟩ := run_fetchResource_eq_ok hfetch
  obtain ⟨parsed, hparsed, happly⟩ := run_ofExcept_bind_eq_ok hafterFetch
  obtain ⟨hwritten, hothers⟩ := run_applyManifest_eq_ok happly
  exact ⟨⟨_, body, parsed, hserved, hparsed, hwritten⟩, hothers⟩

theorem run_forEach_create_eq_ok {infos : List ResourceInfo}
    (hnames : (infos.map ResourceInfo.name).Nodup)
    (hrun : env.run (Program.forEach infos (files.create platform))
      cluster = (.ok (), after)) :
    (∀ info ∈ infos, files.Written platform env info after) ∧
      ∀ other name,
        (files.kind = other → ∀ info ∈ infos, files.key info ≠ name) →
          after.find other name = cluster.find other name := by
  refine ⟨?_, fun other name hname => ?_⟩
  · refine run_forEach_keyed ResourceInfo.name _
      (fun info _ state next hnext => ?_) hnames hrun
    obtain ⟨hwritten, hothers⟩ := run_create_eq_ok hnext
    refine ⟨hwritten, ?_⟩
    rintro other hne ⟨tick, body, parsed, hserved, hparsed, hold⟩
    exact ⟨tick, body, parsed, hserved, hparsed,
      hold.of_find_eq (hothers _ _ (by simpa [key] using hne.symm))⟩
  · have hview := (run_forEach_view (fun _ => True)
      (fun state : Cluster => state.find other name)
      (fun value _ => value)
      (fun info hinfo state next _ hnext => ⟨trivial, ?_⟩) trivial hrun).2
    · simpa using hview
    · refine (run_create_eq_ok hnext).2 _ _ ?_
      rintro ⟨hkind, hkey⟩
      exact hname hkind info hinfo hkey

end FileKind

def ruleFiles (platform : Platform) (cr : Observability) : FileKind where
  kind := .prometheusRule
  ns := cr.getPrometheusOperatorNamespace
  decode := platform.unmarshalRule
  content info spec := injectIdLabel spec info.id

theorem createRequestedRules_eq (rules : List ResourceInfo) :
    createRequestedRules platform cr rules =
      Program.forEach rules ((ruleFiles platform cr).create platform) := rfl

theorem run_createRequestedRules_eq_ok {rules : List ResourceInfo}
    (hnames : (rules.map ResourceInfo.name).Nodup)
    (hrun : env.run (createRequestedRules platform cr rules)
      cluster = (.ok (), after)) :
    (∀ info ∈ rules, RuleWritten platform env cr info after) ∧
      ∀ name, name ∉ rules.map ResourceInfo.name →
        after.find .prometheusRule ⟨cr.getPrometheusOperatorNamespace, name⟩ =
          cluster.find .prometheusRule
            ⟨cr.getPrometheusOperatorNamespace, name⟩ := by
  rw [createRequestedRules_eq] at hrun
  obtain ⟨hwritten, hothers⟩ := FileKind.run_forEach_create_eq_ok hnames hrun
  refine ⟨hwritten, fun name hname => hothers _ _ ?_⟩
  intro _ info hinfo hkey
  exact hname (List.mem_map.mpr ⟨info, hinfo, congrArg ObjectKey.name hkey⟩)

/-- Every dashboard is a JSON or a YAML file. -/
def JsonOrYaml (platform : Platform) (dashboards : List DashboardInfo) :
    Prop :=
  ∀ info ∈ dashboards, ∀ url,
    platform.urlParseRequestURI info.url = .ok url →
      getFileType url.path = .json ∨ getFileType url.path = .yaml

theorem dashboardManifest_eq_some {name source : String} {t : SourceType}
    {manifest : Option (Manifest GrafanaDashboardSpec)}
    (hfile : t = .json ∨ t = .yaml)
    (hmanifest : dashboardManifest platform name t source = .ok manifest) :
    ∃ parsed, manifest = some parsed := by
  rcases hfile with rfl | rfl
  · simp only [dashboardManifest, createDashboardFromSource, Except.map,
      Except.ok.injEq] at hmanifest
    exact ⟨_, hmanifest.symm⟩
  · simp only [dashboardManifest] at hmanifest
    cases hparse : parseDashboardFromYaml platform source with
    | error error => simp [hparse, Except.map] at hmanifest
    | ok parsed =>
      simp only [hparse, Except.map, Except.ok.injEq] at hmanifest
      exact ⟨parsed, hmanifest.symm⟩

def DashboardFetched (platform : Platform) (env : Surroundings)
    (info : DashboardInfo)
    (result : Option (String × Manifest GrafanaDashboardSpec)) : Prop :=
  ∃ tick fetched parsed,
    ServedDashboard platform env info tick fetched ∧
      dashboardManifest platform info.name fetched.1 fetched.2 =
        .ok (some parsed) ∧
      result = some (info.name, parsed)

theorem run_fetchRequestedDashboard_eq_ok
    (hfiles : JsonOrYaml platform dashboards) (hinfo : info ∈ dashboards)
    {result : Option (String × Manifest GrafanaDashboardSpec)}
    (hrun : env.run (fetchRequestedDashboard platform info) cluster =
      (.ok result, after)) : DashboardFetched platform env info result := by
  unfold fetchRequestedDashboard at hrun
  simp only [bind_eq_bind] at hrun
  obtain ⟨⟨t, source⟩, _, hfetch, hafterFetch⟩ := run_bind_eq_ok hrun
  have hserved := run_fetchDashboard_eq_ok hfetch
  obtain ⟨manifest, hmanifest, hdone⟩ := run_ofExcept_bind_eq_ok hafterFetch
  have hfile : t = .json ∨ t = .yaml := by
    obtain ⟨url, -, hurl, -, -, htype⟩ := hserved
    rw [show t = getFileType url.path from htype]
    exact hfiles info hinfo url hurl
  obtain ⟨parsed, rfl⟩ := dashboardManifest_eq_some hfile hmanifest
  simp only [pure_eq_done, run_done, Prod.mk.injEq,
    Except.ok.injEq, Option.map_some] at hdone
  exact ⟨_, _, parsed, hserved, hmanifest, hdone.1.symm⟩

theorem fetchRequestedDashboard_uses (info : DashboardInfo)
    (hhttp : ∀ request, allowed (.perform (.http request))) :
    (fetchRequestedDashboard platform info).Uses allowed := by
  refine Program.Uses.bind ?_ fun fetched =>
    Program.Uses.bind (uses_ofExcept _ _) fun _ => trivial
  refine Program.Uses.bind (uses_ofExcept _ _) fun url => ?_
  refine Program.Uses.bind (uses_ofExcept _ _) fun requestUrl => ?_
  refine Program.Uses.bind ((Client.uses_perform _ _).mpr (hhttp _))
    fun reply => ?_
  refine Program.Uses.bind (uses_ofExcept _ _) fun response => ?_
  split <;> trivial

theorem names_of_dashboardFetched
    {results : List (Option (String × Manifest GrafanaDashboardSpec))}
    (hfetched : List.Forall₂ (DashboardFetched platform env)
      dashboards results) :
    (results.filterMap fun result => result).map Prod.fst =
      dashboards.map DashboardInfo.name := by
  induction hfetched with
  | nil => rfl
  | cons hfirst hrest ih =>
    obtain ⟨-, -, parsed, -, -, rfl⟩ := hfirst
    simpa using ih

theorem run_createRequestedDashboards_eq_ok
    (hfiles : JsonOrYaml platform dashboards)
    (hnames : (dashboards.map DashboardInfo.name).Nodup)
    (hrun : env.run
      (createRequestedDashboards platform cr dashboards) cluster =
        (.ok (), after)) :
    (∀ info ∈ dashboards,
        DashboardWritten platform env cr info after) ∧
      ∀ name, name ∉ dashboards.map DashboardInfo.name →
        after.find .grafanaDashboard ⟨cr.ns, name⟩ =
          cluster.find .grafanaDashboard ⟨cr.ns, name⟩ := by
  obtain ⟨results, between, hcollect, hloop⟩ := run_bind_eq_ok hrun
  have hfetched := run_collect_forall₂ (DashboardFetched platform env)
    (fun info hinfo state next result hnext =>
      run_fetchRequestedDashboard_eq_ok hfiles hinfo hnext) hcollect
  have hresults := names_of_dashboardFetched hfetched
  have hbody {dashboard : String × Manifest GrafanaDashboardSpec}
      {state next : Cluster}
      (hnext : env.run
        (applyManifest .grafanaDashboard ⟨cr.ns, dashboard.1⟩ dashboard.2
          dashboard.2.spec) state = (.ok (), next)) :=
    run_applyManifest_eq_ok hnext
  refine ⟨fun info hinfo => ?_, fun name hname => ?_⟩
  · have hwritten := run_forEach_keyed Prod.fst
      (fun dashboard state => ManifestWritten .grafanaDashboard
        ⟨cr.ns, dashboard.1⟩ dashboard.2 dashboard.2.spec state)
      (fun dashboard _ state next hnext => ⟨(hbody hnext).1,
        fun other hne hold => hold.of_find_eq
          ((hbody hnext).2 _ _ (by simpa using hne.symm))⟩)
      (by rw [hresults]; exact hnames) hloop
    obtain ⟨result, hresult, tick, fetched, parsed, hserved, hparsed, rfl⟩ :=
      exists_of_forall₂ hfetched hinfo
    exact ⟨tick, fetched, parsed, hserved, hparsed,
      hwritten (info.name, parsed) (by simpa using hresult)⟩
  · have huses : (Program.collect dashboards
        (fetchRequestedDashboard platform)).Uses fun call =>
          ¬ call.Writes .grafanaDashboard ⟨cr.ns, name⟩ :=
      Program.Uses.collect fun info _ =>
        fetchRequestedDashboard_uses info fun _ hwrites => hwrites
    rw [← Surroundings.find_of_run hcollect huses]
    have hview := (run_forEach_view (fun _ => True)
      (fun state : Cluster => state.find .grafanaDashboard ⟨cr.ns, name⟩)
      (fun value _ => value)
      (fun dashboard hdashboard state next _ hnext => ⟨trivial, ?_⟩)
      trivial hloop).2
    · simpa using hview
    · refine (hbody hnext).2 _ _ ?_
      rintro ⟨-, hkey⟩
      rw [← hresults] at hname
      exact hname (List.mem_map.mpr
        ⟨dashboard, hdashboard, congrArg ObjectKey.name hkey⟩)

/-! ## A sync of one kind -/

theorem getUniquePodMonitors_eq :
    getUniquePodMonitors indexes =
      (indexes.map RepositoryIndex.podMonitors).foldl
        (keepNew ResourceInfo.name) [] := by
  rw [List.foldl_map]
  rfl

theorem getUniqueRules_eq :
    getUniqueRules indexes =
      (indexes.map RepositoryIndex.rules).foldl
        (keepNewUntilTaken ResourceInfo.name) [] := by
  rw [List.foldl_map]
  rfl

theorem getUniqueDashboards_eq :
    getUniqueDashboards indexes =
      (indexes.map RepositoryIndex.dashboards).foldl
        (keepNewUntilTaken DashboardInfo.name) [] := by
  rw [List.foldl_map]
  rfl

theorem names_nodup_getUniqueRules :
    ((getUniqueRules indexes).map ResourceInfo.name).Nodup := by
  rw [getUniqueRules_eq]
  exact keys_nodup_foldl_keepNewUntilTaken _ List.nodup_nil

theorem names_nodup_getUniqueDashboards :
    ((getUniqueDashboards indexes).map DashboardInfo.name).Nodup := by
  rw [getUniqueDashboards_eq]
  exact keys_nodup_foldl_keepNewUntilTaken _ List.nodup_nil

theorem isSome_find_iff_of_requested {between : Cluster}
    (hdelete : env.run (deleteUnrequestedNames kind ns requested)
      cluster = (.ok (), between)) (hothers : ∀ name, name ∉ requested →
      after.find kind ⟨ns, name⟩ = between.find kind ⟨ns, name⟩)
    (hfound : ∀ name ∈ requested, (after.find kind ⟨ns, name⟩).isSome = true)
    (name : String) :
    (after.find kind ⟨ns, name⟩).isSome = true ↔ name ∈ requested := by
  refine ⟨fun hsome => ?_, hfound name⟩
  by_contra hname
  rw [hothers name hname, run_deleteUnrequestedNames_eq_ok hdelete name,
    if_neg hname] at hsome
  cases hsome

theorem ManifestWritten.isSome_find {key : ObjectKey}
    (hwritten : ManifestWritten kind key parsed content cluster) :
    (cluster.find kind key).isSome = true := by
  obtain ⟨object, hobject, -⟩ := hwritten
  rw [hobject]
  rfl

theorem run_syncRules_eq_ok {indexes : List RepositoryIndex}
    (hrun : env.run (syncRules platform cr indexes) cluster = (.ok (), after)) :
    (∀ name, (after.find .prometheusRule
        ⟨cr.getPrometheusOperatorNamespace, name⟩).isSome = true ↔
          name ∈ (getUniqueRules indexes).map ResourceInfo.name) ∧
      ∀ info ∈ getUniqueRules indexes,
        RuleWritten platform env cr info after := by
  obtain ⟨_, between, hdelete, hcreate⟩ := run_bind_eq_ok hrun
  obtain ⟨hwritten, hothers⟩ := run_createRequestedRules_eq_ok
    (names_nodup_getUniqueRules indexes) (run_wrapping_eq_ok.mp hcreate)
  refine ⟨isSome_find_iff_of_requested
    (run_wrapping_eq_ok.mp hdelete) hothers fun name hname => ?_, hwritten⟩
  obtain ⟨info, hinfo, rfl⟩ := List.mem_map.mp hname
  obtain ⟨_, _, _, -, -, hstored⟩ := hwritten info hinfo
  exact hstored.isSome_find

theorem run_syncDashboards_eq_ok {indexes : List RepositoryIndex}
    (hfiles : JsonOrYaml platform (getUniqueDashboards indexes))
    (hrun : env.run (syncDashboards platform cr indexes) cluster =
      (.ok (), after)) :
    (∀ name, (after.find .grafanaDashboard ⟨cr.ns, name⟩).isSome = true ↔
        name ∈ (getUniqueDashboards indexes).map DashboardInfo.name) ∧
      ∀ info ∈ getUniqueDashboards indexes,
        DashboardWritten platform env cr info after := by
  obtain ⟨_, between, hdelete, hcreate⟩ := run_bind_eq_ok hrun
  obtain ⟨hwritten, hothers⟩ := run_createRequestedDashboards_eq_ok hfiles
    (names_nodup_getUniqueDashboards indexes) (run_wrapping_eq_ok.mp hcreate)
  refine ⟨isSome_find_iff_of_requested
    (run_wrapping_eq_ok.mp hdelete) hothers fun name hname => ?_, hwritten⟩
  obtain ⟨info, hinfo, rfl⟩ := List.mem_map.mp hname
  obtain ⟨_, _, _, -, -, hstored⟩ := hwritten info hinfo
  exact hstored.isSome_find

end Runs

/-! ## Nothing requested is lost -/

/-- After a sync that returns, the rules in the namespace of the Prometheus
operator are those of all listed files, each with the content of the first
file of its name. -/
def RulesExact (indexes : List RepositoryIndex) : Prop :=
  ∀ (platform : Platform) (cr : Observability) (env : Surroundings)
    (cluster after : Cluster),
    env.run (syncRules platform cr indexes) cluster =
        (.ok (), after) →
      (∀ name, (after.find .prometheusRule
          ⟨cr.getPrometheusOperatorNamespace, name⟩).isSome = true ↔
            ∃ info ∈ indexes.flatMap RepositoryIndex.rules,
              info.name = name) ∧
        ∀ name info,
          provider ResourceInfo.name
              (indexes.flatMap RepositoryIndex.rules) name = some info →
            RuleWritten platform env cr info after

/-- A completed sync leaves exactly the listed dashboards, each as its first
provider has it. -/
def DashboardsExact (indexes : List RepositoryIndex) : Prop :=
  ∀ (platform : Platform) (cr : Observability) (env : Surroundings)
    (cluster after : Cluster),
    JsonOrYaml platform (indexes.flatMap RepositoryIndex.dashboards) →
    env.run (syncDashboards platform cr indexes) cluster =
        (.ok (), after) →
      (∀ name, (after.find .grafanaDashboard ⟨cr.ns, name⟩).isSome = true ↔
          ∃ info ∈ indexes.flatMap RepositoryIndex.dashboards,
            info.name = name) ∧
        ∀ name info,
          provider DashboardInfo.name
              (indexes.flatMap RepositoryIndex.dashboards) name = some info →
            DashboardWritten platform env cr info after

variable {indexes : List RepositoryIndex}

theorem rulesExact_of_orderly (horderly : Orderly ResourceInfo.name
      (indexes.map RepositoryIndex.rules)) : RulesExact indexes := by
  intro platform cr env cluster after hrun
  obtain ⟨hnames, hwritten⟩ := run_syncRules_eq_ok hrun
  rw [getUniqueRules_eq] at hnames hwritten
  exact ⟨fun name => (hnames name).trans (mem_keys_of_orderly horderly name),
    fun name info hinfo => hwritten info
      (mem_of_provider_of_orderly horderly hinfo)⟩

theorem dashboardsExact_of_orderly (horderly : Orderly DashboardInfo.name
      (indexes.map RepositoryIndex.dashboards)) : DashboardsExact indexes := by
  intro platform cr env cluster after hfiles hrun
  have hchosen : JsonOrYaml platform (getUniqueDashboards indexes) := by
    intro info hinfo
    rw [getUniqueDashboards_eq] at hinfo
    exact hfiles info (by
      simpa [List.flatMap_def] using mem_of_mem_foldl_keepNewUntilTaken hinfo)
  obtain ⟨hnames, hwritten⟩ := run_syncDashboards_eq_ok hchosen hrun
  rw [getUniqueDashboards_eq] at hnames hwritten
  exact ⟨fun name => (hnames name).trans (mem_keys_of_orderly horderly name),
    fun name info hinfo => hwritten info
      (mem_of_provider_of_orderly horderly hinfo)⟩

/-! ## A setting in which every sync returns -/

def Platform.serving : Platform :=
  { Platform.plain with
    urlParseRequestURI := fun _ => .ok { path := ".json" }
    unmarshalRule := fun _ => .ok { spec := {} } }

def Surroundings.serving : Surroundings :=
  { Surroundings.quiet with http := fun _ _ => .ok ⟨200, ""⟩ }

theorem Surroundings.faultless_serving :
    Surroundings.serving.environment.Faultless := fun _ _ => rfl

theorem completes_deleteUnrequestedNames {env : Surroundings}
    {start : Cluster} {kinds : List Kind}
    (hfaultless : env.environment.Faultless) {kind : Kind}
    (hkind : kind ∉ kinds) (ns : String) (requested : List String) :
    (deleteUnrequestedNames kind ns requested).Completes
      (serve env.environment) (World.AgreesIn kinds start) fun _ => True := by
  rw [deleteUnrequestedNames_eq_prune]
  exact completes_prune hfaultless hkind

section Serving

variable (cr : Observability) (indexes : List RepositoryIndex)

/-- Where every file is served, the program comes to its end from any cluster
with a value of the given property. -/
abbrev RunsServed {α : Type} (program : Go α) (Returns : α → Prop) : Prop :=
  program.Completes (serve Surroundings.serving.environment)
    (World.AgreesIn [] Cluster.empty) Returns

theorem runsServed_createRequestedRule (info : ResourceInfo) :
    RunsServed (createRequestedRule Platform.serving cr info) fun _ => True := by
  have hfetch : RunsServed (fetchResource Platform.serving info.url info.tag
      info.accessToken) (· = "") :=
    fun cluster hcluster => ⟨"", cluster.advance, rfl, rfl, hcluster⟩
  refine hfetch.bind ?_
  rintro _ rfl
  exact .discard (completes_upsert Surroundings.faultless_serving
    List.not_mem_nil)

theorem exists_run_syncRules :
    ∃ after, Surroundings.serving.run
      (syncRules Platform.serving cr indexes) Cluster.empty =
        (.ok (), after) := by
  have hsync : RunsServed (syncRules Platform.serving cr indexes) fun _ => True :=
    .andThen (.wrapping (completes_deleteUnrequestedNames
      Surroundings.faultless_serving List.not_mem_nil _ _)) fun _ =>
        .wrapping (.forEach fun info _ => runsServed_createRequestedRule cr info)
  exact hsync.exists_run fun _ _ => rfl

theorem exists_run_syncDashboards :
    ∃ after, Surroundings.serving.run
      (syncDashboards Platform.serving cr indexes) Cluster.empty =
        (.ok (), after) := by
  have hfetch (info : DashboardInfo) : RunsServed
      (fetchRequestedDashboard Platform.serving info)
      (· = some (info.name, { spec := { json := "" } })) :=
    fun cluster hcluster => ⟨_, cluster.advance, rfl, rfl, hcluster⟩
  have hsync : RunsServed (syncDashboards Platform.serving cr indexes)
      fun _ => True :=
    .andThen (.wrapping (completes_deleteUnrequestedNames
      Surroundings.faultless_serving List.not_mem_nil _ _)) fun _ => .wrapping
        (.bind (.collect fun info _ => hfetch info) fun _ _ =>
          .forEach fun _ _ => .discard (completes_upsert
            Surroundings.faultless_serving List.not_mem_nil))
  exact hsync.exists_run fun _ _ => rfl

end Serving

theorem taken_of_rulesExact (hexact : RulesExact indexes) {info : ResourceInfo}
    (hinfo : info ∈ indexes.flatMap RepositoryIndex.rules) :
    taken ResourceInfo.name (getUniqueRules indexes) info.name = true := by
  obtain ⟨after, hrun⟩ := exists_run_syncRules plainCr indexes
  have hstored := ((hexact _ _ _ _ _ hrun).1 info.name).mpr ⟨info, hinfo, rfl⟩
  rw [(run_syncRules_eq_ok hrun).1, List.mem_map] at hstored
  exact taken_eq_true_iff.mpr hstored

theorem taken_of_dashboardsExact (hexact : DashboardsExact indexes)
    {info : DashboardInfo}
    (hinfo : info ∈ indexes.flatMap RepositoryIndex.dashboards) :
    taken DashboardInfo.name (getUniqueDashboards indexes) info.name =
      true := by
  have hfiles (dashboards : List DashboardInfo) :
      JsonOrYaml Platform.serving dashboards := by
    intro _ _ url hurl
    obtain rfl : ({ path := ".json" } : Url) = url := by
      simpa [Platform.serving] using hurl
    exact .inl rfl
  obtain ⟨after, hrun⟩ := exists_run_syncDashboards plainCr indexes
  have hstored := ((hexact _ _ _ _ _ (hfiles _) hrun).1 info.name).mpr
    ⟨info, hinfo, rfl⟩
  rw [(run_syncDashboards_eq_ok (hfiles _) hrun).1, List.mem_map] at hstored
  exact taken_eq_true_iff.mpr hstored

/-- Neither a rule nor a dashboard is lost, over the list and over every
initial part of it, exactly when no index lists a new name behind one that is
taken. -/
theorem sync_exact_iff_orderly (indexes : List RepositoryIndex) :
    (∀ initial, initial <+: indexes →
      RulesExact initial ∧ DashboardsExact initial) ↔
      Orderly ResourceInfo.name (indexes.map RepositoryIndex.rules) ∧
        Orderly DashboardInfo.name
          (indexes.map RepositoryIndex.dashboards) := by
  constructor
  · intro hexact
    refine ⟨orderly_iff.mpr fun groups hgroups info hinfo => ?_,
      orderly_iff.mpr fun groups hgroups info hinfo => ?_⟩
    · obtain ⟨initial, hinitial, rfl⟩ := List.prefix_map_iff.mp hgroups
      rw [← getUniqueRules_eq]
      exact taken_of_rulesExact (hexact initial hinitial).1 hinfo
    · obtain ⟨initial, hinitial, rfl⟩ := List.prefix_map_iff.mp hgroups
      rw [← getUniqueDashboards_eq]
      exact taken_of_dashboardsExact (hexact initial hinitial).2 hinfo
  · rintro ⟨hrules, hdashboards⟩ initial hinitial
    exact ⟨rulesExact_of_orderly (hrules.of_prefix (hinitial.map _)),
      dashboardsExact_of_orderly (hdashboards.of_prefix (hinitial.map _))⟩

def listingIndex (id : String) (files : List String) : RepositoryIndex where
  id := id
  config := some
    { prometheus := some { rules := files }
      grafana := some { dashboards := files } }

/-- The second index repeats a name of the first one, and the name behind it
is lost. -/
theorem repeated_name_loses_next_file :
    ¬ RulesExact [listingIndex "first" ["a.json"],
        listingIndex "second" ["a.json", "b.json"]] ∧
      ¬ DashboardsExact [listingIndex "first" ["a.json"],
        listingIndex "second" ["a.json", "b.json"]] := by
  refine ⟨fun hexact => ?_, fun hexact => ?_⟩
  · have hlost := taken_of_rulesExact hexact
      (show (listingIndex "second" []).resourceInfo "b.json" ∈ _ by decide)
    revert hlost
    decide
  · have hlost := taken_of_dashboardsExact hexact
      (show (listingIndex "second" []).dashboardInfo "b.json" ∈ _ by decide)
    revert hlost
    decide

end ObservabilityOperator
