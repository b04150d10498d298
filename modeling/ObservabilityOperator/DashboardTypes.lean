import ObservabilityOperator.RequestedResources

/-!
# Dashboards of every type

Files with dashboards are fetched first and turned into objects by their type,
and then all objects are written.  A Jsonnet file is recognised and there is a
conversion for it, but the branch that is taken for it is empty.
-/

namespace ObservabilityOperator

open Program

def prescribedDashboard (platform : Platform) (name : String)
    (t : SourceType) (source : String) :
    Except String (Option (Manifest GrafanaDashboardSpec)) :=
  match t with
  | .unknown => .ok none
  | .yaml => (parseDashboardFromYaml platform source).map some
  | .json | .jsonnet => (createDashboardFromSource name t source).map some

structure FetchedDashboard where
  info : DashboardInfo
  sourceType : SourceType
  source : String
  manifest : Option (Manifest GrafanaDashboardSpec)

namespace FetchedDashboard

def key (cr : Observability) (dashboard : FetchedDashboard) : ObjectKey :=
  ⟨cr.ns, dashboard.info.name⟩

/-- The file has been fetched and converted in the given surroundings. -/
structure Served (platform : Platform) (env : Surroundings)
    (dashboard : FetchedDashboard) : Prop where
  fetched : ∃ tick, ServedDashboard platform env dashboard.info tick
    (dashboard.sourceType, dashboard.source)
  converted : dashboardManifest platform dashboard.info.name
    dashboard.sourceType dashboard.source = .ok dashboard.manifest

/-- Where its type prescribes a dashboard, it is stored with the label of the
operator. -/
def Stored (platform : Platform) (cr : Observability) (cluster : Cluster)
    (dashboard : FetchedDashboard) : Prop :=
  ∀ parsed, prescribedDashboard platform dashboard.info.name
      dashboard.sourceType dashboard.source = .ok (some parsed) →
    ∃ object,
      cluster.find .grafanaDashboard (dashboard.key cr) = some object ∧
      object.spec = parsed.spec ∧
      object.labels.get? "managed-by" = some "observability-operator"

def named (dashboard : FetchedDashboard) :
    Option (String × Manifest GrafanaDashboardSpec) :=
  dashboard.manifest.map fun parsed => (dashboard.info.name, parsed)

variable {platform : Platform} {env : Surroundings}
  {cr : Observability} {cluster after : Cluster}
  {dashboard : FetchedDashboard}

theorem Served.manifest_eq_none (hserved : dashboard.Served platform
    env)
    (htype : dashboard.sourceType = .jsonnet ∨
      dashboard.sourceType = .unknown) : dashboard.manifest = none := by
  have hconverted := hserved.converted
  rcases htype with htype | htype <;> rw [htype] at hconverted
  · exact (Except.ok.inj hconverted).symm
  · exact (Except.ok.inj hconverted).symm

theorem Served.prescribed (hserved : dashboard.Served platform env)
    (htype : dashboard.sourceType ≠ .jsonnet) :
    prescribedDashboard platform dashboard.info.name dashboard.sourceType
      dashboard.source = .ok dashboard.manifest := by
  rw [← hserved.converted]
  cases hsource : dashboard.sourceType with
  | jsonnet => exact (htype hsource).elim
  | json => rfl
  | yaml => rfl
  | unknown => rfl

theorem Stored.of_find_eq (hstored : dashboard.Stored platform cr cluster)
    (hfind : after.find .grafanaDashboard (dashboard.key cr) =
      cluster.find .grafanaDashboard (dashboard.key cr)) :
    dashboard.Stored platform cr after := by
  intro parsed hparsed
  obtain ⟨object, hobject, hcontent⟩ := hstored parsed hparsed
  exact ⟨object, hfind.trans hobject, hcontent⟩

theorem stored_of_manifestWritten (hserved : dashboard.Served platform
    env) (htype : dashboard.sourceType ≠ .jsonnet)
    (hwritten : ∀ parsed, dashboard.manifest = some parsed →
      ManifestWritten .grafanaDashboard (dashboard.key cr) parsed parsed.spec
        cluster) : dashboard.Stored platform cr cluster := by
  intro parsed hparsed
  rw [hserved.prescribed htype] at hparsed
  obtain ⟨object, hobject, hlabels, hspec⟩ :=
    hwritten parsed (Except.ok.inj hparsed)
  refine ⟨object, hobject, hspec, ?_⟩
  rw [hlabels]
  exact StringMap.get?_set_self _ _ _

theorem names_sublist (fetched : List FetchedDashboard) :
    ((fetched.filterMap named).map Prod.fst).Sublist
      (fetched.map (DashboardInfo.name ∘ info)) := by
  induction fetched with
  | nil => exact .slnil
  | cons dashboard rest ih =>
    cases hmanifest : dashboard.manifest with
    | none => simpa [named, hmanifest] using ih.cons _
    | some parsed =>
      simpa [named, hmanifest] using ih.cons_cons dashboard.info.name

end FetchedDashboard

/-! ## Fetching and writing -/

section Runs

variable {platform : Platform} {env : Surroundings}
  {cr : Observability} {cluster after : Cluster} {dashboard : FetchedDashboard}

theorem run_fetchRequestedDashboard_served {info : DashboardInfo}
    {result : Option (String × Manifest GrafanaDashboardSpec)}
    (hrun : env.run (fetchRequestedDashboard platform info) cluster =
      (.ok result, after)) :
    ∃ dashboard : FetchedDashboard, dashboard.info = info ∧
      dashboard.Served platform env ∧ result = dashboard.named := by
  unfold fetchRequestedDashboard at hrun
  simp only [bind_eq_bind] at hrun
  obtain ⟨⟨t, source⟩, fetched, hfetch, hrun⟩ := run_bind_eq_ok hrun
  obtain ⟨manifest, hmanifest, hdone⟩ := run_ofExcept_bind_eq_ok hrun
  cases hdone
  exact ⟨⟨info, t, source, manifest⟩, rfl,
    ⟨⟨_, run_fetchDashboard_eq_ok hfetch⟩, hmanifest⟩, rfl⟩

theorem exists_fetchedDashboards {dashboards : List DashboardInfo}
    {results : List (Option (String × Manifest GrafanaDashboardSpec))}
    (hrun : env.run (Program.collect dashboards
      (fetchRequestedDashboard platform)) cluster = (.ok results, after)) :
    ∃ fetched : List FetchedDashboard,
      fetched.map FetchedDashboard.info = dashboards ∧
      (∀ dashboard ∈ fetched, dashboard.Served platform env) ∧
      results = fetched.map FetchedDashboard.named := by
  have hresults := run_collect_forall₂
    (fun info result => ∃ dashboard : FetchedDashboard,
      dashboard.info = info ∧ dashboard.Served platform env ∧
        result = dashboard.named)
    (fun info _ state next result hnext =>
      run_fetchRequestedDashboard_served hnext) hrun
  clear hrun
  induction hresults with
  | nil => exact ⟨[], rfl, by simp, rfl⟩
  | cons hfirst _ ih =>
    obtain ⟨dashboard, rfl, hserved, rfl⟩ := hfirst
    obtain ⟨fetched, rfl, hall, rfl⟩ := ih
    exact ⟨dashboard :: fetched, rfl,
      List.forall_mem_cons.mpr ⟨hserved, hall⟩, rfl⟩

theorem fetches_not_writes (dashboards : List DashboardInfo) (key : ObjectKey) :
    (Program.collect dashboards (fetchRequestedDashboard platform)).Uses
      fun call => ¬ call.Writes .grafanaDashboard key :=
  Program.Uses.collect fun info _ =>
    fetchRequestedDashboard_uses info fun _ hwrites => hwrites

structure DashboardRun (platform : Platform) (env : Surroundings)
    (cr : Observability) (dashboards : List DashboardInfo)
    (cluster after : Cluster) where
  fetched : List FetchedDashboard
  between : Cluster
  infos : fetched.map FetchedDashboard.info = dashboards
  served : ∀ dashboard ∈ fetched, dashboard.Served platform env
  fetches : env.run (Program.collect dashboards
    (fetchRequestedDashboard platform)) cluster =
      (.ok (fetched.map FetchedDashboard.named), between)
  writes : env.run
    (Program.forEach (fetched.filterMap FetchedDashboard.named)
      fun dashboard => applyManifest .grafanaDashboard ⟨cr.ns, dashboard.1⟩
        dashboard.2 dashboard.2.spec) between = (.ok (), after)

theorem exists_dashboardRun {dashboards : List DashboardInfo}
    (hrun : env.run
      (createRequestedDashboards platform cr dashboards) cluster =
        (.ok (), after)) :
    Nonempty (DashboardRun platform env cr dashboards cluster after) := by
  obtain ⟨results, between, hcollect, hloop⟩ := run_bind_eq_ok hrun
  obtain ⟨fetched, hinfos, hserved, rfl⟩ := exists_fetchedDashboards hcollect
  rw [List.filterMap_map] at hloop
  exact ⟨⟨fetched, between, hinfos, hserved, hcollect, hloop⟩⟩

namespace DashboardRun

variable {dashboards : List DashboardInfo}

theorem nodup_names
    (run : DashboardRun platform env cr dashboards cluster after)
    (hnames : (dashboards.map DashboardInfo.name).Nodup) :
    ((run.fetched.filterMap FetchedDashboard.named).map Prod.fst).Nodup := by
  rw [← run.infos, List.map_map] at hnames
  exact (FetchedDashboard.names_sublist run.fetched).nodup hnames

theorem manifestWritten
    (run : DashboardRun platform env cr dashboards cluster after)
    (hnames : (dashboards.map DashboardInfo.name).Nodup)
    (hdashboard : dashboard ∈ run.fetched)
    {parsed : Manifest GrafanaDashboardSpec}
    (hmanifest : dashboard.manifest = some parsed) :
    ManifestWritten .grafanaDashboard (dashboard.key cr) parsed parsed.spec
      after := by
  have hwritten := run_forEach_keyed Prod.fst
    (fun named state => ManifestWritten .grafanaDashboard ⟨cr.ns, named.1⟩
      named.2 named.2.spec state)
    (fun named _ state next hnext => ?_)
    (run.nodup_names hnames) run.writes
  · exact hwritten (dashboard.info.name, parsed)
      (List.mem_filterMap.mpr ⟨dashboard, hdashboard, by
        simp [FetchedDashboard.named, hmanifest]⟩)
  · obtain ⟨hthis, hothers⟩ := run_applyManifest_eq_ok hnext
    exact ⟨hthis, fun other hne hold => hold.of_find_eq
      (hothers _ _ (by simpa using hne.symm))⟩

theorem not_writes (run : DashboardRun platform env cr dashboards cluster after)
    (hnames : (dashboards.map DashboardInfo.name).Nodup)
    (hdashboard : dashboard ∈ run.fetched)
    (hmanifest : dashboard.manifest = none) :
    (Program.forEach (run.fetched.filterMap FetchedDashboard.named)
      fun named => applyManifest .grafanaDashboard ⟨cr.ns, named.1⟩ named.2
        named.2.spec).Uses fun call =>
          ¬ call.Writes .grafanaDashboard (dashboard.key cr) := by
  refine Program.Uses.forEach fun named hnamed => ?_
  obtain ⟨other, hother, hmade⟩ := List.mem_filterMap.mp hnamed
  obtain ⟨parsed, hparsed, rfl⟩ := Option.map_eq_some_iff.mp hmade
  have hkey : ¬ (Kind.grafanaDashboard = .grafanaDashboard ∧
      (⟨cr.ns, other.info.name⟩ : ObjectKey) = dashboard.key cr) := by
    rintro ⟨-, hsame⟩
    have hname : other.info.name = dashboard.info.name :=
      congrArg ObjectKey.name hsame
    rw [← run.infos, List.map_map] at hnames
    rw [List.inj_on_of_nodup_map hnames hother hdashboard hname,
      hmanifest] at hparsed
    cases hparsed
  exact .bind (upsert_uses (fun hwrites => hwrites) (fun _ => hkey)
    fun _ => hkey) fun _ => trivial

theorem find_eq (run : DashboardRun platform env cr dashboards cluster after)
    (hnames : (dashboards.map DashboardInfo.name).Nodup)
    (hdashboard : dashboard ∈ run.fetched)
    (hmanifest : dashboard.manifest = none) :
    after.find .grafanaDashboard (dashboard.key cr) =
      cluster.find .grafanaDashboard (dashboard.key cr) := by
  rw [Surroundings.find_of_run run.writes
      (run.not_writes hnames hdashboard hmanifest),
    Surroundings.find_of_run run.fetches (fetches_not_writes _ _)]

end DashboardRun

end Runs

/-- Every dashboard of a supported type is stored, and nothing is written for
a file of unknown type. -/
structure DashboardsCreated (platform : Platform)
    (env : Surroundings) (cr : Observability)
    (fetched : List FetchedDashboard) (cluster after : Cluster) : Prop where
  stored : ∀ dashboard ∈ fetched, dashboard.Stored platform cr after
  untouched : ∀ dashboard ∈ fetched, dashboard.sourceType = .unknown →
    ∀ event ∈ env.events (createRequestedDashboards platform cr
      (fetched.map FetchedDashboard.info)) cluster,
      ¬ event.op.Writes .grafanaDashboard (dashboard.key cr)

/-- All dashboards are created exactly if those of Jsonnet files were there
before. -/
theorem dashboardsCreated_iff {platform : Platform}
    {env : Surroundings} {cr : Observability}
    {dashboards : List DashboardInfo} {cluster after : Cluster}
    (hnames : (dashboards.map DashboardInfo.name).Nodup)
    (hrun : env.run
      (createRequestedDashboards platform cr dashboards) cluster =
        (.ok (), after)) :
    ∃ fetched : List FetchedDashboard,
      fetched.map FetchedDashboard.info = dashboards ∧
      (∀ dashboard ∈ fetched, dashboard.Served platform env) ∧
      (DashboardsCreated platform env cr fetched cluster after ↔
        ∀ dashboard ∈ fetched, dashboard.sourceType = .jsonnet →
          dashboard.Stored platform cr cluster) := by
  obtain ⟨run⟩ := exists_dashboardRun hrun
  refine ⟨run.fetched, run.infos, run.served, ?_, fun hbefore => ⟨?_, ?_⟩⟩
  · intro hcreated dashboard hdashboard htype
    have hmanifest :=
      (run.served dashboard hdashboard).manifest_eq_none (.inl htype)
    exact (hcreated.stored dashboard hdashboard).of_find_eq
      (run.find_eq hnames hdashboard hmanifest).symm
  · intro dashboard hdashboard
    have hserved := run.served dashboard hdashboard
    by_cases htype : dashboard.sourceType = .jsonnet
    · exact (hbefore dashboard hdashboard htype).of_find_eq
        (run.find_eq hnames hdashboard (hserved.manifest_eq_none (.inl htype)))
    · exact FetchedDashboard.stored_of_manifestWritten hserved htype
        fun parsed hparsed => run.manifestWritten hnames hdashboard hparsed
  · intro dashboard hdashboard htype event hevent
    have hmanifest :=
      (run.served dashboard hdashboard).manifest_eq_none (.inr htype)
    rw [run.infos] at hevent
    rcases mem_events_bind hevent with
      hfetch | ⟨results, state, hother, hwrite⟩
    · exact (fetches_not_writes _ _).of_mem_events hfetch
    · have hresults : results = run.fetched.map FetchedDashboard.named := by
        have hboth := hother.symm.trans run.fetches
        exact Except.ok.inj (congrArg Prod.fst hboth)
      rw [hresults, List.filterMap_map] at hwrite
      exact (run.not_writes hnames hdashboard hmanifest).of_mem_events hwrite

def Platform.locating : Platform :=
  { Platform.plain with urlParseRequestURI := fun url => .ok { path := url } }

def requestedDashboard (url : String) : DashboardInfo where
  name := "board"
  url := url
  accessToken := ""
  tag := ""

theorem jsonDashboard_created :
    ∃ fetched : List FetchedDashboard,
      fetched.map FetchedDashboard.info = [requestedDashboard "board.json"] ∧
      (∀ dashboard ∈ fetched,
        dashboard.Served Platform.locating answeringSurroundings) ∧
      (DashboardsCreated Platform.locating answeringSurroundings plainCr
          fetched Cluster.empty
          (answeringSurroundings.run (createRequestedDashboards
            Platform.locating plainCr [requestedDashboard "board.json"])
            Cluster.empty).2 ↔
        ∀ dashboard ∈ fetched, dashboard.sourceType = .jsonnet →
          dashboard.Stored Platform.locating plainCr Cluster.empty) :=
  dashboardsCreated_iff (by decide) rfl

/-- The dashboard of a Jsonnet file is not there after a run that succeeds. -/
theorem jsonnetDashboard_missing : getFileType "board.jsonnet" = .jsonnet ∧
    ∃ after, answeringSurroundings.run (createRequestedDashboards
        Platform.locating plainCr [requestedDashboard "board.jsonnet"])
      Cluster.empty = (.ok (), after) ∧
      after.find .grafanaDashboard ⟨plainCr.ns, "board"⟩ = none :=
  ⟨by decide, _, rfl, rfl⟩

end ObservabilityOperator
