import ObservabilityOperator.RequestedResources

/-!
# Pod monitors after a sync

Unlike rules and dashboards, pod monitors are chosen name by name: a name that
is taken is skipped and the rest of the index is still looked at.  A sync in
which nothing fails therefore leaves one object for every listed name, with the
content of the first file of that name, whatever was there before.
-/

namespace ObservabilityOperator

open FirstProviders Program

theorem names_nodup_getUniquePodMonitors (indexes : List RepositoryIndex) :
    ((getUniquePodMonitors indexes).map ResourceInfo.name).Nodup := by
  rw [getUniquePodMonitors_eq]
  exact keys_nodup_foldl_keepNew _ List.nodup_nil

theorem provider_getUniquePodMonitors (indexes : List RepositoryIndex)
    (name : String) :
    provider ResourceInfo.name (getUniquePodMonitors indexes) name =
      provider ResourceInfo.name
        (indexes.flatMap RepositoryIndex.podMonitors) name := by
  rw [getUniquePodMonitors_eq, provider_foldl_keepNew, List.nil_append]
  rfl

theorem mem_names_getUniquePodMonitors (indexes : List RepositoryIndex)
    (name : String) :
    name ∈ (getUniquePodMonitors indexes).map ResourceInfo.name ↔
      ∃ info ∈ indexes.flatMap RepositoryIndex.podMonitors,
        info.name = name := by
  rw [← taken_eq_true_iff, taken_eq_isSome, ← provider_getUniquePodMonitors,
    ← taken_eq_isSome, taken_eq_true_iff, List.mem_map]

/-! ## What a sync leaves behind -/

def podMonitorFiles (platform : Platform) (cr : Observability) :
    FileKind where
  kind := .podMonitor
  ns := cr.getPrometheusOperatorNamespace
  decode := platform.unmarshalPodMonitor
  content _ spec := spec

theorem createRequestedPodMonitors_eq (platform : Platform)
    (cr : Observability) (monitors : List ResourceInfo) :
    createRequestedPodMonitors platform cr monitors =
      Program.forEach monitors
        ((podMonitorFiles platform cr).create platform) := rfl

/-- Every listed file is served and decodes to the given pod monitor. -/
def MonitorsServed (platform : Platform) (env : Surroundings)
    (indexes : List RepositoryIndex)
    (files : ℕ → ResourceInfo → Manifest Document) : Prop :=
  ∀ info ∈ getUniquePodMonitors indexes, ∀ tick, ∃ body,
    ServedResource platform env info tick body ∧
      platform.unmarshalPodMonitor body = .ok (files tick info)

def podMonitorNames (cr : Observability) (cluster : Cluster) : List String :=
  (cluster.select .podMonitor
    { ns := some cr.getPrometheusOperatorNamespace }).map
      fun item => item.1.name

/-- The pod monitors are those of the listed files, each once and with the
content and the labels of the first file of its name. -/
structure PodMonitorsExact (cr : Observability)
    (indexes : List RepositoryIndex)
    (files : ℕ → ResourceInfo → Manifest Document) (cluster : Cluster) :
    Prop where
  nodup : (podMonitorNames cr cluster).Nodup
  names : ∀ name, name ∈ podMonitorNames cr cluster ↔
    ∃ info ∈ indexes.flatMap RepositoryIndex.podMonitors, info.name = name
  content : ∀ name info,
    provider ResourceInfo.name
        (indexes.flatMap RepositoryIndex.podMonitors) name = some info →
      ∃ tick monitor,
        cluster.find .podMonitor
            ⟨cr.getPrometheusOperatorNamespace, name⟩ = some monitor ∧
          monitor.spec = (files tick info).spec ∧
          monitor.labels = mergeLabels managedLabels (files tick info).labels

theorem mem_podMonitorNames (cr : Observability) (cluster : Cluster)
    (name : String) :
    name ∈ podMonitorNames cr cluster ↔
      (cluster.find .podMonitor
        ⟨cr.getPrometheusOperatorNamespace, name⟩).isSome = true := by
  unfold podMonitorNames
  rw [List.mem_map, Option.isSome_iff_exists]
  constructor
  · rintro ⟨⟨⟨ns, _⟩, monitor⟩, hitem, rfl⟩
    obtain ⟨hfind, hselects⟩ := (cluster.mem_select_iff _ _ _ _).mp hitem
    obtain rfl : ns = cr.getPrometheusOperatorNamespace := by
      simpa [ListOptions.selects] using hselects
    exact ⟨monitor, hfind⟩
  · rintro ⟨monitor, hfind⟩
    refine ⟨(⟨cr.getPrometheusOperatorNamespace, name⟩, monitor), ?_, rfl⟩
    exact (cluster.mem_select_iff _ _ _ _).mpr
      ⟨hfind, by simp [ListOptions.selects]⟩

theorem nodup_podMonitorNames (cr : Observability) (cluster : Cluster) :
    (podMonitorNames cr cluster).Nodup := by
  have hkeys := cluster.nodup_select .podMonitor
    { ns := some cr.getPrometheusOperatorNamespace }
  have hmap : podMonitorNames cr cluster = ((cluster.select .podMonitor
      { ns := some cr.getPrometheusOperatorNamespace }).map Prod.fst).map
        ObjectKey.name := by
    rw [List.map_map]
    rfl
  rw [hmap]
  refine List.Nodup.map_on ?_ hkeys
  rintro ⟨ns, name⟩ hfirst ⟨other, _⟩ hsecond rfl
  have hns (key : ObjectKey) (hkey : key ∈ (cluster.select .podMonitor
      { ns := some cr.getPrometheusOperatorNamespace }).map Prod.fst) :
      key.ns = cr.getPrometheusOperatorNamespace := by
    obtain ⟨⟨_, monitor⟩, hitem, rfl⟩ := List.mem_map.mp hkey
    simpa [ListOptions.selects] using
      ((cluster.mem_select_iff _ _ _ _).mp hitem).2
  rw [ObjectKey.mk.injEq]
  exact ⟨(hns _ hfirst).trans (hns _ hsecond).symm, rfl⟩

/-! ## Runs -/

section Runs

variable {platform : Platform} {cr : Observability}
  {env : Surroundings} {cluster after : Cluster}
  {indexes : List RepositoryIndex}
  {files : ℕ → ResourceInfo → Manifest Document} {info : ResourceInfo}

theorem run_fetchResource_of_served {body : String}
    (hserved : ServedResource platform env info cluster.tick body) :
    env.run
      (fetchResource platform info.url info.tag info.accessToken) cluster =
        (.ok body, cluster.advance) := by
  obtain ⟨url, requestUrl, hurl, hrequest, hhttp⟩ := hserved
  have hparse : env.run ((Program.ofExcept
      (platform.urlParseRequestURI info.url) : Go Url).wrapping
        ("error parsing resource url: " ++ info.url)) cluster =
          (.ok url, cluster) := by
    rw [hurl]
    rfl
  have hnew : env.run ((newRequest platform url).wrapping
      "error creating http request") cluster = (.ok requestUrl, cluster) := by
    unfold newRequest
    rw [hrequest]
    rfl
  refine (run_bind_ok hparse).trans ?_
  refine (run_bind_ok hnew).trans ?_
  refine (run_fetchHttp_bind _ _).trans ?_
  rw [hhttp]
  rfl

theorem ServedResource.unique {tick : ℕ} {body other : String}
    (hbody : ServedResource platform env info tick body)
    (hother : ServedResource platform env info tick other) : body = other := by
  obtain ⟨url, requestUrl, hurl, hrequest, hhttp⟩ := hbody
  obtain ⟨_, _, hurl', hrequest', hhttp'⟩ := hother
  cases hurl.symm.trans hurl'
  cases hrequest.symm.trans hrequest'
  cases hhttp.symm.trans hhttp'
  rfl

variable (hserved : MonitorsServed platform env indexes files)
include hserved

theorem completes_createRequestedPodMonitor
    (hfaultless : env.environment.Faultless)
    (hinfo : info ∈ getUniquePodMonitors indexes) :
    (createRequestedPodMonitor platform cr info).Completes
      (serve env.environment) (World.AgreesIn [] cluster) fun _ => True := by
  have hfetch : (fetchResource platform info.url info.tag
      info.accessToken).Completes (serve env.environment)
        (World.AgreesIn [] cluster) fun body =>
          ∃ manifest, platform.unmarshalPodMonitor body = .ok manifest := by
    intro state hstate
    obtain ⟨body, hbody, hdecode⟩ := hserved info hinfo state.tick
    exact ⟨body, state.advance, run_fetchResource_of_served hbody,
      ⟨_, hdecode⟩, hstate⟩
  refine hfetch.bind fun body hbody => ?_
  obtain ⟨manifest, hmanifest⟩ := hbody
  rw [hmanifest]
  exact .discard (completes_upsert hfaultless List.not_mem_nil)

theorem exists_run_syncPodMonitors (hfaultless : env.environment.Faultless)
    (cluster : Cluster) :
    ∃ after, env.run (syncPodMonitors platform cr indexes) cluster =
      (.ok (), after) := by
  have hsync : (syncPodMonitors platform cr indexes).Completes
      (serve env.environment) (World.AgreesIn [] cluster) fun _ => True :=
    .andThen (.wrapping (completes_deleteUnrequestedNames hfaultless
      List.not_mem_nil _ _)) fun _ => .wrapping (.forEach fun _ hinfo =>
        completes_createRequestedPodMonitor hserved hfaultless hinfo)
  exact hsync.exists_run fun _ _ => rfl

theorem content_of_written (hinfo : info ∈ getUniquePodMonitors indexes)
    (hwritten : (podMonitorFiles platform cr).Written platform env
      info cluster) :
    ∃ tick, ManifestWritten .podMonitor
      ((podMonitorFiles platform cr).key info) (files tick info)
      (files tick info).spec cluster := by
  obtain ⟨tick, body, parsed, hbody, hparsed, hmanifest⟩ := hwritten
  obtain ⟨other, hother, hdecode⟩ := hserved info hinfo tick
  obtain rfl := hbody.unique hother
  cases hparsed.symm.trans hdecode
  exact ⟨tick, hmanifest⟩

theorem run_syncPodMonitors_eq_ok
    (hrun : env.run (syncPodMonitors platform cr indexes) cluster =
      (.ok (), after)) : PodMonitorsExact cr indexes files after := by
  obtain ⟨_, between, hdelete, hcreate⟩ := run_bind_eq_ok hrun
  replace hcreate := run_wrapping_eq_ok.mp hcreate
  rw [createRequestedPodMonitors_eq] at hcreate
  obtain ⟨hwritten, hothers⟩ := FileKind.run_forEach_create_eq_ok
    (names_nodup_getUniquePodMonitors indexes) hcreate
  refine ⟨nodup_podMonitorNames cr after, fun name => ?_,
    fun name info hprovider => ?_⟩
  · rw [mem_podMonitorNames, ← mem_names_getUniquePodMonitors]
    refine isSome_find_iff_of_requested
      (run_wrapping_eq_ok.mp hdelete) (fun other hother => ?_)
      (fun other hother => ?_) name
    · exact hothers .podMonitor _ fun _ info hinfo hkey => hother
        (List.mem_map.mpr ⟨info, hinfo, congrArg ObjectKey.name hkey⟩)
    · obtain ⟨info, hinfo, rfl⟩ := List.mem_map.mp hother
      obtain ⟨_, _, _, -, -, hstored⟩ := hwritten info hinfo
      exact hstored.isSome_find
  · rw [← provider_getUniquePodMonitors] at hprovider
    have hinfo := List.mem_of_find?_eq_some hprovider
    obtain rfl : info.name = name := by
      simpa using List.find?_some hprovider
    obtain ⟨tick, monitor, hmonitor, hlabels, hspec⟩ :=
      content_of_written hserved hinfo (hwritten info hinfo)
    exact ⟨tick, monitor, hmonitor, hspec, hlabels⟩

theorem find_of_run_create_again
    (hinfo : info ∈ getUniquePodMonitors indexes)
    (hstable : ∀ tick other, files tick info = files other info) {tick : ℕ}
    (hwritten : ManifestWritten .podMonitor
      ((podMonitorFiles platform cr).key info) (files tick info)
      (files tick info).spec cluster)
    (hrun : env.run
      ((podMonitorFiles platform cr).create platform info) cluster =
        (.ok (), after)) (kind : Kind) (key : ObjectKey) :
    after.find kind key = cluster.find kind key := by
  have hothers := (FileKind.run_create_eq_ok hrun).2 kind key
  unfold FileKind.create at hrun
  obtain ⟨body, _, hfetch, hrun⟩ := run_bind_eq_ok hrun
  obtain ⟨hbody, rfl⟩ := run_fetchResource_eq_ok hfetch
  obtain ⟨parsed, hparsed, happly⟩ := run_ofExcept_bind_eq_ok hrun
  obtain ⟨other, hother, hdecode⟩ := hserved info hinfo cluster.tick
  obtain rfl := hbody.unique hother
  cases hparsed.symm.trans hdecode
  by_cases hsame : .podMonitor = kind ∧
      (podMonitorFiles platform cr).key info = key
  · obtain ⟨rfl, rfl⟩ := hsame
    obtain ⟨⟨labels, annotations, spec⟩, hmonitor, hlabels, hspec⟩ := hwritten
    unfold applyManifest at happly
    have hfind := (run_upsert_discarded_eq_ok happly).1
    have hfound : cluster.advance.find (podMonitorFiles platform cr).kind
        ((podMonitorFiles platform cr).key info) =
          some ⟨labels, annotations, spec⟩ := hmonitor
    rw [hfound, hstable cluster.tick tick] at hfind
    refine hfind.trans (Eq.trans ?_ hmonitor.symm)
    dsimp only at hlabels hspec
    rw [hlabels, hspec]
    rfl
  · exact hothers hsame

theorem find_of_run_syncPodMonitors_again
    (hstable : ∀ info ∈ getUniquePodMonitors indexes, ∀ tick other,
      files tick info = files other info)
    (hexact : PodMonitorsExact cr indexes files cluster)
    (hrun : env.run (syncPodMonitors platform cr indexes) cluster =
      (.ok (), after)) (kind : Kind) (key : ObjectKey) :
    after.find kind key = cluster.find kind key := by
  obtain ⟨_, between, hdelete, hcreate⟩ := run_bind_eq_ok hrun
  have hdeleted : ∀ other name,
      between.find other name = cluster.find other name := by
    intro other name
    replace hdelete := run_wrapping_eq_ok.mp hdelete
    unfold deleteUnrequestedPodMonitors at hdelete
    rw [deleteUnrequestedNames_eq_prune] at hdelete
    refine (run_prune_eq_ok hdelete).2 other name ?_
    rintro rfl monitor hmonitor hselects
    rw [mem_names_getUniquePodMonitors, ← hexact.names, mem_podMonitorNames]
    obtain ⟨ns, _⟩ := name
    obtain rfl : ns = cr.getPrometheusOperatorNamespace := by
      simpa [ListOptions.selects] using hselects
    rw [hmonitor]
    rfl
  have hcreated := (run_forEach_view
    (fun state : Cluster => ∀ other name,
      state.find other name = cluster.find other name)
    (fun _ => ()) (fun _ _ => ()) (fun info hinfo state next hstate hnext =>
      ⟨fun other name => ?_, rfl⟩) hdeleted
    (run_wrapping_eq_ok.mp hcreate)).1
  · exact hcreated kind key
  · have hprovider : provider ResourceInfo.name
        (indexes.flatMap RepositoryIndex.podMonitors) info.name =
          some info := by
      rw [← provider_getUniquePodMonitors]
      exact provider_of_mem (names_nodup_getUniquePodMonitors indexes) hinfo
    obtain ⟨tick, monitor, hmonitor, hspec, hlabels⟩ :=
      hexact.content info.name info hprovider
    have hwritten : ManifestWritten .podMonitor
        ((podMonitorFiles platform cr).key info) (files tick info)
        (files tick info).spec state :=
      ⟨monitor, (hstate _ _).trans hmonitor, hlabels, hspec⟩
    rw [← hstate other name]
    exact find_of_run_create_again hserved hinfo (hstable info hinfo)
      hwritten hnext other name

end Runs

/-- A sync in which nothing fails leaves exactly the listed pod monitors, and
a second one changes nothing as long as the files stay as they are. -/
theorem podMonitors_converge {platform : Platform} {cr : Observability}
    {env : Surroundings} {indexes : List RepositoryIndex}
    {files : ℕ → ResourceInfo → Manifest Document}
    (hfaultless : env.environment.Faultless)
    (hserved : MonitorsServed platform env indexes files) (cluster : Cluster) :
    ∃ after,
      env.run (syncPodMonitors platform cr indexes) cluster = (.ok (), after) ∧
      PodMonitorsExact cr indexes files after ∧
      ((∀ info ∈ getUniquePodMonitors indexes, ∀ tick other,
          files tick info = files other info) →
        ∃ again,
          env.run (syncPodMonitors platform cr indexes) after =
            (.ok (), again) ∧
          ∀ kind key, again.find kind key = after.find kind key) := by
  obtain ⟨after, hrun⟩ := exists_run_syncPodMonitors hserved hfaultless cluster
  have hexact := run_syncPodMonitors_eq_ok hserved hrun
  refine ⟨after, hrun, hexact, fun hstable => ?_⟩
  obtain ⟨again, hagain⟩ := exists_run_syncPodMonitors hserved hfaultless after
  exact ⟨again, hagain, find_of_run_syncPodMonitors_again hserved hstable
    hexact hagain⟩

def monitoringIndex (id : String) (files : List String) :
    RepositoryIndex where
  id := id
  config := some { prometheus := some { podMonitors := files } }

def monitorPlatform : Platform :=
  { Platform.serving with
    unmarshalPodMonitor := fun body =>
      .ok { labels := [("app", "strimzi")], spec := body } }

def repeatingIndexes : List RepositoryIndex :=
  [monitoringIndex "first" ["a.yaml", "sub/a.json", "b.yaml"],
    monitoringIndex "second" ["b.yaml", "c.yaml"]]

def servedMonitor (_ : ℕ) (_ : ResourceInfo) : Manifest Document :=
  { labels := [("app", "strimzi")], spec := "" }

theorem repeatingIndexes_converge :
    ∃ after again,
      Surroundings.serving.run
        (syncPodMonitors monitorPlatform plainCr repeatingIndexes)
        Cluster.empty = (.ok (), after) ∧
      PodMonitorsExact plainCr repeatingIndexes servedMonitor after ∧
      Surroundings.serving.run
        (syncPodMonitors monitorPlatform plainCr repeatingIndexes)
        after = (.ok (), again) ∧
      ∀ kind key, again.find kind key = after.find kind key := by
  have hserved : MonitorsServed monitorPlatform Surroundings.serving
      repeatingIndexes servedMonitor :=
    fun _ _ _ => ⟨"", ⟨_, _, rfl, rfl, rfl⟩, rfl⟩
  obtain ⟨after, hrun, hexact, hagain⟩ := podMonitors_converge
    Surroundings.faultless_serving hserved Cluster.empty
  obtain ⟨again, hrepeated, hsame⟩ := hagain fun _ _ _ _ => rfl
  exact ⟨after, again, hrun, hexact, hrepeated, hsame⟩

end ObservabilityOperator
