import ObservabilityOperator.RemoteWriteTargets
import ObservabilityOperator.TokenProvenance

/-!
# Whose credentials the telemetry of an index is sent with

The Deployment of a token refresher and the secret of a token are named after
the id of an Observatorium.  Two entries with the same id share them: the
refresher runs with the configuration of the last entry that asks for one, and
the secret holds the token of whichever entry has fetched one.
-/

namespace ObservabilityOperator

section LastWriter

variable {α V : Type}

theorem exists_last {P : α → Prop} {items : List α}
    (hitem : ∃ item ∈ items, P item) :
    ∃ front item back, items = front ++ item :: back ∧ P item ∧
      ∀ other ∈ back, ¬ P other := by
  induction items with
  | nil => simp at hitem
  | cons first rest ih =>
    by_cases hrest : ∃ item ∈ rest, P item
    · obtain ⟨front, item, back, rfl, hlast⟩ := ih hrest
      exact ⟨first :: front, item, back, rfl, hlast⟩
    · simp only [not_exists, not_and] at hrest
      obtain ⟨item, hmem, hholds⟩ := hitem
      rcases List.mem_cons.mp hmem with rfl | hlater
      · exact ⟨[], item, rest, rfl, hholds, hrest⟩
      · exact absurd hholds (hrest item hlater)

theorem foldl_eq_of_forall {update : V → α → V} {items : List α}
    (hkeep : ∀ item ∈ items, ∀ value, update value item = value)
    (value : V) : items.foldl update value = value := by
  induction items generalizing value with
  | nil => rfl
  | cons first rest ih =>
    rw [List.foldl_cons, hkeep first List.mem_cons_self]
    exact ih (fun item hitem =>
      hkeep item (List.mem_cons_of_mem _ hitem)) value

end LastWriter

/-! ## The refresher of an id -/

def RefresherEntry.Refreshes (platform : Platform) (entry : RefresherEntry)
    (id : String) (t : TokenRefresherType)
    (config : TokenRefresherConfigSet) : Prop :=
  entry.observatorium.authType = .redhat ∧ entry.observatorium.id = id ∧
    entry.configSet? platform t = some config

/-- The refresher runs as the last entry that asks for it has it. -/
def RunsForLast (platform : Platform) (cr : Observability)
    (completed : List RepositoryIndex) (after : Cluster) (id : String)
    (t : TokenRefresherType) : Prop :=
  ∃ front entry back config deployment,
    refresherEntries completed = front ++ entry :: back ∧
      entry.Refreshes platform id t config ∧
      (∀ other ∈ back, ∀ later, ¬ other.Refreshes platform id t later) ∧
      after.find .deployment
        (getTokenRefresherDeployment cr (getTokenRefresherName id t)) =
        some (tokenRefresherDeployment config deployment)

section Refreshers

variable {platform : Platform} {env : Surroundings}
  {cr : Observability} {indexes : List RepositoryIndex}
  {cluster after : Cluster} {entry : RefresherEntry} {id : String}
  {t : TokenRefresherType} {config : TokenRefresherConfigSet}

def watchDeployment (env : Surroundings) (cr : Observability) (name : String) :
    RefresherView env cr (Option (Resource DeploymentSpec)) where
  view state := state.find .deployment (getTokenRefresherDeployment cr name)
  update found config :=
    if config.name = name then
      some (tokenRefresherDeployment config (found.getD Kind.deployment.blank))
    else found
  read _ := rfl
  write config before after hwrite := by
    have hwritten := run_writeRefresher_eq_ok hwrite
    split
    next hname =>
      subst hname
      exact hwritten.deployment
    next hname =>
      refine hwritten.others _ _ fun hkey => hname ?_
      exact (congrArg ObjectKey.name hkey).symm

theorem RefresherEntry.mem_requested_iff :
    config ∈ entry.requested platform ∧
        config.name = getTokenRefresherName id t ↔
      entry.Refreshes platform id t config := by
  constructor
  · rintro ⟨hmem, hname⟩
    unfold requested at hmem
    split at hmem
    next htype =>
      obtain ⟨u, -, hconfig⟩ := List.mem_filterMap.mp hmem
      rw [name_of_configSet? hconfig, getTokenRefresherName_inj] at hname
      obtain ⟨hid, rfl⟩ := hname
      exact ⟨htype, hid, hconfig⟩
    next => cases hmem
  · rintro ⟨htype, rfl, hconfig⟩
    refine ⟨?_, name_of_configSet? hconfig⟩
    rw [requested, if_pos htype]
    exact List.mem_filterMap.mpr ⟨t, by cases t <;> simp, hconfig⟩

theorem foldl_watchDeployment (hconfig : entry.Refreshes platform id t config)
    (found : Option (Resource DeploymentSpec)) :
    ∃ deployment, (entry.requested platform).foldl
      (watchDeployment env cr (getTokenRefresherName id t)).update
        found = some (tokenRefresherDeployment config deployment) := by
  obtain ⟨front, last, back, hsplit, ⟨hlast, hname⟩, hback⟩ := exists_last
    (P := fun other => other ∈ entry.requested platform ∧
      other.name = getTokenRefresherName id t)
    ⟨config, (RefresherEntry.mem_requested_iff.mpr hconfig).1,
      RefresherEntry.mem_requested_iff.mpr hconfig⟩
  have hrefreshes := RefresherEntry.mem_requested_iff.mp ⟨hlast, hname⟩
  obtain rfl : last = config :=
    Option.some.inj (hrefreshes.2.2.symm.trans hconfig.2.2)
  rw [hsplit, List.foldl_append, List.foldl_cons, foldl_eq_of_forall]
  · exact ⟨_, if_pos hname⟩
  · intro other hother value
    refine if_neg fun hsame => hback other hother ⟨?_, hsame⟩
    rw [hsplit]
    simp [hother]

theorem runsForLast_of_run_reconcileTokenRefresher
    (habsent : oauth2Secret cr cluster = none)
    (hrun : env.run (reconcileTokenRefresher platform cr indexes)
      cluster = (.ok (), after))
    (hentry : ∃ entry ∈ refresherEntries indexes, ∃ config,
      entry.Refreshes platform id t config) :
    RunsForLast platform cr indexes after id t := by
  have hview := (watchDeployment env cr
    (getTokenRefresherName id t)).of_run habsent hrun
  obtain ⟨front, entry, back, hsplit, ⟨config, hconfig⟩, hback⟩ :=
    exists_last hentry
  simp only [not_exists] at hback
  rw [requestedRefreshers, List.foldl_flatMap, hsplit, List.foldl_append,
    List.foldl_cons, foldl_eq_of_forall] at hview
  · obtain ⟨deployment, hdeployment⟩ := foldl_watchDeployment hconfig _
    exact ⟨front, entry, back, config, deployment, hsplit, hconfig, hback,
      hview.trans hdeployment⟩
  · intro other hother value
    refine foldl_eq_of_forall (fun config hconfig _ => if_neg ?_) value
    exact fun hname => hback other hother config
      (RefresherEntry.mem_requested_iff.mp ⟨hconfig, hname⟩)

theorem CompletedSync.runsForLast
    (sync : CompletedSync platform env cr indexes cluster after)
    (henabled : cr.observatoriumDisabled = false)
    (habsent : oauth2Secret cr sync.refreshers = none)
    (hentry : ∃ entry ∈ refresherEntries sync.completed, ∃ config,
      entry.Refreshes platform id t config) :
    RunsForLast platform cr sync.completed after id t := by
  obtain ⟨deployments, policies, -, -, hwrite⟩ :=
    run_syncTokenRefreshers_eq_ok henabled sync.writesRefreshers
  have hsecret : oauth2Secret cr sync.refreshers = oauth2Secret cr policies :=
    (writesKinds_reconcileTokenRefresher _).find_eq hwrite (by decide) _
  rw [habsent] at hsecret
  obtain ⟨front, entry, back, config, deployment, hsplit, hconfig, hback,
    hdeployment⟩ :=
      runsForLast_of_run_reconcileTokenRefresher hsecret.symm hwrite hentry
  refine ⟨front, entry, back, config, deployment, hsplit, hconfig, hback, ?_⟩
  rw [sync.framed _ _ (by simp [RestWrites, restKinds, resourceKinds,
    promtailKinds]), hdeployment]

end Refreshers

/-! ## The targets -/

/-- The telemetry of an index is sent by way of the id of its Observatorium:
through the refresher that runs for the last entry with the id, or with the
token that is stored for the id. -/
def SentById (setting : TokenSetting) (completed : List RepositoryIndex)
    (visited : List Cluster) (after : Cluster) (index : RepositoryIndex)
    (target : RemoteWriteTarget) : Prop :=
  ∃ observatorium, metricsObservatorium index = some observatorium ∧
    (observatorium.authType = .redhat →
      ∀ name ns, target.spec.url = .service name ns →
        name = getTokenRefresherName observatorium.id .metrics ∧
          ns = setting.cr.getPrometheusOperatorNamespace ∧
          ((∃ own, getTokenRefresherConfigSetFor setting.platform .metrics
              observatorium = .ok (some own)) →
            RunsForLast setting.platform setting.cr completed after
              observatorium.id .metrics)) ∧
    (observatorium.authType = .dex →
      target.tokenSecret = getObservatoriumTokenSecretName observatorium ∧
        ∀ token, StoredToken setting.cr after observatorium.id token →
          setting.Origin visited observatorium.id token)

section Sync

variable {platform : Platform} {env : Surroundings}
  {cr : Observability} {indexes : List RepositoryIndex}
  {cluster after : Cluster}

theorem exists_refresherEntry {completed : List RepositoryIndex}
    {index : RepositoryIndex} {observatorium : ObservatoriumIndex}
    (hindex : index ∈ completed)
    (hmetrics : metricsObservatorium index = some observatorium) :
    ∃ promtailEnabled,
      ⟨promtailEnabled, observatorium⟩ ∈ refresherEntries completed := by
  have hmem : observatorium ∈ index.observatoria := by
    unfold metricsObservatorium at hmetrics
    split at hmetrics
    next => cases hmetrics
    next =>
      split at hmetrics
      next => cases hmetrics
      next => exact List.mem_of_find?_eq_some hmetrics
  unfold RepositoryIndex.observatoria at hmem
  split at hmem
  next config hconfig =>
    refine ⟨config.promtailEnabled, List.mem_flatMap.mpr ⟨index, hindex, ?_⟩⟩
    rw [RepositoryIndex.refresherEntries, hconfig]
    exact List.mem_map_of_mem hmem
  next => cases hmem

/-- Every target that a sync writes is served by way of its id. -/
theorem telemetry_sentById (hfaultless : env.environment.Faultless)
    (hsources : Sourced cluster indexes)
    (hrun : env.run (configure platform cr indexes) cluster = (.ok (), after)) :
    ∃ (sync : CompletedSync platform env cr indexes cluster after)
      (written : TargetsWritten cr (oauth2Secret cr sync.refreshers)
        sync.completed after),
      ∀ index target,
        (index, some target) ∈ sync.completed.zip written.found →
          SentById ⟨platform, env, cr,
              indexes.flatMap RepositoryIndex.observatoria, cluster⟩
            sync.completed
            ((configure platform cr indexes).visited
              (serve env.environment) cluster) after index target := by
  obtain ⟨sync⟩ := exists_completedSync hrun
  obtain ⟨written⟩ := sync.exists_targetsWritten hfaultless
  refine ⟨sync, written, fun index target hpair => ?_⟩
  cases hdisabled : cr.observatoriumDisabled with
  | true =>
    rw [written.disabled hdisabled, List.zip_nil_right] at hpair
    cases hpair
  | false =>
    have hindex := (List.of_mem_zip hpair).1
    have htarget := (List.forall₂_iff_zip.mp
      (written.enabled hdisabled)).2 hpair
    cases htarget with
    | dex hmetrics htype =>
      refine ⟨_, hmetrics, fun hother => by simp [htype] at hother,
        fun _ => ⟨rfl, fun token hstored => ?_⟩⟩
      exact origin_of_storedToken hsources hrun hstored
    | @refresher observatorium _ hmetrics htype habsent hurl _ =>
      refine ⟨observatorium, hmetrics, fun _ name ns hname => ?_,
        fun hother => by simp [htype] at hother⟩
      obtain ⟨rfl, rfl⟩ := TargetUrl.service.inj (hurl.symm.trans hname)
      refine ⟨rfl, rfl, fun hown => ?_⟩
      obtain ⟨own, hown⟩ := hown
      obtain ⟨promtailEnabled, hentry⟩ :=
        exists_refresherEntry hindex hmetrics
      refine sync.runsForLast hdisabled habsent ⟨_, hentry, own, htype, rfl, ?_⟩
      simp [RefresherEntry.configSet?, hown]
    | @gateway observatorium _ hmetrics htype _ hurl _ =>
      refine ⟨observatorium, hmetrics, fun _ name ns hname => ?_,
        fun hother => by simp [htype] at hother⟩
      cases hurl.symm.trans hname

end Sync

/-! ## Two entries with one id -/

def sharedObservatorium (gateway : String) : ObservatoriumIndex :=
  { plainObservatorium "shared" "" with gateway := gateway }

def sharingIndexes : List RepositoryIndex :=
  [syncedIndex "first" "shared" [sharedObservatorium "https://first"],
    syncedIndex "second" "shared" [sharedObservatorium "https://second"]]

def sharedConfigSet (gateway : String) : TokenRefresherConfigSet where
  observatoriumUrl := gateway ++ "/api/metrics/v1/tenant/api/v1/receive"
  authUrl := "https://ssorealms/realm"
  name := "token-refresher-metrics-shared"
  realm := "realm"
  client := "metrics"
  tenant := "tenant"
  secret := "secret"
  type := .metrics

def sharingSync : Except (Abort ApiError) Unit × Cluster :=
  answeringSurroundings.run (configure syncPlatform plainCr sharingIndexes)
    Cluster.empty

theorem sharingSync_sentById :
    ∃ (sync : CompletedSync syncPlatform answeringSurroundings plainCr
        sharingIndexes Cluster.empty sharingSync.2)
      (written : TargetsWritten plainCr
        (oauth2Secret plainCr sync.refreshers) sync.completed
        sharingSync.2),
      ∀ index target,
        (index, some target) ∈ sync.completed.zip written.found →
          SentById ⟨syncPlatform, answeringSurroundings, plainCr,
              sharingIndexes.flatMap RepositoryIndex.observatoria,
              Cluster.empty⟩ sync.completed
            ((configure syncPlatform plainCr sharingIndexes).visited
              (serve answeringSurroundings.environment) Cluster.empty)
            sharingSync.2 index target := by
  refine telemetry_sentById (fun _ _ => rfl) ?_ (Prod.ext rfl rfl)
  intro index hindex source hsource
  have hnone : ∀ other ∈ sharingIndexes, other.source = none := by decide
  rw [hnone index hindex] at hsource
  cases hsource

/-- The Deployment behind the target of the first index sends to the gateway
of the second. -/
theorem sharingSync_not_own :
    sharingSync.1 = .ok () ∧
      (sharingSync.2.find .prometheus (getPrometheus plainCr)).map
          (fun prometheus => prometheus.spec.remoteWrite.map fun target =>
            (target.name, target.url)) =
        some [("first",
            .service "token-refresher-metrics-shared" "managed"),
          ("second",
            .service "token-refresher-metrics-shared" "managed")] ∧
      getTokenRefresherConfigSetFor syncPlatform .metrics
          (sharedObservatorium "https://first") =
        .ok (some (sharedConfigSet "https://first")) ∧
      (sharingSync.2.find .deployment
          ⟨"managed", "token-refresher-metrics-shared"⟩).map
          (fun deployment => deployment.spec.pod.containers) ≠
        some [tokenRefresherContainer (sharedConfigSet "https://first")] := by
  refine ⟨rfl, rfl, ?_, by decide⟩
  decide

end ObservabilityOperator
