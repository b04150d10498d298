import ObservabilityOperator.CleanupStages
import ObservabilityOperator.CompletedSync
import ObservabilityOperator.NameMigration
import ObservabilityOperator.RequestedResources

/-!
# Stages of an installation that succeed

For every custom resource there are clusters in which the stages before the
configuration stage succeed one by one, but for the logging stage, which cannot
do without the section of the self-contained mode.
-/

namespace ObservabilityOperator

open Program

theorem faultless_answering : answeringSurroundings.environment.Faultless :=
  fun _ _ => rfl

/-- Nothing fails, every request is answered, and of the cluster the objects of
these kinds are known. -/
abbrev RunsOn {α : Type} (kinds : List Kind) (start : Cluster)
    (program : Go α) (Returns : α → Prop) : Prop :=
  program.Completes (serve answeringSurroundings.environment)
    (World.AgreesIn kinds start) Returns

section Steps

variable {kinds : List Kind} {start : Cluster} {kind : Kind}
  {key service : ObjectKey} {ns name : String} {cr : Observability}
  {platform : Platform}

theorem RunsOn.exists_run {program : Go ObservabilityStageStatus}
    (hruns : RunsOn kinds start program Succeeds) (memory : Memory) :
    ∃ after, answeringSurroundings.run program
      { start with memory := memory } = (.ok .success, after) := by
  obtain ⟨_, after, hrun, rfl, -⟩ :=
    hruns { start with memory := memory } fun _ _ => rfl
  exact ⟨after, hrun⟩

theorem runsOn_upsert (hkind : kind ∉ kinds) {blank : Resource kind.Spec}
    {change : Resource kind.Spec → Resource kind.Spec} :
    RunsOn kinds start (upsert kind key blank change) fun _ => True :=
  completes_upsert faultless_answering hkind

theorem runsOn_delete (hkind : kind ∉ kinds) :
    RunsOn kinds start (Client.deleteIfFound kind key) fun _ => True :=
  completes_deleteIfFound faultless_answering (absurd · hkind) key

theorem runsOn_listFound (kind : Kind) (options : ListOptions) :
    RunsOn kinds start (Client.listFound kind options) fun items =>
      kind ∈ kinds → items = start.select kind options := by
  intro world hworld
  refine ⟨world.select kind options, world.advance, rfl, fun hkind => ?_,
    hworld⟩
  rw [World.select, hworld kind hkind, World.select]

variable {deployment : Resource DeploymentSpec}
  {version : Resource ClusterVersionSpec}

theorem runsOn_waitForOperator (hkind : Kind.deployment ∈ kinds)
    (hfind : start.find .deployment ⟨ns, name⟩ = some deployment)
    (hready : deployment.spec.readyReplicas > 0) :
    RunsOn kinds start (waitForOperator ns name) Succeeds := by
  refine completes_list faultless_answering fun items hitems => ?_
  rw [hitems hkind]
  have hany : ((start.select .deployment { ns := some ns }).any fun item =>
      item.1.name == name && item.2.spec.readyReplicas > 0) = true := by
    refine List.any_eq_true.mpr ⟨(⟨ns, name⟩, deployment), ?_, by simpa⟩
    exact (start.mem_select_iff _ _ _ _).mpr
      ⟨hfind, by simp [ListOptions.selects]⟩
  refine completes_done ?_
  rw [hany]
  rfl

theorem runsOn_hasOperatorGroup :
    RunsOn kinds start (hasOperatorGroupForNamespace ns) fun _ => True :=
  completes_list faultless_answering fun _ _ => completes_done trivial

theorem runsOn_reconcileRoute (hkind : Kind.route ∈ kinds)
    (hfind : start.find .route key = some (routed service Kind.route.blank)) :
    RunsOn kinds start (reconcileRoute key service) fun _ => True := by
  refine .bind (Completes.attempt (completes_upsert_of_find
    faultless_answering hkind hfind rfl)) ?_
  rintro _ ⟨_, -, rfl⟩
  exact completes_done trivial

theorem runsOn_waitForRoute (hkind : Kind.route ∈ kinds)
    (hfind : start.find .route key = some (routed service Kind.route.blank)) :
    RunsOn kinds start (waitForRoute key) Succeeds := by
  refine (completes_get faultless_answering _ _).bind fun reply hreply => ?_
  rw [hreply.1 hkind, World.read, hfind]
  exact completes_done rfl

/-! ## The stages -/

theorem runsOn_prometheusInstallation (hfind : start.find .deployment
      ⟨cr.getPrometheusOperatorNamespace, "prometheus-operator"⟩ =
        some deployment) (hready : deployment.spec.readyReplicas > 0) :
    RunsOn [.deployment] start (PrometheusInstallation.reconcile cr)
      Succeeds := by
  have hunwanted : RunsOn [.deployment] start
      (PrometheusInstallation.removeUnwanted cr) fun _ => True :=
    completes_get_bind faultless_answering (fun _ => completes_done trivial)
      (.andThen (runsOn_delete (by decide)) fun _ => runsOn_delete (by decide))
  refine .andThen ?_ fun _ => .andThen (.andThen hunwanted fun _ =>
    .discard (runsOn_upsert (by decide))) fun _ =>
    .andThen (.discard (runsOn_upsert (by decide))) fun _ =>
    .andThen (.andThen runsOn_hasOperatorGroup fun found => ?_) fun _ =>
      runsOn_waitForOperator (by decide) hfind hready
  · unfold PrometheusInstallation.reconcileNamespace
    split
    · exact .discard (runsOn_upsert (by decide))
    · exact completes_done trivial
  · cases found with
    | true => exact completes_done trivial
    | false => exact .discard (runsOn_upsert (by decide))

theorem runsOn_fetchClusterId (hkind : Kind.clusterVersion ∈ kinds)
    (hfind : start.find .clusterVersion ⟨"", "version"⟩ = some version) :
    RunsOn kinds start (PrometheusConfiguration.fetchClusterId cr)
      fun _ => True := by
  have hassign (clusterId : String) :
      RunsOn kinds start (assignClusterId clusterId) fun _ => True :=
    completes_perform fun _ _ => trivial
  unfold PrometheusConfiguration.fetchClusterId
  split
  · exact completes_done trivial
  · split
    · exact hassign _
    · refine (completes_get faultless_answering _ _).bind fun reply hreply => ?_
      rw [hreply.1 hkind, World.read, hfind]
      exact hassign _

theorem runsOn_prometheusConfiguration
    (hroute : start.find .route (getPrometheusRoute cr) =
      some (routed (PrometheusConfiguration.getPrometheusService cr)
        Kind.route.blank))
    (hversion : start.find .clusterVersion ⟨"", "version"⟩ = some version) :
    RunsOn [.route, .clusterVersion] start
      (PrometheusConfiguration.reconcile platform cr) Succeeds := by
  refine .andThen (.discard (runsOn_upsert (by decide))) fun _ =>
    .andThen (.discard (runsOn_upsert (by decide))) fun _ =>
    .andThen (.discard (runsOn_upsert (by decide))) fun _ =>
    .andThen (.discard (runsOn_upsert (by decide))) fun _ =>
    .andThen (.discard (runsOn_upsert (by decide))) fun _ =>
    .andThen (runsOn_reconcileRoute (by decide) hroute) fun _ =>
    .bind (runsOn_waitForRoute (by decide) hroute) ?_
  rintro _ rfl
  exact .andThen (runsOn_fetchClusterId (by decide) hversion) fun _ =>
    .andThen (.discard (runsOn_upsert (by decide))) fun _ => completes_done rfl

theorem runsOn_alertmanagerInstallation
    (hroute : start.find .route (getAlertmanagerRoute cr) =
      some (routed (getAlertmanagerService cr) Kind.route.blank)) :
    RunsOn [.route] start (AlertmanagerInstallation.reconcile platform cr)
      Succeeds :=
  .andThen (.discard (runsOn_upsert (by decide))) fun _ =>
  .andThen (.discard (runsOn_upsert (by decide))) fun _ =>
  .andThen (.discard (runsOn_upsert (by decide))) fun _ =>
  .andThen (.discard (runsOn_upsert (by decide))) fun _ =>
  .andThen (.discard (runsOn_upsert (by decide))) fun _ =>
  .andThen (runsOn_reconcileRoute (by decide) hroute) fun _ =>
    runsOn_waitForRoute (by decide) hroute

theorem runsOn_grafanaConfiguration :
    RunsOn [] start (GrafanaConfiguration.reconcile platform cr) Succeeds := by
  unfold GrafanaConfiguration.reconcile
  split
  · exact completes_done rfl
  · exact .andThen (.discard (runsOn_upsert (by decide))) fun _ =>
      .andThen (.discard (runsOn_upsert (by decide))) fun _ =>
      .andThen (.discard (runsOn_upsert (by decide))) fun _ =>
      .andThen (.discard (runsOn_upsert (by decide))) fun _ => completes_done rfl

theorem runsOn_promtailInstallation :
    RunsOn [] start (PromtailInstallation.reconcile cr) Succeeds := by
  unfold PromtailInstallation.reconcile
  split
  · exact completes_done rfl
  · exact .andThen (.discard (runsOn_upsert (by decide))) fun _ =>
      .andThen (.discard (runsOn_upsert (by decide))) fun _ =>
      .andThen (.discard (runsOn_upsert (by decide))) fun _ =>
        completes_done rfl

/-- An old subscription has to be gone first, and there is none. -/
theorem exists_run_grafanaInstallation (hnone : start.objects .subscription = ∅)
    (hfind : start.find .deployment ⟨cr.ns, "grafana-operator"⟩ =
      some deployment) (hready : deployment.spec.readyReplicas > 0)
    (memory : Memory) :
    ∃ after, answeringSurroundings.run (GrafanaInstallation.reconcile cr)
      { start with memory := memory } = (.ok .success, after) := by
  have hinstalls : RunsOn [.deployment] start
      ((GrafanaInstallation.reconcileCatalogSource cr).bind fun _ =>
        (GrafanaInstallation.reconcileSubscription cr).bind fun _ =>
          (GrafanaInstallation.reconcileOperatorgroup cr).bind fun _ =>
            waitForOperator cr.ns "grafana-operator") Succeeds := by
    refine .andThen (.discard (runsOn_upsert (by decide))) fun _ =>
      .andThen (.discard (runsOn_upsert (by decide))) fun _ =>
      .andThen (.andThen runsOn_hasOperatorGroup fun found => ?_) fun _ =>
        runsOn_waitForOperator (by decide) hfind hready
    cases found with
    | true => exact completes_done trivial
    | false => exact .discard (runsOn_upsert (by decide))
  unfold GrafanaInstallation.reconcile
  split
  · exact ⟨_, rfl⟩
  · have hold : answeringSurroundings.run
        (GrafanaInstallation.deleteUnrequestedSubscriptions cr)
        { start with memory := memory } =
          (.ok .success, { start with memory := memory }.advance) := by
      have hselect : ({ start with memory := memory } : Cluster).select
          .subscription { ns := some cr.ns } = [] := by
        rw [World.select, hnone]
        rfl
      unfold GrafanaInstallation.deleteUnrequestedSubscriptions
      rw [bind_eq_bind, Surroundings.run, run_list_bind, hselect]
      rfl
    obtain ⟨_, after, hrun, rfl, -⟩ := hinstalls
      { start with memory := memory }.advance fun _ _ => rfl
    exact ⟨after, (run_bind_ok hold).trans hrun⟩

theorem runsOn_csv (hnone : start.objects .clusterServiceVersion = ∅) :
    RunsOn [.clusterServiceVersion] start (CsvStage.reconcile cr) Succeeds := by
  refine (runsOn_listFound _ _).bind fun items hitems => ?_
  have hempty : start.select .clusterServiceVersion { ns := some cr.ns } =
      [] := by
    rw [World.select, hnone]
    rfl
  rw [hitems (by decide), hempty]
  exact completes_done rfl

theorem runsOn_loggingInstallation
    (hnone : start.find .nameSpace
      ⟨"", LoggingInstallation.loggingNamespace⟩ = none)
    (hsection : cr.descopedModeEnabled = true ∨ cr.spec.selfContained ≠ none) :
    RunsOn [.nameSpace] start (LoggingInstallation.reconcile cr) Succeeds := by
  have hmode : RunsOn [.nameSpace] start
      (LoggingInstallation.selfContainedMode cr) fun _ => True :=
    completes_get_bind faultless_answering (fun _ => completes_done trivial)
      (completes_done trivial)
  unfold LoggingInstallation.reconcile
  split
  · exact completes_done rfl
  next hscoped =>
    obtain ⟨selfContained, hsome⟩ :=
      Option.ne_none_iff_exists'.mp (hsection.resolve_left hscoped)
    refine hmode.bind fun mode _ => ?_
    split
    · exact completes_done rfl
    · rw [hsome]
      change RunsOn _ _ (if selfContained.disableLogging = some true then _
        else _) _
      split
      · exact completes_done rfl
      · refine (completes_get faultless_answering _ _).bind
          fun reply hreply => ?_
        rw [hreply.1 (by decide), World.read, hnone]
        exact completes_done rfl

theorem exists_run_migration (cr : Observability) (cluster : Cluster) :
    ∃ after, answeringSurroundings.run
      (Migration.reconcile cr cluster.memory.migrated) cluster =
        (.ok .success, after) ∧ after.memory.migrated = true := by
  cases hmigrated : cluster.memory.migrated with
  | true => exact ⟨cluster, rfl, hmigrated⟩
  | false =>
    obtain ⟨_, removed, hrun, -⟩ :=
      Migration.removes_removeAll.runs faultless_answering cluster trivial
    rw [Migration.reconcile_false]
    exact ⟨_, (run_bind_ok hrun).trans rfl, rfl⟩

end Steps

/-! ## The configuration stage -/

def emptyIndexPlatform : Platform :=
  { syncPlatform with
    unmarshalIndex := fun _ => .ok ("first", (syncedIndex "" "" []).config) }

/-- A secret that the selector finds, in a namespace that holds no tokens. -/
def configurationKey (cr : Observability) : ObjectKey :=
  ⟨cr.ns ++ "-configuration", "configuration"⟩

def configurationSecret (selector : LabelSelector) : Resource SecretSpec where
  labels := selector.matchLabels
  spec := { data := [("repository", "https://api.github.com")] }

def configurationCluster (cr : Observability) (selector : LabelSelector) :
    Cluster :=
  Cluster.empty.put .secret (configurationKey cr) (configurationSecret selector)

def emptyIndex (cr : Observability) (selector : LabelSelector) :
    RepositoryIndex :=
  { syncedIndex "first" "" [] with
    baseUrl := emptyIndexPlatform.urlString
      { host := "https://api.github.com" ++ "/" ++ "" }
    source := some ⟨configurationKey cr, configurationSecret selector⟩ }

def emptyIndexes (cr : Observability) (selector : LabelSelector) :
    List RepositoryIndex :=
  if cr.externalSyncDisabled then [] else [emptyIndex cr selector]

/-- There is no deployment, policy or claim that a sync could stumble over. -/
abbrev Configures {α : Type} (program : Go α) (Returns : α → Prop) : Prop :=
  RunsOn [.deployment, .networkPolicy, .persistentVolumeClaim] .empty program
    Returns

section Configuration

variable {cr : Observability} {selector : LabelSelector}

theorem mem_emptyIndexes {index : RepositoryIndex}
    (hindex : index ∈ emptyIndexes cr selector) :
    index = emptyIndex cr selector := by
  unfold emptyIndexes at hindex
  split at hindex
  · cases hindex
  · exact List.mem_singleton.mp hindex

theorem configures_completeIndexes :
    Configures (completeIndexes emptyIndexPlatform cr
      (emptyIndexes cr selector)) (· = emptyIndexes cr selector) := by
  refine (Completes.collect (f := id) fun index hindex => ?_).mono
    fun _ hvalues => hvalues.trans (List.map_id _)
  have hdone : reconcileObservatoria emptyIndexPlatform cr
      (emptyIndex cr selector) = .done (emptyIndex cr selector, .ok ()) := by
    simp [reconcileObservatoria, emptyIndex, syncedIndex]
  rw [mem_emptyIndexes hindex, completeObservatoria, hdone]
  change Configures ((stampConfigSource _).bind _) _
  exact .andThen (.discard (completes_update (by decide) _)) fun _ =>
    completes_done rfl

theorem configures_getOauth2ConfigSecret :
    Configures (getOauth2ConfigSecret cr) fun _ => True :=
  completes_get_bind faultless_answering (fun _ => completes_done trivial)
    (completes_done trivial)

theorem configures_deleteUnrequested {platform : Platform} {kind : Kind}
    {render : String → String} {indexes : List RepositoryIndex}
    (hkind : kind ∈ [Kind.deployment, .networkPolicy,
      .persistentVolumeClaim]) :
    Configures (deleteUnrequested platform kind render cr indexes)
      fun _ => True := by
  refine completes_list faultless_answering fun items hitems => ?_
  rw [hitems hkind]
  change Configures ((getOauth2ConfigSecret cr).bind _) _
  exact .andThen configures_getOauth2ConfigSecret fun _ => completes_done trivial

theorem configures_syncTokenRefreshers :
    Configures (syncTokenRefreshers emptyIndexPlatform cr
      (emptyIndexes cr selector)) fun _ => True := by
  refine .andThen (.wrapping (configures_deleteUnrequested (by decide)))
    fun _ => .andThen (.wrapping (configures_deleteUnrequested (by decide)))
      fun _ => ?_
  split
  · exact completes_done trivial
  · refine .wrapping (.forEach fun index hindex => ?_)
    rw [mem_emptyIndexes hindex]
    exact completes_done trivial

theorem configures_syncAlertmanagerSecret :
    Configures (syncAlertmanagerSecret emptyIndexPlatform cr
      (emptyIndexes cr selector)) fun _ => True := by
  unfold syncAlertmanagerSecret
  split
  · exact completes_done trivial
  next hsyncs =>
    have hindexes : emptyIndexes cr selector = [emptyIndex cr selector] :=
      if_neg fun hsync => hsyncs (by simp [hsync])
    rw [hindexes]
    refine .wrapping (.andThen (.andThen ?_ fun _ => .andThen ?_ fun _ =>
      completes_done trivial) fun _ => .discard (runsOn_upsert (by decide)))
    · unfold createGlobalConfig
      split <;> exact completes_done trivial
    · refine (Completes.andThen ?_ fun _ => completes_done trivial)
      unfold addIntegrations
      cases cr.pagerDutyDisabled <;> cases cr.deadMansSnitchDisabled <;>
        exact completes_done trivial

theorem configures_fetchFederationConfigs :
    Configures (fetchFederationConfigs emptyIndexPlatform cr
      (emptyIndexes cr selector)) fun _ => True := by
  unfold fetchFederationConfigs emptyIndexes
  split
  next hsync =>
    obtain ⟨selfContained, hsome, -⟩ :=
      Observability.exists_of_externalSyncDisabled hsync
    rw [hsome]
    exact completes_done trivial
  next => exact completes_done trivial

theorem configures_createBlackBoxConfig :
    Configures (createBlackBoxConfig emptyIndexPlatform cr) fun _ => True := by
  refine .andThen (.andThen ?_ fun _ => completes_done trivial) fun _ =>
    .andThen (runsOn_upsert (by decide)) fun _ => completes_done trivial
  unfold getBlackboxBearerToken
  split
  · exact completes_done trivial
  · exact completes_get_bind faultless_answering
      (fun _ => completes_done trivial) (completes_done trivial)

theorem configures_getRouteHost {key : ObjectKey} :
    Configures (getRouteHost key) fun _ => True :=
  completes_get_bind faultless_answering (fun _ => completes_done trivial)
    (completes_done trivial)

theorem configures_reconcileAlertmanager {indexes : List RepositoryIndex} :
    Configures (reconcileAlertmanager emptyIndexPlatform cr indexes)
      fun _ => True := by
  refine .andThen configures_getRouteHost fun _ => .discard
    (completes_createOrUpdate faultless_answering (by decide) fun _ _ _ => ?_)
  split
  · exact completes_done trivial
  · unfold getAlertManagerStorageSpecHelper
    dsimp only
    split <;> exact completes_done trivial

theorem configures_remoteWriteTargets :
    Configures (remoteWriteTargets emptyIndexPlatform cr
      (emptyIndexes cr selector)) fun _ => True := by
  unfold remoteWriteTargets
  split
  · exact completes_done trivial
  · refine .andThen (.mono (.collect (f := fun _ => none) fun index hindex => ?_)
      fun _ _ => trivial) fun _ => completes_done trivial
    rw [mem_emptyIndexes hindex]
    exact fun state hstate => ⟨none, state.advance, rfl, rfl, hstate⟩

theorem runsOn_prometheusStorage {start : Cluster} {kinds : List Kind}
    {indexes : List RepositoryIndex} (hkind : .persistentVolumeClaim ∈ kinds)
    (hnone : start.objects .persistentVolumeClaim = ∅) :
    RunsOn kinds start (prometheusStorage emptyIndexPlatform cr indexes)
      fun _ => True := by
  unfold prometheusStorage
  split
  · exact completes_done trivial
  · have hempty : start.select .persistentVolumeClaim
        { ns := some cr.getPrometheusOperatorNamespace } = [] := by
      rw [World.select, hnone]
      rfl
    have hclaims : RunsOn kinds start (existingPVC cr) (· = (false, "")) := by
      refine completes_list faultless_answering fun items hitems => ?_
      rw [hitems hkind, hempty]
      exact completes_done rfl
    refine hclaims.bind ?_
    rintro _ rfl
    unfold getPrometheusStorageSpecHelper
    simp only [Bool.false_eq_true, if_false]
    split
    · exact completes_done trivial
    · split <;> exact completes_done trivial

theorem configures_reconcilePrometheus {hash : String} :
    Configures (reconcilePrometheus emptyIndexPlatform cr
      (emptyIndexes cr selector) hash) fun _ => True :=
  .andThen configures_getRouteHost fun _ =>
  .andThen configures_remoteWriteTargets fun _ =>
  .andThen (completes_createOrUpdate faultless_answering (by decide)
    fun _ before hbefore => .andThen (completes_perform fun _ _ => trivial)
      fun _ => .andThen (runsOn_prometheusStorage (by decide)
        (hbefore _ (by decide))) fun _ => completes_done trivial)
    fun _ => completes_deleteIfFound faultless_answering (fun _ => rfl) _

theorem configures_reconcileGrafanaCr :
    Configures (reconcileGrafanaCr emptyIndexPlatform cr
      (emptyIndexes cr selector)) fun _ => True := by
  refine .andThen (.andThen ?_ fun _ => ?_) fun _ =>
    .discard (runsOn_upsert (by decide))
  · unfold emptyIndexes
    split <;> exact completes_done trivial
  · split <;> exact completes_done trivial

theorem configures_syncInstances :
    Configures (syncInstances emptyIndexPlatform cr (emptyIndexes cr selector))
      fun _ => True := by
  refine .andThen (.wrapping configures_fetchFederationConfigs) fun _ =>
    .andThen (.discard (runsOn_upsert (by decide))) fun _ =>
    .andThen configures_createBlackBoxConfig fun _ =>
    .andThen (.wrapping configures_reconcileAlertmanager) fun _ =>
    .andThen (.wrapping configures_reconcilePrometheus) fun _ => ?_
  split
  · exact completes_done trivial
  · exact .wrapping configures_reconcileGrafanaCr

theorem configures_syncResources :
    Configures (syncResources emptyIndexPlatform cr (emptyIndexes cr selector))
      fun _ => True := by
  unfold syncResources emptyIndexes
  split
  next hsync =>
    obtain ⟨selfContained, hsome, -⟩ :=
      Observability.exists_of_externalSyncDisabled hsync
    refine .wrapping ?_
    unfold createDMSAlert
    rw [hsome]
    change Configures (if _ then _ else _) _
    split
    · exact completes_done trivial
    · exact .discard (runsOn_upsert (by decide))
  next =>
    refine .andThen ?_ fun _ =>
      .andThen (.discard (.wrapping (completes_deleteUnrequestedNames
        faultless_answering (by decide) _ _))) fun _ =>
      .discard (.wrapping (completes_deleteUnrequestedNames
        faultless_answering (by decide) _ _))
    split
    · exact completes_done trivial
    · exact .discard (.wrapping (completes_deleteUnrequestedNames
        faultless_answering (by decide) _ _))

theorem configures_syncPromtail :
    Configures (syncPromtail emptyIndexPlatform cr (emptyIndexes cr selector))
      fun _ => True := by
  unfold syncPromtail
  rw [deleteUnrequestedDaemonsets_eq_prune]
  refine .andThen (.wrapping (completes_prune faultless_answering (by decide)))
    fun _ => .forEach fun index hindex => ?_
  rw [mem_emptyIndexes hindex]
  exact completes_done trivial

theorem configures_applyIndexes :
    Configures (applyIndexes emptyIndexPlatform cr (emptyIndexes cr selector))
      fun _ => True := by
  refine .andThen configures_syncTokenRefreshers fun _ =>
    .andThen configures_syncAlertmanagerSecret fun _ =>
    .andThen configures_syncInstances fun _ =>
    .andThen configures_syncResources fun _ =>
    .andThen configures_syncPromtail fun _ => ?_
  unfold assignSyncTime
  split
  · exact completes_perform fun _ _ => trivial
  · exact .andThen (completes_perform fun _ _ => trivial) fun _ =>
      completes_perform fun _ _ => trivial

/-- Up to there nothing is written. -/
abbrev Prepares {α : Type} (cr : Observability) (selector : LabelSelector)
    (program : Go α) (Returns : α → Prop) : Prop :=
  RunsOn [.secret, .alertmanager, .deployment, .networkPolicy,
    .persistentVolumeClaim] (configurationCluster cr selector) program Returns

theorem select_configurationCluster (options : ListOptions) :
    (configurationCluster cr selector).select .secret options =
      [(configurationKey cr, configurationSecret selector)].filter fun entry =>
        options.selects entry.1 entry.2 := rfl

theorem select_tokens {labels : StringMap} :
    (configurationCluster cr selector).select .secret
      { ns := some cr.ns, labels } = [] := by
  have hns : cr.ns ++ "-configuration" ≠ cr.ns := by simp
  simp [select_configurationCluster, ListOptions.selects, configurationKey, hns]

theorem prepares_isMissing {kind : Kind} {key : ObjectKey} :
    Prepares cr selector (isMissing kind key) fun _ => True :=
  completes_get_bind faultless_answering (fun _ => completes_done trivial)
    (completes_done trivial)

theorem prepares_checkForMissingCR :
    Prepares cr selector (checkForMissingCR cr) (· = true) := by
  have halertmanager : Prepares cr selector
      (isMissing .alertmanager (getAlertmanagerCr cr)) (· = true) := by
    refine (completes_get faultless_answering _ _).bind fun reply hreply => ?_
    rw [hreply.1 (by decide)]
    exact completes_done rfl
  refine halertmanager.bind ?_
  rintro _ rfl
  refine .andThen prepares_isMissing fun _ => .andThen ?_ fun _ => completes_done rfl
  split
  · exact completes_done trivial
  · exact prepares_isMissing

theorem prepares_checkSync {platform : Platform} :
    Prepares cr selector (checkSync platform cr true) (· = true) := by
  have hexpired : Prepares cr selector (tokensExpired cr) (· = false) := by
    refine completes_list faultless_answering fun items hitems => ?_
    rw [hitems (by decide), select_tokens]
    exact completes_done rfl
  refine hexpired.wrapping.bind ?_
  rintro _ rfl
  refine (prepares_checkForMissingCR.wrapping).bind ?_
  rintro _ rfl
  unfold syncIsDue
  rw [if_pos (by simp)]
  exact completes_done rfl

def configurationRepos (cr : Observability) (selector : LabelSelector) :
    List (String × RepositoryInfo) :=
  if cr.externalSyncDisabled then []
  else [("configuration", repositoryInfo (configurationSecret selector)
    (some ⟨configurationKey cr, configurationSecret selector⟩))]

theorem isGitHub_configuration (source : Option ConfigSource) :
    isGitHub (repositoryInfo (configurationSecret selector) source).repository =
      true :=
  show isGitHub "https://api.github.com" = true from rfl

theorem prepares_collectIndexes :
    Prepares cr selector (collectIndexes emptyIndexPlatform cr .given
      (configurationRepos cr selector)) (· = emptyIndexes cr selector) := by
  unfold configurationRepos emptyIndexes
  split
  · exact completes_done rfl
  · have hload : Prepares cr selector (loadIndex emptyIndexPlatform cr
        (repositoryInfo (configurationSecret selector)
          (some ⟨configurationKey cr, configurationSecret selector⟩)))
        (· = emptyIndex cr selector) := by
      unfold loadIndex readIndexFile getResourcesUrl
      rw [isGitHub_configuration]
      exact fun state hstate => ⟨_, state.advance, rfl, rfl, hstate⟩
    refine hload.bind ?_
    rintro _ rfl
    exact completes_done rfl

variable (hselector : cr.spec.configurationSelector = some selector)
  (hmatches : cr.externalSyncDisabled = true ∨
    selector.matchLabels.Matches selector.matchLabels = true)
include hselector hmatches

theorem prepares_prepareRepositories {platform : Platform} :
    Prepares cr selector (prepareRepositories platform cr)
      (· = .load (configurationRepos cr selector)) := by
  have hlist : Prepares cr selector (listConfigSecrets cr)
      (· = if cr.externalSyncDisabled then []
        else [(configurationKey cr, configurationSecret selector)]) := by
    unfold listConfigSecrets
    rw [hselector]
    change Prepares _ _ (if _ then _ else _) _
    split
    · exact completes_done rfl
    next hsync =>
      refine completes_list faultless_answering fun items hitems => ?_
      have hfound := hmatches.resolve_left hsync
      rw [hitems (by decide), select_configurationCluster,
        List.filter_cons_of_pos
          (by simpa [ListOptions.selects, configurationSecret] using hfound)]
      exact completes_done rfl
  refine hlist.bind ?_
  rintro _ rfl
  cases hsync : cr.externalSyncDisabled
  · simp [configurationRepos, hsync, collectRepositories,
      isGitHub_configuration]
    exact completes_done rfl
  · simp [configurationRepos, hsync]
    exact completes_done rfl

theorem prepares_prepare {platform : Platform} :
    Prepares cr selector (prepare platform cr true)
      (· = .load (configurationRepos cr selector)) := by
  unfold prepare
  rw [if_neg (by simp [hselector])]
  refine prepares_checkSync.bind ?_
  rintro _ rfl
  exact prepares_prepareRepositories hselector hmatches

/-- The stage succeeds, and its last part is a sync that does. -/
theorem exists_run_configuration (memory : Memory) :
    ∃ before after,
      answeringSurroundings.run
        (reconcileStage emptyIndexPlatform .given cr true)
        { configurationCluster cr selector with memory := memory } =
          (.ok .success, after) ∧
      answeringSurroundings.run
        (configure emptyIndexPlatform cr (emptyIndexes cr selector)) before =
          (.ok (), after) := by
  have hdelete : Prepares cr selector (deleteUnrequestedCredentialSecrets cr
      (emptyIndexes cr selector)) fun _ => True := by
    refine completes_list faultless_answering fun items hitems => ?_
    rw [hitems (by decide), select_tokens]
    exact completes_done trivial
  obtain ⟨_, prepared, hprepare, rfl, hprepared⟩ :=
    prepares_prepare hselector hmatches
      { configurationCluster cr selector with memory := memory } fun _ _ => rfl
  obtain ⟨_, loaded, hload, rfl, hloaded⟩ :=
    prepares_collectIndexes prepared hprepared
  obtain ⟨_, cleared, hclear, -, hcleared⟩ := hdelete loaded hloaded
  have hempty : World.AgreesIn [.deployment, .networkPolicy,
      .persistentVolumeClaim] Cluster.empty cleared := by
    intro kind hkind
    simp only [List.mem_cons, List.not_mem_nil, or_false] at hkind
    rcases hkind with rfl | rfl | rfl <;> exact hcleared _ (by decide)
  obtain ⟨_, completed, hcomplete, rfl, hcompleted⟩ :=
    configures_completeIndexes cleared hempty
  obtain ⟨_, after, happly, -⟩ := configures_applyIndexes completed hcompleted
  have hconfigure : answeringSurroundings.run
      (configure emptyIndexPlatform cr (emptyIndexes cr selector)) loaded =
        (.ok (), after) :=
    (run_bind_ok hclear).trans ((run_bind_ok hcomplete).trans happly)
  exact ⟨loaded, after, (run_bind_ok hprepare).trans
    ((run_bind_ok hload).trans ((run_bind_ok hconfigure).trans rfl)),
    hconfigure⟩

end Configuration

/-! ## All stages -/

def readyDeployment : Resource DeploymentSpec :=
  { Kind.deployment.blank with spec := { readyReplicas := 1 } }

/-- A cluster in which the stage succeeds. -/
def stageCluster (cr : Observability) (selector : LabelSelector) :
    ObservabilityStageName → Cluster
  | .prometheusInstallation => Cluster.empty.put .deployment
      ⟨cr.getPrometheusOperatorNamespace, "prometheus-operator"⟩
      readyDeployment
  | .prometheusConfiguration =>
    (Cluster.empty.put .clusterVersion ⟨"", "version"⟩
      Kind.clusterVersion.blank).put .route (getPrometheusRoute cr)
        (routed (PrometheusConfiguration.getPrometheusService cr)
          Kind.route.blank)
  | .grafanaInstallation => Cluster.empty.put .deployment
      ⟨cr.ns, "grafana-operator"⟩ readyDeployment
  | .alertmanagerInstallation => Cluster.empty.put .route
      (getAlertmanagerRoute cr)
      (routed (getAlertmanagerService cr) Kind.route.blank)
  | .configuration => configurationCluster cr selector
  | _ => .empty

theorem exists_run_component {cr : Observability} {selector : LabelSelector}
    {stage : ObservabilityStageName} (hstage : stage ≠ .configuration)
    (hsection : cr.descopedModeEnabled = true ∨ cr.spec.selfContained ≠ none)
    (memory : Memory) :
    ∃ after, answeringSurroundings.run
      ((getReconcilerForStage emptyIndexPlatform .given stage).reconcile cr
        memory.migrated)
      { stageCluster cr selector stage with memory := memory } =
        (.ok .success, after) := by
  cases stage with
  | tokenRequest => exact ⟨_, rfl⟩
  | prometheusInstallation =>
    exact (runsOn_prometheusInstallation (World.find_put_self _ _ _ _)
      (by decide)).exists_run memory
  | prometheusConfiguration =>
    exact (runsOn_prometheusConfiguration (World.find_put_self _ _ _ _)
      rfl).exists_run memory
  | grafanaInstallation =>
    exact exists_run_grafanaInstallation rfl (World.find_put_self _ _ _ _)
      (by decide) memory
  | grafanaConfiguration => exact runsOn_grafanaConfiguration.exists_run memory
  | alertmanagerInstallation =>
    exact (runsOn_alertmanagerInstallation
      (World.find_put_self _ _ _ _)).exists_run memory
  | promtailInstallation => exact runsOn_promtailInstallation.exists_run memory
  | loggingInstallation =>
    exact (runsOn_loggingInstallation rfl hsection).exists_run memory
  | csv => exact (runsOn_csv rfl).exists_run memory
  | migration =>
    exact (exists_run_migration cr { Cluster.empty with memory }).imp
      fun _ => And.left
  | configuration => exact absurd rfl hstage

end ObservabilityOperator
