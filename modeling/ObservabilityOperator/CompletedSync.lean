import ObservabilityOperator.StageFootprints

/-!
# A sync that completes

A sync that returns no error has gone through all of its parts.  The states
between the parts are collected here, together with what the parts around the
Prometheus and the daemon sets leave alone, so that a result about the cluster
after a sync can be put together from the parts that matter for it.
-/

namespace ObservabilityOperator

open Program

def RestFramed (cr : Observability) (before after : Cluster) : Prop :=
  ∀ kind key, ¬ RestWrites cr kind key →
    after.find kind key = before.find kind key

section Frames

variable {cr : Observability} {env : Surroundings}
  {first second third : Cluster}

theorem RestFramed.trans (hfirst : RestFramed cr first second)
    (hsecond : RestFramed cr second third) : RestFramed cr first third :=
  fun kind key hkey => (hsecond kind key hkey).trans (hfirst kind key hkey)

theorem restFramed_of_run {α : Type} {program : Go α}
    {result : Except (Abort ApiError) α}
    (huses : program.Uses (ApiCall.WritesOnly (RestWrites cr)))
    (hrun : env.run program first = (result, second)) :
    RestFramed cr first second :=
  fun _ _ hkey => Surroundings.find_of_writesOnly hrun huses hkey

theorem not_restWrites_secret {ns name : String}
    (hname : name.toList.head? ≠ some 'a') :
    ¬ RestWrites cr .secret ⟨ns, name⟩ := by
  rintro (hkind | ⟨-, hkey | hkey⟩)
  · exact absurd hkind (by decide)
  · obtain rfl := congrArg ObjectKey.name hkey
    have halertmanager : "alertmanager-".toList =
        'a' :: "lertmanager-".toList := by simp
    simp [getAlertmanagerSecret, halertmanager] at hname
  · obtain rfl := congrArg ObjectKey.name hkey
    simp [getPrometheusAdditionalScrapeConfig] at hname

end Frames

/-! ## How an entry is completed -/

/-- The copies of an entry that are filled from the data of a secret.  There
is none of a Dex entry with a configuration: the function that fills it calls
itself until something fails. -/
inductive FilledFrom (data : StringMap) (entry : ObservatoriumIndex) :
    ObservatoriumIndex → Prop where
  | dex (htype : (fillFromSecret data entry).authType = .dex)
      (hnone : entry.dexConfig = none) :
      FilledFrom data entry { fillFromSecret data entry with
        dexConfig := some (dexConfigOfSecret data) }
  | redhat (htype : (fillFromSecret data entry).authType = .redhat) :
      FilledFrom data entry { fillFromSecret data entry with
        redhatSsoConfig := some (redhatSsoConfigOfSecret data) }

inductive AssignedTo (entry : ObservatoriumIndex) :
    ObservatoriumIndex → Prop where
  | own (hname : entry.secretName = "") : AssignedTo entry entry
  | filled {data : StringMap} {copy : ObservatoriumIndex}
      (hname : entry.secretName ≠ "") (hfilled : FilledFrom data entry copy) :
      AssignedTo entry copy

section Filling

variable {platform : Platform} {env : Surroundings}
  {cr : Observability} {cluster after : Cluster}
  {entry copy : ObservatoriumIndex} {depth : ℕ}

theorem unconfigured_of_run_assignFromSecret (hdex : entry.authType = .dex)
    (hrun : env.run (assignFromSecret cr depth entry) cluster =
      (.ok copy, after)) : entry.dexConfig = none := by
  induction depth generalizing entry cluster with
  | zero => cases hrun
  | succ depth ih =>
    obtain ⟨reply, read, -, hrun⟩ := run_bind_eq_ok hrun
    obtain ⟨secret, _, -, hrun⟩ := run_bind_eq_ok hrun
    have hfilled : (fillFromSecret secret.spec.data entry).authType =
        .dex := by
      simp [fillFromSecret, hdex]
    simp only [hfilled] at hrun
    split at hrun
    next =>
      have hnone := ih hfilled hrun
      exact hnone
    next hnone => exact hnone

theorem run_assignFromSecret_eq_ok
    (hrun : env.run (assignFromSecret cr depth entry) cluster =
      (.ok copy, after)) : ∃ data, FilledFrom data entry copy := by
  cases depth with
  | zero => cases hrun
  | succ depth =>
    obtain ⟨reply, read, -, hrun⟩ := run_bind_eq_ok hrun
    obtain ⟨secret, _, -, hrun⟩ := run_bind_eq_ok hrun
    dsimp only at hrun
    split at hrun
    next hdex =>
      split at hrun
      next config hconfig =>
        rw [unconfigured_of_run_assignFromSecret hdex hrun] at hconfig
        cases hconfig
      next hnone =>
        cases hrun
        exact ⟨_, .dex hdex hnone⟩
    next hredhat =>
      cases hrun
      exact ⟨_, .redhat hredhat⟩
    next => cases hrun

theorem run_transformObservatorium_eq_ok
    (hrun : env.run (transformObservatorium platform cr entry)
      cluster = (.ok copy, after)) :
    ∃ assigned, AssignedTo entry assigned ∧
      (copy = assigned ∨ assigned.authType = .dex ∧
        ∃ dexConfig, copy = { assigned with dexConfig := some dexConfig }) := by
  obtain ⟨assigned, between, hassign, hrun⟩ := run_bind_eq_ok hrun
  refine ⟨assigned, ?_, ?_⟩
  · split at hassign
    next hname =>
      obtain ⟨data, hfilled⟩ := run_assignFromSecret_eq_ok hassign
      exact .filled hname hfilled
    next hname =>
      cases hassign
      exact .own (not_not.mp hname)
  · split at hrun
    next hdex hconfig =>
      split at hrun
      next =>
        obtain ⟨completed, _, -, hdone⟩ := run_bind_eq_ok hrun
        cases hdone
        exact .inr ⟨hdex, completed, rfl⟩
      next =>
        cases hrun
        exact .inl rfl
    next =>
      cases hrun
      exact .inl rfl

theorem FilledFrom.authType_eq {data : StringMap}
    (hfilled : FilledFrom data entry copy) :
    copy.authType = entry.authType ∨ entry.authType = .unknown "" := by
  by_cases hempty : entry.authType = .unknown ""
  · exact .inr hempty
  · cases hfilled <;> exact .inl (if_neg hempty)

theorem id_of_run_transformObservatorium
    (hrun : env.run (transformObservatorium platform cr entry)
      cluster = (.ok copy, after)) : copy.id = entry.id := by
  obtain ⟨assigned, hassigned, hcopy⟩ := run_transformObservatorium_eq_ok hrun
  have hid : assigned.id = entry.id := by
    rcases hassigned with _ | ⟨_, ⟨⟩⟩ <;> rfl
  rcases hcopy with rfl | ⟨-, _, rfl⟩ <;> exact hid

end Filling
/-! ## What completing the credentials leaves alone -/

def RepositoryIndex.withoutObservatoria (index : RepositoryIndex) :
    RepositoryIndex :=
  { index with
    config := index.config.map fun config =>
      { config with observatoria := [] } }

section Completion

variable {platform : Platform} {env : Surroundings}
  {cr : Observability} {cluster after : Cluster}
  {index completed : RepositoryIndex}

theorem run_completeObservatoria_eq_ok
    (hrun : env.run (completeObservatoria platform cr index)
      cluster = (.ok completed, after)) :
    ∃ result between,
      env.run (reconcileObservatoria platform cr index) cluster =
        (.ok (completed, result), between) ∧
      ((∃ error, result = .error error ∧ after = between) ∨
        (result = .ok () ∧
          env.run (stampConfigSource completed) between =
            (.ok (), after))) := by
  obtain ⟨⟨left, result⟩, between, hreconcile, hrun⟩ := run_bind_eq_ok hrun
  cases result with
  | error error =>
    cases hrun
    exact ⟨_, _, hreconcile, .inl ⟨error, rfl, rfl⟩⟩
  | ok done =>
    obtain ⟨_, stamped, hstamp, hdone⟩ := run_bind_eq_ok hrun
    cases hdone
    exact ⟨_, _, hreconcile, .inr ⟨rfl, hstamp⟩⟩

/-- What relates an entry to itself, to what is left of it and to a completed
copy relates the entries to those that are left and to the copies. -/
theorem related_of_run_reconcileEntries
    (Related : ObservatoriumIndex → ObservatoriumIndex → Prop)
    (hrefl : ∀ entry, Related entry entry)
    (hshares : ∀ entry copy, Related entry (entry.sharing copy))
    (hcopies : ∀ entry start copy reached,
      env.run (transformObservatorium platform cr entry) start =
        (.ok copy, reached) → Related entry copy)
    {entries : List ObservatoriumIndex} {outcome : ObservatoriaOutcome}
    (hrun : env.run (reconcileEntries platform cr entries) cluster =
      (.ok outcome, after)) :
    List.Forall₂ Related entries outcome.left ∧
      ∀ copies, outcome.result = .ok copies →
        List.Forall₂ Related entries copies := by
  have hsame (rest : List ObservatoriumIndex) :
      List.Forall₂ Related rest rest :=
    List.forall₂_same.mpr fun entry _ => hrefl entry
  induction entries generalizing cluster outcome with
  | nil =>
    cases hrun
    refine ⟨.nil, fun copies hresult => ?_⟩
    cases hresult
    exact .nil
  | cons entry rest ih =>
    obtain ⟨copied, between, htransform, hrun⟩ := run_bind_eq_ok hrun
    cases copied with
    | error error =>
      cases hrun
      exact ⟨hsame _, nofun⟩
    | ok copy =>
      obtain ⟨found, stored, -, hrun⟩ := run_bind_eq_ok hrun
      cases found with
      | error error =>
        cases hrun
        exact ⟨.cons (hshares entry copy) (hsame rest), nofun⟩
      | ok done =>
        obtain ⟨others, gone, hrest, hdone⟩ := run_bind_eq_ok hrun
        cases hdone
        obtain ⟨hleft, hothers⟩ := ih hrest
        refine ⟨.cons (hshares entry copy) hleft,
          fun copies hresult => ?_⟩
        cases hcopied : others.result with
        | error error => simp [hcopied, Except.map] at hresult
        | ok copied =>
          simp only [hcopied, Except.map, Except.ok.injEq] at hresult
          subst hresult
          exact .cons (hcopies _ _ _ _
            (run_attempt_eq_ok_ok.mp htransform)) (hothers copied hcopied)

theorem related_of_run_completeObservatoria
    (Related : ObservatoriumIndex → ObservatoriumIndex → Prop)
    (hrefl : ∀ entry, Related entry entry)
    (hshares : ∀ entry copy, Related entry (entry.sharing copy))
    (hcopies : ∀ entry start copy reached,
      env.run (transformObservatorium platform cr entry) start =
        (.ok copy, reached) → Related entry copy)
    (hrun : env.run (completeObservatoria platform cr index)
      cluster = (.ok completed, after)) :
    List.Forall₂ Related index.observatoria completed.observatoria := by
  obtain ⟨result, between, hreconcile, -⟩ :=
    run_completeObservatoria_eq_ok hrun
  have hsame : List.Forall₂ Related index.observatoria index.observatoria :=
    List.forall₂_same.mpr fun entry _ => hrefl entry
  unfold reconcileObservatoria at hreconcile
  split at hreconcile
  next =>
    cases hreconcile
    exact hsame
  next config hconfig =>
    split at hreconcile
    next =>
      cases hreconcile
      exact hsame
    next =>
      obtain ⟨outcome, looked, hentries, hdone⟩ := run_bind_eq_ok hreconcile
      obtain ⟨hleft, hdecided⟩ := related_of_run_reconcileEntries Related
        hrefl hshares hcopies hentries
      rw [RepositoryIndex.observatoria, hconfig]
      split at hdone
      next copies hresult =>
        cases hdone
        exact hdecided copies hresult
      next =>
        cases hdone
        exact hleft

theorem withoutObservatoria_of_run_reconcileObservatoria
    {left : RepositoryIndex} {result : Except (GoError ApiError) Unit}
    (hrun : env.run (reconcileObservatoria platform cr index)
      cluster = (.ok (left, result), after)) :
    left.withoutObservatoria = index.withoutObservatoria := by
  unfold reconcileObservatoria at hrun
  split at hrun
  next =>
    cases hrun
    rfl
  next config hconfig =>
    split at hrun
    next =>
      cases hrun
      rfl
    next =>
      obtain ⟨outcome, looked, -, hdone⟩ := run_bind_eq_ok hrun
      split at hdone
      all_goals
        cases hdone
        simp only [RepositoryIndex.withoutObservatoria, hconfig,
          Option.map_some]

theorem withoutObservatoria_of_run_completeObservatoria
    (hrun : env.run (completeObservatoria platform cr index)
      cluster = (.ok completed, after)) :
    completed.withoutObservatoria = index.withoutObservatoria := by
  obtain ⟨result, between, hreconcile, -⟩ :=
    run_completeObservatoria_eq_ok hrun
  exact withoutObservatoria_of_run_reconcileObservatoria hreconcile

theorem withoutObservatoria_of_run_completeIndexes
    {indexes completed : List RepositoryIndex}
    (hrun : env.run (completeIndexes platform cr indexes) cluster =
      (.ok completed, after)) :
    completed.map RepositoryIndex.withoutObservatoria =
      indexes.map RepositoryIndex.withoutObservatoria := by
  have hpairs := run_collect_forall₂
    (fun (index completed : RepositoryIndex) =>
      completed.withoutObservatoria = index.withoutObservatoria)
    (fun index _ state next completed hnext =>
      withoutObservatoria_of_run_completeObservatoria hnext) hrun
  clear hrun
  induction hpairs with
  | nil => rfl
  | cons hfirst _ ih => rw [List.map_cons, List.map_cons, hfirst, ih]

end Completion

/-! ## The parts of a sync -/

/-- The states between the parts of a sync, and the indexes as they are left
when the credentials have been completed. -/
structure CompletedSync (platform : Platform) (env : Surroundings)
    (cr : Observability) (indexes : List RepositoryIndex)
    (cluster after : Cluster) where
  completed : List RepositoryIndex
  hash : String
  cleared : Cluster
  credentials : Cluster
  refreshers : Cluster
  beforePrometheus : Cluster
  afterPrometheus : Cluster
  beforePromtail : Cluster
  afterPromtail : Cluster
  clears : env.run (deleteUnrequestedCredentialSecrets cr indexes)
    cluster = (.ok (), cleared)
  completes : env.run (completeIndexes platform cr indexes)
    cleared = (.ok completed, credentials)
  writesRefreshers : env.run
    (syncTokenRefreshers platform cr completed) credentials =
      (.ok (), refreshers)
  framedBefore : RestFramed cr refreshers beforePrometheus
  writesPrometheus : env.run
    (reconcilePrometheus platform cr completed hash) beforePrometheus =
      (.ok (), afterPrometheus)
  framedBetween : RestFramed cr afterPrometheus beforePromtail
  keepsPrometheus : ∀ key, beforePromtail.find .prometheus key =
    afterPrometheus.find .prometheus key
  writesPromtail : env.run (syncPromtail platform cr completed)
    beforePromtail = (.ok (), afterPromtail)
  keepsObjects : ∀ kind key,
    after.find kind key = afterPromtail.find kind key

section Inversion

variable {platform : Platform} {env : Surroundings}
  {cr : Observability} {indexes : List RepositoryIndex}
  {cluster after : Cluster}

theorem run_syncInstances_eq_ok
    (hrun : env.run (syncInstances platform cr indexes) cluster =
      (.ok (), after)) :
    ∃ hash before written,
      RestFramed cr cluster before ∧
      env.run (reconcilePrometheus platform cr indexes hash)
        before = (.ok (), written) ∧
      RestFramed cr written after ∧
      ∀ key, after.find .prometheus key = written.find .prometheus key := by
  have hkinds {α : Type} {program : Go α}
      (hprogram : WritesKinds restKinds program) :
      program.Uses (ApiCall.WritesOnly (RestWrites cr)) :=
    hprogram.restWrites (List.Subset.refl _)
  obtain ⟨patterns, fetched, hfetch, hrun⟩ := run_bind_eq_ok hrun
  obtain ⟨_, scraped, hscrape, hrun⟩ := run_bind_eq_ok hrun
  obtain ⟨hash, probed, hprobe, hrun⟩ := run_bind_eq_ok hrun
  obtain ⟨_, alerting, halert, hrun⟩ := run_bind_eq_ok hrun
  obtain ⟨_, written, hwrite, hrun⟩ := run_bind_eq_ok hrun
  refine ⟨hash, alerting, written, ?_,
    run_wrapping_eq_ok.mp hwrite, ?_⟩
  · refine .trans (restFramed_of_run (.wrapping
      (writesKinds_fetchFederationConfigs _).writesOnly) hfetch) ?_
    refine .trans (restFramed_of_run
      (restWrites_createAdditionalScrapeConfigSecret patterns) hscrape) ?_
    refine .trans (restFramed_of_run
      (hkinds (writesKinds_createBlackBoxConfig (by decide))) hprobe) ?_
    exact restFramed_of_run (.wrapping (hkinds
      (writesKinds_reconcileAlertmanager (by decide) _))) halert
  · split at hrun
    next =>
      cases hrun
      exact ⟨fun _ _ _ => rfl, fun _ => rfl⟩
    next =>
      have hgrafana : WritesKinds [.grafana]
          (reconcileGrafanaCr platform cr indexes) :=
        writesKinds_reconcileGrafanaCr (List.mem_singleton.mpr rfl) _
      exact ⟨restFramed_of_run
          (.wrapping (hgrafana.restWrites (by decide))) hrun,
        hgrafana.wrapping.find_eq hrun (by decide)⟩

theorem run_syncTokenRefreshers_eq_ok
    (henabled : cr.observatoriumDisabled = false)
    (hrun : env.run (syncTokenRefreshers platform cr indexes)
      cluster = (.ok (), after)) :
    ∃ deployments policies,
      env.run
        (deleteUnrequestedTokenRefreshers platform cr indexes) cluster =
          (.ok (), deployments) ∧
      env.run
        (deleteUnrequestedNetworkPolicies platform cr indexes)
          deployments = (.ok (), policies) ∧
      env.run (reconcileTokenRefresher platform cr indexes)
        policies = (.ok (), after) := by
  obtain ⟨_, deployments, hdeployments, hrun⟩ := run_bind_eq_ok hrun
  obtain ⟨_, policies, hpolicies, hrun⟩ := run_bind_eq_ok hrun
  rw [henabled, if_neg (by decide)] at hrun
  exact ⟨deployments, policies, run_wrapping_eq_ok.mp hdeployments,
    run_wrapping_eq_ok.mp hpolicies,
    run_wrapping_eq_ok.mp hrun⟩

theorem exists_completedSync
    (hrun : env.run (configure platform cr indexes) cluster = (.ok (), after)) :
    Nonempty (CompletedSync platform env cr indexes cluster after) := by
  obtain ⟨_, cleared, hclear, hrun⟩ := run_bind_eq_ok hrun
  obtain ⟨completed, credentials, hcomplete, hrun⟩ := run_bind_eq_ok hrun
  rw [applyIndexes_eq] at hrun
  obtain ⟨_, refreshers, hrefreshers, hrun⟩ := run_bind_eq_ok hrun
  obtain ⟨_, alerting, halert, hrun⟩ := run_bind_eq_ok hrun
  obtain ⟨_, instances, hinstances, hrun⟩ := run_bind_eq_ok hrun
  obtain ⟨_, resources, hresources, hrun⟩ := run_bind_eq_ok hrun
  obtain ⟨_, promtail, hpromtail, hassign⟩ := run_bind_eq_ok hrun
  obtain ⟨hash, before, written, hbefore, hwrite, hbetween, hkeeps⟩ :=
    run_syncInstances_eq_ok hinstances
  have hsynced :
      WritesKinds resourceKinds (syncResources platform cr completed) :=
    writesKinds_syncResources completed
  exact ⟨{
    completed, hash, cleared, credentials, refreshers
    beforePrometheus := before
    afterPrometheus := written
    beforePromtail := resources
    afterPromtail := promtail
    clears := hclear
    completes := hcomplete
    writesRefreshers := hrefreshers
    framedBefore := .trans (restFramed_of_run
      (restWrites_syncAlertmanagerSecret completed) halert) hbefore
    writesPrometheus := hwrite
    framedBetween := hbetween.trans
      (restFramed_of_run (hsynced.restWrites (by decide)) hresources)
    keepsPrometheus := fun key =>
      (hsynced.find_eq hresources (by decide) key).trans (hkeeps key)
    writesPromtail := hpromtail
    keepsObjects := find_of_run_assignSyncTime hassign }⟩

end Inversion

namespace CompletedSync

variable {platform : Platform} {env : Surroundings}
  {cr : Observability} {indexes : List RepositoryIndex}
  {cluster after : Cluster}
  (sync : CompletedSync platform env cr indexes cluster after)
include sync

theorem completed_eq {expected : List RepositoryIndex}
    (hexpected : (env.run
      ((deleteUnrequestedCredentialSecrets cr indexes).bind fun _ =>
        completeIndexes platform cr indexes) cluster).1 = .ok expected) :
    sync.completed = expected := by
  rw [Surroundings.run, run_bind_ok sync.clears] at hexpected
  exact Except.ok.inj ((congrArg Prod.fst sync.completes).symm.trans hexpected)

theorem framedPrometheus :
    RestFramed cr sync.beforePrometheus sync.afterPrometheus := by
  have hkinds : WritesKinds restKinds
      (reconcilePrometheus platform cr sync.completed sync.hash) :=
    writesKinds_reconcilePrometheus (by decide) (by decide) (by decide) _ _
  exact restFramed_of_run (hkinds.restWrites (List.Subset.refl _))
    sync.writesPrometheus

theorem framedPromtail :
    RestFramed cr sync.beforePromtail sync.afterPromtail :=
  restFramed_of_run ((writesKinds_syncPromtail _).restWrites (by decide))
    sync.writesPromtail

theorem framed : RestFramed cr sync.refreshers after := fun kind key hkey =>
  (sync.keepsObjects kind key).trans
    ((((sync.framedBefore.trans sync.framedPrometheus).trans
      sync.framedBetween).trans sync.framedPromtail) kind key hkey)

theorem find_prometheus (key : ObjectKey) :
    after.find .prometheus key = sync.afterPrometheus.find .prometheus key := by
  rw [sync.keepsObjects, (writesKinds_syncPromtail _).find_eq
    sync.writesPromtail (by decide), sync.keepsPrometheus]

end CompletedSync

def syncPlatform : Platform :=
  { Platform.plain with
    unmarshalRemoteWrite := fun _ => .ok {}
    marshalAlertmanager := fun _ => .ok "" }

def syncedIndex (id observatorium : String)
    (observatoria : List ObservatoriumIndex) : RepositoryIndex where
  id := id
  config := some
    { grafana := some {}
      prometheus := some { observatorium }
      alertmanager := some {}
      observatoria }

end ObservabilityOperator
