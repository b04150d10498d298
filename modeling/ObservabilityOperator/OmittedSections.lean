import ObservabilityOperator.ConfigurationStage
import ObservabilityOperator.RequestedResources
import ObservabilityOperator.TokenRefresherRuns

/-!
# Indexes that leave out a section

Every section of an index is optional, and so is the whole configuration.  An
index that leaves a section out should not matter for what the other indexes
get from theirs, wherever it stands in the list.

Most loops pass such an index over.  The exceptions are the remote write file,
which is read of every index without a check, the mail settings and the version
of Grafana, which are read of the first index without a check, and the search
for the token refreshers that are still requested, which is given up at an
index without configuration and at one without Promtail.
-/

namespace ObservabilityOperator

open FirstProviders Program

inductive IndexSection where
  | prometheus
  | alertmanager
  | grafana
  | promtail
  | observatoria
  deriving DecidableEq, Repr

/-- The index leaves the section out. -/
def RepositoryIndex.Lacks (index : RepositoryIndex) : IndexSection → Prop
  | .prometheus => index.config.bind RepositoryConfig.prometheus = none
  | .alertmanager => index.config.bind RepositoryConfig.alertmanager = none
  | .grafana => index.config.bind RepositoryConfig.grafana = none
  | .promtail => index.config.bind RepositoryConfig.promtail = none
  | .observatoria => index.observatoria = []

/-! ## What a section contributes -/

structure Platform.ReadsSizes (platform : Platform) (cr : Observability) :
    Prop where
  default : ∃ quantity, platform.parseQuantity "250Gi" = .ok quantity
  prometheus : ∀ storage,
    cr.spec.storage.bind Storage.prometheusStorageSpec = some storage →
      storage.requestedSize ≠ "" →
        ∃ quantity,
          platform.parseQuantity storage.requestedSize = .ok quantity
  alertmanager : ∀ storage,
    cr.spec.storage.bind Storage.alertManagerStorageSpec = some storage →
      storage.requestedSize ≠ "" →
        ∃ quantity,
          platform.parseQuantity storage.requestedSize = .ok quantity

/-- The search keeps every refresher and crashes only where it did. -/
structure RefreshersKept (platform : Platform) (cr : Observability)
    (indexes longer : List RepositoryIndex) : Prop where
  kept : ∀ render oauth2Secret name,
    shouldExist platform cr render oauth2Secret indexes name = .ok true →
      shouldExist platform cr render oauth2Secret longer name = .ok true
  returns : ∀ render oauth2Secret name panic,
    shouldExist platform cr render oauth2Secret longer name = .error panic →
      shouldExist platform cr render oauth2Secret indexes name = .error panic

/-- The same targets, rules, monitors and patterns; no new failure. -/
structure PrometheusUnaffected (platform : Platform) (cr : Observability)
    (indexes longer : List RepositoryIndex) : Prop where
  remoteWrites :
    remoteWriteTargets platform cr longer =
      remoteWriteTargets platform cr indexes
  rules : getUniqueRules longer = getUniqueRules indexes
  podMonitors : getUniquePodMonitors longer = getUniquePodMonitors indexes
  federation :
    fetchFederationConfigs platform cr longer =
      fetchFederationConfigs platform cr indexes
  storage : ∀ storage requested,
    cr.spec.storage.bind Storage.prometheusStorageSpec = some storage →
    getPrometheusStorageSpecHelper platform cr storage indexes =
        .ok requested →
      ∃ other, getPrometheusStorageSpecHelper platform cr storage longer =
        .ok other

/-- The same configuration, and no new failure. -/
structure AlertmanagerUnaffected (platform : Platform) (cr : Observability)
    (indexes longer : List RepositoryIndex) : Prop where
  secret :
    syncAlertmanagerSecret platform cr longer =
      syncAlertmanagerSecret platform cr indexes
  storage : ∀ storage requested,
    cr.spec.storage.bind Storage.alertManagerStorageSpec = some storage →
    getAlertManagerStorageSpecHelper platform cr storage indexes =
        .ok requested →
      ∃ other, getAlertManagerStorageSpecHelper platform cr storage longer =
        .ok other

/-- The same version and the same dashboards. -/
structure GrafanaUnaffected (cr : Observability)
    (indexes longer : List RepositoryIndex) : Prop where
  version : cr.descopedModeEnabled = false →
    getGrafanaVersion longer cr = getGrafanaVersion indexes cr
  dashboards : getUniqueDashboards longer = getUniqueDashboards indexes

/-- The same Promtails are created, and none is deleted. -/
structure PromtailUnaffected (platform : Platform) (cr : Observability)
    (indexes longer : List RepositoryIndex) : Prop where
  refreshers : RefreshersKept platform cr indexes longer
  requested : ∀ name, daemonsetShouldExist cr indexes name = true →
    daemonsetShouldExist cr longer name = true
  created :
    (Program.forEach longer fun index =>
        (createPromtailDaemonsetFor platform cr index).wrapping
          ("error creating promtail daemon set for " ++ index.id)) =
      Program.forEach indexes fun index =>
        (createPromtailDaemonsetFor platform cr index).wrapping
          ("error creating promtail daemon set for " ++ index.id)

/-- The same refreshers and token secrets. -/
structure ObservatoriaUnaffected (platform : Platform) (cr : Observability)
    (indexes longer : List RepositoryIndex) : Prop where
  refreshers : RefreshersKept platform cr indexes longer
  created :
    reconcileTokenRefresher platform cr longer =
      reconcileTokenRefresher platform cr indexes
  tokens : expectedTokenSecrets longer = expectedTokenSecrets indexes

/-- The longer list leads to the same for this section. -/
def Unaffected (platform : Platform) (cr : Observability)
    (indexes longer : List RepositoryIndex) : IndexSection → Prop
  | .prometheus => PrometheusUnaffected platform cr indexes longer
  | .alertmanager => AlertmanagerUnaffected platform cr indexes longer
  | .grafana => GrafanaUnaffected cr indexes longer
  | .promtail => PromtailUnaffected platform cr indexes longer
  | .observatoria => ObservatoriaUnaffected platform cr indexes longer

/-- Wherever indexes with the ids `front` stand before the extra index and
indexes with the ids `back` behind it, they get from the section what they get
without it. -/
def InsertsHarmlessly (cr : Observability) (front back : List String)
    (extra : RepositoryIndex) (part : IndexSection) : Prop :=
  ∀ (platform : Platform) (before after : List RepositoryIndex),
    platform.ReadsSizes cr → before.map RepositoryIndex.id = front →
      after.map RepositoryIndex.id = back →
        Unaffected platform cr (before ++ after) (before ++ extra :: after) part

/-- The first Observatorium is valid, but without metrics credentials. -/
def RepositoryIndex.MissesMetrics (index : RepositoryIndex) : Prop :=
  ∃ observatorium sso, index.observatoria.head? = some observatorium ∧
    observatorium.isValid = true ∧
    observatorium.redhatSsoConfig = some sso ∧ sso.hasMetrics = false

/-- What makes it harmless to insert an index without the section. -/
def HarmlessWhen (cr : Observability) (front back : List String)
    (extra : RepositoryIndex) : IndexSection → Prop
  | .prometheus => cr.observatoriumDisabled = true
  | .alertmanager =>
    front ≠ [] ∨ cr.smtpDisabled = true ∨
      cr.hasAlertmanagerConfigSecret.isSome = true
  | .grafana =>
    front ≠ [] ∨ cr.descopedModeEnabled = true ∨ extra.config = none ∧ back = []
  | .promtail =>
    cr.observatoriumDisabled = true ∨
      (extra.id ∈ front ∨ extra.id ∉ back) ∧
        (extra.config.isSome = true ∧ extra.observatoria = [] ∨
          back = [] ∧ ¬ extra.MissesMetrics)
  | .observatoria =>
    cr.observatoriumDisabled = true ∨ extra.config.isSome = true ∨ back = []

/-! ## Passing an index over -/

section Positive

variable {platform : Platform} {cr : Observability}
  {before after : List RepositoryIndex} {extra : RepositoryIndex}

theorem getUniqueRules_insert (hlacks : extra.Lacks .prometheus) :
    getUniqueRules (before ++ extra :: after) =
      getUniqueRules (before ++ after) := by
  have hnone : extra.prometheus = none := hlacks
  have hrules : extra.rules = [] := by
    rw [RepositoryIndex.rules, hnone]
  simp only [getUniqueRules, List.foldl_append, List.foldl_cons, hrules,
    keepNewUntilTaken]

theorem getUniquePodMonitors_insert (hlacks : extra.Lacks .prometheus) :
    getUniquePodMonitors (before ++ extra :: after) =
      getUniquePodMonitors (before ++ after) := by
  have hnone : extra.prometheus = none := hlacks
  have hmonitors : extra.podMonitors = [] := by
    rw [RepositoryIndex.podMonitors, hnone]
  simp only [getUniquePodMonitors, List.foldl_append, List.foldl_cons,
    hmonitors, keepNew]

theorem getUniqueDashboards_insert (hlacks : extra.Lacks .grafana) :
    getUniqueDashboards (before ++ extra :: after) =
      getUniqueDashboards (before ++ after) := by
  have hnone : extra.grafana = none := hlacks
  have hdashboards : extra.dashboards = [] := by
    rw [RepositoryIndex.dashboards, hnone]
  simp only [getUniqueDashboards, List.foldl_append, List.foldl_cons,
    hdashboards, keepNewUntilTaken]

theorem fetchFederationPatterns_insert
    (hlacks : extra.Lacks .prometheus) (patterns : List String) :
    fetchFederationPatterns platform patterns (before ++ extra :: after) =
      fetchFederationPatterns platform patterns (before ++ after) := by
  have hnone : extra.config.bind RepositoryConfig.prometheus = none := hlacks
  induction before generalizing patterns with
  | nil =>
    rw [List.nil_append, List.nil_append, fetchFederationPatterns, hnone]
  | cons index rest ih =>
    rw [List.cons_append, List.cons_append, fetchFederationPatterns,
      fetchFederationPatterns]
    split
    · exact ih patterns
    · split
      · exact ih patterns
      · simp only [ih]

theorem getPrometheusStorageSize_lacks (hlacks : extra.Lacks .prometheus) :
    getPrometheusStorageSize cr (extra :: after) =
      getPrometheusStorageSize cr [] := by
  have hnone : extra.config.bind RepositoryConfig.prometheus = none := hlacks
  cases hconfig : extra.config with
  | none =>
    simp only [getPrometheusStorageSize, getPrometheusRepositoryIndexConfig,
      hconfig]
  | some config =>
    rw [hconfig, Option.bind_some] at hnone
    simp [getPrometheusStorageSize, getPrometheusRepositoryIndexConfig,
      hconfig, hnone]

variable {storage : StorageSpec} {indexes : List RepositoryIndex}
  {name : String}

theorem getPrometheusStorageSize_nil
    (hstorage : cr.spec.storage.bind Storage.prometheusStorageSpec =
      some storage) :
    getPrometheusStorageSize cr [] = "250Gi" ∨
      getPrometheusStorageSize cr [] = storage.requestedSize := by
  rw [getPrometheusStorageSize, hstorage]
  cases cr.spec.selfContained with
  | none => exact .inl rfl
  | some selfContained =>
    by_cases hrequests : storage.requests.isSome = true
    · exact .inr (by simp [getPrometheusRepositoryIndexConfig, hrequests])
    · exact .inl (by simp [getPrometheusRepositoryIndexConfig, hrequests])

theorem exists_prometheusStorage (hreads : platform.ReadsSizes cr)
    (hstorage : cr.spec.storage.bind Storage.prometheusStorageSpec =
      some storage) (hlacks : extra.Lacks .prometheus) :
    ∃ other, getPrometheusStorageSpecHelper platform cr storage
      (extra :: after) = .ok other := by
  simp only [getPrometheusStorageSpecHelper,
    getPrometheusStorageSize_lacks hlacks]
  split
  · exact ⟨storage, rfl⟩
  · split
    · exact ⟨storage, rfl⟩
    next hnonempty =>
      obtain ⟨quantity, hquantity⟩ : ∃ quantity, platform.parseQuantity
          (getPrometheusStorageSize cr []) = .ok quantity := by
        rcases getPrometheusStorageSize_nil hstorage with hsize | hsize
        · rw [hsize]
          exact hreads.default
        · rw [hsize] at hnonempty ⊢
          exact hreads.prometheus storage hstorage hnonempty
      rw [hquantity]
      exact ⟨_, rfl⟩

theorem getAlertmanagerStorageSize_lacks (hlacks : extra.Lacks .alertmanager) :
    getAlertmanagerStorageSize cr (extra :: after) =
      getAlertmanagerStorageSize cr [] := by
  have hnone : extra.config.bind RepositoryConfig.alertmanager = none :=
    hlacks
  cases hconfig : extra.config with
  | none =>
    simp only [getAlertmanagerStorageSize,
      getAlertmanagerRepositoryIndexConfig, hconfig]
  | some config =>
    rw [hconfig, Option.bind_some] at hnone
    simp [getAlertmanagerStorageSize, getAlertmanagerRepositoryIndexConfig,
      hconfig, hnone]

theorem exists_alertmanagerStorage (hreads : platform.ReadsSizes cr)
    (hstorage : cr.spec.storage.bind Storage.alertManagerStorageSpec =
      some storage) (hlacks : extra.Lacks .alertmanager) :
    ∃ other, getAlertManagerStorageSpecHelper platform cr storage
      (extra :: after) = .ok other := by
  have hsize : getAlertmanagerStorageSize cr [] = storage.requestedSize := by
    rw [getAlertmanagerStorageSize, hstorage]
    simp [getAlertmanagerRepositoryIndexConfig]
  simp only [getAlertManagerStorageSpecHelper,
    getAlertmanagerStorageSize_lacks hlacks, hsize]
  split
  · exact ⟨storage, rfl⟩
  next hnonempty =>
    obtain ⟨quantity, hquantity⟩ :=
      hreads.alertmanager storage hstorage hnonempty
    rw [hquantity]
    exact ⟨_, rfl⟩

theorem prometheusUnaffected (hreads : platform.ReadsSizes cr)
    (hlacks : extra.Lacks .prometheus)
    (hdisabled : cr.observatoriumDisabled = true) :
    PrometheusUnaffected platform cr (before ++ after)
      (before ++ extra :: after) where
  remoteWrites := by
    rw [remoteWriteTargets, remoteWriteTargets, if_pos hdisabled,
      if_pos hdisabled]
  rules := getUniqueRules_insert hlacks
  podMonitors := getUniquePodMonitors_insert hlacks
  federation := by
    rw [fetchFederationConfigs, fetchFederationConfigs,
      fetchFederationPatterns_insert hlacks]
  storage storage requested hstorage hhelper := by
    cases before with
    | nil => exact exists_prometheusStorage hreads hstorage hlacks
    | cons index rest => exact ⟨requested, hhelper⟩

theorem createGlobalConfig_insert
    (hread : before ≠ [] ∨ cr.smtpDisabled = true) :
    createGlobalConfig cr (before ++ extra :: after) =
      createGlobalConfig cr (before ++ after) := by
  rcases hread with hbefore | hdisabled
  · cases before with
    | nil => exact absurd rfl hbefore
    | cons index rest => rfl
  · rw [createGlobalConfig, createGlobalConfig, if_pos hdisabled,
      if_pos hdisabled]

theorem addIntegrations_lacks (hlacks : extra.Lacks .alertmanager) :
    addIntegrations cr extra = .done [] := by
  have hnone : extra.config.bind RepositoryConfig.alertmanager = none :=
    hlacks
  rw [addIntegrations, hnone]
  rfl

theorem createAlertmanagerConfig_insert (hlacks : extra.Lacks .alertmanager)
    (hread : before ≠ [] ∨ cr.smtpDisabled = true) :
    createAlertmanagerConfig cr (before ++ extra :: after) =
      createAlertmanagerConfig cr (before ++ after) := by
  unfold createAlertmanagerConfig
  rw [createGlobalConfig_insert hread]
  refine congrArg _ (funext fun global => ?_)
  exact collect_insert (addIntegrations_lacks hlacks) before after
    fun first second => by simp

theorem alertmanagerUnaffected (hreads : platform.ReadsSizes cr)
    (hlacks : extra.Lacks .alertmanager)
    (hread : before ≠ [] ∨ cr.smtpDisabled = true ∨
      cr.hasAlertmanagerConfigSecret.isSome = true) :
    AlertmanagerUnaffected platform cr (before ++ after)
      (before ++ extra :: after) where
  secret := by
    rw [← or_assoc] at hread
    unfold syncAlertmanagerSecret
    rcases hread with hread | hsecret
    · rw [reconcileAlertmanagerSecret, reconcileAlertmanagerSecret,
        createAlertmanagerConfig_insert hlacks hread]
    · rw [hsecret, Bool.or_true, if_pos rfl, if_pos rfl]
  storage storage requested hstorage hhelper := by
    cases before with
    | nil => exact exists_alertmanagerStorage hreads hstorage hlacks
    | cons index rest => exact ⟨requested, hhelper⟩

theorem grafanaUnaffected (hlacks : extra.Lacks .grafana)
    (hread : before ≠ [] ∨ cr.descopedModeEnabled = true ∨
      extra.config = none ∧ after = []) :
    GrafanaUnaffected cr (before ++ after) (before ++ extra :: after) where
  version hscoped := by
    rcases hread with hbefore | hdescoped | ⟨hconfig, rfl⟩
    · cases before with
      | nil => exact absurd rfl hbefore
      | cons index rest => rfl
    · rw [hscoped] at hdescoped
      cases hdescoped
    · cases before with
      | nil =>
        have hhead : (extra :: ([] : List RepositoryIndex)).head?.bind
            RepositoryIndex.config = none := hconfig
        rw [List.nil_append, getGrafanaVersion, grafanaVersionOfIndex, hhead]
        rfl
      | cons index rest => rfl
  dashboards := getUniqueDashboards_insert hlacks

/-! ## The search for requested refreshers -/

theorem shouldExist_of_disabled {render : String → String}
    {oauth2Secret : Option (Resource SecretSpec)}
    (hdisabled : cr.observatoriumDisabled = true) :
    shouldExist platform cr render oauth2Secret indexes name = .ok false := by
  rw [shouldExist, hdisabled, Bool.or_true, if_pos rfl]

theorem refreshersKept_of_disabled {longer : List RepositoryIndex}
    (hdisabled : cr.observatoriumDisabled = true) :
    RefreshersKept platform cr indexes longer where
  kept render oauth2Secret name hkept := by
    rw [shouldExist_of_disabled hdisabled] at hkept
    cases hkept
  returns render oauth2Secret name panic hpanic := by
    rw [shouldExist_of_disabled hdisabled] at hpanic
    cases hpanic

theorem searchIndex_eq_none (hconfig : extra.config.isSome = true)
    (hnone : extra.observatoria = []) (render : String → String)
    (name : String) : searchIndex platform render name extra = none := by
  obtain ⟨config, hfound⟩ := Option.isSome_iff_exists.mp hconfig
  rw [RepositoryIndex.observatoria, hfound] at hnone
  rw [searchIndex, hfound]
  dsimp only at hnone ⊢
  rw [hnone, List.findSome?_nil]

theorem refreshersKept_of_passedOver
    (hpassed : ∀ render name,
      searchIndex platform render name extra = none) :
    RefreshersKept platform cr (before ++ after)
      (before ++ extra :: after) := by
  have hsame (render : String → String)
      (oauth2Secret : Option (Resource SecretSpec)) (name : String) :
      shouldExist platform cr render oauth2Secret (before ++ extra :: after)
          name =
        shouldExist platform cr render oauth2Secret (before ++ after) name := by
    simp only [shouldExist, List.findSome?_append, List.findSome?_cons, hpassed]
  exact {
    kept := fun render oauth2Secret name hkept => by rwa [hsame]
    returns := fun render oauth2Secret name panic hpanic => by
      rwa [hsame] at hpanic }

theorem refreshersKept_of_last
    (hreturns : ∀ render name panic,
      searchIndex platform render name extra ≠ some (.error panic)) :
    RefreshersKept platform cr before (before ++ [extra]) where
  kept render oauth2Secret name hkept := by
    rw [shouldExist] at hkept ⊢
    split at hkept
    · cases hkept
    next henabled =>
      rw [if_neg henabled]
      split at hkept
      · cases hkept
      next hsecret =>
        rw [if_neg hsecret, List.findSome?_append]
        cases hsearch : before.findSome? (searchIndex platform render name) with
        | none =>
          rw [hsearch] at hkept
          cases hkept
        | some verdict =>
          rw [hsearch] at hkept
          exact hkept
  returns render oauth2Secret name panic hpanic := by
    rw [shouldExist] at hpanic ⊢
    split at hpanic
    · cases hpanic
    next henabled =>
      rw [if_neg henabled]
      split at hpanic
      · cases hpanic
      next hsecret =>
        rw [if_neg hsecret]
        rw [List.findSome?_append] at hpanic
        cases hsearch : before.findSome? (searchIndex platform render name) with
        | none =>
          exfalso
          rw [hsearch, Option.none_or, List.findSome?_singleton] at hpanic
          cases hextra : searchIndex platform render name extra with
          | none =>
            rw [hextra] at hpanic
            cases hpanic
          | some verdict =>
            rw [hextra] at hpanic
            rw [Option.getD_some] at hpanic
            rw [hpanic] at hextra
            exact hreturns render name panic hextra
        | some verdict =>
          rw [hsearch] at hpanic
          exact hpanic

/-- An index without Promtail ends the search at its first Observatorium.  It
keeps no refresher but the one for the metrics of that Observatorium. -/
theorem searchObservatorium_withoutPromtail (platform : Platform)
    (render : String → String) (name : String)
    (observatorium : ObservatoriumIndex) :
    ∃ verdict,
      searchObservatorium platform render name false observatorium =
        some verdict ∧
      (verdict = .ok true →
        name = render (getTokenRefresherName observatorium.id .metrics)) ∧
      ∀ panic, verdict = .error panic → observatorium.isValid = true ∧
        ∃ sso, observatorium.redhatSsoConfig = some sso ∧
          sso.hasMetrics = false := by
  rw [searchObservatorium]
  split
  · exact ⟨.ok false, rfl, by simp, by simp⟩
  next hvalid =>
    simp only [Bool.or_eq_true, Bool.not_eq_true', Option.isNone_iff_eq_none,
      not_or, Bool.not_eq_false] at hvalid
    obtain ⟨sso, hsso⟩ := Option.ne_none_iff_exists'.mp hvalid.2
    cases hset : getTokenRefresherConfigSetFor platform .metrics
        observatorium with
    | error error => exact ⟨.ok false, by simp [hset], by simp, by simp⟩
    | ok configSet =>
      cases configSet with
      | none =>
        have hmetrics : sso.hasMetrics = false := by
          rw [getTokenRefresherConfigSetFor, hsso] at hset
          dsimp only at hset
          split at hset
          · cases hset
          · split at hset
            · cases hset
            next hmetrics => simpa using hmetrics
        exact ⟨.error .nilPointer, by simp [hset], by simp,
          fun _ _ => ⟨hvalid.1, sso, hsso, hmetrics⟩⟩
      | some configSet =>
        have hname := name_of_getTokenRefresherConfigSetFor hset
        by_cases hmatch : name = render configSet.name
        · exact ⟨.ok true, by simp [hset, hmatch],
            fun _ => by rw [hmatch, hname], by simp⟩
        · exact ⟨.ok false, by simp [hset, hmatch], by simp, by simp⟩

theorem searchIndex_withoutPromtail (platform : Platform)
    (hlacks : extra.Lacks .promtail)
    {observatorium : ObservatoriumIndex} {rest : List ObservatoriumIndex}
    (hlisted : extra.observatoria = observatorium :: rest)
    (render : String → String) (name : String) :
    ∃ verdict, searchIndex platform render name extra = some verdict ∧
      (verdict = .ok true →
        name = render (getTokenRefresherName observatorium.id .metrics)) ∧
      ∀ panic, verdict = .error panic → extra.MissesMetrics := by
  have hnone : extra.config.bind RepositoryConfig.promtail = none := hlacks
  cases hconfig : extra.config with
  | none =>
    rw [RepositoryIndex.observatoria, hconfig] at hlisted
    cases hlisted
  | some config =>
    have hentries : config.observatoria = observatorium :: rest := by
      rwa [RepositoryIndex.observatoria, hconfig] at hlisted
    have hpromtail : config.promtailEnabled = false := by
      rw [hconfig, Option.bind_some] at hnone
      rw [RepositoryConfig.promtailEnabled, hnone]
    obtain ⟨verdict, hsearch, hkept, hpanics⟩ :=
      searchObservatorium_withoutPromtail platform render name observatorium
    refine ⟨verdict, ?_, hkept, ?_⟩
    · rw [searchIndex, hconfig]
      dsimp only
      rw [hentries, hpromtail, List.findSome?_cons, hsearch]
    · intro panic hpanic
      obtain ⟨hvalid, sso, hsso, hmetrics⟩ := hpanics panic hpanic
      exact ⟨observatorium, sso, by rw [hlisted, List.head?_cons], hvalid,
        hsso, hmetrics⟩

theorem searchIndex_returns (hlacks : extra.Lacks .promtail)
    (hmetrics : ¬ extra.MissesMetrics) (render : String → String)
    (name : String) (panic : Panic) :
    searchIndex platform render name extra ≠ some (.error panic) := by
  cases hlisted : extra.observatoria with
  | nil =>
    cases hconfig : extra.config with
    | none => simp [searchIndex, hconfig]
    | some config =>
      rw [searchIndex_eq_none (by rw [hconfig]; rfl) hlisted]
      simp
  | cons observatorium rest =>
    obtain ⟨verdict, hsearch, -, hpanics⟩ :=
      searchIndex_withoutPromtail platform hlacks hlisted render name
    rw [hsearch]
    intro hverdict
    exact hmetrics (hpanics panic (Option.some.inj hverdict))

theorem daemonsetShouldExist_insert
    (hother : extra.id ∈ before.map RepositoryIndex.id ∨
      extra.id ∉ after.map RepositoryIndex.id)
    (hrequested : daemonsetShouldExist cr (before ++ after) name = true) :
    daemonsetShouldExist cr (before ++ extra :: after) name = true := by
  rw [daemonsetShouldExist] at hrequested ⊢
  split at hrequested
  · cases hrequested
  next henabled =>
    rw [if_neg henabled]
    rw [List.find?_append] at hrequested ⊢
    cases hbefore : before.find? (fun index =>
        name = "promtail-" ++ index.id) with
    | some index =>
      rw [hbefore] at hrequested
      exact hrequested
    | none =>
      rw [hbefore, Option.none_or] at hrequested
      rw [Option.none_or]
      have hname : name ≠ "promtail-" ++ extra.id := by
        rintro rfl
        rcases hother with hfront | hback
        · obtain ⟨index, hindex, hid⟩ := List.mem_map.mp hfront
          have hdiffers := List.find?_eq_none.mp hbefore index hindex
          simp [hid] at hdiffers
        · cases hafter : after.find? (fun index =>
              "promtail-" ++ extra.id = "promtail-" ++ index.id) with
          | none =>
            rw [hafter] at hrequested
            cases hrequested
          | some index =>
            have hsame := List.find?_some hafter
            have hid : extra.id = index.id := by simpa using hsame
            exact hback (hid ▸ List.mem_map_of_mem
              (List.mem_of_find?_eq_some hafter))
      rw [List.find?_cons_of_neg (by simpa using hname)]
      exact hrequested

theorem createPromtailDaemonsetFor_lacks (hlacks : extra.Lacks .promtail) :
    createPromtailDaemonsetFor platform cr extra = .done () := by
  have hnone : extra.config.bind RepositoryConfig.promtail = none := hlacks
  rw [createPromtailDaemonsetFor, promtailObservatorium, hnone]

theorem promtailUnaffected (hlacks : extra.Lacks .promtail)
    (hread : cr.observatoriumDisabled = true ∨
      (extra.id ∈ before.map RepositoryIndex.id ∨
        extra.id ∉ after.map RepositoryIndex.id) ∧
        (extra.config.isSome = true ∧ extra.observatoria = [] ∨
          after = [] ∧ ¬ extra.MissesMetrics)) :
    PromtailUnaffected platform cr (before ++ after)
      (before ++ extra :: after) where
  refreshers := by
    rcases hread with hdisabled | ⟨-, ⟨hconfig, hnone⟩ | ⟨rfl, hmetrics⟩⟩
    · exact refreshersKept_of_disabled hdisabled
    · exact refreshersKept_of_passedOver (searchIndex_eq_none hconfig hnone)
    · rw [List.append_nil]
      exact refreshersKept_of_last (searchIndex_returns hlacks hmetrics)
  requested name hrequested := by
    rcases hread with hdisabled | ⟨hother, -⟩
    · rw [daemonsetShouldExist, hdisabled, Bool.or_true, if_pos rfl]
        at hrequested
      cases hrequested
    · exact daemonsetShouldExist_insert hother hrequested
  created := by
    apply forEach_insert
    rw [createPromtailDaemonsetFor_lacks hlacks]
    rfl

theorem observatoriaUnaffected (hlacks : extra.Lacks .observatoria)
    (hread : cr.observatoriumDisabled = true ∨ extra.config.isSome = true ∨
      after = []) :
    ObservatoriaUnaffected platform cr (before ++ after)
      (before ++ extra :: after) where
  refreshers := by
    have hnone : extra.observatoria = [] := hlacks
    rcases hread with hdisabled | hconfig | rfl
    · exact refreshersKept_of_disabled hdisabled
    · exact refreshersKept_of_passedOver (searchIndex_eq_none hconfig hnone)
    · rw [List.append_nil]
      apply refreshersKept_of_last
      intro render name panic
      cases hconfig : extra.config with
      | none => simp [searchIndex, hconfig]
      | some config =>
        rw [searchIndex_eq_none (by rw [hconfig]; rfl) hnone]
        simp
  created := by
    have hnone : extra.observatoria = [] := hlacks
    apply forEach_insert
    cases hconfig : extra.config with
    | none => rfl
    | some config =>
      rw [RepositoryIndex.observatoria, hconfig] at hnone
      dsimp only at hnone ⊢
      rw [hnone]
      rfl
  tokens := by
    have hnone : extra.observatoria = [] := hlacks
    simp [expectedTokenSecrets, hnone]

end Positive

/-! ## Indexes that are affected -/

def emptyFiles : Platform :=
  { Platform.serving with
    unmarshalRemoteWrite := fun _ => .ok {} }

theorem readsSizes_emptyFiles (cr : Observability) :
    emptyFiles.ReadsSizes cr where
  default := ⟨_, rfl⟩
  prometheus _ _ _ := ⟨_, rfl⟩
  alertmanager _ _ _ := ⟨_, rfl⟩

def indexWith (config : Option RepositoryConfig) (id : String) :
    RepositoryIndex where
  id := id
  config := config

theorem map_id_indexWith (config : Option RepositoryConfig)
    (ids : List String) :
    (ids.map (indexWith config)).map RepositoryIndex.id = ids := by
  rw [List.map_map]
  exact List.map_id ids

section Affected

variable {cr : Observability} {front back : List String}
  {extra : RepositoryIndex} {part : IndexSection}
  {indexes : List RepositoryIndex}

theorem InsertsHarmlessly.unaffected
    (hharmless : InsertsHarmlessly cr front back extra part)
    (first second : Option RepositoryConfig) :
    Unaffected emptyFiles cr
      (front.map (indexWith first) ++ back.map (indexWith second))
      (front.map (indexWith first) ++ extra :: back.map (indexWith second))
      part :=
  hharmless emptyFiles _ _ (readsSizes_emptyFiles cr)
    (map_id_indexWith first front) (map_id_indexWith second back)

theorem remoteWriteTargetOf_lacks (platform : Platform)
    (hlacks : extra.Lacks .prometheus) :
    remoteWriteTargetOf platform cr extra = .fail (.panic .nilPointer) := by
  have hnone : extra.config.bind RepositoryConfig.prometheus = none := hlacks
  rw [remoteWriteTargetOf, getRemoteWriteIndex]
  cases hconfig : extra.config with
  | none => rfl
  | some config =>
    rw [hconfig, Option.bind_some] at hnone
    change ((Program.deref config.prometheus).bind _).bind _ = _
    rw [hnone]
    rfl

theorem remoteWriteTargets_of_enabled {platform : Platform}
    (henabled : ¬ cr.observatoriumDisabled = true) :
    remoteWriteTargets platform cr indexes =
      (Program.collect indexes (remoteWriteTargetOf platform cr)).bind
        fun targets => .done (targets.filterMap fun target => target) := by
  rw [remoteWriteTargets, if_neg henabled]
  rfl

theorem observatoriumDisabled_of_harmless (hlacks : extra.Lacks .prometheus)
    (hharmless : InsertsHarmlessly cr front back extra .prometheus) :
    cr.observatoriumDisabled = true := by
  by_contra henabled
  let config : Option RepositoryConfig := some { prometheus := some {} }
  have hbody (id : String) (cluster : Cluster) :
      ∃ target after, Surroundings.serving.run
        (remoteWriteTargetOf emptyFiles cr (indexWith config id)) cluster =
          (.ok target, after) := ⟨_, _, rfl⟩
  have hbodies (ids : List String) :
      ∀ index ∈ ids.map (indexWith config), ∀ cluster, ∃ target after,
        Surroundings.serving.run (remoteWriteTargetOf emptyFiles cr index)
          cluster = (.ok target, after) := by
    intro index hindex cluster
    obtain ⟨id, -, rfl⟩ := List.mem_map.mp hindex
    exact hbody id cluster
  have hsame := (hharmless.unaffected config config).remoteWrites
  rw [← List.map_append, remoteWriteTargets_of_enabled henabled,
    remoteWriteTargets_of_enabled henabled] at hsame
  obtain ⟨targets, after, hruns⟩ :=
    exists_run_collect (hbodies (front ++ back)) Cluster.empty
  obtain ⟨stopped, hfails⟩ := exists_run_collect_fail
    (back.map (indexWith config)) (hbodies front)
    (remoteWriteTargetOf_lacks emptyFiles hlacks) Cluster.empty
  have hresult := congrArg
    (fun program => (Surroundings.serving.run program Cluster.empty).1) hsame
  dsimp only [Surroundings.run] at hresult
  rw [run_bind_error hfails, run_bind_ok hruns] at hresult
  cases hresult

theorem alertmanager_of_harmless (hsync : cr.externalSyncDisabled = false)
    (hlacks : extra.Lacks .alertmanager)
    (hharmless : InsertsHarmlessly cr front back extra .alertmanager) :
    front ≠ [] ∨ cr.smtpDisabled = true ∨
      cr.hasAlertmanagerConfigSecret.isSome = true := by
  by_contra hread
  simp only [not_or, not_not, Bool.not_eq_true] at hread
  obtain ⟨rfl, hsmtp, hsecret⟩ := hread
  let config : Option RepositoryConfig := some
    { alertmanager := some
        { smtpToEmailAddress := ["to"]
          smtpFromEmailAddress := "from"
          smtpSecretName := "smtp" } }
  have hnone : extra.config.bind RepositoryConfig.alertmanager = none :=
    hlacks
  have hpanics : firstAlertmanagerIndex
      (extra :: back.map (indexWith config)) = .fail (.panic .nilPointer) := by
    rw [firstAlertmanagerIndex]
    cases hconfig : extra.config with
    | none => rfl
    | some found =>
      rw [hconfig, Option.bind_some] at hnone
      change Program.deref found.alertmanager = _
      rw [hnone]
      rfl
  have hsame := (hharmless.unaffected config config).secret
  have hresult := congrArg
    (fun program => (Surroundings.quiet.run program Cluster.empty).1) hsame
  simp only [List.map_nil, List.nil_append, syncAlertmanagerSecret, hsync,
    hsecret, Bool.or_self, reconcileAlertmanagerSecret,
    createAlertmanagerConfig, createGlobalConfig, hsmtp, hpanics] at hresult
  cases back with
  | nil => cases hresult
  | cons id rest => cases hresult

theorem getGrafanaVersion_of_head (version : String)
    (hhead : grafanaVersionOfIndex indexes = .done version) :
    getGrafanaVersion indexes cr = .done (if version ≠ "" then version
      else (cr.selfContainedName SelfContained.grafanaVersion).getD "") := by
  rw [getGrafanaVersion, hhead]
  change (if version ≠ "" then _ else _) = _
  split <;> rfl

theorem grafana_of_harmless (hlacks : extra.Lacks .grafana)
    (hharmless : InsertsHarmlessly cr front back extra .grafana) :
    front ≠ [] ∨ cr.descopedModeEnabled = true ∨
      extra.config = none ∧ back = [] := by
  by_contra hread
  simp only [not_or, not_not, Bool.not_eq_true, not_and] at hread
  obtain ⟨rfl, hscoped, hconfig⟩ := hread
  let fallback := (cr.selfContainedName SelfContained.grafanaVersion).getD ""
  let version := fallback ++ "0"
  have hversion : version ≠ "" := by
    intro hempty
    have hlength := congrArg String.length hempty
    simp [version] at hlength
  cases hfound : extra.config with
  | some found =>
    have hnone : extra.config.bind RepositoryConfig.grafana = none := hlacks
    rw [hfound, Option.bind_some] at hnone
    have hsame :=
      (hharmless.unaffected none none).version hscoped
    have hpanics : getGrafanaVersion
        (extra :: back.map (indexWith none)) cr =
          .fail (.panic .nilPointer) := by
      have hhead : (extra :: back.map (indexWith none)).head?.bind
          RepositoryIndex.config = some found := hfound
      rw [getGrafanaVersion, grafanaVersionOfIndex, hhead]
      change ((Program.deref found.grafana).bind _).bind _ = _
      rw [hnone]
      rfl
    have hreturns : grafanaVersionOfIndex (back.map (indexWith none)) =
        .done "" := by
      cases back <;> rfl
    rw [List.map_nil, List.nil_append, List.nil_append, hpanics,
      getGrafanaVersion_of_head "" hreturns] at hsame
    cases hsame
  | none =>
    have hback := hconfig hfound
    obtain ⟨id, rest, rfl⟩ := List.exists_cons_of_ne_nil hback
    let config : Option RepositoryConfig :=
      some { grafana := some { grafanaVersion := version } }
    have hsame :=
      (hharmless.unaffected config config).version hscoped
    have hextra : grafanaVersionOfIndex
        (extra :: (id :: rest).map (indexWith config)) = .done "" := by
      have hhead : (extra :: (id :: rest).map (indexWith config)).head?.bind
          RepositoryIndex.config = none := hfound
      rw [grafanaVersionOfIndex, hhead]
      rfl
    have hother : grafanaVersionOfIndex
        ((id :: rest).map (indexWith config)) = .done version := rfl
    rw [List.map_nil, List.nil_append, List.nil_append,
      getGrafanaVersion_of_head "" hextra,
      getGrafanaVersion_of_head version hother, if_pos hversion,
      if_neg (by simp)] at hsame
    have hlength := congrArg String.length (Program.done.inj hsame)
    simp [version, fallback] at hlength

def refreshingConfig (id : String) : RepositoryConfig where
  observatoria := [plainObservatorium id "logs"]

theorem findSome?_searchIndex_front (name : String)
    (rest : List RepositoryIndex) :
    (front.map (indexWith (some {})) ++ rest).findSome?
        (searchIndex emptyFiles id name) =
      rest.findSome? (searchIndex emptyFiles id name) := by
  induction front with
  | nil => rfl
  | cons ident others ih =>
    rw [List.map_cons, List.cons_append, List.findSome?_cons]
    exact ih

theorem shouldExist_front (hsync : cr.externalSyncDisabled = false)
    (henabled : ¬ cr.observatoriumDisabled = true) (name : String)
    (rest : List RepositoryIndex) :
    shouldExist emptyFiles cr id none
        (front.map (indexWith (some {})) ++ rest) name =
      (rest.findSome? (searchIndex emptyFiles id name)).getD (.ok false) := by
  rw [shouldExist, hsync, Bool.false_or, if_neg henabled,
    if_neg (by simp), findSome?_searchIndex_front]

theorem shouldExist_refreshing (hsync : cr.externalSyncDisabled = false)
    (henabled : ¬ cr.observatoriumDisabled = true) (hback : back ≠ [])
    (observatorium : String) :
    shouldExist emptyFiles cr id none
      (front.map (indexWith (some {})) ++
        back.map (indexWith (some (refreshingConfig observatorium))))
      (getTokenRefresherName observatorium .metrics) = .ok true := by
  obtain ⟨ident, rest, rfl⟩ := List.exists_cons_of_ne_nil hback
  rw [shouldExist_front hsync henabled, List.map_cons, List.findSome?_cons]
  have hfound : searchIndex emptyFiles id
      (getTokenRefresherName observatorium .metrics)
      (indexWith (some (refreshingConfig observatorium)) ident) =
        some (.ok true) := by
    have hset : ∃ configSet, getTokenRefresherConfigSetFor emptyFiles
        .metrics (plainObservatorium observatorium "logs") =
          .ok (some configSet) := ⟨_, rfl⟩
    obtain ⟨configSet, hset⟩ := hset
    have hname : getTokenRefresherName observatorium .metrics =
        configSet.name := (name_of_getTokenRefresherConfigSetFor hset).symm
    have hvalid :
        (plainObservatorium observatorium "logs").isValid = true := rfl
    have hsso : (plainObservatorium observatorium
        "logs").redhatSsoConfig.isNone = false := rfl
    simp only [searchIndex, indexWith, refreshingConfig,
      List.findSome?_singleton]
    rw [searchObservatorium, hvalid, hsso, if_neg (by simp),
      List.findSome?_cons, if_neg (by simp), hset]
    dsimp only
    rw [if_pos (show _ = id configSet.name from hname)]
  rw [hfound]
  rfl

variable {verdict : Except Panic Bool}

theorem shouldExist_of_verdict (hsync : cr.externalSyncDisabled = false)
    (henabled : ¬ cr.observatoriumDisabled = true) {name : String}
    (rest : List RepositoryIndex)
    (hverdict : searchIndex emptyFiles id name extra = some verdict) :
    shouldExist emptyFiles cr id none
      (front.map (indexWith (some {})) ++ extra :: rest) name = verdict := by
  rw [shouldExist_front hsync henabled, List.findSome?_cons, hverdict]
  rfl

theorem ok_true_of_kept (hsync : cr.externalSyncDisabled = false)
    (henabled : ¬ cr.observatoriumDisabled = true) (hback : back ≠ [])
    {observatorium : String} (hkept : RefreshersKept emptyFiles cr
      (front.map (indexWith (some {})) ++
        back.map (indexWith (some (refreshingConfig observatorium))))
      (front.map (indexWith (some {})) ++ extra ::
        back.map (indexWith (some (refreshingConfig observatorium)))))
    (hverdict : searchIndex emptyFiles id
      (getTokenRefresherName observatorium .metrics) extra = some verdict) :
    verdict = .ok true := by
  have hrequested := hkept.kept id none _
    (shouldExist_refreshing hsync henabled hback observatorium)
  rwa [shouldExist_of_verdict hsync henabled _ hverdict] at hrequested

theorem observatoria_of_harmless (hsync : cr.externalSyncDisabled = false)
    (hharmless : InsertsHarmlessly cr front back extra .observatoria) :
    cr.observatoriumDisabled = true ∨ extra.config.isSome = true ∨
      back = [] := by
  by_contra hread
  simp only [not_or, Bool.not_eq_true, Option.isSome_eq_false_iff,
    Option.isNone_iff_eq_none] at hread
  obtain ⟨henabled, hconfig, hback⟩ := hread
  have hverdict : searchIndex emptyFiles id
      (getTokenRefresherName "obs" .metrics) extra = some (.ok false) := by
    rw [searchIndex, hconfig]
  have htrue := ok_true_of_kept hsync (by simp [henabled]) hback
    (hharmless.unaffected _ _).refreshers hverdict
  cases htrue

theorem searchIndex_of_missesMetrics (hmisses : extra.MissesMetrics)
    (name : String) :
    searchIndex emptyFiles id name extra = some (.error .nilPointer) := by
  obtain ⟨observatorium, sso, hhead, hvalid, hsso, hmetrics⟩ := hmisses
  obtain ⟨rest, hlisted⟩ := List.head?_eq_some_iff.mp hhead
  cases hconfig : extra.config with
  | none =>
    rw [RepositoryIndex.observatoria, hconfig] at hlisted
    cases hlisted
  | some config =>
    rw [RepositoryIndex.observatoria, hconfig] at hlisted
    dsimp only at hlisted
    have hset : getTokenRefresherConfigSetFor emptyFiles .metrics
        observatorium = .ok none := by
      rw [getTokenRefresherConfigSetFor, hsso]
      simp [emptyFiles, Platform.serving, Platform.plain, hmetrics]
    have hsearch : searchObservatorium emptyFiles id name
        config.promtailEnabled observatorium = some (.error .nilPointer) := by
      rw [searchObservatorium, hvalid, hsso]
      simp [hset]
    rw [searchIndex, hconfig]
    dsimp only
    rw [hlisted, List.findSome?_cons, hsearch]

theorem refreshers_of_harmless (hsync : cr.externalSyncDisabled = false)
    (hlacks : extra.Lacks .promtail)
    (henabled : ¬ cr.observatoriumDisabled = true)
    (hharmless : InsertsHarmlessly cr front back extra .promtail) :
    extra.config.isSome = true ∧ extra.observatoria = [] ∨
      back = [] ∧ ¬ extra.MissesMetrics := by
  by_cases hback : back = []
  · right
    refine ⟨hback, fun hmisses => ?_⟩
    subst hback
    have hkept := (hharmless.unaffected (some {}) none).refreshers
    have hpanics := hkept.returns id none "" .nilPointer
      (shouldExist_of_verdict hsync henabled _
        (searchIndex_of_missesMetrics hmisses ""))
    rw [shouldExist_front hsync henabled] at hpanics
    cases hpanics
  · left
    cases hlisted : extra.observatoria with
    | cons observatorium rest =>
      exfalso
      let other := observatorium.id ++ "0"
      obtain ⟨verdict, hverdict, hmatches, -⟩ :=
        searchIndex_withoutPromtail emptyFiles hlacks hlisted id
          (getTokenRefresherName other .metrics)
      have hname := hmatches (ok_true_of_kept hsync henabled hback
        (hharmless.unaffected _ _).refreshers hverdict)
      have hid := (getTokenRefresherName_inj.mp hname).1
      have hlength := congrArg String.length hid
      simp [other] at hlength
    | nil =>
      refine ⟨?_, rfl⟩
      cases hconfig : extra.config with
      | some config => rfl
      | none =>
        have hverdict : searchIndex emptyFiles id
            (getTokenRefresherName "obs" .metrics) extra =
              some (.ok false) := by
          rw [searchIndex, hconfig]
        have htrue := ok_true_of_kept hsync henabled hback
          (hharmless.unaffected _ _).refreshers hverdict
        cases htrue

theorem id_of_harmless (hsync : cr.externalSyncDisabled = false)
    (hlacks : extra.Lacks .promtail)
    (henabled : ¬ cr.observatoriumDisabled = true)
    (hharmless : InsertsHarmlessly cr front back extra .promtail) :
    extra.id ∈ front ∨ extra.id ∉ back := by
  by_contra hclash
  simp only [not_or, not_not] at hclash
  obtain ⟨hfront, hback⟩ := hclash
  let config : Option RepositoryConfig := some
    { promtail := some { enabled := true, observatorium := "obs" } }
  have hnone : extra.config.bind RepositoryConfig.promtail = none := hlacks
  have hflags : ¬ (cr.externalSyncDisabled || cr.observatoriumDisabled) =
      true := by
    rw [hsync, Bool.false_or]
    exact henabled
  have hpassed : (front.map (indexWith none)).find? (fun index =>
      "promtail-" ++ extra.id = "promtail-" ++ index.id) = none := by
    rw [List.find?_eq_none]
    intro index hindex hsame
    obtain ⟨ident, hident, rfl⟩ := List.mem_map.mp hindex
    have hid : extra.id = ident := by simpa [indexWith] using hsame
    exact hfront (hid ▸ hident)
  have hfound : ((back.map (indexWith config)).find? fun index =>
      "promtail-" ++ extra.id = "promtail-" ++ index.id).isSome = true := by
    rw [List.find?_isSome]
    exact ⟨indexWith config extra.id, List.mem_map_of_mem hback,
      by simp [indexWith]⟩
  obtain ⟨index, hindex⟩ := Option.isSome_iff_exists.mp hfound
  obtain ⟨ident, -, rfl⟩ := List.mem_map.mp (List.mem_of_find?_eq_some hindex)
  have hrequested := (hharmless.unaffected none config).requested
    ("promtail-" ++ extra.id) (by
      rw [daemonsetShouldExist, if_neg hflags, List.find?_append, hpassed,
        Option.none_or, hindex]
      rfl)
  rw [daemonsetShouldExist, if_neg hflags, List.find?_append, hpassed,
    Option.none_or, List.find?_cons_of_pos (by simp)] at hrequested
  dsimp only at hrequested
  rw [hnone] at hrequested
  cases hrequested

end Affected

/-- An index without a section is harmless exactly where nothing is read of the
section without a check, the search for refreshers is not given up at it and no
daemon set behind it has its id. -/
theorem harmless_iff_harmlessWhen {cr : Observability}
    (hsync : cr.externalSyncDisabled = false) (front back : List String)
    {extra : RepositoryIndex} {part : IndexSection}
    (hlacks : extra.Lacks part) :
    InsertsHarmlessly cr front back extra part ↔
      HarmlessWhen cr front back extra part := by
  constructor
  · intro hharmless
    cases part with
    | prometheus => exact observatoriumDisabled_of_harmless hlacks hharmless
    | alertmanager => exact alertmanager_of_harmless hsync hlacks hharmless
    | grafana => exact grafana_of_harmless hlacks hharmless
    | promtail =>
      by_cases hdisabled : cr.observatoriumDisabled = true
      · exact .inl hdisabled
      · exact .inr ⟨id_of_harmless hsync hlacks hdisabled hharmless,
          refreshers_of_harmless hsync hlacks hdisabled hharmless⟩
    | observatoria => exact observatoria_of_harmless hsync hharmless
  · rintro hwhen platform before after hreads rfl rfl
    simp only [HarmlessWhen, ne_eq, List.map_eq_nil_iff] at hwhen
    cases part with
    | prometheus => exact prometheusUnaffected hreads hlacks hwhen
    | alertmanager => exact alertmanagerUnaffected hreads hlacks hwhen
    | grafana => exact grafanaUnaffected hlacks hwhen
    | promtail => exact promtailUnaffected hlacks hwhen
    | observatoria => exact observatoriaUnaffected hlacks hwhen

/-- An empty configuration at the end of a list does no harm to the daemon
sets and refreshers of the indexes before it. -/
theorem emptyIndex_harmless :
    InsertsHarmlessly plainCr ["first"] [] (indexWith (some {}) "last")
      .promtail :=
  have hlacks : (indexWith (some {}) "last").Lacks .promtail := rfl
  (harmless_iff_harmlessWhen rfl ["first"] [] hlacks).mpr
    (.inr ⟨.inr List.not_mem_nil, .inl ⟨rfl, rfl⟩⟩)

/-- An index without configuration at the front of another one: the remote
write file of it is read through a nil pointer, and so are its mail settings,
the version of Grafana is lost, and the refresher of the other index is no
longer requested. -/
theorem nullIndex_harms :
    let null := indexWith none "null"
    let other := indexWith (some
      { prometheus := some {}
        alertmanager := some {}
        grafana := some { grafanaVersion := "9" }
        observatoria := [plainObservatorium "obs" "logs"] }) "other"
    (Surroundings.serving.run
        (remoteWriteTargets emptyFiles plainCr [null, other])
        Cluster.empty).1 = .error (.panic .nilPointer) ∧
      (Surroundings.serving.run (remoteWriteTargets emptyFiles plainCr [other])
        Cluster.empty).1 = .ok [] ∧
      (Surroundings.serving.run (createGlobalConfig plainCr [null, other])
        Cluster.empty).1 = .error (.panic .nilPointer) ∧
      (Surroundings.serving.run (createGlobalConfig plainCr [other])
        Cluster.empty).1 = .ok { resolveTimeout := "5m" } ∧
      (Surroundings.serving.run
        (getGrafanaVersion [null, other] plainCr) Cluster.empty).1 = .ok "" ∧
      (Surroundings.serving.run (getGrafanaVersion [other] plainCr)
        Cluster.empty).1 = .ok "9" ∧
      shouldExist emptyFiles plainCr id none [null, other]
        "token-refresher-metrics-obs" = .ok false ∧
      shouldExist emptyFiles plainCr id none [other]
        "token-refresher-metrics-obs" = .ok true := by
  exact ⟨rfl, rfl, rfl, rfl, rfl, rfl, rfl, rfl⟩

end ObservabilityOperator
