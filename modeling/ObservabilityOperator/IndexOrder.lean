import ObservabilityOperator.GrafanaConfig
import ObservabilityOperator.PrometheusConfig
import ObservabilityOperator.RequestedResources

/-!
# The order of the indexes

The indexes are collected by ranging over a map, so their order may change from
sync to sync.  There is one Prometheus, one Grafana and one Alertmanager for
all of them, and what these take from an index they take from the first.  Of
several files with one name the first is taken.
-/

namespace ObservabilityOperator

open FirstProviders

/-- The two lists of indexes lead to the same instances. -/
structure SameInstances (platform : Platform) (cr : Observability)
    (first second : List RepositoryIndex) : Prop where
  prometheus : ∀ configHash host targets storage,
    prometheusSpec cr first configHash host targets storage =
      prometheusSpec cr second configHash host targets storage
  storage : ∀ storage,
    getPrometheusStorageSpecHelper platform cr storage first =
      getPrometheusStorageSpecHelper platform cr storage second
  grafanaVersion : getGrafanaVersion first cr = getGrafanaVersion second cr
  grafana : ∀ image, grafanaSpec cr first image = grafanaSpec cr second image
  alertmanager : createGlobalConfig cr first = createGlobalConfig cr second

def ruleFor (indexes : List RepositoryIndex) (name : String) :
    Option ResourceInfo :=
  provider ResourceInfo.name (getUniqueRules indexes) name

def dashboardFor (indexes : List RepositoryIndex) (name : String) :
    Option DashboardInfo :=
  provider DashboardInfo.name (getUniqueDashboards indexes) name

def podMonitorFor (indexes : List RepositoryIndex) (name : String) :
    Option ResourceInfo :=
  provider ResourceInfo.name (getUniquePodMonitors indexes) name

section Instances

variable {platform : Platform} {cr : Observability}
  {first second : List RepositoryIndex}

def firstConfig (indexes : List RepositoryIndex) :
    Option (Option RepositoryConfig) :=
  indexes.head?.map RepositoryIndex.config

theorem eq_of_firstConfig {α : Sort*} {read : List RepositoryIndex → α}
    (hread : ∀ index other rest others, index.config = other.config →
      read (index :: rest) = read (other :: others))
    (hfirst : firstConfig first = firstConfig second) :
    read first = read second := by
  cases first with
  | nil => cases second with
    | nil => rfl
    | cons other rest => exact absurd hfirst (by simp [firstConfig])
  | cons index rest => cases second with
    | nil => exact absurd hfirst (by simp [firstConfig])
    | cons other others =>
      exact hread index other rest others (by simpa [firstConfig] using hfirst)

theorem getPrometheusRepositoryIndexConfig_congr
    (hfirst : firstConfig first = firstConfig second) :
    getPrometheusRepositoryIndexConfig first =
      getPrometheusRepositoryIndexConfig second := by
  refine eq_of_firstConfig (fun index other _ _ hconfig => ?_) hfirst
  rw [getPrometheusRepositoryIndexConfig, getPrometheusRepositoryIndexConfig,
    hconfig]

theorem firstAlertmanagerIndex_congr
    (hfirst : firstConfig first = firstConfig second) :
    firstAlertmanagerIndex first = firstAlertmanagerIndex second := by
  refine eq_of_firstConfig (fun index other _ _ hconfig => ?_) hfirst
  rw [firstAlertmanagerIndex, firstAlertmanagerIndex, hconfig]

theorem head_bind_congr {α : Type} (read : RepositoryConfig → Option α)
    (hfirst : firstConfig first = firstConfig second) :
    (first.head?.bind fun index => index.config.bind read) =
      second.head?.bind fun index => index.config.bind read := by
  have hbind := congrArg (fun config => config.bind (·.bind read)) hfirst
  simpa only [firstConfig, Option.bind_map, Function.comp_def] using hbind

theorem sameInstances_of_firstConfig (platform : Platform)
    (cr : Observability) (hfirst : firstConfig first = firstConfig second) :
    SameInstances platform cr first second where
  prometheus configHash host targets storage := by
    have hselector := getPrometheusRepositoryIndexConfig_congr hfirst
    simp only [prometheusSpec, getPrometheusPodMonitorLabelSelectors,
      getPrometheusServiceMonitorLabelSelectors,
      getPrometheusRuleLabelSelectors, getProbeLabelSelectors,
      getPrometheusPodMonitorNamespaceSelectors,
      getPrometheusServiceMonitorNamespaceSelectors,
      getPrometheusRuleNamespaceSelectors, getProbeNamespaceSelectors,
      labelSelectorFrom, namespaceSelectorFrom, selectorFrom, hselector]
  storage storage := by
    rw [getPrometheusStorageSpecHelper, getPrometheusStorageSpecHelper,
      getPrometheusStorageSize, getPrometheusStorageSize,
      getPrometheusRepositoryIndexConfig_congr hfirst]
  grafanaVersion := by
    have hconfig : first.head?.bind RepositoryIndex.config =
        second.head?.bind RepositoryIndex.config := by
      simpa using head_bind_congr some hfirst
    simp only [getGrafanaVersion, grafanaVersionOfIndex, hconfig]
  grafana image := by
    have hselector := head_bind_congr
      (fun config => config.grafana.bind GrafanaIndex.dashboardLabelSelector)
      hfirst
    simp only [grafanaSpec, getGrafanaDashboardLabelSelectors,
      RepositoryIndex.grafana, Option.bind_assoc, hselector]
  alertmanager := by
    rw [createGlobalConfig, createGlobalConfig,
      firstAlertmanagerIndex_congr hfirst]

end Instances

/-- For two orders of one set of indexes: the instances are the same where
the orders begin with the same configuration, and a name is provided by the
same file where no two indexes share a name of a rule, or of a dashboard, or
the name of the pod monitor. -/
theorem outcome_eq_of_perm (platform : Platform) (cr : Observability)
    {first second : List RepositoryIndex} (hperm : first.Perm second) :
    (firstConfig first = firstConfig second →
      SameInstances platform cr first second) ∧
    ((∀ name, ProvidedOnce ResourceInfo.name
        (first.map RepositoryIndex.rules) name) →
      ∀ name, ruleFor first name = ruleFor second name) ∧
    ((∀ name, ProvidedOnce DashboardInfo.name
        (first.map RepositoryIndex.dashboards) name) →
      ∀ name, dashboardFor first name = dashboardFor second name) ∧
    ∀ name, ProvidedOnce ResourceInfo.name
        (first.map RepositoryIndex.podMonitors) name →
      podMonitorFor first name = podMonitorFor second name := by
  refine ⟨sameInstances_of_firstConfig platform cr, ?_, ?_, ?_⟩
  · intro honce name
    rw [ruleFor, ruleFor, getUniqueRules_eq, getUniqueRules_eq]
    exact provider_foldl_keepNewUntilTaken_perm (hperm.map _) honce name
  · intro honce name
    rw [dashboardFor, dashboardFor, getUniqueDashboards_eq,
      getUniqueDashboards_eq]
    exact provider_foldl_keepNewUntilTaken_perm (hperm.map _) honce name
  · intro name honce
    rw [podMonitorFor, podMonitorFor, getUniquePodMonitors_eq,
      getUniquePodMonitors_eq]
    exact provider_foldl_keepNew_perm (hperm.map _) honce

def settingIndex (id file : String) : RepositoryIndex where
  id := id
  baseUrl := id
  config := some
    { prometheus := some
        { rules := [file]
          podMonitors := [file]
          overridePrometheusPvcSize := id
          ruleLabelSelector := some { matchLabels := [("app", id)] } }
      grafana := some
        { dashboards := [file]
          dashboardLabelSelector := some { matchLabels := [("app", id)] }
          grafanaVersion := id }
      alertmanager := some
        { smtpToEmailAddress := ["to"], smtpFromEmailAddress := id } }

def storedCr : Observability :=
  { plainCr with
    spec := { plainCr.spec with
      storage := some { prometheusStorageSpec := some {} } } }

theorem settingIndexes_same_outcome :
    SameInstances Platform.plain storedCr
        [settingIndex "a" "x", settingIndex "b" "y", settingIndex "c" "z"]
        [settingIndex "a" "x", settingIndex "c" "z", settingIndex "b" "y"] ∧
      ∀ name,
        ruleFor [settingIndex "a" "x", settingIndex "b" "y"] name =
          ruleFor [settingIndex "b" "y", settingIndex "a" "x"] name := by
  have hinstances := outcome_eq_of_perm Platform.plain storedCr
    (.cons (settingIndex "a" "x")
      (.swap (settingIndex "c" "z") (settingIndex "b" "y") []))
  have hfiles := outcome_eq_of_perm Platform.plain storedCr
    (.swap (settingIndex "b" "y") (settingIndex "a" "x") [])
  refine ⟨hinstances.1 rfl, hfiles.2.1 ?_⟩
  intro name
  have hrules (id file : String) : (settingIndex id file).rules =
      [(settingIndex id file).resourceInfo file] := rfl
  have hnames : getNameFromUrl "x" ≠ getNameFromUrl "y" := by decide
  simp only [ProvidedOnce, List.map_cons, List.map_nil, hrules,
    List.pairwise_cons, List.mem_cons, List.not_mem_nil, or_false,
    forall_eq, IsEmpty.forall_iff, implies_true, List.Pairwise.nil, and_true,
    provider, List.find?_eq_none, beq_iff_eq]
  by_cases hname : getNameFromUrl "x" = name
  · right
    intro hother
    exact hnames (hname.trans hother.symm)
  · exact .inl hname

/-- Two indexes in both orders: everything that is taken from the first
differs, and so does the file behind every shared name. -/
theorem settingIndexes_swapped :
    let first := [settingIndex "1" "x", settingIndex "2" "x"]
    let second := [settingIndex "2" "x", settingIndex "1" "x"]
    first.Perm second ∧ (first.map RepositoryIndex.id).Nodup ∧
      getPrometheusRuleLabelSelectors storedCr first ≠
        getPrometheusRuleLabelSelectors storedCr second ∧
      getPrometheusStorageSize storedCr first ≠
        getPrometheusStorageSize storedCr second ∧
      (Surroundings.quiet.run (getGrafanaVersion first storedCr)
        Cluster.empty).1 ≠
        (Surroundings.quiet.run (getGrafanaVersion second storedCr)
          Cluster.empty).1 ∧
      getGrafanaDashboardLabelSelectors storedCr first ≠
        getGrafanaDashboardLabelSelectors storedCr second ∧
      (Surroundings.quiet.run (createGlobalConfig storedCr first)
        Cluster.empty).1 ≠
        (Surroundings.quiet.run (createGlobalConfig storedCr second)
          Cluster.empty).1 ∧
      ruleFor first "x" ≠ ruleFor second "x" ∧
      dashboardFor first "x" ≠ dashboardFor second "x" ∧
      podMonitorFor first "x" ≠ podMonitorFor second "x" := by
  refine ⟨.swap _ _ _, ?_, ?_, ?_, ?_, ?_, ?_, ?_, ?_, ?_⟩ <;> decide

end ObservabilityOperator
