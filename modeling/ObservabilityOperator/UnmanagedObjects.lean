import ObservabilityOperator.CompletedSync
import ObservabilityOperator.RequestedResources

/-!
# Objects that are not the operator's own

What the operator creates for the files of the indexes and for Promtail carries
the label `managed-by`, and cleaning up deletes by that label.  A sync however
lists all dashboards, rules, pod monitors and daemon sets of a namespace and
deletes those whose names no index asks for.  An object that somebody else has
put there is spared only if its name happens to be requested.
-/

namespace ObservabilityOperator

open Program

/-! ## Programs that prune one kind -/

/-- The program deletes objects of the kind only in one namespace and only
those that are not kept, and if it returns it has deleted all of them. -/
structure Prunes {α : Type} (kind : Kind) (ns : String)
    (Keeps : String → Prop) (program : Go α) : Prop where
  unkept : ∀ (env : Surroundings) (cluster : Cluster) key,
    program.Issues (serve env.environment) cluster
        (.delete kind key) →
      key.ns = ns ∧ ¬ Keeps key.name ∧
        ∃ object, cluster.find kind key = some object
  complete : ∀ (env : Surroundings) (cluster after : Cluster) value,
    env.run program cluster = (.ok value, after) →
      ∀ name object, cluster.find kind ⟨ns, name⟩ = some object →
        ¬ Keeps name →
          program.Issues (serve env.environment) cluster
            (.delete kind ⟨ns, name⟩)

section Prunes

variable {α β : Type} {kind : Kind} {ns : String} {Keeps : String → Prop}
  {program : Go α}

theorem prunes_prune [DecidablePred Keeps] :
    Prunes kind ns Keeps
      (Client.prune kind { ns := some ns } fun key => Keeps key.name :
        Go Unit) where
  unkept env cluster key hissues := by
    obtain ⟨-, hunkept, object, hfind, hselects⟩ := of_issues_prune hissues
    have hns : key.ns = ns := by
      simpa [ListOptions.selects, StringMap.Matches] using hselects
    exact ⟨hns, hunkept, object, hfind⟩
  complete env cluster after value hrun name object hfind hunkept :=
    issues_prune_of_ok hrun hfind (by simp [ListOptions.selects]) hunkept

theorem prunes_of_deletesNo (hprogram : program.Uses (DeletesNo kind))
    (hkeeps : ∀ name, Keeps name) : Prunes kind ns Keeps program where
  unkept _ _ key hissues :=
    absurd rfl (hprogram.of_issues hissues key)
  complete _ _ _ _ _ name _ _ hunkept := absurd (hkeeps name) hunkept

theorem Prunes.wrapping {message : String}
    (hprogram : Prunes kind ns Keeps program) :
    Prunes kind ns Keeps (program.wrapping message) where
  unkept env cluster key hissues :=
    hprogram.unkept env cluster key (issues_wrapping_iff.mp hissues)
  complete env cluster after value hrun name object hfind hunkept :=
    issues_wrapping_iff.mpr (hprogram.complete env cluster
      after value (run_wrapping_eq_ok.mp hrun) name object hfind
      hunkept)

theorem Prunes.congr {Others : String → Prop}
    (hprogram : Prunes kind ns Keeps program)
    (hsame : ∀ name, Others name ↔ Keeps name) :
    Prunes kind ns Others program := by
  rwa [show Others = Keeps from funext fun name => propext (hsame name)]

theorem Prunes.bind {next : α → Go β} (hprogram : Prunes kind ns Keeps program)
    (hnext : ∀ value, (next value).Uses (DeletesNo kind)) :
    Prunes kind ns Keeps (program.bind next) where
  unkept env cluster key hissues := by
    rcases hissues.of_bind with hfirst | ⟨value, after, -, hlater⟩
    · exact hprogram.unkept env cluster key hfirst
    · exact absurd rfl ((hnext value).of_issues hlater key)
  complete env cluster after value hrun name object hfind hunkept := by
    obtain ⟨first, between, hfirst, -⟩ := run_bind_eq_ok hrun
    exact (hprogram.complete env cluster between first hfirst name
      object hfind hunkept).bind

theorem Prunes.after {kinds : List Kind} {next : α → Go β}
    (hprogram : WritesKinds kinds program) (hkind : kind ∉ kinds)
    (hnext : ∀ (env : Surroundings) (cluster between : Cluster) value,
      env.run program cluster = (.ok value, between) →
        Prunes kind ns Keeps (next value)) :
    Prunes kind ns Keeps (program.bind next) where
  unkept env cluster key hissues := by
    rcases hissues.of_bind with hfirst | ⟨value, between, hrun, hlater⟩
    · exact absurd rfl ((hprogram.deletesNo hkind).of_issues hfirst key)
    · rw [← hprogram.find_eq hrun hkind key]
      exact (hnext env cluster between value hrun).unkept env between key hlater
  complete env cluster after value hrun name object hfind hunkept := by
    obtain ⟨first, between, hfirst, hlast⟩ := run_bind_eq_ok hrun
    rw [← hprogram.find_eq hfirst hkind] at hfind
    rw [issues_bind_of_ok hfirst]
    exact .inr ((hnext env cluster between first hfirst).complete
      env between after value hlast name object hfind hunkept)

end Prunes

/-! ## What a sync prunes -/

def prunedKinds : List Kind :=
  [.grafanaDashboard, .prometheusRule, .podMonitor, .daemonSet]

def prunedNamespace (cr : Observability) : Kind → String
  | .prometheusRule => cr.getPrometheusOperatorNamespace
  | .podMonitor => cr.getPrometheusOperatorNamespace
  | _ => cr.ns

/-- A sync of these indexes deletes no object of this name. -/
def Spared (cr : Observability) (indexes : List RepositoryIndex) :
    Kind → String → Prop
  | .grafanaDashboard, name =>
    cr.externalSyncDisabled = true ∨ cr.descopedModeEnabled = true ∨
      name ∈ (getUniqueDashboards indexes).map DashboardInfo.name
  | .prometheusRule, name =>
    cr.externalSyncDisabled = true ∨
      name ∈ (getUniqueRules indexes).map ResourceInfo.name
  | .podMonitor, name =>
    cr.externalSyncDisabled = true ∨
      name ∈ (getUniquePodMonitors indexes).map ResourceInfo.name
  | .daemonSet, name => daemonsetShouldExist cr indexes name = true
  | _, _ => True

section Sync

variable {platform : Platform} {cr : Observability}
  {indexes : List RepositoryIndex} {kind : Kind}

theorem deletesNo_upsert {other : Kind} {key : ObjectKey}
    {blank : Resource other.Spec}
    {change : Resource other.Spec → Resource other.Spec} :
    (upsert other key blank change : Go _).Uses (DeletesNo kind) := by
  apply upsert_uses
  all_goals
    intros
    intro key hcall
    cases hcall

theorem deletesNo_fetchResource (path tag token : String) :
    (fetchResource platform path tag token).Uses (DeletesNo kind) :=
  have hfetch : WritesKinds [] (fetchResource platform path tag token) :=
    writesKinds_fetchResource path tag token
  hfetch.deletesNo List.not_mem_nil

theorem prunes_syncDashboards :
    Prunes .grafanaDashboard cr.ns
      (· ∈ (getUniqueDashboards indexes).map DashboardInfo.name)
      (syncDashboards platform cr indexes) := by
  refine .bind (.wrapping prunes_prune) fun _ => .wrapping ?_
  refine .bind ?_ fun _ => .forEach fun _ _ =>
    .bind deletesNo_upsert fun _ => trivial
  have hfetch : WritesKinds [] (Program.collect (getUniqueDashboards indexes)
      (fetchRequestedDashboard platform)) :=
    .collect writesKinds_fetchRequestedDashboard
  exact hfetch.deletesNo List.not_mem_nil

theorem prunes_syncRules :
    Prunes .prometheusRule cr.getPrometheusOperatorNamespace
      (· ∈ (getUniqueRules indexes).map ResourceInfo.name)
      (syncRules platform cr indexes) := by
  refine .bind (.wrapping prunes_prune) fun _ => .wrapping (.forEach ?_)
  exact fun _ _ => .bind (deletesNo_fetchResource _ _ _) fun _ =>
    .bind (uses_ofExcept _ _) fun _ => .bind deletesNo_upsert fun _ => trivial

theorem prunes_syncPodMonitors :
    Prunes .podMonitor cr.getPrometheusOperatorNamespace
      (· ∈ (getUniquePodMonitors indexes).map ResourceInfo.name)
      (syncPodMonitors platform cr indexes) := by
  refine .bind (.wrapping prunes_prune) fun _ => .wrapping (.forEach ?_)
  exact fun _ _ => .bind (deletesNo_fetchResource _ _ _) fun _ =>
    .bind (uses_ofExcept _ _) fun _ => .bind deletesNo_upsert fun _ => trivial

theorem deletesNo_createPromtailDaemonsetFor (index : RepositoryIndex) :
    (createPromtailDaemonsetFor platform cr index).Uses (DeletesNo kind) := by
  unfold createPromtailDaemonsetFor
  split
  · trivial
  next promtail observatorium _ =>
    have hlist : WritesKinds [] (getScrapeNamespacesFor promtail) :=
      .bind (writesKinds_list _ _) fun _ =>
      .bind (writesKinds_orFail _) fun _ => writesKinds_done _
    exact .bind (.bind (hlist.deletesNo List.not_mem_nil) fun _ =>
      .bind deletesNo_upsert fun _ => trivial) fun _ =>
        .bind deletesNo_upsert fun _ => trivial

theorem prunes_syncPromtail :
    Prunes .daemonSet cr.ns
      (fun name => daemonsetShouldExist cr indexes name = true)
      (syncPromtail platform cr indexes) := by
  refine .bind (.wrapping prunes_prune) fun _ => .forEach fun index _ => ?_
  exact .wrapping (deletesNo_createPromtailDaemonsetFor index)

theorem prunes_syncResources (hkind : kind ∈ resourceKinds) :
    Prunes kind (prunedNamespace cr kind) (Spared cr indexes kind)
      (syncResources platform cr indexes) := by
  by_cases hexternal : cr.externalSyncDisabled = true
  · apply prunes_of_deletesNo
    · rw [syncResources, if_pos hexternal]
      refine .wrapping (.bind (uses_derefSpec _ _) fun _ => ?_)
      split
      · trivial
      · exact .bind deletesNo_upsert fun _ => trivial
    · intro name
      simp only [resourceKinds, List.mem_cons, List.not_mem_nil,
        or_false] at hkind
      rcases hkind with rfl | rfl | rfl <;> exact .inl hexternal
  · rw [syncResources, if_neg hexternal]
    have hdashboards : WritesKinds [.grafanaDashboard]
        (if cr.descopedModeEnabled then .done ()
          else syncDashboards platform cr indexes : Go Unit) := by
      split
      · exact writesKinds_done _
      · exact writesKinds_syncDashboards List.mem_cons_self _
    have hrules : WritesKinds [.prometheusRule]
        (syncRules platform cr indexes) :=
      writesKinds_syncRules List.mem_cons_self _
    have hmonitors : WritesKinds [.podMonitor]
        (syncPodMonitors platform cr indexes) :=
      writesKinds_syncPodMonitors List.mem_cons_self _
    simp only [resourceKinds, List.mem_cons, List.not_mem_nil,
      or_false] at hkind
    rcases hkind with rfl | rfl | rfl
    · refine .bind ?_ fun _ => .bind (hrules.deletesNo (by decide)) fun _ =>
        hmonitors.deletesNo (by decide)
      split
      next hdescoped =>
        exact prunes_of_deletesNo trivial fun name => .inr (.inl hdescoped)
      next hscoped =>
        refine prunes_syncDashboards.congr fun name => ?_
        simp [Spared, hexternal, hscoped]
    · refine .after hdashboards (by decide) fun _ _ _ _ _ => ?_
      refine .bind (prunes_syncRules.congr fun name => ?_) fun _ =>
        hmonitors.deletesNo (by decide)
      simp [Spared, hexternal]
    · refine .after hdashboards (by decide) fun _ _ _ _ _ => ?_
      refine .after hrules (by decide) fun _ _ _ _ _ => ?_
      refine prunes_syncPodMonitors.congr fun name => ?_
      simp [Spared, hexternal]

theorem deletesNo_assignSyncTime : (assignSyncTime cr).Uses (DeletesNo kind) :=
  have hreads : AllowsKinds [] (DeletesNo kind) :=
    allowsKinds_deletesNo List.not_mem_nil
  hreads.assignSyncTime fun _ _ => nofun

theorem prunes_applyIndexes (hkind : kind ∈ prunedKinds) :
    Prunes kind (prunedNamespace cr kind) (Spared cr indexes kind)
      (applyIndexes platform cr indexes) := by
  have hbefore : kind ∉ refresherKinds ∧
      kind ∉ ([.secret] : List Kind) ∧ kind ∉ .secret :: instanceKinds := by
    revert kind
    decide
  refine .after (writesKinds_syncTokenRefreshers _) hbefore.1
    fun _ _ _ _ _ => ?_
  refine .after (writesKinds_syncAlertmanagerSecret _) hbefore.2.1
    fun _ _ _ _ _ => ?_
  refine .after (writesKinds_syncInstances _) hbefore.2.2 fun _ _ _ _ _ => ?_
  by_cases hresource : kind ∈ resourceKinds
  · have hpromtail : kind ∉ promtailKinds := by
      revert kind
      decide
    exact .bind (prunes_syncResources hresource) fun _ =>
      .bind ((writesKinds_syncPromtail _).deletesNo hpromtail) fun _ =>
        deletesNo_assignSyncTime
  · obtain rfl : kind = .daemonSet := by
      revert kind
      decide
    exact .after (writesKinds_syncResources _) hresource fun _ _ _ _ _ =>
      .bind prunes_syncPromtail fun _ => deletesNo_assignSyncTime

theorem spared_withoutObservatoria (list : List RepositoryIndex)
    (name : String) :
    Spared cr (list.map RepositoryIndex.withoutObservatoria) kind name =
      Spared cr list kind name := by
  have hprometheus (index : RepositoryIndex) :
      index.withoutObservatoria.prometheus = index.prometheus := by
    cases index with
    | mk _ _ _ _ _ config => cases config <;> rfl
  have hgrafana (index : RepositoryIndex) :
      index.withoutObservatoria.grafana = index.grafana := by
    cases index with
    | mk _ _ _ _ _ config => cases config <;> rfl
  have hrules : getUniqueRules
      (list.map RepositoryIndex.withoutObservatoria) = getUniqueRules list := by
    simp only [getUniqueRules, List.foldl_map, RepositoryIndex.rules,
      hprometheus]
    rfl
  have hmonitors : getUniquePodMonitors
      (list.map RepositoryIndex.withoutObservatoria) =
        getUniquePodMonitors list := by
    simp only [getUniquePodMonitors, List.foldl_map,
      RepositoryIndex.podMonitors, hprometheus]
    rfl
  have hdashboards : getUniqueDashboards
      (list.map RepositoryIndex.withoutObservatoria) =
        getUniqueDashboards list := by
    simp only [getUniqueDashboards, List.foldl_map,
      RepositoryIndex.dashboards, hgrafana]
    rfl
  have hdaemonsets : daemonsetShouldExist cr
      (list.map RepositoryIndex.withoutObservatoria) name =
        daemonsetShouldExist cr list name := by
    simp only [daemonsetShouldExist, List.find?_map]
    split
    · rfl
    · have hfind : (list.find? fun index =>
          name = "promtail-" ++ index.withoutObservatoria.id) =
            list.find? fun index => name = "promtail-" ++ index.id := rfl
      simp only [Function.comp_def, hfind]
      cases list.find? fun index => name = "promtail-" ++ index.id with
      | none => rfl
      | some index =>
        cases index with
        | mk _ _ _ _ _ config => cases config <;> rfl
  cases kind <;>
    simp only [Spared, hrules, hmonitors, hdashboards, hdaemonsets]

theorem prunes_configure (hkind : kind ∈ prunedKinds) :
    Prunes kind (prunedNamespace cr kind) (Spared cr indexes kind)
      (configure platform cr indexes) := by
  have hsecret : kind ∉ ([.secret] : List Kind) := by
    revert kind
    decide
  refine .after (writesKinds_deleteUnrequestedCredentialSecrets
    List.mem_cons_self _) hsecret fun _ _ _ _ _ => ?_
  refine .after (writesKinds_completeIndexes List.mem_cons_self _) hsecret
    fun env cluster between completed hrun => ?_
  refine (prunes_applyIndexes hkind).congr fun name => ?_
  rw [← spared_withoutObservatoria completed,
    withoutObservatoria_of_run_completeIndexes hrun,
    spared_withoutObservatoria]

end Sync

/-! ## Deleting what is managed only -/

def IsManaged {σ : Type} (object : Resource σ) : Prop :=
  managedLabels.Matches object.labels = true

instance {σ : Type} (object : Resource σ) : Decidable (IsManaged object) :=
  inferInstanceAs (Decidable (_ = true))

/-- What a sync deletes has the label of the operator. -/
def DeletesOnlyManaged (platform : Platform) (cr : Observability)
    (indexes : List RepositoryIndex) (env : Surroundings)
    (cluster : Cluster) : Prop :=
  ∀ kind ∈ prunedKinds, ∀ key object,
    cluster.find kind key = some object →
      (configure platform cr indexes).Issues
          (serve env.environment) cluster (.delete kind key) →
        IsManaged object

/-- Every object without the label has a name that is spared. -/
def UnmanagedSpared (cr : Observability) (indexes : List RepositoryIndex)
    (cluster : Cluster) : Prop :=
  ∀ kind ∈ prunedKinds, ∀ name object,
    cluster.find kind ⟨prunedNamespace cr kind, name⟩ = some object →
      ¬ IsManaged object → Spared cr indexes kind name

section Managed

variable {platform : Platform} {cr : Observability}
  {indexes : List RepositoryIndex} {env : Surroundings}
  {cluster after : Cluster}

theorem deletesOnlyManaged_of_spared
    (hspared : UnmanagedSpared cr indexes cluster) :
    DeletesOnlyManaged platform cr indexes env cluster := by
  intro kind hkind key object hfind hissues
  by_contra hunmanaged
  obtain ⟨hns, hunkept, -⟩ :=
    (prunes_configure hkind).unkept env cluster key hissues
  have hkey : key = ⟨prunedNamespace cr kind, key.name⟩ := by rw [← hns]
  rw [hkey] at hfind
  exact hunkept (hspared kind hkind key.name object hfind hunmanaged)

theorem spared_of_deletesOnlyManaged
    (hrun : env.run (configure platform cr indexes) cluster = (.ok (), after))
    (honly : DeletesOnlyManaged platform cr indexes env cluster) :
    UnmanagedSpared cr indexes cluster := by
  intro kind hkind name object hfind hunmanaged
  by_contra hunkept
  have hissues : (configure platform cr indexes).Issues
      (serve env.environment) cluster
      (.delete kind ⟨prunedNamespace cr kind, name⟩) :=
    (prunes_configure hkind).complete env cluster after () hrun name
      object hfind hunkept
  exact hunmanaged (honly kind hkind _ object hfind hissues)

end Managed

/-- A sync deletes no unlabelled dashboard, rule, pod monitor or daemon set if
all of them have requested names, whatever fails on the way; and a sync that
completes does so only then. -/
theorem deletesOnlyManaged_iff_spared (cr : Observability)
    (indexes : List RepositoryIndex) (cluster : Cluster) :
    (UnmanagedSpared cr indexes cluster →
      ∀ platform env,
        DeletesOnlyManaged platform cr indexes env cluster) ∧
    ∀ (platform : Platform) (env : Surroundings) (after : Cluster),
      env.run (configure platform cr indexes) cluster = (.ok (), after) →
        (DeletesOnlyManaged platform cr indexes env cluster ↔
          UnmanagedSpared cr indexes cluster) :=
  ⟨fun hspared _ _ => deletesOnlyManaged_of_spared hspared,
    fun _ _ _ hrun => ⟨spared_of_deletesOnlyManaged hrun,
      deletesOnlyManaged_of_spared⟩⟩

def sharedCluster : Cluster :=
  (((Cluster.empty.put .grafanaDashboard ⟨"managed", "theirs"⟩
    Kind.grafanaDashboard.blank).put .prometheusRule ⟨"managed", "theirs"⟩
    Kind.prometheusRule.blank).put .podMonitor ⟨"managed", "theirs"⟩
    Kind.podMonitor.blank).put .daemonSet ⟨"managed", "theirs"⟩
    Kind.daemonSet.blank

def requestedCluster : Cluster :=
  Cluster.empty.put .grafanaDashboard ⟨"managed", "theirs"⟩
    Kind.grafanaDashboard.blank

/-- The dashboard of somebody else has the name of a requested one. -/
theorem requestedCluster_spared :
    requestedCluster.find .grafanaDashboard ⟨"managed", "theirs"⟩ =
        some Kind.grafanaDashboard.blank ∧
      ¬ IsManaged Kind.grafanaDashboard.blank ∧
      ¬ (configure syncPlatform plainCr
        [listingIndex "a" ["theirs.json"]]).Issues
          (serve answeringSurroundings.environment) requestedCluster
          (.delete .grafanaDashboard ⟨"managed", "theirs"⟩) := by
  have hspared : UnmanagedSpared plainCr [listingIndex "a" ["theirs.json"]]
      requestedCluster := by
    intro kind hkind name object hfind _
    have hput : kind = .grafanaDashboard ∧ name = "theirs" := by
      by_contra hother
      rw [requestedCluster, World.find_put_of_ne _ _ fun hsame =>
        hother ⟨hsame.1.symm, (ObjectKey.mk.inj hsame.2).2.symm⟩] at hfind
      cases hfind
    obtain ⟨rfl, rfl⟩ := hput
    exact .inr (.inr (by decide))
  refine ⟨rfl, by decide, fun hissues => ?_⟩
  have hmanaged := (deletesOnlyManaged_iff_spared _ _ _).1 hspared _ _ _
    (by decide) _ _ rfl hissues
  exact absurd hmanaged (by decide)

def DeletesTheirs (kind : Kind) : Prop :=
  ∃ object, sharedCluster.find kind ⟨"managed", "theirs"⟩ = some object ∧
    ¬ IsManaged object ∧
    (configure syncPlatform plainCr [syncedIndex "a" "" []]).Issues
      (serve answeringSurroundings.environment) sharedCluster
      (.delete kind ⟨"managed", "theirs"⟩)

theorem deletesTheirs_of_pruned {kind : Kind} (hkind : kind ∈ prunedKinds) :
    DeletesTheirs kind := by
  obtain ⟨after, hrun⟩ : ∃ after, answeringSurroundings.run
      (configure syncPlatform plainCr [syncedIndex "a" "" []]) sharedCluster =
        (.ok (), after) := ⟨_, rfl⟩
  have hprunes : Prunes kind (prunedNamespace plainCr kind)
      (Spared plainCr [syncedIndex "a" "" []] kind)
      (configure syncPlatform plainCr [syncedIndex "a" "" []]) :=
    prunes_configure hkind
  have hdeletes := hprunes.complete answeringSurroundings sharedCluster after
    () hrun "theirs"
  simp only [prunedKinds, List.mem_cons, List.not_mem_nil, or_false] at hkind
  rcases hkind with rfl | rfl | rfl | rfl
  all_goals
    refine ⟨_, rfl, by decide, hdeletes _ rfl ?_⟩
    simp only [Spared]
    decide

theorem sharedCluster_deletesUnmanaged :
    DeletesTheirs .grafanaDashboard ∧ DeletesTheirs .prometheusRule ∧
      DeletesTheirs .podMonitor ∧ DeletesTheirs .daemonSet := by
  refine ⟨?_, ?_, ?_, ?_⟩ <;>
    exact deletesTheirs_of_pruned (by simp [prunedKinds])

end ObservabilityOperator
