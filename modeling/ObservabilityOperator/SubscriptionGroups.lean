import ObservabilityOperator.OperatorInstallation

/-!
# The operator group of the Prometheus operator

A subscription takes effect only in a namespace with exactly one operator
group, and this one has to select the namespace.  The stage that installs the
Prometheus operator looks for a group that does and writes one of its own if
there is none.  It looks in the namespace of the custom resource.
-/

namespace ObservabilityOperator

/-- An operator group of the namespace targets it. -/
def SelectsItself (ns : String) (cluster : Cluster) : Prop :=
  ∃ name group, cluster.find .operatorGroup ⟨ns, name⟩ = some group ∧
    ns ∈ group.spec.targetNamespaces

def WithoutGroups (ns : String) (cluster : Cluster) : Prop :=
  ∀ name, cluster.find .operatorGroup ⟨ns, name⟩ = none

theorem any_select_iff {cluster : Cluster} {ns : String} :
    ((cluster.select .operatorGroup { ns := some ns }).any fun group =>
        group.2.spec.targetNamespaces.any (· == ns)) = true ↔
      SelectsItself ns cluster := by
  rw [List.any_eq_true]
  constructor
  · rintro ⟨⟨key, group⟩, hmem, hselects⟩
    obtain ⟨hfind, hlisted⟩ := (cluster.mem_select_iff _ _ _ _).mp hmem
    have hns : key.ns = ns := by
      simp only [ListOptions.selects, Bool.and_eq_true, beq_iff_eq] at hlisted
      exact hlisted.1
    subst hns
    exact ⟨key.name, group, hfind, by simpa using hselects⟩
  · rintro ⟨name, group, hfind, hselects⟩
    refine ⟨(⟨ns, name⟩, group), ?_, by simpa using hselects⟩
    refine (cluster.mem_select_iff _ _ _ _).mpr ⟨hfind, ?_⟩
    simp [ListOptions.selects, StringMap.Matches]

theorem run_hasOperatorGroupForNamespace {env : Surroundings}
    {cluster after : Cluster} {ns : String} {found : Bool}
    (hrun : env.run (hasOperatorGroupForNamespace ns) cluster =
      (.ok found, after)) :
    (found = true ↔ SelectsItself ns cluster) ∧ after = cluster.advance := by
  refine run_listed (fun ending => ending = (.ok found, after) →
    (found = true ↔ SelectsItself ns cluster) ∧ after = cluster.advance)
    (fun _ herror => by cases herror) (fun hlisted => ?_) hrun
  cases hlisted
  exact ⟨any_select_iff, rfl⟩

namespace PrometheusInstallation

/-- The namespace of the subscription has a group that names it, and one has
been created only if it had none. -/
structure ProvidesGroup (cr : Observability) (before after : Cluster) :
    Prop where
  selected : SelectsItself (getPrometheusSubscription cr).ns after
  created : ∀ key, before.find .operatorGroup key = none →
    (after.find .operatorGroup key).isSome →
    WithoutGroups (getPrometheusSubscription cr).ns before

/-- What was found for the custom resource is there for the subscription as
well, or else the group that is written is the only one or not new. -/
def FindsItsGroup (cr : Observability) (cluster : Cluster) : Prop :=
  (SelectsItself cr.ns cluster →
      SelectsItself (getPrometheusSubscription cr).ns cluster) ∧
    (¬ SelectsItself cr.ns cluster →
      (cluster.find .operatorGroup (getPrometheusOperatorgroup cr)).isSome ∨
        WithoutGroups (getPrometheusSubscription cr).ns cluster)

section Group

variable {cr : Observability} {env : Surroundings}
  {cluster after : Cluster}

theorem cases_of_run_reconcileOperatorgroup
    (hrun : env.run (reconcileOperatorgroup cr) cluster = (.ok (), after)) :
    (SelectsItself cr.ns cluster ∧
        ∀ key, after.find .operatorGroup key =
          cluster.find .operatorGroup key) ∨
      (¬ SelectsItself cr.ns cluster ∧
        SelectsItself (getPrometheusSubscription cr).ns after ∧
        (after.find .operatorGroup (getPrometheusOperatorgroup cr)).isSome ∧
        ∀ key, key ≠ getPrometheusOperatorgroup cr →
          after.find .operatorGroup key = cluster.find .operatorGroup key) := by
  obtain ⟨found, between, hfound, hrest⟩ := Program.run_bind_eq_ok hrun
  obtain ⟨hselects, rfl⟩ := run_hasOperatorGroupForNamespace hfound
  cases found with
  | true =>
    cases hrest
    exact .inl ⟨hselects.mp rfl, fun _ => rfl⟩
  | false =>
    have hnone : ¬ SelectsItself cr.ns cluster := by
      simpa using hselects
    rw [if_neg Bool.false_ne_true] at hrest
    obtain ⟨hwritten, -, hkept⟩ := run_upsert_discarded_eq_ok hrest
    refine .inr ⟨hnone, ⟨_, _, hwritten, List.mem_singleton_self _⟩, ?_, ?_⟩
    · rw [hwritten]
      rfl
    · intro key hother
      exact hkept _ _ fun hsame => hother hsame.2.symm

end Group

/-- The stage provides the group exactly if what it finds for the custom
resource is there for the subscription, and what it writes is the only group
or not a new one. -/
theorem group_provided_iff {cr : Observability} {env : Surroundings}
    {cluster after : Cluster}
    (hrun : env.run (reconcileOperatorgroup cr) cluster = (.ok (), after)) :
    ProvidesGroup cr cluster after ↔ FindsItsGroup cr cluster := by
  rcases cases_of_run_reconcileOperatorgroup hrun with
    ⟨hfound, hsame⟩ | ⟨hnone, hselected, hwritten, hkept⟩
  · have hselects : SelectsItself (getPrometheusSubscription cr).ns after ↔
        SelectsItself (getPrometheusSubscription cr).ns cluster := by
      simp only [SelectsItself, hsame]
    constructor
    · intro hprovides
      exact ⟨fun _ => hselects.mp hprovides.selected,
        fun habsent => absurd hfound habsent⟩
    · intro hfinds
      refine ⟨hselects.mpr (hfinds.1 hfound), fun key hbefore hafter => ?_⟩
      rw [hsame, hbefore] at hafter
      cases hafter
  · constructor
    · intro hprovides
      refine ⟨fun hfound => absurd hfound hnone, fun _ => ?_⟩
      cases hbefore :
        cluster.find .operatorGroup (getPrometheusOperatorgroup cr) with
      | some group => exact .inl rfl
      | none => exact .inr (hprovides.created _ hbefore hwritten)
    · intro hfinds
      refine ⟨hselected, fun key hbefore hafter => ?_⟩
      obtain rfl : key = getPrometheusOperatorgroup cr := by
        by_contra hother
        rw [hkept key hother, hbefore] at hafter
        cases hafter
      refine (hfinds.2 hnone).resolve_left ?_
      simp [hbefore]

def groupedCluster (targets : List String) : Cluster :=
  Cluster.empty.put .operatorGroup ⟨"managed", "operators"⟩
    { spec := { targetNamespaces := targets } }

def ownNamespaceCr : Observability :=
  { plainCr with
    spec :=
      { descopedMode := some
          { enabled := some true
            prometheusOperatorNamespace := "prometheus" } } }

theorem group_provided_found :
    ∃ after, Surroundings.quiet.run (reconcileOperatorgroup plainCr)
        (groupedCluster ["managed"]) = (.ok (), after) ∧
      ProvidesGroup plainCr (groupedCluster ["managed"]) after := by
  have hselects : SelectsItself "managed" (groupedCluster ["managed"]) :=
    ⟨"operators", _, rfl, List.mem_singleton_self _⟩
  refine ⟨_, rfl, (@group_provided_iff _ .quiet _ _ rfl).mpr ?_⟩
  exact ⟨fun _ => hselects, fun hnone => absurd hselects hnone⟩

/-- In descoped mode no group is written, because the namespace of the custom
resource has one.  A group for all namespaces gets a second one beside it. -/
theorem descopedSubscription_without_group :
    (∃ after, Surroundings.quiet.run (reconcileOperatorgroup ownNamespaceCr)
          (groupedCluster ["managed"]) = (.ok (), after) ∧
        WithoutGroups "prometheus" after ∧
        ¬ ProvidesGroup ownNamespaceCr (groupedCluster ["managed"]) after) ∧
      ∃ after, Surroundings.quiet.run (reconcileOperatorgroup plainCr)
          (groupedCluster []) = (.ok (), after) ∧
        ¬ ProvidesGroup plainCr (groupedCluster []) after := by
  constructor
  · have hnone : WithoutGroups "prometheus" (groupedCluster ["managed"]) :=
      fun name => World.find_put_of_ne Cluster.empty _ (by simp)
    refine ⟨_, rfl, hnone, fun hprovides => ?_⟩
    obtain ⟨name, group, hfind, -⟩ := hprovides.selected
    cases (hnone name).symm.trans hfind
  · refine ⟨_, rfl, fun hprovides => ?_⟩
    have hnone := hprovides.created (getPrometheusOperatorgroup plainCr) rfl rfl
    cases hnone "operators"

end PrometheusInstallation

end ObservabilityOperator
