import ObservabilityOperator.RemoteWriteTargets
import ObservabilityOperator.UnmanagedObjects

/-!
# Nothing is sent where Observatorium or the repositories are disabled

Metrics leave the cluster through the remote write targets of the Prometheus
and logs through Promtail, both with the help of token refreshers.  If
Observatorium is disabled, or the operator is not to read any repository, all
of these go away with the next sync that completes, whatever an earlier
configuration has left behind.
-/

namespace ObservabilityOperator

open Program

/-- The stage loads these indexes and applies them to the end. -/
def RunsSync (platform : Platform) (order : IterationOrder)
    (cr : Observability) (migrated : Bool) (env : Surroundings)
    (cluster : Cluster) (indexes : List RepositoryIndex) (after : Cluster) :
    Prop :=
  ∃ repos prepared collected,
    env.run (prepare platform cr migrated) cluster =
      (.ok (.load repos), prepared) ∧
    env.run (collectIndexes platform cr order repos) prepared =
      (.ok indexes, collected) ∧
    env.run (configure platform cr indexes) collected = (.ok (), after)

/-- Nothing is left that sends telemetry to an Observatorium. -/
structure EgressStopped (cr : Observability) (after : Cluster) : Prop where
  prometheus : ∃ prometheus,
    after.find .prometheus (getPrometheus cr) = some prometheus ∧
      prometheus.spec.remoteWrite = [] ∧
      prometheus.spec.secrets =
        [(getPrometheusProxySecret cr).name, "prometheus-k8s-tls"]
  refreshers : ∀ name object,
    after.find .deployment ⟨cr.getPrometheusOperatorNamespace, name⟩ =
        some object →
      authenticationProxyLabels.Matches object.labels = false
  policies : ∀ name object,
    after.find .networkPolicy ⟨cr.getPrometheusOperatorNamespace, name⟩ =
        some object →
      authenticationProxyLabels.Matches object.labels = false
  promtail : ∀ name, after.find .daemonSet ⟨cr.ns, name⟩ = none

section Egress

variable {platform : Platform} {order : IterationOrder}
  {cr : Observability} {migrated : Bool} {env : Surroundings}
  {cluster after : Cluster} {indexes : List RepositoryIndex}

theorem run_reconcileStage_of_runsSync
    (hsync : RunsSync platform order cr migrated env cluster indexes after) :
    env.run (reconcileStage platform order cr migrated) cluster =
      (.ok .success, after) := by
  obtain ⟨repos, prepared, collected, hprepare, hcollect, hconfigure⟩ := hsync
  refine (run_bind_ok hprepare).trans ?_
  refine (run_bind_ok hcollect).trans ?_
  exact (run_bind_ok hconfigure).trans rfl

theorem indexes_eq_nil_of_externalSyncDisabled
    (hexternal : cr.externalSyncDisabled = true)
    (hsync : RunsSync platform order cr migrated env cluster indexes
      after) : indexes = [] := by
  obtain ⟨repos, prepared, collected, hprepare, hcollect, -⟩ := hsync
  have hrepos : repos = [] := by
    unfold prepare at hprepare
    split at hprepare
    · cases hprepare
    · obtain ⟨due, checked, -, hprepare⟩ := run_bind_eq_ok hprepare
      split at hprepare
      · obtain ⟨secrets, listed, hlist, hprepare⟩ :=
          run_bind_eq_ok hprepare
        obtain rfl : secrets = [] := by
          obtain ⟨selector, read, -, hlist⟩ := run_bind_eq_ok hlist
          rw [hexternal, if_pos rfl] at hlist
          cases hlist
          rfl
        rw [hexternal] at hprepare
        cases hprepare
        rfl
      · cases hprepare
  subst hrepos
  have harranged : order.arrange [] = [] :=
    List.perm_nil.mp (order.perm [])
  unfold collectIndexes at hcollect
  rw [List.map_nil, harranged] at hcollect
  cases hcollect
  rfl

theorem run_deleteUnrequested_of_disabled {kind : Kind}
    {render : String → String}
    (hdisabled : cr.observatoriumDisabled = true ∨
      cr.externalSyncDisabled = true)
    (hrun : env.run
      (deleteUnrequested platform kind render cr indexes) cluster =
        (.ok (), after)) {name : String} {object : Resource kind.Spec}
    (hfind : after.find kind ⟨cr.getPrometheusOperatorNamespace, name⟩ =
      some object) :
    authenticationProxyLabels.Matches object.labels = false := by
  have hfalse (secret : Option (Resource SecretSpec)) (other : String) :
      shouldExist platform cr render secret indexes other = .ok false := by
    rw [shouldExist, if_pos]
    rcases hdisabled with hdisabled | hdisabled <;> simp [hdisabled]
  rw [deleteUnrequested_eq] at hrun
  obtain ⟨items, listed, hlist, hrun⟩ := run_bind_eq_ok hrun
  obtain ⟨rfl, rfl⟩ := run_list_orFail_eq_ok hlist
  obtain ⟨secret, read, hread, hloop⟩ := run_bind_eq_ok hrun
  obtain ⟨hgone, hkept⟩ := run_forEach_prune (fun _ => True)
    (fun item _ hunwanted => absurd trivial hunwanted)
    (fun item _ _ before between hbetween => by
      rw [hfalse] at hbetween
      exact run_delete_eq_ok hbetween) hloop
  have hframe : read.find kind ⟨cr.getPrometheusOperatorNamespace, name⟩ =
      cluster.find kind ⟨cr.getPrometheusOperatorNamespace, name⟩ := by
    have hreads : WritesKinds [] (getOauth2ConfigSecret cr) :=
      writesKinds_getOauth2ConfigSecret
    rw [hreads.find_eq hread List.not_mem_nil, World.find_advance]
  rw [← Bool.not_eq_true]
  intro hmatches
  by_cases hlisted : (⟨cr.getPrometheusOperatorNamespace, name⟩, object) ∈
      cluster.select kind
        { ns := some cr.getPrometheusOperatorNamespace
          labels := authenticationProxyLabels }
  · rw [hgone _ hlisted trivial] at hfind
    cases hfind
  · have hsame : after.find kind ⟨cr.getPrometheusOperatorNamespace, name⟩ =
        read.find kind ⟨cr.getPrometheusOperatorNamespace, name⟩ := by
      apply hkept
      rintro - ⟨key, other⟩ hitem - rfl
      rw [hgone _ hitem trivial] at hfind
      cases hfind
    rw [hsame, hframe] at hfind
    apply hlisted
    rw [World.mem_select_iff]
    exact ⟨hfind, by simp [ListOptions.selects, hmatches]⟩

theorem refreshers_of_run_syncTokenRefreshers
    (hdisabled : cr.observatoriumDisabled = true ∨
      cr.externalSyncDisabled = true ∧ indexes = [])
    (hrun : env.run (syncTokenRefreshers platform cr indexes)
      cluster = (.ok (), after)) :
    (∀ name object,
      after.find .deployment ⟨cr.getPrometheusOperatorNamespace, name⟩ =
          some object →
        authenticationProxyLabels.Matches object.labels = false) ∧
    ∀ name object,
      after.find .networkPolicy ⟨cr.getPrometheusOperatorNamespace, name⟩ =
          some object →
        authenticationProxyLabels.Matches object.labels = false := by
  have hflags : cr.observatoriumDisabled = true ∨
      cr.externalSyncDisabled = true :=
    hdisabled.imp_right And.left
  obtain ⟨_, deployments, hdeployments, hrun⟩ := run_bind_eq_ok hrun
  obtain ⟨_, policies, hpolicies, hrun⟩ := run_bind_eq_ok hrun
  obtain rfl : policies = after := by
    split at hrun
    · cases hrun
      rfl
    next henabled =>
      obtain ⟨-, rfl⟩ := hdisabled.resolve_left henabled
      cases hrun
      rfl
  have hpruned : WritesKinds [.networkPolicy]
      (deleteUnrequestedNetworkPolicies platform cr indexes) :=
    writesKinds_deleteUnrequested List.mem_cons_self _ _
  have hkept := hpruned.wrapping.find_eq hpolicies
    (show Kind.deployment ∉ [Kind.networkPolicy] by decide)
  constructor
  · intro name object hfind
    rw [hkept] at hfind
    exact run_deleteUnrequested_of_disabled hflags
      (run_wrapping_eq_ok.mp hdeployments) hfind
  · intro name object hfind
    exact run_deleteUnrequested_of_disabled hflags
      (run_wrapping_eq_ok.mp hpolicies) hfind

theorem remoteWriteTargets_of_disabled
    (hdisabled : cr.observatoriumDisabled = true ∨ indexes = []) :
    remoteWriteTargets platform cr indexes = .done [] := by
  rw [remoteWriteTargets]
  split
  · rfl
  next henabled =>
    obtain rfl := hdisabled.resolve_left henabled
    rfl

theorem daemonSets_of_run_syncPromtail
    (hdisabled : cr.observatoriumDisabled = true ∨
      cr.externalSyncDisabled = true)
    (hrun : env.run (syncPromtail platform cr indexes) cluster =
      (.ok (), after)) (name : String) :
    after.find .daemonSet ⟨cr.ns, name⟩ = none := by
  have hunrequested (other : String) :
      ¬ daemonsetShouldExist cr indexes other = true := by
    rw [daemonsetShouldExist, if_pos]
    · simp
    · rcases hdisabled with hdisabled | hdisabled <;> simp [hdisabled]
  have huncreated (index : RepositoryIndex) :
      createPromtailDaemonsetFor platform cr index = .done () := by
    have hnone : promtailObservatorium cr index = none := by
      have hflags : (cr.observatoriumDisabled || cr.externalSyncDisabled) =
          true := by
        rcases hdisabled with hdisabled | hdisabled <;> simp [hdisabled]
      rw [promtailObservatorium]
      split
      · rfl
      · split
        · rfl
        · rfl
    rw [createPromtailDaemonsetFor, hnone]
  obtain ⟨_, pruned, hprune, hloop⟩ := run_bind_eq_ok hrun
  obtain rfl : pruned = after := by
    have hnothing : (Program.forEach indexes fun index =>
        (createPromtailDaemonsetFor platform cr index).wrapping
          ("error creating promtail daemon set for " ++ index.id)) =
            .done () := by
      simp only [huncreated]
      clear hloop hprune hrun hunrequested
      induction indexes with
      | nil => rfl
      | cons index rest ih => exact ih
    rw [hnothing] at hloop
    cases hloop
    rfl
  have hpruned := run_wrapping_eq_ok.mp hprune
  rw [deleteUnrequestedDaemonsets_eq_prune] at hpruned
  obtain ⟨hgone, hkept⟩ := run_prune_eq_ok hpruned
  cases hfind : cluster.find .daemonSet ⟨cr.ns, name⟩ with
  | some object =>
    exact hgone _ object hfind (by simp [ListOptions.selects])
      (hunrequested name)
  | none =>
    rw [← hfind]
    apply hkept
    intro _ object hfound
    rw [hfind] at hfound
    cases hfound

/-- With Observatorium or the repositories disabled, a sync that completes
leaves no remote write target, no token of an Observatorium at the Prometheus,
no token refresher, no policy of one and no Promtail. -/
theorem egress_stopped
    (hdisabled : cr.observatoriumDisabled = true ∨
      cr.externalSyncDisabled = true)
    (hsync : RunsSync platform order cr migrated env cluster indexes
      after) : EgressStopped cr after := by
  have hindexes : cr.observatoriumDisabled = true ∨
      cr.externalSyncDisabled = true ∧ indexes = [] :=
    hdisabled.imp_right fun hexternal => ⟨hexternal,
      indexes_eq_nil_of_externalSyncDisabled hexternal hsync⟩
  obtain ⟨repos, prepared, collected, -, -, hrun⟩ := hsync
  obtain ⟨sync⟩ := exists_completedSync hrun
  have hcompleted : cr.observatoriumDisabled = true ∨
      cr.externalSyncDisabled = true ∧ sync.completed = [] := by
    refine hindexes.imp_right fun ⟨hexternal, hnil⟩ => ⟨hexternal, ?_⟩
    have hempty : indexes.map RepositoryIndex.withoutObservatoria = [] := by
      rw [hnil, List.map_nil]
    exact List.map_eq_nil_iff.mp
      ((withoutObservatoria_of_run_completeIndexes sync.completes).trans hempty)
  obtain ⟨hrefreshers, hpolicies⟩ :=
    refreshers_of_run_syncTokenRefreshers hcompleted sync.writesRefreshers
  constructor
  · obtain ⟨host, targets, storage, prometheus, before, read, htargets, -,
      hfind, hspec, -⟩ := run_reconcilePrometheus_eq_ok sync.writesPrometheus
    rw [remoteWriteTargets_of_disabled (hcompleted.imp_right And.right)]
      at htargets
    cases htargets
    rw [← sync.find_prometheus] at hfind
    exact ⟨prometheus, hfind, by rw [hspec]; rfl, by rw [hspec]; rfl⟩
  · intro name object hfind
    rw [sync.framed .deployment _ (by simp [RestWrites, restKinds,
      resourceKinds, promtailKinds])] at hfind
    exact hrefreshers name object hfind
  · intro name object hfind
    rw [sync.framed .networkPolicy _ (by simp [RestWrites, restKinds,
      resourceKinds, promtailKinds])] at hfind
    exact hpolicies name object hfind
  · intro name
    rw [sync.keepsObjects]
    exact daemonSets_of_run_syncPromtail hdisabled sync.writesPromtail name

end Egress

def selfContainedCr : Observability :=
  { plainCr with
    spec :=
      { configurationSelector := some {}
        selfContained := some { disableRepoSync := some true } } }

def leftoverCluster : Cluster :=
  ((Cluster.empty.put .deployment ⟨"managed", "token-refresher-logs-obs"⟩
    { Kind.deployment.blank with
      labels := authenticationProxyLabels }).put .networkPolicy
    ⟨"managed", "token-refresher-logs-obs-network-policy"⟩
    { Kind.networkPolicy.blank with
      labels := authenticationProxyLabels }).put .daemonSet
    ⟨"managed", "promtail-kafka"⟩ Kind.daemonSet.blank

theorem leftoverCluster_egress_stopped :
    ∃ after, RunsSync syncPlatform .given selfContainedCr false
        answeringSurroundings leftoverCluster [] after ∧
      EgressStopped selfContainedCr after := by
  have hsync : ∃ after, RunsSync syncPlatform .given selfContainedCr false
      answeringSurroundings leftoverCluster [] after :=
    ⟨_, _, _, _, rfl, rfl, rfl⟩
  obtain ⟨after, hsync⟩ := hsync
  exact ⟨after, hsync, egress_stopped (.inr rfl) hsync⟩

end ObservabilityOperator
