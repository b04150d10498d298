import ObservabilityOperator.LoggingOwnership

/-!
# Removing cluster logging in several passes

Whether there is anything to clean up is decided anew in every pass, by the
label of the subscription.  A failure between the first deletion and the last
one therefore leaves objects behind, which no later pass looks for.
-/

namespace ObservabilityOperator

open Program

namespace LoggingInstallation

/-! ## The objects to remove -/

def loggingOperands (cr : Observability) (installedCsv : String) :
    List (Kind × ObjectKey) :=
  [(.subscription, getLoggingSubscription cr),
    (.clusterServiceVersion, ⟨loggingNamespace, installedCsv⟩),
    (.clusterLogging, getClusterLoggingCR),
    (.clusterLogForwarder, getClusterLogForwarderCR)]

/-- None of the operands is left. -/
def LoggingRemoved (cr : Observability) (installedCsv : String)
    (cluster : Cluster) : Prop :=
  ∀ operand ∈ loggingOperands cr installedCsv,
    cluster.find operand.1 operand.2 = none

/-- The subscription is the first managed one, and all operands are there. -/
structure LoggingInstalled (cr : Observability) (installedCsv : String)
    (cluster : Cluster) : Prop where
  first : ∃ subscription, (cluster.select .subscription
      managedInLoggingNamespace).head? =
        some (getLoggingSubscription cr, subscription) ∧
      subscription.spec.installedCsv = installedCsv
  present : ∀ operand ∈ loggingOperands cr installedCsv,
    (cluster.find operand.1 operand.2).isSome

/-- No deletion fails in a way that a later pass does not notice: where that
of the subscription fails it has not happened, those of the version and of
the resource of cluster logging do not fail, and where that of the log
forwarder fails it has happened. -/
structure DeletesNoticeably (cr : Observability) (installedCsv : String)
    (env : Surroundings) : Prop where
  subscription : ∀ tick fault, env.fault tick
    (.delete .subscription (getLoggingSubscription cr)) = some fault →
      fault.applied = false
  version : ∀ tick, env.fault tick
    (.delete .clusterServiceVersion ⟨loggingNamespace, installedCsv⟩) = none
  logging : ∀ tick, env.fault tick
    (.delete .clusterLogging getClusterLoggingCR) = none
  forwarder : ∀ tick fault, env.fault tick
    (.delete .clusterLogForwarder getClusterLogForwarderCR) = some fault →
      fault.applied = true

section

variable {cr : Observability} {installedCsv : String}
  {env : Surroundings} {cluster state : Cluster}

def withoutLogging (cr : Observability) (installedCsv : String)
    (cluster : Cluster) : Cluster :=
  (loggingOperands cr installedCsv).foldl
    (fun state operand => (state.remove operand.1 operand.2).advance) cluster

theorem loggingRemoved_withoutLogging (cluster : Cluster) :
    LoggingRemoved cr installedCsv
      (withoutLogging cr installedCsv cluster) := by
  suffices hfold : ∀ (operands : List (Kind × ObjectKey)) (state : Cluster)
      (removed : Kind × ObjectKey), removed ∈ operands ∨
        state.find removed.1 removed.2 = none →
          (operands.foldl (fun state operand =>
            (state.remove operand.1 operand.2).advance) state).find
              removed.1 removed.2 = none by
    exact fun operand hoperand => hfold _ _ operand (.inl hoperand)
  intro operands
  induction operands with
  | nil =>
    rintro state removed (hmem | hnone)
    · cases hmem
    · exact hnone
  | cons first rest ih =>
    rintro state removed (hmem | hnone)
    · rcases List.mem_cons.mp hmem with rfl | hrest
      · exact ih _ _ (.inr (state.find_remove_self _ _))
      · exact ih _ _ (.inl hrest)
    · exact ih _ _ (.inr (World.find_remove_of_none hnone))

/-- The deletions stop at the first one with nothing done, or all of them are
done. -/
theorem run_deleteLogging (hdeletes : DeletesNoticeably cr installedCsv env)
    (cluster : Cluster) :
    (∃ error, env.run (deleteLogging cr installedCsv) cluster =
        (.error error, cluster.advance)) ∨
      (env.run (deleteLogging cr installedCsv) cluster).2 =
        withoutLogging cr installedCsv cluster := by
  have hlast (state : Cluster) : (env.run (Client.deleteIfFound
      Kind.clusterLogForwarder getClusterLogForwarderCR) state).2 =
        (state.remove .clusterLogForwarder
          getClusterLogForwarderCR).advance := by
    cases hfault : env.fault state.tick
        (.delete .clusterLogForwarder getClusterLogForwarderCR) with
    | none => exact congrArg Prod.snd (run_deleteIfFound_of_none hfault)
    | some fault =>
      refine (congrArg Prod.snd (run_deleteIfFound_of_some hfault)).trans ?_
      rw [World.settle, hdeletes.forwarder _ fault hfault]
      rfl
  cases hfirst : env.fault cluster.tick
      (.delete .subscription (getLoggingSubscription cr)) with
  | some fault =>
    have hrun : env.run (deleteLogging cr installedCsv) cluster =
        (.error _, _) :=
      run_bind_error (run_deleteIfFound_of_some hfirst)
    rw [World.settle, hdeletes.subscription _ fault hfirst] at hrun
    exact .inl ⟨_, hrun⟩
  | none =>
    have hrun : env.run (deleteLogging cr installedCsv) cluster =
        env.run (Client.deleteIfFound Kind.clusterLogForwarder
          getClusterLogForwarderCR) _ :=
      (run_bind_ok (run_deleteIfFound_of_none hfirst)).trans
        ((run_bind_ok (run_deleteIfFound_of_none
          (hdeletes.version _))).trans
          (run_bind_ok (run_deleteIfFound_of_none (hdeletes.logging _))))
    rw [hrun]
    exact .inr (hlast _)

def Unfinished (cr : Observability) (installedCsv : String) (cluster : Cluster)
    (run : Except (Abort ApiError) ObservabilityStageStatus × Cluster) :
    Prop :=
  run.2.objects = cluster.objects ∧ run.1 ≠ .ok .success ∨
    LoggingRemoved cr installedCsv run.2

theorem unfinished_bind {α : Type} {program : Go α}
    {next : α → Go ObservabilityStageStatus} (hprogram : WritesKinds [] program)
    (hstate : state.objects = cluster.objects)
    (hnext : ∀ value after,
      env.run program state = (.ok value, after) →
        after.objects = cluster.objects →
          Unfinished cr installedCsv cluster (env.run (next value) after)) :
    Unfinished cr installedCsv cluster (env.run (program.bind next) state) := by
  rcases hrun : env.run program state with ⟨result, after⟩
  have hafter : after.objects = cluster.objects :=
    (funext fun _ => hprogram.objects_eq hrun List.not_mem_nil).trans hstate
  cases result with
  | error error =>
    have hbind : env.run (program.bind next) state =
        (.error error, after) := run_bind_error hrun
    rw [hbind]
    exact .inl ⟨hafter, nofun⟩
  | ok value =>
    have hbind : env.run (program.bind next) state =
        env.run (next value) after := run_bind_ok hrun
    rw [hbind]
    exact hnext value after hrun hafter

theorem unfinished_deleteLogging
    (hdeletes : DeletesNoticeably cr installedCsv env)
    (hstate : state.objects = cluster.objects) :
    Unfinished cr installedCsv cluster
      (env.run ((deleteLogging cr installedCsv).bind fun _ =>
        .done .success) state) := by
  have hlast : (env.run ((deleteLogging cr installedCsv).bind
      fun _ => .done ObservabilityStageStatus.success) state).2 =
        (env.run (deleteLogging cr installedCsv) state).2 := by
    rw [Surroundings.run, run_bind]
    split <;> simp_all
  rcases run_deleteLogging hdeletes state with ⟨error, herror⟩ | hall
  · have hrun : env.run ((deleteLogging cr installedCsv).bind
        fun _ => .done ObservabilityStageStatus.success) state =
          (.error error, state.advance) := run_bind_error herror
    rw [hrun]
    refine .inl ⟨hstate, fun hsuccess => ?_⟩
    cases hsuccess
  · refine .inr ?_
    rw [hlast, hall]
    exact loggingRemoved_withoutLogging state

theorem unfinished_cleanup (hscoped : cr.descopedModeEnabled = false)
    (hinstalled : LoggingInstalled cr installedCsv cluster)
    (hdeletes : DeletesNoticeably cr installedCsv env)
    (hstate : state.objects = cluster.objects) :
    Unfinished cr installedCsv cluster (env.run (cleanup cr) state) := by
  obtain ⟨subscription, hfirst, hversion⟩ := hinstalled.first
  have hselect {other : Cluster} (hother : other.objects = cluster.objects) :
      (other.select .subscription managedInLoggingNamespace).head? =
        some (getLoggingSubscription cr, subscription) := by
    rw [World.select, hother]
    exact hfirst
  unfold cleanup
  rw [hscoped, if_neg Bool.false_ne_true]
  refine unfinished_bind (fun _ hallowed =>
    uses_checkLoggingSubscriptionForLabel hallowed.toAllowsReads.prelude)
      hstate fun managed checked hcheck hchecked => ?_
  obtain ⟨hmanaged, -⟩ := run_checkLoggingSubscriptionForLabel hcheck
  have hsome : managed = true := by
    rw [hmanaged, decide_eq_true_eq]
    exact List.length_pos_iff.mpr fun hnil => by
      simpa [hnil] using hselect hstate
  rw [hsome, if_pos rfl]
  refine unfinished_bind (fun _ hallowed =>
    uses_getInstalledLoggingCSVName hallowed.toAllowsReads.prelude)
      hchecked fun name named hname hnamed => ?_
  obtain ⟨⟨listed, hlisted, hinstalledCsv⟩, -⟩ :=
    run_getInstalledLoggingCSVName hname
  obtain rfl : name = installedCsv := by
    cases (hselect hchecked).symm.trans hlisted
    exact hinstalledCsv.symm.trans hversion
  split
  · refine .inl ⟨hnamed, fun hsuccess => ?_⟩
    cases hsuccess
  · exact unfinished_deleteLogging hdeletes hnamed

theorem loggingRemoved_of_run {after : Cluster}
    {result : Except (Abort ApiError) ObservabilityStageStatus}
    (hremoved : LoggingRemoved cr installedCsv cluster)
    (hrun : env.run (cleanup cr) cluster = (result, after)) :
    LoggingRemoved cr installedCsv after := by
  intro operand hoperand
  have huses : (cleanup cr).Uses fun call => ∀ object,
      call ≠ .create operand.1 operand.2 object :=
    uses_cleanup (fun _ _ _ _ => nofun)
      ⟨fun _ _ _ => nofun, fun _ _ _ _ => nofun⟩
  exact Surroundings.find_eq_none_of_run hrun huses (hremoved operand hoperand)

def cleanupPasses (cr : Observability) (passes : List Surroundings)
    (cluster : Cluster) : Cluster :=
  passes.foldl (fun state env =>
    (env.run (cleanup cr) state).2) cluster

theorem cleanupPasses_cases {passes : List Surroundings}
    (hscoped : cr.descopedModeEnabled = false)
    (hinstalled : LoggingInstalled cr installedCsv cluster)
    (hdeletes : ∀ env ∈ passes,
      DeletesNoticeably cr installedCsv env)
    (hstate : state.objects = cluster.objects ∨
      LoggingRemoved cr installedCsv state) :
    (cleanupPasses cr passes state).objects = cluster.objects ∨
      LoggingRemoved cr installedCsv (cleanupPasses cr passes state) := by
  induction passes generalizing state with
  | nil => exact hstate
  | cons first rest ih =>
    refine ih (fun env hrest => hdeletes env (List.mem_cons_of_mem _ hrest)) ?_
    rcases hstate with hsame | hremoved
    · rcases unfinished_cleanup hscoped hinstalled
        (hdeletes first List.mem_cons_self) hsame with ⟨hsame, -⟩ | hall
      · exact .inl hsame
      · exact .inr hall
    · exact .inr (loggingRemoved_of_run hremoved rfl)

/-- A clean-up whose deletions fail noticeably only has left nothing when it
succeeds. -/
theorem loggingRemoved_of_success {passes : List Surroundings}
    {last : Surroundings} {after : Cluster}
    (hscoped : cr.descopedModeEnabled = false)
    (hinstalled : LoggingInstalled cr installedCsv cluster)
    (hdeletes : ∀ env ∈ passes ++ [last],
      DeletesNoticeably cr installedCsv env)
    (hsuccess : last.run (cleanup cr) (cleanupPasses cr passes cluster) =
      (.ok .success, after)) : LoggingRemoved cr installedCsv after := by
  have hpasses := cleanupPasses_cases hscoped hinstalled
    (fun env hpass => hdeletes env (List.mem_append_left _ hpass)) (.inl rfl)
  rcases hpasses with hsame | hremoved
  · have hlast := unfinished_cleanup hscoped hinstalled
      (hdeletes last (List.mem_append_right _ List.mem_cons_self)) hsame
    rw [hsuccess] at hlast
    rcases hlast with ⟨-, hfailed⟩ | hall
    · exact absurd rfl hfailed
    · exact hall
  · exact loggingRemoved_of_run hremoved hsuccess

end

/-! ## One deletion that fails -/

def deletionFails (kind : Kind) : Surroundings :=
  { Surroundings.quiet with
    fault := fun _ call => match call with
      | .delete target _ =>
        if target = kind then some ⟨.internal "timeout", false⟩ else none
      | _ => none }

def installedCluster : Cluster :=
  (((Cluster.empty.put .subscription (getLoggingSubscription loggingCr)
      (subscribed { newLoggingSubscription with
        spec := { installedCsv := "cluster-logging.v5" } })).put
      .clusterServiceVersion ⟨loggingNamespace, "cluster-logging.v5"⟩
      Kind.clusterServiceVersion.blank).put .clusterLogging
      getClusterLoggingCR newClusterLoggingCR).put .clusterLogForwarder
      getClusterLogForwarderCR newClusterLogForwarderCR

theorem installedCluster_installed :
    LoggingInstalled loggingCr "cluster-logging.v5" installedCluster :=
  ⟨⟨_, rfl, rfl⟩, by decide⟩

/-- The next pass finds no subscription and succeeds. -/
theorem versionDeletion_fails_unnoticed :
    LoggingInstalled loggingCr "cluster-logging.v5" installedCluster ∧
      ((deletionFails .clusterServiceVersion).run (cleanup loggingCr)
        installedCluster).1 ≠ .ok .success ∧
      ∃ after, Surroundings.quiet.run (cleanup loggingCr)
        (cleanupPasses loggingCr [deletionFails .clusterServiceVersion]
          installedCluster) = (.ok .success, after) ∧
        ¬ LoggingRemoved loggingCr "cluster-logging.v5" after := by
  obtain ⟨after, hrun, hleft⟩ :
      ∃ after, Surroundings.quiet.run (cleanup loggingCr)
      (cleanupPasses loggingCr [deletionFails .clusterServiceVersion]
        installedCluster) = (.ok .success, after) ∧
      (after.find .clusterLogging getClusterLoggingCR).isSome :=
    ⟨_, rfl, rfl⟩
  refine ⟨installedCluster_installed, nofun, after, hrun, fun hremoved => ?_⟩
  rw [hremoved (.clusterLogging, getClusterLoggingCR) (by decide)] at hleft
  cases hleft

theorem subscriptionDeletion_fails_noticeably :
    ∃ after, Surroundings.quiet.run (cleanup loggingCr)
        (cleanupPasses loggingCr [deletionFails .subscription]
          installedCluster) = (.ok .success, after) ∧
      LoggingRemoved loggingCr "cluster-logging.v5" after := by
  have hdeletes : ∀ env ∈ [deletionFails .subscription] ++ [Surroundings.quiet],
      DeletesNoticeably loggingCr "cluster-logging.v5" env := by
    intro env hpass
    rcases List.mem_append.mp hpass with hfirst | hlast
    · cases List.mem_singleton.mp hfirst
      constructor
      · rintro _ _ ⟨⟩
        rfl
      · exact fun _ => rfl
      · exact fun _ => rfl
      · exact fun _ _ => nofun
    · cases List.mem_singleton.mp hlast
      exact ⟨fun _ _ => nofun, fun _ => rfl, fun _ => rfl, fun _ _ => nofun⟩
  exact ⟨_, rfl, loggingRemoved_of_success (by decide)
    installedCluster_installed hdeletes rfl⟩

end LoggingInstallation

end ObservabilityOperator
