import ObservabilityOperator.OperatorInstallation

/-!
# Replacing the operator of Grafana

An operator of Grafana from before it was a product is recognised by its
subscription.  A pass deletes the subscription and then one of the versions
that are installed.  The next pass does not find the subscription and takes
the old operator for removed, whatever has happened to the versions.
-/

namespace ObservabilityOperator

open Program

namespace GrafanaInstallation

variable {cr : Observability} {env : Surroundings}
  {cluster state : Cluster} {version : ObjectKey}

/-! ## The old operator -/

def grafanaVersions (cr : Observability) (cluster : Cluster) :
    List ObjectKey :=
  ((cluster.select .clusterServiceVersion { ns := some cr.ns }).filter
    (isGrafanaVersion cr)).map Prod.fst

/-- The subscription of Grafana is the one of the old catalog. -/
def HasOldSubscription (cr : Observability) (cluster : Cluster) : Prop :=
  ∃ subscription,
    cluster.find .subscription (getGrafanaSubscription cr) = some subscription ∧
    isOldSubscription cr (getGrafanaSubscription cr, subscription) = true

/-- Deleting the subscription fails without effect only, the versions are
listed without a failure, and deleting the version fails after the fact
only. -/
structure DeletesOldOperator (cr : Observability) (version : ObjectKey)
    (env : Surroundings) : Prop where
  subscription : ∀ tick fault, env.fault tick
    (.delete .subscription (getGrafanaSubscription cr)) = some fault →
      fault.applied = false
  list : ∀ tick, env.fault tick
    (.list .clusterServiceVersion { ns := some cr.ns }) = none
  version : ∀ tick fault, env.fault tick
    (.delete .clusterServiceVersion version) = some fault → fault.applied = true

theorem select_of_hasOldSubscription (hold : HasOldSubscription cr cluster) :
    ∃ first second subscription,
      cluster.select .subscription { ns := some cr.ns } =
        first ++ (getGrafanaSubscription cr, subscription) :: second ∧
      isOldSubscription cr (getGrafanaSubscription cr, subscription) = true ∧
      ∀ other ∈ first ++ second, isOldSubscription cr other = false := by
  obtain ⟨subscription, hfind, hisOld⟩ := hold
  have hlisted := (cluster.mem_select_iff .subscription { ns := some cr.ns }
    (getGrafanaSubscription cr) subscription).mpr
      ⟨hfind, by simp [ListOptions.selects, getGrafanaSubscription,
        StringMap.Matches]⟩
  obtain ⟨first, second, hsplit⟩ := List.append_of_mem hlisted
  have hkeys := cluster.nodup_select .subscription { ns := some cr.ns }
  rw [hsplit, List.map_append, List.map_cons] at hkeys
  have hfresh : getGrafanaSubscription cr ∉ (first ++ second).map Prod.fst := by
    rw [List.map_append]
    exact (List.nodup_middle.mp hkeys).notMem
  refine ⟨first, second, subscription, hsplit, hisOld, fun other hother => ?_⟩
  by_contra hold
  have hmember : other ∈ cluster.select .subscription { ns := some cr.ns } := by
    rw [hsplit]
    rcases List.mem_append.mp hother with hbefore | hafter
    · exact List.mem_append_left _ hbefore
    · exact List.mem_append_right _ (List.mem_cons_of_mem _ hafter)
  obtain ⟨-, hselects⟩ := (cluster.mem_select_iff _ _ _ _).mp hmember
  have hkey : other.1 = getGrafanaSubscription cr := by
    simp only [isOldSubscription, ListOptions.selects, Bool.not_eq_false,
      Bool.and_eq_true, beq_iff_eq] at hold hselects
    exact congrArg₂ ObjectKey.mk hselects.1 hold.1.1
  exact hfresh (hkey ▸ List.mem_map_of_mem hother)

/-! ## One pass -/

structure OldOperator (cr : Observability) (cluster state : Cluster) :
    Prop where
  subscription : HasOldSubscription cr state
  versions : state.objects .clusterServiceVersion =
    cluster.objects .clusterServiceVersion

def StillUpgrading (cr : Observability) (cluster : Cluster)
    (version : ObjectKey)
    (run : Except (Abort ApiError) ObservabilityStageStatus × Cluster) :
    Prop :=
  run.1 ≠ .ok .success ∧
    (OldOperator cr cluster run.2 ∨
      run.2.find .clusterServiceVersion version = none)

theorem OldOperator.advance (hold : OldOperator cr cluster state) :
    OldOperator cr cluster state.advance :=
  ⟨hold.subscription, hold.versions⟩

def deleteVersion (cr : Observability) : Go ObservabilityStageStatus :=
  (Client.list Kind.clusterServiceVersion { ns := some cr.ns }).bind
    fun reply => (Client.orFail reply).bind fun csvList =>
      match csvList.find? (isGrafanaVersion cr) with
      | some csv =>
        (Client.deleteIfFound Kind.clusterServiceVersion csv.1).bind
          fun _ => .done .inProgress
      | none => .done .success

section Deletion

variable (hdeletes : DeletesOldOperator cr version env)
  (hversion : grafanaVersions cr cluster = [version])
include hdeletes hversion

theorem run_deleteVersion
    (hstate : state.objects .clusterServiceVersion =
      cluster.objects .clusterServiceVersion) :
    env.run (deleteVersion cr) state =
      env.run ((Client.deleteIfFound Kind.clusterServiceVersion
        version).bind fun _ => .done .inProgress) state.advance := by
  obtain ⟨csv, hcsv⟩ : ∃ csv, (state.select .clusterServiceVersion
      { ns := some cr.ns }).find? (isGrafanaVersion cr) =
        some (version, csv) := by
    obtain ⟨⟨_, csv⟩, hfilter, rfl⟩ := List.map_eq_singleton_iff.mp hversion
    refine ⟨csv, ?_⟩
    rw [← List.head?_filter, World.select, hstate, ← World.select, hfilter]
    rfl
  have hfault : env.environment.fault state.tick
      (.list .clusterServiceVersion { ns := some cr.ns }) = none :=
    hdeletes.list _
  simp only [deleteVersion, Surroundings.run, run_list_bind, hfault,
    withFault, Client.orFail, done_bind, hcsv]

theorem stillUpgrading_deleteVersion
    (hstate : state.objects .clusterServiceVersion =
      cluster.objects .clusterServiceVersion) :
    StillUpgrading cr cluster version (env.run (deleteVersion cr) state) := by
  rw [run_deleteVersion hdeletes hversion hstate]
  cases hfault : env.fault state.advance.tick
      (.delete .clusterServiceVersion version) with
  | none =>
    have hrun : env.run ((Client.deleteIfFound
        Kind.clusterServiceVersion version).bind fun _ =>
          .done ObservabilityStageStatus.inProgress) state.advance =
        (.ok .inProgress, (state.advance.remove .clusterServiceVersion
          version).advance) :=
      run_bind_ok (run_deleteIfFound_of_none hfault)
    rw [hrun]
    refine ⟨fun hsuccess => ?_, .inr (World.find_remove_self _ _ _)⟩
    cases hsuccess
  | some fault =>
    have hrun : env.run ((Client.deleteIfFound
        Kind.clusterServiceVersion version).bind fun _ =>
          .done ObservabilityStageStatus.inProgress) state.advance =
        (.error _, _) :=
      run_bind_error (run_deleteIfFound_of_some hfault)
    rw [World.settle, hdeletes.version _ fault hfault] at hrun
    rw [hrun]
    refine ⟨fun hsuccess => ?_, .inr (World.find_remove_self _ _ _)⟩
    cases hsuccess

theorem stillUpgrading_delete (hold : OldOperator cr cluster state) :
    StillUpgrading cr cluster version (env.run
      (((Client.delete Kind.subscription (getGrafanaSubscription cr)).bind
        fun reply => Client.orFail reply).bind fun _ => deleteVersion cr)
      state) := by
  cases hfault : env.environment.fault state.tick
      (.delete .subscription (getGrafanaSubscription cr)) with
  | some fault =>
    have hdelete : env.run ((Client.delete Kind.subscription
        (getGrafanaSubscription cr)).bind fun reply =>
          Client.orFail reply) state =
        (.error (.error (.api fault.failure.toError)), state.advance) := by
      simp only [Surroundings.run, run_delete_bind, hfault, withFault,
        World.settle, hdeletes.subscription _ fault hfault]
      rfl
    have hrun : env.run (((Client.delete Kind.subscription
        (getGrafanaSubscription cr)).bind fun reply =>
          Client.orFail reply).bind fun _ => deleteVersion cr) state =
        (.error _, state.advance) := run_bind_error hdelete
    rw [hrun]
    refine ⟨fun hsuccess => ?_, .inl hold.advance⟩
    cases hsuccess
  | none =>
    obtain ⟨subscription, hfound, -⟩ := hold.subscription
    have hdelete : env.run ((Client.delete Kind.subscription
        (getGrafanaSubscription cr)).bind fun reply =>
          Client.orFail reply) state =
        (.ok (), (state.remove .subscription
          (getGrafanaSubscription cr)).advance) := by
      simp only [Surroundings.run, run_delete_bind, hfault, withFault,
        World.settle, World.effect, World.changeReply, hfound]
      rfl
    have hrun : env.run (((Client.delete Kind.subscription
        (getGrafanaSubscription cr)).bind fun reply =>
          Client.orFail reply).bind fun _ => deleteVersion cr) state =
        env.run (deleteVersion cr) _ :=
      run_bind_ok hdelete
    rw [hrun]
    exact stillUpgrading_deleteVersion hdeletes hversion hold.versions

theorem stillUpgrading_deleteUnrequestedSubscriptions
    (hold : OldOperator cr cluster state) :
    StillUpgrading cr cluster version
      (env.run (deleteUnrequestedSubscriptions cr) state) := by
  obtain ⟨first, second, subscription, hselect, hisOld, hothers⟩ :=
    select_of_hasOldSubscription hold.subscription
  refine run_listed (StillUpgrading cr cluster version)
    (fun _ => ⟨nofun, .inl hold.advance⟩) ?_
  have hany : (first ++ (getGrafanaSubscription cr, subscription) ::
      second).any (isOldSubscription cr) = true :=
    List.any_eq_true.mpr ⟨_, List.mem_append_right _ List.mem_cons_self,
      hisOld⟩
  have hrounds (other : ObjectKey × Resource SubscriptionSpec)
      (hother : other ∈ first ++ second) :
      (if isOldSubscription cr other = true then do
        Client.orFail (← Client.delete Kind.subscription other.1)
      else pure () : Go Unit) = .done () := by
    rw [hothers other hother]
    rfl
  rw [hselect, forEach_eq_single
    (fun other hfirst => hrounds other (List.mem_append_left _ hfirst))
    (fun other hsecond => hrounds other (List.mem_append_right _ hsecond)),
    if_pos hisOld, if_pos hany]
  exact stillUpgrading_delete hdeletes hversion hold.advance

theorem stillUpgrading_reconcile (hold : OldOperator cr cluster state) :
    OldOperator cr cluster (env.run (reconcile cr) state).2 ∨
      (env.run (reconcile cr) state).2.find .clusterServiceVersion
        version = none := by
  unfold reconcile
  split
  · exact .inl hold
  · have hupgrading :=
      stillUpgrading_deleteUnrequestedSubscriptions hdeletes hversion hold
    rcases hdelete : env.run (deleteUnrequestedSubscriptions cr)
      state with ⟨result, after⟩
    rw [hdelete] at hupgrading
    obtain ⟨hnot, hleft⟩ := hupgrading
    simp only [bind_eq_bind, Surroundings.run, run_bind]
    rw [show Program.run _ (deleteUnrequestedSubscriptions cr) state =
      (result, after) from hdelete]
    cases result with
    | error error => exact hleft
    | ok status =>
      cases status with
      | success => exact absurd rfl hnot
      | inProgress => exact hleft
      | failed => exact hleft

end Deletion

def CreatesNoVersion (version : ObjectKey)
    (call : ApiCall Kind.Spec Action) : Prop :=
  ∀ object, call ≠ .create .clusterServiceVersion version object

theorem createsNoVersion_deleteUnrequestedSubscriptions (version : ObjectKey) :
    (deleteUnrequestedSubscriptions cr).Uses (CreatesNoVersion version) := by
  have hlist (kind : Kind) (options : ListOptions) :
      (Client.list kind options : Go _).Uses (CreatesNoVersion version) :=
    (Client.uses_list _ _ _).mpr fun _ => nofun
  refine .bind (hlist _ _) fun _ => .bind (Client.uses_orFail _ _)
    fun list => .bind (.forEach fun subscription _ => ?_) fun _ => ?_
  · split
    · exact .bind ((Client.uses_delete _ _ _).mpr fun _ => nofun)
        fun _ => Client.uses_orFail _ _
    · trivial
  · split
    · refine .bind (hlist _ _) fun _ => .bind (Client.uses_orFail _ _)
        fun csvList => ?_
      split
      · exact .bind (Client.uses_deleteIfFound _ _ _ fun _ => nofun)
          fun _ => trivial
      · trivial
    · trivial

theorem allowsKinds_createsNoVersion {kinds : List Kind}
    (hkinds : .clusterServiceVersion ∉ kinds) :
    AllowsKinds kinds (CreatesNoVersion version) where
  get _ _ _ := nofun
  list _ _ _ := nofun
  now _ := nofun
  http _ _ := nofun
  setLabels _ := nofun
  create kind hkind _ _ _ hcall := by
    cases hcall
    exact hkinds hkind
  update _ _ _ _ _ := nofun
  delete _ _ _ _ := nofun

theorem createsNoVersion_reconcile (version : ObjectKey) :
    (reconcile cr).Uses (CreatesNoVersion version) := by
  have hupsert {kind : Kind} (hkind : kind ≠ .clusterServiceVersion)
      {key : ObjectKey} {change : Resource kind.Spec → Resource kind.Spec} :
      ((upsert kind key kind.blank change).bind fun _ => .done () :
        Go Unit).Uses (CreatesNoVersion version) :=
    ((writesKinds_upsert List.mem_cons_self).bind fun _ =>
      writesKinds_done _) _ (allowsKinds_createsNoVersion
        (List.mem_singleton.not.mpr hkind.symm))
  have hlist {α : Type} {kind : Kind} {options : ListOptions}
      {next : List (ObjectKey × Resource kind.Spec) → Go α}
      (hnext : ∀ list, (next list).Uses (CreatesNoVersion version)) :
      ((Client.list kind options).bind fun reply =>
        (Client.orFail reply).bind next).Uses (CreatesNoVersion version) :=
    .bind ((Client.uses_list _ _ _).mpr fun _ => nofun) fun _ =>
    .bind (Client.uses_orFail _ _) hnext
  unfold reconcile
  split
  · trivial
  · refine .bind (createsNoVersion_deleteUnrequestedSubscriptions version)
      fun status => ?_
    split
    · refine .bind (hupsert (by decide)) fun _ => .bind
        (hupsert (by decide)) fun _ => .bind ?_ fun _ =>
          hlist fun _ => trivial
      refine .bind (hlist fun _ => trivial) fun exists_ => ?_
      split
      · trivial
      · exact hupsert (by decide)
    · trivial

/-! ## Several passes -/

def reconcilePasses (cr : Observability) (passes : List Surroundings)
    (cluster : Cluster) : Cluster :=
  passes.foldl (fun state env =>
    (env.run (reconcile cr) state).2) cluster

theorem reconcilePasses_cases {passes : List Surroundings}
    (hversion : grafanaVersions cr cluster = [version])
    (hdeletes : ∀ env ∈ passes,
      DeletesOldOperator cr version env)
    (hstate : OldOperator cr cluster state ∨
      state.find .clusterServiceVersion version = none) :
    OldOperator cr cluster (reconcilePasses cr passes state) ∨
      (reconcilePasses cr passes state).find .clusterServiceVersion version =
        none := by
  induction passes generalizing state with
  | nil => exact hstate
  | cons first rest ih =>
    refine ih (fun env hrest => hdeletes env (List.mem_cons_of_mem _ hrest)) ?_
    rcases hstate with hold | hgone
    · exact stillUpgrading_reconcile (hdeletes first List.mem_cons_self)
        hversion hold
    · exact .inr (Surroundings.find_eq_none_of_run rfl
        (createsNoVersion_reconcile version) hgone)

/-- A pass gets past the old operator only when none of its versions is left,
if there was no more than one and no deletion fails unnoticed. -/
theorem versions_gone_of_success {passes : List Surroundings}
    {last : Surroundings} {past : Cluster}
    (hold : HasOldSubscription cr cluster)
    (hone : (grafanaVersions cr cluster).length ≤ 1)
    (hdeletes : ∀ env ∈ passes ++ [last],
      ∀ version ∈ grafanaVersions cr cluster,
        DeletesOldOperator cr version env)
    (hpast : last.run (deleteUnrequestedSubscriptions cr)
      (reconcilePasses cr passes cluster) = (.ok .success, past)) :
    ∀ version ∈ grafanaVersions cr cluster,
      past.find .clusterServiceVersion version = none := by
  intro version hmember
  have hversion : grafanaVersions cr cluster = [version] := by
    obtain ⟨only, honly⟩ := List.length_eq_one_iff.mp
      (le_antisymm hone (List.length_pos_of_mem hmember))
    rw [honly] at hmember ⊢
    rw [List.mem_singleton.mp hmember]
  have hpasses := reconcilePasses_cases hversion
    (fun env hpass => hdeletes env
      (List.mem_append_left _ hpass) version hmember)
    (.inl ⟨hold, rfl⟩)
  rcases hpasses with hupgrading | hgone
  · have hlast := stillUpgrading_deleteUnrequestedSubscriptions
      (hdeletes last (List.mem_append_right _ List.mem_cons_self) version
        hmember) hversion hupgrading
    rw [hpast] at hlast
    exact absurd rfl hlast.1
  · exact Surroundings.find_eq_none_of_run hpast
      (createsNoVersion_deleteUnrequestedSubscriptions version) hgone

def oldSubscription : Resource SubscriptionSpec where
  spec :=
    { catalogSource := "community-operators"
      catalogSourceNamespace := "openshift-marketplace" }

def oldCluster (versions : List String) : Cluster :=
  versions.foldl (fun cluster version => cluster.put .clusterServiceVersion
    ⟨"managed", version⟩ Kind.clusterServiceVersion.blank)
    (Cluster.empty.put .subscription (getGrafanaSubscription plainCr)
      oldSubscription)

/-- One of two versions is still there when the second pass is past the old
operator, without a single failure. -/
theorem secondVersion_left :
    HasOldSubscription plainCr (oldCluster
        ["grafana-operator.v3.9.0", "grafana-operator.v3.10.0"]) ∧
      ∃ past, Surroundings.quiet.run (deleteUnrequestedSubscriptions plainCr)
        (reconcilePasses plainCr [.quiet] (oldCluster
          ["grafana-operator.v3.9.0", "grafana-operator.v3.10.0"])) =
            (.ok .success, past) ∧
        ∃ version ∈ grafanaVersions plainCr (oldCluster
          ["grafana-operator.v3.9.0", "grafana-operator.v3.10.0"]),
            (past.find .clusterServiceVersion version).isSome := by
  refine ⟨⟨_, rfl, rfl⟩, _, rfl, ⟨"managed", "grafana-operator.v3.9.0"⟩,
    ?_, rfl⟩
  decide

theorem onlyVersion_gone :
    ∃ past, Surroundings.quiet.run (deleteUnrequestedSubscriptions plainCr)
        (reconcilePasses plainCr [.quiet]
          (oldCluster ["grafana-operator.v3.9.0"])) = (.ok .success, past) ∧
      past.find .clusterServiceVersion
        ⟨"managed", "grafana-operator.v3.9.0"⟩ = none := by
  have hold : HasOldSubscription plainCr
      (oldCluster ["grafana-operator.v3.9.0"]) := ⟨_, rfl, rfl⟩
  have hdeletes : ∀ env ∈ [Surroundings.quiet] ++ [Surroundings.quiet],
      ∀ version ∈ grafanaVersions plainCr
        (oldCluster ["grafana-operator.v3.9.0"]),
        DeletesOldOperator plainCr version env := by
    intro env hpass version _
    have hquiet : env = .quiet := by simpa using hpass
    rw [hquiet]
    exact ⟨fun _ _ => nofun, fun _ => rfl, fun _ _ => nofun⟩
  exact ⟨_, rfl, versions_gone_of_success hold (by decide) hdeletes rfl _
    (by decide)⟩

end GrafanaInstallation

end ObservabilityOperator
