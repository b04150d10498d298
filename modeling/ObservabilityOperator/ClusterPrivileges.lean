import ObservabilityOperator.OperandRuns

/-!
# Cluster-wide privileges after a clean-up

The cluster roles and their bindings belong to no namespace, so nothing but a
clean-up removes them.  An update before that may have renamed them, or may
have made a stage believe that it has nothing to remove, and the webhook lets
such updates through.
-/

namespace ObservabilityOperator

def privilegeKinds : List Kind := [.clusterRole, .clusterRoleBinding]

def privileges (cr : Observability) : List (Kind × ObjectKey) :=
  (clusterRoles cr).map (Prod.mk .clusterRole) ++
    (clusterRoleBindings cr).map (Prod.mk .clusterRoleBinding)

variable {cr : Observability} {key : ObjectKey}

theorem mem_privileges_clusterRole :
    (Kind.clusterRole, key) ∈ privileges cr ↔ key ∈ clusterRoles cr := by
  simp [privileges]

theorem mem_privileges_clusterRoleBinding :
    (Kind.clusterRoleBinding, key) ∈ privileges cr ↔
      key ∈ clusterRoleBindings cr := by
  simp [privileges]

def CreatesPrivileges (cr : Observability)
    (call : ApiCall Kind.Spec Action) : Prop :=
  ∀ kind ∈ privilegeKinds, ∀ key object, call = .create kind key object →
    (kind, key) ∈ privileges cr

section Creation

variable {platform : Platform} {order : IterationOrder} {cr : Observability}

theorem allowsOperands_createsPrivileges :
    AllowsOperands cr True (CreatesPrivileges cr) where
  get _ _ _ _ _ _ := nofun
  list _ _ _ _ _ _ := nofun
  now _ _ _ _ := nofun
  delete _ _ _ _ _ _ := nofun
  update _ _ _ _ _ _ _ _ := nofun
  setClusterId _ _ _ _ _ := nofun
  setMigrated _ _ _ _ := nofun
  create kind key object hoperand := by
    intro other hother name written hcall
    cases hcall
    simp only [privilegeKinds, List.mem_cons, List.not_mem_nil,
      or_false] at hother
    rcases hother with rfl | rfl
    · exact mem_privileges_clusterRole.mpr hoperand
    · exact mem_privileges_clusterRoleBinding.mpr hoperand

theorem allowsKinds_createsPrivileges {kinds : List Kind}
    (hkinds : ∀ kind ∈ kinds, kind ∉ privilegeKinds) :
    AllowsKinds kinds (CreatesPrivileges cr) where
  get _ _ _ _ _ _ := nofun
  list _ _ _ _ _ _ := nofun
  now _ _ _ _ := nofun
  http _ _ _ _ _ := nofun
  setLabels _ _ _ _ := nofun
  update _ _ _ _ _ _ _ _ := nofun
  delete _ _ _ _ _ _ _ := nofun
  create kind hkind key object := by
    intro other hother name written hcall
    cases hcall
    exact absurd hother (hkinds kind hkind)

theorem createsPrivileges_reconcile (stage : ObservabilityStageName)
    (migrated : Bool) :
    ((getReconcilerForStage platform order stage).reconcile cr
      migrated).Uses (CreatesPrivileges cr) := by
  by_cases hstage : stage = .configuration
  · subst hstage
    have hallowed : AllowsKinds configurationKinds (CreatesPrivileges cr) :=
      allowsKinds_createsPrivileges (by decide)
    exact hallowed.reconcileStage (fun _ _ _ _ _ => nofun)
      (fun _ _ _ _ _ => nofun) order migrated
  · exact allowsOperands_createsPrivileges.component hstage migrated

end Creation

/-- The names stay, and neither descoped mode nor an option that turns
Promtail off is switched on. -/
structure KeepsPrivileges (old new : Observability) : Prop where
  names : new.spec.selfContained.isSome = old.spec.selfContained.isSome ∨
    NamesAreDefault old
  descoped : new.descopedModeEnabled = true → old.descopedModeEnabled = true
  promtail : PromtailInstallation.isDisabled new = true →
    PromtailInstallation.isDisabled old = true

theorem mem_guarded {α : Type} {old new : Bool} {value : α} {guarded : List α}
    (hflag : new = true → old = true)
    (hmem : value ∈ if old then [] else guarded) :
    value ∈ if new then [] else guarded := by
  cases old with
  | true => cases hmem
  | false =>
    have hoff : new = false := by
      by_contra hon
      exact absurd (hflag (by simpa using hon)) (by decide)
    rw [hoff]
    exact hmem

theorem privileges_subset {old new : Observability}
    (haccepts : AcceptsUpdate old new) (hkeeps : KeepsPrivileges old new) :
    privileges old ⊆ privileges new := by
  have hnames : SameNames old new :=
    (sameNames_iff_of_updates (.single haccepts)).mpr hkeeps.names
  have hroles : clusterRoles old ⊆ clusterRoles new := by
    intro key hkey
    simp only [clusterRoles, PrometheusConfiguration.getPrometheusClusterRole,
      AlertmanagerInstallation.getAlertmanagerClusterRole,
      List.mem_append] at hkey ⊢
    rw [hnames.prometheus, hnames.alertmanager]
    exact hkey.imp (Or.imp_right (mem_guarded hkeeps.descoped))
      (mem_guarded hkeeps.promtail)
  have hbindings : clusterRoleBindings old ⊆ clusterRoleBindings new := by
    intro key hkey
    simp only [clusterRoleBindings,
      PrometheusConfiguration.getPrometheusClusterRoleBinding,
      AlertmanagerInstallation.getAlertmanagerClusterRoleBinding,
      List.mem_append] at hkey ⊢
    rw [hnames.prometheus, hnames.alertmanager]
    exact hkey.imp (Or.imp_right (mem_guarded hkeeps.descoped))
      (mem_guarded hkeeps.promtail)
  intro object hobject
  rcases List.mem_append.mp hobject with hrole | hbinding
  · exact List.mem_append_left _ (List.map_subset _ hroles hrole)
  · exact List.mem_append_right _ (List.map_subset _ hbindings hbinding)

/-! ## Runs -/

namespace OperandState

/-- An edit of the resource does not change which privileges it names. -/
def UpdatesKeepPrivileges (state : OperandState) : OperandMove → Prop
  | .edit cr => KeepsPrivileges state.cr cr
  | _ => True

def NamesCreated (state : OperandState) : Prop :=
  ∀ kind ∈ privilegeKinds, ∀ key, (kind, key) ∈ state.tracked.2 →
    (kind, key) ∈ privileges state.cr

variable {state : OperandState}

theorem NamesCreated.next {move : OperandMove} (hadmits : state.Admits move)
    (hkeeps : state.UpdatesKeepPrivileges move) (hnames : state.NamesCreated) :
    (state.next move).NamesCreated := by
  intro kind hkind key hmem
  cases move with
  | install platform order env stage migrated =>
    rcases mem_of_run_tracking (createsPrivileges_reconcile stage migrated)
      hmem with hbefore | ⟨object, hcreates⟩
    · exact hnames kind hkind key hbefore
    · exact hcreates kind hkind key object rfl
  | cleanup platform order env stage =>
    rcases mem_of_run_tracking (clears_cleanup stage).uses hmem with
      hbefore | ⟨object, hcreates⟩
    · exact hnames kind hkind key hbefore
    · exact absurd hcreates id
  | edit cr =>
    exact privileges_subset hadmits.1 hkeeps (hnames kind hkind key hmem)
  | others cluster => exact hnames kind hkind key hmem

theorem namesCreated_of_reached (hreached : Reached UpdatesKeepPrivileges state) :
    state.NamesCreated :=
  hreached.invariant (fun _ _ _ _ _ hmem => absurd hmem List.not_mem_nil)
    fun _ _ hadmits hkeeps hnames => hnames.next hadmits hkeeps

end OperandState

theorem exists_stage_of_mem_privileges {kind : Kind}
    (hmem : (kind, key) ∈ privileges cr) (labels : StringMap) :
    ∃ stage ∈ getCleanupStages, StageObjects cr stage kind key labels := by
  have hsome : (kind, key) ∈ prometheusObjects cr ∨
      (kind, key) ∈ alertmanagerObjects cr ∨
      (kind, key) ∈ grafanaObjects cr ∨ (kind, key) ∈ promtailObjects cr := by
    by_cases hdescoped : cr.descopedModeEnabled = true <;>
      by_cases hdisabled : PromtailInstallation.isDisabled cr = true <;>
      simp [privileges, clusterRoles, clusterRoleBindings, prometheusObjects,
        alertmanagerObjects, grafanaObjects, promtailObjects, hdescoped,
        hdisabled] at hmem ⊢ <;> grind
  rcases hsome with hobject | hobject | hobject | hobject
  · exact ⟨.prometheusConfiguration, by decide, hobject⟩
  · exact ⟨.alertmanagerInstallation, by decide, hobject⟩
  · exact ⟨.grafanaConfiguration, by decide, hobject⟩
  · exact ⟨.promtailInstallation, by decide, hobject⟩

/-- In a run whose updates keep the privileges, no role or binding that the
operator has created outlives a clean-up, wherever the run has come to. -/
theorem privileges_gone {state : OperandState}
    (hreached : OperandState.Reached OperandState.UpdatesKeepPrivileges state)
    {platform : Platform} {order : IterationOrder}
    {env : Surroundings} {after : Cluster}
    (hcleans : state.CleansUp platform order env after) :
    ∀ kind ∈ privilegeKinds, ∀ key, (kind, key) ∈ state.tracked.2 →
      after.find kind key = none := by
  intro kind hkind key hcreated
  have hnamed := OperandState.namesCreated_of_reached hreached kind hkind key
    hcreated
  cases hfind : after.find kind key with
  | none => rfl
  | some object =>
    exact absurd (exists_stage_of_mem_privileges hnamed object.labels)
      ((clears_cleanupPass getCleanupStages).lacks hcleans rfl kind key
        object hfind)

def promtailCr (disableObservatorium : Bool) : Observability :=
  { plainCr with spec :=
      { selfContained :=
          some { disableObservatorium := some disableObservatorium } } }

def installPromtail : OperandMove :=
  .install .plain .given .quiet .promtailInstallation true

def turnedOffState (disableObservatorium : Bool) : OperandState :=
  OperandState.after ⟨promtailCr false, (Cluster.empty, [])⟩
    [installPromtail, .edit (promtailCr disableObservatorium)]

theorem turnedOffState_gone :
    (Kind.clusterRole, ⟨"", "obs-promtail"⟩) ∈
        (turnedOffState false).tracked.2 ∧
      (Surroundings.quiet.run (cleanupPass .plain .given (promtailCr false)
        getCleanupStages) (turnedOffState false).tracked.1).2.find
          .clusterRole ⟨"", "obs-promtail"⟩ = none := by
  have hcreated : (Kind.clusterRole, ⟨"", "obs-promtail"⟩) ∈
      (turnedOffState false).tracked.2 := by decide
  have hreached : OperandState.Reached OperandState.UpdatesKeepPrivileges
      (turnedOffState false) :=
    .move (.edit (promtailCr false))
      (.move installPromtail (.start _ _) trivial trivial)
      ⟨rfl, rfl, rfl⟩ ⟨.inl rfl, id, id⟩
  exact ⟨hcreated, privileges_gone hreached (by rfl : OperandState.CleansUp
    _ .plain .given .quiet _) .clusterRole (by decide) _ hcreated⟩

/-- The update is accepted, the clean-up succeeds, and the role that grants
the use of the privileged security context is still there. -/
theorem turnedOffState_left :
    OperandState.Reached (fun _ _ => True) (turnedOffState true) ∧
      (turnedOffState true).CleansUp .plain .given .quiet
        (Surroundings.quiet.run (cleanupPass .plain .given (promtailCr true)
          getCleanupStages) (turnedOffState true).tracked.1).2 ∧
      (Kind.clusterRole, ⟨"", "obs-promtail"⟩) ∈
        (turnedOffState true).tracked.2 ∧
      ((Surroundings.quiet.run (cleanupPass .plain .given (promtailCr true)
        getCleanupStages) (turnedOffState true).tracked.1).2.find
          .clusterRole ⟨"", "obs-promtail"⟩).isSome = true := by
  have hreached : OperandState.Reached (fun _ _ => True)
      (turnedOffState true) :=
    .move (.edit (promtailCr true))
      (.move installPromtail (.start _ _) trivial trivial)
      ⟨rfl, rfl, rfl⟩ trivial
  exact ⟨hreached, rfl, by decide, rfl⟩

end ObservabilityOperator
