import ObservabilityOperator.RefresherProtection
import ObservabilityOperator.RemovalOrder

/-!
# The namespace of the custom resource in a clean-up

In descoped mode a clean-up deletes the namespace of the Prometheus operator.
This namespace is looked up as it is for all other objects of the Prometheus:
where the custom resource names none, its own namespace is taken.
-/

namespace ObservabilityOperator

open Program

structure CleanupAttempt where
  platform : Platform
  order : IterationOrder
  surroundings : Surroundings
  others : ℕ → Cluster → Cluster

namespace CleanupAttempt

variable (attempt : CleanupAttempt) (cr : Observability)

def handler : Handler (ApiCall.Reply Kind.Spec Action.Reply) Cluster :=
  fun call cluster => serve attempt.surroundings.environment call
    (attempt.others cluster.tick cluster)

def pass : Go ObservabilityStageStatus :=
  cleanupPass attempt.platform attempt.order cr getCleanupStages

def calls (cluster : Cluster) : List (ApiCall Kind.Spec Action) :=
  ((attempt.pass cr).events attempt.handler cluster).map Event.op

def result (cluster : Cluster) : Cluster :=
  ((attempt.pass cr).run attempt.handler cluster).2

def quiet : CleanupAttempt where
  platform := .plain
  order := .given
  surroundings := .quiet
  others _ cluster := cluster

end CleanupAttempt

def cleanupCalls (cr : Observability) :
    List CleanupAttempt → Cluster → List (ApiCall Kind.Spec Action)
  | [], _ => []
  | attempt :: rest, cluster =>
    attempt.calls cr cluster ++ cleanupCalls cr rest (attempt.result cr cluster)

/-- No clean-up deletes the namespace of the resource. -/
def KeepsOwnNamespace (cr : Observability) : Prop :=
  ∀ attempts cluster,
    ApiCall.delete .nameSpace ⟨"", cr.ns⟩ ∉ cleanupCalls cr attempts cluster

/-- In descoped mode the Prometheus operator has a namespace of its own. -/
def SeparatesOperator (cr : Observability) : Prop :=
  ∀ mode, cr.spec.descopedMode = some mode → mode.enabled = some true →
    mode.prometheusOperatorNamespace ≠ "" ∧
      mode.prometheusOperatorNamespace ≠ cr.ns

/-! ## The namespaces that are deleted -/

def DeletesOperatorNamespace (cr : Observability)
    (call : ApiCall Kind.Spec Action) : Prop :=
  ∀ key, call = .delete .nameSpace key → cr.descopedModeEnabled = true ∧
    key = PrometheusInstallation.getPrometheusNamespace cr

section Stages

variable {cr : Observability} {platform : Platform} {order : IterationOrder}
  {call : ApiCall Kind.Spec Action}

theorem deletesOperatorNamespace_of_deletesNo
    (hcall : DeletesNo .nameSpace call) : DeletesOperatorNamespace cr call :=
  fun key hdelete => absurd hdelete (hcall key)

theorem deletesNo_delete {kind : Kind} (hkind : kind ≠ .nameSpace)
    (key : ObjectKey) :
    DeletesNo .nameSpace (.delete kind key : ApiCall Kind.Spec Action) := by
  intro name hcall
  cases hcall
  exact hkind rfl

theorem deletesNo_list (kind : Kind) (options : ListOptions) :
    DeletesNo .nameSpace (.list kind options : ApiCall Kind.Spec Action) :=
  fun _ => nofun

theorem RemovesListed.deletesNo {objects : List (Kind × ObjectKey)}
    {program : Go ObservabilityStageStatus}
    (hremoves : RemovesListed objects program)
    (hkinds : ∀ object ∈ objects, object.1 ≠ .nameSpace) :
    program.Uses (DeletesNo .nameSpace) :=
  hremoves.uses deletesNo_list fun object hobject =>
    deletesNo_delete (hkinds object hobject) object.2

theorem deletesNo_configuration :
    (cleanupStage cr).Uses (DeletesNo .nameSpace) := by
  have hlisted (kind : Kind) (options : ListOptions)
      (hkind : .nameSpace ∉ [kind]) :
      (deleteListed kind options).Uses (DeletesNo .nameSpace) :=
    (writesKinds_deleteListed kind options).deletesNo hkind
  have hdeleted {kind : Kind} (hkind : kind ≠ .nameSpace) (key : ObjectKey) :
      (Client.deleteIfFound kind key : Go Unit).Uses (DeletesNo .nameSpace) :=
    Client.uses_deleteIfFound _ _ _ (deletesNo_delete hkind key)
  exact .bind (hlisted _ _ (by decide)) fun _ =>
    .bind (hlisted _ _ (by decide)) fun _ =>
    .bind (writesKinds_cleanupSynced.deletesNo (by decide)) fun _ =>
    .bind (hlisted _ _ (by decide)) fun _ =>
    .bind (hlisted _ _ (by decide)) fun _ =>
    .bind (hdeleted (by decide) _) fun _ =>
    .bind (hdeleted (by decide) _) fun _ =>
    .bind (hdeleted (by decide) _) fun _ =>
    .bind (hlisted _ _ (by decide)) fun _ => trivial

theorem deletesNo_loggingInstallation :
    (LoggingInstallation.cleanup cr).Uses (DeletesNo .nameSpace) := by
  refine LoggingInstallation.uses_cleanup (fun kind key hkey => ?_)
    ⟨fun _ _ _ => nofun, fun kind _ options => deletesNo_list kind options⟩
  apply deletesNo_delete
  rintro rfl
  simp [LoggingInstallation.CleanupDeletes,
    LoggingInstallation.LoggingWrites] at hkey

theorem deletesNo_cleanup {stage : ObservabilityStageName}
    (hstage : stage ≠ .prometheusInstallation) :
    ((getReconcilerForStage platform order stage).cleanup cr).Uses
      (DeletesNo .nameSpace) := by
  cases stage with
  | prometheusInstallation => exact absurd rfl hstage
  | prometheusConfiguration =>
    exact removesListed_prometheusConfiguration.deletesNo
      (by simp [prometheusObjects])
  | alertmanagerInstallation =>
    exact removesListed_alertmanagerInstallation.deletesNo
      (by simp [alertmanagerObjects])
  | grafanaConfiguration =>
    refine removesListed_grafanaConfiguration.deletesNo ?_
    unfold grafanaObjects
    split <;> simp
  | promtailInstallation =>
    refine removesListed_promtailInstallation.deletesNo ?_
    unfold promtailObjects
    split <;> simp
  | configuration => exact deletesNo_configuration
  | loggingInstallation => exact deletesNo_loggingInstallation
  | grafanaInstallation =>
    exact uses_grafanaInstallation deletesNo_list
      fun kind _ hkind => deletesNo_delete hkind
  | tokenRequest => exact uses_tokenStage (deletesNo_delete (by decide))
  | csv =>
    exact uses_csvStage deletesNo_list (deletesNo_delete (by decide))
  | migration => trivial

theorem deletesOperatorNamespace_cleanup (stage : ObservabilityStageName) :
    ((getReconcilerForStage platform order stage).cleanup cr).Uses
      (DeletesOperatorNamespace cr) := by
  by_cases hstage : stage = .prometheusInstallation
  · subst hstage
    refine uses_prometheusInstallation (fun kind _ hkind key => ?_)
      fun hdescoped key hcall => ?_
    · exact deletesOperatorNamespace_of_deletesNo (deletesNo_delete hkind key)
    · cases hcall
      exact ⟨hdescoped, rfl⟩
  · exact (deletesNo_cleanup hstage).mono fun _ =>
      deletesOperatorNamespace_of_deletesNo

theorem deletesOperatorNamespace_cleanupPass
    (stages : List ObservabilityStageName) :
    (cleanupPass platform order cr stages).Uses
      (DeletesOperatorNamespace cr) := by
  induction stages with
  | nil => trivial
  | cons stage rest ih =>
    refine .bind (deletesOperatorNamespace_cleanup stage) fun status => ?_
    cases status with
    | success => exact ih
    | failed => trivial
    | inProgress => trivial

theorem deletesOperatorNamespace_of_mem {attempts : List CleanupAttempt}
    {cluster : Cluster} (hcall : call ∈ cleanupCalls cr attempts cluster) :
    DeletesOperatorNamespace cr call := by
  induction attempts generalizing cluster with
  | nil => cases hcall
  | cons attempt rest ih =>
    rcases List.mem_append.mp hcall with hfirst | hrest
    · obtain ⟨event, hevent, rfl⟩ := List.mem_map.mp hfirst
      exact (deletesOperatorNamespace_cleanupPass _).of_mem_events hevent
    · exact ih hrest

end Stages

/-! ## When it is the own namespace -/

section OwnNamespace

variable {cr : Observability}

theorem separatesOperator_iff :
    SeparatesOperator cr ↔ (cr.descopedModeEnabled = true →
      cr.getPrometheusOperatorNamespace ≠ cr.ns) := by
  unfold SeparatesOperator Observability.getPrometheusOperatorNamespace
    Observability.descopedModeEnabled
  cases cr.spec.descopedMode with
  | none => simp
  | some mode =>
    obtain ⟨enabled, ns⟩ := mode
    by_cases hns : ns = ""
    · cases enabled with
      | none => simp
      | some enabled => cases enabled <;> simp [hns]
    · cases enabled with
      | none => simp
      | some enabled => cases enabled <;> simp [hns]

theorem keepsOwnNamespace_of_separates (hseparates : SeparatesOperator cr) :
    KeepsOwnNamespace cr := by
  intro attempts cluster hcall
  obtain ⟨hdescoped, hkey⟩ := deletesOperatorNamespace_of_mem hcall _ rfl
  exact separatesOperator_iff.mp hseparates hdescoped
    (ObjectKey.mk.inj hkey).2.symm

theorem issues_prometheusInstallation_cleanup
    (hdescoped : cr.descopedModeEnabled = true) (cluster : Cluster) :
    (PrometheusInstallation.cleanup cr).Issues
      (serve Surroundings.quiet.environment) cluster
        (.delete .nameSpace
          (PrometheusInstallation.getPrometheusNamespace cr)) := by
  refine (issues_bind_of_ok (run_deleteIfFound_of_none rfl)).mpr (.inr ?_)
  refine (issues_bind_of_ok (run_deleteIfFound_of_none rfl)).mpr (.inr ?_)
  refine (issues_bind_of_ok (run_deleteIfFound_of_none rfl)).mpr (.inr ?_)
  refine Program.Issues.bind ?_
  rw [PrometheusInstallation.deleteNamespace, if_pos hdescoped]
  exact ⟨_, List.mem_cons_self, rfl⟩

theorem separates_of_keepsOwnNamespace (hkeeps : KeepsOwnNamespace cr) :
    SeparatesOperator cr := by
  rw [separatesOperator_iff]
  intro hdescoped hns
  have hprometheus : PassesBy Cluster.empty
      (PrometheusConfiguration.cleanup cr) :=
    passesBy_prometheusConfiguration rfl
  have hgrafana : PassesBy Cluster.empty (GrafanaConfiguration.cleanup cr) :=
    passesBy_grafanaConfiguration rfl
  obtain ⟨_, removed, hfirst, rfl, hkept⟩ :=
    hprometheus Cluster.empty fun _ _ => rfl
  obtain ⟨_, cleared, hsecond, rfl, -⟩ := hgrafana removed hkept
  have hissues : (CleanupAttempt.quiet.pass cr).Issues
      (serve Surroundings.quiet.environment) Cluster.empty
        (.delete .nameSpace ⟨"", cr.ns⟩) := by
    refine (issues_bind_of_ok hfirst).mpr (.inr ?_)
    refine (issues_bind_of_ok hsecond).mpr (.inr ?_)
    rw [← hns]
    exact (issues_prometheusInstallation_cleanup hdescoped cleared).bind
  obtain ⟨event, hevent, hop⟩ := hissues
  exact hkeeps [.quiet] Cluster.empty
    (List.mem_append_left _ (List.mem_map.mpr ⟨event, hevent, hop⟩))

end OwnNamespace

/-- A run of clean-ups never deletes the namespace of the custom resource
exactly if the Prometheus operator has another one in descoped mode. -/
theorem keepsOwnNamespace_iff (cr : Observability) :
    KeepsOwnNamespace cr ↔ SeparatesOperator cr :=
  ⟨separates_of_keepsOwnNamespace, keepsOwnNamespace_of_separates⟩

def descopedInPlaceCr : Observability :=
  { plainCr with spec := { descopedMode := some { enabled := some true } } }

/-- The custom resource is admitted, nothing fails, and its namespace is
gone after the first pass. -/
theorem descopedInPlaceCr_deletes_own_namespace :
    ApiCall.delete .nameSpace ⟨"", "managed"⟩ ∈
        cleanupCalls descopedInPlaceCr [.quiet]
          (Cluster.empty.put .nameSpace ⟨"", "managed"⟩ Kind.nameSpace.blank) ∧
      (CleanupAttempt.quiet.result descopedInPlaceCr
        (Cluster.empty.put .nameSpace ⟨"", "managed"⟩
          Kind.nameSpace.blank)).find .nameSpace ⟨"", "managed"⟩ = none ∧
      ¬ KeepsOwnNamespace descopedInPlaceCr := by
  have hmem : ApiCall.delete .nameSpace ⟨"", "managed"⟩ ∈
      cleanupCalls descopedInPlaceCr [.quiet]
        (Cluster.empty.put .nameSpace ⟨"", "managed"⟩ Kind.nameSpace.blank) :=
    List.mem_of_getElem? (i := 13) rfl
  exact ⟨hmem, rfl, fun hkeeps => hkeeps _ _ hmem⟩

end ObservabilityOperator
