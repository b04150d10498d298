import ObservabilityOperator.FinalizerRemoval
import ObservabilityOperator.InstallationCalls
import ObservabilityOperator.StageCompletion

/-!
# What a pass leaves of a custom resource

A pass works on a copy of the custom resource and may write it back as a whole
to change its finalizers.  By then the stages have had the copy in their hands.
The stage that writes the Prometheus assigns labels to the copy that were meant
for the Prometheus, so the labels that the user has given are lost where the
copy is written back after an installation that has come so far.
-/

namespace ObservabilityOperator

open Program

def Handler.numbered {Op S : Type} {Res : Op → Type}
    (answers : ℕ → Handler Res S) : Handler Res (ℕ × S) :=
  fun op state =>
    ((answers state.1 op state.2).1,
      (state.1 + 1, (answers state.1 op state.2).2))

def prometheusLabels : StringMap := [("app", "prometheus")]

/-- The labels of the copy after a stage of an installation, which may have
come to the place where they are assigned. -/
def labelsAfter (stage : ObservabilityStageName) (assigned : Bool)
    (labels : StringMap) : StringMap :=
  if stage = .configuration ∧ assigned = true then prometheusLabels
  else labels

/-- What a stage of a pass works with: the cluster that it finds, the replies
of the server, and the text of its error if it has one. -/
structure StageSetting where
  platform : Platform := .plain
  order : IterationOrder := .given
  env : Surroundings := .quiet
  cluster : Cluster := .empty
  message : String := ""

/-- The fields of the copy and of the next status that a stage assigns. -/
def stageMemory (labels : StringMap) (status : ObservabilityStatus) :
    Memory where
  lastSynced := status.lastSynced
  resourcesRoute := status.resourcesRoute
  clusterId := status.clusterId
  migrated := status.migrated
  labels := labels

/-- What a run of a stage leaves.  A panic would end the process before the
copy is written back; here it fails the stage, and the copy is followed on. -/
def StageSetting.report (setting : StageSetting)
    (program : Go ObservabilityStageStatus) (obs : CustomResource)
    (nextStatus : ObservabilityStatus) : StageOutcome × ObservabilityStatus :=
  let left := setting.env.run program { setting.cluster with
    memory := stageMemory obs.body.labels nextStatus }
  let memory := left.2.memory
  ({ status := match left.1 with
       | .ok status => status
       | .error _ => .failed
     error := match left.1 with
       | .ok _ => none
       | .error _ => some setting.message
     labels := memory.labels
     observed := { obs.body.status with clusterId := memory.clusterId } },
    { nextStatus with
      lastSynced := memory.lastSynced
      resourcesRoute := memory.resourcesRoute
      clusterId := memory.clusterId
      migrated := memory.migrated })

structure PassAnswer where
  choice : Choice := {}
  settings : ObservabilityStageName → StageSetting := fun _ => {}

/-- The stages are those of the custom resource, run in these settings. -/
def PassAnswer.handler (answer : PassAnswer) :
    Handler ControllerCall.Reply ControllerState
  | .reconcileStage stage obs nextStatus, state =>
    let setting := answer.settings stage
    (setting.report ((getReconcilerForStage setting.platform setting.order
      stage).reconcile obs.body nextStatus.migrated) obs nextStatus, state)
  | .cleanupStage stage obs, state =>
    let setting := answer.settings stage
    ((setting.report ((getReconcilerForStage setting.platform setting.order
      stage).cleanup obs.body) obs obs.body.status).1, state)
  | op, state => answer.choice.answer op state

def passHandler (answers : ℕ → PassAnswer) :
    Handler ControllerCall.Reply (ℕ × ControllerState) :=
  Handler.numbered fun position => (answers position).handler

/-- Labels, annotations and spec are the same. -/
structure SameDeclaration (before after : CustomResource) : Prop where
  labels : after.body.labels = before.body.labels
  annotations : after.body.annotations = before.body.annotations
  spec : after.body.spec = before.body.spec

/-- If the resource is still there, it declares the same. -/
def Declares (key : ObjectKey) (before : CustomResource)
    (state : ControllerState) : Prop :=
  ∀ after, state.find key = some after → SameDeclaration before after

/-- In every state of the pass the resource declares what it declared before. -/
def PassKeeps (answers : ℕ → PassAnswer) (state : ControllerState)
    (key : ObjectKey) (before : CustomResource) : Prop :=
  ∀ current ∈ (reconcileRequest key).visited (passHandler answers)
    (0, state), Declares key before current.2

/-! ## The labels that a stage leaves -/

/-- A pass comes past the logging stage, which reads the section of the
self-contained mode without a check. -/
def passesLogging (cr : Observability) : Bool :=
  cr.descopedModeEnabled || cr.spec.selfContained.isSome

/-- The configuration stage comes to a sync: there is a selector, which finds
secrets that have its labels where a sync needs any. -/
def selectsSecrets (cr : Observability) : Bool :=
  cr.spec.configurationSelector.any fun selector =>
    cr.externalSyncDisabled || selector.matchLabels.Matches selector.matchLabels

def assignsLabels (cr : Observability) : Bool :=
  passesLogging cr && selectsSecrets cr

def AssignsPrometheusLabels (call : ApiCall Kind.Spec Action) : Prop :=
  ∀ labels, call = .perform (.setLabels labels) → labels = prometheusLabels

def AssignsNoLabels (call : ApiCall Kind.Spec Action) : Prop :=
  ∀ labels, call ≠ .perform (.setLabels labels)

section Labels

variable {platform : Platform} {order : IterationOrder} {cr : Observability}
  {env : Surroundings} {cluster after : Cluster} {α : Type}
  {program : Go α} {result : Except (Abort ApiError) α}
  {stage : ObservabilityStageName}

theorem allowsOperands_assignsNoLabels :
    AllowsOperands cr True AssignsNoLabels where
  get _ _ _ := nofun
  list _ _ _ := nofun
  now _ := nofun
  delete _ _ _ := nofun
  create _ _ _ _ _ := nofun
  update _ _ _ _ _ := nofun
  setClusterId _ _ := nofun
  setMigrated _ := nofun

theorem allowsKinds_assignsPrometheusLabels (kinds : List Kind) :
    AllowsKinds kinds AssignsPrometheusLabels where
  get _ _ _ := nofun
  list _ _ _ := nofun
  now _ := nofun
  http _ _ := nofun
  setLabels _ hcall := by
    cases hcall
    rfl
  create _ _ _ _ _ := nofun
  update _ _ _ _ _ := nofun
  delete _ _ _ _ := nofun

theorem labels_of_serve (call : ApiCall Kind.Spec Action) (state : Cluster) :
    (serve env.environment call state).2.memory.labels = state.memory.labels ∨
      ∃ labels, call = .perform (.setLabels labels) ∧
        (serve env.environment call state).2.memory.labels = labels := by
  have hsettle (fault : Option Fault) :
      (state.settle fault call).memory.labels = state.memory.labels :=
    congrArg Memory.labels (World.memory_settle _ _ _)
  cases call with
  | get kind key => exact .inl rfl
  | list kind options => exact .inl rfl
  | create kind key object => exact .inl (hsettle _)
  | update kind key object => exact .inl (hsettle _)
  | delete kind key => exact .inl (hsettle _)
  | perform action =>
    cases action with
    | setLabels labels => exact .inr ⟨labels, rfl, rfl⟩
    | _ => exact .inl rfl

theorem labels_of_run_assignsNoLabels (huses : program.Uses AssignsNoLabels)
    (hrun : env.run program cluster = (result, after)) :
    after.memory.labels = cluster.memory.labels := by
  have hkept : (env.run program cluster).2.memory.labels =
      cluster.memory.labels := by
    refine huses.run_preserves
      (fun before next : Cluster =>
        next.memory.labels = before.memory.labels)
      (fun _ => rfl) (fun hfirst hsecond => hsecond.trans hfirst) ?_ cluster
    intro call hcall state
    rcases labels_of_serve call state with hsame | ⟨labels, hset, -⟩
    · exact hsame
    · exact absurd hset (hcall labels)
  rwa [hrun] at hkept

theorem labels_of_run_assignsPrometheusLabels
    (huses : program.Uses AssignsPrometheusLabels)
    (hrun : env.run program cluster = (result, after)) :
    after.memory.labels = cluster.memory.labels ∨
      after.memory.labels = prometheusLabels := by
  have hkept : (env.run program cluster).2.memory.labels =
      cluster.memory.labels ∨
        (env.run program cluster).2.memory.labels = prometheusLabels := by
    refine huses.run_preserves
      (fun before next : Cluster =>
        next.memory.labels = before.memory.labels ∨
          next.memory.labels = prometheusLabels)
      (fun _ => .inl rfl) ?_ ?_ cluster
    · rintro first second third hfirst (hsame | hset)
      · rw [hsame]
        exact hfirst
      · exact .inr hset
    · intro call hcall state
      rcases labels_of_serve call state with hsame | ⟨labels, hset, hlabels⟩
      · exact .inl hsame
      · exact .inr (hlabels.trans (hcall labels hset))
  rwa [hrun] at hkept

theorem assignsNoLabels_allowsResources :
    AllowsResources cr AssignsNoLabels where
  get _ _ _ := nofun
  list _ _ _ := nofun
  now _ := nofun
  setResourcesRoute _ _ := nofun
  createDeployment _ _ _ := nofun
  updateDeployment _ _ _ := nofun
  createService _ _ := nofun
  updateService _ _ := nofun
  createRoute _ _ := nofun
  updateRoute _ _ := nofun

theorem assignsPrometheusLabels_configuration (migrated : Bool) :
    (reconcileStage platform order cr migrated).Uses
      AssignsPrometheusLabels := by
  exact (allowsKinds_assignsPrometheusLabels _).reconcileStage
    (fun _ _ => nofun) (fun _ _ => nofun) order migrated

theorem labels_of_run_component (hstage : stage ≠ .configuration)
    {migrated : Bool}
    {result : Except (Abort ApiError) ObservabilityStageStatus}
    (hrun : env.run
      ((getReconcilerForStage platform order stage).reconcile cr migrated)
      cluster = (result, after)) :
    after.memory.labels = cluster.memory.labels :=
  labels_of_run_assignsNoLabels
    (allowsOperands_assignsNoLabels.component hstage migrated) hrun

def labelledCr : Observability :=
  { plainCr with labels := [("managed-by", "observability-operator")] }

/-- Only the configuration stage assigns labels, and always the same. -/
theorem labels_of_run_reconcile {migrated : Bool}
    {result : Except (Abort ApiError) ObservabilityStageStatus}
    (hrun : env.run
      ((getReconcilerForStage platform order stage).reconcile cr migrated)
      cluster = (result, after)) :
    ∃ assigned, after.memory.labels =
      labelsAfter stage assigned cluster.memory.labels := by
  by_cases hstage : stage = .configuration
  · subst hstage
    rcases labels_of_run_assignsPrometheusLabels
      (assignsPrometheusLabels_configuration migrated) hrun with
        hsame | hassigned
    · exact ⟨false, hsame⟩
    · exact ⟨true, hassigned⟩
  · exact ⟨false, by simpa [labelsAfter] using
      labels_of_run_component hstage hrun⟩

theorem grafanaStage_labels : ∃ assigned,
    (Surroundings.quiet.run ((getReconcilerForStage .plain .given
      .grafanaConfiguration).reconcile labelledCr true)
        { Cluster.empty with memory := { labels := labelledCr.labels } }
      ).2.memory.labels = labelsAfter .grafanaConfiguration assigned
        [("managed-by", "observability-operator")] :=
  labels_of_run_reconcile (Prod.ext rfl rfl)

theorem labels_of_run_cleanup
    {result : Except (Abort ApiError) ObservabilityStageStatus}
    (hrun : env.run
      ((getReconcilerForStage platform order stage).cleanup cr) cluster =
        (result, after)) : after.memory.labels = cluster.memory.labels := by
  refine labels_of_run_assignsNoLabels
    ((clears_cleanup stage).uses.mono ?_) hrun
  rintro call hcall labels rfl
  exact hcall

variable {migrated : Bool}

theorem StringMap.matches_self {selector labels : StringMap}
    (hmatches : selector.Matches labels = true) :
    selector.Matches selector = true := by
  simp only [Matches, List.all_eq_true, beq_iff_eq] at hmatches ⊢
  intro entry hentry
  cases hfound : selector.get? entry.1 with
  | none => simpa using List.lookup_eq_none_iff.mp hfound entry hentry
  | some value =>
    obtain ⟨first, rest, hsplit, -⟩ := List.lookup_eq_some_iff.mp hfound
    have hmem : (entry.1, value) ∈ selector := by simp [hsplit]
    exact (hmatches _ hmem).symm.trans (hmatches entry hentry)

theorem selectsSecrets_of_run_prepare {repos : List (String × RepositoryInfo)}
    (hrun : env.run (prepare platform cr migrated) cluster =
      (.ok (.load repos), after)) : selectsSecrets cr = true := by
  unfold prepare at hrun
  split at hrun
  · cases hrun
  obtain ⟨due, checked, -, hrun⟩ := run_bind_eq_ok hrun
  split at hrun
  · obtain ⟨secrets, listed, hlist, hrun⟩ := run_bind_eq_ok hrun
    unfold listConfigSecrets at hlist
    unfold selectsSecrets
    cases hselector : cr.spec.configurationSelector with
    | none =>
      rw [hselector] at hlist
      cases hlist
    | some selector =>
      cases hsync : cr.externalSyncDisabled with
      | true => rfl
      | false =>
        have hsome : secrets ≠ [] := by
          rintro rfl
          simp only [hsync, Bool.not_false, and_self, if_true] at hrun
          cases hrun
        obtain ⟨⟨key, secret⟩, hsecret⟩ := List.exists_mem_of_ne_nil _ hsome
        rw [hselector, hsync] at hlist
        obtain ⟨rfl, -⟩ := run_list_orFail_eq_ok hlist
        have hselected := ((World.mem_select_iff _ _ _ _ _).mp hsecret).2
        exact StringMap.matches_self
          (by simpa [ListOptions.selects] using hselected)
  · cases hrun

theorem labels_of_run_reconcileStage (hselects : selectsSecrets cr = false)
    {result : Except (Abort ApiError) ObservabilityStageStatus}
    (hrun : env.run (reconcileStage platform order cr migrated) cluster =
      (result, after)) : after.memory.labels = cluster.memory.labels := by
  obtain ⟨found, prepared, hprepare⟩ : ∃ found prepared,
      env.run (prepare platform cr migrated) cluster = (found, prepared) :=
    ⟨_, _, rfl⟩
  have hkept : prepared.memory.labels = cluster.memory.labels :=
    labels_of_run_assignsNoLabels
      (assignsNoLabels_allowsResources.prepare nofun migrated) hprepare
  unfold reconcileStage at hrun
  rw [bind_eq_bind, Surroundings.run, run_bind,
    show (prepare platform cr migrated).run _ _ = _ from hprepare] at hrun
  cases found with
  | error abort =>
    cases hrun
    exact hkept
  | ok found =>
    cases found with
    | stop status =>
      cases hrun
      exact hkept
    | load repos =>
      rw [selectsSecrets_of_run_prepare hprepare] at hselects
      cases hselects

theorem passesLogging_of_run
    (hrun : env.run (LoggingInstallation.reconcile cr) cluster =
      (.ok .success, after)) : passesLogging cr = true := by
  unfold LoggingInstallation.reconcile at hrun
  split at hrun
  next hdescoped => simp [passesLogging, hdescoped]
  next =>
    obtain ⟨mode, read, -, hrun⟩ := run_bind_eq_ok hrun
    cases hsection : cr.spec.selfContained with
    | some selfContained => simp [passesLogging, hsection]
    | none =>
      simp only [LoggingInstallation.loggingUnset, hsection, Bool.and_false,
        Bool.false_eq_true, if_false] at hrun
      cases hrun

theorem assigned_of_run (huses : program.Uses AssignsPrometheusLabels)
    (hstart : cluster.memory.labels = prometheusLabels)
    (hrun : env.run program cluster = (result, after)) :
    after.memory.labels = prometheusLabels :=
  (labels_of_run_assignsPrometheusLabels huses hrun).elim (·.trans hstart) id

theorem labels_of_run_reconcilePrometheus {indexes : List RepositoryIndex}
    {hash : String} (hrun : env.run
      (reconcilePrometheus platform cr indexes hash) cluster =
        (.ok (), after)) : after.memory.labels = prometheusLabels := by
  have hallowed := allowsKinds_assignsPrometheusLabels
    [.persistentVolume, .persistentVolumeClaim]
  obtain ⟨host, _, -, hrun⟩ := run_bind_eq_ok hrun
  obtain ⟨targets, _, -, hrun⟩ := run_bind_eq_ok hrun
  obtain ⟨_, written, hwrite, hremove⟩ := run_bind_eq_ok hrun
  obtain ⟨_, hmutate, hwritten⟩ := run_createOrUpdate_eq_ok hwrite
  obtain ⟨_, _, hassign, hmutate⟩ := run_bind_eq_ok hmutate
  cases hassign
  obtain ⟨_, _, hstorage, hdone⟩ := run_bind_eq_ok hmutate
  have hassigned := assigned_of_run (writesKinds_prometheusStorage (by decide)
    _ _ hallowed) rfl hstorage
  cases hdone
  refine assigned_of_run (writesKinds_deleteIfFound (by decide) _ _ hallowed)
    ?_ hremove
  rcases hwritten with rfl | ⟨rfl, -⟩ <;> exact hassigned

theorem labels_of_run_configure {indexes : List RepositoryIndex}
    (hrun : env.run (configure platform cr indexes) cluster =
      (.ok (), after)) : after.memory.labels = prometheusLabels := by
  have hallowed (kinds : List Kind) := allowsKinds_assignsPrometheusLabels kinds
  obtain ⟨_, _, -, hrun⟩ := run_bind_eq_ok hrun
  obtain ⟨completed, _, -, hrun⟩ := run_bind_eq_ok hrun
  obtain ⟨_, _, -, hrun⟩ := run_bind_eq_ok hrun
  obtain ⟨_, _, -, hrun⟩ := run_bind_eq_ok hrun
  obtain ⟨_, _, hinstances, hrun⟩ := run_bind_eq_ok hrun
  obtain ⟨_, _, -, hinstances⟩ := run_bind_eq_ok hinstances
  obtain ⟨_, _, -, hinstances⟩ := run_bind_eq_ok hinstances
  obtain ⟨hash, _, -, hinstances⟩ := run_bind_eq_ok hinstances
  obtain ⟨_, _, -, hinstances⟩ := run_bind_eq_ok hinstances
  obtain ⟨_, _, hprometheus, hgrafana⟩ := run_bind_eq_ok hinstances
  have hassigned := labels_of_run_reconcilePrometheus
    (run_wrapping_eq_ok.mp hprometheus)
  refine assigned_of_run (.bind (writesKinds_syncResources _ _ (hallowed _))
    fun _ => .bind (writesKinds_syncPromtail _ _ (hallowed _)) fun _ =>
      (hallowed []).assignSyncTime fun _ _ => nofun)
    (assigned_of_run ?_ hassigned hgrafana) hrun
  split
  · trivial
  · exact .wrapping (writesKinds_reconcileGrafanaCr List.mem_cons_self _ _
      (hallowed [.grafana]))

end Labels

/-! ## What keeps the resource -/

/-- The copy of a pass: it differs from the resource in its status, and in its
labels only where they have been assigned. -/
structure CopyOf (before obs : CustomResource) : Prop where
  key : obs.key = before.key
  version : obs.resourceVersion = before.resourceVersion
  finalizers : obs.finalizers = before.finalizers
  deletion : obs.deletionTimestamp = before.deletionTimestamp
  body : obs.body = { before.body with
    labels := obs.body.labels, status := obs.body.status }
  labels : obs.body.labels = before.body.labels ∨
    before.deletionTimestamp = none ∧ assignsLabels before.body = true ∧
      obs.body.labels = prometheusLabels

/-- The configuration stage comes after this one. -/
def precedesConfiguration (first : ObservabilityStageName) :
    List ObservabilityStageName → Bool
  | [] => true
  | stage :: rest =>
    stage = first || stage ≠ .configuration && precedesConfiguration first rest

def KeepingCall (before : CustomResource) : ControllerCall → Prop
  | .update obs => SameDeclaration before obs
  | .create _ => False
  | .assignNoInit _ => False
  | _ => True

structure Kept (key : ObjectKey) (before : CustomResource) (noInit : Bool)
    (state : ℕ × ControllerState) : Prop where
  keyed : state.2.Keyed
  declares : Declares key before state.2
  noInit : state.2.noInit = noInit

section Keeping

variable {key : ObjectKey} {before obs : CustomResource} {noInit : Bool}
  {answers : ℕ → PassAnswer} {state : ℕ × ControllerState}
  {current : ControllerState} {op : ControllerCall}
  {accepted : Except ApiError ControllerState}

theorem CopyOf.refl (obs : CustomResource) : CopyOf obs obs :=
  ⟨rfl, rfl, rfl, rfl, rfl, .inl rfl⟩

theorem CopyOf.sameDeclaration (hcopy : CopyOf before obs)
    (hlabels : before.deletionTimestamp = none →
      assignsLabels before.body = true →
        before.body.labels = prometheusLabels) :
    SameDeclaration before obs := by
  refine ⟨?_, (congrArg Observability.annotations hcopy.body).trans rfl,
    (congrArg Observability.spec hcopy.body).trans rfl⟩
  rcases hcopy.labels with hsame | ⟨hnone, hassigns, hassigned⟩
  · exact hsame
  · rw [hassigned, hlabels hnone hassigns]

theorem SameDeclaration.setFinalizers (hsame : SameDeclaration before obs)
    (finalizers : List String) :
    SameDeclaration before { obs with finalizers := finalizers } :=
  ⟨hsame.labels, hsame.annotations, hsame.spec⟩

theorem CopyOf.after (hcopy : CopyOf before obs) {outcome : StageOutcome}
    (hlabels : outcome.labels = obs.body.labels ∨
      before.deletionTimestamp = none ∧ assignsLabels before.body = true ∧
        outcome.labels = prometheusLabels) :
    CopyOf before (obs.after outcome) where
  key := hcopy.key
  version := hcopy.version
  finalizers := hcopy.finalizers
  deletion := hcopy.deletion
  body := by
    rw [CustomResource.after, hcopy.body]
  labels := by
    rcases hlabels with hsame | hassigned
    · rw [CustomResource.after, hsame]
      exact hcopy.labels
    · exact .inr hassigned

theorem StageSetting.run_of_success {setting : StageSetting}
    {program : Go ObservabilityStageStatus} {nextStatus : ObservabilityStatus}
    (hsuccess : (setting.report program obs nextStatus).1.status = .success) :
    ∃ after, setting.env.run program { setting.cluster with
      memory := stageMemory obs.body.labels nextStatus } =
        (.ok .success, after) := by
  unfold StageSetting.report at hsuccess
  generalize setting.env.run program _ = left at hsuccess
  obtain ⟨result, after⟩ := left
  cases result with
  | error abort => cases hsuccess
  | ok status =>
    obtain rfl : status = .success := hsuccess
    exact ⟨after, rfl⟩

theorem selectsSecrets_congr {labels : StringMap}
    {status : ObservabilityStatus} (cr : Observability) :
    selectsSecrets { cr with labels, status } = selectsSecrets cr := rfl

/-- What a stage of an installation leaves of the copy. -/
theorem CopyOf.after_reconcile (hcopy : CopyOf before obs)
    (hinstalling : obs.deletionTimestamp = none)
    (stage : ObservabilityStageName) (nextStatus : ObservabilityStatus)
    (hreaches : stage = .configuration → passesLogging before.body = true)
    (answer : PassAnswer) (state : ControllerState) :
    CopyOf before (obs.after (answer.handler
      (.reconcileStage stage obs nextStatus) state).1.1) := by
  refine hcopy.after ?_
  by_cases hstage : stage = .configuration
  · subst hstage
    by_cases hselects : selectsSecrets obs.body = true
    · refine (labels_of_run_assignsPrometheusLabels
        (assignsPrometheusLabels_configuration _) (Prod.ext rfl rfl)).imp id
          fun hassigned =>
            ⟨hcopy.deletion.symm.trans hinstalling, ?_, hassigned⟩
      rw [hcopy.body, selectsSecrets_congr] at hselects
      rw [assignsLabels, hreaches rfl, hselects]
      rfl
    · exact .inl (labels_of_run_reconcileStage (Bool.eq_false_iff.mpr hselects)
        (Prod.ext rfl rfl))
  · exact .inl (labels_of_run_component hstage (Prod.ext rfl rfl))

theorem Declares.store (hcurrent : Declares key before current)
    (hobs : key = obs.key → SameDeclaration before obs) :
    Declares key before (current.store obs) := by
  intro after hafter
  rcases ControllerState.find_store_eq_some hafter with
    hstored | ⟨hkey, rfl⟩
  · exact hcurrent after hstored
  · have hsame := hobs hkey
    exact ⟨hsame.labels, hsame.annotations, hsame.spec⟩

theorem Declares.settle {fault : Option Fault}
    (hcurrent : Declares key before current)
    (haccepted : ∀ next, accepted = .ok next → Declares key before next) :
    Declares key before (current.settle fault accepted).2 := by
  rcases ControllerState.settle_cases fault accepted with hsame | hthrough
  · rw [hsame]
    exact hcurrent
  · exact haccepted _ hthrough

theorem Declares.answer (hkeyed : current.Keyed)
    (hcurrent : Declares key before current) (hop : KeepingCall before op)
    (choice : Choice) : Declares key before (choice.answer op current).2 := by
  cases op with
  | update written =>
    refine hcurrent.settle fun next haccepted => ?_
    obtain ⟨stored, -, -, rfl⟩ := ControllerState.acceptUpdate_eq_ok haccepted
    exact hcurrent.store fun _ => ⟨hop.labels, hop.annotations, hop.spec⟩
  | updateStatus written =>
    refine hcurrent.settle fun next haccepted => ?_
    obtain ⟨stored, hfind, rfl⟩ :=
      ControllerState.acceptStatus_eq_ok haccepted
    refine hcurrent.store fun hkey => ?_
    have hstored : key = written.key := hkey.trans (hkeyed _ _ hfind).1
    have hsame := hcurrent stored (hstored ▸ hfind)
    exact ⟨hsame.labels, hsame.annotations, hsame.spec⟩
  | create written => exact absurd hop id
  | _ => exact hcurrent

theorem noInit_settle {fault : Option Fault}
    (haccepted : ∀ next, accepted = .ok next →
      next.noInit = current.noInit) :
    (current.settle fault accepted).2.noInit = current.noInit := by
  rcases ControllerState.settle_cases fault accepted with hsame | hthrough
  · rw [hsame]
  · exact haccepted _ hthrough

theorem noInit_answer (hop : KeepingCall before op) (choice : Choice)
    (current : ControllerState) :
    (choice.answer op current).2.noInit = current.noInit := by
  cases op with
  | update written =>
    refine noInit_settle fun next haccepted => ?_
    obtain ⟨stored, -, -, rfl⟩ := ControllerState.acceptUpdate_eq_ok haccepted
    rfl
  | updateStatus written =>
    refine noInit_settle fun next haccepted => ?_
    obtain ⟨stored, -, rfl⟩ := ControllerState.acceptStatus_eq_ok haccepted
    rfl
  | create written => exact absurd hop id
  | assignNoInit value => exact absurd hop id
  | _ => rfl

theorem Kept.step (hstate : Kept key before noInit state)
    (hop : KeepingCall before op) :
    Kept key before noInit (passHandler answers op state).2 := by
  have hanswer : (passHandler answers op state).2.2 =
      ((answers state.1).choice.answer op state.2).2 := by
    cases op <;> rfl
  refine ⟨?_, ?_, ?_⟩ <;> rw [hanswer]
  · exact (ControllerState.evolves_answer _ _ _).keyed hstate.keyed
  · exact hstate.declares.answer hstate.keyed hop _
  · rw [noInit_answer hop, hstate.noInit]

theorem Kept.update (hstate : Kept key before noInit state)
    (hsame : SameDeclaration before obs) (answers : ℕ → PassAnswer) :
    Kept key before noInit (passHandler answers (.update obs) state).2 :=
  hstate.step hsame

/-! ## A pass -/

theorem runStage_ensures (stage : ObservabilityStageName)
    (nextStatus : ObservabilityStatus) (hcopy : CopyOf before obs)
    (hreaches : before.deletionTimestamp = none → stage = .configuration →
      passesLogging before.body = true)
    (hstate : Kept key before noInit state) :
    (runStage stage obs nextStatus).Ensures (passHandler answers)
      (Kept key before noInit) state
      (fun result after => Kept key before noInit after ∧
        CopyOf before (obs.after result.1) ∧
        (before.deletionTimestamp = none → stage = .loggingInstallation →
          result.1.status = .success → passesLogging before.body = true))
      (fun _ => Kept key before noInit) := by
  unfold runStage
  split
  next hinstalling =>
    have hafter : Kept key before noInit (passHandler answers
        (.reconcileStage stage obs nextStatus) state).2 :=
      hstate.step trivial
    refine ⟨hafter, hafter, hcopy.after_reconcile hinstalling _ _
      (hreaches (hcopy.deletion.symm.trans hinstalling)) _ state.2, ?_⟩
    rintro - rfl hsuccess
    obtain ⟨_, hrun⟩ := StageSetting.run_of_success hsuccess
    have hpasses := passesLogging_of_run hrun
    rwa [hcopy.body] at hpasses
  next hcleaning =>
    have hafter : Kept key before noInit
        (passHandler answers (.cleanupStage stage obs) state).2 :=
      hstate.step trivial
    exact ⟨hafter, hafter,
      hcopy.after (.inl (labels_of_run_cleanup (Prod.ext rfl rfl))), fun hnone =>
      absurd (hcopy.deletion.trans hnone) hcleaning⟩

theorem runStages_ensures (stages : List ObservabilityStageName)
    (nextStatus : ObservabilityStatus) (hcopy : CopyOf before obs)
    (hreaches : before.deletionTimestamp = none →
      precedesConfiguration .loggingInstallation stages = true ∨
        passesLogging before.body = true)
    (hstate : Kept key before noInit state) :
    (runStages stages obs nextStatus).Ensures (passHandler answers)
      (Kept key before noInit) state
      (fun outcome after => Kept key before noInit after ∧
        CopyOf before outcome.obs) (fun _ => Kept key before noInit) := by
  induction stages generalizing obs nextStatus state with
  | nil => exact ⟨hstate, hcopy⟩
  | cons stage rest ih =>
    refine (runStage_ensures stage _ hcopy (fun hnone hstage => ?_)
      hstate).bind ?_
    · refine (hreaches hnone).resolve_left ?_
      simp [precedesConfiguration, hstage]
    rintro ⟨outcome, written⟩ after ⟨hafter, hleft, hlogged⟩
    dsimp only
    split
    · exact ⟨hafter, hleft⟩
    next hsuccess =>
      refine ih _ hleft (fun hnone => ?_) hafter
      by_cases hstage : stage = .loggingInstallation
      · exact .inr (hlogged hnone hstage (not_not.mp hsuccess))
      · refine (hreaches hnone).imp_left fun hprecedes => ?_
        simp [precedesConfiguration, hstage] at hprecedes
        exact hprecedes.2

theorem maintains_kept {α : Type} {program : Controller α}
    (huses : program.Uses (KeepingCall before)) :
    program.Maintains (passHandler answers) (Kept key before noInit) :=
  huses.maintains fun _ hop _ hstate => hstate.step hop

theorem keeping_updateStatus (nextStatus : ObservabilityStatus) :
    (updateStatus obs nextStatus).Uses (KeepingCall before) := by
  refine .bind ?_ fun failed => ?_
  · split
    · exact ⟨trivial, fun _ => trivial⟩
    · trivial
  · split <;> trivial

theorem keeping_noteInstallation (outcome : StagesOutcome) :
    (noteInstallation outcome).Uses (KeepingCall before) := by
  unfold noteInstallation
  split
  · refine ⟨trivial, fun complete => ?_⟩
    dsimp only [done_bind]
    split
    · trivial
    · exact ⟨trivial, fun _ => trivial⟩
  · trivial

theorem dropsFinalizers_ensures (hstate : Kept key before noInit state) :
    (dropsFinalizers obs).Ensures (passHandler answers)
      (Kept key before noInit) state
      (fun drops after => Kept key before noInit after ∧
        (drops = true → obs.finalizers ≠ [] ∧ noInit = false))
      (fun _ => Kept key before noInit) := by
  unfold dropsFinalizers
  split
  next hfinalizers =>
    have hafter : Kept key before noInit
        (passHandler answers .noInit state).2 := hstate.step trivial
    refine ⟨hafter, hafter, fun hdrops => ⟨hfinalizers, ?_⟩⟩
    have hunset : (!state.2.noInit) = true := hdrops
    rw [← hstate.noInit]
    simpa using hunset
  next => exact ⟨hstate, nofun⟩

/-- The resource is being deleted, has no finalizers, is left to the ConfigMap,
has the labels of the Prometheus anyway, or no pass over it comes to assign
them. -/
def WritesBackSafely (before : CustomResource) (noInit : Bool) : Prop :=
  before.deletionTimestamp ≠ none ∨ before.finalizers = [] ∨
    noInit = true ∨ before.body.labels = prometheusLabels ∨
      assignsLabels before.body = false

instance (before : CustomResource) (noInit : Bool) :
    Decidable (WritesBackSafely before noInit) :=
  inferInstanceAs (Decidable (_ ∨ _))

theorem maintains_concludePass (hsafe : WritesBackSafely before noInit)
    {outcome : StagesOutcome} (hcopy : CopyOf before outcome.obs) :
    (concludePass outcome).Maintains (passHandler answers)
      (Kept key before noInit) := by
  intro state hstate
  refine (maintains_kept (keeping_noteInstallation outcome) state hstate).bind
    fun _ noted hnoted => ?_
  dsimp only
  split
  next hcleaned =>
    have hsame : SameDeclaration before outcome.obs :=
      hcopy.sameDeclaration fun hnone _ =>
        absurd (hcopy.deletion.trans hnone) hcleaned.1
    have hwritten := hnoted.update (hsame.setFinalizers []) answers
    exact ⟨hwritten, hwritten.step trivial, hwritten.step trivial⟩
  next =>
    refine (dropsFinalizers_ensures hnoted).bind fun drops read hread => ?_
    obtain ⟨hread, hdropped⟩ := hread
    split
    next hdrops =>
      obtain ⟨hfinalizers, hunset⟩ := hdropped hdrops
      have hsame : SameDeclaration before outcome.obs := by
        refine hcopy.sameDeclaration fun hnone hassigns => ?_
        rcases hsafe with hdeleting | hempty | hset | hlabels | hnever
        · exact absurd hnone hdeleting
        · exact absurd (hcopy.finalizers.trans hempty) hfinalizers
        · rw [hunset] at hset
          cases hset
        · exact hlabels
        · rw [hnever] at hassigns
          cases hassigns
      have hwritten := hread.update (hsame.setFinalizers []) answers
      exact ⟨hwritten, hwritten⟩
    next => exact maintains_kept (keeping_updateStatus _) read hread

theorem maintains_reconcileFetched (hsafe : WritesBackSafely before noInit) :
    (reconcileFetched before).Maintains (passHandler answers)
      (Kept key before noInit) := by
  have hneeds : (needsFinalizer before).Uses (KeepingCall before) := by
    unfold needsFinalizer
    split
    · exact ⟨trivial, fun _ => trivial⟩
    · trivial
  intro state hstate
  refine (maintains_kept hneeds state hstate).bind fun needs read hread => ?_
  split
  · have hsame : SameDeclaration before before := ⟨rfl, rfl, rfl⟩
    have hwritten := hread.update (hsame.setFinalizers
      (before.finalizers ++ [observabilityFinalizer])) answers
    exact ⟨hwritten, hwritten⟩
  · refine (runStages_ensures _ _ (.refl before) (fun hnone => .inl ?_)
      hread).bind ?_
    · rw [if_pos hnone]
      rfl
    · rintro outcome after ⟨hafter, hcopy⟩
      exact maintains_concludePass hsafe hcopy after hafter

theorem reconcileRequest_ensures (hsafe : WritesBackSafely before noInit)
    (hfind : state.2.find key = some before)
    (hstate : Kept key before noInit state) :
    (reconcileRequest key).Ensures (passHandler answers)
      (Kept key before noInit) state (fun _ => Kept key before noInit)
      (fun _ => Kept key before noInit) := by
  have hread : Kept key before noInit
      (passHandler answers (.get key) state).2 := hstate.step trivial
  have hreply : (passHandler answers (.get key) state).1 =
      withFault (answers state.1).choice.fault (.ok before) := by
    simp only [passHandler, Handler.numbered, PassAnswer.handler,
      Choice.answer, hfind]
  refine ⟨hread, ?_⟩
  simp only [hreply, done_bind]
  cases (answers state.1).choice.fault with
  | none => exact maintains_reconcileFetched hsafe _ hread
  | some fault =>
    simp only [withFault]
    split
    · exact hread
    · exact hread
    next hok => cases hok

theorem passKeeps_of_safe (hkeyed : current.Keyed)
    (hfind : current.find key = some before)
    (hsafe : WritesBackSafely before current.noInit) (answers : ℕ → PassAnswer)
    : PassKeeps answers current key before := by
  have hstart : Kept key before current.noInit (0, current) := by
    refine ⟨hkeyed, fun after hafter => ?_, rfl⟩
    obtain rfl : before = after := Option.some.inj (hfind.symm.trans hafter)
    exact ⟨rfl, rfl, rfl⟩
  intro visited hvisited
  exact ((reconcileRequest_ensures hsafe hfind hstart).of_mem_visited hstart
    hvisited).declares

/-! ## A pass that loses the labels -/

def succeeding (cr : Observability) (selector : LabelSelector) :
    ℕ → PassAnswer := fun _ =>
  { settings := fun stage =>
      { platform := emptyIndexPlatform
        env := answeringSurroundings
        cluster := stageCluster cr selector stage } }

/-- Every stage finds what it needs. -/
abbrev smoothPass (cr : Observability) (selector : LabelSelector) :
    Handler ControllerCall.Reply (ℕ × ControllerState) :=
  passHandler (succeeding cr selector)

theorem find_store_of_none (hinstalling : obs.deletionTimestamp = none) :
    (current.store obs).find obs.key =
      some { obs with resourceVersion := current.revision + 1 } := by
  unfold ControllerState.store ControllerState.find
  simp [hinstalling]

theorem current_of_find (hfind : current.find obs.key = some before)
    (hversion : before.resourceVersion = obs.resourceVersion) :
    current.current obs = .ok before := by
  unfold ControllerState.current
  simp [hfind, hversion]

section Succeeding

variable {selector : LabelSelector} {cr : Observability}
  {nextStatus : ObservabilityStatus}

theorem find_of_update (hkeyed : current.Keyed)
    (hfind : current.find key = some before) (hcopy : CopyOf before obs)
    (hinstalling : before.deletionTimestamp = none) (position : ℕ) :
    ∃ after, (smoothPass cr selector (.update { obs with finalizers := [] })
        (position, current)).2.2.find key = some after ∧
      after.body.labels = obs.body.labels := by
  have hkey : obs.key = key := hcopy.key.trans (hkeyed key before hfind).1
  have haccepted : current.acceptUpdate { obs with finalizers := [] } =
      .ok (current.store
        { before with
          body := { obs.body with status := before.body.status }
          finalizers := [] }) := by
    have hfound : current.find obs.key = some before := hkey ▸ hfind
    have hcurrent : current.current { obs with finalizers := [] } =
        .ok before := current_of_find hfound hcopy.version.symm
    unfold ControllerState.acceptUpdate
    rw [hcurrent]
    rfl
  have hwritten : (smoothPass cr selector
      (.update { obs with finalizers := [] }) (position, current)).2.2 =
        current.store
          { before with
            body := { obs.body with status := before.body.status }
            finalizers := [] } := by
    simp only [passHandler, Handler.numbered, PassAnswer.handler,
      Choice.answer, haccepted]
    rfl
  rw [hwritten, ← hkey]
  exact ⟨_, find_store_of_none hinstalling, rfl⟩

theorem run_noteInstallation (outcome : StagesOutcome)
    (state : ℕ × ControllerState) :
    ∃ position noted, (noteInstallation outcome).run (smoothPass cr selector)
        state = (.ok (), (position, noted)) ∧
      noted.stored = state.2.stored ∧ noted.revision = state.2.revision ∧
      noted.noInit = state.2.noInit := by
  unfold noteInstallation
  split
  · have hread : (smoothPass cr selector .installComplete state).1 =
        state.2.installComplete := rfl
    cases hcomplete : state.2.installComplete with
    | true =>
      refine ⟨state.1 + 1, state.2, ?_, rfl, rfl, rfl⟩
      simp only [bind_eq_bind, call, request_bind,
        run_request, hread, hcomplete, done_bind, if_true]
      rfl
    | false =>
      refine ⟨state.1 + 1 + 1, { state.2 with installComplete := true }, ?_,
        rfl, rfl, rfl⟩
      simp only [bind_eq_bind, call, request_bind,
        run_request, hread, hcomplete, done_bind]
      rfl
  · exact ⟨_, _, rfl, rfl, rfl, rfl⟩

theorem find_of_concludePass {outcome : StagesOutcome}
    (hkeyed : current.Keyed) (hfind : current.find key = some before)
    (hcopy : CopyOf before outcome.obs)
    (hinstalling : before.deletionTimestamp = none)
    (hfinalizers : before.finalizers ≠ []) (hunset : current.noInit = false)
    (position : ℕ) :
    ∃ after, ((concludePass outcome).run (smoothPass cr selector)
        (position, current)).2.2.find key = some after ∧
      after.body.labels = outcome.obs.body.labels := by
  obtain ⟨read, noted, hnote, hstored, hrevision, hflag⟩ :=
    run_noteInstallation outcome (position, current)
  have hnone : outcome.obs.deletionTimestamp = none :=
    hcopy.deletion.trans hinstalling
  have hdrops : (dropsFinalizers outcome.obs).run (smoothPass cr selector)
      (read, noted) = (.ok true, (read + 1, noted)) := by
    have hsome : outcome.obs.finalizers ≠ [] := by
      rw [hcopy.finalizers]
      exact hfinalizers
    simp only [dropsFinalizers, if_pos hsome]
    have hnoInit : noted.noInit = false := hflag.trans hunset
    simp only [bind_eq_bind, call, request_bind,
      run_request, done_bind, passHandler, Handler.numbered,
      PassAnswer.handler, Choice.answer, hnoInit]
    rfl
  have hconclude : ((concludePass outcome).run (smoothPass cr selector)
      (position, current)).2 = (smoothPass cr selector
        (.update { outcome.obs with finalizers := [] })
          (read + 1, noted)).2 := by
    unfold concludePass
    rw [bind_eq_bind, run_bind_ok hnote]
    simp only [hnone, ne_eq, not_true_eq_false, false_and, if_false]
    rw [bind_eq_bind, run_bind_ok hdrops]
    rfl
  rw [hconclude]
  exact find_of_update
    ((ControllerState.evolves_of_eq hstored hrevision).keyed hkeyed)
    ((ControllerState.find_congr hstored key).trans hfind) hcopy hinstalling _

theorem StageSetting.report_of_run (setting : StageSetting)
    {program : Go ObservabilityStageStatus}
    {status : ObservabilityStageStatus} {after : Cluster}
    (hrun : setting.env.run program { setting.cluster with
      memory := stageMemory obs.body.labels nextStatus } =
        (.ok status, after)) :
    (setting.report program obs nextStatus).1.status = status ∧
      (setting.report program obs nextStatus).1.labels = after.memory.labels ∧
      (setting.report program obs nextStatus).2.migrated =
        after.memory.migrated := by
  unfold StageSetting.report
  rw [hrun]
  exact ⟨rfl, rfl, rfl⟩

theorem exists_run_stage (hcopy : CopyOf before obs)
    {stage : ObservabilityStageName} (hstage : stage ≠ .configuration)
    (hpasses : passesLogging before.body = true) (memory : Memory) :
    ∃ after, answeringSurroundings.run
      ((getReconcilerForStage emptyIndexPlatform .given stage).reconcile
        obs.body memory.migrated)
      { stageCluster before.body selector stage with memory := memory } =
        (.ok .success, after) := by
  have hsection : before.body.descopedModeEnabled = true ∨
      before.body.spec.selfContained ≠ none := by
    simpa [passesLogging, Option.isSome_iff_ne_none] using hpasses
  have hcluster : stageCluster obs.body selector stage =
      stageCluster before.body selector stage := by
    rw [hcopy.body]
    cases stage <;> rfl
  rw [← hcluster]
  exact exists_run_component hstage (by rwa [hcopy.body]) memory

variable (hinstalling : before.deletionTimestamp = none)
  (hpasses : passesLogging before.body = true)
include hinstalling hpasses

theorem run_runStages_cons (stage : ObservabilityStageName)
    (rest : List ObservabilityStageName) (hcopy : CopyOf before obs)
    {after : Cluster} (hrun : answeringSurroundings.run
      ((getReconcilerForStage emptyIndexPlatform .given stage).reconcile
        obs.body nextStatus.migrated)
      { stageCluster before.body selector stage with
        memory := stageMemory obs.body.labels nextStatus } =
          (.ok .success, after)) (state : ℕ × ControllerState) :
    ∃ left status, (runStages (stage :: rest) obs nextStatus).run
        (smoothPass before.body selector) state =
      (runStages rest left status).run
        (smoothPass before.body selector) (state.1 + 1, state.2) ∧
      CopyOf before left ∧ left.body.labels = after.memory.labels ∧
        status.migrated = after.memory.migrated := by
  have hnone : obs.deletionTimestamp = none := hcopy.deletion.trans hinstalling
  obtain ⟨reply, hreply⟩ : ∃ reply, (smoothPass before.body
      selector (.reconcileStage stage obs
        { nextStatus with stage := some stage }) state).1 = reply := ⟨_, rfl⟩
  have hreport : reply.1.status = .success ∧
      reply.1.labels = after.memory.labels ∧
      reply.2.migrated = after.memory.migrated := by
    rw [← hreply]
    exact StageSetting.report_of_run _ hrun
  have hleft : CopyOf before (obs.after reply.1) := by
    rw [← hreply]
    exact hcopy.after_reconcile hnone stage _ (fun _ => hpasses) _ state.2
  refine ⟨obs.after reply.1, { reply.2 with
    lastMessage := reply.1.error.getD ""
    stageStatus := some reply.1.status }, ?_, hleft, hreport.2⟩
  simp only [runStages, runStage, if_pos hnone, call, bind_eq_bind,
    request_bind, run_request, done_bind, hreply]
  rw [if_neg (not_not.mpr hreport.1)]
  rfl

theorem run_runStages_front (stages rest : List ObservabilityStageName)
    (hstages : .configuration ∉ stages) (nextStatus : ObservabilityStatus)
    (hcopy : CopyOf before obs) (state : ℕ × ControllerState) :
    ∃ left status position, (runStages (stages ++ rest) obs nextStatus).run
        (smoothPass before.body selector) state =
      (runStages rest left status).run
        (smoothPass before.body selector)
          (position, state.2) ∧ CopyOf before left := by
  induction stages generalizing obs nextStatus state with
  | nil => exact ⟨obs, nextStatus, state.1, rfl, hcopy⟩
  | cons stage others ih =>
    obtain ⟨hstage, hothers⟩ := not_or.mp (hstages ∘ List.mem_cons.mpr)
    obtain ⟨_, hrun⟩ := exists_run_stage hcopy (Ne.symm hstage) hpasses
      (stageMemory obs.body.labels nextStatus)
    obtain ⟨next, nextNext, hstep, hnext, -⟩ := run_runStages_cons hinstalling
      hpasses stage (others ++ rest) hcopy hrun state
    obtain ⟨left, status, position, hrest, hleft⟩ :=
      ih hothers nextNext hnext (state.1 + 1, state.2)
    exact ⟨left, status, position, hstep.trans hrest, hleft⟩

variable (hselector : before.body.spec.configurationSelector = some selector)
  (hmatches : before.body.externalSyncDisabled = true ∨
    selector.matchLabels.Matches selector.matchLabels = true)
include hselector hmatches

theorem run_runStages_succeeding (hcopy : CopyOf before obs)
    (nextStatus : ObservabilityStatus) (state : ℕ × ControllerState) :
    ∃ outcome position, (runStages getInstallationStages obs nextStatus).run
        (smoothPass before.body selector) state =
          (.ok outcome, (position, state.2)) ∧
      CopyOf before outcome.obs ∧
      outcome.obs.body.labels = prometheusLabels := by
  obtain ⟨first, firstStatus, position, hfront, hfirst⟩ :=
    run_runStages_front hinstalling hpasses (getInstallationStages.take 9)
      [.migration, .configuration] (by decide) nextStatus hcopy state
  obtain ⟨_, hmigrate, hmigrated⟩ := exists_run_migration first.body
    { Cluster.empty with memory := stageMemory first.body.labels firstStatus }
  obtain ⟨last, lastStatus, hmigration, hlast, -, hstatus⟩ :=
    run_runStages_cons hinstalling hpasses .migration [.configuration] hfirst
      hmigrate (position, state.2)
  have hcluster : configurationCluster last.body selector =
      configurationCluster before.body selector := by rw [hlast.body]; rfl
  obtain ⟨_, synced, hstage, hconfigure⟩ := exists_run_configuration
    (show last.body.spec.configurationSelector = some selector by
      rw [hlast.body]; exact hselector) (by rw [hlast.body]; exact hmatches)
    (stageMemory last.body.labels lastStatus)
  rw [hcluster, ← hstatus.trans hmigrated] at hstage
  obtain ⟨left, status, hconfiguration, hleft, hlabels, -⟩ :=
    run_runStages_cons hinstalling hpasses .configuration [] hlast hstage
      (position + 1, state.2)
  exact ⟨⟨left, status, true⟩, position + 1 + 1,
    hfront.trans (hmigration.trans hconfiguration), hleft,
    hlabels.trans (labels_of_run_configure hconfigure)⟩

theorem labels_of_run_succeeding (hkeyed : current.Keyed)
    (hfind : current.find key = some before)
    (hfinalizers : before.finalizers ≠ []) (hunset : current.noInit = false) :
    ∃ after, ((reconcileRequest key).run (smoothPass before.body selector)
        (0, current)).2.2.find key = some after ∧
      after.body.labels = prometheusLabels := by
  have hreply : smoothPass before.body selector (.get key) (0, current) =
      (.ok before, (1, current)) := by
    simp only [passHandler, Handler.numbered, PassAnswer.handler,
      Choice.answer, hfind]
    rfl
  have hneeds : needsFinalizer before = .done false :=
    if_neg fun hnone => hfinalizers hnone.2
  obtain ⟨outcome, position, hstages, hcopy, hassigned⟩ :=
    run_runStages_succeeding hinstalling hpasses hselector hmatches
      (.refl before) before.body.status (1, current)
  have hpass : (reconcileRequest key).run (smoothPass before.body selector)
      (0, current) = (concludePass outcome).run
        (smoothPass before.body selector) (position, current) := by
    unfold reconcileRequest
    simp only [bind_eq_bind, call, request_bind, run_request, done_bind, hreply]
    unfold reconcileFetched
    simp only [hneeds, bind_eq_bind, done_bind, hinstalling,
      if_true, Bool.false_eq_true, if_false]
    exact run_bind_ok hstages
  rw [hpass, ← hassigned]
  exact find_of_concludePass hkeyed hfind hcopy hinstalling hfinalizers hunset
    position

end Succeeding

end Keeping

/-- The stored resource declares what it did after every call of every pass
exactly if it is being deleted, or has no finalizers, or the operator runs
with the ConfigMap, or its labels are those of the Prometheus anyway, or no
pass over it comes to where they are assigned. -/
theorem passKeeps_iff {state : ControllerState} {key : ObjectKey}
    {before : CustomResource} (hkeyed : state.Keyed)
    (hfind : state.find key = some before) :
    (∀ answers, PassKeeps answers state key before) ↔
      WritesBackSafely before state.noInit := by
  refine ⟨fun hkeeps => ?_, passKeeps_of_safe hkeyed hfind⟩
  by_contra hunsafe
  unfold WritesBackSafely at hunsafe
  push Not at hunsafe
  obtain ⟨hinstalling, hfinalizers, hunset, hlabels, hassigns⟩ := hunsafe
  obtain ⟨hpasses, hselects⟩ :=
    Bool.and_eq_true_iff.mp (Bool.eq_true_of_not_eq_false hassigns)
  obtain ⟨selector, hselector, hmatches⟩ :=
    (Option.any_eq_true _ _).mp hselects
  obtain ⟨after, hafter, hassigned⟩ := labels_of_run_succeeding hinstalling
    hpasses hselector (by simpa using hmatches) hkeyed hfind hfinalizers
    (Bool.eq_false_iff.mpr hunset)
  have hsame := hkeeps _ _ (run_snd_mem_visited _ (reconcileRequest key)
    (0, state)) after hafter
  exact hlabels (hsame.labels.symm.trans hassigned)

/-! ## An operand of the operator -/

def ownOperand : CustomResource :=
  { observabilityInstanceWithStorage "managed" with
    finalizers := [observabilityFinalizer] }

def operandState (noInit : Bool) : ControllerState where
  stored := AList.singleton ownOperand.key ownOperand
  noInit := noInit

theorem keyed_of_singleton {state : ControllerState} {obs : CustomResource}
    (hstored : state.stored = AList.singleton obs.key obs)
    (hversion : obs.resourceVersion ≤ state.revision) : state.Keyed := by
  intro key found hfind
  rw [ControllerState.find, hstored, ← AList.insert_empty] at hfind
  by_cases hkey : key = obs.key
  · subst hkey
    rw [AList.lookup_insert] at hfind
    cases hfind
    exact ⟨rfl, hversion⟩
  · rw [AList.lookup_insert_ne hkey] at hfind
    cases hfind

theorem operandState_keyed (noInit : Bool) : (operandState noInit).Keyed :=
  keyed_of_singleton rfl (Nat.le_refl _)

theorem operandState_passKeeps :
    (operandState true).Keyed ∧
      (operandState true).find ownOperand.key = some ownOperand ∧
      ∀ answers, PassKeeps answers (operandState true) ownOperand.key
        ownOperand :=
  ⟨operandState_keyed true, rfl,
    (passKeeps_iff (operandState_keyed true) rfl).mpr (by decide)⟩

def operandSelector : LabelSelector where
  matchLabels := [("configures", "observability-operator")]

/-- After a pass in which every stage succeeds the operand is not recognised
any more. -/
theorem ownOperand_not_recognised : assignsLabels ownOperand.body = true ∧
    (operandState false).find ownOperand.key = some ownOperand ∧
    ownOperand.body.labels.get "managed-by" = "observability-operator" ∧
    ∃ after, ((reconcileRequest ownOperand.key).run (smoothPass
        ownOperand.body operandSelector) (0, operandState false)
          ).2.2.find ownOperand.key = some after ∧
      after.body.labels = prometheusLabels ∧
      after.body.labels.get "managed-by" ≠ "observability-operator" := by
  refine ⟨rfl, rfl, by decide, ?_⟩
  have hfind : (operandState false).find ownOperand.key = some ownOperand := rfl
  have hselector : ownOperand.body.spec.configurationSelector =
      some operandSelector := rfl
  obtain ⟨after, hafter, hlabels⟩ := labels_of_run_succeeding rfl rfl hselector
    (.inr rfl) (operandState_keyed false) hfind (List.cons_ne_nil _ _) rfl
  refine ⟨after, hafter, hlabels, ?_⟩
  rw [hlabels]
  decide

end ObservabilityOperator
