import ObservabilityOperator.CleanupStages
import ObservabilityOperator.Completion

/-!
# Workloads and their permissions in a clean-up

A clean-up deletes the custom resource of Prometheus, waits until its stateful
set is gone and only then deletes the permissions, and likewise for
Alertmanager.

The waiting looks for the stateful set in the namespace of the custom resource
of this operator.  In descoped mode the workload may be elsewhere, and then
nothing is waited for.  Where it is not elsewhere, an earlier stage deletes the
namespace with all that is in it.
-/

namespace ObservabilityOperator

open Program

variable {next : ObservabilityStageStatus → Go ObservabilityStageStatus}

/-! ## Moments of a clean-up -/

/-- The clusters right before and right after a call. -/
structure Moment where
  before : Cluster
  after : Cluster

/-- The call removes an object if it deletes the object, or its namespace: what
is in a namespace is deleted with it. -/
def Moment.Removes (moment : Moment) (kind : Kind) (key : ObjectKey) : Prop :=
  (moment.before.find kind key).isSome = true ∧
    (moment.after.find kind key = none ∨
      (moment.before.find .nameSpace ⟨"", key.ns⟩).isSome = true ∧
        moment.after.find .nameSpace ⟨"", key.ns⟩ = none)

/-- A custom resource for which a stateful set is created, with what the pods
of the stateful set are permitted by. -/
structure Workload where
  kind : Kind
  key : ObjectKey
  stem : String
  permissions : List (Kind × ObjectKey)

def statefulSetOf (stem : String) (key : ObjectKey) : ObjectKey :=
  ⟨key.ns, stem ++ key.name⟩

def Workload.statefulSet (workload : Workload) : ObjectKey :=
  statefulSetOf workload.stem workload.key

def prometheusWorkload (cr : Observability) : Workload where
  kind := .prometheus
  key := getPrometheus cr
  stem := "prometheus-"
  permissions :=
    [(.clusterRole, PrometheusConfiguration.getPrometheusClusterRole cr),
      (.clusterRoleBinding,
        PrometheusConfiguration.getPrometheusClusterRoleBinding cr),
      (.serviceAccount, getPrometheusServiceAccount cr)]

def alertmanagerWorkload (cr : Observability) : Workload where
  kind := .alertmanager
  key := getAlertmanagerCr cr
  stem := "alertmanager-"
  permissions :=
    [(.clusterRole, AlertmanagerInstallation.getAlertmanagerClusterRole cr),
      (.clusterRoleBinding,
        AlertmanagerInstallation.getAlertmanagerClusterRoleBinding cr),
      (.serviceAccount, getAlertmanagerServiceAccount cr)]

/-- Where the call removes a permission, the stateful set is gone already. -/
def Workload.GoesFirst (workload : Workload) (moment : Moment) : Prop :=
  ∀ object ∈ workload.permissions, moment.Removes object.1 object.2 →
    moment.before.find .statefulSet workload.statefulSet = none

/-- Nobody creates a custom resource of this kind, and where there is none, no
stateful set is created for it. -/
def Dwindles (kind : Kind) (stem : String) (before after : Cluster) : Prop :=
  ∀ key, before.find kind key = none → after.find kind key = none ∧
    (before.find .statefulSet (statefulSetOf stem key) = none →
      after.find .statefulSet (statefulSetOf stem key) = none)

/-- What others do before each call of a clean-up. -/
structure Operators where
  act : ℕ → Cluster → Cluster
  prometheus : ∀ tick cluster,
    Dwindles .prometheus "prometheus-" cluster (act tick cluster)
  alertmanager : ∀ tick cluster,
    Dwindles .alertmanager "alertmanager-" cluster (act tick cluster)

def Operators.serve (operators : Operators) (env : Surroundings) :
    Handler (ApiCall.Reply Kind.Spec Action.Reply) Moment :=
  fun call moment =>
    let before := operators.act moment.after.tick moment.after
    ((ObservabilityOperator.serve env.environment call before).1,
      ⟨before,
        (ObservabilityOperator.serve env.environment call before).2⟩)

structure CleanupVisit where
  platform : Platform
  order : IterationOrder
  surroundings : Surroundings
  operators : Operators

namespace CleanupVisit

variable (visit : CleanupVisit) (cr : Observability)

def handler : Handler (ApiCall.Reply Kind.Spec Action.Reply) Moment :=
  visit.operators.serve visit.surroundings

def pass : Go ObservabilityStageStatus :=
  cleanupPass visit.platform visit.order cr getCleanupStages

def moments (cluster : Cluster) : List Moment :=
  ((visit.pass cr).events visit.handler ⟨cluster, cluster⟩).map Event.after

def result (cluster : Cluster) : Cluster :=
  ((visit.pass cr).run visit.handler ⟨cluster, cluster⟩).2.after

end CleanupVisit

def cleanupMoments (cr : Observability) :
    List CleanupVisit → Cluster → List Moment
  | [], _ => []
  | visit :: rest, cluster =>
    visit.moments cr cluster ++ cleanupMoments cr rest (visit.result cr cluster)

/-- In every run of clean-ups, both workloads go before their
permissions. -/
def WorkloadsGoFirst (cr : Observability) : Prop :=
  ∀ visits cluster, ∀ moment ∈ cleanupMoments cr visits cluster,
    (prometheusWorkload cr).GoesFirst moment ∧
      (alertmanagerWorkload cr).GoesFirst moment

/-! ## Waiting for a workload -/

section Waiting

variable {operators : Operators} {env : Surroundings}
  {workload : Workload} {call : ApiCall Kind.Spec Action} {moment : Moment}
  {kind : Kind} {key : ObjectKey}

def Operators.Lets (operators : Operators) (workload : Workload) : Prop :=
  ∀ tick cluster, Dwindles workload.kind workload.stem cluster
    (operators.act tick cluster)

/-- Nothing is left of the workload but its permissions. -/
def Workload.Gone (workload : Workload) (cluster : Cluster) : Prop :=
  cluster.find workload.kind workload.key = none ∧
    cluster.find .statefulSet workload.statefulSet = none

/-- The call deletes neither a permission nor the namespace of one. -/
def Workload.Spares (workload : Workload) (call : ApiCall Kind.Spec Action) :
    Prop :=
  OnlyDeletes call ∧
    ∀ object ∈ workload.permissions, call ≠ .delete object.1 object.2 ∧
      call ≠ .delete .nameSpace ⟨"", object.2.ns⟩

variable {cluster : Cluster} {α : Type} {program : Go α} {Inv : Moment → Prop}
  {name : String}

theorem find_of_onlyDeletes_of_none (hcall : OnlyDeletes call)
    (hnone : cluster.find kind key = none) :
    (serve env.environment call cluster).2.find kind key = none := by
  cases hafter : (serve env.environment call cluster).2.find kind key with
  | none => rfl
  | some object =>
    rw [find_of_serve_onlyDeletes hcall hafter] at hnone
    cases hnone

theorem Workload.spares_delete (hobject : (kind, key) ∉ workload.permissions)
    (hkind : kind ≠ .nameSpace) : workload.Spares (.delete kind key) := by
  refine ⟨trivial, fun object hmem => ⟨fun hcall => hobject ?_, ?_⟩⟩
  · obtain ⟨rfl, rfl⟩ := ApiCall.delete.inj hcall
    exact hmem
  · exact fun hcall => hkind (ApiCall.delete.inj hcall).1

theorem Workload.spares_list (kind : Kind) (options : ListOptions) :
    workload.Spares (.list kind options) :=
  ⟨trivial, fun _ _ => ⟨nofun, nofun⟩⟩

theorem not_writes_of_onlyDeletes (hcall : OnlyDeletes call)
    (hdelete : call ≠ .delete kind key) : ¬ call.Writes kind key := by
  intro hwrites
  cases call with
  | delete target name =>
    obtain ⟨rfl, rfl⟩ := hwrites
    exact hdelete rfl
  | get target name => exact hwrites
  | list target options => exact hwrites
  | create target name object => exact hcall
  | update target name object => exact hcall
  | perform action => exact hwrites

theorem Workload.Spares.goesFirst (hcall : workload.Spares call)
    (moment : Moment) :
    workload.GoesFirst (operators.serve env call moment).2 := by
  rintro object hobject ⟨hbefore, hafter⟩
  obtain ⟨hspared, hplace⟩ := hcall.2 object hobject
  -- Neither the permission nor its namespace is written by the call.
  have hkept {kind : Kind} {key : ObjectKey} (hdelete : call ≠ .delete kind key)
      (hthere : ((operators.serve env call moment).2.before.find kind
        key).isSome = true) :
      (operators.serve env call moment).2.after.find kind key ≠ none := by
    intro hnone
    have hsame := (serve_find env.environment
      (not_writes_of_onlyDeletes hcall.1 hdelete) _).symm.trans hnone
    rw [Operators.serve, hsame] at hthere
    cases hthere
  rcases hafter with hnone | ⟨hthere, hnone⟩
  · exact absurd hnone (hkept hspared hbefore)
  · exact absurd hnone (hkept hplace hthere)

theorem Workload.Gone.act (hlets : operators.Lets workload)
    (hgone : workload.Gone cluster) (tick : ℕ) :
    workload.Gone (operators.act tick cluster) := by
  obtain ⟨hkind, hset⟩ := hlets tick cluster workload.key hgone.1
  exact ⟨hkind, hset hgone.2⟩

theorem Workload.Gone.serve (hlets : operators.Lets workload)
    (hcall : OnlyDeletes call) (hgone : workload.Gone moment.after) :
    workload.GoesFirst (operators.serve env call moment).2 ∧
      workload.Gone (operators.serve env call moment).2.after := by
  have hbefore := hgone.act hlets moment.after.tick
  exact ⟨fun _ _ _ => hbefore.2, find_of_onlyDeletes_of_none hcall hbefore.1,
    find_of_onlyDeletes_of_none hcall hbefore.2⟩

theorem Workload.ensures_spares (huses : program.Uses workload.Spares)
    (moment : Moment) :
    program.Ensures (operators.serve env) workload.GoesFirst moment
      (fun _ _ => True) (fun _ _ => True) := by
  refine ensures_iff.mpr ⟨?_, fun _ _ _ => trivial, fun _ _ _ => trivial⟩
  intro event hevent
  obtain ⟨before, hstep⟩ := exists_state_of_mem_events hevent
  rw [hstep]
  exact (huses.of_mem_events hevent).goesFirst before

theorem Workload.ensures_gone (hlets : operators.Lets workload)
    (huses : program.Uses OnlyDeletes) (hgone : workload.Gone moment.after) :
    program.Ensures (operators.serve env) workload.GoesFirst moment
      (fun _ reached => workload.Gone reached.after) (fun _ _ => True) := by
  induction program generalizing moment with
  | done value => exact hgone
  | fail error => trivial
  | request call rest ih =>
    obtain ⟨hfirst, hafter⟩ := hgone.serve hlets huses.1
    exact ⟨hfirst, ih _ (huses.2 _) hafter⟩

theorem ensures_deleteIfFound
    (hfirst : Inv (operators.serve env (.delete kind key) moment).2) :
    (Client.deleteIfFound kind key : Go Unit).Ensures
      (operators.serve env) Inv moment
      (fun _ reached => reached.after.find kind key = none)
      (fun _ _ => True) := by
  refine ⟨hfirst, ?_⟩
  have hreply (fault : Option Fault) (hfault : env.fault
      (operators.act moment.after.tick moment.after).tick
        (.delete kind key) = fault) :
      (operators.serve env (.delete kind key) moment).1 =
        withFault fault ((operators.act moment.after.tick
          moment.after).changeReply kind key) := by
    subst hfault
    rfl
  cases hfault : env.fault (operators.act moment.after.tick moment.after).tick
      (.delete kind key) with
  | some fault =>
    obtain ⟨failure, applied⟩ := fault
    rw [hreply _ hfault]
    cases failure <;> trivial
  | none =>
    have hgone : (operators.serve env (.delete kind key)
        moment).2.after.find kind key = none := by
      simp [Operators.serve, serve, Surroundings.environment, hfault,
        World.settle, World.effect]
    rw [hreply _ hfault]
    simp only [withFault, World.changeReply]
    split <;> exact hgone

theorem ensures_waitForRemoval {ns : String} (hfirst : Inv (operators.serve env
      (.list kind { ns := some ns }) moment).2) :
    (waitForRemoval kind ns name).Ensures (operators.serve env) Inv
      moment (fun status reached => status = .success →
        reached.after.find kind ⟨ns, name⟩ = none ∧ reached.after.objects =
          (operators.act moment.after.tick moment.after).objects)
      (fun _ _ => True) := by
  refine ⟨hfirst, ?_⟩
  have hreply (fault : Option Fault) (hfault : env.fault
      (operators.act moment.after.tick moment.after).tick
        (.list kind { ns := some ns }) = fault) :
      (operators.serve env (.list kind { ns := some ns })
        moment).1 = withFault fault (.ok ((operators.act moment.after.tick
          moment.after).select kind { ns := some ns })) := by
    subst hfault
    rfl
  cases hfault : env.fault (operators.act moment.after.tick moment.after).tick
      (.list kind { ns := some ns }) with
  | some fault =>
    obtain ⟨failure, applied⟩ := fault
    rw [hreply _ hfault]
    cases failure <;> trivial
  | none =>
    rw [hreply _ hfault]
    intro hsuccess
    refine ⟨?_, rfl⟩
    change (operators.act moment.after.tick moment.after).find kind
      ⟨ns, name⟩ = none
    cases hfind : (operators.act moment.after.tick moment.after).find kind
        ⟨ns, name⟩ with
    | none => rfl
    | some object =>
      have hmem := ((operators.act moment.after.tick
        moment.after).mem_select_iff kind { ns := some ns } ⟨ns, name⟩
          object).mpr ⟨hfind, by simp [ListOptions.selects]⟩
      have hany : (((operators.act moment.after.tick
          moment.after).select kind { ns := some ns }).any
            fun item => item.1.name == name) = true :=
        List.any_eq_true.mpr ⟨_, hmem, by simp⟩
      rw [hany] at hsuccess
      cases hsuccess

theorem Workload.ensures_await {ns : String} (hlets : operators.Lets workload)
    (hspares : (workload.kind, workload.key) ∉ workload.permissions)
    (hkind : workload.kind ≠ .nameSpace)
    (hset : workload.statefulSet = ⟨ns, name⟩)
    (hnext : (next .success).Uses OnlyDeletes)
    (hfailed : next .failed = .done .failed)
    (hprogress : next .inProgress = .done .inProgress) :
    ((Client.deleteIfFound workload.kind workload.key).bind fun _ =>
      (waitForRemoval .statefulSet ns name).bind next).Ensures
        (operators.serve env) workload.GoesFirst moment
        (fun status reached => status = .success →
          workload.Gone reached.after) (fun _ _ => True) := by
  refine .bind (ensures_deleteIfFound
    ((Workload.spares_delete hspares hkind).goesFirst _))
      fun _ deleted hdeleted => ?_
  refine .bind (ensures_waitForRemoval
    ((Workload.spares_list _ _).goesFirst _)) fun status waited hwaited => ?_
  cases status with
  | failed =>
    rw [hfailed]
    exact nofun
  | inProgress =>
    rw [hprogress]
    exact nofun
  | success =>
    obtain ⟨hnone, hobjects⟩ := hwaited rfl
    have hgone : workload.Gone waited.after := by
      refine ⟨?_, hset ▸ hnone⟩
      rw [World.find_congr hobjects]
      exact (hlets _ _ _ hdeleted).1
    exact (Workload.ensures_gone hlets hnext hgone).mono
      (fun _ _ hreached _ => hreached) fun _ _ => id

end Waiting

/-! ## Runs that keep the order -/

/-- Descoped mode is off, and no stage before the one that waits for
Alertmanager deletes a permission of the same name. -/
structure AwaitsWorkloads (cr : Observability) : Prop where
  undescoped : cr.descopedModeEnabled = false
  names : getDefaultNameAlertmanager cr ≠ getDefaultNamePrometheus cr
  grafana : getDefaultNameAlertmanager cr ∉
    ["grafana-oauth-proxy-cluster-role",
      "cluster-grafana-oauth-proxy-cluster-role-binding"]

section Order

variable {platform : Platform} {order : IterationOrder} {cr : Observability}
  {operators : Operators} {env : Surroundings} {workload : Workload}
  {moment : Moment}

theorem AwaitsWorkloads.ns (hawaits : AwaitsWorkloads cr) :
    cr.getPrometheusOperatorNamespace = cr.ns := by
  unfold Observability.getPrometheusOperatorNamespace
  split
  · exact if_neg (by simp [hawaits.undescoped])
  · rfl

/-- The stages before the one that waits spare the permissions, and after it
the workload is gone. -/
theorem Workload.ensures_cleanupPass
    (earlier : List ObservabilityStageName) (stage : ObservabilityStageName)
    (later : List ObservabilityStageName) (hlets : operators.Lets workload)
    (hspares : ∀ other ∈ earlier,
      ((getReconcilerForStage platform order other).cleanup cr).Uses
        workload.Spares)
    (hstage : ∀ moment,
      ((getReconcilerForStage platform order stage).cleanup cr).Ensures
        (operators.serve env) workload.GoesFirst moment
        (fun status reached => status = .success →
          workload.Gone reached.after) (fun _ _ => True)) :
    (cleanupPass platform order cr (earlier ++ stage :: later)).Ensures
      (operators.serve env) workload.GoesFirst moment
      (fun _ _ => True) (fun _ _ => True) := by
  induction earlier generalizing moment with
  | nil =>
    refine .bind (hstage moment) fun status reached hreached => ?_
    cases status with
    | success =>
      exact (Workload.ensures_gone hlets (clears_cleanupPass later).uses
        (hreached rfl)).mono (fun _ _ _ => trivial) fun _ _ => id
    | failed => trivial
    | inProgress => trivial
  | cons first rest ih =>
    refine .bind (Workload.ensures_spares
      (hspares first List.mem_cons_self) moment) fun status reached _ => ?_
    cases status with
    | success =>
      exact ih fun other hother =>
        hspares other (List.mem_cons_of_mem first hother)
    | failed => trivial
    | inProgress => trivial

theorem uses_deleteIfFound_spares {kind : Kind} {key : ObjectKey}
    (hobject : (kind, key) ∉ workload.permissions) (hkind : kind ≠ .nameSpace) :
    (Client.deleteIfFound kind key : Go Unit).Uses workload.Spares :=
  Client.uses_deleteIfFound _ _ _ (Workload.spares_delete hobject hkind)

theorem prometheusWorkload_goesFirst (hawaits : AwaitsWorkloads cr) :
    (cleanupPass platform order cr getCleanupStages).Ensures
      (operators.serve env) (prometheusWorkload cr).GoesFirst moment
      (fun _ _ => True) (fun _ _ => True) := by
  have hlets : operators.Lets (prometheusWorkload cr) := operators.prometheus
  refine Workload.ensures_cleanupPass [] .prometheusConfiguration _ hlets
    nofun fun moment => ?_
  refine .bind (Workload.ensures_spares (uses_deleteIfFound_spares
    (by simp [prometheusWorkload]) (by decide)) moment) fun _ first _ => ?_
  refine .bind (Workload.ensures_spares (uses_deleteIfFound_spares
    (by simp [prometheusWorkload]) (by decide)) first) fun _ second _ => ?_
  refine Workload.ensures_await hlets (by simp [prometheusWorkload]) nofun
    ?_ ?_ rfl rfl
  · simp [Workload.statefulSet, statefulSetOf, prometheusWorkload,
      getPrometheus, hawaits.ns]
  · exact .bind (Client.uses_deleteIfFound _ _ _ trivial) fun _ =>
      .bind (Client.uses_deleteIfFound _ _ _ trivial) fun _ =>
      .bind (Client.uses_deleteIfFound _ _ _ trivial) fun _ =>
      .bind (Client.uses_deleteIfFound _ _ _ trivial) fun _ =>
      .bind (Client.uses_deleteIfFound _ _ _ trivial) fun _ =>
      .bind (Client.uses_deleteIfFound _ _ _ trivial) fun _ =>
        trivial

theorem RemovesListed.spares {objects : List (Kind × ObjectKey)}
    {program : Go ObservabilityStageStatus}
    (hremoves : RemovesListed objects program)
    (hkinds : ∀ object ∈ objects, object.1 ≠ .nameSpace)
    (hobjects : ∀ object ∈ objects, object ∉ workload.permissions) :
    program.Uses workload.Spares :=
  hremoves.uses Workload.spares_list fun object hobject =>
    Workload.spares_delete (hobjects object hobject) (hkinds object hobject)

theorem spares_prometheusConfiguration (hawaits : AwaitsWorkloads cr) :
    (PrometheusConfiguration.cleanup cr).Uses
      (alertmanagerWorkload cr).Spares := by
  have hnames := hawaits.names.symm
  refine removesListed_prometheusConfiguration.spares
    (by simp [prometheusObjects]) ?_
  simp [prometheusObjects, alertmanagerWorkload, getAlertmanagerServiceAccount,
    AlertmanagerInstallation.getAlertmanagerClusterRole,
    AlertmanagerInstallation.getAlertmanagerClusterRoleBinding,
    PrometheusConfiguration.getPrometheusClusterRole,
    PrometheusConfiguration.getPrometheusClusterRoleBinding,
    getPrometheusServiceAccount, hnames]

theorem spares_grafanaConfiguration (hawaits : AwaitsWorkloads cr) :
    (GrafanaConfiguration.cleanup cr).Uses
      (alertmanagerWorkload cr).Spares := by
  have hnames := hawaits.grafana
  simp only [List.mem_cons, List.not_mem_nil, or_false, not_or] at hnames
  refine removesListed_grafanaConfiguration.spares ?_ ?_
  · simp [grafanaObjects, hawaits.undescoped]
  · simp [grafanaObjects, hawaits.undescoped, alertmanagerWorkload,
      Ne.symm hnames.1, Ne.symm hnames.2,
      AlertmanagerInstallation.getAlertmanagerClusterRole,
      AlertmanagerInstallation.getAlertmanagerClusterRoleBinding,
      GrafanaConfiguration.getGrafanaClusterRole,
      GrafanaConfiguration.getGrafanaClusterRoleBinding]

theorem alertmanagerWorkload_goesFirst (hawaits : AwaitsWorkloads cr) :
    (cleanupPass platform order cr getCleanupStages).Ensures
      (operators.serve env) (alertmanagerWorkload cr).GoesFirst
      moment (fun _ _ => True) (fun _ _ => True) := by
  have hlets : operators.Lets (alertmanagerWorkload cr) :=
    operators.alertmanager
  have hkinds : ∀ kind ∈ operatorKinds, kind ≠ .nameSpace → ∀ key,
      (alertmanagerWorkload cr).Spares (.delete kind key) := by
    intro kind hkind hother key
    refine Workload.spares_delete (fun hmem => ?_) hother
    simp only [alertmanagerWorkload, List.mem_cons, Prod.mk.injEq,
      List.not_mem_nil, or_false] at hmem
    rcases hmem with ⟨rfl, -⟩ | ⟨rfl, -⟩ | ⟨rfl, -⟩ <;>
      exact absurd hkind (by decide)
  refine Workload.ensures_cleanupPass [.prometheusConfiguration,
    .grafanaConfiguration, .prometheusInstallation, .grafanaInstallation]
      .alertmanagerInstallation _ hlets ?_ fun moment => ?_
  · intro other hother
    simp only [List.mem_cons, List.not_mem_nil, or_false] at hother
    rcases hother with rfl | rfl | rfl | rfl
    · exact spares_prometheusConfiguration hawaits
    · exact spares_grafanaConfiguration hawaits
    · refine uses_prometheusInstallation hkinds fun hdescoped => ?_
      rw [hawaits.undescoped] at hdescoped
      cases hdescoped
    · exact uses_grafanaInstallation Workload.spares_list hkinds
  · refine Workload.ensures_await hlets (by simp [alertmanagerWorkload]) nofun
      ?_ ?_ rfl rfl
    · simp [Workload.statefulSet, statefulSetOf, alertmanagerWorkload,
        getAlertmanagerCr, hawaits.ns]
    · exact .bind (Client.uses_deleteIfFound _ _ _ trivial) fun _ =>
        .bind (Client.uses_deleteIfFound _ _ _ trivial) fun _ =>
        .bind (Client.uses_deleteIfFound _ _ _ trivial) fun _ =>
        .bind (Client.uses_deleteIfFound _ _ _ trivial) fun _ =>
        .bind (Client.uses_deleteIfFound _ _ _ trivial) fun _ =>
        .bind (Client.uses_deleteIfFound _ _ _ trivial) fun _ =>
        .bind (Client.uses_deleteIfFound _ _ _ trivial) fun _ =>
        .bind (Client.uses_deleteIfFound _ _ _ trivial)
          fun _ => trivial

end Order

theorem workloadsGoFirst_of_awaits {cr : Observability}
    (hawaits : AwaitsWorkloads cr) : WorkloadsGoFirst cr := by
  intro visits
  induction visits with
  | nil => exact fun _ _ => nofun
  | cons visit rest ih =>
    intro cluster moment hmoment
    rcases List.mem_append.mp hmoment with hfirst | hrest
    · obtain ⟨event, hevent, rfl⟩ := List.mem_map.mp hfirst
      exact ⟨(ensures_iff.mp
          (prometheusWorkload_goesFirst hawaits)).1 event hevent,
        (ensures_iff.mp
          (alertmanagerWorkload_goesFirst hawaits)).1 event hevent⟩
    · exact ih _ moment hrest

/-! ## Runs that do not -/

def Operators.idle : Operators where
  act _ cluster := cluster
  prometheus _ _ _ hnone := ⟨hnone, id⟩
  alertmanager _ _ _ hnone := ⟨hnone, id⟩

def CleanupVisit.quiet : CleanupVisit where
  platform := .plain
  order := .given
  surroundings := .quiet
  operators := .idle

section Quiet

variable {cr : Observability} {cluster after before : Cluster}

variable {other kind : Kind} {name key : ObjectKey} {moment : Moment}
  {later : List ObservabilityStageName} {workload : Workload}

/-- What holds at first and not at the end stops to hold at some call, and
what is there at the end is there before that call. -/
theorem exists_turn {α : Type} {env : Surroundings} {program : Go α}
    (huses : program.Uses OnlyDeletes) {Holds : Cluster → Prop}
    (moment : Moment) (hstart : Holds moment.after)
    (hend : ¬ Holds (env.run program moment.after).2)
    (hkept : ((env.run program moment.after).2.find other name).isSome = true) :
    ∃ event ∈ program.events (Operators.idle.serve env) moment,
      Holds event.after.before ∧ ¬ Holds event.after.after ∧
        (event.after.before.find other name).isSome = true := by
  induction program generalizing moment with
  | done value => exact absurd hstart hend
  | fail error => exact absurd hstart hend
  | request call rest ih =>
    by_cases hnext : Holds (serve env.environment call moment.after).2
    · obtain ⟨event, hevent, hturn⟩ := ih _ (huses.2 _)
        (Operators.idle.serve env call moment).2 hnext hend hkept
      exact ⟨event, List.mem_cons_of_mem _ hevent, hturn⟩
    · refine ⟨_, List.mem_cons_self, hstart, hnext, ?_⟩
      obtain ⟨object, hobject⟩ := Option.isSome_iff_exists.mp hkept
      exact Option.isSome_iff_exists.mpr ⟨object,
        find_of_run_onlyDeletes huses rfl hobject⟩

theorem events_cleanupPass_append {platform : Platform} {order : IterationOrder}
    {handler : Handler (ApiCall.Reply Kind.Spec Action.Reply) Moment}
    {stages : List ObservabilityStageName}
    {event : Event (ApiCall.Reply Kind.Spec Action.Reply) Moment}
    (later : List ObservabilityStageName) (hevent : event ∈
      (cleanupPass platform order cr stages).events handler moment) :
    event ∈ (cleanupPass platform order cr (stages ++ later)).events handler
      moment := by
  induction stages generalizing moment with
  | nil => cases hevent
  | cons stage rest ih =>
    rcases mem_events_bind hevent with
      hfirst | ⟨status, reached, hrun, hrest⟩
    · exact mem_events_bind_of_first hfirst
    · refine mem_events_bind_of_rest hrun ?_
      cases status with
      | success => exact ih hrest
      | failed => cases hrest
      | inProgress => cases hrest

theorem holds_of_workloadsGoFirst (hfirst : WorkloadsGoFirst cr)
    (stages : List ObservabilityStageName)
    (hstages : getCleanupStages = stages ++ later)
    (hworkload : workload ∈ [prometheusWorkload cr, alertmanagerWorkload cr])
    (hobject : (kind, key) ∈ workload.permissions) (Holds : Cluster → Prop)
    (hremoves : ∀ moment : Moment, Holds moment.before →
      ¬ Holds moment.after → moment.Removes kind key) (hstart : Holds cluster)
    {result : Except (Abort ApiError) ObservabilityStageStatus}
    (hrun : Surroundings.quiet.run (cleanupPass .plain .given cr stages)
      cluster = (result, after))
    (hset : (after.find .statefulSet workload.statefulSet).isSome = true) :
    Holds after := by
  by_contra hend
  obtain rfl : _ = after := congrArg Prod.snd hrun
  obtain ⟨event, hevent, hbefore, hafter, hthere⟩ := exists_turn
    (clears_cleanupPass stages).uses ⟨cluster, cluster⟩ hstart hend hset
  have hmoment : event.after ∈
      cleanupMoments cr [CleanupVisit.quiet] cluster := by
    refine List.mem_append_left _ (List.mem_map.mpr ⟨event, ?_, rfl⟩)
    have hpass := events_cleanupPass_append later hevent
    rwa [← hstages] at hpass
  have hboth := hfirst _ _ _ hmoment
  have hnone : event.after.before.find .statefulSet workload.statefulSet =
      none := by
    simp only [List.mem_cons, List.not_mem_nil, or_false] at hworkload
    rcases hworkload with rfl | rfl
    · exact hboth.1 _ hobject (hremoves _ hbefore hafter)
    · exact hboth.2 _ hobject (hremoves _ hbefore hafter)
  rw [hnone] at hthere
  cases hthere

/-- Nothing fails, and the stage goes by wherever the workloads are as they are
in the given cluster. -/
abbrev PassesBy (before : Cluster) (program : Go ObservabilityStageStatus) :
    Prop :=
  program.Completes (serve Surroundings.quiet.environment)
    (World.AgreesIn [.statefulSet, .deployment] before) Succeeds

theorem faultless_quiet : Surroundings.quiet.environment.Faultless :=
  fun _ _ => rfl

theorem passesBy_done : PassesBy before (.done .success) :=
  completes_done rfl

theorem PassesBy.delete {next : Unit → Go ObservabilityStageStatus}
    (hkind : kind ∉ [Kind.statefulSet, .deployment])
    (hnext : PassesBy before (next ())) :
    PassesBy before ((Client.deleteIfFound kind key).bind next) :=
  (completes_deleteIfFound faultless_quiet (absurd · hkind) key).bind fun _ _ => hnext

theorem PassesBy.await {ns name : String}
    (hkind : kind ∈ [Kind.statefulSet, .deployment])
    (hnone : before.find kind ⟨ns, name⟩ = none)
    (hnext : PassesBy before (next .success)) :
    PassesBy before ((waitForRemoval kind ns name).bind next) := by
  intro cluster hkeeps
  have hany : ((cluster.select kind { ns := some ns }).any
      fun item => item.1.name == name) = false := by
    rw [List.any_eq_false]
    intro item hitem hname
    obtain ⟨hfind, hselects⟩ := (cluster.mem_select_iff _ _ _ _).mp hitem
    have hkey : item.1 = ⟨ns, name⟩ := by
      rw [ObjectKey.mk.injEq]
      simp [ListOptions.selects] at hselects hname
      exact ⟨hselects, hname⟩
    rw [hkey, hkeeps.find hkind, hnone] at hfind
    cases hfind
  obtain ⟨value, after, hrun, hafter⟩ := hnext cluster.advance hkeeps
  refine ⟨value, after, ?_, hafter⟩
  rw [← hrun]
  refine run_bind_ok ?_
  change (Except.ok (if (cluster.select kind { ns := some ns }).any
    fun item => item.1.name == name then _ else _), cluster.advance) = _
  rw [hany]
  rfl

theorem PassesBy.stage {stage : ObservabilityStageName}
    {rest : List ObservabilityStageName}
    (hstage : PassesBy before
      ((getReconcilerForStage .plain .given stage).cleanup cr))
    (hrest : PassesBy before (cleanupPass .plain .given cr rest)) :
    PassesBy before (cleanupPass .plain .given cr (stage :: rest)) := by
  refine hstage.bind fun status hstatus => ?_
  rw [show status = .success from hstatus]
  exact hrest

theorem passesBy_prometheusConfiguration
    (hnone : before.find .statefulSet
      ⟨cr.ns, "prometheus-" ++ getDefaultNamePrometheus cr⟩ = none) :
    PassesBy before (PrometheusConfiguration.cleanup cr) := by
  refine .delete (by decide) (.delete (by decide) (.delete (by decide)
    (.await (by decide) hnone ?_)))
  exact .delete (by decide) (.delete (by decide) (.delete (by decide)
    (.delete (by decide) (.delete (by decide) (.delete (by decide)
      passesBy_done)))))

theorem passesBy_grafanaConfiguration
    (hnone : before.find .deployment ⟨cr.ns, "grafana-deployment"⟩ = none) :
    PassesBy before (GrafanaConfiguration.cleanup cr) := by
  unfold GrafanaConfiguration.cleanup
  split
  · exact passesBy_done
  · refine .delete (by decide) (.await (by decide) hnone ?_)
    exact .delete (by decide) (.delete (by decide) (.delete (by decide)
      (.delete (by decide) passesBy_done)))

theorem passesBy_prometheusInstallation :
    PassesBy before (PrometheusInstallation.cleanup cr) := by
  refine .delete (by decide) (.delete (by decide) (.delete (by decide) ?_))
  unfold PrometheusInstallation.deleteNamespace
  split
  · exact .delete (by decide) passesBy_done
  · exact passesBy_done

def occupied (set : ObjectKey) (kind : Kind) (key : ObjectKey) : Cluster :=
  (Cluster.empty.put kind key kind.blank).put .statefulSet set
    Kind.statefulSet.blank

theorem not_mem_of_workloadsGoFirst (hfirst : WorkloadsGoFirst cr)
    (stages : List ObservabilityStageName)
    (hstages : getCleanupStages = stages ++ later)
    (hworkload : workload ∈ [prometheusWorkload cr, alertmanagerWorkload cr])
    (kind : Kind) {key : ObjectKey} (hkind : kind ≠ .statefulSet)
    (hobject : (kind, key) ∈ workload.permissions)
    (hpasses : PassesBy (occupied workload.statefulSet kind key)
      (cleanupPass .plain .given cr stages)) :
    ∀ stage ∈ stages, ¬ StageObjects cr stage kind key kind.blank.labels := by
  intro stage hstage hcleared
  obtain ⟨status, after, hrun, rfl, hkeeps⟩ := hpasses _ fun _ _ => rfl
  have hset : (after.find .statefulSet workload.statefulSet).isSome = true := by
    rw [hkeeps.find (by decide)]
    simp [occupied]
  have hthere : ((occupied workload.statefulSet kind key).find kind
      key) = some kind.blank := by
    rw [occupied, World.find_put_of_ne _ _ (by simp [hkind.symm])]
    exact World.find_put_self _ _ _ _
  have hafter := holds_of_workloadsGoFirst hfirst stages hstages hworkload
    hobject (fun cluster => (cluster.find kind key).isSome = true)
    (fun _ hbefore hgone =>
      ⟨hbefore, .inl (Option.not_isSome_iff_eq_none.mp hgone)⟩)
    (by rw [hthere]; rfl) hrun hset
  obtain ⟨object, hfind⟩ := Option.isSome_iff_exists.mp hafter
  have hbefore := find_of_run_onlyDeletes (clears_cleanupPass stages).uses
    hrun hfind
  rw [hthere] at hbefore
  cases hbefore
  exact (clears_cleanupPass stages).lacks hrun rfl kind key _ hfind
    ⟨stage, hstage, hcleared⟩

theorem find_occupied_of_ne {set : ObjectKey} (hkind : kind ≠ other)
    (hset : ¬ (.statefulSet = other ∧ set = name)) :
    (occupied set kind key).find other name = none := by
  rw [occupied, World.find_put_of_ne _ _ hset,
    World.find_put_of_ne _ _ fun hsame => hkind hsame.1]
  rfl

theorem alertmanager_ne_prometheus (first second : String) :
    "alertmanager-" ++ first ≠ "prometheus-" ++ second := by
  intro hsame
  have hhead := congrArg (fun name => name.toList.head?) hsame
  simp at hhead

theorem find_occupied_prometheus (hkind : kind ≠ .statefulSet) :
    (occupied (alertmanagerWorkload cr).statefulSet kind key).find
      .statefulSet ⟨cr.ns, "prometheus-" ++ getDefaultNamePrometheus cr⟩ =
        none := by
  refine find_occupied_of_ne hkind ?_
  rintro ⟨-, hsame⟩
  exact alertmanager_ne_prometheus _ _ (ObjectKey.mk.inj hsame).2

/-- The service account of Alertmanager is there, and its namespace. -/
def Lodged (cr : Observability) (cluster : Cluster) : Prop :=
  (cluster.find .serviceAccount
      (getAlertmanagerServiceAccount cr)).isSome = true ∧
    (cluster.find .nameSpace
      (PrometheusInstallation.getPrometheusNamespace cr)).isSome = true

theorem removes_of_lodged (hbefore : Lodged cr moment.before)
    (hafter : ¬ Lodged cr moment.after) :
    moment.Removes .serviceAccount (getAlertmanagerServiceAccount cr) := by
  refine ⟨hbefore.1, ?_⟩
  by_cases hgone : moment.after.find .serviceAccount
      (getAlertmanagerServiceAccount cr) = none
  · exact .inl hgone
  · refine .inr ⟨hbefore.2, Option.not_isSome_iff_eq_none.mp fun hleft => ?_⟩
    exact hafter ⟨Option.isSome_iff_ne_none.mpr hgone, hleft⟩

theorem not_lodged_of_run {status : ObservabilityStageStatus}
    (hdescoped : cr.descopedModeEnabled = true)
    (hrun : Surroundings.quiet.run (PrometheusInstallation.cleanup cr)
      cluster = (.ok status, after)) : ¬ Lodged cr after := by
  obtain ⟨_, _, -, hrun⟩ := run_bind_eq_ok hrun
  obtain ⟨_, _, -, hrun⟩ := run_bind_eq_ok hrun
  obtain ⟨_, _, -, hrun⟩ := run_bind_eq_ok hrun
  rw [PrometheusInstallation.deleteNamespace, if_pos hdescoped] at hrun
  obtain ⟨_, removed, hdelete, hdone⟩ := run_bind_eq_ok hrun
  cases hdone
  rw [run_deleteIfFound_of_none rfl] at hdelete
  cases hdelete
  simp [Lodged]

def lodgedCluster (cr : Observability) : Cluster :=
  (occupied (alertmanagerWorkload cr).statefulSet .serviceAccount
    (getAlertmanagerServiceAccount cr)).put .nameSpace
      (PrometheusInstallation.getPrometheusNamespace cr) Kind.nameSpace.blank

theorem find_lodgedCluster (hkind : Kind.nameSpace ≠ kind) :
    (lodgedCluster cr).find kind key =
      (occupied (alertmanagerWorkload cr).statefulSet .serviceAccount
        (getAlertmanagerServiceAccount cr)).find kind key :=
  World.find_put_of_ne _ _ fun hsame => hkind hsame.1

/-- The third stage deletes the namespace before the fifth waits. -/
theorem undescoped_of_workloadsGoFirst (hgo : WorkloadsGoFirst cr) :
    cr.descopedModeEnabled = false := by
  by_contra hdescoped
  rw [Bool.not_eq_false] at hdescoped
  have hprometheus : PassesBy (lodgedCluster cr)
      (PrometheusConfiguration.cleanup cr) := by
    refine passesBy_prometheusConfiguration ?_
    rw [find_lodgedCluster (by decide)]
    exact find_occupied_prometheus (by decide)
  have hgrafana : PassesBy (lodgedCluster cr)
      (GrafanaConfiguration.cleanup cr) := by
    refine passesBy_grafanaConfiguration ?_
    rw [find_lodgedCluster (by decide)]
    exact find_occupied_of_ne (by decide) nofun
  obtain ⟨_, removed, hfirst, rfl, hremoved⟩ :=
    hprometheus (lodgedCluster cr) fun _ _ => rfl
  obtain ⟨_, cleared, hsecond, rfl, hcleared⟩ := hgrafana removed hremoved
  obtain ⟨_, after, hthird, rfl, hkeeps⟩ :=
    passesBy_prometheusInstallation cleared hcleared
  refine not_lodged_of_run hdescoped hthird (holds_of_workloadsGoFirst hgo
    [.prometheusConfiguration, .grafanaConfiguration, .prometheusInstallation]
    rfl (List.mem_cons_of_mem _ List.mem_cons_self)
    (List.mem_cons_of_mem _ (List.mem_cons_of_mem _ List.mem_cons_self))
    (Lodged cr) (fun _ => removes_of_lodged) ?_
    ((run_bind_ok hfirst).trans ((run_bind_ok hsecond).trans
      (run_bind_ok hthird))) ?_)
  · refine ⟨?_, by simp [lodgedCluster]⟩
    rw [find_lodgedCluster (by decide), occupied,
      World.find_put_of_ne _ _ (by simp)]
    simp
  · rw [hkeeps.find (by decide), find_lodgedCluster (by decide)]
    simp [occupied]

theorem awaits_of_workloadsGoFirst (hfirst : WorkloadsGoFirst cr) :
    AwaitsWorkloads cr where
  undescoped := undescoped_of_workloadsGoFirst hfirst
  names := by
    intro hname
    refine not_mem_of_workloadsGoFirst hfirst [.prometheusConfiguration] rfl
      (List.mem_cons_of_mem _ List.mem_cons_self) .clusterRole (by decide)
      List.mem_cons_self
      (.stage (passesBy_prometheusConfiguration
        (find_occupied_prometheus (by decide))) passesBy_done)
      .prometheusConfiguration List.mem_cons_self ?_
    simp [StageObjects, Listed, prometheusObjects, hname,
      AlertmanagerInstallation.getAlertmanagerClusterRole,
      PrometheusConfiguration.getPrometheusClusterRole]
  grafana := by
    have hundescoped := undescoped_of_workloadsGoFirst hfirst
    have hpasses (kind : Kind) (key : ObjectKey)
        (hkind : kind ∉ [Kind.statefulSet, .deployment]) :
        PassesBy (occupied (alertmanagerWorkload cr).statefulSet kind key)
          (cleanupPass .plain .given cr
            [.prometheusConfiguration, .grafanaConfiguration]) := by
      refine .stage (passesBy_prometheusConfiguration
        (find_occupied_prometheus ?_)) (.stage
          (passesBy_grafanaConfiguration (find_occupied_of_ne ?_ nofun))
            passesBy_done)
      · rintro rfl
        exact absurd hkind (by decide)
      · rintro rfl
        exact absurd hkind (by decide)
    have hspared := not_mem_of_workloadsGoFirst hfirst
      [.prometheusConfiguration, .grafanaConfiguration] rfl
      (List.mem_cons_of_mem _ List.mem_cons_self)
    intro hname
    simp only [List.mem_cons, List.not_mem_nil, or_false] at hname
    rcases hname with hname | hname
    · refine hspared .clusterRole (by decide) List.mem_cons_self
        (hpasses _ _ (by decide)) .grafanaConfiguration (by decide) ?_
      simp [StageObjects, Listed, grafanaObjects, hundescoped, hname,
        AlertmanagerInstallation.getAlertmanagerClusterRole,
        GrafanaConfiguration.getGrafanaClusterRole]
    · refine hspared .clusterRoleBinding (by decide)
        (List.mem_cons_of_mem _ List.mem_cons_self)
        (hpasses _ _ (by decide)) .grafanaConfiguration (by decide) ?_
      simp [StageObjects, Listed, grafanaObjects, hundescoped, hname,
        AlertmanagerInstallation.getAlertmanagerClusterRoleBinding,
        GrafanaConfiguration.getGrafanaClusterRoleBinding]

end Quiet

/-- In every run of clean-ups the workloads go before their permissions,
exactly if descoped mode is off and the stages that wait share no permission
with an earlier one. -/
theorem workloadsGoFirst_iff (cr : Observability) :
    WorkloadsGoFirst cr ↔ AwaitsWorkloads cr :=
  ⟨awaits_of_workloadsGoFirst, workloadsGoFirst_of_awaits⟩

def separateCr : Observability :=
  { plainCr with spec :=
      { descopedMode := some
          { enabled := some true
            prometheusOperatorNamespace := "monitoring" } } }

/-- The cluster role goes while the stateful set is still there. -/
theorem separateCr_removes :
    (prometheusWorkload separateCr).statefulSet =
        ⟨"monitoring", "prometheus-obs-prometheus"⟩ ∧
      ∃ moment ∈ cleanupMoments separateCr [CleanupVisit.quiet]
          (occupied ⟨"monitoring", "prometheus-obs-prometheus"⟩ .clusterRole
            ⟨"", "obs-prometheus"⟩),
        moment.Removes .clusterRole
            (PrometheusConfiguration.getPrometheusClusterRole separateCr) ∧
          (moment.before.find .statefulSet
            ⟨"monitoring", "prometheus-obs-prometheus"⟩).isSome = true := by
  refine ⟨rfl, _, List.mem_of_getElem? (i := 5) rfl, ?_⟩
  exact ⟨⟨rfl, .inl rfl⟩, rfl⟩

end ObservabilityOperator
