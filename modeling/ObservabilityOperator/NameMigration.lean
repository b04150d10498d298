import ObservabilityOperator.Completion
import ObservabilityOperator.ComponentStages

/-!
# The removal of old names

Earlier versions called the components after Kafka.  A pass of the migration
deletes the objects that are left under these names and sets a flag in the
status, which stops all later passes.
-/

namespace ObservabilityOperator

open Program

variable {component : Component} {object : Kind × ObjectKey}

namespace Migration

inductive Component where
  | prometheus
  | alertmanager
  | grafana
  | promtail
  deriving DecidableEq, Repr

/-- The objects with the old name of a component, in the order of their
removal, as far as the custom resource leaves them to the operator. -/
def oldObjects (cr : Observability) : Component → List (Kind × ObjectKey)
  | .prometheus =>
    let key : ObjectKey :=
      ⟨cr.getPrometheusOperatorNamespace, prometheusOldDefaultName⟩
    if cr.spec.prometheusDefaultName = "" then
      [(.prometheus, key), (.route, key), (.service, key),
        (.serviceAccount, key),
        (.clusterRole, ⟨"", prometheusOldDefaultName⟩),
        (.clusterRoleBinding, ⟨"", prometheusOldDefaultName⟩)]
    else []
  | .alertmanager =>
    let key : ObjectKey :=
      ⟨cr.getPrometheusOperatorNamespace, alertManagerOldDefaultName⟩
    if cr.spec.alertManagerDefaultName = "" then
      (if cr.hasAlertmanagerConfigSecret.isSome || cr.externalSyncDisabled
        then []
        else [(.secret, ⟨cr.getPrometheusOperatorNamespace,
          "alertmanager-" ++ alertManagerOldDefaultName⟩)]) ++
      [(.alertmanager, key), (.serviceAccount, key), (.route, key),
        (.service, key),
        (.clusterRole, ⟨"", alertManagerOldDefaultName⟩),
        (.clusterRoleBinding, ⟨"", alertManagerOldDefaultName⟩)]
    else []
  | .grafana =>
    if cr.descopedModeEnabled ∨ cr.spec.grafanaDefaultName ≠ "" then []
    else [(.grafana, ⟨cr.ns, grafanaOldDefaultName⟩)]
  | .promtail =>
    if cr.externalSyncDisabled && cr.observatoriumDisabled then []
    else
      [(.serviceAccount, ⟨cr.ns, promtailOldDefaultName⟩),
        (.clusterRole, ⟨"", promtailOldDefaultName⟩),
        (.clusterRoleBinding, ⟨"", promtailOldDefaultName⟩)]

def currentObjects (cr : Observability) :
    Component → List (Kind × ObjectKey)
  | .prometheus =>
    [(.prometheus, getPrometheus cr), (.route, getPrometheusRoute cr),
      (.service, PrometheusConfiguration.getPrometheusService cr),
      (.serviceAccount, getPrometheusServiceAccount cr),
      (.clusterRole, PrometheusConfiguration.getPrometheusClusterRole cr),
      (.clusterRoleBinding,
        PrometheusConfiguration.getPrometheusClusterRoleBinding cr)]
  | .alertmanager =>
    [(.secret, getAlertmanagerSecret cr),
      (.alertmanager, getAlertmanagerCr cr),
      (.serviceAccount, getAlertmanagerServiceAccount cr),
      (.route, getAlertmanagerRoute cr),
      (.service, getAlertmanagerService cr),
      (.clusterRole, AlertmanagerInstallation.getAlertmanagerClusterRole cr),
      (.clusterRoleBinding,
        AlertmanagerInstallation.getAlertmanagerClusterRoleBinding cr)]
  | .grafana => [(.grafana, getGrafanaCr cr)]
  | .promtail =>
    [(.serviceAccount, PromtailInstallation.getPromtailServiceAccount cr),
      (.clusterRole, PromtailInstallation.getPromtailClusterRole cr),
      (.clusterRoleBinding,
        PromtailInstallation.getPromtailClusterRoleBinding cr)]

def defaultName (cr : Observability) : Component → String
  | .prometheus => cr.spec.prometheusDefaultName
  | .alertmanager => cr.spec.alertManagerDefaultName
  | .grafana => cr.spec.grafanaDefaultName
  | .promtail => ""

def oldNames : Component → List String
  | .prometheus => [prometheusOldDefaultName]
  | .alertmanager =>
    [alertManagerOldDefaultName,
      "alertmanager-" ++ alertManagerOldDefaultName]
  | .grafana => [grafanaOldDefaultName]
  | .promtail => [promtailOldDefaultName]

def givenNames : Component → List String
  | .prometheus => ["obs-prometheus"]
  | .alertmanager => ["obs-alertmanager", "alertmanager-obs-alertmanager"]
  | .grafana => ["obs-grafana"]
  | .promtail => ["obs-promtail"]

theorem name_of_mem_oldObjects {cr : Observability}
    (hobject : object ∈ oldObjects cr component) :
    defaultName cr component = "" ∧ object.2.name ∈ oldNames component := by
  cases component with
  | prometheus =>
    simp only [oldObjects] at hobject
    split at hobject
    next hname =>
      refine ⟨hname, ?_⟩
      revert object
      simp [oldNames]
    next => cases hobject
  | alertmanager =>
    simp only [oldObjects] at hobject
    split at hobject
    next hname =>
      refine ⟨hname, ?_⟩
      revert object
      split <;> simp [oldNames]
    next => cases hobject
  | grafana =>
    simp only [oldObjects] at hobject
    split at hobject
    next => cases hobject
    next hname =>
      simp only [not_or, not_not] at hname
      cases List.mem_singleton.mp hobject
      exact ⟨hname.2, List.mem_singleton.mpr rfl⟩
  | promtail =>
    refine ⟨rfl, ?_⟩
    simp only [oldObjects] at hobject
    split at hobject
    next => cases hobject
    next =>
      revert object
      simp [oldNames]

theorem name_of_mem_currentObjects {cr : Observability}
    (hname : defaultName cr component = "")
    (hobject : object ∈ currentObjects cr component) :
    object.2.name ∈ givenNames component := by
  have hprometheus : cr.spec.prometheusDefaultName = "" →
      getDefaultNamePrometheus cr = "obs-prometheus" := by
    intro hempty
    simp [getDefaultNamePrometheus, hempty]
  have halertmanager : cr.spec.alertManagerDefaultName = "" →
      getDefaultNameAlertmanager cr = "obs-alertmanager" := by
    intro hempty
    simp [getDefaultNameAlertmanager, hempty]
  have hgrafana : cr.spec.grafanaDefaultName = "" →
      getDefaultNameGrafana cr = "obs-grafana" := by
    intro hempty
    simp [getDefaultNameGrafana, hempty]
  revert object
  cases component with
  | prometheus =>
    simp [currentObjects, givenNames, getPrometheus, getPrometheusRoute,
      PrometheusConfiguration.getPrometheusService,
      getPrometheusServiceAccount,
      PrometheusConfiguration.getPrometheusClusterRole,
      PrometheusConfiguration.getPrometheusClusterRoleBinding,
      hprometheus hname]
  | alertmanager =>
    simp [currentObjects, givenNames, getAlertmanagerSecret,
      getAlertmanagerCr, getAlertmanagerServiceAccount,
      getAlertmanagerRoute, getAlertmanagerService,
      AlertmanagerInstallation.getAlertmanagerClusterRole,
      AlertmanagerInstallation.getAlertmanagerClusterRoleBinding,
      halertmanager hname]
  | grafana => simp [currentObjects, givenNames, getGrafanaCr, hgrafana hname]
  | promtail =>
    simp [currentObjects, givenNames,
      PromtailInstallation.getPromtailServiceAccount,
      PromtailInstallation.getPromtailClusterRole,
      PromtailInstallation.getPromtailClusterRoleBinding,
      PromtailInstallation.promtailDefaultName]

theorem not_mem_currentObjects {cr : Observability}
    (hobject : object ∈ oldObjects cr component) :
    object ∉ currentObjects cr component := by
  intro hcurrent
  obtain ⟨hname, hold⟩ := name_of_mem_oldObjects hobject
  have hgiven := name_of_mem_currentObjects hname hcurrent
  have hdisjoint : ∀ name ∈ oldNames component,
      name ∉ givenNames component := by
    cases component <;> decide
  exact hdisjoint _ hold hgiven

/-! ## Programs that remove objects -/

def OnlyRemoves (objects : List (Kind × ObjectKey)) :
    ApiCall Kind.Spec Action → Prop
  | .list _ _ => True
  | .delete kind key => (kind, key) ∈ objects
  | _ => False

/-- The deletion was acknowledged, or found nothing. -/
def Deleted {α : Type} (env : Surroundings) (program : Go α)
    (cluster : Cluster) (kind : Kind) (key : ObjectKey) : Prop :=
  ∃ (reply : Except ApiError Unit) (after : Cluster),
    (⟨.delete kind key, reply, after⟩ :
      Event (ApiCall.Reply Kind.Spec Action.Reply) Cluster) ∈
        env.events program cluster ∧
      (reply = .ok () ∨ reply = .error .notFound)

structure Removes {α : Type} (objects : List (Kind × ObjectKey))
    (program : Go α) : Prop where
  only : program.Uses (OnlyRemoves objects)
  all : ∀ {env : Surroundings} {cluster after : Cluster} {value : α},
    env.run program cluster = (.ok value, after) →
      ∀ object ∈ objects,
        Deleted env program cluster object.1 object.2 ∧
          after.find object.1 object.2 = none
  runs : ∀ {env : Surroundings}, env.environment.Faultless →
    program.Completes (serve env.environment) (fun _ => True) fun _ => True

theorem OnlyRemoves.mono {objects others : List (Kind × ObjectKey)}
    (hsubset : objects ⊆ others) {call : ApiCall Kind.Spec Action}
    (hcall : OnlyRemoves objects call) : OnlyRemoves others call := by
  cases call with
  | delete kind key => exact hsubset hcall
  | list kind options => trivial
  | get kind key => exact hcall
  | create kind key object => exact hcall
  | update kind key object => exact hcall
  | perform action => exact hcall

section Rules

variable {α β : Type} {objects first second : List (Kind × ObjectKey)}
  {program : Go α} {env : Surroundings} {cluster after : Cluster}
  {kind : Kind} {result : Except (Abort ApiError) α}

variable {key : ObjectKey} {next : Go α}

theorem memory_of_onlyRemoves (huses : program.Uses (OnlyRemoves objects))
    (hrun : env.run program cluster = (result, after)) :
    after.memory = cluster.memory := by
  have hkept : (env.run program cluster).2.memory = cluster.memory := by
    refine huses.run_preserves
      (fun before next : Cluster => next.memory = before.memory)
      (fun _ => rfl) (fun hfirst hsecond => hsecond.trans hfirst) ?_ cluster
    intro call hcall state
    cases call with
    | list kind options => rfl
    | delete kind key => exact World.memory_settle _ _ _
    | get kind key => cases hcall
    | create kind key object => cases hcall
    | update kind key object => cases hcall
    | perform action => cases hcall
  rwa [hrun] at hkept

theorem Removes.bind {next : α → Go β} (hprogram : Removes first program)
    (hnext : ∀ value, Removes second (next value)) :
    Removes (first ++ second) (program.bind next) where
  only := .bind (hprogram.only.mono fun _ =>
      OnlyRemoves.mono (List.subset_append_left _ _))
    fun value => (hnext value).only.mono fun _ =>
      OnlyRemoves.mono (List.subset_append_right _ _)
  all := by
    intro env cluster after value hrun object hobject
    obtain ⟨between, state, hfirst, hsecond⟩ := run_bind_eq_ok hrun
    rcases List.mem_append.mp hobject with hmem | hmem
    · obtain ⟨⟨reply, deleted, hevent, hreply⟩, hgone⟩ :=
        hprogram.all hfirst object hmem
      exact ⟨⟨reply, deleted, mem_events_bind_of_first hevent,
        hreply⟩, Surroundings.find_eq_none_of_run hsecond
          ((hnext between).only.mono fun _ hcall _ hcreate => by
            subst hcreate
            exact hcall) hgone⟩
    · obtain ⟨⟨reply, deleted, hevent, hreply⟩, hgone⟩ :=
        (hnext between).all hsecond object hmem
      exact ⟨⟨reply, deleted, mem_events_bind_of_rest hfirst hevent,
        hreply⟩, hgone⟩
  runs hfaultless := (hprogram.runs hfaultless).andThen fun value =>
    (hnext value).runs hfaultless

theorem removes_done (value : α) : Removes [] (.done value : Go α) :=
  ⟨trivial, fun _ _ hobject => absurd hobject List.not_mem_nil,
    fun _ => completes_done trivial⟩

theorem removes_deleteIfFound (kind : Kind) (key : ObjectKey) :
    Removes [(kind, key)] (Client.deleteIfFound kind key : Go Unit) where
  only := Client.uses_deleteIfFound _ kind key (List.mem_singleton.mpr rfl)
  all := by
    intro env cluster after value hrun object hobject
    cases List.mem_singleton.mp hobject
    cases hfault : env.fault cluster.tick (.delete kind key) with
    | some fault =>
      rw [Surroundings.run, run_deleteIfFound_of_some hfault] at hrun
      cases hrun
    | none =>
      rw [Surroundings.run, run_deleteIfFound_of_none hfault] at hrun
      cases hrun
      have hreply : withFault (env.fault cluster.tick
            (.delete kind key)) (cluster.changeReply kind key) = .ok () ∨
          withFault (env.fault cluster.tick (.delete kind key))
            (cluster.changeReply kind key) = .error .notFound := by
        rw [hfault, withFault, World.changeReply]
        split
        · exact .inl rfl
        · exact .inr rfl
      exact ⟨⟨_, _, List.mem_cons_self, hreply⟩, World.find_remove_self _ _ _⟩
  runs hfaultless _ _ :=
    ⟨(), _, run_deleteIfFound_of_none (hfaultless _ _), trivial, trivial⟩

theorem removes_waitAnyhow (kind : Kind) (ns name : String) :
    Removes [] (waitAnyhow (waitForRemoval kind ns name)) := by
  have hwaits {env : Surroundings} (hfaultless : env.environment.Faultless) :
      (waitForRemoval kind ns name).Completes (serve env.environment)
        (fun _ => True) fun _ => True := by
    refine .andThen (fun state _ => ⟨state.select kind { ns := some ns },
      state.advance, ?_, trivial, trivial⟩) fun _ => completes_done trivial
    simp only [Client.listFound, bind_eq_bind, run_list_bind, hfaultless _ _]
    rfl
  refine ⟨.bind (.attempt (.bind ?_ fun _ => trivial)) fun _ => trivial,
    fun _ _ hobject => absurd hobject List.not_mem_nil, fun hfaultless =>
      .discard ((hwaits hfaultless).attempt.mono fun _ _ => trivial)⟩
  refine .bind ((Client.uses_list _ _ _).mpr trivial) fun reply => ?_
  split
  · trivial
  · exact Client.uses_orFail _ _

theorem Removes.delete (hnext : Removes objects next) :
    Removes ((kind, key) :: objects)
      ((Client.deleteIfFound kind key).bind fun _ => next) :=
  (removes_deleteIfFound kind key).bind fun _ => hnext

theorem Removes.wait {ns name : String} (hnext : Removes objects next) :
    Removes objects
      ((waitAnyhow (waitForRemoval kind ns name)).bind fun _ => next) :=
  (removes_waitAnyhow kind ns name).bind fun _ => hnext

end Rules

/-! ## One pass -/

section Pass

variable {cr : Observability} {env : Surroundings}

theorem removes_removePrometheus :
    Removes (oldObjects cr .prometheus) (removePrometheus cr) := by
  simp only [oldObjects, removePrometheus]
  split
  · exact .delete (.wait (.delete (.delete (.delete (.delete
      (removes_deleteIfFound _ _))))))
  · exact removes_done ()

theorem removes_removeAlertmanagerSecret :
    Removes
      (if cr.hasAlertmanagerConfigSecret.isSome || cr.externalSyncDisabled
        then []
        else [(.secret, ⟨cr.getPrometheusOperatorNamespace,
          "alertmanager-" ++ alertManagerOldDefaultName⟩)])
      (removeAlertmanagerSecret cr) := by
  unfold removeAlertmanagerSecret
  split
  · exact removes_done ()
  · exact removes_deleteIfFound _ _

theorem removes_removeAlertmanager :
    Removes (oldObjects cr .alertmanager) (removeAlertmanager cr) := by
  simp only [oldObjects, removeAlertmanager]
  split
  · exact removes_removeAlertmanagerSecret.bind fun _ => .delete (.wait
      (.delete (.delete (.delete (.delete (removes_deleteIfFound _ _))))))
  · exact removes_done ()

theorem removes_removeGrafana :
    Removes (oldObjects cr .grafana) (removeGrafana cr) := by
  simp only [oldObjects, removeGrafana]
  split
  · exact removes_done ()
  · exact .delete (removes_waitAnyhow _ _ _)

theorem removes_removePromtail :
    Removes (oldObjects cr .promtail) (removePromtail cr) := by
  simp only [oldObjects, removePromtail]
  split
  · exact removes_done ()
  · exact .delete (.delete (removes_deleteIfFound _ _))

def allOldObjects (cr : Observability) : List (Kind × ObjectKey) :=
  [Component.prometheus, .alertmanager, .grafana, .promtail].flatMap
    (oldObjects cr)

def removeAll (cr : Observability) : Go Unit := do
  removePrometheus cr
  removeAlertmanager cr
  removeGrafana cr
  removePromtail cr

theorem removes_removeAll : Removes (allOldObjects cr) (removeAll cr) := by
  have hremoves : Removes _ (removeAll cr) :=
    removes_removePrometheus.bind fun _ => removes_removeAlertmanager.bind
      fun _ => removes_removeGrafana.bind fun _ => removes_removePromtail
  simpa [allOldObjects] using hremoves

theorem reconcile_false (cr : Observability) :
    reconcile cr false = (removeAll cr).bind fun _ =>
      assignMigrated.bind fun _ => .done .success := by
  simp [reconcile, removeAll, Program.bind_assoc]

variable {cluster : Cluster}

theorem not_issues_reconcile_true {call : ApiCall Kind.Spec Action} :
    ¬ (reconcile cr true).Issues (serve env.environment) cluster call :=
  not_issues_done _ _ _ _

theorem uses_reconcile (migrated : Bool) :
    (reconcile cr migrated).Uses fun call => ∀ kind key,
      call = .delete kind key → (kind, key) ∈ allOldObjects cr := by
  cases migrated with
  | true => trivial
  | false =>
    rw [reconcile_false]
    refine .bind (removes_removeAll.only.mono ?_) fun _ =>
      .bind ((Client.uses_perform _ _).mpr (by simp)) fun _ => trivial
    rintro _ hcall kind key rfl
    exact hcall

theorem run_reconcile_false (hset : (env.run (reconcile cr false)
      cluster).2.memory.migrated = true)
    (hunset : cluster.memory.migrated = false) :
    ∀ object ∈ allOldObjects cr,
      Deleted env (reconcile cr false) cluster object.1 object.2 ∧
        (env.run (reconcile cr false) cluster).2.find object.1
          object.2 = none := by
  intro object hobject
  rw [reconcile_false] at hset ⊢
  obtain ⟨result, removed, hrun⟩ :
      ∃ result removed, env.run (removeAll cr) cluster =
        (result, removed) := ⟨_, _, rfl⟩
  cases result with
  | error abort =>
    have hmemory := memory_of_onlyRemoves removes_removeAll.only hrun
    rw [Surroundings.run, run_bind_error hrun, hmemory, hunset] at hset
    cases hset
  | ok value =>
    obtain ⟨⟨reply, deleted, hevent, hreply⟩, hgone⟩ :=
      removes_removeAll.all hrun object hobject
    refine ⟨⟨reply, deleted, mem_events_bind_of_first hevent, hreply⟩, ?_⟩
    rw [Surroundings.run, run_bind_ok hrun]
    exact hgone

end Pass

/-! ## Any number of passes -/

def pass (cr : Observability) (env : Surroundings) (cluster : Cluster) :
    Except (Abort ApiError) ObservabilityStageStatus × Cluster :=
  env.run (reconcile cr cluster.memory.migrated) cluster

/-- The migration sends the call. -/
def Sends (cr : Observability) (env : Surroundings)
    (cluster : Cluster) (call : ApiCall Kind.Spec Action) : Prop :=
  (reconcile cr cluster.memory.migrated).Issues
    (serve env.environment) cluster call

/-- Passes of the migration, with steps of others in between that neither bring
back an old object nor touch the flag. -/
inductive Passes (cr : Observability) (start : Cluster) : Cluster → Prop where
  | start : Passes cr start start
  | pass {cluster : Cluster} (hpasses : Passes cr start cluster)
      (env : Surroundings) :
      Passes cr start (pass cr env cluster).2
  | others {cluster next : Cluster} (hpasses : Passes cr start cluster)
      (habsent : ∀ object ∈ allOldObjects cr,
        cluster.find object.1 object.2 = none →
          next.find object.1 object.2 = none)
      (hflag : next.memory.migrated = cluster.memory.migrated) :
      Passes cr start next

def FlagTrue (cr : Observability) (cluster : Cluster) : Prop :=
  cluster.memory.migrated = true →
    ∀ object ∈ allOldObjects cr, cluster.find object.1 object.2 = none

variable {cr : Observability} {start cluster : Cluster}

theorem FlagTrue.pass (hflag : FlagTrue cr cluster) (env : Surroundings) :
    FlagTrue cr (Migration.pass cr env cluster).2 := by
  intro hset object hobject
  unfold Migration.pass at hset ⊢
  cases hbefore : cluster.memory.migrated with
  | true => exact hflag hbefore object hobject
  | false =>
    rw [hbefore] at hset
    exact (run_reconcile_false hset hbefore object hobject).2

theorem FlagTrue.of_passes (hstart : start.memory.migrated = false)
    (hpasses : Passes cr start cluster) : FlagTrue cr cluster := by
  induction hpasses with
  | start =>
    intro hset
    rw [hstart] at hset
    cases hset
  | pass hpasses env ih => exact ih.pass env
  | others hpasses habsent hsame ih =>
    intro hset object hobject
    rw [hsame] at hset
    exact habsent object hobject (ih hset object hobject)

theorem migrated_of_passes (hstart : start.memory.migrated = true)
    (hpasses : Passes cr start cluster) : cluster.memory.migrated = true := by
  induction hpasses with
  | start => exact hstart
  | @pass cluster hpasses env ih =>
    rw [Migration.pass, ih]
    exact ih
  | others hpasses habsent hsame ih => rw [hsame, ih]

/-- Once the flag is set nothing has an old name, the pass that sets it has
deleted all such objects, no later one deletes anything, and what is deleted is
old. -/
structure CompleteAndSafe (cr : Observability) (cluster : Cluster) :
    Prop where
  gone : cluster.memory.migrated = true →
    ∀ object ∈ allOldObjects cr, cluster.find object.1 object.2 = none
  deleted : ∀ env, cluster.memory.migrated = false →
    (pass cr env cluster).2.memory.migrated = true →
      ∀ object ∈ allOldObjects cr,
        Deleted env (reconcile cr cluster.memory.migrated) cluster
          object.1 object.2 ∧
        (pass cr env cluster).2.find object.1 object.2 = none
  idle : cluster.memory.migrated = true →
    ∀ later, Passes cr cluster later → ∀ env kind key,
      ¬ Sends cr env later (.delete kind key)
  spared : ∀ env kind key,
    Sends cr env cluster (.delete kind key) →
      ∃ component, (kind, key) ∈ oldObjects cr component ∧
        (kind, key) ∉ currentObjects cr component

/-- After any passes the migration is complete and safe. -/
theorem migration_complete_and_safe (hstart : start.memory.migrated = false)
    (hpasses : Passes cr start cluster) : CompleteAndSafe cr cluster where
  gone := FlagTrue.of_passes hstart hpasses
  deleted env hunset hset := by
    unfold pass at hset ⊢
    rw [hunset] at hset ⊢
    exact run_reconcile_false hset hunset
  idle hset later hlater env kind key hsends := by
    rw [Sends, migrated_of_passes hset hlater] at hsends
    exact not_issues_reconcile_true hsends
  spared env kind key hsends := by
    have hobject := (uses_reconcile _).of_issues hsends kind key rfl
    obtain ⟨component, -, hold⟩ := List.mem_flatMap.mp hobject
    exact ⟨component, hold, not_mem_currentObjects hold⟩

def clusterWithOldNames : Cluster :=
  (Cluster.empty.put .route ⟨"managed", "kafka-prometheus"⟩
    Kind.route.blank).put .clusterRole ⟨"", "kafka-promtail"⟩
      Kind.clusterRole.blank

def failingSurroundings : Surroundings :=
  { Surroundings.quiet with
    fault := fun _ call =>
      match call with
      | .delete .route _ => some ⟨.internal "timeout", false⟩
      | _ => none }

theorem clusterWithOldNames_complete :
    (pass plainCr failingSurroundings
        clusterWithOldNames).2.memory.migrated = false ∧
      (pass plainCr Surroundings.quiet (pass plainCr failingSurroundings
        clusterWithOldNames).2).2.memory.migrated = true ∧
      CompleteAndSafe plainCr (pass plainCr Surroundings.quiet
        (pass plainCr failingSurroundings clusterWithOldNames).2).2 :=
  ⟨rfl, rfl, migration_complete_and_safe
    (show clusterWithOldNames.memory.migrated = false from rfl)
    ((Passes.start.pass failingSurroundings).pass Surroundings.quiet)⟩

end Migration

end ObservabilityOperator
