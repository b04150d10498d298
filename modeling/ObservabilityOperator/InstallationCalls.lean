import ObservabilityOperator.CleanupStages
import ObservabilityOperator.NameMigration

/-!
# What an installation can write

Eleven stages write the objects of an installation, under fixed names or with
labels by which a clean-up finds them.  `Operand` lists them by kind, with the
flags of the custom resource that let a stage write.
-/

namespace ObservabilityOperator

def Managed (labels : StringMap) : Prop := managedLabels.Matches labels = true

def AuthenticationProxy (labels : StringMap) : Prop :=
  authenticationProxyLabels.Matches labels = true

section

variable (cr : Observability)

def namedSecrets : List ObjectKey :=
  [getPrometheusProxySecret cr, getAlertmanagerProxySecret cr,
    getAlertmanagerSecret cr, getPrometheusAdditionalScrapeConfig cr] ++
  if cr.descopedModeEnabled then []
  else [GrafanaConfiguration.getGrafanaProxySecret cr]

def namedServices : List ObjectKey :=
  [PrometheusConfiguration.getPrometheusService cr, getAlertmanagerService cr,
    getResourcesService cr]

def namedRoutes : List ObjectKey :=
  [getPrometheusRoute cr, getAlertmanagerRoute cr, getResourcesRoute cr]

def namedServiceAccounts : List ObjectKey :=
  [getPrometheusServiceAccount cr, getAlertmanagerServiceAccount cr] ++
  if PromtailInstallation.isDisabled cr then []
  else [PromtailInstallation.getPromtailServiceAccount cr]

def clusterRoles : List ObjectKey :=
  [PrometheusConfiguration.getPrometheusClusterRole cr,
    AlertmanagerInstallation.getAlertmanagerClusterRole cr] ++
  (if cr.descopedModeEnabled then []
    else [GrafanaConfiguration.getGrafanaClusterRole cr]) ++
  if PromtailInstallation.isDisabled cr then []
    else [PromtailInstallation.getPromtailClusterRole cr]

def clusterRoleBindings : List ObjectKey :=
  [PrometheusConfiguration.getPrometheusClusterRoleBinding cr,
    AlertmanagerInstallation.getAlertmanagerClusterRoleBinding cr] ++
  (if cr.descopedModeEnabled then []
    else [GrafanaConfiguration.getGrafanaClusterRoleBinding cr]) ++
  if PromtailInstallation.isDisabled cr then []
    else [PromtailInstallation.getPromtailClusterRoleBinding cr]

/-- The objects that an installation writes, with token refreshers only if
there are any.  The kinds that serve to install operators and cluster logging
are left open, and so are volumes. -/
def Operand (refreshers : Prop) : ObjectSet :=
  fun kind key labels =>
    match kind with
    | .secret => key ∈ namedSecrets cr ∨ Managed labels
    | .configMap => Managed labels
    | .deployment => key = getResourcesDeployment cr ∨
        AuthenticationProxy labels
    | .service => key ∈ namedServices cr ∨ refreshers
    | .route => key ∈ namedRoutes cr
    | .networkPolicy => AuthenticationProxy labels
    | .prometheusRule => Managed labels ∨ cr.externalSyncDisabled = true
    | .podMonitor => Managed labels
    | .grafanaDashboard => Managed labels
    | .daemonSet => Managed labels
    | .prometheus => key = getPrometheus cr
    | .alertmanager => key = getAlertmanagerCr cr
    | .grafana => key = getGrafanaCr cr ∧ cr.descopedModeEnabled = false
    | .grafanaDataSource =>
      key = GrafanaConfiguration.getGrafanaDatasource cr ∧
        cr.descopedModeEnabled = false
    | .serviceAccount => key ∈ namedServiceAccounts cr
    | .clusterRole => key ∈ clusterRoles cr
    | .clusterRoleBinding => key ∈ clusterRoleBindings cr
    | .statefulSet => False
    | _ => True

structure AllowsOperands (refreshers : Prop)
    (allowed : ApiCall Kind.Spec Action → Prop) : Prop where
  get : ∀ kind key, allowed (.get kind key)
  list : ∀ kind options, allowed (.list kind options)
  now : allowed (.perform .now)
  delete : ∀ kind key, allowed (.delete kind key)
  create : ∀ kind key object, Operand cr refreshers kind key object.labels →
    allowed (.create kind key object)
  update : ∀ kind key object, Operand cr refreshers kind key object.labels →
    allowed (.update kind key object)
  setClusterId : ∀ clusterId, allowed (.perform (.setClusterId clusterId))
  setMigrated : allowed (.perform .setMigrated)

end

namespace AllowsOperands

variable {platform : Platform} {cr : Observability} {refreshers : Prop}
  {allowed : ApiCall Kind.Spec Action → Prop}
  (hallowed : AllowsOperands cr refreshers allowed) {kind : Kind}
  {key : ObjectKey} {change : Resource kind.Spec → Resource kind.Spec}
  {blank : Resource kind.Spec}
include hallowed

/-! ## Parts of stages -/

theorem deleteIfFound (kind : Kind) (key : ObjectKey) :
    (Client.deleteIfFound kind key : Go Unit).Uses allowed :=
  Client.uses_deleteIfFound _ _ _ (hallowed.delete _ _)

theorem listed {α : Type} {options : ListOptions}
    {next : List (ObjectKey × Resource kind.Spec) → Go α}
    (hnext : ∀ list, (next list).Uses allowed) :
    ((Client.list kind options).bind fun reply =>
      (Client.orFail reply).bind next).Uses allowed :=
  LoggingInstallation.uses_listed (hallowed.list _ _) hnext

theorem listFound (kind : Kind) (options : ListOptions) :
    (Client.listFound kind options).Uses allowed :=
  uses_listFound (hallowed.list _ _)

theorem upsert
    (hoperand : ∀ object,
      Operand cr refreshers kind key (change object).labels) :
    (upsert kind key blank change : Go _).Uses allowed :=
  upsert_uses (hallowed.get _ _)
    (fun object => hallowed.create _ _ _ (hoperand object))
    fun object => hallowed.update _ _ _ (hoperand object)

theorem reconcileProxySecret {length : ℕ} (hkey : key ∈ namedSecrets cr) :
    (reconcileProxySecret platform key length).Uses allowed := by
  refine .bind (hallowed.upsert ?_) fun _ => trivial
  exact fun _ => .inl hkey

theorem reconcileServiceAccount {annotations : StringMap}
    (hkey : key ∈ namedServiceAccounts cr) :
    (reconcileServiceAccount key annotations).Uses allowed := by
  refine .bind (hallowed.upsert ?_) fun _ => trivial
  exact fun _ => hkey

theorem reconcileClusterRole {rules : List PolicyRule}
    (hkey : key ∈ clusterRoles cr) :
    (reconcileClusterRole key rules).Uses allowed := by
  refine .bind (hallowed.upsert ?_) fun _ => trivial
  exact fun _ => hkey

theorem reconcileClusterRoleBinding {account role : ObjectKey}
    (hkey : key ∈ clusterRoleBindings cr) :
    (reconcileClusterRoleBinding key account role).Uses allowed := by
  refine .bind (hallowed.upsert ?_) fun _ => trivial
  exact fun _ => hkey

theorem reconcileService {certSecret : String} {selector : StringMap}
    {ports : List ServicePort} (hkey : key ∈ namedServices cr) :
    (reconcileService key certSecret selector ports).Uses allowed := by
  refine .bind (hallowed.upsert ?_) fun _ => trivial
  exact fun _ => .inl hkey

theorem reconcileRoute {service : ObjectKey} (hkey : key ∈ namedRoutes cr) :
    (reconcileRoute key service).Uses allowed := by
  refine .bind (.attempt (hallowed.upsert fun _ => hkey)) fun written => ?_
  split <;> trivial

theorem waitForRoute (key : ObjectKey) : (waitForRoute key).Uses allowed := by
  refine .bind ((Client.uses_get _ _ _).mpr (hallowed.get _ _)) fun reply => ?_
  split
  · trivial
  · exact Client.uses_orFail _ _
  · trivial

theorem waitForOperator (ns name : String) :
    (waitForOperator ns name).Uses allowed :=
  hallowed.listed fun _ => trivial

/-! ## The stages of the components -/

theorem fetchClusterId :
    (PrometheusConfiguration.fetchClusterId cr).Uses allowed := by
  have hassign (clusterId : String) :
      (assignClusterId clusterId).Uses allowed :=
    (Client.uses_perform _ _).mpr (hallowed.setClusterId clusterId)
  unfold PrometheusConfiguration.fetchClusterId
  split
  · trivial
  · split
    · exact hassign _
    · exact .bind ((Client.uses_get _ _ _).mpr (hallowed.get _ _))
        fun _ => .bind (Client.uses_orFail _ _) fun _ => hassign _

theorem prometheusConfiguration :
    (PrometheusConfiguration.reconcile platform cr).Uses allowed := by
  refine .bind (hallowed.reconcileProxySecret (by simp [namedSecrets]))
    fun _ => .bind (hallowed.reconcileServiceAccount
      (by simp [namedServiceAccounts])) fun _ => ?_
  refine .bind (hallowed.reconcileClusterRole (by simp [clusterRoles]))
    fun _ => .bind (hallowed.reconcileClusterRoleBinding
      (by simp [clusterRoleBindings])) fun _ => ?_
  refine .bind (hallowed.reconcileService (by simp [namedServices]))
    fun _ => .bind (hallowed.reconcileRoute (by simp [namedRoutes]))
      fun _ => .bind (hallowed.waitForRoute _) fun status => ?_
  split
  · refine .bind hallowed.fetchClusterId fun _ =>
      .bind (.bind (hallowed.upsert ?_) fun _ => trivial) fun _ => trivial
    exact fun _ => rfl
  · trivial

theorem alertmanagerInstallation :
    (AlertmanagerInstallation.reconcile platform cr).Uses allowed := by
  refine .bind (hallowed.reconcileProxySecret (by simp [namedSecrets]))
    fun _ => .bind (hallowed.reconcileServiceAccount
      (by simp [namedServiceAccounts])) fun _ => ?_
  refine .bind (hallowed.reconcileClusterRole (by simp [clusterRoles]))
    fun _ => .bind (hallowed.reconcileClusterRoleBinding
      (by simp [clusterRoleBindings])) fun _ => ?_
  exact .bind (hallowed.reconcileService (by simp [namedServices]))
    fun _ => .bind (hallowed.reconcileRoute (by simp [namedRoutes]))
      fun _ => hallowed.waitForRoute _

theorem grafanaConfiguration :
    (GrafanaConfiguration.reconcile platform cr).Uses allowed := by
  unfold GrafanaConfiguration.reconcile
  split
  · trivial
  next hscoped =>
    refine .bind (hallowed.reconcileProxySecret
      (by simp [namedSecrets, hscoped])) fun _ => ?_
    refine .bind (hallowed.reconcileClusterRole
      (by simp [clusterRoles, hscoped])) fun _ => ?_
    refine .bind (hallowed.reconcileClusterRoleBinding
      (by simp [clusterRoleBindings, hscoped])) fun _ => ?_
    refine .bind (.bind (hallowed.upsert ?_) fun _ => trivial) fun _ => trivial
    exact fun _ => ⟨rfl, by simpa using hscoped⟩

theorem promtailInstallation :
    (PromtailInstallation.reconcile cr).Uses allowed := by
  unfold PromtailInstallation.reconcile
  split
  · trivial
  next henabled =>
    refine .bind (hallowed.reconcileServiceAccount
      (by simp [namedServiceAccounts, henabled])) fun _ => ?_
    refine .bind (hallowed.reconcileClusterRole
      (by simp [clusterRoles, henabled])) fun _ => ?_
    exact .bind (hallowed.reconcileClusterRoleBinding
      (by simp [clusterRoleBindings, henabled])) fun _ => trivial

theorem migration (migrated : Bool) :
    (Migration.reconcile cr migrated).Uses allowed := by
  cases migrated with
  | true => trivial
  | false =>
    rw [Migration.reconcile_false]
    refine .bind (Migration.removes_removeAll.only.mono ?_) fun _ =>
      .bind ((Client.uses_perform _ _).mpr hallowed.setMigrated)
        fun _ => trivial
    intro call hcall
    cases call with
    | list kind options => exact hallowed.list _ _
    | delete kind key => exact hallowed.delete _ _
    | get kind key => cases hcall
    | create kind key object => cases hcall
    | update kind key object => cases hcall
    | perform action => cases hcall

/-! ## The stages that install operators -/

theorem allowsObject (hopen : ∀ labels, Operand cr refreshers kind key labels) :
    LoggingInstallation.AllowsObject kind key allowed :=
  ⟨fun _ => hallowed.create _ _ _ (hopen _),
    fun _ => hallowed.update _ _ _ (hopen _)⟩

theorem upsert_open (hopen : ∀ labels, Operand cr refreshers kind key labels) :
    (ObservabilityOperator.upsert kind key blank change : Go _).Uses allowed :=
  hallowed.upsert fun _ => hopen _

theorem hasOperatorGroupForNamespace (ns : String) :
    (hasOperatorGroupForNamespace ns).Uses allowed :=
  hallowed.listed fun _ => trivial

theorem prometheusInstallation :
    (PrometheusInstallation.reconcile cr).Uses allowed := by
  have hnamespace :
      (PrometheusInstallation.reconcileNamespace cr).Uses allowed := by
    unfold PrometheusInstallation.reconcileNamespace
    split
    · exact .bind (hallowed.upsert_open fun _ => trivial) fun _ => trivial
    · trivial
  have hunwanted : (PrometheusInstallation.removeUnwanted cr).Uses allowed := by
    refine .bind ((Client.uses_get _ _ _).mpr (hallowed.get _ _))
      fun reply => ?_
    split
    · trivial
    · exact .bind (hallowed.deleteIfFound _ _) fun _ =>
        hallowed.deleteIfFound _ _
    · exact Client.uses_orFail _ _
  have hgroup : (PrometheusInstallation.reconcileOperatorgroup cr).Uses
      allowed := by
    refine .bind (hallowed.hasOperatorGroupForNamespace _) fun found => ?_
    split
    · trivial
    · exact .bind (hallowed.upsert_open fun _ => trivial) fun _ => trivial
  exact .bind hnamespace fun _ =>
    .bind (.bind hunwanted fun _ =>
    .bind (hallowed.upsert_open fun _ => trivial) fun _ => trivial)
      fun _ => .bind (.bind (hallowed.upsert_open fun _ => trivial)
        fun _ => trivial) fun _ => .bind hgroup fun _ =>
          hallowed.waitForOperator _ _

theorem deleteUnrequestedSubscriptions :
    (GrafanaInstallation.deleteUnrequestedSubscriptions cr).Uses allowed := by
  refine hallowed.listed fun list => .bind (.forEach fun item _ => ?_)
    fun _ => ?_
  · split
    · exact .bind ((Client.uses_delete _ _ _).mpr (hallowed.delete _ _))
        fun _ => Client.uses_orFail _ _
    · trivial
  · split
    · refine hallowed.listed fun versions => ?_
      split
      · exact .bind (hallowed.deleteIfFound _ _) fun _ => trivial
      · trivial
    · trivial

theorem grafanaInstallation :
    (GrafanaInstallation.reconcile cr).Uses allowed := by
  have hgroup : (GrafanaInstallation.reconcileOperatorgroup cr).Uses
      allowed := by
    refine .bind (hallowed.hasOperatorGroupForNamespace _) fun found => ?_
    split
    · trivial
    · exact .bind (hallowed.upsert_open fun _ => trivial) fun _ => trivial
  unfold GrafanaInstallation.reconcile
  split
  · trivial
  · refine .bind hallowed.deleteUnrequestedSubscriptions fun status => ?_
    split
    · exact .bind (.bind (hallowed.upsert_open fun _ => trivial)
        fun _ => trivial) fun _ =>
          .bind (.bind (hallowed.upsert_open fun _ => trivial)
            fun _ => trivial) fun _ => .bind hgroup fun _ =>
              hallowed.waitForOperator _ _
    · trivial

theorem updateDeployments (key : ObjectKey) (labels annotations : StringMap)
    (name : String) (seen deployments : StringMap) :
    (CsvStage.updateDeployments key labels annotations name seen
      deployments).Uses allowed := by
  induction deployments generalizing seen with
  | nil => trivial
  | cons deployment rest ih =>
    unfold CsvStage.updateDeployments
    split
    · exact .bind ((Client.uses_update _ _ _ _).mpr
        (hallowed.update _ _ _ trivial)) fun _ =>
          .bind (Client.uses_orFail _ _) fun _ => ih _
    · exact ih _

theorem csv : (CsvStage.reconcile cr).Uses allowed := by
  have hupdate (item : ObjectKey × Resource ClusterServiceVersionSpec)
      (applies : Bool) (name : String) :
      (CsvStage.updatePriority item applies name).Uses allowed := by
    unfold CsvStage.updatePriority
    split
    · exact hallowed.updateDeployments _ _ _ _ _ _
    · trivial
  exact .bind (hallowed.listFound _ _) fun list =>
    .bind (.forEach fun item _ => .bind (hupdate _ _ _) fun _ =>
      hupdate _ _ _) fun _ => trivial

theorem loggingInstallation :
    (LoggingInstallation.reconcile cr).Uses allowed := by
  have hlooking : AllowsLooking allowed :=
    ⟨hallowed.get, hallowed.list, hallowed.now⟩
  unfold LoggingInstallation.reconcile
  split
  · trivial
  · refine .bind (LoggingInstallation.uses_selfContainedMode
      hlooking.prelude) fun selfContained => ?_
    split
    · trivial
    · refine .bind (Program.uses_derefSpec _ _) fun block => ?_
      split
      · trivial
      · refine .bind ((Client.uses_get _ _ _).mpr (hallowed.get _ _))
          fun reply => ?_
        split
        · exact LoggingInstallation.uses_installLogging hlooking
            (hallowed.allowsObject fun _ => trivial)
            (hallowed.allowsObject fun _ => trivial)
            (hallowed.allowsObject fun _ => trivial)
        · trivial
        · exact Client.uses_orFail _ _

theorem component {order : IterationOrder} {stage : ObservabilityStageName}
    (hstage : stage ≠ .configuration) (migrated : Bool) :
    ((getReconcilerForStage platform order stage).reconcile cr
      migrated).Uses allowed := by
  cases stage with
  | prometheusConfiguration => exact hallowed.prometheusConfiguration
  | alertmanagerInstallation => exact hallowed.alertmanagerInstallation
  | grafanaConfiguration => exact hallowed.grafanaConfiguration
  | promtailInstallation => exact hallowed.promtailInstallation
  | prometheusInstallation => exact hallowed.prometheusInstallation
  | grafanaInstallation => exact hallowed.grafanaInstallation
  | loggingInstallation => exact hallowed.loggingInstallation
  | migration => exact hallowed.migration migrated
  | csv => exact hallowed.csv
  | tokenRequest => trivial
  | configuration => exact absurd rfl hstage

end AllowsOperands

end ObservabilityOperator
