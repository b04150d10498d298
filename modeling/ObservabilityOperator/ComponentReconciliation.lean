import ObservabilityOperator.DesiredState
import ObservabilityOperator.OperatorStages

/-!
# The desired states of the components

The stages of the components keep up a state each: a secret for the proxy, an
account with its permissions, and a service behind a route that has been
admitted.  Each object is written by itself, so a stage keeps up the states of
its objects one by one.

The names of cluster roles, services and routes come from the custom resource
or are fixed.  Stages that share a name, and custom resources that share the
fixed ones, undo each other's work.
-/

namespace ObservabilityOperator

open Program

/-! ## The objects of a component -/

section Objects

variable {platform : Platform} {key account role service : ObjectKey}

/-- The session secret is filled. -/
def HasSessionSecret (key : ObjectKey) : Cluster → Prop :=
  World.Holds Kind.secret key fun secret => secret.spec.data ≠ []

/-- A secret that holds anything is left alone, so a session secret is not
generated twice. -/
theorem reconciles_proxySecret {length : ℕ} :
    ReconcilesOnly .secret key (HasSessionSecret key)
      (reconcileProxySecret platform key length) := by
  refine reconciles_upsert (fun secret => ?_) fun secret hdata => if_neg hdata
  unfold withSessionSecret
  split
  · exact List.cons_ne_nil _ _
  next hdata => exact hdata

def HasAccount (key : ObjectKey) : Cluster → Prop :=
  World.Holds Kind.serviceAccount key fun _ => True

theorem reconciles_serviceAccount {annotations : StringMap} :
    ReconcilesOnly .serviceAccount key (HasAccount key)
      (reconcileServiceAccount key annotations) :=
  reconciles_upsert (fun _ => trivial) fun _ _ => rfl

/-- The role has exactly these rules. -/
def HasRole (key : ObjectKey) (rules : List PolicyRule) : Cluster → Prop :=
  World.Holds Kind.clusterRole key fun role => role.spec = { rules }

theorem reconciles_clusterRole {rules : List PolicyRule} :
    ReconcilesOnly .clusterRole key (HasRole key rules)
      (reconcileClusterRole key rules) := by
  unfold reconcileClusterRole
  apply reconciles_upsert
  · exact fun _ => rfl
  · intro role hspec
    rw [← hspec]

def bound (account role : ObjectKey) : ClusterRoleBindingSpec where
  subjects := [{ name := account.name, ns := account.ns }]
  roleRef := some { name := role.name }

/-- The account is bound to the role. -/
def HasBinding (key account role : ObjectKey) : Cluster → Prop :=
  World.Holds Kind.clusterRoleBinding key fun binding =>
    binding.spec = bound account role

theorem reconciles_clusterRoleBinding :
    ReconcilesOnly .clusterRoleBinding key (HasBinding key account role)
      (reconcileClusterRoleBinding key account role) := by
  unfold reconcileClusterRoleBinding
  apply reconciles_upsert
  · exact fun _ => rfl
  · intro binding hspec
    change binding.spec = _ at hspec
    rw [bound] at hspec
    rw [← hspec]

/-- The service has these ports, and its certificate this secret. -/
def HasService (key : ObjectKey) (certSecret : String)
    (selector : StringMap) (ports : List ServicePort) : Cluster → Prop :=
  World.Holds Kind.service key fun service =>
    service.annotations = servingCertSecret certSecret ∧
      service.spec = { ports, selector }

theorem reconciles_service {certSecret : String} {selector : StringMap}
    {ports : List ServicePort} :
    ReconcilesOnly .service key (HasService key certSecret selector ports)
      (reconcileService key certSecret selector ports) := by
  unfold reconcileService
  apply reconciles_upsert
  · exact fun _ => ⟨rfl, rfl⟩
  · rintro service ⟨hannotations, hspec⟩
    rw [← hannotations, ← hspec]

/-- The route leads to the service. -/
def HasRoute (key service : ObjectKey) : Cluster → Prop :=
  World.Holds Kind.route key fun route => routed service route = route

theorem reconciles_route :
    ReconcilesOnly .route key (HasRoute key service)
      (reconcileRoute key service) where
  uses := by
    refine .bind (.attempt (upsert_uses_writesOnly_iff.mpr ⟨rfl, rfl⟩))
      fun result => ?_
    split <;> trivial
  establishes := by
    intro env cluster after hrun
    obtain ⟨result, between, hattempt, hrest⟩ := run_bind_eq_ok hrun
    cases result with
    | ok route =>
      cases hrest
      obtain ⟨rfl, hfind, -⟩ :=
        run_upsert_eq_ok (run_attempt_eq_ok_ok.mp hattempt)
      exact ⟨_, hfind, rfl⟩
    | error error =>
      have herror := run_attempt_eq_ok_error.mp hattempt
      split at hrest
      next hresult => cases hresult
      next hresult =>
        cases hresult
        exact absurd herror run_upsert_ne_alreadyExists
      · cases hrest
  depends := World.Holds.of_agreeOn
  rests := by
    intro cluster hholds env
    refine ⟨Steady.bind (steady_upsert (fun _ => id) hholds).attempt
      fun result _ _ => ?_, fun henv => ?_⟩
    · split <;> exact steady_of_uses trivial
    · obtain ⟨route, after, hrun⟩ : ∃ route after,
          (upsert Kind.route key Kind.route.blank (routed service) :
            Go _).run (serve env) cluster = (.ok route, after) :=
        exists_run_upsert henv _ cluster
      exact ⟨after, run_bind_ok (run_attempt_eq_ok_ok.mpr hrun)⟩

/-- A route without conditions counts as admitted. -/
def RouteReady (key : ObjectKey) : Cluster → Prop :=
  World.Holds Kind.route key fun route => isRouteReady route.spec

theorem reconciles_waitForRoute :
    Reconciles .success (fun _ _ => False) (Only .route key) (RouteReady key)
      (waitForRoute key) := by
  refine .of_reads ?_ World.Holds.of_agreeOn ?_ ?_
  · refine .bind ((Client.uses_get _ _ _).mpr (by simp)) fun reply => ?_
    split
    · trivial
    · exact Client.uses_orFail _ _
    · trivial
  · intro env cluster after hrun
    rw [waitForRoute, bind_eq_bind, run_get_bind] at hrun
    split at hrun
    · cases hrun
    · cases hrun
    next route hreply =>
      obtain ⟨-, hread⟩ := withFault_eq_ok hreply
      unfold World.read at hread
      split at hread
      next hfind =>
        cases hread
        refine ⟨route, hfind, ?_⟩
        by_contra hready
        simp [hready] at hrun
      next => cases hread
  · rintro env cluster henv ⟨route, hfind, hready⟩
    refine ⟨cluster.advance, ?_⟩
    rw [waitForRoute, bind_eq_bind, run_get_bind, henv]
    simp [withFault, World.read, hfind, hready]

end Objects

/-! ## The stages -/

/-- The frame that consists of the listed objects. -/
def Among (objects : List (Kind × ObjectKey)) (kind : Kind)
    (key : ObjectKey) : Prop :=
  (kind, key) ∈ objects

namespace PrometheusConfiguration

variable {cr : Observability}

/-- The cluster id is known or can be read. -/
def KnowsClusterId (cr : Observability) (cluster : Cluster) : Prop :=
  cr.status.clusterId ≠ "" ∨ cr.spec.clusterId ≠ "" ∨
    cluster.Holds Kind.clusterVersion ⟨"", "version"⟩ fun _ => True

theorem reconciles_fetchClusterId :
    Reconciles () (fun _ _ => False) (Only .clusterVersion ⟨"", "version"⟩)
      (KnowsClusterId cr) (fetchClusterId cr) := by
  refine .of_reads ?_ ?_ ?_ ?_
  · unfold fetchClusterId
    split
    · trivial
    · split
      · exact (Client.uses_perform _ _).mpr (by simp)
      · exact .bind ((Client.uses_get _ _ _).mpr (by simp)) fun _ =>
          .bind (Client.uses_orFail _ _) fun _ =>
            (Client.uses_perform _ _).mpr (by simp)
  · intro cluster later hagree
    exact .imp_right (.imp_right (World.Holds.of_agreeOn hagree))
  · intro env cluster after hrun
    unfold fetchClusterId at hrun
    split at hrun
    next hstatus => exact .inl hstatus
    next =>
      split at hrun
      next hspec => exact .inr (.inl hspec)
      next =>
        obtain ⟨version, hfind, -⟩ := run_get_eq_ok hrun
        exact .inr (.inr ⟨version, hfind, trivial⟩)
  · intro env cluster henv hknown
    unfold fetchClusterId
    split
    · exact ⟨_, rfl⟩
    · split
      · exact ⟨_, rfl⟩
      next hstatus hspec =>
        obtain ⟨version, hfind, -⟩ :=
          (hknown.resolve_left hstatus).resolve_left hspec
        simp only [bind_eq_bind, run_get_bind, henv _ _, withFault,
          World.read, hfind]
        exact ⟨_, rfl⟩

/-- The map of token lifetimes is there, with the label. -/
def HasLifetimes (cr : Observability) : Cluster → Prop :=
  World.Holds Kind.configMap (getPrometheusAuthTokenLifetimes cr)
    fun configMap => configMap.labels = managedLabels

/-- What the stage aims at. -/
def Desired (cr : Observability) (cluster : Cluster) : Prop :=
  HasSessionSecret (getPrometheusProxySecret cr) cluster ∧
  HasAccount (getPrometheusServiceAccount cr) cluster ∧
  HasRole (getPrometheusClusterRole cr) clusterRoleRules cluster ∧
  HasBinding (getPrometheusClusterRoleBinding cr)
    (getPrometheusServiceAccount cr) (getPrometheusClusterRole cr) cluster ∧
  HasService (getPrometheusService cr) "prometheus-k8s-tls"
    [("prometheus", (getPrometheus cr).name)] servicePorts cluster ∧
  HasRoute (getPrometheusRoute cr) (getPrometheusService cr) cluster ∧
  RouteReady (getPrometheusRoute cr) cluster ∧
  KnowsClusterId cr cluster ∧
  HasLifetimes cr cluster

theorem reconciles_tokenLifetimeStorage :
    ReconcilesOnly .configMap (getPrometheusAuthTokenLifetimes cr)
      (HasLifetimes cr) (reconcileTokenLifetimeStorage cr) := by
  unfold reconcileTokenLifetimeStorage
  apply reconciles_upsert
  · exact fun _ => rfl
  · intro configMap hlabels
    rw [← hlabels]

def objects (cr : Observability) : List (Kind × ObjectKey) :=
  [(.secret, getPrometheusProxySecret cr),
    (.serviceAccount, getPrometheusServiceAccount cr),
    (.clusterRole, getPrometheusClusterRole cr),
    (.clusterRoleBinding, getPrometheusClusterRoleBinding cr),
    (.service, getPrometheusService cr),
    (.route, getPrometheusRoute cr),
    (.clusterVersion, ⟨"", "version"⟩),
    (.configMap, getPrometheusAuthTokenLifetimes cr)]

theorem reconciles {platform : Platform} :
    Reconciles .success (Among (objects cr)) (Among (objects cr)) (Desired cr)
      (reconcile platform cr) := by
  refine Reconciles.mono (.andThen reconciles_proxySecret (by simp [Only]) <|
    .andThen reconciles_serviceAccount (by simp [Only]) <|
    .andThen reconciles_clusterRole (by simp [Only]) <|
    .andThen reconciles_clusterRoleBinding (by simp [Only]) <|
    .andThen reconciles_service (by simp [Only]) <|
    .andThen reconciles_route (by simp [Only]) <|
    .bind reconciles_waitForRoute ?_ (by simp [Only]) <|
    .andThen reconciles_fetchClusterId (by simp [Only]) <|
    .finish reconciles_tokenLifetimeStorage _) ?_ ?_
  · intro status hne
    cases status with
    | success => exact absurd rfl hne
    | failed => exact ⟨_, rfl, hne⟩
    | inProgress => exact ⟨_, rfl, hne⟩
  · simp [Only, Among, objects, or_imp, forall_and]
  · simp [Only, Among, objects]

end PrometheusConfiguration

namespace AlertmanagerInstallation

def objects (cr : Observability) : List (Kind × ObjectKey) :=
  [(.secret, getAlertmanagerProxySecret cr),
    (.serviceAccount, getAlertmanagerServiceAccount cr),
    (.clusterRole, getAlertmanagerClusterRole cr),
    (.clusterRoleBinding, getAlertmanagerClusterRoleBinding cr),
    (.service, getAlertmanagerService cr),
    (.route, getAlertmanagerRoute cr)]

/-- What the stage aims at. -/
def Desired (cr : Observability) (cluster : Cluster) : Prop :=
  HasSessionSecret (getAlertmanagerProxySecret cr) cluster ∧
  HasAccount (getAlertmanagerServiceAccount cr) cluster ∧
  HasRole (getAlertmanagerClusterRole cr) clusterRoleRules cluster ∧
  HasBinding (getAlertmanagerClusterRoleBinding cr)
    (getAlertmanagerServiceAccount cr) (getAlertmanagerClusterRole cr)
    cluster ∧
  HasService (getAlertmanagerService cr) "alertmanager-k8s-tls"
    [("alertmanager", (getAlertmanagerCr cr).name)] servicePorts cluster ∧
  HasRoute (getAlertmanagerRoute cr) (getAlertmanagerService cr) cluster ∧
  RouteReady (getAlertmanagerRoute cr) cluster

theorem reconciles {platform : Platform} {cr : Observability} :
    Reconciles .success (Among (objects cr)) (Among (objects cr)) (Desired cr)
      (reconcile platform cr) := by
  refine Reconciles.mono (.andThen reconciles_proxySecret (by simp [Only]) <|
    .andThen reconciles_serviceAccount (by simp [Only]) <|
    .andThen reconciles_clusterRole (by simp [Only]) <|
    .andThen reconciles_clusterRoleBinding (by simp [Only]) <|
    .andThen reconciles_service (by simp [Only]) <|
    .andThen reconciles_route (by simp [Only]) reconciles_waitForRoute) ?_ ?_
  · simp [Only, Among, objects]
  · simp [Only, Among, objects]

end AlertmanagerInstallation

namespace GrafanaConfiguration

/-- Grafana reads from the Prometheus. -/
def HasDatasource (cr : Observability) : Cluster → Prop :=
  World.Holds Kind.grafanaDataSource (getGrafanaDatasource cr)
    fun datasource => datasource.spec =
      { name := "obs-prometheus.yaml"
        datasources := [prometheusDatasource cr] }

theorem reconciles_datasource {cr : Observability} :
    ReconcilesOnly .grafanaDataSource (getGrafanaDatasource cr)
      (HasDatasource cr) (reconcileGrafanaDatasource cr) := by
  unfold reconcileGrafanaDatasource
  apply reconciles_upsert
  · exact fun _ => rfl
  · intro datasource hspec
    rw [← hspec]

def objects (cr : Observability) : List (Kind × ObjectKey) :=
  [(.secret, getGrafanaProxySecret cr),
    (.clusterRole, getGrafanaClusterRole cr),
    (.clusterRoleBinding, getGrafanaClusterRoleBinding cr),
    (.grafanaDataSource, getGrafanaDatasource cr)]

/-- What the stage aims at. -/
def Desired (cr : Observability) : Cluster → Prop :=
  if cr.descopedModeEnabled then fun _ => True
  else fun cluster =>
    HasSessionSecret (getGrafanaProxySecret cr) cluster ∧
    HasRole (getGrafanaClusterRole cr) clusterRoleRules cluster ∧
    HasBinding (getGrafanaClusterRoleBinding cr) (grafanaServiceAccount cr)
      (getGrafanaClusterRole cr) cluster ∧
    HasDatasource cr cluster

theorem reconciles {platform : Platform} {cr : Observability} :
    Reconciles .success (Among (objects cr)) (Among (objects cr)) (Desired cr)
      (reconcile platform cr) := by
  by_cases hdescoped : cr.descopedModeEnabled = true
  · rw [reconcile, Desired, if_pos hdescoped, if_pos hdescoped]
    exact .of_done fun _ => trivial
  · rw [reconcile, Desired, if_neg hdescoped, if_neg hdescoped]
    refine Reconciles.mono
      (.andThen reconciles_proxySecret (by simp [Only]) <|
      .andThen reconciles_clusterRole (by simp [Only]) <|
      .andThen reconciles_clusterRoleBinding (by simp [Only]) <|
      .finish reconciles_datasource _) ?_ ?_
    · simp [Only, Among, objects]
    · simp [Only, Among, objects]

end GrafanaConfiguration

namespace PromtailInstallation

def objects (cr : Observability) : List (Kind × ObjectKey) :=
  [(.serviceAccount, getPromtailServiceAccount cr),
    (.clusterRole, getPromtailClusterRole cr),
    (.clusterRoleBinding, getPromtailClusterRoleBinding cr)]

/-- What the stage aims at. -/
def Desired (cr : Observability) : Cluster → Prop :=
  if isDisabled cr then fun _ => True
  else fun cluster =>
    HasAccount (getPromtailServiceAccount cr) cluster ∧
    HasRole (getPromtailClusterRole cr) clusterRoleRules cluster ∧
    HasBinding (getPromtailClusterRoleBinding cr)
      (getPromtailServiceAccount cr) (getPromtailClusterRole cr) cluster

theorem reconciles {cr : Observability} :
    Reconciles .success (Among (objects cr)) (Among (objects cr)) (Desired cr)
      (reconcile cr) := by
  by_cases hdisabled : isDisabled cr = true
  · rw [reconcile, Desired, if_pos hdisabled, if_pos hdisabled]
    exact .of_done fun _ => trivial
  · rw [reconcile, Desired, if_neg hdisabled, if_neg hdisabled]
    refine Reconciles.mono
      (.andThen reconciles_serviceAccount (by simp [Only]) <|
      .andThen reconciles_clusterRole (by simp [Only]) <|
      .finish reconciles_clusterRoleBinding _) ?_ ?_
    · simp [Only, Among, objects]
    · simp [Only, Among, objects]

end PromtailInstallation

/-! ## Stages that have succeeded -/

/-- The stages that write the same objects in every pass. -/
inductive ComponentStage : ObservabilityStageName → Prop where
  | prometheus : ComponentStage .prometheusConfiguration
  | alertmanager : ComponentStage .alertmanagerInstallation
  | grafana : ComponentStage .grafanaConfiguration
  | promtail : ComponentStage .promtailInstallation

/-- The objects that the state of a stage consists of. -/
def componentObjects (cr : Observability) :
    ObservabilityStageName → List (Kind × ObjectKey)
  | .prometheusConfiguration => PrometheusConfiguration.objects cr
  | .alertmanagerInstallation => AlertmanagerInstallation.objects cr
  | .grafanaConfiguration => GrafanaConfiguration.objects cr
  | .promtailInstallation => PromtailInstallation.objects cr
  | _ => []

/-- The state that a component stage aims at. -/
def ComponentDesired (cr : Observability) :
    ObservabilityStageName → Cluster → Prop
  | .prometheusConfiguration => PrometheusConfiguration.Desired cr
  | .alertmanagerInstallation => AlertmanagerInstallation.Desired cr
  | .grafanaConfiguration => GrafanaConfiguration.Desired cr
  | .promtailInstallation => PromtailInstallation.Desired cr
  | _ => fun _ => True

/-- The installation part of a stage. -/
def stageProgram (platform : Platform) (order : IterationOrder)
    (cr : Observability) (migrated : Bool) (stage : ObservabilityStageName) :
    Go ObservabilityStageStatus :=
  (getReconcilerForStage platform order stage).reconcile cr migrated

section Runs

variable {platform later : Platform} {order next : IterationOrder}
  {cr other : Observability} {migrated flag : Bool}
  {stage : ObservabilityStageName} {stages : List ObservabilityStageName}
  {env again : Surroundings} {cluster after found last : Cluster}

theorem reconciles_component (hstage : ComponentStage stage) :
    Reconciles .success (Among (componentObjects cr stage))
      (Among (componentObjects cr stage)) (ComponentDesired cr stage)
      (stageProgram platform order cr migrated stage) := by
  cases hstage with
  | prometheus => exact PrometheusConfiguration.reconciles
  | alertmanager => exact AlertmanagerInstallation.reconciles
  | grafana => exact GrafanaConfiguration.reconciles
  | promtail => exact PromtailInstallation.reconciles

/-- A stage that has succeeded, from whatever it has found, has brought its
state about and is at rest until one of its objects changes, also with other
random texts. -/
theorem componentStage_settles (hstage : ComponentStage stage)
    (hrun : env.run
      (stageProgram platform order cr migrated stage) cluster =
        (.ok .success, after))
    (hfound : World.AgreeOn (Among (componentObjects cr stage)) after found) :
    ComponentDesired cr stage found ∧
      AtRest .success (stageProgram later next cr flag stage) found := by
  have hstate := @reconciles_component platform order cr migrated stage hstage
  have hdesired := hstate.depends hfound (hstate.establishes hrun)
  exact ⟨hdesired, (reconciles_component hstage).rests hdesired⟩

/-! ## Names in common -/

/-- No object belongs to two of the stages. -/
def StagesApart (cr : Observability) : Prop :=
  ∀ {first second}, ComponentStage first → ComponentStage second →
    first ≠ second → ∀ object ∈ componentObjects cr first,
      object ∉ componentObjects cr second

/-- Stages that have succeeded one after the other, each in surroundings of
its own. -/
inductive StagesSucceed (cr : Observability) :
    List ObservabilityStageName → Cluster → Cluster → Prop where
  | nil (cluster : Cluster) : StagesSucceed cr [] cluster cluster
  | cons {env : Surroundings} {platform : Platform}
      {order : IterationOrder} {migrated : Bool}
      {stage : ObservabilityStageName} {stages : List ObservabilityStageName}
      {cluster between after : Cluster}
      (hrun : env.run
        (stageProgram platform order cr migrated stage) cluster =
          (.ok .success, between))
      (hrest : StagesSucceed cr stages between after) :
      StagesSucceed cr (stage :: stages) cluster after

theorem StagesSucceed.desired (hapart : StagesApart cr)
    (hpass : StagesSucceed cr stages cluster after)
    (hstages : ∀ stage ∈ stages, ComponentStage stage)
    (hstage : ComponentStage stage)
    (hdue : stage ∈ stages ∨ ComponentDesired cr stage cluster) :
    ComponentDesired cr stage after := by
  induction hpass with
  | nil cluster => exact hdue.resolve_left List.not_mem_nil
  | @cons env platform order migrated current rest cluster between
      after hrun hrest ih =>
      have hcurrent := hstages current List.mem_cons_self
      refine ih (fun other hother =>
        hstages other (List.mem_cons_of_mem _ hother)) ?_
      by_cases hsame : stage = current
      · subst hsame
        exact .inr ((reconciles_component hstage).establishes hrun)
      · refine hdue.imp (List.mem_of_ne_of_mem hsame) fun hdesired => ?_
        have hstate := @reconciles_component platform order cr migrated stage
          hstage
        refine hstate.depends (fun kind key hkey => ?_) hdesired
        exact Surroundings.find_of_writesOnly hrun
          (reconciles_component hcurrent).uses
          (hapart hstage hcurrent hsame _ hkey)

/-- After stages with names of their own have succeeded, in any order, none of
them has anything to change. -/
theorem componentPass_settles (hapart : StagesApart cr)
    (hpass : StagesSucceed cr stages cluster after)
    (hstages : ∀ stage ∈ stages, ComponentStage stage)
    (hstage : stage ∈ stages) :
    AtRest .success (stageProgram platform order cr migrated stage) after :=
  (reconciles_component (hstages stage hstage)).rests
    (hpass.desired hapart hstages (hstages stage hstage) (.inl hstage))

/-- The roles of Prometheus and of the Alertmanager differ, so under one name
neither of the stages finds what it wants after the other. -/
theorem sharedName_contends {first second : ObservabilityStageName}
    (hname : getDefaultNamePrometheus cr = getDefaultNameAlertmanager cr)
    (hstages : first = .prometheusConfiguration ∧
        second = .alertmanagerInstallation ∨
      first = .alertmanagerInstallation ∧ second = .prometheusConfiguration)
    (hfirst : env.run
      (stageProgram platform order cr migrated first) cluster =
        (.ok .success, after))
    (hsecond : again.run (stageProgram later next cr flag second) after =
      (.ok .success, last)) :
    ¬ World.AgreeOn (Among (componentObjects cr second)) after last := by
  have hrules : ({ rules := PrometheusConfiguration.clusterRoleRules } :
      ClusterRoleSpec) ≠ ⟨AlertmanagerInstallation.clusterRoleRules⟩ := by
    decide
  have hkey : PrometheusConfiguration.getPrometheusClusterRole cr =
      AlertmanagerInstallation.getAlertmanagerClusterRole cr := by
    rw [PrometheusConfiguration.getPrometheusClusterRole, hname]
    rfl
  rcases hstages with ⟨rfl, rfl⟩ | ⟨rfl, rfl⟩
  · refine (reconciles_component .prometheus).contends
      (reconciles_component .alertmanager) ?_ hfirst hsecond
    rintro cluster ⟨-, -, hprometheus, -⟩ ⟨-, -, halertmanager, -⟩
    exact hrules (World.Holds.unique (hkey ▸ hprometheus) halertmanager)
  · refine (reconciles_component .alertmanager).contends
      (reconciles_component .prometheus) ?_ hfirst hsecond
    rintro cluster ⟨-, -, halertmanager, -⟩ ⟨-, -, hprometheus, -⟩
    exact hrules (World.Holds.unique (hkey ▸ hprometheus) halertmanager)

theorem HasBinding.account_ns {key account role name kind : ObjectKey}
    (hfirst : HasBinding key account role cluster)
    (hsecond : HasBinding key name kind cluster) : account.ns = name.ns := by
  have hspec : bound account role = bound name kind :=
    World.Holds.unique hfirst hsecond
  simp only [bound, ClusterRoleBindingSpec.mk.injEq, List.cons.injEq,
    Subject.mk.injEq] at hspec
  exact hspec.1.1.2.2

/-- The cluster roles and their bindings have fixed names, while the account
they are bound to is in the namespace of the custom resource. -/
theorem operands_contend (hns : other.ns ≠ cr.ns)
    (hstage : stage = .grafanaConfiguration ∧
        other.descopedModeEnabled = false ∧ cr.descopedModeEnabled = false ∨
      stage = .promtailInstallation ∧
        PromtailInstallation.isDisabled other = false ∧
        PromtailInstallation.isDisabled cr = false)
    (hfirst : env.run
      (stageProgram platform order other migrated stage) cluster =
        (.ok .success, after))
    (hsecond : again.run (stageProgram later next cr flag stage) after =
      (.ok .success, last)) :
    ¬ World.AgreeOn (Among (componentObjects cr stage)) after last := by
  rcases hstage with ⟨rfl, hother, hcr⟩ | ⟨rfl, hother, hcr⟩
  · refine (reconciles_component .grafana).contends
      (reconciles_component .grafana) ?_ hfirst hsecond
    simp only [ComponentDesired, GrafanaConfiguration.Desired, hother, hcr]
    exact fun _ hheld hwanted => hns (hheld.2.2.1.account_ns hwanted.2.2.1)
  · refine (reconciles_component .promtail).contends
      (reconciles_component .promtail) ?_ hfirst hsecond
    simp only [ComponentDesired, PromtailInstallation.Desired, hother, hcr]
    exact fun _ hheld hwanted => hns (hheld.2.2.account_ns hwanted.2.2)

end Runs

def sharedNameCr : Observability :=
  { plainCr with
    spec :=
      { clusterId := "id"
        selfContained := some {}
        prometheusDefaultName := "obs"
        alertManagerDefaultName := "obs" } }

def installedFrom (cr : Observability) (stage : ObservabilityStageName)
    (cluster : Cluster) : Cluster :=
  (Surroundings.quiet.run (stageProgram .plain .given cr true stage) cluster).2

theorem alertmanager_settles :
    ComponentDesired plainCr .alertmanagerInstallation
      (installedFrom plainCr .alertmanagerInstallation .empty) ∧
    AtRest .success (stageProgram .plain .given plainCr true
      .alertmanagerInstallation)
      (installedFrom plainCr .alertmanagerInstallation .empty) :=
  componentStage_settles .alertmanager (Prod.ext rfl rfl) fun _ _ _ => rfl

theorem grafanaAndPromtail_settle :
    AtRest .success (stageProgram .plain .given plainCr true
      .grafanaConfiguration)
      (installedFrom plainCr .promtailInstallation
        (installedFrom plainCr .grafanaConfiguration .empty)) := by
  have hpass : StagesSucceed plainCr
      [.grafanaConfiguration, .promtailInstallation] .empty
      (installedFrom plainCr .promtailInstallation
        (installedFrom plainCr .grafanaConfiguration .empty)) :=
    .cons (Prod.ext rfl rfl) (.cons (Prod.ext rfl rfl) (.nil _))
  refine componentPass_settles ?_ hpass ?_ List.mem_cons_self
  · intro first second hfirst hsecond hne
    cases hfirst <;> cases hsecond <;>
      first | exact absurd rfl hne | decide
  · intro stage hstage
    simp only [List.mem_cons, List.not_mem_nil, or_false] at hstage
    rcases hstage with rfl | rfl
    · exact .grafana
    · exact .promtail

theorem sharedNameCr_contends :
    ¬ World.AgreeOn
      (Among (componentObjects sharedNameCr .prometheusConfiguration))
      (installedFrom sharedNameCr .alertmanagerInstallation .empty)
      (installedFrom sharedNameCr .prometheusConfiguration
        (installedFrom sharedNameCr .alertmanagerInstallation .empty)) :=
  sharedName_contends rfl (.inr ⟨rfl, rfl⟩) (Prod.ext rfl rfl)
    (Prod.ext rfl rfl)

theorem twoOperands_contend :
    ¬ World.AgreeOn (Among (componentObjects plainCr .grafanaConfiguration))
      (installedFrom { plainCr with ns := "other" } .grafanaConfiguration
        .empty)
      (installedFrom plainCr .grafanaConfiguration
        (installedFrom { plainCr with ns := "other" } .grafanaConfiguration
          .empty)) :=
  operands_contend (by decide) (.inl ⟨rfl, rfl, rfl⟩) (Prod.ext rfl rfl)
    (Prod.ext rfl rfl)

end ObservabilityOperator
