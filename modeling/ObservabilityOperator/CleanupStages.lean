import ObservabilityOperator.LoggingOwnership
import ObservabilityOperator.ObservabilityController
import ObservabilityOperator.OperatorStages

/-!
# What a clean-up removes

The stages of a clean-up look at objects and delete some of them, by name or by
label, and write nothing.  `Clears` says of a program that it does no more than
that, and which objects are gone once it has succeeded.  Since nothing is
written, what one stage has removed is still gone after the stages that follow.
-/

namespace ObservabilityOperator

open Program

/-! ## Programs that only delete -/

def OnlyDeletes : ApiCall Kind.Spec Action → Prop
  | .get _ _ => True
  | .list _ _ => True
  | .delete _ _ => True
  | _ => False

abbrev ObjectSet : Type := Kind → ObjectKey → StringMap → Prop

def Cluster.Lacks (cluster : Cluster) (objects : ObjectSet) : Prop :=
  ∀ kind key object, cluster.find kind key = some object →
    ¬ objects kind key object.labels

/-- The program only deletes, and these objects are gone when it has
finished. -/
structure Clears {α : Type} (finished : α → Prop) (objects : ObjectSet)
    (program : Go α) : Prop where
  uses : program.Uses OnlyDeletes
  lacks : ∀ {env : Surroundings} {cluster after : Cluster} {value : α},
    env.run program cluster = (.ok value, after) → finished value →
      Cluster.Lacks after objects

section Rules

variable {α β γ : Type} {program : Go α} {finished : α → Prop}
  {objects first second : ObjectSet} {env : Surroundings}
  {cluster after : Cluster} {kind : Kind} {key : ObjectKey} {done : β → Prop}
  {result : Except (Abort ApiError) α}

variable {object : Resource kind.Spec} {value : α}

theorem find_of_serve_onlyDeletes {call : ApiCall Kind.Spec Action}
    (hcall : OnlyDeletes call)
    (hfind : (serve env.environment call cluster).2.find kind key =
      some object) : cluster.find kind key = some object := by
  rcases serve_find_eq_some hfind with hbefore | rfl | rfl
  · exact hbefore
  · exact absurd hcall id
  · exact absurd hcall id

theorem find_of_run_onlyDeletes (huses : program.Uses OnlyDeletes)
    (hrun : env.run program cluster = (result, after))
    (hfind : after.find kind key = some object) :
    cluster.find kind key = some object := by
  have hframe : (env.run program cluster).2.find kind key =
      some object → cluster.find kind key = some object :=
    huses.run_preserves
      (fun before next : Cluster => next.find kind key = some object →
        before.find kind key = some object)
      (fun _ => id) (fun hfirst hsecond hlast => hfirst (hsecond hlast))
      (fun _ hcall _ => find_of_serve_onlyDeletes hcall) cluster
  rw [hrun] at hframe
  exact hframe hfind

theorem Cluster.Lacks.of_run (hlacks : Cluster.Lacks cluster objects)
    (huses : program.Uses OnlyDeletes)
    (hrun : env.run program cluster = (result, after)) :
    Cluster.Lacks after objects :=
  fun kind key object hfind =>
    hlacks kind key object (find_of_run_onlyDeletes huses hrun hfind)

theorem Clears.mono (hprogram : Clears finished objects program)
    (hobjects : ∀ kind key labels, first kind key labels →
      objects kind key labels) : Clears finished first program :=
  ⟨hprogram.uses, fun hrun hfinished kind key object hfind hcleared =>
    hprogram.lacks hrun hfinished kind key object hfind
      (hobjects kind key object.labels hcleared)⟩

theorem Clears.bind {next : α → Go β}
    (hprogram : Clears (fun _ => True) first program)
    (hnext : ∀ value, Clears done second (next value)) :
    Clears done (fun kind key labels =>
      first kind key labels ∨ second kind key labels) (program.bind next) where
  uses := .bind hprogram.uses fun value => (hnext value).uses
  lacks := by
    intro env cluster after value hrun hdone kind key object hfind
    obtain ⟨between, state, hfirst, hsecond⟩ := run_bind_eq_ok hrun
    have hlacks := (hprogram.lacks hfirst trivial).of_run
      (hnext between).uses hsecond
    rintro (hcleared | hcleared)
    · exact hlacks kind key object hfind hcleared
    · exact (hnext between).lacks hsecond hdone kind key object hfind hcleared

theorem Clears.finish {value : β}
    (hprogram : Clears (fun _ => True) objects program) :
    Clears done objects (program.bind fun _ => .done value) := by
  refine ⟨.bind hprogram.uses fun _ => trivial, fun hrun _ => ?_⟩
  obtain ⟨between, state, hfirst, hdone⟩ := run_bind_eq_ok hrun
  cases hdone
  exact hprogram.lacks hfirst trivial

theorem clears_of_uses (huses : program.Uses OnlyDeletes) :
    Clears finished (fun _ _ _ => False) program :=
  ⟨huses, fun _ _ _ _ _ _ => id⟩

theorem clears_done :
    Clears finished (fun _ _ _ => False) (.done value : Go α) :=
  clears_of_uses trivial

theorem find_of_run_deleteIfFound
    (hrun : env.run (Client.deleteIfFound kind key) cluster =
      (.ok (), after)) : after.find kind key = none := by
  cases hfault : env.fault cluster.tick (.delete kind key) with
  | some fault =>
    rw [Surroundings.run, run_deleteIfFound_of_some hfault] at hrun
    cases hrun
  | none =>
    rw [Surroundings.run, run_deleteIfFound_of_none hfault] at hrun
    cases hrun
    exact World.find_remove_self _ _ _

def Single (kind : Kind) (key : ObjectKey) : ObjectSet :=
  fun other name _ => other = kind ∧ name = key

theorem clears_deleteIfFound (kind : Kind) (key : ObjectKey) :
    Clears (fun _ => True) (Single kind key)
      (Client.deleteIfFound kind key : Go Unit) where
  uses := Client.uses_deleteIfFound _ kind key trivial
  lacks := by
    intro env cluster after value hrun _ other name object hfind
    rintro ⟨rfl, rfl⟩
    rw [find_of_run_deleteIfFound hrun] at hfind
    cases hfind

def Selected (kind : Kind) (ns : String) (selector : StringMap) : ObjectSet :=
  fun other key labels => other = kind ∧ key.ns = ns ∧
    selector.Matches labels = true

theorem uses_deleteListed (kind : Kind) (options : ListOptions) :
    (deleteListed kind options).Uses OnlyDeletes := by
  rw [deleteListed_eq_prune]
  exact Client.uses_prune trivial fun _ => trivial

theorem clears_deleteListed (kind : Kind) (ns : String) (selector : StringMap) :
    Clears (fun _ => True) (Selected kind ns selector)
      (deleteListed kind { ns := some ns, labels := selector }) where
  uses := uses_deleteListed _ _
  lacks := by
    intro env cluster after value hrun _ other key object hfind
    rintro ⟨rfl, hns, hlabels⟩
    have hbefore := find_of_run_onlyDeletes (uses_deleteListed _ _) hrun hfind
    rw [deleteListed_eq_prune] at hrun
    have hgone := (run_prune_eq_ok hrun).1 key object hbefore
      (by simp [ListOptions.selects, hns, hlabels]) id
    rw [hgone] at hfind
    cases hfind

def Listed (objects : List (Kind × ObjectKey)) : ObjectSet :=
  fun kind key _ => (kind, key) ∈ objects

theorem clears_nothing : Clears finished (Listed []) (.done value : Go α) :=
  clears_done.mono fun _ _ _ hlisted => List.not_mem_nil hlisted

theorem Clears.delete {rest : List (Kind × ObjectKey)} {next : Unit → Go β}
    (hnext : ∀ value, Clears done (Listed rest) (next value)) :
    Clears done (Listed ((kind, key) :: rest))
      ((Client.deleteIfFound kind key).bind next) := by
  refine (Clears.bind (clears_deleteIfFound kind key) hnext).mono ?_
  intro other name _ hlisted
  rcases List.mem_cons.mp hlisted with hfirst | hrest
  · exact .inl (Prod.mk.inj hfirst)
  · exact .inr hrest

end Rules

/-! ## The stages -/

section Stages

variable {cr : Observability}
  {next : ObservabilityStageStatus → Go ObservabilityStageStatus} {kind : Kind}
  {objects : List (Kind × ObjectKey)}

def Succeeds (status : ObservabilityStageStatus) : Prop := status = .success

variable {allowed : ApiCall Kind.Spec Action → Prop} {ns : String}

theorem uses_listFound {options : ListOptions}
    (hlist : allowed (.list kind options)) :
    (Client.listFound kind options).Uses allowed := by
  refine .bind ((Client.uses_list _ _ _).mpr hlist) fun reply => ?_
  split
  · trivial
  · exact Client.uses_orFail _ _

theorem uses_waitForRemoval (name : String)
    (hlist : allowed (.list kind { ns := some ns })) :
    (waitForRemoval kind ns name).Uses allowed :=
  .bind (uses_listFound hlist) fun _ => trivial

theorem Clears.stage {program : Go ObservabilityStageStatus}
    {first second : ObjectSet} (hprogram : Clears Succeeds first program)
    (hsuccess : Clears Succeeds second (next .success))
    (hfailed : next .failed = .done .failed)
    (hprogress : next .inProgress = .done .inProgress) :
    Clears Succeeds (fun kind key labels =>
      first kind key labels ∨ second kind key labels) (program.bind next) where
  uses := by
    refine .bind hprogram.uses fun status => ?_
    cases status with
    | success => exact hsuccess.uses
    | failed => exact hfailed ▸ trivial
    | inProgress => exact hprogress ▸ trivial
  lacks := by
    intro env cluster after value hrun hvalue kind key object hfind
    obtain ⟨status, between, hfirst, hsecond⟩ := run_bind_eq_ok hrun
    cases status with
    | success =>
      have hlacks := (hprogram.lacks hfirst rfl).of_run hsuccess.uses hsecond
      rintro (hcleared | hcleared)
      · exact hlacks kind key object hfind hcleared
      · exact hsuccess.lacks hsecond hvalue kind key object hfind hcleared
    | failed =>
      rw [hfailed] at hsecond
      cases hsecond
      cases hvalue
    | inProgress =>
      rw [hprogress] at hsecond
      cases hsecond
      cases hvalue

theorem Clears.await {wait : Go ObservabilityStageStatus} {objects : ObjectSet}
    (hwait : wait.Uses OnlyDeletes)
    (hsuccess : Clears Succeeds objects (next .success))
    (hfailed : next .failed = .done .failed)
    (hprogress : next .inProgress = .done .inProgress) :
    Clears Succeeds objects (wait.bind next) :=
  ((clears_of_uses hwait).stage hsuccess hfailed hprogress).mono
    fun _ _ _ => .inr

def prometheusObjects (cr : Observability) : List (Kind × ObjectKey) :=
  [(.secret, getPrometheusAdditionalScrapeConfig cr),
    (.route, getPrometheusRoute cr),
    (.prometheus, getPrometheus cr),
    (.clusterRoleBinding,
      PrometheusConfiguration.getPrometheusClusterRoleBinding cr),
    (.clusterRole, PrometheusConfiguration.getPrometheusClusterRole cr),
    (.serviceAccount, getPrometheusServiceAccount cr),
    (.service, PrometheusConfiguration.getPrometheusService cr),
    (.secret, getPrometheusProxySecret cr),
    (.secret, PrometheusConfiguration.getPrometheusTLSSecret cr)]

def alertmanagerObjects (cr : Observability) : List (Kind × ObjectKey) :=
  [(.alertmanager, getAlertmanagerCr cr),
    (.secret, getAlertmanagerSecret cr),
    (.secret, getAlertmanagerProxySecret cr),
    (.secret, AlertmanagerInstallation.getAlertmanagerTLSSecret cr),
    (.route, getAlertmanagerRoute cr),
    (.service, getAlertmanagerService cr),
    (.serviceAccount, getAlertmanagerServiceAccount cr),
    (.clusterRole, AlertmanagerInstallation.getAlertmanagerClusterRole cr),
    (.clusterRoleBinding,
      AlertmanagerInstallation.getAlertmanagerClusterRoleBinding cr)]

def grafanaObjects (cr : Observability) : List (Kind × ObjectKey) :=
  if cr.descopedModeEnabled then []
  else
    [(.grafana, getGrafanaCr cr),
      (.grafanaDataSource, GrafanaConfiguration.getGrafanaDatasource cr),
      (.secret, GrafanaConfiguration.getGrafanaProxySecret cr),
      (.clusterRoleBinding,
        GrafanaConfiguration.getGrafanaClusterRoleBinding cr),
      (.clusterRole, GrafanaConfiguration.getGrafanaClusterRole cr)]

def promtailObjects (cr : Observability) : List (Kind × ObjectKey) :=
  if PromtailInstallation.isDisabled cr then []
  else
    [(.clusterRoleBinding,
        PromtailInstallation.getPromtailClusterRoleBinding cr),
      (.clusterRole, PromtailInstallation.getPromtailClusterRole cr),
      (.serviceAccount, PromtailInstallation.getPromtailServiceAccount cr)]

/-- The stage deletes these objects and no others, and they are gone when it
has succeeded. -/
structure RemovesListed (objects : List (Kind × ObjectKey))
    (program : Go ObservabilityStageStatus) : Prop where
  uses : ∀ {allowed : ApiCall Kind.Spec Action → Prop},
    (∀ kind options, allowed (.list kind options)) →
    (∀ object ∈ objects, allowed (.delete object.1 object.2)) →
      program.Uses allowed
  clears : Clears Succeeds (Listed objects) program

theorem removesListed_nothing {status : ObservabilityStageStatus} :
    RemovesListed [] (.done status) :=
  ⟨fun _ _ => trivial, clears_nothing⟩

theorem RemovesListed.delete {key : ObjectKey}
    {next : Unit → Go ObservabilityStageStatus}
    (hnext : RemovesListed objects (next ())) :
    RemovesListed ((kind, key) :: objects)
      ((Client.deleteIfFound kind key).bind next) where
  uses hlist hdelete :=
    .bind (Client.uses_deleteIfFound _ _ _ (hdelete _ List.mem_cons_self))
      fun _ => hnext.uses hlist fun object hobject =>
        hdelete object (List.mem_cons_of_mem _ hobject)
  clears := .delete fun _ => hnext.clears

theorem RemovesListed.await {name : String}
    (hsuccess : RemovesListed objects (next .success))
    (hfailed : next .failed = .done .failed)
    (hprogress : next .inProgress = .done .inProgress) :
    RemovesListed objects ((waitForRemoval kind ns name).bind next) where
  uses hlist hdelete := by
    refine .bind (uses_waitForRemoval _ (hlist _ _)) fun status => ?_
    cases status with
    | success => exact hsuccess.uses hlist hdelete
    | failed => exact hfailed ▸ trivial
    | inProgress => exact hprogress ▸ trivial
  clears := .await (uses_waitForRemoval _ trivial) hsuccess.clears hfailed
    hprogress

theorem removesListed_prometheusConfiguration :
    RemovesListed (prometheusObjects cr) (PrometheusConfiguration.cleanup cr) :=
  .delete <| .delete <| .delete <| .await
    (.delete <| .delete <| .delete <| .delete <| .delete <| .delete
      removesListed_nothing) rfl rfl

theorem removesListed_alertmanagerInstallation :
    RemovesListed (alertmanagerObjects cr)
      (AlertmanagerInstallation.cleanup cr) :=
  .delete <| .await
    (.delete <| .delete <| .delete <| .delete <| .delete <| .delete <|
      .delete <| .delete removesListed_nothing) rfl rfl

theorem removesListed_grafanaConfiguration :
    RemovesListed (grafanaObjects cr) (GrafanaConfiguration.cleanup cr) := by
  unfold GrafanaConfiguration.cleanup grafanaObjects
  split
  · exact removesListed_nothing
  · exact .delete <| .await
      (.delete <| .delete <| .delete <| .delete removesListed_nothing) rfl rfl

theorem removesListed_promtailInstallation :
    RemovesListed (promtailObjects cr) (PromtailInstallation.cleanup cr) := by
  unfold PromtailInstallation.cleanup promtailObjects
  split
  · exact removesListed_nothing
  · exact .delete <| .delete <| .delete removesListed_nothing

def SyncedObjects (cr : Observability) : ObjectSet :=
  fun kind key labels => cr.externalSyncDisabled = false ∧
    ((cr.descopedModeEnabled = false ∧
        Selected .grafanaDashboard cr.ns managedLabels kind key labels) ∨
      Selected .prometheusRule cr.ns managedLabels kind key labels ∨
      Selected .podMonitor cr.ns managedLabels kind key labels)

theorem clears_cleanupSynced :
    Clears (fun _ => True) (SyncedObjects cr) (cleanupSynced cr) := by
  unfold cleanupSynced
  split
  next hdisabled =>
    refine clears_done.mono fun kind key labels hsynced => ?_
    exact absurd (hdisabled.symm.trans hsynced.1) (by decide)
  next =>
    have hdashboards : Clears (fun _ => True) (fun kind key labels =>
        cr.descopedModeEnabled = false ∧
          Selected .grafanaDashboard cr.ns managedLabels kind key labels)
        (if cr.descopedModeEnabled then .done ()
          else deleteListed Kind.grafanaDashboard (managedIn cr.ns) :
            Go Unit) := by
      split
      next hdescoped =>
        refine clears_done.mono fun kind key labels hlisted => ?_
        exact absurd (hdescoped.symm.trans hlisted.1) (by decide)
      next =>
        exact (clears_deleteListed _ _ _).mono fun _ _ _ hlisted => hlisted.2
    refine (Clears.bind hdashboards fun _ => .bind
      (clears_deleteListed .prometheusRule cr.ns managedLabels) fun _ =>
        clears_deleteListed .podMonitor cr.ns managedLabels).mono ?_
    exact fun _ _ _ hsynced => hsynced.2

def ConfiguredObjects (cr : Observability) : ObjectSet :=
  fun kind key labels =>
    Selected .secret cr.ns managedLabels kind key labels ∨
    Selected .configMap cr.ns managedLabels kind key labels ∨
    SyncedObjects cr kind key labels ∨
    Selected .daemonSet cr.ns managedLabels kind key labels ∨
    Selected .deployment cr.ns authenticationProxyLabels kind key labels ∨
    Single .deployment (getResourcesDeployment cr) kind key labels ∨
    Single .service (getResourcesService cr) kind key labels ∨
    Single .route (getResourcesRoute cr) kind key labels ∨
    Selected .networkPolicy cr.ns authenticationProxyLabels kind key labels

theorem clears_configuration :
    Clears Succeeds (ConfiguredObjects cr) (cleanupStage cr) :=
  .bind (clears_deleteListed _ _ _) fun _ =>
  .bind (clears_deleteListed _ _ _) fun _ =>
  .bind clears_cleanupSynced fun _ =>
  .bind (clears_deleteListed _ _ _) fun _ =>
  .bind (clears_deleteListed _ _ _) fun _ =>
  .bind (clears_deleteIfFound _ _) fun _ =>
  .bind (clears_deleteIfFound _ _) fun _ =>
  .bind (clears_deleteIfFound _ _) fun _ =>
  .finish (clears_deleteListed _ _ _)

/-! ## The other stages -/

def operatorKinds : List Kind :=
  [.subscription, .operatorGroup, .catalogSource, .nameSpace, .deployment]

section Uses

variable {allowed : ApiCall Kind.Spec Action → Prop}

theorem uses_prometheusInstallation
    (hdelete : ∀ kind ∈ operatorKinds, kind ≠ .nameSpace → ∀ key,
      allowed (.delete kind key))
    (hnamespace : cr.descopedModeEnabled = true → allowed
      (.delete .nameSpace (PrometheusInstallation.getPrometheusNamespace cr))) :
    (PrometheusInstallation.cleanup cr).Uses allowed := by
  have hdeleted (kind : Kind) (hkind : kind ∈ operatorKinds)
      (hother : kind ≠ .nameSpace) (key : ObjectKey) :
      (Client.deleteIfFound kind key : Go Unit).Uses allowed :=
    Client.uses_deleteIfFound _ _ _ (hdelete kind hkind hother key)
  refine .bind (hdeleted _ (by decide) (by decide) _) fun _ =>
    .bind (hdeleted _ (by decide) (by decide) _) fun _ =>
    .bind (hdeleted _ (by decide) (by decide) _) fun _ =>
    .bind ?_ fun _ => trivial
  unfold PrometheusInstallation.deleteNamespace
  split
  next hdescoped =>
    exact Client.uses_deleteIfFound _ _ _ (hnamespace hdescoped)
  next => trivial

theorem uses_grafanaInstallation
    (hlist : ∀ kind options, allowed (.list kind options))
    (hdelete : ∀ kind ∈ operatorKinds, kind ≠ .nameSpace → ∀ key,
      allowed (.delete kind key)) :
    (GrafanaInstallation.cleanup cr).Uses allowed := by
  have hdeleted (kind : Kind) (hkind : kind ∈ operatorKinds)
      (hother : kind ≠ .nameSpace) (key : ObjectKey) :
      (Client.deleteIfFound kind key : Go Unit).Uses allowed :=
    Client.uses_deleteIfFound _ _ _ (hdelete kind hkind hother key)
  unfold GrafanaInstallation.cleanup
  split
  · trivial
  · refine .bind (hdeleted _ (by decide) (by decide) _) fun _ =>
      .bind (hdeleted _ (by decide) (by decide) _) fun _ =>
      .bind (hdeleted _ (by decide) (by decide) _) fun _ =>
      .bind ((Client.uses_list _ _ _).mpr (hlist _ _)) fun _ =>
      .bind (Client.uses_orFail _ _) fun deployments =>
      .bind (.forEach fun deployment _ => ?_) fun _ => trivial
    split
    · exact hdeleted _ (by decide) (by decide) _
    · trivial

theorem uses_tokenStage (hdelete : ∀ key, allowed (.delete .secret key)) :
    (TokenStage.cleanup cr).Uses allowed :=
  .bind (Client.uses_deleteIfFound _ _ _ (hdelete _)) fun _ => trivial

theorem uses_csvStage (hlist : ∀ kind options, allowed (.list kind options))
    (hdelete : ∀ key, allowed (.delete .clusterServiceVersion key)) :
    (CsvStage.cleanup cr).Uses allowed := by
  refine .bind (uses_listFound (hlist _ _)) fun list => ?_
  split
  · exact .bind (Client.uses_deleteIfFound _ _ _ (hdelete _)) fun _ => trivial
  · trivial

end Uses

theorem uses_loggingInstallation :
    (LoggingInstallation.cleanup cr).Uses OnlyDeletes :=
  LoggingInstallation.uses_cleanup (fun _ _ _ => trivial)
    ⟨fun _ _ => trivial, fun _ _ _ => trivial⟩

/-! ## A clean-up -/

def StageObjects (cr : Observability) : ObservabilityStageName → ObjectSet
  | .prometheusConfiguration => Listed (prometheusObjects cr)
  | .alertmanagerInstallation => Listed (alertmanagerObjects cr)
  | .grafanaConfiguration => Listed (grafanaObjects cr)
  | .promtailInstallation => Listed (promtailObjects cr)
  | .configuration => ConfiguredObjects cr
  | _ => fun _ _ _ => False

variable {platform : Platform} {order : IterationOrder}

theorem clears_cleanup (stage : ObservabilityStageName) :
    Clears Succeeds (StageObjects cr stage)
      ((getReconcilerForStage platform order stage).cleanup cr) := by
  cases stage with
  | prometheusConfiguration =>
    exact removesListed_prometheusConfiguration.clears
  | alertmanagerInstallation =>
    exact removesListed_alertmanagerInstallation.clears
  | grafanaConfiguration => exact removesListed_grafanaConfiguration.clears
  | promtailInstallation => exact removesListed_promtailInstallation.clears
  | configuration => exact clears_configuration
  | prometheusInstallation =>
    exact clears_of_uses (uses_prometheusInstallation
      (fun _ _ _ _ => trivial) fun _ => trivial)
  | grafanaInstallation =>
    exact clears_of_uses (uses_grafanaInstallation (fun _ _ => trivial)
      fun _ _ _ _ => trivial)
  | loggingInstallation => exact clears_of_uses uses_loggingInstallation
  | tokenRequest => exact clears_of_uses (uses_tokenStage fun _ => trivial)
  | csv =>
    exact clears_of_uses (uses_csvStage (fun _ _ => trivial) fun _ => trivial)
  | migration => exact clears_done

def cleanupPass (platform : Platform) (order : IterationOrder)
    (cr : Observability) :
    List ObservabilityStageName → Go ObservabilityStageStatus
  | [] => return .success
  | stage :: rest => do
    match ← (getReconcilerForStage platform order stage).cleanup cr with
    | .success => cleanupPass platform order cr rest
    | status => return status

/-- Where a clean-up has succeeded, nothing is left of what its stages
remove. -/
theorem clears_cleanupPass (stages : List ObservabilityStageName) :
    Clears Succeeds (fun kind key labels =>
      ∃ stage ∈ stages, StageObjects cr stage kind key labels)
      (cleanupPass platform order cr stages) := by
  induction stages with
  | nil =>
    refine clears_done.mono fun kind key labels hstage => ?_
    obtain ⟨stage, hstage, -⟩ := hstage
    exact List.not_mem_nil hstage
  | cons stage rest ih =>
    have hpass : Clears Succeeds (fun kind key labels =>
        StageObjects cr stage kind key labels ∨
          ∃ later ∈ rest, StageObjects cr later kind key labels)
        (cleanupPass platform order cr (stage :: rest)) :=
      .stage (clears_cleanup stage) ih rfl rfl
    refine hpass.mono ?_
    rintro kind key labels ⟨other, hother, hcleared⟩
    rcases List.mem_cons.mp hother with rfl | hlater
    · exact .inl hcleared
    · exact .inr ⟨other, hlater, hcleared⟩

end Stages

end ObservabilityOperator
