import ObservabilityOperator.OperatorStages
import ObservabilityOperator.ObservabilityController

/-!
# Nil pointers of the custom resource

Most parts of the spec are optional, and the stages read them through pointers.
Two stages rely on a pointer that the schema does not require: the logging
stage on the self-contained block, and the configuration stage, where the sync
with repositories is disabled, on the selector of the configurations.
-/

namespace ObservabilityOperator

open Program

variable (kind : Kind) (index : RepositoryIndex) (key : ObjectKey)

/-- No run of the program ends at a nil pointer of the custom resource. -/
def SparesSpec {α : Type} (program : Go α) : Prop :=
  program.FailsOnly (· ≠ .panic .nilSpec)

/-! ## The parts that programs are made of -/

section

variable {α β γ : Type} {program : Go α}

@[grind .] theorem sparesSpec_done (value : α) :
    SparesSpec (.done value : Go α) := trivial

@[grind .] theorem sparesSpec_fail_error (error : GoError ApiError) :
    SparesSpec (.fail (.error error) : Go α) := nofun

variable {next : α → Go β} {items : List γ}

@[grind ←] theorem SparesSpec.bind (hprogram : SparesSpec program)
    (hnext : ∀ value, SparesSpec (next value)) :
    SparesSpec (program.bind next) :=
  Program.FailsOnly.bind hprogram hnext

@[grind ←] theorem SparesSpec.andThen (hprogram : SparesSpec program)
    (hnext : ∀ value, SparesSpec (next value)) :
    SparesSpec (program >>= next) :=
  hprogram.bind hnext

@[grind ←] theorem SparesSpec.seq {program : Go Unit} {next : Unit → Go β}
    (hprogram : SparesSpec program) (hnext : SparesSpec (next ())) :
    SparesSpec (program >>= next) :=
  hprogram.bind fun _ => hnext

@[grind .] theorem sparesSpec_pure (value : α) :
    SparesSpec (pure value : Go α) := trivial

@[grind ←] theorem SparesSpec.wrapping {message : String}
    (hprogram : SparesSpec program) : SparesSpec (program.wrapping message) :=
  Program.FailsOnly.wrapping hprogram fun _ => nofun

@[grind ←] theorem SparesSpec.attempt (hprogram : SparesSpec program) :
    SparesSpec program.attempt :=
  Program.FailsOnly.attempt hprogram

@[grind ←] theorem SparesSpec.forEach {body : γ → Go Unit}
    (hbody : ∀ item, SparesSpec (body item)) :
    SparesSpec (Program.forEach items body) :=
  Program.FailsOnly.forEach hbody

@[grind ←] theorem SparesSpec.collect {body : γ → Go β}
    (hbody : ∀ item, SparesSpec (body item)) :
    SparesSpec (Program.collect items body) :=
  Program.FailsOnly.collect hbody

@[grind .] theorem sparesSpec_deref (pointer : Option α) :
    SparesSpec (Program.deref pointer : Go α) := by
  cases pointer with
  | none => exact nofun
  | some value => trivial

theorem sparesSpec_derefSpec {pointer : Option α} (hpointer : pointer ≠ none) :
    SparesSpec (Program.derefSpec pointer : Go α) := by
  cases pointer with
  | none => exact absurd rfl hpointer
  | some value => trivial

@[grind .] theorem sparesSpec_ofExcept (result : Except String α) :
    SparesSpec (Program.ofExcept result : Go α) := by
  cases result with
  | error message => exact nofun
  | ok value => trivial

@[grind .] theorem sparesSpec_orFail (result : Except ApiError α) :
    SparesSpec (Client.orFail result : Go α) := by
  cases result with
  | error error => exact nofun
  | ok value => trivial

@[grind .] theorem sparesSpec_get :
    SparesSpec (Client.get kind key : Go _) := fun _ => trivial

@[grind .] theorem sparesSpec_list (options : ListOptions) :
    SparesSpec (Client.list kind options : Go _) := fun _ => trivial

@[grind .] theorem sparesSpec_create (object : Resource kind.Spec) :
    SparesSpec (Client.create kind key object : Go _) := fun _ => trivial

@[grind .] theorem sparesSpec_update (object : Resource kind.Spec) :
    SparesSpec (Client.update kind key object : Go _) := fun _ => trivial

@[grind .] theorem sparesSpec_delete :
    SparesSpec (Client.delete kind key : Go _) := fun _ => trivial

@[grind .] theorem sparesSpec_perform (action : Action) :
    SparesSpec (Client.perform action : Go _) := fun _ => trivial

@[grind .] theorem sparesSpec_deleteIfFound :
    SparesSpec (Client.deleteIfFound kind key : Go Unit) := by
  refine .bind (sparesSpec_delete kind key) fun reply => ?_
  split
  · exact sparesSpec_done _
  · exact sparesSpec_orFail _

@[grind ←] theorem sparesSpec_createOrUpdate {kind : Kind} {key : ObjectKey}
    {blank : Resource kind.Spec}
    {mutate : Resource kind.Spec → Go (Resource kind.Spec)}
    (hmutate : ∀ object, SparesSpec (mutate object)) :
    SparesSpec (createOrUpdate kind key blank mutate) := by
  refine .bind (sparesSpec_get kind key) fun reply => ?_
  split
  · refine .bind (hmutate _) fun object =>
      .bind (sparesSpec_create kind key object) fun _ =>
      .bind (sparesSpec_orFail _) fun _ => sparesSpec_done _
  · exact sparesSpec_orFail _
  · refine .bind (hmutate _) fun object => ?_
    split
    · exact sparesSpec_done _
    · exact .bind (sparesSpec_update kind key object) fun _ =>
        .bind (sparesSpec_orFail _) fun _ => sparesSpec_done _

@[grind .] theorem sparesSpec_upsert (blank : Resource kind.Spec)
    (change : Resource kind.Spec → Resource kind.Spec) :
    SparesSpec (upsert kind key blank change : Go _) :=
  sparesSpec_createOrUpdate fun _ => sparesSpec_done _

end

/-! ## The configuration stage

Each part is made of parts that spare the spec. -/

section Credentials

variable (platform : Platform) (cr : Observability)

@[grind .] theorem sparesSpec_fetchHttp (request : HttpRequest) :
    SparesSpec (fetchHttp request) := sparesSpec_perform _

@[grind .] theorem sparesSpec_timeNow : SparesSpec timeNow :=
  sparesSpec_perform _

@[grind .] theorem sparesSpec_authTokenExpires (expires : Int) :
    SparesSpec (authTokenExpires expires) := by
  grind [authTokenExpires]

@[grind .] theorem sparesSpec_anyTokenExpires
    (secrets : List (ObjectKey × Resource SecretSpec)) :
    SparesSpec (anyTokenExpires secrets) := by
  induction secrets with
  | nil => exact sparesSpec_done _
  | cons item rest ih => grind [anyTokenExpires]

@[grind .] theorem sparesSpec_isMissing : SparesSpec (isMissing kind key) := by
  grind [isMissing]

@[grind .] theorem sparesSpec_checkForMissingCR :
    SparesSpec (checkForMissingCR cr) := by
  grind [checkForMissingCR]

@[grind .] theorem sparesSpec_checkSync (migrated : Bool) :
    SparesSpec (checkSync platform cr migrated) := by
  grind [checkSync, tokensExpired, syncIsDue]

@[grind .] theorem sparesSpec_reconcileResourcesRoute :
    SparesSpec (reconcileResourcesRoute cr) := by
  grind [reconcileResourcesRoute, assignResourcesRoute]

@[grind .] theorem sparesSpec_reconcileResources (image : String) :
    SparesSpec (reconcileResources platform cr image) := by
  refine .bind (.bind (sparesSpec_upsert _ _ _ _) fun _ => sparesSpec_done _) fun _ =>
    .bind (.bind (sparesSpec_upsert _ _ _ _) fun _ => sparesSpec_done _) fun _ => ?_
  grind

@[grind .] theorem sparesSpec_collectRepositories
    (source : Option ConfigSource) (repos : List (String × RepositoryInfo))
    (secrets : List (ObjectKey × Resource SecretSpec)) :
    SparesSpec (collectRepositories platform cr source repos secrets) := by
  induction secrets generalizing repos with
  | nil => exact sparesSpec_done _
  | cons item rest ih => grind [collectRepositories]

@[grind .] theorem sparesSpec_loadIndex (repo : RepositoryInfo) :
    SparesSpec (loadIndex platform cr repo) := by
  grind [loadIndex, readIndexFile, newRequest]

@[grind .] theorem sparesSpec_fetchResource (path tag token : String) :
    SparesSpec (fetchResource platform path tag token) := by
  grind [fetchResource, newRequest]

@[grind .] theorem sparesSpec_deleteUnrequestedCredentialSecrets
    (indexes : List RepositoryIndex) :
    SparesSpec (deleteUnrequestedCredentialSecrets cr indexes) := by
  grind [deleteUnrequestedCredentialSecrets]

@[grind .] theorem sparesSpec_assignFromSecret (depth : ℕ)
    (observatorium : ObservatoriumIndex) :
    SparesSpec (assignFromSecret cr depth observatorium) := by
  induction depth generalizing observatorium with
  | zero => exact nofun
  | succ depth ih => grind [assignFromSecret]

@[grind .] theorem sparesSpec_assignDexCredentials (dexConfig : DexConfig) :
    SparesSpec (assignDexCredentials cr dexConfig) := by
  grind [assignDexCredentials]

@[grind .] theorem sparesSpec_transformObservatorium
    (observatorium : ObservatoriumIndex) :
    SparesSpec (transformObservatorium platform cr observatorium) := by
  refine .bind (by grind) fun assigned => ?_
  grind

@[grind .] theorem sparesSpec_fetchDexToken (config : ObservatoriumIndex)
    (oldToken : String) :
    SparesSpec (fetchDexToken platform config oldToken) := by
  unfold fetchDexToken
  split
  · exact sparesSpec_done _
  · refine .bind (sparesSpec_ofExcept _) fun url =>
      .bind (sparesSpec_fetchHttp _) fun reply => ?_
    grind

@[grind .] theorem sparesSpec_findToken (config : ObservatoriumIndex) :
    SparesSpec (findToken cr config) := by
  grind [findToken]

@[grind .] theorem sparesSpec_saveToken (config : ObservatoriumIndex)
    (token : String) (lifetime : Int) :
    SparesSpec (saveToken cr config token lifetime) :=
  .wrapping (.bind (sparesSpec_upsert _ _ _ _) fun _ => sparesSpec_done _)

@[grind .] theorem sparesSpec_renewToken (observatorium : ObservatoriumIndex)
    (oldToken : String) :
    SparesSpec (renewToken platform cr observatorium oldToken) := by
  grind [renewToken, refreshToken, fetchToken]

@[grind .] theorem sparesSpec_reconcileToken
    (observatorium : ObservatoriumIndex) :
    SparesSpec (reconcileToken platform cr observatorium) := by
  grind [reconcileToken]

@[grind .] theorem sparesSpec_reconcileEntries
    (observatoria : List ObservatoriumIndex) :
    SparesSpec (reconcileEntries platform cr observatoria) := by
  induction observatoria with
  | nil => exact sparesSpec_done _
  | cons observatorium rest ih => grind [reconcileEntries]

@[grind .] theorem sparesSpec_reconcileObservatoria :
    SparesSpec (reconcileObservatoria platform cr index) := by
  grind [reconcileObservatoria]

@[grind .] theorem sparesSpec_stampConfigSource :
    SparesSpec (stampConfigSource index) := by
  grind [stampConfigSource]

@[grind .] theorem sparesSpec_completeIndexes (indexes : List RepositoryIndex) :
    SparesSpec (completeIndexes platform cr indexes) := by
  grind [completeIndexes, completeObservatoria]

end Credentials

section Instances

variable (platform : Platform) (cr : Observability)
  (indexes : List RepositoryIndex)

@[grind .] theorem sparesSpec_getOauth2ConfigSecret :
    SparesSpec (getOauth2ConfigSecret cr) := by
  grind [getOauth2ConfigSecret]

@[grind .] theorem sparesSpec_createDeploymentFor
    (config : TokenRefresherConfigSet) :
    SparesSpec (createDeploymentFor cr config) :=
  .bind (.bind (sparesSpec_upsert _ _ _ _) fun _ => sparesSpec_done _)
    fun _ => .bind (sparesSpec_upsert _ _ _ _) fun _ => sparesSpec_done _

@[grind .] theorem sparesSpec_reconcileTokenRefresherOf
    (observatorium : ObservatoriumIndex) (logsDisabled : Bool)
    (t : TokenRefresherType) :
    SparesSpec (reconcileTokenRefresherOf platform cr observatorium
      logsDisabled t) := by
  grind [reconcileTokenRefresherOf, createServiceFor]

@[grind .] theorem sparesSpec_reconcileTokenRefresherFor
    (observatorium : ObservatoriumIndex) (logsDisabled : Bool) :
    SparesSpec (reconcileTokenRefresherFor platform cr observatorium
      logsDisabled) := by
  grind [reconcileTokenRefresherFor]

theorem shouldExist_ne_nilSpec (render : String → String)
    (oauth2Secret : Option (Resource SecretSpec))
    (indexes : List RepositoryIndex) (name : String) :
    shouldExist platform cr render oauth2Secret indexes name ≠
      .error .nilSpec := by
  have hsearch (promtailEnabled : Bool) (observatorium : ObservatoriumIndex) :
      searchObservatorium platform render name promtailEnabled
        observatorium ≠ some (.error .nilSpec) := by
    unfold searchObservatorium
    split
    · exact nofun
    · intro hfound
      obtain ⟨t, -, ht⟩ := List.exists_of_findSome?_eq_some hfound
      grind
  have hindex (index : RepositoryIndex) :
      searchIndex platform render name index ≠ some (.error .nilSpec) := by
    unfold searchIndex
    split
    · exact nofun
    · intro hfound
      obtain ⟨observatorium, -, hobservatorium⟩ :=
        List.exists_of_findSome?_eq_some hfound
      exact hsearch _ _ hobservatorium
  unfold shouldExist
  split
  · exact nofun
  split
  · exact nofun
  cases hfound : indexes.findSome? (searchIndex platform render name) with
  | none => exact nofun
  | some requested =>
    obtain ⟨index, -, hfind⟩ := List.exists_of_findSome?_eq_some hfound
    intro hpanic
    exact hindex index (hfind.trans (congrArg some hpanic))

@[grind .] theorem sparesSpec_deleteUnrequested (render : String → String)
    (indexes : List RepositoryIndex) :
    SparesSpec (deleteUnrequested platform kind render cr indexes) := by
  refine .bind (sparesSpec_list _ _) fun _ =>
    .bind (sparesSpec_orFail _) fun list =>
    .bind (sparesSpec_getOauth2ConfigSecret cr) fun secret =>
    .forEach fun item => ?_
  unfold deleteUnlessRequested
  split
  next panic hpanic =>
    intro hspec
    cases hspec
    exact shouldExist_ne_nilSpec _ _ _ _ _ _ hpanic
  next => exact sparesSpec_done _
  next => grind

@[grind .] theorem sparesSpec_syncTokenRefreshers :
    SparesSpec (syncTokenRefreshers platform cr indexes) := by
  refine .bind (.wrapping (sparesSpec_deleteUnrequested _ _ _ _ _))
    fun _ => .bind (.wrapping (sparesSpec_deleteUnrequested _ _ _ _ _))
      fun _ => ?_
  grind [reconcileTokenRefresher]

@[grind .] theorem sparesSpec_getIntegrationSecret (name ns : String) :
    SparesSpec (getIntegrationSecret cr name ns) := by
  grind [getIntegrationSecret]

@[grind .] theorem sparesSpec_createGlobalConfig :
    SparesSpec (createGlobalConfig cr indexes) := by
  have hfirst : SparesSpec (firstAlertmanagerIndex indexes) := by
    unfold firstAlertmanagerIndex
    split
    · exact nofun
    · exact .bind (sparesSpec_deref _) fun _ => sparesSpec_deref _
  grind [createGlobalConfig, getSmtpSecret]

@[grind .] theorem sparesSpec_addIntegrations :
    SparesSpec (addIntegrations cr index) := by
  have hpagerDuty (config : AlertmanagerIndex) :
      SparesSpec (getPagerDutySecret cr config) := by
    grind [getPagerDutySecret]
  have hsnitch (config : AlertmanagerIndex) :
      SparesSpec (getDeadMansSnitchUrl cr config) := by
    grind [getDeadMansSnitchUrl]
  have hadd (disabled : Bool) {secret : Go String}
      {integration : String → Integration} (hsecret : SparesSpec secret) :
      SparesSpec (addSecretIntegration disabled secret integration) := by
    grind [addSecretIntegration]
  unfold addIntegrations
  split
  · exact sparesSpec_done _
  · refine .bind (hadd _ (hpagerDuty _)) fun pagerDuty => ?_
    split
    · exact sparesSpec_done _
    · refine .bind (hadd _ (hsnitch _)) fun snitch => ?_
      grind

@[grind .] theorem sparesSpec_syncAlertmanagerSecret :
    SparesSpec (syncAlertmanagerSecret platform cr indexes) := by
  have hconfig : SparesSpec (createAlertmanagerConfig cr indexes) :=
    .bind (sparesSpec_createGlobalConfig _ _) fun _ =>
    .bind (.collect (sparesSpec_addIntegrations · cr)) fun _ =>
      sparesSpec_done _
  grind [syncAlertmanagerSecret, reconcileAlertmanagerSecret]

@[grind .] theorem sparesSpec_fetchFederationPatterns
    (result : List String) (indexes : List RepositoryIndex) :
    SparesSpec (fetchFederationPatterns platform result indexes) := by
  induction indexes generalizing result with
  | nil => exact sparesSpec_done _
  | cons index rest ih => grind [fetchFederationPatterns]

theorem selfContained_ne_none (hdisabled : cr.externalSyncDisabled = true) :
    cr.spec.selfContained ≠ none := by
  obtain ⟨_, hsome, -⟩ := Observability.exists_of_externalSyncDisabled hdisabled
  simp [hsome]

@[grind .] theorem sparesSpec_fetchFederationConfigs :
    SparesSpec (fetchFederationConfigs platform cr indexes) := by
  unfold fetchFederationConfigs
  split
  next hdisabled =>
    exact .bind (sparesSpec_derefSpec (selfContained_ne_none cr hdisabled))
      fun _ => sparesSpec_done _
  next => exact sparesSpec_fetchFederationPatterns _ _ _

@[grind .] theorem sparesSpec_createBlackBoxConfig :
    SparesSpec (createBlackBoxConfig platform cr) := by
  have htoken : SparesSpec (getBlackboxBearerToken cr) := by
    grind [getBlackboxBearerToken]
  grind [createBlackBoxConfig, getDefaultBlackBoxConfig]

@[grind .] theorem sparesSpec_getRouteHost : SparesSpec (getRouteHost key) := by
  grind [getRouteHost]

@[grind .] theorem sparesSpec_reconcileAlertmanager :
    SparesSpec (reconcileAlertmanager platform cr indexes) := by
  refine .bind (sparesSpec_getRouteHost _) fun host =>
    .bind (sparesSpec_createOrUpdate fun object => ?_)
      fun _ => sparesSpec_done _
  grind

@[grind .] theorem sparesSpec_getRemoteWriteSpec
    (remoteWrite : RemoteWriteIndex) :
    SparesSpec (getRemoteWriteSpec platform cr index remoteWrite) := by
  have hredHat (observatorium : ObservatoriumIndex) :
      SparesSpec (getRemoteWriteSpecForRedHat platform cr index observatorium
        remoteWrite) := by
    grind [getRemoteWriteSpecForRedHat, getRemoteWriteOauth2Config]
  grind [getRemoteWriteSpec]

@[grind .] theorem sparesSpec_remoteWriteTargets :
    SparesSpec (remoteWriteTargets platform cr indexes) := by
  have hindex (index : RepositoryIndex) :
      SparesSpec (getRemoteWriteIndex platform index) := by
    grind [getRemoteWriteIndex]
  have htarget (index : RepositoryIndex) :
      SparesSpec (remoteWriteTargetOf platform cr index) := by
    grind [remoteWriteTargetOf]
  grind [remoteWriteTargets]

@[grind .] theorem sparesSpec_prometheusStorage :
    SparesSpec (prometheusStorage platform cr indexes) := by
  have hclaim : SparesSpec (existingPVC cr) := by
    grind [existingPVC]
  have hvolume (name : String) :
      SparesSpec (useExistingPVForVolumeClaim cr name) := by
    grind [useExistingPVForVolumeClaim]
  grind [prometheusStorage]

@[grind .] theorem sparesSpec_reconcilePrometheus (configHash : String) :
    SparesSpec (reconcilePrometheus platform cr indexes configHash) := by
  refine .bind (sparesSpec_getRouteHost _) fun host =>
    .bind (sparesSpec_remoteWriteTargets _ _ _) fun targets =>
    .bind (sparesSpec_createOrUpdate fun object => ?_)
      fun _ => sparesSpec_deleteIfFound _ _
  exact .bind (sparesSpec_perform _) fun _ =>
    .bind (sparesSpec_prometheusStorage _ _ _) fun _ => sparesSpec_done _

@[grind .] theorem sparesSpec_reconcileGrafanaCr :
    SparesSpec (reconcileGrafanaCr platform cr indexes) := by
  grind [reconcileGrafanaCr, getGrafanaVersion, grafanaVersionOfIndex]

@[grind .] theorem sparesSpec_syncInstances :
    SparesSpec (syncInstances platform cr indexes) := by
  refine .bind (.wrapping (sparesSpec_fetchFederationConfigs _ _ _))
    fun patterns => .bind (.bind (sparesSpec_upsert _ _ _ _)
      fun _ => sparesSpec_done _) fun _ =>
        .bind (sparesSpec_createBlackBoxConfig _ _) fun hash => ?_
  refine .bind (.wrapping (sparesSpec_reconcileAlertmanager _ _ _))
    fun _ => .bind (.wrapping (sparesSpec_reconcilePrometheus _ _ _ _))
      fun _ => ?_
  grind

end Instances

section Resources

variable (platform : Platform) (cr : Observability)
  (indexes : List RepositoryIndex)

@[grind .] theorem sparesSpec_deleteUnrequestedNames (ns : String)
    (requested : List String) :
    SparesSpec (deleteUnrequestedNames kind ns requested) := by
  grind [deleteUnrequestedNames]

@[grind .] theorem sparesSpec_applyManifest (parsed : Manifest kind.Spec)
    (content : kind.Spec) :
    SparesSpec (applyManifest kind key parsed content) := by
  grind [applyManifest]

@[grind .] theorem sparesSpec_fetchRequestedDashboard (info : DashboardInfo) :
    SparesSpec (fetchRequestedDashboard platform info) := by
  have hfetch : SparesSpec
      (fetchDashboard platform info.url info.tag info.accessToken) := by
    grind [fetchDashboard, newRequest]
  grind [fetchRequestedDashboard]

theorem sparesSpec_syncDashboards :
    SparesSpec (syncDashboards platform cr indexes) := by
  grind [syncDashboards, deleteUnrequestedDashboards,
    createRequestedDashboards]

theorem sparesSpec_syncRules : SparesSpec (syncRules platform cr indexes) := by
  grind [syncRules, deleteUnrequestedRules, createRequestedRules,
    createRequestedRule]

theorem sparesSpec_syncPodMonitors :
    SparesSpec (syncPodMonitors platform cr indexes) := by
  grind [syncPodMonitors, deleteUnrequestedPodMonitors,
    createRequestedPodMonitors, createRequestedPodMonitor]

@[grind .] theorem sparesSpec_syncResources :
    SparesSpec (syncResources platform cr indexes) := by
  unfold syncResources
  split
  next hdisabled =>
    refine .wrapping (.bind (sparesSpec_derefSpec
      (selfContained_ne_none cr hdisabled)) fun selfContained => ?_)
    grind
  next =>
    grind [sparesSpec_syncDashboards, sparesSpec_syncRules,
      sparesSpec_syncPodMonitors]

@[grind .] theorem sparesSpec_createPromtailConfigFor (promtail : PromtailIndex)
    (observatorium : ObservatoriumIndex) :
    SparesSpec (createPromtailConfigFor cr index promtail observatorium) := by
  grind [createPromtailConfigFor, getScrapeNamespacesFor]

@[grind .] theorem sparesSpec_syncPromtail :
    SparesSpec (syncPromtail platform cr indexes) := by
  have hdelete : SparesSpec (deleteUnrequestedDaemonsets cr indexes) := by
    grind [deleteUnrequestedDaemonsets]
  refine .bind (.wrapping hdelete) fun _ => .forEach fun index => .wrapping ?_
  grind [createPromtailDaemonsetFor, createPromtailDaemonset]

@[grind .] theorem sparesSpec_configure :
    SparesSpec (configure platform cr indexes) := by
  refine .bind (sparesSpec_deleteUnrequestedCredentialSecrets _ _) fun _ =>
    .bind (sparesSpec_completeIndexes _ _ _) fun completed => ?_
  refine .bind (sparesSpec_syncTokenRefreshers _ _ _) fun _ =>
    .bind (sparesSpec_syncAlertmanagerSecret _ _ _) fun _ =>
    .bind (sparesSpec_syncInstances _ _ _) fun _ =>
    .bind (sparesSpec_syncResources _ _ _) fun _ =>
    .bind (sparesSpec_syncPromtail _ _ _) fun _ => ?_
  grind [assignSyncTime, assignLastSynced]

end Resources

variable {cr : Observability}

theorem sparesSpec_reconcileStage (platform : Platform) (order : IterationOrder)
    (migrated : Bool) (hselector : cr.spec.configurationSelector ≠ none ∨
      cr.externalSyncDisabled = false) :
    SparesSpec (reconcileStage platform order cr migrated) := by
  have hprepare : SparesSpec (prepare platform cr migrated) := by
    unfold prepare
    split
    next => exact sparesSpec_done _
    next hgoesOn =>
      have hfound : cr.spec.configurationSelector ≠ none := by
        rintro hnone
        rcases hselector with hfound | henabled
        · exact hfound hnone
        · exact hgoesOn ⟨hnone, by simp [henabled]⟩
      have hlist : SparesSpec (listConfigSecrets cr) :=
        .bind (sparesSpec_derefSpec hfound) fun selector => by grind
      refine .bind (sparesSpec_checkSync _ _ _) fun due => ?_
      have hwait : SparesSpec (waitForResourcesDeployment cr) := by
        grind [waitForResourcesDeployment]
      grind [prepareRepositories, assignLastSynced]
  refine .bind hprepare fun found => ?_
  grind [collectIndexes]

/-! ## The other stages -/

section Stages

variable (platform : Platform) (cr : Observability)

@[grind .] theorem sparesSpec_hasOperatorGroupForNamespace (ns : String) :
    SparesSpec (hasOperatorGroupForNamespace ns) := by
  grind [hasOperatorGroupForNamespace]

@[grind .] theorem sparesSpec_waitForOperator (ns name : String) :
    SparesSpec (waitForOperator ns name) := by
  grind [waitForOperator]

@[grind .] theorem sparesSpec_listFound (options : ListOptions) :
    SparesSpec (Client.listFound kind options) := by
  grind [Client.listFound]

@[grind .] theorem sparesSpec_upsert_discarded (blank : Resource kind.Spec)
    (change : Resource kind.Spec → Resource kind.Spec) :
    SparesSpec ((upsert kind key blank change : Go _) >>=
      fun _ => (pure () : Go Unit)) :=
  .bind (sparesSpec_upsert _ _ _ _) fun _ => sparesSpec_done _

theorem sparesSpec_prometheusInstallation :
    SparesSpec (PrometheusInstallation.reconcile cr) := by
  refine .bind ?_ fun _ => .bind (.bind ?_ fun _ =>
    sparesSpec_upsert_discarded _ _ _ _) fun _ =>
      .bind (sparesSpec_upsert_discarded _ _ _ _) fun _ => .bind ?_ fun _ =>
        sparesSpec_waitForOperator _ _
  · grind [PrometheusInstallation.reconcileNamespace]
  · grind [PrometheusInstallation.removeUnwanted,
      PrometheusInstallation.removePrometheusOperatorResources]
  · grind [PrometheusInstallation.reconcileOperatorgroup]

theorem sparesSpec_grafanaInstallation :
    SparesSpec (GrafanaInstallation.reconcile cr) := by
  have hdelete : SparesSpec
      (GrafanaInstallation.deleteUnrequestedSubscriptions cr) := by
    refine .bind (sparesSpec_list _ _) fun _ =>
      .bind (sparesSpec_orFail _) fun list =>
      .bind (.forEach fun subscription => by grind) fun _ => ?_
    grind
  have hgroup : SparesSpec (GrafanaInstallation.reconcileOperatorgroup cr) := by
    grind [GrafanaInstallation.reconcileOperatorgroup]
  unfold GrafanaInstallation.reconcile
  split
  · exact sparesSpec_done _
  · refine .bind hdelete fun status => ?_
    split
    · exact .bind (sparesSpec_upsert_discarded _ _ _ _) fun _ =>
        .bind (sparesSpec_upsert_discarded _ _ _ _) fun _ =>
        .bind hgroup fun _ => sparesSpec_waitForOperator _ _
    · exact sparesSpec_done _

@[grind .] theorem sparesSpec_updateDeployments (labels annotations : StringMap)
    (name : String) (seen deployments : StringMap) :
    SparesSpec (CsvStage.updateDeployments key labels annotations name seen
      deployments) := by
  induction deployments generalizing seen with
  | nil => exact sparesSpec_done _
  | cons deployment rest ih =>
    unfold CsvStage.updateDeployments
    split
    · exact .bind (sparesSpec_update _ _ _) fun _ =>
        .bind (sparesSpec_orFail _) fun _ => ih _
    · exact ih _

theorem sparesSpec_csv : SparesSpec (CsvStage.reconcile cr) := by
  refine .bind (sparesSpec_listFound _ _) fun list =>
    .bind (.forEach fun csv => ?_) fun _ => sparesSpec_done _
  grind [CsvStage.updatePriority]

@[grind .] theorem sparesSpec_waitForRemoval (ns name : String) :
    SparesSpec (waitForRemoval kind ns name) := by
  grind [waitForRemoval]

@[grind .] theorem sparesSpec_waitForRoute : SparesSpec (waitForRoute key) := by
  grind [waitForRoute]

@[grind .] theorem sparesSpec_reconcileRoute (service : ObjectKey) :
    SparesSpec (reconcileRoute key service) := by
  grind [reconcileRoute]

theorem sparesSpec_prometheusConfiguration :
    SparesSpec (PrometheusConfiguration.reconcile platform cr) := by
  have hcluster : SparesSpec (PrometheusConfiguration.fetchClusterId cr) := by
    grind [PrometheusConfiguration.fetchClusterId, assignClusterId]
  refine .bind (sparesSpec_upsert_discarded _ _ _ _) fun _ =>
    .bind (sparesSpec_upsert_discarded _ _ _ _) fun _ =>
    .bind (sparesSpec_upsert_discarded _ _ _ _) fun _ =>
    .bind (sparesSpec_upsert_discarded _ _ _ _) fun _ =>
    .bind (sparesSpec_upsert_discarded _ _ _ _) fun _ =>
    .bind (sparesSpec_reconcileRoute _ _) fun _ =>
    .bind (sparesSpec_waitForRoute _) fun status => ?_
  split
  · exact .bind hcluster fun _ =>
      .bind (sparesSpec_upsert_discarded _ _ _ _) fun _ => sparesSpec_done _
  · exact sparesSpec_done _

theorem sparesSpec_alertmanagerInstallation :
    SparesSpec (AlertmanagerInstallation.reconcile platform cr) :=
  .bind (sparesSpec_upsert_discarded _ _ _ _) fun _ =>
  .bind (sparesSpec_upsert_discarded _ _ _ _) fun _ =>
  .bind (sparesSpec_upsert_discarded _ _ _ _) fun _ =>
  .bind (sparesSpec_upsert_discarded _ _ _ _) fun _ =>
  .bind (sparesSpec_upsert_discarded _ _ _ _) fun _ =>
  .bind (sparesSpec_reconcileRoute _ _) fun _ =>
    sparesSpec_waitForRoute _

theorem sparesSpec_grafanaConfiguration :
    SparesSpec (GrafanaConfiguration.reconcile platform cr) := by
  unfold GrafanaConfiguration.reconcile
  split
  · exact sparesSpec_done _
  · exact .bind (sparesSpec_upsert_discarded _ _ _ _) fun _ =>
      .bind (sparesSpec_upsert_discarded _ _ _ _) fun _ =>
      .bind (sparesSpec_upsert_discarded _ _ _ _) fun _ =>
      .bind (sparesSpec_upsert_discarded _ _ _ _) fun _ =>
        sparesSpec_done _

theorem sparesSpec_promtailInstallation :
    SparesSpec (PromtailInstallation.reconcile cr) := by
  unfold PromtailInstallation.reconcile
  split
  · exact sparesSpec_done _
  · exact .bind (sparesSpec_upsert_discarded _ _ _ _) fun _ =>
      .bind (sparesSpec_upsert_discarded _ _ _ _) fun _ =>
      .bind (sparesSpec_upsert_discarded _ _ _ _) fun _ =>
        sparesSpec_done _

theorem sparesSpec_migration (migrated : Bool) :
    SparesSpec (Migration.reconcile cr migrated) := by
  have hwait {wait : Go ObservabilityStageStatus} (hspares : SparesSpec wait) :
      SparesSpec (Migration.waitAnyhow wait) :=
    .bind (.attempt hspares) fun _ => sparesSpec_done _
  have hprometheus : SparesSpec (Migration.removePrometheus cr) := by
    grind [Migration.removePrometheus, waitForPrometheusToBeRemoved]
  have hsecret : SparesSpec (Migration.removeAlertmanagerSecret cr) := by
    grind [Migration.removeAlertmanagerSecret]
  have halertmanager : SparesSpec (Migration.removeAlertmanager cr) := by
    unfold Migration.removeAlertmanager
    dsimp only
    split
    · refine .bind hsecret fun _ => ?_
      grind [waitForAlertmanagerToBeRemoved]
    · exact sparesSpec_done _
  have hgrafana : SparesSpec (Migration.removeGrafana cr) := by
    grind [Migration.removeGrafana, waitForGrafanaToBeRemoved]
  have hpromtail : SparesSpec (Migration.removePromtail cr) := by
    grind [Migration.removePromtail]
  unfold Migration.reconcile
  split
  · exact sparesSpec_done _
  · exact .bind hprometheus fun _ => .bind halertmanager fun _ =>
      .bind hgrafana fun _ => .bind hpromtail fun _ =>
      .bind (sparesSpec_perform _) fun _ => sparesSpec_done _

theorem sparesSpec_logging {cr : Observability}
    (hblock : cr.spec.selfContained ≠ none ∨ cr.descopedModeEnabled = true) :
    SparesSpec (LoggingInstallation.reconcile cr) := by
  have hlabel : SparesSpec
      LoggingInstallation.checkLoggingSubscriptionForLabel := by
    grind [LoggingInstallation.checkLoggingSubscriptionForLabel]
  have hlogging : SparesSpec LoggingInstallation.createClusterLoggingCr := by
    grind [LoggingInstallation.createClusterLoggingCr]
  have hforwarder : SparesSpec
      LoggingInstallation.createClusterLogForwarderCr := by
    grind [LoggingInstallation.createClusterLogForwarderCr]
  have hresources : SparesSpec LoggingInstallation.createResources := by
    grind [LoggingInstallation.createResources]
  have hwait : SparesSpec LoggingInstallation.waitForLoggingOperator := by
    grind [LoggingInstallation.waitForLoggingOperator]
  have hinstall : SparesSpec (LoggingInstallation.installLogging cr) := by
    grind [LoggingInstallation.installLogging,
      LoggingInstallation.reconcileSubscription]
  have hmode : SparesSpec (LoggingInstallation.selfContainedMode cr) := by
    grind [LoggingInstallation.selfContainedMode]
  unfold LoggingInstallation.reconcile
  split
  next => exact sparesSpec_done _
  next hscoped =>
    have hfound : cr.spec.selfContained ≠ none :=
      hblock.resolve_right hscoped
    refine .bind hmode fun mode => ?_
    split
    · exact sparesSpec_done _
    · refine .bind (sparesSpec_derefSpec hfound) fun selfContained => ?_
      grind

end Stages

/-! ## A pass -/

structure SpecSuffices (cr : Observability) : Prop where
  selfContained : cr.spec.selfContained ≠ none ∨ cr.descopedModeEnabled = true
  selector : cr.spec.configurationSelector ≠ none ∨
    cr.externalSyncDisabled = false

theorem sparesSpec_of_specSuffices (platform : Platform)
    (order : IterationOrder) (hspec : SpecSuffices cr) (migrated : Bool)
    (stage : ObservabilityStageName) :
    SparesSpec ((getReconcilerForStage platform order stage).reconcile cr
      migrated) := by
  cases stage with
  | grafanaInstallation => exact sparesSpec_grafanaInstallation cr
  | grafanaConfiguration => exact sparesSpec_grafanaConfiguration platform cr
  | prometheusInstallation => exact sparesSpec_prometheusInstallation cr
  | prometheusConfiguration =>
    exact sparesSpec_prometheusConfiguration platform cr
  | csv => exact sparesSpec_csv cr
  | tokenRequest => exact sparesSpec_done _
  | promtailInstallation => exact sparesSpec_promtailInstallation cr
  | alertmanagerInstallation =>
    exact sparesSpec_alertmanagerInstallation platform cr
  | configuration =>
    exact sparesSpec_reconcileStage platform order migrated hspec.selector
  | loggingInstallation => exact sparesSpec_logging hspec.selfContained
  | migration => exact sparesSpec_migration cr migrated

/-- The stage dereferences an absent part of the specification. -/
def CrashesAtSpec (cr : Observability) (stage : ObservabilityStageName)
    (platform : Platform) (env : Surroundings) (cluster : Cluster)
    (order : IterationOrder) (migrated : Bool) : Prop :=
  (env.run ((getReconcilerForStage platform order stage).reconcile
    cr migrated) cluster).1 = .error (.panic .nilSpec)

theorem crashesAtSpec_logging (hblock : cr.spec.selfContained = none)
    (hscoped : cr.descopedModeEnabled = false) (order : IterationOrder) :
    CrashesAtSpec cr .loggingInstallation .plain .quiet .empty order false := by
  change (Surroundings.quiet.run (LoggingInstallation.reconcile cr)
    Cluster.empty).1 = _
  simp only [LoggingInstallation.reconcile, hscoped, hblock]
  rfl

theorem crashesAtSpec_configuration
    (hselector : cr.spec.configurationSelector = none)
    (hdisabled : cr.externalSyncDisabled = true) (order : IterationOrder) :
    CrashesAtSpec cr .configuration .plain .quiet .empty order false := by
  change (Surroundings.quiet.run (reconcileStage Platform.plain order cr
    false) Cluster.empty).1 = _
  have hdue : syncIsDue Platform.plain cr true = .done true := by
    simp [syncIsDue]
  have hcheck : Surroundings.quiet.run (checkSync Platform.plain cr false)
      Cluster.empty = (.ok true, Cluster.empty.advance) := by
    simp only [checkSync, hdisabled, Bool.or_true, Bool.true_or, hdue]
    rfl
  have hlist : listConfigSecrets cr = .fail (.panic .nilSpec) := by
    simp [listConfigSecrets, hselector, Program.derefSpec]
  have hprepare : Surroundings.quiet.run (prepare Platform.plain cr false)
      Cluster.empty = (.error (.panic .nilSpec), Cluster.empty.advance) := by
    simp only [prepare, hselector, hdisabled, Bool.not_true, and_false,
      Bool.false_eq_true, if_false, bind_eq_bind, Surroundings.run]
    rw [run_bind_ok hcheck]
    simp [prepareRepositories, hlist]
  exact congrArg Prod.fst (run_bind_error hprepare)

/-- No stage of an installation crashes at a nil pointer of the custom
resource, whatever it meets, just if the parts are there that the stages rely
on. -/
theorem not_crashesAtSpec_iff (cr : Observability) :
    (∀ stage ∈ getInstallationStages, ∀ platform env cluster order
      migrated, ¬ CrashesAtSpec cr stage platform env cluster order migrated) ↔
    (cr.spec.selfContained ≠ none ∨ cr.descopedModeEnabled = true) ∧
      (cr.spec.configurationSelector ≠ none ∨
        cr.externalSyncDisabled = false) := by
  constructor
  · intro hspares
    constructor
    · by_contra hmissing
      simp only [not_or, not_not, Bool.not_eq_true] at hmissing
      exact hspares .loggingInstallation (by decide) _ _ _ .given _
        (crashesAtSpec_logging hmissing.1 hmissing.2 _)
    · by_contra hmissing
      simp only [not_or, not_not, Bool.not_eq_false] at hmissing
      exact hspares .configuration (by decide) _ _ _ .given _
        (crashesAtSpec_configuration hmissing.1 hmissing.2 _)
  · rintro ⟨hblock, hselector⟩ stage - platform env cluster order
      migrated hcrash
    have hspares : SparesSpec ((getReconcilerForStage platform order
        stage).reconcile cr migrated) :=
      sparesSpec_of_specSuffices platform order ⟨hblock, hselector⟩ migrated
        stage
    exact hspares.of_run_error (Prod.ext hcrash rfl) rfl

def unsyncedCr : Observability :=
  { plainCr with
    spec := { selfContained := some { disableRepoSync := some true } } }

theorem optionalParts_missed :
    CrashesAtSpec plainCr .loggingInstallation .plain .quiet .empty .given
        false ∧
      CrashesAtSpec unsyncedCr .configuration .plain .quiet .empty .given
        false :=
  ⟨crashesAtSpec_logging rfl rfl _, crashesAtSpec_configuration rfl rfl _⟩

end ObservabilityOperator
