import ObservabilityOperator.AlertRouting
import ObservabilityOperator.StageFootprints

/-!
# What every index adds to the alerting

Whether PagerDuty and Dead Man's Snitch can be added for an index depends on
secrets that are looked up, mail only on the index.  An index is left at the
first secret that cannot be read, and so a channel is missing where an earlier
one fails.
-/

namespace ObservabilityOperator

open Program

/-! ## Looking up secrets -/

/-- Whether a secret can be read does not change with time. -/
def Surroundings.SteadySecrets (env : Surroundings) : Prop :=
  ∀ tick other key,
    env.fault tick (.get .secret key) = env.fault other (.get .secret key)

def secretReply (env : Surroundings) (cluster : Cluster)
    (key : ObjectKey) : Except ApiError (Resource SecretSpec) :=
  withFault (env.fault 0 (.get .secret key)) (cluster.read .secret key)

variable {env : Surroundings} {cluster other : Cluster}

/-- The value of an integration: a dummy without a secret, and otherwise one
of two keys of the secret. -/
def integrationValue (env : Surroundings) (cluster : Cluster)
    (cr : Observability) (name ns dummy first second : String) :
    Option String :=
  if name = "" then some dummy
  else
    match secretReply env cluster ⟨if ns ≠ "" then ns else cr.ns, name⟩ with
    | .ok secret => some (firstNonempty secret.spec.data first second)
    | .error _ => none

def pagerDutyKey (env : Surroundings) (cluster : Cluster)
    (cr : Observability) (config : AlertmanagerIndex) : Option String :=
  integrationValue env cluster cr config.pagerDutySecretName
    config.pagerDutySecretNamespace "dummy" "PAGERDUTY_KEY" "serviceKey"

def deadMansSnitchUrl (env : Surroundings) (cluster : Cluster)
    (cr : Observability) (config : AlertmanagerIndex) : Option String :=
  integrationValue env cluster cr config.deadmansSnitchSecretName
    config.deadmansSnitchSecretNamespace "http://dummy" "SNITCH_URL" "url"

def valueIntegration (disabled : Bool) (value : Option String)
    (integration : String → Integration) : Option (List Integration) :=
  if disabled then some [] else value.map fun found => [integration found]

def integrationsOf (env : Surroundings) (cluster : Cluster)
    (cr : Observability) (index : RepositoryIndex) : List Integration :=
  match index.config.bind RepositoryConfig.alertmanager with
  | none => []
  | some config =>
    match valueIntegration cr.pagerDutyDisabled
        (pagerDutyKey env cluster cr config)
        (pagerDutyIntegration index.id) with
    | none => []
    | some pagerDuty =>
      match valueIntegration cr.deadMansSnitchDisabled
          (deadMansSnitchUrl env cluster cr config)
          (deadMansSnitchIntegration index.id) with
      | none => pagerDuty
      | some snitch =>
        pagerDuty ++ snitch ++ addSmtp cr index.id config

section Congruence

variable (hsecrets : ∀ key, cluster.find .secret key = other.find .secret key)
  (cr : Observability)
include hsecrets

theorem integrationValue_congr (name ns dummy first second : String) :
    integrationValue env cluster cr name ns dummy first second =
      integrationValue env other cr name ns dummy first second := by
  simp only [integrationValue, secretReply, World.read, hsecrets]

theorem integrationsOf_congr :
    integrationsOf env cluster cr = integrationsOf env other cr := by
  funext index
  simp only [integrationsOf, pagerDutyKey, deadMansSnitchUrl,
    integrationValue_congr hsecrets]

end Congruence

section Runs

variable {platform : Platform} {env : Surroundings}
  {cr : Observability} {cluster after : Cluster}

def lookupValue (cr : Observability) (name ns dummy first second : String) :
    Go String :=
  if name = "" then .done dummy
  else
    (getIntegrationSecret cr name ns).bind fun data =>
      .done (firstNonempty data first second)

theorem run_lookupValue (hsteady : env.SteadySecrets)
    (cr : Observability) (name ns dummy first second : String) (cluster : Cluster) :
    ∃ result after,
      env.run (lookupValue cr name ns dummy first second).attempt
        cluster = (.ok result, after) ∧
      result.toOption =
        integrationValue env cluster cr name ns dummy first second ∧
      after.objects = cluster.objects := by
  unfold lookupValue integrationValue
  split
  next => exact ⟨.ok dummy, cluster, rfl, rfl, rfl⟩
  next =>
    unfold getIntegrationSecret
    generalize (⟨if ns ≠ "" then ns else cr.ns, name⟩ : ObjectKey) = key
    have hreply : withFault
        (env.environment.fault cluster.tick (.get .secret key))
        (cluster.read .secret key) = secretReply env cluster key := by
      rw [secretReply, ← hsteady cluster.tick 0]
      rfl
    rw [Surroundings.run, run_attempt]
    simp only [bind_eq_bind, Program.bind_assoc, run_get_bind, hreply]
    cases secretReply env cluster key with
    | error error => exact ⟨_, _, rfl, rfl, rfl⟩
    | ok secret => exact ⟨_, _, rfl, rfl, rfl⟩

theorem getPagerDutySecret_eq (config : AlertmanagerIndex) :
    getPagerDutySecret cr config =
      lookupValue cr config.pagerDutySecretName
        config.pagerDutySecretNamespace "dummy" "PAGERDUTY_KEY"
        "serviceKey" := rfl

theorem getDeadMansSnitchUrl_eq (config : AlertmanagerIndex) :
    getDeadMansSnitchUrl cr config =
      lookupValue cr config.deadmansSnitchSecretName
        config.deadmansSnitchSecretNamespace "http://dummy" "SNITCH_URL"
        "url" := rfl

theorem run_addSecretIntegration (hsteady : env.SteadySecrets)
    (cr : Observability) (disabled : Bool) (name ns dummy first second : String)
    (integration : String → Integration) (cluster : Cluster) :
    ∃ after, env.run (addSecretIntegration disabled
        (lookupValue cr name ns dummy first second) integration) cluster =
      (.ok (valueIntegration disabled (integrationValue env cluster
        cr name ns dummy first second) integration), after) ∧
      after.objects = cluster.objects := by
  unfold addSecretIntegration valueIntegration
  cases disabled with
  | true => exact ⟨cluster, rfl, rfl⟩
  | false =>
    obtain ⟨result, after, hrun, hvalue, hobjects⟩ :=
      run_lookupValue hsteady cr name ns dummy first second cluster
    refine ⟨after, ?_, hobjects⟩
    simp only [bind_eq_bind, Bool.false_eq_true, if_false]
    rw [Surroundings.run, run_bind_ok hrun, ← hvalue]
    cases result <;> rfl

theorem run_addIntegrations (hsteady : env.SteadySecrets)
    (cr : Observability) (index : RepositoryIndex) (cluster : Cluster) :
    ∃ after, env.run (addIntegrations cr index) cluster =
        (.ok (integrationsOf env cluster cr index), after) ∧
      after.objects = cluster.objects := by
  unfold addIntegrations integrationsOf
  cases index.config.bind RepositoryConfig.alertmanager with
  | none => exact ⟨cluster, rfl, rfl⟩
  | some config =>
    simp only [bind_eq_bind]
    rw [getPagerDutySecret_eq, getDeadMansSnitchUrl_eq]
    obtain ⟨paged, hpaged, hpagedObjects⟩ := run_addSecretIntegration
      hsteady cr cr.pagerDutyDisabled config.pagerDutySecretName
      config.pagerDutySecretNamespace "dummy" "PAGERDUTY_KEY" "serviceKey"
      (pagerDutyIntegration index.id) cluster
    rw [Surroundings.run, run_bind_ok hpaged, pagerDutyKey]
    cases valueIntegration cr.pagerDutyDisabled _
        (pagerDutyIntegration index.id) with
    | none => exact ⟨paged, rfl, hpagedObjects⟩
    | some pagerDuty =>
      obtain ⟨snitched, hsnitched, hobjects⟩ := run_addSecretIntegration
        hsteady cr cr.deadMansSnitchDisabled config.deadmansSnitchSecretName
        config.deadmansSnitchSecretNamespace "http://dummy" "SNITCH_URL"
        "url" (deadMansSnitchIntegration index.id) paged
      rw [integrationValue_congr (World.find_congr hpagedObjects _)]
        at hsnitched
      dsimp only
      rw [run_bind_ok hsnitched, deadMansSnitchUrl]
      refine ⟨snitched, ?_, hobjects.trans hpagedObjects⟩
      cases valueIntegration cr.deadMansSnitchDisabled _
        (deadMansSnitchIntegration index.id) <;> rfl

theorem run_collect_addIntegrations (hsteady : env.SteadySecrets)
    (cr : Observability) (indexes : List RepositoryIndex) (cluster : Cluster) :
    ∃ after, env.run (Program.collect indexes (addIntegrations cr)) cluster =
      (.ok (indexes.map (integrationsOf env cluster cr)), after) ∧
      after.objects = cluster.objects := by
  induction indexes generalizing cluster with
  | nil => exact ⟨cluster, rfl, rfl⟩
  | cons index rest ih =>
    obtain ⟨first, hfirst, hfirstObjects⟩ :=
      run_addIntegrations hsteady cr index cluster
    obtain ⟨last, hrest, hobjects⟩ := ih first
    have hsame : integrationsOf env first cr =
        integrationsOf env cluster cr :=
      integrationsOf_congr (World.find_congr hfirstObjects _) cr
    rw [hsame] at hrest
    refine ⟨last, ?_, hobjects.trans hfirstObjects⟩
    rw [Surroundings.run, Program.collect, run_bind_ok hfirst,
      run_bind_ok hrest]
    rfl

variable {indexes : List RepositoryIndex}

theorem run_createAlertmanagerConfig_steady (hsteady : env.SteadySecrets)
    {config : AlertmanagerConfigRoot}
    (hrun : env.run (createAlertmanagerConfig cr indexes) cluster =
      (.ok config, after)) :
    ∃ global, config = alertmanagerConfigRoot global
      (indexes.flatMap (integrationsOf env cluster cr)) := by
  obtain ⟨global, between, hglobal, hrun⟩ := run_bind_eq_ok hrun
  obtain ⟨groups, collected, hcollect, hdone⟩ := run_bind_eq_ok hrun
  cases hdone
  obtain ⟨last, hlast, -⟩ :=
    run_collect_addIntegrations hsteady cr indexes between
  have hgroups := Except.ok.inj (congrArg Prod.fst (hcollect.symm.trans hlast))
  have hsame : integrationsOf env between cr = integrationsOf env cluster cr :=
    integrationsOf_congr ((writesKinds_createGlobalConfig indexes).find_eq
      hglobal List.not_mem_nil) cr
  refine ⟨global, ?_⟩
  rw [hgroups, hsame]
  rfl

end Runs

/-! ## One channel and the others -/

def Channel.Due (env : Surroundings) (cluster : Cluster)
    (cr : Observability) (config : AlertmanagerIndex) : Channel → Prop
  | .pagerDuty => cr.pagerDutyDisabled = false ∧
      (pagerDutyKey env cluster cr config).isSome = true
  | .deadMansSnitch => cr.deadMansSnitchDisabled = false ∧
      (deadMansSnitchUrl env cluster cr config).isSome = true
  | .smtp => cr.smtpDisabled = false ∧ config.smtpToEmailAddress ≠ [] ∧
      config.smtpFromEmailAddress ≠ ""

/-- The channel is enabled, but its secret cannot be read. -/
def Channel.Failing (env : Surroundings) (cluster : Cluster)
    (cr : Observability) (config : AlertmanagerIndex) : Channel → Prop
  | .pagerDuty => cr.pagerDutyDisabled = false ∧
      pagerDutyKey env cluster cr config = none
  | .deadMansSnitch => cr.deadMansSnitchDisabled = false ∧
      deadMansSnitchUrl env cluster cr config = none
  | .smtp => False

/-- An index adds a receiver and a route in a channel exactly if the channel
is due, whatever the other channels are. -/
def EmitsIndependently (env : Surroundings) (cluster : Cluster)
    (cr : Observability) (index : RepositoryIndex) : Prop :=
  ∀ config, index.config.bind RepositoryConfig.alertmanager = some config →
    ∀ channel : Channel,
      (∃ integration ∈ integrationsOf env cluster cr index,
        integration.For channel index.id) ↔
        channel.Due env cluster cr config

/-- Where the secret of a channel cannot be read, none of the channels behind it
is due. -/
def FailsLast (env : Surroundings) (cluster : Cluster)
    (cr : Observability) (index : RepositoryIndex) : Prop :=
  ∀ config, index.config.bind RepositoryConfig.alertmanager = some config →
    (Channel.pagerDuty.Failing env cluster cr config →
      ¬ Channel.deadMansSnitch.Due env cluster cr config ∧
        ¬ Channel.smtp.Due env cluster cr config) ∧
    (Channel.deadMansSnitch.Failing env cluster cr config →
      ¬ Channel.smtp.Due env cluster cr config)

/-- No channel before it fails. -/
def Channel.Reached (env : Surroundings) (cluster : Cluster)
    (cr : Observability) (config : AlertmanagerIndex) : Channel → Prop
  | .pagerDuty => True
  | .deadMansSnitch =>
    ¬ Channel.pagerDuty.Failing env cluster cr config
  | .smtp => ¬ Channel.pagerDuty.Failing env cluster cr config ∧
      ¬ Channel.deadMansSnitch.Failing env cluster cr config

theorem Integration.For.iff {integration : Integration}
    {channel other : Channel} {id name : String}
    (hfor : integration.For channel id) :
    integration.For other name ↔ channel = other ∧ id = name :=
  ⟨fun hother => hfor.unique hother, by rintro ⟨rfl, rfl⟩; exact hfor⟩

section Channels

variable {env : Surroundings} {cluster : Cluster}
  {cr : Observability} {index : RepositoryIndex} {config : AlertmanagerIndex}
  {integration : String → Integration}

variable {disabled : Bool} {value : Option String} {channel : Channel}
  {id : String}

theorem exists_mem_valueIntegration_iff {other : Channel}
    (hfor : ∀ found, (integration found).For channel id)
    {added : List Integration}
    (hadded : valueIntegration disabled value integration = some added) :
    (∃ item ∈ added, item.For other id) ↔
      channel = other ∧ disabled = false ∧ value.isSome = true := by
  unfold valueIntegration at hadded
  cases disabled with
  | true =>
    cases hadded
    simp
  | false =>
    obtain ⟨found, rfl, rfl⟩ := Option.map_eq_some_iff.mp hadded
    simp [(hfor found).iff]

theorem exists_mem_addSmtp_iff :
    (∃ item ∈ addSmtp cr id config, item.For channel id) ↔
      Channel.smtp = channel ∧ cr.smtpDisabled = false ∧
        config.smtpToEmailAddress ≠ [] ∧ config.smtpFromEmailAddress ≠ "" := by
  unfold addSmtp
  split
  next hskip =>
    have hnot : ¬ (cr.smtpDisabled = false ∧ config.smtpToEmailAddress ≠ [] ∧
        config.smtpFromEmailAddress ≠ "") := by
      rintro ⟨henabled, hto, hfrom⟩
      rcases hskip with hskip | hskip | hskip
      · simp [henabled] at hskip
      · exact hto hskip
      · exact hfrom hskip
    simp [hnot]
  next hsend =>
    simp only [not_or, Bool.not_eq_true] at hsend
    simp [(Integration.smtp_for id _).iff, hsend]

theorem valueIntegration_eq_none_iff :
    valueIntegration disabled value integration = none ↔
      disabled = false ∧ value = none := by
  cases disabled <;> simp [valueIntegration]

theorem exists_mem_integrationsOf_iff
    (hsection : index.config.bind RepositoryConfig.alertmanager = some config)
    (channel : Channel) :
    (∃ integration ∈ integrationsOf env cluster cr index,
      integration.For channel index.id) ↔
      channel.Reached env cluster cr config ∧
        channel.Due env cluster cr config := by
  have hpagerDuty := fun found => Integration.pagerDuty_for index.id found
  have hsnitch := fun found => Integration.deadMansSnitch_for index.id found
  unfold integrationsOf
  rw [hsection]
  dsimp only
  split
  next hnone =>
    obtain ⟨henabled, hkey⟩ := valueIntegration_eq_none_iff.mp hnone
    cases channel <;>
      simp [Channel.Reached, Channel.Due, Channel.Failing, henabled, hkey]
  next paged hpaged =>
    have hreached : ¬ Channel.pagerDuty.Failing env cluster cr config := by
      intro hfailing
      rw [valueIntegration_eq_none_iff.mpr hfailing] at hpaged
      cases hpaged
    have hfirst (other : Channel) :
        (∃ item ∈ paged, item.For other index.id) ↔ _ :=
      exists_mem_valueIntegration_iff hpagerDuty hpaged
    split
    next hnone =>
      have hfailing : Channel.deadMansSnitch.Failing env cluster cr config :=
        valueIntegration_eq_none_iff.mp hnone
      rw [hfirst]
      cases channel with
      | pagerDuty => simp [Channel.Reached, Channel.Due]
      | deadMansSnitch => simp [Channel.Due, hfailing.1, hfailing.2]
      | smtp => simp [Channel.Reached, hfailing]
    next snitched hsnitched =>
      have hsecondReached :
          ¬ Channel.deadMansSnitch.Failing env cluster cr config := by
        intro hfailing
        rw [valueIntegration_eq_none_iff.mpr hfailing] at hsnitched
        cases hsnitched
      have hsecond (other : Channel) :
          (∃ item ∈ snitched, item.For other index.id) ↔ _ :=
        exists_mem_valueIntegration_iff hsnitch hsnitched
      simp only [List.mem_append, or_and_right, exists_or, hfirst, hsecond,
        exists_mem_addSmtp_iff]
      cases channel <;>
        simp [Channel.Reached, hreached, hsecondReached, Channel.Due]

theorem emitsIndependently_iff_failsLast :
    EmitsIndependently env cluster cr index ↔
      FailsLast env cluster cr index := by
  unfold EmitsIndependently FailsLast
  refine forall₂_congr fun config hsection => ?_
  simp only [exists_mem_integrationsOf_iff hsection, and_iff_right_iff_imp]
  constructor
  · intro hreached
    refine ⟨fun hfailing => ⟨fun hdue => ?_, fun hdue => ?_⟩,
      fun hfailing hdue => ?_⟩
    · exact hreached .deadMansSnitch hdue hfailing
    · exact (hreached .smtp hdue).1 hfailing
    · exact (hreached .smtp hdue).2 hfailing
  · rintro ⟨hpagerDuty, hsnitch⟩ channel hdue
    cases channel with
    | pagerDuty => trivial
    | deadMansSnitch => exact fun hfailing => (hpagerDuty hfailing).1 hdue
    | smtp =>
      exact ⟨fun hfailing => (hpagerDuty hfailing).2 hdue,
        fun hfailing => hsnitch hfailing hdue⟩

end Channels

/-- The configuration is generated from the indexes and its text is in the
secret of the Alertmanager. -/
structure StoresConfig (platform : Platform) (cr : Observability)
    (indexes : List RepositoryIndex) (env : Surroundings)
    (cluster after : Cluster) (config : AlertmanagerConfigRoot) : Prop where
  generated : ∃ between,
    env.run (createAlertmanagerConfig cr indexes) cluster =
      (.ok config, between)
  stored : ∃ text secret,
    platform.marshalAlertmanager config = .ok text ∧
      after.find .secret (getAlertmanagerSecret cr) = some secret ∧
      secret.spec.data.get? "alertmanager.yaml" = some text

theorem exists_storesConfig {platform : Platform} {cr : Observability}
    {indexes : List RepositoryIndex} {after : Cluster}
    (hrun : env.run (reconcileAlertmanagerSecret platform cr indexes)
      cluster = (.ok (), after)) :
    ∃ config, StoresConfig platform cr indexes env cluster after config := by
  obtain ⟨config, between, hconfig, hrun⟩ := run_bind_eq_ok hrun
  obtain ⟨text, htext, hupsert⟩ := run_ofExcept_bind_eq_ok hrun
  obtain ⟨hfind, -, -⟩ := run_upsert_discarded_eq_ok hupsert
  exact ⟨config, ⟨between, hconfig⟩,
    ⟨text, _, htext, hfind, StringMap.get?_set_self _ _ _⟩⟩

/-- The integrations of every index are independent of each other exactly if
none fails before one that is due. -/
theorem integrations_independent_iff {platform : Platform}
    {cr : Observability} {indexes : List RepositoryIndex}
    {env : Surroundings} {cluster after : Cluster} (hsteady : env.SteadySecrets)
    (hrun : env.run (reconcileAlertmanagerSecret platform cr indexes)
      cluster = (.ok (), after)) :
    ∃ config, StoresConfig platform cr indexes env cluster after config ∧
      config.receivers = { name := "default-receiver" } ::
        (indexes.flatMap (integrationsOf env cluster cr)).map
          Integration.receiver ∧
      config.routes =
        (indexes.flatMap (integrationsOf env cluster cr)).map
          Integration.route ∧
      ((∀ index ∈ indexes,
          EmitsIndependently env cluster cr index) ↔
        ∀ index ∈ indexes, FailsLast env cluster cr index) := by
  obtain ⟨config, hstores⟩ := exists_storesConfig hrun
  obtain ⟨between, hgenerated⟩ := hstores.generated
  obtain ⟨global, rfl⟩ := run_createAlertmanagerConfig_steady hsteady hgenerated
  exact ⟨_, hstores, rfl, rfl,
    forall₂_congr fun _ _ => emitsIndependently_iff_failsLast⟩

theorem Surroundings.steadySecrets_quiet :
    Surroundings.quiet.SteadySecrets := fun _ _ _ => rfl

theorem alertingIndexes_independent :
    ∃ config, StoresConfig Platform.marshalling plainCr alertingIndexes
        Surroundings.quiet Cluster.empty
        (Surroundings.quiet.run (reconcileAlertmanagerSecret
          Platform.marshalling plainCr alertingIndexes) Cluster.empty).2
        config ∧ config.receivers = { name := "default-receiver" } ::
        (alertingIndexes.flatMap (integrationsOf Surroundings.quiet
          Cluster.empty plainCr)).map Integration.receiver ∧
      config.routes = (alertingIndexes.flatMap (integrationsOf
        Surroundings.quiet Cluster.empty plainCr)).map Integration.route ∧
      ((∀ index ∈ alertingIndexes, EmitsIndependently Surroundings.quiet
          Cluster.empty plainCr index) ↔
        ∀ index ∈ alertingIndexes, FailsLast Surroundings.quiet
          Cluster.empty plainCr index) :=
  integrations_independent_iff Surroundings.steadySecrets_quiet rfl

def pagingIndex : RepositoryIndex where
  id := "kafka"
  config := some { alertmanager := some { pagerDutySecretName := "pager" } }

/-- Without the PagerDuty secret the snitch is lost, which needs no secret. -/
theorem missing_pagerDuty_loses_snitch :
    ∃ config after,
      StoresConfig Platform.marshalling plainCr [pagingIndex]
        Surroundings.quiet Cluster.empty after config ∧
      Surroundings.quiet.run (reconcileAlertmanagerSecret
        Platform.marshalling plainCr [pagingIndex]) Cluster.empty =
          (.ok (), after) ∧
      Channel.deadMansSnitch.Due Surroundings.quiet Cluster.empty plainCr
        { pagerDutySecretName := "pager" } ∧
      config.receivers = [{ name := "default-receiver" }] ∧
      config.routes = [] :=
  ⟨_, _, ⟨⟨_, rfl⟩, ⟨_, _, rfl, rfl, rfl⟩⟩, rfl, ⟨rfl, rfl⟩, rfl, rfl⟩

/-! ## The mail server -/

def RepositoryIndex.sendsMail (index : RepositoryIndex) : Bool :=
  match index.config.bind RepositoryConfig.alertmanager with
  | none => false
  | some config =>
    config.smtpToEmailAddress ≠ [] && config.smtpFromEmailAddress ≠ ""

theorem RepositoryIndex.sendsMail_eq_true_iff {index : RepositoryIndex} :
    index.sendsMail = true ↔
      ∃ config, index.config.bind RepositoryConfig.alertmanager =
          some config ∧ config.smtpToEmailAddress ≠ [] ∧
        config.smtpFromEmailAddress ≠ "" := by
  unfold RepositoryIndex.sendsMail
  cases index.config.bind RepositoryConfig.alertmanager <;> simp

/-- The integrations an index can add, and when it adds mail. -/
inductive Integration.Made (cr : Observability) (index : RepositoryIndex) :
    Integration → Prop where
  | pagerDuty (key : String) : Made cr index (pagerDutyIntegration index.id key)
  | deadMansSnitch (url : String) :
      Made cr index (deadMansSnitchIntegration index.id url)
  | smtp (address : String) (henabled : cr.smtpDisabled = false)
      (hmail : index.sendsMail = true) :
      Made cr index (smtpIntegration index.id address)

/-- The placeholder, or the host and port of a stored secret. -/
def IsSmartHost (cr : Observability) (indexes : List RepositoryIndex)
    (cluster : Cluster) (host : String) : Prop :=
  host = "dummy:dummy" ∨
    ∃ index ∈ indexes, ∃ config secret,
      index.config.bind RepositoryConfig.alertmanager = some config ∧
      config.smtpSecretName ≠ "" ∧
      cluster.find .secret
        ⟨if config.smtpSecretNamespace ≠ "" then config.smtpSecretNamespace
          else cr.ns, config.smtpSecretName⟩ = some secret ∧
      host = secret.spec.data.get "host" ++ ":" ++ secret.spec.data.get "port"

/-- If a receiver gets mail, the sender and the mail server are given. -/
def MailServerKnown (cr : Observability) (indexes : List RepositoryIndex)
    (cluster : Cluster) (config : AlertmanagerConfigRoot) : Prop :=
  (∃ receiver ∈ config.receivers, receiver.emailConfig ≠ []) →
    config.global.smtpFrom ≠ "" ∧
      IsSmartHost cr indexes cluster config.global.smtpSmartHost

/-- No index sends mail unless the first one does.  Without an Alertmanager
section in the first index no configuration is generated. -/
def FirstSendsMail (cr : Observability) (indexes : List RepositoryIndex) :
    Prop :=
  cr.smtpDisabled = true ∨ (∀ index ∈ indexes, index.sendsMail = false) ∨
    ∀ first ∈ indexes.head?,
      first.config.bind RepositoryConfig.alertmanager = none ∨
        first.sendsMail = true

section Mail

variable {platform : Platform} {env : Surroundings}
  {cr : Observability} {cluster after : Cluster} {index : RepositoryIndex}
  {indexes : List RepositoryIndex} {config : AlertmanagerIndex}
  {integration : Integration} {added : List Integration}

theorem exists_value_of_run_addSecretIntegration {disabled : Bool}
    {secret : Go String} {integration : String → Integration}
    (hrun : env.run
      (addSecretIntegration disabled secret integration) cluster =
        (.ok (some added), after)) :
    ∀ item ∈ added, ∃ value, item = integration value := by
  unfold addSecretIntegration at hrun
  split at hrun
  next =>
    cases hrun
    simp
  next =>
    obtain ⟨result, between, -, hdone⟩ := run_bind_eq_ok hrun
    cases result with
    | error error => cases hdone
    | ok value =>
      cases hdone
      exact fun item hitem => ⟨value, List.mem_singleton.mp hitem⟩

theorem made_of_run_addIntegrations
    (hrun : env.run (addIntegrations cr index) cluster =
      (.ok added, after)) : ∀ item ∈ added, item.Made cr index := by
  unfold addIntegrations at hrun
  split at hrun
  next =>
    cases hrun
    simp
  next config hsection =>
    obtain ⟨first, paged, hfirst, hrun⟩ := run_bind_eq_ok hrun
    cases first with
    | none =>
      cases hrun
      simp
    | some pagerDuty =>
      have hpagerDuty : ∀ item ∈ pagerDuty, item.Made cr index := by
        intro item hitem
        obtain ⟨key, rfl⟩ :=
          exists_value_of_run_addSecretIntegration hfirst item hitem
        exact .pagerDuty key
      obtain ⟨second, snitched, hsecond, hrun⟩ := run_bind_eq_ok hrun
      cases second with
      | none =>
        cases hrun
        exact hpagerDuty
      | some snitch =>
        cases hrun
        intro item hitem
        simp only [List.mem_append] at hitem
        rcases hitem with (hitem | hitem) | hitem
        · exact hpagerDuty item hitem
        · obtain ⟨url, rfl⟩ :=
            exists_value_of_run_addSecretIntegration hsecond item hitem
          exact .deadMansSnitch url
        · unfold addSmtp at hitem
          split at hitem
          next => cases hitem
          next hsend =>
            obtain rfl := List.mem_singleton.mp hitem
            simp only [not_or, Bool.not_eq_true] at hsend
            exact .smtp _ hsend.1
              (by simp [RepositoryIndex.sendsMail, hsection, hsend])

theorem Integration.Made.mail_iff (hmade : integration.Made cr index) :
    integration.receiver.emailConfig ≠ [] ↔ integration.For .smtp index.id := by
  cases hmade with
  | pagerDuty key =>
    rw [(pagerDuty_for index.id key).iff]
    simp [pagerDutyIntegration]
  | deadMansSnitch url =>
    rw [(deadMansSnitch_for index.id url).iff]
    simp [deadMansSnitchIntegration]
  | smtp address =>
    rw [(smtp_for index.id address).iff]
    simp [smtpIntegration]

theorem Integration.Made.sendsMail (hmade : integration.Made cr index)
    (hmail : integration.receiver.emailConfig ≠ []) :
    cr.smtpDisabled = false ∧ index.sendsMail = true := by
  cases hmade with
  | pagerDuty key => exact (hmail rfl).elim
  | deadMansSnitch url => exact (hmail rfl).elim
  | smtp address henabled hsends => exact ⟨henabled, hsends⟩

theorem sendsMail_of_receiver {config : AlertmanagerConfigRoot}
    (hrun : env.run (createAlertmanagerConfig cr indexes) cluster =
      (.ok config, after)) {receiver : AlertmanagerConfigReceiver}
    (hreceiver : receiver ∈ config.receivers)
    (hmail : receiver.emailConfig ≠ []) :
    cr.smtpDisabled = false ∧ ∃ index ∈ indexes, index.sendsMail = true := by
  obtain ⟨global, between, hglobal, hrun⟩ := run_bind_eq_ok hrun
  obtain ⟨groups, collected, hcollect, hdone⟩ := run_bind_eq_ok hrun
  cases hdone
  have hgroups := run_collect_forall₂
    (fun index group => ∀ item ∈ group, item.Made cr index)
    (fun index _ state next added hnext => made_of_run_addIntegrations hnext)
    hcollect
  rcases List.mem_cons.mp hreceiver with rfl | hadded
  · exact (hmail rfl).elim
  · obtain ⟨integration, hintegration, rfl⟩ := List.mem_map.mp hadded
    obtain ⟨group, hgroup, hitem⟩ := List.mem_flatten.mp hintegration
    obtain ⟨index, hindex, hmade⟩ := exists_of_forall₂ hgroups.flip hgroup
    obtain ⟨henabled, hsends⟩ := (hmade integration hitem).sendsMail hmail
    exact ⟨henabled, index, hindex, hsends⟩

theorem get_filter_nonempty (data : StringMap) (fields : List String)
    (field : String) :
    StringMap.get ((fields.map fun name => (name, data.get name)).filter
      fun entry => entry.2 ≠ "") field =
        if field ∈ fields then data.get field else "" := by
  have hcons (name value : String) (rest : StringMap) :
      StringMap.get ((name, value) :: rest) field =
        if field = name then value else rest.get field := by
    by_cases hname : field = name
    · simp [StringMap.get, StringMap.get?, hname]
    · have hbeq : (field == name) = false := by simpa using hname
      simp [StringMap.get, StringMap.get?, List.lookup_cons, hbeq, hname]
  induction fields with
  | nil => rfl
  | cons name rest ih =>
    rw [List.map_cons]
    by_cases hvalue : data.get name = ""
    · rw [List.filter_cons_of_neg (by simpa using hvalue), ih]
      by_cases hname : field = name
      · simp [hname, hvalue]
      · simp [hname]
    · rw [List.filter_cons_of_pos (by simpa using hvalue), hcons, ih]
      by_cases hname : field = name
      · simp [hname]
      · simp [hname]

theorem run_getSmtpSecret_eq_ok {secret : StringMap}
    (hrun : env.run (getSmtpSecret cr config) cluster = (.ok secret, after)) :
    (config.smtpSecretName = "" ∧ secret = []) ∨
    (config.smtpSecretName ≠ "" ∧ ∃ object, 
      cluster.find .secret
        ⟨if config.smtpSecretNamespace ≠ "" then config.smtpSecretNamespace
          else cr.ns, config.smtpSecretName⟩ = some object ∧
      secret.get "host" = object.spec.data.get "host" ∧
      secret.get "port" = object.spec.data.get "port") := by
  unfold getSmtpSecret at hrun
  split at hrun
  next hempty =>
    cases hrun
    exact .inl ⟨hempty, rfl⟩
  next hname =>
    obtain ⟨data, read, hread, hdone⟩ := run_bind_eq_ok hrun
    cases hdone
    unfold getIntegrationSecret at hread
    obtain ⟨object, hobject, hdone⟩ := run_get_eq_ok hread
    cases hdone
    refine .inr ⟨hname, object, hobject, ?_, ?_⟩
    · exact get_filter_nonempty _ _ _
    · exact get_filter_nonempty _ _ _

theorem run_firstAlertmanagerIndex_eq_ok
    (hrun : env.run (firstAlertmanagerIndex indexes) cluster =
      (.ok config, after)) :
    after = cluster ∧ ∃ first rest, indexes = first :: rest ∧
      first.config.bind RepositoryConfig.alertmanager = some config := by
  unfold firstAlertmanagerIndex at hrun
  split at hrun
  next => cases hrun
  next first rest =>
    obtain ⟨content, between, hcontent, hrun⟩ := run_bind_eq_ok hrun
    cases hconfig : first.config with
    | none =>
      rw [hconfig] at hcontent
      cases hcontent
    | some found =>
      rw [hconfig] at hcontent
      cases hcontent
      cases hsection : content.alertmanager with
      | none =>
        rw [hsection] at hrun
        cases hrun
      | some present =>
        rw [hsection] at hrun
        cases hrun
        exact ⟨rfl, first, rest, rfl, by rw [hconfig]; exact hsection⟩

theorem run_createGlobalConfig_eq_ok {global : AlertmanagerConfigGlobal}
    (henabled : cr.smtpDisabled = false)
    (hrun : env.run (createGlobalConfig cr indexes) cluster =
      (.ok global, after)) :
    ∃ first rest config, indexes = first :: rest ∧
      first.config.bind RepositoryConfig.alertmanager = some config ∧
      (first.sendsMail = true → global.smtpFrom ≠ "" ∧
        IsSmartHost cr indexes cluster global.smtpSmartHost) := by
  unfold createGlobalConfig at hrun
  rw [henabled, if_neg (by decide)] at hrun
  obtain ⟨config, found, hfound, hafter⟩ := run_bind_eq_ok hrun
  obtain ⟨rfl, first, rest, rfl, hsection⟩ :=
    run_firstAlertmanagerIndex_eq_ok hfound
  refine ⟨first, rest, config, rfl, hsection, fun hsends => ?_⟩
  have hmail : ¬ (config.smtpToEmailAddress = [] ∨
      config.smtpFromEmailAddress = "") := by
    simpa [RepositoryIndex.sendsMail, hsection, not_or] using hsends
  rw [if_neg hmail] at hafter
  obtain ⟨secret, read, hsecret, hdone⟩ := run_bind_eq_ok hafter
  cases hdone
  refine ⟨fun hfrom => hmail (.inr hfrom), ?_⟩
  rcases run_getSmtpSecret_eq_ok hsecret with
    ⟨-, rfl⟩ | ⟨hname, object, hobject, hhost, hport⟩
  · exact .inl rfl
  · by_cases hempty : secret = []
    · rw [if_pos hempty]
      exact .inl rfl
    · rw [if_neg hempty]
      refine .inr ⟨first, List.mem_cons_self, config, object, hsection,
        hname, hobject, ?_⟩
      simp only [smtpGlobalConfig, hhost, hport]

theorem mailServerKnown_of_firstSendsMail
    (hfirst : FirstSendsMail cr indexes) {config : AlertmanagerConfigRoot}
    (hrun : env.run (createAlertmanagerConfig cr indexes) cluster =
      (.ok config, after)) : MailServerKnown cr indexes cluster config := by
  rintro ⟨receiver, hreceiver, hmail⟩
  obtain ⟨henabled, index, hindex, hsends⟩ :=
    sendsMail_of_receiver hrun hreceiver hmail
  obtain ⟨global, between, hglobal, hrun⟩ := run_bind_eq_ok hrun
  obtain ⟨groups, collected, hcollect, hdone⟩ := run_bind_eq_ok hrun
  cases hdone
  obtain ⟨first, rest, config, rfl, hsection, hserver⟩ :=
    run_createGlobalConfig_eq_ok henabled hglobal
  rcases hfirst with hdisabled | hnone | hhead
  · simp [henabled] at hdisabled
  · simp [hnone index hindex] at hsends
  · rcases hhead first rfl with habsent | hfirstSends
    · simp [hsection] at habsent
    · exact hserver hfirstSends

end Mail

def clusterWithSecrets (cr : Observability) (config : AlertmanagerIndex) :
    Cluster :=
  (Cluster.empty.put .secret
    ⟨if config.pagerDutySecretNamespace ≠ "" then
        config.pagerDutySecretNamespace else cr.ns,
      config.pagerDutySecretName⟩ Kind.secret.blank).put .secret
    ⟨if config.deadmansSnitchSecretNamespace ≠ "" then
        config.deadmansSnitchSecretNamespace else cr.ns,
      config.deadmansSnitchSecretName⟩ Kind.secret.blank

section Necessity

variable {cr : Observability} {config : AlertmanagerIndex}

theorem isSome_integrationValue_of_find {cluster : Cluster}
    {name ns dummy first second : String}
    (hfind : (cluster.find .secret
      ⟨if ns ≠ "" then ns else cr.ns, name⟩).isSome = true) :
    (integrationValue Surroundings.quiet cluster cr name ns dummy first
      second).isSome = true := by
  obtain ⟨secret, hsecret⟩ := Option.isSome_iff_exists.mp hfind
  unfold integrationValue
  split
  · rfl
  · have hreply : secretReply Surroundings.quiet cluster
        ⟨if ns ≠ "" then ns else cr.ns, name⟩ = .ok secret := by
      simp only [secretReply, World.read, hsecret]
      rfl
    rw [hreply]
    rfl

theorem not_failing_clusterWithSecrets (channel : Channel) :
    ¬ channel.Failing Surroundings.quiet (clusterWithSecrets cr config) cr
      config := by
  have hpagerDuty : (pagerDutyKey Surroundings.quiet
      (clusterWithSecrets cr config) cr config).isSome = true := by
    refine isSome_integrationValue_of_find ?_
    rw [clusterWithSecrets]
    by_cases hsame :
        (⟨if config.deadmansSnitchSecretNamespace ≠ "" then
            config.deadmansSnitchSecretNamespace else cr.ns,
          config.deadmansSnitchSecretName⟩ : ObjectKey) =
        ⟨if config.pagerDutySecretNamespace ≠ "" then
            config.pagerDutySecretNamespace else cr.ns,
          config.pagerDutySecretName⟩
    · rw [hsame, World.find_put_self]
      rfl
    · rw [World.find_put_of_ne _ _ fun hboth => hsame hboth.2,
        World.find_put_self]
      rfl
  have hsnitch : (deadMansSnitchUrl Surroundings.quiet
      (clusterWithSecrets cr config) cr config).isSome = true := by
    refine isSome_integrationValue_of_find ?_
    rw [clusterWithSecrets, World.find_put_self]
    rfl
  cases channel with
  | pagerDuty =>
    rintro ⟨-, hnone⟩
    simp [hnone] at hpagerDuty
  | deadMansSnitch =>
    rintro ⟨-, hnone⟩
    simp [hnone] at hsnitch
  | smtp => exact id

theorem run_createGlobalConfig_of_not_sendsMail {env : Surroundings}
    {first : RepositoryIndex} {rest : List RepositoryIndex}
    (henabled : cr.smtpDisabled = false)
    (hsection : first.config.bind RepositoryConfig.alertmanager = some config)
    (hsends : first.sendsMail = false) (cluster : Cluster) :
    env.run (createGlobalConfig cr (first :: rest)) cluster =
      (.ok { resolveTimeout := "5m" }, cluster) := by
  obtain ⟨content, hcontent, hfound⟩ := Option.bind_eq_some_iff.mp hsection
  have hmail : config.smtpToEmailAddress = [] ∨
      config.smtpFromEmailAddress = "" := by
    simp only [RepositoryIndex.sendsMail, hsection] at hsends
    by_contra hboth
    simp [not_or.mp hboth] at hsends
  have hfirst : env.run (firstAlertmanagerIndex (first :: rest))
      cluster = (.ok config, cluster) := by
    simp only [firstAlertmanagerIndex, hcontent]
    rw [show (Program.deref (some content) : Go RepositoryConfig) =
      .done content from rfl]
    change env.run (Program.deref content.alertmanager) cluster = _
    rw [hfound]
    rfl
  unfold createGlobalConfig
  rw [henabled, if_neg (by decide), bind_eq_bind, Surroundings.run,
    run_bind_ok hfirst, if_pos hmail]
  rfl

theorem exists_run_without_server {indexes : List RepositoryIndex}
    (hfirst : ¬ FirstSendsMail cr indexes) :
    ∃ cluster after config between,
      Surroundings.quiet.run (reconcileAlertmanagerSecret
        Platform.marshalling cr indexes) cluster = (.ok (), after) ∧
      Surroundings.quiet.run (createAlertmanagerConfig cr indexes) cluster =
        (.ok config, between) ∧
      (∃ receiver ∈ config.receivers, receiver.emailConfig ≠ []) ∧
      config.global.smtpFrom = "" := by
  simp only [FirstSendsMail, not_or, Bool.not_eq_true, not_forall,
    Bool.not_eq_false] at hfirst
  obtain ⟨henabled, ⟨index, hindex, hsends⟩, first, hhead, habsent, hsilent⟩ :=
    hfirst
  obtain ⟨rest, rfl⟩ := List.head?_eq_some_iff.mp hhead
  obtain ⟨opening, hopening⟩ := Option.ne_none_iff_exists'.mp habsent
  obtain ⟨config, hsection, hto, hfrom⟩ :=
    RepositoryIndex.sendsMail_eq_true_iff.mp hsends
  generalize hcluster : clusterWithSecrets cr config = cluster
  have hglobal : Surroundings.quiet.run
      (createGlobalConfig cr (first :: rest)) cluster = _ :=
    run_createGlobalConfig_of_not_sendsMail henabled hopening hsilent cluster
  obtain ⟨last, hcollect, -⟩ := run_collect_addIntegrations
    Surroundings.steadySecrets_quiet cr (first :: rest) cluster
  have hconfig : Surroundings.quiet.run
      (createAlertmanagerConfig cr (first :: rest)) cluster =
        (.ok (alertmanagerConfigRoot { resolveTimeout := "5m" }
          ((first :: rest).map (integrationsOf Surroundings.quiet cluster
            cr)).flatten), last) := by
    unfold createAlertmanagerConfig
    rw [bind_eq_bind, Surroundings.run, run_bind_ok hglobal,
      bind_eq_bind, run_bind_ok hcollect]
    rfl
  obtain ⟨after, hwritten⟩ : ∃ after, Surroundings.quiet.run
      (reconcileAlertmanagerSecret Platform.marshalling cr (first :: rest))
      cluster = (.ok (), after) := by
    unfold reconcileAlertmanagerSecret
    rw [bind_eq_bind, Surroundings.run, run_bind_ok hconfig,
      bind_eq_bind, run_ofExcept_bind]
    exact exists_run_upsert_discarded
      (show Surroundings.quiet.environment.Faultless from fun _ _ => rfl) last
  refine ⟨cluster, after, _, last, hwritten, hconfig, ?_, rfl⟩
  · have hreached : Channel.smtp.Reached Surroundings.quiet cluster cr
        config ∧ Channel.smtp.Due Surroundings.quiet cluster cr config := by
      rw [← hcluster]
      exact ⟨⟨not_failing_clusterWithSecrets .pagerDuty,
        not_failing_clusterWithSecrets .deadMansSnitch⟩, henabled, hto, hfrom⟩
    obtain ⟨integration, hmem, hfor⟩ :=
      (exists_mem_integrationsOf_iff hsection .smtp).mpr hreached
    obtain ⟨_, hadded, -⟩ := run_addIntegrations
      Surroundings.steadySecrets_quiet cr index cluster
    refine ⟨integration.receiver, List.mem_cons_of_mem _ (List.mem_map_of_mem
      (List.mem_flatten.mpr ⟨_, List.mem_map_of_mem hindex, hmem⟩)), ?_⟩
    exact (made_of_run_addIntegrations hadded integration hmem).mail_iff.mpr
      hfor

end Necessity

/-- Mail receivers come with a mail server in every configuration exactly if
the first index sends mail where any does. -/
theorem mailServer_known_iff (cr : Observability)
    (indexes : List RepositoryIndex) :
    (∀ platform env cluster after,
      env.run (reconcileAlertmanagerSecret platform cr indexes)
        cluster = (.ok (), after) →
      ∃ config, StoresConfig platform cr indexes env cluster after
          config ∧ MailServerKnown cr indexes cluster config) ↔
      FirstSendsMail cr indexes := by
  constructor
  · intro hknown
    by_contra hfirst
    obtain ⟨cluster, after, config, between, hrun, hconfig, hmail, hserver⟩ :=
      exists_run_without_server hfirst
    obtain ⟨stored, hstores, hstored⟩ := hknown _ _ _ _ hrun
    obtain ⟨other, hother⟩ := hstores.generated
    obtain rfl : stored = config :=
      Except.ok.inj (congrArg Prod.fst (hother.symm.trans hconfig))
    exact (hstored hmail).1 hserver
  · intro hfirst platform env cluster after hrun
    obtain ⟨config, hstores⟩ := exists_storesConfig hrun
    obtain ⟨between, hgenerated⟩ := hstores.generated
    exact ⟨config, hstores, mailServerKnown_of_firstSendsMail hfirst hgenerated⟩

/-- A mail receiver of the second index, and no mail server. -/
theorem alertingIndexes_without_server :
    ∃ config after,
      StoresConfig Platform.marshalling plainCr alertingIndexes
        Surroundings.quiet Cluster.empty after config ∧
      Surroundings.quiet.run (reconcileAlertmanagerSecret
        Platform.marshalling plainCr alertingIndexes) Cluster.empty =
          (.ok (), after) ∧
      (∃ receiver ∈ config.receivers, receiver.emailConfig ≠ []) ∧
      config.global.smtpFrom = "" ∧ config.global.smtpSmartHost = "" := by
  refine ⟨_, _, ⟨⟨_, rfl⟩, ⟨_, _, rfl, rfl, rfl⟩⟩, rfl, ?_, rfl, rfl⟩
  exact ⟨(smtpIntegration "kafka" "to").receiver, by decide, by decide⟩

end ObservabilityOperator
