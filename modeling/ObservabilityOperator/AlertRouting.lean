import ObservabilityOperator.AlertmanagerConfig

/-!
# Where an alert is sent

The Alertmanager sends an alert to the receiver of the first route whose labels
the alert carries, and to the root receiver if there is none.  The routes of
the generated configuration are in no order by urgency: they follow the
indexes, and several indexes may have one id.

What makes the choice well defined is an order within every index.  Where
PagerDuty is enabled no index adds anything before its PagerDuty route, and
where Dead Man's Snitch is enabled none adds a mail route before that of the
snitch.
-/

namespace ObservabilityOperator

open Program

variable {integration : Integration}

def AlertmanagerConfigRoute.applies (route : AlertmanagerConfigRoute)
    (alert : StringMap) : Bool :=
  route.matchLabels.all fun entry => alert.get entry.1 == entry.2

def AlertmanagerConfigRoot.chosenReceiver (config : AlertmanagerConfigRoot)
    (alert : StringMap) : String :=
  match config.routes.find? fun route => route.applies alert with
  | some route => route.receiver
  | none => config.rootReceiver

/-- An alert of a rule carries the labels of the rule, and the name of the
alert under its own label. -/
structure Fires (rule : Rule) (alert : StringMap) : Prop where
  alertname : alert.get "alertname" = rule.alert
  labels : ∀ key value, key ≠ "alertname" →
    rule.labels.get? key = some value → alert.get key = value

theorem Fires.identifier {spec : PrometheusRuleSpec} {id : String}
    {group : RuleGroup} {rule : Rule} {alert : StringMap}
    (hgroup : group ∈ (injectIdLabel spec id).groups)
    (hrule : rule ∈ group.rules) (hfires : Fires rule alert) :
    alert.get prometheusRuleIdentifierKey = id := by
  refine hfires.labels _ _ (by decide) ?_
  simp only [injectIdLabel, List.mem_map] at hgroup
  obtain ⟨before, -, rfl⟩ := hgroup
  obtain ⟨original, -, rfl⟩ := List.mem_map.mp hrule
  exact StringMap.get?_set_self _ _ _

/-! ## Channels -/

inductive Channel where
  | pagerDuty
  | deadMansSnitch
  | smtp
  deriving DecidableEq, Repr

def Channel.suffix : Channel → String
  | .pagerDuty => "-pagerduty"
  | .deadMansSnitch => "-deadmanssnitch"
  | .smtp => "-smtp"

def Channel.receiverName (channel : Channel) (id : String) : String :=
  id ++ channel.suffix

def Channel.condition : Channel → String × String
  | .pagerDuty => ("severity", "critical")
  | .deadMansSnitch => ("alertname", "DeadMansSwitch")
  | .smtp => ("severity", "warning")

def Channel.wants (channel : Channel) (alert : StringMap) : Bool :=
  alert.get channel.condition.1 == channel.condition.2

theorem Channel.receiverName_ne_default (channel : Channel) (id : String) :
    channel.receiverName id ≠ "default-receiver" := by
  intro hname
  have hlast := congrArg (fun name => name.toList.getLast?) hname
  cases channel <;>
    simp [receiverName, suffix, String.toList_append] at hlast

theorem Channel.receiverName_inj {first second : Channel} {x y : String}
    (hname : first.receiverName x = second.receiverName y) :
    first = second ∧ x = y := by
  have hlast := congrArg (fun name => name.toList.getLast?) hname
  have hchannel : first = second := by
    cases first <;> cases second <;>
      simp [receiverName, suffix, String.toList_append] at hlast ⊢
  subst hchannel
  refine ⟨rfl, ?_⟩
  simp only [receiverName] at hname
  rw [← String.toList_inj] at hname ⊢
  simpa [String.toList_append] using hname

/-- The receiver and the route of a channel for this index. -/
structure Integration.For (channel : Channel) (id : String)
    (integration : Integration) : Prop where
  receiver : integration.receiver.name = channel.receiverName id
  routeReceiver : integration.route.receiver = channel.receiverName id
  matchLabels : integration.route.matchLabels =
    [channel.condition, (prometheusRuleIdentifierKey, id)]

namespace Integration

theorem pagerDuty_for (id serviceKey : String) :
    (pagerDutyIntegration id serviceKey).For .pagerDuty id :=
  ⟨rfl, rfl, rfl⟩

theorem deadMansSnitch_for (id url : String) :
    (deadMansSnitchIntegration id url).For .deadMansSnitch id :=
  ⟨rfl, rfl, rfl⟩

theorem smtp_for (id toEmailAddress : String) :
    (smtpIntegration id toEmailAddress).For .smtp id :=
  ⟨rfl, rfl, rfl⟩

theorem For.unique {first second : Channel} {x y : String}
    (hfirst : integration.For first x) (hsecond : integration.For second y) :
    first = second ∧ x = y :=
  Channel.receiverName_inj (hfirst.receiver.symm.trans hsecond.receiver)

theorem For.applies_iff {channel : Channel} {id : String}
    (hfor : integration.For channel id) (alert : StringMap) :
    integration.route.applies alert = true ↔
      channel.wants alert = true ∧
        alert.get prometheusRuleIdentifierKey = id := by
  simp [AlertmanagerConfigRoute.applies, hfor.matchLabels, Channel.wants]

end Integration

def Precedes {α : Type} (First Second : α → Prop) (items : List α) : Prop :=
  ∀ before item after, items = before ++ item :: after → Second item →
    ∃ earlier ∈ before, First earlier

theorem precedes_of_forall_not {α : Type} {First Second : α → Prop}
    {items : List α} (hitems : ∀ item ∈ items, ¬ Second item) :
    Precedes First Second items := by
  rintro before item after rfl hitem
  exact (hitems item (by simp) hitem).elim

theorem Precedes.append {α : Type} {First Second : α → Prop}
    {front back : List α} (hfront : Precedes First Second front)
    (hback : Precedes First Second back) :
    Precedes First Second (front ++ back) := by
  intro before item after hsplit hitem
  rcases List.append_eq_append_iff.mp hsplit with
    ⟨between, rfl, hrest⟩ | ⟨between, hrest, htail⟩
  · obtain ⟨earlier, hearlier, hkind⟩ := hback between item after hrest hitem
    exact ⟨earlier, List.mem_append_right _ hearlier, hkind⟩
  · cases between with
    | nil =>
      obtain ⟨earlier, hearlier, -⟩ := hback [] item after htail.symm hitem
      cases hearlier
    | cons first rest =>
      obtain ⟨rfl, rfl⟩ := List.cons.inj htail
      exact hfront before item rest hrest hitem

theorem find?_of_precedes {α : Type} {First : α → Prop}
    (Second : α → Prop) {items : List α} {sought : α → Bool}
    (hexists : ∃ item ∈ items, First item)
    (hfirst : ∀ item, First item → sought item = true)
    (hkinds : ∀ item ∈ items, sought item = true → First item ∨ Second item)
    (hprecedes : Precedes First Second items) :
    ∃ item, items.find? sought = some item ∧ First item := by
  obtain ⟨witness, hwitness, hkind⟩ := hexists
  have hsome : (items.find? sought).isSome :=
    List.find?_isSome.mpr ⟨witness, hwitness, hfirst witness hkind⟩
  obtain ⟨item, hfound⟩ := Option.isSome_iff_exists.mp hsome
  obtain ⟨hsought, before, after, hsplit, hbefore⟩ :=
    List.find?_eq_some_iff_append.mp hfound
  refine ⟨item, hfound, ?_⟩
  rcases hkinds item (List.mem_of_find?_eq_some hfound) hsought with
    hitem | hitem
  · exact hitem
  · obtain ⟨earlier, hearlier, hkind⟩ :=
      hprecedes before item after hsplit hitem
    simpa [hfirst earlier hkind] using hbefore earlier hearlier

/-! ## The integrations of all indexes -/

structure IntegrationsOrdered (cr : Observability)
    (integrations : List Integration) : Prop where
  channelled : ∀ integration ∈ integrations,
    ∃ channel id, integration.For channel id
  pagerDutyFirst : cr.pagerDutyDisabled = false → ∀ id,
    Precedes (Integration.For .pagerDuty id)
      (Integration.For .deadMansSnitch id) integrations
  pagerDutyEnabled : ∀ integration ∈ integrations, ∀ id,
    integration.For .pagerDuty id → cr.pagerDutyDisabled = false
  snitchFirst : cr.deadMansSnitchDisabled = false → ∀ id,
    Precedes (Integration.For .deadMansSnitch id)
      (Integration.For .smtp id) integrations
  snitchEnabled : ∀ integration ∈ integrations, ∀ id,
    integration.For .deadMansSnitch id → cr.deadMansSnitchDisabled = false

namespace IntegrationsOrdered

variable {cr : Observability} {integrations : List Integration}

theorem nil : IntegrationsOrdered cr [] where
  channelled := by simp
  pagerDutyFirst _ _ := precedes_of_forall_not (by simp)
  pagerDutyEnabled := by simp
  snitchFirst _ _ := precedes_of_forall_not (by simp)
  snitchEnabled := by simp

theorem append {front back : List Integration}
    (hfront : IntegrationsOrdered cr front)
    (hback : IntegrationsOrdered cr back) :
    IntegrationsOrdered cr (front ++ back) where
  channelled integration hmem :=
    (List.mem_append.mp hmem).elim (hfront.channelled integration)
      (hback.channelled integration)
  pagerDutyFirst henabled id :=
    (hfront.pagerDutyFirst henabled id).append
      (hback.pagerDutyFirst henabled id)
  pagerDutyEnabled integration hmem :=
    (List.mem_append.mp hmem).elim (hfront.pagerDutyEnabled integration)
      (hback.pagerDutyEnabled integration)
  snitchFirst henabled id :=
    (hfront.snitchFirst henabled id).append (hback.snitchFirst henabled id)
  snitchEnabled integration hmem :=
    (List.mem_append.mp hmem).elim (hfront.snitchEnabled integration)
      (hback.snitchEnabled integration)

theorem flatten {groups : List (List Integration)}
    (hgroups : ∀ group ∈ groups, IntegrationsOrdered cr group) :
    IntegrationsOrdered cr groups.flatten := by
  induction groups with
  | nil => exact nil
  | cons group rest ih =>
    exact (hgroups group (by simp)).append
      (ih fun other hother => hgroups other (List.mem_cons_of_mem _ hother))

end IntegrationsOrdered

theorem precedes_of_head {first second : Channel} {id : String}
    {head : Integration} {rest : List Integration} (hne : first ≠ second)
    (hhead : head.For first id)
    (hrest : ∀ integration ∈ rest, ∃ channel, integration.For channel id)
    (wanted : String) :
    Precedes (Integration.For first wanted) (Integration.For second wanted)
      (head :: rest) := by
  intro before item after hsplit hitem
  cases before with
  | nil =>
    obtain ⟨rfl, -⟩ := List.cons.inj hsplit
    exact (hne (hhead.unique hitem).1).elim
  | cons earlier others =>
    obtain ⟨rfl, htail⟩ := List.cons.inj hsplit
    obtain ⟨channel, hchannel⟩ := hrest item (by simp [htail])
    obtain ⟨-, rfl⟩ := hchannel.unique hitem
    exact ⟨head, by simp, hhead⟩

section Runs

variable {platform : Platform} {cr : Observability}
  {env : Surroundings} {cluster after : Cluster} {disabled : Bool}
  {channel : Channel} {id : String} {added : List Integration}

def AddedIn (disabled : Bool) (channel : Channel) (id : String)
    (added : List Integration) : Prop :=
  (disabled = true ∧ added = []) ∨
    (disabled = false ∧ ∃ integration, added = [integration] ∧
      integration.For channel id)

theorem AddedIn.of_mem (hadded : AddedIn disabled channel id added)
    {integration : Integration} (hmem : integration ∈ added) :
    integration.For channel id ∧ disabled = false := by
  rcases hadded with ⟨-, rfl⟩ | ⟨henabled, only, rfl, honly⟩
  · cases hmem
  · obtain rfl := List.mem_singleton.mp hmem
    exact ⟨honly, henabled⟩

theorem AddedIn.eq_singleton (hadded : AddedIn disabled channel id added)
    (henabled : disabled = false) :
    ∃ integration, added = [integration] ∧ integration.For channel id := by
  rcases hadded with ⟨hdisabled, -⟩ | ⟨-, hone⟩
  · simp [hdisabled] at henabled
  · exact hone

theorem run_addSecretIntegration_eq_ok {secret : Go String}
    {integration : String → Integration} {result : Option (List Integration)}
    (hfor : ∀ value, (integration value).For channel id)
    (hrun : env.run
      (addSecretIntegration disabled secret integration) cluster =
        (.ok result, after)) :
    result = none ∨ ∃ added, result = some added ∧
      AddedIn disabled channel id added := by
  unfold addSecretIntegration at hrun
  cases disabled with
  | true =>
    simp only [if_true, pure_eq_done, run_done,
      Prod.mk.injEq, Except.ok.injEq] at hrun
    exact .inr ⟨[], hrun.1.symm, .inl ⟨rfl, rfl⟩⟩
  | false =>
    obtain ⟨attempted, _, -, hrest⟩ := run_bind_eq_ok hrun
    cases attempted with
    | error error =>
      simp only [pure_eq_done, run_done, Prod.mk.injEq,
        Except.ok.injEq] at hrest
      exact .inl hrest.1.symm
    | ok value =>
      simp only [pure_eq_done, run_done, Prod.mk.injEq,
        Except.ok.injEq] at hrest
      exact .inr ⟨[integration value], hrest.1.symm,
        .inr ⟨rfl, _, rfl, hfor value⟩⟩

theorem addSmtp_for {config : AlertmanagerIndex}
    (hmem : integration ∈ addSmtp cr id config) : integration.For .smtp id := by
  unfold addSmtp at hmem
  split at hmem
  next => cases hmem
  next =>
    obtain rfl := List.mem_singleton.mp hmem
    exact Integration.smtp_for id _

theorem AddedIn.ordered {pagerDuty : List Integration}
    (hpagerDuty : AddedIn cr.pagerDutyDisabled .pagerDuty id pagerDuty) :
    IntegrationsOrdered cr pagerDuty := by
  have honly {integration : Integration} {channel : Channel}
      {wanted : String} (hmem : integration ∈ pagerDuty)
      (hfor : integration.For channel wanted) : channel = .pagerDuty :=
    (hfor.unique (hpagerDuty.of_mem hmem).1).1
  constructor
  · exact fun _ hmem => ⟨_, _, (hpagerDuty.of_mem hmem).1⟩
  · exact fun _ _ => precedes_of_forall_not fun _ hmem hfor =>
      nomatch honly hmem hfor
  · exact fun _ hmem _ _ => (hpagerDuty.of_mem hmem).2
  · exact fun _ _ => precedes_of_forall_not fun _ hmem hfor =>
      nomatch honly hmem hfor
  · exact fun _ hmem _ hfor => nomatch honly hmem hfor

theorem integrationsOrdered_of_index {pagerDuty snitch smtp : List Integration}
    (hpagerDuty : AddedIn cr.pagerDutyDisabled .pagerDuty id pagerDuty)
    (hsnitch : AddedIn cr.deadMansSnitchDisabled .deadMansSnitch id snitch)
    (hsmtp : ∀ integration ∈ smtp, integration.For .smtp id) :
    IntegrationsOrdered cr (pagerDuty ++ snitch ++ smtp) := by
  have hlater : ∀ integration ∈ snitch ++ smtp,
      integration.For .deadMansSnitch id ∨ integration.For .smtp id :=
    fun integration hmem => (List.mem_append.mp hmem).imp
      (fun hmem => (hsnitch.of_mem hmem).1) (hsmtp integration)
  have hcases : ∀ integration ∈ pagerDuty ++ snitch ++ smtp,
      (integration.For .pagerDuty id ∧ cr.pagerDutyDisabled = false) ∨
        (integration.For .deadMansSnitch id ∧
          cr.deadMansSnitchDisabled = false) ∨ integration.For .smtp id := by
    intro integration hmem
    simp only [List.mem_append] at hmem
    rcases hmem with (hmem | hmem) | hmem
    · exact .inl (hpagerDuty.of_mem hmem)
    · exact .inr (.inl (hsnitch.of_mem hmem))
    · exact .inr (.inr (hsmtp integration hmem))
  constructor
  · intro integration hmem
    rcases hcases integration hmem with hfor | hfor | hfor
    · exact ⟨_, _, hfor.1⟩
    · exact ⟨_, _, hfor.1⟩
    · exact ⟨_, _, hfor⟩
  · intro henabled wanted
    obtain ⟨head, rfl, hhead⟩ := hpagerDuty.eq_singleton henabled
    refine precedes_of_head (by decide) hhead ?_ wanted
    intro integration hmem
    exact (hlater integration hmem).elim (fun hfor => ⟨_, hfor⟩)
      fun hfor => ⟨_, hfor⟩
  · intro integration hmem wanted hfor
    rcases hcases integration hmem with hone | hone | hone
    · exact hone.2
    · cases (hone.1.unique hfor).1
    · cases (hone.unique hfor).1
  · intro henabled wanted
    obtain ⟨head, rfl, hhead⟩ := hsnitch.eq_singleton henabled
    rw [List.append_assoc]
    refine Precedes.append (hpagerDuty.ordered.snitchFirst henabled wanted) ?_
    exact precedes_of_head (by decide) hhead
      (fun integration hmem => ⟨_, hsmtp integration hmem⟩) wanted
  · intro integration hmem wanted hfor
    rcases hcases integration hmem with hone | hone | hone
    · cases (hone.1.unique hfor).1
    · exact hone.2
    · cases (hone.unique hfor).1

theorem run_addIntegrations_eq_ok {index : RepositoryIndex}
    (hrun : env.run (addIntegrations cr index) cluster =
      (.ok added, after)) : IntegrationsOrdered cr added := by
  unfold addIntegrations at hrun
  split at hrun
  next =>
    cases hrun
    exact .nil
  next config =>
    obtain ⟨pagerDuty, _, hfirst, hafterFirst⟩ := run_bind_eq_ok hrun
    rcases run_addSecretIntegration_eq_ok
        (Integration.pagerDuty_for index.id) hfirst with
      rfl | ⟨pagerDuty, rfl, hpagerDuty⟩
    · cases hafterFirst
      exact .nil
    · obtain ⟨snitch, _, hsecond, hafterSecond⟩ :=
        run_bind_eq_ok hafterFirst
      rcases run_addSecretIntegration_eq_ok
          (Integration.deadMansSnitch_for index.id) hsecond with
        rfl | ⟨snitch, rfl, hsnitch⟩
      · cases hafterSecond
        exact hpagerDuty.ordered
      · cases hafterSecond
        exact integrationsOrdered_of_index hpagerDuty hsnitch
          fun integration hmem => addSmtp_for hmem

theorem run_createAlertmanagerConfig_eq_ok {indexes : List RepositoryIndex}
    {config : AlertmanagerConfigRoot}
    (hrun : env.run (createAlertmanagerConfig cr indexes) cluster =
      (.ok config, after)) :
    ∃ global integrations,
      config = alertmanagerConfigRoot global integrations ∧
        IntegrationsOrdered cr integrations := by
  obtain ⟨global, _, -, hafterGlobal⟩ := run_bind_eq_ok hrun
  obtain ⟨groups, _, hcollect, hdone⟩ := run_bind_eq_ok hafterGlobal
  cases hdone
  refine ⟨global, groups.flatten, rfl, .flatten ?_⟩
  have hgroups := run_collect_forall₂
    (fun _ group => IntegrationsOrdered cr group)
    (fun index _ state next added hnext => run_addIntegrations_eq_ok hnext)
    hcollect
  intro group hgroup
  obtain ⟨-, -, hordered⟩ := exists_of_forall₂ hgroups.flip hgroup
  exact hordered

end Runs

/-! ## The receiver of an alert -/

def AlertmanagerConfigRoot.hasRoute (config : AlertmanagerConfigRoot)
    (receiver : String) : Bool :=
  config.routes.any fun route => route.receiver == receiver

/-- The most urgent channel that wants the alert and that has a route for the
id. -/
def AlertmanagerConfigRoot.expectedReceiver (config : AlertmanagerConfigRoot)
    (id : String) (alert : StringMap) : String :=
  if alert.get "severity" = "critical" ∧
      config.hasRoute (id ++ "-pagerduty") then id ++ "-pagerduty"
  else if alert.get "alertname" = "DeadMansSwitch" ∧
      config.hasRoute (id ++ "-deadmanssnitch") then id ++ "-deadmanssnitch"
  else if alert.get "severity" = "warning" ∧
      config.hasRoute (id ++ "-smtp") then id ++ "-smtp"
  else "default-receiver"

/-- The expected receiver gets the alert; it is defined and of no other index.
-/
structure RoutedCorrectly (config : AlertmanagerConfigRoot) (id : String)
    (alert : StringMap) : Prop where
  receiver : config.chosenReceiver alert = config.expectedReceiver id alert
  defined : ∃ receiver ∈ config.receivers,
    receiver.name = config.chosenReceiver alert
  isolated : ∀ other, other ≠ id → ∀ channel : Channel,
    config.chosenReceiver alert ≠ channel.receiverName other

section Routing

variable {cr : Observability} {global : AlertmanagerConfigGlobal}
  {integrations : List Integration} {id : String} {alert : StringMap}

theorem hasRoute_iff (hordered : IntegrationsOrdered cr integrations)
    (channel : Channel) :
    (alertmanagerConfigRoot global integrations).hasRoute
        (channel.receiverName id) = true ↔
      ∃ integration ∈ integrations, integration.For channel id := by
  simp only [AlertmanagerConfigRoot.hasRoute, alertmanagerConfigRoot,
    List.any_map, List.any_eq_true, Function.comp_apply, beq_iff_eq]
  constructor
  · rintro ⟨integration, hmem, hroute⟩
    obtain ⟨actual, other, hfor⟩ := hordered.channelled integration hmem
    obtain ⟨rfl, rfl⟩ :=
      Channel.receiverName_inj (hfor.routeReceiver.symm.trans hroute)
    exact ⟨integration, hmem, hfor⟩
  · rintro ⟨integration, hmem, hfor⟩
    exact ⟨integration, hmem, hfor.routeReceiver⟩

theorem expectedReceiver_cases (config : AlertmanagerConfigRoot)
    (id : String) (alert : StringMap) :
    config.expectedReceiver id alert = "default-receiver" ∨
      ∃ channel : Channel,
        config.expectedReceiver id alert = channel.receiverName id ∧
          config.hasRoute (channel.receiverName id) = true := by
  unfold AlertmanagerConfigRoot.expectedReceiver
  split
  next hpagerDuty => exact .inr ⟨.pagerDuty, rfl, hpagerDuty.2⟩
  next =>
    split
    next hsnitch => exact .inr ⟨.deadMansSnitch, rfl, hsnitch.2⟩
    next =>
      split
      next hsmtp => exact .inr ⟨.smtp, rfl, hsmtp.2⟩
      next => exact .inl rfl

theorem chosenReceiver_alertmanagerConfigRoot :
    (alertmanagerConfigRoot global integrations).chosenReceiver alert =
      ((integrations.find? fun integration =>
        integration.route.applies alert).map fun integration =>
          integration.route.receiver).getD "default-receiver" := by
  simp only [AlertmanagerConfigRoot.chosenReceiver, alertmanagerConfigRoot,
    List.find?_map, Function.comp_def]
  cases integrations.find? fun integration =>
    integration.route.applies alert <;> rfl

variable (hordered : IntegrationsOrdered cr integrations)
  (hid : alert.get prometheusRuleIdentifierKey = id)
include hordered hid

theorem chosenReceiver_of_channel (channel : Channel)
    (hwants : channel.wants alert = true)
    (hroute : ∃ integration ∈ integrations, integration.For channel id)
    (hothers : ∀ other, other ≠ channel → other.wants alert = true →
      (∃ integration ∈ integrations, integration.For other id) →
        Precedes (Integration.For channel id) (Integration.For other id)
          integrations) :
    (alertmanagerConfigRoot global integrations).chosenReceiver alert =
      channel.receiverName id := by
  obtain ⟨integration, hfind, hfor⟩ : ∃ integration,
      integrations.find? (fun integration =>
        integration.route.applies alert) = some integration ∧
          integration.For channel id := by
    refine find?_of_precedes
      (fun integration => ∃ other, other ≠ channel ∧
        other.wants alert = true ∧ integration.For other id) hroute
      (fun integration hfor => (hfor.applies_iff alert).mpr ⟨hwants, hid⟩)
      (fun integration hmem happlies => ?_)
      (fun before integration after hsplit hlater => ?_)
    · obtain ⟨actual, other, hfor⟩ := hordered.channelled integration hmem
      obtain ⟨hactual, hother⟩ := (hfor.applies_iff alert).mp happlies
      obtain rfl : other = id := hother.symm.trans hid
      by_cases hchannel : actual = channel
      · exact .inl (hchannel ▸ hfor)
      · exact .inr ⟨actual, hchannel, hactual, hfor⟩
    · obtain ⟨other, hne, hother, hfor⟩ := hlater
      exact hothers other hne hother ⟨integration, by simp [hsplit], hfor⟩
        before integration after hsplit hfor
  rw [chosenReceiver_alertmanagerConfigRoot, hfind]
  exact hfor.routeReceiver

theorem chosenReceiver_of_no_channel
    (hnone : ∀ channel : Channel, channel.wants alert = true →
      ¬ ∃ integration ∈ integrations, integration.For channel id) :
    (alertmanagerConfigRoot global integrations).chosenReceiver alert =
      "default-receiver" := by
  have hfind : integrations.find? (fun integration =>
      integration.route.applies alert) = none := by
    refine List.find?_eq_none.mpr fun integration hmem happlies => ?_
    obtain ⟨channel, other, hfor⟩ := hordered.channelled integration hmem
    obtain ⟨hwants, hother⟩ := (hfor.applies_iff alert).mp happlies
    obtain rfl : other = id := hother.symm.trans hid
    exact hnone channel hwants ⟨integration, hmem, hfor⟩
  rw [chosenReceiver_alertmanagerConfigRoot, hfind]
  rfl

theorem chosenReceiver_eq_expectedReceiver :
    (alertmanagerConfigRoot global integrations).chosenReceiver alert =
      (alertmanagerConfigRoot global integrations).expectedReceiver id
        alert := by
  have hwants (channel : Channel) : channel.wants alert = true ↔
      alert.get channel.condition.1 = channel.condition.2 := by
    simp [Channel.wants]
  unfold AlertmanagerConfigRoot.expectedReceiver
  split
  next hpagerDuty =>
    obtain ⟨hcritical, hhas⟩ := hpagerDuty
    have hroute := (hasRoute_iff hordered .pagerDuty).mp hhas
    obtain ⟨integration, hmem, hfor⟩ := hroute
    have henabled := hordered.pagerDutyEnabled integration hmem id hfor
    refine chosenReceiver_of_channel hordered hid .pagerDuty
      ((hwants _).mpr hcritical) ⟨integration, hmem, hfor⟩
      fun other hne hother _ => ?_
    cases other with
    | pagerDuty => exact (hne rfl).elim
    | deadMansSnitch => exact hordered.pagerDutyFirst henabled id
    | smtp =>
      rw [hwants, Channel.condition, hcritical] at hother
      simp at hother
  next hpagerDuty =>
    have hnoPagerDuty (hcritical : Channel.pagerDuty.wants alert = true)
        (hroute : ∃ integration ∈ integrations,
          integration.For .pagerDuty id) : False :=
      hpagerDuty ⟨(hwants _).mp hcritical,
        (hasRoute_iff hordered .pagerDuty).mpr hroute⟩
    split
    next hsnitch =>
      obtain ⟨hswitch, hhas⟩ := hsnitch
      have hroute := (hasRoute_iff hordered .deadMansSnitch).mp hhas
      obtain ⟨integration, hmem, hfor⟩ := hroute
      have henabled := hordered.snitchEnabled integration hmem id hfor
      refine chosenReceiver_of_channel hordered hid .deadMansSnitch
        ((hwants _).mpr hswitch) ⟨integration, hmem, hfor⟩
        fun other hne hother hroute => ?_
      cases other with
      | pagerDuty => exact (hnoPagerDuty hother hroute).elim
      | deadMansSnitch => exact (hne rfl).elim
      | smtp => exact hordered.snitchFirst henabled id
    next hsnitch =>
      have hnoSnitch (hswitch : Channel.deadMansSnitch.wants alert = true)
          (hroute : ∃ integration ∈ integrations,
            integration.For .deadMansSnitch id) : False :=
        hsnitch ⟨(hwants _).mp hswitch,
          (hasRoute_iff hordered .deadMansSnitch).mpr hroute⟩
      split
      next hsmtp =>
        obtain ⟨hwarning, hhas⟩ := hsmtp
        refine chosenReceiver_of_channel hordered hid .smtp
          ((hwants _).mpr hwarning) ((hasRoute_iff hordered .smtp).mp hhas)
          fun other hne hother hroute => ?_
        cases other with
        | pagerDuty => exact (hnoPagerDuty hother hroute).elim
        | deadMansSnitch => exact (hnoSnitch hother hroute).elim
        | smtp => exact (hne rfl).elim
      next hsmtp =>
        refine chosenReceiver_of_no_channel hordered hid
          fun channel hchannel hroute => ?_
        cases channel with
        | pagerDuty => exact hnoPagerDuty hchannel hroute
        | deadMansSnitch => exact hnoSnitch hchannel hroute
        | smtp =>
          exact hsmtp ⟨(hwants _).mp hchannel,
            (hasRoute_iff hordered .smtp).mpr hroute⟩

theorem routedCorrectly_of_ordered :
    RoutedCorrectly (alertmanagerConfigRoot global integrations) id alert := by
  have hchosen :
      (alertmanagerConfigRoot global integrations).chosenReceiver alert =
        (alertmanagerConfigRoot global integrations).expectedReceiver id
          alert := chosenReceiver_eq_expectedReceiver hordered hid
  refine ⟨hchosen, ?_, fun other hother channel hsame => ?_⟩
  · rw [hchosen]
    rcases expectedReceiver_cases (alertmanagerConfigRoot global integrations)
        id alert with hdefault | ⟨channel, hexpected, hhas⟩
    · exact ⟨_, List.mem_cons_self, hdefault.symm⟩
    · obtain ⟨integration, hmem, hfor⟩ := (hasRoute_iff hordered channel).mp hhas
      refine ⟨integration.receiver, ?_, hfor.receiver.trans hexpected.symm⟩
      exact List.mem_cons_of_mem _ (List.mem_map_of_mem hmem)
  · rw [hchosen] at hsame
    rcases expectedReceiver_cases (alertmanagerConfigRoot global integrations)
        id alert with hdefault | ⟨actual, hexpected, -⟩
    · exact channel.receiverName_ne_default other (hsame.symm.trans hdefault)
    · exact hother (Channel.receiverName_inj (hsame.symm.trans hexpected)).2

end Routing

/-- The configuration that a run stores routes every alert of a labelled rule
by the id of the rule. -/
structure StoresRouting (platform : Platform) (cr : Observability)
    (indexes : List RepositoryIndex) (env : Surroundings)
    (cluster after : Cluster) (config : AlertmanagerConfigRoot) : Prop where
  generated : ∃ between,
    env.run (createAlertmanagerConfig cr indexes) cluster =
      (.ok config, between)
  stored : ∃ text secret,
    platform.marshalAlertmanager config = .ok text ∧
      after.find .secret (getAlertmanagerSecret cr) = some secret ∧
      secret.spec.data.get? "alertmanager.yaml" = some text
  routes : ∀ (spec : PrometheusRuleSpec) (id : String) (group : RuleGroup)
    (rule : Rule) (alert : StringMap),
    group ∈ (injectIdLabel spec id).groups → rule ∈ group.rules →
      Fires rule alert → RoutedCorrectly config id alert

/-- Alerts reach the most urgent channel of their own index, and no other
index's. -/
theorem reconcileAlertmanagerSecret_routes_correctly {platform : Platform}
    {cr : Observability} {indexes : List RepositoryIndex}
    {env : Surroundings} {cluster after : Cluster}
    (hrun : env.run (reconcileAlertmanagerSecret platform cr indexes)
      cluster = (.ok (), after)) :
    ∃ config, StoresRouting platform cr indexes env cluster after config := by
  obtain ⟨config, between, hconfig, hafterConfig⟩ := run_bind_eq_ok hrun
  obtain ⟨text, htext, hupsert⟩ := run_ofExcept_bind_eq_ok hafterConfig
  obtain ⟨hfind, -, -⟩ := run_upsert_discarded_eq_ok hupsert
  refine ⟨config, ⟨between, hconfig⟩, ⟨text, _, htext, hfind, ?_⟩, ?_⟩
  · exact StringMap.get?_set_self _ _ _
  · intro spec id group rule alert hgroup hrule hfires
    obtain ⟨global, integrations, rfl, hordered⟩ :=
      run_createAlertmanagerConfig_eq_ok hconfig
    exact routedCorrectly_of_ordered hordered (hfires.identifier hgroup hrule)

def alertingIndexes : List RepositoryIndex :=
  [{ id := "kafka", config := some { alertmanager := some {} } },
    { id := "kafka"
      config := some
        { alertmanager := some
            { smtpToEmailAddress := ["to"]
              smtpFromEmailAddress := "from" } } }]

def Platform.marshalling : Platform :=
  { Platform.plain with
    marshalAlertmanager := fun config => .ok config.rootReceiver }

theorem alertingIndexes_route_correctly :
    ∃ config, StoresRouting Platform.marshalling plainCr alertingIndexes
      Surroundings.quiet Cluster.empty
      (Surroundings.quiet.run (reconcileAlertmanagerSecret
        Platform.marshalling plainCr alertingIndexes) Cluster.empty).2 config :=
  reconcileAlertmanagerSecret_routes_correctly rfl

end ObservabilityOperator
