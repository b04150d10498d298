import ObservabilityOperator.AlertingIntegrations
import ObservabilityOperator.RemoteWriteTargets

/-!
# Names that occur twice

Remote write targets and receivers are named after the id of their index, the
secrets with tokens after the id of an Observatorium.  Nobody checks that the
ids of different repositories are different, and unlike dashboards, rules and
pod monitors the names are not made unique.
-/

namespace ObservabilityOperator

open Program

/-- The metrics of the index get a remote write target.  With Red Hat
authentication this takes an issuer that a path can be joined to, if the
OAuth2 secret is there. -/
def WritesRemotely (platform : Platform) (cr : Observability)
    (cluster : Cluster) (index : RepositoryIndex) : Prop :=
  cr.observatoriumDisabled = false ∧ ∃ observatorium,
    metricsObservatorium index = some observatorium ∧
      (observatorium.authType = .dex ∨
        observatorium.authType = .redhat ∧
          ∀ secret, oauth2Secret cr cluster = some secret →
            (platform.urlJoinPath (secret.spec.data.get "issuer_url")
              "/protocol/openid-connect/token").isOk = true)

/-- Metrics of the index are sent with the token of this id. -/
def SendsToken (cr : Observability) (index : RepositoryIndex)
    (id : String) : Prop :=
  cr.observatoriumDisabled = false ∧ ∃ observatorium,
    metricsObservatorium index = some observatorium ∧
      observatorium.authType = .dex ∧ observatorium.id = id

/-- The channel of the index is part of the configuration. -/
def Alerts (env : Surroundings) (cr : Observability)
    (cluster : Cluster) (index : RepositoryIndex) (channel : Channel) :
    Prop :=
  cr.externalSyncDisabled = false ∧ cr.hasAlertmanagerConfigSecret = none ∧
    ∃ config, index.config.bind RepositoryConfig.alertmanager =
        some config ∧
      channel.Reached env cluster cr config ∧
      channel.Due env cluster cr config

/-- The two indexes share no name: neither of remote write targets, nor of token
secrets, nor of receivers. -/
structure Apart (platform : Platform) (env : Surroundings)
    (cr : Observability) (cluster : Cluster)
    (first second : RepositoryIndex) : Prop where
  targets : WritesRemotely platform cr cluster first →
    WritesRemotely platform cr cluster second → first.id ≠ second.id
  tokens : ∀ id other, SendsToken cr first id → SendsToken cr second other →
    id ≠ other
  receivers : ∀ channel, Alerts env cr cluster first channel →
    Alerts env cr cluster second channel → first.id ≠ second.id

/-! ## Remote write targets -/

theorem map_filterMap_of_forall₂ {α β γ : Type} {name : α → Option γ}
    {nameOf : β → γ} {items : List α} {found : List (Option β)}
    (hfound : List.Forall₂ (fun item value => value.map nameOf = name item)
      items found) :
    (found.filterMap fun value => value).map nameOf = items.filterMap name := by
  induction hfound with
  | nil => rfl
  | @cons item value rest others hvalue _ ih =>
    cases value with
    | none =>
      have hnone : name item = none := hvalue.symm
      rw [List.filterMap_cons_none hnone, ← ih]
      rfl
    | some value =>
      have hsome : name item = some (nameOf value) := hvalue.symm
      rw [List.filterMap_cons_some hsome, ← ih]
      rfl

section Targets

variable {platform : Platform} {env : Surroundings}
  {cr : Observability} {cluster after : Cluster}

theorem oauth2Readable_of_run (hsteady : env.SteadySecrets)
    {secret : Option (Resource SecretSpec)}
    (hrun : env.run (getOauth2ConfigSecret cr) cluster =
      (.ok secret, after)) : Oauth2Readable env cr := by
  intro tick
  rw [hsteady tick cluster.tick]
  unfold getOauth2ConfigSecret at hrun
  simp only [Surroundings.run, bind_eq_bind, run_get_bind] at hrun
  cases hfault : env.fault cluster.tick
      (.get .secret ⟨cr.ns, remoteWriteOIDCSecretName⟩) with
  | none => rfl
  | some fault =>
    have henv : env.environment.fault cluster.tick
        (.get .secret ⟨cr.ns, remoteWriteOIDCSecretName⟩) = some fault :=
      hfault
    cases hfailure : fault.failure <;>
      simp [henv, withFault, hfailure, Failure.toError, Client.orFail] at hrun

theorem names_of_run_remoteWriteTargets (hreadable : Oauth2Readable env cr)
    {indexes : List RepositoryIndex} {targets : List RemoteWriteTarget}
    (hrun : env.run (remoteWriteTargets platform cr indexes)
      cluster = (.ok targets, after)) :
    targets.map RemoteWriteTarget.names =
      if cr.observatoriumDisabled then []
      else indexes.filterMap
        (targetNames platform (oauth2Secret cr cluster)) := by
  by_cases henabled : cr.observatoriumDisabled = true
  · rw [remoteWriteTargets, if_pos henabled] at hrun
    cases hrun
    rw [if_pos henabled, List.map_nil]
  · rw [if_neg henabled]
    obtain ⟨found, hfound, rfl⟩ :=
      run_remoteWriteTargets_eq_ok hreadable (by simpa using henabled) hrun
    exact map_filterMap_of_forall₂ (hfound.imp fun _ _ hfinds => hfinds.names)

end Targets

/-! ## Names without duplicates -/

section Distinct

variable {platform : Platform} {env : Surroundings}
  {cr : Observability} {cluster : Cluster} {indexes : List RepositoryIndex}
  {secret : Option (Resource SecretSpec)} {index : RepositoryIndex}
  {names : String × String}

theorem targetNames_eq_some_iff :
    targetNames platform secret index = some names ↔
      ∃ observatorium, metricsObservatorium index = some observatorium ∧
        (observatorium.authType = .dex ∧ names =
            (index.id, getObservatoriumTokenSecretName observatorium) ∨
          observatorium.authType = .redhat ∧ names = (index.id, "") ∧
            ∀ found, secret = some found →
              (platform.urlJoinPath (found.spec.data.get "issuer_url")
                "/protocol/openid-connect/token").isOk = true) := by
  unfold targetNames
  cases metricsObservatorium index with
  | none => simp
  | some observatorium =>
    cases htype : observatorium.authType with
    | dex =>
      simp only [htype, Option.some.injEq, exists_eq_left', true_and,
        reduceCtorEq, false_and, or_false]
      exact eq_comm
    | redhat =>
      cases secret with
      | none =>
        simp only [htype, Option.some.injEq, exists_eq_left',
          reduceCtorEq, false_and, true_and, false_or,
          false_imp_iff, implies_true, and_true]
        exact eq_comm
      | some secret =>
        simp only [htype, Option.some.injEq, exists_eq_left',
          reduceCtorEq, false_and, true_and, false_or, forall_eq',
          Option.ite_none_right_eq_some]
        rw [and_comm, eq_comm]
    | unknown text => simp [htype]

theorem writesRemotely_iff (henabled : cr.observatoriumDisabled = false) :
    WritesRemotely platform cr cluster index ↔
      ∃ names, targetNames platform (oauth2Secret cr cluster) index =
        some names := by
  simp only [targetNames_eq_some_iff, WritesRemotely, henabled, true_and]
  constructor
  · rintro ⟨observatorium, hmetrics, htype | ⟨htype, hjoin⟩⟩
    · exact ⟨_, observatorium, hmetrics, .inl ⟨htype, rfl⟩⟩
    · exact ⟨_, observatorium, hmetrics, .inr ⟨htype, rfl, hjoin⟩⟩
  · rintro ⟨_, observatorium, hmetrics, ⟨htype, -⟩ | ⟨htype, -, hjoin⟩⟩
    · exact ⟨observatorium, hmetrics, .inl htype⟩
    · exact ⟨observatorium, hmetrics, .inr ⟨htype, hjoin⟩⟩

theorem name_of_targetNames
    (hnames : targetNames platform secret index = some names) :
    names.1 = index.id := by
  obtain ⟨_, -, ⟨-, rfl⟩ | ⟨-, rfl, -⟩⟩ := targetNames_eq_some_iff.mp hnames
    <;> rfl

theorem nodup_targets_iff (henabled : cr.observatoriumDisabled = false) :
    ((indexes.filterMap (targetNames platform
        (oauth2Secret cr cluster))).map Prod.fst).Nodup ↔
      indexes.Pairwise fun first second =>
        WritesRemotely platform cr cluster first →
          WritesRemotely platform cr cluster second → first.id ≠ second.id := by
  rw [List.Nodup, List.pairwise_map, List.pairwise_filterMap]
  refine List.Pairwise.iff fun {first second} => ?_
  rw [writesRemotely_iff henabled, writesRemotely_iff henabled]
  constructor
  · rintro hapart ⟨names, hnames⟩ ⟨others, hothers⟩
    rw [← name_of_targetNames hnames, ← name_of_targetNames hothers]
    exact hapart names hnames others hothers
  · intro hapart names hnames others hothers
    rw [name_of_targetNames hnames, name_of_targetNames hothers]
    exact hapart ⟨names, hnames⟩ ⟨others, hothers⟩

def tokenSecretOf (platform : Platform)
    (secret : Option (Resource SecretSpec)) (index : RepositoryIndex) :
    Option String :=
  ((targetNames platform secret index).map Prod.snd).filter (· ≠ "")

theorem filter_tokens_eq (secret : Option (Resource SecretSpec)) :
    ((indexes.filterMap (targetNames platform secret)).map
        Prod.snd).filter (· ≠ "") =
      indexes.filterMap (tokenSecretOf platform secret) := by
  rw [List.map_filterMap, List.filter_filterMap]
  rfl

theorem tokenSecretOf_eq_some_iff (henabled : cr.observatoriumDisabled = false)
    {name : String} :
    tokenSecretOf platform secret index = some name ↔
      ∃ id, SendsToken cr index id ∧ name = "obs-token-" ++ id := by
  unfold tokenSecretOf
  simp only [Option.filter_eq_some_iff, Option.map_eq_some_iff,
    targetNames_eq_some_iff, SendsToken, henabled, true_and]
  constructor
  · rintro ⟨⟨names, ⟨observatorium, hmetrics, ⟨htype, rfl⟩ | ⟨-, rfl, -⟩⟩,
      rfl⟩, hname⟩
    · exact ⟨_, ⟨observatorium, hmetrics, htype, rfl⟩, rfl⟩
    · simp at hname
  · rintro ⟨_, ⟨observatorium, hmetrics, htype, rfl⟩, rfl⟩
    refine ⟨⟨_, ⟨observatorium, hmetrics, .inl ⟨htype, rfl⟩⟩, rfl⟩, ?_⟩
    simp

theorem nodup_tokens_iff (henabled : cr.observatoriumDisabled = false)
    (secret : Option (Resource SecretSpec)) :
    (indexes.filterMap (tokenSecretOf platform secret)).Nodup ↔
      indexes.Pairwise fun first second => ∀ id other,
        SendsToken cr first id → SendsToken cr second other → id ≠ other := by
  rw [List.Nodup, List.pairwise_filterMap]
  refine List.Pairwise.iff fun {first second} => ?_
  simp only [tokenSecretOf_eq_some_iff henabled]
  constructor
  · intro hapart id other hid hother hsame
    exact hapart _ ⟨id, hid, rfl⟩ _ ⟨other, hother, rfl⟩ (by rw [hsame])
  · rintro hapart _ ⟨id, hid, rfl⟩ _ ⟨other, hother, rfl⟩ hsame
    exact hapart id other hid hother ((String.append_right_inj _).mp hsame)

theorem nodup_secrets_iff (henabled : cr.observatoriumDisabled = false)
    (secret : Option (Resource SecretSpec)) :
    (["prometheus-proxy", "prometheus-k8s-tls"] ++
        indexes.filterMap (tokenSecretOf platform secret)).Nodup ↔
      (indexes.filterMap (tokenSecretOf platform secret)).Nodup := by
  have hdisjoint : List.Disjoint ["prometheus-proxy", "prometheus-k8s-tls"]
      (indexes.filterMap (tokenSecretOf platform secret)) := by
    intro name hfixed htoken
    obtain ⟨index, -, hindex⟩ := List.mem_filterMap.mp htoken
    obtain ⟨id, -, rfl⟩ := (tokenSecretOf_eq_some_iff henabled).mp hindex
    have hhead : ∀ fixed ∈ ["prometheus-proxy", "prometheus-k8s-tls"],
        fixed.toList.head? = some 'p' := by decide
    have hname := hhead _ hfixed
    simp [String.toList_append] at hname
  rw [List.nodup_append']
  exact ⟨fun hnodup => hnodup.2.1, fun hnodup => ⟨by decide, hnodup, hdisjoint⟩⟩

end Distinct

/-! ## Receivers -/

def receiverNames (env : Surroundings) (cluster : Cluster)
    (cr : Observability) (index : RepositoryIndex) : List String :=
  (integrationsOf env cluster cr index).map fun integration =>
    integration.receiver.name

section Receivers

variable {env : Surroundings} {cluster : Cluster}
  {cr : Observability} {index : RepositoryIndex}
  {indexes : List RepositoryIndex}

theorem for_of_valueIntegration {disabled : Bool} {value : Option String}
    {integration : String → Integration} {channel : Channel} {id : String}
    (hfor : ∀ found, (integration found).For channel id)
    {added : List Integration}
    (hadded : valueIntegration disabled value integration = some added) :
    added.length ≤ 1 ∧ ∀ item ∈ added, item.For channel id := by
  unfold valueIntegration at hadded
  split at hadded
  next =>
    cases hadded
    simp
  next =>
    obtain ⟨found, -, rfl⟩ := Option.map_eq_some_iff.mp hadded
    simpa using hfor found

theorem for_of_addSmtp {config : AlertmanagerIndex} :
    (addSmtp cr index.id config).length ≤ 1 ∧
      ∀ item ∈ addSmtp cr index.id config, item.For .smtp index.id := by
  unfold addSmtp
  split
  · simp
  · simpa using Integration.smtp_for index.id _

def channelGroups (pagerDuty deadMansSnitch smtp : List Integration) :
    Channel → List Integration
  | .pagerDuty => pagerDuty
  | .deadMansSnitch => deadMansSnitch
  | .smtp => smtp

theorem exists_groups (env : Surroundings) (cluster : Cluster)
    (cr : Observability) (index : RepositoryIndex) :
    ∃ groups : Channel → List Integration,
      integrationsOf env cluster cr index =
        groups .pagerDuty ++ groups .deadMansSnitch ++ groups .smtp ∧
      ∀ channel, (groups channel).length ≤ 1 ∧
        ∀ item ∈ groups channel, item.For channel index.id := by
  have hempty (channel : Channel) : ([] : List Integration).length ≤ 1 ∧
      ∀ item ∈ ([] : List Integration), item.For channel index.id := by simp
  unfold integrationsOf
  split
  next => exact ⟨fun _ => [], rfl, hempty⟩
  next config hsection =>
    split
    next => exact ⟨fun _ => [], rfl, hempty⟩
    next paged hpaged =>
      have hpagerDuty := for_of_valueIntegration
        (fun found => Integration.pagerDuty_for index.id found) hpaged
      split
      next =>
        refine ⟨channelGroups paged [] [], by simp [channelGroups], ?_⟩
        rintro (_ | _ | _)
        · exact hpagerDuty
        · exact hempty _
        · exact hempty _
      next snitched hsnitched =>
        refine ⟨channelGroups paged snitched (addSmtp cr index.id config),
          rfl, ?_⟩
        rintro (_ | _ | _)
        · exact hpagerDuty
        · exact for_of_valueIntegration
            (fun found => Integration.deadMansSnitch_for index.id found)
            hsnitched
        · exact for_of_addSmtp

theorem mem_receiverNames_iff {name : String} :
    name ∈ receiverNames env cluster cr index ↔
      ∃ channel : Channel, (∃ integration ∈
          integrationsOf env cluster cr index,
            integration.For channel index.id) ∧
        name = channel.receiverName index.id := by
  unfold receiverNames
  constructor
  · intro hname
    obtain ⟨integration, hmem, rfl⟩ := List.mem_map.mp hname
    obtain ⟨groups, hgroups, hfor⟩ := exists_groups env cluster cr index
    obtain ⟨channel, hgroup⟩ : ∃ channel, integration ∈ groups channel := by
      rw [hgroups] at hmem
      simp only [List.mem_append] at hmem
      rcases hmem with (hmem | hmem) | hmem <;> exact ⟨_, hmem⟩
    have hitem := (hfor channel).2 integration hgroup
    exact ⟨channel, ⟨integration, hmem, hitem⟩, hitem.receiver⟩
  · rintro ⟨channel, ⟨integration, hmem, hfor⟩, rfl⟩
    exact List.mem_map.mpr ⟨integration, hmem, hfor.receiver⟩

theorem nodup_receiverNames : (receiverNames env cluster cr index).Nodup := by
  obtain ⟨groups, hgroups, hfor⟩ := exists_groups env cluster cr index
  have hsub (channel : Channel) :
      ((groups channel).map fun item => item.receiver.name).Sublist
        [channel.receiverName index.id] := by
    obtain ⟨hlength, hitems⟩ := hfor channel
    match hgroup : groups channel with
    | [] => simp
    | [item] =>
      rw [hgroup] at hitems
      simp [(hitems item (List.mem_singleton.mpr rfl)).receiver]
    | _ :: _ :: _ => simp [hgroup] at hlength
  have hnames : (receiverNames env cluster cr index).Sublist
      ([Channel.pagerDuty, .deadMansSnitch, .smtp].map fun channel =>
        channel.receiverName index.id) := by
    rw [receiverNames, hgroups, List.map_append, List.map_append]
    exact ((hsub .pagerDuty).append (hsub .deadMansSnitch)).append (hsub .smtp)
  refine hnames.nodup (List.Nodup.map ?_ (by decide))
  exact fun _ _ hsame => (Channel.receiverName_inj hsame).1

/-- The receivers have different names exactly if no two indexes with one id
add to the same channel. -/
theorem nodup_receivers_iff :
    ("default-receiver" :: indexes.flatMap
        (receiverNames env cluster cr)).Nodup ↔
      indexes.Pairwise fun first second => ∀ channel : Channel,
        (∃ integration ∈ integrationsOf env cluster cr first,
          integration.For channel first.id) →
        (∃ integration ∈ integrationsOf env cluster cr second,
          integration.For channel second.id) → first.id ≠ second.id := by
  have hdefault : "default-receiver" ∉ indexes.flatMap
      (receiverNames env cluster cr) := by
    intro hmem
    obtain ⟨index, -, hname⟩ := List.mem_flatMap.mp hmem
    obtain ⟨channel, -, hsame⟩ := mem_receiverNames_iff.mp hname
    exact channel.receiverName_ne_default index.id hsame.symm
  rw [List.nodup_cons, and_iff_right hdefault, List.nodup_flatMap,
    and_iff_right fun _ _ => nodup_receiverNames]
  refine List.Pairwise.iff fun {first second} => ?_
  constructor
  · intro hdisjoint channel hfirst hsecond hid
    refine hdisjoint (mem_receiverNames_iff.mpr ⟨channel, hfirst, rfl⟩) ?_
    exact mem_receiverNames_iff.mpr ⟨channel, hsecond, by rw [hid]⟩
  · intro hapart name hfirst hsecond
    obtain ⟨channel, hadds, rfl⟩ := mem_receiverNames_iff.mp hfirst
    obtain ⟨other, hothers, hsame⟩ := mem_receiverNames_iff.mp hsecond
    obtain ⟨rfl, hid⟩ := Channel.receiverName_inj hsame
    exact hapart channel hadds hothers hid

theorem alerts_iff (hsync : cr.externalSyncDisabled = false)
    (hsecret : cr.hasAlertmanagerConfigSecret = none) {channel : Channel} :
    Alerts env cr cluster index channel ↔
      ∃ integration ∈ integrationsOf env cluster cr index,
        integration.For channel index.id := by
  unfold Alerts
  simp only [hsync, hsecret, true_and]
  cases hsection : index.config.bind RepositoryConfig.alertmanager with
  | none => simp [integrationsOf, hsection]
  | some config =>
    rw [exists_mem_integrationsOf_iff hsection]
    simp

end Receivers

/-! ## A completed sync -/

/-- No name occurs twice in the Prometheus and in the configuration of the
Alertmanager that a sync has written. -/
structure DistinctNames (platform : Platform) (env : Surroundings)
    (cr : Observability) (completed : List RepositoryIndex)
    (before after : Cluster) : Prop where
  prometheus : ∀ prometheus,
    after.find .prometheus (getPrometheus cr) = some prometheus →
      (prometheus.spec.remoteWrite.map RemoteWriteSpec.name).Nodup ∧
        prometheus.spec.secrets.Nodup
  alertmanager : cr.externalSyncDisabled = false →
    cr.hasAlertmanagerConfigSecret = none → ∀ config,
      StoresConfig platform cr completed env before after config →
        (config.receivers.map AlertmanagerConfigReceiver.name).Nodup

section Sync

variable {platform : Platform} {env : Surroundings}
  {cr : Observability} {indexes : List RepositoryIndex}
  {cluster after : Cluster}
  (sync : CompletedSync platform env cr indexes cluster after)

include sync in
theorem CompletedSync.oauth2Readable (hsteady : env.SteadySecrets) :
    Oauth2Readable env cr := by
  obtain ⟨_, deployments, hprune, -⟩ := run_bind_eq_ok sync.writesRefreshers
  have hprune : env.run (deleteUnrequested platform .deployment id
      cr sync.completed) sync.credentials = (.ok (), deployments) :=
    run_wrapping_eq_ok.mp hprune
  rw [deleteUnrequested_eq] at hprune
  obtain ⟨_, listed, -, hprune⟩ := run_bind_eq_ok hprune
  obtain ⟨_, read, hread, -⟩ := run_bind_eq_ok hprune
  exact oauth2Readable_of_run hsteady hread

omit sync in
theorem find_secret_of_run_syncInstances {completed : List RepositoryIndex}
    (hrun : env.run (syncInstances platform cr completed) cluster =
      (.ok (), after)) :
    after.find .secret (getAlertmanagerSecret cr) =
      cluster.find .secret (getAlertmanagerSecret cr) := by
  let permitted (kind : Kind) (key : ObjectKey) : Prop :=
    kind ∈ instanceKinds ∨
      kind = .secret ∧ key = getPrometheusAdditionalScrapeConfig cr
  have hallowed : AllowsKinds instanceKinds (ApiCall.WritesOnly permitted) :=
    allowsKinds_of_permitted fun _ hkind _ => .inl hkind
  have huses : (syncInstances platform cr completed).Uses
      (ApiCall.WritesOnly permitted) :=
    hallowed.syncInstances
      (fun _ => (ApiCall.writesOnly_create _ _ _).mpr (.inr ⟨rfl, rfl⟩))
      (fun _ => (ApiCall.writesOnly_update _ _ _).mpr (.inr ⟨rfl, rfl⟩)) _
  refine Surroundings.find_of_writesOnly hrun huses ?_
  rintro (hkind | ⟨-, hkey⟩)
  · exact absurd hkind (by decide)
  · have hname := congrArg (fun key : ObjectKey => key.name.toList.take 2) hkey
    simp [getAlertmanagerSecret, getPrometheusAdditionalScrapeConfig,
      String.toList_append] at hname

theorem CompletedSync.runs_alerting
    (hrun : env.run (configure platform cr indexes) cluster = (.ok (), after)) :
    ∃ alerting,
      env.run (syncAlertmanagerSecret platform cr sync.completed)
        sync.refreshers = (.ok (), alerting) ∧
      after.find .secret (getAlertmanagerSecret cr) =
        alerting.find .secret (getAlertmanagerSecret cr) := by
  obtain ⟨_, cleared, hclear, hrun⟩ := run_bind_eq_ok hrun
  obtain rfl : sync.cleared = cleared :=
    congrArg Prod.snd (sync.clears.symm.trans hclear)
  obtain ⟨completed, credentials, hcomplete, hrun⟩ := run_bind_eq_ok hrun
  have hsame := sync.completes.symm.trans hcomplete
  obtain rfl : sync.completed = completed :=
    Except.ok.inj (congrArg Prod.fst hsame)
  obtain rfl : sync.credentials = credentials := congrArg Prod.snd hsame
  rw [applyIndexes_eq] at hrun
  obtain ⟨_, refreshers, hrefreshers, hrun⟩ := run_bind_eq_ok hrun
  obtain rfl : sync.refreshers = refreshers :=
    congrArg Prod.snd (sync.writesRefreshers.symm.trans hrefreshers)
  obtain ⟨_, alerting, halert, hrun⟩ := run_bind_eq_ok hrun
  obtain ⟨_, instances, hinstances, hrun⟩ := run_bind_eq_ok hrun
  obtain ⟨_, resources, hresources, hrun⟩ := run_bind_eq_ok hrun
  obtain ⟨_, promtail, hpromtail, hassign⟩ := run_bind_eq_ok hrun
  refine ⟨alerting, halert, ?_⟩
  rw [find_of_run_assignSyncTime hassign,
    (writesKinds_syncPromtail _).find_eq hpromtail (by decide),
    (writesKinds_syncResources _).find_eq hresources (by decide),
    find_secret_of_run_syncInstances hinstances]

theorem CompletedSync.find_secret_credentials (key : ObjectKey) :
    sync.refreshers.find .secret key = sync.credentials.find .secret key :=
  (writesKinds_syncTokenRefreshers _).find_eq sync.writesRefreshers
    (by decide) key

theorem CompletedSync.nodup_prometheus_iff (hreadable : Oauth2Readable env cr) :
    (∀ prometheus,
      after.find .prometheus (getPrometheus cr) = some prometheus →
        (prometheus.spec.remoteWrite.map RemoteWriteSpec.name).Nodup ∧
          prometheus.spec.secrets.Nodup) ↔
      sync.completed.Pairwise (fun first second =>
        WritesRemotely platform cr sync.credentials first →
          WritesRemotely platform cr sync.credentials second →
            first.id ≠ second.id) ∧
      sync.completed.Pairwise (fun first second => ∀ id other,
        SendsToken cr first id → SendsToken cr second other → id ≠ other) := by
  obtain ⟨host, targets, storage, prometheus, before, read, hread, hbefore,
    hfind, hspec, -⟩ := run_reconcilePrometheus_eq_ok sync.writesPrometheus
  have hsecret : oauth2Secret cr before = oauth2Secret cr sync.credentials :=
    hbefore.trans ((oauth2Secret_of_restFramed sync.framedBefore).trans
      (sync.find_secret_credentials _))
  have hnames := names_of_run_remoteWriteTargets hreadable hread
  rw [hsecret] at hnames
  rw [← sync.find_prometheus] at hfind
  have hremote : prometheus.spec.remoteWrite.map RemoteWriteSpec.name =
      (targets.map RemoteWriteTarget.names).map Prod.fst := by
    rw [hspec]
    simp [prometheusSpec, RemoteWriteTarget.names]
  have hsecrets : prometheus.spec.secrets =
      ["prometheus-proxy", "prometheus-k8s-tls"] ++
        ((targets.map RemoteWriteTarget.names).map Prod.snd).filter
          (· ≠ "") := by
    rw [hspec]
    simp [prometheusSpec, prometheusSecrets, RemoteWriteTarget.names,
      getPrometheusProxySecret, Function.comp_def]
  have hall : (∀ prometheus,
      after.find .prometheus (getPrometheus cr) = some prometheus →
        (prometheus.spec.remoteWrite.map RemoteWriteSpec.name).Nodup ∧
          prometheus.spec.secrets.Nodup) ↔
      (prometheus.spec.remoteWrite.map RemoteWriteSpec.name).Nodup ∧
        prometheus.spec.secrets.Nodup := by
    simp [hfind]
  rw [hall, hremote, hsecrets, hnames]
  cases hdisabled : cr.observatoriumDisabled with
  | true =>
    have henabled : cr.observatoriumDisabled ≠ false := by
      simp [hdisabled]
    rw [if_pos rfl]
    refine iff_of_true (by decide) ⟨?_, ?_⟩
    · exact List.pairwise_of_forall fun _ _ hwrites =>
        absurd hwrites.1 henabled
    · exact List.pairwise_of_forall fun _ _ _ _ hsends =>
        absurd hsends.1 henabled
  | false =>
    rw [if_neg (by decide), nodup_targets_iff hdisabled, filter_tokens_eq,
      nodup_secrets_iff hdisabled, nodup_tokens_iff hdisabled]

theorem CompletedSync.nodup_alertmanager_iff (hsteady : env.SteadySecrets)
    (hrun : env.run (configure platform cr indexes) cluster = (.ok (), after)) :
    (cr.externalSyncDisabled = false →
      cr.hasAlertmanagerConfigSecret = none → ∀ config,
        StoresConfig platform cr sync.completed env sync.refreshers
          after config →
          (config.receivers.map AlertmanagerConfigReceiver.name).Nodup) ↔
      sync.completed.Pairwise fun first second => ∀ channel,
        Alerts env cr sync.credentials first channel →
          Alerts env cr sync.credentials second channel →
            first.id ≠ second.id := by
  by_cases hwrites : cr.externalSyncDisabled = false ∧
      cr.hasAlertmanagerConfigSecret = none
  · obtain ⟨hsync, hsecret⟩ := hwrites
    obtain ⟨alerting, halert, hkept⟩ := sync.runs_alerting hrun
    have hreconcile : env.run
        (reconcileAlertmanagerSecret platform cr sync.completed)
          sync.refreshers = (.ok (), alerting) := by
      simp only [syncAlertmanagerSecret, hsync, hsecret, Option.isSome_none,
        Bool.or_self, Bool.false_eq_true, if_false] at halert
      exact run_wrapping_eq_ok.mp halert
    obtain ⟨config, ⟨between, hgenerated⟩, htext⟩ :=
      exists_storesConfig hreconcile
    rw [← hkept] at htext
    have hnames : config.receivers.map AlertmanagerConfigReceiver.name =
        "default-receiver" :: sync.completed.flatMap
          (receiverNames env sync.credentials cr) := by
      obtain ⟨global, rfl⟩ :=
        run_createAlertmanagerConfig_steady hsteady hgenerated
      have hsame : integrationsOf env sync.refreshers cr =
          integrationsOf env sync.credentials cr :=
        integrationsOf_congr sync.find_secret_credentials cr
      rw [hsame]
      simp only [alertmanagerConfigRoot, List.map_cons, List.map_map,
        List.map_flatMap]
      rfl
    have hconfig : (cr.externalSyncDisabled = false →
        cr.hasAlertmanagerConfigSecret = none → ∀ other,
          StoresConfig platform cr sync.completed env
            sync.refreshers after other →
            (other.receivers.map AlertmanagerConfigReceiver.name).Nodup) ↔
        (config.receivers.map AlertmanagerConfigReceiver.name).Nodup := by
      constructor
      · intro hall
        exact hall hsync hsecret config ⟨⟨between, hgenerated⟩, htext⟩
      · rintro hnodup - - other ⟨⟨_, hother⟩, -⟩
        cases hgenerated.symm.trans hother
        exact hnodup
    rw [hconfig, hnames, nodup_receivers_iff]
    simp only [alerts_iff hsync hsecret]
  · refine iff_of_true (fun hsync hsecret => absurd ⟨hsync, hsecret⟩ hwrites)
      (List.pairwise_of_forall fun _ _ channel halerts => ?_)
    exact absurd ⟨halerts.1, halerts.2.1⟩ hwrites

/-- A sync leaves no name twice exactly if no two of the indexes, with their
credentials as they were completed, add the same name. -/
theorem distinctNames_iff (hsteady : env.SteadySecrets)
    (hrun : env.run (configure platform cr indexes) cluster = (.ok (), after)) :
    DistinctNames platform env cr sync.completed sync.refreshers after ↔
      sync.completed.Pairwise (Apart platform env cr sync.credentials) := by
  have hprometheus :=
    sync.nodup_prometheus_iff (sync.oauth2Readable hsteady)
  have halertmanager := sync.nodup_alertmanager_iff hsteady hrun
  constructor
  · rintro ⟨hnames, hreceivers⟩
    obtain ⟨htargets, htokens⟩ := hprometheus.mp hnames
    exact ((htargets.and htokens).and (halertmanager.mp hreceivers)).imp
      fun hapart => ⟨hapart.1.1, hapart.1.2, hapart.2⟩
  · intro hapart
    exact ⟨hprometheus.mpr ⟨hapart.imp fun hpair => hpair.targets,
      hapart.imp fun hpair => hpair.tokens⟩,
      halertmanager.mpr (hapart.imp fun hpair => hpair.receivers)⟩

end Sync

def pairIndexes (first second : String) : List RepositoryIndex :=
  [syncedIndex first "shared" [plainObservatorium "shared" ""],
    syncedIndex second "shared" [plainObservatorium "shared" ""]]

def pairSync (first second : String) :
    Except (Abort ApiError) Unit × Cluster :=
  answeringSurroundings.run
    (configure syncPlatform plainCr (pairIndexes first second)) Cluster.empty

theorem pairSync_distinct :
    ∃ sync : CompletedSync syncPlatform answeringSurroundings plainCr
        (pairIndexes "kafka" "connect") Cluster.empty
        (pairSync "kafka" "connect").2,
      DistinctNames syncPlatform answeringSurroundings plainCr
        sync.completed sync.refreshers (pairSync "kafka" "connect").2 := by
  have hrun : answeringSurroundings.run (configure syncPlatform plainCr
      (pairIndexes "kafka" "connect")) Cluster.empty =
        (.ok (), (pairSync "kafka" "connect").2) := Prod.ext rfl rfl
  obtain ⟨sync⟩ := exists_completedSync hrun
  have hcompleted : sync.completed = pairIndexes "kafka" "connect" :=
    sync.completed_eq rfl
  refine ⟨sync, (distinctNames_iff sync (fun _ _ _ => rfl) hrun).mpr ?_⟩
  rw [hcompleted]
  refine List.pairwise_pair.mpr
    { targets := fun _ _ => by decide
      tokens := ?_
      receivers := fun _ _ _ => by decide }
  rintro id other ⟨-, observatorium, hmetrics, htype, -⟩
  cases hmetrics
  cases htype

/-- Both indexes get a remote write target with the same name. -/
theorem pairSync_duplicates :
    ∃ prometheus, (pairSync "kafka" "kafka").1 = .ok () ∧
      (pairSync "kafka" "kafka").2.find .prometheus (getPrometheus plainCr) =
        some prometheus ∧
      prometheus.spec.remoteWrite.map RemoteWriteSpec.name =
        ["kafka", "kafka"] :=
  ⟨_, rfl, rfl, rfl⟩

end ObservabilityOperator
