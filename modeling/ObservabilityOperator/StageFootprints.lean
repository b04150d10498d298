import ObservabilityOperator.ConfigurationStage
import ObservabilityOperator.TokenRefresherRuns

/-!
# What the parts of a pass can write

Every part of the configuration stage writes objects of a few kinds only.
These footprints are properties of the programs, whatever the server replies,
and say that a part leaves all other objects alone on success and on failure.
-/

namespace ObservabilityOperator

variable {permitted : Kind → ObjectKey → Prop}

/-! ## What is allowed -/

structure AllowsLooking (allowed : ApiCall Kind.Spec Action → Prop) :
    Prop where
  get : ∀ kind key, allowed (.get kind key)
  list : ∀ kind options, allowed (.list kind options)
  now : allowed (.perform .now)

/-- Reading is allowed, and so is the label that the custom resource in memory
is given. -/
structure AllowsReads (allowed : ApiCall Kind.Spec Action → Prop) : Prop
    extends AllowsLooking allowed where
  http : ∀ request, allowed (.perform (.http request))
  setLabels : allowed (.perform (.setLabels [("app", "prometheus")]))

structure AllowsKinds (kinds : List Kind)
    (allowed : ApiCall Kind.Spec Action → Prop) : Prop
    extends AllowsReads allowed where
  create : ∀ kind ∈ kinds, ∀ key object, allowed (.create kind key object)
  update : ∀ kind ∈ kinds, ∀ key object, allowed (.update kind key object)
  delete : ∀ kind ∈ kinds, ∀ key, allowed (.delete kind key)

theorem allowsReads_writesOnly (permitted : Kind → ObjectKey → Prop) :
    AllowsReads (ApiCall.WritesOnly permitted) where
  get := ApiCall.writesOnly_get
  list := ApiCall.writesOnly_list
  now := ApiCall.writesOnly_perform _
  http _ := ApiCall.writesOnly_perform _
  setLabels := ApiCall.writesOnly_perform _

variable {kinds : List Kind} {allowed : ApiCall Kind.Spec Action → Prop}
  {kind : Kind} {α : Type} {program : Go α}

theorem allowsKinds_of_permitted
    (hkinds : ∀ kind ∈ kinds, ∀ key, permitted kind key) :
    AllowsKinds kinds (ApiCall.WritesOnly permitted) where
  toAllowsReads := allowsReads_writesOnly _
  create kind hkind _ _ :=
    (ApiCall.writesOnly_create _ _ _).mpr (hkinds kind hkind _)
  update kind hkind _ _ :=
    (ApiCall.writesOnly_update _ _ _).mpr (hkinds kind hkind _)
  delete kind hkind _ :=
    (ApiCall.writesOnly_delete _ _).mpr (hkinds kind hkind _)

theorem allowsKinds_writesOnly (kinds : List Kind) :
    AllowsKinds kinds (ApiCall.WritesOnly fun kind _ => kind ∈ kinds) :=
  allowsKinds_of_permitted fun _ hkind _ => hkind

theorem AllowsKinds.mono {larger : List Kind}
    (hallowed : AllowsKinds larger allowed) (hkinds : kinds ⊆ larger) :
    AllowsKinds kinds allowed where
  toAllowsReads := hallowed.toAllowsReads
  create kind hkind := hallowed.create kind (hkinds hkind)
  update kind hkind := hallowed.update kind (hkinds hkind)
  delete kind hkind := hallowed.delete kind (hkinds hkind)

theorem AllowsReads.toAllowsKinds (hallowed : AllowsReads allowed) :
    AllowsKinds [] allowed where
  toAllowsReads := hallowed
  create _ hkind := absurd hkind List.not_mem_nil
  update _ hkind := absurd hkind List.not_mem_nil
  delete _ hkind := absurd hkind List.not_mem_nil

def WritesKinds {α : Type} (kinds : List Kind) (program : Go α) : Prop :=
  ∀ allowed, AllowsKinds kinds allowed → program.Uses allowed

section

variable {α β γ : Type} {kinds : List Kind} {kind : Kind} {program : Go α}
  {key : ObjectKey} {env : Surroundings} {cluster : Cluster}
  {event : Event (ApiCall.Reply Kind.Spec Action.Reply) Cluster}
  {result : Except (Abort ApiError) α}

theorem WritesKinds.uses (hprogram : WritesKinds kinds program) :
    program.Uses (ApiCall.WritesOnly fun kind _ => kind ∈ kinds) :=
  hprogram _ (allowsKinds_writesOnly kinds)

variable {next : α → Go β} {items : List γ} {blank : Resource kind.Spec}
  {after : Cluster}

@[grind ←] theorem WritesKinds.bind (hprogram : WritesKinds kinds program)
    (hnext : ∀ value, WritesKinds kinds (next value)) :
    WritesKinds kinds (program.bind next) := fun _ hallowed =>
  Program.Uses.bind (hprogram _ hallowed) fun value => hnext value _ hallowed

@[grind ←] theorem WritesKinds.andThen (hprogram : WritesKinds kinds program)
    (hnext : ∀ value, WritesKinds kinds (next value)) :
    WritesKinds kinds (program >>= next) :=
  hprogram.bind hnext

@[grind ←] theorem WritesKinds.seq {program : Go Unit} {next : Unit → Go β}
    (hprogram : WritesKinds kinds program)
    (hnext : WritesKinds kinds (next ())) :
    WritesKinds kinds (program >>= next) :=
  hprogram.bind fun _ => hnext

@[grind .] theorem writesKinds_pure (value : α) :
    WritesKinds kinds (pure value : Go α) := fun _ _ => trivial

@[grind ←] theorem WritesKinds.wrapping {message : String}
    (hprogram : WritesKinds kinds program) :
    WritesKinds kinds (program.wrapping message) := fun _ hallowed =>
  Program.Uses.wrapping (hprogram _ hallowed)

@[grind ←] theorem WritesKinds.attempt (hprogram : WritesKinds kinds program) :
    WritesKinds kinds program.attempt := fun _ hallowed =>
  Program.Uses.attempt (hprogram _ hallowed)

@[grind ←] theorem WritesKinds.forEach {body : γ → Go Unit}
    (hbody : ∀ item, WritesKinds kinds (body item)) :
    WritesKinds kinds (Program.forEach items body) := fun _ hallowed =>
  Program.Uses.forEach fun item _ => hbody item _ hallowed

@[grind ←] theorem WritesKinds.collect {body : γ → Go β}
    (hbody : ∀ item, WritesKinds kinds (body item)) :
    WritesKinds kinds (Program.collect items body) := fun _ hallowed =>
  Program.Uses.collect fun item _ => hbody item _ hallowed

@[simp, grind .] theorem writesKinds_done (value : α) :
    WritesKinds kinds (.done value : Go α) := fun _ _ => trivial

@[simp, grind .] theorem writesKinds_fail (abort : Abort ApiError) :
    WritesKinds kinds (.fail abort : Go α) := fun _ _ => trivial

@[simp, grind .] theorem writesKinds_deref (pointer : Option α) :
    WritesKinds kinds (Program.deref pointer : Go α) := fun _ _ =>
  Program.uses_deref _ _

@[simp, grind .] theorem writesKinds_derefSpec (pointer : Option α) :
    WritesKinds kinds (Program.derefSpec pointer : Go α) := fun _ _ =>
  Program.uses_derefSpec _ _

@[simp, grind .] theorem writesKinds_ofExcept (result : Except String α) :
    WritesKinds kinds (Program.ofExcept result : Go α) := fun _ _ =>
  Program.uses_ofExcept _ _

@[simp, grind .] theorem writesKinds_orFail (result : Except ApiError α) :
    WritesKinds kinds (Client.orFail result : Go α) := fun _ _ =>
  Client.uses_orFail _ _

@[simp, grind .] theorem writesKinds_get (kind : Kind) (key : ObjectKey) :
    WritesKinds kinds (Client.get kind key : Go _) := fun _ hallowed =>
  (Client.uses_get _ _ _).mpr (hallowed.get kind key)

@[simp, grind .] theorem writesKinds_list (kind : Kind) (options : ListOptions) :
    WritesKinds kinds (Client.list kind options : Go _) := fun _ hallowed =>
  (Client.uses_list _ _ _).mpr (hallowed.list kind options)

@[simp, grind .] theorem writesKinds_fetchHttp (request : HttpRequest) :
    WritesKinds kinds (fetchHttp request) := fun _ hallowed =>
  (Client.uses_perform _ _).mpr (hallowed.http request)

@[simp, grind .] theorem writesKinds_timeNow : WritesKinds kinds timeNow :=
  fun _ hallowed => (Client.uses_perform _ _).mpr hallowed.now

@[simp, grind .] theorem writesKinds_assignLabels :
    WritesKinds kinds (assignLabels [("app", "prometheus")]) :=
  fun _ hallowed => (Client.uses_perform _ _).mpr hallowed.setLabels

@[grind ←] theorem writesKinds_deleteIfFound (hkind : kind ∈ kinds) (key : ObjectKey) :
    WritesKinds kinds (Client.deleteIfFound kind key : Go Unit) :=
  fun _ hallowed =>
    Client.uses_deleteIfFound _ _ _ (hallowed.delete kind hkind key)

@[grind ←] theorem writesKinds_createOrUpdate (hkind : kind ∈ kinds)
    {mutate : Resource kind.Spec → Go (Resource kind.Spec)}
    (hmutate : ∀ object, WritesKinds kinds (mutate object)) :
    WritesKinds kinds (createOrUpdate kind key blank mutate) :=
  fun _ hallowed => createOrUpdate_uses (hallowed.get kind key)
    (hallowed.create kind hkind key) (hallowed.update kind hkind key)
    fun object => hmutate object _ hallowed

@[grind ←] theorem writesKinds_upsert (hkind : kind ∈ kinds)
    {change : Resource kind.Spec → Resource kind.Spec} :
    WritesKinds kinds (upsert kind key blank change : Go _) :=
  writesKinds_createOrUpdate hkind fun _ => writesKinds_done _

theorem WritesKinds.writesOnly (hprogram : WritesKinds [] program) :
    program.Uses (ApiCall.WritesOnly permitted) :=
  Program.Uses.mono hprogram.uses fun _ hcall =>
    hcall.mono fun _ _ hkind => absurd hkind List.not_mem_nil

variable (hprogram : WritesKinds kinds program)
include hprogram

theorem WritesKinds.mono {larger : List Kind} (hkinds : kinds ⊆ larger) :
    WritesKinds larger program :=
  fun _ hallowed => hprogram _ (hallowed.mono hkinds)

theorem WritesKinds.find_eq
    (hrun : env.run program cluster = (result, after)) (hkind : kind ∉ kinds)
    (key : ObjectKey) : after.find kind key = cluster.find kind key :=
  Surroundings.find_of_writesOnly hrun hprogram.uses hkind

theorem WritesKinds.objects_eq
    (hrun : env.run program cluster = (result, after)) (hkind : kind ∉ kinds) :
    after.objects kind = cluster.objects kind := by
  have hkept : (program.run (serve env.environment)
      cluster).2.objects kind = cluster.objects kind :=
    Program.Uses.run_preserves hprogram.uses
      (fun before later : Cluster =>
        later.objects kind = before.objects kind)
      (fun _ => rfl) (fun hfirst hsecond => hsecond.trans hfirst)
      (fun call hcall state => serve_objects_of_not_writes _
        (fun key hwrites => hkind (hcall kind key hwrites)) state) cluster
  rwa [show (program.run (serve env.environment) cluster).2 = after
    from congrArg Prod.snd hrun] at hkept

theorem WritesKinds.find_of_mem_events
    (hevent : event ∈ env.events program cluster)
    (hkind : kind ∉ kinds) (key : ObjectKey) :
    event.after.find kind key = cluster.find kind key :=
  Surroundings.find_of_mem_events hevent hprogram.uses hkind

theorem WritesKinds.maintains_find {found : Option (Resource kind.Spec)}
    (hkind : kind ∉ kinds) :
    program.Maintains (serve env.environment)
      fun state => state.find kind key = found :=
  Program.Uses.maintains hprogram.uses fun _ hcall _ hstate =>
    (serve_find _ (fun hwrites => hkind (hcall kind key hwrites)) _).trans
      hstate

theorem WritesKinds.mem_events_bind
    (hevent : event ∈ env.events (program.bind next) cluster) :
    (∀ kind ∉ kinds, ∀ key,
      event.after.find kind key = cluster.find kind key) ∨
    ∃ value after, env.run program cluster = (.ok value, after) ∧
      (∀ kind ∉ kinds, after.objects kind = cluster.objects kind) ∧
      event ∈ env.events (next value) after := by
  rcases Program.mem_events_bind hevent with hfirst | hrest
  · exact .inl fun kind hkind key =>
      hprogram.find_of_mem_events hfirst hkind key
  · obtain ⟨value, after, hrun, hevent⟩ := hrest
    exact .inr ⟨value, after, hrun,
      fun kind hkind => hprogram.objects_eq hrun hkind, hevent⟩

end

def DeletesNo (kind : Kind) (call : ApiCall Kind.Spec Action) : Prop :=
  ∀ key, call ≠ .delete kind key

theorem allowsKinds_deletesNo (hkind : kind ∉ kinds) :
    AllowsKinds kinds (DeletesNo kind) where
  get _ _ _ := nofun
  list _ _ _ := nofun
  now _ := nofun
  http _ _ := nofun
  setLabels _ := nofun
  create _ _ _ _ _ := nofun
  update _ _ _ _ _ := nofun
  delete other hother name key hcall := by
    cases hcall
    exact hkind hother

theorem WritesKinds.deletesNo (hprogram : WritesKinds kinds program)
    (hkind : kind ∉ kinds) : program.Uses (DeletesNo kind) :=
  hprogram _ (allowsKinds_deletesNo hkind)

/-! ## Reading -/

namespace AllowsLooking

variable {allowed : ApiCall Kind.Spec Action → Prop}
  (hallowed : AllowsLooking allowed)
include hallowed

theorem uses_get (kind : Kind) (key : ObjectKey) :
    (Client.get kind key : Go _).Uses allowed :=
  (Client.uses_get _ _ _).mpr (hallowed.get kind key)

theorem uses_list (kind : Kind) (options : ListOptions) :
    (Client.list kind options : Go _).Uses allowed :=
  (Client.uses_list _ _ _).mpr (hallowed.list kind options)

theorem timeNow : timeNow.Uses allowed :=
  (Client.uses_perform _ _).mpr hallowed.now

theorem authTokenExpires (expires : Int) :
    (authTokenExpires expires).Uses allowed := by
  unfold ObservabilityOperator.authTokenExpires
  split
  · exact .bind hallowed.timeNow fun _ => trivial
  · trivial

theorem anyTokenExpires (secrets : List (ObjectKey × Resource SecretSpec)) :
    (anyTokenExpires secrets).Uses allowed := by
  induction secrets with
  | nil => trivial
  | cons item rest ih =>
    unfold ObservabilityOperator.anyTokenExpires
    split
    · trivial
    · refine .bind (.wrapping (Program.uses_ofExcept _ _)) fun expires =>
        .bind (hallowed.authTokenExpires _) fun expired => ?_
      split
      · trivial
      · exact ih

theorem isMissing (kind : Kind) (key : ObjectKey) :
    (isMissing kind key).Uses allowed := by
  refine .bind (hallowed.uses_get _ _) fun reply => ?_
  split
  · trivial
  · exact Client.uses_orFail _ _
  · trivial

theorem checkForMissingCR (cr : Observability) :
    (checkForMissingCR cr).Uses allowed := by
  refine .bind (hallowed.isMissing _ _) fun _ =>
    .bind (hallowed.isMissing _ _) fun _ => .bind ?_ fun _ => trivial
  split
  · trivial
  · exact hallowed.isMissing _ _

theorem checkSync (platform : Platform) (cr : Observability)
    (migrated : Bool) : (checkSync platform cr migrated).Uses allowed := by
  refine .bind (.wrapping (.bind (hallowed.uses_list _ _) fun _ =>
    .bind (.wrapping (Client.uses_orFail _ _)) hallowed.anyTokenExpires))
      fun expired => .bind ?_ fun missing => ?_
  · split
    · exact .wrapping (hallowed.checkForMissingCR cr)
    · trivial
  · unfold syncIsDue
    split
    · trivial
    · exact .bind (.wrapping (Program.uses_ofExcept _ _)) fun _ =>
        .bind hallowed.timeNow fun _ => trivial

theorem listConfigSecrets (cr : Observability) :
    (listConfigSecrets cr).Uses allowed := by
  refine .bind (Program.uses_derefSpec _ _) fun selector => ?_
  split
  · trivial
  · exact .bind (hallowed.uses_list _ _) fun _ => Client.uses_orFail _ _

theorem waitForResourcesDeployment (cr : Observability) :
    (waitForResourcesDeployment cr).Uses allowed :=
  .bind (hallowed.uses_list _ _) fun _ =>
  .bind (Client.uses_orFail _ _) fun _ => trivial

end AllowsLooking

namespace AllowsReads

variable {allowed : ApiCall Kind.Spec Action → Prop}
  (hallowed : AllowsReads allowed)
include hallowed

theorem fetchHttp (request : HttpRequest) : (fetchHttp request).Uses allowed :=
  (Client.uses_perform _ _).mpr (hallowed.http request)

theorem loadIndex (platform : Platform) (cr : Observability)
    (repo : RepositoryInfo) : (loadIndex platform cr repo).Uses allowed := by
  refine .bind ?_ fun bytes => .bind (Program.uses_ofExcept _ _)
    fun decoded => .bind (Program.uses_ofExcept _ _) fun _ => trivial
  refine .bind (Program.uses_ofExcept _ _) fun base =>
    .bind (Program.uses_ofExcept _ _) fun requestUrl =>
    .bind (hallowed.fetchHttp _) fun reply =>
    .bind (Program.uses_ofExcept _ _) fun response => ?_
  split <;> trivial

theorem collectIndexes (platform : Platform) (cr : Observability)
    (order : IterationOrder) (repos : List (String × RepositoryInfo)) :
    (collectIndexes platform cr order repos).Uses allowed :=
  .collect fun repo _ => hallowed.loadIndex platform cr repo

end AllowsReads

section Credentials

variable {platform : Platform} {cr : Observability} {kinds : List Kind}

@[grind .] theorem writesKinds_fetchResource (path tag token : String) :
    WritesKinds kinds (fetchResource platform path tag token) := by
  grind [fetchResource, newRequest]

@[grind .] theorem writesKinds_authTokenExpires (expires : Int) :
    WritesKinds kinds (authTokenExpires expires) :=
  fun _ hallowed => hallowed.authTokenExpires expires

@[grind .] theorem writesKinds_findToken (config : ObservatoriumIndex) :
    WritesKinds kinds (findToken cr config) := by
  grind [findToken]

@[grind .] theorem writesKinds_refreshToken (config : ObservatoriumIndex)
    (oldToken : String) :
    WritesKinds kinds (refreshToken platform config oldToken) := by
  have hdex : WritesKinds kinds (fetchDexToken platform config oldToken) := by
    unfold fetchDexToken
    split
    · exact writesKinds_done _
    · refine .bind (writesKinds_ofExcept _) fun url =>
        .bind (writesKinds_fetchHttp _) fun reply => ?_
      grind
  grind [refreshToken, fetchToken]

@[grind .] theorem writesKinds_assignFromSecret (depth : ℕ)
    (observatorium : ObservatoriumIndex) :
    WritesKinds kinds (assignFromSecret cr depth observatorium) := by
  induction depth generalizing observatorium with
  | zero => exact fun _ _ => trivial
  | succ depth ih => grind [assignFromSecret]

@[grind .] theorem writesKinds_transformObservatorium
    (observatorium : ObservatoriumIndex) :
    WritesKinds kinds (transformObservatorium platform cr observatorium) := by
  refine .bind (by grind) fun assigned => ?_
  grind [assignDexCredentials]

structure AllowsTokens (cr : Observability)
    (allowed : ApiCall Kind.Spec Action → Prop) : Prop
    extends AllowsReads allowed where
  create : ∀ config token lifetime object, allowed
    (.create .secret ⟨cr.ns, getObservatoriumTokenSecretName config⟩
      (tokenSecret token lifetime object))
  update : ∀ config token lifetime object, allowed
    (.update .secret ⟨cr.ns, getObservatoriumTokenSecretName config⟩
      (tokenSecret token lifetime object))

namespace AllowsTokens

variable {allowed : ApiCall Kind.Spec Action → Prop}
  (hallowed : AllowsTokens cr allowed)
include hallowed

theorem of_writesKinds {α : Type} {program : Go α}
    (hprogram : WritesKinds [] program) : program.Uses allowed :=
  hprogram _ hallowed.toAllowsReads.toAllowsKinds

theorem saveToken (config : ObservatoriumIndex) (token : String)
    (lifetime : Int) : (saveToken cr config token lifetime).Uses allowed := by
  apply Program.Uses.wrapping
  apply Program.Uses.bind
  · apply upsert_uses
    · exact hallowed.get _ _
    · exact hallowed.create config token lifetime
    · exact hallowed.update config token lifetime
  · exact fun _ => trivial

theorem renewToken (observatorium : ObservatoriumIndex) (oldToken : String) :
    (renewToken platform cr observatorium oldToken).Uses allowed := by
  have hrefresh : (refreshToken platform observatorium oldToken).Uses allowed :=
    hallowed.of_writesKinds (writesKinds_refreshToken _ _)
  apply Program.Uses.bind hrefresh.attempt
  intro renewed
  split
  · trivial
  · have hsave := hallowed.saveToken observatorium
    exact .bind (hsave _ _).attempt fun _ => trivial

theorem reconcileToken (observatorium : ObservatoriumIndex) :
    (reconcileToken platform cr observatorium).Uses allowed := by
  unfold ObservabilityOperator.reconcileToken
  split
  · trivial
  · have hfind : (findToken cr observatorium).Uses allowed :=
      hallowed.of_writesKinds (writesKinds_findToken _)
    apply Program.Uses.bind hfind.wrapping
    intro found
    apply Program.Uses.bind
    · split
      · trivial
      · exact hallowed.of_writesKinds (writesKinds_authTokenExpires _)
    · intro expired
      split
      · exact hallowed.renewToken _ _
      · trivial

theorem reconcileEntries (observatoria : List ObservatoriumIndex) :
    (reconcileEntries platform cr observatoria).Uses allowed := by
  induction observatoria with
  | nil => trivial
  | cons observatorium rest ih =>
    have htransform :
        (transformObservatorium platform cr observatorium).Uses allowed :=
      hallowed.of_writesKinds (writesKinds_transformObservatorium _)
    apply Program.Uses.bind htransform.attempt
    intro transformed
    split
    · trivial
    · apply Program.Uses.bind (hallowed.reconcileToken _).attempt
      intro renewed
      split
      · trivial
      · exact .bind ih fun _ => trivial

theorem reconcileObservatoria (index : RepositoryIndex) :
    (reconcileObservatoria platform cr index).Uses allowed := by
  unfold ObservabilityOperator.reconcileObservatoria
  split
  · trivial
  · split
    · trivial
    · apply Program.Uses.bind (hallowed.reconcileEntries _)
      intro outcome
      split <;> trivial

end AllowsTokens

structure AllowsCredentials (cr : Observability)
    (allowed : ApiCall Kind.Spec Action → Prop) : Prop
    extends AllowsReads allowed where
  createToken : ∀ config token lifetime object, allowed
    (.create .secret ⟨cr.ns, getObservatoriumTokenSecretName config⟩
      (tokenSecret token lifetime object))
  update : ∀ key object, allowed (.update .secret key object)

section AllowsCredentials

variable {allowed : ApiCall Kind.Spec Action → Prop}

theorem AllowsKinds.allowsCredentials (hallowed : AllowsKinds kinds allowed)
    (hsecret : .secret ∈ kinds) : AllowsCredentials cr allowed where
  toAllowsReads := hallowed.toAllowsReads
  createToken _ _ _ _ := hallowed.create _ hsecret _ _
  update _ _ := hallowed.update _ hsecret _ _

variable (hallowed : AllowsCredentials cr allowed)
include hallowed

theorem AllowsCredentials.allowsTokens : AllowsTokens cr allowed where
  toAllowsReads := hallowed.toAllowsReads
  create := hallowed.createToken
  update _ _ _ _ := hallowed.update _ _

theorem AllowsCredentials.stampConfigSource (index : RepositoryIndex) :
    (stampConfigSource index).Uses allowed := by
  unfold ObservabilityOperator.stampConfigSource
  split
  · trivial
  · refine .bind ?_ fun _ => trivial
    exact (Client.uses_update _ _ _ _).mpr (hallowed.update _ _)

theorem AllowsCredentials.completeObservatoria (index : RepositoryIndex) :
    (completeObservatoria platform cr index).Uses allowed := by
  apply Program.Uses.bind (hallowed.allowsTokens.reconcileObservatoria index)
  intro outcome
  dsimp only
  split
  · trivial
  · exact .bind (hallowed.stampConfigSource _) fun _ => trivial

theorem AllowsCredentials.completeIndexes (indexes : List RepositoryIndex) :
    (completeIndexes platform cr indexes).Uses allowed :=
  .collect fun index _ => hallowed.completeObservatoria index

end AllowsCredentials

theorem writesKinds_completeIndexes (hsecret : .secret ∈ kinds)
    (indexes : List RepositoryIndex) :
    WritesKinds kinds (completeIndexes platform cr indexes) :=
  fun _ hallowed => (hallowed.allowsCredentials hsecret).completeIndexes indexes

theorem AllowsLooking.deleteUnrequestedCredentialSecrets
    {allowed : ApiCall Kind.Spec Action → Prop}
    (hallowed : AllowsLooking allowed)
    (hdelete : ∀ key, allowed (.delete .secret key))
    (indexes : List RepositoryIndex) :
    (deleteUnrequestedCredentialSecrets cr indexes).Uses allowed := by
  refine .bind (hallowed.uses_list _ _) fun reply => .forEach fun item _ => ?_
  split
  · trivial
  · exact .wrapping (.bind ((Client.uses_delete _ _ _).mpr (hdelete _))
      fun _ => Client.uses_orFail _ _)

theorem writesKinds_deleteUnrequestedCredentialSecrets
    (hsecret : .secret ∈ kinds) (indexes : List RepositoryIndex) :
    WritesKinds kinds (deleteUnrequestedCredentialSecrets cr indexes) :=
  fun _ hallowed => hallowed.deleteUnrequestedCredentialSecrets
    (hallowed.delete _ hsecret) indexes

end Credentials

section Instances

variable {platform : Platform} {cr : Observability} {kinds : List Kind}
  (indexes : List RepositoryIndex) (index : RepositoryIndex)
  {allowed : ApiCall Kind.Spec Action → Prop}

@[grind .] theorem writesKinds_getIntegrationSecret (name ns : String) :
    WritesKinds kinds (getIntegrationSecret cr name ns) := by
  grind [getIntegrationSecret]

@[grind .] theorem writesKinds_createGlobalConfig :
    WritesKinds kinds (createGlobalConfig cr indexes) := by
  have hfirst : WritesKinds kinds (firstAlertmanagerIndex indexes) := by
    unfold firstAlertmanagerIndex
    grind
  grind [createGlobalConfig, getSmtpSecret]

@[grind ←] theorem writesKinds_addSecretIntegration {disabled : Bool}
    {secret : Go String} {integration : String → Integration}
    (hsecret : WritesKinds kinds secret) :
    WritesKinds kinds (addSecretIntegration disabled secret integration) := by
  grind [addSecretIntegration]

@[grind .] theorem writesKinds_addIntegrations :
    WritesKinds kinds (addIntegrations cr index) := by
  have hpagerDuty (config : AlertmanagerIndex) :
      WritesKinds kinds (getPagerDutySecret cr config) := by
    grind [getPagerDutySecret]
  have hsnitch (config : AlertmanagerIndex) :
      WritesKinds kinds (getDeadMansSnitchUrl cr config) := by
    grind [getDeadMansSnitchUrl]
  unfold addIntegrations
  split
  · exact writesKinds_done _
  · refine .bind (writesKinds_addSecretIntegration (hpagerDuty _))
      fun pagerDuty => ?_
    grind

theorem AllowsReads.syncAlertmanagerSecret (hallowed : AllowsReads allowed)
    (hcreate : ∀ object, allowed
      (.create .secret (getAlertmanagerSecret cr) object))
    (hupdate : ∀ object, allowed
      (.update .secret (getAlertmanagerSecret cr) object))
    (indexes : List RepositoryIndex) :
    (syncAlertmanagerSecret platform cr indexes).Uses allowed := by
  have hreads {α : Type} {program : Go α}
      (hprogram : WritesKinds [] program) : program.Uses allowed :=
    hprogram _ hallowed.toAllowsKinds
  unfold ObservabilityOperator.syncAlertmanagerSecret
  split
  · trivial
  · refine .wrapping (.bind (.bind
      (hreads (writesKinds_createGlobalConfig _)) fun global =>
        .bind (hreads (.collect writesKinds_addIntegrations))
          fun _ => trivial) fun config => ?_)
    exact .bind (Program.uses_ofExcept _ _) fun bytes =>
      .bind (upsert_uses (hallowed.get _ _) (fun _ => hcreate _)
        fun _ => hupdate _) fun _ => trivial

theorem writesKinds_syncAlertmanagerSecret :
    WritesKinds [.secret] (syncAlertmanagerSecret platform cr indexes) :=
  fun _ hallowed => hallowed.syncAlertmanagerSecret
    (hallowed.create _ List.mem_cons_self _)
    (hallowed.update _ List.mem_cons_self _) indexes

@[grind .] theorem writesKinds_fetchFederationPatterns (result : List String)
    (indexes : List RepositoryIndex) :
    WritesKinds kinds (fetchFederationPatterns platform result indexes) := by
  induction indexes generalizing result with
  | nil => exact writesKinds_done _
  | cons index rest ih => grind [fetchFederationPatterns]

@[grind .] theorem writesKinds_fetchFederationConfigs :
    WritesKinds kinds (fetchFederationConfigs platform cr indexes) := by
  grind [fetchFederationConfigs]

@[grind .] theorem writesKinds_getDefaultBlackBoxConfig :
    WritesKinds kinds (getDefaultBlackBoxConfig platform cr) := by
  have htoken : WritesKinds kinds (getBlackboxBearerToken cr) := by
    grind [getBlackboxBearerToken]
  grind [getDefaultBlackBoxConfig]

@[grind .] theorem writesKinds_createBlackBoxConfig (hconfigMap : .configMap ∈ kinds) :
    WritesKinds kinds (createBlackBoxConfig platform cr) := by
  grind [createBlackBoxConfig]

@[grind .] theorem writesKinds_getRouteHost (key : ObjectKey) :
    WritesKinds kinds (getRouteHost key) := by
  grind [getRouteHost]

theorem AllowsReads.reconcileAlertmanager (hallowed : AllowsReads allowed)
    (hcreate : ∀ object, allowed
      (.create .alertmanager (getAlertmanagerCr cr) object))
    (hupdate : ∀ object, allowed
      (.update .alertmanager (getAlertmanagerCr cr) object))
    (indexes : List RepositoryIndex) :
    (reconcileAlertmanager platform cr indexes).Uses allowed := by
  refine .bind (writesKinds_getRouteHost _ _ hallowed.toAllowsKinds)
    fun host => .bind (createOrUpdate_uses (hallowed.get _ _) hcreate hupdate
      fun object => ?_) fun _ => trivial
  split
  · trivial
  · exact .bind (Program.uses_ofExcept _ _) fun _ => trivial

theorem writesKinds_reconcileAlertmanager (hkind : .alertmanager ∈ kinds)
    (indexes : List RepositoryIndex) :
    WritesKinds kinds (reconcileAlertmanager platform cr indexes) :=
  fun _ hallowed => hallowed.reconcileAlertmanager
    (hallowed.create _ hkind _) (hallowed.update _ hkind _) indexes

@[grind .] theorem writesKinds_getOauth2ConfigSecret :
    WritesKinds kinds (getOauth2ConfigSecret cr) :=
  fun _ hallowed => getOauth2ConfigSecret_uses cr (hallowed.get _ _)

@[grind .] theorem writesKinds_getRemoteWriteSpec (remoteWrite : RemoteWriteIndex) :
    WritesKinds kinds (getRemoteWriteSpec platform cr index remoteWrite) := by
  have hredHat (observatorium : ObservatoriumIndex) :
      WritesKinds kinds (getRemoteWriteSpecForRedHat platform cr index
        observatorium remoteWrite) := by
    grind [getRemoteWriteSpecForRedHat, getRemoteWriteOauth2Config]
  grind [getRemoteWriteSpec]

@[grind .] theorem writesKinds_getRemoteWriteIndex :
    WritesKinds kinds (getRemoteWriteIndex platform index) := by
  grind [getRemoteWriteIndex]

@[grind .] theorem writesKinds_remoteWriteTargetOf :
    WritesKinds kinds (remoteWriteTargetOf platform cr index) := by
  grind [remoteWriteTargetOf]

@[grind .] theorem writesKinds_remoteWriteTargets :
    WritesKinds kinds (remoteWriteTargets platform cr indexes) := by
  grind [remoteWriteTargets]

theorem AllowsLooking.prometheusStorage (hallowed : AllowsLooking allowed)
    (hvolume : ∀ key object, allowed (.update .persistentVolume key object))
    (indexes : List RepositoryIndex) :
    (prometheusStorage platform cr indexes).Uses allowed := by
  unfold ObservabilityOperator.prometheusStorage
  split
  · trivial
  · refine .bind (.bind (hallowed.uses_list _ _) fun _ =>
      .bind (.wrapping (Client.uses_orFail _ _)) fun _ => trivial)
        fun claim => ?_
    dsimp only
    split
    · exact .bind (.bind (hallowed.uses_get _ _) fun _ =>
        .bind (Client.uses_orFail _ _) fun _ =>
        .bind ((Client.uses_update _ _ _ _).mpr (hvolume _ _))
          fun _ => .bind (Client.uses_orFail _ _) fun _ => trivial)
            fun _ => trivial
    · exact .bind (Program.uses_ofExcept _ _) fun _ => trivial

theorem writesKinds_prometheusStorage (hvolume : .persistentVolume ∈ kinds)
    (indexes : List RepositoryIndex) :
    WritesKinds kinds (prometheusStorage platform cr indexes) :=
  fun _ hallowed => hallowed.prometheusStorage (hallowed.update _ hvolume)
    indexes

/-- What writing the Prometheus comes with: the volume of an old claim is
released and the claim deleted. -/
structure AllowsPrometheus (cr : Observability)
    (allowed : ApiCall Kind.Spec Action → Prop) : Prop
    extends AllowsReads allowed where
  create : ∀ object, allowed (.create .prometheus (getPrometheus cr) object)
  update : ∀ object, allowed (.update .prometheus (getPrometheus cr) object)
  volume : ∀ key object, allowed (.update .persistentVolume key object)
  claim : ∀ key, allowed (.delete .persistentVolumeClaim key)

theorem AllowsPrometheus.reconcilePrometheus
    (hallowed : AllowsPrometheus cr allowed) (indexes : List RepositoryIndex)
    (configHash : String) :
    (reconcilePrometheus platform cr indexes configHash).Uses allowed := by
  have hreads := hallowed.toAllowsReads.toAllowsKinds
  refine .bind (writesKinds_getRouteHost _ _ hreads) fun host =>
    .bind (writesKinds_remoteWriteTargets _ _ hreads) fun targets =>
    .bind (createOrUpdate_uses (hallowed.get _ _) hallowed.create
      hallowed.update fun object => ?_) fun _ =>
        Client.uses_deleteIfFound _ _ _ (hallowed.claim _)
  exact .bind ((Client.uses_perform _ _).mpr hallowed.setLabels) fun _ =>
    .bind (hallowed.prometheusStorage hallowed.volume _) fun _ => trivial

theorem writesKinds_reconcilePrometheus (hkind : .prometheus ∈ kinds)
    (hvolume : .persistentVolume ∈ kinds)
    (hclaim : .persistentVolumeClaim ∈ kinds)
    (indexes : List RepositoryIndex) (configHash : String) :
    WritesKinds kinds (reconcilePrometheus platform cr indexes configHash) := by
  intro allowed hallowed
  have hprometheus : AllowsPrometheus cr allowed :=
    { toAllowsReads := hallowed.toAllowsReads
      create := hallowed.create _ hkind _
      update := hallowed.update _ hkind _
      volume := hallowed.update _ hvolume
      claim := hallowed.delete _ hclaim }
  exact hprometheus.reconcilePrometheus indexes configHash

theorem AllowsLooking.reconcileGrafanaCr (hallowed : AllowsLooking allowed)
    (hcreate : ∀ object, allowed (.create .grafana (getGrafanaCr cr) object))
    (hupdate : ∀ object, allowed (.update .grafana (getGrafanaCr cr) object))
    (indexes : List RepositoryIndex) :
    (reconcileGrafanaCr platform cr indexes).Uses allowed := by
  refine .bind (.bind ?_ fun ofIndex => ?_) fun version =>
    .bind (upsert_uses (hallowed.get _ _) (fun _ => hcreate _)
      fun _ => hupdate _) fun _ => trivial
  · unfold grafanaVersionOfIndex
    split
    · trivial
    · exact .bind (Program.uses_deref _ _) fun _ => trivial
  · split <;> trivial

theorem writesKinds_reconcileGrafanaCr (hkind : .grafana ∈ kinds)
    (indexes : List RepositoryIndex) :
    WritesKinds kinds (reconcileGrafanaCr platform cr indexes) :=
  fun _ hallowed => hallowed.reconcileGrafanaCr (hallowed.create _ hkind _)
    (hallowed.update _ hkind _) indexes

end Instances

section Resources

variable {platform : Platform} {cr : Observability} {kinds : List Kind}
  {kind : Kind} (indexes : List RepositoryIndex)
  {allowed : ApiCall Kind.Spec Action → Prop}

theorem AllowsLooking.deleteUnrequestedNames (hallowed : AllowsLooking allowed)
    (hdelete : ∀ key, allowed (.delete kind key)) (ns : String)
    (requested : List String) :
    (deleteUnrequestedNames kind ns requested).Uses allowed := by
  rw [deleteUnrequestedNames_eq_prune]
  exact Client.uses_prune (hallowed.list _ _) hdelete

@[grind ←] theorem writesKinds_deleteUnrequestedNames (hkind : kind ∈ kinds) (ns : String)
    (requested : List String) :
    WritesKinds kinds (deleteUnrequestedNames kind ns requested) :=
  fun _ hallowed => hallowed.deleteUnrequestedNames
    (hallowed.delete _ hkind) ns requested

@[grind ←] theorem writesKinds_applyManifest (hkind : kind ∈ kinds) (key : ObjectKey)
    (parsed : Manifest kind.Spec) (content : kind.Spec) :
    WritesKinds kinds (applyManifest kind key parsed content) := by
  grind [applyManifest]

@[grind .] theorem writesKinds_fetchRequestedDashboard (info : DashboardInfo) :
    WritesKinds kinds (fetchRequestedDashboard platform info) := by
  have hfetch : WritesKinds kinds
      (fetchDashboard platform info.url info.tag info.accessToken) := by
    grind [fetchDashboard, newRequest]
  grind [fetchRequestedDashboard]

@[grind ←] theorem writesKinds_syncDashboards (hkind : .grafanaDashboard ∈ kinds)
    (indexes : List RepositoryIndex) :
    WritesKinds kinds (syncDashboards platform cr indexes) := by
  grind [syncDashboards, deleteUnrequestedDashboards,
    createRequestedDashboards]

@[grind ←] theorem writesKinds_syncRules (hkind : .prometheusRule ∈ kinds)
    (indexes : List RepositoryIndex) :
    WritesKinds kinds (syncRules platform cr indexes) := by
  grind [syncRules, deleteUnrequestedRules, createRequestedRules,
    createRequestedRule]

@[grind ←] theorem writesKinds_syncPodMonitors (hkind : .podMonitor ∈ kinds)
    (indexes : List RepositoryIndex) :
    WritesKinds kinds (syncPodMonitors platform cr indexes) := by
  grind [syncPodMonitors, deleteUnrequestedPodMonitors,
    createRequestedPodMonitors, createRequestedPodMonitor]

def resourceKinds : List Kind :=
  [.grafanaDashboard, .prometheusRule, .podMonitor]

@[grind .] theorem writesKinds_syncResources :
    WritesKinds resourceKinds (syncResources platform cr indexes) := by
  grind [syncResources, createDMSAlert, resourceKinds]

def promtailKinds : List Kind := [.daemonSet, .configMap]

theorem AllowsLooking.deleteUnrequestedDaemonsets
    (hallowed : AllowsLooking allowed)
    (hdelete : ∀ key, allowed (.delete .daemonSet key))
    (indexes : List RepositoryIndex) :
    (deleteUnrequestedDaemonsets cr indexes).Uses allowed := by
  rw [deleteUnrequestedDaemonsets_eq_prune]
  exact Client.uses_prune (hallowed.list _ _) hdelete

theorem writesKinds_deleteUnrequestedDaemonsets
    (hdaemonSet : .daemonSet ∈ kinds) (indexes : List RepositoryIndex) :
    WritesKinds kinds (deleteUnrequestedDaemonsets cr indexes) :=
  fun _ hallowed => hallowed.deleteUnrequestedDaemonsets
    (hallowed.delete _ hdaemonSet) indexes

@[grind ←] theorem writesKinds_createPromtailConfigFor
    (hconfigMap : .configMap ∈ kinds) (index : RepositoryIndex)
    (promtail : PromtailIndex) (observatorium : ObservatoriumIndex) :
    WritesKinds kinds
      (createPromtailConfigFor cr index promtail observatorium) := by
  grind [createPromtailConfigFor, getScrapeNamespacesFor]

@[grind .] theorem writesKinds_createPromtailDaemonsetFor (index : RepositoryIndex) :
    WritesKinds promtailKinds
      (createPromtailDaemonsetFor platform cr index) := by
  grind [createPromtailDaemonsetFor, createPromtailDaemonset, promtailKinds]

theorem writesKinds_syncPromtail :
    WritesKinds promtailKinds (syncPromtail platform cr indexes) :=
  .bind (.wrapping (writesKinds_deleteUnrequestedDaemonsets (by decide) _))
    fun _ => .forEach fun index =>
      .wrapping (writesKinds_createPromtailDaemonsetFor index)

theorem AllowsLooking.assignSyncTime (hallowed : AllowsLooking allowed)
    (htime : ∀ seconds, allowed (.perform (.setLastSynced seconds))) :
    (assignSyncTime cr).Uses allowed := by
  unfold ObservabilityOperator.assignSyncTime
  split
  · exact (Client.uses_perform _ _).mpr (htime _)
  · exact .bind hallowed.timeNow fun _ =>
      (Client.uses_perform _ _).mpr (htime _)

theorem writesOnly_assignSyncTime :
    (assignSyncTime cr).Uses (ApiCall.WritesOnly permitted) :=
  (allowsReads_writesOnly permitted).assignSyncTime fun _ =>
    ApiCall.writesOnly_perform _

theorem find_of_run_assignSyncTime {env : Surroundings}
    {cluster after : Cluster} {result : Except (Abort ApiError) Unit}
    (hrun : env.run (assignSyncTime cr) cluster = (result, after))
    (kind : Kind) (key : ObjectKey) :
    after.find kind key = cluster.find kind key :=
  have huses : (assignSyncTime cr).Uses
      (ApiCall.WritesOnly fun _ _ => False) := writesOnly_assignSyncTime
  Surroundings.find_of_writesOnly hrun huses id

def refresherKinds : List Kind := [.service, .networkPolicy, .deployment]

theorem AllowsLooking.deleteUnrequested (hallowed : AllowsLooking allowed)
    (hdelete : ∀ key, allowed (.delete kind key)) (render : String → String)
    (indexes : List RepositoryIndex) :
    (deleteUnrequested platform kind render cr indexes).Uses allowed :=
  .bind (hallowed.uses_list _ _) fun _ =>
  .bind (Client.uses_orFail _ _) fun _ =>
  .bind (getOauth2ConfigSecret_uses cr (hallowed.get _ _)) fun _ =>
  .forEach fun _ _ => deleteUnlessRequested_uses fun _ => hdelete _

theorem writesKinds_deleteUnrequested (hkind : kind ∈ kinds)
    (render : String → String) (indexes : List RepositoryIndex) :
    WritesKinds kinds (deleteUnrequested platform kind render cr indexes) :=
  fun _ hallowed => hallowed.deleteUnrequested (hallowed.delete _ hkind)
    render indexes

theorem writesKinds_reconcileTokenRefresher :
    WritesKinds refresherKinds
      (reconcileTokenRefresher platform cr indexes) := by
  intro allowed hallowed
  apply reconcileTokenRefresher_uses (hallowed.get _ _)
  intro config
  have hkinds {kind : Kind} {key : ObjectKey}
      (hkey : RefresherKey cr config kind key) : kind ∈ refresherKinds := by
    cases kind <;> simp_all [RefresherKey, refresherKinds]
  exact writeRefresher_uses cr config (fun _ _ _ => hallowed.get _ _)
    (fun _ _ _ hkey => hallowed.create _ (hkinds hkey) _ _)
    (fun _ _ _ hkey => hallowed.update _ (hkinds hkey) _ _)

theorem writesKinds_syncTokenRefreshers :
    WritesKinds refresherKinds (syncTokenRefreshers platform cr indexes) := by
  refine .bind (.wrapping (writesKinds_deleteUnrequested (by decide) _ _))
    fun _ => .bind (.wrapping
      (writesKinds_deleteUnrequested (by decide) _ _)) fun _ => ?_
  split
  · exact writesKinds_done _
  · exact .wrapping (writesKinds_reconcileTokenRefresher _)

end Resources

/-! ## The parts after the token refreshers -/

def applyRest (platform : Platform) (cr : Observability)
    (indexes : List RepositoryIndex) : Go Unit := do
  syncAlertmanagerSecret platform cr indexes
  syncInstances platform cr indexes
  syncResources platform cr indexes
  syncPromtail platform cr indexes
  assignSyncTime cr

theorem applyIndexes_eq (platform : Platform) (cr : Observability)
    (indexes : List RepositoryIndex) :
    applyIndexes platform cr indexes =
      (syncTokenRefreshers platform cr indexes).bind fun _ =>
        applyRest platform cr indexes := rfl

def restKinds : List Kind :=
  [.configMap, .alertmanager, .prometheus, .persistentVolume,
    .persistentVolumeClaim, .grafana] ++ resourceKinds ++ promtailKinds

def RestWrites (cr : Observability) (kind : Kind) (key : ObjectKey) : Prop :=
  kind ∈ restKinds ∨
    kind = .secret ∧ (key = getAlertmanagerSecret cr ∨
      key = getPrometheusAdditionalScrapeConfig cr)

section Rest

variable {platform : Platform} {cr : Observability}
  {allowed : ApiCall Kind.Spec Action → Prop}

theorem allowsKinds_restWrites :
    AllowsKinds restKinds (ApiCall.WritesOnly (RestWrites cr)) :=
  allowsKinds_of_permitted fun _ hkind _ => .inl hkind

theorem WritesKinds.restWrites {α : Type} {kinds : List Kind}
    {program : Go α} (hprogram : WritesKinds kinds program)
    (hkinds : kinds ⊆ restKinds) :
    program.Uses (ApiCall.WritesOnly (RestWrites cr)) :=
  hprogram _ (allowsKinds_restWrites.mono hkinds)

theorem restWrites_syncAlertmanagerSecret (indexes : List RepositoryIndex) :
    (syncAlertmanagerSecret platform cr indexes).Uses
      (ApiCall.WritesOnly (RestWrites cr)) :=
  (allowsReads_writesOnly _).syncAlertmanagerSecret
    (fun _ => (ApiCall.writesOnly_create _ _ _).mpr (.inr ⟨rfl, .inl rfl⟩))
    (fun _ => (ApiCall.writesOnly_update _ _ _).mpr
      (.inr ⟨rfl, .inl rfl⟩)) indexes

theorem AllowsReads.createAdditionalScrapeConfigSecret
    (hallowed : AllowsReads allowed)
    (hcreate : ∀ object, allowed
      (.create .secret (getPrometheusAdditionalScrapeConfig cr) object))
    (hupdate : ∀ object, allowed
      (.update .secret (getPrometheusAdditionalScrapeConfig cr) object))
    (patterns : List String) :
    (createAdditionalScrapeConfigSecret cr patterns).Uses allowed :=
  .bind (upsert_uses (hallowed.get _ _) (fun _ => hcreate _)
    fun _ => hupdate _) fun _ => trivial

theorem restWrites_createAdditionalScrapeConfigSecret (patterns : List String) :
    (createAdditionalScrapeConfigSecret cr patterns).Uses
      (ApiCall.WritesOnly (RestWrites cr)) :=
  (allowsReads_writesOnly _).createAdditionalScrapeConfigSecret
    (fun _ => (ApiCall.writesOnly_create _ _ _).mpr (.inr ⟨rfl, .inr rfl⟩))
    (fun _ => (ApiCall.writesOnly_update _ _ _).mpr
      (.inr ⟨rfl, .inr rfl⟩)) patterns

def instanceKinds : List Kind :=
  [.configMap, .alertmanager, .prometheus, .persistentVolume,
    .persistentVolumeClaim, .grafana]

theorem AllowsKinds.syncInstances (hallowed : AllowsKinds instanceKinds allowed)
    (hcreate : ∀ object, allowed
      (.create .secret (getPrometheusAdditionalScrapeConfig cr) object))
    (hupdate : ∀ object, allowed
      (.update .secret (getPrometheusAdditionalScrapeConfig cr) object))
    (indexes : List RepositoryIndex) :
    (syncInstances platform cr indexes).Uses allowed := by
  refine .bind (.wrapping (writesKinds_fetchFederationConfigs _ _ hallowed))
    fun patterns => ?_
  refine .bind (hallowed.createAdditionalScrapeConfigSecret hcreate hupdate
    patterns) fun _ => ?_
  refine .bind (writesKinds_createBlackBoxConfig (by decide) _ hallowed)
    fun hash => ?_
  refine .bind (.wrapping (writesKinds_reconcileAlertmanager (by decide) _ _
    hallowed)) fun _ => ?_
  refine .bind (.wrapping (writesKinds_reconcilePrometheus (by decide)
    (by decide) (by decide) _ _ _ hallowed)) fun _ => ?_
  split
  · trivial
  · exact .wrapping (writesKinds_reconcileGrafanaCr (by decide) _ _ hallowed)

theorem restWrites_syncInstances (indexes : List RepositoryIndex) :
    (syncInstances platform cr indexes).Uses
      (ApiCall.WritesOnly (RestWrites cr)) := by
  have hrest : AllowsKinds restKinds (ApiCall.WritesOnly (RestWrites cr)) :=
    allowsKinds_restWrites
  exact (hrest.mono (by decide)).syncInstances
    (fun _ => (ApiCall.writesOnly_create _ _ _).mpr (.inr ⟨rfl, .inr rfl⟩))
    (fun _ => (ApiCall.writesOnly_update _ _ _).mpr
      (.inr ⟨rfl, .inr rfl⟩)) indexes

theorem writesKinds_syncInstances (indexes : List RepositoryIndex) :
    WritesKinds (.secret :: instanceKinds)
      (syncInstances platform cr indexes) := fun _ hallowed =>
  (hallowed.mono (List.subset_cons_self _ _)).syncInstances
    (hallowed.create _ List.mem_cons_self _)
    (hallowed.update _ List.mem_cons_self _) indexes

theorem restWrites_applyRest (platform : Platform) (cr : Observability)
    (indexes : List RepositoryIndex) :
    (applyRest platform cr indexes).Uses
      (ApiCall.WritesOnly (RestWrites cr)) := by
  refine .bind (restWrites_syncAlertmanagerSecret _) fun _ => ?_
  refine .bind (restWrites_syncInstances _) fun _ => ?_
  refine .bind ((writesKinds_syncResources _).restWrites (by decide))
    fun _ => ?_
  refine .bind ((writesKinds_syncPromtail _).restWrites (by decide)) fun _ => ?_
  exact writesOnly_assignSyncTime

theorem AllowsKinds.applyRest
    (hallowed : AllowsKinds (.secret :: restKinds) allowed)
    (htime : ∀ seconds, allowed (.perform (.setLastSynced seconds)))
    (indexes : List RepositoryIndex) :
    (applyRest platform cr indexes).Uses allowed := by
  refine .bind (writesKinds_syncAlertmanagerSecret _ _
    (hallowed.mono (by decide))) fun _ => ?_
  refine .bind (writesKinds_syncInstances _ _
    (hallowed.mono (by decide))) fun _ => ?_
  refine .bind (writesKinds_syncResources _ _
    (hallowed.mono (by decide))) fun _ => ?_
  refine .bind (writesKinds_syncPromtail _ _
    (hallowed.mono (by decide))) fun _ => ?_
  exact hallowed.assignSyncTime htime

end Rest

/-! ## The parts before -/

section Prepare

variable {platform : Platform} {cr : Observability}
  {allowed : ApiCall Kind.Spec Action → Prop}

structure AllowsResources (cr : Observability)
    (allowed : ApiCall Kind.Spec Action → Prop) : Prop
    extends AllowsLooking allowed where
  setResourcesRoute : ∀ host, allowed (.perform (.setResourcesRoute host))
  createDeployment : ∀ image object, allowed (.create .deployment
    (getResourcesDeployment cr) (resourcesDeployment cr image object))
  updateDeployment : ∀ image object, allowed (.update .deployment
    (getResourcesDeployment cr) (resourcesDeployment cr image object))
  createService : ∀ object, allowed
    (.create .service (getResourcesService cr) (resourcesService object))
  updateService : ∀ object, allowed
    (.update .service (getResourcesService cr) (resourcesService object))
  createRoute : ∀ object, allowed
    (.create .route (getResourcesRoute cr) (resourcesRoute cr object))
  updateRoute : ∀ object, allowed
    (.update .route (getResourcesRoute cr) (resourcesRoute cr object))

theorem AllowsResources.reconcileResources
    (hallowed : AllowsResources cr allowed) (image : String) :
    (reconcileResources platform cr image).Uses allowed := by
  refine .bind (.bind (upsert_uses (hallowed.get _ _)
    (hallowed.createDeployment image) (hallowed.updateDeployment image))
      fun _ => trivial) fun _ => ?_
  refine .bind (.bind (upsert_uses (hallowed.get _ _) hallowed.createService
    hallowed.updateService) fun _ => trivial) fun _ => ?_
  split
  · refine .bind (.attempt (upsert_uses (hallowed.get _ _)
      hallowed.createRoute hallowed.updateRoute)) fun written => ?_
    split
    · split
      · exact (Client.uses_perform _ _).mpr (hallowed.setResourcesRoute _)
      · trivial
    · exact (Client.uses_perform _ _).mpr (hallowed.setResourcesRoute _)
    · trivial
  · trivial

theorem AllowsResources.collectRepositories
    (hallowed : AllowsResources cr allowed) (source : Option ConfigSource)
    (repos : List (String × RepositoryInfo))
    (secrets : List (ObjectKey × Resource SecretSpec)) :
    (collectRepositories platform cr source repos secrets).Uses allowed := by
  induction secrets generalizing repos with
  | nil => trivial
  | cons item rest ih =>
    unfold ObservabilityOperator.collectRepositories
    split
    · exact ih _
    · refine .bind ?_ fun _ => ih _
      split
      · exact hallowed.reconcileResources _
      · trivial

theorem AllowsResources.prepare (hallowed : AllowsResources cr allowed)
    (hstop : allowed (.perform (.setLastSynced 0))) (migrated : Bool) :
    (prepare platform cr migrated).Uses allowed := by
  unfold ObservabilityOperator.prepare
  split
  · trivial
  · refine .bind (hallowed.checkSync _ _ _) fun due => ?_
    split
    · refine .bind (hallowed.listConfigSecrets cr) fun secrets => ?_
      split
      · exact .bind ((Client.uses_perform _ _).mpr hstop) fun _ => trivial
      · refine .bind (hallowed.collectRepositories _ _ _) fun repos => ?_
        split
        · refine .bind (hallowed.waitForResourcesDeployment cr) fun status => ?_
          split <;> trivial
        · trivial
    · trivial

def configurationKinds : List Kind :=
  .route :: .secret :: refresherKinds ++ restKinds

theorem AllowsKinds.allowsResources
    (hallowed : AllowsKinds configurationKinds allowed)
    (hroute : ∀ host, allowed (.perform (.setResourcesRoute host))) :
    AllowsResources cr allowed where
  toAllowsLooking := hallowed.toAllowsLooking
  setResourcesRoute := hroute
  createDeployment _ _ := hallowed.create .deployment (by decide) _ _
  updateDeployment _ _ := hallowed.update .deployment (by decide) _ _
  createService _ := hallowed.create .service (by decide) _ _
  updateService _ := hallowed.update .service (by decide) _ _
  createRoute _ := hallowed.create .route (by decide) _ _
  updateRoute _ := hallowed.update .route (by decide) _ _

theorem AllowsKinds.reconcileStage
    (hallowed : AllowsKinds configurationKinds allowed)
    (hroute : ∀ host, allowed (.perform (.setResourcesRoute host)))
    (htime : ∀ seconds, allowed (.perform (.setLastSynced seconds)))
    (order : IterationOrder) (migrated : Bool) :
    (reconcileStage platform order cr migrated).Uses allowed := by
  refine .bind ((hallowed.allowsResources hroute).prepare (htime 0) migrated)
    fun found => ?_
  split
  · trivial
  · refine .bind (hallowed.toAllowsReads.collectIndexes _ _ _ _)
      fun indexes => .bind ?_ fun _ => trivial
    refine .bind (writesKinds_deleteUnrequestedCredentialSecrets
      (by decide) _ _ hallowed) fun _ =>
        .bind (writesKinds_completeIndexes (by decide) _ _ hallowed)
          fun completed => ?_
    rw [applyIndexes_eq]
    exact .bind (writesKinds_syncTokenRefreshers _ _
      (hallowed.mono (by decide))) fun _ =>
        (hallowed.mono (by decide)).applyRest htime _

end Prepare

end ObservabilityOperator
