import ObservabilityOperator.CompletedSync
import ObservabilityOperator.RepositoryOutage

/-!
# Where a stored token comes from

The token of an Observatorium is kept in a secret that is named after the id of
the Observatorium and nothing else.  So after the entries have been gone
through, the secret holds the token it held before, or one that was fetched
with the tenant and the Dex credentials of one of the entries with its id, or
the empty token of an entry that has no Dex configuration to fetch one with.
-/

namespace ObservabilityOperator

open Program

def tokenKey (cr : Observability) (id : String) : ObjectKey :=
  ⟨cr.ns, "obs-token-" ++ id⟩

theorem tokenKey_inj {cr : Observability} {id other : String} :
    tokenKey cr id = tokenKey cr other ↔ id = other := by
  constructor
  · intro hkey
    have hname := congrArg (fun key => key.name.toList) hkey
    simpa [tokenKey, String.toList_inj] using hname
  · rintro rfl
    rfl

/-- The token is stored under this id. -/
def StoredToken (cr : Observability) (state : Cluster) (id token : String) :
    Prop :=
  ∃ secret, state.find .secret (tokenKey cr id) = some secret ∧
    secret.spec.data.get? "token" = some token

/-- The secret that an index points to is the stored one. -/
def Sourced (cluster : Cluster) (indexes : List RepositoryIndex) : Prop :=
  ∀ index ∈ indexes, ∀ source, index.source = some source →
    cluster.find .secret source.key = some source.secret

structure TokenSetting where
  platform : Platform
  surroundings : Surroundings
  cr : Observability
  entries : List ObservatoriumIndex
  cluster : Cluster

namespace TokenSetting

variable (setting : TokenSetting) {call : ApiCall Kind.Spec Action}

/-- The copy completes an entry of this id in a visited state. -/
def CompletedEntry (visited : List Cluster) (id : String)
    (copy : ObservatoriumIndex) : Prop :=
  ∃ entry ∈ setting.entries, entry.id = id ∧
    ∃ start ∈ visited, ∃ copied, setting.surroundings.run
      (transformObservatorium setting.platform setting.cr entry) start =
        (.ok copy, copied)

/-- Where the token for an id comes from, by the states gone through. -/
inductive Origin (visited : List Cluster) (id token : String) : Prop where
  | stored (hstored : StoredToken setting.cr setting.cluster id token)
  | fetched {copy : ObservatoriumIndex} {dexConfig : DexConfig} {url : Url}
      {asked : Cluster} {body : String} {lifetime : Int}
      (hcopy : setting.CompletedEntry visited id copy)
      (htype : copy.authType = .dex)
      (hdex : copy.dexConfig = some dexConfig)
      (hurl : setting.platform.urlParse (dexConfig.url ++ "/dex/token") =
        .ok url)
      (hasked : asked ∈ visited)
      (hreply : setting.surroundings.http asked.tick
        (dexTokenRequest copy dexConfig url) = .ok ⟨200, body⟩)
      (hdecode : setting.platform.unmarshalToken body = .ok (token, lifetime))
  | empty {copy : ObservatoriumIndex}
      (hcopy : setting.CompletedEntry visited id copy)
      (hnone : copy.authType = .dex → copy.dexConfig = none)
      (htoken : token = "")

structure Sound (state : Cluster × List Cluster) : Prop where
  visited : state.1 ∈ state.2
  origin : ∀ id token, StoredToken setting.cr state.1 id token →
    setting.Origin state.2 id token

def WritesSound (visited : List Cluster)
    (call : ApiCall Kind.Spec Action) : Prop :=
  ∀ id object,
    (call = .create .secret (tokenKey setting.cr id) object ∨
      call = .update .secret (tokenKey setting.cr id) object) →
    ∀ token, object.spec.data.get? "token" = some token →
      setting.Origin visited id token

structure SoundAfter (before after : Cluster × List Cluster) : Prop where
  sound : setting.Sound after
  grows : before.2 ⊆ after.2

def Sounds {α : Type} (program : Go α) (before : Cluster × List Cluster)
    (Post : α → List Cluster → Prop) : Prop :=
  program.Ensures (Program.recording (serve setting.surroundings.environment))
    setting.Sound before
    (fun value after => setting.SoundAfter before after ∧ Post value after.2)
    fun _ => setting.SoundAfter before

variable {setting}

theorem CompletedEntry.mono {visited later : List Cluster} {id : String}
    {copy : ObservatoriumIndex} (hcopy : setting.CompletedEntry visited id copy)
    (hlater : visited ⊆ later) : setting.CompletedEntry later id copy := by
  obtain ⟨entry, hentry, hid, start, hstart, hrun⟩ := hcopy
  exact ⟨entry, hentry, hid, start, hlater hstart, hrun⟩

theorem Origin.mono {visited later : List Cluster} {id token : String}
    (horigin : setting.Origin visited id token)
    (hlater : visited ⊆ later) : setting.Origin later id token := by
  cases horigin with
  | stored hstored => exact .stored hstored
  | fetched hcopy htype hdex hurl hasked hreply hdecode =>
    exact .fetched (hcopy.mono hlater) htype hdex hurl (hlater hasked)
      hreply hdecode
  | empty hcopy hnone htoken => exact .empty (hcopy.mono hlater) hnone htoken

theorem SoundAfter.trans {first second third : Cluster × List Cluster}
    (hfirst : setting.SoundAfter first second)
    (hsecond : setting.SoundAfter second third) :
    setting.SoundAfter first third :=
  ⟨hsecond.sound, List.Subset.trans hfirst.grows hsecond.grows⟩

theorem Sound.after_call {state : Cluster × List Cluster}
    {earlier : List Cluster} (hsound : setting.Sound state)
    (hcall : setting.WritesSound earlier call) (hearlier : earlier ⊆ state.2) :
    setting.SoundAfter state (Program.recording
      (serve setting.surroundings.environment) call state).2 := by
  have hgrows : state.2 ⊆ (Program.recording
      (serve setting.surroundings.environment) call state).2.2 :=
    List.subset_append_left _ _
  refine ⟨⟨List.mem_append_right _ (List.mem_singleton.mpr rfl), ?_⟩, hgrows⟩
  rintro id token ⟨secret, hfind, htoken⟩
  rcases serve_find_eq_some hfind with hbefore | hwritten
  · exact (hsound.origin id token ⟨secret, hbefore, htoken⟩).mono hgrows
  · exact (hcall id secret hwritten token htoken).mono
      (List.Subset.trans hearlier hgrows)

section Rules

variable {α β : Type} {before : Cluster × List Cluster} {program : Go α}
  {Post : α → List Cluster → Prop}

theorem Sounds.of_uses (huses : program.Uses (setting.WritesSound before.2))
    (hbefore : setting.Sound before) :
    setting.Sounds program before fun _ _ => True := by
  have hensures : program.Ensures
      (Program.recording (serve setting.surroundings.environment))
      (setting.SoundAfter before) before (fun _ => setting.SoundAfter before)
      (fun _ => setting.SoundAfter before) :=
    huses.ensures (fun call hcall state hstate =>
      hstate.trans (hstate.sound.after_call hcall hstate.grows))
      ⟨hbefore, List.Subset.refl _⟩
  exact (hensures.weaken fun _ hstate => hstate.sound).mono
    (fun _ _ hafter => ⟨hafter, trivial⟩) fun _ _ hafter => hafter

theorem Sounds.done {value : α} (hbefore : setting.Sound before)
    (hpost : Post value before.2) : setting.Sounds (.done value) before Post :=
  ⟨⟨hbefore, List.Subset.refl _⟩, hpost⟩

theorem Sounds.bind {next : α → Go β} {Mid : α → List Cluster → Prop}
    {Post : β → List Cluster → Prop}
    (hprogram : setting.Sounds program before Mid)
    (hnext : ∀ value after, setting.SoundAfter before after →
      Mid value after.2 → setting.Sounds (next value) after Post) :
    setting.Sounds (program.bind next) before Post := by
  refine Program.Ensures.bind hprogram ?_
  rintro value after ⟨hafter, hmid⟩
  exact (hnext value after hafter hmid).mono
    (fun _ _ hlater => ⟨hafter.trans hlater.1, hlater.2⟩)
    fun _ _ hlater => hafter.trans hlater

theorem Sounds.wrapping {message : String}
    (hprogram : setting.Sounds program before Post) :
    setting.Sounds (program.wrapping message) before Post :=
  Program.Ensures.wrapping hprogram

theorem Sounds.attempt (hprogram : setting.Sounds program before Post) :
    setting.Sounds program.attempt before fun result visited =>
      ∀ value, result = .ok value → Post value visited := by
  refine (Program.Ensures.attempt hprogram).mono ?_ fun _ _ hafter => hafter.1
  rintro _ after (⟨value, rfl, hafter⟩ | ⟨error, rfl, hafter⟩)
  · exact ⟨hafter.1, fun _ heq => by cases heq; exact hafter.2⟩
  · exact ⟨hafter, nofun⟩

end Rules

/-! ## The token of one entry -/

section Entry

variable {before : Cluster × List Cluster} {copy : ObservatoriumIndex}
  {α : Type}

theorem WritesSound.of_writesOnly {permitted : Kind → ObjectKey → Prop}
    {visited : List Cluster} (hcall : call.WritesOnly permitted)
    (hpermitted : ∀ id, ¬ permitted .secret (tokenKey setting.cr id)) :
    setting.WritesSound visited call := by
  rintro id object (rfl | rfl)
  · exact absurd (hcall _ _ ⟨rfl, rfl⟩) (hpermitted id)
  · exact absurd (hcall _ _ ⟨rfl, rfl⟩) (hpermitted id)

variable (hbefore : setting.Sound before)
include hbefore

theorem Sounds.of_reads {program : Go α} (hprogram : WritesKinds [] program) :
    setting.Sounds program before fun _ _ => True :=
  .of_uses (Program.Uses.mono hprogram.uses fun _ hcall =>
  .of_writesOnly hcall fun _ => List.not_mem_nil) hbefore

theorem sounds_get (kind : Kind) (key : ObjectKey) :
    setting.Sounds (Client.get kind key) before fun reply _ =>
      ∀ object, reply = .ok object → before.1.find kind key = some object := by
  have hcall : setting.WritesSound before.2 (.get kind key) := nofun
  have hafter := hbefore.after_call hcall (List.Subset.refl _)
  refine ⟨hafter.sound, hafter, fun object hobject => ?_⟩
  obtain ⟨-, hread⟩ := withFault_eq_ok hobject
  cases hfind : before.1.find kind key with
  | none => simp [World.read, hfind] at hread
  | some found =>
    simp only [World.read, hfind, Except.ok.injEq] at hread
    rw [hread]

theorem sounds_fetchHttp (request : HttpRequest) :
    setting.Sounds (fetchHttp request) before fun reply visited =>
      ∃ asked ∈ visited,
        setting.surroundings.http asked.tick request = reply := by
  have hcall : setting.WritesSound before.2 (.perform (.http request)) :=
    nofun
  have hafter := hbefore.after_call hcall (List.Subset.refl _)
  exact ⟨hafter.sound, hafter, before.1, hafter.grows hbefore.visited, rfl⟩

theorem Sounds.fail {Post : α → List Cluster → Prop}
    {abort : Abort ApiError} : setting.Sounds (.fail abort) before Post :=
  ⟨hbefore, List.Subset.refl _⟩

theorem Sounds.ofExcept_bind {β : Type} {result : Except String α}
    {next : α → Go β} {Post : β → List Cluster → Prop}
    (hnext : ∀ value, result = .ok value →
      setting.Sounds (next value) before Post) :
    setting.Sounds ((Program.ofExcept result).bind next) before Post := by
  cases result with
  | error message => exact .fail hbefore
  | ok value => exact hnext value rfl

theorem sounds_findToken :
    setting.Sounds (findToken setting.cr copy) before fun found visited =>
      found.1 = "" ∨ setting.Origin visited copy.id found.1 := by
  refine .bind (sounds_get hbefore _ _) fun reply after hafter hreply => ?_
  split
  · exact .done hafter.sound (.inl rfl)
  · exact .fail hafter.sound
  next secret =>
    split
    · exact .fail hafter.sound
    next token htoken =>
      refine .ofExcept_bind hafter.sound fun lifetime _ =>
        .done hafter.sound (.inr ?_)
      have hstored : StoredToken setting.cr before.1 copy.id token :=
        ⟨secret, hreply secret rfl, htoken⟩
      exact (hbefore.origin _ _ hstored).mono hafter.grows

theorem sounds_refreshToken {oldToken : String}
    (hcopy : setting.CompletedEntry before.2 copy.id copy)
    (hold : oldToken = "" ∨ setting.Origin before.2 copy.id oldToken) :
    setting.Sounds (refreshToken setting.platform copy oldToken) before
      fun renewed visited => setting.Origin visited copy.id renewed.1 := by
  refine .wrapping ?_
  unfold fetchToken
  split
  next htype =>
    unfold fetchDexToken
    split
    next hdex =>
      refine .done hbefore ?_
      rcases hold with rfl | horigin
      · exact .empty hcopy (fun _ => hdex) rfl
      · exact horigin
    next dexConfig hdex =>
      refine .ofExcept_bind hbefore fun url hurl => ?_
      refine .bind (sounds_fetchHttp hbefore _)
        fun reply after hafter hreply => ?_
      obtain ⟨asked, hasked, hreply⟩ := hreply
      refine .ofExcept_bind hafter.sound fun response hresponse => ?_
      split
      · exact .fail hafter.sound
      next hstatus =>
        refine .ofExcept_bind hafter.sound fun decoded hdecode => ?_
        obtain ⟨token, lifetime⟩ := decoded
        refine .bind (.of_reads hafter.sound writesKinds_timeNow)
          fun now later hlater _ => .done hlater.sound ?_
        obtain ⟨code, body⟩ := response
        obtain rfl : code = 200 := by simpa using hstatus
        exact .fetched (hcopy.mono (List.Subset.trans hafter.grows
          hlater.grows)) htype hdex hurl (hlater.grows hasked)
            (hreply.trans hresponse) hdecode
  next htype =>
    exact .done hbefore (.empty hcopy (fun hdex => absurd hdex htype) rfl)

theorem sounds_saveToken {token : String} {lifetime : Int}
    (horigin : setting.Origin before.2 copy.id token) :
    setting.Sounds (saveToken setting.cr copy token lifetime) before
      fun _ _ => True := by
  have hwrite (object written : Resource SecretSpec) (id : String)
      (hid : tokenKey setting.cr copy.id = tokenKey setting.cr id)
      (hwritten : tokenSecret token lifetime object = written)
      (found : String) (hfound : written.spec.data.get? "token" = some found) :
      setting.Origin before.2 id found := by
    obtain rfl := tokenKey_inj.mp hid
    subst hwritten
    rw [tokenSecret, StringMap.get?_set_of_ne _ _ (by decide),
      StringMap.get?_set_self] at hfound
    cases hfound
    exact horigin
  refine .of_uses (.wrapping (.bind (upsert_uses nofun ?_ ?_)
    fun _ => trivial)) hbefore
  · rintro object id written (hcall | hcall)
    · obtain ⟨-, hid, hwritten⟩ := ApiCall.create.inj hcall
      exact hwrite object written id hid (eq_of_heq hwritten)
    · cases hcall
  · rintro object id written (hcall | hcall)
    · cases hcall
    · obtain ⟨-, hid, hwritten⟩ := ApiCall.update.inj hcall
      exact hwrite object written id hid (eq_of_heq hwritten)

theorem sounds_reconcileToken
    (hcopy : setting.CompletedEntry before.2 copy.id copy) :
    setting.Sounds (reconcileToken setting.platform setting.cr copy) before
      fun _ _ => True := by
  unfold reconcileToken
  split
  · exact .done hbefore trivial
  · refine .bind (.wrapping (sounds_findToken hbefore))
      fun found after hafter hfound => ?_
    have hexpires : setting.Sounds
        (if found.1 = "" then .done true else authTokenExpires found.2)
        after fun _ _ => True := by
      split
      · exact .done hafter.sound trivial
      · exact .of_reads hafter.sound (writesKinds_authTokenExpires _)
    refine .bind hexpires fun expired later hlater _ => ?_
    split
    · have hlonger := List.Subset.trans hafter.grows hlater.grows
      refine .bind (.attempt (sounds_refreshToken hlater.sound
        (hcopy.mono hlonger) (hfound.imp id fun horigin =>
          horigin.mono hlater.grows))) fun result last hlast hrenewed => ?_
      split
      · exact .done hlast.sound trivial
      next renewed =>
        exact .bind (.attempt (sounds_saveToken hlast.sound
          (hrenewed renewed rfl))) fun _ end' hend _ => .done hend.sound trivial
    · exact .done hlater.sound trivial

end Entry

end TokenSetting

namespace TokenSetting

variable {setting : TokenSetting} {before : Cluster × List Cluster}
  {index : RepositoryIndex} (hbefore : setting.Sound before)
include hbefore

theorem sounds_transformObservatorium {entry : ObservatoriumIndex}
    (hentry : entry ∈ setting.entries) :
    setting.Sounds
      (transformObservatorium setting.platform setting.cr entry) before
      fun copy visited => setting.CompletedEntry visited copy.id copy := by
  have hkinds : WritesKinds []
      (transformObservatorium setting.platform setting.cr entry) :=
    writesKinds_transformObservatorium entry
  have hreads : setting.Sounds _ before _ := .of_reads hbefore hkinds
  obtain ⟨hinv, hok, herr⟩ := ensures_iff.mp hreads
  refine ensures_iff.mpr ⟨hinv, fun copy after hrun => ?_, herr⟩
  have hafter := (hok copy after hrun).1
  have hplain := run_recording (serve setting.surroundings.environment)
    (transformObservatorium setting.platform setting.cr entry) before.1
    before.2
  rw [hrun] at hplain
  obtain ⟨hresult, hstates⟩ := Prod.mk.inj hplain
  have hcopy : setting.surroundings.run
      (transformObservatorium setting.platform setting.cr entry) before.1 =
        (.ok copy, _) := Prod.ext hresult.symm rfl
  exact ⟨hafter, entry, hentry, (id_of_run_transformObservatorium hcopy).symm,
    before.1, hafter.grows hbefore.visited, _, hcopy⟩

theorem sounds_reconcileEntries {rest : List ObservatoriumIndex}
    (hrest : rest ⊆ setting.entries) :
    setting.Sounds (reconcileEntries setting.platform setting.cr rest) before
      fun _ _ => True := by
  induction rest generalizing before with
  | nil => exact .done hbefore trivial
  | cons entry rest ih =>
    have hentry := hrest List.mem_cons_self
    have htail : rest ⊆ setting.entries := fun other hother =>
      hrest (List.mem_cons_of_mem _ hother)
    refine .bind (.attempt (sounds_transformObservatorium hbefore hentry))
      fun result after hafter hcopy => ?_
    split
    · exact .done hafter.sound trivial
    next completed =>
      refine .bind (.attempt (sounds_reconcileToken hafter.sound
        (hcopy completed rfl))) fun reconciled later hlater _ => ?_
      split
      · exact .done hlater.sound trivial
      · exact .bind (ih hlater.sound htail) fun others last hlast _ =>
          .done hlast.sound trivial

theorem Sounds.collect {α β : Type} {items : List α} {body : α → Go β}
    (hbody : ∀ item ∈ items, ∀ state, setting.Sound state →
      setting.Sounds (body item) state fun _ _ => True) :
    setting.Sounds (Program.collect items body) before fun _ _ => True := by
  induction items generalizing before with
  | nil => exact .done hbefore trivial
  | cons item rest ih =>
    refine .bind (hbody item List.mem_cons_self before hbefore)
      fun value after hafter _ => ?_
    refine .bind (ih hafter.sound fun other hother =>
      hbody other (List.mem_cons_of_mem _ hother))
        fun values later hlater _ => .done hlater.sound trivial

theorem sounds_reconcileObservatoria
    (hentries : index.observatoria ⊆ setting.entries) :
    setting.Sounds
      (reconcileObservatoria setting.platform setting.cr index) before
      fun outcome _ => outcome.1.source = index.source := by
  unfold reconcileObservatoria
  split
  · exact .done hbefore rfl
  next config hconfig =>
    split
    · exact .done hbefore rfl
    · rw [RepositoryIndex.observatoria, hconfig] at hentries
      refine .bind (sounds_reconcileEntries hbefore hentries)
        fun outcome after hafter _ => ?_
      split
      · exact .done hafter.sound rfl
      · exact .done hafter.sound rfl

theorem sounds_stampConfigSource
    (hsource : ∀ source, index.source = some source →
      setting.cluster.find .secret source.key = some source.secret) :
    setting.Sounds (stampConfigSource index) before fun _ _ => True := by
  unfold stampConfigSource
  split
  · exact .done hbefore trivial
  next source hindex =>
    refine .of_uses (.bind (.send ?_) fun _ => trivial) hbefore
    rintro id written (hcall | hcall)
    · cases hcall
    · obtain ⟨-, hkey, hwritten⟩ := ApiCall.update.inj hcall
      obtain rfl := eq_of_heq hwritten
      intro token htoken
      refine .stored ⟨source.secret, ?_, htoken⟩
      rw [← hkey]
      exact hsource source hindex

theorem sounds_completeObservatoria
    (hentries : index.observatoria ⊆ setting.entries)
    (hsource : ∀ source, index.source = some source →
      setting.cluster.find .secret source.key = some source.secret) :
    setting.Sounds
      (completeObservatoria setting.platform setting.cr index) before
      fun _ _ => True := by
  refine .bind (sounds_reconcileObservatoria hbefore hentries)
    fun outcome after hafter hleft => ?_
  obtain ⟨left, result⟩ := outcome
  cases result with
  | error error => exact .done hafter.sound trivial
  | ok done =>
    refine .bind (sounds_stampConfigSource hafter.sound ?_)
      fun _ later hlater _ => .done hlater.sound trivial
    intro source hstamp
    exact hsource source (hleft.symm.trans hstamp)

theorem sounds_deleteUnrequestedCredentialSecrets
    (indexes : List RepositoryIndex) :
    setting.Sounds
      (deleteUnrequestedCredentialSecrets setting.cr indexes) before
      fun _ _ => True := by
  refine .of_uses (.bind (.send nofun) fun reply => .forEach
    fun item _ => ?_) hbefore
  split
  · trivial
  · exact .wrapping (.bind (.send nofun) fun _ => Client.uses_orFail _ _)

end TokenSetting

/-- After a sync every stored token has an origin in the sync. -/
theorem origin_of_storedToken {platform : Platform}
    {env : Surroundings} {cr : Observability}
    {indexes : List RepositoryIndex} {cluster after : Cluster}
    {id token : String} (hsources : Sourced cluster indexes)
    (hrun : env.run (configure platform cr indexes) cluster =
      (.ok (), after)) (hstored : StoredToken cr after id token) :
    TokenSetting.Origin
      ⟨platform, env, cr,
        indexes.flatMap RepositoryIndex.observatoria, cluster⟩
      ((configure platform cr indexes).visited
        (serve env.environment) cluster) id token := by
  let setting : TokenSetting := ⟨platform, env, cr,
    indexes.flatMap RepositoryIndex.observatoria, cluster⟩
  have hstart : setting.Sound (cluster, [cluster]) :=
    ⟨List.mem_singleton.mpr rfl, fun _ _ hbefore => .stored hbefore⟩
  have hwritten {α : Type} {program : Go α}
      {permitted : Kind → ObjectKey → Prop} {state : Cluster × List Cluster}
      (huses : program.Uses (ApiCall.WritesOnly permitted))
      (hpermitted : ∀ id, ¬ permitted .secret (tokenKey cr id))
      (hstate : setting.Sound state) :
      setting.Sounds program state fun _ _ => True :=
    .of_uses (huses.mono fun _ hcall => .of_writesOnly hcall hpermitted) hstate
  have hsync : setting.Sounds (configure platform cr indexes)
      (cluster, [cluster]) fun _ _ => True := by
    refine .bind
      (TokenSetting.sounds_deleteUnrequestedCredentialSecrets hstart _)
      fun _ cleared hcleared _ => ?_
    have hcomplete : setting.Sounds (completeIndexes platform cr indexes)
        cleared fun _ _ => True := by
      refine .collect hcleared.sound fun index hindex state hstate => ?_
      refine TokenSetting.sounds_completeObservatoria hstate
        (fun entry hentry => ?_) (hsources index hindex)
      exact List.mem_flatMap.mpr ⟨index, hindex, hentry⟩
    refine .bind hcomplete fun completed credentials hcredentials _ => ?_
    rw [applyIndexes_eq]
    refine .bind (hwritten (writesKinds_syncTokenRefreshers completed).uses
      (fun _ => by decide) hcredentials.sound)
        fun _ refreshers hrefreshers _ => ?_
    exact hwritten (restWrites_applyRest platform cr completed)
      (fun _ => not_restWrites_secret (by simp)) hrefreshers.sound
  have hafter := Program.Ensures.of_recording hsync hrun
  exact hafter.1.sound.origin id token hstored

/-! ## The sources in a pass -/

section Sources

variable {platform : Platform} {env : Surroundings}
  {cr : Observability} {cluster loading loaded : Cluster}
  {repos : List (String × RepositoryInfo)}
  {secrets : List (ObjectKey × Resource SecretSpec)}

theorem source_of_run_collectRepositories {source : Option ConfigSource}
    {found : List (String × RepositoryInfo)}
    (hfound : ∀ repo ∈ found, repo.2.source = source)
    (hrun : env.run
      (collectRepositories platform cr source found secrets) cluster =
        (.ok repos, loading)) : ∀ repo ∈ repos, repo.2.source = source := by
  induction secrets generalizing found cluster with
  | nil =>
    cases hrun
    exact hfound
  | cons item rest ih =>
    unfold collectRepositories at hrun
    split at hrun
    next => exact ih hfound hrun
    next =>
      obtain ⟨_, written, -, hrest⟩ := run_bind_eq_ok hrun
      refine ih (fun repo hrepo => ?_) hrest
      rcases List.mem_append.mp hrepo with hearlier | hnew
      · exact hfound repo hearlier
      · obtain rfl := List.mem_singleton.mp hnew
        rfl

theorem mem_of_lastSource {source : ConfigSource}
    (hsource : lastSource secrets = some source) :
    (source.key, source.secret) ∈ secrets := by
  unfold lastSource at hsource
  obtain ⟨item, hlast, rfl⟩ := Option.map_eq_some_iff.mp hsource
  exact List.mem_of_getLast? hlast

theorem find_of_run_listConfigSecrets
    (hrun : env.run (listConfigSecrets cr) cluster = (.ok secrets, loading)) :
    ∀ item ∈ secrets, loading.find .secret item.1 = some item.2 := by
  intro item hitem
  obtain ⟨selector, _, hderef, hrun⟩ := run_bind_eq_ok hrun
  split at hrun
  next =>
    cases hrun
    cases hitem
  next =>
    obtain ⟨rfl, rfl⟩ := run_list_orFail_eq_ok hrun
    exact ((World.mem_select_iff _ _ _ _ _).mp hitem).1

theorem sourced_of_run {order : IterationOrder} {migrated : Bool}
    {indexes : List RepositoryIndex}
    (hprepare : env.run (prepare platform cr migrated) cluster =
      (.ok (.load repos), loading))
    (hcollect : env.run (collectIndexes platform cr order repos)
      loading = (.ok indexes, loaded)) : Sourced loaded indexes := by
  have hkept {α : Type} {program : Go α} {before after : Cluster}
      {result : Except (Abort ApiError) α}
      (huses : program.Uses (ApiCall.WritesOnly (ServesResources cr)))
      (hrun : env.run program before = (result, after)) (key : ObjectKey) :
      after.find .secret key = before.find .secret key :=
    Surroundings.find_of_writesOnly hrun huses (by simp [ServesResources])
  have hresources : AllowsResources cr _ := servesResources_allowsResources
  have hreads : AllowsReads (ApiCall.WritesOnly (ServesResources cr)) :=
    allowsReads_writesOnly _
  obtain ⟨checked, secrets, listed, written, -, hlist, hwrite, hwait⟩ :=
    run_prepare_eq_load hprepare
  have hloading (key : ObjectKey) :
      loading.find .secret key = listed.find .secret key := by
    rw [← hkept (hresources.collectRepositories _ _ _) hwrite]
    rcases hwait with rfl | ⟨status, hwait⟩
    · rfl
    · exact hkept (hreads.waitForResourcesDeployment cr) hwait key
  have hpairs := run_collect_forall₂
    (fun repo index => index.source = repo.source)
    (fun repo _ state after index hload => source_of_run_loadIndex hload)
    hcollect
  intro index hindex source hsource
  obtain ⟨repo, hrepo, hsame⟩ := exists_of_forall₂ hpairs.flip hindex
  obtain ⟨item, hitem, rfl⟩ := List.mem_map.mp ((order.perm _).mem_iff.mp hrepo)
  have hlast : lastSource secrets = some source := by
    rw [← source_of_run_collectRepositories (by simp) hwrite item hitem,
      ← hsame, hsource]
  rw [hkept (hreads.collectIndexes platform cr order repos) hcollect, hloading]
  exact find_of_run_listConfigSecrets hlist _ (mem_of_lastSource hlast)

end Sources

end ObservabilityOperator
