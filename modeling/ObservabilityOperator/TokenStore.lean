import ObservabilityOperator.CredentialRecursion
import ObservabilityOperator.TokenLifetimes

/-!
# What a renewal may do to a token

The empty token and a lifetime that is not positive have a meaning of their
own: there is no token, and the token does not expire.  Both are also what some
fetches return without an error.  Types other than Dex have the empty token, a
Dex entry without a configuration keeps its token and loses its lifetime, and
an answer of the token endpoint may leave either out.
-/

namespace ObservabilityOperator

open Program

/-! ## Tokens that are stored -/

def HoldsToken (secret : Resource SecretSpec) : Prop :=
  secret.spec.data.get "token" ≠ ""

/-- The secret has a positive lifetime. -/
def HoldsLifetime (secret : Resource SecretSpec) : Prop :=
  ∃ seconds, GoStrings.parseInt64 (secret.spec.data.get "lifetime") =
    .ok seconds ∧ 0 < seconds

/-- A secret that has changed holds a token, and a lifetime is not lost. -/
structure TokensKept (before after : Cluster) : Prop where
  token : ∀ key, after.find .secret key = before.find .secret key ∨
    ∃ secret, after.find .secret key = some secret ∧ HoldsToken secret
  lifetime : ∀ key secret, before.find .secret key = some secret →
    HoldsLifetime secret →
      ∃ later, after.find .secret key = some later ∧ HoldsLifetime later

def Rewritten (written : Resource SecretSpec → Prop)
    (before after : Cluster) : Prop :=
  ∀ key, after.find .secret key = before.find .secret key ∨
    ∃ secret, after.find .secret key = some secret ∧ written secret

def Sound (secret : Resource SecretSpec) : Prop :=
  HoldsToken secret ∧ HoldsLifetime secret

theorem tokensKept_of_rewritten {before after : Cluster}
    (hsound : Rewritten Sound before after) : TokensKept before after where
  token key := (hsound key).imp_right fun ⟨secret, hsecret, htoken, _⟩ =>
    ⟨secret, hsecret, htoken⟩
  lifetime key secret hsecret hlifetime := by
    rcases hsound key with hsame | ⟨later, hlater, -, hkept⟩
    · exact ⟨secret, hsame.trans hsecret, hlifetime⟩
    · exact ⟨later, hlater, hkept⟩

section Contents

variable {token : String} {lifetime : Int} {secret : Resource SecretSpec}

theorem get_token_tokenSecret (secret : Resource SecretSpec) :
    (tokenSecret token lifetime secret).spec.data.get "token" = token := by
  simp only [tokenSecret, StringMap.get]
  rw [StringMap.get?_set_of_ne _ _ (by decide), StringMap.get?_set_self]
  rfl

theorem get_lifetime_tokenSecret (secret : Resource SecretSpec) :
    (tokenSecret token lifetime secret).spec.data.get "lifetime" =
      GoStrings.formatInt lifetime := by
  simp only [tokenSecret, StringMap.get]
  rw [StringMap.get?_set_self]
  rfl

theorem holdsToken_tokenSecret_iff :
    HoldsToken (tokenSecret token lifetime secret) ↔ token ≠ "" := by
  rw [HoldsToken, get_token_tokenSecret]

theorem holdsLifetime_tokenSecret_iff (hlow : -2 ^ 63 ≤ lifetime)
    (hhigh : lifetime < 2 ^ 63) :
    HoldsLifetime (tokenSecret token lifetime secret) ↔ 0 < lifetime := by
  rw [HoldsLifetime, get_lifetime_tokenSecret,
    GoStrings.parseInt64_formatInt hlow hhigh]
  simp

end Contents

/-! ## Programs that write such secrets -/

def WritesSecrets (written : Resource SecretSpec → Prop)
    (call : ApiCall Kind.Spec Action) : Prop :=
  ∀ key, call.Writes .secret key → ∃ object : Resource SecretSpec,
    (call = .create .secret key object ∨ call = .update .secret key object) ∧
      written object

def FetchesAs (env : Surroundings) (platform : Platform)
    (written : Resource SecretSpec → Prop) (entry : ObservatoriumIndex) :
    Prop :=
  entry.authType = .redhat ∨
    ∀ oldToken token lifetime (state after : Cluster), 1 ≤ state.tick →
      env.run (fetchToken platform entry oldToken) state =
        (.ok (token, lifetime), after) →
      ∀ secret, written (tokenSecret token lifetime secret)

def FetchesAllAs (env : Surroundings) (platform : Platform)
    (cr : Observability) (written : Resource SecretSpec → Prop) :
    List ObservatoriumIndex → Prop
  | [] => True
  | entry :: rest =>
    ∀ state copy after,
      env.run (transformObservatorium platform cr entry) state =
        (.ok copy, after) →
      FetchesAs env platform written copy ∧
        FetchesAllAs env platform cr written rest

section Writing

variable {platform : Platform} {env : Surroundings}
  {cr : Observability} {before : Cluster} {entry : ObservatoriumIndex}
  {written : Resource SecretSpec → Prop} {α : Type} {state : Cluster}
  {program : Go α}

theorem Rewritten.step {call : ApiCall Kind.Spec Action}
    (hstate : Rewritten written before state)
    (hcall : WritesSecrets written call) :
    Rewritten written before (serve env.environment call state).2 := by
  intro key
  by_cases hwrites : call.Writes .secret key
  · obtain ⟨object, hput, hsort⟩ := hcall key hwrites
    rcases serve_find_of_put hput state with hkept | hplaced
    · rw [hkept]
      exact hstate key
    · exact .inr ⟨object, hplaced, hsort⟩
  · rw [serve_find _ hwrites]
    exact hstate key

theorem maintains_of_writesSecrets
    (huses : program.Uses (WritesSecrets written)) :
    program.Maintains (serve env.environment) (Rewritten written before) :=
  huses.maintains fun _ hcall _ hstate => hstate.step hcall

theorem maintains_of_writesKinds (hprogram : WritesKinds [] program) :
    program.Maintains (serve env.environment) (Rewritten written before) :=
  maintains_of_writesSecrets (hprogram.uses.mono
    fun _ hcall key hwrites => absurd (hcall .secret key hwrites)
      List.not_mem_nil)

theorem maintains_saveToken {token : String} {lifetime : Int}
    (hsort : ∀ secret, written (tokenSecret token lifetime secret)) :
    (saveToken cr entry token lifetime).Maintains
      (serve env.environment) (Rewritten written before) := by
  refine maintains_of_writesSecrets
    (.wrapping (.bind (upsert_uses nofun ?_ ?_) fun _ => trivial))
  · rintro object key ⟨-, rfl⟩
    exact ⟨_, .inl rfl, hsort object⟩
  · rintro object key ⟨-, rfl⟩
    exact ⟨_, .inr rfl, hsort object⟩

variable {after : Cluster}

theorem tick_le_of_run {result : Except (Abort ApiError) α}
    (hrun : env.run program state = (result, after)) :
    state.tick ≤ after.tick := by
  have htick := le_tick_run env.environment program state
  rw [Surroundings.run] at hrun
  rwa [hrun] at htick

theorem one_le_tick_of_run_findToken
    {result : Except (Abort ApiError) (String × Int)}
    (hrun : env.run (findToken cr entry) state = (result, after)) :
    1 ≤ after.tick := by
  rw [Surroundings.run, findToken, bind_eq_bind, run_get_bind] at hrun
  have htick : state.tick + 1 ≤ after.tick := tick_le_of_run hrun
  omega

theorem maintains_reconcileToken
    (hentry : FetchesAs env platform written entry) :
    (reconcileToken platform cr entry).Maintains
      (serve env.environment) (Rewritten written before) := by
  unfold reconcileToken
  split
  next => exact fun _ hstate => hstate
  next hother =>
    replace hentry := hentry.resolve_left hother
    intro state hstate
    refine (maintains_of_writesKinds (writesKinds_findToken _).wrapping state
      hstate).bind_run fun found read hfound hread => ?_
    have hcheck : (if found.1 = "" then .done true
        else authTokenExpires found.2 : Go Bool).Maintains
          (serve env.environment) (Rewritten written before) := by
      refine maintains_of_writesKinds ?_
      split
      · exact writesKinds_done _
      · exact writesKinds_authTokenExpires _
    refine (hcheck read hread).bind_run fun expired checked hchecked hkept => ?_
    split
    next =>
      refine (maintains_of_writesKinds (writesKinds_refreshToken _ _).attempt
        checked hkept).bind_run fun renewed fetched hrun hafter => ?_
      split
      next => exact hafter
      next =>
        have hread := one_le_tick_of_run_findToken
          (run_wrapping_eq_ok.mp hfound)
        have hsort := hentry _ _ _ _ _ (hread.trans (tick_le_of_run hchecked))
          (run_wrapping_eq_ok.mp (run_attempt_eq_ok_ok.mp hrun))
        refine ((maintains_saveToken hsort).attempt fetched hafter).bind
          fun _ _ hsaved => ?_
        exact hsaved
    next => exact hkept

theorem maintains_reconcileEntries {entries : List ObservatoriumIndex}
    (hentries : FetchesAllAs env platform cr written entries) :
    (reconcileEntries platform cr entries).Maintains
      (serve env.environment) (Rewritten written before) := by
  induction entries with
  | nil => exact fun _ hstate => hstate
  | cons entry rest ih =>
    intro state hstate
    refine (maintains_of_writesKinds (writesKinds_transformObservatorium
      entry).attempt state hstate).bind_run
        fun transformed read htransform hread => ?_
    split
    next => exact hread
    next copy =>
      obtain ⟨hcopy, hrest⟩ := hentries _ _ _
        (run_attempt_eq_ok_ok.mp htransform)
      refine Program.Maintains.bind (maintains_reconcileToken hcopy).attempt
        (fun renewed => ?_) read hread
      split
      next => exact fun _ hstate => hstate
      next => exact (ih hrest).bind fun _ _ hstate => hstate

theorem rewritten_of_run_reconcileObservatoria {index : RepositoryIndex}
    (hentries : cr.observatoriumDisabled = true ∨
      FetchesAllAs env platform cr written index.observatoria) :
    Rewritten written before (env.run
      (reconcileObservatoria platform cr index) before).2 := by
  have hmaintains : (reconcileObservatoria platform cr index).Maintains
      (serve env.environment) (Rewritten written before) := by
    unfold reconcileObservatoria
    split
    next => exact fun _ hstate => hstate
    next config hconfig =>
      split
      next => exact fun _ hstate => hstate
      next hconsidered =>
        have hreached := hentries.resolve_left (not_or.mp hconsidered).2
        rw [RepositoryIndex.observatoria, hconfig] at hreached
        refine (maintains_reconcileEntries hreached).bind fun outcome => ?_
        split <;> exact fun _ hstate => hstate
  exact (hmaintains before fun key => .inl rfl).run_snd

end Writing

/-! ## Conditions on entries and answers -/

namespace ObservatoriumIndex

/-- No token is needed, or it can be fetched. -/
def Renewable (entry : ObservatoriumIndex) : Prop :=
  entry.authType = .redhat ∨ (entry.authType = .dex ∧ entry.dexConfig.isSome)

/-- Its token cannot be fetched, and no secret completes it. -/
def Unfit (entry : ObservatoriumIndex) : Prop :=
  entry.secretName = "" ∧ ¬ entry.Renewable

/-- Some secret completes the entry. -/
def MayComplete (entry : ObservatoriumIndex) : Prop :=
  entry.secretName = "" ∨ entry.authType ∈ [.redhat, .unknown ""] ∨
    (entry.authType = .dex ∧ entry.dexConfig = none)

end ObservatoriumIndex

/-- An unfit entry is come to: those before it may be completed. -/
def UnfitReached : List ObservatoriumIndex → Prop
  | [] => False
  | entry :: rest => entry.Unfit ∨ (entry.MayComplete ∧ UnfitReached rest)

/-- An answer to a request for a token has a token in it, and a lifetime that
ends after the beginning of 1970.  The search for the old token comes before
the request. -/
def Surroundings.AnswersTokens (env : Surroundings)
    (platform : Platform) : Prop :=
  ∀ tick config dexConfig url body token expiresIn,
    platform.urlParse (dexConfig.url ++ "/dex/token") = .ok url →
    env.http (tick + 1) (dexTokenRequest config dexConfig url) =
      .ok ⟨200, body⟩ →
    platform.unmarshalToken body = .ok (token, expiresIn) →
      token ≠ "" ∧ 0 < (env.clock (tick + 2) +
        wrapInt64 (nanoseconds * expiresIn)) / nanoseconds

/-- The nanoseconds of the clock fit into 64 bits. -/
def Surroundings.ClockInRange (env : Surroundings) : Prop :=
  ∀ tick, -2 ^ 63 ≤ env.clock tick ∧ env.clock tick < 2 ^ 63

section Fetching

variable {platform : Platform} {env : Surroundings}
  {cr : Observability} {cluster after : Cluster}
  {entry copy : ObservatoriumIndex}

theorem fetchesAs_sound (hanswers : env.AnswersTokens platform)
    (hclock : env.ClockInRange) (hentry : entry.Renewable) :
    FetchesAs env platform Sound entry := by
  refine hentry.imp_right ?_
  rintro ⟨hdex, hconfig⟩ oldToken token lifetime state after htick hrun secret
  obtain ⟨dexConfig, hsome⟩ := Option.isSome_iff_exists.mp hconfig
  obtain ⟨tick, hsucc⟩ := Nat.exists_eq_add_of_le' htick
  rw [fetchToken, hdex, fetchDexToken, hsome] at hrun
  obtain ⟨url, hurl, hrun⟩ := run_ofExcept_bind_eq_ok hrun
  obtain ⟨reply, replied, hhttp, hrun⟩ := run_bind_eq_ok hrun
  cases hhttp
  obtain ⟨⟨code, body⟩, hresponse, hanswer⟩ := run_ofExcept_bind_eq_ok hrun
  split at hanswer
  next => cases hanswer
  next hcode =>
    obtain ⟨⟨served, expiresIn⟩, hdecoded, hstored⟩ :=
      run_ofExcept_bind_eq_ok hanswer
    cases hstored
    have hok : code = 200 := by simpa using hcode
    have hanswered : env.http (tick + 1)
        (dexTokenRequest entry dexConfig url) = .ok ⟨200, body⟩ := by
      rw [← hsucc, ← hok]
      exact hresponse
    obtain ⟨htoken, hpositive⟩ := hanswers _ _ _ _ _ _ _ hurl hanswered hdecoded
    have hrange := tokenExpiry_inRange (hclock (tick + 1 + 1)) expiresIn
    change Sound (tokenSecret token (tokenExpiry
      (env.clock (state.tick + 1)) expiresIn) secret)
    rw [hsucc]
    exact ⟨holdsToken_tokenSecret_iff.mpr htoken,
      (holdsLifetime_tokenSecret_iff (by omega) (by omega)).mpr hpositive⟩

theorem renewable_of_run_transformObservatorium (hentry : ¬ entry.Unfit)
    (hrun : env.run (transformObservatorium platform cr entry)
      cluster = (.ok copy, after)) : copy.Renewable := by
  obtain ⟨assigned, hassigned, hcopy⟩ := run_transformObservatorium_eq_ok hrun
  have hrenewable : assigned.Renewable := by
    cases hassigned with
    | own hname =>
      by_contra hrenewable
      exact hentry ⟨hname, hrenewable⟩
    | filled _ hfilled =>
      cases hfilled with
      | dex htype _ => exact .inr ⟨htype, rfl⟩
      | redhat htype => exact .inl htype
  rcases hcopy with rfl | ⟨hdex, _, rfl⟩
  · exact hrenewable
  · exact .inr ⟨hdex, rfl⟩

theorem mayComplete_of_run_transformObservatorium
    (hrun : env.run (transformObservatorium platform cr entry)
      cluster = (.ok copy, after)) : entry.MayComplete := by
  have hpasses := mayPass_of_run_transformObservatorium hrun
  by_cases hname : entry.secretName = ""
  · exact .inl hname
  obtain ⟨assigned, between, hassign, -⟩ := run_bind_eq_ok hrun
  rw [if_pos hname] at hassign
  by_cases hdex : entry.authType = .dex
  · exact .inr (.inr ⟨hdex, unconfigured_of_run_assignFromSecret hdex hassign⟩)
  · have htype := hpasses.resolve_left hname
    exact .inr (.inl ((List.mem_cons.mp htype).resolve_left hdex))

theorem fetchesAllAs_sound (hanswers : env.AnswersTokens platform)
    (hclock : env.ClockInRange) {entries : List ObservatoriumIndex}
    (hentries : ¬ UnfitReached entries) :
    FetchesAllAs env platform cr Sound entries := by
  induction entries with
  | nil => trivial
  | cons entry rest ih =>
    intro state copy after hrun
    obtain ⟨hentry, hrest⟩ := not_or.mp hentries
    refine ⟨fetchesAs_sound hanswers hclock
      (renewable_of_run_transformObservatorium hentry hrun), ih ?_⟩
    exact fun hreached =>
      hrest ⟨mayComplete_of_run_transformObservatorium hrun, hreached⟩

theorem tokensKept_of_fit {index : RepositoryIndex}
    (hanswers : env.AnswersTokens platform) (hclock : env.ClockInRange)
    (hindex : cr.observatoriumDisabled = true ∨
      ¬ UnfitReached index.observatoria) :
    TokensKept cluster (env.run
      (reconcileObservatoria platform cr index) cluster).2 :=
  tokensKept_of_rewritten (rewritten_of_run_reconcileObservatoria
    (hindex.imp_right (fetchesAllAs_sound hanswers hclock)))

end Fetching

/-! ## A store that loses its lifetimes -/

def staleSecret : Resource SecretSpec where
  spec :=
    { data := [("authType", "redhat"), ("token", ""), ("lifetime", "1")] }

theorem holdsLifetime_staleSecret : HoldsLifetime staleSecret :=
  ⟨1, by decide, by decide⟩

def Lapsed (secret : Resource SecretSpec) : Prop :=
  secret.spec.data.get "lifetime" = "0"

theorem Lapsed.not_holdsLifetime {secret : Resource SecretSpec}
    (hlapsed : Lapsed secret) : ¬ HoldsLifetime secret := by
  rintro ⟨seconds, hparse, hpositive⟩
  rw [Lapsed] at hlapsed
  rw [hlapsed] at hparse
  have hzero : GoStrings.parseInt64 "0" = .ok 0 := by decide
  rw [hzero] at hparse
  cases hparse
  exact absurd hpositive (by decide)

section Losing

variable {platform : Platform} {env : Surroundings}
  {cr : Observability} {cluster between after : Cluster}
  {entry copy : ObservatoriumIndex} {entries : List ObservatoriumIndex}

theorem run_reconcileToken_stale (hfaultless : env.environment.Faultless)
    (hother : entry.authType ≠ .redhat)
    (hstale : cluster.find .secret (tokenKey cr entry.id) = some staleSecret) :
    env.run (reconcileToken platform cr entry) cluster =
      env.run (renewToken platform cr entry "") cluster.advance := by
  have hfind : env.run (findToken cr entry) cluster =
      (.ok ("", 1), cluster.advance) := by
    rw [findToken, bind_eq_bind]
    exact Surroundings.run_get_bind_of_find hstale (hfaultless _ _)
  rw [reconcileToken_eq hother, Surroundings.run,
    run_bind_ok (run_wrapping_eq_ok.mpr hfind)]
  rfl

variable {token : String} {lifetime : Int} {index : RepositoryIndex}

theorem exists_run_renewToken_of_refresh
    (hfaultless : env.environment.Faultless) {oldToken : String}
    (hrefresh : env.run (refreshToken platform entry oldToken)
      cluster = (.ok (token, lifetime), between)) :
    ∃ after,
      env.run (renewToken platform cr entry oldToken) cluster =
        (.ok (), after) ∧
      tokenSlot cr after entry.id = some (tokenSecret token lifetime
        ((tokenSlot cr cluster entry.id).getD Kind.secret.blank)) ∧
      ∀ key, key ≠ tokenKey cr entry.id →
        after.find .secret key = cluster.find .secret key := by
  have hattempt : env.run
      (refreshToken platform entry oldToken).attempt cluster =
        (.ok (.ok (token, lifetime)), between) :=
    Program.run_attempt_eq_ok_ok.mpr hrefresh
  have hbetween (key : ObjectKey) :
      between.find .secret key = cluster.find .secret key :=
    (writesKinds_refreshToken _ _).find_eq hrefresh List.not_mem_nil key
  obtain ⟨after, hupsert⟩ : ∃ after, env.run
      ((upsert Kind.secret (tokenKey cr entry.id) Kind.secret.blank
        (tokenSecret token lifetime)).bind fun _ => .done ()) between =
          (.ok (), after) :=
    exists_run_upsert_discarded hfaultless between
  obtain ⟨hslot, -, hothers⟩ := run_upsert_discarded_eq_ok hupsert
  have hsave : env.run
      (saveToken cr entry token lifetime).attempt between =
        (.ok (.ok ()), after) :=
    Program.run_attempt_eq_ok_ok.mpr (Program.run_wrapping_eq_ok.mpr hupsert)
  refine ⟨after, ?_, ?_, ?_⟩
  · rw [Surroundings.run, renewToken, Program.bind_eq_bind,
      Program.run_bind_ok hattempt]
    exact (Program.run_bind_ok hsave).trans rfl
  · rw [tokenSlot, hslot, hbetween]
    rfl
  · intro key hkey
    rw [hothers .secret key fun hsame => hkey hsame.2.symm, hbetween]

theorem exists_run_reconcileToken_of_fetch
    (hfaultless : env.environment.Faultless) (hother : entry.authType ≠ .redhat)
    (hstale : cluster.find .secret (tokenKey cr entry.id) = some staleSecret)
    (hfetch : env.run (fetchToken platform entry "")
      cluster.advance = (.ok (token, lifetime), between)) :
    ∃ after,
      env.run (reconcileToken platform cr entry) cluster = (.ok (), after) ∧
      after.find .secret (tokenKey cr entry.id) =
        some (tokenSecret token lifetime staleSecret) := by
  obtain ⟨after, hrun, hslot, -⟩ := exists_run_renewToken_of_refresh
    hfaultless (run_wrapping_eq_ok.mpr hfetch)
  refine ⟨after, (run_reconcileToken_stale hfaultless hother hstale).trans hrun,
    hslot.trans ?_⟩
  have hslot : tokenSlot cr cluster.advance entry.id = some staleSecret := hstale
  rw [hslot]
  rfl

theorem run_transformObservatorium_of_unfit (hunfit : entry.Unfit) :
    env.run (transformObservatorium platform cr entry) cluster =
      (.ok entry, cluster) := by
  obtain ⟨hname, hrenewable⟩ := hunfit
  rw [transformObservatorium, if_neg (not_not.mpr hname)]
  simp only [bind_eq_bind, done_bind]
  split
  next hdex hsome => exact absurd (.inr ⟨hdex, by simp [hsome]⟩) hrenewable
  next => rfl

theorem exists_run_fetchToken_of_unfit (hunfit : entry.Unfit) :
    ∃ token, env.run (fetchToken platform entry "") cluster =
      (.ok (token, 0), cluster) := by
  unfold fetchToken
  split
  next hdex =>
    unfold fetchDexToken
    split
    next => exact ⟨_, rfl⟩
    next hsome =>
      exact absurd (.inr ⟨hdex, by simp [hsome]⟩) hunfit.2
  next => exact ⟨_, rfl⟩

theorem fetchesAs_lapsed : FetchesAs .quiet platform Lapsed entry := by
  right
  intro oldToken token lifetime state after _ hrun secret
  have hzero : lifetime = 0 := by
    unfold fetchToken fetchDexToken at hrun
    split at hrun
    next =>
      split at hrun
      next =>
        cases hrun
        rfl
      next =>
        obtain ⟨url, -, hrun⟩ := run_ofExcept_bind_eq_ok hrun
        cases hrun
    next =>
      cases hrun
      rfl
  rw [Lapsed, get_lifetime_tokenSecret, hzero]
  rfl

theorem fetchesAllAs_lapsed (entries : List ObservatoriumIndex) :
    FetchesAllAs .quiet platform cr Lapsed entries := by
  induction entries with
  | nil => trivial
  | cons entry rest ih => exact fun _ _ _ _ => ⟨fetchesAs_lapsed, ih⟩

theorem exists_run_reconcileToken_of_renewable (hentry : entry.Renewable)
    (hstale : cluster.find .secret (tokenKey cr entry.id) = some staleSecret) :
    ∃ after,
      Surroundings.quiet.run (reconcileToken platform cr entry) cluster =
        (.ok (), after) ∧
      ∀ key, after.find .secret key = cluster.find .secret key := by
  by_cases hredhat : entry.authType = .redhat
  · rw [reconcileToken, if_pos hredhat]
    exact ⟨cluster, rfl, fun _ => rfl⟩
  obtain ⟨hdex, hconfig⟩ := hentry.resolve_left hredhat
  obtain ⟨dexConfig, hsome⟩ := Option.isSome_iff_exists.mp hconfig
  rw [run_reconcileToken_stale (fun _ _ => rfl) hredhat hstale]
  rw [renewToken, refreshToken, fetchToken, hdex, fetchDexToken, hsome]
  dsimp only
  cases platform.urlParse (dexConfig.url ++ "/dex/token") with
  | error message => exact ⟨cluster.advance, rfl, fun _ => rfl⟩
  | ok url => exact ⟨cluster.advance.advance, rfl, fun _ => rfl⟩

theorem run_reconcileEntries_cons {rest : List ObservatoriumIndex}
    (htransform : env.run (transformObservatorium platform cr entry)
      cluster = (.ok copy, between))
    (hrenew : env.run (reconcileToken platform cr copy) between =
      (.ok (), after)) :
    (env.run (reconcileEntries platform cr (entry :: rest))
      cluster).2 = (env.run (reconcileEntries platform cr rest) after).2 := by
  rw [reconcileEntries, bind_eq_bind, Surroundings.run,
    run_bind_ok (run_attempt_eq_ok_ok.mpr htransform)]
  simp only [bind_eq_bind]
  rw [run_bind_ok (run_attempt_eq_ok_ok.mpr hrenew)]
  simp only [run_bind, Surroundings.run]
  rcases Program.run (serve env.environment)
    (reconcileEntries platform cr rest) after with ⟨result, last⟩
  cases result <;> rfl

theorem resolves_staleSecret (hcompletes : entry.MayComplete)
    (hname : entry.secretName ≠ "") : Resolves staleSecret entry := by
  rcases hcompletes.resolve_left hname with htype | ⟨hdex, hnone⟩
  · left
    simp only [List.mem_cons, List.not_mem_nil, or_false] at htype
    rcases htype with htype | htype <;>
      simp only [fillFromSecret, htype] <;> rfl
  · exact .inr ⟨by simp [fillFromSecret, hdex], hnone⟩

/-- Where an unfit entry is reached, some token never expires again. -/
theorem lapsed_of_unfitReached (hreached : UnfitReached entries)
    (hstale : ∀ entry ∈ entries, ∀ key ∈ entry.secretKeys cr,
      cluster.find .secret key = some staleSecret)
    (hdepth : 1 ≤ platform.stackDepth) :
    ∃ key secret, cluster.find .secret key = some staleSecret ∧
      (Surroundings.quiet.run (reconcileEntries platform cr entries)
        cluster).2.find .secret key = some secret ∧ Lapsed secret := by
  induction entries generalizing cluster with
  | nil => cases hreached
  | cons entry rest ih =>
    have hentry := hstale entry List.mem_cons_self
    have htoken : cluster.find .secret (tokenKey cr entry.id) =
        some staleSecret :=
      hentry _ (by simp [ObservatoriumIndex.secretKeys, tokenKey,
        getObservatoriumTokenSecretName])
    by_cases hunfit : entry.Unfit
    · have hfaultless : Surroundings.quiet.environment.Faultless :=
        fun _ _ => rfl
      obtain ⟨token, hfetch⟩ := exists_run_fetchToken_of_unfit hunfit
      obtain ⟨after, hrenew, hlost⟩ := exists_run_reconcileToken_of_fetch
        hfaultless (fun hredhat => hunfit.2 (.inl hredhat)) htoken hfetch
      rw [run_reconcileEntries_cons
        (run_transformObservatorium_of_unfit hunfit) hrenew]
      have hlapsed : Lapsed (tokenSecret token 0 staleSecret) :=
        get_lifetime_tokenSecret _
      rcases (maintains_reconcileEntries (fetchesAllAs_lapsed rest) after
          fun key => .inl rfl).run_snd (tokenKey cr entry.id)
        with hsame | ⟨secret, hsecret, hwritten⟩
      · exact ⟨_, _, htoken, hsame.trans hlost, hlapsed⟩
      · exact ⟨_, secret, htoken, hsecret, hwritten⟩
    · obtain ⟨hcompletes, hrest⟩ := hreached.resolve_left hunfit
      obtain ⟨copy, read, htransform, hid⟩ :=
        exists_run_transform_of_resolves hentry
          (resolves_staleSecret hcompletes) hdepth
      have hread (key : ObjectKey) :
          read.find .secret key = cluster.find .secret key :=
        (writesKinds_transformObservatorium entry).find_eq htransform
          List.not_mem_nil key
      have hcopy : read.find .secret (tokenKey cr copy.id) =
          some staleSecret := by
        rw [hid, hread, htoken]
      obtain ⟨after, hrenew, hkept⟩ :=
        exists_run_reconcileToken_of_renewable
          (renewable_of_run_transformObservatorium hunfit htransform) hcopy
      rw [run_reconcileEntries_cons htransform hrenew]
      obtain ⟨key, secret, hbefore, hafter, hlapsed⟩ := ih hrest
        fun other hother key hkey => by
          rw [hkept, hread]
          exact hstale other (List.mem_cons_of_mem _ hother) key hkey
      rw [hkept, hread] at hbefore
      exact ⟨key, secret, hbefore, hafter, hlapsed⟩

theorem run_reconcileObservatoria_of_config
    (henabled : ¬ cr.observatoriumDisabled = true)
    (hentries : index.observatoria ≠ []) :
    (env.run (reconcileObservatoria platform cr index) cluster).2 =
      (env.run (reconcileEntries platform cr index.observatoria)
        cluster).2 := by
  unfold reconcileObservatoria
  split
  next hconfig => simp [RepositoryIndex.observatoria, hconfig] at hentries
  next config hconfig =>
    have hobservatoria : index.observatoria = config.observatoria := by
      simp [RepositoryIndex.observatoria, hconfig]
    rw [hobservatoria] at hentries ⊢
    rw [if_neg (not_or.mpr ⟨hentries, henabled⟩)]
    simp only [bind_eq_bind, run_bind, Surroundings.run]
    rcases Program.run (serve env.environment)
      (reconcileEntries platform cr config.observatoria) cluster
        with ⟨result, last⟩
    cases result with
    | error abort => rfl
    | ok outcome =>
      dsimp only
      split <;> rfl

theorem unfitReached_ne_nil (hreached : UnfitReached entries) :
    entries ≠ [] := by
  rintro rfl
  exact hreached

theorem exists_not_tokensKept (henabled : ¬ cr.observatoriumDisabled = true)
    (hreached : UnfitReached index.observatoria)
    (hdepth : 1 ≤ platform.stackDepth) :
    ∃ cluster, ¬ TokensKept cluster (Surroundings.quiet.run
      (reconcileObservatoria platform cr index) cluster).2 := by
  let keys := index.observatoria.flatMap (ObservatoriumIndex.secretKeys cr)
  let stale : Cluster := keys.foldr
    (fun key cluster => cluster.put .secret key staleSecret) Cluster.empty
  have hstale : ∀ entry ∈ index.observatoria, ∀ key ∈ entry.secretKeys cr,
      stale.find .secret key = some staleSecret := fun entry hentry key hkey =>
    find_foldr_put (List.mem_flatMap.mpr ⟨entry, hentry, hkey⟩)
  refine ⟨stale, fun hkept => ?_⟩
  rw [run_reconcileObservatoria_of_config henabled
    (unfitReached_ne_nil hreached)] at hkept
  obtain ⟨key, secret, hbefore, hafter, hlapsed⟩ :=
    lapsed_of_unfitReached hreached hstale hdepth
  obtain ⟨later, hlater, hlifetime⟩ :=
    hkept.lifetime key _ hbefore holdsLifetime_staleSecret
  rw [hafter] at hlater
  cases hlater
  exact hlapsed.not_holdsLifetime hlifetime

end Losing

/-! ## A store that takes an answer -/

def dexEntry (tenant : String) (dexConfig : DexConfig) :
    ObservatoriumIndex where
  id := "metrics"
  tenant := tenant
  authType := .dex
  dexConfig := some { dexConfig with credentialSecretName := "" }

def oneDexIndex (tenant : String) (dexConfig : DexConfig) : RepositoryIndex where
  id := "kafka"
  config := some { observatoria := [dexEntry tenant dexConfig] }

def staleCluster (tick : ℕ) : Cluster :=
  { Cluster.empty.put .secret (tokenKey plainCr "metrics") staleSecret with
    tick := tick }

theorem find_staleCluster (tick : ℕ) : (staleCluster tick).find .secret
    (tokenKey plainCr "metrics") = some staleSecret :=
  World.find_put_self _ _ _ _

theorem not_unfitReached_oneDexIndex {tenant : String} {dexConfig : DexConfig} :
    ¬ UnfitReached (oneDexIndex tenant dexConfig).observatoria := by
  simp [oneDexIndex, RepositoryIndex.observatoria, UnfitReached,
    ObservatoriumIndex.Unfit, ObservatoriumIndex.Renewable, dexEntry]

section Answering

variable {platform : Platform} {env : Surroundings}

variable {dexConfig : DexConfig} {url : Url} {body token : String}
  {expiresIn : Int}

theorem run_fetchDexToken_of_answer {cluster : Cluster}
    {entry : ObservatoriumIndex} (hconfig : entry.dexConfig = some dexConfig)
    (hurl : platform.urlParse (dexConfig.url ++ "/dex/token") = .ok url)
    (hhttp : env.http cluster.tick
      (dexTokenRequest entry dexConfig url) = .ok ⟨200, body⟩)
    (hdecoded : platform.unmarshalToken body = .ok (token, expiresIn))
    (oldToken : String) :
    env.run (fetchDexToken platform entry oldToken) cluster =
      (.ok (token, tokenExpiry (env.clock (cluster.tick + 1))
        expiresIn), cluster.advance.advance) := by
  have hact : (env.environment.act cluster.tick
      (.http (dexTokenRequest entry dexConfig url)) cluster.memory).1 =
        .ok ⟨200, body⟩ := hhttp
  simp only [fetchDexToken, hconfig, hurl, Program.ofExcept,
    bind_eq_bind, done_bind]
  rw [fetchHttp, Surroundings.run, run_perform_bind, hact]
  simp only [done_bind, ne_eq, not_true, if_false, hdecoded]
  rfl

theorem find_of_answer (hfaultless : env.environment.Faultless) {tick : ℕ}
    {config : ObservatoriumIndex}
    (hurl : platform.urlParse (dexConfig.url ++ "/dex/token") = .ok url)
    (hhttp : env.http (tick + 1)
      (dexTokenRequest config dexConfig url) = .ok ⟨200, body⟩)
    (hdecoded : platform.unmarshalToken body = .ok (token, expiresIn)) :
    (env.run (reconcileObservatoria platform plainCr
        (oneDexIndex config.tenant dexConfig)) (staleCluster tick)).2.find
          .secret (tokenKey plainCr "metrics") =
      some (tokenSecret token (tokenExpiry (env.clock (tick + 2))
        expiresIn) staleSecret) := by
  have hother : (dexEntry config.tenant dexConfig).authType ≠ .redhat := by
    simp [dexEntry]
  have hstale : (staleCluster tick).find .secret
      (tokenKey plainCr (dexEntry config.tenant dexConfig).id) =
        some staleSecret := find_staleCluster tick
  have hfetch : env.run
      (fetchToken platform (dexEntry config.tenant dexConfig) "")
        (staleCluster tick).advance =
      (.ok (token, tokenExpiry (env.clock (tick + 2)) expiresIn),
        (staleCluster tick).advance.advance.advance) := by
    have hconfig : (dexEntry config.tenant dexConfig).dexConfig =
      some { dexConfig with credentialSecretName := "" } := rfl
    exact run_fetchDexToken_of_answer hconfig hurl hhttp hdecoded ""
  obtain ⟨after, hrenew, hfind⟩ :=
    exists_run_reconcileToken_of_fetch hfaultless hother hstale hfetch
  have htransform : env.run (transformObservatorium platform plainCr
      (dexEntry config.tenant dexConfig)) (staleCluster tick) =
        (.ok (dexEntry config.tenant dexConfig), staleCluster tick) := rfl
  rw [run_reconcileObservatoria_of_config (by decide) (by simp [oneDexIndex,
    RepositoryIndex.observatoria])]
  change (env.run (reconcileEntries platform plainCr
    [dexEntry config.tenant dexConfig]) (staleCluster tick)).2.find _ _ = _
  rw [run_reconcileEntries_cons htransform hrenew]
  exact hfind

end Answering

/-! ## When a store keeps its tokens -/

/-- With answers that have a token and an expiry date in them, an index keeps
the tokens of every store exactly if Observatoria are disabled or no unfit
entry can be reached.  Indexes of that kind keep the tokens of every store
exactly if all answers are like that. -/
theorem tokenStore_kept_iff (cr : Observability) (index : RepositoryIndex)
    (platform : Platform) {env : Surroundings} (hclock : env.ClockInRange) :
    ((∀ (other : Platform) (outside : Surroundings) (cluster : Cluster),
        outside.ClockInRange → outside.AnswersTokens other →
          TokensKept cluster (outside.run
            (reconcileObservatoria other cr index) cluster).2) ↔
      cr.observatoriumDisabled = true ∨ ¬ UnfitReached index.observatoria) ∧
    ((∀ fault (owner : Observability) (listed : RepositoryIndex)
        (cluster : Cluster), (owner.observatoriumDisabled = true ∨
          ¬ UnfitReached listed.observatoria) →
        TokensKept cluster (({ env with fault := fault } :
          Surroundings).run (reconcileObservatoria platform owner listed)
            cluster).2) ↔
      env.AnswersTokens platform) := by
  refine ⟨⟨fun hkept => ?_, fun hindex other outside cluster hfits hanswers =>
    tokensKept_of_fit hanswers hfits hindex⟩, ⟨fun hkept => ?_, ?_⟩⟩
  · by_contra hunfit
    obtain ⟨henabled, hreached⟩ := not_or.mp hunfit
    obtain ⟨cluster, hlost⟩ := @exists_not_tokensKept .plain cr index henabled
      (not_not.mp hreached) (by decide)
    have hfits : Surroundings.quiet.ClockInRange := fun _ => by
      simp [Surroundings.quiet]
    exact hlost (hkept .plain .quiet cluster hfits nofun)
  · intro tick config dexConfig url body token expiresIn hurl hhttp hdecoded
    let faultless : Surroundings := { env with fault := fun _ _ => none }
    have hstored := hkept faultless.fault plainCr
      (oneDexIndex config.tenant dexConfig) (staleCluster tick)
        (.inr not_unfitReached_oneDexIndex)
    have hfind : (faultless.run (reconcileObservatoria platform plainCr
        (oneDexIndex config.tenant dexConfig)) (staleCluster tick)).2.find
          .secret (tokenKey plainCr "metrics") = _ :=
      find_of_answer (fun _ _ => rfl) hurl hhttp hdecoded
    constructor
    · rcases hstored.token (tokenKey plainCr "metrics") with
        hsame | ⟨secret, hsecret, htoken⟩
      · have hstale := hfind.symm.trans (hsame.trans (find_staleCluster tick))
        cases congrArg Resource.labels (Option.some.inj hstale)
      · cases hfind.symm.trans hsecret
        exact holdsToken_tokenSecret_iff.mp htoken
    · have hrange := tokenExpiry_inRange (hclock (tick + 2)) expiresIn
      obtain ⟨later, hlater, hlifetime⟩ := hstored.lifetime _ _
        (find_staleCluster tick) holdsLifetime_staleSecret
      cases hfind.symm.trans hlater
      exact (holdsLifetime_tokenSecret_iff (hrange.1.trans' (by decide))
        (hrange.2.trans (by decide))).mp hlifetime
  · intro hanswers fault owner listed cluster hlisted
    have hfits : ({ env with fault } : Surroundings).ClockInRange :=
      hclock
    exact tokensKept_of_fit hanswers hfits hlisted

def hourPlatform (token : String) : Platform :=
  { Platform.plain with unmarshalToken := fun _ => .ok (token, 3600) }

theorem tokenStore_kept_dex :
    TokensKept (staleCluster 0) (answeringSurroundings.run
      (reconcileObservatoria (hourPlatform "token") plainCr
        (oneDexIndex "tenant" { url := "https://dex" })) (staleCluster 0)).2 ∧
    (¬ UnfitReached
        (oneDexIndex "tenant" { url := "https://dex" }).observatoria →
      TokensKept (staleCluster 7) (answeringSurroundings.run
        (reconcileObservatoria (hourPlatform "token") plainCr
          (oneDexIndex "tenant" { url := "https://dex" }))
            (staleCluster 7)).2) := by
  have hclock : answeringSurroundings.ClockInRange := fun _ => by
    simp [answeringSurroundings, Surroundings.quiet]
  have hanswers :
      answeringSurroundings.AnswersTokens (hourPlatform "token") := by
    intro tick config dexConfig url body token expiresIn _ _ hdecoded
    cases hdecoded
    have hexpiry : 0 < (0 + wrapInt64 (nanoseconds * 3600)) / nanoseconds := by
      decide
    exact ⟨by decide, hexpiry⟩
  have hkept := tokenStore_kept_iff plainCr
    (oneDexIndex "tenant" { url := "https://dex" }) (hourPlatform "token")
      hclock
  exact ⟨hkept.1.mpr (.inr not_unfitReached_oneDexIndex) _ _ _ hclock hanswers,
    fun hfit => hkept.2.mpr hanswers _ plainCr _ _ (.inr hfit)⟩

def expiringSecret : Resource SecretSpec where
  spec := { data := [("token", "old"), ("lifetime", "1")] }

def expiringCluster : Cluster :=
  Cluster.empty.put .secret (tokenKey plainCr "metrics") expiringSecret

/-- An answer without a token replaces the old one by the empty one, and an
entry without a configuration replaces the lifetime by zero. -/
theorem expiringCluster_degraded :
    ¬ TokensKept expiringCluster (answeringSurroundings.run
        (reconcileObservatoria (hourPlatform "") plainCr
          (oneDexIndex "tenant" { url := "https://dex" })) expiringCluster).2 ∧
      ¬ TokensKept expiringCluster (Surroundings.quiet.run
        (reconcileObservatoria Platform.plain plainCr
          { id := "kafka"
            config := some { observatoria :=
              [{ id := "metrics", authType := .dex }] } })
          expiringCluster).2 := by
  constructor
  · intro hkept
    have hlost : (answeringSurroundings.run (reconcileObservatoria
        (hourPlatform "") plainCr (oneDexIndex "tenant" { url := "https://dex" }))
          expiringCluster).2.find .secret (tokenKey plainCr "metrics") =
            some (tokenSecret "" 3600 expiringSecret) := by
      decide
    rcases hkept.token (tokenKey plainCr "metrics") with
      hsame | ⟨secret, hsecret, htoken⟩
    · have hold := hlost.symm.trans hsame
      revert hold
      decide
    · cases hlost.symm.trans hsecret
      exact htoken (get_token_tokenSecret _)
  · intro hkept
    have hlost : (Surroundings.quiet.run (reconcileObservatoria Platform.plain
        plainCr { id := "kafka", config := some { observatoria :=
          [{ id := "metrics", authType := .dex }] } }) expiringCluster).2.find
            .secret (tokenKey plainCr "metrics") =
          some (tokenSecret "old" 0 expiringSecret) := by
      decide
    obtain ⟨later, hlater, hlifetime⟩ := hkept.lifetime
      (tokenKey plainCr "metrics") expiringSecret rfl ⟨1, by decide, by decide⟩
    cases hlost.symm.trans hlater
    have hlapsed : Lapsed (tokenSecret "old" 0 expiringSecret) :=
      get_lifetime_tokenSecret _
    exact hlapsed.not_holdsLifetime hlifetime

end ObservabilityOperator
