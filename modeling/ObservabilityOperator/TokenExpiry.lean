import ObservabilityOperator.TokenStore

/-!
# Tokens that run out

An answer of the token endpoint says in how many seconds the token expires.
The number becomes a duration of nanoseconds in 64 bits, the end of that
duration a number of whole seconds, and this number is stored as text and read
again before every renewal.
-/

namespace ObservabilityOperator

open Program

/-! ## Fetching, storing and reading a lifetime -/

def fetchedTokenExpires (platform : Platform) (cr : Observability)
    (entry : ObservatoriumIndex) (oldToken : String) : Go Bool := do
  let renewed ← refreshToken platform entry oldToken
  saveToken cr entry renewed.1 renewed.2
  let found ← findToken cr entry
  authTokenExpires found.2

/-- The token of the entry is answered at one time, and the clock shows the
other ever after. -/
structure FetchedAndChecked (platform : Platform) (env : Surroundings)
    (cluster : Cluster) (entry : ObservatoriumIndex)
    (fetched expiresIn now : Int) : Prop where
  faultless : env.environment.Faultless
  dex : entry.authType = .dex
  answered : ∃ dexConfig url body token, entry.dexConfig = some dexConfig ∧
    platform.urlParse (dexConfig.url ++ "/dex/token") = .ok url ∧
    env.http cluster.tick (dexTokenRequest entry dexConfig url) =
      .ok ⟨200, body⟩ ∧
    platform.unmarshalToken body = .ok (token, expiresIn)
  fetchedAt : env.clock (cluster.tick + 1) = fetched
  checkedAt : ∀ tick, cluster.tick + 1 < tick → env.clock tick = now

def tokenFound : Option (Resource SecretSpec) → Option (String × Int)
  | none => some ("", 0)
  | some secret =>
    match secret.spec.data.get? "token" with
    | none => none
    | some token =>
      match GoStrings.parseInt64
          ((secret.spec.data.get? "lifetime").getD "0") with
      | .ok expires => some (token, expires)
      | .error _ => none

theorem tokenFound_tokenSecret (token : String) {lifetime : Int}
    (hlow : -2 ^ 63 ≤ lifetime) (hhigh : lifetime < 2 ^ 63)
    (secret : Resource SecretSpec) :
    tokenFound (some (tokenSecret token lifetime secret)) =
      some (token, lifetime) := by
  have htoken : (tokenSecret token lifetime secret).spec.data.get? "token" =
      some token := by
    simp only [tokenSecret]
    rw [StringMap.get?_set_of_ne _ _ (by decide), StringMap.get?_set_self]
  have hlifetime : (tokenSecret token lifetime secret).spec.data.get?
      "lifetime" = some (GoStrings.formatInt lifetime) :=
    StringMap.get?_set_self _ _ _
  simp [tokenFound, htoken, hlifetime,
    GoStrings.parseInt64_formatInt hlow hhigh]

section Chain

variable {platform : Platform} {env : Surroundings}
  {cr : Observability} {cluster : Cluster} {entry : ObservatoriumIndex}
  {fetched expiresIn now : Int}

theorem run_findToken_of_found (hfaultless : env.environment.Faultless)
    {secret : Resource SecretSpec} {found : String × Int}
    (hsecret : cluster.find .secret (tokenKey cr entry.id) = some secret)
    (hfound : tokenFound (some secret) = some found) :
    env.run (findToken cr entry) cluster = (.ok found, cluster.advance) := by
  rw [findToken, bind_eq_bind]
  refine (Surroundings.run_get_bind_of_find hsecret (hfaultless _ _)).trans ?_
  unfold tokenFound at hfound
  dsimp only at hfound ⊢
  cases htoken : secret.spec.data.get? "token" with
  | none => simp [htoken] at hfound
  | some token =>
    cases hparse : GoStrings.parseInt64
        ((secret.spec.data.get? "lifetime").getD "0") with
    | error message => simp [htoken, hparse] at hfound
    | ok expires =>
      simp only [htoken, hparse, Option.some.injEq] at hfound
      subst hfound
      rfl

theorem run_fetchedTokenExpires (oldToken : String)
    (hfetched : -2 ^ 63 ≤ fetched ∧ fetched < 2 ^ 63)
    (hsetting : FetchedAndChecked platform env cluster entry fetched
      expiresIn now) :
    (env.run (fetchedTokenExpires platform cr entry oldToken)
      cluster).1 = .ok (tokenDue now (tokenExpiry fetched expiresIn)) := by
  obtain ⟨dexConfig, url, body, token, hconfig, hurl, hhttp, hdecoded⟩ :=
    hsetting.answered
  have hrefresh : env.run (refreshToken platform entry oldToken)
      cluster = (.ok (token, tokenExpiry fetched expiresIn),
        cluster.advance.advance) := by
    rw [← hsetting.fetchedAt, Surroundings.run, refreshToken,
      run_wrapping_eq_ok, fetchToken, hsetting.dex]
    exact run_fetchDexToken_of_answer hconfig hurl hhttp hdecoded oldToken
  obtain ⟨saved, hsave⟩ : ∃ saved, env.run
      (saveToken cr entry token (tokenExpiry fetched expiresIn))
        cluster.advance.advance = (.ok (), saved) := by
    obtain ⟨saved, hupsert⟩ := exists_run_upsert_discarded hsetting.faultless
      cluster.advance.advance
    exact ⟨saved, run_wrapping_eq_ok.mpr hupsert⟩
  obtain ⟨hsecret, -, -⟩ :=
    run_upsert_discarded_eq_ok (run_wrapping_eq_ok.mp hsave)
  have hrange := tokenExpiry_inRange hfetched expiresIn
  have hfind := run_findToken_of_found hsetting.faultless hsecret
    (tokenFound_tokenSecret token (by omega) (by omega) _)
  have hlater : cluster.tick + 1 < saved.advance.tick := by
    have htick : cluster.tick + 1 + 1 ≤ saved.tick := tick_le_of_run hsave
    exact Nat.lt_succ_of_lt htick
  rw [fetchedTokenExpires, bind_eq_bind, Surroundings.run,
    run_bind_ok hrefresh, bind_eq_bind,
    run_bind_ok hsave, bind_eq_bind, run_bind_ok hfind,
    ← hsetting.checkedAt _ hlater]
  exact congrArg Prod.fst (run_authTokenExpires _ _)

end Chain

/-! ## Which lifetimes are noticed -/

/-- As a duration in 64 bits, the lifetime ends after the first second of
1970, and not more than an hour from now unless the lifetime is longer. -/
structure Noticeable (fetched expiresIn : Int) : Prop where
  positive : nanoseconds - fetched ≤ wrapInt64 (nanoseconds * expiresIn)
  early : wrapInt64 (nanoseconds * expiresIn) <
    (max 3600 expiresIn + 1) * nanoseconds - fetched % nanoseconds

section Notice

variable {fetched expiresIn now : Int}

theorem tokenDue_tokenExpiry_iff
    (hfetched : -2 ^ 63 ≤ fetched ∧ fetched < 2 ^ 63) :
    tokenDue now (tokenExpiry fetched expiresIn) = true ↔
      0 < tokenExpiry fetched expiresIn ∧
        tokenExpiry fetched expiresIn * nanoseconds <
          now + 3600 * nanoseconds := by
  have hrange := tokenExpiry_inRange hfetched expiresIn
  have hwrap : wrapInt64 (tokenExpiry fetched expiresIn + unixToInternal) =
      tokenExpiry fetched expiresIn + unixToInternal := by
    apply wrapInt64_of_inRange <;>
      rw [show unixToInternal = 62135596800 from rfl] <;> omega
  rw [tokenDue, hwrap, Bool.and_eq_true, decide_eq_true_iff,
    decide_eq_true_iff, add_mul]
  omega

/-- The latest moment at which the token may not be noticed yet decides. -/
theorem forall_tokenDue_iff (hfetched : -2 ^ 63 ≤ fetched ∧ fetched < 2 ^ 63) :
    (∀ now, fetched < now →
        fetched + expiresIn * nanoseconds < now + 3600 * nanoseconds →
        tokenDue now (tokenExpiry fetched expiresIn) = true) ↔
      Noticeable fetched expiresIn := by
  simp only [tokenDue_tokenExpiry_iff hfetched]
  constructor
  · intro hdue
    have hfirst := hdue (max fetched (fetched + expiresIn * nanoseconds -
      3600 * nanoseconds) + 1) (by omega) (by omega)
    unfold tokenExpiry nanoseconds at *
    constructor <;> unfold nanoseconds <;> omega
  · rintro ⟨hpositive, hearly⟩ now hlater hexpired
    unfold tokenExpiry nanoseconds at *
    omega

theorem noticeable_iff_of_inRange
    (hrange : -9223372036 ≤ expiresIn ∧ expiresIn ≤ 9223372036) :
    Noticeable fetched expiresIn ↔
      nanoseconds ≤ fetched + expiresIn * nanoseconds := by
  have hwrap : wrapInt64 (nanoseconds * expiresIn) = nanoseconds * expiresIn := by
    apply wrapInt64_of_inRange <;> unfold nanoseconds <;> omega
  constructor
  · rintro ⟨hpositive, -⟩
    rw [hwrap] at hpositive
    unfold nanoseconds at *
    omega
  · intro hends
    constructor <;> rw [hwrap] <;> unfold nanoseconds at * <;> omega

end Notice

/-! ## Whether a token that has run out is noticed -/

def lifetimePlatform (expiresIn : Int) : Platform :=
  { Platform.plain with unmarshalToken := fun _ => .ok ("token", expiresIn) }

def twoMoments (fetched now : Int) : Surroundings :=
  { answeringSurroundings with
    clock := fun tick => if tick ≤ 1 then fetched else now }

theorem fetchedAndChecked_twoMoments (fetched expiresIn now : Int) :
    FetchedAndChecked (lifetimePlatform expiresIn) (twoMoments fetched now)
      Cluster.empty (dexEntry "tenant" {}) fetched expiresIn now where
  faultless _ _ := rfl
  dex := rfl
  answered := ⟨_, _, _, _, rfl, rfl, rfl, rfl⟩
  fetchedAt := rfl
  checkedAt _ htick := if_neg (Nat.not_le.mpr htick)

theorem run_twoMoments {fetched : Int}
    (hfetched : -2 ^ 63 ≤ fetched ∧ fetched < 2 ^ 63) (expiresIn now : Int) :
    ((twoMoments fetched now).run (fetchedTokenExpires
      (lifetimePlatform expiresIn) plainCr (dexEntry "tenant" {}) "")
        Cluster.empty).1 = .ok (tokenDue now (tokenExpiry fetched expiresIn)) :=
  run_fetchedTokenExpires "" hfetched (fetchedAndChecked_twoMoments _ _ _)

/-- Every moment at which a token is to be noticed, and every run in which it
was fetched, stored and is checked then, has it noticed exactly if the
lifetime is noticeable.  Lifetimes of less than about 292 years are noticeable
exactly if they end after the first second of 1970. -/
theorem expiredToken_noticed_iff {fetched expiresIn : Int}
    (hfetched : 0 < fetched ∧ fetched < 2 ^ 63) :
    ((∀ now, fetched < now →
        fetched + expiresIn * nanoseconds < now + 3600 * nanoseconds →
        ∀ platform env cr cluster entry oldToken,
          FetchedAndChecked platform env cluster entry fetched expiresIn now →
          (env.run (fetchedTokenExpires platform cr entry oldToken)
            cluster).1 = .ok true) ↔
      Noticeable fetched expiresIn) ∧
    (-9223372036 ≤ expiresIn ∧ expiresIn ≤ 9223372036 →
      (Noticeable fetched expiresIn ↔
        nanoseconds ≤ fetched + expiresIn * nanoseconds)) := by
  have hrange : -2 ^ 63 ≤ fetched ∧ fetched < 2 ^ 63 := ⟨by omega, hfetched.2⟩
  refine ⟨?_, noticeable_iff_of_inRange⟩
  rw [← forall_tokenDue_iff hrange]
  constructor
  · intro hnoticed now hlater hexpired
    have hrun := hnoticed now hlater hexpired _ _ plainCr _ _ ""
      (fetchedAndChecked_twoMoments fetched expiresIn now)
    rw [run_twoMoments hrange] at hrun
    exact Except.ok.inj hrun
  · intro hdue now hlater hexpired platform env cr cluster entry
      oldToken hsetting
    rw [run_fetchedTokenExpires oldToken hrange hsetting,
      hdue now hlater hexpired]

/-- A token of an hour that was fetched in November 2023 is noticed a moment
later. -/
theorem expiredToken_noticed_hour :
    ((twoMoments 1700000000000000000 1700000000000000001).run
      (fetchedTokenExpires (lifetimePlatform 3600) plainCr
        (dexEntry "tenant" {}) "") Cluster.empty).1 = .ok true := by
  have hnoticed := @expiredToken_noticed_iff 1700000000000000000 3600
    (by decide)
  refine hnoticed.1.mpr ((hnoticed.2 (by decide)).mpr (by decide))
    1700000000000000001 (by decide) (by decide) _ _ plainCr _ _ ""
      (fetchedAndChecked_twoMoments _ _ _)

/-- A lifetime that ended with the year 1969 is not noticed, and neither is
one that wraps around to the year 2315. -/
theorem pastLifetimes_unnoticed :
    ¬ (∀ now, 1700000000000000000 < now →
        1700000000000000000 + -1700000000 * nanoseconds <
          now + 3600 * nanoseconds →
        ((twoMoments 1700000000000000000 now).run (fetchedTokenExpires
          (lifetimePlatform (-1700000000)) plainCr (dexEntry "tenant" {}) "")
            Cluster.empty).1 = .ok true) ∧
      ¬ (∀ now, 1700000000000000000 < now →
        1700000000000000000 + -9223372037 * nanoseconds <
          now + 3600 * nanoseconds →
        ((twoMoments 1700000000000000000 now).run (fetchedTokenExpires
          (lifetimePlatform (-9223372037)) plainCr (dexEntry "tenant" {}) "")
            Cluster.empty).1 = .ok true) := by
  constructor
  · intro hnoticed
    have hrun := hnoticed 1700000000000000001 (by decide) (by decide)
    rw [run_twoMoments (by decide)] at hrun
    exact absurd (Except.ok.inj hrun) (by decide)
  · intro hnoticed
    have hrun := hnoticed 1700000000000000001 (by decide) (by decide)
    rw [run_twoMoments (by decide)] at hrun
    exact absurd (Except.ok.inj hrun) (by decide)

end ObservabilityOperator
