import ObservabilityOperator.CredentialSecrets
import ObservabilityOperator.TokenProvenance

/-!
# How long a token lasts

A token that is about to expire forces a sync, and the sync is to renew it.
Three parts of the operator look at the secret of a token, each in its own way.
The check that forces a sync takes a secret without a lifetime for one that has
expired.  The search before a renewal takes it for one that never expires.  The
removal of unrequested secrets goes by the name only, so it keeps the secret of
an Observatorium that no longer has its token renewed.
-/

namespace ObservabilityOperator

open Program

/-! ## Tokens that are due -/

def tokenDue (now expires : Int) : Bool :=
  0 < expires && wrapInt64 (expires + unixToInternal) * nanoseconds <
    now + 3600 * nanoseconds + unixToInternal * nanoseconds

def lifetimeLasts (now : Int) : Option String → Bool
  | none => false
  | some text =>
    match GoStrings.parseInt64 text with
    | .ok expires => !tokenDue now expires
    | .error _ => false

def hasTokenLabels (secret : Resource SecretSpec) : Bool :=
  observatoriumTokenLabels.Matches secret.labels

/-- A secret that is labelled as that of a token forces a sync if its lifetime
is missing, is not a number or ends within the hour. -/
def Forces (now : Int) (secret : Resource SecretSpec) : Prop :=
  hasTokenLabels secret = true ∧
    lifetimeLasts now (secret.spec.data.get? "lifetime") = false

/-- The stored secret forces a sync at this time. -/
def Forced (now : Int) (cluster : Cluster) (key : ObjectKey) : Prop :=
  ∃ secret, cluster.find .secret key = some secret ∧ Forces now secret

section Expiry

variable {env : Surroundings} {cr : Observability}
  {cluster : Cluster}

theorem run_authTokenExpires (expires : Int) (cluster : Cluster) :
    env.run (authTokenExpires expires) cluster =
      (.ok (tokenDue (env.clock cluster.tick) expires),
        if 0 < expires then cluster.advance else cluster) := by
  unfold authTokenExpires tokenDue
  by_cases hpositive : 0 < expires
  · simp only [hpositive, decide_true, Bool.true_and]
    rfl
  · rw [if_neg hpositive, if_neg hpositive]
    simp [hpositive]

end Expiry

/-! ## Fetching a token -/

def tokenExpiry (now expiresIn : Int) : Int :=
  (now + wrapInt64 (nanoseconds * expiresIn)) / nanoseconds

theorem tokenExpiry_inRange {now : Int}
    (hnow : -2 ^ 63 ≤ now ∧ now < 2 ^ 63) (expiresIn : Int) :
    -2 ^ 36 ≤ tokenExpiry now expiresIn ∧
      tokenExpiry now expiresIn < 2 ^ 36 := by
  have hlow : -2 ^ 63 ≤ wrapInt64 (nanoseconds * expiresIn) :=
    Int.le_bmod (by decide)
  have hhigh : wrapInt64 (nanoseconds * expiresIn) < 2 ^ 63 :=
    Int.bmod_lt (by decide)
  unfold tokenExpiry
  rw [show nanoseconds = 1000000000 from rfl] at *
  omega

def tokenSlot (cr : Observability) (cluster : Cluster) (id : String) :
    Option (Resource SecretSpec) :=
  cluster.find .secret (tokenKey cr id)

/-- The secrets that stand in a cluster after another: what was stored on the
way, the newest first, over what was there. -/
def Stores (stored : List (ObjectKey × Resource SecretSpec))
    (before after : Cluster) : Prop :=
  ∀ key, after.find .secret key =
    (stored.lookup key).or (before.find .secret key)

section Storing

variable {stored later : List (ObjectKey × Resource SecretSpec)}
  {first second third : Cluster}

theorem stores_of_find
    (hfind : ∀ key, second.find .secret key = first.find .secret key) :
    Stores [] first second :=
  hfind

theorem Stores.trans (hfirst : Stores stored first second)
    (hsecond : Stores later second third) :
    Stores (later ++ stored) first third := by
  intro key
  rw [hsecond, hfirst, List.lookup_append, Option.or_assoc]

end Storing

def Surroundings.finish {α : Type} (env : Surroundings)
    (program : Go α) (cluster : Cluster) : Option (α × Cluster) :=
  match env.run program cluster with
  | (.ok value, after) => some (value, after)
  | (.error _, _) => none

/-- Whether the token that was found is to be renewed. -/
def renewalDue (found : String × Int) : Go Bool :=
  if found.1 = "" then .done true else authTokenExpires found.2

section Renewing

variable {α : Type} {platform : Platform} {env : Surroundings}
  {cr : Observability} {cluster after : Cluster} {program : Go α}
  {entry : ObservatoriumIndex}

theorem finish_of_ok {value : α}
    (hrun : env.run program cluster = (.ok value, after)) :
    env.finish program cluster = some (value, after) := by
  rw [Surroundings.finish, hrun]

theorem finish_of_error {abort : Abort ApiError}
    (hrun : env.run program cluster = (.error abort, after)) :
    env.finish program cluster = none := by
  rw [Surroundings.finish, hrun]

theorem run_wrapping_snd (program : Go α) (message : String)
    (cluster : Cluster) :
    (env.run (program.wrapping message) cluster).2 =
      (env.run program cluster).2 := by
  rw [Surroundings.run, run_wrapping, Surroundings.run]
  generalize program.run (serve env.environment) cluster = outcome
  rcases outcome with ⟨(error | panic) | value, after⟩ <;> rfl

/-- A run stores at most one secret. -/
def StoresAt (env : Surroundings) (key : ObjectKey)
    (slot : Option (Resource SecretSpec)) (program : Go α)
    (cluster : Cluster) : Prop :=
  Stores (slot.toList.map (Prod.mk key)) cluster (env.run program cluster).2

section Rules

variable {β : Type} {key : ObjectKey}
  {slot : α × Cluster → Option (Resource SecretSpec)}

theorem StoresAt.bind {next : α → Go β} (hprogram : WritesKinds [] program)
    (hnext : ∀ value mid,
      StoresAt env key (slot (value, mid)) (next value) mid) :
    StoresAt env key ((env.finish program cluster).bind slot)
      (program.bind next) cluster := by
  rcases hrun : env.run program cluster with ⟨abort | value, mid⟩
  · have hreads := hprogram.find_eq hrun (List.not_mem_nil : Kind.secret ∉ _)
    rw [finish_of_error hrun, StoresAt, Surroundings.run, run_bind_error hrun]
    exact stores_of_find hreads
  · have hreads := hprogram.find_eq hrun (List.not_mem_nil : Kind.secret ∉ _)
    rw [finish_of_ok hrun, StoresAt, Surroundings.run, run_bind_ok hrun]
    have hboth := (stores_of_find hreads).trans (hnext value mid)
    rwa [List.append_nil] at hboth

theorem StoresAt.wrapping {message : String}
    {slot : Option (Resource SecretSpec)}
    (hprogram : StoresAt env key slot program cluster) :
    StoresAt env key slot (program.wrapping message) cluster := by
  rw [StoresAt, run_wrapping_snd]
  exact hprogram

end Rules

theorem reconcileToken_eq (hauth : entry.authType ≠ .redhat) :
    reconcileToken platform cr entry =
      ((findToken cr entry).wrapping
        ("error checking existing observatorium token for " ++
          entry.id)).bind fun found =>
        (renewalDue found).bind fun expired =>
            if expired then renewToken platform cr entry found.1
            else .done () :=
  if_neg hauth

end Renewing

end ObservabilityOperator
