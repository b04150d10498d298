import ObservabilityOperator.TokenLifetimes

/-!
# The tokens a sync renews

A sync first removes the token secrets that no index asks for and then goes
through the entries of the indexes.  It comes to the tokens of the entries that
do not use a token refresher, up to the first entry of an index that cannot be
completed, and to none at all where the Observatoria are disabled.

What goes wrong on the way is often only logged: a list of the secrets that
cannot be fetched, an entry that cannot be completed, a token that cannot be
stored.  So the check that has forced the sync is satisfied afterwards exactly
if everything that it would complain about has been removed or replaced.
-/

namespace ObservabilityOperator

open Program

/-! ## The secrets a sync stores -/

def accepted (source : ConfigSource) : Resource SecretSpec :=
  { source.secret with
    annotations := source.secret.annotations.set
      "observability-operator/status" "accepted" }

section Storing

variable {platform : Platform} {env : Surroundings}
  {cr : Observability} {cluster after : Cluster} {index : RepositoryIndex}

end Storing

/-! ## What a sync leaves as it is -/

/-- The same secrets force a sync, at whatever time they are looked at. -/
def ForcesAlike (before after : Cluster) : Prop :=
  ∀ now key, Forced now after key ↔ Forced now before key

section Keeping

variable {platform : Platform} {env : Surroundings}
  {cr : Observability} {first second third cluster after : Cluster}
  {indexes : List RepositoryIndex}

theorem ForcesAlike.trans (hfirst : ForcesAlike first second)
    (hsecond : ForcesAlike second third) : ForcesAlike first third :=
  fun now key => (hsecond now key).trans (hfirst now key)

end Keeping

/-! ## The tokens that keep forcing a sync -/

def tokenPlatform : Platform :=
  { syncPlatform with unmarshalToken := fun _ => .ok ("renewed", 7200) }

def dexIndex : RepositoryIndex :=
  syncedIndex "kafka" "first"
    [{ id := "first"
       gateway := "https://gateway"
       tenant := "tenant"
       authType := .dex
       dexConfig := some { url := "https://dex" } }]

def tokenCluster (data : StringMap) : Cluster :=
  Cluster.empty.put .secret (tokenKey plainCr "first")
    { labels := observatoriumTokenLabels, spec := { data } }

end ObservabilityOperator
