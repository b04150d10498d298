import ObservabilityOperator.CompletedSync

/-!
# The secrets of tokens and credentials during a sync

Completing the entries of an index writes token secrets and marks configuration
secrets, but neither creates another secret nor removes one.  The secret that
replaces all token refreshers is therefore there afterwards if it was there
before, unless it is labelled as the secret of a token.
-/

namespace ObservabilityOperator

/-- A labelled token secret that no index expects. -/
def UnrequestedToken (cr : Observability) (indexes : List RepositoryIndex)
    (key : ObjectKey) (secret : Resource SecretSpec) : Prop :=
  key.ns = cr.ns ∧ observatoriumTokenLabels.Matches secret.labels = true ∧
    key.name ∉ expectedTokenSecrets indexes

section Clearing

variable {platform : Platform} {cr : Observability}
  {indexes : List RepositoryIndex} {env : Surroundings}
  {cluster after : Cluster}

theorem run_deleteUnrequestedCredentialSecrets_eq_ok
    (hlist : env.fault cluster.tick (.list .secret
      { ns := some cr.ns, labels := observatoriumTokenLabels }) = none)
    (hrun : env.run (deleteUnrequestedCredentialSecrets cr indexes)
      cluster = (.ok (), after)) :
    (∀ key secret, cluster.find .secret key = some secret →
      UnrequestedToken cr indexes key secret → after.find .secret key = none) ∧
    ∀ kind key,
      (kind = .secret → ∀ secret, cluster.find .secret key = some secret →
        ¬ UnrequestedToken cr indexes key secret) →
      after.find kind key = cluster.find kind key := by
  unfold deleteUnrequestedCredentialSecrets at hrun
  simp only [Surroundings.run, Program.bind_eq_bind, run_list_bind,
    Surroundings.environment, hlist, withFault] at hrun
  have hselected (key : ObjectKey) (secret : Resource SecretSpec) :
      (key, secret) ∈ cluster.select .secret
          { ns := some cr.ns, labels := observatoriumTokenLabels } ↔
        cluster.find .secret key = some secret ∧ key.ns = cr.ns ∧
          observatoriumTokenLabels.Matches secret.labels = true := by
    rw [World.mem_select_iff]
    simp [ListOptions.selects]
  obtain ⟨hgone, hkept⟩ := run_forEach_prune
    (fun item => item.1.name ∉ expectedTokenSecrets indexes)
    (fun item _ hwanted => if_pos (not_not.mp hwanted))
    (fun item _ hunwanted before between hbody => by
      rw [if_neg hunwanted] at hbody
      exact run_delete_eq_ok (Program.run_wrapping_eq_ok.mp hbody)) hrun
  constructor
  · intro key secret hfind hunrequested
    obtain ⟨hns, hlabels, hname⟩ := hunrequested
    exact hgone (key, secret)
      ((hselected key secret).mpr ⟨hfind, hns, hlabels⟩) hname
  · intro kind key hkey
    rw [hkept kind key]
    · rfl
    · rintro hkind ⟨name, secret⟩ hitem hunwanted rfl
      obtain ⟨hfind, hns, hlabels⟩ := (hselected name secret).mp hitem
      exact hkey hkind secret hfind ⟨hns, hlabels, hunwanted⟩

/-! ## Completing the entries -/

def CreatesNot (key : ObjectKey) (call : ApiCall Kind.Spec Action) : Prop :=
  ∀ object, call ≠ .create .secret key object

def DeletesNot (key : ObjectKey) (call : ApiCall Kind.Spec Action) : Prop :=
  call ≠ .delete .secret key

theorem allowsCredentials_createsNot {key : ObjectKey}
    (hkey : ∀ config,
      key ≠ ⟨cr.ns, getObservatoriumTokenSecretName config⟩) :
    AllowsCredentials cr (CreatesNot key) where
  get _ _ _ := nofun
  list _ _ _ := nofun
  now _ := nofun
  http _ _ := nofun
  setLabels _ := nofun
  createToken := by
    intro config token lifetime object other hcall
    exact hkey config (ApiCall.create.inj hcall).2.1.symm
  update := by
    intro other object written hcall
    cases hcall

theorem allowsCredentials_deletesNot (key : ObjectKey) :
    AllowsCredentials cr (DeletesNot key) where
  get _ _ := nofun
  list _ _ := nofun
  now := nofun
  http _ := nofun
  setLabels := nofun
  createToken := by
    intro config token lifetime object hcall
    cases hcall
  update := by
    intro other object hcall
    cases hcall

theorem createsNot_deleteUnrequestedCredentialSecrets (key : ObjectKey) :
    (deleteUnrequestedCredentialSecrets cr indexes).Uses (CreatesNot key) := by
  apply Program.Uses.bind
  · apply (Client.uses_list _ _ _).mpr
    intro object hcall
    cases hcall
  · intro reply
    apply Program.Uses.forEach
    intro item _
    split
    · trivial
    · apply Program.Uses.wrapping
      apply Program.Uses.bind
      · apply (Client.uses_delete _ _ _).mpr
        intro object hcall
        cases hcall
      · exact fun _ => Client.uses_orFail _ _

theorem oauth2Key_ne_tokenSecret (cr : Observability)
    (config : ObservatoriumIndex) :
    (⟨cr.ns, remoteWriteOIDCSecretName⟩ : ObjectKey) ≠
      ⟨cr.ns, getObservatoriumTokenSecretName config⟩ := by
  intro hkey
  have hname := congrArg (fun key => key.name.toList) hkey
  simp [getObservatoriumTokenSecretName, remoteWriteOIDCSecretName] at hname

end Clearing

def oauth2Present (cr : Observability) (cluster : Cluster) : Bool :=
  (oauth2Secret cr cluster).any fun secret =>
    !observatoriumTokenLabels.Matches secret.labels

namespace CompletedSync

variable {platform : Platform} {env : Surroundings}
  {cr : Observability} {indexes : List RepositoryIndex}
  {cluster after : Cluster}

theorem oauth2Secret_credentials
    (sync : CompletedSync platform env cr indexes cluster after)
    (hlist : ∀ tick options,
      env.fault tick (.list .secret options) = none) :
    (oauth2Secret cr sync.credentials).isSome = oauth2Present cr cluster := by
  have hclear := run_deleteUnrequestedCredentialSecrets_eq_ok (hlist _ _)
    sync.clears
  have hcreates : (completeIndexes platform cr indexes).Uses
      (CreatesNot ⟨cr.ns, remoteWriteOIDCSecretName⟩) :=
    (allowsCredentials_createsNot
      (oauth2Key_ne_tokenSecret cr)).completeIndexes indexes
  have hdeletes : (completeIndexes platform cr indexes).Uses
      (DeletesNot ⟨cr.ns, remoteWriteOIDCSecretName⟩) :=
    (allowsCredentials_deletesNot _).completeIndexes indexes
  have hkept : (oauth2Secret cr sync.credentials).isSome =
      (oauth2Secret cr sync.cleared).isSome := by
    cases hcleared : oauth2Secret cr sync.cleared with
    | none =>
      have hnone := Surroundings.find_eq_none_of_run sync.completes
        hcreates hcleared
      rw [oauth2Secret, hnone]
    | some secret =>
      exact Surroundings.isSome_find_of_run sync.completes hdeletes
        (by rw [← oauth2Secret, hcleared]; rfl)
  rw [hkept, oauth2Present]
  cases hsecret : oauth2Secret cr cluster with
  | none =>
    have hnone := Surroundings.find_eq_none_of_run sync.clears
      (createsNot_deleteUnrequestedCredentialSecrets _) hsecret
    rw [oauth2Secret, hnone]
    rfl
  | some secret =>
    by_cases hlabels : observatoriumTokenLabels.Matches secret.labels = true
    · have hname : remoteWriteOIDCSecretName ∉
          expectedTokenSecrets indexes := by
        intro hexpected
        obtain ⟨index, -, hindex⟩ := List.mem_flatMap.mp hexpected
        obtain ⟨config, -, hconfig⟩ := List.mem_map.mp hindex
        exact oauth2Key_ne_tokenSecret cr config (by rw [hconfig])
      have hgone := hclear.1 _ secret hsecret ⟨rfl, hlabels, hname⟩
      rw [oauth2Secret, hgone]
      simp [hlabels]
    · have hfind := hclear.2 .secret
        ⟨cr.ns, remoteWriteOIDCSecretName⟩ fun _ other hother hunrequested =>
          hlabels (by
            rw [oauth2Secret, hother] at hsecret
            cases hsecret
            exact hunrequested.2.1)
      rw [oauth2Secret, hfind, ← oauth2Secret, hsecret]
      simp [hlabels]

end CompletedSync

end ObservabilityOperator
