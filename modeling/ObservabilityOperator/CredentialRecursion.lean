import ObservabilityOperator.CompletedSync

/-!
# Resolving credentials without end

The function that completes an entry from its secret calls itself when the
entry has a Dex configuration of its own.  Nothing that the function looks at
has changed by then, so it calls itself again, until the server fails to answer
or the stack is used up.
-/

namespace ObservabilityOperator

open Program

/-- The run does not exhaust the stack. -/
def Surroundings.StaysWithin {α : Type} (env : Surroundings)
    (program : Go α) (cluster : Cluster) : Prop :=
  (env.run program cluster).1 ≠ .error (.panic .stackOverflow)

/-- With a stack that is deep enough the program does not exhaust it. -/
def Surroundings.Returns {α : Type} (env : Surroundings)
    (program : ℕ → Go α) (cluster : Cluster) : Prop :=
  ∃ depth, ∀ deeper, depth ≤ deeper → env.StaysWithin (program deeper) cluster

section Stack

variable {α β : Type} {env : Surroundings} {cluster : Cluster}
  {program : Go α}

theorem staysWithin_of_failsOnly
    (hprogram : program.FailsOnly (· ≠ .panic .stackOverflow)) :
    env.StaysWithin program cluster := by
  intro hoverflow
  rcases hrun : env.run program cluster with ⟨result, after⟩
  rw [hrun] at hoverflow
  obtain rfl : result = .error (.panic .stackOverflow) := hoverflow
  exact hprogram.of_run_error hrun rfl

variable {next : α → Go β}

theorem staysWithin_bind (hprogram : env.StaysWithin program cluster)
    (hnext : ∀ value after,
      env.run program cluster = (.ok value, after) →
        env.StaysWithin (next value) after) :
    env.StaysWithin (program.bind next) cluster := by
  unfold Surroundings.StaysWithin at hprogram ⊢
  rcases hrun : env.run program cluster with ⟨result, after⟩
  cases result with
  | ok value =>
    rw [Surroundings.run, run_bind_ok hrun]
    exact hnext value after hrun
  | error abort =>
    rw [hrun] at hprogram
    rw [Surroundings.run, run_bind_error hrun]
    exact fun hoverflow => hprogram (by simpa using hoverflow)

theorem run_bind_of_not_staysWithin
    (hprogram : ¬ env.StaysWithin program cluster) :
    ¬ env.StaysWithin (program.bind next) cluster := by
  rw [Surroundings.StaysWithin, not_not] at hprogram ⊢
  rcases hrun : env.run program cluster with ⟨result, after⟩
  rw [hrun] at hprogram
  obtain rfl : result = .error (.panic .stackOverflow) := hprogram
  exact congrArg Prod.fst (run_bind_error hrun)

theorem run_attempt_of_not_staysWithin
    (hprogram : ¬ env.StaysWithin program cluster) :
    ¬ env.StaysWithin program.attempt cluster := by
  rw [Surroundings.StaysWithin, not_not] at hprogram ⊢
  rcases hrun : env.run program cluster with ⟨result, after⟩
  rw [hrun] at hprogram
  obtain rfl : result = .error (.panic .stackOverflow) := hprogram
  rw [Surroundings.run] at hrun
  rw [Surroundings.run, run_attempt, hrun]

theorem staysWithin_done (value : α) :
    env.StaysWithin (.done value) cluster := by
  intro hoverflow
  cases hoverflow

theorem staysWithin_attempt (hprogram : env.StaysWithin program cluster) :
    env.StaysWithin program.attempt cluster := by
  unfold Surroundings.StaysWithin at hprogram ⊢
  rw [Surroundings.run, run_attempt]
  rcases hrun : Program.run (serve env.environment) program cluster
    with ⟨result, after⟩
  rw [Surroundings.run, hrun] at hprogram
  rcases result with (error | panic) | value
  · intro hoverflow
    cases hoverflow
  · intro hoverflow
    exact hprogram (by simpa using hoverflow)
  · intro hoverflow
    cases hoverflow

end Stack

/-! ## One entry -/

/-- The entry has a Dex configuration, and its secret makes it a Dex entry. -/
structure CallsItself (cr : Observability) (cluster : Cluster)
    (entry : ObservatoriumIndex) : Prop where
  configured : entry.dexConfig.isSome
  dex : ∃ secret, cluster.find .secret ⟨cr.ns, entry.secretName⟩ = some secret ∧
    (fillFromSecret secret.spec.data entry).authType = .dex

section Entry

variable {env : Surroundings} {cr : Observability}
  {cluster : Cluster} {entry : ObservatoriumIndex}
  {secret : Resource SecretSpec}

theorem authType_fillFromSecret_eq_dex {data other : StringMap}
    (hdex : (fillFromSecret data entry).authType = .dex) :
    (fillFromSecret other (fillFromSecret data entry)).authType = .dex := by
  simp [fillFromSecret] at hdex ⊢
  simp [hdex]

theorem CallsItself.again (hcalls : CallsItself cr cluster entry)
    (hsecret : cluster.find .secret ⟨cr.ns, entry.secretName⟩ = some secret) :
    CallsItself cr cluster.advance (fillFromSecret secret.spec.data entry) := by
  obtain ⟨hconfigured, other, hother, hdex⟩ := hcalls
  obtain rfl : secret = other := Option.some.inj (hsecret.symm.trans hother)
  exact ⟨hconfigured, secret, hsecret, authType_fillFromSecret_eq_dex hdex⟩

theorem run_assignFromSecret_succ
    (hsecret : cluster.find .secret ⟨cr.ns, entry.secretName⟩ = some secret)
    (hreadable : env.fault cluster.tick
      (.get .secret ⟨cr.ns, entry.secretName⟩) = none)
    (depth : ℕ) :
    env.run (assignFromSecret cr (depth + 1) entry) cluster =
      match (fillFromSecret secret.spec.data entry).authType with
      | .dex =>
        match entry.dexConfig with
        | some _ => env.run (assignFromSecret cr depth
            (fillFromSecret secret.spec.data entry)) cluster.advance
        | none => (.ok { fillFromSecret secret.spec.data entry with
            dexConfig := some (dexConfigOfSecret secret.spec.data) },
            cluster.advance)
      | .redhat => (.ok { fillFromSecret secret.spec.data entry with
          redhatSsoConfig := some (redhatSsoConfigOfSecret secret.spec.data) },
          cluster.advance)
      | .unknown text => (.error (.error (.text
          ("unknown auth type " ++ text))), cluster.advance) := by
  rw [assignFromSecret, bind_eq_bind,
    Surroundings.run_get_bind_of_find hsecret hreadable]
  simp only [Client.orFail, bind_eq_bind, done_bind]
  cases (fillFromSecret secret.spec.data entry).authType with
  | dex =>
    have hkept : (fillFromSecret secret.spec.data entry).dexConfig =
        entry.dexConfig := rfl
    rw [hkept]
    cases entry.dexConfig <;> rfl
  | redhat => rfl
  | unknown text => rfl

theorem staysWithin_assignFromSecret_unread (hunread : cluster.find .secret
      ⟨cr.ns, entry.secretName⟩ = none ∨ env.fault cluster.tick
        (.get .secret ⟨cr.ns, entry.secretName⟩) ≠ none) (depth : ℕ) :
    env.StaysWithin (assignFromSecret cr (depth + 1) entry) cluster := by
  rw [Surroundings.StaysWithin, assignFromSecret, bind_eq_bind]
  obtain ⟨error, hrun⟩ := env.exists_run_get_bind cluster .secret
    ⟨cr.ns, entry.secretName⟩ _ hunread
  rw [hrun]
  intro hoverflow
  cases hoverflow

theorem run_assignFromSecret_of_callsItself
    (hcalls : CallsItself cr cluster entry)
    (hreadable : ∀ later, env.fault (cluster.tick + later)
      (.get .secret ⟨cr.ns, entry.secretName⟩) = none) (depth : ℕ) :
    (env.run (assignFromSecret cr depth entry) cluster).1 =
      .error (.panic .stackOverflow) := by
  induction depth generalizing cluster entry with
  | zero => rfl
  | succ depth ih =>
    obtain ⟨secret, hsecret, hdex⟩ := hcalls.dex
    obtain ⟨dexConfig, hconfig⟩ := Option.isSome_iff_exists.mp hcalls.configured
    rw [run_assignFromSecret_succ hsecret (hreadable 0), hdex, hconfig]
    refine ih (hcalls.again hsecret) fun later => ?_
    have hshift := hreadable (1 + later)
    rwa [← Nat.add_assoc] at hshift

theorem staysWithin_of_not_callsItself
    (hcalls : ¬ CallsItself cr cluster entry) (depth : ℕ) :
    env.StaysWithin (assignFromSecret cr (depth + 1) entry) cluster := by
  by_cases hfault : env.fault cluster.tick
      (.get .secret ⟨cr.ns, entry.secretName⟩) = none
  · cases hsecret : cluster.find .secret ⟨cr.ns, entry.secretName⟩ with
    | none => exact staysWithin_assignFromSecret_unread (.inl hsecret) depth
    | some secret =>
      rw [Surroundings.StaysWithin, run_assignFromSecret_succ hsecret hfault]
      cases hdex : (fillFromSecret secret.spec.data entry).authType with
      | dex =>
        cases hconfig : entry.dexConfig with
        | none => nofun
        | some dexConfig =>
          exact absurd ⟨by simp [hconfig], secret, hsecret, hdex⟩ hcalls
      | redhat => nofun
      | unknown text => nofun
  · exact staysWithin_assignFromSecret_unread (.inr hfault) depth

theorem staysWithin_of_fault {later : ℕ}
    (hfault : env.fault (cluster.tick + later)
      (.get .secret ⟨cr.ns, entry.secretName⟩) ≠ none) (depth : ℕ) :
    env.StaysWithin (assignFromSecret cr (later + 1 + depth) entry)
      cluster := by
  induction later generalizing cluster entry with
  | zero =>
    rw [Nat.zero_add, Nat.add_comm]
    exact staysWithin_assignFromSecret_unread (.inr hfault) depth
  | succ later ih =>
    rw [Nat.add_right_comm]
    by_cases hcalls : CallsItself cr cluster entry
    · by_cases hnow : env.fault cluster.tick
          (.get .secret ⟨cr.ns, entry.secretName⟩) = none
      · obtain ⟨secret, hsecret, hdex⟩ := hcalls.dex
        obtain ⟨dexConfig, hconfig⟩ := Option.isSome_iff_exists.mp
          hcalls.configured
        rw [Surroundings.StaysWithin,
          run_assignFromSecret_succ hsecret hnow, hdex, hconfig]
        have hshift : cluster.tick + (later + 1) =
            cluster.advance.tick + later := by
          change cluster.tick + (later + 1) = cluster.tick + 1 + later
          omega
        rw [hshift] at hfault
        exact ih hfault
      · exact staysWithin_assignFromSecret_unread (.inr hnow) _
    · exact staysWithin_of_not_callsItself hcalls _

theorem returns_assignFromSecret_iff :
    env.Returns (fun depth => assignFromSecret cr depth entry) cluster ↔
      ¬ CallsItself cr cluster entry ∨
        ∃ later, env.fault (cluster.tick + later)
          (.get .secret ⟨cr.ns, entry.secretName⟩) ≠ none := by
  constructor
  · rintro ⟨depth, hreturns⟩
    by_contra hrecurs
    obtain ⟨hcalls, hfaultless⟩ := not_or.mp hrecurs
    refine hreturns depth le_rfl (run_assignFromSecret_of_callsItself
      (not_not.mp hcalls) (fun later => ?_) depth)
    by_contra hfault
    exact hfaultless ⟨later, hfault⟩
  · rintro (hcalls | ⟨later, hfault⟩)
    · refine ⟨1, fun deeper hdeeper => ?_⟩
      obtain ⟨depth, rfl⟩ := Nat.exists_eq_add_of_le' hdeeper
      exact staysWithin_of_not_callsItself hcalls depth
    · refine ⟨later + 1, fun deeper hdeeper => ?_⟩
      obtain ⟨depth, rfl⟩ := Nat.exists_eq_add_of_le hdeeper
      exact staysWithin_of_fault hfault depth

end Entry

/-! ## Calls that only return errors -/

section Errors

variable {platform : Platform} {cr : Observability}
  {failing : Abort ApiError → Prop} (herrors : ∀ error, failing (.error error))
include herrors

variable {α : Type}

theorem failsOnly_ofExcept (result : Except String α) :
    (Program.ofExcept result : Go α).FailsOnly failing := by
  cases result with
  | error message => exact herrors _
  | ok value => trivial

theorem failsOnly_orFail (result : Except ApiError α) :
    (Client.orFail result : Go α).FailsOnly failing := by
  cases result with
  | error error => exact herrors _
  | ok value => trivial

theorem failsOnly_findToken (config : ObservatoriumIndex) :
    (findToken cr config).FailsOnly failing := by
  refine .bind (fun _ => trivial) fun reply => ?_
  split
  · trivial
  · exact failsOnly_orFail herrors _
  · split
    · exact herrors _
    · exact .bind (failsOnly_ofExcept herrors _) fun _ => trivial

theorem failsOnly_fetchToken (config : ObservatoriumIndex) (oldToken : String) :
    (fetchToken platform config oldToken).FailsOnly failing := by
  unfold fetchToken fetchDexToken
  split
  · split
    · trivial
    · refine .bind (failsOnly_ofExcept herrors _) fun url =>
        .bind (fun _ => trivial) fun reply =>
        .bind (failsOnly_ofExcept herrors _) fun response => ?_
      split
      · exact herrors _
      · exact .bind (failsOnly_ofExcept herrors _) fun _ =>
          .bind (fun _ => trivial) fun _ => trivial
  · trivial

theorem failsOnly_saveToken (config : ObservatoriumIndex) (token : String)
    (lifetime : Int) :
    (saveToken cr config token lifetime).FailsOnly failing := by
  refine .wrapping (.bind (.bind (fun _ => trivial) fun reply => ?_)
    fun _ => trivial) herrors
  split
  · exact .bind trivial fun _ => .bind (fun _ => trivial) fun _ =>
      .bind (failsOnly_orFail herrors _) fun _ => trivial
  · exact failsOnly_orFail herrors _
  · refine .bind trivial fun _ => ?_
    split
    · trivial
    · exact .bind (fun _ => trivial) fun _ =>
        .bind (failsOnly_orFail herrors _) fun _ => trivial

theorem failsOnly_reconcileToken (observatorium : ObservatoriumIndex) :
    (reconcileToken platform cr observatorium).FailsOnly failing := by
  unfold reconcileToken
  split
  · trivial
  · refine .bind (.wrapping (failsOnly_findToken herrors _) herrors)
      fun found => .bind ?_ fun expired => ?_
    · split
      · trivial
      · unfold authTokenExpires
        split
        · exact .bind (fun _ => trivial) fun _ => trivial
        · trivial
    · split
      · refine .bind (.attempt (.wrapping (failsOnly_fetchToken herrors _ _)
          herrors)) fun renewed => ?_
        split
        · trivial
        · exact .bind (.attempt (failsOnly_saveToken herrors _ _ _))
            fun _ => trivial
      · trivial

theorem failsOnly_assignDexCredentials (dexConfig : DexConfig) :
    (assignDexCredentials cr dexConfig).FailsOnly failing :=
  .bind (fun _ => trivial) fun _ =>
  .bind (failsOnly_orFail herrors _) fun _ => trivial

end Errors

/-! ## The entries of an index -/

namespace ObservatoriumIndex

/-- Some secret makes the completion of the entry call itself. -/
def MayRecur (entry : ObservatoriumIndex) : Prop :=
  entry.secretName ≠ "" ∧ entry.dexConfig.isSome ∧
    entry.authType ∈ [.dex, .unknown ""]

/-- The entry may be got over. -/
def MayPass (entry : ObservatoriumIndex) : Prop :=
  entry.secretName = "" ∨ entry.authType ∈ [.dex, .redhat, .unknown ""]

end ObservatoriumIndex

/-- One of the entries may recur, and those before it may be completed. -/
def MayRecurAfter (entries : List ObservatoriumIndex) : Prop :=
  ∃ before entry rest, entries = before ++ entry :: rest ∧
    (∀ earlier ∈ before, earlier.MayPass) ∧ entry.MayRecur

section Entries

variable {platform : Platform} {env : Surroundings}
  {cr : Observability} {cluster after : Cluster}
  {entry : ObservatoriumIndex}

theorem mayRecurAfter_cons {rest : List ObservatoriumIndex}
    (hentry : entry.MayPass) (hrest : MayRecurAfter rest) :
    MayRecurAfter (entry :: rest) := by
  obtain ⟨before, other, others, rfl, hbefore, hother⟩ := hrest
  exact ⟨entry :: before, other, others, rfl,
    List.forall_mem_cons.mpr ⟨hentry, hbefore⟩, hother⟩

theorem CallsItself.authType_mem (hcalls : CallsItself cr cluster entry) :
    entry.authType ∈ [.dex, .unknown ""] := by
  obtain ⟨-, secret, -, hdex⟩ := hcalls
  by_cases hempty : entry.authType = .unknown ""
  · simp [hempty]
  · simp only [fillFromSecret, if_neg hempty] at hdex
    simp [hdex]

theorem staysWithin_transformObservatorium (hentry : ¬ entry.MayRecur)
    (hdepth : 1 ≤ platform.stackDepth) :
    env.StaysWithin (transformObservatorium platform cr entry) cluster := by
  obtain ⟨depth, hsucc⟩ := Nat.exists_eq_add_of_le' hdepth
  refine staysWithin_bind ?_ fun assigned after _ => staysWithin_of_failsOnly ?_
  · split
    next hname =>
      rw [hsucc]
      refine staysWithin_of_not_callsItself (fun hcalls => ?_) depth
      exact hentry ⟨hname, hcalls.configured, hcalls.authType_mem⟩
    next => nofun
  · split
    · split
      · exact .bind (failsOnly_assignDexCredentials (fun _ => nofun) _)
          fun _ => trivial
      · trivial
    · trivial

theorem mayPass_of_run_transformObservatorium {copy : ObservatoriumIndex}
    (hrun : env.run (transformObservatorium platform cr entry)
      cluster = (.ok copy, after)) : entry.MayPass := by
  obtain ⟨_, hassigned, -⟩ := run_transformObservatorium_eq_ok hrun
  cases hassigned with
  | own hname => exact .inl hname
  | filled _ hfilled =>
    refine .inr ?_
    cases htype : entry.authType with
    | dex => simp
    | redhat => simp
    | unknown text =>
      by_cases hempty : text = ""
      · simp [hempty]
      · cases hfilled <;>
          simp_all [fillFromSecret]

theorem staysWithin_reconcileEntries {entries : List ObservatoriumIndex}
    (hentries : ¬ MayRecurAfter entries) (hdepth : 1 ≤ platform.stackDepth) :
    env.StaysWithin (reconcileEntries platform cr entries) cluster := by
  induction entries generalizing cluster with
  | nil => nofun
  | cons entry rest ih =>
    have hentry : ¬ entry.MayRecur := fun hrecurs =>
      hentries ⟨[], entry, rest, rfl, nofun, hrecurs⟩
    refine staysWithin_bind (staysWithin_attempt
      (staysWithin_transformObservatorium hentry hdepth))
        fun transformed between htransform => ?_
    split
    next => nofun
    next copy =>
      have hpasses := mayPass_of_run_transformObservatorium
        (run_attempt_eq_ok_ok.mp htransform)
      refine staysWithin_bind (staysWithin_attempt (staysWithin_of_failsOnly
        (failsOnly_reconcileToken (fun _ => nofun) copy)))
          fun renewed renewing _ => ?_
      split
      next => nofun
      next =>
        exact staysWithin_bind (ih fun hrest =>
          hentries (mayRecurAfter_cons hpasses hrest)) fun _ _ _ => nofun

theorem staysWithin_reconcileObservatoria {index : RepositoryIndex}
    (hindex : cr.observatoriumDisabled = true ∨
      ¬ MayRecurAfter index.observatoria) (hdepth : 1 ≤ platform.stackDepth) :
    env.StaysWithin (reconcileObservatoria platform cr index) cluster := by
  unfold reconcileObservatoria
  split
  next => exact staysWithin_done _
  next config hconfig =>
    split
    next => exact staysWithin_done _
    next hconsidered =>
      obtain ⟨-, henabled⟩ := not_or.mp hconsidered
      have hentries := hindex.resolve_left henabled
      rw [RepositoryIndex.observatoria, hconfig] at hentries
      refine staysWithin_bind (staysWithin_reconcileEntries hentries hdepth)
        fun outcome after _ => ?_
      split <;> exact staysWithin_done _

end Entries

/-! ## A store in which every entry is completed -/

def generousSecret : Resource SecretSpec where
  spec :=
    { data := [("authType", "dex"), ("token", "token"), ("lifetime", "0")] }

def ObservatoriumIndex.secretKeys (cr : Observability)
    (entry : ObservatoriumIndex) : List ObjectKey :=
  [⟨cr.ns, entry.secretName⟩,
    ⟨cr.ns, getObservatoriumTokenSecretName entry⟩] ++
  match entry.dexConfig with
  | none => []
  | some dexConfig =>
    [⟨if dexConfig.credentialSecretNamespace ≠ "" then
        dexConfig.credentialSecretNamespace
      else cr.ns, dexConfig.credentialSecretName⟩]

variable {keys : List ObjectKey} {key : ObjectKey}

theorem find_foldr_put {secret : Resource SecretSpec} (hkey : key ∈ keys) :
    (keys.foldr (fun key cluster => cluster.put .secret key secret)
      Cluster.empty).find .secret key = some secret := by
  induction keys with
  | nil => cases hkey
  | cons first rest ih =>
    by_cases hfirst : first = key
    · subst hfirst
      exact World.find_put_self _ _ _ _
    · have hrest := (List.mem_cons.mp hkey).resolve_left (Ne.symm hfirst)
      rw [← ih hrest]
      exact World.find_put_of_ne _ _ fun hsame => hfirst hsame.2

def generousCluster (keys : List ObjectKey) : Cluster :=
  keys.foldr (fun key cluster => cluster.put .secret key generousSecret)
    Cluster.empty

theorem find_generousCluster (hkey : key ∈ keys) :
    (generousCluster keys).find .secret key = some generousSecret :=
  find_foldr_put hkey

def Resolves (secret : Resource SecretSpec) (entry : ObservatoriumIndex) :
    Prop :=
  (fillFromSecret secret.spec.data entry).authType = .redhat ∨
    ((fillFromSecret secret.spec.data entry).authType = .dex ∧
      entry.dexConfig = none)

section Provided

variable {platform : Platform} {cr : Observability} {cluster : Cluster}
  {entry : ObservatoriumIndex} {secret : Resource SecretSpec}

theorem exists_run_assignFromSecret
    (hsecret : cluster.find .secret ⟨cr.ns, entry.secretName⟩ = some secret)
    (hresolves : Resolves secret entry) (depth : ℕ) :
    ∃ assigned,
      Surroundings.quiet.run (assignFromSecret cr (depth + 1) entry) cluster =
        (.ok assigned, cluster.advance) ∧ assigned.id = entry.id ∧
      ∀ dexConfig, assigned.dexConfig = some dexConfig →
        dexConfig.credentialSecretName ≠ "" →
          entry.dexConfig = some dexConfig := by
  rw [run_assignFromSecret_succ hsecret rfl]
  rcases hresolves with hredhat | ⟨hdex, hnone⟩
  · rw [hredhat]
    exact ⟨_, rfl, rfl, fun dexConfig hsome _ => hsome⟩
  · rw [hdex, hnone]
    refine ⟨_, rfl, rfl, fun dexConfig hsome hcredentials => ?_⟩
    cases hsome
    exact absurd rfl hcredentials

theorem exists_run_transform_of_resolves
    (hprovided : ∀ key ∈ entry.secretKeys cr,
      cluster.find .secret key = some secret)
    (hresolves : entry.secretName ≠ "" → Resolves secret entry)
    (hdepth : 1 ≤ platform.stackDepth) :
    ∃ copy after,
      Surroundings.quiet.run (transformObservatorium platform cr entry)
        cluster = (.ok copy, after) ∧ copy.id = entry.id := by
  obtain ⟨depth, hsucc⟩ := Nat.exists_eq_add_of_le' hdepth
  obtain ⟨assigned, between, hassign, hkept, hid, hcredentials⟩ :
      ∃ assigned between,
        Surroundings.quiet.run
          (if entry.secretName ≠ "" then
            assignFromSecret cr platform.stackDepth entry
          else .done entry : Go ObservatoriumIndex) cluster =
            (.ok assigned, between) ∧
        (∀ key, between.find .secret key = cluster.find .secret key) ∧
        assigned.id = entry.id ∧
        ∀ dexConfig, assigned.dexConfig = some dexConfig →
          dexConfig.credentialSecretName ≠ "" →
            entry.dexConfig = some dexConfig := by
    by_cases hname : entry.secretName = ""
    · rw [if_neg (not_not.mpr hname)]
      exact ⟨entry, cluster, rfl, fun _ => rfl, rfl, fun _ hsome _ => hsome⟩
    · obtain ⟨assigned, hrun, hid, hcredentials⟩ :=
        exists_run_assignFromSecret (hprovided _ List.mem_cons_self)
          (hresolves hname) depth
      rw [if_pos hname, hsucc]
      exact ⟨assigned, _, hrun, fun _ => rfl, hid, hcredentials⟩
  rw [transformObservatorium, bind_eq_bind, Surroundings.run,
    run_bind_ok hassign]
  split
  next dexConfig hdex hsome =>
    split
    next hnamed =>
      have hsecret : between.find .secret
          ⟨if dexConfig.credentialSecretNamespace ≠ "" then
              dexConfig.credentialSecretNamespace
            else cr.ns, dexConfig.credentialSecretName⟩ =
          some secret := by
        rw [hkept]
        refine hprovided _ (List.mem_append_right _ ?_)
        simp [hcredentials dexConfig hsome hnamed]
      change ∃ copy after, Surroundings.quiet.run
        ((assignDexCredentials cr dexConfig).bind _) between =
          (.ok copy, after) ∧ _
      rw [assignDexCredentials, bind_eq_bind, Program.bind_assoc,
        Surroundings.run_get_bind_of_find hsecret rfl]
      exact ⟨_, _, rfl, hid⟩
    next => exact ⟨_, _, rfl, hid⟩
  next => exact ⟨_, _, rfl, hid⟩

end Provided

def Serves (cr : Observability) (cluster : Cluster)
    (entry : ObservatoriumIndex) : Prop :=
  ∀ key ∈ entry.secretKeys cr, cluster.find .secret key = some generousSecret

section Generous

variable {platform : Platform} {cr : Observability} {cluster : Cluster}
  {entry : ObservatoriumIndex}

theorem authType_generousSecret (htype : entry.authType ∈ [.dex, .unknown ""]) :
    (fillFromSecret generousSecret.spec.data entry).authType = .dex := by
  simp only [List.mem_cons, List.not_mem_nil, or_false] at htype
  rcases htype with htype | htype <;>
    simp only [fillFromSecret, htype] <;> rfl

theorem Serves.callsItself (hserves : Serves cr cluster entry)
    (hentry : entry.MayRecur) : CallsItself cr cluster entry :=
  ⟨hentry.2.1, generousSecret, hserves _ List.mem_cons_self,
    authType_generousSecret hentry.2.2⟩

theorem run_transformObservatorium_of_mayRecur
    (hserves : Serves cr cluster entry) (hentry : entry.MayRecur) :
    ¬ Surroundings.quiet.StaysWithin
      (transformObservatorium platform cr entry) cluster := by
  refine run_bind_of_not_staysWithin ?_
  rw [if_pos hentry.1, Surroundings.StaysWithin, not_not]
  exact run_assignFromSecret_of_callsItself (hserves.callsItself hentry)
    (fun _ => rfl) _

theorem exists_run_transformObservatorium (hserves : Serves cr cluster entry)
    (hpasses : entry.MayPass) (hentry : ¬ entry.MayRecur)
    (hdepth : 1 ≤ platform.stackDepth) :
    ∃ copy after,
      Surroundings.quiet.run (transformObservatorium platform cr entry)
        cluster = (.ok copy, after) ∧ copy.id = entry.id := by
  refine exists_run_transform_of_resolves hserves (fun hname => ?_) hdepth
  by_cases hdex : entry.authType ∈ [.dex, .unknown ""]
  · exact .inr ⟨authType_generousSecret hdex,
      Option.not_isSome_iff_eq_none.mp fun hsome => hentry ⟨hname, hsome, hdex⟩⟩
  · have hknown := hpasses.resolve_left hname
    have hredhat : entry.authType = .redhat := by
      simp only [List.mem_cons, List.not_mem_nil, or_false] at hknown hdex
      tauto
    exact .inl (by simp [fillFromSecret, hredhat])

theorem exists_run_reconcileToken (hsecret : cluster.find .secret
      ⟨cr.ns, getObservatoriumTokenSecretName entry⟩ = some generousSecret) :
    ∃ after,
      Surroundings.quiet.run (reconcileToken platform cr entry) cluster =
        (.ok (), after) ∧
      ∀ key, after.find .secret key = cluster.find .secret key := by
  have hfind (message : String) : Surroundings.quiet.run
      ((findToken cr entry).wrapping message) cluster =
        (.ok ("token", 0), cluster.advance) := by
    have hrun : Surroundings.quiet.run (findToken cr entry) cluster =
        (.ok ("token", 0), cluster.advance) := by
      rw [findToken, bind_eq_bind,
        Surroundings.run_get_bind_of_find hsecret rfl]
      rfl
    rw [Surroundings.run] at hrun
    rw [Surroundings.run, run_wrapping, hrun]
  unfold reconcileToken
  split
  next => exact ⟨_, rfl, fun _ => rfl⟩
  next =>
    rw [bind_eq_bind, Surroundings.run, run_bind_ok (hfind _)]
    exact ⟨_, rfl, fun _ => rfl⟩

theorem run_reconcileEntries_of_mayRecurAfter
    {entries : List ObservatoriumIndex} (hentries : MayRecurAfter entries)
    (hserves : ∀ entry ∈ entries, Serves cr cluster entry)
    (hdepth : 1 ≤ platform.stackDepth) :
    ¬ Surroundings.quiet.StaysWithin (reconcileEntries platform cr entries)
      cluster := by
  obtain ⟨before, entry, rest, rfl, hbefore, hentry⟩ := hentries
  induction before generalizing cluster with
  | nil =>
    exact run_bind_of_not_staysWithin (run_attempt_of_not_staysWithin
      (run_transformObservatorium_of_mayRecur
        (hserves entry List.mem_cons_self) hentry))
  | cons first others ih =>
    have hfirst := hserves first List.mem_cons_self
    by_cases hrecurs : first.MayRecur
    · exact run_bind_of_not_staysWithin (run_attempt_of_not_staysWithin
        (run_transformObservatorium_of_mayRecur hfirst hrecurs))
    obtain ⟨copy, between, htransform, hid⟩ :=
      exists_run_transformObservatorium hfirst
        (hbefore first List.mem_cons_self) hrecurs hdepth
    have hread (key : ObjectKey) :
        between.find .secret key = cluster.find .secret key :=
      (writesKinds_transformObservatorium first).find_eq htransform
        List.not_mem_nil key
    have htoken : between.find .secret
        ⟨cr.ns, getObservatoriumTokenSecretName copy⟩ =
          some generousSecret := by
      rw [hread, getObservatoriumTokenSecretName, hid]
      exact hfirst _ (by simp [ObservatoriumIndex.secretKeys,
        getObservatoriumTokenSecretName])
    obtain ⟨after, hrenew, hkept⟩ :=
      @exists_run_reconcileToken platform _ _ _ htoken
    have hothers := @ih after
      (fun other hother key hkey => by
        rw [hkept, hread]
        exact hserves other (List.mem_cons_of_mem _ hother) key hkey)
      fun earlier hearlier => hbefore earlier (List.mem_cons_of_mem _ hearlier)
    intro hwithin
    rw [Surroundings.StaysWithin, List.cons_append, reconcileEntries,
      bind_eq_bind, Surroundings.run, run_bind_ok
        (run_attempt_eq_ok_ok.mpr htransform)] at hwithin
    simp only [bind_eq_bind] at hwithin
    rw [run_bind_ok (run_attempt_eq_ok_ok.mpr hrenew)] at hwithin
    exact run_bind_of_not_staysWithin hothers hwithin

theorem run_reconcileObservatoria_of_mayRecurAfter {index : RepositoryIndex}
    (henabled : ¬ cr.observatoriumDisabled = true)
    (hentries : MayRecurAfter index.observatoria)
    (hserves : ∀ entry ∈ index.observatoria, Serves cr cluster entry)
    (hdepth : 1 ≤ platform.stackDepth) :
    ¬ Surroundings.quiet.StaysWithin (reconcileObservatoria platform cr index)
      cluster := by
  have hnonempty : index.observatoria ≠ [] := by
    obtain ⟨before, entry, rest, hsplit, -⟩ := hentries
    simp [hsplit]
  unfold reconcileObservatoria
  split
  next hconfig => simp [RepositoryIndex.observatoria, hconfig] at hnonempty
  next config hconfig =>
    rw [RepositoryIndex.observatoria, hconfig] at hentries hserves hnonempty
    rw [if_neg (not_or.mpr ⟨hnonempty, henabled⟩)]
    exact run_bind_of_not_staysWithin
      (run_reconcileEntries_of_mayRecurAfter hentries hserves hdepth)

end Generous

/-- A call of `assignFromSecret` returns exactly if the function does not call
itself for the entry, or a later read of the secret fails.  For an index,
`reconcileObservatoria` returns in every store exactly if Observatoria are
disabled or no entry that makes the function call itself can be reached. -/
theorem credentials_returned_iff (cr : Observability) :
    (∀ env cluster entry,
      Surroundings.Returns env
          (fun depth => assignFromSecret cr depth entry) cluster ↔
        ¬ CallsItself cr cluster entry ∨
          ∃ later, env.fault (cluster.tick + later)
            (.get .secret ⟨cr.ns, entry.secretName⟩) ≠ none) ∧
      ∀ index : RepositoryIndex,
        (∀ (platform : Platform) env cluster,
          Surroundings.Returns env (fun depth =>
            reconcileObservatoria { platform with stackDepth := depth } cr
              index) cluster) ↔
          cr.observatoriumDisabled = true ∨
            ¬ MayRecurAfter index.observatoria := by
  refine ⟨fun env cluster entry => returns_assignFromSecret_iff,
    fun index => ⟨fun hreturns => ?_, fun hindex platform env cluster =>
      ⟨1, fun depth hdepth => staysWithin_reconcileObservatoria hindex hdepth⟩⟩⟩
  by_contra hrecurs
  obtain ⟨henabled, hentries⟩ := not_or.mp hrecurs
  rw [not_not] at hentries
  let keys := index.observatoria.flatMap (ObservatoriumIndex.secretKeys cr)
  obtain ⟨depth, hwithin⟩ := hreturns .plain .quiet (generousCluster keys)
  have hserves : ∀ entry ∈ index.observatoria,
      Serves cr (generousCluster keys) entry := fun entry hentry key hkey =>
    find_generousCluster (List.mem_flatMap.mpr ⟨entry, hentry, hkey⟩)
  exact run_reconcileObservatoria_of_mayRecurAfter henabled hentries hserves
    (Nat.le_add_left 1 depth) (hwithin (depth + 1) (Nat.le_succ depth))

def repositoryDexEntry : ObservatoriumIndex where
  id := "logs"
  secretName := "observatorium"
  authType := .dex
  dexConfig := some { url := "https://dex" }

/-- The configuration from the repository is supported for older entries.
With a secret beside it neither function returns. -/
theorem repositoryDexEntry_unresolved :
    ¬ Surroundings.quiet.Returns
        (fun depth => assignFromSecret plainCr depth repositoryDexEntry)
        (generousCluster (repositoryDexEntry.secretKeys plainCr)) ∧
      ¬ Surroundings.quiet.Returns
        (fun depth => reconcileObservatoria
          { Platform.plain with stackDepth := depth } plainCr
          { id := "kafka"
            config := some { observatoria := [repositoryDexEntry] } })
        (generousCluster (repositoryDexEntry.secretKeys plainCr)) := by
  have hrecurs : repositoryDexEntry.MayRecur := ⟨by decide, rfl, by decide⟩
  have hserves : Serves plainCr
      (generousCluster (repositoryDexEntry.secretKeys plainCr))
        repositoryDexEntry := fun _ hkey => find_generousCluster hkey
  constructor
  · rintro ⟨depth, hreturns⟩
    exact hreturns depth le_rfl (run_assignFromSecret_of_callsItself
      (hserves.callsItself hrecurs) (fun _ => rfl) depth)
  · rintro ⟨depth, hreturns⟩
    refine run_reconcileObservatoria_of_mayRecurAfter (by decide)
      ⟨[], repositoryDexEntry, [], rfl, nofun, hrecurs⟩
      (fun entry hentry => ?_) (Nat.le_add_left 1 depth)
      (hreturns (depth + 1) (Nat.le_succ depth))
    obtain rfl := List.mem_singleton.mp hentry
    exact hserves

end ObservabilityOperator
