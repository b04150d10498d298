import ObservabilityOperator.TokenRefresher

/-!
# What the writing of token refreshers amounts to

The nested loops of `reconcileTokenRefresher` visit every Observatorium of
every index.  `requestedRefreshers` lists, in the order of the loops, the
configuration sets for which they write a Service, a NetworkPolicy and a
Deployment, and a run that succeeds writes these and nothing else.
-/

namespace ObservabilityOperator

open Program

variable {t : TokenRefresherType}

/-! ## Names -/

theorem getTokenRefresherName_inj {id other : String} {u : TokenRefresherType} :
    getTokenRefresherName id t = getTokenRefresherName other u ↔
      id = other ∧ t = u := by
  constructor
  · intro hname
    have hmetrics : "metrics".toList = 'm' :: "etrics".toList := by simp
    have hlogs : "logs".toList = 'l' :: "ogs".toList := by simp
    unfold getTokenRefresherName at hname
    rw [← String.toList_inj] at hname
    simp only [String.toList_append, List.append_assoc,
      List.append_cancel_left_eq] at hname
    cases t <;> cases u <;>
      simp only [TokenRefresherType.text, hmetrics, hlogs,
        List.append_cancel_left_eq, String.toList_inj, List.cons_append,
        List.cons.injEq] at hname
    · exact ⟨hname.2, rfl⟩
    · exact absurd hname.1 (by decide)
    · exact absurd hname.1 (by decide)
    · exact ⟨hname.2, rfl⟩
  · rintro ⟨rfl, rfl⟩
    rfl

theorem networkPolicyName_inj {name other : String} :
    networkPolicyName name = networkPolicyName other ↔ name = other := by
  constructor
  · intro hname
    unfold networkPolicyName at hname
    rw [← String.toList_inj] at hname
    simpa only [String.toList_append, List.append_cancel_right_eq,
      String.toList_inj] using hname
  · rintro rfl
    rfl

theorem name_of_getTokenRefresherConfigSetFor {platform : Platform}
    {observatorium : ObservatoriumIndex} {config : TokenRefresherConfigSet}
    (hconfig : getTokenRefresherConfigSetFor platform t observatorium =
      .ok (some config)) :
    config.name = getTokenRefresherName observatorium.id t := by
  unfold getTokenRefresherConfigSetFor at hconfig
  split at hconfig
  next => simp at hconfig
  next sso hsso =>
    split at hconfig
    next => simp at hconfig
    next =>
      cases t <;> simp only at hconfig <;> split at hconfig <;>
        simp only [Except.ok.injEq, Option.some.injEq, reduceCtorEq]
          at hconfig
      all_goals
        subst hconfig
        rfl

structure RefresherEntry where
  promtailEnabled : Bool
  observatorium : ObservatoriumIndex
  deriving DecidableEq, Repr

namespace RefresherEntry

variable (platform : Platform) (entry : RefresherEntry)

def configSet? (t : TokenRefresherType) : Option TokenRefresherConfigSet :=
  if t = .logs ∧ !entry.promtailEnabled then none
  else
    match getTokenRefresherConfigSetFor platform t entry.observatorium with
    | .ok configSet => configSet
    | .error _ => none

def requested : List TokenRefresherConfigSet :=
  if entry.observatorium.authType = .redhat then
    [TokenRefresherType.metrics, .logs].filterMap (entry.configSet? platform)
  else []

theorem name_of_configSet? {platform : Platform} {entry : RefresherEntry}
    {config : TokenRefresherConfigSet}
    (hconfig : entry.configSet? platform t = some config) :
    config.name = getTokenRefresherName entry.observatorium.id t := by
  unfold configSet? at hconfig
  split at hconfig
  next => cases hconfig
  next =>
    split at hconfig
    next found hfound =>
      subst hconfig
      exact name_of_getTokenRefresherConfigSetFor hfound
    next => cases hconfig

end RefresherEntry

def RepositoryIndex.refresherEntries (index : RepositoryIndex) :
    List RefresherEntry :=
  match index.config with
  | none => []
  | some config =>
    config.observatoria.map fun observatorium =>
      ⟨config.promtailEnabled, observatorium⟩

def refresherEntries (indexes : List RepositoryIndex) :
    List RefresherEntry :=
  indexes.flatMap RepositoryIndex.refresherEntries

def requestedRefreshers (platform : Platform)
    (indexes : List RepositoryIndex) : List TokenRefresherConfigSet :=
  (refresherEntries indexes).flatMap (RefresherEntry.requested platform)

/-! ## The calls of one refresher -/

section Calls

variable (cr : Observability) (config : TokenRefresherConfigSet)

def writeRefresher : Go Unit :=
  (createServiceFor cr config).bind fun _ => createDeploymentFor cr config

variable {allowed : ApiCall Kind.Spec Action → Prop}

theorem getOauth2ConfigSecret_uses
    (hget : allowed (.get .secret ⟨cr.ns, remoteWriteOIDCSecretName⟩)) :
    (getOauth2ConfigSecret cr).Uses allowed := by
  refine Program.Uses.bind ((Client.uses_get _ _ _).mpr hget) fun reply => ?_
  split
  · trivial
  · trivial
  · exact Client.uses_orFail _ _

def RefresherKey (kind : Kind) (key : ObjectKey) : Prop :=
  match kind with
  | .service => key = getTokenRefresherService cr config.name
  | .networkPolicy => key = getTokenRefresherNetworkPolicy cr config.name
  | .deployment => key = getTokenRefresherDeployment cr config.name
  | _ => False

theorem writeRefresher_uses
    (hget : ∀ kind key, RefresherKey cr config kind key →
      allowed (.get kind key))
    (hcreate : ∀ kind key object, RefresherKey cr config kind key →
      allowed (.create kind key object))
    (hupdate : ∀ kind key object, RefresherKey cr config kind key →
      allowed (.update kind key object)) :
    (writeRefresher cr config).Uses allowed := by
  have hwrite {kind key blank change} (hkey : RefresherKey cr config kind key) :
      ((upsert kind key blank change : Go _).bind fun _ => .done ()).Uses
        allowed :=
    .bind (upsert_uses (hget _ _ hkey) (fun _ => hcreate _ _ _ hkey)
      fun _ => hupdate _ _ _ hkey) fun _ => trivial
  exact .bind (hwrite rfl) fun _ => .bind (hwrite rfl) fun _ => hwrite rfl

structure RefresherWritten (before after : Cluster) : Prop where
  service :
    after.find .service (getTokenRefresherService cr config.name) =
      some (tokenRefresherService config
        ((before.find .service
          (getTokenRefresherService cr config.name)).getD Kind.service.blank))
  networkPolicy :
    after.find .networkPolicy
        (getTokenRefresherNetworkPolicy cr config.name) =
      some (tokenRefresherNetworkPolicy config
        ((before.find .networkPolicy
          (getTokenRefresherNetworkPolicy cr config.name)).getD
            Kind.networkPolicy.blank))
  deployment :
    after.find .deployment (getTokenRefresherDeployment cr config.name) =
      some (tokenRefresherDeployment config
        ((before.find .deployment
          (getTokenRefresherDeployment cr config.name)).getD
            Kind.deployment.blank))
  others : ∀ kind key, ¬ RefresherKey cr config kind key →
    after.find kind key = before.find kind key

variable {cr config} {env : Surroundings} {cluster after : Cluster}

theorem run_writeRefresher_eq_ok
    (hrun : env.run (writeRefresher cr config) cluster = (.ok (), after)) :
    RefresherWritten cr config cluster after := by
  obtain ⟨_, first, hservice, hrest⟩ := run_bind_eq_ok hrun
  obtain ⟨_, second, hpolicy, hdeployment⟩ := run_bind_eq_ok hrest
  obtain ⟨hservice, -, hafterService⟩ := run_upsert_discarded_eq_ok hservice
  obtain ⟨hpolicy, -, hafterPolicy⟩ := run_upsert_discarded_eq_ok hpolicy
  obtain ⟨hdeployment, -, hafterDeployment⟩ :=
    run_upsert_discarded_eq_ok hdeployment
  refine ⟨?_, ?_, ?_, fun kind key hkey => ?_⟩
  · rw [hafterDeployment _ _ (by simp), hafterPolicy _ _ (by simp), hservice]
  · rw [hafterDeployment _ _ (by simp), hpolicy,
      hafterService _ _ (by simp)]
  · rw [hdeployment, hafterPolicy _ _ (by simp), hafterService _ _ (by simp)]
  · rw [hafterDeployment, hafterPolicy, hafterService]
    all_goals
      rintro ⟨rfl, rfl⟩
      exact hkey rfl

end Calls

/-! ## The loops -/

def oauth2Secret (cr : Observability) (cluster : Cluster) :
    Option (Resource SecretSpec) :=
  cluster.find .secret ⟨cr.ns, remoteWriteOIDCSecretName⟩

section Loops

variable {platform : Platform} {cr : Observability}
  {env : Surroundings} {cluster after : Cluster} {kind : Kind}
  {key : ObjectKey} {entry : RefresherEntry} {indexes : List RepositoryIndex}
  {allowed : ApiCall Kind.Spec Action → Prop}
  {observatorium : ObservatoriumIndex}

theorem run_getOauth2ConfigSecret_eq_ok
    {secret : Option (Resource SecretSpec)}
    (hrun : env.run (getOauth2ConfigSecret cr) cluster = (.ok secret, after)) :
    secret = oauth2Secret cr cluster ∧ after = cluster.advance := by
  unfold getOauth2ConfigSecret at hrun
  simp only [Surroundings.run, bind_eq_bind, run_get_bind] at hrun
  cases hfault : env.environment.fault cluster.tick
      (.get .secret ⟨cr.ns, remoteWriteOIDCSecretName⟩) with
  | some fault =>
    cases hfailure : fault.failure <;>
      simp [hfault, withFault, hfailure, Failure.toError,
        Client.orFail] at hrun
  | none =>
    simp only [hfault, withFault, World.read] at hrun
    cases hfind : cluster.find .secret ⟨cr.ns, remoteWriteOIDCSecretName⟩ with
    | none =>
      simp only [hfind, pure_eq_done, run_done,
        Prod.mk.injEq, Except.ok.injEq] at hrun
      exact ⟨by rw [oauth2Secret, hfind, ← hrun.1], hrun.2.symm⟩
    | some found =>
      simp only [hfind, pure_eq_done, run_done,
        Prod.mk.injEq, Except.ok.injEq] at hrun
      exact ⟨by rw [oauth2Secret, hfind, ← hrun.1], hrun.2.symm⟩

theorem not_issues_getOauth2ConfigSecret (hkind : kind ≠ .secret) :
    ¬ (getOauth2ConfigSecret cr).Issues (serve env.environment)
        cluster (.get kind key) := by
  intro hissues
  have huses : (getOauth2ConfigSecret cr).Uses fun call =>
      call ≠ .get kind key :=
    getOauth2ConfigSecret_uses cr fun hcall =>
      hkind (ApiCall.get.inj hcall).1.symm
  exact huses.of_issues hissues rfl

theorem RefresherWritten.oauth2Secret_eq {config : TokenRefresherConfigSet}
    (hwritten : RefresherWritten cr config cluster after) :
    oauth2Secret cr after = oauth2Secret cr cluster :=
  hwritten.others _ _ (by simp [RefresherKey])

theorem reconcileTokenRefresherFor_uses {logsDisabled : Bool}
    (hsecret : allowed (.get .secret ⟨cr.ns, remoteWriteOIDCSecretName⟩))
    (hwrite : ∀ config, (writeRefresher cr config).Uses allowed) :
    (reconcileTokenRefresherFor platform cr observatorium
      logsDisabled).Uses allowed := by
  unfold reconcileTokenRefresherFor
  split
  · trivial
  · refine Program.Uses.bind (getOauth2ConfigSecret_uses cr hsecret)
      fun secret => ?_
    cases secret with
    | some secret => trivial
    | none =>
      refine Program.Uses.forEach fun t _ => ?_
      unfold reconcileTokenRefresherOf
      split
      · trivial
      · refine Program.Uses.bind (uses_ofExcept _ _) fun configSet => ?_
        cases configSet with
        | none => trivial
        | some config => exact hwrite config

theorem reconcileTokenRefresher_uses
    (hsecret : allowed (.get .secret ⟨cr.ns, remoteWriteOIDCSecretName⟩))
    (hwrite : ∀ config, (writeRefresher cr config).Uses allowed)
    (indexes : List RepositoryIndex) :
    (reconcileTokenRefresher platform cr indexes).Uses allowed := by
  apply Program.Uses.forEach
  intro index _
  split
  · trivial
  · apply Program.Uses.forEach
    intro observatorium _
    split
    · exact reconcileTokenRefresherFor_uses hsecret hwrite
    · trivial

theorem oauth2Secret_of_run_reconcileTokenRefresherFor {logsDisabled : Bool}
    (hrun : env.run
      (reconcileTokenRefresherFor platform cr observatorium logsDisabled)
      cluster = (.ok (), after)) :
    oauth2Secret cr after = oauth2Secret cr cluster := by
  have huses : (reconcileTokenRefresherFor platform cr observatorium
      logsDisabled).Uses fun call =>
        ¬ call.Writes .secret ⟨cr.ns, remoteWriteOIDCSecretName⟩ := by
    refine reconcileTokenRefresherFor_uses (fun hwrites => hwrites)
      fun config => writeRefresher_uses cr config ?_ ?_ ?_
    · exact fun _ _ _ hwrites => hwrites
    all_goals
      rintro kind key object hkey ⟨rfl, rfl⟩
      exact hkey
  exact Surroundings.find_of_run hrun huses

theorem reconcileTokenRefresherOf_eq
    (hrun : env.run
      (reconcileTokenRefresherOf platform cr entry.observatorium
        (!entry.promtailEnabled) t) cluster = (.ok (), after)) :
    reconcileTokenRefresherOf platform cr entry.observatorium
        (!entry.promtailEnabled) t =
      match entry.configSet? platform t with
      | none => .done ()
      | some config => writeRefresher cr config := by
  unfold reconcileTokenRefresherOf RefresherEntry.configSet? at *
  split
  · rfl
  · rename_i hskip
    rw [if_neg hskip] at hrun
    cases hconfig : getTokenRefresherConfigSetFor platform t
        entry.observatorium with
    | error error =>
      simp [hconfig, Program.ofExcept] at hrun
    | ok configSet =>
      cases configSet with
      | none => rfl
      | some config => rfl

/-- The two outer loops are one loop over the entries of all indexes. -/
theorem reconcileTokenRefresher_eq (platform : Platform) (cr : Observability)
    (indexes : List RepositoryIndex) :
    reconcileTokenRefresher platform cr indexes =
      Program.forEach (refresherEntries indexes) fun entry =>
        if entry.observatorium.authType = .redhat then
          reconcileTokenRefresherFor platform cr entry.observatorium
            (!entry.promtailEnabled)
        else .done () := by
  rw [refresherEntries, forEach_flatMap]
  unfold reconcileTokenRefresher RepositoryIndex.refresherEntries
  congr 1
  funext index
  cases index.config with
  | none => rfl
  | some config => rw [forEach_map]

theorem run_reconcileTokenRefresherFor_eq_ok
    (habsent : oauth2Secret cr cluster = none)
    (hrun : env.run
      (reconcileTokenRefresherFor platform cr entry.observatorium
        (!entry.promtailEnabled)) cluster = (.ok (), after)) :
    entry.observatorium.isValid = true ∧
      env.run
        (Program.forEach [.metrics, .logs]
          (reconcileTokenRefresherOf platform cr entry.observatorium
            (!entry.promtailEnabled))) cluster.advance = (.ok (), after) ∧
      ∀ kind key, kind ≠ .secret →
        ((reconcileTokenRefresherFor platform cr entry.observatorium
            (!entry.promtailEnabled)).Issues
              (serve env.environment) cluster (.get kind key) ↔
          (Program.forEach [.metrics, .logs]
            (reconcileTokenRefresherOf platform cr entry.observatorium
              (!entry.promtailEnabled))).Issues
                (serve env.environment) cluster.advance
                (.get kind key)) := by
  unfold reconcileTokenRefresherFor at hrun ⊢
  cases hvalid : entry.observatorium.isValid with
  | false => simp [hvalid] at hrun
  | true =>
    simp only [hvalid, Bool.not_true, Bool.false_eq_true, if_false] at hrun ⊢
    obtain ⟨secret, between, hget, hrest⟩ := run_bind_eq_ok hrun
    obtain ⟨hsecret, hbetween⟩ := run_getOauth2ConfigSecret_eq_ok hget
    rw [habsent] at hsecret
    subst hsecret hbetween
    refine ⟨trivial, hrest, fun kind key hkind => ?_⟩
    rw [bind_eq_bind, issues_bind_of_ok hget]
    exact or_iff_right (not_issues_getOauth2ConfigSecret hkind)

structure RefresherView (env : Surroundings) (cr : Observability)
    (V : Type) where
  view : Cluster → V
  update : V → TokenRefresherConfigSet → V
  read : ∀ cluster, view cluster.advance = view cluster
  write : ∀ config before after,
    env.run (writeRefresher cr config) before = (.ok (), after) →
      view after = update (view before) config

namespace RefresherView

variable {V : Type} (watched : RefresherView env cr V)

theorem of_entry (hredhat : entry.observatorium.authType = .redhat)
    (habsent : oauth2Secret cr cluster = none)
    (hrun : env.run
      (reconcileTokenRefresherFor platform cr entry.observatorium
        (!entry.promtailEnabled)) cluster = (.ok (), after)) :
    oauth2Secret cr after = none ∧
      watched.view after =
        (entry.requested platform).foldl watched.update
          (watched.view cluster) := by
  obtain ⟨-, hloop, -⟩ := run_reconcileTokenRefresherFor_eq_ok habsent hrun
  rw [RefresherEntry.requested, if_pos hredhat, List.foldl_filterMap,
    ← watched.read cluster]
  refine run_forEach_view (fun state => oauth2Secret cr state = none)
    watched.view _ (fun t _ state next hstate hnext => ?_) habsent hloop
  have hbody := reconcileTokenRefresherOf_eq hnext
  rw [hbody] at hnext
  cases hconfig : entry.configSet? platform t with
  | none =>
    simp only [hconfig, run_done, Prod.mk.injEq, true_and] at hnext
    subst hnext
    exact ⟨hstate, rfl⟩
  | some config =>
    simp only [hconfig] at hnext
    refine ⟨?_, watched.write config state next hnext⟩
    rw [(run_writeRefresher_eq_ok hnext).oauth2Secret_eq, hstate]

theorem of_run (habsent : oauth2Secret cr cluster = none)
    (hrun : env.run (reconcileTokenRefresher platform cr indexes)
      cluster = (.ok (), after)) :
    watched.view after =
      (requestedRefreshers platform indexes).foldl watched.update
        (watched.view cluster) := by
  rw [reconcileTokenRefresher_eq] at hrun
  rw [requestedRefreshers, List.foldl_flatMap]
  refine (run_forEach_view
    (fun state => oauth2Secret cr state = none) watched.view _
    (fun entry _ state next hstate hnext => ?_) habsent hrun).2
  split at hnext
  next hredhat => exact watched.of_entry hredhat hstate hnext
  next hother =>
    cases hnext
    rw [RefresherEntry.requested, if_neg hother]
    exact ⟨hstate, rfl⟩

end RefresherView

theorem valid_of_run_reconcileTokenRefresher
    (habsent : oauth2Secret cr cluster = none)
    (hrun : env.run (reconcileTokenRefresher platform cr indexes)
      cluster = (.ok (), after)) :
    ∀ entry ∈ refresherEntries indexes,
      entry.observatorium.authType = .redhat →
        entry.observatorium.isValid = true ∧
          ∃ configSet, getTokenRefresherConfigSetFor platform .metrics
            entry.observatorium = .ok configSet := by
  rw [reconcileTokenRefresher_eq] at hrun
  refine (run_forEach_forall (fun state => oauth2Secret cr state = none) _
    (fun entry _ state next hstate hnext => ?_) habsent hrun).2
  split at hnext
  next hredhat =>
    obtain ⟨hvalid, hloop, -⟩ :=
      run_reconcileTokenRefresherFor_eq_ok hstate hnext
    obtain ⟨_, between, hmetrics, -⟩ := run_bind_eq_ok hloop
    refine ⟨?_, fun _ => ⟨hvalid, ?_⟩⟩
    · rw [oauth2Secret_of_run_reconcileTokenRefresherFor hnext, hstate]
    cases hconfig : getTokenRefresherConfigSetFor platform .metrics
        entry.observatorium with
    | ok configSet => exact ⟨configSet, rfl⟩
    | error error =>
      simp [reconcileTokenRefresherOf, hconfig, Program.ofExcept]
        at hmetrics
  next hother =>
    cases hnext
    exact ⟨hstate, fun hredhat => absurd hredhat hother⟩

end Loops

/-! ## Pruning -/

section Pruning

variable {platform : Platform} {kind : Kind} {render : String → String}
  {cr : Observability} {indexes : List RepositoryIndex}
  {env : Surroundings} {cluster after : Cluster}

theorem deleteUnrequested_eq :
    deleteUnrequested platform kind render cr indexes =
      ((Client.list kind
        { ns := some cr.getPrometheusOperatorNamespace
          labels := authenticationProxyLabels }).bind fun reply =>
            Client.orFail reply).bind fun list =>
        (getOauth2ConfigSecret cr).bind fun secret =>
          Program.forEach list fun item =>
            deleteUnlessRequested kind
              (shouldExist platform cr render secret indexes item.1.name)
              item.1 := by
  simp only [deleteUnrequested, bind_eq_bind, Program.bind_assoc]

theorem deleteUnlessRequested_uses
    {allowed : ApiCall Kind.Spec Action → Prop} {key : ObjectKey}
    {requested : Except Panic Bool}
    (hdelete : requested = .ok false → allowed (.delete kind key)) :
    (deleteUnlessRequested kind requested key).Uses allowed := by
  unfold deleteUnlessRequested
  split
  · trivial
  · trivial
  · refine Program.Uses.bind ?_ fun reply => Client.uses_orFail _ _
    exact (Client.uses_delete _ _ _).mpr (hdelete rfl)

theorem shouldExist_of_issues_delete {target : Kind} {key : ObjectKey}
    (hissues : (deleteUnrequested platform kind render cr indexes).Issues
      (serve env.environment) cluster (.delete target key)) :
    target = kind ∧
      shouldExist platform cr render (oauth2Secret cr cluster) indexes
        key.name = .ok false := by
  rw [deleteUnrequested_eq] at hissues
  rcases hissues.of_bind with hlist | ⟨items, listed, hlist, hissues⟩
  · have huses : ((Client.list kind
        { ns := some cr.getPrometheusOperatorNamespace
          labels := authenticationProxyLabels }).bind fun reply =>
            Client.orFail reply : Go _).Uses fun call =>
              call ≠ .delete target key :=
      Program.Uses.bind ((Client.uses_list _ _ _).mpr (by simp))
        fun _ => Client.uses_orFail _ _
    exact absurd rfl (huses.of_issues hlist)
  obtain ⟨rfl, rfl⟩ := run_list_orFail_eq_ok hlist
  rcases hissues.of_bind with hget | ⟨secret, read, hget, hissues⟩
  · have huses : (getOauth2ConfigSecret cr).Uses fun call =>
        call ≠ .delete target key :=
      getOauth2ConfigSecret_uses cr (by simp)
    exact absurd rfl (huses.of_issues hget)
  obtain ⟨rfl, rfl⟩ := run_getOauth2ConfigSecret_eq_ok hget
  have huses : (Program.forEach (cluster.select kind
      { ns := some cr.getPrometheusOperatorNamespace
        labels := authenticationProxyLabels }) fun item =>
          deleteUnlessRequested kind
            (shouldExist platform cr render (oauth2Secret cr cluster) indexes
              item.1.name) item.1).Uses fun call =>
        call = .delete target key → target = kind ∧
          shouldExist platform cr render (oauth2Secret cr cluster) indexes
            key.name = .ok false := by
    refine Program.Uses.forEach fun item _ =>
      deleteUnlessRequested_uses fun hrequested hcall => ?_
    obtain ⟨rfl, rfl⟩ := ApiCall.delete.inj hcall
    exact ⟨rfl, hrequested⟩
  exact huses.of_issues hissues rfl

theorem shouldExist_congr {secret other : Option (Resource SecretSpec)}
    (hsame : secret.isSome = other.isSome) (name : String) :
    shouldExist platform cr render secret indexes name =
      shouldExist platform cr render other indexes name := by
  simp only [shouldExist, hsame]

end Pruning

end ObservabilityOperator
