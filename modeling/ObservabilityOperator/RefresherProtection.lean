import ObservabilityOperator.StageFootprints
import ObservabilityOperator.TokenRefresherPruning

/-!
# No token refresher without its network policy

A token refresher is a Deployment with the label of authentication proxies.
After every single call of a pass of the configuration stage, whatever the call
before has returned, each token refresher has the network policy that is named
after it in its own namespace.

A policy is written before its Deployment and deleted after it.
-/

namespace ObservabilityOperator

variable {requested : String → Except Panic Bool}

/-- The deployment has the labels of a refresher. -/
def IsTokenRefresher (deployment : Resource DeploymentSpec) : Prop :=
  authenticationProxyLabels.Matches deployment.labels = true

/-- A token refresher of this name is there. -/
def HasRefresher (cluster : Cluster) (key : ObjectKey) : Prop :=
  ∃ deployment, cluster.find .deployment key = some deployment ∧
    IsTokenRefresher deployment

def HasPolicy (cluster : Cluster) (key : ObjectKey) : Prop :=
  (cluster.find .networkPolicy key).isSome

/-- Every token refresher has its network policy. -/
def Protected (cluster : Cluster) : Prop :=
  ∀ ns name, HasRefresher cluster ⟨ns, name⟩ →
    HasPolicy cluster ⟨ns, networkPolicyName name⟩

/-- No refresher is new and no policy is gone. -/
structure Spares (before after : Cluster) : Prop where
  refresher : ∀ key, HasRefresher after key → HasRefresher before key
  networkPolicy : ∀ key, HasPolicy before key → HasPolicy after key

theorem Spares.trans {first second third : Cluster}
    (hfirst : Spares first second) (hsecond : Spares second third) :
    Spares first third :=
  ⟨fun key hkey => hfirst.refresher key (hsecond.refresher key hkey),
    fun key hkey => hsecond.networkPolicy key (hfirst.networkPolicy key hkey)⟩

theorem Protected.of_spares {before after : Cluster}
    (hprotected : Protected before) (hspares : Spares before after) :
    Protected after :=
  fun ns name hrefresher => hspares.networkPolicy _
    (hprotected ns name (hspares.refresher _ hrefresher))

/-! ## Others at work -/

/-- The refreshers have been spared, and the secret that replaces them is
there if it was. -/
structure Undisturbed (cr : Observability) (before after : Cluster) : Prop
    extends Spares before after where
  oauth2Secret :
    (oauth2Secret cr after).isSome = (oauth2Secret cr before).isSome

structure Bystanders (cr : Observability) where
  act : ℕ → Cluster → Cluster
  undisturbed : ∀ tick cluster, Undisturbed cr cluster (act tick cluster)

def Bystanders.serve {cr : Observability} (bystanders : Bystanders cr)
    (env : Surroundings) :
    Handler (ApiCall.Reply Kind.Spec Action.Reply) Cluster :=
  fun call cluster =>
    let answer :=
      ObservabilityOperator.serve env.environment call cluster
    (answer.1, bystanders.act answer.2.tick answer.2)

def Bystanders.idle (cr : Observability) : Bystanders cr where
  act _ cluster := cluster
  undisturbed _ _ := ⟨⟨fun _ hkey => hkey, fun _ hkey => hkey⟩, rfl⟩

def Harmless : ApiCall Kind.Spec Action → Prop
  | .create .deployment _ object => ¬ IsTokenRefresher object
  | .update .deployment _ object => ¬ IsTokenRefresher object
  | .delete .networkPolicy _ => False
  | _ => True

section Steps

variable {cr : Observability} {bystanders : Bystanders cr}
  {env : Surroundings} {cluster : Cluster}
  {call : ApiCall Kind.Spec Action} {α : Type} {program : Go α}

theorem Harmless.spares (hcall : Harmless call) :
    Spares cluster (serve env.environment call cluster).2 := by
  refine ⟨?_, fun key hkey => serve_isSome_find ?_ hkey⟩
  · rintro key ⟨deployment, hfind, hlabels⟩
    rcases serve_find_eq_some hfind with hbefore | rfl | rfl
    · exact ⟨deployment, hbefore, hlabels⟩
    · exact absurd hlabels hcall
    · exact absurd hlabels hcall
  · rintro rfl
    exact hcall

theorem Bystanders.spares_serve
    (hspares : Spares cluster
      (ObservabilityOperator.serve env.environment call cluster).2) :
    Spares cluster (bystanders.serve env call cluster).2 :=
  hspares.trans (bystanders.undisturbed _ _).toSpares

theorem maintains_protected_of_harmless (huses : program.Uses Harmless) :
    program.Maintains (bystanders.serve env) Protected :=
  huses.maintains fun _ hcall _ hstate =>
    hstate.of_spares (bystanders.spares_serve hcall.spares)

theorem allowsKinds_harmless {kinds : List Kind}
    (hdeployment : .deployment ∉ kinds) (hpolicy : .networkPolicy ∉ kinds) :
    AllowsKinds kinds Harmless where
  get _ _ := trivial
  list _ _ := trivial
  now := trivial
  http _ := trivial
  setLabels := trivial
  create kind hkind _ _ := by cases kind <;> trivial
  update kind hkind _ _ := by cases kind <;> trivial
  delete kind hkind _ := by cases kind <;> trivial

theorem harmless_allowsResources : AllowsResources cr Harmless where
  get _ _ := trivial
  list _ _ := trivial
  now := trivial
  setResourcesRoute _ := trivial
  createDeployment _ _ := by
    simp only [Harmless, IsTokenRefresher, resourcesDeployment]
    decide
  updateDeployment _ _ := by
    simp only [Harmless, IsTokenRefresher, resourcesDeployment]
    decide
  createService _ := trivial
  updateService _ := trivial
  createRoute _ := trivial
  updateRoute _ := trivial

theorem Bystanders.undisturbed_read
    (hobjects : (ObservabilityOperator.serve env.environment call
      cluster).2.objects = cluster.objects) :
    Undisturbed cr cluster (bystanders.serve env call cluster).2 := by
  have hother := bystanders.undisturbed
    (ObservabilityOperator.serve env.environment call cluster).2.tick
    (ObservabilityOperator.serve env.environment call cluster).2
  refine ⟨⟨fun key hkey => ?_, fun key hkey => ?_⟩, ?_⟩
  · have hbefore := hother.refresher key hkey
    rwa [HasRefresher, World.find_congr hobjects] at hbefore
  · refine hother.networkPolicy key ?_
    rwa [HasPolicy, World.find_congr hobjects]
  · refine hother.oauth2Secret.trans ?_
    rw [ObservabilityOperator.oauth2Secret, World.find_congr hobjects]
    rfl

end Steps

/-! ## Writing a refresher -/

section Writing

variable {platform : Platform} {cr : Observability}
  {bystanders : Bystanders cr} {env : Surroundings}

variable {cluster : Cluster}

theorem ensures_createNetworkPolicyFor (config : TokenRefresherConfigSet)
    (hcluster : Protected cluster) :
    (createNetworkPolicyFor cr config).Ensures
      (bystanders.serve env) Protected cluster
      (fun _ after => Protected after ∧
        HasPolicy after (getTokenRefresherNetworkPolicy cr config.name))
      (fun _ => Protected) := by
  have hstep (call : ApiCall Kind.Spec Action) (hcall : Harmless call)
      (state : Cluster) (hstate : Protected state) :
      Protected (bystanders.serve env call state).2 :=
    hstate.of_spares (bystanders.spares_serve hcall.spares)
  refine Program.Ensures.bind (upsert_ensures
    (fun _ _ => rfl) (fun call state hfound => ?_)
    (hstep (.get .networkPolicy _) trivial)
    (fun state object => hstep (.create .networkPolicy _ object) trivial state)
    (fun state object => hstep (.update .networkPolicy _ object) trivial state)
    hcluster) fun _ after hafter => hafter
  exact (bystanders.undisturbed _ _).networkPolicy _ hfound

theorem Protected.serve_deployment {call : ApiCall Kind.Spec Action}
    {ns name : String} (hcluster : Protected cluster)
    (hpolicy : HasPolicy cluster ⟨ns, networkPolicyName name⟩)
    (hcall : call.WritesOnly fun kind key =>
      kind = .deployment ∧ key = ⟨ns, name⟩) :
    Protected (bystanders.serve env call cluster).2 ∧
      HasPolicy (bystanders.serve env call cluster).2
        ⟨ns, networkPolicyName name⟩ := by
  have hothers := bystanders.undisturbed
    (serve env.environment call cluster).2.tick
    (serve env.environment call cluster).2
  have hkept (key : ObjectKey) (hkey : HasPolicy cluster key) :
      HasPolicy (bystanders.serve env call cluster).2 key := by
    refine hothers.networkPolicy key (serve_isSome_find ?_ hkey)
    rintro rfl
    simp at hcall
  refine ⟨fun other label hrefresher => hkept _ ?_, hkept _ hpolicy⟩
  by_cases hkey : (⟨other, label⟩ : ObjectKey) = ⟨ns, name⟩
  · obtain ⟨rfl, rfl⟩ := ObjectKey.mk.inj hkey
    exact hpolicy
  · refine hcluster other label ?_
    have hafter := hothers.refresher _ hrefresher
    rwa [HasRefresher, serve_find env.environment
      fun hwrites => hkey (hcall _ _ hwrites).2] at hafter

theorem maintains_writeRefresher (config : TokenRefresherConfigSet) :
    (writeRefresher cr config).Maintains (bystanders.serve env) Protected := by
  refine .bind (maintains_protected_of_harmless ?_) fun _ => ?_
  · exact .bind (upsert_uses trivial (fun _ => trivial) fun _ => trivial)
      fun _ => trivial
  intro state hstate
  refine (ensures_createNetworkPolicyFor config hstate).bind
    fun _ between hbetween => ?_
  have hdeployment : (upsert Kind.deployment
      (getTokenRefresherDeployment cr config.name) Kind.deployment.blank
      (tokenRefresherDeployment config) : Go _).Maintains
        (bystanders.serve env) fun cluster => Protected cluster ∧
          HasPolicy cluster
            (getTokenRefresherNetworkPolicy cr config.name) := by
    have huses : (upsert Kind.deployment
        (getTokenRefresherDeployment cr config.name) Kind.deployment.blank
        (tokenRefresherDeployment config) : Go _).Uses
          (ApiCall.WritesOnly fun kind key => kind = .deployment ∧
            key = ⟨cr.getPrometheusOperatorNamespace, config.name⟩) :=
      upsert_uses (ApiCall.writesOnly_get _ _)
        (fun _ => (ApiCall.writesOnly_create _ _ _).mpr ⟨rfl, rfl⟩)
        fun _ => (ApiCall.writesOnly_update _ _ _).mpr ⟨rfl, rfl⟩
    exact huses.maintains fun call hcall state hstate =>
      hstate.1.serve_deployment hstate.2 hcall
  refine Program.Ensures.bind (((hdeployment between hbetween).weaken
    fun _ hinv => hinv.1).mono (fun _ _ hafter => hafter)
      fun _ _ hafter => hafter.1) fun _ _ hafter => hafter.1

theorem maintains_reconcileTokenRefresher (indexes : List RepositoryIndex) :
    (reconcileTokenRefresher platform cr indexes).Maintains
      (bystanders.serve env) Protected := by
  have hdone : (Program.done () : Go Unit).Maintains
      (bystanders.serve env) Protected := fun _ hstate => hstate
  refine .forEach fun index _ => ?_
  split
  · exact hdone
  refine .forEach fun observatorium _ => ?_
  split
  swap
  · exact hdone
  unfold reconcileTokenRefresherFor
  split
  · exact fun _ hstate => hstate
  refine .bind (maintains_protected_of_harmless
    (getOauth2ConfigSecret_uses cr trivial)) fun secret => ?_
  split
  · exact hdone
  refine .forEach fun t _ => ?_
  unfold reconcileTokenRefresherOf
  split
  · exact hdone
  refine .bind (maintains_protected_of_harmless (Program.uses_ofExcept _ _))
    fun configSet => ?_
  split
  · exact hdone
  · exact maintains_writeRefresher _

end Writing

/-! ## Deleting refreshers, then policies -/

section Deleting

variable {cr : Observability} {bystanders : Bystanders cr}
  {env : Surroundings} {present : Bool} {ns : String}
  {cluster : Cluster}

/-- Every refresher is protected, and the secret that replaces them is there
or is not. -/
def Guarded (cr : Observability) (present : Bool) (cluster : Cluster) :
    Prop :=
  Protected cluster ∧ (oauth2Secret cr cluster).isSome = present

def Pruned (ns : String) (requested : String → Except Panic Bool)
    (cluster : Cluster) : Prop :=
  ∀ name, HasRefresher cluster ⟨ns, name⟩ → requested name = .ok true

variable {before after : Cluster} {α : Type} {kind : Kind}
  {Inv : Cluster → Prop} {Ok : α → Cluster → Prop}

theorem Guarded.of_undisturbed (hguarded : Guarded cr present before)
    (hsame : Undisturbed cr before after) : Guarded cr present after :=
  ⟨hguarded.1.of_spares hsame.toSpares, hsame.oauth2Secret.trans hguarded.2⟩

theorem Pruned.of_spares (hpruned : Pruned ns requested before)
    (hspares : Spares before after) : Pruned ns requested after :=
  fun name hrefresher => hpruned name (hspares.refresher _ hrefresher)

theorem Bystanders.oauth2Secret_serve {call : ApiCall Kind.Spec Action}
    (hcall : ¬ call.Writes .secret ⟨cr.ns, remoteWriteOIDCSecretName⟩) :
    (oauth2Secret cr (bystanders.serve env call cluster).2).isSome =
      (oauth2Secret cr cluster).isSome := by
  rw [show (oauth2Secret cr
    (bystanders.serve env call cluster).2).isSome = _ from
      (bystanders.undisturbed _ _).oauth2Secret, oauth2Secret,
    serve_find env.environment hcall]
  rfl

theorem ensures_deleteRefreshers (ns : String)
    (requested : String → Except Panic Bool)
    {items : List (ObjectKey × Resource DeploymentSpec)}
    (hcluster : Guarded cr present cluster)
    (hitems : ∀ name, HasRefresher cluster ⟨ns, name⟩ →
      ⟨ns, name⟩ ∈ items.map Prod.fst) :
    (Program.forEach items fun item => deleteUnlessRequested .deployment
      (requested item.1.name) item.1).Ensures (bystanders.serve env)
        (Guarded cr present) cluster
        (fun _ after => Guarded cr present after ∧ Pruned ns requested after)
        (fun _ => Guarded cr present) := by
  let Loop (rest : List (ObjectKey × Resource DeploymentSpec))
      (state : Cluster) : Prop :=
    Guarded cr present state ∧ ∀ name, HasRefresher state ⟨ns, name⟩ →
      requested name = .ok true ∨ ⟨ns, name⟩ ∈ rest.map Prod.fst
  have hloop : (Program.forEach items fun item => deleteUnlessRequested
      .deployment (requested item.1.name) item.1).Ensures
        (bystanders.serve env) (Guarded cr present) cluster
        (fun _ => Loop []) (fun _ => Guarded cr present) := by
    refine Program.Ensures.forEach (fun item rest state _ hstate => ?_)
      ⟨hcluster, fun name hname => .inr (hitems name hname)⟩
    unfold deleteUnlessRequested
    split
    next => exact hstate.1
    next hrequested =>
      refine ⟨hstate.1, fun name hname => ?_⟩
      rcases hstate.2 name hname with hkept | hmem
      · exact .inl hkept
      · rcases List.mem_cons.mp hmem with hhead | hmem
        · rw [← hhead] at hrequested
          exact .inl hrequested
        · exact .inr hmem
    next =>
      have hspares : Spares state (bystanders.serve env
          (.delete .deployment item.1) state).2 :=
        bystanders.spares_serve (Harmless.spares trivial)
      have hguarded : Guarded cr present (bystanders.serve env
          (.delete .deployment item.1) state).2 :=
        ⟨hstate.1.1.of_spares hspares,
          (bystanders.oauth2Secret_serve (by simp [ApiCall.Writes])).trans
            hstate.1.2⟩
      refine ⟨hguarded, Client.orFail_ensures hguarded fun _ hdeleted =>
        ⟨hguarded, fun name hname => ?_⟩⟩
      rcases hstate.2 name (hspares.refresher _ hname) with hkept | hmem
      · exact .inl hkept
      rcases List.mem_cons.mp hmem with hhead | hmem
      · obtain ⟨deployment, hfind, -⟩ :=
          (bystanders.undisturbed _ _).refresher _ hname
        rw [hhead, serve_delete_of_ok hdeleted] at hfind
        cases hfind
      · exact .inr hmem
  exact hloop.mono (fun _ after hafter => ⟨hafter.1, fun name hname =>
    (hafter.2 name hname).resolve_right (by simp)⟩) fun _ _ hafter => hafter

/-- Policies may be deleted as long as none of them belongs to a refresher
that is still requested. -/
theorem maintains_deletePolicies (ns : String)
    (requested requestedPolicy : String → Except Panic Bool)
    {items : List (ObjectKey × Resource NetworkPolicySpec)}
    (hagree : ∀ name, requested name = .ok true →
      requestedPolicy (networkPolicyName name) ≠ .ok false)
    (hitems : ∀ item ∈ items, item.1.ns = ns) :
    (Program.forEach items fun item => deleteUnlessRequested .networkPolicy
      (requestedPolicy item.1.name) item.1).Maintains (bystanders.serve env)
        fun cluster => Guarded cr present cluster ∧
          Pruned ns requested cluster := by
  have huses : (Program.forEach items fun item => deleteUnlessRequested
      .networkPolicy (requestedPolicy item.1.name) item.1).Uses fun call =>
        ∃ key, call = .delete .networkPolicy key ∧ key.ns = ns ∧
          requestedPolicy key.name = .ok false :=
    Program.Uses.forEach fun item hitem => deleteUnlessRequested_uses
      fun hrequested => ⟨item.1, rfl, hitems item hitem, hrequested⟩
  refine huses.maintains ?_
  rintro _ ⟨key, rfl, hns, hunrequested⟩ state ⟨⟨hprotected, hsecret⟩, hpruned⟩
  have hothers := bystanders.undisturbed
    (serve env.environment (.delete .networkPolicy key) state).2.tick
    (serve env.environment (.delete .networkPolicy key) state).2
  have hrefresher (other : ObjectKey) (hother : HasRefresher
      (bystanders.serve env (.delete .networkPolicy key) state).2
        other) : HasRefresher state other := by
    have hbefore := hothers.refresher other hother
    rwa [HasRefresher, serve_find env.environment
      (by simp [ApiCall.Writes])] at hbefore
  refine ⟨⟨fun other name hname => ?_, ?_⟩, fun name hname => ?_⟩
  · refine hothers.networkPolicy _ (serve_isSome_find ?_
      (hprotected other name (hrefresher _ hname)))
    intro hcall
    obtain ⟨-, rfl⟩ := ApiCall.delete.inj hcall
    obtain rfl : other = ns := hns
    exact hagree name (hpruned name (hrefresher _ hname)) hunrequested
  · exact (bystanders.oauth2Secret_serve (by simp [ApiCall.Writes])).trans
      hsecret
  · exact hpruned name (hrefresher _ hname)

theorem ensures_list {options : ListOptions}
    {next : List (ObjectKey × Resource kind.Spec) → Go α}
    (hinv : ∀ after, Undisturbed cr cluster after → Inv after)
    (hnext : ∀ after, Undisturbed cr cluster after →
      (next (cluster.select kind options)).Ensures
        (bystanders.serve env) Inv after Ok (fun _ => Inv)) :
    ((Client.list kind options).bind fun reply =>
      (Client.orFail reply).bind next).Ensures
        (bystanders.serve env) Inv cluster Ok (fun _ => Inv) := by
  have hsame : Undisturbed cr cluster
      (bystanders.serve env (.list kind options) cluster).2 :=
    bystanders.undisturbed_read rfl
  refine ⟨hinv _ hsame, Client.orFail_bind_ensures (hinv _ hsame)
    fun items hitems => ?_⟩
  obtain ⟨-, hitems⟩ := withFault_eq_ok hitems
  obtain rfl := Except.ok.inj hitems
  exact hnext _ hsame

theorem ensures_getOauth2ConfigSecret
    {next : Option (Resource SecretSpec) → Go α}
    (hinv : ∀ after, Undisturbed cr cluster after → Inv after)
    (hnext : ∀ after, Undisturbed cr cluster after →
      (next (oauth2Secret cr cluster)).Ensures
        (bystanders.serve env) Inv after Ok (fun _ => Inv)) :
    ((getOauth2ConfigSecret cr).bind next).Ensures
        (bystanders.serve env) Inv cluster Ok (fun _ => Inv) := by
  let key : ObjectKey := ⟨cr.ns, remoteWriteOIDCSecretName⟩
  have hsame : Undisturbed cr cluster
      (bystanders.serve env (.get .secret key) cluster).2 :=
    bystanders.undisturbed_read rfl
  have hget : (Client.get Kind.secret key : Go _).Ensures
      (bystanders.serve env) Inv cluster
      (fun reply after => Undisturbed cr cluster after ∧
        reply = withFault (env.fault cluster.tick (.get .secret key))
          (cluster.read .secret key)) (fun _ => Inv) :=
    ⟨hinv _ hsame, hsame, rfl⟩
  have hread : (getOauth2ConfigSecret cr).Ensures
      (bystanders.serve env) Inv cluster
      (fun secret after => secret = oauth2Secret cr cluster ∧
        Undisturbed cr cluster after) (fun _ => Inv) := by
    refine hget.bind ?_
    rintro reply after ⟨hafter, hreply⟩
    cases hfault : env.fault cluster.tick (.get .secret key) with
    | some fault =>
      have herror : reply = .error fault.failure.toError := by
        rw [hreply, hfault, withFault]
      subst herror
      cases fault.failure <;> exact hinv after hafter
    | none =>
      rw [hfault] at hreply
      cases hfind : cluster.find .secret key with
      | none =>
        simp only [withFault, World.read, hfind] at hreply
        subst hreply
        exact ⟨hfind.symm, hafter⟩
      | some secret =>
        simp only [withFault, World.read, hfind] at hreply
        subst hreply
        exact ⟨hfind.symm, hafter⟩
  refine hread.bind ?_
  rintro _ after ⟨rfl, hafter⟩
  exact hnext after hafter

theorem mem_select_of_hasRefresher {name : String}
    (hname : HasRefresher cluster ⟨ns, name⟩) :
    ⟨ns, name⟩ ∈ (cluster.select .deployment
      (authenticationProxiesIn ns)).map Prod.fst := by
  obtain ⟨deployment, hfind, hlabels⟩ := hname
  refine List.mem_map.mpr ⟨(⟨ns, name⟩, deployment), ?_, rfl⟩
  refine (cluster.mem_select_iff _ _ _ _).mpr ⟨hfind, ?_⟩
  simpa [ListOptions.selects, authenticationProxiesIn, IsTokenRefresher]
    using hlabels

theorem ns_of_mem_select {item : ObjectKey × Resource kind.Spec}
    (hitem : item ∈ cluster.select kind (authenticationProxiesIn ns)) :
    item.1.ns = ns := by
  have hselects := ((cluster.mem_select_iff _ _ _ _).mp hitem).2
  simp only [ListOptions.selects, authenticationProxiesIn, Bool.and_eq_true,
    beq_iff_eq] at hselects
  exact hselects.1

end Deleting

/-! ## The passes -/

section Passes

variable {platform : Platform} {cr : Observability}
  {bystanders : Bystanders cr} {env : Surroundings}
  {indexes : List RepositoryIndex} {cluster : Cluster}

theorem shouldExist_networkPolicyName
    (secret : Option (Resource SecretSpec)) (name : String) :
    shouldExist platform cr networkPolicyName secret indexes
        (networkPolicyName name) =
      shouldExist platform cr id secret indexes name := by
  have hobservatorium (promtailEnabled : Bool) : searchObservatorium platform
      networkPolicyName (networkPolicyName name) promtailEnabled =
        searchObservatorium platform id name promtailEnabled := by
    funext observatorium
    simp only [searchObservatorium, networkPolicyName_inj, id]
  have hindex : searchIndex platform networkPolicyName
      (networkPolicyName name) = searchIndex platform id name := by
    funext index
    simp only [searchIndex, hobservatorium]
  simp only [shouldExist, hindex]

theorem ensures_deleteUnrequestedTokenRefreshers (hcluster : Protected cluster)
    :
    (deleteUnrequestedTokenRefreshers platform cr indexes).Ensures
      (bystanders.serve env) Protected cluster
      (fun _ after => Guarded cr (oauth2Secret cr cluster).isSome after ∧
        Pruned cr.getPrometheusOperatorNamespace
          (shouldExist platform cr id (oauth2Secret cr cluster) indexes)
          after) (fun _ => Protected) := by
  have hguarded (after : Cluster) (hafter : Undisturbed cr cluster after) :
      Guarded cr (oauth2Secret cr cluster).isSome after :=
    Guarded.of_undisturbed ⟨hcluster, rfl⟩ hafter
  refine ensures_list (fun after hafter => (hguarded after hafter).1)
    fun listed hlisted => ?_
  refine ensures_getOauth2ConfigSecret (fun after hafter =>
    (hguarded listed hlisted).1.of_spares hafter.toSpares) fun read hread => ?_
  refine Program.Ensures.mono (Program.Ensures.weaken
    (ensures_deleteRefreshers cr.getPrometheusOperatorNamespace
      (shouldExist platform cr id (oauth2Secret cr listed) indexes)
      ((hguarded listed hlisted).of_undisturbed hread) fun name hname =>
        mem_select_of_hasRefresher
          (hlisted.refresher _ (hread.refresher _ hname)))
      fun _ hinv => hinv.1)
    (fun _ after hafter => ⟨hafter.1, fun name hname => ?_⟩)
    fun _ _ hafter => hafter.1
  rw [← hafter.2 name hname]
  exact shouldExist_congr hlisted.oauth2Secret.symm name

theorem ensures_deleteUnrequestedNetworkPolicies
    {secret : Option (Resource SecretSpec)}
    (hcluster : Guarded cr secret.isSome cluster)
    (hpruned : Pruned cr.getPrometheusOperatorNamespace
      (shouldExist platform cr id secret indexes) cluster) :
    (deleteUnrequestedNetworkPolicies platform cr indexes).Ensures
      (bystanders.serve env) Protected cluster
      (fun _ => Protected) (fun _ => Protected) := by
  refine ensures_list (fun after hafter =>
    (hcluster.of_undisturbed hafter).1) fun listed hlisted => ?_
  have hguarded := hcluster.of_undisturbed hlisted
  refine ensures_getOauth2ConfigSecret (fun after hafter =>
    (hguarded.of_undisturbed hafter).1) fun read hread => ?_
  refine Program.Ensures.mono (Program.Ensures.weaken
    (maintains_deletePolicies cr.getPrometheusOperatorNamespace
      (shouldExist platform cr id secret indexes)
      (shouldExist platform cr networkPolicyName (oauth2Secret cr listed)
        indexes) (fun name hname => ?_)
      (fun item hitem => ns_of_mem_select hitem) read
      ⟨hguarded.of_undisturbed hread,
        (hpruned.of_spares hlisted.toSpares).of_spares hread.toSpares⟩)
      fun _ hinv => hinv.1.1)
    (fun _ _ hafter => hafter.1.1) fun _ _ hafter => hafter.1.1
  rw [shouldExist_networkPolicyName, shouldExist_congr hguarded.2, hname]
  simp

theorem maintains_syncTokenRefreshers :
    (syncTokenRefreshers platform cr indexes).Maintains
      (bystanders.serve env) Protected := by
  intro state hstate
  refine Program.Ensures.bind
    (ensures_deleteUnrequestedTokenRefreshers hstate).wrapping
      fun _ pruned hpruned => ?_
  refine Program.Ensures.bind (ensures_deleteUnrequestedNetworkPolicies
    hpruned.1 hpruned.2).wrapping fun _ between hbetween => ?_
  split
  · exact hbetween
  · exact (maintains_reconcileTokenRefresher indexes).wrapping between hbetween

theorem maintains_reconcileStage (order : IterationOrder) (migrated : Bool) :
    (reconcileStage platform order cr migrated).Maintains
      (bystanders.serve env) Protected := by
  have hdone {status : ObservabilityStageStatus} :
      (Program.done status : Go ObservabilityStageStatus).Maintains
        (bystanders.serve env) Protected := fun _ hstate => hstate
  have hkinds {α : Type} {program : Go α} {kinds : List Kind}
      (hprogram : WritesKinds kinds program)
      (hdeployment : .deployment ∉ kinds) (hpolicy : .networkPolicy ∉ kinds) :
      program.Maintains (bystanders.serve env) Protected :=
    maintains_protected_of_harmless
      (hprogram _ (allowsKinds_harmless hdeployment hpolicy))
  have hresources : AllowsResources cr Harmless := harmless_allowsResources
  refine .bind (maintains_protected_of_harmless
    (hresources.prepare trivial migrated)) fun found => ?_
  split
  · exact hdone
  · refine .bind (maintains_protected_of_harmless
      ((allowsKinds_harmless List.not_mem_nil List.not_mem_nil).collectIndexes
        platform cr order _))
        fun indexes => ?_
    refine .bind (.bind (hkinds
      (writesKinds_deleteUnrequestedCredentialSecrets
        (List.mem_singleton.mpr rfl) indexes) (by decide) (by decide))
      fun _ => ?_) fun _ => hdone
    refine .bind (hkinds (writesKinds_completeIndexes
      (List.mem_singleton.mpr rfl) indexes) (by decide) (by decide))
      fun completed => ?_
    rw [applyIndexes_eq]
    have hrest : AllowsKinds (.secret :: restKinds) Harmless :=
      allowsKinds_harmless (by decide) (by decide)
    exact .bind maintains_syncTokenRefreshers fun _ =>
      maintains_protected_of_harmless
        (hrest.applyRest (fun _ => trivial) completed)

theorem writesKinds_deleteListed (kind : Kind) (options : ListOptions) :
    WritesKinds [kind] (deleteListed kind options) := by
  intro allowed hallowed
  rw [deleteListed_eq_prune]
  exact Client.uses_prune (hallowed.list _ _)
    (hallowed.delete _ (List.mem_singleton.mpr rfl))

theorem writesKinds_cleanupSynced :
    WritesKinds resourceKinds (cleanupSynced cr) := by
  unfold cleanupSynced
  split
  · exact writesKinds_done _
  · refine .bind ?_ fun _ =>
      .bind ((writesKinds_deleteListed _ _).mono (by decide)) fun _ =>
        (writesKinds_deleteListed _ _).mono (by decide)
    split
    · exact writesKinds_done _
    · exact (writesKinds_deleteListed _ _).mono (by decide)

theorem ensures_deleteListed_refreshers (hcluster : Protected cluster) :
    (deleteListed Kind.deployment (authenticationProxiesIn cr.ns)).Ensures
      (bystanders.serve env) Protected cluster
      (fun _ after => Guarded cr (oauth2Secret cr cluster).isSome after ∧
        Pruned cr.ns (fun _ => .ok false) after) (fun _ => Protected) := by
  have hguarded (after : Cluster) (hafter : Undisturbed cr cluster after) :
      Guarded cr (oauth2Secret cr cluster).isSome after :=
    Guarded.of_undisturbed ⟨hcluster, rfl⟩ hafter
  refine ensures_list (fun after hafter => (hguarded after hafter).1)
    fun listed hlisted => ?_
  exact Program.Ensures.mono (Program.Ensures.weaken
    (ensures_deleteRefreshers cr.ns (fun _ => .ok false)
      (hguarded listed hlisted) fun name hname =>
        mem_select_of_hasRefresher (hlisted.refresher _ hname))
      fun _ hinv => hinv.1)
    (fun _ _ hafter => hafter) fun _ _ hafter => hafter.1

variable {present : Bool}

theorem ensures_deleteListed_policies (hcluster : Guarded cr present cluster)
    (hpruned : Pruned cr.ns (fun _ => .ok false) cluster) :
    (deleteListed Kind.networkPolicy
      (authenticationProxiesIn cr.ns)).Ensures
        (bystanders.serve env) Protected cluster
        (fun _ => Protected) (fun _ => Protected) := by
  refine ensures_list (fun after hafter =>
    (hcluster.of_undisturbed hafter).1) fun listed hlisted => ?_
  exact Program.Ensures.mono (Program.Ensures.weaken
    (maintains_deletePolicies cr.ns (fun _ => .ok false)
      (fun _ => .ok false) (fun name hname => by simp at hname)
      (fun item hitem => ns_of_mem_select hitem) listed
      ⟨hcluster.of_undisturbed hlisted, hpruned.of_spares hlisted.toSpares⟩)
      fun _ hinv => hinv.1.1)
    (fun _ _ hafter => hafter.1.1) fun _ _ hafter => hafter.1.1

theorem maintains_pruned {α : Type} {program : Go α} {ns : String}
    (huses : program.Uses fun call => Harmless call ∧
      ¬ call.Writes .secret ⟨cr.ns, remoteWriteOIDCSecretName⟩) :
    program.Maintains (bystanders.serve env) fun cluster =>
      Guarded cr present cluster ∧ Pruned ns requested cluster := by
  refine huses.maintains ?_
  rintro call ⟨hharmless, hsecret⟩ state ⟨⟨hprotected, hpresent⟩, hpruned⟩
  have hspares : Spares state (bystanders.serve env call state).2 :=
    bystanders.spares_serve hharmless.spares
  exact ⟨⟨hprotected.of_spares hspares,
    (bystanders.oauth2Secret_serve hsecret).trans hpresent⟩,
      hpruned.of_spares hspares⟩

theorem maintains_cleanupStage :
    (cleanupStage cr).Maintains (bystanders.serve env) Protected := by
  have hkind {kind : Kind} {options : ListOptions}
      (hdeployment : .deployment ∉ [kind]) (hpolicy : .networkPolicy ∉ [kind]) :
      (deleteListed kind options).Maintains (bystanders.serve env) Protected :=
    maintains_protected_of_harmless
      (writesKinds_deleteListed kind options _
        (allowsKinds_harmless hdeployment hpolicy))
  refine .bind (hkind (by decide) (by decide)) fun _ => ?_
  refine .bind (hkind (by decide) (by decide)) fun _ => ?_
  refine .bind (maintains_protected_of_harmless
    (writesKinds_cleanupSynced _
      (allowsKinds_harmless (by decide) (by decide)))) fun _ => ?_
  refine .bind (hkind (by decide) (by decide)) fun _ => ?_
  intro state hstate
  have hdelete (kind : Kind) (key : ObjectKey)
      (hharmless : Harmless (.delete kind key)) (hsecret : kind ≠ .secret)
      (between : Cluster)
      (hbetween : Guarded cr (oauth2Secret cr state).isSome between ∧
        Pruned cr.ns (fun _ => .ok false) between) :
      (Client.deleteIfFound kind key : Go Unit).Ensures
        (bystanders.serve env) Protected between
        (fun _ after => Guarded cr (oauth2Secret cr state).isSome after ∧
          Pruned cr.ns (fun _ => .ok false) after) (fun _ => Protected) := by
    have huses : (Client.deleteIfFound kind key : Go Unit).Uses fun call =>
        Harmless call ∧
          ¬ call.Writes .secret ⟨cr.ns, remoteWriteOIDCSecretName⟩ :=
      Client.uses_deleteIfFound _ _ _
        ⟨hharmless, fun hwrites => hsecret hwrites.1⟩
    exact Program.Ensures.mono (Program.Ensures.weaken
      (maintains_pruned huses between hbetween) fun _ hinv => hinv.1.1)
      (fun _ _ hafter => hafter) fun _ _ hafter => hafter.1.1
  refine Program.Ensures.bind (ensures_deleteListed_refreshers hstate)
    fun _ first hfirst => ?_
  refine Program.Ensures.bind
    (hdelete .deployment _ trivial (by decide) first hfirst)
      fun _ second hsecond => ?_
  refine Program.Ensures.bind
    (hdelete .service _ trivial (by decide) second hsecond)
      fun _ third hthird => ?_
  refine Program.Ensures.bind
    (hdelete .route _ trivial (by decide) third hthird)
      fun _ fourth hfourth => ?_
  exact Program.Ensures.bind
    (ensures_deleteListed_policies hfourth.1 hfourth.2) fun _ _ hafter => hafter

end Passes

/-! ## Runs -/

inductive Pass where
  | reconcile (platform : Platform) (order : IterationOrder)
      (cr : Observability) (migrated : Bool)
  | cleanup (cr : Observability)

namespace Pass

def cr : Pass → Observability
  | .reconcile _ _ cr _ => cr
  | .cleanup cr => cr

def program : Pass → Go StageResult
  | .reconcile platform order cr migrated =>
    ObservabilityOperator.reconcile platform order cr migrated
  | .cleanup cr => ObservabilityOperator.cleanup cr

theorem maintains_protected (pass : Pass) (bystanders : Bystanders pass.cr)
    (env : Surroundings) :
    pass.program.Maintains (bystanders.serve env) Protected := by
  have hresult {stage : Go ObservabilityStageStatus}
      (hstage : stage.Maintains (bystanders.serve env) Protected) :
      (stageResult stage).Maintains (bystanders.serve env) Protected := by
    refine .bind hstage.attempt fun result => ?_
    split <;> exact fun _ hstate => hstate
  cases pass with
  | reconcile platform order cr migrated =>
    exact hresult (maintains_reconcileStage order migrated)
  | cleanup cr => exact hresult maintains_cleanupStage

end Pass

/-- The states of a cluster in which the operator works.  A pass may be cut
short after any of its calls. -/
inductive Reached : Cluster → Prop where
  | start {cluster : Cluster} (hnone : ∀ key, ¬ HasRefresher cluster key) :
      Reached cluster
  | others {before after : Cluster} (hbefore : Reached before)
      (hspares : Spares before after) : Reached after
  | call {cluster : Cluster} (hcluster : Reached cluster) (pass : Pass)
      (bystanders : Bystanders pass.cr) (env : Surroundings)
      {event : Event (ApiCall.Reply Kind.Spec Action.Reply) Cluster}
      (hevent : event ∈ pass.program.events
        (bystanders.serve env) cluster) : Reached event.after

/-- Between any two calls every token refresher has its network policy. -/
theorem protected_of_reached {cluster : Cluster} (hreached : Reached cluster) :
    Protected cluster := by
  induction hreached with
  | start hnone => exact fun ns name hname => absurd hname (hnone _)
  | others _ hspares ih => exact ih.of_spares hspares
  | call _ pass bystanders env hevent ih =>
    exact (pass.maintains_protected bystanders env).of_mem_events ih hevent

def completePlatform : Platform :=
  { Platform.plain with
    unmarshalIndex := fun _ => .ok (completeIndex.id, completeIndex.config) }

def completePass : Pass :=
  .reconcile completePlatform .given selectingCr false

def completePassEvents :
    List (Event (ApiCall.Reply Kind.Spec Action.Reply) Cluster) :=
  completePass.program.events
    ((Bystanders.idle completePass.cr).serve answeringSurroundings)
    configuredCluster

theorem completePass_protected :
    ∃ event ∈ completePassEvents, Reached event.after ∧
      HasRefresher event.after ⟨"managed", "token-refresher-metrics-first"⟩ ∧
      HasPolicy event.after
        ⟨"managed", "token-refresher-metrics-first-network-policy"⟩ := by
  have hlength : 15 < completePassEvents.length := by decide
  have hevent := completePassEvents.get_mem ⟨15, hlength⟩
  have hrefresher : HasRefresher (completePassEvents.get ⟨15, hlength⟩).after
      ⟨"managed", "token-refresher-metrics-first"⟩ := ⟨_, rfl, rfl⟩
  have hreached : Reached (completePassEvents.get ⟨15, hlength⟩).after := by
    refine .call (.start ?_) completePass _ _ hevent
    rintro key ⟨deployment, hfind, -⟩
    cases hfind
  refine ⟨_, hevent, hreached, hrefresher, ?_⟩
  exact protected_of_reached hreached "managed"
    "token-refresher-metrics-first" hrefresher

end ObservabilityOperator
