import ObservabilityOperator.CredentialSecrets
import ObservabilityOperator.TelemetryTargets
import ObservabilityOperator.TokenRefresherPruning

/-!
# A credential lookup that fails

When the credentials of an Observatorium cannot be read, the error is logged
and the sync goes on with the entries of the index as they were published.
Gateway, authentication type and SSO configuration usually are in the secret
only, so the search that decides which refreshers are still requested takes
such an entry for an incomplete one and stops.  The refreshers of this and of
all later entries are then deleted, although nothing about the indexes has
changed.
-/

namespace ObservabilityOperator

open Program

/-! ## The lookups of a sync -/

def noteObservatoria (platform : Platform) (cr : Observability)
    (index : RepositoryIndex) : Go (RepositoryIndex × Bool) := do
  let (left, result) ← reconcileObservatoria platform cr index
  match result with
  | .error _ => return (left, true)
  | .ok () =>
    stampConfigSource left
    return (left, false)

def lookUpCredentials (platform : Platform) (cr : Observability)
    (indexes : List RepositoryIndex) : Go (List (RepositoryIndex × Bool)) := do
  deleteUnrequestedCredentialSecrets cr indexes
  Program.collect indexes (noteObservatoria platform cr)

def lookups (platform : Platform) (cr : Observability)
    (indexes : List RepositoryIndex) (env : Surroundings)
    (cluster : Cluster) : Option (List (RepositoryIndex × Bool)) :=
  (env.run (lookUpCredentials platform cr indexes) cluster).1.toOption

def fallingBack (indexes : List RepositoryIndex)
    (noted : List (RepositoryIndex × Bool)) : List RepositoryIndex :=
  List.zipWith (fun index note => if note.2 then index else note.1) indexes
    noted

section Lookups

variable {platform : Platform} {cr : Observability}
  {indexes : List RepositoryIndex} {env : Surroundings}
  {cluster after : Cluster} {noted : List (RepositoryIndex × Bool)}
  {entries : List ObservatoriumIndex}

theorem completeObservatoria_eq (index : RepositoryIndex) :
    completeObservatoria platform cr index =
      (noteObservatoria platform cr index).bind fun note => .done note.1 := by
  unfold completeObservatoria noteObservatoria
  simp only [bind_eq_bind, Program.bind_assoc]
  congr 1
  funext outcome
  rcases outcome with ⟨left, error | done⟩
  · rfl
  · simp only [Program.bind_assoc]
    rfl

theorem configure_eq_lookUpCredentials :
    configure platform cr indexes =
      (lookUpCredentials platform cr indexes).bind fun noted =>
        applyIndexes platform cr (noted.map Prod.fst) := by
  have hcomplete : completeIndexes platform cr indexes =
      (Program.collect indexes (noteObservatoria platform cr)).bind
        fun noted => .done (noted.map Prod.fst) := by
    unfold completeIndexes
    simp only [funext completeObservatoria_eq, collect_done]
  unfold configure lookUpCredentials
  simp only [bind_eq_bind, hcomplete, Program.bind_assoc,
    done_bind]

theorem lookups_eq_some_iff :
    lookups platform cr indexes env cluster = some noted ↔
      ∃ looked, env.run (lookUpCredentials platform cr indexes)
        cluster = (.ok noted, looked) := by
  unfold lookups
  rcases env.run (lookUpCredentials platform cr indexes) cluster
    with ⟨result, looked⟩
  cases result <;> simp [Except.toOption]

/-! ## What a failed lookup leaves of an index -/

def ObservatoriumIndex.withoutDex (observatorium : ObservatoriumIndex) :
    ObservatoriumIndex :=
  { observatorium with dexConfig := none }

theorem withoutDex_of_run_reconcileEntries {outcome : ObservatoriaOutcome}
    (hrun : env.run (reconcileEntries platform cr entries) cluster =
      (.ok outcome, after)) :
    outcome.left.map ObservatoriumIndex.withoutDex =
      entries.map ObservatoriumIndex.withoutDex := by
  induction entries generalizing cluster outcome with
  | nil =>
    cases hrun
    rfl
  | cons entry rest ih =>
    obtain ⟨transformed, between, -, hrun⟩ := run_bind_eq_ok hrun
    split at hrun
    next =>
      cases hrun
      rfl
    next completed =>
      obtain ⟨renewed, renewing, -, hrun⟩ := run_bind_eq_ok hrun
      split at hrun
      next =>
        cases hrun
        rfl
      next =>
        obtain ⟨others, last, hothers, hdone⟩ := run_bind_eq_ok hrun
        cases hdone
        simp only [List.map_cons, ih hothers]
        rfl

variable {index : RepositoryIndex}

theorem searchIndex_of_withoutDex {config : RepositoryConfig}
    {render : String → String} {name : String}
    (hconfig : index.config = some config)
    (hentries : entries.map ObservatoriumIndex.withoutDex =
      config.observatoria.map ObservatoriumIndex.withoutDex) :
    searchIndex platform render name
        { index with config := some { config with observatoria := entries } } =
      searchIndex platform render name index := by
  have hsearch (list : List ObservatoriumIndex) :
      list.findSome?
          (searchObservatorium platform render name config.promtailEnabled) =
        (list.map ObservatoriumIndex.withoutDex).findSome?
          (searchObservatorium platform render name
            config.promtailEnabled) := by
    rw [List.findSome?_map]
    rfl
  simp only [searchIndex, hconfig]
  calc
    entries.findSome?
        (searchObservatorium platform render name config.promtailEnabled) =
      (config.observatoria.map ObservatoriumIndex.withoutDex).findSome?
        (searchObservatorium platform render name
          config.promtailEnabled) := by rw [hsearch, hentries]
    _ = config.observatoria.findSome?
        (searchObservatorium platform render name
          config.promtailEnabled) := (hsearch _).symm

/-- The search cannot tell an index with a failed lookup from the one that was
published. -/
theorem searchIndex_of_run_noteObservatoria {note : RepositoryIndex × Bool}
    (hrun : env.run (noteObservatoria platform cr index) cluster =
      (.ok note, after)) (hfailed : note.2 = true) (render : String → String)
    (name : String) :
    searchIndex platform render name note.1 =
      searchIndex platform render name index := by
  obtain ⟨⟨left, result⟩, between, hreconcile, hrun⟩ := run_bind_eq_ok hrun
  cases result with
  | ok done =>
    obtain ⟨_, stamped, -, hdone⟩ := run_bind_eq_ok hrun
    cases hdone
    cases hfailed
  | error error =>
    cases hrun
    unfold reconcileObservatoria at hreconcile
    split at hreconcile
    next => cases hreconcile
    next config hconfig =>
      split at hreconcile
      next => cases hreconcile
      next =>
        obtain ⟨outcome, looked, hentries, hdone⟩ := run_bind_eq_ok hreconcile
        split at hdone
        next => cases hdone
        next =>
          cases hdone
          exact searchIndex_of_withoutDex hconfig
            (withoutDex_of_run_reconcileEntries hentries)

theorem shouldExist_of_run_lookUpCredentials
    (hrun : env.run (lookUpCredentials platform cr indexes)
      cluster = (.ok noted, after))
    (render : String → String) (secret : Option (Resource SecretSpec))
    (name : String) :
    shouldExist platform cr render secret (noted.map Prod.fst) name =
      shouldExist platform cr render secret (fallingBack indexes noted)
        name := by
  obtain ⟨_, cleared, -, hnotes⟩ := run_bind_eq_ok hrun
  have hnoted := run_collect_forall₂
    (fun index (note : RepositoryIndex × Bool) => note.2 = true →
      searchIndex platform render name note.1 =
        searchIndex platform render name index)
    (fun index _ state next note hnote hfailed =>
      searchIndex_of_run_noteObservatoria hnote hfailed render name) hnotes
  have hsearch : (noted.map Prod.fst).findSome?
        (searchIndex platform render name) =
      (fallingBack indexes noted).findSome?
        (searchIndex platform render name) := by
    clear hrun hnotes
    induction hnoted with
    | nil => rfl
    | @cons index note rest notes hfirst _ ih =>
      simp only [List.map_cons, fallingBack, List.zipWith_cons_cons,
        List.findSome?_cons]
      rw [ih]
      cases hfailed : note.2 with
      | true => rw [hfirst hfailed]; rfl
      | false => rfl
  simp only [shouldExist, hsearch]

end Lookups

/-! ## The deletions of a sync -/

section Deletions

variable {platform : Platform} {cr : Observability}
  {indexes : List RepositoryIndex} {env : Surroundings}
  {cluster after : Cluster} {kind : Kind} {render : String → String}

theorem deletesNo_reconcileTokenRefresher (indexes : List RepositoryIndex) :
    (reconcileTokenRefresher platform cr indexes).Uses (DeletesNo kind) := by
  apply reconcileTokenRefresher_uses
  · intro key hcall
    cases hcall
  · intro config
    apply writeRefresher_uses
    all_goals
      intros
      intro key hcall
      cases hcall

theorem allowsCredentials_deletesNo :
    AllowsCredentials cr (DeletesNo kind) where
  get _ _ _ := nofun
  list _ _ _ := nofun
  now _ := nofun
  http _ _ := nofun
  setLabels _ := nofun
  createToken := by
    intro config token lifetime object key hcall
    cases hcall
  update := by
    intro other object key hcall
    cases hcall

theorem AllowsCredentials.collect_noteObservatoria
    {allowed : ApiCall Kind.Spec Action → Prop}
    (hallowed : AllowsCredentials cr allowed)
    (indexes : List RepositoryIndex) :
    (Program.collect indexes (noteObservatoria platform cr)).Uses allowed := by
  apply Program.Uses.collect
  intro index _
  apply Program.Uses.bind (hallowed.allowsTokens.reconcileObservatoria index)
  intro outcome
  dsimp only
  split
  · trivial
  · exact .bind (hallowed.stampConfigSource _) fun _ => trivial

theorem deletesNo_lookUpCredentials (hkind : kind ≠ .secret) :
    (lookUpCredentials platform cr indexes).Uses (DeletesNo kind) := by
  have hclear : WritesKinds [.secret]
      (deleteUnrequestedCredentialSecrets cr indexes) :=
    writesKinds_deleteUnrequestedCredentialSecrets (by simp) _
  apply Program.Uses.bind (hclear.deletesNo (by simpa using hkind))
  intro _
  exact allowsCredentials_deletesNo.collect_noteObservatoria indexes

inductive PrunedKind : Kind → (String → String) → Prop where
  | deployment : PrunedKind .deployment id
  | networkPolicy : PrunedKind .networkPolicy networkPolicyName

theorem oauth2Secret_of_run_lookUpCredentials
    {noted : List (RepositoryIndex × Bool)}
    (habsent : oauth2Secret cr cluster = none)
    (hrun : env.run (lookUpCredentials platform cr indexes)
      cluster = (.ok noted, after)) :
    oauth2Secret cr after = none := by
  have hallowed : AllowsCredentials cr
      (CreatesNot ⟨cr.ns, remoteWriteOIDCSecretName⟩) :=
    allowsCredentials_createsNot (oauth2Key_ne_tokenSecret cr)
  have huses : (lookUpCredentials platform cr indexes).Uses
      (CreatesNot ⟨cr.ns, remoteWriteOIDCSecretName⟩) :=
    .bind (createsNot_deleteUnrequestedCredentialSecrets _)
      fun _ => hallowed.collect_noteObservatoria indexes
  exact Surroundings.find_eq_none_of_run hrun huses habsent

variable {key : ObjectKey}

/-- A sync deletes only what the search, over the published entries where a
lookup has failed, does not come across. -/
theorem shouldExist_of_issues_configure (hkind : PrunedKind kind render)
    (habsent : oauth2Secret cr cluster = none)
    (hissues : (configure platform cr indexes).Issues
      (serve env.environment) cluster (.delete kind key)) :
    ∃ noted, lookups platform cr indexes env cluster = some noted ∧
      shouldExist platform cr render none (fallingBack indexes noted)
        key.name = .ok false := by
  have hother : kind ≠ .secret ∧ kind ∉ .secret :: restKinds := by
    cases hkind <;> decide
  rw [configure_eq_lookUpCredentials] at hissues
  rcases hissues.of_bind with hlookup | ⟨noted, looked, hrun, hissues⟩
  · have huses : (lookUpCredentials platform cr indexes).Uses
        (DeletesNo kind) := deletesNo_lookUpCredentials hother.1
    exact absurd rfl (huses.of_issues hlookup key)
  have hsecret := oauth2Secret_of_run_lookUpCredentials habsent hrun
  refine ⟨noted, lookups_eq_some_iff.mpr ⟨looked, hrun⟩, ?_⟩
  rw [← shouldExist_of_run_lookUpCredentials hrun]
  rw [applyIndexes_eq] at hissues
  rcases hissues.of_bind with hissues | ⟨_, synced, -, hrest⟩
  · rcases hissues.of_bind with hfirst | ⟨_, pruned, hpruned, hissues⟩
    · obtain ⟨rfl, hsearch⟩ := shouldExist_of_issues_delete
        (issues_wrapping_iff.mp hfirst)
      cases hkind
      rwa [hsecret] at hsearch
    have hkept : oauth2Secret cr pruned = none := by
      have hkinds : WritesKinds refresherKinds
          (deleteUnrequestedTokenRefreshers platform cr (noted.map Prod.fst)) :=
        writesKinds_deleteUnrequested (by decide) _ _
      rw [← hsecret]
      exact hkinds.wrapping.find_eq hpruned (by decide) _
    rcases hissues.of_bind with hsecond | ⟨_, _, -, hissues⟩
    · obtain ⟨rfl, hsearch⟩ := shouldExist_of_issues_delete
        (issues_wrapping_iff.mp hsecond)
      cases hkind
      rwa [hkept] at hsearch
    · split at hissues
      next => exact absurd hissues (not_issues_done _ _ _ _)
      next =>
        have huses : (reconcileTokenRefresher platform cr
            (noted.map Prod.fst)).Uses (DeletesNo kind) :=
          deletesNo_reconcileTokenRefresher _
        exact absurd rfl (huses.of_issues (issues_wrapping_iff.mp hissues) key)
  · have huses : (applyRest platform cr (noted.map Prod.fst)).Uses
        (DeletesNo kind) :=
      (allowsKinds_deletesNo hother.2).applyRest (fun _ _ => nofun) _
    exact absurd rfl (huses.of_issues hrest key)

/-! ## The objects that a pruning pass deletes -/

theorem issues_delete_of_unrequested {requested : String → Except Panic Bool}
    {items : List (ObjectKey × Resource kind.Spec)}
    {item : ObjectKey × Resource kind.Spec}
    (hquiet : ∀ tick key, env.fault tick (.delete kind key) = none)
    (hanswers : ∀ name, ∃ answer, requested name = .ok answer)
    (hkeys : (items.map Prod.fst).Nodup)
    (hfound : ∀ other ∈ items, (cluster.find kind other.1).isSome)
    (hitem : item ∈ items)
    (hunrequested : requested item.1.name = .ok false) :
    (Program.forEach items fun item =>
      deleteUnlessRequested kind (requested item.1.name) item.1).Issues
        (serve env.environment) cluster (.delete kind item.1) := by
  induction items generalizing cluster with
  | nil => cases hitem
  | cons first rest ih =>
    rw [List.map_cons, List.nodup_cons] at hkeys
    rw [Program.forEach]
    rcases List.mem_cons.mp hitem with rfl | hrest
    · apply Program.Issues.bind
      rw [hunrequested]
      exact ⟨_, List.mem_cons_self, rfl⟩
    · obtain ⟨answer, hanswer⟩ := hanswers first.1.name
      cases answer with
      | true =>
        rw [hanswer]
        exact ih hkeys.2 (fun other hother =>
          hfound other (List.mem_cons_of_mem _ hother)) hrest
      | false =>
        have hfirst := hfound first List.mem_cons_self
        have hdelete : env.run
            (deleteUnlessRequested kind (.ok false) first.1) cluster =
              (.ok (), (cluster.remove kind first.1).advance) := by
          simp [deleteUnlessRequested, Surroundings.run,
            Surroundings.environment, hquiet, withFault,
            World.changeReply, hfirst, World.settle, World.effect,
            Client.orFail]
        rw [hanswer, issues_bind_of_ok hdelete]
        refine .inr (ih hkeys.2 ?_ hrest)
        intro other hother
        have hne : first.1 ≠ other.1 := by
          intro hsame
          exact hkeys.1 (hsame ▸ List.mem_map_of_mem hother)
        rw [World.find_advance,
          World.find_remove_of_ne _ (fun hboth => hne hboth.2)]
        exact hfound other (List.mem_cons_of_mem _ hother)

/-- Only reads of secrets fail, and not that of the proxy credentials. -/
def OnlyLookupsFail (cr : Observability) (env : Surroundings) :
    Prop :=
  ∀ tick call,
    (∀ key, call = .get .secret key →
      key = ⟨cr.ns, remoteWriteOIDCSecretName⟩) →
    env.fault tick call = none

theorem OnlyLookupsFail.run_list (hfails : OnlyLookupsFail cr env)
    (options : ListOptions) :
    env.run
      ((Client.list kind options).bind fun reply => Client.orFail reply)
        cluster = (.ok (cluster.select kind options), cluster.advance) := by
  have hfault : env.fault cluster.tick (.list kind options) = none :=
    hfails _ _ (by simp)
  simp [Surroundings.run, Surroundings.environment, hfault, withFault,
    Client.orFail]

theorem OnlyLookupsFail.run_getOauth2ConfigSecret
    (hfails : OnlyLookupsFail cr env)
    (habsent : oauth2Secret cr cluster = none) :
    env.run (getOauth2ConfigSecret cr) cluster =
      (.ok none, cluster.advance) := by
  have hfault : env.fault cluster.tick
      (.get .secret ⟨cr.ns, remoteWriteOIDCSecretName⟩) = none :=
    hfails _ _ (by simp)
  have hread : cluster.read .secret ⟨cr.ns, remoteWriteOIDCSecretName⟩ =
      .error .notFound := by
    unfold oauth2Secret at habsent
    simp [World.read, habsent]
  unfold getOauth2ConfigSecret
  simp [Surroundings.run, Surroundings.environment, hfault, withFault, hread]

theorem issues_deleteUnrequested {object : Resource kind.Spec}
    (hfails : OnlyLookupsFail cr env) (habsent : oauth2Secret cr cluster = none)
    (hanswers : ∀ name, ∃ answer,
      shouldExist platform cr render none indexes name = .ok answer)
    (hlisted : (key, object) ∈ cluster.select kind
      { ns := some cr.getPrometheusOperatorNamespace
        labels := authenticationProxyLabels }) (hunrequested :
      shouldExist platform cr render none indexes key.name = .ok false) :
    (deleteUnrequested platform kind render cr indexes).Issues
      (serve env.environment) cluster (.delete kind key) := by
  rw [deleteUnrequested_eq, issues_bind_of_ok (hfails.run_list _)]
  apply Or.inr
  have hadvanced : oauth2Secret cr cluster.advance = none := habsent
  rw [issues_bind_of_ok (hfails.run_getOauth2ConfigSecret hadvanced)]
  apply Or.inr
  apply issues_delete_of_unrequested _ hanswers _ _ hlisted hunrequested
  · exact fun tick other => hfails _ _ (by simp)
  · exact cluster.nodup_select _ _
  · intro other hother
    have hfind := ((cluster.mem_select_iff _ _ _ _).mp hother).1
    rw [World.find_advance, World.find_advance, hfind]
    rfl

end Deletions

/-! ## The refreshers that stay -/

/-- The refresher was asked for by the earlier sync, and it is asked for by
the entries just completed or, where a lookup has failed, by those of the
earlier sync. -/
def StillRequested (earlier : List RepositoryIndex)
    (noted : List (RepositoryIndex × Bool)) (id : String)
    (t : TokenRefresherType) : Prop :=
  RefresherRequested earlier id t ∧
    RefresherRequested (fallingBack earlier noted) id t

/-- A sync deletes neither the deployment nor the policy of a refresher that is
still requested. -/
def KeepsRefreshers (platform : Platform) (cr : Observability)
    (indexes earlier : List RepositoryIndex) (env : Surroundings)
    (cluster : Cluster) : Prop :=
  ∀ noted, lookups platform cr indexes env cluster = some noted →
    ∀ id t, StillRequested earlier noted id t →
      ¬ (configure platform cr indexes).Issues (serve env.environment) cluster
          (.delete .deployment (getTokenRefresherDeployment cr
            (getTokenRefresherName id t))) ∧
        ¬ (configure platform cr indexes).Issues (serve env.environment) cluster
          (.delete .networkPolicy (getTokenRefresherNetworkPolicy cr
            (getTokenRefresherName id t)))

/-- The search over the indexes, as published where a lookup has failed, runs
into a missing configuration or comes across every refresher that is still
requested. -/
def SearchKeeps (platform : Platform) (cr : Observability)
    (indexes earlier : List RepositoryIndex) (env : Surroundings)
    (cluster : Cluster) : Prop :=
  ∀ noted, lookups platform cr indexes env cluster = some noted →
    SearchIsSafe platform (fallingBack indexes noted) →
      ∀ id t, StillRequested earlier noted id t →
        SearchFinds platform (fallingBack indexes noted) id t

section Keeping

variable {platform : Platform} {cr : Observability}
  {indexes earlier : List RepositoryIndex}
  {env : Surroundings} {cluster after : Cluster}
  {t : TokenRefresherType}

variable {id : String}

section

variable
  (henabled : (cr.externalSyncDisabled || cr.observatoriumDisabled) = false)
include henabled

theorem shouldExist_ne_false
    (hfinds : SearchIsSafe platform indexes →
      SearchFinds platform indexes id t) (render : String → String) :
    shouldExist platform cr render none indexes
        (render (getTokenRefresherName id t)) ≠ .ok false := by
  simp only [shouldExist, henabled, Option.isSome_none, Bool.false_eq_true,
    if_false]
  by_cases hsafe : SearchIsSafe platform indexes
  · obtain ⟨answer, hanswer, hiff⟩ :=
      search_of_safe hsafe render (render (getTokenRefresherName id t))
    have hyes : answer = true := hiff.mpr ⟨id, t, hfinds hsafe, rfl⟩
    rw [hanswer, hyes]
    simp
  · exact search_ne_false_of_not_safe hsafe _ _

theorem keepsRefreshers_of_searchKeeps
    (habsent : oauth2Secret cr cluster = none)
    (hkeeps : SearchKeeps platform cr indexes earlier env cluster) :
    KeepsRefreshers platform cr indexes earlier env cluster := by
  intro noted hnoted id t hrequested
  have hfinds hsafe := hkeeps noted hnoted hsafe id t hrequested
  constructor
  · intro hissues
    obtain ⟨other, hother, hsearch⟩ :=
      shouldExist_of_issues_configure .deployment habsent hissues
    obtain rfl := Option.some.inj (hnoted.symm.trans hother)
    exact shouldExist_ne_false henabled hfinds (fun name => name) hsearch
  · intro hissues
    obtain ⟨other, hother, hsearch⟩ :=
      shouldExist_of_issues_configure .networkPolicy habsent hissues
    obtain rfl := Option.some.inj (hnoted.symm.trans hother)
    exact shouldExist_ne_false henabled hfinds networkPolicyName hsearch

theorem answers_of_safe (hsafe : SearchIsSafe platform indexes)
    (render : String → String) (name : String) :
    ∃ answer, shouldExist platform cr render none indexes name = .ok answer ∧
      (answer = true ↔ ∃ id t, SearchFinds platform indexes id t ∧
        name = render (getTokenRefresherName id t)) := by
  simp only [shouldExist, henabled, Option.isSome_none, Bool.false_eq_true,
    if_false]
  exact search_of_safe hsafe render name

end

theorem CompletedSync.exists_deployment
    (sync : CompletedSync platform env cr indexes cluster after)
    (henabled : cr.observatoriumDisabled = false)
    (habsent : oauth2Secret cr after = none)
    (hrequested : RefresherRequested sync.completed id t) :
    ∃ deployment, after.find .deployment (getTokenRefresherDeployment cr
        (getTokenRefresherName id t)) = some deployment ∧
      authenticationProxyLabels.Matches deployment.labels = true := by
  have hsecret : oauth2Secret cr sync.refreshers = none := by
    rw [← oauth2Secret_of_restFramed sync.framed]
    exact habsent
  obtain ⟨_, policies, -, -, hwrite⟩ :=
    run_syncTokenRefreshers_eq_ok henabled sync.writesRefreshers
  have hpolicies : oauth2Secret cr policies = none := by
    rw [← hsecret]
    exact ((writesKinds_reconcileTokenRefresher _).find_eq hwrite
      (by decide) _).symm
  obtain ⟨config, hconfig, hname⟩ :=
    (mem_requestedRefreshers_iff hpolicies hwrite _).mpr
      ⟨id, t, hrequested, rfl⟩
  obtain ⟨entry, hentry, hconfig⟩ := List.mem_flatMap.mp hconfig
  have hrefreshes := RefresherEntry.mem_requested_iff.mp ⟨hconfig, hname⟩
  obtain ⟨_, _, _, _, deployment, -, -, -, hdeployment⟩ :=
    sync.runsForLast henabled hsecret ⟨entry, hentry, config, hrefreshes⟩
  exact ⟨_, hdeployment, rfl⟩

theorem searchFinds_of_keepsRefreshers {noted : List (RepositoryIndex × Bool)}
    {ident : String} {deployment : Resource DeploymentSpec}
    (henabled : (cr.externalSyncDisabled || cr.observatoriumDisabled) = false)
    (habsent : oauth2Secret cr cluster = none)
    (hfails : OnlyLookupsFail cr env)
    (hnoted : lookups platform cr indexes env cluster = some noted)
    (hsafe : SearchIsSafe platform (fallingBack indexes noted))
    (hfind : cluster.find .deployment (getTokenRefresherDeployment cr
      (getTokenRefresherName ident t)) = some deployment)
    (hlabels : authenticationProxyLabels.Matches deployment.labels = true)
    (hkeeps : ¬ (configure platform cr indexes).Issues
      (serve env.environment) cluster (.delete .deployment
        (getTokenRefresherDeployment cr (getTokenRefresherName ident t)))) :
    SearchFinds platform (fallingBack indexes noted) ident t := by
  by_contra hmissed
  apply hkeeps
  obtain ⟨looked, hrun⟩ := lookups_eq_some_iff.mp hnoted
  have hsecret := oauth2Secret_of_run_lookUpCredentials habsent hrun
  have hwrites : WritesKinds [.secret]
      (lookUpCredentials platform cr indexes) :=
    .bind (writesKinds_deleteUnrequestedCredentialSecrets (by simp) _)
      fun _ _ hallowed => (hallowed.allowsCredentials
        (by simp)).collect_noteObservatoria _
  have hlooked := hwrites.find_eq hrun (show Kind.deployment ∉ _ by decide)
    (getTokenRefresherDeployment cr (getTokenRefresherName ident t))
  rw [hfind] at hlooked
  have hanswers (name : String) : ∃ answer, shouldExist platform cr
      id none (noted.map Prod.fst) name = .ok answer := by
    rw [shouldExist_of_run_lookUpCredentials hrun]
    obtain ⟨answer, hanswer, -⟩ := answers_of_safe henabled hsafe _ name
    exact ⟨answer, hanswer⟩
  have hunrequested : shouldExist platform cr id none
      (noted.map Prod.fst) (getTokenRefresherName ident t) = .ok false := by
    rw [shouldExist_of_run_lookUpCredentials hrun]
    obtain ⟨answer, hanswer, hiff⟩ := answers_of_safe henabled hsafe
      id (getTokenRefresherName ident t)
    cases answer with
    | false => exact hanswer
    | true =>
      obtain ⟨other, u, hfinds, hname⟩ := hiff.mp rfl
      obtain ⟨rfl, rfl⟩ := getTokenRefresherName_inj.mp hname
      exact absurd hfinds hmissed
  have hlisted : (getTokenRefresherDeployment cr
      (getTokenRefresherName ident t), deployment) ∈
        looked.select .deployment
          { ns := some cr.getPrometheusOperatorNamespace
            labels := authenticationProxyLabels } := by
    rw [World.mem_select_iff]
    exact ⟨hlooked, by simpa [ListOptions.selects,
      getTokenRefresherDeployment] using hlabels⟩
  have hdeletes := issues_deleteUnrequested hfails hsecret hanswers hlisted
    hunrequested
  rw [configure_eq_lookUpCredentials, issues_bind_of_ok hrun]
  apply Or.inr
  rw [applyIndexes_eq]
  apply Program.Issues.bind
  apply Program.Issues.bind
  exact issues_wrapping_iff.mpr hdeletes

/-- After an earlier sync, one over the same indexes keeps the refreshers if
the search keeps them; if nothing but lookups fails, only then. -/
theorem keepsRefreshers_iff_searchKeeps {first : Surroundings}
    {start done : Cluster}
    (sync : CompletedSync platform first cr indexes start done)
    (henabled : (cr.externalSyncDisabled || cr.observatoriumDisabled) = false)
    (hdone : oauth2Secret cr done = none)
    (hkept : ∀ id t, RefresherRequested sync.completed id t →
      cluster.find .deployment (getTokenRefresherDeployment cr
          (getTokenRefresherName id t)) =
        done.find .deployment (getTokenRefresherDeployment cr
          (getTokenRefresherName id t)))
    (habsent : oauth2Secret cr cluster = none) :
    (SearchKeeps platform cr indexes sync.completed env cluster →
      KeepsRefreshers platform cr indexes sync.completed env cluster) ∧
    (OnlyLookupsFail cr env →
      KeepsRefreshers platform cr indexes sync.completed env cluster →
      SearchKeeps platform cr indexes sync.completed env cluster) := by
  constructor
  · exact keepsRefreshers_of_searchKeeps henabled habsent
  · intro hfails hkeeps noted hnoted hsafe id t hrequested
    have hdisabled := (Bool.or_eq_false_iff.mp henabled).2
    obtain ⟨deployment, hfind, hlabels⟩ :=
      sync.exists_deployment hdisabled hdone hrequested.1
    rw [← hkept id t hrequested.1] at hfind
    exact searchFinds_of_keepsRefreshers henabled habsent hfails hnoted
      hsafe hfind hlabels (hkeeps noted hnoted id t hrequested).1

end Keeping

/-! ## A secret that cannot be read any more -/

def credentialSecret : Resource SecretSpec where
  spec :=
    { data :=
        [("authType", "redhat"), ("gateway", "https://gateway"),
          ("tenant", "tenant"), ("redHatSsoAuthServerUrl", "https://sso"),
          ("redHatSsoRealm", "realm"), ("metricsClientId", "metrics"),
          ("metricsSecret", "secret")] }

def credentialCluster : Cluster :=
  Cluster.empty.put .secret ⟨"managed", "credentials"⟩ credentialSecret

def lookupFails : Surroundings :=
  { answeringSurroundings with
    fault := fun _ call =>
      match call with
      | .get .secret key =>
        if key.name = "credentials" then
          some ⟨.internal "etcdserver: request timed out", false⟩
        else none
      | _ => none }

def credentialIndex (entry : ObservatoriumIndex) : RepositoryIndex :=
  syncedIndex "kafka" "first" [{ entry with secretName := "credentials" }]

def earlierSync (entry : ObservatoriumIndex) :
    Except (Abort ApiError) Unit × Cluster :=
  answeringSurroundings.run
    (configure syncPlatform plainCr [credentialIndex entry]) credentialCluster

def laterSync (entry : ObservatoriumIndex) :
    Except (Abort ApiError) Unit × Cluster :=
  lookupFails.run (configure syncPlatform plainCr [credentialIndex entry])
    (earlierSync entry).2

def publishedEntry : ObservatoriumIndex := plainObservatorium "first" ""

def completedEntry : RefresherEntry where
  promtailEnabled := false
  observatorium :=
    { publishedEntry with
      secretName := "credentials"
      redhatSsoConfig :=
        some (redhatSsoConfigOfSecret credentialSecret.spec.data) }

theorem laterSync_keepsRefreshers :
    ∃ sync : CompletedSync syncPlatform answeringSurroundings plainCr
        [credentialIndex publishedEntry] credentialCluster
        (earlierSync publishedEntry).2,
      RefresherRequested sync.completed "first" .metrics ∧
      lookups syncPlatform plainCr [credentialIndex publishedEntry]
          lookupFails (earlierSync publishedEntry).2 =
        some [(credentialIndex publishedEntry, true)] ∧
      KeepsRefreshers syncPlatform plainCr [credentialIndex publishedEntry]
        sync.completed lookupFails (earlierSync publishedEntry).2 := by
  have hrun : answeringSurroundings.run
      (configure syncPlatform plainCr [credentialIndex publishedEntry])
        credentialCluster = (.ok (), (earlierSync publishedEntry).2) :=
    Prod.ext rfl rfl
  obtain ⟨sync⟩ := exists_completedSync hrun
  have hentries : refresherEntries sync.completed = [completedEntry] := by
    rw [sync.completed_eq rfl]
    rfl
  have hlookups : lookups syncPlatform plainCr
      [credentialIndex publishedEntry] lookupFails
        (earlierSync publishedEntry).2 =
      some [(credentialIndex publishedEntry, true)] := rfl
  refine ⟨sync, ⟨completedEntry, by simp [hentries], rfl, rfl⟩, hlookups, ?_⟩
  apply (keepsRefreshers_iff_searchKeeps sync rfl rfl (fun _ _ _ => rfl) rfl).1
  intro noted hnoted hsafe id t hrequested
  obtain rfl := Option.some.inj (hlookups.symm.trans hnoted)
  obtain ⟨entry, hentry, rfl, hrequests⟩ := hrequested.1
  rw [hentries] at hentry
  obtain rfl := List.mem_singleton.mp hentry
  cases t with
  | logs => cases hrequests
  | metrics =>
    exact .inr ⟨rfl, ⟨false, { publishedEntry with
      secretName := "credentials" }⟩, by decide, by decide, by decide, rfl⟩

/-- An entry that leaves everything to the secret loses its refresher. -/
theorem laterSync_deletesRefresher :
    (earlierSync { id := "first" }).1 = .ok () ∧
      ((earlierSync { id := "first" }).2.find .deployment
        ⟨"managed", "token-refresher-metrics-first"⟩).isSome ∧
      ((earlierSync { id := "first" }).2.find .networkPolicy
        ⟨"managed", "token-refresher-metrics-first-network-policy"⟩).isSome ∧
      (laterSync { id := "first" }).1 = .ok () ∧
      (laterSync { id := "first" }).2.find .deployment
        ⟨"managed", "token-refresher-metrics-first"⟩ = none ∧
      (laterSync { id := "first" }).2.find .networkPolicy
        ⟨"managed", "token-refresher-metrics-first-network-policy"⟩ = none := by
  refine ⟨rfl, rfl, rfl, ?_⟩
  decide +kernel

end ObservabilityOperator
