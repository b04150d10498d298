import ObservabilityOperator.StageFootprints

/-!
# A repository that cannot be read

A pass loads the index of every repository before it changes anything for the
indexes.  If one index cannot be loaded, whichever it is and in whichever
order the repositories are gone through, the pass fails, the time of the last
sync is kept, and of the objects in the cluster only those that serve the
files of a container repository can have changed.
-/

namespace ObservabilityOperator

open Program

variable {platform : Platform} {env : Surroundings}
  {cr : Observability} {cluster : Cluster} {call : ApiCall Kind.Spec Action}

/-! ## What an outage is -/

def indexResponse (platform : Platform) (env : Surroundings)
    (cr : Observability) (repo : RepositoryInfo) (tick : ℕ) :
    Except String HttpResponse :=
  (getResourcesUrl platform repo cr).bind fun base =>
    (platform.urlParse (platform.urlString (indexUrl base))).bind
      fun requestUrl => env.http tick
        (indexRequest platform repo (indexUrl base) requestUrl)

/-- The index cannot be fetched or cannot be decoded. -/
inductive IndexOutage (platform : Platform) (env : Surroundings)
    (cr : Observability) (repo : RepositoryInfo) (tick : ℕ) : Prop where
  | unreachable {message : String}
      (hresponse : indexResponse platform env cr repo tick = .error message)
  | refused {response : HttpResponse}
      (hresponse : indexResponse platform env cr repo tick = .ok response)
      (hstatus : response.statusCode ≠ 200)
  | undecodable {response : HttpResponse} {message : String}
      (hresponse : indexResponse platform env cr repo tick = .ok response)
      (hdecode : platform.unmarshalIndex response.body = .error message)

theorem run_readIndexFile (platform : Platform)
    (env : Surroundings) (cr : Observability)
    (repo : RepositoryInfo) (cluster : Cluster) :
    (∃ body, env.run (readIndexFile platform repo cr) cluster =
        (.ok body, cluster.advance) ∧
        indexResponse platform env cr repo cluster.tick = .ok ⟨200, body⟩) ∨
      ∃ error after, env.run (readIndexFile platform repo cr)
        cluster = (.error (.error error), after) := by
  unfold readIndexFile newRequest
  simp only [bind_eq_bind, Surroundings.run, run_ofExcept_bind]
  cases hurl : getResourcesUrl platform repo cr with
  | error message => exact .inr ⟨_, _, rfl⟩
  | ok base =>
    simp only
    cases hparse : platform.urlParse (platform.urlString (indexUrl base)) with
    | error message => exact .inr ⟨_, _, rfl⟩
    | ok requestUrl =>
      simp only
      have hresponse :
          indexResponse platform env cr repo cluster.tick =
            env.http cluster.tick
              (indexRequest platform repo (indexUrl base) requestUrl) := by
        simp only [indexResponse, hurl, hparse, Except.bind]
      rw [hresponse]
      change (∃ body, Program.run _ (Program.bind (Program.ofExcept
        (env.http cluster.tick _)) _) cluster.advance = _ ∧ _) ∨
          ∃ error after, Program.run _ (Program.bind (Program.ofExcept
            (env.http cluster.tick _)) _) cluster.advance = _
      rw [run_ofExcept_bind]
      cases env.http cluster.tick
          (indexRequest platform repo (indexUrl base) requestUrl) with
      | error message => exact .inr ⟨_, _, rfl⟩
      | ok response =>
        obtain ⟨code, body⟩ := response
        by_cases hcode : code = 200
        · subst hcode
          exact .inl ⟨body, rfl, rfl⟩
        · simp only [ne_eq, hcode, not_false_eq_true, if_true]
          exact .inr ⟨_, _, rfl⟩

variable {repo : RepositoryInfo} {after before state loading : Cluster}
  {repos : List (String × RepositoryInfo)} {α : Type} {program : Go α}
  {migrated : Bool}

theorem source_of_run_loadIndex {index : RepositoryIndex}
    (hrun : env.run (loadIndex platform cr repo) cluster =
      (.ok index, after)) : index.source = repo.source := by
  obtain ⟨bytes, read, -, hrun⟩ := run_bind_eq_ok hrun
  obtain ⟨decoded, -, hrun⟩ := run_ofExcept_bind_eq_ok hrun
  obtain ⟨base, -, hrun⟩ := run_ofExcept_bind_eq_ok hrun
  cases hrun
  rfl

theorem run_loadIndex (repo : RepositoryInfo) (cluster : Cluster) :
    (∃ index after, env.run (loadIndex platform cr repo) cluster =
        (.ok index, after) ∧ after.tick = cluster.tick + 1 ∧
        ¬ IndexOutage platform env cr repo cluster.tick) ∨
      ∃ abort after, env.run (loadIndex platform cr repo) cluster =
        (.error abort, after) ∧ ∃ error, abort = .error error := by
  unfold loadIndex
  simp only [bind_eq_bind, Surroundings.run]
  rcases run_readIndexFile platform env cr repo cluster with ⟨body, hread, hresponse⟩ |
    ⟨error, after, hread⟩
  · obtain ⟨base, hbase⟩ :
        ∃ base, getResourcesUrl platform repo cr = .ok base := by
      cases hbase : getResourcesUrl platform repo cr with
      | error message => simp [indexResponse, hbase, Except.bind] at hresponse
      | ok base => exact ⟨base, rfl⟩
    rw [run_bind_ok hread, run_ofExcept_bind]
    cases hdecode : platform.unmarshalIndex body with
    | error message => exact .inr ⟨_, _, rfl, _, rfl⟩
    | ok decoded =>
      simp only [run_ofExcept_bind, hbase]
      refine .inl ⟨_, _, rfl, rfl, fun houtage => ?_⟩
      cases houtage with
      | unreachable hother => simp [hresponse] at hother
      | refused hother hstatus =>
        simp only [hresponse, Except.ok.injEq] at hother
        exact hstatus (by rw [← hother])
      | undecodable hother hfails =>
        simp only [hresponse, Except.ok.injEq] at hother
        simp [← hother, hdecode] at hfails
  · rw [run_bind_error hread]
    exact .inr ⟨_, _, rfl, error, rfl⟩

/-! ## What may have changed -/

def ServesResources (cr : Observability) (kind : Kind) (key : ObjectKey) :
    Prop :=
  kind = .deployment ∧ key = getResourcesDeployment cr ∨
    kind = .service ∧ key = getResourcesService cr ∨
    kind = .route ∧ key = getResourcesRoute cr

/-- Only what serves the bundled resources may differ. -/
def Untouched (cr : Observability) (before after : Cluster) : Prop :=
  ∀ kind key, ¬ ServesResources cr kind key →
    after.find kind key = before.find kind key

theorem servesResources_allowsResources :
    AllowsResources cr (ApiCall.WritesOnly (ServesResources cr)) where
  toAllowsLooking := (allowsReads_writesOnly _).toAllowsLooking
  setResourcesRoute _ := ApiCall.writesOnly_perform _
  createDeployment _ _ _ _ hwrites :=
    .inl ⟨hwrites.1.symm, hwrites.2.symm⟩
  updateDeployment _ _ _ _ hwrites :=
    .inl ⟨hwrites.1.symm, hwrites.2.symm⟩
  createService _ _ _ hwrites := .inr (.inl ⟨hwrites.1.symm, hwrites.2.symm⟩)
  updateService _ _ _ hwrites := .inr (.inl ⟨hwrites.1.symm, hwrites.2.symm⟩)
  createRoute _ _ _ hwrites := .inr (.inr ⟨hwrites.1.symm, hwrites.2.symm⟩)
  updateRoute _ _ _ hwrites := .inr (.inr ⟨hwrites.1.symm, hwrites.2.symm⟩)

theorem untouched_serve (hstate : Untouched cr before state)
    (hcall : call.WritesOnly (ServesResources cr)) :
    Untouched cr before (serve env.environment call state).2 := by
  intro kind key hkey
  rw [serve_find _ (fun hwrites => hkey (hcall kind key hwrites))]
  exact hstate kind key hkey

theorem ensures_untouched
    (huses : program.Uses (ApiCall.WritesOnly (ServesResources cr)))
    (hstate : Untouched cr before state) :
    program.Ensures (serve env.environment) (Untouched cr before)
      state (fun _ => Untouched cr before) (fun _ => Untouched cr before) :=
  huses.ensures (fun _ hcall _ hbefore => untouched_serve hbefore hcall) hstate

def KeepsLastSynced (call : ApiCall Kind.Spec Action) : Prop :=
  ∀ seconds, call ≠ .perform (.setLastSynced seconds)

theorem keepsLastSynced_allowsReads : AllowsReads KeepsLastSynced where
  get _ _ _ := nofun
  list _ _ _ := nofun
  now _ := nofun
  http _ _ := nofun
  setLabels _ := nofun

theorem keepsLastSynced_allowsResources :
    AllowsResources cr KeepsLastSynced where
  toAllowsLooking := keepsLastSynced_allowsReads.toAllowsLooking
  setResourcesRoute _ _ := nofun
  createDeployment _ _ _ := nofun
  updateDeployment _ _ _ := nofun
  createService _ _ := nofun
  updateService _ _ := nofun
  createRoute _ _ := nofun
  updateRoute _ _ := nofun

theorem KeepsLastSynced.serve (hcall : KeepsLastSynced call) (state : Cluster) :
    (serve env.environment call state).2.memory.lastSynced =
      state.memory.lastSynced := by
  cases call with
  | get kind key => rfl
  | list kind options => rfl
  | create kind key object =>
    exact congrArg Memory.lastSynced (state.memory_settle _ _)
  | update kind key object =>
    exact congrArg Memory.lastSynced (state.memory_settle _ _)
  | delete kind key =>
    exact congrArg Memory.lastSynced (state.memory_settle _ _)
  | perform action =>
    cases action with
    | setLastSynced seconds => exact absurd rfl (hcall seconds)
    | _ => rfl

theorem lastSynced_of_run {result : Except (Abort ApiError) α}
    (huses : program.Uses KeepsLastSynced)
    (hrun : env.run program cluster = (result, after)) :
    after.memory.lastSynced = cluster.memory.lastSynced := by
  have hkeeps : (program.run (serve env.environment)
      cluster).2.memory.lastSynced = cluster.memory.lastSynced :=
    huses.run_preserves (fun before state : Cluster =>
      state.memory.lastSynced = before.memory.lastSynced)
      (fun _ => rfl) (fun hfirst hsecond => hsecond.trans hfirst)
      (fun _ hcall state => hcall.serve state) cluster
  have hafter : (program.run (serve env.environment) cluster).2 =
      after := congrArg Prod.snd hrun
  rwa [hafter] at hkeeps

theorem run_prepare_eq_load
    (hrun : env.run (prepare platform cr migrated) cluster =
      (.ok (.load repos), loading)) :
    ∃ checked secrets listed written,
      env.run (checkSync platform cr migrated) cluster = (.ok true, checked) ∧
      env.run (listConfigSecrets cr) checked = (.ok secrets, listed) ∧
      env.run (collectRepositories platform cr
        (lastSource secrets) [] secrets) listed = (.ok repos, written) ∧
      (loading = written ∨ ∃ status,
        env.run (waitForResourcesDeployment cr) written =
          (.ok status, loading)) := by
  unfold prepare at hrun
  split at hrun
  next => simp at hrun
  next =>
    obtain ⟨due, checked, hcheck, hrun⟩ := run_bind_eq_ok hrun
    split at hrun
    next hdue =>
      rw [hdue] at hcheck
      obtain ⟨secrets, listed, hlist, hrun⟩ := run_bind_eq_ok hrun
      split at hrun
      next => cases hrun
      next =>
        obtain ⟨found, written, hwrite, hrun⟩ := run_bind_eq_ok hrun
        split at hrun
        next =>
          obtain ⟨status, waited, hwait, hrun⟩ := run_bind_eq_ok hrun
          split at hrun <;> cases hrun
          exact ⟨checked, secrets, listed, written, hcheck, hlist, hwrite,
            .inr ⟨_, hwait⟩⟩
        next =>
          cases hrun
          exact ⟨checked, secrets, listed, loading, hcheck, hlist, hwrite,
            .inl rfl⟩
    next => cases hrun

theorem lastSynced_of_prepare
    (hrun : env.run (prepare platform cr migrated) cluster =
      (.ok (.load repos), loading)) :
    loading.memory.lastSynced = cluster.memory.lastSynced := by
  have hresources : AllowsResources cr KeepsLastSynced :=
    keepsLastSynced_allowsResources
  have hreads := hresources.toAllowsLooking
  obtain ⟨checked, secrets, listed, written, hcheck, hlist, hwrite, hwait⟩ :=
    run_prepare_eq_load hrun
  have hchecked := lastSynced_of_run (hreads.checkSync _ _ _) hcheck
  have hlisted := lastSynced_of_run (hreads.listConfigSecrets _) hlist
  have hwritten :=
    lastSynced_of_run (hresources.collectRepositories _ _ _) hwrite
  rw [← hchecked, ← hlisted, ← hwritten]
  rcases hwait with rfl | ⟨status, hwait⟩
  · rfl
  · exact lastSynced_of_run (hreads.waitForResourcesDeployment _) hwait

/-! ## A pass with an outage -/

def FailedUntouched (cr : Observability) (before : Cluster)
    (abort : Abort ApiError) (after : Cluster) : Prop :=
  (∃ error, abort = .error error) ∧
    after.memory.lastSynced = before.memory.lastSynced ∧
    Untouched cr before after

section Pass

variable {order : IterationOrder} {migrated : Bool} {loading : Cluster}
  {repos : List (String × RepositoryInfo)} {repo : RepositoryInfo}
  (position : ℕ)

theorem ensures_reconcileStage_of_outage
    (hprepare : env.run (prepare platform cr migrated) cluster =
      (.ok (.load repos), loading))
    (hrepo : (order.arrange (repos.map Prod.snd))[position]? = some repo)
    (houtage : IndexOutage platform env cr repo (loading.tick + position)) :
    (reconcileStage platform order cr migrated).Ensures
      (serve env.environment) (Untouched cr cluster) cluster
      (fun _ _ => False) (FailedUntouched cr cluster) := by
  have hresources : AllowsResources cr _ := servesResources_allowsResources
  have hstart : Untouched cr cluster cluster := fun _ _ _ => rfl
  refine Program.Ensures.bind ((ensures_untouched (hresources.prepare
    (ApiCall.writesOnly_perform _) migrated) hstart).of_run_ok hprepare) ?_
  rintro _ started ⟨rfl, rfl, hloading⟩
  obtain ⟨_, after, hload, error, rfl⟩ :=
    exists_run_collect_error World.tick run_loadIndex hrepo houtage
  have hlastSynced : after.memory.lastSynced = cluster.memory.lastSynced :=
    (lastSynced_of_run (keepsLastSynced_allowsReads.collectIndexes platform cr
      order repos) hload).trans (lastSynced_of_prepare hprepare)
  have hcollect : (collectIndexes platform cr order repos).Ensures
      (serve env.environment) (Untouched cr cluster) started
      (fun _ _ => False) (FailedUntouched cr cluster) := by
    refine ((ensures_untouched ((allowsReads_writesOnly _).collectIndexes
      platform cr order repos) hloading).of_run_error hload).mono (fun _ _ => id) ?_
    rintro _ _ ⟨rfl, rfl, hafter⟩
    exact ⟨⟨error, rfl⟩, hlastSynced, hafter⟩
  exact Program.Ensures.bind hcollect fun _ _ => False.elim

/-- The pass fails, the time of the last sync is kept, and at no time has
another object changed. -/
theorem outage_changes_nothing
    (hprepare : env.run (prepare platform cr migrated) cluster =
      (.ok (.load repos), loading))
    (hrepo : (order.arrange (repos.map Prod.snd))[position]? = some repo)
    (houtage : IndexOutage platform env cr repo (loading.tick + position)) :
    (∃ error after,
      env.run (reconcile platform order cr migrated) cluster =
        (.ok { status := .failed, error := some error }, after) ∧
      after.memory.lastSynced = cluster.memory.lastSynced ∧
      Untouched cr cluster after) ∧
    ∀ event ∈ env.events (reconcile platform order cr migrated)
      cluster, Untouched cr cluster event.after := by
  have hstage :=
    ensures_reconcileStage_of_outage position hprepare hrepo houtage
  have hpass : (reconcile platform order cr migrated).Ensures
      (serve env.environment) (Untouched cr cluster) cluster
      (fun result after =>
        (∃ error, result = { status := .failed, error := some error }) ∧
        after.memory.lastSynced = cluster.memory.lastSynced ∧
        Untouched cr cluster after) (fun _ _ => False) := by
    refine Program.Ensures.bind (hstage.attempt.mono (fun _ _ => id) ?_) ?_
    · rintro _ _ ⟨⟨⟨error, rfl⟩, -⟩, panic, hpanic⟩
      cases hpanic
    · rintro _ after (⟨_, -, hfalse⟩ | ⟨error, rfl, -, hafter⟩)
      · exact hfalse.elim
      · exact ⟨⟨error, rfl⟩, hafter⟩
  obtain ⟨hevents, hok, herror⟩ := ensures_iff.mp hpass
  refine ⟨?_, hevents⟩
  rcases hrun : env.run (reconcile platform order cr migrated)
    cluster with ⟨abort | result, after⟩
  · exact (herror _ _ hrun).elim
  · obtain ⟨⟨error, rfl⟩, hafter⟩ := hok _ _ hrun
    exact ⟨error, after, rfl, hafter⟩

end Pass

def twoRepositories : Cluster :=
  (configuredCluster.put .secret ⟨"managed", "container"⟩
    { spec := { data := [("repository", "quay.io/resources"),
        ("tag", "latest")] } }).put .deployment
      (getResourcesDeployment selectingCr)
      { spec := { Kind.deployment.blank.spec with readyReplicas := 1 } }

def containerDown : Surroundings :=
  { Surroundings.quiet with
    http := fun _ request =>
      if GoStrings.contains request.url.host "github.com" then .ok ⟨200, ""⟩
      else .error "connection refused" }

def indexPlatform : Platform :=
  { Platform.plain with unmarshalIndex := fun _ => .ok ("first", none) }

def IterationOrder.reversed : IterationOrder :=
  ⟨List.reverse, List.reverse_perm⟩

/-- The index of the image is loaded second, after the other one. -/
theorem containerDown_changes_nothing :
    ∃ error after,
      containerDown.run (reconcile indexPlatform .reversed selectingCr false)
        twoRepositories =
          (.ok { status := .failed, error := some error }, after) ∧
      after.memory.lastSynced = twoRepositories.memory.lastSynced ∧
      Untouched selectingCr twoRepositories after := by
  have hprepare : containerDown.run
      (prepare indexPlatform selectingCr false) twoRepositories =
        (.ok (.load [("container", _), ("configuration", _)]), _) := rfl
  exact (outage_changes_nothing 1 hprepare rfl (.unreachable rfl)).1

end ObservabilityOperator
