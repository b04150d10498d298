import ObservabilityOperator.CompletedSync
import ObservabilityOperator.RepositoryOutage

/-!
# How often the repositories are read

A pass of the configuration stage that completes a sync takes down the time in
whole seconds.  Later passes find it in the status of the custom resource, and
read no index before the resync period is over, unless a sync is forced.
-/

namespace ObservabilityOperator

open Program

variable {pass : StagePass}

/-! ## Passes -/

/-- A pass of the configuration stage, and what it starts from.  The status
to be written next begins as a copy of the status. -/
structure StagePass where
  order : IterationOrder
  cr : Observability
  migrated : Bool
  cluster : Cluster
  copied : cluster.memory.lastSynced = cr.status.lastSynced

def bringInLine (platform : Platform) (cr : Observability)
    (indexes : List RepositoryIndex) : Go Unit := do
  deleteUnrequestedCredentialSecrets cr indexes
  let completed ← completeIndexes platform cr indexes
  syncTokenRefreshers platform cr completed
  syncAlertmanagerSecret platform cr completed
  syncInstances platform cr completed
  syncResources platform cr completed
  syncPromtail platform cr completed

namespace StagePass

variable (platform : Platform) (env : Surroundings)

def run (pass : StagePass) : Except (Abort ApiError) StageResult × Cluster :=
  env.run (reconcile platform pass.order pass.cr pass.migrated) pass.cluster

/-- The next pass.  The spec is the same, the status has been written, and
others may have changed the cluster in between. -/
structure FollowedBy (earlier later : StagePass) : Prop where
  spec : later.cr.spec = earlier.cr.spec
  persisted : later.cr.status.lastSynced =
    (earlier.run platform env).2.memory.lastSynced
  tick : (earlier.run platform env).2.tick ≤ later.cluster.tick

/-- The pass runs a sync to its end and notes this time. -/
def CompletesSyncAt (pass : StagePass) (time : Int) : Prop :=
  ∃ repos indexes loading loaded working,
    env.run (prepare platform pass.cr pass.migrated)
      pass.cluster = (.ok (.load repos), loading) ∧
    env.run (collectIndexes platform pass.cr pass.order repos)
      loading = (.ok indexes, loaded) ∧
    env.run (bringInLine platform pass.cr indexes) loaded = (.ok (), working) ∧
    time = env.clock working.tick

/-- The pass sends the request at this time. -/
def FetchesAt (pass : StagePass) (request : HttpRequest) (time : Int) :
    Prop :=
  ∃ event ∈ env.events
      (reconcile platform pass.order pass.cr pass.migrated) pass.cluster,
    event.op = .perform (.http request) ∧
      ∃ tick, event.after.tick = tick + 1 ∧ time = env.clock tick

/-- A sync is due, and there is no secret with a repository. -/
def FindsNoConfiguration (pass : StagePass) : Prop :=
  pass.cr.externalSyncDisabled = false ∧ ∃ checked listed,
    env.run (checkSync platform pass.cr pass.migrated)
      pass.cluster = (.ok true, checked) ∧
    env.run (listConfigSecrets pass.cr) checked = (.ok [], listed)

/-- The check for expired tokens says yes. -/
def FindsExpiredToken (pass : StagePass) : Prop :=
  ∃ checked, env.run (tokensExpired pass.cr) pass.cluster = (.ok true, checked)

/-- The check for missing resources says yes. -/
def FindsMissingCR (pass : StagePass) : Prop :=
  pass.migrated = true ∧ ∃ expired checked looked,
    env.run (tokensExpired pass.cr) pass.cluster = (.ok expired, checked) ∧
    env.run (checkForMissingCR pass.cr) checked = (.ok true, looked)

end StagePass

/-- The seconds of the clock fit into a Go time. -/
def Surroundings.ClockFits (env : Surroundings) : Prop :=
  ∀ tick, -2 ^ 63 ≤ env.clock tick / nanoseconds + unixToInternal ∧
    env.clock tick / nanoseconds + unixToInternal < 2 ^ 63

/-! ## The time that is taken down -/

def Noted (env : Surroundings) (start : ℕ) (cluster : Cluster) :
    Prop :=
  start ≤ cluster.tick ∧ ∃ tick, start ≤ tick ∧
    cluster.memory.lastSynced = env.clock tick / nanoseconds

theorem allowsKinds_keepsLastSynced (kinds : List Kind) :
    AllowsKinds kinds KeepsLastSynced where
  get _ _ _ := nofun
  list _ _ _ := nofun
  now _ := nofun
  http _ _ := nofun
  setLabels _ := nofun
  create _ _ _ _ _ := nofun
  update _ _ _ _ _ := nofun
  delete _ _ _ _ := nofun

theorem writesKinds_bringInLine (platform : Platform) (cr : Observability)
    (indexes : List RepositoryIndex) :
    WritesKinds (.secret :: refresherKinds ++ restKinds)
      (bringInLine platform cr indexes) := by
  refine .bind (writesKinds_deleteUnrequestedCredentialSecrets (by decide) _)
    fun _ => ?_
  refine .bind (writesKinds_completeIndexes (by decide) _) fun completed => ?_
  refine .bind ((writesKinds_syncTokenRefreshers _).mono (by decide))
    fun _ => ?_
  refine .bind ((writesKinds_syncAlertmanagerSecret _).mono (by decide))
    fun _ => ?_
  refine .bind ((writesKinds_syncInstances _).mono (by decide)) fun _ => ?_
  refine .bind ((writesKinds_syncResources _).mono (by decide)) fun _ => ?_
  exact (writesKinds_syncPromtail _).mono (by decide)

theorem configure_eq_bringInLine (platform : Platform) (cr : Observability)
    (indexes : List RepositoryIndex) :
    configure platform cr indexes =
      (bringInLine platform cr indexes).bind fun _ => assignSyncTime cr := by
  simp only [configure, bringInLine, applyIndexes, bind_eq_bind,
    Program.bind_assoc]

section Noted

variable {platform : Platform} {env : Surroundings}
  {cr : Observability} {cluster after : Cluster} {start : ℕ}

theorem Noted.serve {call : ApiCall Kind.Spec Action}
    (hnoted : Noted env start cluster) (hcall : KeepsLastSynced call) :
    Noted env start (serve env.environment call cluster).2 := by
  obtain ⟨hstart, tick, htick, hsynced⟩ := hnoted
  refine ⟨?_, tick, htick, ?_⟩
  · rw [serve_tick]
    exact Nat.le_succ_of_le hstart
  · rw [hcall.serve]
    exact hsynced

theorem ensures_noted {α : Type} {program : Go α}
    (huses : program.Uses KeepsLastSynced) (hnoted : Noted env start cluster) :
    program.Ensures (serve env.environment)
      (Noted env start) cluster (fun _ => Noted env start)
      (fun _ => Noted env start) :=
  huses.ensures (fun _ hcall _ hstate => hstate.serve hcall) hnoted

theorem noted_assignSyncTime (henabled : cr.externalSyncDisabled = false)
    (hstart : start ≤ cluster.tick) :
    ∃ after, env.run (assignSyncTime cr) cluster =
      (.ok (), after) ∧ Noted env start after := by
  unfold assignSyncTime
  rw [henabled]
  refine ⟨_, rfl, ?_, cluster.tick, hstart, rfl⟩
  exact hstart.trans (Nat.le_add_right cluster.tick 2)

theorem ensures_assignSyncTime (henabled : cr.externalSyncDisabled = false)
    (hnoted : Noted env start cluster) :
    (assignSyncTime cr).Ensures (serve env.environment)
      (Noted env start) cluster (fun _ => Noted env start)
      (fun _ => Noted env start) := by
  have hlooked : Noted env start
      (serve env.environment (.perform .now) cluster).2 :=
    hnoted.serve fun _ => nofun
  obtain ⟨after, hassign, hafter⟩ : ∃ after,
      env.run (assignSyncTime cr) cluster = (.ok (), after) ∧
        Noted env start after := noted_assignSyncTime henabled hnoted.1
  unfold assignSyncTime at hassign ⊢
  rw [henabled] at hassign ⊢
  cases hassign
  exact ⟨hlooked, hafter, hafter⟩

theorem ensures_prepare {migrated : Bool}
    (hfound : ∀ checked listed,
      env.run (checkSync platform cr migrated) cluster = (.ok true, checked) →
      env.run (listConfigSecrets cr) checked ≠ (.ok [], listed))
    (hnoted : Noted env start cluster) :
    (prepare platform cr migrated).Ensures (serve env.environment)
      (Noted env start) cluster (fun _ => Noted env start)
      (fun _ => Noted env start) := by
  have hresources : AllowsResources cr KeepsLastSynced :=
    keepsLastSynced_allowsResources
  have hreads := hresources.toAllowsLooking
  unfold prepare
  split
  · exact hnoted
  refine .bind_run (ensures_noted (hreads.checkSync _ _ _) hnoted)
    fun due checked hcheck hchecked => ?_
  split
  next hdue =>
    rw [hdue] at hcheck
    refine .bind_run (ensures_noted (hreads.listConfigSecrets _) hchecked)
      fun secrets listed hlist hlisted => ?_
    split
    next hnone =>
      rw [hnone.1] at hlist
      exact absurd hlist (hfound checked listed hcheck)
    next =>
      refine .bind (ensures_noted (hresources.collectRepositories _ _ _)
        hlisted) fun repos written hwritten => ?_
      split
      · refine .bind (ensures_noted (hreads.waitForResourcesDeployment _)
          hwritten) fun status waited hwaited => ?_
        split <;> exact hwaited
      · exact hwritten
  next => exact hchecked

end Noted

variable {platform : Platform} {env : Surroundings} {request : HttpRequest}

theorem StagePass.noted_run {start : ℕ}
    (henabled : pass.cr.externalSyncDisabled = false)
    (hfound : ¬ pass.FindsNoConfiguration platform env)
    (hnoted : Noted env start pass.cluster) :
    Noted env start (pass.run platform env).2 := by
  have hkeeps {α : Type} {program : Go α} {kinds : List Kind}
      (hprogram : WritesKinds kinds program) : program.Uses KeepsLastSynced :=
    hprogram _ (allowsKinds_keepsLastSynced kinds)
  have hstage : (reconcileStage platform pass.order pass.cr
      pass.migrated).Ensures (serve env.environment)
      (Noted env start) pass.cluster (fun _ => Noted env start)
      (fun _ => Noted env start) := by
    refine .bind (ensures_prepare (fun checked listed hcheck hlist => hfound
      ⟨henabled, checked, listed, hcheck, hlist⟩) hnoted)
        fun found prepared hprepared => ?_
    split
    · exact hprepared
    refine .bind (ensures_noted ((allowsKinds_keepsLastSynced
      []).collectIndexes _ _ _ _) hprepared) fun indexes loaded hloaded => ?_
    rw [configure_eq_bringInLine]
    refine .bind (.bind (ensures_noted
      (hkeeps (writesKinds_bringInLine _ _ _)) hloaded)
        fun _ _ hworking => ensures_assignSyncTime henabled hworking)
          fun _ _ hafter => hafter
  have hpass : (reconcile platform pass.order pass.cr pass.migrated).Ensures
      (serve env.environment) (Noted env start)
      pass.cluster (fun _ => Noted env start) (fun _ => Noted env start) := by
    refine .bind (hstage.attempt.mono (fun _ _ => id) fun _ _ h => h.1)
      fun result _ hresult => ?_
    rcases hresult with ⟨_, rfl, hafter⟩ | ⟨_, rfl, hafter⟩
    · exact hafter
    · exact hafter
  obtain ⟨-, hok, herror⟩ := ensures_iff.mp hpass
  rcases hrun : pass.run platform env with ⟨abort | result, after⟩
  · exact herror _ _ hrun
  · exact hok _ _ hrun

/-! ## The gate -/

def SendsNothing (call : ApiCall Kind.Spec Action) : Prop :=
  ∀ request, call ≠ .perform (.http request)

theorem allowsLooking_sendsNothing : AllowsLooking SendsNothing where
  get _ _ _ := nofun
  list _ _ _ := nofun
  now _ := nofun

theorem StagePass.check_of_fetchesAt {time : Int}
    (hfetch : pass.FetchesAt platform env request time) :
    ∃ checked tick,
      env.run (checkSync platform pass.cr pass.migrated)
        pass.cluster = (.ok true, checked) ∧
      checked.tick ≤ tick ∧ time = env.clock tick := by
  obtain ⟨event, hevent, hrequest, tick, htick, htime⟩ := hfetch
  have hstage : event ∈ env.events
      (reconcileStage platform pass.order pass.cr pass.migrated)
      pass.cluster := by
    rcases mem_events_bind hevent with hstage | ⟨_, _, -, hrest⟩
    · rwa [events_attempt] at hstage
    · split at hrest <;> cases hrest
  unfold reconcileStage prepare at hstage
  split at hstage
  · cases hstage
  simp only [bind_eq_bind, Program.bind_assoc] at hstage
  rcases mem_events_bind hstage with hcheck | hrest
  · have hsends := (allowsLooking_sendsNothing.checkSync _ _ _).of_mem_events
      hcheck
    exact absurd hrequest (hsends request)
  · obtain ⟨due, checked, hcheck, hrest⟩ := hrest
    cases due with
    | false => cases hrest
    | true =>
      have hlater := lt_tick_of_mem_events hrest
      rw [htick] at hlater
      exact ⟨checked, tick, hcheck, Nat.lt_succ_iff.mp hlater, htime⟩

theorem StagePass.reason_of_check {checked : Cluster}
    (hcheck : env.run (checkSync platform pass.cr pass.migrated)
      pass.cluster = (.ok true, checked)) :
    (pass.cr.externalSyncDisabled = true ∨ pass.FindsExpiredToken env ∨
      pass.FindsMissingCR env) ∨ pass.cr.status.lastSynced = 0 ∨
    ∃ tick period, tick < checked.tick ∧
      platform.parseDuration pass.cr.spec.resyncPeriod = .ok period ∧
      wrapInt64 (pass.cr.status.lastSynced + unixToInternal) * nanoseconds +
        period ≤ env.clock tick + unixToInternal * nanoseconds := by
  obtain ⟨expired, searched, hexpired, hcheck⟩ := run_bind_eq_ok hcheck
  replace hexpired := run_wrapping_eq_ok.mp hexpired
  obtain ⟨missing, looked, hmissing, hdue⟩ := run_bind_eq_ok hcheck
  cases hdisabled : pass.cr.externalSyncDisabled with
  | true => exact .inl (.inl rfl)
  | false =>
  cases expired with
  | true => exact .inl (.inr (.inl ⟨searched, hexpired⟩))
  | false =>
  cases missing with
  | true =>
    cases hmigrated : pass.migrated with
    | true =>
      rw [hmigrated] at hmissing
      replace hmissing := run_wrapping_eq_ok.mp hmissing
      exact .inl (.inr (.inr
        ⟨hmigrated, false, searched, looked, hexpired, hmissing⟩))
    | false =>
      rw [hmigrated] at hmissing
      cases hmissing
  | false =>
    refine .inr ?_
    rw [hdisabled] at hdue
    unfold syncIsDue at hdue
    split at hdue
    next hnever => exact .inl (hnever.resolve_right (by decide))
    next =>
      obtain ⟨period, parsed, hparse, hshown⟩ := run_bind_eq_ok hdue
      obtain ⟨hperiod, rfl⟩ := run_ofExcept_eq_ok (run_wrapping_eq_ok.mp hparse)
      obtain ⟨hlate, hafter⟩ := Prod.mk.inj hshown
      refine .inr ⟨parsed.tick, period, ?_, hperiod, ?_⟩
      · rw [← hafter]
        exact Nat.lt_succ_self _
      · have hover := (Bool.not_eq_true' _).mp (Except.ok.inj hlate)
        exact Int.not_lt.mp (of_decide_eq_false hover)

theorem StagePass.reason_of_fetchesAt {moment period : Int}
    (hmonotone : Monotone env.clock)
    (hfetch : pass.FetchesAt platform env request moment)
    (hperiod : platform.parseDuration pass.cr.spec.resyncPeriod = .ok period)
    (hsynced : pass.cr.status.lastSynced ≠ 0)
    (hfits : wrapInt64 (pass.cr.status.lastSynced + unixToInternal) =
      pass.cr.status.lastSynced + unixToInternal) :
    (pass.cr.externalSyncDisabled = true ∨ pass.FindsExpiredToken env ∨
      pass.FindsMissingCR env) ∨
    pass.cr.status.lastSynced * nanoseconds + period ≤ moment := by
  obtain ⟨checked, tick, hcheck, htick, rfl⟩ := check_of_fetchesAt hfetch
  rcases reason_of_check hcheck with hreason | hnever | hlate
  · exact .inl hreason
  · exact absurd hnever hsynced
  · obtain ⟨shown, parsed, hshown, hparsed, hlate⟩ := hlate
    rw [hperiod] at hparsed
    cases hparsed
    have hclock : env.clock shown ≤ env.clock tick :=
      hmonotone (hshown.le.trans htick)
    rw [hfits, Int.add_mul] at hlate
    exact .inr (by omega)

/-! ## Runs of passes -/

section Runs

variable {platform : Platform} {env : Surroundings}

variable {later : StagePass} {start : ℕ}

theorem StagePass.FollowedBy.noted {earlier : StagePass}
    (hfollowed : earlier.FollowedBy platform env later)
    (hnoted : Noted env start
      (earlier.run platform env).2) : Noted env start later.cluster := by
  obtain ⟨hstart, tick, htick, hsynced⟩ := hnoted
  refine ⟨hstart.trans hfollowed.tick, tick, htick, ?_⟩
  rw [later.copied, hfollowed.persisted]
  exact hsynced

theorem externalSyncDisabled_of_spec {earlier later : Observability}
    (hspec : later.spec = earlier.spec) :
    later.externalSyncDisabled = earlier.externalSyncDisabled := by
  unfold Observability.externalSyncDisabled Observability.selfContainedFlag
  rw [hspec]

theorem StagePass.CompletesSyncAt.noted {time : Int}
    (henabled : pass.cr.externalSyncDisabled = false)
    (hcompletes : pass.CompletesSyncAt platform env time) :
    ∃ start, time = env.clock start ∧
      Noted env start (pass.run platform env).2 := by
  obtain ⟨repos, indexes, loading, loaded, working, hprepare, hcollect,
    hbring, htime⟩ := hcompletes
  refine ⟨working.tick, htime, ?_⟩
  obtain ⟨after, hassign, hafter⟩ :=
    noted_assignSyncTime henabled (Nat.le_refl working.tick)
  have hconfigure : env.run (configure platform pass.cr indexes)
      loaded = (.ok (), after) := by
    rw [configure_eq_bringInLine]
    exact (run_bind_ok hbring).trans hassign
  have hstage : env.run (reconcileStage platform pass.order pass.cr
      pass.migrated) pass.cluster = (.ok .success, after) :=
    (run_bind_ok hprepare).trans <|
      (run_bind_ok hcollect).trans <| (run_bind_ok hconfigure).trans rfl
  have hpass : pass.run platform env = (.ok { status := .success }, after) :=
    run_bind_ok (run_attempt_eq_ok_ok.mpr hstage)
  rw [hpass]
  exact hafter

theorem StagePass.spec_chain {first : StagePass} {between : List StagePass}
    (hchain : List.IsChain (FollowedBy platform env)
      (first :: (between ++ [later]))) : later.cr.spec = first.cr.spec := by
  have hsame : List.IsChain (fun earlier next : StagePass =>
      next.cr.spec = earlier.cr.spec) (first :: (between ++ [later])) :=
    hchain.imp fun _ _ hfollowed => hfollowed.spec
  have htrans : IsTrans StagePass fun earlier next =>
      next.cr.spec = earlier.cr.spec :=
    ⟨fun _ _ _ hearlier hlater => hlater.trans hearlier⟩
  have hall := List.isChain_iff_pairwise.mp hsame
  exact (List.pairwise_cons.mp hall).1 later (by simp)

/-- Along a run the time stays one that the clock has shown since the
completed sync. -/
theorem StagePass.noted_chain (between : List StagePass) (first : StagePass)
    (henabled : first.cr.externalSyncDisabled = false)
    (hchain : List.IsChain (FollowedBy platform env)
      (first :: (between ++ [later]))) (hfound : ∀ pass ∈ between,
      ¬ pass.FindsNoConfiguration platform env)
    (hnoted : Noted env start (first.run platform env).2) :
    Noted env start later.cluster := by
  induction between generalizing first with
  | nil =>
    have hlast := (List.isChain_cons_cons.mp hchain).1
    exact hlast.noted hnoted
  | cons next rest ih =>
    obtain ⟨hnext, hrest⟩ := List.isChain_cons_cons.mp hchain
    have hsync : next.cr.externalSyncDisabled = false := by
      rw [externalSyncDisabled_of_spec hnext.spec, henabled]
    refine ih next hsync hrest
      (fun pass hpass => hfound pass (.tail _ hpass)) ?_
    exact next.noted_run hsync (hfound next (.head _)) (hnext.noted hnoted)

/-- After a sync that was completed at least one second after 1970, no request
is sent before the period is over, unless repositories are not synced at all,
a token is about to expire or a custom resource is missing.  No pass in
between may have found that there is no configuration. -/
theorem StagePass.resync_limit {first later : StagePass}
    {between : List StagePass} {request : HttpRequest}
    {time moment period : Int} (hmonotone : Monotone env.clock)
    (hfits : env.ClockFits)
    (hperiod : platform.parseDuration first.cr.spec.resyncPeriod = .ok period)
    (hchain : List.IsChain (FollowedBy platform env)
      (first :: (between ++ [later])))
    (hcompletes : first.CompletesSyncAt platform env time)
    (hsecond : nanoseconds ≤ time)
    (hfound : ∀ pass ∈ between,
      ¬ pass.FindsNoConfiguration platform env)
    (hfetch : later.FetchesAt platform env request moment)
    (hearly : moment < time / nanoseconds * nanoseconds + period) :
    later.cr.externalSyncDisabled = true ∨ later.FindsExpiredToken env ∨
      later.FindsMissingCR env := by
  have hspec := spec_chain hchain
  cases hsync : first.cr.externalSyncDisabled with
  | true =>
    left
    rw [externalSyncDisabled_of_spec hspec, hsync]
  | false =>
    obtain ⟨start, rfl, hnoted⟩ := hcompletes.noted hsync
    obtain ⟨-, tick, htick, hsynced⟩ :=
      noted_chain between first hsync hchain hfound hnoted
    rw [later.copied] at hsynced
    have hlast : env.clock start / nanoseconds ≤
        later.cr.status.lastSynced := by
      rw [hsynced]
      exact Int.ediv_le_ediv (by decide) (hmonotone htick)
    have hone : 1 ≤ env.clock start / nanoseconds :=
      (Int.le_ediv_iff_mul_le (by decide)).mpr (by omega)
    have hwrap : wrapInt64 (later.cr.status.lastSynced + unixToInternal) =
        later.cr.status.lastSynced + unixToInternal := by
      rw [hsynced]
      exact wrapInt64_of_inRange (hfits tick).1 (hfits tick).2
    rw [← hspec] at hperiod
    rcases reason_of_fetchesAt hmonotone hfetch hperiod (by omega) hwrap
      with hreason | hlate
    · exact hreason
    · have hscaled := Int.mul_le_mul_of_nonneg_right hlast
        (by decide : 0 ≤ nanoseconds)
      omega

end Runs

/-! ## Two passes under a clock that stands still -/

def StagePass.next (platform : Platform) (env : Surroundings)
    (pass : StagePass) : StagePass :=
  { pass with
    cr :=
      { pass.cr with
        status :=
          { pass.cr.status with
            lastSynced :=
              (pass.run platform env).2.memory.lastSynced } }
    cluster := (pass.run platform env).2
    copied := rfl }

def hourlyPlatform : Platform :=
  { syncPlatform with
    parseDuration := fun _ => .ok (3600 * nanoseconds)
    unmarshalIndex := fun _ => .ok ("first", (syncedIndex "" "" []).config) }

def stoppedClock (time : Int) : Surroundings :=
  { answeringSurroundings with clock := fun _ => time }

def firstPass : StagePass where
  order := .given
  cr :=
    { plainCr with
      spec :=
        { configurationSelector := some
            { matchLabels := [("configures", "observability")] } } }
  migrated := false
  cluster :=
    Cluster.empty.put .secret ⟨"managed", "configuration"⟩
      { labels := [("configures", "observability")]
        spec := { data := [("repository", "https://api.github.com")] } }
  copied := rfl

theorem StagePass.followedBy_next (platform : Platform)
    (env : Surroundings) (pass : StagePass) :
    pass.FollowedBy platform env (pass.next platform env) :=
  ⟨rfl, rfl, Nat.le_refl _⟩

def configuredIndexRequest : HttpRequest :=
  authenticatedRequest hourlyPlatform
    { host := "https://api.github.com//index.json" } "" ""

/-- In the first second of 1970 the time that is taken down is zero, and the
next pass reads the index again. -/
theorem resync_in_first_second :
    firstPass.CompletesSyncAt hourlyPlatform (stoppedClock 500000000)
      500000000 ∧
    firstPass.FollowedBy hourlyPlatform (stoppedClock 500000000)
      (firstPass.next hourlyPlatform (stoppedClock 500000000)) ∧
    (firstPass.next hourlyPlatform (stoppedClock 500000000)).FetchesAt
      hourlyPlatform (stoppedClock 500000000) configuredIndexRequest 500000000 ∧
    (500000000 : Int) < 500000000 / nanoseconds * nanoseconds +
      3600 * nanoseconds ∧
    ¬ (firstPass.next hourlyPlatform
        (stoppedClock 500000000)).cr.externalSyncDisabled = true ∧
    ¬ (firstPass.next hourlyPlatform
        (stoppedClock 500000000)).FindsExpiredToken (stoppedClock 500000000) ∧
    ¬ (firstPass.next hourlyPlatform
        (stoppedClock 500000000)).FindsMissingCR (stoppedClock 500000000) := by
  refine ⟨?_, StagePass.followedBy_next _ _ _, ?_, by decide, by decide, ?_, ?_⟩
  · exact ⟨_, _, _, _, _, rfl, rfl, rfl, rfl⟩
  · obtain ⟨before, event, rest, hevents, hrequest, tick, htick⟩ :
        ∃ before event rest, (stoppedClock 500000000).events
          (reconcile hourlyPlatform .given
            (firstPass.next hourlyPlatform (stoppedClock 500000000)).cr
            false)
          (firstPass.next hourlyPlatform
            (stoppedClock 500000000)).cluster = before ++ event :: rest ∧
          event.op = .perform (.http configuredIndexRequest) ∧
          ∃ tick, event.after.tick = tick + 1 :=
      ⟨[_, _], _, _, rfl, rfl, _, rfl⟩
    exact ⟨event, hevents ▸ List.mem_append_right _ List.mem_cons_self,
      hrequest, tick, htick, rfl⟩
  · rintro ⟨checked, hcheck⟩
    have hnone : ((stoppedClock 500000000).run (tokensExpired firstPass.cr)
        (firstPass.next hourlyPlatform (stoppedClock 500000000)).cluster).1 =
          .ok false := rfl
    cases (congrArg Prod.fst hcheck).symm.trans hnone
  · rintro ⟨hmigrated, -⟩
    cases hmigrated

def deletedPass : StagePass where
  order := .given
  cr := (firstPass.next hourlyPlatform (stoppedClock nanoseconds)).cr
  migrated := true
  cluster :=
    { (firstPass.next hourlyPlatform (stoppedClock nanoseconds)).cluster with
      objects := firstPass.cluster.objects }
  copied := rfl

/-- The index is read again within the hour because custom resources are
missing. -/
theorem resync_of_missing :
    deletedPass.FetchesAt hourlyPlatform (stoppedClock nanoseconds)
      configuredIndexRequest nanoseconds ∧
    (deletedPass.cr.externalSyncDisabled = true ∨
      deletedPass.FindsExpiredToken (stoppedClock nanoseconds) ∨
      deletedPass.FindsMissingCR (stoppedClock nanoseconds)) := by
  have hfetch : deletedPass.FetchesAt hourlyPlatform
      (stoppedClock nanoseconds) configuredIndexRequest nanoseconds := by
    obtain ⟨before, event, rest, hevents, hrequest, tick, htick⟩ :
        ∃ before event rest, (stoppedClock nanoseconds).events
          (reconcile hourlyPlatform .given deletedPass.cr true)
          deletedPass.cluster = before ++ event :: rest ∧
          event.op = .perform (.http configuredIndexRequest) ∧
          ∃ tick, event.after.tick = tick + 1 :=
      ⟨[_, _, _, _, _], _, _, rfl, rfl, _, rfl⟩
    exact ⟨event, hevents ▸ List.mem_append_right _ List.mem_cons_self,
      hrequest, tick, htick, rfl⟩
  have hcompletes : firstPass.CompletesSyncAt hourlyPlatform
      (stoppedClock nanoseconds) nanoseconds :=
    ⟨_, _, _, _, _, rfl, rfl, rfl, rfl⟩
  have hfits : (stoppedClock nanoseconds).ClockFits := by
    intro tick
    exact (by decide : -2 ^ 63 ≤ nanoseconds / nanoseconds + unixToInternal ∧
      nanoseconds / nanoseconds + unixToInternal < 2 ^ 63)
  have hfollowed : firstPass.FollowedBy hourlyPlatform
      (stoppedClock nanoseconds) deletedPass :=
    ⟨rfl, rfl, Nat.le_refl _⟩
  have hchain : List.IsChain (StagePass.FollowedBy hourlyPlatform
      (stoppedClock nanoseconds)) (firstPass :: ([] ++ [deletedPass])) :=
    List.isChain_cons_cons.mpr ⟨hfollowed, List.isChain_singleton _⟩
  refine ⟨hfetch, StagePass.resync_limit (fun _ _ _ => Int.le_refl _) hfits
    rfl hchain hcompletes (Int.le_refl _) ?_ hfetch (by decide)⟩
  intro pass hpass
  cases hpass

end ObservabilityOperator
