import ObservabilityOperator.RemoteWriteTargets
import ObservabilityOperator.TokenRenewal

/-!
# Secrets that are referenced are not removed

A sync removes the token secrets that no index asks for before it completes
the entries, and refers to token secrets after that: in the remote write
targets of the Prometheus and in the volumes of the daemon sets.  Completing an
entry does not change its id, whether it succeeds or stops half-way.  So what
is referred to was asked for, whatever calls have failed in between.
-/

namespace ObservabilityOperator

open Program

variable {observatorium : ObservatoriumIndex}

/-! ## The ids stay -/

section Ids

variable {platform : Platform} {env : Surroundings}
  {cr : Observability} {cluster after : Cluster}

theorem ids_of_run_completeObservatoria {index completed : RepositoryIndex}
    (hrun : env.run (completeObservatoria platform cr index)
      cluster = (.ok completed, after)) :
    completed.observatoria.map ObservatoriumIndex.id =
      index.observatoria.map ObservatoriumIndex.id := by
  have hpairs := related_of_run_completeObservatoria
    (fun entry copy => copy.id = entry.id) (fun _ => rfl) (fun _ _ => rfl)
    (fun _ _ _ _ htransform => id_of_run_transformObservatorium htransform)
    hrun
  generalize index.observatoria = entries,
    completed.observatoria = copies at hpairs ⊢
  induction hpairs with
  | nil => rfl
  | cons hfirst _ ih => rw [List.map_cons, List.map_cons, hfirst, ih]

theorem expectedTokenSecrets_of_run_completeIndexes
    {indexes completed : List RepositoryIndex}
    (hrun : env.run (completeIndexes platform cr indexes) cluster =
      (.ok completed, after)) :
    expectedTokenSecrets completed = expectedTokenSecrets indexes := by
  have hpairs := run_collect_forall₂
    (fun (index completed : RepositoryIndex) =>
      completed.observatoria.map ObservatoriumIndex.id =
        index.observatoria.map ObservatoriumIndex.id)
    (fun index _ state next completed hnext =>
      ids_of_run_completeObservatoria hnext) hrun
  clear hrun
  induction hpairs with
  | nil => rfl
  | cons hfirst _ ih =>
    have hnames (entries : List ObservatoriumIndex) :
        entries.map getObservatoriumTokenSecretName =
          (entries.map ObservatoriumIndex.id).map ("obs-token-" ++ ·) := by
      rw [List.map_map]
      rfl
    unfold expectedTokenSecrets at ih ⊢
    rw [List.flatMap_cons, List.flatMap_cons, ih, hnames, hnames, hfirst]

end Ids

variable {indexes : List RepositoryIndex} {index : RepositoryIndex}
  {cr : Observability} {secret : String}

theorem mem_expectedTokenSecrets (hindex : index ∈ indexes)
    (hentry : observatorium ∈ index.observatoria) :
    getObservatoriumTokenSecretName observatorium ∈
      expectedTokenSecrets indexes :=
  List.mem_flatMap.mpr ⟨index, hindex,
    List.mem_map.mpr ⟨observatorium, hentry, rfl⟩⟩

theorem mem_of_getObservatoriumConfig {id : String}
    (hfind : getObservatoriumConfig index id = some observatorium) :
    observatorium ∈ index.observatoria :=
  List.mem_of_find?_eq_some hfind

theorem mem_of_promtailObservatorium {promtail : PromtailIndex}
    (hfind : promtailObservatorium cr index =
      some (promtail, observatorium)) : observatorium ∈ index.observatoria := by
  unfold promtailObservatorium at hfind
  split at hfind
  next => cases hfind
  next =>
    split_ifs at hfind
    obtain ⟨found, hfound, hpair⟩ := Option.map_eq_some_iff.mp hfind
    cases hpair
    exact mem_of_getObservatoriumConfig hfound

/-! ## Remote write targets -/

def TokenTarget (expected : List String) (target : RemoteWriteTarget) :
    Prop :=
  target.spec.bearerTokenFile ≠ "" →
    target.tokenSecret ∈ expected ∧ target.tokenSecret ≠ "" ∧
      target.spec.bearerTokenFile =
        "/etc/prometheus/secrets/" ++ target.tokenSecret ++ "/token"

section Targets

variable {platform : Platform} {env : Surroundings}
  {cr : Observability} {cluster after : Cluster}
  {indexes : List RepositoryIndex} {index : RepositoryIndex}

theorem tokenTarget_getRemoteWriteSpecForDex (remoteWrite : RemoteWriteIndex)
    (hindex : index ∈ indexes) (hentry : observatorium ∈ index.observatoria) :
    TokenTarget (expectedTokenSecrets indexes)
      (getRemoteWriteSpecForDex index observatorium remoteWrite) := by
  intro _
  refine ⟨mem_expectedTokenSecrets hindex hentry, ?_, rfl⟩
  intro hempty
  have hchars := congrArg String.toList hempty
  simp [getRemoteWriteSpecForDex, getObservatoriumTokenSecretName] at hchars

theorem tokenTarget_of_run_getRemoteWriteSpec {remoteWrite : RemoteWriteIndex}
    {target : RemoteWriteTarget} (hindex : index ∈ indexes)
    (hrun : env.run
      (getRemoteWriteSpec platform cr index remoteWrite) cluster =
        (.ok target, after)) :
    TokenTarget (expectedTokenSecrets indexes) target := by
  unfold getRemoteWriteSpec at hrun
  split at hrun
  next => cases hrun
  next =>
    split at hrun
    next => cases hrun
    next =>
      split at hrun
      next => cases hrun
      next observatorium hfind =>
        split at hrun
        next =>
          cases hrun
          exact tokenTarget_getRemoteWriteSpecForDex remoteWrite hindex
            (mem_of_getObservatoriumConfig hfind)
        next =>
          obtain ⟨oauth2, read, -, hdone⟩ := run_bind_eq_ok hrun
          cases hdone
          exact fun hfile => absurd rfl hfile
        next => cases hrun

theorem tokenTarget_of_run_remoteWriteTargetOf
    {found : Option RemoteWriteTarget} (hindex : index ∈ indexes)
    (hrun : env.run (remoteWriteTargetOf platform cr index)
      cluster = (.ok found, after)) :
    ∀ target, found = some target →
      TokenTarget (expectedTokenSecrets indexes) target := by
  obtain ⟨remoteWrite, fetched, -, hrun⟩ := run_bind_eq_ok hrun
  obtain ⟨result, attempted, hattempt, hdone⟩ := run_bind_eq_ok hrun
  rintro target rfl
  cases result with
  | error error => cases hdone
  | ok value =>
    cases hdone
    exact tokenTarget_of_run_getRemoteWriteSpec hindex
      (run_attempt_eq_ok_ok.mp hattempt)

theorem tokenTarget_of_run_remoteWriteTargets {targets : List RemoteWriteTarget}
    (hrun : env.run (remoteWriteTargets platform cr indexes)
      cluster = (.ok targets, after)) :
    ∀ target ∈ targets, TokenTarget (expectedTokenSecrets indexes) target := by
  unfold remoteWriteTargets at hrun
  split at hrun
  next =>
    cases hrun
    exact fun _ htarget => absurd htarget List.not_mem_nil
  next =>
    obtain ⟨found, collected, hcollect, hdone⟩ := run_bind_eq_ok hrun
    cases hdone
    have hpairs := run_collect_forall₂
      (fun (_ : RepositoryIndex) (found : Option RemoteWriteTarget) =>
        ∀ target, found = some target →
          TokenTarget (expectedTokenSecrets indexes) target)
      (fun index hindex state next found hnext =>
        tokenTarget_of_run_remoteWriteTargetOf hindex hnext) hcollect
    intro target htarget
    obtain ⟨option, hoption, rfl⟩ := List.mem_filterMap.mp htarget
    obtain ⟨index, -, hfound⟩ := exists_of_forall₂ hpairs.flip hoption
    exact hfound target rfl

end Targets

/-! ## Daemon sets -/

/-- The call creates or updates a daemon set to this one. -/
def StoresDaemonSet (daemonset : Resource DaemonSetSpec)
    (call : ApiCall Kind.Spec Action) : Prop :=
  ∃ key, call = .create .daemonSet key daemonset ∨
    call = .update .daemonSet key daemonset

/-- The daemon set has the secret as its token volume. -/
def MountsToken (daemonset : Resource DaemonSetSpec) (secret : String) :
    Prop :=
  ⟨"token", .secret secret⟩ ∈ daemonset.spec.pod.volumes

def MountsOnly (expected : List String) (call : ApiCall Kind.Spec Action) :
    Prop :=
  ∀ daemonset, StoresDaemonSet daemonset call →
    ∀ secret, MountsToken daemonset secret → secret ∈ expected

theorem allowsKinds_mountsOnly {kinds : List Kind} (expected : List String)
    (hkinds : .daemonSet ∉ kinds) :
    AllowsKinds kinds (MountsOnly expected) where
  get := by
    rintro kind key daemonset ⟨_, hcall | hcall⟩ <;> cases hcall
  list := by
    rintro kind options daemonset ⟨_, hcall | hcall⟩ <;> cases hcall
  now := by
    rintro daemonset ⟨_, hcall | hcall⟩ <;> cases hcall
  http := by
    rintro request daemonset ⟨_, hcall | hcall⟩ <;> cases hcall
  setLabels := by
    rintro daemonset ⟨_, hcall | hcall⟩ <;> cases hcall
  create := by
    rintro kind hkind key object daemonset ⟨_, hcall | hcall⟩
    · cases hcall
      exact absurd hkind hkinds
    · cases hcall
  update := by
    rintro kind hkind key object daemonset ⟨_, hcall | hcall⟩
    · cases hcall
    · cases hcall
      exact absurd hkind hkinds
  delete := by
    rintro kind hkind key daemonset ⟨_, hcall | hcall⟩ <;> cases hcall

theorem mem_of_promtailPod {hash : String} (hindex : index ∈ indexes)
    (hentry : observatorium ∈ index.observatoria)
    (hmounts : ⟨"token", .secret secret⟩ ∈
      (promtailPod cr index observatorium hash).volumes) :
    secret ∈ expectedTokenSecrets indexes := by
  unfold promtailPod at hmounts
  dsimp only at hmounts
  split at hmounts
  · obtain rfl : secret = getObservatoriumTokenSecretName observatorium := by
      simpa using hmounts
    exact mem_expectedTokenSecrets hindex hentry
  · simp at hmounts

section Promtail

variable {platform : Platform} {cr : Observability}
  {indexes : List RepositoryIndex}

theorem mountsOnly_createPromtailDaemonsetFor {index : RepositoryIndex}
    (hindex : index ∈ indexes) :
    (createPromtailDaemonsetFor platform cr index).Uses
      (MountsOnly (expectedTokenSecrets indexes)) := by
  have hreads : AllowsKinds [.configMap]
      (MountsOnly (expectedTokenSecrets indexes)) :=
    allowsKinds_mountsOnly _ (by decide)
  unfold createPromtailDaemonsetFor
  split
  · trivial
  next promtail observatorium hfind =>
    have hentry := mem_of_promtailObservatorium hfind
    have hstored (key : ObjectKey) (daemonset : Resource DaemonSetSpec)
        (hash : String) (hpod : daemonset.spec.pod =
          promtailPod cr index observatorium hash) :
        MountsOnly (expectedTokenSecrets indexes)
            (.create .daemonSet key daemonset) ∧
          MountsOnly (expectedTokenSecrets indexes)
            (.update .daemonSet key daemonset) := by
      have hvolumes (secret : String) (hmounts : MountsToken daemonset
          secret) : secret ∈ expectedTokenSecrets indexes := by
        rw [MountsToken, hpod] at hmounts
        exact mem_of_promtailPod hindex hentry hmounts
      constructor
      · rintro other ⟨_, hcall | hcall⟩ <;> cases hcall
        exact hvolumes
      · rintro other ⟨_, hcall | hcall⟩ <;> cases hcall
        exact hvolumes
    refine .bind (writesKinds_createPromtailConfigFor (by decide) _ _ _ _
      hreads) fun config => ?_
    refine .bind (upsert_uses (hreads.get _ _)
      (fun _ => (hstored _ _ _ rfl).1) fun _ => (hstored _ _ _ rfl).2)
        fun _ => trivial

theorem mountsOnly_syncPromtail :
    (syncPromtail platform cr indexes).Uses
      (MountsOnly (expectedTokenSecrets indexes)) := by
  refine .bind (.wrapping ?_) fun _ => .forEach fun index hindex =>
    .wrapping (mountsOnly_createPromtailDaemonsetFor hindex)
  have hdeletes : AllowsKinds [] (MountsOnly (expectedTokenSecrets indexes)) :=
    allowsKinds_mountsOnly _ List.not_mem_nil
  refine hdeletes.deleteUnrequestedDaemonsets (fun key => ?_) indexes
  rintro daemonset ⟨_, hcall | hcall⟩ <;> cases hcall

theorem mountsOnly_applyIndexes :
    (applyIndexes platform cr indexes).Uses
      (MountsOnly (expectedTokenSecrets indexes)) := by
  have hothers {α : Type} {program : Go α} {kinds : List Kind}
      (hkinds : .daemonSet ∉ kinds) (hprogram : WritesKinds kinds program) :
      program.Uses (MountsOnly (expectedTokenSecrets indexes)) :=
    hprogram _ (allowsKinds_mountsOnly _ hkinds)
  refine .bind (hothers (by decide) (writesKinds_syncTokenRefreshers _))
    fun _ => ?_
  refine .bind (hothers (by decide) (writesKinds_syncAlertmanagerSecret _))
    fun _ => ?_
  refine .bind (hothers (by decide) (writesKinds_syncInstances _)) fun _ => ?_
  refine .bind (hothers (by decide) (writesKinds_syncResources _)) fun _ => ?_
  refine .bind mountsOnly_syncPromtail fun _ => ?_
  refine (allowsKinds_mountsOnly _ List.not_mem_nil).assignSyncTime ?_
  rintro seconds daemonset ⟨_, hcall | hcall⟩ <;> cases hcall

end Promtail

/-! ## Removing token secrets -/

/-- The removal of unrequested credentials does not delete the secret. -/
def KeptByPruning (env : Surroundings) (cr : Observability)
    (indexes : List RepositoryIndex) (cluster : Cluster)
    (secret : String) : Prop :=
  ∀ event ∈ env.events
      (deleteUnrequestedCredentialSecrets cr indexes) cluster,
    ∀ ns, event.op ≠ .delete .secret ⟨ns, secret⟩

theorem keptByPruning_of_expected {env : Surroundings} {cluster : Cluster}
    (hexpected : secret ∈ expectedTokenSecrets indexes) :
    KeptByPruning env cr indexes cluster secret := by
  have huses : (deleteUnrequestedCredentialSecrets cr indexes).Uses
      fun call => ∀ ns, call ≠ .delete .secret ⟨ns, secret⟩ := by
    refine .bind ((Client.uses_list _ _ _).mpr fun _ => nofun) fun reply =>
      .forEach fun item _ => ?_
    split
    · trivial
    next hname =>
      refine .wrapping (.bind ((Client.uses_delete _ _ _).mpr ?_)
        fun _ => Client.uses_orFail _ _)
      intro ns hcall
      rw [(ApiCall.delete.inj hcall).2] at hname
      exact hname hexpected
  exact fun event hevent => huses.of_mem_events hevent

section Syncs

variable {platform : Platform} {env : Surroundings}
  {cr : Observability} {indexes : List RepositoryIndex}
  {cluster after : Cluster}

theorem expected_of_mem_events
    {event : Event (ApiCall.Reply Kind.Spec Action.Reply) Cluster}
    (hevent : event ∈ env.events (configure platform cr indexes)
      cluster) : MountsOnly (expectedTokenSecrets indexes) event.op := by
  have hothers {α : Type} {program : Go α}
      (hprogram : WritesKinds [.secret] program) :
      program.Uses (MountsOnly (expectedTokenSecrets indexes)) :=
    hprogram _ (allowsKinds_mountsOnly _ (by decide))
  rcases mem_events_bind hevent with hclear | hlater
  · exact (hothers (writesKinds_deleteUnrequestedCredentialSecrets
      (by decide) indexes)).of_mem_events hclear
  · obtain ⟨_, cleared, -, hlater⟩ := hlater
    rcases mem_events_bind hlater with hcomplete | happly
    · exact (hothers (writesKinds_completeIndexes
        (by decide) indexes)).of_mem_events hcomplete
    · obtain ⟨completed, credentials, hcompleted, happly⟩ := happly
      rw [← expectedTokenSecrets_of_run_completeIndexes hcompleted]
      exact mountsOnly_applyIndexes.of_mem_events happly

theorem tokenTargets_of_run_configure
    (hrun : env.run (configure platform cr indexes) cluster = (.ok (), after)) :
    ∃ prometheus targets,
      after.find .prometheus (getPrometheus cr) = some prometheus ∧
      prometheus.spec.remoteWrite = targets.map RemoteWriteTarget.spec ∧
      prometheus.spec.secrets = prometheusSecrets cr targets ∧
      ∀ target ∈ targets,
        TokenTarget (expectedTokenSecrets indexes) target := by
  obtain ⟨sync⟩ := exists_completedSync hrun
  obtain ⟨host, targets, storage, prometheus, before, read, hread, -, hfind,
    hspec, -⟩ := run_reconcilePrometheus_eq_ok sync.writesPrometheus
  rw [← sync.find_prometheus] at hfind
  refine ⟨prometheus, targets, hfind, by rw [hspec]; rfl,
    by rw [hspec]; rfl, ?_⟩
  rw [← expectedTokenSecrets_of_run_completeIndexes sync.completes]
  exact tokenTarget_of_run_remoteWriteTargets hread

/-- After a sync that completes, every remote write target with a token reads
it from a secret that is mounted into the Prometheus, and the sync has removed
neither that secret nor the token of a daemon set that it stored. -/
theorem referenced_tokens_kept
    (hrun : env.run (configure platform cr indexes) cluster = (.ok (), after)) :
    (∃ prometheus,
      after.find .prometheus (getPrometheus cr) = some prometheus ∧
        ∀ spec ∈ prometheus.spec.remoteWrite, spec.bearerTokenFile ≠ "" →
          ∃ secret ∈ prometheus.spec.secrets,
            spec.bearerTokenFile =
              "/etc/prometheus/secrets/" ++ secret ++ "/token" ∧
            KeptByPruning env cr indexes cluster secret) ∧
      ∀ event ∈ env.events (configure platform cr indexes) cluster,
        ∀ daemonset, StoresDaemonSet daemonset event.op →
          ∀ secret, MountsToken daemonset secret →
            KeptByPruning env cr indexes cluster secret := by
  constructor
  · obtain ⟨prometheus, targets, hfind, hremoteWrite, hsecrets, htargets⟩ :=
      tokenTargets_of_run_configure hrun
    refine ⟨prometheus, hfind, fun spec hmem hfile => ?_⟩
    rw [hremoteWrite] at hmem
    obtain ⟨target, htarget, rfl⟩ := List.mem_map.mp hmem
    obtain ⟨hasked, hnonempty, hpath⟩ := htargets target htarget hfile
    refine ⟨target.tokenSecret, ?_, hpath, keptByPruning_of_expected hasked⟩
    rw [hsecrets]
    refine List.mem_append_right _ (List.mem_filter.mpr ⟨?_, ?_⟩)
    · exact List.mem_map.mpr ⟨target, htarget, rfl⟩
    · simpa using hnonempty
  · intro event hevent daemonset hstores secret hmounts
    exact keptByPruning_of_expected
      (expected_of_mem_events hevent daemonset hstores secret hmounts)

end Syncs

def mountingIndex : RepositoryIndex :=
  { dexIndex with
    config := dexIndex.config.map fun config =>
      { config with
        promtail := some { enabled := true, observatorium := "first" } } }

/-- The Prometheus and a Promtail mount the token of the only entry. -/
theorem mountingIndex_tokens_kept :
    (∃ prometheus,
      (answeringSurroundings.run
        (configure tokenPlatform plainCr [mountingIndex])
        (tokenCluster [])).2.find .prometheus (getPrometheus plainCr) =
          some prometheus ∧
      prometheus.spec.remoteWrite.map (·.bearerTokenFile) =
        ["/etc/prometheus/secrets/obs-token-first/token"]) ∧
    (∃ daemonset, ∃ event ∈ answeringSurroundings.events
        (configure tokenPlatform plainCr [mountingIndex]) (tokenCluster []),
      StoresDaemonSet daemonset event.op ∧
        MountsToken daemonset "obs-token-first") ∧
    KeptByPruning answeringSurroundings plainCr [mountingIndex]
      (tokenCluster []) "obs-token-first" := by
  have hrun : answeringSurroundings.run
      (configure tokenPlatform plainCr [mountingIndex]) (tokenCluster []) =
        (.ok (), _) := Prod.ext rfl rfl
  have hpromtail : ∃ daemonset, ∃ event ∈ answeringSurroundings.events
      (configure tokenPlatform plainCr [mountingIndex]) (tokenCluster []),
      StoresDaemonSet daemonset event.op ∧
        MountsToken daemonset "obs-token-first" :=
    ⟨_, _, List.mem_of_getElem? (i := 31) rfl, ⟨_, .inl rfl⟩,
      List.mem_of_getElem? (i := 2) rfl⟩
  refine ⟨⟨_, rfl, rfl⟩, hpromtail, ?_⟩
  obtain ⟨daemonset, event, hevent, hstores, hmounts⟩ := hpromtail
  exact (referenced_tokens_kept hrun).2 event hevent daemonset hstores _ hmounts

end ObservabilityOperator
