import ObservabilityOperator.Completion
import ObservabilityOperator.PromtailConfigText
import ObservabilityOperator.StageFootprints

/-!
# Pruning and creating Promtails

A sync first deletes the DaemonSets that no index asks for and then creates one
for every index that does.  The deletion goes by the first index with the id in
the name and does not look the Observatorium up; the creation goes by all
indexes and does.  So a DaemonSet of an earlier sync may be kept that would not
be created.
-/

namespace ObservabilityOperator

open Program

/-- An index with this id enables Promtail and has the Observatorium that it
names. -/
def PromtailDue (cr : Observability) (indexes : List RepositoryIndex)
    (id : String) : Prop :=
  cr.observatoriumDisabled = false ∧ cr.externalSyncDisabled = false ∧
    ∃ index ∈ indexes, index.id = id ∧ ∃ promtail,
      index.config.bind RepositoryConfig.promtail = some promtail ∧
      promtail.enabled = true ∧ promtail.observatorium ≠ "" ∧
      (getObservatoriumConfig index promtail.observatorium).isSome = true

/-- The Promtails of the cluster are those that are due. -/
def PromtailsAgree (cr : Observability) (indexes : List RepositoryIndex)
    (cluster : Cluster) : Prop :=
  ∀ id, (cluster.find .daemonSet (getPromtailDaemonSet cr id)).isSome =
      true ↔ PromtailDue cr indexes id

/-- What the deletion would keep is due. -/
def KeepsDue (cr : Observability) (indexes : List RepositoryIndex)
    (cluster : Cluster) : Prop :=
  ∀ id, (cluster.find .daemonSet (getPromtailDaemonSet cr id)).isSome =
      true →
    daemonsetShouldExist cr indexes ("promtail-" ++ id) = true →
      PromtailDue cr indexes id

variable {cr : Observability} {index : RepositoryIndex} {env : Surroundings}

theorem isSome_promtailObservatorium_iff :
    (promtailObservatorium cr index).isSome = true ↔
      cr.observatoriumDisabled = false ∧ cr.externalSyncDisabled = false ∧
        ∃ promtail,
          index.config.bind RepositoryConfig.promtail = some promtail ∧
          promtail.enabled = true ∧ promtail.observatorium ≠ "" ∧
          (getObservatoriumConfig index promtail.observatorium).isSome =
            true := by
  unfold promtailObservatorium
  cases index.config.bind RepositoryConfig.promtail with
  | none => simp
  | some promtail =>
    cases henabled : promtail.enabled <;>
      cases hobservatorium : cr.observatoriumDisabled <;>
        cases hexternal : cr.externalSyncDisabled <;>
          by_cases hempty : promtail.observatorium = "" <;>
            simp [henabled, hempty]

theorem promtailDue_iff {indexes : List RepositoryIndex} {id : String} :
    PromtailDue cr indexes id ↔
      ∃ index ∈ indexes, index.id = id ∧
        (promtailObservatorium cr index).isSome = true := by
  simp only [PromtailDue, isSome_promtailObservatorium_iff]
  constructor
  · rintro ⟨hobservatorium, hexternal, index, hindex, hid, hpromtail⟩
    exact ⟨index, hindex, hid, hobservatorium, hexternal, hpromtail⟩
  · rintro ⟨index, hindex, hid, hobservatorium, hexternal, hpromtail⟩
    exact ⟨hobservatorium, hexternal, index, hindex, hid, hpromtail⟩

section Runs

variable {platform : Platform} {env : Surroundings}
  {cr : Observability} {indexes : List RepositoryIndex}
  {cluster after : Cluster}

theorem isSome_of_run_createPromtailDaemonsetFor {index : RepositoryIndex}
    (hrun : env.run (createPromtailDaemonsetFor platform cr index)
      cluster = (.ok (), after)) (id : String) :
    (after.find .daemonSet (getPromtailDaemonSet cr id)).isSome =
      ((cluster.find .daemonSet (getPromtailDaemonSet cr id)).isSome ||
        (decide (index.id = id) &&
          (promtailObservatorium cr index).isSome)) := by
  unfold createPromtailDaemonsetFor at hrun
  split at hrun
  next hnone =>
    cases hrun
    simp [hnone]
  next promtail observatorium hsome =>
    obtain ⟨config, configured, hconfig, hrun⟩ := run_bind_eq_ok hrun
    have hframe := (writesKinds_createPromtailConfigFor
      (List.mem_singleton.mpr rfl) index promtail observatorium).find_eq
        hconfig (show Kind.daemonSet ∉ [Kind.configMap] by decide)
        (getPromtailDaemonSet cr id)
    obtain ⟨hfind, -, hothers⟩ := run_upsert_discarded_eq_ok hrun
    by_cases hid : index.id = id
    · subst hid
      simp [hfind, hsome]
    · have hkey : ¬ (Kind.daemonSet = .daemonSet ∧
          getPromtailDaemonSet cr index.id = getPromtailDaemonSet cr id) := by
        rintro ⟨-, hsame⟩
        have hname := congrArg ObjectKey.name hsame
        simp only [getPromtailDaemonSet] at hname
        exact hid ((String.append_right_inj _).mp hname)
      rw [hothers _ _ hkey, hframe]
      simp [hid]

theorem isSome_of_run_deleteUnrequestedDaemonsets
    (hrun : env.run (deleteUnrequestedDaemonsets cr indexes)
      cluster = (.ok (), after)) (id : String) :
    (after.find .daemonSet (getPromtailDaemonSet cr id)).isSome =
      ((cluster.find .daemonSet (getPromtailDaemonSet cr id)).isSome &&
        daemonsetShouldExist cr indexes ("promtail-" ++ id)) := by
  rw [deleteUnrequestedDaemonsets_eq_prune] at hrun
  obtain ⟨hgone, hkept⟩ := run_prune_eq_ok hrun
  cases hshould : daemonsetShouldExist cr indexes ("promtail-" ++ id) with
  | true =>
    rw [hkept _ _ fun _ _ _ _ => hshould, Bool.and_true]
  | false =>
    rw [Bool.and_false]
    cases hfind : cluster.find .daemonSet (getPromtailDaemonSet cr id) with
    | none =>
      rw [hkept _ _ fun _ object hobject _ => ?_, hfind]
      · rfl
      · rw [hfind] at hobject
        cases hobject
    | some object =>
      rw [hgone _ object hfind (by simp [ListOptions.selects,
        getPromtailDaemonSet])
        (by simpa [getPromtailDaemonSet] using hshould)]
      rfl

theorem isSome_of_run_syncPromtail
    (hrun : env.run (syncPromtail platform cr indexes) cluster =
      (.ok (), after)) (id : String) :
    (after.find .daemonSet (getPromtailDaemonSet cr id)).isSome = true ↔
      ((cluster.find .daemonSet (getPromtailDaemonSet cr id)).isSome = true ∧
        daemonsetShouldExist cr indexes ("promtail-" ++ id) = true) ∨
      PromtailDue cr indexes id := by
  obtain ⟨_, pruned, hprune, hloop⟩ := run_bind_eq_ok hrun
  have hpruned := isSome_of_run_deleteUnrequestedDaemonsets
    (run_wrapping_eq_ok.mp hprune) id
  obtain ⟨-, hview⟩ := run_forEach_view (fun _ => True)
    (fun state : Cluster =>
      (state.find .daemonSet (getPromtailDaemonSet cr id)).isSome)
    (fun found index => found ||
      (decide (index.id = id) && (promtailObservatorium cr index).isSome))
    (fun index _ state next _ hnext => ⟨trivial,
      isSome_of_run_createPromtailDaemonsetFor
        (run_wrapping_eq_ok.mp hnext) id⟩) trivial hloop
  have hfold (found : Bool) :
      indexes.foldl (fun found index => found ||
        (decide (index.id = id) && (promtailObservatorium cr index).isSome))
          found = (found || indexes.any fun index =>
            decide (index.id = id) &&
              (promtailObservatorium cr index).isSome) := by
    clear hview hloop hprune hpruned hrun
    induction indexes generalizing found with
    | nil => simp
    | cons index rest ih =>
      rw [List.foldl_cons, ih, List.any_cons, Bool.or_assoc]
  rw [hview, hfold, hpruned, promtailDue_iff]
  simp

end Runs

/-- After a sync the Promtails are those that are due, exactly if the deletion
keeps none that is not. -/
theorem promtailsAgree_iff {platform : Platform}
    {env : Surroundings} {cr : Observability}
    {indexes : List RepositoryIndex} {cluster after : Cluster}
    (hrun : env.run (syncPromtail platform cr indexes) cluster =
      (.ok (), after)) :
    PromtailsAgree cr indexes after ↔ KeepsDue cr indexes cluster := by
  unfold PromtailsAgree KeepsDue
  refine forall_congr' fun id => ?_
  rw [isSome_of_run_syncPromtail hrun id]
  constructor
  · intro hagree hfound hkept
    exact hagree.mp (.inl ⟨hfound, hkept⟩)
  · intro hkeeps
    constructor
    · rintro (⟨hfound, hkept⟩ | hdue)
      · exact hkeeps hfound hkept
      · exact hdue
    · exact .inr

def promtailIndex (observatorium : String)
    (observatoria : List ObservatoriumIndex) : RepositoryIndex where
  id := "kafka"
  config := some
    { promtail := some { enabled := true, observatorium }
      observatoria }

def clusterWithPromtail : Cluster :=
  Cluster.empty.put .daemonSet ⟨"managed", "promtail-kafka"⟩
    Kind.daemonSet.blank

def promtailsCluster : Cluster :=
  clusterWithPromtail.put .daemonSet ⟨"managed", "promtail-gone"⟩
    Kind.daemonSet.blank

/-- Of two Promtails that are there the one that no index asks for goes. -/
theorem promtailsCluster_agrees :
    ∃ after, Surroundings.quiet.run (syncPromtail Platform.plain plainCr
        [promtailIndex "first" [plainObservatorium "first" "logs"]])
        promtailsCluster = (.ok (), after) ∧
      (after.find .daemonSet
        (getPromtailDaemonSet plainCr "kafka")).isSome = true ∧
      after.find .daemonSet (getPromtailDaemonSet plainCr "gone") = none ∧
      PromtailsAgree plainCr
        [promtailIndex "first" [plainObservatorium "first" "logs"]] after := by
  refine ⟨_, rfl, rfl, rfl, (promtailsAgree_iff (show Surroundings.quiet.run
    _ promtailsCluster = (.ok (), _) from rfl)).mpr fun id _ hkept => ?_⟩
  obtain rfl : id = "kafka" := by
    by_contra hother
    simp [daemonsetShouldExist, promtailIndex, hother] at hkept
  rw [promtailDue_iff]
  decide

theorem outdated_promtail_kept :
    ∃ after, Surroundings.quiet.run (syncPromtail Platform.plain plainCr
        [promtailIndex "gone" []]) clusterWithPromtail = (.ok (), after) ∧
      (after.find .daemonSet
        (getPromtailDaemonSet plainCr "kafka")).isSome = true ∧
      ¬ PromtailDue plainCr [promtailIndex "gone" []] "kafka" := by
  refine ⟨_, rfl, rfl, ?_⟩
  rw [promtailDue_iff]
  decide

/-! ## The configuration that is rolled out -/

/-- The pods of the DaemonSet carry the hash of the stored configuration. -/
def ConfigCurrent (platform : Platform) (cr : Observability) (id : String)
    (cluster : Cluster) : Prop :=
  ∃ configMap daemonset text,
    cluster.find .configMap (getPromtailConfigmap cr id) = some configMap ∧
    configMap.spec.get? "promtail.yaml" = some text ∧
    cluster.find .daemonSet (getPromtailDaemonSet cr id) = some daemonset ∧
    ∃ container ∈ daemonset.spec.pod.containers,
      ("CONFIG_HASH", platform.sha256Hex text) ∈ container.env

section Hash

variable {platform : Platform} {env : Surroundings}
  {cr : Observability} {index : RepositoryIndex}
  {indexes : List RepositoryIndex} {cluster after : Cluster} {id : String}

theorem configCurrent_of_run
    (hrun : env.run (createPromtailDaemonsetFor platform cr index)
      cluster = (.ok (), after))
    (hdue : index.id = id ∧ (promtailObservatorium cr index).isSome = true ∨
      ConfigCurrent platform cr id cluster) :
    ConfigCurrent platform cr id after := by
  unfold createPromtailDaemonsetFor at hrun
  split at hrun
  next hnone =>
    cases hrun
    exact hdue.resolve_left (by simp [hnone])
  next promtail observatorium hsome =>
    obtain ⟨config, configured, hconfig, hrun⟩ := run_bind_eq_ok hrun
    obtain ⟨hdaemonset, -, hothers⟩ := run_upsert_discarded_eq_ok hrun
    by_cases hid : index.id = id
    · subst hid
      obtain ⟨_, _, -, hconfig⟩ := run_bind_eq_ok hconfig
      obtain ⟨configMap, _, hwrite, hdone⟩ := run_bind_eq_ok hconfig
      cases hdone
      obtain ⟨rfl, hfind, -⟩ := run_upsert_eq_ok hwrite
      exact ⟨_, _, _, (hothers _ _ (by simp)).trans hfind,
        StringMap.get?_set_self _ _ _, hdaemonset, _, List.mem_singleton_self _,
          List.mem_cons_of_mem _ (List.mem_singleton_self _)⟩
    · obtain ⟨configMap, daemonset, text, hfind, htext, hpods, hhash⟩ :=
        hdue.resolve_left fun hdue => hid hdue.1
      have huses : (createPromtailConfigFor cr index promtail
          observatorium).Uses (ApiCall.WritesOnly fun kind key =>
            kind = .configMap ∧ key = getPromtailConfigmap cr index.id) :=
        .bind (.bind ((Client.uses_list _ _ _).mpr (by simp)) fun _ =>
        .bind (Client.uses_orFail _ _) fun _ => trivial) fun _ =>
        .bind (upsert_uses_writesOnly_iff.mpr ⟨rfl, rfl⟩) fun _ => trivial
      refine ⟨configMap, daemonset, text, ?_, htext, ?_, hhash⟩
      · rw [hothers _ _ (by simp),
          Surroundings.find_of_writesOnly hconfig huses, hfind]
        simp [getPromtailConfigmap, Ne.symm hid]
      · rw [hothers, Surroundings.find_of_writesOnly hconfig huses, hpods]
        · simp
        · simp [getPromtailDaemonSet, hid]

/-- After a sync the pods of every Promtail that is due are those for the
configuration that is stored, whatever was there before. -/
theorem promtailConfig_current
    (hrun : env.run (syncPromtail platform cr indexes) cluster =
      (.ok (), after)) (hdue : PromtailDue cr indexes id) :
    ConfigCurrent platform cr id after := by
  obtain ⟨_, pruned, -, hloop⟩ := run_bind_eq_ok hrun
  replace hdue := promtailDue_iff.mp hdue
  have hpending : (∃ index ∈ indexes, index.id = id ∧
      (promtailObservatorium cr index).isSome = true) ∨
        ConfigCurrent platform cr id pruned := .inl hdue
  clear hrun hdue
  induction indexes generalizing pruned with
  | nil =>
    cases hloop
    simpa using hpending
  | cons index rest ih =>
    obtain ⟨_, between, hfirst, hrest⟩ := run_bind_eq_ok hloop
    replace hfirst := run_wrapping_eq_ok.mp hfirst
    refine ih between hrest ?_
    rcases hpending with ⟨other, hother, hthere⟩ | hbefore
    · rcases List.mem_cons.mp hother with rfl | hother
      · exact .inr (configCurrent_of_run hfirst (.inl hthere))
      · exact .inl ⟨other, hother, hthere⟩
    · exact .inr (configCurrent_of_run hfirst (.inr hbefore))

end Hash

theorem promtailIndex_current :
    ConfigCurrent Platform.plain plainCr "kafka"
      (Surroundings.quiet.run (syncPromtail Platform.plain plainCr
        [promtailIndex "first" [plainObservatorium "first" "logs"]])
        Cluster.empty).2 :=
  promtailConfig_current (Prod.ext rfl rfl) (promtailDue_iff.mpr (by decide))

/-! ## Without a configuration -/

/-- The Observatorium is valid and has credentials for logs. -/
def AcceptsLogs (observatorium : ObservatoriumIndex) : Prop :=
  observatorium.isValid = true ∧ (observatorium.authType = .redhat →
    ∃ sso, observatorium.redhatSsoConfig = some sso ∧ sso.hasLogs = true)

theorem getPromtailConfig_isOk_iff {observatorium : ObservatoriumIndex}
    {indexId : String} {namespaces : List String} :
    (∃ text, getPromtailConfig cr observatorium indexId namespaces =
      .ok text) ↔ AcceptsLogs observatorium := by
  simp only [getPromtailConfig_ok_iff, AcceptsLogs]
  unfold promtailTarget
  cases hvalid : observatorium.isValid with
  | false => simp
  | true =>
    cases htype : observatorium.authType with
    | dex => simp
    | unknown text => simp
    | redhat =>
      cases hsso : observatorium.redhatSsoConfig with
      | none => simp
      | some sso => cases hlogs : sso.hasLogs <;> simp [hlogs]

/-- Where there is no configuration, the creation fails and leaves ConfigMap
and DaemonSet alone. -/
def ErrorChangesNothing (platform : Platform) (env : Surroundings)
    (cr : Observability) (index : RepositoryIndex) (cluster : Cluster) :
    Prop :=
  ∀ promtail observatorium message,
    promtailObservatorium cr index = some (promtail, observatorium) →
    getPromtailConfig cr observatorium index.id
      (scrapedNamespaces promtail cluster) = .error message →
    ∃ abort after,
      env.run (createPromtailDaemonsetFor platform cr index) cluster =
        (.error abort, after) ∧
      after.find .configMap (getPromtailConfigmap cr index.id) =
        cluster.find .configMap (getPromtailConfigmap cr index.id) ∧
      after.find .daemonSet (getPromtailDaemonSet cr index.id) =
        cluster.find .daemonSet (getPromtailDaemonSet cr index.id)

theorem exists_run_createPromtailDaemonsetFor {platform : Platform}
    (hfaultless : env.environment.Faultless) (cluster : Cluster) :
    ∃ after, env.run (createPromtailDaemonsetFor platform cr index)
      cluster = (.ok (), after) := by
  have hcreate : (createPromtailDaemonsetFor platform cr index).Completes
      (serve env.environment) (World.AgreesIn [] cluster) fun _ => True := by
    unfold createPromtailDaemonsetFor
    split
    · exact completes_done trivial
    · have hconfig {promtail observatorium} : (createPromtailConfigFor cr index
          promtail observatorium).Completes (serve env.environment)
            (World.AgreesIn [] cluster) fun _ => True :=
        .andThen (completes_list hfaultless fun _ _ => completes_done trivial)
          fun _ => .andThen (completes_upsert hfaultless List.not_mem_nil)
            fun _ => completes_done trivial
      exact hconfig.andThen fun _ =>
        .discard (completes_upsert hfaultless List.not_mem_nil)
  exact hcreate.exists_run fun _ _ => rfl

/-- A configuration error changes nothing exactly for an index whose
Observatorium has none. -/
theorem errorChangesNothing_iff (cr : Observability)
    (index : RepositoryIndex) (cluster : Cluster) :
    (∀ platform env,
      ErrorChangesNothing platform env cr index cluster) ↔
      ∀ promtail observatorium,
        promtailObservatorium cr index = some (promtail, observatorium) →
          AcceptsLogs observatorium := by
  constructor
  · intro hnothing promtail observatorium hsome
    rw [← getPromtailConfig_isOk_iff]
    cases hconfig : getPromtailConfig cr observatorium index.id
        (scrapedNamespaces promtail cluster) with
    | ok text => exact ⟨text, rfl⟩
    | error message =>
      obtain ⟨abort, after, hrun, -⟩ := hnothing Platform.plain
        Surroundings.quiet promtail observatorium message hsome hconfig
      have hquiet : Surroundings.quiet.environment.Faultless :=
        fun _ _ => rfl
      obtain ⟨other, hother⟩ :
          ∃ other, Surroundings.quiet.run (createPromtailDaemonsetFor
            Platform.plain cr index) cluster = (.ok (), other) :=
        exists_run_createPromtailDaemonsetFor hquiet cluster
      cases hrun.symm.trans hother
  · intro haccepts platform env promtail observatorium message hsome herror
    obtain ⟨text, htext⟩ := getPromtailConfig_isOk_iff.mpr
      (haccepts promtail observatorium hsome)
    rw [herror] at htext
    cases htext

def observatoriumWithoutGateway : ObservatoriumIndex :=
  { plainObservatorium "first" "logs" with gateway := "" }

def clusterWithPromtailConfig : Cluster :=
  Cluster.empty.put .configMap ⟨"managed", "promtail-config-kafka"⟩
    { Kind.configMap.blank with spec := [("promtail.yaml", "config")] }

/-- The configuration in use is replaced by the empty text and rolled out. -/
theorem empty_config_rolled_out :
    getPromtailConfig plainCr observatoriumWithoutGateway "kafka"
        (scrapedNamespaces { enabled := true, observatorium := "first" }
          clusterWithPromtailConfig) =
      .error "invalid observatorium config for first" ∧
    ∃ after configMap daemonset,
      Surroundings.quiet.run (createPromtailDaemonsetFor Platform.plain
        plainCr (promtailIndex "first" [observatoriumWithoutGateway]))
        clusterWithPromtailConfig = (.ok (), after) ∧
      after.find .configMap (getPromtailConfigmap plainCr "kafka") =
        some configMap ∧
      configMap.spec = [("promtail.yaml", "")] ∧
      after.find .daemonSet (getPromtailDaemonSet plainCr "kafka") =
        some daemonset :=
  ⟨rfl, _, _, _, rfl, rfl, rfl, rfl⟩

end ObservabilityOperator
