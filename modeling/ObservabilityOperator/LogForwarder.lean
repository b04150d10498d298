import ObservabilityOperator.LoggingOwnership

/-!
# The namespaces of the log forwarder

The log forwarder lists the namespaces that carry the label of the fleetshard
operator.  It is written while there is none, and after that only while one
of the forwarders carries the label of the operator.  The operator does not
put the label on the forwarder that it creates, so the forwarder lists the
namespaces of the pass that has created it.
-/

namespace ObservabilityOperator

open Program

namespace LoggingInstallation

def labelledNamespaces (cluster : Cluster) : List String :=
  ((cluster.select .nameSpace { labels := fleetshardLabels }).map
    fun item => item.1.name).mergeSort fun first second => first ≤ second

def writtenForwarder (names : List String) :
    Resource ClusterLogForwarderSpec :=
  { newClusterLogForwarderCR with
    spec :=
      { inputs := forwardedInputs names
        outputs := [cloudwatchOutput]
        pipelines := [appLogsPipeline] } }

/-- The log forwarder collects from exactly these namespaces. -/
def TracksNamespaces (names : List String) (cluster : Cluster) : Prop :=
  ∃ forwarder, cluster.find .clusterLogForwarder getClusterLogForwarderCR =
      some forwarder ∧
    findKafkaLogResourcesInput forwarder.spec.inputs =
      some ⟨"kafka-log-resources", names⟩

theorem findKafkaLogResourcesInput_forwardedInputs (names : List String) :
    findKafkaLogResourcesInput (forwardedInputs names) =
      some ⟨"kafka-log-resources", names⟩ := rfl

theorem tracksNamespaces_iff_of_written {cluster : Cluster}
    {written names : List String}
    (hfind : cluster.find .clusterLogForwarder getClusterLogForwarderCR =
      some (writtenForwarder written)) :
    TracksNamespaces names cluster ↔ written = names := by
  have hinput := findKafkaLogResourcesInput_forwardedInputs written
  constructor
  · rintro ⟨forwarder, hforwarder, hlists⟩
    cases hfind.symm.trans hforwarder
    cases hinput.symm.trans hlists
    rfl
  · rintro rfl
    exact ⟨_, hfind, hinput⟩

/-! ## The part of a pass that sees to the forwarder -/

def PreludeCall (call : ApiCall Kind.Spec Action) : Prop :=
  call.WritesOnly (fun kind _ => kind ∈ earlierKinds) ∧
    ∀ options, call ≠ .list .clusterLogForwarder options

theorem allowsPrelude_preludeCall : AllowsPrelude PreludeCall where
  get _ _ := ⟨ApiCall.writesOnly_get _ _, nofun⟩
  list kind hkind _ := by
    refine ⟨ApiCall.writesOnly_list _ _, fun options hcall => ?_⟩
    cases hcall
    exact hkind rfl

theorem allowsObject_preludeCall {kind : Kind} (hkind : kind ∈ earlierKinds)
    (key : ObjectKey) : AllowsObject kind key PreludeCall where
  create _ := ⟨(ApiCall.writesOnly_create _ _ _).mpr hkind, nofun⟩
  update _ := ⟨(ApiCall.writesOnly_update _ _ _).mpr hkind, nofun⟩

section Decomposition

variable {cr : Observability} {env : Surroundings}
  {cluster : Cluster} {α : Type}

theorem objects_of_preludeCall {program : Go α}
    (huses : program.Uses PreludeCall) {kind : Kind}
    (hkind : kind ∉ earlierKinds) (cluster : Cluster) :
    (env.run program cluster).2.objects kind = cluster.objects kind :=
  huses.run_preserves
    (fun before later : Cluster => later.objects kind = before.objects kind)
    (fun _ => rfl) (fun hfirst hsecond => hsecond.trans hfirst)
    (fun _ hcall state => serve_objects_of_not_writes _
      (fun key hwrites => hkind (hcall.1 kind key hwrites)) state) cluster

def SeesToForwarder (env : Surroundings)
    (program : Go ObservabilityStageStatus) (cluster : Cluster) : Prop :=
  (∀ kind ∉ earlierKinds, (env.run program cluster).2.objects kind =
      cluster.objects kind) ∧
    ¬ program.Issues (serve env.environment) cluster
      (.list .clusterLogForwarder inLoggingNamespace) ∨
  ∃ before : Cluster,
    (∀ kind ∉ earlierKinds, before.objects kind = cluster.objects kind) ∧
    (env.run createClusterLogForwarderCr before).2 =
      (env.run program cluster).2 ∧
    ((env.run program cluster).1 = .ok .success →
      (env.run createClusterLogForwarderCr before).1 = .ok ())

theorem seesToForwarder_of_uses {program : Go ObservabilityStageStatus}
    (huses : program.Uses PreludeCall) : SeesToForwarder env program cluster :=
  .inl ⟨fun _ hkind => objects_of_preludeCall huses hkind cluster,
    fun hissues => (huses.of_issues hissues).2 _ rfl⟩

theorem seesToForwarder_bind {program : Go α}
    {next : α → Go ObservabilityStageStatus} (huses : program.Uses PreludeCall)
    (hnext : ∀ value after, SeesToForwarder env (next value) after) :
    SeesToForwarder env (program.bind next) cluster := by
  have hkept (kind : Kind) (hkind : kind ∉ earlierKinds) :
      (env.run program cluster).2.objects kind =
        cluster.objects kind := objects_of_preludeCall huses hkind cluster
  rcases hfirst : env.run program cluster with ⟨result, between⟩
  rw [hfirst] at hkept
  cases result with
  | error error =>
    have hrun : env.run (program.bind next) cluster =
        (.error error, between) := run_bind_error hfirst
    refine .inl ⟨fun kind hkind => ?_, fun hissues => ?_⟩
    · rw [hrun]
      exact hkept kind hkind
    · rcases hissues.of_bind with hprelude | ⟨value, after, hok, -⟩
      · exact (huses.of_issues hprelude).2 _ rfl
      · cases hfirst.symm.trans hok
  | ok value =>
    have hrun : env.run (program.bind next) cluster =
        env.run (next value) between := run_bind_ok hfirst
    rw [SeesToForwarder, hrun]
    rcases hnext value between with ⟨hrest, hnone⟩ | hreached
    · refine .inl ⟨fun kind hkind => (hrest kind hkind).trans
        (hkept kind hkind), fun hissues => ?_⟩
      rcases (issues_bind_of_ok hfirst).mp hissues with
        hprelude | hlater
      · exact (huses.of_issues hprelude).2 _ rfl
      · exact hnone hlater
    · obtain ⟨before, hbefore, hafter⟩ := hreached
      exact .inr ⟨before, fun kind hkind => (hbefore kind hkind).trans
        (hkept kind hkind), hafter⟩

theorem seesToForwarder_createClusterLogForwarderCr :
    SeesToForwarder env (createClusterLogForwarderCr.bind fun _ =>
      .done .success) cluster := by
  refine .inr ⟨cluster, fun _ _ => rfl, ?_⟩
  rcases hcreate : env.run createClusterLogForwarderCr cluster with
    ⟨result, after⟩
  cases result with
  | error error =>
    have hrun : env.run (createClusterLogForwarderCr.bind fun _ =>
        .done ObservabilityStageStatus.success) cluster =
          (.error error, after) := run_bind_error hcreate
    rw [hrun]
    exact ⟨rfl, nofun⟩
  | ok value =>
    have hrun : env.run (createClusterLogForwarderCr.bind fun _ =>
        .done ObservabilityStageStatus.success) cluster =
          (.ok .success, after) := run_bind_ok hcreate
    rw [hrun]
    exact ⟨rfl, fun _ => rfl⟩

theorem seesToForwarder_createResources :
    SeesToForwarder env createResources cluster := by
  refine seesToForwarder_bind (uses_checkLoggingSubscriptionForLabel
    allowsPrelude_preludeCall) fun managed checked => ?_
  split
  · refine seesToForwarder_bind (uses_createClusterLoggingCr
      allowsPrelude_preludeCall (allowsObject_preludeCall (by decide) _))
        fun _ logging => ?_
    exact seesToForwarder_createClusterLogForwarderCr
  · exact seesToForwarder_of_uses trivial

theorem seesToForwarder_installLogging :
    SeesToForwarder env (installLogging cr) cluster := by
  refine seesToForwarder_bind ((Client.uses_list _ _ _).mpr
    (allowsPrelude_preludeCall.list _ (by decide) _)) fun reply listed =>
      seesToForwarder_bind (Client.uses_orFail _ _) fun deployments found => ?_
  split
  · exact seesToForwarder_createResources
  · refine seesToForwarder_bind (uses_upserted allowsPrelude_preludeCall
      (allowsObject_preludeCall (by decide) _)) fun _ _ =>
        seesToForwarder_bind (uses_waitForLoggingOperator
          allowsPrelude_preludeCall) fun status _ => ?_
    split
    · exact seesToForwarder_createResources
    · exact seesToForwarder_of_uses trivial

theorem seesToForwarder_reconcile :
    SeesToForwarder env (reconcile cr) cluster := by
  unfold reconcile
  split
  · exact seesToForwarder_of_uses trivial
  · refine seesToForwarder_bind (uses_selfContainedMode
      allowsPrelude_preludeCall) fun mode checked => ?_
    split
    · exact seesToForwarder_of_uses trivial
    · refine seesToForwarder_bind (uses_derefSpec _ _) fun selfContained _ => ?_
      split
      · exact seesToForwarder_of_uses trivial
      · refine seesToForwarder_bind ((Client.uses_get _ _ _).mpr
          (allowsPrelude_preludeCall.get _ _)) fun reply read => ?_
        split
        · exact seesToForwarder_installLogging
        · exact seesToForwarder_of_uses trivial
        · exact seesToForwarder_of_uses (Client.uses_orFail _ _)

end Decomposition

/-! ## Seeing to the forwarder -/

section Forwarder

variable {env : Surroundings} {cluster : Cluster}

def writeForwarder (cluster : Cluster) : Go Unit :=
  (upsert Kind.clusterLogForwarder getClusterLogForwarderCR
    newClusterLogForwarderCR (forwarding ((cluster.select .nameSpace
      { labels := fleetshardLabels }).map fun item => item.1.name))).bind
    fun _ => .done ()

inductive ForwarderOutcome (env : Surroundings)
    (cluster : Cluster) : Except (Abort ApiError) Unit × Cluster → Prop
  | failed {looked : Cluster} {error : Abort ApiError}
      (hlooked : looked.objects = cluster.objects) :
      ForwarderOutcome env cluster (.error error, looked)
  | left {looked : Cluster} (hlooked : looked.objects = cluster.objects)
      (hfound : cluster.select .clusterLogForwarder inLoggingNamespace ≠ [])
      (hunlabelled : cluster.select .clusterLogForwarder
        managedInLoggingNamespace = []) :
      ForwarderOutcome env cluster (.ok (), looked)
  | written {looked : Cluster} (hlooked : looked.objects = cluster.objects)
      (hwrites : cluster.select .clusterLogForwarder inLoggingNamespace = [] ∨
        cluster.select .clusterLogForwarder managedInLoggingNamespace ≠ []) :
      ForwarderOutcome env cluster (env.run (writeForwarder cluster) looked)

theorem forwarderOutcome (env : Surroundings) (cluster : Cluster) :
    ForwarderOutcome env cluster
      (env.run createClusterLogForwarderCr cluster) := by
  refine run_listed (ForwarderOutcome env cluster) (fun _ => .failed rfl) ?_
  refine run_listed (ForwarderOutcome env cluster) (fun _ => .failed rfl) ?_
  split
  next hwrites =>
    refine run_listed (ForwarderOutcome env cluster) (fun _ => .failed rfl) ?_
    exact .written rfl hwrites
  next hleaves =>
    rw [not_or, not_not] at hleaves
    exact .left rfl hleaves.1 hleaves.2

theorem objects_of_unlabelled
    (hfound : cluster.select .clusterLogForwarder inLoggingNamespace ≠ [])
    (hunlabelled : cluster.select .clusterLogForwarder
      managedInLoggingNamespace = []) :
    (env.run createClusterLogForwarderCr cluster).2.objects =
      cluster.objects := by
  have houtcome := forwarderOutcome env cluster
  generalize env.run createClusterLogForwarderCr cluster = run at *
  cases houtcome with
  | failed hlooked => exact hlooked
  | left hlooked => exact hlooked
  | written _ hwrites =>
    rcases hwrites with hnone | hlabelled
    · exact absurd hnone hfound
    · exact absurd hunlabelled hlabelled

/-- Where there is no log forwarder, none is left or the one for the
namespaces of the cluster.  It is there if no call has failed. -/
theorem find_of_absent
    (habsent : cluster.select .clusterLogForwarder inLoggingNamespace = [])
    (hnone : cluster.find .clusterLogForwarder getClusterLogForwarderCR =
      none) :
    ((env.run createClusterLogForwarderCr cluster).2.find
        .clusterLogForwarder getClusterLogForwarderCR = none ∨
      (env.run createClusterLogForwarderCr cluster).2.find
        .clusterLogForwarder getClusterLogForwarderCR =
          some (writtenForwarder (labelledNamespaces cluster))) ∧
    ((env.run createClusterLogForwarderCr cluster).1 = .ok () →
      (env.run createClusterLogForwarderCr cluster).2.find
        .clusterLogForwarder getClusterLogForwarderCR =
          some (writtenForwarder (labelledNamespaces cluster))) := by
  have houtcome := forwarderOutcome env cluster
  generalize env.run createClusterLogForwarderCr cluster = run at *
  cases houtcome with
  | failed hlooked =>
    exact ⟨.inl ((World.find_congr hlooked _ _).trans hnone), nofun⟩
  | left _ hfound => exact absurd habsent hfound
  | @written looked hlooked _ =>
    have hlookedNone := (World.find_congr hlooked .clusterLogForwarder
      getClusterLogForwarderCR).trans hnone
    have hensures : (writeForwarder cluster).Ensures
        (serve env.environment) _ looked
        (fun _ state => state.find .clusterLogForwarder
          getClusterLogForwarderCR = none ∨ state.find .clusterLogForwarder
            getClusterLogForwarderCR = some (writtenForwarder
              (labelledNamespaces cluster))) _ :=
      (upsert_ensures_absent hlookedNone).bind fun _ _ hlast => hlast
    constructor
    · exact hensures.run_snd
    · intro hok
      have hfind := (run_upsert_discarded_eq_ok
        (Prod.ext hok rfl : env.run (writeForwarder cluster)
          looked = (.ok (), _))).1
      rw [hfind, hlookedNone]
      rfl

theorem find_other_forwarder {key : ObjectKey}
    (hkey : key ≠ getClusterLogForwarderCR) :
    (env.run createClusterLogForwarderCr cluster).2.find
      .clusterLogForwarder key = cluster.find .clusterLogForwarder key := by
  have huses : createClusterLogForwarderCr.Uses (ApiCall.WritesOnly
      fun kind key => kind = .clusterLogForwarder ∧
        key = getClusterLogForwarderCR) :=
    uses_createClusterLogForwarderCr (allowsReads_writesOnly _).toAllowsLooking
      (allowsObject_writesOnly ⟨rfl, rfl⟩)
  exact Surroundings.find_of_writesOnly rfl huses
    fun hpermitted => hkey hpermitted.2

end Forwarder

/-! ## Histories -/

/-- The namespace of cluster logging holds no forwarder but the one that was
written for these namespaces, if any was. -/
structure OwnForwarder (written : Option (List String))
    (cluster : Cluster) : Prop where
  own : cluster.find .clusterLogForwarder getClusterLogForwarderCR =
    written.map writtenForwarder
  others : ∀ key, key.ns = loggingNamespace →
    key ≠ getClusterLogForwarderCR →
      cluster.find .clusterLogForwarder key = none

section History

variable {cluster after : Cluster} {names : List String}
  {written : Option (List String)}

theorem OwnForwarder.select_eq_nil (hown : OwnForwarder none cluster) :
    cluster.select .clusterLogForwarder inLoggingNamespace = [] := by
  refine List.eq_nil_iff_forall_not_mem.mpr fun item hitem => ?_
  obtain ⟨hfind, hselects⟩ := (cluster.mem_select_iff _ _ _ _).mp hitem
  have hns : item.1.ns = loggingNamespace := by
    simpa [ListOptions.selects, inLoggingNamespace] using hselects
  by_cases hkey : item.1 = getClusterLogForwarderCR
  · rw [hkey, hown.own] at hfind
    cases hfind
  · rw [hown.others _ hns hkey] at hfind
    cases hfind

theorem OwnForwarder.select_ne_nil (hown : OwnForwarder (some names) cluster) :
    cluster.select .clusterLogForwarder inLoggingNamespace ≠ [] := by
  have hlisted := (cluster.mem_select_iff .clusterLogForwarder
    inLoggingNamespace getClusterLogForwarderCR _).mpr ⟨hown.own, rfl⟩
  exact List.ne_nil_of_mem hlisted

theorem OwnForwarder.select_labelled (hown : OwnForwarder written cluster) :
    cluster.select .clusterLogForwarder managedInLoggingNamespace = [] := by
  refine List.eq_nil_iff_forall_not_mem.mpr fun item hitem => ?_
  obtain ⟨hfind, hselects⟩ := (cluster.mem_select_iff _ _ _ _).mp hitem
  obtain ⟨hns, hlabels⟩ := (Bool.and_eq_true _ _).mp hselects
  by_cases hkey : item.1 = getClusterLogForwarderCR
  · rw [hkey, hown.own] at hfind
    obtain ⟨names, -, hwritten⟩ := Option.map_eq_some_iff.mp hfind
    rw [← hwritten] at hlabels
    cases hlabels
  · rw [hown.others _ (beq_iff_eq.mp hns) hkey] at hfind
    cases hfind

def writtenAfter (written : Option (List String)) (cluster after : Cluster) :
    Option (List String) :=
  if (after.find .clusterLogForwarder getClusterLogForwarderCR).isSome then
    some (written.getD (labelledNamespaces cluster))
  else none

structure ForwarderStep (written : Option (List String))
    (cluster after : Cluster) : Prop where
  own : after.find .clusterLogForwarder getClusterLogForwarderCR = none ∨
    after.find .clusterLogForwarder getClusterLogForwarderCR =
      some (writtenForwarder (written.getD (labelledNamespaces cluster)))
  others : ∀ key ≠ getClusterLogForwarderCR,
    after.find .clusterLogForwarder key = cluster.find .clusterLogForwarder key

theorem ownForwarder_of_step (hown : OwnForwarder written cluster)
    (hstep : ForwarderStep written cluster after) :
    OwnForwarder (writtenAfter written cluster after) after where
  own := by
    rw [writtenAfter]
    rcases hstep.own with hnone | hsome
    · rw [hnone]
      rfl
    · rw [hsome]
      rfl
  others key hns hkey := (hstep.others key hkey).trans
    (hown.others key hns hkey)

theorem forwarderStep_of_find_eq (hown : OwnForwarder written cluster)
    (hsame : ∀ key, after.find .clusterLogForwarder key =
      cluster.find .clusterLogForwarder key) :
    ForwarderStep written cluster after where
  own := by
    rw [hsame, hown.own]
    cases written with
    | none => exact .inl rfl
    | some names => exact .inr rfl
  others key _ := hsame key

theorem OwnForwarder.congr {other : Cluster}
    (hown : OwnForwarder written cluster)
    (hsame : ∀ key, key.ns = loggingNamespace →
      other.find .clusterLogForwarder key =
        cluster.find .clusterLogForwarder key) :
    OwnForwarder written other where
  own := (hsame _ rfl).trans hown.own
  others key hns hkey := (hsame key hns).trans (hown.others key hns hkey)

variable {cr : Observability} {env : Surroundings}

theorem forwarderStep_createClusterLogForwarderCr
    (hown : OwnForwarder written cluster) :
    ForwarderStep written cluster
      (env.run createClusterLogForwarderCr cluster).2 := by
  cases written with
  | none => exact ⟨(find_of_absent hown.select_eq_nil hown.own).1,
      fun _ hkey => find_other_forwarder hkey⟩
  | some names => exact forwarderStep_of_find_eq hown fun key =>
    World.find_congr (objects_of_unlabelled hown.select_ne_nil
      hown.select_labelled) _ key

theorem find_of_created (hown : OwnForwarder written cluster)
    (hok : (env.run createClusterLogForwarderCr cluster).1 = .ok ()) :
    (env.run createClusterLogForwarderCr cluster).2.find
        .clusterLogForwarder getClusterLogForwarderCR =
      some (writtenForwarder (written.getD (labelledNamespaces cluster))) := by
  cases written with
  | none => exact (find_of_absent hown.select_eq_nil hown.own).2 hok
  | some names =>
    rw [World.find_congr (objects_of_unlabelled hown.select_ne_nil
      hown.select_labelled), hown.own]
    rfl

theorem find_forwarder_of_earlier {before : Cluster}
    (hbefore : ∀ kind ∉ earlierKinds,
      before.objects kind = cluster.objects kind) (key : ObjectKey) :
    before.find .clusterLogForwarder key =
      cluster.find .clusterLogForwarder key := by
  rw [World.find, World.find, hbefore _ (by decide)]

theorem labelledNamespaces_of_earlier {before : Cluster}
    (hbefore : ∀ kind ∉ earlierKinds,
      before.objects kind = cluster.objects kind) :
    labelledNamespaces before = labelledNamespaces cluster := by
  rw [labelledNamespaces, labelledNamespaces, World.select, World.select,
    hbefore _ (by decide)]

theorem forwarderStep_reconcile (hown : OwnForwarder written cluster) :
    ForwarderStep written cluster (env.run (reconcile cr) cluster).2 := by
  have hsees : SeesToForwarder env (reconcile cr) cluster :=
    seesToForwarder_reconcile
  rcases hsees with ⟨hkept, -⟩ | ⟨before, hbefore, hafter, -⟩
  · exact forwarderStep_of_find_eq hown (find_forwarder_of_earlier hkept)
  · have hstep : ForwarderStep written before
        (env.run createClusterLogForwarderCr before).2 :=
      forwarderStep_createClusterLogForwarderCr
        (hown.congr fun key _ => find_forwarder_of_earlier hbefore key)
    rw [hafter] at hstep
    constructor
    · rw [← labelledNamespaces_of_earlier hbefore]
      exact hstep.own
    · exact fun key hkey => (hstep.others key hkey).trans
        (find_forwarder_of_earlier hbefore key)

theorem forwarderStep_cleanup (hown : OwnForwarder written cluster) :
    ForwarderStep written cluster (env.run (cleanup cr) cluster).2 where
  own := by
    have huses : (cleanup cr).Uses fun call => ∀ object,
        call ≠ .create .clusterLogForwarder getClusterLogForwarderCR object ∧
          call ≠ .update .clusterLogForwarder getClusterLogForwarderCR object :=
      uses_cleanup (fun _ _ _ _ => ⟨nofun, nofun⟩)
        ⟨fun _ _ _ => ⟨nofun, nofun⟩, fun _ _ _ _ => ⟨nofun, nofun⟩⟩
    cases hafter : (env.run (cleanup cr) cluster).2.find
        .clusterLogForwarder getClusterLogForwarderCR with
    | none => exact .inl rfl
    | some found =>
      obtain ⟨names, rfl, hwritten⟩ := Option.map_eq_some_iff.mp
        (hown.own.symm.trans (huses.run_find_eq_some hafter))
      rw [← hwritten]
      exact .inr rfl
  others key hkey := by
    have huses : (cleanup cr).Uses fun call =>
        ¬ call.Writes .clusterLogForwarder key := by
      refine uses_cleanup (fun kind name hdeletes hwrites => ?_)
        ⟨fun _ _ => nofun, fun _ _ _ => nofun⟩
      obtain ⟨rfl, rfl⟩ := hwrites
      rcases hdeletes with hkind | ⟨hkind, -⟩ | ⟨hkind, -⟩ | ⟨-, hname⟩
      · cases hkind
      · cases hkind
      · cases hkind
      · exact hkey hname
    exact Surroundings.find_of_run rfl huses

/-- The history of a forwarder, with the namespaces it was written for.  There
is none at first, and between the passes others may do all but write log
forwarders in the namespace of cluster logging. -/
inductive ForwarderHistory : Option (List String) → Cluster → Prop
  | start {cluster : Cluster}
      (habsent : ∀ key, key.ns = loggingNamespace →
        cluster.find .clusterLogForwarder key = none) :
      ForwarderHistory none cluster
  | others {written : Option (List String)} {cluster next : Cluster}
      (hhistory : ForwarderHistory written cluster)
      (hforwarders : ∀ key, key.ns = loggingNamespace →
        next.find .clusterLogForwarder key =
          cluster.find .clusterLogForwarder key) :
      ForwarderHistory written next
  | pass {written : Option (List String)} {cluster : Cluster}
      (hhistory : ForwarderHistory written cluster) (pass : LoggingPass)
      (env : Surroundings) :
      ForwarderHistory (writtenAfter written cluster
        (env.run pass.program cluster).2)
        (env.run pass.program cluster).2

theorem ownForwarder_of_history (hhistory : ForwarderHistory written cluster) :
    OwnForwarder written cluster := by
  induction hhistory with
  | start habsent => exact ⟨habsent _ rfl, fun key hns _ => habsent key hns⟩
  | others _ hforwarders ih => exact ih.congr hforwarders
  | pass _ pass env ih =>
    refine ownForwarder_of_step ih ?_
    cases pass with
    | reconcile cr => exact forwarderStep_reconcile ih
    | cleanup cr => exact forwarderStep_cleanup ih

/-- A pass that sees to the forwarder and succeeds leaves it with the
namespaces of the cluster exactly if it was not there, or was created when
the namespaces were the same. -/
theorem tracksNamespaces_iff_of_history
    (hhistory : ForwarderHistory written cluster)
    (hrun : env.run (reconcile cr) cluster = (.ok .success, after))
    (hreached : (reconcile cr).Issues (serve env.environment)
      cluster (.list .clusterLogForwarder inLoggingNamespace)) :
    TracksNamespaces (labelledNamespaces cluster) after ↔
      ∀ names, written = some names → names = labelledNamespaces cluster := by
  have hown := ownForwarder_of_history hhistory
  have hsees : SeesToForwarder env (reconcile cr) cluster :=
    seesToForwarder_reconcile
  rw [SeesToForwarder, hrun] at hsees
  rcases hsees with ⟨-, hnone⟩ | ⟨before, hbefore, hafter, hok⟩
  · exact absurd hreached hnone
  · have hwritten := find_of_created (hown.congr fun key _ =>
      find_forwarder_of_earlier hbefore key) (hok rfl)
    rw [hafter, labelledNamespaces_of_earlier hbefore] at hwritten
    rw [tracksNamespaces_iff_of_written hwritten]
    cases written with
    | none => exact ⟨fun _ _ hnone => absurd hnone nofun, fun _ => rfl⟩
    | some names =>
      constructor
      · rintro hsame _ ⟨⟩
        exact hsame
      · exact fun hsame => hsame names rfl

end History

/-! ## A namespace that comes later -/

def fleetshardNamespace : Resource Unit :=
  { labels := fleetshardLabels, spec := () }

def servedCluster : Cluster :=
  (((Cluster.empty.put .nameSpace ⟨"", loggingNamespace⟩
    Kind.nameSpace.blank).put .subscription (getLoggingSubscription loggingCr)
      (subscribed newLoggingSubscription)).put .deployment
      ⟨loggingNamespace, "cluster-logging-operator"⟩
      Kind.deployment.blank).put .nameSpace ⟨"", "kafka-a"⟩
      fleetshardNamespace

def grownCluster : Cluster :=
  (Surroundings.quiet.run (reconcile loggingCr) servedCluster).2.put
    .nameSpace ⟨"", "kafka-b"⟩ fleetshardNamespace

theorem grownCluster_not_tracked :
    ∃ written after, ForwarderHistory written grownCluster ∧
      Surroundings.quiet.run (reconcile loggingCr) grownCluster =
        (.ok .success, after) ∧
      (reconcile loggingCr).Issues
        (serve Surroundings.quiet.environment) grownCluster
        (.list .clusterLogForwarder inLoggingNamespace) ∧
      ¬ TracksNamespaces (labelledNamespaces grownCluster) after := by
  have hstart : ForwarderHistory none servedCluster := .start fun _ _ => rfl
  have hhistory : ForwarderHistory _ grownCluster :=
    .others (hstart.pass (.reconcile loggingCr) .quiet) fun _ _ => rfl
  obtain ⟨after, hrun, hwritten⟩ : ∃ after,
      Surroundings.quiet.run (reconcile loggingCr) grownCluster =
        (.ok .success, after) ∧
      after.find .clusterLogForwarder getClusterLogForwarderCR =
        some (writtenForwarder (labelledNamespaces servedCluster)) :=
    ⟨_, rfl, rfl⟩
  have hreached : (reconcile loggingCr).Issues
      (serve Surroundings.quiet.environment) grownCluster
      (.list .clusterLogForwarder inLoggingNamespace) :=
    ⟨_, List.mem_of_getElem? (i := 7) rfl, rfl⟩
  refine ⟨_, after, hhistory, hrun, hreached, fun htracks => ?_⟩
  have hlength := congrArg List.length
    ((tracksNamespaces_iff_of_written hwritten).mp htracks)
  simp only [labelledNamespaces, List.length_mergeSort,
    List.length_map] at hlength
  exact absurd hlength (by decide)

theorem servedCluster_tracked :
    ∃ after, Surroundings.quiet.run (reconcile loggingCr) servedCluster =
        (.ok .success, after) ∧
      TracksNamespaces (labelledNamespaces servedCluster) after := by
  have hstart : ForwarderHistory none servedCluster := .start fun _ _ => rfl
  refine ⟨_, rfl, ?_⟩
  have hreached : (reconcile loggingCr).Issues
      (serve Surroundings.quiet.environment) servedCluster
      (.list .clusterLogForwarder inLoggingNamespace) :=
    ⟨_, List.mem_of_getElem? (i := 8) rfl, rfl⟩
  exact (tracksNamespaces_iff_of_history hstart rfl hreached).mpr nofun

end LoggingInstallation

end ObservabilityOperator
