import ObservabilityOperator.LoggingInstallation

/-!
# Cluster logging that belongs to somebody else

The logging stage writes and deletes objects under fixed names, which may be in
use already.  While it installs, the stage leaves a subscription of others
alone if the operator of cluster logging is running, and a log forwarder of
others if none carries the label.  While it cleans up, the label of the
subscription decides about all of the objects.
-/

namespace ObservabilityOperator

open Program

structure AllowsPrelude (allowed : ApiCall Kind.Spec Action → Prop) :
    Prop where
  get : ∀ kind key, allowed (.get kind key)
  list : ∀ kind ≠ .clusterLogForwarder, ∀ options,
    allowed (.list kind options)

theorem AllowsLooking.prelude {allowed : ApiCall Kind.Spec Action → Prop}
    (hallowed : AllowsLooking allowed) : AllowsPrelude allowed :=
  ⟨hallowed.get, fun kind _ => hallowed.list kind⟩

namespace LoggingInstallation

/-! ## What a pass can write -/

def LoggingWrites (cr : Observability) (kind : Kind) (key : ObjectKey) :
    Prop :=
  kind = .subscription ∧ key = getLoggingSubscription cr ∨
    kind = .clusterLogging ∧ key = getClusterLoggingCR ∨
    kind = .clusterLogForwarder ∧ key = getClusterLogForwarderCR

section Footprints

variable {cr : Observability} {allowed : ApiCall Kind.Spec Action → Prop}
  {kind : Kind}

structure AllowsObject (kind : Kind) (key : ObjectKey)
    (allowed : ApiCall Kind.Spec Action → Prop) : Prop where
  create : ∀ object, allowed (.create kind key object)
  update : ∀ object, allowed (.update kind key object)

theorem allowsObject_writesOnly {permitted : Kind → ObjectKey → Prop}
    {key : ObjectKey} (hkey : permitted kind key) :
    AllowsObject kind key (ApiCall.WritesOnly permitted) where
  create _ := (ApiCall.writesOnly_create _ _ _).mpr hkey
  update _ := (ApiCall.writesOnly_update _ _ _).mpr hkey

theorem allowsObject_of_allowsKinds {kinds : List Kind}
    (hallowed : AllowsKinds kinds allowed) (hkind : kind ∈ kinds)
    (key : ObjectKey) : AllowsObject kind key allowed :=
  ⟨hallowed.create kind hkind key, hallowed.update kind hkind key⟩

theorem uses_listed {options : ListOptions}
    (hlist : allowed (.list kind options)) {α : Type}
    {next : List (ObjectKey × Resource kind.Spec) → Go α}
    (hnext : ∀ list, (next list).Uses allowed) :
    ((Client.list kind options).bind fun reply =>
      (Client.orFail reply).bind next).Uses allowed :=
  .bind ((Client.uses_list _ _ _).mpr hlist) fun _ =>
  .bind (Client.uses_orFail _ _) hnext

section Prelude

variable (hreads : AllowsPrelude allowed)
include hreads

theorem uses_upserted {key : ObjectKey} {blank : Resource kind.Spec}
    {change : Resource kind.Spec →
      Resource kind.Spec} (hobject : AllowsObject kind key allowed) :
    ((upsert kind key blank change).bind fun _ => .done () :
      Go Unit).Uses allowed :=
  .bind (upsert_uses (hreads.get _ _) (fun _ => hobject.create _)
    fun _ => hobject.update _) fun _ => trivial

theorem uses_checkLoggingSubscriptionForLabel :
    checkLoggingSubscriptionForLabel.Uses allowed :=
  uses_listed (hreads.list _ (by decide) _) fun _ => trivial

theorem uses_getInstalledLoggingCSVName :
    getInstalledLoggingCSVName.Uses allowed := by
  refine uses_listed (hreads.list _ (by decide) _) fun list => ?_
  split <;> trivial

theorem uses_waitForLoggingOperator : waitForLoggingOperator.Uses allowed :=
  uses_listed (hreads.list _ (by decide) _) fun _ => trivial

theorem uses_selfContainedMode : (selfContainedMode cr).Uses allowed := by
  refine .bind ((Client.uses_get _ _ _).mpr (hreads.get _ _)) fun reply => ?_
  split
  · trivial
  · trivial
  · exact Client.uses_orFail _ _

theorem uses_createClusterLoggingCr
    (hobject : AllowsObject .clusterLogging getClusterLoggingCR allowed) :
    createClusterLoggingCr.Uses allowed := by
  refine uses_listed (hreads.list _ (by decide) _) fun list =>
    uses_listed (hreads.list _ (by decide) _) fun labelList => ?_
  split
  · exact uses_upserted hreads hobject
  · trivial

end Prelude

variable (hreads : AllowsLooking allowed)
include hreads

theorem uses_createClusterLogForwarderCr
    (hobject : AllowsObject .clusterLogForwarder getClusterLogForwarderCR
      allowed) : createClusterLogForwarderCr.Uses allowed := by
  refine uses_listed (hreads.list _ _) fun list =>
    uses_listed (hreads.list _ _) fun labelList => ?_
  split
  · exact uses_listed (hreads.list _ _) fun _ =>
      uses_upserted hreads.prelude hobject
  · trivial

theorem uses_createResources
    (hlogging : AllowsObject .clusterLogging getClusterLoggingCR allowed)
    (hforwarder : AllowsObject .clusterLogForwarder getClusterLogForwarderCR
      allowed) : createResources.Uses allowed := by
  refine .bind (uses_checkLoggingSubscriptionForLabel hreads.prelude)
    fun managed => ?_
  split
  · exact .bind (uses_createClusterLoggingCr hreads.prelude hlogging)
      fun _ => .bind (uses_createClusterLogForwarderCr hreads hforwarder)
        fun _ => trivial
  · trivial

theorem uses_installLogging
    (hsubscription : AllowsObject .subscription (getLoggingSubscription cr)
      allowed)
    (hlogging : AllowsObject .clusterLogging getClusterLoggingCR allowed)
    (hforwarder : AllowsObject .clusterLogForwarder getClusterLogForwarderCR
      allowed) : (installLogging cr).Uses allowed := by
  refine uses_listed (hreads.list _ _) fun deployments => ?_
  split
  · exact uses_createResources hreads hlogging hforwarder
  · refine .bind (uses_upserted hreads.prelude hsubscription) fun _ =>
      .bind (uses_waitForLoggingOperator hreads.prelude) fun status => ?_
    split
    · exact uses_createResources hreads hlogging hforwarder
    · trivial

end Footprints

def CleanupDeletes (cr : Observability) (kind : Kind) (key : ObjectKey) :
    Prop :=
  kind = .clusterServiceVersion ∨ LoggingWrites cr kind key

section Deletions

variable {cr : Observability} {allowed : ApiCall Kind.Spec Action → Prop}
  (hdelete : ∀ kind key, CleanupDeletes cr kind key →
    allowed (.delete kind key))
include hdelete

theorem uses_deleteLogging (installedCsv : String) :
    (deleteLogging cr installedCsv).Uses allowed := by
  have hdeletes {kind : Kind} {key : ObjectKey}
      (hkey : CleanupDeletes cr kind key) :
      (Client.deleteIfFound kind key : Go Unit).Uses allowed :=
    Client.uses_deleteIfFound _ _ _ (hdelete _ _ hkey)
  exact .bind (hdeletes (.inr (.inl ⟨rfl, rfl⟩))) fun _ =>
    .bind (hdeletes (.inl rfl)) fun _ =>
    .bind (hdeletes (.inr (.inr (.inl ⟨rfl, rfl⟩)))) fun _ =>
      hdeletes (.inr (.inr (.inr ⟨rfl, rfl⟩)))

theorem uses_cleanup (hreads : AllowsPrelude allowed) :
    (cleanup cr).Uses allowed := by
  unfold cleanup
  split
  · trivial
  · refine .bind (uses_checkLoggingSubscriptionForLabel hreads)
      fun managed => ?_
    split
    · refine .bind (uses_getInstalledLoggingCSVName hreads)
        fun installedCsv => ?_
      split
      · trivial
      · exact .bind (uses_deleteLogging hdelete installedCsv) fun _ => trivial
    · trivial

end Deletions

/-! ## The calls of a pass -/

section Calls

variable {cr : Observability} {env : Surroundings}
  {cluster : Cluster}
  {event : Event (ApiCall.Reply Kind.Spec Action.Reply) Cluster} {α : Type}
  {program : Go α}

theorem mem_events_reconcile
    (hevent : event ∈ env.events (reconcile cr) cluster) :
    (∀ kind key, event.after.find kind key = cluster.find kind key) ∨
      cr.descopedModeEnabled = false ∧ ∃ before : Cluster,
        before.objects = cluster.objects ∧
          event ∈ env.events (installLogging cr) before := by
  unfold reconcile at hevent
  split at hevent
  next => cases hevent
  next hscoped =>
    have hmode : WritesKinds [] (selfContainedMode cr) :=
      fun _ hallowed => uses_selfContainedMode hallowed.toAllowsReads.prelude
    rcases hmode.mem_events_bind hevent with hkept | hevent
    · exact .inl fun kind => hkept kind List.not_mem_nil
    obtain ⟨mode, checked, -, hchecked, hevent⟩ := hevent
    split at hevent
    next => cases hevent
    next =>
      cases hblock : cr.spec.selfContained with
      | none =>
        rw [hblock] at hevent
        cases hevent
      | some selfContained =>
        rw [hblock] at hevent
        change event ∈ env.events (ite _ _ _) checked at hevent
        split at hevent
        next => cases hevent
        next =>
          have hget : WritesKinds [] (Client.get Kind.nameSpace
              ⟨"", loggingNamespace⟩ : Go _) := writesKinds_get _ _
          rcases hget.mem_events_bind hevent with hkept | hevent
          · refine .inl fun kind key => ?_
            rw [hkept kind List.not_mem_nil, World.find, World.find,
              hchecked kind List.not_mem_nil]
          obtain ⟨reply, read, -, hread, hevent⟩ := hevent
          split at hevent
          next =>
            refine .inr ⟨Bool.eq_false_of_not_eq_true hscoped, read, ?_,
              hevent⟩
            funext kind
            rw [hread kind List.not_mem_nil, hchecked kind List.not_mem_nil]
          next => cases hevent
          next => cases hevent

theorem subscription_of_mem_events_installLogging
    (hoperator : (cluster.select .deployment inLoggingNamespace).any
      isLoggingOperator = true)
    (hevent : event ∈ env.events (installLogging cr) cluster)
    (key : ObjectKey) :
    event.after.find .subscription key = cluster.find .subscription key := by
  rcases mem_events_listed hevent with hkept | hevent
  · exact hkept .subscription key
  · rw [if_pos hoperator] at hevent
    have hresources : WritesKinds [.clusterLogging, .clusterLogForwarder]
        createResources := fun _ hallowed =>
      uses_createResources hallowed.toAllowsLooking
        (allowsObject_of_allowsKinds hallowed (by decide) _)
        (allowsObject_of_allowsKinds hallowed (by decide) _)
    exact hresources.find_of_mem_events hevent (by decide) key

def earlierKinds : List Kind := [.subscription, .clusterLogging]

def BeforeOrAtForwarder (env : Surroundings) (cluster : Cluster)
    (event : Event (ApiCall.Reply Kind.Spec Action.Reply) Cluster) : Prop :=
  (∀ kind ∉ earlierKinds, ∀ key,
    event.after.find kind key = cluster.find kind key) ∨
  ∃ before : Cluster,
    (∀ kind ∉ earlierKinds, before.objects kind = cluster.objects kind) ∧
      event ∈ env.events createClusterLogForwarderCr before

theorem BeforeOrAtForwarder.of_bind {β : Type} {next : α → Go β}
    (hprogram : WritesKinds earlierKinds program)
    (hevent : event ∈ env.events (program.bind next) cluster)
    (hnext : ∀ value after,
      event ∈ env.events (next value) after →
        BeforeOrAtForwarder env after event) :
    BeforeOrAtForwarder env cluster event := by
  rcases hprogram.mem_events_bind hevent with hkept | hrest
  · exact .inl hkept
  · obtain ⟨value, after, -, hafter, hevent⟩ := hrest
    rcases hnext value after hevent with hkept | ⟨before, hbefore, hevent⟩
    · refine .inl fun kind hkind key => ?_
      rw [hkept kind hkind, World.find, World.find, hafter kind hkind]
    · exact .inr ⟨before, fun kind hkind =>
        (hbefore kind hkind).trans (hafter kind hkind), hevent⟩

theorem beforeOrAtForwarder_createResources
    (hevent : event ∈ env.events createResources cluster) :
    BeforeOrAtForwarder env cluster event := by
  refine .of_bind (fun _ hallowed => uses_checkLoggingSubscriptionForLabel
    hallowed.toAllowsReads.prelude) hevent fun managed checked hevent => ?_
  split at hevent
  · refine .of_bind (fun _ hallowed => uses_createClusterLoggingCr
      hallowed.toAllowsReads.prelude (allowsObject_of_allowsKinds hallowed
        (by decide) _)) hevent fun _ logging hevent => ?_
    rcases mem_events_bind hevent with hfirst | hrest
    · exact .inr ⟨logging, fun _ _ => rfl, hfirst⟩
    · obtain ⟨_, _, -, hnone⟩ := hrest
      cases hnone
  · cases hevent

theorem beforeOrAtForwarder_installLogging
    (hevent : event ∈ env.events (installLogging cr) cluster) :
    BeforeOrAtForwarder env cluster event := by
  rcases mem_events_listed hevent with hkept | hevent
  · exact .inl fun kind _ => hkept kind
  · have hadvance (hadvanced : BeforeOrAtForwarder env
        cluster.advance event) :
        BeforeOrAtForwarder env cluster event := hadvanced
    apply hadvance
    split at hevent
    · exact beforeOrAtForwarder_createResources hevent
    · refine .of_bind (fun _ hallowed => uses_upserted
        hallowed.toAllowsReads.prelude (allowsObject_of_allowsKinds hallowed
          (by decide) _)) hevent fun _ subscribed hevent => ?_
      refine .of_bind (fun _ hallowed => uses_waitForLoggingOperator
        hallowed.toAllowsReads.prelude) hevent fun status waited hevent => ?_
      split at hevent
      · exact beforeOrAtForwarder_createResources hevent
      · cases hevent

theorem forwarder_of_mem_events
    (hfound : (cluster.find .clusterLogForwarder
      getClusterLogForwarderCR).isSome)
    (hunlabelled : cluster.select .clusterLogForwarder
      managedInLoggingNamespace = [])
    (hevent : event ∈ env.events createClusterLogForwarderCr
      cluster) (key : ObjectKey) :
    event.after.find .clusterLogForwarder key =
      cluster.find .clusterLogForwarder key := by
  rcases mem_events_listed hevent with hkept | hevent
  · exact hkept _ key
  rcases mem_events_listed hevent with hkept | hevent
  · exact hkept _ key
  · obtain ⟨forwarder, hforwarder⟩ := Option.isSome_iff_exists.mp hfound
    have hlisted := (cluster.mem_select_iff .clusterLogForwarder
      inLoggingNamespace getClusterLogForwarderCR forwarder).mpr
        ⟨hforwarder, rfl⟩
    rw [if_neg] at hevent
    · cases hevent
    · rintro (hnone | hsome)
      · rw [hnone] at hlisted
        cases hlisted
      · exact hsome hunlabelled

def KeepsClusterLogging {α : Type} (env : Surroundings)
    (program : Go α) : Prop :=
  ∀ object, program.Maintains (serve env.environment)
    fun state => state.find .clusterLogging getClusterLoggingCR = some object

theorem KeepsClusterLogging.bind {β : Type} {next : α → Go β}
    (hprogram : KeepsClusterLogging env program)
    (hnext : ∀ value, KeepsClusterLogging env (next value)) :
    KeepsClusterLogging env (program.bind next) :=
  fun object => .bind (hprogram object) fun value => hnext value object

theorem keepsClusterLogging_of_writesKinds
    (hprogram : WritesKinds [.subscription, .clusterLogForwarder] program) :
    KeepsClusterLogging env program :=
  fun _ => hprogram.maintains_find (by decide)

theorem keepsClusterLogging_createClusterLoggingCr :
    KeepsClusterLogging env createClusterLoggingCr := by
  have hlisted (options : ListOptions)
      {next : List (ObjectKey × Resource ClusterLoggingSpec) → Go Unit}
      (hnext : ∀ list, KeepsClusterLogging env (next list)) :
      KeepsClusterLogging env
        ((Client.list Kind.clusterLogging options).bind fun reply =>
          (Client.orFail reply).bind next) :=
    .bind (keepsClusterLogging_of_writesKinds (writesKinds_list _ _))
      fun _ => .bind (keepsClusterLogging_of_writesKinds
        (writesKinds_orFail _)) hnext
  refine hlisted _ fun list => hlisted _ fun labelList => ?_
  split
  · exact .bind (fun _ => upsert_maintains_found rfl) fun _ =>
      keepsClusterLogging_of_writesKinds (writesKinds_done _)
  · exact keepsClusterLogging_of_writesKinds (writesKinds_done _)

theorem keepsClusterLogging_createResources :
    KeepsClusterLogging env createResources := by
  refine .bind (keepsClusterLogging_of_writesKinds fun _ hallowed =>
    uses_checkLoggingSubscriptionForLabel hallowed.toAllowsReads.prelude)
      fun managed => ?_
  split
  · exact .bind keepsClusterLogging_createClusterLoggingCr fun _ =>
      .bind (keepsClusterLogging_of_writesKinds fun _ hallowed =>
        uses_createClusterLogForwarderCr hallowed.toAllowsLooking
          (allowsObject_of_allowsKinds hallowed (by decide) _))
        fun _ => keepsClusterLogging_of_writesKinds (writesKinds_done _)
  · exact keepsClusterLogging_of_writesKinds (writesKinds_done _)

theorem keepsClusterLogging_installLogging :
    KeepsClusterLogging env (installLogging cr) := by
  refine .bind (keepsClusterLogging_of_writesKinds (writesKinds_list _ _))
    fun _ => .bind (keepsClusterLogging_of_writesKinds
      (writesKinds_orFail _)) fun deployments => ?_
  split
  · exact keepsClusterLogging_createResources
  · refine .bind (keepsClusterLogging_of_writesKinds fun _ hallowed =>
      uses_upserted hallowed.toAllowsReads.prelude
        (allowsObject_of_allowsKinds hallowed (by decide) _)) fun _ =>
      .bind (keepsClusterLogging_of_writesKinds fun _ hallowed =>
        uses_waitForLoggingOperator hallowed.toAllowsReads.prelude)
        fun status => ?_
    split
    · exact keepsClusterLogging_createResources
    · exact keepsClusterLogging_of_writesKinds (writesKinds_done _)

end Calls

/-! ## The passes and what they spare -/

inductive LoggingPass where
  | reconcile (cr : Observability)
  | cleanup (cr : Observability)

def LoggingPass.program : LoggingPass → Go ObservabilityStageStatus
  | .reconcile cr => LoggingInstallation.reconcile cr
  | .cleanup cr => LoggingInstallation.cleanup cr

/-- The cluster, and what the operator has created in it. -/
structure LoggingState where
  cluster : Cluster
  created : Kind → ObjectKey → Prop

/-- The object is there and was created by somebody else. -/
def LoggingState.Foreign (state : LoggingState) (kind : Kind)
    (key : ObjectKey) : Prop :=
  (state.cluster.find kind key).isSome ∧ ¬ state.created kind key

/-- The objects that make up cluster logging. -/
def IsLogging (kind : Kind) (key : ObjectKey) : Prop :=
  kind ∈ [.subscription, .clusterLogging, .clusterLogForwarder] ∧
    key.ns = loggingNamespace

def hasInstalled (cluster : Cluster) : Bool :=
  (cluster.select .subscription managedInLoggingNamespace).head?.any
    fun subscription => subscription.2.spec.installedCsv != ""

/-- What the pass would overwrite or delete is not foreign. -/
def LoggingPass.Spares (state : LoggingState) : LoggingPass → Prop
  | .reconcile cr =>
    cr.descopedModeEnabled = true ∨
      (state.Foreign .subscription (getLoggingSubscription cr) →
        (state.cluster.select .deployment inLoggingNamespace).any
          isLoggingOperator = true) ∧
      (state.Foreign .clusterLogForwarder getClusterLogForwarderCR →
        state.cluster.select .clusterLogForwarder
          managedInLoggingNamespace = [])
  | .cleanup cr =>
    cr.descopedModeEnabled = true ∨
      (hasInstalled state.cluster = true →
        ∀ kind key, LoggingWrites cr kind key → ¬ state.Foreign kind key)

section Passes

variable {cr : Observability} {env : Surroundings}
  {event : Event (ApiCall.Reply Kind.Spec Action.Reply) Cluster}
  {state : LoggingState} {kind : Kind} {key : ObjectKey} {cluster : Cluster}

theorem writesOnly_installLogging :
    (installLogging cr).Uses (ApiCall.WritesOnly (LoggingWrites cr)) :=
  uses_installLogging (allowsReads_writesOnly _).toAllowsLooking
    (allowsObject_writesOnly (.inl ⟨rfl, rfl⟩))
    (allowsObject_writesOnly (.inr (.inl ⟨rfl, rfl⟩)))
    (allowsObject_writesOnly (.inr (.inr ⟨rfl, rfl⟩)))

theorem find_of_mem_events_reconcile
    (hspares : (LoggingPass.reconcile cr).Spares state)
    (hforeign : state.Foreign kind key)
    (hevent : event ∈ env.events (reconcile cr) state.cluster) :
    event.after.find kind key = state.cluster.find kind key := by
  rcases mem_events_reconcile hevent with hkept | hinstall
  · exact hkept kind key
  obtain ⟨hscoped, before, hbefore, hinstall⟩ := hinstall
  have hsame (kind : Kind) (key : ObjectKey) :
      before.find kind key = state.cluster.find kind key :=
    World.find_congr hbefore kind key
  have hselect (kind : Kind) (options : ListOptions) :
      before.select kind options = state.cluster.select kind options := by
    unfold World.select
    rw [hbefore]
  rcases hspares with hdescoped | ⟨hsubscription, hforwarder⟩
  · rw [hscoped] at hdescoped
    cases hdescoped
  by_cases hwrites : LoggingWrites cr kind key
  · rcases hwrites with ⟨rfl, rfl⟩ | ⟨rfl, rfl⟩ | ⟨rfl, rfl⟩
    · rw [← hsame]
      refine subscription_of_mem_events_installLogging ?_ hinstall _
      rw [hselect]
      exact hsubscription hforeign
    · obtain ⟨object, hfound⟩ := Option.isSome_iff_exists.mp hforeign.1
      rw [hfound]
      exact (keepsClusterLogging_installLogging object).of_mem_events
        ((hsame _ _).trans hfound) hinstall
    · rw [← hsame]
      rcases beforeOrAtForwarder_installLogging hinstall with
        hkept | ⟨between, hbetween, hevent⟩
      · exact hkept _ (by decide) _
      · have hobjects := hbetween .clusterLogForwarder (by decide)
        have hfind (key : ObjectKey) :
            between.find .clusterLogForwarder key =
              before.find .clusterLogForwarder key := by
          rw [World.find, World.find, hobjects]
        rw [← hfind]
        refine forwarder_of_mem_events ?_ ?_ hevent _
        · rw [hfind, hsame]
          exact hforeign.1
        · rw [World.select, hobjects, ← World.select, hselect]
          exact hforwarder hforeign
  · rw [← hsame]
    exact Surroundings.find_of_mem_events hinstall writesOnly_installLogging
      hwrites

theorem writesOnly_deleteLogging (installedCsv : String) :
    (deleteLogging cr installedCsv).Uses (ApiCall.WritesOnly
      (CleanupDeletes cr)) :=
  uses_deleteLogging (fun _ _ hkey =>
    (ApiCall.writesOnly_delete _ _).mpr hkey) installedCsv

theorem run_checkLoggingSubscriptionForLabel {after : Cluster} {managed : Bool}
    (hrun : env.run checkLoggingSubscriptionForLabel cluster =
      (.ok managed, after)) :
    managed = decide ((cluster.select .subscription
        managedInLoggingNamespace).length > 0) ∧ after = cluster.advance := by
  obtain ⟨_, _, hreply, hrest⟩ := run_bind_eq_ok hrun
  obtain ⟨list, between, hlist, hdone⟩ := run_bind_eq_ok hrest
  obtain ⟨rfl, rfl⟩ := run_list_orFail_eq_ok ((run_bind_ok hreply).trans hlist)
  cases hdone
  exact ⟨rfl, rfl⟩

theorem run_getInstalledLoggingCSVName {after : Cluster} {installedCsv : String}
    (hrun : env.run getInstalledLoggingCSVName cluster =
      (.ok installedCsv, after)) :
    (∃ subscription, (cluster.select .subscription
        managedInLoggingNamespace).head? = some subscription ∧
      subscription.2.spec.installedCsv = installedCsv) ∧
      after = cluster.advance := by
  obtain ⟨_, _, hreply, hrest⟩ := run_bind_eq_ok hrun
  obtain ⟨list, between, hlist, hfirst⟩ := run_bind_eq_ok hrest
  obtain ⟨rfl, rfl⟩ := run_list_orFail_eq_ok ((run_bind_ok hreply).trans hlist)
  split at hfirst
  next => cases hfirst
  next subscription _ hselect =>
    cases hfirst
    rw [hselect]
    exact ⟨⟨_, rfl, rfl⟩, rfl⟩

theorem mem_events_cleanup (hevent : event ∈ env.events (cleanup cr) cluster) :
    (∀ kind key, event.after.find kind key = cluster.find kind key) ∨
      cr.descopedModeEnabled = false ∧ hasInstalled cluster = true ∧
        ∃ (before : Cluster) (installedCsv : String),
          before.objects = cluster.objects ∧
            event ∈ env.events (deleteLogging cr installedCsv) before := by
  unfold cleanup at hevent
  split at hevent
  next => cases hevent
  next hscoped =>
    have hcheck : WritesKinds [] checkLoggingSubscriptionForLabel :=
      fun _ hallowed =>
        uses_checkLoggingSubscriptionForLabel hallowed.toAllowsReads.prelude
    rcases hcheck.mem_events_bind hevent with hkept | hevent
    · exact .inl fun kind => hkept kind List.not_mem_nil
    obtain ⟨managed, checked, hrun, -, hevent⟩ := hevent
    obtain ⟨-, rfl⟩ := run_checkLoggingSubscriptionForLabel hrun
    split at hevent
    next =>
      have hname : WritesKinds [] getInstalledLoggingCSVName :=
        fun _ hallowed =>
          uses_getInstalledLoggingCSVName hallowed.toAllowsReads.prelude
      rcases hname.mem_events_bind hevent with hkept | hevent
      · exact .inl fun kind => hkept kind List.not_mem_nil
      obtain ⟨installedCsv, named, hrun, -, hevent⟩ := hevent
      obtain ⟨⟨subscription, hfirst, hversion⟩, rfl⟩ :=
        run_getInstalledLoggingCSVName hrun
      split at hevent
      next => cases hevent
      next hinstalled =>
        refine .inr ⟨Bool.eq_false_of_not_eq_true hscoped, ?_,
          cluster.advance.advance, installedCsv, ?_, ?_⟩
        · rw [hasInstalled, show cluster.select _ _ =
            cluster.advance.select _ _ from rfl, hfirst]
          simpa [hversion] using hinstalled
        · rfl
        · rcases mem_events_bind hevent with hdelete | hrest
          · exact hdelete
          · obtain ⟨_, _, -, hnone⟩ := hrest
            cases hnone
    next => cases hevent

theorem find_of_mem_events_cleanup
    (hspares : (LoggingPass.cleanup cr).Spares state)
    (hkind : kind ≠ .clusterServiceVersion) (hforeign : state.Foreign kind key)
    (hevent : event ∈ env.events (cleanup cr) state.cluster) :
    event.after.find kind key = state.cluster.find kind key := by
  rcases mem_events_cleanup hevent with hkept | hdeletes
  · exact hkept kind key
  obtain ⟨hscoped, hinstalled, before, installedCsv, hbefore, hdelete⟩ :=
    hdeletes
  rcases hspares with hdescoped | hspares
  · rw [hscoped] at hdescoped
    cases hdescoped
  rw [← World.find_congr hbefore]
  refine Surroundings.find_of_mem_events hdelete
    (writesOnly_deleteLogging installedCsv) ?_
  rintro (hversion | hwrites)
  · exact hkind hversion
  · exact hspares hinstalled kind key hwrites hforeign

end Passes

/-! ## Histories -/

structure Visit where
  state : LoggingState
  pass : LoggingPass
  surroundings : Surroundings

def Visit.events (visit : Visit) :
    List (Event (ApiCall.Reply Kind.Spec Action.Reply) Cluster) :=
  visit.surroundings.events visit.pass.program visit.state.cluster

def Visit.after (visit : Visit) : LoggingState where
  cluster := (visit.surroundings.run visit.pass.program visit.state.cluster).2
  created kind key :=
    ((visit.surroundings.run visit.pass.program
      visit.state.cluster).2.find kind key).isSome ∧
    (visit.state.created kind key ∨ visit.state.cluster.find kind key = none)

/-- The passes of the stage, from any cluster on.  Between them others do what
they like, and what they put in place is not the operator's. -/
inductive LoggingHistory : List Visit → LoggingState → Prop
  | start (state : LoggingState) : LoggingHistory [] state
  | others {visits : List Visit} {state next : LoggingState}
      (hhistory : LoggingHistory visits state)
      (hcreated : ∀ kind key, next.created kind key →
        state.created kind key) : LoggingHistory visits next
  | pass {visits : List Visit} {visit : Visit}
      (hhistory : LoggingHistory visits visit.state) :
      LoggingHistory (visits ++ [visit]) visit.after

/-- After every call of the pass, objects of cluster logging that belong to
others are as they were. -/
def Visit.LeavesForeign (visit : Visit) : Prop :=
  ∀ kind key, IsLogging kind key → visit.state.Foreign kind key →
    ∀ event ∈ visit.events,
      event.after.find kind key = visit.state.cluster.find kind key

theorem leavesForeign_of_spares {visit : Visit}
    (hspares : visit.pass.Spares visit.state) : visit.LeavesForeign := by
  obtain ⟨state, pass, env⟩ := visit
  intro kind key hlogging hforeign event hevent
  cases pass with
  | reconcile cr => exact find_of_mem_events_reconcile hspares hforeign hevent
  | cleanup cr =>
    refine find_of_mem_events_cleanup hspares ?_ hforeign hevent
    rintro rfl
    exact absurd hlogging.1 (by decide)

/-- A history of passes that each spare what belongs to others leaves it
alone throughout. -/
theorem leavesForeign_of_history {visits : List Visit} {state : LoggingState}
    (hhistory : LoggingHistory visits state)
    (hspares : ∀ visit ∈ visits, visit.pass.Spares visit.state) :
    ∀ visit ∈ visits, visit.LeavesForeign := by
  induction hhistory with
  | start state => exact fun _ hvisit => absurd hvisit List.not_mem_nil
  | others _ _ ih => exact ih hspares
  | pass _ ih =>
    intro visit hvisit
    rcases List.mem_append.mp hvisit with hearlier | hlast
    · exact ih (fun other hother => hspares other
        (List.mem_append_left _ hother)) visit hearlier
    · exact leavesForeign_of_spares (hspares visit hvisit)

def loggingCr : Observability :=
  { plainCr with spec := { selfContained := some {} } }

def othersCluster : Cluster :=
  (Cluster.empty.put .nameSpace ⟨"", loggingNamespace⟩
    Kind.nameSpace.blank).put .clusterLogging getClusterLoggingCR
      Kind.clusterLogging.blank

def firstVisit : Visit where
  state := ⟨othersCluster, fun _ _ => False⟩
  pass := .reconcile loggingCr
  surroundings := .quiet

def installedState : LoggingState :=
  { firstVisit.after with
    cluster := firstVisit.after.cluster.put .subscription
      (getLoggingSubscription loggingCr)
      (subscribed { newLoggingSubscription with
        spec := { installedCsv := "cluster-logging.v5" } }) }

def lastVisit : Visit where
  state := installedState
  pass := .cleanup loggingCr
  surroundings := .quiet

theorem firstVisit_leavesForeign : firstVisit.LeavesForeign := by
  have hspares : ∀ visit ∈ [firstVisit], visit.pass.Spares visit.state := by
    intro visit hvisit
    cases List.mem_singleton.mp hvisit
    exact .inr ⟨fun hforeign => absurd hforeign.1 (by decide),
      fun hforeign => absurd hforeign.1 (by decide)⟩
  exact leavesForeign_of_history (LoggingHistory.pass (.start _)) hspares
    firstVisit (List.mem_singleton.mpr rfl)

theorem lastVisit_not_leavesForeign :
    LoggingHistory [firstVisit, lastVisit] lastVisit.after ∧
      ¬ lastVisit.LeavesForeign := by
  have hfirst : LoggingHistory [firstVisit] firstVisit.after :=
    .pass (.start _)
  have hinstalled : LoggingHistory [firstVisit] lastVisit.state :=
    .others hfirst fun _ _ hcreated => hcreated
  refine ⟨.pass hinstalled, fun hleaves => ?_⟩
  have hforeign : lastVisit.state.Foreign .clusterLogging
      getClusterLoggingCR := by
    refine ⟨by decide, ?_⟩
    rintro ⟨-, hcreated | habsent⟩
    · exact hcreated
    · exact absurd habsent (by decide)
  have hdeleted : (lastVisit.events.any fun event =>
      (event.after.find .clusterLogging getClusterLoggingCR).isNone) =
        true := by decide
  obtain ⟨event, hevent, hgone⟩ := List.any_eq_true.mp hdeleted
  have hkept := hleaves _ _ ⟨by decide, rfl⟩ hforeign event hevent
  rw [Option.isNone_iff_eq_none.mp hgone] at hkept
  exact absurd hkept (by decide)

end LoggingInstallation

end ObservabilityOperator
