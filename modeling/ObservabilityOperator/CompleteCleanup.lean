import ObservabilityOperator.ConfigurationCalls
import ObservabilityOperator.OperandRuns
import ObservabilityOperator.TokenProvenance

/-!
# What a clean-up leaves behind

A clean-up finds objects by their names and by two labels.  An object that the
operator has created is gone afterwards if it still is what an installation
writes, and all writes of the operator to an object that it has created keep it
that way.  This is a matter of the two places where the configuration stage
writes back what it has found: the configuration of the blackbox exporter, and
a configuration secret that is marked as accepted.
-/

namespace ObservabilityOperator

open Program

/-! ## Created objects -/

/-- What the operator has created is, as long as it is there, an object that
an installation without token refreshers writes. -/
def CreatedOperands (cr : Observability) (state : Tracked) : Prop :=
  ∀ kind key object, (kind, key) ∈ state.2 →
    state.1.find kind key = some object →
    Operand cr False kind key object.labels

/-- The copy of a secret is safe to write back: it has the labels of an
operand, or the secret is there and somebody else has created it. -/
def SafeSource (cr : Observability) (source : ConfigSource)
    (state : Tracked) : Prop :=
  Operand cr False .secret source.key source.secret.labels ∨
    (Kind.secret, source.key) ∉ state.2 ∧
      (state.1.find .secret source.key).isSome

structure KeepsOperands (cr : Observability) (sources : List ConfigSource)
    (state : Tracked) : Prop where
  created : CreatedOperands cr state
  safe : ∀ source ∈ sources, SafeSource cr source state

/-- Operands are written and copies of secrets are written back.  A secret of
which there is a copy is deleted only if the copy is that of an operand. -/
def WritesOperands (cr : Observability) (sources : List ConfigSource) :
    ApiCall Kind.Spec Action → Prop
  | .create kind key object => Operand cr False kind key object.labels
  | .update kind key object => Operand cr False kind key object.labels ∨
      ∃ source ∈ sources, kind = .secret ∧ key = source.key ∧
        object.labels = source.secret.labels
  | .delete kind key => ∀ source ∈ sources, kind = .secret →
      key = source.key →
      Operand cr False .secret source.key source.secret.labels
  | _ => True

section Steps

variable {cr : Observability} {sources : List ConfigSource}
  {env : Surroundings} {state : Tracked}
  {call : ApiCall Kind.Spec Action}

theorem CreatedOperands.step (hstate : CreatedOperands cr state)
    (hcreate : ∀ kind key object, call = .create kind key object →
      Operand cr False kind key object.labels)
    (hupdate : ∀ kind key object, call = .update kind key object →
      (kind, key) ∈ state.2 → Operand cr False kind key object.labels) :
    CreatedOperands cr (tracking env call state).2 := by
  intro kind key object hmem hfind
  rcases List.mem_append.mp hmem with hbefore | hnew
  · rcases serve_find_eq_some hfind with hkept | hcall | hcall
    · exact hstate kind key object hbefore hkept
    · exact hcreate kind key object hcall
    · exact hupdate kind key object hcall hbefore
  · obtain ⟨⟨written, hcall⟩, habsent⟩ := mem_newlyCreated hnew
    rcases serve_find_eq_some hfind with hkept | hcreated | hupdated
    · rw [habsent] at hkept
      cases hkept
    · exact hcreate kind key object hcreated
    · rw [hcall] at hupdated
      cases hupdated

theorem SafeSource.step {source : ConfigSource}
    (hstate : SafeSource cr source state)
    (hdelete : call = .delete .secret source.key →
      Operand cr False .secret source.key source.secret.labels) :
    SafeSource cr source (tracking env call state).2 := by
  rcases hstate with hoperand | ⟨hforeign, hthere⟩
  · exact .inl hoperand
  · by_cases hcall : call = .delete .secret source.key
    · exact .inl (hdelete hcall)
    · refine .inr ⟨fun hmem => ?_, serve_isSome_find hcall hthere⟩
      rcases List.mem_append.mp hmem with hbefore | hnew
      · exact hforeign hbefore
      · rw [(mem_newlyCreated hnew).2] at hthere
        cases hthere

theorem KeepsOperands.step (hstate : KeepsOperands cr sources state)
    (hcall : WritesOperands cr sources call) :
    KeepsOperands cr sources (tracking env call state).2 where
  created := by
    refine hstate.created.step ?_ ?_
    · rintro kind key object rfl
      exact hcall
    · rintro kind key object rfl hmem
      rcases hcall with hoperand | ⟨source, hsource, rfl, rfl, hlabels⟩
      · exact hoperand
      · rw [hlabels]
        exact (hstate.safe source hsource).resolve_right
          fun hforeign => hforeign.1 hmem
  safe source hsource := by
    refine (hstate.safe source hsource).step ?_
    rintro rfl
    exact hcall source hsource rfl rfl

theorem maintains_of_writesOperands {α : Type} {program : Go α}
    (huses : program.Uses (WritesOperands cr sources)) :
    program.Maintains (tracking env) (KeepsOperands cr sources) :=
  huses.maintains fun _ hcall _ hstate => hstate.step hcall

end Steps

/-! ## The configuration stage -/

section Configuration

variable {platform : Platform} {cr : Observability}
  {sources : List ConfigSource} {env : Surroundings} {state : Tracked}
  {indexes : List RepositoryIndex}

theorem allowsConfiguration_writesOperands :
    AllowsConfiguration cr False (WritesOperands cr []) where
  get _ _ := trivial
  list _ _ := trivial
  now := trivial
  delete _ _ _ hsource := absurd hsource List.not_mem_nil
  create _ _ _ hoperand := hoperand
  update _ _ _ hoperand := .inl hoperand
  setClusterId _ := trivial
  setMigrated := trivial
  http _ := trivial
  setLabels := trivial
  setLastSynced _ := trivial
  setResourcesRoute _ := trivial

theorem allowsTokens_writesOperands :
    AllowsTokens cr (WritesOperands cr sources) where
  get _ _ := trivial
  list _ _ := trivial
  now := trivial
  http _ := trivial
  setLabels := trivial
  create _ _ _ _ := .inr managed_observatoriumTokenLabels
  update _ _ _ _ := .inl (.inr managed_observatoriumTokenLabels)

theorem keepsOperands_of_found (hcreated : CreatedOperands cr state)
    (hfound : ∀ source ∈ sources,
      state.1.find .secret source.key = some source.secret) :
    KeepsOperands cr sources state where
  created := hcreated
  safe source hsource := by
    by_cases hmem : (Kind.secret, source.key) ∈ state.2
    · exact .inl (hcreated _ _ _ hmem (hfound source hsource))
    · exact .inr ⟨hmem, Option.isSome_of_eq_some (hfound source hsource)⟩

theorem ensures_deleteUnrequestedCredentialSecrets
    (hcreated : CreatedOperands cr state)
    (hfound : ∀ source ∈ sources,
      state.1.find .secret source.key = some source.secret) :
    (deleteUnrequestedCredentialSecrets cr indexes).Ensures
      (tracking env) (KeepsOperands cr sources) state
      (fun _ => KeepsOperands cr sources)
      (fun _ => KeepsOperands cr sources) := by
  have hlisted : KeepsOperands cr sources (tracking env
      (.list .secret { ns := some cr.ns, labels := observatoriumTokenLabels })
        state).2 := (keepsOperands_of_found hcreated hfound).step trivial
  refine ⟨hlisted, maintains_of_writesOperands ?_ _ hlisted⟩
  refine .forEach fun item hitem => ?_
  split
  · trivial
  · refine .wrapping (.bind ((Client.uses_delete _ _ _).mpr ?_)
      fun _ => Client.uses_orFail _ _)
    intro source hsource _ hkey
    have hselected : item ∈ state.1.select .secret
        { ns := some cr.ns, labels := observatoriumTokenLabels } := by
      split at hitem
      next list hreply =>
        obtain ⟨-, hlist⟩ := withFault_eq_ok hreply
        obtain rfl := Except.ok.inj hlist
        exact hitem
      next => cases hitem
    obtain ⟨hfind, hselects⟩ := (state.1.mem_select_iff _ _ _ _).mp hselected
    rw [hkey, hfound source hsource] at hfind
    obtain hsame : source.secret = item.2 := Option.some.inj hfind
    rw [hsame]
    refine .inr (managed_of_tokenLabels ?_)
    simp only [ListOptions.selects, Bool.and_eq_true] at hselects
    exact hselects.2

theorem uses_stampConfigSource {index : RepositoryIndex}
    (hsources : ∀ source, index.source = some source → source ∈ sources) :
    (stampConfigSource index).Uses (WritesOperands cr sources) := by
  unfold stampConfigSource
  split
  · trivial
  next source hsource =>
    refine .bind ((Client.uses_update _ _ _ _).mpr ?_) fun _ => trivial
    exact .inr ⟨source, hsources source hsource, rfl, rfl, rfl⟩

variable {α : Type} {program : Go α}

theorem run_of_run_tracking {value : α} {after : Tracked}
    (hrun : program.run (tracking env) state = (.ok value, after)) :
    env.run program state.1 = (.ok value, after.1) := by
  obtain ⟨hvalue, hafter⟩ := @run_tracking _ env program state
  rw [hrun] at hvalue hafter
  exact Prod.ext hvalue.symm hafter.symm

theorem maintains_completeIndexes
    (hsources : ∀ index ∈ indexes, ∀ source, index.source = some source →
      source ∈ sources) :
    (completeIndexes platform cr indexes).Maintains (tracking env)
      (KeepsOperands cr sources) := by
  refine .collect fun index hindex state hstate => ?_
  refine Program.Ensures.bind_run (maintains_of_writesOperands
    (allowsTokens_writesOperands.reconcileObservatoria index) state hstate)
      fun outcome after hrun hafter => ?_
  obtain ⟨left, result⟩ := outcome
  have hsame := withoutObservatoria_of_run_reconcileObservatoria
    (run_of_run_tracking hrun)
  have hsource : left.source = index.source :=
    (RepositoryIndex.mk.inj hsame).2.2.2.1
  cases result with
  | error error => exact hafter
  | ok done =>
    refine .bind (maintains_of_writesOperands (uses_stampConfigSource ?_) _
      hafter) fun _ _ hstamped => hstamped
    rw [hsource]
    exact hsources index hindex

theorem maintains_upsert {kind : Kind} {key : ObjectKey}
    {blank : Resource kind.Spec}
    {change : Resource kind.Spec → Resource kind.Spec}
    (hblank : Operand cr False kind key (change blank).labels)
    (hchange : ∀ object, (change object).labels = object.labels) :
    (upsert kind key blank change : Go _).Maintains (tracking env)
      (CreatedOperands cr) := by
  intro state hstate
  have hread : (Client.get kind key : Go _).Ensures (tracking env)
      (CreatedOperands cr) state (fun reply after => CreatedOperands cr after ∧
        ∀ object, reply = .ok object → after.1.find kind key = some object)
      (fun _ => CreatedOperands cr) := by
    have hafter : CreatedOperands cr
        (tracking env (.get kind key) state).2 := by
      refine hstate.step ?_ ?_ <;> intro _ _ _ hcall <;> cases hcall
    refine ⟨hafter, hafter, fun object hobject => ?_⟩
    obtain ⟨-, hread⟩ := withFault_eq_ok hobject
    change state.1.find kind key = some object
    cases hfind : state.1.find kind key with
    | none => simp [World.read, hfind] at hread
    | some found =>
      simp only [World.read, hfind, Except.ok.injEq] at hread
      rw [hread]
  refine hread.bind fun reply between hbetween => ?_
  obtain ⟨hcreated, hfound⟩ := hbetween
  simp only [bind_eq_bind, done_bind]
  split
  · have hnext : CreatedOperands cr (tracking env
        (.create kind key (change blank)) between).2 := by
      refine hcreated.step ?_ ?_
      · intro other name object hcall
        cases hcall
        exact hblank
      · intro other name object hcall
        cases hcall
    exact ⟨hnext, Client.orFail_bind_ensures hnext fun _ _ => hnext⟩
  · exact hcreated
  next existing =>
    split
    · exact hcreated
    · have hnext : CreatedOperands cr (tracking env
          (.update kind key (change existing)) between).2 := by
        refine hcreated.step ?_ ?_
        · intro other name object hcall
          cases hcall
        · intro other name object hcall hmem
          cases hcall
          rw [hchange]
          exact hcreated kind key existing hmem (hfound existing rfl)
      exact ⟨hnext, Client.orFail_bind_ensures hnext fun _ _ => hnext⟩

theorem maintains_created (huses : program.Uses (WritesOperands cr [])) :
    program.Maintains (tracking env) (CreatedOperands cr) :=
  huses.maintains fun _ hcall _ hstate =>
    (KeepsOperands.step ⟨hstate, fun _ hsource =>
      absurd hsource List.not_mem_nil⟩ hcall).created

theorem maintains_createBlackBoxConfig :
    (createBlackBoxConfig platform cr).Maintains (tracking env)
      (CreatedOperands cr) := by
  refine .bind (maintains_created (allowsConfiguration_writesOperands.reads
    writesKinds_getDefaultBlackBoxConfig)) fun config => ?_
  refine .bind (maintains_upsert ?_ fun _ => rfl) fun _ => ?_
  · exact managed_managedLabels
  · exact fun _ hstate => hstate

theorem maintains_syncInstances (indexes : List RepositoryIndex) :
    (syncInstances platform cr indexes).Maintains (tracking env)
      (CreatedOperands cr) := by
  have hallowed := @allowsConfiguration_writesOperands cr
  refine .bind (maintains_created (.wrapping
    (hallowed.reads (writesKinds_fetchFederationConfigs _)))) fun patterns => ?_
  refine .bind (maintains_created
    (hallowed.createAdditionalScrapeConfigSecret patterns)) fun _ => ?_
  refine .bind maintains_createBlackBoxConfig fun hash => ?_
  refine .bind (maintains_created
    (.wrapping (hallowed.reconcileAlertmanager indexes))) fun _ => ?_
  refine .bind (maintains_created
    (.wrapping (hallowed.reconcilePrometheus indexes hash))) fun _ => ?_
  refine maintains_created ?_
  split
  · trivial
  next hscoped =>
    exact .wrapping (hallowed.reconcileGrafanaCr (by simpa using hscoped)
      indexes)

theorem maintains_applyIndexes (hrequests : cr.observatoriumDisabled = false →
      RequestsRefreshers False indexes) :
    (applyIndexes platform cr indexes).Maintains (tracking env)
      (CreatedOperands cr) := by
  have hallowed := @allowsConfiguration_writesOperands cr
  exact .bind (maintains_created (hallowed.syncTokenRefreshers hrequests))
    fun _ => .bind (maintains_created
      (hallowed.syncAlertmanagerSecret indexes)) fun _ =>
        .bind (maintains_syncInstances indexes) fun _ =>
        .bind (maintains_created (hallowed.syncResources indexes)) fun _ =>
        .bind (maintains_created (hallowed.syncPromtail indexes))
          fun _ => maintains_created hallowed.assignSyncTime

end Configuration

/-! ## Requests for token refreshers -/

def ObservatoriumIndex.MayRefresh (entry : ObservatoriumIndex) : Prop :=
  entry.authType = .redhat ∨
    entry.authType = .unknown "" ∧ entry.secretName ≠ ""

/-- Some index that is served may ask for a refresher. -/
def ServesRefreshers (platform : Platform) (env : Surroundings) :
    Prop :=
  ∃ tick request body id config,
    env.http tick request = .ok ⟨200, body⟩ ∧
      platform.unmarshalIndex body = .ok (id, some config) ∧
      ∃ entry ∈ config.observatoria, entry.MayRefresh

section Refreshers

variable {platform : Platform} {env : Surroundings}
  {cr : Observability} {cluster after : Cluster}

theorem authType_of_run_transformObservatorium {entry copy : ObservatoriumIndex}
    (hrun : env.run (transformObservatorium platform cr entry)
      cluster = (.ok copy, after)) :
    copy.authType = entry.authType ∨
      entry.authType = .unknown "" ∧ entry.secretName ≠ "" := by
  obtain ⟨assigned, hassigned, hcopy⟩ := run_transformObservatorium_eq_ok hrun
  have hsame : copy.authType = assigned.authType := by
    rcases hcopy with rfl | ⟨-, _, rfl⟩ <;> rfl
  rw [hsame]
  cases hassigned with
  | own _ => exact .inl rfl
  | filled hname hfilled =>
    exact hfilled.authType_eq.imp_right fun hempty => ⟨hempty, hname⟩

variable {indexes : List RepositoryIndex}

theorem requestsRefreshers_of_run_completeIndexes
    {completed : List RepositoryIndex}
    (hnone : ∀ index ∈ indexes, ∀ entry ∈ index.observatoria,
      ¬ entry.MayRefresh)
    (hrun : env.run (completeIndexes platform cr indexes) cluster =
      (.ok completed, after)) : RequestsRefreshers False completed := by
  have hpairs := run_collect_forall₂
    (fun (index completed : RepositoryIndex) =>
      List.Forall₂ (fun entry copy : ObservatoriumIndex =>
        copy.authType = .redhat → entry.MayRefresh) index.observatoria
          completed.observatoria)
    (fun index _ state next completed hnext => ?_) hrun
  · intro index hindex entry hentry hredhat
    obtain ⟨original, horiginal, hentries⟩ :=
      exists_of_forall₂ hpairs.flip hindex
    obtain ⟨first, hfirst, hmay⟩ := exists_of_forall₂ hentries.flip hentry
    exact hnone original horiginal first hfirst (hmay hredhat)
  · refine related_of_run_completeObservatoria _ (fun _ => .inl)
      (fun _ _ => .inl) (fun entry _ copy _ htransform hredhat => ?_) hnext
    rcases authType_of_run_transformObservatorium htransform with
      hsame | hempty
    · exact .inl (hsame ▸ hredhat)
    · exact .inr hempty

theorem not_mayRefresh_of_run_loadIndex {repo : RepositoryInfo}
    {index : RepositoryIndex} (hserves : ¬ ServesRefreshers platform env)
    (hrun : env.run (loadIndex platform cr repo) cluster = (.ok index, after)) :
    ∀ entry ∈ index.observatoria, ¬ entry.MayRefresh := by
  intro entry hentry hmay
  obtain ⟨body, read, hread, hrun⟩ := run_bind_eq_ok hrun
  obtain ⟨⟨id, config⟩, hdecoded, hrun⟩ := run_ofExcept_bind_eq_ok hrun
  obtain ⟨base, -, hrun⟩ := run_ofExcept_bind_eq_ok hrun
  cases hrun
  obtain ⟨request, hhttp⟩ : ∃ request, env.http cluster.tick request =
      .ok ⟨200, body⟩ := by
    rcases run_readIndexFile platform env cr repo cluster with
      ⟨text, hok, hresponse⟩ | ⟨error, failed, herror⟩
    · cases hok.symm.trans hread
      unfold indexResponse at hresponse
      cases hurl : getResourcesUrl platform repo cr with
      | error message => simp [hurl, Except.bind] at hresponse
      | ok base =>
        cases hparse : platform.urlParse
            (platform.urlString (indexUrl base)) with
        | error message => simp [hurl, hparse, Except.bind] at hresponse
        | ok requestUrl =>
          simp only [hurl, hparse, Except.bind] at hresponse
          exact ⟨_, hresponse⟩
    · cases herror.symm.trans hread
  cases config with
  | none => cases hentry
  | some config =>
    exact hserves ⟨_, request, body, id, config, hhttp, hdecoded, entry,
      hentry, hmay⟩

theorem ensures_configure {state : Tracked}
    (hcreated : CreatedOperands cr state) (hsourced : Sourced state.1 indexes)
    (hnone : cr.observatoriumDisabled = false → ∀ index ∈ indexes,
      ∀ entry ∈ index.observatoria, ¬ entry.MayRefresh) :
    (configure platform cr indexes).Ensures (tracking env)
      (CreatedOperands cr) state (fun _ => CreatedOperands cr)
      (fun _ => CreatedOperands cr) := by
  let sources := indexes.filterMap RepositoryIndex.source
  have hfound : ∀ source ∈ sources,
      state.1.find .secret source.key = some source.secret := by
    intro source hsource
    obtain ⟨index, hindex, hsource⟩ := List.mem_filterMap.mp hsource
    exact hsourced index hindex source hsource
  have hsources : ∀ index ∈ indexes, ∀ source, index.source = some source →
      source ∈ sources := fun index hindex source hsource =>
    List.mem_filterMap.mpr ⟨index, hindex, hsource⟩
  have hweaken {α : Type} {program : Go α} {before : Tracked}
      (hprogram : program.Ensures (tracking env)
        (KeepsOperands cr sources) before (fun _ => KeepsOperands cr sources)
        (fun _ => KeepsOperands cr sources)) :
      program.Ensures (tracking env) (CreatedOperands cr) before
        (fun _ => KeepsOperands cr sources) (fun _ => CreatedOperands cr) :=
    (hprogram.weaken fun _ hkept => hkept.created).mono
      (fun _ _ hkept => hkept) fun _ _ hkept => hkept.created
  refine (hweaken (ensures_deleteUnrequestedCredentialSecrets hcreated
    hfound)).bind fun _ cleared hcleared => ?_
  refine Program.Ensures.bind_run (hweaken (maintains_completeIndexes hsources
    cleared hcleared)) fun completed between hrun hbetween => ?_
  refine maintains_applyIndexes (fun henabled => ?_) between hbetween.created
  exact requestsRefreshers_of_run_completeIndexes (hnone henabled)
    (run_of_run_tracking hrun)

theorem createdOperands_reconcileStage {order : IterationOrder} {migrated : Bool}
    (hnone : cr.observatoriumDisabled = true ∨
      ¬ ServesRefreshers platform env) :
    (reconcileStage platform order cr migrated).Maintains
      (tracking env) (CreatedOperands cr) := by
  intro state hstate
  have hallowed := @allowsConfiguration_writesOperands cr
  refine Program.Ensures.bind_run
    (maintains_created (hallowed.prepare migrated) state hstate)
      fun found prepared hprepare hprepared => ?_
  cases found with
  | stop status => exact hprepared
  | load repos =>
    refine Program.Ensures.bind_run (maintains_created
      (hallowed.allowsReads.collectIndexes platform cr order repos) prepared
        hprepared) fun indexes loaded hcollect hloaded => ?_
    refine .bind (ensures_configure hloaded (sourced_of_run
      (run_of_run_tracking hprepare) (run_of_run_tracking hcollect)) ?_)
        fun _ _ hlast => hlast
    intro henabled index hindex
    have hserves := hnone.resolve_left (by simp [henabled])
    have hpairs := run_collect_forall₂
      (fun (_ : RepositoryInfo) (index : RepositoryIndex) =>
        ∀ entry ∈ index.observatoria, ¬ entry.MayRefresh)
      (fun repo _ _ _ index hload =>
        not_mayRefresh_of_run_loadIndex hserves hload)
      (run_of_run_tracking hcollect)
    obtain ⟨repo, -, hentries⟩ := exists_of_forall₂ hpairs.flip hindex
    exact hentries

end Refreshers

/-! ## Runs -/

theorem operand_congr {old new : Observability} {refreshers : Prop}
    (hspec : new.spec = old.spec) (hns : new.ns = old.ns) :
    Operand new refreshers = Operand old refreshers := by
  obtain ⟨_, _, _, _, _, _⟩ := old
  obtain ⟨_, _, _, _, _, _⟩ := new
  obtain rfl := hspec
  obtain rfl := hns
  rfl

namespace OperandState

/-- The specification is not edited, and nobody else changes the labels of what
the operator has created. -/
def LeavesAlone (state : OperandState) : OperandMove → Prop
  | .edit cr => cr.spec = state.cr.spec
  | .others cluster => ∀ kind key, (kind, key) ∈ state.tracked.2 →
      (cluster.find kind key).map Resource.labels =
        (state.tracked.1.find kind key).map Resource.labels
  | _ => True

/-- A configuration stage is run without Observatoria or gets no index that asks
for token refreshers. -/
def WantsNoRefreshers (state : OperandState) : OperandMove → Prop
  | .install platform _ env stage _ => stage = .configuration →
      state.cr.observatoriumDisabled = true ∨ ¬ ServesRefreshers platform env
  | _ => True

variable {state : OperandState}

theorem createdOperands_next {move : OperandMove} (hadmits : state.Admits move)
    (halone : state.LeavesAlone move) (hwants : state.WantsNoRefreshers move)
    (hstate : CreatedOperands state.cr state.tracked) :
    CreatedOperands (state.next move).cr (state.next move).tracked := by
  cases move with
  | install platform order env stage migrated =>
    by_cases hstage : stage = .configuration
    · subst hstage
      exact (createdOperands_reconcileStage (hwants rfl) _ hstate).run_snd
    · exact (maintains_created (allowsConfiguration_writesOperands.component
        hstage migrated) _ hstate).run_snd
  | cleanup platform order env stage =>
    have hdeletes : ((getReconcilerForStage platform order stage).cleanup
        state.cr).Maintains (tracking env) (CreatedOperands state.cr) := by
      refine (clears_cleanup stage).uses.maintains fun call hcall _ hbefore =>
        hbefore.step ?_ ?_
      · rintro kind key object rfl
        exact absurd hcall id
      · rintro kind key object rfl
        exact absurd hcall id
    exact (hdeletes _ hstate).run_snd
  | edit cr =>
    have hsame : Operand cr False = Operand state.cr False :=
      operand_congr halone hadmits.2.2
    intro kind key object hmem hfind
    change Operand cr False kind key object.labels
    rw [hsame]
    exact hstate kind key object hmem hfind
  | others cluster =>
    intro kind key object hmem hfind
    have hlabels := halone kind key hmem
    change cluster.find kind key = some object at hfind
    rw [hfind, Option.map_some, eq_comm, Option.map_eq_some_iff] at hlabels
    obtain ⟨found, hfound, hsame⟩ := hlabels
    change Operand state.cr False kind key object.labels
    rw [← hsame]
    exact hstate kind key found hmem hfound

theorem createdOperands_of_reached
    (hreached : Reached (fun state move => state.LeavesAlone move ∧
      state.WantsNoRefreshers move) state) :
    CreatedOperands state.cr state.tracked :=
  hreached.invariant (fun _ _ _ _ _ hmem => absurd hmem List.not_mem_nil)
    fun _ _ hadmits hmeets hstate =>
      createdOperands_next hadmits hmeets.1 hmeets.2 hstate

end OperandState

/-! ## The clean-up -/

def operandKinds : List Kind :=
  [.deployment, .daemonSet, .service, .route, .secret, .configMap,
    .networkPolicy, .prometheusRule, .podMonitor, .grafanaDashboard,
    .grafanaDataSource, .serviceAccount, .prometheus, .alertmanager, .grafana]

section Stages

variable {cr : Observability} {kind : Kind} {key : ObjectKey}
  {labels : StringMap}

theorem configured_of_managed (hscoped : cr.descopedModeEnabled = false)
    (hsyncs : cr.externalSyncDisabled = false)
    (hkind : kind ∈ [.secret, .configMap, .daemonSet, .prometheusRule,
      .podMonitor, .grafanaDashboard]) (hns : key.ns = cr.ns)
    (hmanaged : Managed labels) : ConfiguredObjects cr kind key labels := by
  have hselected : Selected kind cr.ns managedLabels kind key labels :=
    ⟨rfl, hns, hmanaged⟩
  simp only [List.mem_cons, List.not_mem_nil, or_false] at hkind
  rcases hkind with rfl | rfl | rfl | rfl | rfl | rfl <;>
    simp [ConfiguredObjects, SyncedObjects, hscoped, hsyncs, hselected]

theorem configured_of_proxy (hkind : kind ∈ [.deployment, .networkPolicy])
    (hns : key.ns = cr.ns) (hproxy : AuthenticationProxy labels) :
    ConfiguredObjects cr kind key labels := by
  have hselected :
      Selected kind cr.ns authenticationProxyLabels kind key labels :=
    ⟨rfl, hns, hproxy⟩
  simp only [List.mem_cons, List.not_mem_nil, or_false] at hkind
  rcases hkind with rfl | rfl <;> simp [ConfiguredObjects, hselected]

def removedByName (cr : Observability) : List (Kind × ObjectKey) :=
  prometheusObjects cr ++ alertmanagerObjects cr ++ grafanaObjects cr ++
    promtailObjects cr

theorem removed_namedSecrets (hscoped : cr.descopedModeEnabled = false)
    (hkey : key ∈ namedSecrets cr) : (Kind.secret, key) ∈ removedByName cr := by
  simp only [namedSecrets, hscoped, Bool.false_eq_true, if_false,
    List.cons_append, List.nil_append, List.mem_cons, List.not_mem_nil,
    or_false] at hkey
  rcases hkey with rfl | rfl | rfl | rfl | rfl <;>
    simp [removedByName, prometheusObjects, alertmanagerObjects,
      grafanaObjects, hscoped]

theorem removed_namedServiceAccounts (hkey : key ∈ namedServiceAccounts cr) :
    (Kind.serviceAccount, key) ∈ removedByName cr := by
  rcases List.mem_append.mp hkey with hcomponent | hpromtail
  · simp only [List.mem_cons, List.not_mem_nil, or_false] at hcomponent
    rcases hcomponent with rfl | rfl <;>
      simp [removedByName, prometheusObjects, alertmanagerObjects]
  · split at hpromtail
    next => cases hpromtail
    next henabled =>
      obtain rfl := List.mem_singleton.mp hpromtail
      simp [removedByName, promtailObjects, henabled]

theorem exists_stage_of_operand (hscoped : cr.descopedModeEnabled = false)
    (hsyncs : cr.externalSyncDisabled = false) (hkind : kind ∈ operandKinds)
    (hns : key.ns = cr.ns) (hoperand : Operand cr False kind key labels) :
    ∃ stage ∈ getCleanupStages, StageObjects cr stage kind key labels := by
  have hsome : ConfiguredObjects cr kind key labels ∨
      (kind, key) ∈ removedByName cr := by
    cases kind with
    | secret =>
      exact hoperand.symm.imp
        (configured_of_managed hscoped hsyncs (by decide) hns)
        (removed_namedSecrets hscoped)
    | configMap | daemonSet | podMonitor | grafanaDashboard =>
      exact .inl (configured_of_managed hscoped hsyncs (by decide) hns hoperand)
    | prometheusRule =>
      exact .inl (configured_of_managed hscoped hsyncs (by decide) hns
        (hoperand.resolve_right (by simp [hsyncs])))
    | deployment =>
      refine .inl (hoperand.elim (fun hnamed => ?_)
        (configured_of_proxy (by decide) hns))
      simp [ConfiguredObjects, Single, hnamed]
    | networkPolicy =>
      exact .inl (configured_of_proxy (by decide) hns hoperand)
    | service =>
      have hnamed : key ∈ namedServices cr := hoperand.resolve_right id
      simp only [namedServices, List.mem_cons, List.not_mem_nil,
        or_false] at hnamed
      rcases hnamed with rfl | rfl | rfl <;>
        simp [removedByName, prometheusObjects, alertmanagerObjects,
          ConfiguredObjects, Single]
    | route =>
      simp only [Operand, namedRoutes, List.mem_cons, List.not_mem_nil,
        or_false] at hoperand
      rcases hoperand with rfl | rfl | rfl <;>
        simp [removedByName, prometheusObjects, alertmanagerObjects,
          ConfiguredObjects, Single]
    | serviceAccount => exact .inr (removed_namedServiceAccounts hoperand)
    | prometheus =>
      obtain rfl : key = getPrometheus cr := hoperand
      simp [removedByName, prometheusObjects]
    | alertmanager =>
      obtain rfl : key = getAlertmanagerCr cr := hoperand
      simp [removedByName, alertmanagerObjects]
    | grafana =>
      obtain rfl : key = getGrafanaCr cr := hoperand.1
      simp [removedByName, grafanaObjects, hscoped]
    | grafanaDataSource =>
      obtain rfl : key = GrafanaConfiguration.getGrafanaDatasource cr :=
        hoperand.1
      simp [removedByName, grafanaObjects, hscoped]
    | _ => exact absurd hkind (by decide)
  rcases hsome with hconfigured | hnamed
  · exact ⟨.configuration, by decide, hconfigured⟩
  · simp only [removedByName, List.mem_append] at hnamed
    rcases hnamed with ((hobject | hobject) | hobject) | hobject
    · exact ⟨.prometheusConfiguration, by decide, hobject⟩
    · exact ⟨.alertmanagerInstallation, by decide, hobject⟩
    · exact ⟨.grafanaConfiguration, by decide, hobject⟩
    · exact ⟨.promtailInstallation, by decide, hobject⟩

end Stages

/-- In a run in which nobody interferes and no token refresher is asked for,
nothing that the operator has created for a custom resource that is
synchronized and not descoped outlives a clean-up, wherever the run has come
to. -/
theorem operands_gone {state : OperandState}
    (hreached : OperandState.Reached (fun state move =>
      state.LeavesAlone move ∧ state.WantsNoRefreshers move) state)
    (hscoped : state.cr.descopedModeEnabled = false)
    (hsyncs : state.cr.externalSyncDisabled = false)
    {platform : Platform} {order : IterationOrder}
    {env : Surroundings} {after : Cluster}
    (hcleans : state.CleansUp platform order env after) :
    ∀ kind ∈ operandKinds, ∀ key, key.ns = state.cr.ns →
      (kind, key) ∈ state.tracked.2 → after.find kind key = none := by
  intro kind hkind key hns hcreated
  cases hfind : after.find kind key with
  | none => rfl
  | some object =>
    have hclears := @clears_cleanupPass state.cr platform order getCleanupStages
    have hbefore := find_of_run_onlyDeletes hclears.uses hcleans hfind
    have hoperand := OperandState.createdOperands_of_reached hreached kind
      key object hcreated hbefore
    exact absurd (exists_stage_of_operand hscoped hsyncs hkind hns hoperand)
      (hclears.lacks hcleans rfl kind key object hfind)

/-! ## A rule and a Service that are left -/

def installedCr (disableRepoSync : Bool) : Observability :=
  { plainCr with
    spec :=
      { clusterId := "cluster"
        configurationSelector := some
          { matchLabels := [("configures", "observability-operator")] }
        selfContained := some { disableRepoSync := some disableRepoSync } } }

def runningCluster : Cluster :=
  ((Cluster.empty.put .deployment ⟨"managed", "prometheus-operator"⟩
      { spec := { readyReplicas := 1 } }).put
    .deployment ⟨"managed", "grafana-operator"⟩
      { spec := { readyReplicas := 1 } }).put
    .secret ⟨"managed", "configuration"⟩
      { labels := [("configures", "observability-operator")]
        spec := { data := [("repository", "https://api.github.com")] } }

def observatoriaPlatform (observatoria : List ObservatoriumIndex) : Platform :=
  { syncPlatform with
    unmarshalIndex := fun _ =>
      .ok ("kafka", (syncedIndex "" "first" observatoria).config) }

def installMove (platform : Platform) (stage : ObservabilityStageName) :
    OperandMove :=
  .install platform .given answeringSurroundings stage true

def installedState (disableRepoSync : Bool)
    (observatoria : List ObservatoriumIndex) : OperandState :=
  OperandState.after ⟨installedCr disableRepoSync, (runningCluster, [])⟩
    (getInstallationStages.map (installMove (observatoriaPlatform observatoria)))

def cleanedUp (state : OperandState) :
    Except (Abort ApiError) ObservabilityStageStatus × Cluster :=
  Surroundings.quiet.run (cleanupPass .plain .given state.cr getCleanupStages)
    state.tracked.1

theorem reached_of_installMoves {Meets : OperandState → OperandMove → Prop}
    {platform : Platform} (hmeets : ∀ state stage,
      Meets state (installMove platform stage))
    (stages : List ObservabilityStageName) {state : OperandState}
    (hreached : OperandState.Reached Meets state) :
    OperandState.Reached Meets
      (state.after (stages.map (installMove platform))) := by
  induction stages generalizing state with
  | nil => exact hreached
  | cons stage rest ih =>
    exact ih (.move (installMove platform stage) hreached trivial
      (hmeets state stage))

theorem operands_gone_installed :
    (Kind.prometheus, ⟨"managed", "obs-prometheus"⟩) ∈
        (installedState false []).tracked.2 ∧
      (cleanedUp (installedState false [])).2.find .prometheus
        ⟨"managed", "obs-prometheus"⟩ = none := by
  have hcreated : (Kind.prometheus, ⟨"managed", "obs-prometheus"⟩) ∈
      (installedState false []).tracked.2 := by
    set_option maxRecDepth 2048 in decide
  have hserves :
      ¬ ServesRefreshers (observatoriaPlatform []) answeringSurroundings := by
    rintro ⟨_, _, _, _, _, -, hdecoded, _, hentry, -⟩
    cases hdecoded
    cases hentry
  have hreached : OperandState.Reached (fun state move =>
      state.LeavesAlone move ∧ state.WantsNoRefreshers move)
        (installedState false []) :=
    reached_of_installMoves (fun _ _ => ⟨trivial, fun _ => .inr hserves⟩) _
      (.start _ _)
  exact ⟨hcreated, operands_gone hreached rfl rfl (by rfl :
    OperandState.CleansUp _ .plain .given .quiet _) .prometheus (by decide) _
      rfl hcreated⟩

/-- An object of the operator is left, although nobody has interfered and the
clean-up has succeeded. -/
structure LeftBehind (state : OperandState) (kind : Kind) (key : ObjectKey) :
    Prop where
  reached : OperandState.Reached OperandState.LeavesAlone state
  inScope : state.cr.descopedModeEnabled = false
  cleaned : (cleanedUp state).1 = .ok .success
  created : (kind, key) ∈ state.tracked.2
  found : ((cleanedUp state).2.find kind key).isSome

/-- The rule is left where synchronizing is disabled, and the Service of a
token refresher is left anyway. -/
theorem rule_and_service_left :
    LeftBehind (installedState true []) .prometheusRule
        ⟨"managed", "generated-deadmansswitch"⟩ ∧
      LeftBehind (installedState false [plainObservatorium "first" ""])
        .service ⟨"managed", "token-refresher-metrics-first"⟩ := by
  have hreached (disableRepoSync : Bool)
      (observatoria : List ObservatoriumIndex) :
      OperandState.Reached OperandState.LeavesAlone
        (installedState disableRepoSync observatoria) :=
    reached_of_installMoves (fun _ _ => trivial) _ (.start _ _)
  set_option maxRecDepth 2048 in
  exact ⟨⟨hreached _ _, rfl, rfl, by decide, rfl⟩,
    ⟨hreached _ _, rfl, rfl, by decide, rfl⟩⟩

end ObservabilityOperator
