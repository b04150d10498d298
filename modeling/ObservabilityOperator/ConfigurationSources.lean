import ObservabilityOperator.CrossReferences
import ObservabilityOperator.RepositoryOutage
import Mathlib.Data.List.Perm.Basic

/-!
# The secrets behind the indexes

A pass takes its repositories from the configuration secrets: of several
secrets with one name the first that is listed.  The index also points to a
secret, which is marked once its Observatoria are completed, and the loop
leaves all of these pointers at the secret that was listed last.
-/

namespace ObservabilityOperator

open Program

variable {item : ListedSecret}

abbrev ListedSecret : Type := ObjectKey × Resource SecretSpec

/-! ## The first secret of a name -/

/-- The secret is the first of its name in the list. -/
def FirstOfName (secrets : List ListedSecret) (item : ListedSecret) : Prop :=
  secrets.find? (fun other => other.1.name == item.1.name) = some item

def newNames (seen : List String) : List ListedSecret → List ListedSecret
  | [] => []
  | item :: rest =>
    if item.1.name ∈ seen then newNames seen rest
    else item :: newNames (seen ++ [item.1.name]) rest

theorem mem_newNames_iff {seen : List String} {secrets : List ListedSecret} :
    item ∈ newNames seen secrets ↔
      item.1.name ∉ seen ∧ FirstOfName secrets item := by
  unfold FirstOfName
  induction secrets generalizing seen with
  | nil => simp [newNames]
  | cons first rest ih =>
    by_cases hname : first.1.name = item.1.name
    · have hfound : (first :: rest).find?
          (fun other => other.1.name == item.1.name) = some first :=
        List.find?_cons_of_pos (by simpa using hname)
      rw [hfound, newNames]
      split
      next hseen =>
        rw [ih]
        exact ⟨fun h => absurd (hname ▸ hseen) h.1,
          fun h => absurd (hname ▸ hseen) h.1⟩
      next hseen =>
        rw [List.mem_cons, ih]
        constructor
        · rintro (rfl | ⟨hnew, -⟩)
          · exact ⟨hseen, rfl⟩
          · exact absurd (by simp [hname]) hnew
        · rintro ⟨-, hfirst⟩
          cases hfirst
          exact .inl rfl
    · have hskip : (first :: rest).find?
          (fun other => other.1.name == item.1.name) =
            rest.find? fun other => other.1.name == item.1.name :=
        List.find?_cons_of_neg (by simpa using hname)
      have hne : item ≠ first := fun h => hname (h ▸ rfl)
      rw [hskip, newNames]
      split
      · exact ih
      · simp [hne, ih, Ne.symm hname]

theorem nodup_newNames (seen : List String) (secrets : List ListedSecret) :
    ((newNames seen secrets).map fun item => item.1.name).Nodup := by
  induction secrets generalizing seen with
  | nil => exact List.nodup_nil
  | cons first rest ih =>
    unfold newNames
    split
    · exact ih seen
    · rw [List.map_cons, List.nodup_cons]
      refine ⟨fun hmem => ?_, ih _⟩
      obtain ⟨item, hitem, hname⟩ := List.mem_map.mp hmem
      exact (mem_newNames_iff.mp hitem).1 (by simp [hname])

theorem exists_map_eq_of_perm_map {α β : Type} {f : α → β} {items : List α}
    {values : List β} (hperm : values.Perm (items.map f)) :
    ∃ arranged : List α, values = arranged.map f ∧ arranged.Perm items := by
  have hpairs : List.Forall₂ (fun value item => value = f item)
      (items.map f) items :=
    List.forall₂_map_left_iff.mpr (List.forall₂_same.mpr fun _ _ => rfl)
  obtain ⟨arranged, hvalues, harranged⟩ := List.perm_comp_forall₂ hperm hpairs
  refine ⟨arranged, ?_, harranged⟩
  rw [← List.forall₂_eq_eq_eq]
  exact List.forall₂_map_right_iff.mpr hvalues

/-- The items are the first secrets of their names, each once. -/
structure FirstSecrets (secrets items : List ListedSecret) : Prop where
  nodup : (items.map fun item => item.1.name).Nodup
  mem_iff : ∀ item, item ∈ items ↔ FirstOfName secrets item

theorem firstSecrets_of_perm {secrets items : List ListedSecret}
    (hperm : items.Perm (newNames [] secrets)) :
    FirstSecrets secrets items where
  nodup := (hperm.map _).nodup_iff.mpr (nodup_newNames [] secrets)
  mem_iff item := by simp [hperm.mem_iff, mem_newNames_iff]

theorem firstOfName_head (first : ListedSecret) (rest : List ListedSecret) :
    FirstOfName (first :: rest) first :=
  List.find?_cons_of_pos (by simp)

/-! ## The repositories of a pass -/

def configSecrets (cr : Observability) (cluster : Cluster) :
    List ListedSecret :=
  if cr.externalSyncDisabled then []
  else
    cluster.select .secret
      { labels := (cr.spec.configurationSelector.getD {}).matchLabels }

theorem nodup_configSecrets (cr : Observability) (cluster : Cluster) :
    ((configSecrets cr cluster).map Prod.fst).Nodup := by
  unfold configSecrets
  split
  · exact List.nodup_nil
  · exact cluster.nodup_select Kind.secret _

section Repositories

variable {platform : Platform} {env : Surroundings}
  {cr : Observability} {migrated : Bool} {cluster after : Cluster} {α : Type}
  {secrets : List ListedSecret} {indexes : List RepositoryIndex}
  {program : Go α} {index completed : RepositoryIndex} {image : String}
  {repos found : List (String × RepositoryInfo)} {source : Option ConfigSource}

theorem run_listConfigSecrets_eq_ok
    (hrun : env.run (listConfigSecrets cr) cluster =
      (.ok secrets, after)) : secrets = configSecrets cr cluster := by
  unfold listConfigSecrets at hrun
  cases hselector : cr.spec.configurationSelector with
  | none => simp [hselector, Program.derefSpec] at hrun
  | some selector =>
    simp only [hselector, Program.derefSpec, bind_eq_bind, done_bind] at hrun
    unfold configSecrets
    rw [hselector]
    split at hrun
    next hdisabled =>
      cases hrun
      rw [if_pos hdisabled]
    next henabled =>
      rw [if_neg henabled]
      exact (run_list_orFail_eq_ok hrun).1

theorem run_collectRepositories_eq_ok
    (hrun : env.run
      (collectRepositories platform cr source repos secrets) cluster =
        (.ok found, after)) :
    found = repos ++ (newNames (repos.map Prod.fst) secrets).map fun item =>
      (item.1.name, repositoryInfo item.2 source) := by
  induction secrets generalizing repos cluster with
  | nil =>
    cases hrun
    simp [newNames]
  | cons first rest ih =>
    unfold collectRepositories at hrun
    unfold newNames
    split at hrun
    next hseen =>
      rw [if_pos hseen]
      exact ih hrun
    next hnew =>
      obtain ⟨_, written, -, hrest⟩ := run_bind_eq_ok hrun
      rw [if_neg hnew, ih hrest]
      simp

theorem secrets_of_run_prepare {due : Bool} {checked listed : Cluster}
    (hcheck : env.run (checkSync platform cr migrated) cluster =
      (.ok due, checked))
    (hlist : env.run (listConfigSecrets cr) checked =
      (.ok secrets, listed)) : configSecrets cr cluster = secrets := by
  have hreads : WritesKinds [] (checkSync platform cr migrated) :=
    fun _ hallowed => hallowed.checkSync platform cr migrated
  have hkept : configSecrets cr checked = configSecrets cr cluster := by
    unfold configSecrets World.select
    rw [hreads.objects_eq hcheck List.not_mem_nil]
  rw [← hkept]
  exact (run_listConfigSecrets_eq_ok hlist).symm

theorem repositories_of_run_prepare
    (hrun : env.run (prepare platform cr migrated) cluster =
      (.ok (.load repos), after)) :
    repos = (newNames [] (configSecrets cr cluster)).map fun item =>
      (item.1.name, repositoryInfo item.2
        (lastSource (configSecrets cr cluster))) := by
  obtain ⟨checked, secrets, listed, written, hcheck, hlist, hwrite, -⟩ :=
    run_prepare_eq_load hrun
  obtain rfl := secrets_of_run_prepare hcheck hlist
  simpa using run_collectRepositories_eq_ok hwrite

/-! ## The indexes of a pass -/

/-- The index is what a run loads for the repository of the secret. -/
def LoadedFrom (platform : Platform) (env : Surroundings)
    (cr : Observability) (item : ListedSecret) (index : RepositoryIndex) :
    Prop :=
  ∃ before after,
    env.run (loadIndex platform cr
      (repositoryInfo item.2 index.source)) before = (.ok index, after)

/-- The index points to this very secret. -/
def OwnSource (item : ListedSecret) (index : RepositoryIndex) : Prop :=
  index.source = some ⟨item.1, item.2⟩

/-- The indexes of a pass are those of the first secrets of each name, and all
of them point to the last secret. -/
theorem indexes_of_run {order : IterationOrder} {loading : Cluster}
    (hprepare : env.run (prepare platform cr migrated) cluster =
      (.ok (.load repos), loading))
    (hcollect : env.run (collectIndexes platform cr order repos)
      loading = (.ok indexes, after)) :
    ∃ items, FirstSecrets (configSecrets cr cluster) items ∧
      List.Forall₂ (LoadedFrom platform env cr) items indexes ∧
      ∀ index ∈ indexes,
        index.source = lastSource (configSecrets cr cluster) := by
  generalize hsecrets : configSecrets cr cluster = secrets
  have hrepos := repositories_of_run_prepare hprepare
  rw [hsecrets] at hrepos
  let info (item : ListedSecret) : RepositoryInfo :=
    repositoryInfo item.2 (lastSource secrets)
  have hperm : (order.arrange (repos.map Prod.snd)).Perm
      ((newNames [] secrets).map info) := by
    refine (order.perm _).trans (.of_eq ?_)
    rw [hrepos, List.map_map]
    rfl
  have hloaded := run_collect_forall₂
    (fun (repo : RepositoryInfo) (index : RepositoryIndex) =>
      ∃ before after, env.run (loadIndex platform cr repo) before =
        (.ok index, after))
    (fun repo _ before after index hrun => ⟨before, after, hrun⟩) hcollect
  obtain ⟨items, harranged, hitems⟩ := exists_map_eq_of_perm_map hperm
  rw [harranged, List.forall₂_map_left_iff] at hloaded
  have hpairs : List.Forall₂ (fun item (index : RepositoryIndex) =>
      LoadedFrom platform env cr item index ∧
        index.source = lastSource secrets) items indexes := by
    refine hloaded.imp fun item index ⟨before, after, hrun⟩ => ?_
    have hsource := source_of_run_loadIndex hrun
    refine ⟨⟨before, after, ?_⟩, hsource⟩
    rw [hsource]
    exact hrun
  refine ⟨items, firstSecrets_of_perm hitems, hpairs.imp fun _ _ => And.left,
    fun index hindex => ?_⟩
  obtain ⟨item, -, -, hsource⟩ := exists_of_forall₂ hpairs.flip hindex
  exact hsource

/-- The indexes are those of the first secrets of each name, and each of them
points to its own. -/
def KeepsSources (platform : Platform) (env : Surroundings)
    (cr : Observability) (secrets : List ListedSecret)
    (indexes : List RepositoryIndex) : Prop :=
  ∃ items, FirstSecrets secrets items ∧
    List.Forall₂ (fun item index =>
      LoadedFrom platform env cr item index ∧ OwnSource item index)
      items indexes

theorem lastSource_eq_of_length_le (hlength : secrets.length ≤ 1)
    (hitem : item ∈ secrets) : lastSource secrets = some ⟨item.1, item.2⟩ := by
  match secrets with
  | [] => cases hitem
  | [only] =>
    rw [List.mem_singleton.mp hitem]
    rfl
  | _ :: _ :: _ => simp at hlength

theorem lastSource_ne_first {first second : ListedSecret}
    {rest : List ListedSecret}
    (hnodup : ((first :: second :: rest).map Prod.fst).Nodup) :
    lastSource (first :: second :: rest) ≠ some ⟨first.1, first.2⟩ := by
  intro hlast
  unfold lastSource at hlast
  rw [List.getLast?_cons_cons] at hlast
  obtain ⟨last, hfound, hsource⟩ := Option.map_eq_some_iff.mp hlast
  have hmem : last ∈ second :: rest := List.mem_of_getLast? hfound
  rw [List.map_cons, List.nodup_cons] at hnodup
  refine hnodup.1 (List.mem_map.mpr ⟨last, hmem, ?_⟩)
  exact congrArg ConfigSource.key hsource

theorem keepsSources_iff {items : List ListedSecret}
    (hnodup : (secrets.map Prod.fst).Nodup)
    (hitems : FirstSecrets secrets items)
    (hloaded : List.Forall₂ (LoadedFrom platform env cr) items indexes)
    (hsources : ∀ index ∈ indexes, index.source = lastSource secrets) :
    KeepsSources platform env cr secrets indexes ↔ secrets.length ≤ 1 := by
  constructor
  · rintro ⟨owners, howners, hpairs⟩
    match secrets with
    | [] => simp
    | [_] => simp
    | first :: second :: rest =>
      have hfirst : first ∈ owners :=
        (howners.mem_iff first).mpr (firstOfName_head first _)
      obtain ⟨index, hindex, -, hown⟩ := exists_of_forall₂ hpairs hfirst
      exact absurd ((hsources index hindex).symm.trans hown)
        (lastSource_ne_first hnodup)
  · intro hlength
    refine ⟨items, hitems, ?_⟩
    rw [List.forall₂_iff_zip] at hloaded ⊢
    refine ⟨hloaded.1, fun {item index} hpair => ⟨hloaded.2 hpair, ?_⟩⟩
    obtain ⟨hitem, hindex⟩ := List.of_mem_zip hpair
    have hlisted : item ∈ secrets :=
      List.mem_of_find?_eq_some ((hitems.mem_iff item).mp hitem)
    exact (hsources index hindex).trans
      (lastSource_eq_of_length_le hlength hlisted)

/-! ## The secrets that are marked -/

def acceptedSecret (source : ConfigSource) : Resource SecretSpec :=
  { source.secret with
    annotations := source.secret.annotations.set
      "observability-operator/status" "accepted" }

def isAccepted : Option (Resource SecretSpec) → Bool
  | none => false
  | some secret =>
    secret.annotations.get? "observability-operator/status" == some "accepted"

def acceptedIndexes (platform : Platform) (env : Surroundings)
    (cr : Observability) :
    List RepositoryIndex → Cluster → List RepositoryIndex
  | [], _ => []
  | index :: rest, cluster =>
    let next := (env.run (completeObservatoria platform cr index) cluster).2
    let others := acceptedIndexes platform env cr rest next
    match (env.run (reconcileObservatoria platform cr index) cluster).1 with
    | .ok (left, .ok ()) => left :: others
    | _ => others

/-- Every write that marks a source secret as accepted goes through. -/
def MarksSucceed (platform : Platform) (env : Surroundings)
    (cr : Observability) (indexes : List RepositoryIndex)
    (cluster : Cluster) : Prop :=
  ∀ index ∈ indexes, ∀ source, index.source = some source →
    ∀ (reply : Except ApiError Unit) (after : Cluster),
      (⟨.update .secret source.key (acceptedSecret source), reply, after⟩ :
        Event (ApiCall.Reply Kind.Spec Action.Reply) Cluster) ∈
          env.events (completeIndexes platform cr indexes) cluster →
        reply = .ok ()

theorem isAccepted_acceptedSecret (source : ConfigSource) :
    isAccepted (some (acceptedSecret source)) = true := by
  simp [isAccepted, acceptedSecret]

def KeepsMarks {α : Type} (env : Surroundings) (program : Go α) :
    Prop :=
  ∀ key value, program.Maintains (serve env.environment)
    fun state => isAccepted (state.find .secret key) = value

theorem keepsMarks_of_writesKinds (hprogram : WritesKinds [] program) :
    KeepsMarks env program :=
  fun key value => Program.Uses.maintains hprogram.uses
    fun call hcall state hstate => by
      rw [serve_find _ fun hwrites => List.not_mem_nil (hcall _ _ hwrites)]
      exact hstate

theorem keepsMarks_done (value : α) : KeepsMarks env (.done value) :=
  keepsMarks_of_writesKinds (writesKinds_done _)

theorem KeepsMarks.bind {β : Type} {next : α → Go β}
    (hprogram : KeepsMarks env program)
    (hnext : ∀ value, KeepsMarks env (next value)) :
    KeepsMarks env (program.bind next) :=
  fun key value => (hprogram key value).bind fun result =>
    hnext result key value

theorem KeepsMarks.attempt (hprogram : KeepsMarks env program) :
    KeepsMarks env program.attempt :=
  fun key value => (hprogram key value).attempt

theorem keepsMarks_saveToken (config : ObservatoriumIndex) (token : String)
    (lifetime : Int) : KeepsMarks env (saveToken cr config token lifetime) := by
  intro key value
  refine .wrapping (.bind ?_ fun _ _ hstate => hstate)
  by_cases hkey : key = ⟨cr.ns, getObservatoriumTokenSecretName config⟩
  · subst hkey
    exact upsert_maintains_view
      (fun secret : Option (Resource (Kind.Spec .secret)) =>
        isAccepted secret) value (fun _ => rfl) rfl
  · have huses : (upsert Kind.secret
        ⟨cr.ns, getObservatoriumTokenSecretName config⟩ Kind.secret.blank
        (tokenSecret token lifetime) : Go _).Uses
          fun call => ¬ call.Writes .secret key :=
      upsert_uses (fun hwrites => hwrites)
        (fun _ hwrites => hkey hwrites.2.symm)
        fun _ hwrites => hkey hwrites.2.symm
    refine huses.maintains fun call hcall state hstate => ?_
    rw [serve_find _ hcall]
    exact hstate

theorem keepsMarks_reconcileToken (observatorium : ObservatoriumIndex) :
    KeepsMarks env (reconcileToken platform cr observatorium) := by
  unfold reconcileToken
  split
  · exact keepsMarks_done _
  · refine .bind (keepsMarks_of_writesKinds
      (writesKinds_findToken _).wrapping) fun found => .bind ?_ fun expired => ?_
    · split
      · exact keepsMarks_done _
      · exact keepsMarks_of_writesKinds (writesKinds_authTokenExpires _)
    · split
      · refine .bind (keepsMarks_of_writesKinds
          (writesKinds_refreshToken _ _).attempt) fun renewed => ?_
        split
        · exact keepsMarks_done _
        · exact .bind (keepsMarks_saveToken _ _ _).attempt
            fun _ => keepsMarks_done _
      · exact keepsMarks_done _

theorem keepsMarks_reconcileEntries (observatoria : List ObservatoriumIndex) :
    KeepsMarks env (reconcileEntries platform cr observatoria) := by
  induction observatoria with
  | nil => exact keepsMarks_done _
  | cons observatorium rest ih =>
    refine .bind (keepsMarks_of_writesKinds
      (writesKinds_transformObservatorium _).attempt) fun transformed => ?_
    split
    · exact keepsMarks_done _
    · refine .bind (keepsMarks_reconcileToken _).attempt fun renewed => ?_
      split
      · exact keepsMarks_done _
      · exact .bind ih fun _ => keepsMarks_done _

theorem keepsMarks_reconcileObservatoria (index : RepositoryIndex) :
    KeepsMarks env (reconcileObservatoria platform cr index) := by
  unfold reconcileObservatoria
  split
  · exact keepsMarks_done _
  · split
    · exact keepsMarks_done _
    · refine .bind (keepsMarks_reconcileEntries _) fun outcome => ?_
      split <;> exact keepsMarks_done _

theorem KeepsMarks.isAccepted_eq {result : Except (Abort ApiError) α}
    (hprogram : KeepsMarks env program)
    (hrun : env.run program cluster = (result, after)) (key : ObjectKey) :
    isAccepted (after.find .secret key) =
      isAccepted (cluster.find .secret key) := by
  have hensures := ensures_iff.mp (hprogram key _ cluster rfl)
  cases result with
  | ok value => exact hensures.2.1 _ _ hrun
  | error abort => exact hensures.2.2 _ _ hrun

theorem isAccepted_of_run_stampConfigSource
    (hrun : env.run (stampConfigSource index) cluster = (.ok (), after))
    (hmark : ∀ source, index.source = some source →
      ∀ (reply : Except ApiError Unit) (marked : Cluster),
        (⟨.update .secret source.key (acceptedSecret source), reply,
          marked⟩ : Event (ApiCall.Reply Kind.Spec Action.Reply) Cluster) ∈
            env.events (stampConfigSource index) cluster →
          reply = .ok ()) (key : ObjectKey) :
    isAccepted (after.find .secret key) = true ↔
      isAccepted (cluster.find .secret key) = true ∨
        ∃ source, index.source = some source ∧ source.key = key := by
  unfold stampConfigSource at hrun hmark
  cases hsource : index.source with
  | none =>
    rw [hsource] at hrun
    cases hrun
    simp
  | some source =>
    rw [hsource] at hrun hmark
    have hreply : (serve env.environment (.update .secret
        source.key (acceptedSecret source)) cluster).1 = .ok () :=
      hmark source rfl _ _ List.mem_cons_self
    obtain rfl : (serve env.environment (.update .secret source.key
        (acceptedSecret source)) cluster).2 = after := congrArg Prod.snd hrun
    by_cases hkey : source.key = key
    · subst hkey
      rw [serve_update_of_ok hreply]
      simp [isAccepted_acceptedSecret]
    · have hkept := serve_find env.environment
        (fun hwrites : (ApiCall.update Kind.secret source.key
          (acceptedSecret source) : ApiCall Kind.Spec Action).Writes
            .secret key => hkey hwrites.2) cluster
      rw [hkept]
      simp [hkey]

theorem source_of_run_completeObservatoria
    (hrun : env.run (completeObservatoria platform cr index)
      cluster = (.ok completed, after)) : completed.source = index.source := by
  have hsame := withoutObservatoria_of_run_completeObservatoria hrun
  exact (RepositoryIndex.mk.inj hsame).2.2.2.1

theorem isAccepted_of_run_completeObservatoria
    (hrun : env.run (completeObservatoria platform cr index)
      cluster = (.ok completed, after))
    (hmark : ∀ source, index.source = some source →
      ∀ (reply : Except ApiError Unit) (marked : Cluster),
        (⟨.update .secret source.key (acceptedSecret source), reply,
          marked⟩ : Event (ApiCall.Reply Kind.Spec Action.Reply) Cluster) ∈
            env.events (completeObservatoria platform cr index)
              cluster → reply = .ok ()) (key : ObjectKey) :
    isAccepted (after.find .secret key) = true ↔
      isAccepted (cluster.find .secret key) = true ∨
        ∃ accepted ∈ acceptedIndexes platform env cr [index]
          cluster, ∃ source, accepted.source = some source ∧
            source.key = key := by
  have hsource := source_of_run_completeObservatoria hrun
  obtain ⟨result, between, hreconcile, hstamp⟩ :=
    run_completeObservatoria_eq_ok hrun
  have hkept :=
    (keepsMarks_reconcileObservatoria index).isAccepted_eq hreconcile key
  have haccepted : acceptedIndexes platform env cr [index] cluster =
      match result with
      | .ok () => [completed]
      | .error _ => [] := by
    simp only [acceptedIndexes, hreconcile]
    cases result <;> rfl
  rw [haccepted, ← hkept]
  rcases hstamp with ⟨error, rfl, rfl⟩ | ⟨rfl, hstamp⟩
  · simp
  · have hstamped : ∀ event ∈ env.events
        (stampConfigSource completed) between, event ∈ env.events
          (completeObservatoria platform cr index) cluster := by
      intro event hevent
      refine mem_events_bind_of_rest hreconcile ?_
      exact mem_events_bind_of_first hevent
    rw [isAccepted_of_run_stampConfigSource hstamp (fun source hfound reply
      marked hevent => hmark source (hsource ▸ hfound) reply marked
        (hstamped _ hevent)) key]
    simp

theorem acceptedIndexes_cons (index : RepositoryIndex)
    (rest : List RepositoryIndex) (cluster : Cluster) :
    acceptedIndexes platform env cr (index :: rest) cluster =
      acceptedIndexes platform env cr [index] cluster ++
        acceptedIndexes platform env cr rest
          (env.run (completeObservatoria platform cr index) cluster).2 := by
  simp only [acceptedIndexes]
  split <;> rfl

theorem isAccepted_of_run_completeIndexes {completed : List RepositoryIndex}
    (hrun : env.run (completeIndexes platform cr indexes) cluster =
      (.ok completed, after))
    (hmarks : MarksSucceed platform env cr indexes cluster) (key : ObjectKey) :
    isAccepted (after.find .secret key) = true ↔
      isAccepted (cluster.find .secret key) = true ∨
        ∃ accepted ∈ acceptedIndexes platform env cr indexes
          cluster, ∃ source, accepted.source = some source ∧
            source.key = key := by
  induction indexes generalizing cluster completed with
  | nil =>
    cases hrun
    simp [acceptedIndexes]
  | cons index rest ih =>
    obtain ⟨first, between, hfirst, htail⟩ := run_bind_eq_ok hrun
    obtain ⟨others, last, hrest, hdone⟩ := run_bind_eq_ok htail
    cases hdone
    have hnext : (env.run (completeObservatoria platform cr index)
        cluster).2 = between := congrArg Prod.snd hfirst
    have hmark := isAccepted_of_run_completeObservatoria hfirst
      (fun source hsource reply marked hevent =>
        hmarks index List.mem_cons_self source hsource reply marked
          (mem_events_bind_of_first hevent)) key
    have hlater := ih hrest fun other hother source hsource reply marked
      hevent => hmarks other (List.mem_cons_of_mem _ hother) source hsource
        reply marked (mem_events_bind_of_rest hfirst
          (mem_events_bind_of_first hevent))
    rw [hlater, hmark, acceptedIndexes_cons index rest, hnext, or_assoc]
    simp only [List.mem_append, or_and_right, exists_or]

/-- In a pass that comes to complete its indexes, these are loaded for the
first secret of each name, and the secrets they point to are marked as their
Observatoria are completed.  They point to the secrets they were loaded from
exactly if there is one secret at most. -/
theorem keepsSources_of_run {order : IterationOrder}
    {repos : List (String × RepositoryInfo)}
    {indexes completed : List RepositoryIndex}
    {loading loaded cleared : Cluster}
    (hprepare : env.run (prepare platform cr migrated) cluster =
      (.ok (.load repos), loading))
    (hcollect : env.run (collectIndexes platform cr order repos)
      loading = (.ok indexes, loaded))
    (hcomplete : env.run (completeIndexes platform cr indexes)
      cleared = (.ok completed, after))
    (hmarks : MarksSucceed platform env cr indexes cleared) :
    (∃ items, FirstSecrets (configSecrets cr cluster) items ∧
      List.Forall₂ (LoadedFrom platform env cr) items indexes) ∧
    (∀ key, isAccepted (after.find .secret key) = true ↔
      isAccepted (cleared.find .secret key) = true ∨
        ∃ accepted ∈ acceptedIndexes platform env cr indexes
          cleared, ∃ source, accepted.source = some source ∧ source.key = key) ∧
    (KeepsSources platform env cr (configSecrets cr cluster) indexes ↔
      (configSecrets cr cluster).length ≤ 1) := by
  obtain ⟨items, hitems, hloaded, hsources⟩ := indexes_of_run hprepare hcollect
  refine ⟨⟨items, hitems, hloaded⟩,
    isAccepted_of_run_completeIndexes hcomplete hmarks, ?_⟩
  exact keepsSources_iff (nodup_configSecrets cr cluster) hitems hloaded
    hsources

/-! ## The images of containers -/

def secretImage (item : ListedSecret) : String :=
  item.2.spec.data.get "repository" ++ ":" ++ item.2.spec.data.get "tag"

def isContainer (item : ListedSecret) : Bool :=
  !isGitHub (item.2.spec.data.get "repository")

/-- The deployment has one container, which runs the image. -/
def RunsImage (cluster : Cluster) (key : ObjectKey) (image : String) : Prop :=
  ∃ deployment, cluster.find .deployment key = some deployment ∧
    deployment.spec.pod.containers.map Container.image = [image]

theorem writesOnly_reconcileResourcesRoute :
    (reconcileResourcesRoute cr).Uses
      (ApiCall.WritesOnly fun kind _ => kind = .route) := by
  refine .bind (.attempt (upsert_uses_writesOnly_iff.mpr rfl)) fun written => ?_
  split
  · split
    · exact (Client.uses_perform _ _).mpr (ApiCall.writesOnly_perform _)
    · trivial
  · exact (Client.uses_perform _ _).mpr (ApiCall.writesOnly_perform _)
  · trivial

theorem runsImage_of_run_reconcileResources
    (hrun : env.run (reconcileResources platform cr image) cluster =
      (.ok (), after)) : RunsImage after (getResourcesDeployment cr) image := by
  obtain ⟨_, deployed, hdeploy, hrun⟩ := run_bind_eq_ok hrun
  obtain ⟨_, served, hserve, hrun⟩ := run_bind_eq_ok hrun
  obtain ⟨hfind, -, -⟩ := run_upsert_discarded_eq_ok hdeploy
  obtain ⟨-, -, hservice⟩ := run_upsert_discarded_eq_ok hserve
  have hroute : after.find .deployment (getResourcesDeployment cr) =
      served.find .deployment (getResourcesDeployment cr) := by
    split at hrun
    · exact Surroundings.find_of_writesOnly hrun
        writesOnly_reconcileResourcesRoute (by decide)
    · cases hrun
      rfl
  exact ⟨_, (hroute.trans (hservice _ _ (by simp))).trans hfind, rfl⟩

theorem runsImage_of_run_collectRepositories {current : Option String}
    (hsync : cr.externalSyncDisabled = false)
    (hcurrent : ∀ image ∈ current,
      RunsImage cluster (getResourcesDeployment cr) image)
    (hrun : env.run
      (collectRepositories platform cr source repos secrets) cluster =
        (.ok found, after)) :
    ∀ image ∈ (((newNames (repos.map Prod.fst) secrets).filter
        isContainer).map secretImage).getLast?.or current,
      RunsImage after (getResourcesDeployment cr) image := by
  induction secrets generalizing repos cluster current with
  | nil =>
    cases hrun
    simpa [newNames] using hcurrent
  | cons first rest ih =>
    unfold collectRepositories at hrun
    unfold newNames
    split at hrun
    next hseen =>
      rw [if_pos hseen]
      exact ih hcurrent hrun
    next hnew =>
      obtain ⟨_, written, hwrite, hrest⟩ := run_bind_eq_ok hrun
      rw [if_neg hnew]
      cases hcontainer : isContainer first with
      | true =>
        have himage : RunsImage written (getResourcesDeployment cr)
            (secretImage first) := by
          have hneeded : (!isGitHub (repositoryInfo first.2
              source).repository && !cr.externalSyncDisabled) = true := by
            rw [hsync, Bool.not_false, Bool.and_true]
            exact hcontainer
          rw [if_pos hneeded] at hwrite
          exact runsImage_of_run_reconcileResources hwrite
        have hwritten : ∀ image ∈ some (secretImage first),
            RunsImage written (getResourcesDeployment cr) image := by
          simpa using himage
        have hlast := ih hwritten hrest
        rw [List.filter_cons_of_pos hcontainer, List.map_cons,
          List.getLast?_cons]
        simpa using hlast
      | false =>
        have hskipped : ¬ (!isGitHub (repositoryInfo first.2
            source).repository && !cr.externalSyncDisabled) = true := by
          rw [hsync, Bool.not_false, Bool.and_true]
          exact Bool.not_eq_true _ ▸ hcontainer
        rw [if_neg hskipped] at hwrite
        cases hwrite
        rw [List.filter_cons_of_neg (by simp [hcontainer])]
        simpa using ih hcurrent hrest

def servingService (platform : Platform) (cr : Observability) : ObjectKey :=
  if platform.runningLocally then getResourcesService cr
  else resourcesHost cr

/-- The index of the secret is requested from a Service whose Deployment is
the one that is written for its image, and runs that image. -/
structure ReadsOwnImage (platform : Platform) (cr : Observability)
    (cluster : Cluster) (item : ListedSecret) : Prop where
  written : (reconcileResourcesDeployment cr (secretImage item)).Uses
    (ApiCall.WritesOnly fun kind key =>
      kind = .deployment ∧ key = servingService platform cr)
  running : RunsImage cluster (servingService platform cr) (secretImage item)

theorem servingService_eq_iff :
    getResourcesDeployment cr = servingService platform cr ↔
      platform.runningLocally = true ∨
        cr.getPrometheusOperatorNamespace = cr.ns := by
  unfold servingService
  split
  next hlocal => simp [hlocal, getResourcesDeployment, getResourcesService]
  next hcluster =>
    simp [hcluster, getResourcesDeployment, resourcesHost, eq_comm]

theorem writesOnly_reconcileResourcesDeployment_iff :
    (reconcileResourcesDeployment cr image).Uses
        (ApiCall.WritesOnly fun kind key =>
          kind = .deployment ∧ key = servingService platform cr) ↔
      platform.runningLocally = true ∨
        cr.getPrometheusOperatorNamespace = cr.ns := by
  rw [← servingService_eq_iff]
  constructor
  · intro huses
    exact (upsert_uses_writesOnly_iff.mp huses.of_bind).2
  · intro hkey
    exact .bind (upsert_uses_writesOnly_iff.mpr ⟨rfl, hkey⟩) fun _ => trivial

theorem runsImage_of_run_prepare
    (hrun : env.run (prepare platform cr migrated) cluster =
      (.ok (.load repos), after))
    (hitem : FirstOfName (configSecrets cr cluster) item)
    (hcontainer : isContainer item = true) :
    ∃ other, FirstOfName (configSecrets cr cluster) other ∧
      isContainer other = true ∧
      RunsImage after (getResourcesDeployment cr) (secretImage other) := by
  obtain ⟨checked, secrets, listed, written, hcheck, hlist, hwrite, hwait⟩ :=
    run_prepare_eq_load hrun
  obtain rfl := secrets_of_run_prepare hcheck hlist
  have hsync : cr.externalSyncDisabled = false := by
    by_contra hdisabled
    rw [FirstOfName, configSecrets,
      if_pos (Bool.eq_true_of_not_eq_false hdisabled)] at hitem
    cases hitem
  have hlast := runsImage_of_run_collectRepositories hsync
    (fun image himage => absurd himage (Option.not_mem_none image)) hwrite
  have hmem : item ∈ (newNames [] (configSecrets cr cluster)).filter
      isContainer :=
    List.mem_filter.mpr
      ⟨mem_newNames_iff.mpr ⟨List.not_mem_nil, hitem⟩, hcontainer⟩
  have hkept : after.find .deployment (getResourcesDeployment cr) =
      written.find .deployment (getResourcesDeployment cr) := by
    rcases hwait with rfl | ⟨status, hwait⟩
    · rfl
    · have hreads : WritesKinds [] (waitForResourcesDeployment cr) :=
        fun _ hallowed => hallowed.waitForResourcesDeployment cr
      exact hreads.find_eq hwait List.not_mem_nil _
  cases himages : (((newNames [] (configSecrets cr cluster)).filter
      isContainer).map secretImage).getLast? with
  | none =>
    rw [List.getLast?_eq_none_iff, List.map_eq_nil_iff] at himages
    rw [himages] at hmem
    cases hmem
  | some image =>
    obtain ⟨other, hother, rfl⟩ :=
      List.mem_map.mp (List.mem_of_getLast? himages)
    obtain ⟨hlisted, hothers⟩ := List.mem_filter.mp hother
    obtain ⟨deployment, hfind, hruns⟩ :=
      hlast (secretImage other) (by rw [List.map_nil, himages]; rfl)
    exact ⟨other, (mem_newNames_iff.mp hlisted).2, hothers, deployment,
      hkept.trans hfind, hruns⟩

theorem RunsImage.eq {key : ObjectKey} {other : String}
    (himage : RunsImage cluster key image)
    (hother : RunsImage cluster key other) : image = other := by
  obtain ⟨deployment, hfind, himage⟩ := himage
  obtain ⟨found, hfound, hother⟩ := hother
  obtain rfl : deployment = found := Option.some.inj (hfind ▸ hfound)
  simpa using himage.symm.trans hother

/-- When a pass comes to load the indexes, the container repositories are
requested from one Service, and each of them is read from its own image
exactly if all of them have the same image and the Service is in the namespace
of the custom resource. -/
theorem readsOwnImage_iff_of_run
    {repos : List (String × RepositoryInfo)} {loading : Cluster}
    (hprepare : env.run (prepare platform cr migrated) cluster =
      (.ok (.load repos), loading)) :
    (∀ repo ∈ repos, isGitHub repo.2.repository = false →
      platform.runningLocally = false →
        getResourcesUrl platform repo.2 cr = platform.urlParseRequestURI
          ("http://" ++ (servingService platform cr).name ++ "." ++
            (servingService platform cr).ns ++ ":8080" ++ "/" ++
              repo.2.channel)) ∧
    ((∀ item, FirstOfName (configSecrets cr cluster) item →
        isContainer item = true → ReadsOwnImage platform cr loading item) ↔
      ∀ item, FirstOfName (configSecrets cr cluster) item →
        isContainer item = true →
          (platform.runningLocally = true ∨
            cr.getPrometheusOperatorNamespace = cr.ns) ∧
          ∀ other, FirstOfName (configSecrets cr cluster) other →
            isContainer other = true →
              secretImage other = secretImage item) := by
  constructor
  · intro repo _ hcontainer hcluster
    simp [getResourcesUrl, hcontainer, hcluster, resourcesHost, servingService]
  constructor
  · intro howned item hitem hcontainer
    have hown := howned item hitem hcontainer
    refine ⟨writesOnly_reconcileResourcesDeployment_iff.mp hown.written,
      fun other hother hothers => ?_⟩
    exact (howned other hother hothers).running.eq hown.running
  · intro hsame item hitem hcontainer
    obtain ⟨hservice, himages⟩ := hsame item hitem hcontainer
    obtain ⟨other, hother, hothers, hruns⟩ :=
      runsImage_of_run_prepare hprepare hitem hcontainer
    refine ⟨writesOnly_reconcileResourcesDeployment_iff.mpr hservice, ?_⟩
    rw [← himages other hother hothers, ← servingService_eq_iff.mpr hservice]
    exact hruns

end Repositories

/-! ## Two secrets -/

def listingPlatform : Platform :=
  { Platform.plain with unmarshalIndex := fun _ => .ok ("kafka", none) }

def gitHubSecret (channel : String) : Resource SecretSpec :=
  { spec := { data :=
      [("repository", "https://api.github.com"), ("channel", channel)] } }

def twoSecretsCluster : Cluster :=
  (Cluster.empty.put .secret ⟨"managed", "first"⟩ (gitHubSecret "a")).put
    .secret ⟨"managed", "second"⟩ (gitHubSecret "b")

theorem twoSecrets_share_source :
    ∃ repos loading indexes loaded,
      answeringSurroundings.run (prepare listingPlatform selectingCr false)
        twoSecretsCluster = (.ok (.load repos), loading) ∧
      answeringSurroundings.run (collectIndexes listingPlatform selectingCr
        .given repos) loading = (.ok indexes, loaded) ∧
      indexes.map RepositoryIndex.source =
        [some ⟨⟨"managed", "first"⟩, gitHubSecret "a"⟩,
          some ⟨⟨"managed", "first"⟩, gitHubSecret "a"⟩] ∧
      ¬ KeepsSources listingPlatform answeringSurroundings selectingCr
        (configSecrets selectingCr twoSecretsCluster) indexes := by
  obtain ⟨repos, loading, indexes, loaded, hprepare, hcollect, hshared⟩ :
      ∃ repos loading indexes loaded,
      answeringSurroundings.run (prepare listingPlatform selectingCr false)
        twoSecretsCluster = (.ok (.load repos), loading) ∧
      answeringSurroundings.run (collectIndexes listingPlatform selectingCr
        .given repos) loading = (.ok indexes, loaded) ∧
      indexes.map RepositoryIndex.source =
        [some ⟨⟨"managed", "first"⟩, gitHubSecret "a"⟩,
          some ⟨⟨"managed", "first"⟩, gitHubSecret "a"⟩] :=
    ⟨_, _, _, _, rfl, rfl, rfl⟩
  obtain ⟨items, hitems, hloaded, hsources⟩ := indexes_of_run hprepare hcollect
  refine ⟨repos, loading, indexes, loaded, hprepare, hcollect, hshared, ?_⟩
  rw [keepsSources_iff (nodup_configSecrets _ _) hitems hloaded hsources]
  decide

def onlySource : ConfigSource :=
  ⟨⟨"managed", "configuration"⟩,
    { spec := { data := [("repository", "https://api.github.com")] } }⟩

def onlyIndex : RepositoryIndex where
  baseUrl := "https://api.github.com/"
  source := some onlySource
  id := "kafka"

theorem onlySecret_keeps_source :
    KeepsSources listingPlatform answeringSurroundings selectingCr
      (configSecrets selectingCr configuredCluster) [onlyIndex] := by
  have hmarks : MarksSucceed listingPlatform answeringSurroundings
      selectingCr [onlyIndex] configuredCluster := by
    intro index hindex source hsource reply after hevent
    cases List.mem_singleton.mp hindex
    cases hsource
    cases List.mem_singleton.mp hevent
    rfl
  obtain ⟨repos, loading, loaded, hprepare, hcollect⟩ : ∃ repos loading loaded,
      answeringSurroundings.run (prepare listingPlatform selectingCr false)
        configuredCluster = (.ok (.load repos), loading) ∧
      answeringSurroundings.run (collectIndexes listingPlatform selectingCr
        .given repos) loading = (.ok [onlyIndex], loaded) :=
    ⟨_, _, _, rfl, rfl⟩
  exact (keepsSources_of_run hprepare hcollect (Prod.ext rfl rfl)
    hmarks).2.2.mpr (by decide)

def containerSecret (tag : String) : Resource SecretSpec :=
  { spec := { data := [("repository", "quay.io/resources"), ("tag", tag)] } }

def containersCluster (firstTag secondTag : String) : Cluster :=
  ((Cluster.empty.put .secret ⟨"managed", "first"⟩
      (containerSecret firstTag)).put .secret ⟨"managed", "second"⟩
      (containerSecret secondTag)).put .deployment
      (getResourcesDeployment selectingCr) { spec := { readyReplicas := 1 } }

theorem containers_read_other_image :
    ∃ repos loading,
      answeringSurroundings.run (prepare listingPlatform selectingCr false)
        (containersCluster "1" "2") = (.ok (.load repos), loading) ∧
      FirstOfName (configSecrets selectingCr (containersCluster "1" "2"))
        (⟨"managed", "second"⟩, containerSecret "2") ∧
      isContainer (⟨"managed", "second"⟩, containerSecret "2") = true ∧
      ¬ ReadsOwnImage listingPlatform selectingCr loading
        (⟨"managed", "second"⟩, containerSecret "2") := by
  obtain ⟨repos, loading, hprepare, hruns⟩ : ∃ repos loading,
      answeringSurroundings.run (prepare listingPlatform selectingCr false)
        (containersCluster "1" "2") = (.ok (.load repos), loading) ∧
      RunsImage loading (servingService listingPlatform selectingCr)
        "quay.io/resources:1" := ⟨_, _, rfl, _, rfl, rfl⟩
  refine ⟨repos, loading, hprepare, rfl, rfl, fun hown => ?_⟩
  exact absurd (hown.running.eq hruns) (by decide)

theorem equalContainers_read_own_image :
    ∃ repos loading,
      answeringSurroundings.run (prepare listingPlatform selectingCr false)
        (containersCluster "1" "1") = (.ok (.load repos), loading) ∧
      ReadsOwnImage listingPlatform selectingCr loading
        (⟨"managed", "second"⟩, containerSecret "1") := by
  obtain ⟨repos, loading, hprepare⟩ : ∃ repos loading,
      answeringSurroundings.run (prepare listingPlatform selectingCr false)
        (containersCluster "1" "1") = (.ok (.load repos), loading) :=
    ⟨_, _, rfl⟩
  have himage : ∀ item ∈ configSecrets selectingCr
      (containersCluster "1" "1"),
        secretImage item = "quay.io/resources:1" := by decide
  refine ⟨repos, loading, hprepare, (readsOwnImage_iff_of_run hprepare).2.mpr
    (fun item hitem _ => ⟨.inr rfl, fun other hother _ => ?_⟩) _ rfl rfl⟩
  rw [himage item (List.mem_of_find?_eq_some hitem),
    himage other (List.mem_of_find?_eq_some hother)]

end ObservabilityOperator
