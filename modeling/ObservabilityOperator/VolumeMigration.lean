import ObservabilityOperator.StageFootprints

/-!
# The volume of an older Prometheus

An older version of the operator has left a claim behind whose volume the new
Prometheus is to take over.  The volume is made to refer to the new claim while
the Prometheus is written, and the old claim is deleted afterwards.
-/

namespace ObservabilityOperator

open Program

section

variable (cr : Observability)

def oldClaimKey : ObjectKey :=
  ⟨cr.getPrometheusOperatorNamespace, oldPrometheusClaim⟩

def newClaimKey : ObjectKey :=
  ⟨cr.getPrometheusOperatorNamespace,
    "managed-services-prometheus-obs-prometheus-0"⟩

def volumeOf (claim : Resource PersistentVolumeClaimSpec) : ObjectKey :=
  ⟨"", claim.spec.volumeName⟩

def listedClaims (cluster : Cluster) :
    List (ObjectKey × Resource PersistentVolumeClaimSpec) :=
  cluster.select .persistentVolumeClaim
    { ns := some cr.getPrometheusOperatorNamespace }

/-- The volume of the claim that is listed last. -/
def listedVolume (cluster : Cluster) : ObjectKey :=
  ⟨"", match (listedClaims cr cluster).getLast? with
    | some claim => claim.2.spec.volumeName
    | none => ""⟩

/-- The search says whether the old claim is listed, and if it is, which
volume that claim has. -/
structure FindsOldVolume
    (claims : List (ObjectKey × Resource PersistentVolumeClaimSpec))
    (found : Bool × String) : Prop where
  listed : (∃ volumeName, found = (true, volumeName)) ↔
    ∃ claim ∈ claims, claim.1.name = oldPrometheusClaim
  volumeName : ∀ claim ∈ claims, claim.1.name = oldPrometheusClaim →
    found.2 = claim.2.spec.volumeName

/-- The claim that is listed last has the volume of the old claim. -/
def LastSharesVolume
    (claims : List (ObjectKey × Resource PersistentVolumeClaimSpec)) : Prop :=
  ∀ claim ∈ claims, claim.1.name = oldPrometheusClaim →
    ∀ last, claims.getLast? = some last →
      last.2.spec.volumeName = claim.2.spec.volumeName

def prometheusStorageRequest : Option StorageSpec :=
  cr.spec.storage.bind Storage.prometheusStorageSpec

def withNewClaim (volume : Resource PersistentVolumeSpec) :
    Resource PersistentVolumeSpec :=
  { volume with
    spec := { volume.spec with claimRef := some (newClaimKey cr) } }

/-- If the volume is there, it is bound to the new claim. -/
def RefersToNewClaim (cluster : Cluster) (key : ObjectKey) : Prop :=
  ∀ volume, cluster.find .persistentVolume key = some volume →
    volume.spec.claimRef = some (newClaimKey cr)

def claimRefAt (cluster : Cluster) (key : ObjectKey) :
    Option (Option ObjectKey) :=
  (cluster.find .persistentVolume key).map fun volume =>
    volume.spec.claimRef

/-- The volume refers to the new claim, and all others to what they referred
to before. -/
structure VolumeHandedOver (key : ObjectKey) (before state : Cluster) :
    Prop where
  rebound : RefersToNewClaim cr state key
  others : ∀ other, other ≠ key → claimRefAt state other = claimRefAt before other

/-- Whenever the old claim is deleted, its volume has been handed over. -/
def OldVolumeSurvives (cluster : Cluster) : Prop :=
  ∀ claim,
    cluster.find .persistentVolumeClaim (oldClaimKey cr) = some claim →
    ∀ platform indexes configHash env,
      ∀ event ∈ Surroundings.events env
          (reconcilePrometheus platform cr indexes configHash) cluster,
        event.op = .delete .persistentVolumeClaim (oldClaimKey cr) →
          VolumeHandedOver cr (volumeOf claim) cluster event.after

/-- Without a request for storage the volume has been handed over before.
With one, it is the volume of the claim that is listed last, or there is no
such volume, or both have been handed over before. -/
def HandsOverOldVolume (cluster : Cluster) : Prop :=
  ∀ claim,
    cluster.find .persistentVolumeClaim (oldClaimKey cr) = some claim →
    match prometheusStorageRequest cr with
    | none => RefersToNewClaim cr cluster (volumeOf claim)
    | some _ =>
      listedVolume cr cluster = volumeOf claim ∨
        cluster.find .persistentVolume (listedVolume cr cluster) = none ∨
        RefersToNewClaim cr cluster (listedVolume cr cluster) ∧
          RefersToNewClaim cr cluster (volumeOf claim)

end

section Migration

variable {platform : Platform} {env : Surroundings}
  {cr : Observability} {indexes : List RepositoryIndex} {configHash : String}
  {cluster after : Cluster} {claim : Resource PersistentVolumeClaimSpec}

/-! ## Taking over the volume -/

theorem run_existingPVC {found : Bool × String}
    (hrun : env.run (existingPVC cr) cluster = (.ok found, after)) :
    found = ((listedClaims cr cluster).any
        (fun claim => claim.1.name = oldPrometheusClaim),
      (listedVolume cr cluster).name) ∧ after = cluster.advance := by
  unfold existingPVC at hrun
  obtain ⟨reply, listed, hlist, hrun⟩ := run_bind_eq_ok hrun
  obtain ⟨claims, _, hclaims, hdone⟩ := run_bind_eq_ok hrun
  obtain ⟨rfl, rfl⟩ := run_listed_eq_ok
    ((run_bind_ok hlist).trans (run_wrapping_eq_ok.mp hclaims))
  cases hdone
  exact ⟨rfl, rfl⟩

theorem listedVolume_of_getLast?
    {last : ObjectKey × Resource PersistentVolumeClaimSpec}
    (hlast : (listedClaims cr cluster).getLast? = some last) :
    (listedVolume cr cluster).name = last.2.spec.volumeName := by
  simp only [listedVolume, hlast]

theorem run_existingPVC_eq_ok {found : Bool × String}
    (hclaim : cluster.find .persistentVolumeClaim (oldClaimKey cr) = some claim)
    (hrun : env.run (existingPVC cr) cluster = (.ok found, after)) :
    found = (true, (listedVolume cr cluster).name) ∧
      after = cluster.advance := by
  obtain ⟨rfl, rfl⟩ := run_existingPVC hrun
  have hmember : (oldClaimKey cr, claim) ∈ listedClaims cr cluster := by
    rw [listedClaims, World.mem_select_iff]
    exact ⟨hclaim, by simp [ListOptions.selects, oldClaimKey]⟩
  refine ⟨?_, rfl⟩
  rw [Prod.mk.injEq]
  refine ⟨List.any_eq_true.mpr ⟨_, hmember, ?_⟩, rfl⟩
  simp [oldClaimKey]

theorem run_useExistingPVForVolumeClaim_eq_ok {name : String}
    {storage : StorageSpec}
    (hrun : env.run (useExistingPVForVolumeClaim cr name) cluster =
      (.ok storage, after)) :
    ∃ volume, cluster.find .persistentVolume ⟨"", name⟩ = some volume ∧
      after.find .persistentVolume ⟨"", name⟩ = some (withNewClaim cr volume) ∧
      ∀ key, key ≠ ⟨"", name⟩ →
        after.find .persistentVolume key =
          cluster.find .persistentVolume key := by
  obtain ⟨volume, hvolume, hrun⟩ := run_get_eq_ok hrun
  have hdone := run_update_eq_ok hrun
  cases hdone
  refine ⟨volume, hvolume, ?_, ?_⟩
  · simp [withNewClaim, newClaimKey]
  · intro key hkey
    rw [World.find_advance,
      World.find_put_of_ne _ _ fun hsame => hkey hsame.2.symm,
      World.find_advance]

def VolumesWritten (cr : Observability) (before after : Cluster) : Prop :=
  match prometheusStorageRequest cr with
  | none => ∀ key, after.find .persistentVolume key =
      before.find .persistentVolume key
  | some _ => ∃ volume,
      before.find .persistentVolume (listedVolume cr before) = some volume ∧
        after.find .persistentVolume (listedVolume cr before) =
          some (withNewClaim cr volume) ∧
        ∀ key, key ≠ listedVolume cr before →
          after.find .persistentVolume key = before.find .persistentVolume key

theorem VolumesWritten.congr {start last : Cluster}
    (hwritten : VolumesWritten cr cluster after)
    (hclaims : cluster.objects .persistentVolumeClaim =
      start.objects .persistentVolumeClaim)
    (hbefore : ∀ key, cluster.find .persistentVolume key =
      start.find .persistentVolume key)
    (hafter : ∀ key, last.find .persistentVolume key =
      after.find .persistentVolume key) : VolumesWritten cr start last := by
  have hlisted : listedVolume cr cluster = listedVolume cr start := by
    simp only [listedVolume, listedClaims, World.select, hclaims]
  unfold VolumesWritten at hwritten ⊢
  split
  next hnone =>
    rw [hnone] at hwritten
    intro key
    rw [hafter, hwritten, hbefore]
  next storage hsome =>
    rw [hsome] at hwritten
    simpa only [hlisted, hbefore, hafter] using hwritten

theorem volumesWritten_of_run_prometheusStorage {storage : Option StorageSpec}
    (hrun : env.run (prometheusStorage platform cr indexes) cluster =
      (.ok storage, after))
    (hclaim : cluster.find .persistentVolumeClaim (oldClaimKey cr) =
      some claim) : VolumesWritten cr cluster after := by
  unfold prometheusStorage at hrun
  unfold VolumesWritten prometheusStorageRequest
  cases hrequest : cr.spec.storage.bind Storage.prometheusStorageSpec with
  | none =>
    simp only [hrequest] at hrun
    cases hrun
    exact fun _ => rfl
  | some request =>
    simp only [hrequest] at hrun
    obtain ⟨⟨found, name⟩, listed, hsearch, hrun⟩ := run_bind_eq_ok hrun
    obtain ⟨hfound, rfl⟩ := run_existingPVC_eq_ok hclaim hsearch
    cases hfound
    obtain ⟨spec, written, huse, hdone⟩ := run_bind_eq_ok hrun
    cases hdone
    have hused := run_useExistingPVForVolumeClaim_eq_ok huse
    exact hused

/-! ## Deleting the claim -/

def writePrometheus (platform : Platform) (cr : Observability)
    (indexes : List RepositoryIndex) (configHash : String) :
    Go (Resource PrometheusSpec) :=
  (getRouteHost (getPrometheusRoute cr)).bind fun host =>
    (remoteWriteTargets platform cr indexes).bind fun targets =>
      createOrUpdate Kind.prometheus (getPrometheus cr)
        Kind.prometheus.blank fun prometheus =>
          (assignLabels [("app", "prometheus")]).bind fun _ =>
            (prometheusStorage platform cr indexes).bind fun storage =>
              .done { prometheus with
                spec := prometheusSpec cr indexes configHash host targets
                  storage }

theorem reconcilePrometheus_eq :
    reconcilePrometheus platform cr indexes configHash =
      (writePrometheus platform cr indexes configHash).bind fun _ =>
        removePVCPostMigration cr := by
  simp only [writePrometheus, Program.bind_assoc]
  rfl

theorem writesKinds_writePrometheus :
    WritesKinds [.prometheus, .persistentVolume]
      (writePrometheus platform cr indexes configHash) := by
  refine .bind (writesKinds_getRouteHost _) fun host =>
    .bind (writesKinds_remoteWriteTargets _) fun targets =>
      writesKinds_createOrUpdate (by decide) fun object => ?_
  exact .bind writesKinds_assignLabels fun _ =>
    .bind (writesKinds_prometheusStorage (by decide) _) fun _ =>
      writesKinds_done _

theorem exists_run_useExistingPVForVolumeClaim
    (hfaultless : env.environment.Faultless) {name : String}
    {volume : Resource PersistentVolumeSpec}
    (hvolume : cluster.find .persistentVolume ⟨"", name⟩ = some volume) :
    ∃ storage after, env.run (useExistingPVForVolumeClaim cr name)
      cluster = (.ok storage, after) := by
  refine ⟨{ claimName := "managed-services"
            volumeName := name
            requests := some volume.spec.capacity },
    (cluster.advance.put .persistentVolume ⟨"", name⟩
      (withNewClaim cr volume)).advance, ?_⟩
  simp [useExistingPVForVolumeClaim, Surroundings.run, hfaultless _ _,
    withFault, World.read, hvolume, Client.orFail, World.changeReply,
    World.settle, World.effect, withNewClaim, newClaimKey]

theorem exists_run_getRouteHost
    (hfaultless : env.environment.Faultless) (key : ObjectKey)
    (cluster : Cluster) :
    ∃ host, env.run (getRouteHost key) cluster =
      (.ok host, cluster.advance) := by
  unfold getRouteHost
  simp only [bind_eq_bind]
  rw [Surroundings.run, run_get_bind, hfaultless]
  cases hfind : cluster.find .route key with
  | none => exact ⟨"", by simp [withFault, World.read, hfind]⟩
  | some route => exact ⟨_, by simp only [withFault, World.read, hfind]; rfl⟩

section

variable (hclaim : cluster.find .persistentVolumeClaim (oldClaimKey cr) =
  some claim)
include hclaim

theorem volumesWritten_of_run_writePrometheus
    {prometheus : Resource PrometheusSpec}
    (hrun : env.run
      (writePrometheus platform cr indexes configHash) cluster =
        (.ok prometheus, after)) : VolumesWritten cr cluster after := by
  obtain ⟨host, routed, hroute, hrun⟩ := run_bind_eq_ok hrun
  obtain ⟨targets, targeted, htargets, hrun⟩ := run_bind_eq_ok hrun
  obtain ⟨between, hmutate, hafter⟩ := run_createOrUpdate_eq_ok hrun
  obtain ⟨_, labelled, hlabels, hmutate⟩ := run_bind_eq_ok hmutate
  obtain ⟨storage, written, hstorage, hdone⟩ := run_bind_eq_ok hmutate
  cases hdone
  cases hlabels
  have hkept {kind : Kind} : targeted.objects kind = cluster.objects kind :=
    ((writesKinds_remoteWriteTargets _).objects_eq htargets
      List.not_mem_nil).trans
        ((writesKinds_getRouteHost _).objects_eq hroute List.not_mem_nil)
  have hfind {kind : Kind} (key : ObjectKey) :
      targeted.find kind key = cluster.find kind key := by
    rw [World.find, World.find, hkept]
  refine (volumesWritten_of_run_prometheusStorage hstorage
    ((hfind _).trans hclaim)).congr hkept hfind ?_
  intro key
  rcases hafter with rfl | ⟨rfl, -⟩
  · rw [World.find_advance, World.find_put_of_ne _ _ (by simp)]
  · rfl

theorem volumesWritten_of_mem_events
    {event : Event (ApiCall.Reply Kind.Spec Action.Reply) Cluster}
    (hevent : event ∈ env.events
      (reconcilePrometheus platform cr indexes configHash) cluster)
    (hop : event.op = .delete .persistentVolumeClaim (oldClaimKey cr)) :
    VolumesWritten cr cluster event.after := by
  rw [reconcilePrometheus_eq] at hevent
  rcases mem_events_bind hevent with
    hfirst | ⟨prometheus, written, hrun, hdelete⟩
  · have huses : (writePrometheus platform cr indexes configHash).Uses
        (DeletesNo .persistentVolumeClaim) :=
      writesKinds_writePrometheus.deletesNo (by decide)
    exact absurd hop (huses.of_mem_events hfirst _)
  · have hremove : WritesKinds [.persistentVolumeClaim]
        (removePVCPostMigration cr) :=
      writesKinds_deleteIfFound List.mem_cons_self _
    exact (volumesWritten_of_run_writePrometheus hclaim hrun).congr rfl
      (fun _ => rfl) fun key =>
        hremove.find_of_mem_events hdelete (by decide) key

theorem exists_run_prometheusStorage (hfaultless : env.environment.Faultless)
    (hvolume : prometheusStorageRequest cr = none ∨
      ∃ volume, cluster.find .persistentVolume (listedVolume cr cluster) =
        some volume) :
    ∃ storage after, env.run (prometheusStorage platform cr indexes)
      cluster = (.ok storage, after) := by
  unfold prometheusStorage
  unfold prometheusStorageRequest at hvolume
  cases hrequest : cr.spec.storage.bind Storage.prometheusStorageSpec with
  | none => exact ⟨none, cluster, rfl⟩
  | some request =>
    rw [hrequest] at hvolume
    obtain ⟨volume, hlisted⟩ := hvolume.resolve_left (by simp)
    obtain ⟨found, listed, hsearch⟩ :
        ∃ found after, env.run (existingPVC cr) cluster =
        (.ok found, after) := by
      simp [existingPVC, Surroundings.run, hfaultless _ _, withFault,
        Client.orFail, Program.wrapping, Program.recover]
    obtain ⟨rfl, rfl⟩ := run_existingPVC_eq_ok hclaim hsearch
    obtain ⟨storage, after, huse⟩ : ∃ storage after, env.run
        (useExistingPVForVolumeClaim cr (listedVolume cr cluster).name)
          cluster.advance = (.ok storage, after) :=
      exists_run_useExistingPVForVolumeClaim hfaultless hlisted
    refine ⟨some storage, after, ?_⟩
    simp only [bind_eq_bind]
    rw [Surroundings.run, run_bind_ok hsearch]
    exact (run_bind_ok huse).trans rfl

theorem exists_run_writePrometheus (hfaultless : env.environment.Faultless)
    (hvolume : prometheusStorageRequest cr = none ∨
      ∃ volume, cluster.find .persistentVolume (listedVolume cr cluster) =
        some volume) :
    ∃ prometheus written, env.run
      (writePrometheus platform cr [] configHash) cluster =
        (.ok prometheus, written) := by
  obtain ⟨host, hroute⟩ := exists_run_getRouteHost hfaultless
    (getPrometheusRoute cr) cluster
  have htargets : env.run (remoteWriteTargets platform cr [])
      cluster.advance = (.ok [], cluster.advance) := by
    unfold remoteWriteTargets
    split <;> rfl
  have hlabels : env.run (assignLabels [("app", "prometheus")])
      cluster.advance.advance = (.ok (), { cluster.advance.advance.advance with
        memory := { cluster.memory with labels := [("app", "prometheus")] } }) :=
    rfl
  obtain ⟨storage, stored, hstorage⟩ : ∃ storage after, env.run
      (prometheusStorage platform cr []) { cluster.advance.advance.advance with
        memory := { cluster.memory with labels := [("app", "prometheus")] } } =
          (.ok storage, after) :=
    exists_run_prometheusStorage hclaim hfaultless hvolume
  have hkept : stored.find .prometheus (getPrometheus cr) =
      cluster.find .prometheus (getPrometheus cr) := by
    have hkinds : WritesKinds [.persistentVolume]
        (prometheusStorage platform cr []) :=
      writesKinds_prometheusStorage List.mem_cons_self _
    exact hkinds.find_eq hstorage (by decide) _
  unfold writePrometheus
  rw [Surroundings.run, run_bind_ok hroute, run_bind_ok htargets]
  refine ⟨{ (cluster.find .prometheus (getPrometheus cr)).getD
      Kind.prometheus.blank with
    spec := prometheusSpec cr [] configHash host [] storage },
    exists_run_createOrUpdate hfaultless ?_ hkept⟩
  rw [run_bind_ok hlabels, run_bind_ok hstorage]
  rfl

end

theorem oldVolumeSurvives_of_handsOver
    (hcondition : HandsOverOldVolume cr cluster) :
    OldVolumeSurvives cr cluster := by
  intro claim hclaim platform indexes configHash env event hevent hop
  have hwritten := volumesWritten_of_mem_events hclaim hevent hop
  have hkept := hcondition claim hclaim
  unfold VolumesWritten at hwritten
  cases hrequest : prometheusStorageRequest cr with
  | none =>
    simp only [hrequest] at hwritten hkept
    constructor
    · intro volume hvolume
      rw [hwritten] at hvolume
      exact hkept volume hvolume
    · intro other _
      rw [claimRefAt, hwritten]
      rfl
  | some request =>
    simp only [hrequest] at hwritten hkept
    obtain ⟨volume, hvolume, hrebound, hothers⟩ := hwritten
    have hlisted : RefersToNewClaim cr event.after
        (listedVolume cr cluster) := by
      intro other hother
      rw [hrebound] at hother
      cases hother
      rfl
    rcases hkept with hsame | hmissing | ⟨hearlier, hold⟩
    · rw [← hsame]
      refine ⟨hlisted, fun other hne => ?_⟩
      rw [claimRefAt, hothers other hne]
      rfl
    · rw [hvolume] at hmissing
      cases hmissing
    · constructor
      · by_cases hsame : volumeOf claim = listedVolume cr cluster
        · rw [hsame]
          exact hlisted
        · intro other hother
          rw [hothers _ hsame] at hother
          exact hold other hother
      · intro other _
        by_cases hsame : other = listedVolume cr cluster
        · subst hsame
          rw [claimRefAt, claimRefAt, hrebound, hvolume]
          simp [withNewClaim, hearlier volume hvolume]
        · rw [claimRefAt, hothers other hsame]
          rfl

theorem handsOver_of_oldVolumeSurvives
    (hsurvives : OldVolumeSurvives cr cluster) :
    HandsOverOldVolume cr cluster := by
  intro claim hclaim
  have hreached (hvolume : prometheusStorageRequest cr = none ∨
      ∃ volume, cluster.find .persistentVolume (listedVolume cr cluster) =
        some volume) :
      ∃ state, VolumesWritten cr cluster state ∧
        VolumeHandedOver cr (volumeOf claim) cluster state := by
    obtain ⟨prometheus, written, hrun⟩ :
        ∃ prometheus written, Surroundings.quiet.run
        (writePrometheus Platform.plain cr [] "") cluster =
          (.ok prometheus, written) :=
      exists_run_writePrometheus hclaim (fun _ _ => rfl) hvolume
    have hdeletes : (reconcilePrometheus Platform.plain cr [] "").Issues
        (serve Surroundings.quiet.environment) cluster
          (.delete .persistentVolumeClaim (oldClaimKey cr)) := by
      rw [reconcilePrometheus_eq, issues_bind_of_ok hrun]
      exact .inr ⟨_, List.mem_cons_self, rfl⟩
    obtain ⟨event, hevent, hop⟩ := hdeletes
    exact ⟨event.after, volumesWritten_of_mem_events hclaim hevent hop,
      hsurvives claim hclaim _ _ _ _ event hevent hop⟩
  cases hrequest : prometheusStorageRequest cr with
  | none =>
    obtain ⟨state, hwritten, hhanded⟩ := hreached (.inl hrequest)
    simp only [VolumesWritten, hrequest] at hwritten
    intro volume hvolume
    rw [← hwritten] at hvolume
    exact hhanded.rebound volume hvolume
  | some request =>
    dsimp only
    by_cases hsame : listedVolume cr cluster = volumeOf claim
    · exact .inl hsame
    cases hlisted : cluster.find .persistentVolume
        (listedVolume cr cluster) with
    | none => exact .inr (.inl rfl)
    | some listed =>
      obtain ⟨state, hwritten, hhanded⟩ := hreached (.inr ⟨_, hlisted⟩)
      simp only [VolumesWritten, hrequest] at hwritten
      obtain ⟨volume, hvolume, hrebound, hothers⟩ := hwritten
      refine .inr (.inr ⟨?_, ?_⟩)
      · intro other hother
        have hclaimRef := hhanded.others _ hsame
        rw [claimRefAt, claimRefAt, hrebound, hother] at hclaimRef
        exact (Option.some.inj hclaimRef).symm
      · intro other hother
        rw [← hothers _ (Ne.symm hsame)] at hother
        exact hhanded.rebound other hother

/-- The old volume survives exactly if it is the one that is handed over, or
nothing is left to hand over. -/
theorem oldVolumeSurvives_iff :
    OldVolumeSurvives cr cluster ↔ HandsOverOldVolume cr cluster :=
  ⟨handsOver_of_oldVolumeSurvives, oldVolumeSurvives_of_handsOver⟩

end Migration

def storingCr : Observability :=
  { plainCr with
    spec := { storage := some { prometheusStorageSpec := some {} } } }

def claimedCluster : Cluster :=
  (((Cluster.empty.put .persistentVolume ⟨"", "metrics"⟩
    { spec := { claimRef := some (oldClaimKey storingCr) } }).put
      .persistentVolume ⟨"", "database"⟩
        { spec := { claimRef := some ⟨"managed", "database"⟩ } }).put
      .persistentVolumeClaim ⟨"managed", "database"⟩
        { spec := { volumeName := "database" } }).put
      .persistentVolumeClaim (oldClaimKey storingCr)
        { spec := { volumeName := "metrics" } }

/-- The old claim is deleted while its volume still refers to it, and the
volume of the other claim has been taken away. -/
theorem claimedCluster_loses_volume :
    ∃ after,
      Surroundings.quiet.run
        (reconcilePrometheus Platform.plain storingCr [] "") claimedCluster =
          (.ok (), after) ∧
      after.find .persistentVolumeClaim (oldClaimKey storingCr) = none ∧
      claimRefAt after ⟨"", "metrics"⟩ = some (some (oldClaimKey storingCr)) ∧
      claimRefAt after ⟨"", "database"⟩ = some (some (newClaimKey storingCr)) :=
  ⟨_, Prod.ext rfl rfl, by decide +kernel, by decide +kernel,
    by decide +kernel⟩

/-- The search finds the volume of the old claim exactly if the claim that is
listed last has this volume too. -/
theorem existingPVC_findsOldVolume_iff {env : Surroundings}
    {cr : Observability} {cluster after : Cluster} {found : Bool × String}
    (hrun : env.run (existingPVC cr) cluster = (.ok found, after)) :
    FindsOldVolume (listedClaims cr cluster) found ↔
      LastSharesVolume (listedClaims cr cluster) := by
  obtain ⟨rfl, -⟩ := run_existingPVC hrun
  constructor
  · intro hfinds claim hclaim hname last hlast
    rw [← hfinds.volumeName claim hclaim hname]
    exact (listedVolume_of_getLast? hlast).symm
  · intro hshares
    refine ⟨by simp, fun claim hclaim hname => ?_⟩
    have hnonempty : listedClaims cr cluster ≠ [] :=
      List.ne_nil_of_mem hclaim
    have hlast := List.getLast?_eq_some_getLast hnonempty
    rw [← hshares claim hclaim hname _ hlast]
    exact listedVolume_of_getLast? hlast

def reorderedCluster : Cluster :=
  (Cluster.empty.put .persistentVolumeClaim (oldClaimKey storingCr)
    { spec := { volumeName := "metrics" } }).put
      .persistentVolumeClaim ⟨"managed", "database"⟩
        { spec := { volumeName := "database" } }

/-- Of two claims the old one is listed last, and its volume is found. -/
theorem reorderedCluster_findsOldVolume :
    (Surroundings.quiet.run (existingPVC storingCr) reorderedCluster).1 =
        .ok (true, "metrics") ∧
      (listedClaims storingCr reorderedCluster).map (·.1.name) =
        ["database", oldPrometheusClaim] ∧
      FindsOldVolume (listedClaims storingCr reorderedCluster)
        (true, "metrics") := by
  have hrun : Surroundings.quiet.run (existingPVC storingCr)
      reorderedCluster = (.ok (true, "metrics"), _) := rfl
  refine ⟨rfl, rfl, (existingPVC_findsOldVolume_iff hrun).mpr ?_⟩
  rintro claim hclaim hname last hlast
  cases hlast
  rcases List.mem_cons.mp hclaim with rfl | hold
  · exact absurd hname (by decide)
  · rw [List.mem_singleton.mp hold]
    rfl

/-- The volume that is found belongs to another claim. -/
theorem claimedCluster_finds_other_volume :
    (Surroundings.quiet.run (existingPVC storingCr) claimedCluster).1 =
        .ok (true, "database") ∧
      ¬ FindsOldVolume (listedClaims storingCr claimedCluster)
        (true, "database") := by
  refine ⟨rfl, fun hfinds => ?_⟩
  have hname := hfinds.volumeName
    (oldClaimKey storingCr, { spec := { volumeName := "metrics" } })
    List.mem_cons_self rfl
  exact absurd hname (by decide)

end ObservabilityOperator
