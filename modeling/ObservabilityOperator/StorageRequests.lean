import ObservabilityOperator.RemoteWriteTargets
import ObservabilityOperator.VolumeMigration

/-!
# The storage that the custom resource asks for

The custom resource has a claim template for the Prometheus and one for the
Alertmanager, and the first index may override the size in either.  The
template of the Prometheus is replaced by a new one with nothing but a size,
which is the default size where the custom resource is not self-contained.  The
template of the Alertmanager is passed on as it is, and the size in the index
is parsed and forgotten.
-/

namespace ObservabilityOperator

open Program

def StorageSpec.requested (storage : StorageSpec) (name : String) :
    Option String :=
  storage.requests.bind fun requests => requests.get? name

/-- What is placed is what was asked for, with this size. -/
structure RequestsSize (asked placed : StorageSpec) (size : String) : Prop where
  size : placed.requested "storage" = some size
  requests : ∀ name, name ≠ "storage" →
    placed.requested name = asked.requested name
  claimName : placed.claimName = asked.claimName
  volumeName : placed.volumeName = asked.volumeName
  rest : placed.rest = asked.rest

inductive StoredInstance where
  | prometheus
  | alertmanager
  deriving DecidableEq, Repr

namespace StoredInstance

def asked (cr : Observability) : StoredInstance → Option StorageSpec
  | .prometheus => cr.spec.storage.bind Storage.prometheusStorageSpec
  | .alertmanager => cr.spec.storage.bind Storage.alertManagerStorageSpec

def sizeOverride (indexes : List RepositoryIndex) : StoredInstance → String
  | .prometheus =>
    match getPrometheusRepositoryIndexConfig indexes with
    | some config => config.overridePrometheusPvcSize
    | none => ""
  | .alertmanager =>
    match getAlertmanagerRepositoryIndexConfig indexes with
    | some config => config.overrideAlertmanagerPvcSize
    | none => ""

def specHelper (platform : Platform) (cr : Observability)
    (storage : StorageSpec) (indexes : List RepositoryIndex) :
    StoredInstance → Except String StorageSpec
  | .prometheus => getPrometheusStorageSpecHelper platform cr storage indexes
  | .alertmanager =>
    getAlertManagerStorageSpecHelper platform cr storage indexes

def write (platform : Platform) (cr : Observability)
    (indexes : List RepositoryIndex) (configHash : String) :
    StoredInstance → Go Unit
  | .prometheus => reconcilePrometheus platform cr indexes configHash
  | .alertmanager => reconcileAlertmanager platform cr indexes

def placed (cr : Observability) (state : Cluster) :
    StoredInstance → Option StorageSpec
  | .prometheus => (state.find .prometheus (getPrometheus cr)).bind
      fun prometheus => prometheus.spec.storage
  | .alertmanager => (state.find .alertmanager (getAlertmanagerCr cr)).bind
      fun alertmanager => alertmanager.spec.storage

end StoredInstance

def dueSize (platform : Platform) (sizeOverride size : String) :
    Except String String :=
  if sizeOverride ≠ "" then platform.parseQuantity sizeOverride else .ok size

/-- An override that cannot be parsed is an error, and if there is no error
then the template is placed with the size that is due. -/
def StorageHonoured (due : Except String String) (asked : StorageSpec)
    (result : Except (Abort ApiError) Unit) (placed : Option StorageSpec) :
    Prop :=
  match due with
  | .error _ => result ≠ .ok ()
  | .ok size => result = .ok () →
      ∃ spec, placed = some spec ∧ RequestsSize asked spec size

/-- The request is the default one but for its size. -/
structure AsksSizeOnly (asked : StorageSpec) : Prop where
  requests : ∀ name, name ≠ "storage" → asked.requested name = none
  claimName : asked.claimName = "managed-services"
  volumeName : asked.volumeName = ""
  rest : asked.rest = ""

/-- When the request for storage is honoured.  The size that is used for the
Prometheus without an override depends on the self-contained block. -/
def StoredInstance.HonoursWhen (platform : Platform) (cr : Observability)
    (asked : StorageSpec) (sizeOverride size : String) :
    StoredInstance → Prop
  | .prometheus => AsksSizeOnly asked ∧ (sizeOverride = "" →
      platform.parseQuantity
        (if cr.spec.selfContained.isSome then size else "250Gi") = .ok size)
  | .alertmanager => sizeOverride ≠ "" →
      platform.parseQuantity sizeOverride = .ok size

/-! ## The template that is generated -/

section Helper

variable {platform : Platform} {cr : Observability}
  {indexes : List RepositoryIndex} {asked placed : StorageSpec}
  {size due : String}

theorem StorageSpec.requestedSize_of_requested
    (hsize : asked.requested "storage" = some size) :
    asked.requestedSize = size := by
  unfold StorageSpec.requested at hsize
  unfold StorageSpec.requestedSize
  cases hrequests : asked.requests with
  | none => simp [hrequests] at hsize
  | some requests =>
    rw [hrequests, Option.bind_some] at hsize
    simp [hsize]

theorem getPrometheusStorageSize_eq (indexes : List RepositoryIndex)
    (hasked : StoredInstance.prometheus.asked cr = some asked)
    (hsize : asked.requested "storage" = some size) :
    getPrometheusStorageSize cr indexes =
      if StoredInstance.prometheus.sizeOverride indexes ≠ "" then
        StoredInstance.prometheus.sizeOverride indexes
      else if cr.spec.selfContained.isSome then size else "250Gi" := by
  have hstorage : cr.spec.storage.bind Storage.prometheusStorageSpec =
      some asked := hasked
  have hrequests : asked.requests.isSome = true := by
    cases hnone : asked.requests with
    | none => simp [StorageSpec.requested, hnone] at hsize
    | some requests => rfl
  have hrequested := StorageSpec.requestedSize_of_requested hsize
  unfold getPrometheusStorageSize StoredInstance.sizeOverride
  cases getPrometheusRepositoryIndexConfig indexes with
  | none =>
    cases cr.spec.selfContained with
    | none => rfl
    | some selfContained => simp [hstorage, hrequests, hrequested]
  | some config =>
    cases cr.spec.selfContained with
    | none => rfl
    | some selfContained => simp [hstorage, hrequests, hrequested]

theorem getAlertmanagerStorageSize_eq (indexes : List RepositoryIndex)
    (hasked : StoredInstance.alertmanager.asked cr = some asked)
    (hsize : asked.requested "storage" = some size) :
    getAlertmanagerStorageSize cr indexes =
      if StoredInstance.alertmanager.sizeOverride indexes ≠ "" then
        StoredInstance.alertmanager.sizeOverride indexes
      else size := by
  have hstorage : cr.spec.storage.bind Storage.alertManagerStorageSpec =
      some asked := hasked
  have hrequested := StorageSpec.requestedSize_of_requested hsize
  unfold getAlertmanagerStorageSize StoredInstance.sizeOverride
  cases getAlertmanagerRepositoryIndexConfig indexes with
  | none => simp [hstorage, hrequested]
  | some config => simp [hstorage, hrequested]

theorem requestsSize_self_iff (hsize : asked.requested "storage" = some size) :
    RequestsSize asked asked due ↔ size = due := by
  constructor
  · intro hrequests
    exact Option.some.inj (hsize.symm.trans hrequests.size)
  · rintro rfl
    exact ⟨hsize, fun _ _ => rfl, rfl, rfl, rfl⟩

theorem requestsSize_managed_iff {quantity : String} :
    RequestsSize asked
        { claimName := "managed-services"
          requests := some [("storage", quantity)] } due ↔
      AsksSizeOnly asked ∧ quantity = due := by
  have hother (name : String) (hname : name ≠ "storage") :
      StorageSpec.requested
        { claimName := "managed-services"
          requests := some [("storage", quantity)] } name = none := by
    have hkey : (name == "storage") = false := by simpa using hname
    simp [StorageSpec.requested, StringMap.get?, List.lookup_cons, hkey]
  constructor
  · intro hrequests
    refine ⟨⟨fun name hname => ?_, hrequests.claimName.symm,
      hrequests.volumeName.symm, hrequests.rest.symm⟩, ?_⟩
    · rw [← hrequests.requests name hname, hother name hname]
    · exact Option.some.inj hrequests.size
  · rintro ⟨honly, rfl⟩
    refine ⟨rfl, fun name hname => ?_, honly.claimName.symm,
      honly.volumeName.symm, honly.rest.symm⟩
    rw [hother name hname, honly.requests name hname]

theorem getPrometheusStorageSpecHelper_eq_ok
    (hsync : cr.externalSyncDisabled = false)
    (hnonempty : getPrometheusStorageSize cr indexes ≠ "")
    (hhelper : getPrometheusStorageSpecHelper platform cr asked indexes =
      .ok placed) :
    ∃ quantity,
      platform.parseQuantity (getPrometheusStorageSize cr indexes) =
        .ok quantity ∧
      placed = { claimName := "managed-services"
                 requests := some [("storage", quantity)] } := by
  rw [getPrometheusStorageSpecHelper, if_neg (by simp [hsync])] at hhelper
  simp only [if_neg hnonempty] at hhelper
  cases hparse : platform.parseQuantity
      (getPrometheusStorageSize cr indexes) with
  | error message => simp [hparse, Except.map] at hhelper
  | ok quantity =>
    rw [hparse] at hhelper
    cases hhelper
    exact ⟨quantity, rfl, rfl⟩

theorem getAlertManagerStorageSpecHelper_eq_ok
    (hnonempty : getAlertmanagerStorageSize cr indexes ≠ "")
    (hhelper : getAlertManagerStorageSpecHelper platform cr asked indexes =
      .ok placed) :
    placed = asked ∧ ∃ quantity,
      platform.parseQuantity (getAlertmanagerStorageSize cr indexes) =
        .ok quantity := by
  unfold getAlertManagerStorageSpecHelper at hhelper
  simp only [if_neg hnonempty] at hhelper
  cases hparse : platform.parseQuantity
      (getAlertmanagerStorageSize cr indexes) with
  | error message => simp [hparse, Except.map] at hhelper
  | ok quantity =>
    rw [hparse] at hhelper
    cases hhelper
    exact ⟨rfl, quantity, rfl⟩

theorem requestsSize_prometheus_iff (hsync : cr.externalSyncDisabled = false)
    (hasked : StoredInstance.prometheus.asked cr = some asked)
    (hsize : asked.requested "storage" = some size) (hnonempty : size ≠ "")
    (hhelper : getPrometheusStorageSpecHelper platform cr asked indexes =
      .ok placed) :
    ∃ due,
      dueSize platform (StoredInstance.prometheus.sizeOverride indexes) size =
        .ok due ∧
      (RequestsSize asked placed due ↔
        StoredInstance.prometheus.HonoursWhen platform cr asked
          (StoredInstance.prometheus.sizeOverride indexes) size) := by
  have hcustom := getPrometheusStorageSize_eq indexes hasked hsize
  by_cases hoverride : StoredInstance.prometheus.sizeOverride indexes = ""
  · rw [if_neg (not_not.mpr hoverride)] at hcustom
    have hsome : getPrometheusStorageSize cr indexes ≠ "" := by
      rw [hcustom]
      split
      · exact hnonempty
      · decide
    obtain ⟨quantity, hquantity, rfl⟩ :=
      getPrometheusStorageSpecHelper_eq_ok hsync hsome hhelper
    refine ⟨size, if_neg (not_not.mpr hoverride), ?_⟩
    rw [requestsSize_managed_iff, StoredInstance.HonoursWhen, ← hcustom,
      hquantity]
    simp [hoverride]
  · rw [if_pos hoverride] at hcustom
    obtain ⟨quantity, hquantity, rfl⟩ := getPrometheusStorageSpecHelper_eq_ok
      hsync (by rw [hcustom]; exact hoverride) hhelper
    rw [hcustom] at hquantity
    refine ⟨quantity, (if_pos hoverride).trans hquantity, ?_⟩
    rw [requestsSize_managed_iff, StoredInstance.HonoursWhen]
    simp [hoverride]

theorem requestsSize_alertmanager_iff
    (hasked : StoredInstance.alertmanager.asked cr = some asked)
    (hsize : asked.requested "storage" = some size) (hnonempty : size ≠ "")
    (hhelper : getAlertManagerStorageSpecHelper platform cr asked indexes =
      .ok placed) :
    ∃ due,
      dueSize platform (StoredInstance.alertmanager.sizeOverride indexes)
        size = .ok due ∧
      (RequestsSize asked placed due ↔
        StoredInstance.alertmanager.HonoursWhen platform cr asked
          (StoredInstance.alertmanager.sizeOverride indexes) size) := by
  have hcustom := getAlertmanagerStorageSize_eq indexes hasked hsize
  by_cases hoverride : StoredInstance.alertmanager.sizeOverride indexes = ""
  · rw [if_neg (not_not.mpr hoverride)] at hcustom
    obtain ⟨rfl, -⟩ := getAlertManagerStorageSpecHelper_eq_ok
      (by rw [hcustom]; exact hnonempty) hhelper
    refine ⟨size, if_neg (not_not.mpr hoverride), ?_⟩
    simp [requestsSize_self_iff hsize, StoredInstance.HonoursWhen, hoverride]
  · rw [if_pos hoverride] at hcustom
    obtain ⟨rfl, quantity, hquantity⟩ := getAlertManagerStorageSpecHelper_eq_ok
      (by rw [hcustom]; exact hoverride) hhelper
    rw [hcustom] at hquantity
    refine ⟨quantity, (if_pos hoverride).trans hquantity, ?_⟩
    rw [requestsSize_self_iff hsize, StoredInstance.HonoursWhen, hquantity]
    simp [hoverride, eq_comm]

theorem requestsSize_iff (stored : StoredInstance)
    (hsync : cr.externalSyncDisabled = false)
    (hasked : stored.asked cr = some asked)
    (hsize : asked.requested "storage" = some size) (hnonempty : size ≠ "")
    (hhelper : stored.specHelper platform cr asked indexes = .ok placed) :
    ∃ due, dueSize platform (stored.sizeOverride indexes) size = .ok due ∧
      (RequestsSize asked placed due ↔ stored.HonoursWhen platform cr asked
        (stored.sizeOverride indexes) size) := by
  cases stored with
  | prometheus =>
    exact requestsSize_prometheus_iff hsync hasked hsize hnonempty hhelper
  | alertmanager =>
    exact requestsSize_alertmanager_iff hasked hsize hnonempty hhelper

end Helper

/-! ## The template that is placed -/

section Placed

variable {platform : Platform} {env : Surroundings}
  {cr : Observability} {indexes : List RepositoryIndex} {configHash : String}
  {cluster after : Cluster} {asked : StorageSpec}

section

variable (hclaim : cluster.find .persistentVolumeClaim (oldClaimKey cr) = none)
include hclaim

theorem run_existingPVC_of_none {found : Bool × String}
    (hrun : env.run (existingPVC cr) cluster = (.ok found, after)) :
    found.1 = false := by
  obtain ⟨rfl, -⟩ := run_existingPVC hrun
  rw [List.any_eq_false]
  intro claim hmem hname
  obtain ⟨hfind, hselects⟩ := (cluster.mem_select_iff _ _ _ _).mp hmem
  have hkey : claim.1 = oldClaimKey cr := by
    rw [oldClaimKey, ObjectKey.mk.injEq]
    simp [ListOptions.selects] at hselects hname
    exact ⟨hselects, hname⟩
  rw [hkey, hclaim] at hfind
  cases hfind

theorem run_prometheusStorage_of_none {storage : Option StorageSpec}
    (hasked : StoredInstance.prometheus.asked cr = some asked)
    (hrun : env.run (prometheusStorage platform cr indexes) cluster =
      (.ok storage, after)) :
    ∃ placed, getPrometheusStorageSpecHelper platform cr asked indexes =
        .ok placed ∧ storage = some placed := by
  have hstorage : cr.spec.storage.bind Storage.prometheusStorageSpec =
      some asked := hasked
  unfold prometheusStorage at hrun
  simp only [hstorage] at hrun
  obtain ⟨⟨found, name⟩, listed, hsearch, hrun⟩ := run_bind_eq_ok hrun
  obtain rfl : found = false := run_existingPVC_of_none hclaim hsearch
  obtain ⟨placed, generated, hhelper, hdone⟩ := run_bind_eq_ok hrun
  cases hdone
  exact ⟨placed, (run_ofExcept_eq_ok hhelper).1, rfl⟩

theorem placed_of_run_reconcilePrometheus
    (hasked : StoredInstance.prometheus.asked cr = some asked)
    (hrun : env.run
      (reconcilePrometheus platform cr indexes configHash) cluster =
        (.ok (), after)) :
    ∃ placed, getPrometheusStorageSpecHelper platform cr asked indexes =
        .ok placed ∧
      StoredInstance.prometheus.placed cr after = some placed := by
  obtain ⟨host, targets, storage, prometheus, before, read, -, -, hfind, hspec,
    labelled, stored, hstorage, hobjects⟩ := run_reconcilePrometheus_eq_ok hrun
  have hnone : labelled.find .persistentVolumeClaim (oldClaimKey cr) =
      none := by
    rw [World.find, hobjects]
    exact hclaim
  obtain ⟨placed, hhelper, rfl⟩ :=
    run_prometheusStorage_of_none hnone hasked hstorage
  refine ⟨placed, hhelper, ?_⟩
  rw [StoredInstance.placed, hfind, Option.bind_some, hspec]
  rfl

end

theorem placed_of_run_reconcileAlertmanager
    (hasked : StoredInstance.alertmanager.asked cr = some asked)
    (hrun : env.run (reconcileAlertmanager platform cr indexes)
      cluster = (.ok (), after)) :
    ∃ placed, getAlertManagerStorageSpecHelper platform cr asked indexes =
        .ok placed ∧
      StoredInstance.alertmanager.placed cr after = some placed := by
  have hstorage : cr.spec.storage.bind Storage.alertManagerStorageSpec =
      some asked := hasked
  obtain ⟨host, routed, hroute, hrun⟩ := run_bind_eq_ok hrun
  obtain ⟨alertmanager, written, hwrite, hdone⟩ := run_bind_eq_ok hrun
  cases hdone
  obtain ⟨between, hmutate, hafter⟩ := run_createOrUpdate_eq_ok hwrite
  simp only [hstorage] at hmutate
  obtain ⟨placed, generated, hhelper, hdone⟩ := run_bind_eq_ok hmutate
  cases hdone
  obtain ⟨hplaced, rfl⟩ := run_ofExcept_eq_ok hhelper
  refine ⟨placed, hplaced, ?_⟩
  rcases hafter with rfl | ⟨rfl, hfind⟩
  · rw [StoredInstance.placed, World.find_advance, World.find_put_self]
    rfl
  · rw [StoredInstance.placed, World.find_advance, hfind]
    rfl

/-- A request for storage is honoured, as far as an instance is written,
exactly if the Prometheus is to have nothing but a size that would be used
anyway, and the Alertmanager no size other than the one it asks for. -/
theorem storageHonoured_iff (stored : StoredInstance) {size : String}
    {result : Except (Abort ApiError) Unit}
    (hsync : cr.externalSyncDisabled = false)
    (hasked : stored.asked cr = some asked)
    (hsize : asked.requested "storage" = some size) (hnonempty : size ≠ "")
    (hclaim : cluster.find .persistentVolumeClaim (oldClaimKey cr) = none)
    (hrun : env.run (stored.write platform cr indexes configHash)
      cluster = (result, after)) :
    StorageHonoured (dueSize platform (stored.sizeOverride indexes) size)
        asked result (stored.placed cr after) ↔
      (result = .ok () → stored.HonoursWhen platform cr asked
        (stored.sizeOverride indexes) size) := by
  by_cases hok : result = .ok ()
  · subst hok
    obtain ⟨placed, hhelper, hplaced⟩ : ∃ placed,
        stored.specHelper platform cr asked indexes = .ok placed ∧
          stored.placed cr after = some placed := by
      cases stored with
      | prometheus => exact placed_of_run_reconcilePrometheus hclaim hasked hrun
      | alertmanager => exact placed_of_run_reconcileAlertmanager hasked hrun
    obtain ⟨due, hdue, hiff⟩ :=
      requestsSize_iff stored hsync hasked hsize hnonempty hhelper
    simp [StorageHonoured, hdue, hplaced, hiff]
  · unfold StorageHonoured
    split <;> simp [hok]

end Placed

def sizedCr : Observability :=
  { plainCr with
    spec :=
      { selfContained := some {}
        storage := some
          { prometheusStorageSpec := some
              { claimName := "managed-services"
                requests := some [("storage", "40Gi")] } } } }

theorem sizedCr_honoured :
    ∃ after,
      Surroundings.quiet.run (reconcilePrometheus .plain sizedCr [] "")
        Cluster.empty = (.ok (), after) ∧
      StorageHonoured
        (dueSize .plain (StoredInstance.prometheus.sizeOverride []) "40Gi")
        { claimName := "managed-services"
          requests := some [("storage", "40Gi")] } (.ok ())
        (StoredInstance.prometheus.placed sizedCr after) := by
  have hrun : ∃ after, Surroundings.quiet.run
      (StoredInstance.prometheus.write .plain sizedCr [] "") Cluster.empty =
        (.ok (), after) := ⟨_, Prod.ext rfl rfl⟩
  obtain ⟨after, hrun⟩ := hrun
  refine ⟨after, hrun, (storageHonoured_iff .prometheus rfl rfl rfl
    (by decide) rfl hrun).mpr fun _ => ⟨⟨?_, rfl, rfl, rfl⟩, fun _ => rfl⟩⟩
  intro name hname
  have hkey : (name == "storage") = false := by simpa using hname
  simp [StorageSpec.requested, StringMap.get?, List.lookup_cons, hkey]

def ssdStorage : StorageSpec where
  requests := some [("storage", "40Gi")]
  rest := "storageClassName: ssd"

def ssdCr : Observability :=
  { plainCr with
    spec :=
      { storage := some
          { prometheusStorageSpec := some ssdStorage
            alertManagerStorageSpec := some ssdStorage } } }

def sizingIndex : RepositoryIndex where
  id := "sizing"
  config := some
    { alertmanager := some { overrideAlertmanagerPvcSize := "100Gi" } }

/-- The Prometheus gets another size and no storage class, and the
Alertmanager does not get the size in the index. -/
theorem ssdCr_not_honoured :
    (∃ after,
      Surroundings.quiet.run (reconcilePrometheus .plain ssdCr [] "")
        Cluster.empty = (.ok (), after) ∧
      StoredInstance.prometheus.placed ssdCr after =
        some { claimName := "managed-services"
               requests := some [("storage", "250Gi")] } ∧
      ¬ StorageHonoured
        (dueSize .plain (StoredInstance.prometheus.sizeOverride []) "40Gi")
        ssdStorage (.ok ()) (StoredInstance.prometheus.placed ssdCr after)) ∧
    ∃ after,
      Surroundings.quiet.run
        (reconcileAlertmanager .plain ssdCr [sizingIndex]) Cluster.empty =
          (.ok (), after) ∧
      StoredInstance.alertmanager.placed ssdCr after = some ssdStorage ∧
      ¬ StorageHonoured
        (dueSize .plain
          (StoredInstance.alertmanager.sizeOverride [sizingIndex]) "40Gi")
        ssdStorage (.ok ())
        (StoredInstance.alertmanager.placed ssdCr after) := by
  refine ⟨⟨_, Prod.ext rfl rfl, rfl, fun hhonoured => ?_⟩,
    ⟨_, Prod.ext rfl rfl, rfl, fun hhonoured => ?_⟩⟩
  · obtain ⟨placed, hplaced, hrequests⟩ := hhonoured rfl
    cases hplaced
    exact absurd hrequests.rest (by decide)
  · obtain ⟨placed, hplaced, hrequests⟩ := hhonoured rfl
    cases hplaced
    exact absurd hrequests.size (by decide)

end ObservabilityOperator
