import ObservabilityOperator.GrafanaConfig
import ObservabilityOperator.PrometheusConfig
import Mathlib.Logic.Relation

/-!
# The webhook that validates updates

The names of the Prometheus, the Alertmanager and the Grafana can be given in
the custom resource, and the webhook refuses every update that sets, unsets
or changes one of them.  The names that the stages use are taken from there
only while the custom resource has a self-contained block.  The webhook does
not look at the block, so an update that removes or adds it goes through and
changes the names of everything that has been given one.
-/

namespace ObservabilityOperator

def validateDefaultName (field old new : String) : Except String Unit :=
  if old ≠ "" ∧ new = "" then
    .error ("cannot unset " ++ field ++ " after cr creation")
  else if old = "" ∧ new ≠ "" then
    .error ("cannot set " ++ field ++ " after cr creation")
  else if old ≠ "" ∧ new ≠ "" ∧ old ≠ new then
    .error ("cannot update " ++ field ++ " after cr creation")
  else .ok ()

def validateUpdate (new old : Observability) : Except String Unit := do
  validateDefaultName "AlertManagerDefaultName"
    old.spec.alertManagerDefaultName new.spec.alertManagerDefaultName
  validateDefaultName "GrafanaDefaultName"
    old.spec.grafanaDefaultName new.spec.grafanaDefaultName
  validateDefaultName "PrometheusDefaultName"
    old.spec.prometheusDefaultName new.spec.prometheusDefaultName

/-- The webhook admits the update. -/
def AcceptsUpdate (old new : Observability) : Prop :=
  validateUpdate new old = .ok ()

structure SameGivenNames (old new : Observability) : Prop where
  alertmanager : new.spec.alertManagerDefaultName =
    old.spec.alertManagerDefaultName
  grafana : new.spec.grafanaDefaultName = old.spec.grafanaDefaultName
  prometheus : new.spec.prometheusDefaultName = old.spec.prometheusDefaultName

theorem validateDefaultName_eq_ok_iff {field old new : String} :
    validateDefaultName field old new = .ok () ↔ new = old := by
  unfold validateDefaultName
  by_cases hold : old = ""
  · subst hold
    by_cases hnew : new = "" <;> simp [hnew]
  · by_cases hnew : new = ""
    · subst hnew
      simp [hold, Ne.symm hold]
    · by_cases hsame : old = new <;> simp [hold, hnew, hsame, eq_comm]

theorem acceptsUpdate_iff {old new : Observability} :
    AcceptsUpdate old new ↔ SameGivenNames old new := by
  unfold AcceptsUpdate validateUpdate
  constructor
  · intro haccepts
    cases halertmanager : validateDefaultName "AlertManagerDefaultName"
        old.spec.alertManagerDefaultName new.spec.alertManagerDefaultName with
    | error message => simp [halertmanager, bind, Except.bind] at haccepts
    | ok _ =>
      cases hgrafana : validateDefaultName "GrafanaDefaultName"
          old.spec.grafanaDefaultName new.spec.grafanaDefaultName with
      | error message =>
        simp [halertmanager, hgrafana, bind, Except.bind] at haccepts
      | ok _ =>
        rw [halertmanager, hgrafana] at haccepts
        exact ⟨validateDefaultName_eq_ok_iff.mp halertmanager,
          validateDefaultName_eq_ok_iff.mp hgrafana,
          validateDefaultName_eq_ok_iff.mp haccepts⟩
  · intro hsame
    rw [validateDefaultName_eq_ok_iff.mpr hsame.alertmanager,
      validateDefaultName_eq_ok_iff.mpr hsame.grafana,
      validateDefaultName_eq_ok_iff.mpr hsame.prometheus]
    rfl

theorem sameGivenNames_of_updates {first last : Observability}
    (hupdates : Relation.ReflTransGen AcceptsUpdate first last) :
    SameGivenNames first last := by
  induction hupdates with
  | refl => exact ⟨rfl, rfl, rfl⟩
  | tail _ hupdate ih =>
    have hsame := acceptsUpdate_iff.mp hupdate
    exact ⟨hsame.alertmanager.trans ih.alertmanager,
      hsame.grafana.trans ih.grafana, hsame.prometheus.trans ih.prometheus⟩

/-! ## The names that are used -/

def effectiveName (selfContained : Bool) (given default : String) : String :=
  if selfContained ∧ given ≠ "" then given else default

theorem effectiveName_eq_iff {first last : Bool} {given default : String} :
    effectiveName last given default = effectiveName first given default ↔
      last = first ∨ given = "" ∨ given = default := by
  unfold effectiveName
  by_cases hgiven : given = ""
  · simp [hgiven]
  · cases first <;> cases last <;> simp [hgiven, eq_comm]

theorem getDefaultNameAlertmanager_eq (cr : Observability) :
    getDefaultNameAlertmanager cr = effectiveName cr.spec.selfContained.isSome
      cr.spec.alertManagerDefaultName "obs-alertmanager" := rfl

theorem getDefaultNameGrafana_eq (cr : Observability) :
    getDefaultNameGrafana cr = effectiveName cr.spec.selfContained.isSome
      cr.spec.grafanaDefaultName "obs-grafana" := rfl

theorem getDefaultNamePrometheus_eq (cr : Observability) :
    getDefaultNamePrometheus cr = effectiveName cr.spec.selfContained.isSome
      cr.spec.prometheusDefaultName "obs-prometheus" := rfl

/-- The names of the three operands are the same. -/
structure SameNames (first last : Observability) : Prop where
  prometheus : getDefaultNamePrometheus last = getDefaultNamePrometheus first
  alertmanager : getDefaultNameAlertmanager last =
    getDefaultNameAlertmanager first
  grafana : getDefaultNameGrafana last = getDefaultNameGrafana first

/-- Every name is left out or spelled out as the default. -/
structure NamesAreDefault (cr : Observability) : Prop where
  prometheus : cr.spec.prometheusDefaultName ∈ ["", "obs-prometheus"]
  alertmanager : cr.spec.alertManagerDefaultName ∈ ["", "obs-alertmanager"]
  grafana : cr.spec.grafanaDefaultName ∈ ["", "obs-grafana"]

/-- Over any number of accepted updates the names stay exactly if the
self-contained block is there at the end as it was at the start, or no other
name than the default ones is given. -/
theorem sameNames_iff_of_updates {first last : Observability}
    (hupdates : Relation.ReflTransGen AcceptsUpdate first last) :
    SameNames first last ↔
      last.spec.selfContained.isSome = first.spec.selfContained.isSome ∨
        NamesAreDefault first := by
  have hgiven := sameGivenNames_of_updates hupdates
  constructor
  · intro hnames
    by_cases hblock : last.spec.selfContained.isSome =
        first.spec.selfContained.isSome
    · exact .inl hblock
    obtain ⟨hprometheus, halertmanager, hgrafana⟩ := hnames
    rw [getDefaultNamePrometheus_eq, getDefaultNamePrometheus_eq,
      hgiven.prometheus, effectiveName_eq_iff] at hprometheus
    rw [getDefaultNameAlertmanager_eq, getDefaultNameAlertmanager_eq,
      hgiven.alertmanager, effectiveName_eq_iff] at halertmanager
    rw [getDefaultNameGrafana_eq, getDefaultNameGrafana_eq,
      hgiven.grafana, effectiveName_eq_iff] at hgrafana
    exact .inr ⟨by simpa using hprometheus.resolve_left hblock,
      by simpa using halertmanager.resolve_left hblock,
      by simpa using hgrafana.resolve_left hblock⟩
  · intro hkept
    have hname {given default : String} (hdefault : NamesAreDefault first →
        given ∈ ["", default]) :
        effectiveName last.spec.selfContained.isSome given default =
          effectiveName first.spec.selfContained.isSome given default := by
      rw [effectiveName_eq_iff]
      exact hkept.imp_right fun hnames => by simpa using hdefault hnames
    constructor
    · rw [getDefaultNamePrometheus_eq, hgiven.prometheus]
      exact hname fun hnames => hnames.prometheus
    · rw [getDefaultNameAlertmanager_eq, hgiven.alertmanager]
      exact hname fun hnames => hnames.alertmanager
    · rw [getDefaultNameGrafana_eq, hgiven.grafana]
      exact hname fun hnames => hnames.grafana

def namedCr (selfContained : Option SelfContained) : Observability :=
  { plainCr with
    spec := { selfContained, prometheusDefaultName := "metrics" } }

theorem namedCr_keeps_name :
    AcceptsUpdate (namedCr (some {}))
        (namedCr (some { disableRepoSync := some true })) ∧
      SameNames (namedCr (some {}))
        (namedCr (some { disableRepoSync := some true })) := by
  have haccepts : AcceptsUpdate (namedCr (some {}))
      (namedCr (some { disableRepoSync := some true })) := rfl
  exact ⟨haccepts, (sameNames_iff_of_updates (.single haccepts)).mpr (.inl rfl)⟩

/-- Removing the self-contained block is accepted and renames the
Prometheus. -/
theorem namedCr_loses_name :
    AcceptsUpdate (namedCr (some {})) (namedCr none) ∧
      getDefaultNamePrometheus (namedCr (some {})) = "metrics" ∧
      getDefaultNamePrometheus (namedCr none) = "obs-prometheus" :=
  ⟨rfl, rfl, rfl⟩

end ObservabilityOperator
