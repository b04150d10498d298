import ObservabilityOperator.PromtailIngress
import ObservabilityOperator.StoppedEgress

/-!
# The generated dead man's switch

An operator that reads no repositories writes an alerting rule of its own that
always fires.  The labels of the generated rule are the match labels of the
selector in the custom resource, over those it had before.  They say nothing
about the match expressions of that selector, and where the custom resource has
no selector the one for the rules of the repositories is taken, for which the
rule gets no label.
-/

namespace ObservabilityOperator

open Program

def switchLabels (cr : Observability) (cluster : Cluster) : StringMap :=
  ((cluster.find .prometheusRule (getDeadmansSwitch cr)).getD
    Kind.prometheusRule.blank).labels

def givenRuleSelector (cr : Observability) : Option LabelSelector :=
  cr.spec.selfContained.bind SelfContained.ruleLabelSelector

/-- The rule is there with labels that the rule selector of the Prometheus
matches. -/
def SwitchEvaluated (cr : Observability) (state : Cluster) : Prop :=
  ∃ rule prometheus selector,
    state.find .prometheusRule (getDeadmansSwitch cr) = some rule ∧
    state.find .prometheus (getPrometheus cr) = some prometheus ∧
    prometheus.spec.ruleSelector = some selector ∧
    selector.Matches rule.labels = true

/-- The labels meet the requirements of a selector that the custom resource
gives.  Without one, selectors are overridden or the rule has had the label of
the repositories' rules before. -/
def SelectsSwitch (cr : Observability) (labels : StringMap) : Prop :=
  match givenRuleSelector cr with
  | some selector => ∀ requirement ∈ selector.matchExpressions,
      requirement.Matches (labels.merge selector.matchLabels) = true
  | none => cr.overrideSelectors = true ∨ labels.get? "app" = some "strimzi"

section Labels

variable {cr : Observability}

def writtenLabels (cr : Observability) (labels : StringMap) : StringMap :=
  match givenRuleSelector cr with
  | some selector => labels.merge selector.matchLabels
  | none => labels

theorem LabelSelector.matches_merge {selector : LabelSelector}
    (hkeys : (selector.matchLabels.map Prod.fst).Nodup) (labels : StringMap) :
    selector.Matches (labels.merge selector.matchLabels) = true ↔
      ∀ requirement ∈ selector.matchExpressions,
        requirement.Matches (labels.merge selector.matchLabels) = true := by
  have hlabels : (selector.matchLabels.all fun entry =>
      (labels.merge selector.matchLabels).get? entry.1 ==
        selector.matchLabels.get? entry.1) = true := by
    rw [List.all_eq_true]
    intro entry hentry
    rw [StringMap.get?_merge_of_mem labels hkeys (List.mem_map_of_mem hentry)]
    exact beq_self_eq_true _
  simp only [LabelSelector.Matches, hlabels, Bool.true_and, List.all_eq_true]

theorem ruleSelector_matches_iff
    (hkeys : ∀ selector, givenRuleSelector cr = some selector →
      (selector.matchLabels.map Prod.fst).Nodup) (labels : StringMap) :
    (∃ selector, getPrometheusRuleLabelSelectors cr [] = some selector ∧
        selector.Matches (writtenLabels cr labels) = true) ↔
      SelectsSwitch cr labels := by
  unfold getPrometheusRuleLabelSelectors labelSelectorFrom selectorFrom
    SelectsSwitch writtenLabels givenRuleSelector
  cases hgiven : cr.spec.selfContained.bind SelfContained.ruleLabelSelector with
  | some selector =>
    have hmatches :=
      LabelSelector.matches_merge (hkeys selector hgiven) labels
    simpa using hmatches
  | none =>
    cases hoverride : cr.overrideSelectors with
    | true => simp [LabelSelector.Matches]
    | false =>
      simp [LabelSelector.Matches, getPrometheusRepositoryIndexConfig,
        defaultPrometheusLabelSelectors, StringMap.get?]

end Labels

/-! ## A sync without repositories -/

section Sync

variable {platform : Platform} {order : IterationOrder}
  {cr : Observability} {migrated : Bool} {env : Surroundings}
  {cluster after : Cluster} {indexes : List RepositoryIndex}

theorem run_createDMSAlert_eq_ok (hexternal : cr.externalSyncDisabled = true)
    (hrun : env.run (createDMSAlert cr) cluster = (.ok (), after)) :
    ∃ rule, after.find .prometheusRule (getDeadmansSwitch cr) = some rule ∧
      rule.labels = writtenLabels cr (switchLabels cr cluster) := by
  obtain ⟨selfContained, hblock, hdisabled⟩ :=
    Observability.exists_of_externalSyncDisabled hexternal
  unfold writtenLabels givenRuleSelector
  rw [createDMSAlert, hblock] at hrun
  change env.run (if selfContained.disableRepoSync ≠ some true
    then _ else _) cluster = _ at hrun
  rw [if_neg (not_not.mpr hdisabled)] at hrun
  rw [hblock]
  exact ⟨_, (run_upsert_discarded_eq_ok hrun).1, rfl⟩

theorem switchLabels_congr {before : Cluster}
    (hfind : ∀ key, after.find .prometheusRule key =
      before.find .prometheusRule key) :
    switchLabels cr after = switchLabels cr before := by
  rw [switchLabels, hfind]
  rfl

theorem switch_of_run_configure (hexternal : cr.externalSyncDisabled = true)
    (hrun : env.run (configure platform cr indexes) cluster = (.ok (), after)) :
    ∃ rule, after.find .prometheusRule (getDeadmansSwitch cr) = some rule ∧
      rule.labels = writtenLabels cr (switchLabels cr cluster) := by
  have hkept {α : Type} {program : Go α} {kinds : List Kind}
      {before between : Cluster} {value : α}
      (hprogram : WritesKinds kinds program)
      (hstep : env.run program before = (.ok value, between))
      (hkinds : .prometheusRule ∉ kinds) :
      switchLabels cr between = switchLabels cr before :=
    switchLabels_congr (hprogram.find_eq hstep hkinds)
  obtain ⟨_, cleared, hclear, hrun⟩ := run_bind_eq_ok hrun
  obtain ⟨completed, credentials, hcomplete, hrun⟩ := run_bind_eq_ok hrun
  obtain ⟨_, refreshers, hrefreshers, hrun⟩ := run_bind_eq_ok hrun
  obtain ⟨_, alerting, halert, hrun⟩ := run_bind_eq_ok hrun
  obtain ⟨_, instances, hinstances, hrun⟩ := run_bind_eq_ok hrun
  obtain ⟨_, resources, hresources, hrun⟩ := run_bind_eq_ok hrun
  obtain ⟨_, promtail, hpromtail, hassign⟩ := run_bind_eq_ok hrun
  rw [syncResources, if_pos hexternal] at hresources
  obtain ⟨rule, hrule, hlabels⟩ := run_createDMSAlert_eq_ok hexternal
    (run_wrapping_eq_ok.mp hresources)
  refine ⟨rule, ?_, ?_⟩
  · rw [find_of_run_assignSyncTime hassign,
      (writesKinds_syncPromtail _).find_eq hpromtail (by decide), hrule]
  · rw [hlabels, hkept (writesKinds_syncInstances _) hinstances (by decide),
      hkept (writesKinds_syncAlertmanagerSecret _) halert (by decide),
      hkept (writesKinds_syncTokenRefreshers _) hrefreshers (by decide),
      hkept (writesKinds_completeIndexes List.mem_cons_self _) hcomplete
        (show Kind.prometheusRule ∉ [.secret] by decide),
      hkept (writesKinds_deleteUnrequestedCredentialSecrets
        List.mem_cons_self _) hclear
        (show Kind.prometheusRule ∉ [.secret] by decide)]

theorem switchLabels_of_run_prepare {repos : List (String × RepositoryInfo)}
    {prepared collected : Cluster}
    (hprepare : env.run (prepare platform cr migrated) cluster =
      (.ok (.load repos), prepared))
    (hcollect : env.run (collectIndexes platform cr order repos)
      prepared = (.ok indexes, collected)) :
    switchLabels cr collected = switchLabels cr cluster := by
  have hresources : AllowsResources cr _ := servesResources_allowsResources
  have hother (key : ObjectKey) : ¬ ServesResources cr .prometheusRule key := by
    simp [ServesResources]
  apply switchLabels_congr
  intro key
  rw [Surroundings.find_of_writesOnly hcollect
      ((allowsReads_writesOnly _).collectIndexes platform cr order repos)
      (hother key),
    Surroundings.find_of_writesOnly hprepare
      (hresources.prepare (ApiCall.writesOnly_perform _) migrated) (hother key)]

theorem ruleSelector_of_run_configure
    (hrun : env.run (configure platform cr []) cluster = (.ok (), after)) :
    ∃ prometheus, after.find .prometheus (getPrometheus cr) = some prometheus ∧
      prometheus.spec.ruleSelector = getPrometheusRuleLabelSelectors cr [] := by
  obtain ⟨sync⟩ := exists_completedSync hrun
  have hcompleted : sync.completed = [] := List.map_eq_nil_iff.mp
    (withoutObservatoria_of_run_completeIndexes sync.completes)
  obtain ⟨host, targets, storage, prometheus, before, read, -, -, hfind,
    hspec, -⟩ := run_reconcilePrometheus_eq_ok sync.writesPrometheus
  rw [hcompleted] at hspec
  rw [← sync.find_prometheus] at hfind
  exact ⟨prometheus, hfind, by rw [hspec]; rfl⟩

theorem switchEvaluated_iff_of_find {rule : Resource PrometheusRuleSpec}
    {prometheus : Resource PrometheusSpec}
    (hrule : after.find .prometheusRule (getDeadmansSwitch cr) = some rule)
    (hprometheus : after.find .prometheus (getPrometheus cr) =
      some prometheus) :
    SwitchEvaluated cr after ↔
      ∃ selector, prometheus.spec.ruleSelector = some selector ∧
        selector.Matches rule.labels = true := by
  constructor
  · rintro ⟨found, written, selector, hfound, hwritten, hselector⟩
    rw [hrule] at hfound
    rw [hprometheus] at hwritten
    cases hfound
    cases hwritten
    exact ⟨selector, hselector⟩
  · rintro ⟨selector, hselector⟩
    exact ⟨rule, prometheus, selector, hrule, hprometheus, hselector⟩

/-- After a sync without repositories the Prometheus evaluates the generated
switch exactly if the labels that the rule is left with meet the match
expressions of the selector, or the default selector. -/
theorem deadMansSwitch_evaluated_iff
    (hexternal : cr.externalSyncDisabled = true)
    (hkeys : ∀ selector, givenRuleSelector cr = some selector →
      (selector.matchLabels.map Prod.fst).Nodup)
    (hsync : RunsSync platform order cr migrated env cluster indexes after) :
    SwitchEvaluated cr after ↔ SelectsSwitch cr (switchLabels cr cluster) := by
  obtain rfl := indexes_eq_nil_of_externalSyncDisabled hexternal hsync
  obtain ⟨repos, prepared, collected, hprepare, hcollect, hrun⟩ := hsync
  obtain ⟨rule, hrule, hlabels⟩ := switch_of_run_configure hexternal hrun
  obtain ⟨prometheus, hprometheus, hselector⟩ :=
    ruleSelector_of_run_configure hrun
  rw [switchLabels_of_run_prepare hprepare hcollect] at hlabels
  rw [switchEvaluated_iff_of_find hrule hprometheus, hselector, hlabels]
  exact ruleSelector_matches_iff hkeys _

end Sync

def labelledSwitchCr : Observability :=
  { plainCr with
    spec :=
      { configurationSelector := some {}
        selfContained := some
          { disableRepoSync := some true
            ruleLabelSelector := some
              { matchLabels := [("team", "observability")] } } } }

theorem labelledSwitchCr_evaluated :
    ∃ after, RunsSync syncPlatform .given labelledSwitchCr false
        answeringSurroundings Cluster.empty [] after ∧
      SwitchEvaluated labelledSwitchCr after := by
  have hsync : ∃ after, RunsSync syncPlatform .given labelledSwitchCr false
      answeringSurroundings Cluster.empty [] after :=
    ⟨_, _, _, _, rfl, rfl, rfl⟩
  obtain ⟨after, hsync⟩ := hsync
  refine ⟨after, hsync, (deadMansSwitch_evaluated_iff rfl ?_ hsync).mpr ?_⟩
  · rintro selector hselector
    cases hselector
    decide
  · exact fun _ hrequirement => absurd hrequirement List.not_mem_nil

/-- Without a selector the rule has no labels and the Prometheus looks for
those of the repositories' rules. -/
theorem selfContainedCr_switch_not_evaluated :
    ∃ after, RunsSync syncPlatform .given selfContainedCr false
        answeringSurroundings Cluster.empty [] after ∧
      (∃ rule, after.find .prometheusRule (getDeadmansSwitch selfContainedCr) =
        some rule ∧ rule.labels = []) ∧
      ¬ SwitchEvaluated selfContainedCr after := by
  have hsync : ∃ after, RunsSync syncPlatform .given selfContainedCr false
      answeringSurroundings Cluster.empty [] after :=
    ⟨_, _, _, _, rfl, rfl, rfl⟩
  obtain ⟨after, hsync⟩ := hsync
  obtain ⟨repos, prepared, collected, hprepare, hcollect, hrun⟩ := id hsync
  obtain ⟨rule, hrule, hlabels⟩ := switch_of_run_configure rfl hrun
  rw [switchLabels_of_run_prepare hprepare hcollect] at hlabels
  obtain ⟨prometheus, hprometheus, hselector⟩ :=
    ruleSelector_of_run_configure hrun
  refine ⟨after, hsync, ⟨rule, hrule, hlabels⟩, ?_⟩
  rw [switchEvaluated_iff_of_find hrule hprometheus, hselector, hlabels]
  rintro ⟨selector, hsome, hmatches⟩
  cases hsome
  exact absurd hmatches (by decide)

end ObservabilityOperator
