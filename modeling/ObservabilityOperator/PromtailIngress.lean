import ObservabilityOperator.CrossReferences
import ObservabilityOperator.TelemetryTargets

/-!
# The client of a token refresher

The network policy of a token refresher admits pods with fixed labels in the
namespace of the Prometheus operator.  A Promtail runs in that of the custom
resource, and its pods get the match labels of a selector of the index.
-/

namespace ObservabilityOperator

open Program

def LabelSelectorRequirement.Matches
    (requirement : LabelSelectorRequirement) (labels : StringMap) : Bool :=
  match requirement.operator, labels.get? requirement.key with
  | "In", some value => requirement.values.contains value
  | "NotIn", some value => !requirement.values.contains value
  | "NotIn", none => true
  | "Exists", some _ => true
  | "DoesNotExist", none => true
  | _, _ => false

/-- The labels have the values of the selector under all of its keys, and
meet its requirements. -/
def LabelSelector.Matches (selector : LabelSelector) (labels : StringMap) :
    Bool :=
  (selector.matchLabels.all fun entry =>
      labels.get? entry.1 == selector.matchLabels.get? entry.1) &&
    selector.matchExpressions.all fun requirement =>
      requirement.Matches labels

theorem LabelSelector.matches_matchLabels (selector : LabelSelector) :
    selector.Matches selector.matchLabels =
      selector.matchExpressions.all fun requirement =>
        requirement.Matches selector.matchLabels := by
  simp [LabelSelector.Matches]

/-! ## Policy and client -/

/-- The policy of the refresher lets the Promtail of the index in, and the
DaemonSet finds its own pods. -/
def ClientAdmitted (cr : Observability) (name : String)
    (index : RepositoryIndex) (state : Cluster) : Prop :=
  ∃ policy daemonset,
    state.find .networkPolicy (getTokenRefresherNetworkPolicy cr name) =
      some policy ∧
    state.find .daemonSet (getPromtailDaemonSet cr index.id) = some daemonset ∧
    (∃ peers ∈ policy.spec.ingress, ∃ podSelector ∈ peers,
      LabelSelector.Matches { matchLabels := podSelector }
        daemonset.spec.podLabels = true) ∧
    (getPromtailDaemonSet cr index.id).ns =
      (getTokenRefresherNetworkPolicy cr name).ns ∧
    daemonset.spec.selector.Matches daemonset.spec.podLabels = true

/-- The Prometheus operator is in the namespace of the custom resource, and a
selector given by the index labels the pods as those of a Promtail and has no
requirements that these labels do not meet. -/
def AdmitsPromtail (cr : Observability) (index : RepositoryIndex) : Prop :=
  cr.getPrometheusOperatorNamespace = cr.ns ∧
    ∀ promtail selector,
      index.config.bind RepositoryConfig.promtail = some promtail →
      promtail.daemonSetLabelSelector = some selector →
        selector.matchLabels.get? "app" = some "promtail" ∧
          ∀ requirement ∈ selector.matchExpressions,
            requirement.Matches selector.matchLabels = true

theorem promtail_of_promtailObservatorium {cr : Observability}
    {index : RepositoryIndex} {promtail : PromtailIndex}
    {observatorium : ObservatoriumIndex}
    (hpromtail :
      promtailObservatorium cr index = some (promtail, observatorium)) :
    index.config.bind RepositoryConfig.promtail = some promtail := by
  unfold promtailObservatorium at hpromtail
  split at hpromtail
  next => cases hpromtail
  next found hfound =>
    split at hpromtail
    next => cases hpromtail
    next =>
      split at hpromtail
      next => cases hpromtail
      next =>
        split at hpromtail
        next => cases hpromtail
        next =>
          obtain ⟨_, -, hpair⟩ := Option.map_eq_some_iff.mp hpromtail
          cases hpair
          exact hfound

theorem matches_promtail_iff {labels : StringMap} :
    LabelSelector.Matches { matchLabels := [("app", "promtail")] } labels =
        true ↔
      labels.get? "app" = some "promtail" := by
  have hvalue :
      StringMap.get? [("app", "promtail")] "app" = some "promtail" := rfl
  simp [LabelSelector.Matches, hvalue]

theorem type_of_getTokenRefresherConfigSetFor {platform : Platform}
    {t : TokenRefresherType} {observatorium : ObservatoriumIndex}
    {config : TokenRefresherConfigSet}
    (hconfig : getTokenRefresherConfigSetFor platform t observatorium =
      .ok (some config)) : config.type = t := by
  unfold getTokenRefresherConfigSetFor at hconfig
  split at hconfig
  next => cases hconfig
  next sso hsso =>
    split at hconfig
    next => cases hconfig
    next endpoint hendpoint =>
      cases t <;>
      · dsimp only at hconfig
        split at hconfig
        next =>
          cases hconfig
          rfl
        next => cases hconfig

section Policies

variable {platform : Platform} {env : Surroundings}
  {cr : Observability} {indexes : List RepositoryIndex}
  {cluster after : Cluster}

def watchIngress (env : Surroundings) (cr : Observability) (name : String) :
    RefresherView env cr (Option (List (List StringMap))) where
  view state :=
    (state.find .networkPolicy
      (getTokenRefresherNetworkPolicy cr name)).map fun policy =>
        policy.spec.ingress
  update found config :=
    if config.name = name then some [[ingressSelector config.type]]
    else found
  read _ := rfl
  write config before after hwrite := by
    have hwritten := run_writeRefresher_eq_ok hwrite
    split
    next hname =>
      subst hname
      rw [hwritten.networkPolicy]
      rfl
    next hname =>
      refine congrArg _ (hwritten.others _ _ fun hkey => hname ?_)
      exact (networkPolicyName_inj.mp (congrArg ObjectKey.name hkey)).symm

theorem type_of_mem_requestedRefreshers {id : String}
    {t : TokenRefresherType} {config : TokenRefresherConfigSet}
    (hconfig : config ∈ requestedRefreshers platform indexes)
    (hname : config.name = getTokenRefresherName id t) : config.type = t := by
  obtain ⟨entry, -, hentry⟩ := List.mem_flatMap.mp hconfig
  obtain ⟨-, -, hset⟩ := RefresherEntry.mem_requested_iff.mp ⟨hentry, hname⟩
  unfold RefresherEntry.configSet? at hset
  split at hset
  next => cases hset
  next =>
    split at hset
    next found hfound =>
      subst hset
      exact type_of_getTokenRefresherConfigSetFor hfound
    next => cases hset

theorem ingress_of_run_reconcileTokenRefresher
    (habsent : oauth2Secret cr cluster = none)
    (hrun : env.run (reconcileTokenRefresher platform cr indexes)
      cluster = (.ok (), after)) {id : String} {t : TokenRefresherType}
    (hrequested : RefresherRequested indexes id t) :
    (after.find .networkPolicy (getTokenRefresherNetworkPolicy cr
      (getTokenRefresherName id t))).map (fun policy => policy.spec.ingress) =
        some [[ingressSelector t]] := by
  have hview := (watchIngress env cr
    (getTokenRefresherName id t)).of_run habsent hrun
  obtain ⟨config, hconfig, hname⟩ :=
    (mem_requestedRefreshers_iff habsent hrun
      (getTokenRefresherName id t)).mpr ⟨id, t, hrequested, rfl⟩
  obtain ⟨front, last, back, hsplit, hlast, hback⟩ := exists_last
    (P := fun other => other.name = getTokenRefresherName id t)
    ⟨config, hconfig, hname⟩
  have hmem : last ∈ requestedRefreshers platform indexes := by
    rw [hsplit]
    simp
  rw [hsplit, List.foldl_append, List.foldl_cons, foldl_eq_of_forall] at hview
  · refine hview.trans ?_
    change (if last.name = _ then some [[ingressSelector last.type]]
      else _) = _
    rw [if_pos hlast, type_of_mem_requestedRefreshers hmem hlast]
  · exact fun other hother value => if_neg (hback other hother)

end Policies

/-! ## The states of a sync -/

theorem Program.run_forEach_append_cons {Op : Type} {Res : Op → Type}
    {ε γ S : Type} {handler : Handler Res S} {earlier later : List γ}
    {item : γ} {body : γ → Program Res ε Unit} {state after : S}
    (hrun : (Program.forEach (earlier ++ item :: later) body).run handler
      state = (.ok (), after)) :
    ∃ before between,
      (Program.forEach earlier body).run handler state = (.ok (), before) ∧
      (body item).run handler before = (.ok (), between) := by
  rw [forEach_append] at hrun
  obtain ⟨_, before, hearlier, hrun⟩ := run_bind_eq_ok hrun
  obtain ⟨_, between, hitem, -⟩ := run_bind_eq_ok hrun
  exact ⟨before, between, hearlier, hitem⟩

section Sync

variable {platform : Platform} {env : Surroundings}
  {cr : Observability} {indexes : List RepositoryIndex}
  {cluster after : Cluster} {index : RepositoryIndex}
  {observatorium : ObservatoriumIndex} {promtail : PromtailIndex}

/-- The state is the one right after the Promtail of this index has been
created. -/
def CompletedSync.CreatesPromtail
    (sync : CompletedSync platform env cr indexes cluster after)
    (index : RepositoryIndex) (state : Cluster) : Prop :=
  ∃ earlier later pruned before,
    sync.completed = earlier ++ index :: later ∧
    env.run (deleteUnrequestedDaemonsets cr sync.completed)
      sync.beforePromtail = (.ok (), pruned) ∧
    env.run (Program.forEach earlier fun other =>
      (createPromtailDaemonsetFor platform cr other).wrapping
        ("error creating promtail daemon set for " ++ other.id)) pruned =
          (.ok (), before) ∧
    env.run (createPromtailDaemonsetFor platform cr index) before =
      (.ok (), state)

variable (sync : CompletedSync platform env cr indexes cluster after)
include sync

theorem CompletedSync.exists_createsPromtail (hindex : index ∈ sync.completed) :
    ∃ state, sync.CreatesPromtail index state := by
  obtain ⟨earlier, later, hsplit⟩ := List.append_of_mem hindex
  obtain ⟨_, pruned, hprune, hloop⟩ := run_bind_eq_ok sync.writesPromtail
  rw [hsplit] at hloop
  obtain ⟨before, state, hearlier, hstate⟩ := run_forEach_append_cons hloop
  exact ⟨state, earlier, later, pruned, before, hsplit,
    run_wrapping_eq_ok.mp hprune, hearlier, run_wrapping_eq_ok.mp hstate⟩

theorem CompletedSync.networkPolicy_of_createsPromtail {state : Cluster}
    (hcreates : sync.CreatesPromtail index state) (key : ObjectKey) :
    state.find .networkPolicy key =
      sync.refreshers.find .networkPolicy key := by
  obtain ⟨earlier, later, pruned, before, -, hprune, hearlier, hstate⟩ :=
    hcreates
  have hdelete : WritesKinds promtailKinds
      (deleteUnrequestedDaemonsets cr sync.completed) :=
    writesKinds_deleteUnrequestedDaemonsets (by decide) _
  have hcreate (other : RepositoryIndex) : WritesKinds promtailKinds
      (createPromtailDaemonsetFor platform cr other) :=
    writesKinds_createPromtailDaemonsetFor other
  have hloop : WritesKinds promtailKinds (Program.forEach earlier
      fun other => (createPromtailDaemonsetFor platform cr other).wrapping
        ("error creating promtail daemon set for " ++ other.id)) :=
    .forEach fun other => .wrapping (hcreate other)
  rw [(hcreate index).find_eq hstate (by decide),
    hloop.find_eq hearlier (by decide), hdelete.find_eq hprune (by decide)]
  exact ((sync.framedBefore.trans sync.framedPrometheus).trans
    sync.framedBetween) _ _
      (by simp [RestWrites, restKinds, resourceKinds, promtailKinds])

theorem CompletedSync.ingress_of_createsPromtail {state : Cluster}
    (habsent : oauth2Secret cr sync.credentials = none)
    (henabled : cr.observatoriumDisabled = false)
    (hrequested : RefresherRequested sync.completed observatorium.id .logs)
    (hcreates : sync.CreatesPromtail index state) :
    ∃ policy,
      state.find .networkPolicy (getTokenRefresherNetworkPolicy cr
        (getTokenRefresherName observatorium.id .logs)) = some policy ∧
      policy.spec.ingress = [[[("app", "promtail")]]] := by
  obtain ⟨deployments, policies, -, -, hwrite⟩ :=
    run_syncTokenRefreshers_eq_ok henabled sync.writesRefreshers
  have hsecret : oauth2Secret cr policies = none := by
    rw [← habsent, ← sync.oauth2Secret_refreshers]
    exact ((writesKinds_reconcileTokenRefresher _).find_eq hwrite
      (by decide) _).symm
  have hingress :=
    ingress_of_run_reconcileTokenRefresher hsecret hwrite hrequested
  rw [← sync.networkPolicy_of_createsPromtail hcreates] at hingress
  exact Option.map_eq_some_iff.mp hingress

omit sync in
omit sync in
theorem admitsPromtail_iff
    (hpromtail : index.config.bind RepositoryConfig.promtail = some promtail) :
    AdmitsPromtail cr index ↔
      cr.getPrometheusOperatorNamespace = cr.ns ∧
        (getPromtailDaemonSetLabels promtail).matchLabels.get? "app" =
          some "promtail" ∧
        (getPromtailDaemonSetLabels promtail).Matches
          (getPromtailDaemonSetLabels promtail).matchLabels = true := by
  unfold AdmitsPromtail getPromtailDaemonSetLabels
  rw [hpromtail, LabelSelector.matches_matchLabels, List.all_eq_true]
  refine and_congr_right fun _ => ?_
  constructor
  · intro hgiven
    cases hselector : promtail.daemonSetLabelSelector with
    | none => exact ⟨rfl, by simp⟩
    | some selector => exact hgiven promtail selector rfl hselector
  · rintro hused _ selector hsame hselector
    cases hsame
    rwa [hselector] at hused

/-- Where a sync writes the refresher that the Promtail of an index sends its
logs to, the refresher lets the Promtail in exactly if both are in one
namespace and the selector of the index allows it. -/
theorem client_admitted_iff (habsent : oauth2Secret cr sync.credentials = none)
    {index : RepositoryIndex} (hindex : index ∈ sync.completed)
    {name ns : String} (hurl : promtailUrl cr index = some (.service name ns)) :
    (∀ state, sync.CreatesPromtail index state →
        ClientAdmitted cr name index state) ↔ AdmitsPromtail cr index := by
  obtain ⟨promtail, observatorium, sso, hpromtail, -, htype, hsso, hlogs,
    rfl, -⟩ := promtailUrl_eq_service_iff.mp hurl
  obtain ⟨henabled, hrequested⟩ :=
    refresherRequested_of_promtail hindex hpromtail htype hsso hlogs
  rw [admitsPromtail_iff (promtail_of_promtailObservatorium hpromtail)]
  have hstate (state : Cluster) (hcreates : sync.CreatesPromtail index state) :
      ClientAdmitted cr (getTokenRefresherName observatorium.id .logs) index
          state ↔
        cr.getPrometheusOperatorNamespace = cr.ns ∧
          (getPromtailDaemonSetLabels promtail).matchLabels.get? "app" =
            some "promtail" ∧
          (getPromtailDaemonSetLabels promtail).Matches
            (getPromtailDaemonSetLabels promtail).matchLabels = true := by
    obtain ⟨policy, hpolicy, hingress⟩ :=
      sync.ingress_of_createsPromtail habsent henabled hrequested hcreates
    obtain ⟨_, _, _, _, -, -, -, hrun⟩ := hcreates
    simp only [createPromtailDaemonsetFor, hpromtail] at hrun
    obtain ⟨_, _, -, hwrite⟩ := run_bind_eq_ok hrun
    unfold ClientAdmitted
    simp only [hpolicy, (run_upsert_discarded_eq_ok hwrite).1,
      Option.some.injEq, exists_and_left, exists_eq_left', hingress,
      List.mem_singleton, exists_eq_left, matches_promtail_iff]
    rw [eq_comm (a := (getPromtailDaemonSet cr index.id).ns)]
    exact and_left_comm
  constructor
  · intro hadmitted
    obtain ⟨state, hcreates⟩ := sync.exists_createsPromtail hindex
    exact (hstate state hcreates).mp (hadmitted state hcreates)
  · intro hadmits state hcreates
    exact (hstate state hcreates).mpr hadmits

end Sync

theorem loggingSync_admitted :
    ∃ sync : CompletedSync syncPlatform answeringSurroundings plainCr
        [loggingIndex] Cluster.empty (loggingSync plainCr).2,
      ∀ state, sync.CreatesPromtail loggingIndex state →
        ClientAdmitted plainCr "token-refresher-logs-first" loggingIndex
          state := by
  have hrun : answeringSurroundings.run
      (configure syncPlatform plainCr [loggingIndex]) Cluster.empty =
        (.ok (), (loggingSync plainCr).2) := Prod.ext rfl rfl
  obtain ⟨sync⟩ := exists_completedSync hrun
  have hcompleted : sync.completed = [loggingIndex] := sync.completed_eq rfl
  have habsent : oauth2Secret plainCr sync.credentials = none :=
    (sync.oauth2Secret_eq_none_iff fun _ _ => rfl).mpr rfl
  refine ⟨sync, (client_admitted_iff sync habsent
    (by rw [hcompleted]; exact List.mem_singleton.mpr rfl)
    (show promtailUrl plainCr loggingIndex =
      some (.service "token-refresher-logs-first" "managed") from rfl)).mpr
        ⟨rfl, ?_⟩⟩
  rintro _ selector hpromtail hselector
  cases hpromtail
  cases hselector

def relabellingIndex : RepositoryIndex :=
  { loggingIndex with
    config := loggingIndex.config.map fun config =>
      { config with
        promtail := some
          { enabled := true
            observatorium := "first"
            daemonSetLabelSelector := some
              { matchLabels := [("app", "logs")] } } } }

/-- In a namespace of its own the refresher does not see its client, and in
the same namespace the pods lack the label that it lets in. -/
theorem client_not_admitted :
    (loggingSync descopedCr).1 = .ok () ∧
      promtailUrl descopedCr loggingIndex =
        some (.service "token-refresher-logs-first" "managed") ∧
      ((loggingSync descopedCr).2.find .networkPolicy
        ⟨"operators",
          "token-refresher-logs-first-network-policy"⟩).isSome = true ∧
      ((loggingSync descopedCr).2.find .daemonSet
        ⟨"managed", "promtail-kafka"⟩).isSome = true ∧
      ¬ ClientAdmitted descopedCr "token-refresher-logs-first" loggingIndex
        (loggingSync descopedCr).2 ∧
      ∃ after,
        answeringSurroundings.run
          (configure syncPlatform plainCr [relabellingIndex])
            Cluster.empty = (.ok (), after) ∧
        promtailUrl plainCr relabellingIndex =
          some (.service "token-refresher-logs-first" "managed") ∧
        ¬ ClientAdmitted plainCr "token-refresher-logs-first"
          relabellingIndex after := by
  refine ⟨rfl, rfl, rfl, rfl, ?_, _, Prod.ext rfl rfl, rfl, ?_⟩
  · rintro ⟨_, _, -, -, -, hns, -⟩
    exact absurd hns (by decide)
  · rintro ⟨policy, daemonset, hpolicy, hdaemonset,
      ⟨peers, hpeers, podSelector, hselector, hmatches⟩, -⟩
    cases hpolicy
    cases hdaemonset
    cases List.mem_singleton.mp hpeers
    cases List.mem_singleton.mp hselector
    exact absurd hmatches (by decide)

end ObservabilityOperator
