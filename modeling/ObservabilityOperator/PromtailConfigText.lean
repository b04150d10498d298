import ObservabilityOperator.JoinedText
import ObservabilityOperator.PromtailDaemonsets

/-!
# The text of a Promtail configuration

The DaemonSet of a Promtail carries a hash of the configuration, so that its
pods are rolled out when the configuration changes.  The namespaces come in the
order in which the server lists them and are sorted before they are written,
and so the text depends on which namespaces are selected and on nothing else.
-/

namespace ObservabilityOperator

open Program

/-- What is used here of the names that the cluster admits. -/
structure IsNamespaceName (name : String) : Prop where
  nonempty : name ≠ ""
  noComma : ',' ∉ name.toList

theorem mergeSort_eq_iff_perm {first second : List String} :
    (first.mergeSort fun x y => x ≤ y) = (second.mergeSort fun x y => x ≤ y) ↔
      first.Perm second := by
  have hsorted (names : List String) :
      (names.mergeSort fun x y => x ≤ y).Pairwise fun x y =>
        decide (x ≤ y) = true :=
    List.pairwise_mergeSort
      (fun x y z hxy hyz => by
        simp only [decide_eq_true_eq] at hxy hyz ⊢
        exact String.le_trans hxy hyz)
      (fun x y => by simpa using String.le_total x y) names
  constructor
  · intro hsame
    calc first.Perm (first.mergeSort fun x y => x ≤ y) :=
          (List.mergeSort_perm _ _).symm
      _ = second.mergeSort fun x y => x ≤ y := hsame
      List.Perm _ second := List.mergeSort_perm _ _
  · intro hperm
    refine List.Perm.eq_of_pairwise (fun x y _ _ hxy hyx => ?_)
      (hsorted first) (hsorted second) ?_
    · exact String.le_antisymm (by simpa using hxy) (by simpa using hyx)
    · exact (List.mergeSort_perm _ _).trans
        (hperm.trans (List.mergeSort_perm _ _).symm)

theorem PromtailSettings.render_inj {settings : PromtailSettings}
    {first second : List String}
    (hfirst : ∀ name ∈ first, IsNamespaceName name)
    (hsecond : ∀ name ∈ second, IsNamespaceName name) :
    PromtailSettings.render { settings with namespaces := first } =
        PromtailSettings.render { settings with namespaces := second } ↔
      first = second := by
  refine ⟨fun hrender => ?_, fun hsame => by rw [hsame]⟩
  unfold PromtailSettings.render at hrender
  rw [String.append_left_inj, String.append_right_inj] at hrender
  have hparts {names : List String}
      (hnames : ∀ name ∈ names, IsNamespaceName name) :
      ∀ name ∈ names, name ≠ "" ∧ ',' ∉ name.toList :=
    fun name hname => ⟨(hnames name hname).nonempty, (hnames name hname).noComma⟩
  exact GoStrings.join_inj (hparts hfirst) (hparts hsecond) hrender

def scrapedNamespaces (promtail : PromtailIndex) (cluster : Cluster) :
    List String :=
  (cluster.select .nameSpace
    { labels := promtail.namespaceLabelSelector }).map fun item => item.1.name

section Config

variable {cr : Observability} {observatorium : ObservatoriumIndex}

theorem getPromtailConfig_ok_iff {indexId text : String}
    {namespaces : List String} :
    getPromtailConfig cr observatorium indexId namespaces = .ok text ↔
      ∃ target, promtailTarget cr observatorium = .ok target ∧
        PromtailSettings.render
          { clusterId := cr.status.clusterId
            observabilityId := indexId
            namespaces := namespaces.mergeSort fun x y => x ≤ y
            url := target.1
            requireToken := target.2 } = text := by
  unfold getPromtailConfig promtailSettings
  cases promtailTarget cr observatorium with
  | error message => simp [Except.map]
  | ok target => simp [Except.map]

theorem getPromtailConfig_eq_of_ok {indexId text : String}
    {first second : List String}
    (hfirst : getPromtailConfig cr observatorium indexId first = .ok text)
    (hfirstNames : ∀ name ∈ first, IsNamespaceName name)
    (hsecondNames : ∀ name ∈ second, IsNamespaceName name) :
    getPromtailConfig cr observatorium indexId second = .ok text ↔
      first.Perm second := by
  obtain ⟨target, htarget, rfl⟩ := getPromtailConfig_ok_iff.mp hfirst
  have hsorted {names : List String}
      (hnames : ∀ name ∈ names, IsNamespaceName name) :
      ∀ name ∈ names.mergeSort fun x y => x ≤ y, IsNamespaceName name :=
    fun name hname => hnames name ((List.mergeSort_perm _ _).mem_iff.mp hname)
  have hrender := @PromtailSettings.render_inj
    ⟨cr.status.clusterId, indexId, [], target.1, target.2⟩ _ _
    (hsorted hsecondNames) (hsorted hfirstNames)
  rw [getPromtailConfig_ok_iff, List.perm_comm, ← mergeSort_eq_iff_perm,
    ← hrender]
  constructor
  · rintro ⟨other, hother, hsame⟩
    obtain rfl : target = other := by
      rw [htarget] at hother
      exact Except.ok.inj hother
    exact hsame
  · intro hsame
    exact ⟨target, htarget, hsame⟩

theorem run_createPromtailConfigFor_eq_ok {env : Surroundings}
    {index : RepositoryIndex} {promtail : PromtailIndex} {config : String}
    {cluster after : Cluster}
    (hrun : env.run
      (createPromtailConfigFor cr index promtail observatorium) cluster =
        (.ok config, after)) :
    config =
      match getPromtailConfig cr observatorium index.id
          (scrapedNamespaces promtail cluster) with
      | .ok text => text
      | .error _ => "" := by
  obtain ⟨namespaces, listed, hlist, hrun⟩ := run_bind_eq_ok hrun
  obtain ⟨object, written, hwrite, hdone⟩ := run_bind_eq_ok hrun
  cases hdone
  have hnames : namespaces = scrapedNamespaces promtail cluster := by
    unfold getScrapeNamespacesFor at hlist
    simp only [bind_eq_bind] at hlist
    rw [← Program.bind_assoc] at hlist
    obtain ⟨items, between, hitems, hdone⟩ := run_bind_eq_ok hlist
    obtain ⟨rfl, -⟩ := run_listed_eq_ok hitems
    cases hdone
    rfl
  subst hnames
  rfl

end Config

/-- The configuration text is the same for two lists of namespaces exactly if
they are permutations of each other, and the text for the namespaces that the
server lists is what the hash is taken of. -/
theorem promtailConfig_reflects_namespaces {cr : Observability}
    {observatorium : ObservatoriumIndex} {indexId text : String}
    {first second : List String}
    (hfirst : getPromtailConfig cr observatorium indexId first = .ok text)
    (hfirstNames : ∀ name ∈ first, IsNamespaceName name)
    (hsecondNames : ∀ name ∈ second, IsNamespaceName name) :
    (getPromtailConfig cr observatorium indexId first =
        getPromtailConfig cr observatorium indexId second ↔
      first.Perm second) ∧
    ∀ (env : Surroundings) (index : RepositoryIndex)
      (promtail : PromtailIndex) (cluster after : Cluster) (config : String),
      index.id = indexId →
      env.run
        (createPromtailConfigFor cr index promtail observatorium) cluster =
          (.ok config, after) →
      getPromtailConfig cr observatorium indexId
        (scrapedNamespaces promtail cluster) = .ok config := by
  refine ⟨?_, ?_⟩
  · rw [hfirst, eq_comm]
    exact getPromtailConfig_eq_of_ok hfirst hfirstNames hsecondNames
  · rintro env index promtail cluster after config rfl hrun
    obtain ⟨target, htarget, -⟩ := getPromtailConfig_ok_iff.mp hfirst
    obtain ⟨written, hwritten⟩ : ∃ written,
        getPromtailConfig cr observatorium index.id
          (scrapedNamespaces promtail cluster) = .ok written :=
      ⟨_, getPromtailConfig_ok_iff.mpr ⟨target, htarget, rfl⟩⟩
    have hconfig := run_createPromtailConfigFor_eq_ok hrun
    rw [hwritten] at hconfig ⊢
    rw [hconfig]

theorem promtailConfig_of_two_namespaces :
    getPromtailConfig plainCr (plainObservatorium "first" "logs") "kafka"
        ["kafka", "connect"] =
      getPromtailConfig plainCr (plainObservatorium "first" "logs") "kafka"
        ["connect", "kafka"] := by
  have hnames : ∀ name ∈ ["kafka", "connect"], IsNamespaceName name := by
    simp only [List.forall_mem_cons]
    exact ⟨⟨by decide, by decide⟩, ⟨by decide, by decide⟩, by simp⟩
  exact (promtailConfig_reflects_namespaces
    (getPromtailConfig_ok_iff.mpr ⟨_, rfl, rfl⟩) hnames
    fun name hname => hnames name
      ((List.Perm.swap _ _ _).mem_iff.mp hname)).1.mpr (List.Perm.swap _ _ _)

end ObservabilityOperator
