import ObservabilityOperator.JoinedText
import ObservabilityOperator.PrometheusConfig

/-!
# Patterns for federated metrics

The patterns of all federation files are written into the scrape configuration
as one YAML sequence, every pattern between single quotes.  Quotes within a
pattern are not doubled.  The sequence is too short by one character for each
of them, and so it is never read back as the patterns it was made of.
-/

namespace ObservabilityOperator

open YamlFlow

/-! ## The line with the patterns -/

def federationHeader : String :=
  "\n- job_name: openshift-monitoring-federation\n" ++
  "  honor_labels: true\n" ++
  "  kubernetes_sd_configs:\n" ++
  "    - role: service\n" ++
  "      namespaces:\n" ++
  "        names:\n" ++
  "          - openshift-monitoring\n" ++
  "  scrape_interval: 120s\n" ++
  "  scrape_timeout: 60s\n" ++
  "  metrics_path: /federate\n" ++
  "  relabel_configs:\n" ++
  "    - action: keep\n" ++
  "      source_labels: [ '__meta_kubernetes_service_name' ]\n" ++
  "      regex: prometheus-k8s\n" ++
  "    - action: keep\n" ++
  "      source_labels: [ '__meta_kubernetes_service_port_name' ]\n" ++
  "      regex: web\n" ++
  "  params:\n" ++ "    "

def federationFooter : String :=
  "  scheme: https\n" ++
  "  bearer_token_file: " ++
    "\"/var/run/secrets/kubernetes.io/serviceaccount/token\"\n" ++
  "  tls_config:\n" ++
  "    insecure_skip_verify: true\n"

theorem toList_getFederationConfigBearerToken (patterns : List String) :
    (getFederationConfigBearerToken patterns).toList =
      federationHeader.toList ++ ("match[]: [".toList ++
        ((GoStrings.join patterns ",").toList ++
          ("]\n".toList ++ federationFooter.toList))) := by
  have hmatch : "    match[]: [".toList =
      "    ".toList ++ "match[]: [".toList := by decide
  unfold getFederationConfigBearerToken federationHeader federationFooter
  simp only [String.toList_append, List.append_assoc]
  rw [hmatch]
  simp only [List.append_assoc]

def matchLine (config : String) : Option (List Char) :=
  (GoStrings.afterFirst "match[]: [".toList config.toList).map
    fun text => text.takeWhile fun char => !isBreak char

variable {patterns result : List String} {pattern : String}
  {platform : Platform} {env : Surroundings} {indexes : List RepositoryIndex}
  {cluster after : Cluster}

theorem matchLine_getFederationConfigBearerToken
    (hline : ∀ char ∈ (GoStrings.join patterns ",").toList,
      isBreak char = false) :
    matchLine (getFederationConfigBearerToken patterns) =
      some ((GoStrings.join patterns ",").toList ++ [']']) := by
  have hclear : GoStrings.isClearOf "match[]: [".toList
      federationHeader.toList = true := by
    unfold federationHeader
    simp only [String.toList_append]
    decide +kernel
  have hend : "]\n".toList = [']', '\n'] := by decide
  rw [matchLine, toList_getFederationConfigBearerToken,
    GoStrings.afterFirst_append (by decide) hclear, Option.map_some, hend]
  rw [List.takeWhile_append_of_pos (by simpa using hline)]
  rfl

def readPatterns (config : String) : Option (List String) :=
  ((matchLine config).bind readSequence).map fun values =>
    values.map String.ofList

def quotedPattern (pattern : String) : String := "'" ++ pattern ++ "'"

theorem toList_quotedPattern (pattern : String) :
    (quotedPattern pattern).toList =
      quoteMark :: (pattern.toList ++ [quoteMark]) := by
  have hquote : "'".toList = [quoteMark] := by decide
  simp [quotedPattern, String.toList_append, hquote]

theorem addPatterns_append (result first second : List String) :
    addPatterns result (first ++ second) =
      addPatterns (addPatterns result first) second := by
  induction first generalizing result with
  | nil => rfl
  | cons pattern rest ih =>
    simp only [List.cons_append, addPatterns]
    split
    · exact ih result
    · exact ih _

theorem exists_kept_addPatterns (result patterns : List String) :
    ∃ kept : List String, kept.Sublist patterns ∧
      addPatterns result patterns = result ++ kept.map quotedPattern := by
  induction patterns generalizing result with
  | nil => exact ⟨[], .slnil, by simp [addPatterns]⟩
  | cons pattern rest ih =>
    rw [addPatterns]
    split
    next =>
      obtain ⟨kept, hkept, heq⟩ := ih result
      exact ⟨kept, hkept.cons _, heq⟩
    next =>
      obtain ⟨kept, hkept, heq⟩ := ih (result ++ [quotedPattern pattern])
      refine ⟨pattern :: kept, hkept.cons_cons _, ?_⟩
      simpa [quotedPattern] using heq

theorem addPatterns_of_unquoted {added : List String}
    (hpatterns : ∀ pattern ∈ patterns, quoteMark ∉ pattern.toList) :
    addPatterns (added.map quotedPattern) patterns =
      (added ++ patterns).map quotedPattern := by
  induction patterns generalizing added with
  | nil => simp [addPatterns]
  | cons pattern rest ih =>
    have hnew : pattern ∉ added.map quotedPattern := by
      intro hmem
      obtain ⟨earlier, -, rfl⟩ := List.mem_map.mp hmem
      exact hpatterns _ List.mem_cons_self (by simp [toList_quotedPattern])
    rw [addPatterns, if_neg hnew]
    have hrest := @ih (added ++ [pattern])
      fun other hother => hpatterns other (List.mem_cons_of_mem _ hother)
    simpa [quotedPattern] using hrest

/-! ## Patterns that are repeated -/

theorem quotedPattern_injective : Function.Injective quotedPattern := by
  intro first second hsame
  have hlists := congrArg String.toList hsame
  simp only [toList_quotedPattern, List.cons.injEq, true_and,
    List.append_cancel_right_eq] at hlists
  exact String.toList_inj.mp hlists

theorem quoted_mem_or_mem_addPatterns (hpattern : pattern ∈ patterns) :
    quotedPattern pattern ∈ addPatterns [] patterns ∨
      pattern ∈ addPatterns [] patterns := by
  obtain ⟨first, rest, rfl⟩ := List.append_of_mem hpattern
  obtain ⟨kept, -, hkept⟩ :=
    exists_kept_addPatterns (addPatterns (addPatterns [] first) [pattern]) rest
  rw [List.append_cons, addPatterns_append, addPatterns_append, hkept]
  simp only [addPatterns, List.mem_append]
  split
  next hfound => exact .inr (.inl hfound)
  next => exact .inl (.inl (List.mem_append_right _ (by simp [quotedPattern])))

/-- A pattern is repeated exactly where it is the quoted form of an earlier one.
-/
def QuotedWhereRepeated (patterns : List String) : Prop :=
  ∀ before pattern after, patterns = before ++ pattern :: after →
    (pattern ∈ before ↔ pattern ∈ before.map quotedPattern)

theorem quotedWhereRepeated_concat :
    QuotedWhereRepeated (patterns ++ [pattern]) ↔
      QuotedWhereRepeated patterns ∧
        (pattern ∈ patterns ↔ pattern ∈ patterns.map quotedPattern) := by
  constructor
  · intro hquoted
    refine ⟨fun before other after hsplit => ?_, hquoted patterns pattern []
      rfl⟩
    exact hquoted before other (after ++ [pattern]) (by simp [hsplit])
  · rintro ⟨hquoted, hlast⟩ before other after hsplit
    rcases List.eq_nil_or_concat after with rfl | ⟨first, last, rfl⟩
    · obtain ⟨rfl, hsame⟩ := List.append_inj' hsplit rfl
      cases hsame
      exact hlast
    · have hinit : patterns ++ [pattern] =
          (before ++ other :: first) ++ [last] := by simpa using hsplit
      exact hquoted before other first (List.append_inj' hinit rfl).1

theorem eraseDups_concat (patterns : List String) (pattern : String) :
    (patterns ++ [pattern]).eraseDups =
      if pattern ∈ patterns then patterns.eraseDups
      else patterns.eraseDups ++ [pattern] := by
  rw [List.eraseDups_append]
  split
  next hmem => simp [List.removeAll, hmem]
  next hnew => simp [List.removeAll, hnew, List.eraseDups_cons]

theorem nodup_eraseDups (patterns : List String) :
    patterns.eraseDups.Nodup := by
  induction patterns using List.reverseRecOn with
  | nil => simp
  | append_singleton patterns pattern ih =>
    rw [eraseDups_concat]
    split
    next => exact ih
    next hnew =>
      rw [← List.concat_eq_append]
      exact ih.concat (by rwa [List.mem_eraseDups])

theorem addPatterns_concat (patterns : List String) (pattern : String) :
    addPatterns [] (patterns ++ [pattern]) =
      if pattern ∈ addPatterns [] patterns then addPatterns [] patterns
      else addPatterns [] patterns ++ [quotedPattern pattern] := by
  rw [addPatterns_append]
  rfl

theorem addPatterns_eq_eraseDups_iff (patterns : List String) :
    addPatterns [] patterns = patterns.eraseDups.map quotedPattern ↔
      QuotedWhereRepeated patterns := by
  induction patterns using List.reverseRecOn with
  | nil => simp [addPatterns, QuotedWhereRepeated]
  | append_singleton patterns pattern ih =>
    rw [quotedWhereRepeated_concat, ← ih, addPatterns_concat,
      eraseDups_concat]
    constructor
    · intro hsame
      by_cases hfound : pattern ∈ addPatterns [] patterns <;>
        by_cases hmem : pattern ∈ patterns
      · rw [if_pos hfound, if_pos hmem] at hsame
        refine ⟨hsame, iff_of_true hmem ?_⟩
        rw [hsame] at hfound
        simpa using hfound
      · rw [if_pos hfound, if_neg hmem] at hsame
        obtain ⟨kept, hkept, hadded⟩ := exists_kept_addPatterns [] patterns
        have hlast : quotedPattern pattern ∈ kept.map quotedPattern := by
          rw [← List.nil_append (kept.map quotedPattern), ← hadded, hsame]
          simp
        rw [List.mem_map_of_injective quotedPattern_injective] at hlast
        exact absurd (hkept.subset hlast) hmem
      · rw [if_neg hfound, if_pos hmem] at hsame
        have hnodup : (patterns.eraseDups.map quotedPattern).Nodup :=
          (nodup_eraseDups patterns).map quotedPattern_injective
        rw [← hsame] at hnodup
        have hquoted : quotedPattern pattern ∈ addPatterns [] patterns :=
          (quoted_mem_or_mem_addPatterns hmem).resolve_right hfound
        exact absurd rfl ((List.nodup_append.mp hnodup).2.2 _ hquoted _
          (List.mem_singleton_self _))
      · rw [if_neg hfound, if_neg hmem, List.map_append] at hsame
        have hinit := (List.append_inj' hsame rfl).1
        refine ⟨hinit, iff_of_false hmem fun hquoted => hfound ?_⟩
        rw [hinit]
        simpa using hquoted
    · rintro ⟨hinit, hrepeated⟩
      have hiff : pattern ∈ addPatterns [] patterns ↔ pattern ∈ patterns := by
        rw [hinit, hrepeated]
        simp
      by_cases hmem : pattern ∈ patterns
      · rw [if_pos (hiff.mpr hmem), if_pos hmem, hinit]
      · rw [if_neg (mt hiff.mp hmem), if_neg hmem, List.map_append, hinit]
        rfl

/-! ## Reading the patterns back -/

/-- The pattern has no line break. -/
def IsSingleLine (pattern : String) : Prop :=
  ∀ char ∈ pattern.toList, isBreak char = false

theorem matchLine_quotedPatterns
    (hlines : ∀ pattern ∈ patterns, IsSingleLine pattern) :
    matchLine (getFederationConfigBearerToken (patterns.map quotedPattern)) =
      some (flowLine (patterns.map String.toList)) := by
  have hjoin : (GoStrings.join (patterns.map quotedPattern) ",").toList =
      [','].intercalate ((patterns.map String.toList).map fun value =>
        quoteMark :: (value ++ [quoteMark])) := by
    rw [GoStrings.toList_join, List.map_map, List.map_map]
    exact congrArg _ (List.map_congr_left fun pattern _ =>
      toList_quotedPattern pattern)
  rw [matchLine_getFederationConfigBearerToken, hjoin]
  · rfl
  · rw [hjoin]
    intro char hchar
    rcases GoStrings.mem_of_mem_intercalate hchar with
      hcomma | ⟨part, hpart, hmem⟩
    · obtain rfl := List.mem_singleton.mp hcomma
      decide
    · simp only [List.mem_map, exists_exists_and_eq_and] at hpart
      obtain ⟨pattern, hpattern, rfl⟩ := hpart
      simp only [List.mem_cons, List.mem_append, List.not_mem_nil,
        or_false] at hmem
      rcases hmem with rfl | hmem | rfl
      · decide
      · exact hlines pattern hpattern char hmem
      · decide

theorem readPatterns_addPatterns_iff
    (hlines : ∀ pattern ∈ patterns, IsSingleLine pattern) :
    readPatterns (getFederationConfigBearerToken (addPatterns [] patterns)) =
        some patterns ↔ ∀ pattern ∈ patterns, quoteMark ∉ pattern.toList := by
  have hback (values : List String) :
      (values.map String.toList).map String.ofList = values := by
    simp [Function.comp_def]
  constructor
  · intro hread
    obtain ⟨kept, hkept, hadded⟩ := exists_kept_addPatterns [] patterns
    have hline := @matchLine_quotedPatterns kept
      fun pattern hpattern => hlines pattern (hkept.subset hpattern)
    rw [readPatterns, hadded, List.nil_append, hline, Option.bind_some] at hread
    obtain ⟨values, hvalues, hpatterns⟩ := Option.map_eq_some_iff.mp hread
    have hlists : values = patterns.map String.toList := by
      rw [← hpatterns]
      simp [Function.comp_def]
    rw [hlists] at hvalues
    intro pattern hpattern
    exact not_mem_of_readSequence (hkept.map _) hvalues _
      (List.mem_map_of_mem hpattern)
  · intro hunquoted
    have hadded : addPatterns [] patterns = patterns.map quotedPattern :=
      @addPatterns_of_unquoted patterns [] hunquoted
    have hplain : ∀ value ∈ patterns.map String.toList, IsPlainLine value := by
      simp only [List.mem_map, forall_exists_index, and_imp,
        forall_apply_eq_imp_iff₂]
      exact fun pattern hpattern =>
        ⟨hunquoted pattern hpattern, hlines pattern hpattern⟩
    rw [readPatterns, hadded, matchLine_quotedPatterns hlines,
      Option.bind_some, readSequence_flowLine hplain, Option.map_some, hback]

/-! ## The federation files -/

def RepositoryIndex.federationFile (index : RepositoryIndex) :
    Option String :=
  match index.config.bind RepositoryConfig.prometheus with
  | none => none
  | some prometheus =>
    if prometheus.federation = "" then none
    else some prometheus.federation

/-- The patterns are those of the federation file of the index, if it has one.
-/
def FetchesPatterns (platform : Platform) (env : Surroundings)
    (index : RepositoryIndex) (patterns : List String) : Prop :=
  match index.federationFile with
  | none => patterns = []
  | some file => ∃ before after bytes,
      env.run (fetchResource platform (index.baseUrl ++ "/" ++ file)
        index.tag index.accessToken) before = (.ok bytes, after) ∧
      platform.unmarshalFederation bytes = .ok patterns

theorem run_fetchFederationPatterns_eq_ok {final : List String}
    (hrun : env.run (fetchFederationPatterns platform result indexes)
      cluster = (.ok final, after)) :
    ∃ files, List.Forall₂ (FetchesPatterns platform env) indexes
      files ∧ final = addPatterns result files.flatten := by
  induction indexes generalizing result cluster with
  | nil =>
    cases hrun
    exact ⟨[], .nil, rfl⟩
  | cons index rest ih =>
    have hpassed (hnone : index.federationFile = none)
        (hrest : env.run
          (fetchFederationPatterns platform result rest) cluster =
            (.ok final, after)) :
        ∃ files, List.Forall₂ (FetchesPatterns platform env)
          (index :: rest) files ∧ final = addPatterns result files.flatten := by
      obtain ⟨files, hfiles, hfinal⟩ := ih hrest
      exact ⟨[] :: files, .cons (by simp [FetchesPatterns, hnone]) hfiles,
        hfinal⟩
    unfold fetchFederationPatterns at hrun
    split at hrun
    next hsection =>
      exact hpassed (by simp [RepositoryIndex.federationFile, hsection]) hrun
    next prometheus hsection =>
      split at hrun
      next hempty =>
        exact hpassed
          (by simp [RepositoryIndex.federationFile, hsection, hempty]) hrun
      next hnonempty =>
        obtain ⟨bytes, fetched, hfetch, hrun⟩ := Program.run_bind_eq_ok hrun
        obtain ⟨patterns, hpatterns, hrun⟩ :=
          Program.run_ofExcept_bind_eq_ok hrun
        obtain ⟨files, hfiles, hfinal⟩ := ih hrun
        have hfile : index.federationFile = some prometheus.federation := by
          simp [RepositoryIndex.federationFile, hsection, hnonempty]
        refine ⟨patterns :: files, .cons ?_ hfiles, ?_⟩
        · rw [FetchesPatterns, hfile]
          exact ⟨cluster, fetched, bytes, hfetch, hpatterns⟩
        · rw [List.flatten_cons, addPatterns_append, hfinal]

theorem run_fetchFederationConfigs_eq_ok {cr : Observability}
    (henabled : cr.externalSyncDisabled = false)
    (hrun : env.run (fetchFederationConfigs platform cr indexes)
      cluster = (.ok result, after)) :
    ∃ files, List.Forall₂ (FetchesPatterns platform env) indexes
      files ∧ result = addPatterns [] files.flatten := by
  unfold fetchFederationConfigs at hrun
  rw [henabled, if_neg (by decide)] at hrun
  exact run_fetchFederationPatterns_eq_ok hrun

/-- The patterns of the federation files are read back from the scrape
configuration exactly if none of them has a quote. -/
theorem federationPatterns_survive_iff {platform : Platform}
    {env : Surroundings} {cr : Observability}
    {indexes : List RepositoryIndex} {result : List String}
    {cluster after : Cluster} (henabled : cr.externalSyncDisabled = false)
    (hrun : env.run (fetchFederationConfigs platform cr indexes)
      cluster = (.ok result, after)) :
    ∃ files : List (List String),
      List.Forall₂ (FetchesPatterns platform env) indexes files ∧
      result = addPatterns [] files.flatten ∧
      ((∀ pattern ∈ files.flatten, IsSingleLine pattern) →
        (readPatterns (getFederationConfigBearerToken result) =
            some files.flatten ↔
          ∀ pattern ∈ files.flatten, quoteMark ∉ pattern.toList)) := by
  obtain ⟨files, hfiles, hresult⟩ :=
    run_fetchFederationConfigs_eq_ok henabled hrun
  refine ⟨files, hfiles, hresult, fun hlines => ?_⟩
  rw [hresult]
  exact readPatterns_addPatterns_iff hlines

def Platform.federating (pattern : String) : Platform :=
  { Platform.plain with unmarshalFederation := fun _ => .ok [pattern] }

def federatedIndex : RepositoryIndex where
  id := "kafka"
  config := some { prometheus := some { federation := "federation.yaml" } }

theorem federationPatterns_survive_unquoted :
    ∃ files : List (List String),
      List.Forall₂ (FetchesPatterns (Platform.federating "up")
        answeringSurroundings) [federatedIndex] files ∧
      ["'up'"] = addPatterns [] files.flatten ∧
      ((∀ pattern ∈ files.flatten, IsSingleLine pattern) →
        (readPatterns (getFederationConfigBearerToken ["'up'"]) =
            some files.flatten ↔
          ∀ pattern ∈ files.flatten, quoteMark ∉ pattern.toList)) :=
  @federationPatterns_survive_iff (Platform.federating "up")
    answeringSurroundings plainCr [federatedIndex] ["'up'"] Cluster.empty _
    rfl rfl

def quotedSelector : String := "\x7bjob='kafka'\x7d"

/-- It is collected and written, and not read back. -/
theorem quotedSelector_lost :
    (∃ after, answeringSurroundings.run (fetchFederationConfigs
        (Platform.federating quotedSelector) plainCr [federatedIndex])
      Cluster.empty = (.ok ["'" ++ quotedSelector ++ "'"], after)) ∧
    IsSingleLine quotedSelector ∧
    readPatterns (getFederationConfigBearerToken
      ["'" ++ quotedSelector ++ "'"]) ≠ some [quotedSelector] := by
  have hline : IsSingleLine quotedSelector := by
    have hbreaks : quotedSelector.toList.all (!isBreak ·) = true := by decide
    intro char hchar
    simpa using List.all_eq_true.mp hbreaks char hchar
  refine ⟨⟨_, rfl⟩, hline, fun hread => ?_⟩
  have hunquoted := (@readPatterns_addPatterns_iff [quotedSelector]
    (by simpa using hline)).mp hread
  exact absurd (hunquoted _ List.mem_cons_self) (by decide)

/-- Every pattern of the federation files is returned once, in the order in
which the patterns come first, exactly if a pattern is repeated where it is the
quoted form of an earlier one. -/
theorem federationPatterns_merged_iff {platform : Platform}
    {env : Surroundings} {cr : Observability}
    {indexes : List RepositoryIndex} {result : List String}
    {cluster after : Cluster} (henabled : cr.externalSyncDisabled = false)
    (hrun : env.run (fetchFederationConfigs platform cr indexes)
      cluster = (.ok result, after)) :
    ∃ files : List (List String),
      List.Forall₂ (FetchesPatterns platform env) indexes files ∧
      result = addPatterns [] files.flatten ∧
      (result = files.flatten.eraseDups.map quotedPattern ↔
        QuotedWhereRepeated files.flatten) := by
  obtain ⟨files, hfiles, hresult⟩ :=
    run_fetchFederationConfigs_eq_ok henabled hrun
  refine ⟨files, hfiles, hresult, ?_⟩
  rw [hresult]
  exact addPatterns_eq_eraseDups_iff files.flatten

def Platform.twoFederations : Platform :=
  { Platform.plain with
    unmarshalFederation := fun bytes =>
      .ok (if bytes = "/kafka.yaml" then ["up", "topics"] else ["load"]) }

def echoingSurroundings : Surroundings :=
  { Surroundings.quiet with
    http := fun _ request => .ok ⟨200, request.url.host⟩ }

def federatedIndexes : List RepositoryIndex :=
  ["kafka.yaml", "nodes.yaml"].map fun file =>
    { id := file, config := some { prometheus := some { federation := file } } }

/-- Two federation files with three patterns between them, each of which is
returned once. -/
theorem federationPatterns_merged_distinct :
    (∃ after, echoingSurroundings.run (fetchFederationConfigs
        Platform.twoFederations plainCr federatedIndexes) Cluster.empty =
          (.ok ["'up'", "'topics'", "'load'"], after)) ∧
      List.Forall₂ (FetchesPatterns Platform.twoFederations
        echoingSurroundings) federatedIndexes [["up", "topics"], ["load"]] ∧
      QuotedWhereRepeated ["up", "topics", "load"] ∧
      ["'up'", "'topics'", "'load'"] =
        ["up", "topics", "load"].eraseDups.map quotedPattern := by
  obtain ⟨files, hfiles, -, hmerged⟩ := @federationPatterns_merged_iff
    Platform.twoFederations echoingSurroundings plainCr federatedIndexes
    ["'up'", "'topics'", "'load'"] Cluster.empty _ rfl rfl
  obtain rfl : files = [["up", "topics"], ["load"]] := by
    rcases hfiles with _ | ⟨⟨_, _, _, hkafka, htopics⟩, hrest⟩
    rcases hrest with _ | ⟨⟨_, _, _, hnodes, hload⟩, hnil⟩
    cases hkafka
    cases hnodes
    cases htopics
    cases hload
    cases hnil
    rfl
  exact ⟨⟨_, rfl⟩, hfiles, hmerged.mp rfl, rfl⟩

/-- Two repositories with the same pattern, which is returned twice. -/
theorem sharedPattern_repeated :
    (∃ after, answeringSurroundings.run (fetchFederationConfigs
        (Platform.federating "up") plainCr [federatedIndex, federatedIndex])
      Cluster.empty = (.ok ["'up'", "'up'"], after)) ∧
    ["'up'", "'up'"] ≠ ["up", "up"].eraseDups.map quotedPattern :=
  ⟨⟨_, rfl⟩, by decide⟩

end ObservabilityOperator
