import ObservabilityOperator.TokenRefresherRuns
import Mathlib.Data.List.TakeWhile

/-!
# Pruning of token refreshers against their creation

The search that decides whether an existing refresher is still requested
returns at the first index without a configuration, at the first Observatorium
without a gateway or an SSO configuration and at the first index that does not
run Promtail, where the creating loops skip and go on.
-/

namespace ObservabilityOperator

namespace RefresherEntry

variable (platform : Platform) (entry : RefresherEntry)

def configured : Bool :=
  entry.observatorium.isValid &&
    match entry.observatorium.redhatSsoConfig with
    | some sso => (platform.urlParse sso.url).isOk
    | none => false

def hasCredentials (t : TokenRefresherType) : Bool :=
  match entry.observatorium.redhatSsoConfig, t with
  | some sso, .metrics => sso.hasMetrics
  | some sso, .logs => sso.hasLogs
  | none, _ => false

def complete : Bool :=
  entry.configured platform && entry.hasCredentials .metrics &&
    entry.promtailEnabled && entry.hasCredentials .logs

def requests (t : TokenRefresherType) : Bool :=
  entry.observatorium.authType = .redhat && entry.hasCredentials t &&
    (t = .metrics || entry.promtailEnabled)

end RefresherEntry

/-! ## What the search gets to see -/

def searchEntries (indexes : List RepositoryIndex) :
    List (Option RefresherEntry) :=
  indexes.flatMap fun index =>
    match index.config with
    | none => [none]
    | some _ => index.refresherEntries.map some

def passesSearch (platform : Platform) : Option RefresherEntry → Bool
  | none => false
  | some entry => entry.complete platform

def searchedEntries (platform : Platform) (indexes : List RepositoryIndex) :
    List (Option RefresherEntry) :=
  (searchEntries indexes).takeWhile (passesSearch platform)

def searchEnd (platform : Platform) (indexes : List RepositoryIndex) :
    Option (Option RefresherEntry) :=
  ((searchEntries indexes).dropWhile (passesSearch platform)).head?

/-- The search comes to an entry that keeps the refresher. -/
def SearchFinds (platform : Platform) (indexes : List RepositoryIndex)
    (id : String) (t : TokenRefresherType) : Prop :=
  (∃ entry, some entry ∈ searchedEntries platform indexes ∧
      entry.observatorium.id = id) ∨
    t = .metrics ∧ ∃ entry, searchEnd platform indexes = some (some entry) ∧
      entry.configured platform = true ∧
      entry.hasCredentials .metrics = true ∧ entry.observatorium.id = id

/-- An entry at which the search ends is not set up, or asks for metrics only.
-/
def SearchIsSafe (platform : Platform) (indexes : List RepositoryIndex) :
    Prop :=
  ∀ entry, searchEnd platform indexes = some (some entry) →
    entry.configured platform = true →
      entry.hasCredentials .metrics = true ∧ entry.promtailEnabled = false

/-- An entry of this id asks for a refresher of this type. -/
def RefresherRequested (indexes : List RepositoryIndex) (id : String)
    (t : TokenRefresherType) : Prop :=
  ∃ entry ∈ refresherEntries indexes,
    entry.observatorium.id = id ∧ entry.requests t = true

section Search

variable {platform : Platform} {render : String → String} {name : String}
  {entry : RefresherEntry} {t : TokenRefresherType}
  {indexes : List RepositoryIndex}

def searchEntry (platform : Platform) (render : String → String)
    (name : String) : Option RefresherEntry → Option (Except Panic Bool)
  | none => some (.ok false)
  | some entry =>
    searchObservatorium platform render name entry.promtailEnabled
      entry.observatorium

theorem findSome?_searchIndex (indexes : List RepositoryIndex) :
    indexes.findSome? (searchIndex platform render name) =
      (searchEntries indexes).findSome? (searchEntry platform render name) := by
  induction indexes with
  | nil => rfl
  | cons index rest ih =>
    rw [searchEntries, List.flatMap_cons, List.findSome?_append,
      ← searchEntries, ← ih, List.findSome?_cons]
    have hindex : searchIndex platform render name index =
        (match index.config with
          | none => [none]
          | some _ => index.refresherEntries.map some).findSome?
            (searchEntry platform render name) := by
      unfold searchIndex RepositoryIndex.refresherEntries
      cases index.config with
      | none => rfl
      | some config =>
        simp only [List.map_map, List.findSome?_map]
        rfl
    rw [← hindex]
    cases searchIndex platform render name index <;> rfl

theorem configSet_of_hasCredentials
    (hconfigured : entry.configured platform = true)
    (hcredentials : entry.hasCredentials t = true) :
    ∃ config,
      getTokenRefresherConfigSetFor platform t entry.observatorium =
        .ok (some config) := by
  unfold RefresherEntry.configured at hconfigured
  unfold RefresherEntry.hasCredentials at hcredentials
  unfold getTokenRefresherConfigSetFor
  cases hsso : entry.observatorium.redhatSsoConfig with
  | none => simp [hsso] at hcredentials
  | some sso =>
    cases hurl : platform.urlParse sso.url with
    | error error =>
      simp [hsso, hurl, Except.isOk, Except.toBool] at hconfigured
    | ok url => cases t <;> simp_all

theorem configSet_of_not_hasCredentials
    (hconfigured : entry.configured platform = true)
    (hcredentials : entry.hasCredentials t = false) :
    getTokenRefresherConfigSetFor platform t entry.observatorium =
      .ok none := by
  unfold RefresherEntry.configured at hconfigured
  unfold RefresherEntry.hasCredentials at hcredentials
  unfold getTokenRefresherConfigSetFor
  cases hsso : entry.observatorium.redhatSsoConfig with
  | none => rfl
  | some sso =>
    cases hurl : platform.urlParse sso.url with
    | error error =>
      simp [hsso, hurl, Except.isOk, Except.toBool] at hconfigured
    | ok url => cases t <;> simp_all

theorem searchEntry_of_not_configured
    (hconfigured : entry.configured platform = false) :
    searchEntry platform render name (some entry) = some (.ok false) := by
  simp only [searchEntry, searchObservatorium]
  split
  · rfl
  · rename_i hguard
    unfold RefresherEntry.configured at hconfigured
    cases hsso : entry.observatorium.redhatSsoConfig with
    | none => simp [hsso] at hguard
    | some sso =>
      cases hurl : platform.urlParse sso.url with
      | error error =>
        simp [getTokenRefresherConfigSetFor, hsso, hurl]
      | ok url =>
        simp [hsso, hurl, Except.isOk, Except.toBool] at hconfigured
        simp [hconfigured] at hguard

theorem searchEntry_of_configured
    (hconfigured : entry.configured platform = true) :
    searchEntry platform render name (some entry) =
      if entry.hasCredentials .metrics = false then
        some (.error .nilPointer)
      else if name =
          render (getTokenRefresherName entry.observatorium.id .metrics) then
        some (.ok true)
      else if entry.promtailEnabled = false then some (.ok false)
      else if entry.hasCredentials .logs = false then
        some (.error .nilPointer)
      else if name =
          render (getTokenRefresherName entry.observatorium.id .logs) then
        some (.ok true)
      else none := by
  have hguard : (!entry.observatorium.isValid ||
      entry.observatorium.redhatSsoConfig.isNone) = false := by
    unfold RefresherEntry.configured at hconfigured
    cases hsso : entry.observatorium.redhatSsoConfig <;>
      simp_all
  simp only [searchEntry, searchObservatorium, hguard, Bool.false_eq_true,
    if_false, List.findSome?_cons, List.findSome?_nil, reduceCtorEq,
    false_and, true_and]
  cases hmetrics : entry.hasCredentials .metrics with
  | false => simp [configSet_of_not_hasCredentials hconfigured hmetrics]
  | true =>
    obtain ⟨config, hconfig⟩ :=
      configSet_of_hasCredentials hconfigured hmetrics
    simp only [hconfig, name_of_getTokenRefresherConfigSetFor hconfig]
    split
    next hname => simp_all
    next hname =>
      cases hpromtail : entry.promtailEnabled with
      | false => simp_all
      | true =>
        cases hlogs : entry.hasCredentials .logs with
        | false =>
          simp_all [configSet_of_not_hasCredentials hconfigured hlogs]
        | true =>
          obtain ⟨other, hother⟩ :=
            configSet_of_hasCredentials hconfigured hlogs
          simp only [hother, name_of_getTokenRefresherConfigSetFor hother]
          split <;> simp_all

theorem searchEntry_of_complete_of_eq
    (hcomplete : entry.complete platform = true)
    (hname : name = render (getTokenRefresherName entry.observatorium.id t)) :
    searchEntry platform render name (some entry) = some (.ok true) := by
  simp only [RefresherEntry.complete, Bool.and_eq_true] at hcomplete
  obtain ⟨⟨⟨hconfigured, hmetrics⟩, hpromtail⟩, hlogs⟩ := hcomplete
  rw [searchEntry_of_configured hconfigured]
  cases t <;> simp [hmetrics, hpromtail, hlogs, hname]

theorem searchEntry_of_complete_of_ne
    (hcomplete : entry.complete platform = true)
    (hname : ∀ t, name ≠
      render (getTokenRefresherName entry.observatorium.id t)) :
    searchEntry platform render name (some entry) = none := by
  simp only [RefresherEntry.complete, Bool.and_eq_true] at hcomplete
  obtain ⟨⟨⟨hconfigured, hmetrics⟩, hpromtail⟩, hlogs⟩ := hcomplete
  rw [searchEntry_of_configured hconfigured]
  simp [hmetrics, hpromtail, hlogs, hname .metrics, hname .logs]

theorem searchEntry_isSome_of_not_passesSearch {entry : Option RefresherEntry}
    (hpasses : passesSearch platform entry = false) :
    (searchEntry platform render name entry).isSome = true := by
  cases entry with
  | none => rfl
  | some entry =>
    cases hconfigured : entry.configured platform with
    | false => rw [searchEntry_of_not_configured hconfigured]; rfl
    | true =>
      simp only [passesSearch, RefresherEntry.complete, hconfigured,
        Bool.true_and] at hpasses
      rw [searchEntry_of_configured hconfigured]
      grind

theorem mem_searchedEntries {entry : Option RefresherEntry}
    (hentry : entry ∈ searchedEntries platform indexes) :
    passesSearch platform entry = true :=
  (List.mem_takeWhile_imp hentry)

def Searched (platform : Platform) (indexes : List RepositoryIndex)
    (render : String → String) (name : String) : Prop :=
  ∃ entry, some entry ∈ searchedEntries platform indexes ∧
    ∃ t, name = render (getTokenRefresherName entry.observatorium.id t)

theorem search_of_searched (hsearched : Searched platform indexes render name) :
    (searchEntries indexes).findSome? (searchEntry platform render name) =
      some (.ok true) := by
  obtain ⟨entry, hentry, t, hname⟩ := hsearched
  have hfound := searchEntry_of_complete_of_eq (mem_searchedEntries hentry)
    hname
  have hsplit : searchEntries indexes = searchedEntries platform indexes ++
      (searchEntries indexes).dropWhile (passesSearch platform) :=
    List.takeWhile_append_dropWhile.symm
  rw [hsplit, List.findSome?_append]
  cases hfind : (searchedEntries platform indexes).findSome?
      (searchEntry platform render name) with
  | none =>
    have hnone := List.findSome?_eq_none_iff.mp hfind _ hentry
    rw [hfound] at hnone
    cases hnone
  | some result =>
    obtain ⟨other, hother, hresult⟩ := List.exists_of_findSome?_eq_some hfind
    have hpasses := mem_searchedEntries hother
    cases other with
    | none => cases hpasses
    | some other =>
      by_cases hnames : ∃ u, name =
          render (getTokenRefresherName other.observatorium.id u)
      · obtain ⟨u, hu⟩ := hnames
        rw [searchEntry_of_complete_of_eq hpasses hu] at hresult
        simp [← hresult]
      · rw [searchEntry_of_complete_of_ne hpasses (not_exists.mp hnames)]
          at hresult
        cases hresult

theorem search_of_not_searched
    (hsearched : ¬ Searched platform indexes render name) :
    (searchEntries indexes).findSome? (searchEntry platform render name) =
      (searchEnd platform indexes).bind (searchEntry platform render name) := by
  have hsplit : searchEntries indexes = searchedEntries platform indexes ++
      (searchEntries indexes).dropWhile (passesSearch platform) :=
    List.takeWhile_append_dropWhile.symm
  have hnone : (searchedEntries platform indexes).findSome?
      (searchEntry platform render name) = none := by
    refine List.findSome?_eq_none_iff.mpr fun entry hentry => ?_
    have hpasses := mem_searchedEntries hentry
    cases entry with
    | none => cases hpasses
    | some entry =>
      refine searchEntry_of_complete_of_ne hpasses fun t hname => ?_
      exact hsearched ⟨entry, hentry, t, hname⟩
  rw [hsplit, List.findSome?_append, hnone, Option.none_or, searchEnd]
  cases hrest : (searchEntries indexes).dropWhile (passesSearch platform) with
  | nil => rfl
  | cons head rest =>
    have hhead : passesSearch platform head = false := by
      have hlast := List.head?_dropWhile_not (passesSearch platform)
        (searchEntries indexes)
      rw [hrest] at hlast
      simpa using hlast
    have hsome : (searchEntry platform render name head).isSome = true :=
      searchEntry_isSome_of_not_passesSearch hhead
    obtain ⟨result, hresult⟩ := Option.isSome_iff_exists.mp hsome
    simp [hresult]

theorem not_searched_of_safe_end (hsafe : SearchIsSafe platform indexes)
    (hend : searchEnd platform indexes = some (some entry)) :
    searchEntry platform render name (some entry) =
      some (.ok (decide (entry.configured platform = true ∧ name =
        render (getTokenRefresherName entry.observatorium.id .metrics)))) := by
  cases hconfigured : entry.configured platform with
  | false => simp [searchEntry_of_not_configured hconfigured]
  | true =>
    obtain ⟨hmetrics, hpromtail⟩ := hsafe entry hend hconfigured
    rw [searchEntry_of_configured hconfigured]
    by_cases hname : name =
        render (getTokenRefresherName entry.observatorium.id .metrics) <;>
      simp [hmetrics, hpromtail, hname]

/-- A safe search answers, and yes exactly to the names it comes across. -/
theorem search_of_safe (hsafe : SearchIsSafe platform indexes)
    (render : String → String) (name : String) :
    ∃ answer,
      (indexes.findSome? (searchIndex platform render name)).getD
          (.ok false) = .ok answer ∧
        (answer = true ↔ ∃ id t, SearchFinds platform indexes id t ∧
          name = render (getTokenRefresherName id t)) := by
  rw [findSome?_searchIndex]
  by_cases hsearched : Searched platform indexes render name
  · refine ⟨true, by rw [search_of_searched hsearched]; rfl, ?_⟩
    obtain ⟨entry, hentry, t, hname⟩ := hsearched
    simp only [true_iff]
    exact ⟨_, t, .inl ⟨entry, hentry, rfl⟩, hname⟩
  · rw [search_of_not_searched hsearched]
    cases hend : searchEnd platform indexes with
    | none =>
      refine ⟨false, rfl, ?_⟩
      simp only [Bool.false_eq_true, false_iff]
      rintro ⟨id, t, ⟨entry, hentry, rfl⟩ | ⟨-, entry, hother, -⟩, hname⟩
      · exact hsearched ⟨entry, hentry, t, hname⟩
      · simp [hend] at hother
    | some last =>
      cases last with
      | none =>
        refine ⟨false, rfl, ?_⟩
        simp only [Bool.false_eq_true, false_iff]
        rintro ⟨id, t, ⟨entry, hentry, rfl⟩ | ⟨-, entry, hother, -⟩, hname⟩
        · exact hsearched ⟨entry, hentry, t, hname⟩
        · simp [hend] at hother
      | some entry =>
        refine ⟨_, by
          rw [Option.bind_some, not_searched_of_safe_end hsafe hend]
          rfl, ?_⟩
        rw [decide_eq_true_iff]
        constructor
        · rintro ⟨hconfigured, hname⟩
          have hmetrics := (hsafe entry hend hconfigured).1
          exact ⟨_, .metrics, .inr ⟨rfl, entry, hend, hconfigured,
            hmetrics, rfl⟩, hname⟩
        · rintro ⟨id, t, ⟨other, hother, rfl⟩ |
            ⟨rfl, other, hother, hconfigured, -, rfl⟩, hname⟩
          · exact absurd ⟨other, hother, t, hname⟩ hsearched
          · rw [hend] at hother
            cases hother
            exact ⟨hconfigured, hname⟩

theorem exists_end_of_not_safe (hsafe : ¬ SearchIsSafe platform indexes) :
    ∃ entry, searchEnd platform indexes = some (some entry) ∧
      entry.configured platform = true ∧
      (entry.hasCredentials .metrics = false ∨
        entry.promtailEnabled = true ∧ entry.hasCredentials .logs = false) := by
  unfold SearchIsSafe at hsafe
  simp only [not_forall] at hsafe
  obtain ⟨entry, hend, hconfigured, hneither⟩ := hsafe
  have hpasses : passesSearch platform (some entry) = false := by
    have hlast := List.head?_dropWhile_not (passesSearch platform)
      (searchEntries indexes)
    rw [← searchEnd, hend] at hlast
    simpa using hlast
  simp only [passesSearch, RefresherEntry.complete, hconfigured,
    Bool.true_and] at hpasses
  exact ⟨entry, hend, hconfigured, by grind⟩

theorem search_ne_false_of_not_safe (hsafe : ¬ SearchIsSafe platform indexes)
    (render : String → String) (name : String) :
    (indexes.findSome? (searchIndex platform render name)).getD (.ok false) ≠
      .ok false := by
  rw [findSome?_searchIndex]
  by_cases hsearched : Searched platform indexes render name
  · rw [search_of_searched hsearched]
    simp
  · obtain ⟨entry, hend, hconfigured, hmissing⟩ :=
      exists_end_of_not_safe hsafe
    rw [search_of_not_searched hsearched, hend, Option.bind_some,
      searchEntry_of_configured hconfigured]
    grind

end Search

/-! ## Requests of a successful run -/

section Agreement

variable {platform : Platform} {cr : Observability}
  {indexes : List RepositoryIndex} {env : Surroundings}
  {cluster after : Cluster}

theorem configSet?_isSome_iff {entry : RefresherEntry}
    {t : TokenRefresherType} {configSet : Option TokenRefresherConfigSet}
    (hvalid : entry.observatorium.isValid = true)
    (hmetrics : getTokenRefresherConfigSetFor platform .metrics
      entry.observatorium = .ok configSet) :
    (∃ config, entry.configSet? platform t = some config) ↔
      entry.hasCredentials t = true ∧
        (t = .metrics ∨ entry.promtailEnabled = true) := by
  cases hsso : entry.observatorium.redhatSsoConfig with
  | none =>
    simp [RefresherEntry.configSet?, RefresherEntry.hasCredentials,
      getTokenRefresherConfigSetFor, hsso]
  | some sso =>
    have hconfigured : entry.configured platform = true := by
      cases hurl : platform.urlParse sso.url with
      | error error =>
        simp [getTokenRefresherConfigSetFor, hsso, hurl] at hmetrics
      | ok url =>
        simp [RefresherEntry.configured, hvalid, hsso, hurl, Except.isOk,
          Except.toBool]
    unfold RefresherEntry.configSet?
    cases hcredentials : entry.hasCredentials t with
    | false =>
      simp [configSet_of_not_hasCredentials hconfigured hcredentials]
    | true =>
      obtain ⟨config, hconfig⟩ :=
        configSet_of_hasCredentials hconfigured hcredentials
      cases t <;> cases entry.promtailEnabled <;> simp [hconfig]

theorem mem_requestedRefreshers_iff (habsent : oauth2Secret cr cluster = none)
    (hrun : env.run (reconcileTokenRefresher platform cr indexes)
      cluster = (.ok (), after)) (name : String) :
    (∃ config ∈ requestedRefreshers platform indexes, config.name = name) ↔
      ∃ id t, RefresherRequested indexes id t ∧
        name = getTokenRefresherName id t := by
  have hvalid := valid_of_run_reconcileTokenRefresher habsent hrun
  simp only [requestedRefreshers, List.mem_flatMap]
  constructor
  · rintro ⟨config, ⟨entry, hentry, hconfig⟩, rfl⟩
    unfold RefresherEntry.requested at hconfig
    split at hconfig
    next hredhat =>
      obtain ⟨t, -, hconfig⟩ := List.mem_filterMap.mp hconfig
      obtain ⟨hisValid, configSet, hset⟩ := hvalid entry hentry hredhat
      have hrequests := (configSet?_isSome_iff hisValid hset).mp ⟨_, hconfig⟩
      refine ⟨_, t, ⟨entry, hentry, rfl, ?_⟩, RefresherEntry.name_of_configSet? hconfig⟩
      simpa [RefresherEntry.requests, hredhat] using hrequests
    next => simp at hconfig
  · rintro ⟨id, t, ⟨entry, hentry, rfl, hrequests⟩, rfl⟩
    simp only [RefresherEntry.requests, Bool.and_eq_true, decide_eq_true_eq,
      Bool.or_eq_true, and_assoc] at hrequests
    obtain ⟨hredhat, hrequests⟩ := hrequests
    obtain ⟨hisValid, configSet, hset⟩ := hvalid entry hentry hredhat
    obtain ⟨config, hconfig⟩ :=
      (configSet?_isSome_iff hisValid hset).mpr hrequests
    refine ⟨config, ⟨entry, hentry, ?_⟩, RefresherEntry.name_of_configSet? hconfig⟩
    rw [RefresherEntry.requested, if_pos hredhat, List.mem_filterMap]
    exact ⟨t, by cases t <;> simp, hconfig⟩

/-! ## Agreement -/

section Kinds

variable {kind : Kind} {render : String → String}

end Kinds

end Agreement

/-! ## Two concrete index lists -/

def completeIndex : RepositoryIndex where
  id := "kafka"
  config := some
    { promtail := some { enabled := true }
      observatoria := [plainObservatorium "first" "logs"] }

end ObservabilityOperator
