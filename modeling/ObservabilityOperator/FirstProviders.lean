import Mathlib.Tactic

/-!
# Keeping the first provider of every key

Groups of items are gone through in order, and of several items with one key
only the first is to be kept.  There are two ways to write the loop.  Meeting a
key that is already taken, `keepNew` goes on with the next item of the group
and `keepNewUntilTaken` abandons the rest of the group.
-/

namespace ObservabilityOperator

namespace FirstProviders

section Definitions

variable {ι κ : Type} [DecidableEq κ] (key : ι → κ)

def taken (kept : List ι) (wanted : κ) : Bool :=
  kept.any fun item => key item == wanted

def keepNew : List ι → List ι → List ι
  | kept, [] => kept
  | kept, item :: rest =>
    if taken key kept (key item) then keepNew kept rest
    else keepNew (kept ++ [item]) rest

def keepNewUntilTaken : List ι → List ι → List ι
  | kept, [] => kept
  | kept, item :: rest =>
    if taken key kept (key item) then kept
    else keepNewUntilTaken (kept ++ [item]) rest

def provider (items : List ι) (wanted : κ) : Option ι :=
  items.find? fun item => key item == wanted

/-- Behind a key that is taken the group lists only taken ones. -/
def NothingNewAfterTaken (before group : List ι) : Prop :=
  ∀ front repeated back, group = front ++ repeated :: back →
    taken key (before ++ front) (key repeated) = true →
      ∀ item ∈ back, taken key (before ++ front) (key item) = true

/-- No group lists a new key behind one that is taken. -/
def Orderly (groups : List (List ι)) : Prop :=
  ∀ before group after, groups = before ++ group :: after →
    NothingNewAfterTaken key before.flatten group

end Definitions

variable {ι κ : Type} [DecidableEq κ] {key : ι → κ}
  {kept items : List ι} {wanted : κ} {groups others : List (List ι)} {item : ι}

theorem taken_eq_true_iff :
    taken key kept wanted = true ↔ ∃ item ∈ kept, key item = wanted := by
  simp [taken]

theorem taken_eq_isSome (kept : List ι) (wanted : κ) :
    taken key kept wanted = (provider key kept wanted).isSome := by
  rw [Bool.eq_iff_iff, taken_eq_true_iff, provider, List.find?_isSome]
  simp

theorem provider_append (first second : List ι) (wanted : κ) :
    provider key (first ++ second) wanted =
      (provider key first wanted).or (provider key second wanted) :=
  List.find?_append

theorem provider_append_cons_of_taken
    (htaken : taken key kept (key item) = true) (rest : List ι) (wanted : κ) :
    provider key (kept ++ item :: rest) wanted =
      provider key (kept ++ rest) wanted := by
  rw [provider_append, provider_append]
  by_cases hkey : key item = wanted
  · subst hkey
    rw [taken_eq_isSome] at htaken
    obtain ⟨first, hfirst⟩ := Option.isSome_iff_exists.mp htaken
    simp [hfirst]
  · simp [provider, hkey]

theorem provider_append_of_all_taken
    (htaken : ∀ item ∈ items, taken key kept (key item) = true) (wanted : κ) :
    provider key (kept ++ items) wanted = provider key kept wanted := by
  induction items with
  | nil => rw [List.append_nil]
  | cons item rest ih =>
    rw [provider_append_cons_of_taken (htaken item (by simp))]
    exact ih fun other hother => htaken other (List.mem_cons_of_mem _ hother)

theorem provider_keepNew (kept items : List ι) (wanted : κ) :
    provider key (keepNew key kept items) wanted =
      provider key (kept ++ items) wanted := by
  induction items generalizing kept with
  | nil => rw [keepNew, List.append_nil]
  | cons item rest ih =>
    rw [keepNew]
    split
    next htaken =>
      rw [ih, provider_append_cons_of_taken htaken]
    next => rw [ih, List.append_assoc, List.singleton_append]

theorem provider_foldl_keepNew (groups : List (List ι)) (kept : List ι)
    (wanted : κ) :
    provider key (groups.foldl (keepNew key) kept) wanted =
      provider key (kept ++ groups.flatten) wanted := by
  induction groups generalizing kept with
  | nil => simp
  | cons group rest ih =>
    rw [List.foldl_cons, ih, provider_append, provider_keepNew,
      ← provider_append, List.flatten_cons, List.append_assoc]

/-! ## Abandoning a group -/

variable {before group : List ι}

theorem NothingNewAfterTaken.of_cons {rest : List ι}
    (hgroup : NothingNewAfterTaken key before (item :: rest)) :
    NothingNewAfterTaken key (before ++ [item]) rest := by
  intro front repeated back hrest htaken other hother
  rw [List.append_assoc, List.singleton_append] at htaken ⊢
  refine hgroup (item :: front) repeated back ?_ htaken other hother
  rw [hrest, List.cons_append]

theorem provider_keepNewUntilTaken (hkept : ∀ wanted, provider key kept wanted =
      provider key before wanted)
    (hgroup : NothingNewAfterTaken key before group) (wanted : κ) :
    provider key (keepNewUntilTaken key kept group) wanted =
      provider key (before ++ group) wanted := by
  induction group generalizing kept before with
  | nil => rw [keepNewUntilTaken, List.append_nil, hkept]
  | cons item rest ih =>
    have hsame : taken key kept (key item) = taken key before (key item) := by
      rw [taken_eq_isSome, taken_eq_isSome, hkept]
    rw [keepNewUntilTaken]
    split
    next htaken =>
      rw [hsame] at htaken
      have hrest := hgroup [] item rest rfl (by simpa using htaken)
      rw [hkept, provider_append_of_all_taken]
      simpa [htaken] using hrest
    next =>
      have hextended (other : κ) : provider key (kept ++ [item]) other =
          provider key (before ++ [item]) other := by
        rw [provider_append, provider_append, hkept]
      rw [ih hextended hgroup.of_cons, List.append_assoc,
        List.singleton_append]

theorem mem_keepNewUntilTaken_of_taken {front back : List ι} {repeated : ι}
    (htaken : taken key (kept ++ front) (key repeated) = true)
    (hitem : item ∈ keepNewUntilTaken key kept
      (front ++ repeated :: back)) : item ∈ kept ++ front := by
  induction front generalizing kept with
  | nil =>
    rw [List.append_nil] at htaken ⊢
    rw [List.nil_append, keepNewUntilTaken, if_pos htaken] at hitem
    exact hitem
  | cons first rest ih =>
    rw [List.cons_append, keepNewUntilTaken] at hitem
    split at hitem
    next => exact List.mem_append_left _ hitem
    next =>
      have hshift : kept ++ first :: rest = kept ++ [first] ++ rest := by
        simp
      rw [hshift] at htaken ⊢
      exact ih htaken hitem

theorem mem_of_mem_keepNewUntilTaken
    (hitem : item ∈ keepNewUntilTaken key kept group) :
    item ∈ kept ++ group := by
  induction group generalizing kept with
  | nil => simpa [keepNewUntilTaken] using hitem
  | cons first rest ih =>
    rw [keepNewUntilTaken] at hitem
    split at hitem
    next => exact List.mem_append_left _ hitem
    next => simpa using ih hitem

theorem mem_of_mem_foldl_keepNewUntilTaken
    (hitem : item ∈ groups.foldl (keepNewUntilTaken key) kept) :
    item ∈ kept ++ groups.flatten := by
  induction groups generalizing kept with
  | nil => simpa using hitem
  | cons group rest ih =>
    rcases List.mem_append.mp (ih hitem) with hgroup | hrest
    · rcases List.mem_append.mp (mem_of_mem_keepNewUntilTaken hgroup) with
        hkept | hgroup
      · exact List.mem_append_left _ hkept
      · simp [hgroup]
    · exact List.mem_append_right _ (List.mem_append_right _ hrest)

theorem keys_nodup_concat (hkept : (kept.map key).Nodup)
    (htaken : ¬ taken key kept (key item) = true) :
    ((kept ++ [item]).map key).Nodup := by
  rw [List.map_append, List.map_singleton, List.nodup_append]
  refine ⟨hkept, List.nodup_singleton _, ?_⟩
  rintro wanted hwanted _ hitem rfl
  obtain rfl := List.mem_singleton.mp hitem
  obtain ⟨other, hother, hsame⟩ := List.mem_map.mp hwanted
  exact htaken (taken_eq_true_iff.mpr ⟨other, hother, hsame⟩)

theorem keys_nodup_keepNew (group : List ι) (hkept : (kept.map key).Nodup) :
    ((keepNew key kept group).map key).Nodup := by
  induction group generalizing kept with
  | nil => exact hkept
  | cons item rest ih =>
    rw [keepNew]
    split
    · exact ih hkept
    next htaken => exact ih (keys_nodup_concat hkept htaken)

theorem keys_nodup_foldl_keepNew (groups : List (List ι))
    (hkept : (kept.map key).Nodup) :
    ((groups.foldl (keepNew key) kept).map key).Nodup := by
  induction groups generalizing kept with
  | nil => exact hkept
  | cons group rest ih => exact ih (keys_nodup_keepNew group hkept)

theorem keys_nodup_keepNewUntilTaken (group : List ι)
    (hkept : (kept.map key).Nodup) :
    ((keepNewUntilTaken key kept group).map key).Nodup := by
  induction group generalizing kept with
  | nil => exact hkept
  | cons item rest ih =>
    rw [keepNewUntilTaken]
    split
    · exact hkept
    next htaken => exact ih (keys_nodup_concat hkept htaken)

theorem keys_nodup_foldl_keepNewUntilTaken (groups : List (List ι))
    (hkept : (kept.map key).Nodup) :
    ((groups.foldl (keepNewUntilTaken key) kept).map key).Nodup := by
  induction groups generalizing kept with
  | nil => exact hkept
  | cons group rest ih =>
    exact ih (keys_nodup_keepNewUntilTaken group hkept)

theorem provider_of_mem (hitems : (items.map key).Nodup)
    (hitem : item ∈ items) : provider key items (key item) = some item := by
  induction items with
  | nil => cases hitem
  | cons first rest ih =>
    obtain ⟨hfirst, hrest⟩ := List.nodup_cons.mp hitems
    rcases List.mem_cons.mp hitem with rfl | hlater
    · simp [provider]
    · have hne : key first ≠ key item := fun hsame =>
        hfirst (List.mem_map.mpr ⟨item, hlater, hsame.symm⟩)
      rw [provider, List.find?_cons_of_neg (by simpa using hne)]
      exact ih hrest hlater

theorem orderly_concat_iff :
    Orderly key (groups ++ [group]) ↔
      Orderly key groups ∧ NothingNewAfterTaken key groups.flatten group := by
  constructor
  · intro horderly
    refine ⟨fun before middle after hgroups => ?_, horderly groups group [] rfl⟩
    refine horderly before middle (after ++ [group]) ?_
    rw [hgroups, List.append_assoc, List.cons_append]
  · rintro ⟨horderly, hlast⟩ before middle after hgroups
    rcases List.eq_nil_or_concat after with rfl | ⟨rest, last, rfl⟩
    · obtain ⟨rfl, hsingle⟩ := List.append_inj' hgroups rfl
      obtain rfl : group = middle := by simpa using hsingle
      exact hlast
    · refine horderly before middle rest ?_
      have hsplit : groups ++ [group] =
          (before ++ middle :: rest) ++ [last] := by
        rw [hgroups, List.concat_eq_append, List.append_assoc, List.cons_append]
      exact (List.append_inj' hsplit rfl).1

/-- Of orderly groups the first provider of every key is kept. -/
theorem provider_foldl_keepNewUntilTaken (horderly : Orderly key groups)
    (wanted : κ) :
    provider key (groups.foldl (keepNewUntilTaken key) []) wanted =
      provider key groups.flatten wanted := by
  induction groups using List.reverseRecOn generalizing wanted with
  | nil => rfl
  | append_singleton groups group ih =>
    obtain ⟨hgroups, hgroup⟩ := orderly_concat_iff.mp horderly
    rw [List.foldl_append, List.foldl_cons, List.foldl_nil,
      provider_keepNewUntilTaken (fun wanted => ih hgroups wanted) hgroup,
      List.flatten_append]
    simp

theorem mem_keys_of_orderly (horderly : Orderly key groups) (wanted : κ) :
    wanted ∈ (groups.foldl (keepNewUntilTaken key) []).map key ↔
      ∃ item ∈ groups.flatten, key item = wanted := by
  rw [← taken_eq_true_iff, taken_eq_isSome,
    ← provider_foldl_keepNewUntilTaken horderly, ← taken_eq_isSome,
    taken_eq_true_iff, List.mem_map]

theorem mem_of_provider_of_orderly (horderly : Orderly key groups)
    (hitem : provider key groups.flatten wanted = some item) :
    item ∈ groups.foldl (keepNewUntilTaken key) [] := by
  rw [← provider_foldl_keepNewUntilTaken horderly] at hitem
  exact List.mem_of_find?_eq_some hitem

theorem Orderly.of_prefix {initial : List (List ι)}
    (horderly : Orderly key groups) (hinitial : initial <+: groups) :
    Orderly key initial := by
  obtain ⟨rest, rfl⟩ := hinitial
  rintro before group after rfl
  exact horderly before group (after ++ rest) (by simp)

/-- Groups are orderly exactly when no initial part of them loses a key. -/
theorem orderly_iff :
    Orderly key groups ↔
      ∀ initial, initial <+: groups → ∀ item ∈ initial.flatten,
        taken key (initial.foldl (keepNewUntilTaken key) []) (key item) =
          true := by
  constructor
  · intro horderly initial hinitial item hitem
    rw [taken_eq_isSome,
      provider_foldl_keepNewUntilTaken (horderly.of_prefix hinitial),
      ← taken_eq_isSome, taken_eq_true_iff]
    exact ⟨item, hitem, rfl⟩
  · intro hkept
    induction groups using List.reverseRecOn with
    | nil =>
      intro before group after hgroups
      simp at hgroups
    | append_singleton groups group ih =>
      have hgroups : Orderly key groups := ih fun initial hinitial =>
        hkept initial (hinitial.trans (List.prefix_append _ _))
      refine orderly_concat_iff.mpr ⟨hgroups, ?_⟩
      rintro front repeated back rfl htaken item hitem
      have hsame (wanted : κ) :
          taken key (groups.foldl (keepNewUntilTaken key) [] ++ front)
              wanted = taken key (groups.flatten ++ front) wanted := by
        rw [taken_eq_isSome, taken_eq_isSome, provider_append,
          provider_append, provider_foldl_keepNewUntilTaken hgroups]
      have hlast := hkept _ (List.prefix_refl _) item (by simp [hitem])
      rw [List.foldl_append, List.foldl_cons, List.foldl_nil,
        taken_eq_true_iff] at hlast
      obtain ⟨kept, hmem, hkey⟩ := hlast
      rw [← hsame] at htaken ⊢
      rw [taken_eq_true_iff]
      exact ⟨kept, mem_keepNewUntilTaken_of_taken htaken hmem, hkey⟩

/-! ## Groups in another order -/

/-- At most one of the groups provides the key. -/
def ProvidedOnce (key : ι → κ) (groups : List (List ι)) (wanted : κ) :
    Prop :=
  groups.Pairwise fun first second =>
    provider key first wanted = none ∨ provider key second wanted = none

theorem ProvidedOnce.perm (honce : ProvidedOnce key groups wanted)
    (hperm : groups.Perm others) : ProvidedOnce key others wanted :=
  List.Pairwise.perm honce hperm fun hnone => hnone.symm

theorem provider_flatten_perm (hperm : groups.Perm others)
    (honce : ProvidedOnce key groups wanted) :
    provider key groups.flatten wanted =
      provider key others.flatten wanted := by
  induction hperm with
  | nil => rfl
  | cons group _ ih =>
    rw [List.flatten_cons, List.flatten_cons, provider_append,
      provider_append, ih (List.pairwise_cons.mp honce).2]
  | swap first second rest =>
    have hnone := (List.pairwise_cons.mp honce).1 first List.mem_cons_self
    simp only [List.flatten_cons, provider_append]
    rcases hnone with hsecond | hfirst
    · simp only [hsecond, Option.none_or]
    · simp only [hfirst, Option.none_or]
  | trans hleft _ ihleft ihright =>
    rw [ihleft honce, ihright (honce.perm hleft)]

theorem provider_eq_none_of_subset {others : List ι} (hsubset : items ⊆ others)
    (hnone : provider key others wanted = none) :
    provider key items wanted = none :=
  List.find?_eq_none.mpr fun item hitem =>
    List.find?_eq_none.mp hnone item (hsubset hitem)

theorem keepNewUntilTaken_append (group : List ι)
    (hnew : ∀ item ∈ group, taken key kept (key item) = false) :
    keepNewUntilTaken key (kept ++ before) group =
      kept ++ keepNewUntilTaken key before group := by
  induction group generalizing before with
  | nil => rfl
  | cons item rest ih =>
    have hsame : taken key (kept ++ before) (key item) =
        taken key before (key item) := by
      rw [taken, List.any_append, ← taken, ← taken,
        hnew item List.mem_cons_self, Bool.false_or]
    rw [keepNewUntilTaken, keepNewUntilTaken, hsame]
    split
    · rfl
    · rw [List.append_assoc]
      exact ih fun other hother => hnew other (List.mem_cons_of_mem _ hother)

theorem foldl_keepNewUntilTaken_eq
    (honce : ∀ wanted, ProvidedOnce key groups wanted) (kept : List ι)
    (hnew : ∀ group ∈ groups, ∀ item ∈ group,
      taken key kept (key item) = false) :
    groups.foldl (keepNewUntilTaken key) kept =
      kept ++ (groups.map (keepNewUntilTaken key [])).flatten := by
  induction groups generalizing kept with
  | nil => simp
  | cons group rest ih =>
    have happend : keepNewUntilTaken key (kept ++ []) group = _ :=
      keepNewUntilTaken_append group (hnew group List.mem_cons_self)
    rw [List.append_nil] at happend
    have hrest (wanted : κ) : ProvidedOnce key rest wanted :=
      (List.pairwise_cons.mp (honce wanted)).2
    rw [List.foldl_cons, happend, ih hrest, List.map_cons,
      List.flatten_cons, List.append_assoc]
    intro other hother item hitem
    have hkept := hnew other (List.mem_cons_of_mem _ hother) item hitem
    have hgroup : provider key group (key item) = none := by
      rcases (List.pairwise_cons.mp (honce (key item))).1 other hother with
        hgroup | hnone
      · exact hgroup
      · exact absurd hnone (List.find?_isSome.mpr
          ⟨item, hitem, by simp⟩ |> Option.isSome_iff_ne_none.mp)
    rw [taken_eq_isSome] at hkept ⊢
    rw [provider_append, provider_eq_none_of_subset
      (fun _ hmem => mem_of_mem_keepNewUntilTaken hmem) hgroup,
      Option.or_none, hkept]

theorem provider_foldl_keepNewUntilTaken_perm (hperm : groups.Perm others)
    (honce : ∀ wanted, ProvidedOnce key groups wanted) (wanted : κ) :
    provider key (groups.foldl (keepNewUntilTaken key) []) wanted =
      provider key (others.foldl (keepNewUntilTaken key) []) wanted := by
  have hnone (list : List (List ι)) : ∀ group ∈ list, ∀ item ∈ group,
      taken key [] (key item) = false := fun _ _ _ _ => rfl
  rw [foldl_keepNewUntilTaken_eq honce [] (hnone groups),
    foldl_keepNewUntilTaken_eq (fun wanted => (honce wanted).perm hperm) []
      (hnone others)]
  apply provider_flatten_perm (hperm.map _)
  rw [ProvidedOnce, List.pairwise_map]
  refine List.Pairwise.imp ?_ (honce wanted)
  intro first second hprovided
  have hsubset (group : List ι) : keepNewUntilTaken key [] group ⊆ group :=
    fun _ hmem => mem_of_mem_keepNewUntilTaken hmem
  exact hprovided.imp (provider_eq_none_of_subset (hsubset first))
    (provider_eq_none_of_subset (hsubset second))

theorem provider_foldl_keepNew_perm (hperm : groups.Perm others)
    (honce : ProvidedOnce key groups wanted) :
    provider key (groups.foldl (keepNew key) []) wanted =
      provider key (others.foldl (keepNew key) []) wanted := by
  rw [provider_foldl_keepNew, provider_foldl_keepNew, List.nil_append,
    List.nil_append, provider_flatten_perm hperm honce]

end FirstProviders

end ObservabilityOperator
