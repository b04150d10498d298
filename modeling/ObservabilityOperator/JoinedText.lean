import ObservabilityOperator.GoRuntime

/-!
# Texts joined from parts

A list that is joined with a separator can be read back as long as its parts
are not empty and do not contain the separator.  Parts in single quotes can
be read back with the rules of YAML, where a flow sequence is a list of
scalars between brackets, separated by commas, and where two quotes within a
single-quoted scalar denote one.
-/

namespace ObservabilityOperator

variable {values : List (List Char)}

namespace GoStrings

variable {α : Type}

theorem intercalate_append_cons (separator first second : List α)
    (rest : List (List α)) :
    separator.intercalate ((first ++ second) :: rest) =
      first ++ separator.intercalate (second :: rest) := by
  cases rest with
  | nil => simp [List.intercalate]
  | cons next others => simp [List.intercalate_cons_cons]

theorem mem_of_mem_intercalate {separator : List α} {parts : List (List α)}
    {item : α} (hitem : item ∈ separator.intercalate parts) :
    item ∈ separator ∨ ∃ part ∈ parts, item ∈ part := by
  induction parts with
  | nil => simp [List.intercalate] at hitem
  | cons part rest ih =>
    cases rest with
    | nil =>
      rw [List.intercalate_singleton] at hitem
      exact .inr ⟨part, List.mem_cons_self, hitem⟩
    | cons next others =>
      rw [List.intercalate_cons_cons, List.mem_append,
        List.mem_append] at hitem
      rcases hitem with (hitem | hitem) | hitem
      · exact .inr ⟨part, List.mem_cons_self, hitem⟩
      · exact .inl hitem
      · refine (ih hitem).imp_right ?_
        rintro ⟨found, hfound, hmem⟩
        exact ⟨found, List.mem_cons_of_mem _ hfound, hmem⟩

theorem toList_join (parts : List String) (separator : String) :
    (join parts separator).toList =
      separator.toList.intercalate (parts.map String.toList) := by
  cases parts with
  | nil => rfl
  | cons first rest =>
    change (rest.foldl (fun text part => text ++ separator ++ part)
      first).toList = _
    induction rest generalizing first with
    | nil => simp [List.intercalate]
    | cons part others ih =>
      rw [List.foldl_cons, ih]
      simp only [String.toList_append, List.map_cons, List.append_assoc,
        intercalate_append_cons, List.intercalate_cons_cons]

theorem join_inj {separator : Char} {first second : List String}
    (hfirst : ∀ part ∈ first, part ≠ "" ∧ separator ∉ part.toList)
    (hsecond : ∀ part ∈ second, part ≠ "" ∧ separator ∉ part.toList)
    (hjoin : join first (String.singleton separator) =
      join second (String.singleton separator)) : first = second := by
  have hjoined := congrArg String.toList hjoin
  rw [toList_join, toList_join, String.toList_singleton] at hjoined
  have hread {parts : List String}
      (hparts : ∀ part ∈ parts, part ≠ "" ∧ separator ∉ part.toList)
      (hne : parts ≠ []) :
      ([separator].intercalate (parts.map String.toList)).splitOn separator =
        parts.map String.toList := by
    refine List.splitOn_intercalate separator ?_ (by simpa using hne)
    simpa using fun part hpart => (hparts part hpart).2
  have hempty {parts : List String}
      (hparts : ∀ part ∈ parts, part ≠ "" ∧ separator ∉ part.toList)
      (hnil : [] = [separator].intercalate (parts.map String.toList)) :
      parts = [] := by
    cases parts with
    | nil => rfl
    | cons part rest =>
      have hpart := (hparts part List.mem_cons_self).1
      rw [List.map_cons, ← List.append_nil part.toList,
        intercalate_append_cons, eq_comm, List.append_eq_nil_iff,
        String.toList_eq_nil_iff] at hnil
      exact (hpart hnil.1).elim
  rcases eq_or_ne first [] with rfl | hfirstNe
  · exact (hempty hsecond hjoined).symm
  rcases eq_or_ne second [] with rfl | hsecondNe
  · exact hempty hfirst hjoined.symm
  have hlists : first.map String.toList = second.map String.toList := by
    rw [← hread hfirst hfirstNe, ← hread hsecond hsecondNe, hjoined]
  exact List.map_injective_iff.mpr (fun _ _ => String.toList_inj.mp) hlists

def afterFirst (part : List Char) : List Char → Option (List Char)
  | [] => if part = [] then some [] else none
  | char :: rest =>
    if part.isPrefixOf (char :: rest) then
      some ((char :: rest).drop part.length)
    else afterFirst part rest

def isClearOf (part : List Char) : List Char → Bool
  | [] => true
  | char :: rest =>
    !(List.isPrefixOf (char :: rest) part) &&
      !(part.isPrefixOf (char :: rest)) && isClearOf part rest

theorem afterFirst_append {part : List Char} (hpart : part ≠ [])
    {text : List Char} (hclear : isClearOf part text = true)
    (rest : List Char) : afterFirst part (text ++ (part ++ rest)) = some rest := by
  induction text with
  | nil =>
    obtain ⟨char, others, rfl⟩ := List.exists_cons_of_ne_nil hpart
    simp [afterFirst, List.isPrefixOf_iff_prefix]
  | cons char others ih =>
    simp only [isClearOf, Bool.and_eq_true, Bool.not_eq_true',
      Bool.eq_false_iff, ne_eq, List.isPrefixOf_iff_prefix] at hclear
    obtain ⟨⟨hwithin, hnot⟩, hothers⟩ := hclear
    have hstart : ¬ part <+: (char :: others) ++ (part ++ rest) := by
      intro hprefix
      rcases List.prefix_or_prefix_of_prefix hprefix
          (List.prefix_append (char :: others) (part ++ rest)) with
        hpart | htext
      · exact hnot hpart
      · exact hwithin htext
    rw [List.cons_append] at hstart ⊢
    rw [afterFirst, if_neg (by simpa using hstart), ih hothers]

end GoStrings

namespace YamlFlow

def quoteMark : Char := Char.ofNat 0x27

def isBlank (char : Char) : Bool :=
  char = ' ' || char = '\t'

def isBreak (char : Char) : Bool :=
  char = '\n' || char = '\r'

/-- A single-quoted scalar after its opening quote, and what follows its
closing quote.  A scalar that does not end on its line is not read. -/
def readSingleQuoted : List Char → Option (List Char × List Char)
  | [] => none
  | char :: rest =>
    if char = quoteMark then
      match rest with
      | [] => some ([], [])
      | next :: after =>
        if next = quoteMark then
          (readSingleQuoted after).map (Prod.map (quoteMark :: ·) id)
        else some ([], rest)
    else if isBreak char then none
    else (readSingleQuoted rest).map (Prod.map (char :: ·) id)

/-- The entries of a flow sequence of single-quoted scalars, after its
opening bracket or one of its commas. -/
def readEntries : ℕ → List Char → Option (List (List Char))
  | 0, _ => none
  | fuel + 1, text =>
    match text.dropWhile isBlank with
    | [] => none
    | char :: rest =>
      if char = ']' then some []
      else if char = quoteMark then
        match readSingleQuoted rest with
        | none => none
        | some (value, after) =>
          match after.dropWhile isBlank with
          | [] => none
          | next :: others =>
            if next = ']' then some [value]
            else if next = ',' then
              (readEntries fuel others).map (value :: ·)
            else none
      else none

def readSequence (line : List Char) : Option (List (List Char)) :=
  readEntries (line.length + 1) line

def flowLine (values : List (List Char)) : List Char :=
  [','].intercalate (values.map fun value =>
    quoteMark :: (value ++ [quoteMark])) ++ [']']

theorem flowLine_cons (value : List Char) (rest : List (List Char)) :
    flowLine (value :: rest) = quoteMark :: (value ++ quoteMark ::
      if rest = [] then [']'] else ',' :: flowLine rest) := by
  cases rest with
  | nil => simp [flowLine, List.intercalate]
  | cons next others => simp [flowLine, List.intercalate_cons_cons]

/-! ### What can be read -/

structure IsPlainLine (value : List Char) : Prop where
  unquoted : quoteMark ∉ value
  unbroken : ∀ char ∈ value, isBreak char = false

theorem readSingleQuoted_cons {char : Char} (hchar : char ≠ quoteMark)
    (hbreak : isBreak char = false) (rest : List Char) :
    readSingleQuoted (char :: rest) =
      (readSingleQuoted rest).map (Prod.map (char :: ·) id) := by
  cases rest <;> simp [readSingleQuoted, hchar, hbreak]

variable {value rest text : List Char} {fuel : ℕ}

theorem readSingleQuoted_append (hvalue : IsPlainLine value)
    (hrest : rest.head? ≠ some quoteMark) :
    readSingleQuoted (value ++ quoteMark :: rest) = some (value, rest) := by
  induction value with
  | nil =>
    cases rest with
    | nil => simp [readSingleQuoted]
    | cons next after =>
      have hnext : next ≠ quoteMark := by simpa using hrest
      simp [readSingleQuoted, hnext]
  | cons char others ih =>
    have hchar : char ≠ quoteMark := fun hquote =>
      hvalue.unquoted (by simp [hquote])
    have hbreak := hvalue.unbroken char List.mem_cons_self
    have hothers : IsPlainLine others :=
      ⟨fun hmem => hvalue.unquoted (List.mem_cons_of_mem _ hmem),
        fun other hmem => hvalue.unbroken other (List.mem_cons_of_mem _ hmem)⟩
    rw [List.cons_append, readSingleQuoted_cons hchar hbreak, ih hothers]
    rfl

theorem readEntries_cons {value : List Char} (hvalue : IsPlainLine value)
    (fuel : ℕ) {next : Char} (hnext : next = ']' ∨ next = ',')
    (rest : List Char) :
    readEntries (fuel + 1) (quoteMark :: (value ++ quoteMark :: next :: rest)) =
      if next = ']' then some [value]
      else (readEntries fuel rest).map (value :: ·) := by
  have hquote : isBlank quoteMark = false := by decide
  have hblank : isBlank next = false := by
    rcases hnext with rfl | rfl <;> decide
  have hmark : next ≠ quoteMark := by
    rcases hnext with rfl | rfl <;> decide
  have hread :
      readSingleQuoted (value ++ quoteMark :: next :: rest) =
        some (value, next :: rest) :=
    readSingleQuoted_append hvalue (by simpa using hmark)
  rw [readEntries]
  simp only [List.dropWhile_cons, hquote, hread, hblank, Bool.false_eq_true,
    if_false, if_true]
  rw [if_neg (by decide)]
  rcases hnext with rfl | rfl
  · rfl
  · rw [if_neg (by decide), if_pos rfl, if_neg (by decide)]

theorem readEntries_flowLine (hvalues : ∀ value ∈ values, IsPlainLine value)
    (hfuel : values.length < fuel) :
    readEntries fuel (flowLine values) = some values := by
  induction values generalizing fuel with
  | nil =>
    obtain ⟨less, rfl⟩ := Nat.exists_eq_succ_of_ne_zero hfuel.ne_bot
    rfl
  | cons value rest ih =>
    obtain ⟨less, rfl⟩ := Nat.exists_eq_succ_of_ne_zero
      (Nat.ne_zero_of_lt hfuel)
    have hvalue := hvalues value List.mem_cons_self
    rw [flowLine_cons]
    split
    next hrest =>
      subst hrest
      rw [readEntries_cons hvalue less (.inl rfl), if_pos rfl]
    next =>
      rw [readEntries_cons hvalue less (.inr rfl), if_neg (by decide),
        ih (fun other hother => hvalues other (List.mem_cons_of_mem _ hother))
          (by simpa using hfuel)]
      rfl

theorem length_flowLine (hvalues : values ≠ []) :
    (flowLine values).length =
      (values.map fun value => value.length + 3).sum := by
  induction values with
  | nil => exact (hvalues rfl).elim
  | cons value rest ih =>
    rw [flowLine_cons]
    split
    next hrest => simp [hrest]
    next hrest =>
      have hlength := ih hrest
      simp only [List.length_cons, List.length_append, hlength,
        List.map_cons, List.sum_cons]
      omega

theorem readSequence_flowLine (hvalues : ∀ value ∈ values, IsPlainLine value) :
    readSequence (flowLine values) = some values := by
  refine readEntries_flowLine hvalues ?_
  rcases eq_or_ne values [] with rfl | hne
  · decide
  · have hle : values.length ≤
        (values.map fun value => value.length + 3).sum := by
      simpa using List.length_le_sum_of_one_le
        (values.map fun value => value.length + 3) (by simp)
    rw [length_flowLine hne]
    omega

/-! ### What reading takes -/

theorem length_of_readSingleQuoted
    (hread : readSingleQuoted text = some (value, rest)) :
    value.length + value.count quoteMark + 1 + rest.length = text.length := by
  fun_induction readSingleQuoted text generalizing value rest with
  | case1 => cases hread
  | case2 => cases hread; rfl
  | case3 after ih =>
    obtain ⟨⟨found, others⟩, hfound, hpair⟩ := Option.map_eq_some_iff.mp hread
    cases hpair
    have hlength := ih hfound
    simp only [List.length_cons, List.count_cons_self, id]
    omega
  | case4 next after hnext =>
    cases hread
    simp only [List.length_cons, List.length_nil, List.count_nil]
    omega
  | case5 => cases hread
  | case6 char after hchar hbreak ih =>
    obtain ⟨⟨found, others⟩, hfound, hpair⟩ := Option.map_eq_some_iff.mp hread
    cases hpair
    have hlength := ih hfound
    simp only [List.length_cons, List.count_cons_of_ne hchar, id]
    omega

theorem length_of_readEntries (hread : readEntries fuel text = some values) :
    (values.map fun value =>
      value.length + value.count quoteMark + 3).sum ≤ text.length := by
  induction fuel generalizing text values with
  | zero => cases hread
  | succ fuel ih =>
    have hblanks := (List.dropWhile_suffix isBlank (l := text)).length_le
    rw [readEntries] at hread
    split at hread
    next => cases hread
    next char rest htext =>
      rw [htext, List.length_cons] at hblanks
      split at hread
      next => cases hread; simp
      next =>
        split at hread
        next =>
          split at hread
          next => cases hread
          next value after hvalue =>
            have hscalar := length_of_readSingleQuoted hvalue
            have hafter :=
              (List.dropWhile_suffix isBlank (l := after)).length_le
            split at hread
            next => cases hread
            next next others hothers =>
              rw [hothers, List.length_cons] at hafter
              split at hread
              next =>
                cases hread
                simp only [List.map_cons, List.map_nil, List.sum_cons,
                  List.sum_nil]
                omega
              next =>
                split at hread
                next =>
                  obtain ⟨found, hfound, rfl⟩ :=
                    Option.map_eq_some_iff.mp hread
                  have hlength := ih hfound
                  simp only [List.map_cons, List.sum_cons]
                  omega
                next => cases hread
        next => cases hread

/-- Where a list is read from the line of some of its entries, no entry has a
quote: the line is too short for it. -/
theorem not_mem_of_readSequence {kept : List (List Char)}
    (hkept : kept.Sublist values)
    (hread : readSequence (flowLine kept) = some values) :
    ∀ value ∈ values, quoteMark ∉ value := by
  rcases eq_or_ne kept [] with rfl | hne
  · cases hread
    simp
  have hlength := length_of_readEntries hread
  rw [length_flowLine hne] at hlength
  have hshorter : (kept.map fun value => value.length + 3).sum ≤
      (values.map fun value => value.length + 3).sum :=
    (hkept.map _).sum_le_sum fun _ _ => Nat.zero_le _
  have hsum : (values.map fun value =>
        value.length + value.count quoteMark + 3).sum =
      (values.map fun value => value.length + 3).sum +
        (values.map fun value => value.count quoteMark).sum := by
    rw [← List.sum_map_add]
    exact congrArg List.sum (List.map_congr_left fun value _ => by omega)
  have hzero : (values.map fun value => value.count quoteMark).sum = 0 := by
    omega
  intro value hvalue
  exact List.count_eq_zero.mp
    (List.sum_eq_zero_iff.mp hzero _ (List.mem_map_of_mem hvalue))

end YamlFlow

end ObservabilityOperator
