import ObservabilityOperator.RequestProgram

/-!
# The parts of Go that the operator relies on

Errors are values: a call returns one, and the caller returns it, wraps it, or
logs it and carries on.  A nil dereference or an index out of range is not an
error but a panic, which no caller of the operator recovers from, and so is a
recursion that outgrows the stack.  `attempt` turns the error of a call into a
value and lets panics through.
-/

namespace ObservabilityOperator

/-! ## Errors and panics -/

inductive GoError (Cause : Type) where
  | api (cause : Cause)
  | text (message : String)
  | wrapped (error : GoError Cause) (message : String)
  deriving DecidableEq

/-- What makes a call panic.  A nil pointer of the custom resource is told from
one found elsewhere. -/
inductive Panic where
  | nilPointer
  | nilSpec
  | indexOutOfRange
  | stackOverflow
  deriving DecidableEq, Repr

inductive Abort (Cause : Type) where
  | error (error : GoError Cause)
  | panic (panic : Panic)
  deriving DecidableEq

namespace Program

variable {Op : Type} {Res : Op → Type} {Cause α β S : Type}
  {program : Program Res (Abort Cause) α} {handler : Handler Res S}
  {state after : S} {message : String} {value : α} {Inv : S → Prop}
  {failing : Abort Cause → Prop} {result : Except String α}

def attempt (program : Program Res (Abort Cause) α) :
    Program Res (Abort Cause) (Except (GoError Cause) α) :=
  (program.bind fun value => .done (.ok value)).recover fun abort =>
    match abort with
    | .error error => .done (.error error)
    | .panic panic => .fail (.panic panic)

def wrapping (message : String) (program : Program Res (Abort Cause) α) :
    Program Res (Abort Cause) α :=
  program.recover fun abort =>
    match abort with
    | .error error => .fail (.error (.wrapped error message))
    | .panic panic => .fail (.panic panic)

def deref (pointer : Option α) : Program Res (Abort Cause) α :=
  match pointer with
  | some value => .done value
  | none => .fail (.panic .nilPointer)

def derefSpec (pointer : Option α) : Program Res (Abort Cause) α :=
  match pointer with
  | some value => .done value
  | none => .fail (.panic .nilSpec)

def ofExcept (result : Except String α) : Program Res (Abort Cause) α :=
  match result with
  | .ok value => .done value
  | .error message => .fail (.error (.text message))

theorem run_attempt (handler : Handler Res S)
    (program : Program Res (Abort Cause) α) (state : S) :
    program.attempt.run handler state =
      match program.run handler state with
      | (.ok value, after) => (.ok (.ok value), after)
      | (.error (.error error), after) => (.ok (.error error), after)
      | (.error (.panic panic), after) => (.error (.panic panic), after) := by
  unfold attempt
  rw [run_recover, run_bind]
  rcases program.run handler state with ⟨result, after⟩
  rcases result with abort | value
  · cases abort <;> rfl
  · rfl

theorem run_attempt_eq_ok_ok :
    program.attempt.run handler state = (.ok (.ok value), after) ↔
      program.run handler state = (.ok value, after) := by
  rw [run_attempt]
  rcases program.run handler state with ⟨result, between⟩
  rcases result with abort | found
  · cases abort <;> simp
  · simp

theorem run_attempt_eq_ok_error {error : GoError Cause} :
    program.attempt.run handler state = (.ok (.error error), after) ↔
      program.run handler state = (.error (.error error), after) := by
  rw [run_attempt]
  rcases program.run handler state with ⟨result, between⟩
  rcases result with abort | found
  · cases abort <;> simp
  · simp

theorem run_wrapping (handler : Handler Res S) (message : String)
    (program : Program Res (Abort Cause) α) (state : S) :
    (program.wrapping message).run handler state =
      match program.run handler state with
      | (.ok value, after) => (.ok value, after)
      | (.error (.error error), after) =>
        (.error (.error (.wrapped error message)), after)
      | (.error (.panic panic), after) => (.error (.panic panic), after) := by
  unfold wrapping
  rw [run_recover]
  rcases program.run handler state with ⟨result, after⟩
  rcases result with abort | value
  · cases abort <;> rfl
  · rfl

theorem run_wrapping_eq_ok :
    (program.wrapping message).run handler state = (.ok value, after) ↔
      program.run handler state = (.ok value, after) := by
  rw [run_wrapping]
  rcases program.run handler state with ⟨result, between⟩
  rcases result with abort | found
  · cases abort <;> simp
  · rfl

theorem events_wrapping (handler : Handler Res S) (message : String)
    (program : Program Res (Abort Cause) α) (state : S) :
    (program.wrapping message).events handler state =
      program.events handler state := by
  unfold wrapping
  induction program generalizing state with
  | done value => rfl
  | fail abort => cases abort <;> rfl
  | request op rest ih =>
    simp only [recover, events, ih]

theorem events_attempt (handler : Handler Res S)
    (program : Program Res (Abort Cause) α) (state : S) :
    program.attempt.events handler state = program.events handler state := by
  unfold attempt
  induction program generalizing state with
  | done value => rfl
  | fail abort => cases abort <;> rfl
  | request op rest ih =>
    simp only [bind, recover, events, ih]

theorem issues_wrapping_iff {op : Op} :
    (program.wrapping message).Issues handler state op ↔
      program.Issues handler state op := by
  rw [Issues, events_wrapping, Issues]

theorem run_ofExcept_bind (handler : Handler Res S)
    (result : Except String α) (next : α → Program Res (Abort Cause) β)
    (state : S) :
    ((ofExcept result).bind next).run handler state =
      match result with
      | .ok value => (next value).run handler state
      | .error message => (.error (.error (.text message)), state) := by
  cases result <;> rfl

theorem run_ofExcept_bind_eq_ok {next : α → Program Res (Abort Cause) β}
    {value : β}
    (hrun : ((ofExcept result).bind next).run handler state =
      (.ok value, after)) :
    ∃ content, result = .ok content ∧
      (next content).run handler state = (.ok value, after) := by
  cases result with
  | error message => simp [ofExcept] at hrun
  | ok content => exact ⟨content, rfl, hrun⟩

theorem run_ofExcept_eq_ok
    (hrun : (ofExcept result : Program Res (Abort Cause) α).run handler
      state = (.ok value, after)) : result = .ok value ∧ after = state := by
  cases result with
  | error message => simp [ofExcept] at hrun
  | ok content =>
    simp only [ofExcept, run_done, Prod.mk.injEq, Except.ok.injEq] at hrun
    exact ⟨by rw [hrun.1], hrun.2.symm⟩

theorem Uses.attempt {allowed : Op → Prop} (huses : program.Uses allowed) :
    program.attempt.Uses allowed := by
  refine Uses.recover (Uses.bind huses fun _ => trivial) fun abort => ?_
  cases abort <;> trivial

theorem Uses.wrapping {allowed : Op → Prop} (huses : program.Uses allowed) :
    (program.wrapping message).Uses allowed := by
  refine Uses.recover huses fun abort => ?_
  cases abort <;> trivial

theorem Ensures.wrapping {Failed : S → Prop} {Ok : α → S → Prop}
    (hprogram : program.Ensures handler Inv state Ok fun _ => Failed) :
    (program.wrapping message).Ensures handler Inv state Ok
      fun _ => Failed := by
  refine hprogram.recover fun abort after hafter => ?_
  cases abort <;> exact hafter

theorem Ensures.attempt {Ok : α → S → Prop} {Err : Abort Cause → S → Prop}
    (hprogram : program.Ensures handler Inv state Ok Err) :
    program.attempt.Ensures handler Inv state
      (fun result after => (∃ value, result = .ok value ∧ Ok value after) ∨
        ∃ error, result = .error error ∧ Err (.error error) after)
      fun abort after => Err abort after ∧ ∃ panic, abort = .panic panic := by
  refine Ensures.recover (Ensures.bind hprogram fun value after hafter =>
    .inl ⟨value, rfl, hafter⟩) fun abort after hafter => ?_
  cases abort with
  | error error => exact .inr ⟨error, rfl, hafter⟩
  | panic panic => exact ⟨hafter, panic, rfl⟩

theorem Maintains.wrapping (hprogram : program.Maintains handler Inv) :
    (program.wrapping message).Maintains handler Inv :=
  fun state hstate => (hprogram state hstate).wrapping

theorem Maintains.attempt (hprogram : program.Maintains handler Inv) :
    program.attempt.Maintains handler Inv := by
  intro state hstate
  refine Ensures.recover ((hprogram state hstate).bind
    fun value after hafter => hafter) fun abort after hafter => ?_
  cases abort <;> exact hafter

theorem FailsOnly.attempt (hprogram : program.FailsOnly failing) :
    program.attempt.FailsOnly failing := by
  refine .recover (.bind hprogram fun _ => trivial) fun abort habort => ?_
  cases abort with
  | error error => trivial
  | panic panic => exact habort

theorem FailsOnly.wrapping (hprogram : program.FailsOnly failing)
    (hwrapped : ∀ error, failing (.error error)) :
    (program.wrapping message).FailsOnly failing := by
  refine .recover hprogram fun abort habort => ?_
  cases abort with
  | error error => exact hwrapped _
  | panic panic => exact habort

@[simp] theorem uses_deref (allowed : Op → Prop) (pointer : Option α) :
    (deref pointer : Program Res (Abort Cause) α).Uses allowed := by
  cases pointer <;> trivial

@[simp] theorem uses_derefSpec (allowed : Op → Prop) (pointer : Option α) :
    (derefSpec pointer : Program Res (Abort Cause) α).Uses allowed := by
  cases pointer <;> trivial

@[simp] theorem uses_ofExcept (allowed : Op → Prop) (result : Except String α) :
    (ofExcept result : Program Res (Abort Cause) α).Uses allowed := by
  cases result <;> trivial

end Program

/-! ## Strings -/

namespace GoStrings

def split (text : String) (separator : Char) : List String :=
  (text.toList.splitOn separator).map String.ofList

def hasPrefix (text start : String) : Bool :=
  start.toList.isPrefixOf text.toList

def contains (text part : String) : Bool :=
  text.toList.tails.any fun tail => part.toList.isPrefixOf tail

def join (parts : List String) (separator : String) : String :=
  match parts with
  | [] => ""
  | first :: rest => rest.foldl (fun text part => text ++ separator ++ part) first

def isSpace (char : Char) : Bool :=
  char.toNat ∈ [0x09, 0x0a, 0x0b, 0x0c, 0x0d, 0x20, 0x85, 0xa0, 0x1680,
      0x2028, 0x2029, 0x202f, 0x205f, 0x3000] ||
    (0x2000 ≤ char.toNat && char.toNat ≤ 0x200a)

def trimSpace (text : String) : String :=
  String.ofList
    ((text.toList.dropWhile isSpace).reverse.dropWhile isSpace).reverse

def toLower (text : String) : String :=
  String.ofList (text.toList.map Char.toLower)

/-- The elements of a slash-separated path without empty and dot elements,
and with every inner dot-dot element resolved. -/
def cleanElements (rooted : Bool) : List String → List String → List String
  | [], cleaned => cleaned.reverse
  | element :: rest, cleaned =>
    if element = "" ∨ element = "." then cleanElements rooted rest cleaned
    else if element = ".." then
      match cleaned with
      | [] =>
        if rooted then cleanElements rooted rest []
        else cleanElements rooted rest [".."]
      | last :: before =>
        if last = ".." then cleanElements rooted rest (".." :: cleaned)
        else cleanElements rooted rest before
    else cleanElements rooted rest (element :: cleaned)

def pathClean (path : String) : String :=
  let rooted := hasPrefix path "/"
  let body := join (cleanElements rooted (split path '/') []) "/"
  if rooted then "/" ++ body else if body = "" then "." else body

def pathJoin (elements : List String) : String :=
  match elements.filter (· ≠ "") with
  | [] => ""
  | nonempty => pathClean (join nonempty "/")

def digitsToNat : List Char → Option ℕ
  | [] => none
  | digits =>
    if digits.all Char.isDigit then
      some (digits.foldl (fun value digit =>
        value * 10 + (digit.toNat - '0'.toNat)) 0)
    else none

def parseInt64 (text : String) : Except String Int :=
  let parsed : Option Int :=
    match text.toList with
    | '-' :: digits => (digitsToNat digits).map fun value => -(value : Int)
    | '+' :: digits => (digitsToNat digits).map fun value => (value : Int)
    | digits => (digitsToNat digits).map fun value => (value : Int)
  match parsed with
  | none => .error ("strconv.ParseInt: parsing " ++ text ++ ": invalid syntax")
  | some value =>
    if -2 ^ 63 ≤ value ∧ value < 2 ^ 63 then .ok value
    else
      .error ("strconv.ParseInt: parsing " ++ text ++ ": value out of range")

def formatInt (value : Int) : String :=
  toString value

theorem isDigit_of_toDigits_eq_cons {value : ℕ} {first : Char}
    {rest : List Char} (hdigits : Nat.toDigits 10 value = first :: rest) :
    first.isDigit = true :=
  Nat.isDigit_of_mem_toDigits (by decide) (by decide)
    (hdigits ▸ List.mem_cons_self)

theorem digitsToNat_toDigits (value : ℕ) :
    digitsToNat (Nat.toDigits 10 value) = some value := by
  have hdigits : (Nat.toDigits 10 value).all Char.isDigit = true :=
    List.all_eq_true.mpr fun _ hdigit =>
      Nat.isDigit_of_mem_toDigits (by decide) (by decide) hdigit
  have hvalue : (Nat.toDigits 10 value).foldl (fun value digit =>
      value * 10 + (digit.toNat - '0'.toNat)) 0 = value := by
    simpa only [Nat.ofDigitChars, Nat.mul_comm] using
      Nat.ofDigitChars_toDigits (b := 10) (n := value) (by decide) (by decide)
  rw [digitsToNat, if_pos hdigits, hvalue]
  simp

theorem parseInt64_formatInt {value : Int} (hlow : -2 ^ 63 ≤ value)
    (hhigh : value < 2 ^ 63) : parseInt64 (formatInt value) = .ok value := by
  cases value with
  | ofNat value =>
    have htext : (formatInt (Int.ofNat value)).toList =
        Nat.toDigits 10 value := by
      change (Nat.repr value).toList = _
      rw [Nat.repr_eq_ofList_toDigits, String.toList_ofList]
    have hvalue := digitsToNat_toDigits value
    simp only [parseInt64, htext]
    split
    next parsed hparsed =>
      split at hparsed
      next hminus =>
        exact absurd (isDigit_of_toDigits_eq_cons hminus) (by decide)
      next hplus =>
        exact absurd (isDigit_of_toDigits_eq_cons hplus) (by decide)
      next => simp [hvalue] at hparsed
    next found hparsed =>
      split at hparsed
      next hminus =>
        exact absurd (isDigit_of_toDigits_eq_cons hminus) (by decide)
      next hplus =>
        exact absurd (isDigit_of_toDigits_eq_cons hplus) (by decide)
      next =>
        rw [hvalue] at hparsed
        obtain rfl : Int.ofNat value = found := Option.some.inj hparsed
        exact if_pos ⟨hlow, hhigh⟩
  | negSucc value =>
    have htext : (formatInt (Int.negSucc value)).toList =
        '-' :: Nat.toDigits 10 (value + 1) := by
      change ("-" ++ Nat.repr (value + 1)).toList = _
      rw [Nat.repr_eq_ofList_toDigits, String.toList_append,
        String.toList_ofList, String.toList_ofList]
      rfl
    simp only [parseInt64, htext, digitsToNat_toDigits]
    exact if_pos ⟨hlow, hhigh⟩

end GoStrings

def wrapInt64 (value : Int) : Int :=
  Int.bmod value (2 ^ 64)

theorem wrapInt64_of_inRange {value : Int} (hlow : -2 ^ 63 ≤ value)
    (hhigh : value < 2 ^ 63) : wrapInt64 value = value := by
  unfold wrapInt64
  rw [Int.bmod_eq_of_le] <;> omega

end ObservabilityOperator
