import Mathlib.Tactic

/-!
# Programs that issue requests

A program is a tree: it returns, it fails, or it issues one request and
continues with the reply.  A handler gives a reply and a next state for every
request and every state, so one program can be run against a faithful server, a
failing one, or one that is meddled with between two requests.

Three kinds of reasoning are supported.  `Uses` bounds the requests that occur
anywhere in the tree, for frame arguments.  `Ensures` follows the run itself:
an invariant holds after every single request and a postcondition holds where
the run ends.  `Justified` bounds each request by the replies before it, for a
`Thread` that shares its state with others and is interleaved with them.
-/

namespace ObservabilityOperator

/-- A computation that stops at every request to wait for the reply. -/
inductive Program {Op : Type} (Res : Op → Type) (ε α : Type) : Type where
  | done (value : α)
  | fail (error : ε)
  | request (op : Op) (next : Res op → Program Res ε α)

/-- How requests are answered, and what they change. -/
def Handler {Op : Type} (Res : Op → Type) (S : Type) : Type :=
  (op : Op) → S → Res op × S

/-- A request of a run, its reply, and the state it leaves. -/
structure Event {Op : Type} (Res : Op → Type) (S : Type) where
  op : Op
  reply : Res op
  after : S

namespace Program

variable {Op : Type} {Res : Op → Type} {ε α β γ S : Type}
  {program : Program Res ε α} {handler : Handler Res S} {state after : S}
  {items : List γ} {allowed : Op → Prop} {δ : Type} {value : α} {error : ε}
  {next : α → Program Res ε β} {Err : ε → S → Prop}
  {handle : ε → Program Res ε α} {Ok : α → S → Prop} {event : Event Res S}
  {op : Op} {values : List β} {item : γ}

def bind (program : Program Res ε α) (next : α → Program Res ε β) :
    Program Res ε β :=
  match program with
  | .done value => next value
  | .fail error => .fail error
  | .request op rest => .request op fun reply => (rest reply).bind next

instance : Monad (Program Res ε) where
  pure := .done
  bind := bind

def recover (program : Program Res ε α) (handle : ε → Program Res ε α) :
    Program Res ε α :=
  match program with
  | .done value => .done value
  | .fail error => handle error
  | .request op rest => .request op fun reply => (rest reply).recover handle

def send (op : Op) : Program Res ε (Res op) :=
  .request op .done

def forEach : List γ → (γ → Program Res ε Unit) → Program Res ε Unit
  | [], _ => .done ()
  | item :: rest, body => (body item).bind fun _ => forEach rest body

def collect : List γ → (γ → Program Res ε β) → Program Res ε (List β)
  | [], _ => .done []
  | item :: rest, body =>
    (body item).bind fun value =>
      (collect rest body).bind fun values => .done (value :: values)

def run (handler : Handler Res S) :
    Program Res ε α → S → Except ε α × S
  | .done value, state => (.ok value, state)
  | .fail error, state => (.error error, state)
  | .request op next, state =>
    run handler (next (handler op state).1) (handler op state).2

def events (handler : Handler Res S) :
    Program Res ε α → S → List (Event Res S)
  | .done _, _ => []
  | .fail _, _ => []
  | .request op next, state =>
    ⟨op, (handler op state).1, (handler op state).2⟩ ::
      events handler (next (handler op state).1) (handler op state).2

@[simp] theorem pure_eq_done (value : α) :
    (pure value : Program Res ε α) = .done value := rfl

@[simp] theorem bind_eq_bind (program : Program Res ε α)
    (next : α → Program Res ε β) : (program >>= next) = program.bind next := rfl

@[simp] theorem done_bind (value : α) (next : α → Program Res ε β) :
    (Program.done value).bind next = next value := rfl

@[simp] theorem fail_bind (error : ε) (next : α → Program Res ε β) :
    (Program.fail error).bind next = (.fail error : Program Res ε β) := rfl

@[simp] theorem request_bind (op : Op) (rest : Res op → Program Res ε α)
    (next : α → Program Res ε β) :
    (Program.request op rest).bind next =
      .request op fun reply => (rest reply).bind next := rfl

@[simp] theorem send_bind (op : Op) (next : Res op → Program Res ε β) :
    (send op).bind next = .request op next := rfl

@[simp] theorem run_done (handler : Handler Res S) (value : α) (state : S) :
    (Program.done value : Program Res ε α).run handler state =
      (.ok value, state) := rfl

@[simp] theorem run_fail (handler : Handler Res S) (error : ε) (state : S) :
    (Program.fail error : Program Res ε α).run handler state =
      (.error error, state) := rfl

@[simp] theorem run_request (handler : Handler Res S) (op : Op)
    (next : Res op → Program Res ε α) (state : S) :
    (Program.request op next).run handler state =
      (next (handler op state).1).run handler (handler op state).2 := rfl

theorem bind_assoc (program : Program Res ε α)
    (first : α → Program Res ε β) (second : β → Program Res ε γ) :
    (program.bind first).bind second =
      program.bind fun value => (first value).bind second := by
  induction program with
  | done value => rfl
  | fail error => rfl
  | request op rest ih =>
    simp only [bind]
    congr 1
    funext reply
    exact ih reply

theorem run_bind (handler : Handler Res S) (program : Program Res ε α)
    (next : α → Program Res ε β) (state : S) :
    (program.bind next).run handler state =
      match program.run handler state with
      | (.ok value, after) => (next value).run handler after
      | (.error error, after) => (.error error, after) := by
  induction program generalizing state with
  | done value => rfl
  | fail error => rfl
  | request op rest ih => exact ih _ _

theorem run_bind_ok (hrun : program.run handler state = (.ok value, after)) :
    (program.bind next).run handler state = (next value).run handler after := by
  rw [run_bind, hrun]

theorem run_bind_error
    (hrun : program.run handler state = (.error error, after)) :
    (program.bind next).run handler state = (.error error, after) := by
  rw [run_bind, hrun]

theorem run_bind_eq_ok {value : β}
    (hrun : (program.bind next).run handler state = (.ok value, after)) :
    ∃ mid between,
      program.run handler state = (.ok mid, between) ∧
        (next mid).run handler between = (.ok value, after) := by
  rw [run_bind] at hrun
  rcases hfirst : program.run handler state with ⟨result, between⟩
  rw [hfirst] at hrun
  cases result with
  | error error => simp at hrun
  | ok mid => exact ⟨mid, between, rfl, hrun⟩

theorem events_bind (handler : Handler Res S) (program : Program Res ε α)
    (next : α → Program Res ε β) (state : S) :
    (program.bind next).events handler state =
      program.events handler state ++
        match program.run handler state with
        | (.ok value, after) => (next value).events handler after
        | (.error _, _) => [] := by
  induction program generalizing state with
  | done value => rfl
  | fail error => rfl
  | request op rest ih =>
    simp only [bind, events, run_request, List.cons_append, ih]

theorem mem_events_bind
    (hevent : event ∈ (program.bind next).events handler state) :
    event ∈ program.events handler state ∨
      ∃ value after, program.run handler state = (.ok value, after) ∧
        event ∈ (next value).events handler after := by
  rw [events_bind] at hevent
  rcases List.mem_append.mp hevent with hfirst | hrest
  · exact .inl hfirst
  · split at hrest
    next value after hrun => exact .inr ⟨value, after, hrun, hrest⟩
    next => cases hrest

theorem mem_events_bind_of_first
    (hevent : event ∈ program.events handler state) :
    event ∈ (program.bind next).events handler state := by
  rw [events_bind]
  exact List.mem_append_left _ hevent

theorem mem_events_bind_of_rest
    (hrun : program.run handler state = (.ok value, after))
    (hevent : event ∈ (next value).events handler after) :
    event ∈ (program.bind next).events handler state := by
  rw [events_bind, hrun]
  exact List.mem_append_right _ hevent

theorem exists_state_of_mem_events
    (hevent : event ∈ program.events handler state) :
    ∃ before, event = ⟨event.op, (handler event.op before).1,
      (handler event.op before).2⟩ := by
  induction program generalizing state with
  | done value => cases hevent
  | fail error => cases hevent
  | request op rest ih =>
    rcases List.mem_cons.mp hevent with rfl | hrest
    · exact ⟨state, rfl⟩
    · exact ih _ hrest

/-- The run sends the request. -/
def Issues (handler : Handler Res S) (program : Program Res ε α) (state : S)
    (op : Op) : Prop :=
  ∃ event ∈ program.events handler state, event.op = op

@[simp] theorem not_issues_done (handler : Handler Res S) (value : α)
    (state : S) (op : Op) :
    ¬ (Program.done value : Program Res ε α).Issues handler state op := by
  simp [Issues, events]

theorem issues_request (handler : Handler Res S) (first : Op)
    (next : Res first → Program Res ε α) (state : S) (op : Op) :
    (Program.request first next).Issues handler state op ↔
      first = op ∨
        (next (handler first state).1).Issues handler
          (handler first state).2 op := by
  simp [Issues, events]

theorem issues_bind_of_ok
    (hrun : program.run handler state = (.ok value, after)) :
    (program.bind next).Issues handler state op ↔
      program.Issues handler state op ∨
        (next value).Issues handler after op := by
  simp only [Issues, events_bind, hrun, List.mem_append, or_and_right,
    exists_or]

theorem Issues.of_bind (hissues : (program.bind next).Issues handler state op) :
    program.Issues handler state op ∨
      ∃ value after, program.run handler state = (.ok value, after) ∧
        (next value).Issues handler after op := by
  obtain ⟨event, hevent, hop⟩ := hissues
  rcases mem_events_bind hevent with hfirst | ⟨value, after, hrun, hrest⟩
  · exact .inl ⟨event, hfirst, hop⟩
  · exact .inr ⟨value, after, hrun, event, hrest, hop⟩

theorem Issues.bind (hissues : program.Issues handler state op) :
    (program.bind next).Issues handler state op := by
  obtain ⟨event, hevent, hop⟩ := hissues
  refine ⟨event, ?_, hop⟩
  rw [events_bind]
  exact List.mem_append_left _ hevent

theorem run_recover (handler : Handler Res S) (program : Program Res ε α)
    (handle : ε → Program Res ε α) (state : S) :
    (program.recover handle).run handler state =
      match program.run handler state with
      | (.ok value, after) => (.ok value, after)
      | (.error error, after) => (handle error).run handler after := by
  induction program generalizing state with
  | done value => rfl
  | fail error => rfl
  | request op rest ih => exact ih _ _

/-! ## Loops over composed lists -/

theorem forEach_append (first second : List γ) (body : γ → Program Res ε Unit) :
    forEach (first ++ second) body =
      (forEach first body).bind fun _ => forEach second body := by
  induction first with
  | nil => rfl
  | cons item rest ih =>
    simp only [List.cons_append, forEach, ih, bind_assoc]

theorem forEach_map (f : δ → γ) (items : List δ) (body : γ → Program Res ε Unit)
    : forEach (items.map f) body = forEach items fun item => body (f item) := by
  induction items with
  | nil => rfl
  | cons item rest ih => simp only [List.map_cons, forEach, ih]

theorem forEach_flatMap (f : δ → List γ) (items : List δ)
    (body : γ → Program Res ε Unit) :
    forEach (items.flatMap f) body =
      forEach items fun item => forEach (f item) body := by
  induction items with
  | nil => rfl
  | cons item rest ih =>
    rw [List.flatMap_cons, forEach_append, ih]
    rfl

theorem collect_done (f : β → δ) (items : List γ) (body : γ → Program Res ε β) :
    (collect items fun item => (body item).bind fun value => .done (f value)) =
      (collect items body).bind fun values => .done (values.map f) := by
  induction items with
  | nil => rfl
  | cons item rest ih =>
    simp only [collect, bind_assoc, ih]
    rfl

variable {body : γ → Program Res ε Unit}

theorem forEach_insert (hitem : body item = .done ()) (first second : List γ) :
    forEach (first ++ item :: second) body =
      forEach (first ++ second) body := by
  rw [forEach_append, forEach_append, forEach, hitem]
  rfl

theorem collect_insert {value : β} {body : γ → Program Res ε β}
    (hitem : body item = .done value) (first second : List γ)
    {next : List β → Program Res ε α}
    (hnext : ∀ before after, next (before ++ value :: after) =
      next (before ++ after)) :
    (collect (first ++ item :: second) body).bind next =
      (collect (first ++ second) body).bind next := by
  induction first generalizing next with
  | nil =>
    simp only [List.nil_append, collect, hitem, bind_assoc]
    exact congrArg _ (funext fun values => hnext [] values)
  | cons head rest ih =>
    simp only [List.cons_append, collect, bind_assoc]
    refine congrArg _ (funext fun other => ?_)
    exact ih fun before after => hnext (other :: before) after

theorem forEach_eq_done (hbody : ∀ item ∈ items, body item = .done ()) :
    forEach items body = .done () := by
  induction items with
  | nil => rfl
  | cons item rest ih =>
    rw [forEach, hbody item List.mem_cons_self]
    exact ih fun other hother => hbody other (List.mem_cons_of_mem _ hother)

theorem forEach_eq_single {first second : List γ}
    (hfirst : ∀ other ∈ first, body other = .done ())
    (hsecond : ∀ other ∈ second, body other = .done ()) :
    forEach (first ++ item :: second) body = body item := by
  rw [forEach_append, forEach_eq_done hfirst, forEach, forEach_eq_done hsecond]
  change (body item).bind .done = body item
  induction body item with
  | done value => rfl
  | fail error => rfl
  | request op rest ih => exact congrArg _ (funext ih)

/-! ## Loops that run to their end -/

section Loops

variable {body : γ → Program Res ε Unit}

theorem run_forEach_forall (Inv : S → Prop) (Holds : γ → Prop)
    (hbody : ∀ item ∈ items, ∀ state after, Inv state →
      (body item).run handler state = (.ok (), after) →
        Inv after ∧ Holds item) (hstart : Inv state)
    (hrun : (forEach items body).run handler state = (.ok (), after)) :
    Inv after ∧ ∀ item ∈ items, Holds item := by
  induction items generalizing state with
  | nil =>
    simp only [forEach, run_done, Prod.mk.injEq, true_and] at hrun
    subst hrun
    exact ⟨hstart, by simp⟩
  | cons item rest ih =>
    obtain ⟨_, between, hfirst, hrest⟩ := run_bind_eq_ok hrun
    obtain ⟨hinv, hitem⟩ := hbody item (by simp) state between hstart hfirst
    obtain ⟨hafter, hothers⟩ := ih
      (fun other hother => hbody other (List.mem_cons_of_mem item hother))
      hinv hrest
    exact ⟨hafter, by simpa using ⟨hitem, hothers⟩⟩

/-- Loop rule for a run that returns: the bodies keep an invariant, and each
of them changes what is watched by its own update. -/
theorem run_forEach_view {V : Type} (Inv : S → Prop) (view : S → V)
    (update : V → γ → V)
    (hbody : ∀ item ∈ items, ∀ state after, Inv state →
      (body item).run handler state = (.ok (), after) →
        Inv after ∧ view after = update (view state) item) (hstart : Inv state)
    (hrun : (forEach items body).run handler state = (.ok (), after)) :
    Inv after ∧ view after = items.foldl update (view state) := by
  induction items generalizing state with
  | nil =>
    simp only [forEach, run_done, Prod.mk.injEq, true_and] at hrun
    subst hrun
    exact ⟨hstart, rfl⟩
  | cons item rest ih =>
    obtain ⟨_, between, hfirst, hrest⟩ := run_bind_eq_ok hrun
    obtain ⟨hinv, hview⟩ := hbody item (by simp) state between hstart hfirst
    rw [List.foldl_cons, ← hview]
    refine ih (fun other hother => ?_) hinv hrest
    exact hbody other (List.mem_cons_of_mem item hother)

/-- Loop rule for a run that returns: it issues a request exactly when the
body of one of its elements does. -/
theorem issues_forEach_iff (Inv : S → Prop) (Does : γ → Prop)
    (hbody : ∀ item ∈ items, ∀ state after, Inv state →
      (body item).run handler state = (.ok (), after) →
        Inv after ∧ ((body item).Issues handler state op ↔ Does item))
    (hstart : Inv state)
    (hrun : (forEach items body).run handler state = (.ok (), after)) :
    Inv after ∧
      ((forEach items body).Issues handler state op ↔
        ∃ item ∈ items, Does item) := by
  induction items generalizing state with
  | nil =>
    simp only [forEach, run_done, Prod.mk.injEq, true_and] at hrun
    subst hrun
    exact ⟨hstart, by simp [forEach]⟩
  | cons item rest ih =>
    obtain ⟨_, between, hfirst, hrest⟩ := run_bind_eq_ok hrun
    obtain ⟨hinv, hdoes⟩ := hbody item (by simp) state between hstart hfirst
    obtain ⟨hafter, hothers⟩ := ih
      (fun other hother => hbody other (List.mem_cons_of_mem item hother))
      hinv hrest
    refine ⟨hafter, ?_⟩
    rw [forEach, issues_bind_of_ok hfirst, hdoes, hothers]
    simp

/-- Loop rule for a run that returns: bodies with keys of their own do not
undo each other's work. -/
theorem run_forEach_keyed {K : Type} (keyOf : γ → K) (Written : γ → S → Prop)
    (hbody : ∀ item ∈ items, ∀ state after,
      (body item).run handler state = (.ok (), after) →
        Written item after ∧ ∀ other, keyOf other ≠ keyOf item →
          Written other state → Written other after)
    (hkeys : (items.map keyOf).Nodup)
    (hrun : (forEach items body).run handler state = (.ok (), after)) :
    ∀ item ∈ items, Written item after := by
  suffices hboth : ∀ done : List γ, (∀ item ∈ done, Written item state ∧
      ∀ other ∈ items, keyOf item ≠ keyOf other) →
        ∀ item ∈ done ++ items, Written item after by
    simpa using hboth []
  induction items generalizing state with
  | nil =>
    intro done hdone item hitem
    simp only [forEach, run_done, Prod.mk.injEq, true_and] at hrun
    subst hrun
    exact (hdone item (by simpa using hitem)).1
  | cons first rest ih =>
    intro done hdone item hitem
    obtain ⟨_, between, hfirst, hrest⟩ := run_bind_eq_ok hrun
    obtain ⟨hwritten, hkept⟩ := hbody first (by simp) state between hfirst
    rw [List.map_cons, List.nodup_cons] at hkeys
    refine ih (fun other hother =>
      hbody other (List.mem_cons_of_mem first hother)) hkeys.2 hrest
        (done ++ [first]) ?_ item (by simpa using hitem)
    intro other hother
    rcases List.mem_append.mp hother with hother | hother
    · obtain ⟨hold, hne⟩ := hdone other hother
      exact ⟨hkept other (hne first (by simp)) hold,
        fun later hlater => hne later (List.mem_cons_of_mem first hlater)⟩
    · obtain rfl := List.mem_singleton.mp hother
      refine ⟨hwritten, fun later hlater hsame => hkeys.1 ?_⟩
      exact List.mem_map.mpr ⟨later, hlater, hsame.symm⟩

theorem run_collect_forall₂_of_inv {body : γ → Program Res ε β} (Inv : S → Prop)
    (Computed : γ → β → Prop)
    (hbody : ∀ item ∈ items, ∀ state after value, Inv state →
      (body item).run handler state = (.ok value, after) →
        Inv after ∧ Computed item value) (hstate : Inv state)
    (hrun : (collect items body).run handler state = (.ok values, after)) :
    List.Forall₂ Computed items values := by
  induction items generalizing state after values with
  | nil =>
    simp only [collect, run_done, Prod.mk.injEq, Except.ok.injEq] at hrun
    obtain ⟨rfl, -⟩ := hrun
    exact .nil
  | cons item rest ih =>
    obtain ⟨value, first, hitem, htail⟩ := run_bind_eq_ok hrun
    obtain ⟨others, second, hrest, hdone⟩ := run_bind_eq_ok htail
    cases hdone
    obtain ⟨hfirst, hvalue⟩ :=
      hbody item (by simp) state first value hstate hitem
    refine .cons hvalue (ih (fun other hother =>
      hbody other (List.mem_cons_of_mem item hother)) hfirst hrest)

theorem run_collect_forall₂ {body : γ → Program Res ε β}
    (Computed : γ → β → Prop)
    (hbody : ∀ item ∈ items, ∀ state after value,
      (body item).run handler state = (.ok value, after) → Computed item value)
    (hrun : (collect items body).run handler state = (.ok values, after)) :
    List.Forall₂ Computed items values :=
  run_collect_forall₂_of_inv (fun _ => True) Computed
    (fun item hitem state after value _ hvalue =>
      ⟨trivial, hbody item hitem state after value hvalue⟩) trivial hrun

theorem exists_of_forall₂ {Related : α → β → Prop} {items : List α}
    (hrelated : List.Forall₂ Related items values) {item : α}
    (hitem : item ∈ items) : ∃ value ∈ values, Related item value := by
  induction hrelated with
  | nil => cases hitem
  | cons hfirst _ ih =>
    rcases List.mem_cons.mp hitem with rfl | hrest
    · exact ⟨_, List.mem_cons_self, hfirst⟩
    · obtain ⟨value, hvalue, hpair⟩ := ih hrest
      exact ⟨value, List.mem_cons_of_mem _ hvalue, hpair⟩

theorem exists_run_collect {body : γ → Program Res ε β}
    (hbody : ∀ item ∈ items, ∀ state, ∃ value after,
      (body item).run handler state = (.ok value, after)) (state : S) :
    ∃ values after,
      (collect items body).run handler state = (.ok values, after) := by
  induction items generalizing state with
  | nil => exact ⟨[], state, rfl⟩
  | cons item rest ih =>
    obtain ⟨value, between, hitem⟩ := hbody item (by simp) state
    obtain ⟨values, after, hrest⟩ := ih (fun other hother =>
      hbody other (List.mem_cons_of_mem item hother)) between
    refine ⟨value :: values, after, ?_⟩
    rw [collect, run_bind_ok hitem, run_bind_ok hrest]
    rfl

theorem exists_run_collect_fail {first : List γ} {body : γ → Program Res ε β}
    (second : List γ)
    (hbody : ∀ other ∈ first, ∀ state, ∃ value after,
      (body other).run handler state = (.ok value, after))
    (hitem : body item = .fail error) (state : S) :
    ∃ after, (collect (first ++ item :: second) body).run handler state =
      (.error error, after) := by
  induction first generalizing state with
  | nil =>
    refine ⟨state, ?_⟩
    rw [List.nil_append, collect, hitem]
    rfl
  | cons head rest ih =>
    obtain ⟨value, between, hhead⟩ := hbody head (by simp) state
    obtain ⟨after, hrest⟩ := ih (fun other hother =>
      hbody other (List.mem_cons_of_mem head hother)) between
    refine ⟨after, ?_⟩
    rw [List.cons_append, collect, run_bind_ok hhead, run_bind_error hrest]

/-- A loop fails if one of its rounds does.  `clock` counts the rounds and
`Fails` says which of them fail at which time. -/
theorem exists_run_collect_error (clock : S → ℕ) {body : γ → Program Res ε β}
    {Fails : γ → ℕ → Prop} {Failure : ε → Prop} (hbody : ∀ item state,
      (∃ value after, (body item).run handler state = (.ok value, after) ∧
        clock after = clock state + 1 ∧ ¬ Fails item (clock state)) ∨
      ∃ error after, (body item).run handler state = (.error error, after) ∧
        Failure error) {position : ℕ} (hitem : items[position]? = some item)
    (hfails : Fails item (clock state + position)) :
    ∃ error after,
      (collect items body).run handler state = (.error error, after) ∧
        Failure error := by
  induction items generalizing position state with
  | nil => simp at hitem
  | cons first rest ih =>
    rcases hbody first state with ⟨value, between, hrun, hclock, hnot⟩ |
      ⟨error, after, hrun, hfailure⟩
    · cases position with
      | zero =>
        obtain rfl : first = item := by simpa using hitem
        exact absurd hfails hnot
      | succ later =>
        have hlater : Fails item (clock between + later) := by
          rw [hclock, Nat.add_assoc, Nat.add_comm 1]
          exact hfails
        obtain ⟨error, after, hrest, hfailure⟩ :=
          ih (by simpa using hitem) hlater
        refine ⟨error, after, ?_, hfailure⟩
        rw [collect, run_bind_ok hrun, run_bind_error hrest]
    · refine ⟨error, after, ?_, hfailure⟩
      rw [collect, run_bind_error hrun]

end Loops

/-! ## The requests a program can issue -/

/-- Every request that occurs in the tree is an allowed one. -/
def Uses (allowed : Op → Prop) : Program Res ε α → Prop
  | .done _ => True
  | .fail _ => True
  | .request op next => allowed op ∧ ∀ reply, (next reply).Uses allowed

@[simp] theorem uses_done (allowed : Op → Prop) (value : α) :
    (Program.done value : Program Res ε α).Uses allowed := trivial

@[simp] theorem uses_fail (allowed : Op → Prop) (error : ε) :
    (Program.fail error : Program Res ε α).Uses allowed := trivial

theorem Uses.bind (hprogram : program.Uses allowed)
    (hnext : ∀ value, (next value).Uses allowed) :
    (program.bind next).Uses allowed := by
  induction program with
  | done value => exact hnext value
  | fail error => trivial
  | request op rest ih =>
    exact ⟨hprogram.1, fun reply => ih reply (hprogram.2 reply)⟩

theorem Uses.recover (hprogram : program.Uses allowed)
    (hhandle : ∀ error, (handle error).Uses allowed) :
    (program.recover handle).Uses allowed := by
  induction program with
  | done value => trivial
  | fail error => exact hhandle error
  | request op rest ih =>
    exact ⟨hprogram.1, fun reply => ih reply (hprogram.2 reply)⟩

theorem Uses.of_bind (huses : (program.bind next).Uses allowed) :
    program.Uses allowed := by
  induction program with
  | done value => trivial
  | fail error => trivial
  | request op rest ih =>
    exact ⟨huses.1, fun reply => ih reply (huses.2 reply)⟩

theorem Uses.send (hop : allowed op) :
    (Program.send op : Program Res ε (Res op)).Uses allowed :=
  ⟨hop, fun _ => trivial⟩

theorem Uses.forEach (hbody : ∀ item ∈ items, (body item).Uses allowed) :
    (Program.forEach items body).Uses allowed := by
  induction items with
  | nil => trivial
  | cons item rest ih =>
    refine Uses.bind (hbody item (by simp)) fun _ => ih fun other hother => ?_
    exact hbody other (List.mem_cons_of_mem item hother)

theorem Uses.collect {body : γ → Program Res ε β}
    (hbody : ∀ item ∈ items, (body item).Uses allowed) :
    (Program.collect items body).Uses allowed := by
  induction items with
  | nil => trivial
  | cons item rest ih =>
    refine Uses.bind (hbody item (by simp)) fun _ =>
      Uses.bind (ih fun other hother => ?_) fun _ => trivial
    exact hbody other (List.mem_cons_of_mem item hother)

theorem Uses.mono {permitted : Op → Prop} (huses : program.Uses allowed)
    (himp : ∀ op, allowed op → permitted op) : program.Uses permitted := by
  induction program with
  | done value => trivial
  | fail error => trivial
  | request op rest ih =>
    exact ⟨himp op huses.1, fun reply => ih reply (huses.2 reply)⟩

/-- What every allowed request preserves, the run preserves. -/
theorem Uses.run_preserves (huses : program.Uses allowed) (Keeps : S → S → Prop)
    (hrefl : ∀ state, Keeps state state)
    (htrans : ∀ {a b c}, Keeps a b → Keeps b c → Keeps a c)
    (hstep : ∀ op, allowed op → ∀ state, Keeps state (handler op state).2)
    (state : S) : Keeps state (program.run handler state).2 := by
  induction program generalizing state with
  | done value => exact hrefl state
  | fail error => exact hrefl state
  | request op rest ih =>
    exact htrans (hstep op huses.1 state) (ih _ (huses.2 _) _)

theorem Uses.of_mem_events (huses : program.Uses allowed)
    (hevent : event ∈ program.events handler state) : allowed event.op := by
  induction program generalizing state with
  | done value => simp [events] at hevent
  | fail error => simp [events] at hevent
  | request op rest ih =>
    simp only [events, List.mem_cons] at hevent
    rcases hevent with rfl | hevent
    · exact huses.1
    · exact ih _ (huses.2 _) hevent

theorem Uses.of_issues (huses : program.Uses allowed)
    (hissues : program.Issues handler state op) : allowed op := by
  obtain ⟨event, hevent, rfl⟩ := hissues
  exact huses.of_mem_events hevent

def FailsOnly (failing : ε → Prop) : Program Res ε α → Prop
  | .done _ => True
  | .fail error => failing error
  | .request _ next => ∀ reply, (next reply).FailsOnly failing

section

variable {failing : ε → Prop}

theorem FailsOnly.bind (hprogram : program.FailsOnly failing)
    (hnext : ∀ value, (next value).FailsOnly failing) :
    (program.bind next).FailsOnly failing := by
  induction program with
  | done value => exact hnext value
  | fail error => exact hprogram
  | request op rest ih => exact fun reply => ih reply (hprogram reply)

theorem FailsOnly.recover (hprogram : program.FailsOnly failing)
    (hhandle : ∀ error, failing error → (handle error).FailsOnly failing) :
    (program.recover handle).FailsOnly failing := by
  induction program with
  | done value => trivial
  | fail error => exact hhandle error hprogram
  | request op rest ih => exact fun reply => ih reply (hprogram reply)

theorem FailsOnly.forEach {body : γ → Program Res ε Unit}
    (hbody : ∀ item, (body item).FailsOnly failing) :
    (Program.forEach items body).FailsOnly failing := by
  induction items with
  | nil => trivial
  | cons item rest ih => exact .bind (hbody item) fun _ => ih

theorem FailsOnly.collect {body : γ → Program Res ε β}
    (hbody : ∀ item, (body item).FailsOnly failing) :
    (Program.collect items body).FailsOnly failing := by
  induction items with
  | nil => trivial
  | cons item rest ih =>
    exact .bind (hbody item) fun _ => .bind ih fun _ => trivial

theorem FailsOnly.of_run_error (hprogram : program.FailsOnly failing)
    (hrun : program.run handler state = (.error error, after)) :
    failing error := by
  induction program generalizing state with
  | done value => simp at hrun
  | fail other =>
    obtain ⟨rfl, -⟩ : other = error ∧ state = after := by simpa using hrun
    exact hprogram
  | request op rest ih => exact ih _ (hprogram _) hrun

end

/-! ## What a run maintains and where it ends -/

/-- The invariant holds after every request of the run.  A run that returns
meets `Ok` and a run that fails meets `Err`. -/
def Ensures (handler : Handler Res S) (Inv : S → Prop) :
    Program Res ε α → S → (α → S → Prop) → (ε → S → Prop) → Prop
  | .done value, state, Ok, _ => Ok value state
  | .fail error, state, _, Err => Err error state
  | .request op next, state, Ok, Err =>
    Inv (handler op state).2 ∧
      Ensures handler Inv (next (handler op state).1)
        (handler op state).2 Ok Err

section

variable {Inv : S → Prop}

theorem ensures_iff :
    program.Ensures handler Inv state Ok Err ↔
      (∀ event ∈ program.events handler state, Inv event.after) ∧
        (∀ value after,
          program.run handler state = (.ok value, after) → Ok value after) ∧
        (∀ error after,
          program.run handler state = (.error error, after) →
            Err error after) := by
  induction program generalizing state with
  | done value => simp [Ensures, events]
  | fail error => simp [Ensures, events]
  | request op rest ih =>
    simp only [Ensures, events, run_request, List.mem_cons,
      forall_eq_or_imp, ih, and_assoc]

theorem Ensures.mono {Ok' : α → S → Prop} {Err' : ε → S → Prop}
    (hensures : program.Ensures handler Inv state Ok Err)
    (hok : ∀ value after, Ok value after → Ok' value after)
    (herr : ∀ error after, Err error after → Err' error after) :
    program.Ensures handler Inv state Ok' Err' := by
  rw [ensures_iff] at hensures ⊢
  obtain ⟨hinv, hret, hfail⟩ := hensures
  exact ⟨hinv, fun value after hrun => hok _ _ (hret value after hrun),
    fun error after hrun => herr _ _ (hfail error after hrun)⟩

variable {Mid : α → S → Prop}

theorem Ensures.bind {Ok : β → S → Prop}
    (hprogram : program.Ensures handler Inv state Mid Err)
    (hnext : ∀ value after, Mid value after →
      (next value).Ensures handler Inv after Ok Err) :
    (program.bind next).Ensures handler Inv state Ok Err := by
  induction program generalizing state with
  | done value => exact hnext value state hprogram
  | fail error => exact hprogram
  | request op rest ih => exact ⟨hprogram.1, ih _ hprogram.2⟩

theorem Ensures.bind_run {Ok : β → S → Prop}
    (hprogram : program.Ensures handler Inv state Mid Err)
    (hnext : ∀ value after, program.run handler state = (.ok value, after) →
      Mid value after → (next value).Ensures handler Inv after Ok Err) :
    (program.bind next).Ensures handler Inv state Ok Err := by
  induction program generalizing state with
  | done value => exact hnext value state rfl hprogram
  | fail error => exact hprogram
  | request op rest ih => exact ⟨hprogram.1, ih _ hprogram.2 hnext⟩

/-- Loop rule: the assertion is indexed by the elements still to come. -/
theorem Ensures.forEach {body : γ → Program Res ε Unit}
    {Loop : List γ → S → Prop}
    (hbody : ∀ item rest state, item :: rest <:+ items →
      Loop (item :: rest) state →
      (body item).Ensures handler Inv state (fun _ => Loop rest) Err)
    (hstart : Loop items state) :
    (Program.forEach items body).Ensures handler Inv state
      (fun _ => Loop []) Err := by
  induction items generalizing state with
  | nil => exact hstart
  | cons item rest ih =>
    refine Ensures.bind (hbody item rest state (List.suffix_refl _) hstart) ?_
    intro _ after hafter
    refine ih (fun other tail between hsuffix => ?_) hafter
    exact hbody other tail between (hsuffix.trans (List.suffix_cons item rest))

theorem Uses.ensures (huses : program.Uses allowed)
    (hstep : ∀ op, allowed op → ∀ state, Inv state → Inv (handler op state).2)
    (hstate : Inv state) :
    program.Ensures handler Inv state (fun _ => Inv) (fun _ => Inv) := by
  induction program generalizing state with
  | done value => exact hstate
  | fail error => exact hstate
  | request op rest ih =>
    have hafter := hstep op huses.1 state hstate
    exact ⟨hafter, ih _ (huses.2 _) hafter⟩

theorem Ensures.recover {Mid : ε → S → Prop}
    (hprogram : program.Ensures handler Inv state Ok Mid)
    (hhandle : ∀ error after, Mid error after →
      (handle error).Ensures handler Inv after Ok Err) :
    (program.recover handle).Ensures handler Inv state Ok Err := by
  induction program generalizing state with
  | done value => exact hprogram
  | fail error => exact hhandle error state hprogram
  | request op rest ih => exact ⟨hprogram.1, ih _ hprogram.2⟩

theorem Ensures.of_run_ok {Other : ε → S → Prop}
    (hensures : program.Ensures handler Inv state Ok Err)
    (hrun : program.run handler state = (.ok value, after)) :
    program.Ensures handler Inv state
      (fun returned reached => returned = value ∧ reached = after ∧
        Ok value after) Other := by
  rw [ensures_iff] at hensures ⊢
  refine ⟨hensures.1, fun returned reached hother => ?_,
    fun error reached hother => ?_⟩
  · rw [hrun] at hother
    cases hother
    exact ⟨rfl, rfl, hensures.2.1 _ _ hrun⟩
  · rw [hrun] at hother
    cases hother

theorem Ensures.of_run_error {Other : α → S → Prop}
    (hensures : program.Ensures handler Inv state Ok Err)
    (hrun : program.run handler state = (.error error, after)) :
    program.Ensures handler Inv state Other
      (fun returned reached => returned = error ∧ reached = after ∧
        Err error after) := by
  rw [ensures_iff] at hensures ⊢
  refine ⟨hensures.1, fun value reached hother => ?_,
    fun returned reached hother => ?_⟩
  · rw [hrun] at hother
    cases hother
  · rw [hrun] at hother
    cases hother
    exact ⟨rfl, rfl, hensures.2.2 _ _ hrun⟩

theorem Ensures.run_snd {Last : S → Prop}
    (hensures : program.Ensures handler Inv state (fun _ => Last)
      (fun _ => Last)) : Last (program.run handler state).2 := by
  obtain ⟨-, hok, herror⟩ := ensures_iff.mp hensures
  rcases hrun : program.run handler state with ⟨result, after⟩
  cases result with
  | ok value => exact hok value after hrun
  | error error => exact herror error after hrun

theorem Ensures.weaken {Weaker : S → Prop}
    (hensures : program.Ensures handler Inv state Ok Err)
    (hinv : ∀ state, Inv state → Weaker state) :
    program.Ensures handler Weaker state Ok Err := by
  rw [ensures_iff] at hensures ⊢
  exact ⟨fun event hevent => hinv _ (hensures.1 event hevent), hensures.2⟩

end

/-! ## The states a run goes through -/

def recording (handler : Handler Res S) : Handler Res (S × List S) :=
  fun op state =>
    ((handler op state.1).1,
      ((handler op state.1).2, state.2 ++ [(handler op state.1).2]))

/-- The states of a run, the first and the last included. -/
def visited (handler : Handler Res S) (program : Program Res ε α)
    (state : S) : List S :=
  state :: (program.events handler state).map Event.after

theorem run_recording (handler : Handler Res S) (program : Program Res ε α)
    (state : S) (earlier : List S) :
    program.run (recording handler) (state, earlier) =
      ((program.run handler state).1, (program.run handler state).2,
        earlier ++ (program.events handler state).map Event.after) := by
  induction program generalizing state earlier with
  | done value => simp [events]
  | fail error => simp [events]
  | request op rest ih =>
    simp only [run_request, events, List.map_cons]
    rw [recording, ih, List.append_assoc]
    rfl

theorem run_snd_mem_visited (handler : Handler Res S)
    (program : Program Res ε α) (state : S) :
    (program.run handler state).2 ∈ program.visited handler state := by
  induction program generalizing state with
  | done value => exact List.mem_cons_self
  | fail error => exact List.mem_cons_self
  | request op rest ih => exact List.mem_cons_of_mem _ (ih _ _)

theorem Ensures.of_mem_visited {Inv : S → Prop} {current : S}
    (hensures : program.Ensures handler Inv state Ok Err) (hstate : Inv state)
    (hcurrent : current ∈ program.visited handler state) : Inv current := by
  rcases List.mem_cons.mp hcurrent with rfl | hlater
  · exact hstate
  · obtain ⟨event, hevent, rfl⟩ := List.mem_map.mp hlater
    exact (ensures_iff.mp hensures).1 event hevent

/-- What is ensured about the states a run has gone through holds of the run
and the states it goes through. -/
theorem Ensures.of_recording {Inv : S × List S → Prop}
    {Ok : α → S × List S → Prop} {Err : ε → S × List S → Prop}
    (hensures : program.Ensures (recording handler) Inv (state, [state])
      Ok Err) (hrun : program.run handler state = (.ok value, after)) :
    Ok value (after, program.visited handler state) := by
  refine (ensures_iff.mp hensures).2.1 _ _ ?_
  rw [run_recording, hrun]
  rfl

def Maintains (handler : Handler Res S) (Inv : S → Prop)
    (program : Program Res ε α) : Prop :=
  ∀ state, Inv state →
    program.Ensures handler Inv state (fun _ => Inv) (fun _ => Inv)

section

variable {Inv : S → Prop}

theorem Uses.maintains (huses : program.Uses allowed)
    (hstep : ∀ op, allowed op → ∀ state, Inv state →
      Inv (handler op state).2) : program.Maintains handler Inv :=
  fun _ hstate => huses.ensures hstep hstate

theorem Maintains.bind (hprogram : program.Maintains handler Inv)
    (hnext : ∀ value, (next value).Maintains handler Inv) :
    (program.bind next).Maintains handler Inv :=
  fun state hstate => (hprogram state hstate).bind fun value after hafter =>
    hnext value after hafter

theorem Maintains.forEach {body : γ → Program Res ε Unit}
    (hbody : ∀ item ∈ items, (body item).Maintains handler Inv) :
    (Program.forEach items body).Maintains handler Inv := by
  induction items with
  | nil => exact fun _ hstate => hstate
  | cons item rest ih =>
    refine Maintains.bind (hbody item (by simp)) fun _ => ?_
    exact ih fun other hother => hbody other (List.mem_cons_of_mem item hother)

theorem Maintains.collect {body : γ → Program Res ε β}
    (hbody : ∀ item ∈ items, (body item).Maintains handler Inv) :
    (Program.collect items body).Maintains handler Inv := by
  induction items with
  | nil => exact fun _ hstate => hstate
  | cons item rest ih =>
    refine Maintains.bind (hbody item (by simp)) fun _ => Maintains.bind
      (ih fun other hother => hbody other (List.mem_cons_of_mem item hother))
        fun _ => ?_
    exact fun _ hstate => hstate

theorem Maintains.of_mem_events (hprogram : program.Maintains handler Inv)
    (hstate : Inv state) (hevent : event ∈ program.events handler state) :
    Inv event.after :=
  (ensures_iff.mp (hprogram state hstate)).1 event hevent

end

end Program

/-! ## Programs that are interleaved with others -/

structure Exchange {Op : Type} (Res : Op → Type) where
  op : Op
  reply : Res op

/-- A program that is under way. -/
structure Thread {Op : Type} (Res : Op → Type) (ε α : Type) where
  rest : Program Res ε α
  history : List (Exchange Res) := []

section

variable {Op : Type} {Res : Op → Type} {ε α β S : Type}

def Thread.advance (handler : Handler Res S) (thread : Thread Res ε α)
    (state : S) : Option (Thread Res ε α × S) :=
  match thread.rest with
  | .done _ => none
  | .fail _ => none
  | .request op next =>
    some (⟨next (handler op state).1,
      thread.history ++ [⟨op, (handler op state).1⟩]⟩, (handler op state).2)

/-- Every request is allowed after the exchanges before it, whatever the
replies are.  `Post` holds of the value and the exchanges at the end. -/
def Program.Justified (Allowed : List (Exchange Res) → Op → Prop) :
    Program Res ε α → List (Exchange Res) →
      (α → List (Exchange Res) → Prop) → Prop
  | .done value, history, Post => Post value history
  | .fail _, _, _ => True
  | .request op next, history, Post =>
    Allowed history op ∧ ∀ reply,
      (next reply).Justified Allowed (history ++ [⟨op, reply⟩]) Post

variable {Allowed : List (Exchange Res) → Op → Prop}

theorem Program.Justified.bind {program : Program Res ε α}
    {next : α → Program Res ε β} {history : List (Exchange Res)}
    {Mid : α → List (Exchange Res) → Prop}
    {Post : β → List (Exchange Res) → Prop}
    (hprogram : program.Justified Allowed history Mid)
    (hnext : ∀ value after, Mid value after →
      (next value).Justified Allowed after Post) :
    (program.bind next).Justified Allowed history Post := by
  induction program generalizing history with
  | done value => exact hnext value history hprogram
  | fail error => trivial
  | request op rest ih =>
    exact ⟨hprogram.1, fun reply => ih reply (hprogram.2 reply)⟩

def Thread.Justified (Allowed : List (Exchange Res) → Op → Prop)
    (thread : Thread Res ε α) : Prop :=
  thread.rest.Justified Allowed thread.history fun _ _ => True

variable {thread : Thread Res ε α}

theorem Thread.advance_eq_some {handler : Handler Res S}
    {after : Thread Res ε α} {state next : S}
    (hadvance : thread.advance handler state = some (after, next)) :
    ∃ op rest, thread.rest = .request op rest ∧
      after = ⟨rest (handler op state).1,
        thread.history ++ [⟨op, (handler op state).1⟩]⟩ ∧
      next = (handler op state).2 := by
  unfold Thread.advance at hadvance
  split at hadvance
  next => cases hadvance
  next => cases hadvance
  next op rest hrest =>
    simp only [Option.some.injEq, Prod.mk.injEq] at hadvance
    exact ⟨op, rest, hrest, hadvance.1.symm, hadvance.2.symm⟩

theorem Thread.Justified.request {op : Op} {rest : Res op → Program Res ε α}
    (hthread : thread.Justified Allowed)
    (hrest : thread.rest = .request op rest) :
    Allowed thread.history op ∧ ∀ reply,
      (⟨rest reply, thread.history ++ [⟨op, reply⟩]⟩ :
        Thread Res ε α).Justified Allowed := by
  unfold Thread.Justified at hthread
  rw [hrest] at hthread
  exact hthread

end

end ObservabilityOperator
