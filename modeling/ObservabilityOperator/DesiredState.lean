import ObservabilityOperator.ApiServer

/-!
# Programs that keep up a desired state

A reconciler runs again and again.  What it is there for is a state of some
objects and not a sequence of calls: a run that finishes has brought the state
about, whatever it has found, and where the state holds already a run changes
nothing.  `Reconciles` says so of a program, with the objects it may write and
the objects its state depends on.  Two programs in a row keep up both states if
the second does not write what the state of the first depends on.
-/

namespace ObservabilityOperator

open Program

section

variable {Kind Action Memory α β : Type} [DecidableEq Kind]
  {Spec : Kind → Type} {ActionReply : Action → Type}
  {program : ClientCall Spec ActionReply α}
  {next : α → ClientCall Spec ActionReply β} {goal : α} {last : β}
  {writes frame written framed : Kind → ObjectKey → Prop}
  {Desired Wanted : World Spec Memory → Prop}
  {env : Environment Spec ActionReply Memory}
  {world later after : World Spec Memory} {kind : Kind} {key : ObjectKey}

/-- Wherever the run ends, every object is as before. -/
def Steady (env : Environment Spec ActionReply Memory)
    (program : ClientCall Spec ActionReply α)
    (world : World Spec Memory) : Prop :=
  ∀ kind key, (program.run (serve env) world).2.find kind key =
    world.find kind key

/-- The two worlds have the same objects in the frame. -/
def World.AgreeOn (frame : Kind → ObjectKey → Prop)
    (world later : World Spec Memory) : Prop :=
  ∀ kind key, frame kind key → later.find kind key = world.find kind key

theorem Steady.agreeOn {result : Except (Abort ApiError) α}
    (hsteady : Steady env program world)
    (hrun : program.run (serve env) world = (result, after)) :
    World.AgreeOn frame world after := by
  intro kind key _
  have hfind := hsteady kind key
  rwa [hrun] at hfind

theorem steady_of_uses
    (huses : program.Uses (ApiCall.WritesOnly fun _ _ => False)) :
    Steady env program world :=
  fun kind key => Uses.run_find env (huses.mono fun _ hcall => hcall kind key)
    world

theorem Steady.bind (hfirst : Steady env program world)
    (hnext : ∀ value after, program.run (serve env) world =
      (.ok value, after) → Steady env (next value) after) :
    Steady env (program.bind next) world := by
  intro kind key
  rcases hrun : program.run (serve env) world with ⟨result, after⟩
  have hafter := hfirst kind key
  rw [hrun] at hafter
  cases result with
  | ok value =>
    rw [run_bind_ok hrun]
    exact (hnext value after hrun kind key).trans hafter
  | error error =>
    rw [run_bind_error hrun]
    exact hafter

theorem Steady.attempt (hsteady : Steady env program world) :
    Steady env program.attempt world := by
  intro kind key
  have hfind := hsteady kind key
  rw [run_attempt]
  generalize program.run (serve env) world = outcome at hfind
  rcases outcome with ⟨(error | panic) | value, after⟩ <;> exact hfind

/-- A run changes no object, and reaches the goal if nothing fails. -/
def AtRest (goal : α) (program : ClientCall Spec ActionReply α)
    (world : World Spec Memory) : Prop :=
  ∀ env : Environment Spec ActionReply Memory,
    Steady env program world ∧ (env.Faultless →
      ∃ after, program.run (serve env) world = (.ok goal, after))

/-! ## Keeping up a state -/

/-- The program keeps up the desired state.  Its goal is the value it returns
when it has got there. -/
structure Reconciles (goal : α) (writes frame : Kind → ObjectKey → Prop)
    (Desired : World Spec Memory → Prop)
    (program : ClientCall Spec ActionReply α) : Prop where
  uses : program.Uses (ApiCall.WritesOnly writes)
  establishes : ∀ {env world after},
    program.run (serve env) world = (.ok goal, after) → Desired after
  depends : ∀ {world later}, World.AgreeOn frame world later →
    Desired world → Desired later
  rests : ∀ {world}, Desired world → AtRest goal program world

namespace Reconciles

theorem mono {allowed wider : Kind → ObjectKey → Prop}
    (hprogram : Reconciles goal writes frame Desired program)
    (hwrites : ∀ kind key, writes kind key → allowed kind key)
    (hframe : ∀ kind key, frame kind key → wider kind key) :
    Reconciles goal allowed wider Desired program where
  uses := hprogram.uses.mono fun _ hcall => hcall.mono hwrites
  establishes := hprogram.establishes
  depends hagree := hprogram.depends fun kind key hkey =>
    hagree kind key (hframe kind key hkey)
  rests := hprogram.rests

theorem of_done (hdesired : ∀ world, Desired world) :
    Reconciles goal writes frame Desired
      (.done goal : ClientCall Spec ActionReply α) where
  uses := trivial
  establishes _ := hdesired _
  depends _ _ := hdesired _
  rests _ _ := ⟨steady_of_uses trivial, fun _ => ⟨_, rfl⟩⟩

/-- A program that only looks at the objects. -/
theorem of_reads (huses : program.Uses (ApiCall.WritesOnly fun _ _ => False))
    (hdepends : ∀ {world later}, World.AgreeOn frame world later →
      Desired world → Desired later)
    (hchecks : ∀ {env world after},
      program.run (serve env) world = (.ok goal, after) → Desired world)
    (hfinishes : ∀ {env : Environment Spec ActionReply Memory} {world},
      env.Faultless → Desired world →
        ∃ after, program.run (serve env) world = (.ok goal, after)) :
    Reconciles goal (fun _ _ => False) frame Desired program where
  uses := huses
  establishes hrun :=
    hdepends ((steady_of_uses huses).agreeOn hrun) (hchecks hrun)
  depends := hdepends
  rests hdesired _ :=
    ⟨steady_of_uses huses, fun henv => hfinishes henv hdesired⟩

/-- One program after the other.  The second is left out where the first has
not reached its goal. -/
theorem bind (hfirst : Reconciles goal writes frame Desired program)
    (hstops : ∀ value, value ≠ goal →
      ∃ other, next value = .done other ∧ other ≠ last)
    (hapart : ∀ kind key, frame kind key → ¬ written kind key)
    (hnext : Reconciles last written framed Wanted (next goal)) :
    Reconciles last (fun kind key => writes kind key ∨ written kind key)
      (fun kind key => frame kind key ∨ framed kind key)
      (fun world => Desired world ∧ Wanted world) (program.bind next) where
  uses := by
    refine .bind (hfirst.uses.mono fun _ hcall => hcall.mono fun _ _ => .inl)
      fun value => ?_
    by_cases hvalue : value = goal
    · subst hvalue
      exact hnext.uses.mono fun _ hcall => hcall.mono fun _ _ => .inr
    · obtain ⟨other, hother, -⟩ := hstops value hvalue
      rw [hother]
      trivial
  establishes := by
    intro env world after hrun
    obtain ⟨value, between, hearly, hlate⟩ := run_bind_eq_ok hrun
    by_cases hvalue : value = goal
    · subst hvalue
      have hkept : World.AgreeOn frame between after := by
        obtain rfl : _ = after := congrArg Prod.snd hlate
        exact fun kind key hframe => Uses.run_find env (hnext.uses.mono
          fun _ hcall hwrites => hapart kind key hframe
            (hcall kind key hwrites)) between
      exact ⟨hfirst.depends hkept (hfirst.establishes hearly),
        hnext.establishes hlate⟩
    · obtain ⟨other, hother, hne⟩ := hstops value hvalue
      rw [hother] at hlate
      cases hlate
      exact absurd rfl hne
  depends := by
    rintro world later hagree ⟨hdesired, hwanted⟩
    exact ⟨hfirst.depends (fun _ _ hframe => hagree _ _ (.inl hframe)) hdesired,
      hnext.depends (fun _ _ hframed => hagree _ _ (.inr hframed)) hwanted⟩
  rests := by
    rintro world ⟨hdesired, hwanted⟩ env
    obtain ⟨hsteady, hfinishes⟩ := hfirst.rests hdesired env
    have hlater : ∀ {after}, program.run (serve env) world =
        (.ok goal, after) → AtRest last (next goal) after :=
      fun hrun => hnext.rests (hnext.depends (hsteady.agreeOn hrun) hwanted)
    refine ⟨hsteady.bind fun value after hrun => ?_, fun henv => ?_⟩
    · by_cases hvalue : value = goal
      · subst hvalue
        exact (hlater hrun env).1
      · obtain ⟨other, hother, -⟩ := hstops value hvalue
        rw [hother]
        exact steady_of_uses trivial
    · obtain ⟨between, hearly⟩ := hfinishes henv
      obtain ⟨after, hlate⟩ := (hlater hearly env).2 henv
      exact ⟨after, (run_bind_ok hearly).trans hlate⟩

section

variable {first : ClientCall Spec ActionReply Unit}
  {rest : Unit → ClientCall Spec ActionReply β}

/-- The same where the first returns no value. -/
theorem andThen (hfirst : Reconciles () writes frame Desired first)
    (hapart : ∀ kind key, frame kind key → ¬ written kind key)
    (hrest : Reconciles last written framed Wanted (rest ())) :
    Reconciles last (fun kind key => writes kind key ∨ written kind key)
      (fun kind key => frame kind key ∨ framed kind key)
      (fun world => Desired world ∧ Wanted world) (first.bind rest) :=
  hfirst.bind (fun _ hvalue => absurd rfl hvalue) hapart hrest

theorem finish (hfirst : Reconciles () writes frame Desired first) (last : β) :
    Reconciles last writes frame Desired (first.bind fun _ => .done last) where
  uses := .bind hfirst.uses fun _ => trivial
  establishes hrun := by
    obtain ⟨_, between, hearly, hdone⟩ := run_bind_eq_ok hrun
    cases hdone
    exact hfirst.establishes hearly
  depends := hfirst.depends
  rests := by
    intro world hdesired env
    obtain ⟨hsteady, hfinishes⟩ := hfirst.rests hdesired env
    refine ⟨hsteady.bind fun _ _ _ => steady_of_uses trivial, fun henv => ?_⟩
    obtain ⟨after, hrun⟩ := hfinishes henv
    exact ⟨after, run_bind_ok hrun⟩

end

/-- Two programs whose states exclude each other undo each other's work: the
second changes something after the first. -/
theorem contends {other : ClientCall Spec ActionReply β}
    {before : World Spec Memory} {again : Environment Spec ActionReply Memory}
    (hprogram : Reconciles goal writes frame Desired program)
    (hother : Reconciles last written framed Wanted other)
    (hexclusive : ∀ world, Desired world → ¬ Wanted world)
    (hfirst : program.run (serve env) before = (.ok goal, world))
    (hsecond : other.run (serve again) world = (.ok last, after)) :
    ¬ World.AgreeOn framed world after := by
  intro hagree
  have hback : World.AgreeOn framed after world :=
    fun kind key hkey => (hagree kind key hkey).symm
  exact hexclusive world (hprogram.establishes hfirst)
    (hother.depends hback (hother.establishes hsecond))

end Reconciles

/-! ## Single objects -/

/-- The object is there and as it is wanted. -/
def World.Holds (kind : Kind) (key : ObjectKey)
    (wanted : Resource (Spec kind) → Prop) (world : World Spec Memory) :
    Prop :=
  ∃ object, world.find kind key = some object ∧ wanted object

def Only (kind : Kind) (key : ObjectKey) (other : Kind) (name : ObjectKey) :
    Prop :=
  other = kind ∧ name = key

/-- The program keeps up the state of one object. -/
abbrev ReconcilesOnly (kind : Kind) (key : ObjectKey)
    (Desired : World Spec Memory → Prop)
    (program : ClientCall Spec ActionReply Unit) : Prop :=
  Reconciles () (Only kind key) (Only kind key) Desired program

variable {wanted : Resource (Spec kind) → Prop}

omit [DecidableEq Kind] in
theorem World.Holds.of_agreeOn
    (hagree : World.AgreeOn (Only kind key) world later)
    (hholds : world.Holds kind key wanted) : later.Holds kind key wanted := by
  obtain ⟨object, hfind, hwanted⟩ := hholds
  exact ⟨object, (hagree kind key ⟨rfl, rfl⟩).trans hfind, hwanted⟩

omit [DecidableEq Kind] in
theorem World.Holds.unique {field : Resource (Spec kind) → β} {first second : β}
    (hfirst : world.Holds kind key fun object => field object = first)
    (hsecond : world.Holds kind key fun object => field object = second) :
    first = second := by
  obtain ⟨object, hfind, rfl⟩ := hfirst
  obtain ⟨same, hsame, rfl⟩ := hsecond
  obtain rfl : object = same := Option.some.inj (hfind.symm.trans hsame)
  rfl

variable [DecidableEq (Spec kind)]
  {change : Resource (Spec kind) → Resource (Spec kind)}
  {blank : Resource (Spec kind)}

theorem steady_upsert
    (hfixed : ∀ object, wanted object → change object = object)
    (hholds : world.Holds kind key wanted) :
    Steady env (upsert kind key blank change) world := by
  obtain ⟨object, hfind, hwanted⟩ := hholds
  intro other name
  unfold upsert createOrUpdate
  rw [bind_eq_bind, run_get_bind]
  rcases env.fault world.tick (.get kind key) with _ | ⟨_ | message, applied⟩
  · simp [withFault, World.read, hfind, hfixed object hwanted]
  · rfl
  · rfl

theorem reconciles_upsert (hwanted : ∀ object, wanted (change object))
    (hfixed : ∀ object, wanted object → change object = object) :
    ReconcilesOnly kind key
      (World.Holds kind key wanted : World Spec Memory → Prop)
      ((upsert kind key blank change :
        ClientCall Spec ActionReply _).bind fun _ => .done ()) where
  uses := .bind (upsert_uses_writesOnly_iff.mpr ⟨rfl, rfl⟩) fun _ => trivial
  establishes hrun := by
    obtain ⟨object, between, hupsert, hdone⟩ := run_bind_eq_ok hrun
    cases hdone
    obtain ⟨rfl, hfind, -⟩ := run_upsert_eq_ok hupsert
    exact ⟨_, hfind, hwanted _⟩
  depends := World.Holds.of_agreeOn
  rests := by
    intro world hholds env
    refine ⟨(steady_upsert hfixed hholds).bind fun _ _ _ =>
      steady_of_uses trivial, fun henv => ?_⟩
    obtain ⟨object, after, hrun⟩ := exists_run_upsert henv change world
    exact ⟨after, run_bind_ok hrun⟩

/-- An object is created where it was not found, so it does not exist by
then. -/
theorem run_upsert_ne_alreadyExists :
    (upsert kind key blank change).run (serve env) world ≠
      (.error (.error (.api .alreadyExists)), after) := by
  have hwrite : ∀ (fault : Option Fault) (object : Resource (Spec kind))
      (state : World Spec Memory),
      ((Client.orFail (withFault fault (.ok ())) :
        ClientCall Spec ActionReply Unit).bind fun _ => .done object).run
          (serve env) state ≠
        (.error (.error (.api .alreadyExists)), after) := by
    intro fault object state hrun
    rcases fault with _ | ⟨_ | message, applied⟩ <;>
      simp [withFault, Failure.toError, Client.orFail] at hrun
  intro hrun
  unfold upsert createOrUpdate at hrun
  simp only [bind_eq_bind, run_get_bind, done_bind] at hrun
  generalize env.fault world.tick (.get kind key) = fault at hrun
  rcases fault with _ | ⟨_ | message, applied⟩
  · cases hfind : world.find kind key with
    | none =>
      simp only [withFault, World.read, hfind, run_create_bind,
        World.createReply, World.find_advance] at hrun
      exact hwrite _ _ _ hrun
    | some existing =>
      simp only [withFault, World.read, hfind] at hrun
      split at hrun
      · cases hrun
      · simp only [run_update_bind, World.changeReply, World.find_advance,
          hfind] at hrun
        exact hwrite _ _ _ hrun
  · cases hrun
  · cases hrun

end

end ObservabilityOperator
