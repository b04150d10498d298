import ObservabilityOperator.GoRuntime
import Mathlib.Data.List.AList

/-!
# A typed object store behind an API server

A client reads one object, lists a kind, or creates, updates and deletes an
object by name.  Every call may also fail: the environment decides at every
tick which call fails, with which error, and whether a failed write has
nevertheless reached the store.  What a client does besides talking to the
server (its own memory, its clock, other services) is a parameter of the
development.
-/

namespace ObservabilityOperator

open Program

/-! ## String maps -/

abbrev StringMap : Type := List (String × String)

namespace StringMap

def get? (map : StringMap) (key : String) : Option String :=
  map.lookup key

def get (map : StringMap) (key : String) : String :=
  (map.get? key).getD ""

def set (map : StringMap) (key value : String) : StringMap :=
  (key, value) :: map.filter fun entry => entry.1 != key

def merge (map added : StringMap) : StringMap :=
  added.foldl (fun merged entry => merged.set entry.1 entry.2) map

def Matches (selector map : StringMap) : Bool :=
  selector.all fun entry => map.get? entry.1 == some entry.2

@[simp] theorem get?_set_self (map : StringMap) (key value : String) :
    (map.set key value).get? key = some value := by
  simp [get?, set]

variable {key other : String} {added : StringMap}

theorem lookup_filter_of_ne (map : StringMap) (hne : other ≠ key) :
    (map.filter fun entry => entry.1 != key).lookup other =
      map.lookup other := by
  induction map with
  | nil => rfl
  | cons entry rest ih =>
    obtain ⟨name, value⟩ := entry
    by_cases hname : name = key
    · subst name
      have hother : (other == key) = false := by simpa using hne
      simp [List.lookup_cons, hother, ih]
    · simp [hname, List.lookup_cons, ih]

theorem get?_set_of_ne (map : StringMap) (value : String) (hne : other ≠ key) :
    (map.set key value).get? other = map.get? other := by
  have hother : (other == key) = false := by simpa using hne
  simp only [get?, set, List.lookup_cons, hother]
  exact lookup_filter_of_ne map hne

theorem get?_merge_of_not_mem (map : StringMap)
    (hkey : key ∉ added.map Prod.fst) :
    (map.merge added).get? key = map.get? key := by
  induction added generalizing map with
  | nil => rfl
  | cons entry rest ih =>
    rw [List.map_cons, List.mem_cons, not_or] at hkey
    exact (ih _ hkey.2).trans (get?_set_of_ne map _ hkey.1)

theorem get?_merge_of_mem (map : StringMap) (hkeys : (added.map Prod.fst).Nodup)
    (hkey : key ∈ added.map Prod.fst) :
    (map.merge added).get? key = added.get? key := by
  induction added generalizing map with
  | nil => cases hkey
  | cons entry rest ih =>
    obtain ⟨name, value⟩ := entry
    simp only [List.map_cons, List.nodup_cons, List.mem_cons] at hkeys hkey
    by_cases hfirst : key = name
    · subst hfirst
      have hset := get?_merge_of_not_mem (map.set key value) hkeys.1
      rw [get?_set_self] at hset
      exact hset.trans (by simp [get?])
    · have hother : (key == name) = false := by simpa using hfirst
      exact (ih _ hkeys.2 (hkey.resolve_left hfirst)).trans
        (by simp [get?, List.lookup_cons, hother])

@[simp] theorem matches_nil (map : StringMap) : Matches [] map = true := rfl

end StringMap

/-! ## Calls and replies -/

structure ObjectKey where
  ns : String
  name : String
  deriving DecidableEq, Repr

structure Resource (σ : Type) where
  labels : StringMap := []
  annotations : StringMap := []
  spec : σ
  deriving DecidableEq

inductive ApiError where
  | notFound
  | alreadyExists
  | gone
  | internal (message : String)
  deriving DecidableEq, Repr

/-- The errors any call can meet, whatever the store holds.  The absence of
an object is an answer of the store and never invented. -/
inductive Failure where
  | gone
  | internal (message : String)
  deriving DecidableEq, Repr

def Failure.toError : Failure → ApiError
  | .gone => .gone
  | .internal message => .internal message

/-- A failing call, and whether a write it carried reached the store. -/
structure Fault where
  failure : Failure
  applied : Bool
  deriving DecidableEq, Repr

structure ListOptions where
  ns : Option String := none
  labels : StringMap := []
  deriving DecidableEq, Repr

def ListOptions.selects {σ : Type} (options : ListOptions)
    (key : ObjectKey) (object : Resource σ) : Bool :=
  (match options.ns with
    | some ns => key.ns == ns
    | none => true) &&
    options.labels.Matches object.labels

/-- The calls of a client, among them actions of its own. -/
inductive ApiCall {Kind : Type} (Spec : Kind → Type) (Action : Type) where
  | get (kind : Kind) (key : ObjectKey)
  | list (kind : Kind) (options : ListOptions)
  | create (kind : Kind) (key : ObjectKey) (object : Resource (Spec kind))
  | update (kind : Kind) (key : ObjectKey) (object : Resource (Spec kind))
  | delete (kind : Kind) (key : ObjectKey)
  | perform (action : Action)

def ApiCall.Reply {Kind Action : Type} (Spec : Kind → Type)
    (ActionReply : Action → Type) : ApiCall Spec Action → Type
  | .get kind _ => Except ApiError (Resource (Spec kind))
  | .list kind _ => Except ApiError (List (ObjectKey × Resource (Spec kind)))
  | .create _ _ _ => Except ApiError Unit
  | .update _ _ _ => Except ApiError Unit
  | .delete _ _ => Except ApiError Unit
  | .perform action => ActionReply action

/-- The call creates, updates or deletes the object. -/
def ApiCall.Writes {Kind Action : Type} {Spec : Kind → Type}
    (kind : Kind) (key : ObjectKey) : ApiCall Spec Action → Prop
  | .get _ _ => False
  | .list _ _ => False
  | .create target name _ => target = kind ∧ name = key
  | .update target name _ => target = kind ∧ name = key
  | .delete target name => target = kind ∧ name = key
  | .perform _ => False

/-- What the call writes is permitted. -/
def ApiCall.WritesOnly {Kind Action : Type} {Spec : Kind → Type}
    (permitted : Kind → ObjectKey → Prop) (call : ApiCall Spec Action) :
    Prop :=
  ∀ kind key, call.Writes kind key → permitted kind key

section WritesOnly

variable {Kind Action : Type} {Spec : Kind → Type}
  {permitted : Kind → ObjectKey → Prop}

@[simp] theorem ApiCall.writesOnly_get (kind : Kind) (key : ObjectKey) :
    (.get kind key : ApiCall Spec Action).WritesOnly permitted :=
  fun _ _ hwrites => hwrites.elim

@[simp] theorem ApiCall.writesOnly_list (kind : Kind) (options : ListOptions) :
    (.list kind options : ApiCall Spec Action).WritesOnly permitted :=
  fun _ _ hwrites => hwrites.elim

@[simp] theorem ApiCall.writesOnly_perform (action : Action) :
    (.perform action : ApiCall Spec Action).WritesOnly permitted :=
  fun _ _ hwrites => hwrites.elim

@[simp] theorem ApiCall.writesOnly_create (kind : Kind) (key : ObjectKey)
    (object : Resource (Spec kind)) :
    (.create kind key object : ApiCall Spec Action).WritesOnly permitted ↔
      permitted kind key := by
  simp [WritesOnly, Writes]

@[simp] theorem ApiCall.writesOnly_update (kind : Kind) (key : ObjectKey)
    (object : Resource (Spec kind)) :
    (.update kind key object : ApiCall Spec Action).WritesOnly permitted ↔
      permitted kind key := by
  simp [WritesOnly, Writes]

@[simp] theorem ApiCall.writesOnly_delete (kind : Kind) (key : ObjectKey) :
    (.delete kind key : ApiCall Spec Action).WritesOnly permitted ↔
      permitted kind key := by
  simp [WritesOnly, Writes]

theorem ApiCall.WritesOnly.mono {allowed : Kind → ObjectKey → Prop}
    {call : ApiCall Spec Action} (hcall : call.WritesOnly permitted)
    (himp : ∀ kind key, permitted kind key → allowed kind key) :
    call.WritesOnly allowed :=
  fun kind key hwrites => himp kind key (hcall kind key hwrites)

end WritesOnly

/-! ## Worlds and environments -/

/-- The store of the server, the memory of the client, and the number of calls.
-/
structure World {Kind : Type} (Spec : Kind → Type) (Memory : Type) where
  objects : (kind : Kind) → AList fun _ : ObjectKey => Resource (Spec kind)
  memory : Memory
  tick : ℕ := 0

/-- The outside of the client: which calls fail, and what its own actions
return and leave in its memory. -/
structure Environment {Kind Action : Type} (Spec : Kind → Type)
    (ActionReply : Action → Type) (Memory : Type) where
  fault : ℕ → ApiCall Spec Action → Option Fault
  act : ℕ → (action : Action) → Memory → ActionReply action × Memory

variable {Kind Action Memory : Type} {Spec : Kind → Type}
  {ActionReply : Action → Type} {call : ApiCall Spec Action}

/-- No call fails. -/
def Environment.Faultless
    (env : Environment Spec ActionReply Memory) : Prop :=
  ∀ tick call, env.fault tick call = none

def World.find (world : World Spec Memory) (kind : Kind) (key : ObjectKey) :
    Option (Resource (Spec kind)) :=
  (world.objects kind).lookup key

def World.select (world : World Spec Memory) (kind : Kind)
    (options : ListOptions) : List (ObjectKey × Resource (Spec kind)) :=
  ((world.objects kind).entries.map fun entry => (entry.1, entry.2)).filter
    fun entry => options.selects entry.1 entry.2

def World.read (world : World Spec Memory) (kind : Kind) (key : ObjectKey) :
    Except ApiError (Resource (Spec kind)) :=
  match world.find kind key with
  | some object => .ok object
  | none => .error .notFound

def World.createReply (world : World Spec Memory) (kind : Kind)
    (key : ObjectKey) : Except ApiError Unit :=
  if (world.find kind key).isSome then .error .alreadyExists else .ok ()

def World.changeReply (world : World Spec Memory) (kind : Kind)
    (key : ObjectKey) : Except ApiError Unit :=
  if (world.find kind key).isSome then .ok () else .error .notFound

def World.advance (world : World Spec Memory) : World Spec Memory :=
  { world with tick := world.tick + 1 }

@[simp] theorem World.find_advance (world : World Spec Memory)
    (kind : Kind) (key : ObjectKey) :
    world.advance.find kind key = world.find kind key := rfl

theorem World.find_congr {world other : World Spec Memory}
    (hobjects : world.objects = other.objects) (kind : Kind)
    (key : ObjectKey) : world.find kind key = other.find kind key := by
  simp only [find, hobjects]

theorem World.mem_select_iff (world : World Spec Memory) (kind : Kind)
    (options : ListOptions) (key : ObjectKey) (object : Resource (Spec kind)) :
    (key, object) ∈ world.select kind options ↔
      world.find kind key = some object ∧
        options.selects key object = true := by
  simp only [select, find, List.mem_filter, List.mem_map, Prod.mk.injEq]
  constructor
  · rintro ⟨⟨entry, hentry, rfl, rfl⟩, hselects⟩
    exact ⟨AList.mem_lookup_iff.mpr hentry, hselects⟩
  · rintro ⟨hfind, hselects⟩
    exact ⟨⟨⟨key, object⟩, AList.mem_lookup_iff.mp hfind, rfl, rfl⟩, hselects⟩

theorem World.nodup_select (world : World Spec Memory) (kind : Kind)
    (options : ListOptions) :
    ((world.select kind options).map Prod.fst).Nodup := by
  have hkeys : (((world.objects kind).entries.map fun entry =>
      (entry.1, entry.2)).map Prod.fst).Nodup := by
    rw [List.map_map]
    exact (world.objects kind).nodupKeys
  exact hkeys.sublist (List.filter_sublist.map _)

/-! ## The client -/

/-- A call of the operator: a program over the API that may end in an error
or a panic. -/
abbrev ClientCall {Kind Action : Type} (Spec : Kind → Type)
    (ActionReply : Action → Type) (α : Type) : Type :=
  Program (ApiCall.Reply Spec ActionReply) (Abort ApiError) α

namespace Client

def get (kind : Kind) (key : ObjectKey) :
    ClientCall Spec ActionReply (Except ApiError (Resource (Spec kind))) :=
  .request (.get kind key) .done

def list (kind : Kind) (options : ListOptions) :
    ClientCall Spec ActionReply
      (Except ApiError (List (ObjectKey × Resource (Spec kind)))) :=
  .request (.list kind options) .done

def create (kind : Kind) (key : ObjectKey) (object : Resource (Spec kind)) :
    ClientCall Spec ActionReply (Except ApiError Unit) :=
  .request (.create kind key object) .done

def update (kind : Kind) (key : ObjectKey) (object : Resource (Spec kind)) :
    ClientCall Spec ActionReply (Except ApiError Unit) :=
  .request (.update kind key object) .done

def delete (kind : Kind) (key : ObjectKey) :
    ClientCall Spec ActionReply (Except ApiError Unit) :=
  .request (.delete kind key) .done

def perform (action : Action) :
    ClientCall Spec ActionReply (ActionReply action) :=
  .request (.perform action) .done

def orFail {α : Type} (result : Except ApiError α) :
    ClientCall Spec ActionReply α :=
  match result with
  | .ok value => .done value
  | .error error => .fail (.error (.api error))

def deleteIfFound (kind : Kind) (key : ObjectKey) :
    ClientCall Spec ActionReply Unit := do
  match ← delete kind key with
  | .error .notFound => return ()
  | result => orFail result

section

variable (allowed : ApiCall Spec Action → Prop)

@[simp] theorem uses_get (kind : Kind) (key : ObjectKey) :
    (get kind key : ClientCall Spec ActionReply _).Uses allowed ↔
      allowed (.get kind key) := by
  simp [get, Program.Uses]

@[simp] theorem uses_list (kind : Kind) (options : ListOptions) :
    (list kind options : ClientCall Spec ActionReply _).Uses allowed ↔
      allowed (.list kind options) := by
  simp [list, Program.Uses]

@[simp] theorem uses_create (kind : Kind) (key : ObjectKey)
    (object : Resource (Spec kind)) :
    (create kind key object : ClientCall Spec ActionReply _).Uses allowed ↔
      allowed (.create kind key object) := by
  simp [create, Program.Uses]

@[simp] theorem uses_update (kind : Kind) (key : ObjectKey)
    (object : Resource (Spec kind)) :
    (update kind key object : ClientCall Spec ActionReply _).Uses allowed ↔
      allowed (.update kind key object) := by
  simp [update, Program.Uses]

@[simp] theorem uses_delete (kind : Kind) (key : ObjectKey) :
    (delete kind key : ClientCall Spec ActionReply _).Uses allowed ↔
      allowed (.delete kind key) := by
  simp [delete, Program.Uses]

@[simp] theorem uses_perform (action : Action) :
    (perform action : ClientCall Spec ActionReply _).Uses allowed ↔
      allowed (.perform action) := by
  simp [perform, Program.Uses]

@[simp] theorem uses_orFail {α : Type} (result : Except ApiError α) :
    (orFail result : ClientCall Spec ActionReply α).Uses allowed := by
  cases result <;> trivial

@[simp] theorem uses_deleteIfFound (kind : Kind) (key : ObjectKey)
    (hdelete : allowed (.delete kind key)) :
    (deleteIfFound kind key :
      ClientCall Spec ActionReply Unit).Uses allowed := by
  refine Program.Uses.bind ((uses_delete allowed kind key).mpr hdelete)
    fun reply => ?_
  split
  · trivial
  · exact uses_orFail allowed _

end

variable {α S : Type} {handler : Handler (ApiCall.Reply Spec ActionReply) S}
  {Inv : S → Prop} {reply : Except ApiError α} {state : S}

theorem orFail_ensures {Ok : α → S → Prop} (hstate : Inv state)
    (hok : ∀ value, reply = .ok value → Ok value state) :
    (orFail reply : ClientCall Spec ActionReply α).Ensures handler Inv state
      Ok (fun _ => Inv) := by
  cases reply with
  | ok value => exact hok value rfl
  | error error => exact hstate

theorem orFail_bind_ensures {β : Type}
    {next : α → ClientCall Spec ActionReply β} {Ok : β → S → Prop}
    (hstate : Inv state) (hnext : ∀ value, reply = .ok value →
      (next value).Ensures handler Inv state Ok (fun _ => Inv)) :
    ((orFail reply).bind next).Ensures handler Inv state Ok (fun _ => Inv) := by
  cases reply with
  | ok value => exact hnext value rfl
  | error error => exact hstate

end Client

/-! ## Serving a call -/

section

variable [DecidableEq Kind] {ε α : Type} {kind other : Kind}
  {key name : ObjectKey} {world : World Spec Memory}

def World.put (world : World Spec Memory) (kind : Kind) (key : ObjectKey)
    (object : Resource (Spec kind)) : World Spec Memory :=
  { world with
    objects := Function.update world.objects kind
      ((world.objects kind).insert key object) }

def World.remove (world : World Spec Memory) (kind : Kind)
    (key : ObjectKey) : World Spec Memory :=
  { world with
    objects := Function.update world.objects kind
      ((world.objects kind).erase key) }

@[simp] theorem World.find_put_self (world : World Spec Memory)
    (kind : Kind) (key : ObjectKey) (object : Resource (Spec kind)) :
    (world.put kind key object).find kind key = some object := by
  simp [find, put]

theorem World.find_put_of_ne (world : World Spec Memory)
    (object : Resource (Spec kind)) (hne : ¬ (kind = other ∧ key = name)) :
    (world.put kind key object).find other name = world.find other name := by
  by_cases hkind : kind = other
  · subst other
    have hkey : name ≠ key := fun heq => hne ⟨rfl, heq.symm⟩
    simp [find, put, AList.lookup_insert_ne hkey]
  · simp [find, put, Function.update_of_ne (Ne.symm hkind)]

@[simp] theorem World.find_remove_self (world : World Spec Memory)
    (kind : Kind) (key : ObjectKey) :
    (world.remove kind key).find kind key = none := by
  simp [find, remove]

theorem World.find_remove_of_ne (world : World Spec Memory)
    (hne : ¬ (kind = other ∧ key = name)) :
    (world.remove kind key).find other name = world.find other name := by
  by_cases hkind : kind = other
  · subst other
    have hkey : name ≠ key := fun heq => hne ⟨rfl, heq.symm⟩
    simp [find, remove, AList.lookup_erase_ne hkey]
  · simp [find, remove, Function.update_of_ne (Ne.symm hkind)]

theorem World.find_remove_of_none (hnone : world.find other name = none) :
    (world.remove kind key).find other name = none := by
  by_cases hsame : kind = other ∧ key = name
  · obtain ⟨rfl, rfl⟩ := hsame
    exact world.find_remove_self _ _
  · rw [world.find_remove_of_ne hsame, hnone]

/-- What a call does to the store if it does not fail. -/
def World.effect (world : World Spec Memory) :
    ApiCall Spec Action → World Spec Memory
  | .get _ _ => world
  | .list _ _ => world
  | .create kind key object =>
    if (world.find kind key).isSome then world
    else world.put kind key object
  | .update kind key object =>
    if (world.find kind key).isSome then world.put kind key object
    else world
  | .delete kind key => world.remove kind key
  | .perform _ => world

def withFault {α : Type} (fault : Option Fault)
    (reply : Except ApiError α) : Except ApiError α :=
  match fault with
  | some fault => .error fault.failure.toError
  | none => reply

/-- The store after a call: a failing call leaves it alone, or has gone
through unnoticed. -/
def World.settle (world : World Spec Memory) (fault : Option Fault)
    (call : ApiCall Spec Action) : World Spec Memory :=
  match fault with
  | some fault =>
    if fault.applied then (world.effect call).advance else world.advance
  | none => (world.effect call).advance

/-- The server, as far as it works in the environment. -/
def serve (env : Environment Spec ActionReply Memory) :
    Handler (ApiCall.Reply Spec ActionReply) (World Spec Memory)
  | .get kind key, world =>
    (withFault (env.fault world.tick (.get kind key)) (world.read kind key),
      world.advance)
  | .list kind options, world =>
    (withFault (env.fault world.tick (.list kind options))
      (.ok (world.select kind options)),
      world.advance)
  | .create kind key object, world =>
    (withFault (env.fault world.tick (.create kind key object))
      (world.createReply kind key),
      world.settle (env.fault world.tick (.create kind key object))
        (.create kind key object : ApiCall Spec Action))
  | .update kind key object, world =>
    (withFault (env.fault world.tick (.update kind key object))
      (world.changeReply kind key),
      world.settle (env.fault world.tick (.update kind key object))
        (.update kind key object : ApiCall Spec Action))
  | .delete kind key, world =>
    (withFault (env.fault world.tick (.delete kind key))
      (world.changeReply kind key),
      world.settle (env.fault world.tick (.delete kind key))
        (.delete kind key : ApiCall Spec Action))
  | .perform action, world =>
    ((env.act world.tick action world.memory).1,
      { world with
        memory := (env.act world.tick action world.memory).2
        tick := world.tick + 1 })

/-! ## Running the client -/

section Run

variable (env : Environment Spec ActionReply Memory) {α : Type}

@[simp] theorem run_get_bind (kind : Kind) (key : ObjectKey)
    (next : Except ApiError (Resource (Spec kind)) →
      ClientCall Spec ActionReply α) (world : World Spec Memory) :
    ((Client.get kind key).bind next).run (serve env) world =
      (next (withFault (env.fault world.tick (.get kind key))
        (world.read kind key))).run (serve env) world.advance := rfl

@[simp] theorem run_list_bind (kind : Kind) (options : ListOptions)
    (next : Except ApiError (List (ObjectKey × Resource (Spec kind))) →
      ClientCall Spec ActionReply α) (world : World Spec Memory) :
    ((Client.list kind options).bind next).run (serve env) world =
      (next (withFault (env.fault world.tick (.list kind options))
        (.ok (world.select kind options)))).run (serve env) world.advance := rfl

@[simp] theorem run_create_bind (kind : Kind) (key : ObjectKey)
    (object : Resource (Spec kind))
    (next : Except ApiError Unit → ClientCall Spec ActionReply α)
    (world : World Spec Memory) :
    ((Client.create kind key object).bind next).run (serve env) world =
      (next (withFault (env.fault world.tick (.create kind key object))
        (world.createReply kind key))).run (serve env)
          (world.settle (env.fault world.tick (.create kind key object))
            (.create kind key object : ApiCall Spec Action)) := rfl

@[simp] theorem run_update_bind (kind : Kind) (key : ObjectKey)
    (object : Resource (Spec kind))
    (next : Except ApiError Unit → ClientCall Spec ActionReply α)
    (world : World Spec Memory) :
    ((Client.update kind key object).bind next).run (serve env) world =
      (next (withFault (env.fault world.tick (.update kind key object))
        (world.changeReply kind key))).run (serve env)
          (world.settle (env.fault world.tick (.update kind key object))
            (.update kind key object : ApiCall Spec Action)) := rfl

@[simp] theorem run_delete_bind (kind : Kind) (key : ObjectKey)
    (next : Except ApiError Unit → ClientCall Spec ActionReply α)
    (world : World Spec Memory) :
    ((Client.delete kind key).bind next).run (serve env) world =
      (next (withFault (env.fault world.tick (.delete kind key))
        (world.changeReply kind key))).run (serve env)
          (world.settle (env.fault world.tick (.delete kind key))
            (.delete kind key : ApiCall Spec Action)) := rfl

@[simp] theorem run_perform_bind (action : Action)
    (next : ActionReply action → ClientCall Spec ActionReply α)
    (world : World Spec Memory) :
    ((Client.perform action).bind next).run (serve env) world =
      (next (env.act world.tick action world.memory).1).run (serve env)
        { world with
          memory := (env.act world.tick action world.memory).2
          tick := world.tick + 1 } := rfl

end Run

/-! ## Calls that succeed -/

section Success

variable {env : Environment Spec ActionReply Memory} {α : Type}
  {kind : Kind} {key : ObjectKey} {world after : World Spec Memory} {value : α}
  {next : Unit → ClientCall Spec ActionReply α} {object : Resource (Spec kind)}

theorem withFault_eq_ok {fault : Option Fault} {reply : Except ApiError α}
    (hreply : withFault fault reply = .ok value) :
    fault = none ∧ reply = .ok value := by
  cases fault with
  | none => exact ⟨rfl, hreply⟩
  | some fault => simp [withFault] at hreply

theorem run_orFail_bind_eq_ok {β : Type} {result : Except ApiError α}
    {next : α → ClientCall Spec ActionReply β} {value : β}
    (hrun : ((Client.orFail result).bind next).run (serve env) world =
      (.ok value, after)) :
    ∃ content, result = .ok content ∧
      (next content).run (serve env) world = (.ok value, after) := by
  cases result with
  | error error => simp [Client.orFail] at hrun
  | ok content => exact ⟨content, rfl, hrun⟩

theorem run_get_eq_ok
    {next : Resource (Spec kind) → ClientCall Spec ActionReply α}
    (hrun : ((Client.get kind key).bind fun reply =>
        (Client.orFail reply).bind next).run (serve env) world =
      (.ok value, after)) :
    ∃ object, world.find kind key = some object ∧
      (next object).run (serve env) world.advance = (.ok value, after) := by
  rw [run_get_bind] at hrun
  obtain ⟨object, hreply, hnext⟩ := run_orFail_bind_eq_ok hrun
  obtain ⟨-, hread⟩ := withFault_eq_ok hreply
  refine ⟨object, ?_, hnext⟩
  unfold World.read at hread
  split at hread
  next hfind =>
    cases hread
    exact hfind
  next => cases hread

theorem run_create_eq_ok
    (hrun : ((Client.create kind key object).bind fun reply =>
        (Client.orFail reply).bind next).run (serve env) world =
      (.ok value, after)) :
    (next ()).run (serve env) (world.put kind key object).advance =
      (.ok value, after) := by
  rw [run_create_bind] at hrun
  obtain ⟨_, hreply, hnext⟩ := run_orFail_bind_eq_ok hrun
  obtain ⟨hfault, hcreate⟩ := withFault_eq_ok hreply
  have habsent : ¬ (world.find kind key).isSome := by
    intro hfound
    simp [World.createReply, hfound] at hcreate
  simpa [World.settle, World.effect, hfault, habsent] using hnext

theorem run_update_eq_ok
    (hrun : ((Client.update kind key object).bind fun reply =>
        (Client.orFail reply).bind next).run (serve env) world =
      (.ok value, after)) :
    (next ()).run (serve env) (world.put kind key object).advance =
      (.ok value, after) := by
  rw [run_update_bind] at hrun
  obtain ⟨_, hreply, hnext⟩ := run_orFail_bind_eq_ok hrun
  obtain ⟨hfault, hupdate⟩ := withFault_eq_ok hreply
  have hfound : (world.find kind key).isSome := by
    by_contra habsent
    simp [World.changeReply, habsent] at hupdate
  simpa [World.settle, World.effect, hfault, hfound] using hnext

theorem run_delete_eq_ok
    (hrun : ((Client.delete kind key).bind fun reply =>
        Client.orFail reply : ClientCall Spec ActionReply Unit).run
          (serve env) world = (.ok (), after)) :
    after = (world.remove kind key).advance := by
  rw [run_delete_bind] at hrun
  cases hfault : env.fault world.tick (.delete kind key) with
  | some fault => simp [hfault, withFault, Client.orFail] at hrun
  | none =>
    simp only [hfault, withFault, World.changeReply, World.settle,
      World.effect] at hrun
    split at hrun
    next => simpa [Client.orFail] using hrun.symm
    next => simp [Client.orFail] at hrun

theorem run_deleteIfFound_of_none
    (hfault : env.fault world.tick (.delete kind key) = none) :
    (Client.deleteIfFound kind key : ClientCall Spec ActionReply Unit).run
        (serve env) world = (.ok (), (world.remove kind key).advance) := by
  simp only [Client.deleteIfFound, bind_eq_bind, run_delete_bind,
    hfault, withFault, World.changeReply, World.settle, World.effect]
  cases (world.find kind key).isSome <;> rfl

theorem run_deleteIfFound_of_some {fault : Fault}
    (hfault : env.fault world.tick (.delete kind key) = some fault) :
    (Client.deleteIfFound kind key : ClientCall Spec ActionReply Unit).run
        (serve env) world =
      (.error (.error (.api fault.failure.toError)),
        world.settle (some fault)
          (.delete kind key : ApiCall Spec Action)) := by
  simp only [Client.deleteIfFound, bind_eq_bind, run_delete_bind,
    hfault, withFault]
  cases fault.failure <;> rfl

end Success

/-! ## What one call changes -/

theorem World.find_effect_of_not_writes (world : World Spec Memory)
    (hcall : ¬ call.Writes kind key) :
    (world.effect call).find kind key = world.find kind key := by
  cases call with
  | get target name => rfl
  | list target options => rfl
  | create target name object =>
    simp only [effect]
    split
    · rfl
    · exact world.find_put_of_ne object hcall
  | update target name object =>
    simp only [effect]
    split
    · exact world.find_put_of_ne object hcall
    · rfl
  | delete target name => exact world.find_remove_of_ne hcall
  | perform action => rfl

theorem World.find_settle_of_not_writes (world : World Spec Memory)
    (fault : Option Fault) (hcall : ¬ call.Writes kind key) :
    (world.settle fault call).find kind key = world.find kind key := by
  cases fault with
  | none =>
    simp only [settle, find_advance]
    exact world.find_effect_of_not_writes hcall
  | some fault =>
    simp only [settle]
    split
    · exact world.find_effect_of_not_writes hcall
    · rfl

/-- A call that is not a write to an object leaves that object alone. -/
theorem serve_find (env : Environment Spec ActionReply Memory)
    (hcall : ¬ call.Writes kind key) (world : World Spec Memory) :
    (serve env call world).2.find kind key = world.find kind key := by
  cases call with
  | get target name => rfl
  | list target options => rfl
  | create target name object =>
    exact world.find_settle_of_not_writes _ hcall
  | update target name object =>
    exact world.find_settle_of_not_writes _ hcall
  | delete target name => exact world.find_settle_of_not_writes _ hcall
  | perform action => rfl

theorem serve_objects (env : Environment Spec ActionReply Memory)
    (call : ApiCall Spec Action) (world : World Spec Memory) :
    (serve env call world).2.objects = world.objects ∨
      (serve env call world).2.objects = (world.effect call).objects := by
  have hsettle (fault : Option Fault) :
      (world.settle fault call).objects = world.objects ∨
        (world.settle fault call).objects = (world.effect call).objects := by
    cases fault with
    | none => exact .inr rfl
    | some fault =>
      simp only [World.settle]
      split
      · exact .inr rfl
      · exact .inl rfl
  cases call with
  | get kind key => exact .inl rfl
  | list kind options => exact .inl rfl
  | create kind key object => exact hsettle _
  | update kind key object => exact hsettle _
  | delete kind key => exact hsettle _
  | perform action => exact .inl rfl

theorem serve_objects_of_not_writes (env : Environment Spec ActionReply Memory)
    (hcall : ∀ key, ¬ call.Writes kind key) (world : World Spec Memory) :
    (serve env call world).2.objects kind = world.objects kind := by
  have heffect : (world.effect call).objects kind = world.objects kind := by
    cases call with
    | get target name => rfl
    | list target options => rfl
    | create target name object =>
      have hne : kind ≠ target := fun hkind => hcall name ⟨hkind.symm, rfl⟩
      simp only [World.effect]
      split
      · rfl
      · exact Function.update_of_ne hne _ _
    | update target name object =>
      have hne : kind ≠ target := fun hkind => hcall name ⟨hkind.symm, rfl⟩
      simp only [World.effect]
      split
      · exact Function.update_of_ne hne _ _
      · rfl
    | delete target name =>
      have hne : kind ≠ target := fun hkind => hcall name ⟨hkind.symm, rfl⟩
      exact Function.update_of_ne hne _ _
    | perform action => rfl
  rcases serve_objects env call world with hsame | hdone
  · rw [hsame]
  · rw [hdone, heffect]

theorem serve_tick (env : Environment Spec ActionReply Memory)
    (call : ApiCall Spec Action) (world : World Spec Memory) :
    (serve env call world).2.tick = world.tick + 1 := by
  have heffect : (world.effect call).tick = world.tick := by
    cases call with
    | create kind key object =>
      simp only [World.effect]
      split <;> rfl
    | update kind key object =>
      simp only [World.effect]
      split <;> rfl
    | _ => rfl
  have hsettle (fault : Option Fault) :
      (world.settle fault call).tick = world.tick + 1 := by
    cases fault with
    | none => exact congrArg (· + 1) heffect
    | some fault =>
      simp only [World.settle]
      split
      · exact congrArg (· + 1) heffect
      · rfl
  cases call with
  | get kind key => rfl
  | list kind options => rfl
  | create kind key object => exact hsettle _
  | update kind key object => exact hsettle _
  | delete kind key => exact hsettle _
  | perform action => rfl

theorem Program.le_tick_run (env : Environment Spec ActionReply Memory)
    (program : Program (ApiCall.Reply Spec ActionReply) ε α)
    (world : World Spec Memory) :
    world.tick ≤ (program.run (serve env) world).2.tick := by
  induction program generalizing world with
  | done value => exact Nat.le_refl _
  | fail error => exact Nat.le_refl _
  | request call rest ih =>
    have hrest := ih (serve env call world).1 (serve env call world).2
    rw [serve_tick] at hrest
    exact Nat.le_of_succ_le hrest

variable {env : Environment Spec ActionReply Memory}
  {program : Program (ApiCall.Reply Spec ActionReply) ε α}
  {object : Resource (Spec kind)}

theorem Program.lt_tick_of_mem_events
    {event : Event (ApiCall.Reply Spec ActionReply) (World Spec Memory)}
    (hevent : event ∈ program.events (serve env) world) :
    world.tick < event.after.tick := by
  induction program generalizing world with
  | done value => cases hevent
  | fail error => cases hevent
  | request call rest ih =>
    rcases List.mem_cons.mp hevent with rfl | hrest
    · exact Nat.lt_of_lt_of_eq (Nat.lt_succ_self _)
        (serve_tick env call world).symm
    · have hlater := ih _ hrest
      rw [serve_tick] at hlater
      exact Nat.lt_of_succ_lt hlater

theorem World.memory_settle (world : World Spec Memory)
    (fault : Option Fault) (call : ApiCall Spec Action) :
    (world.settle fault call).memory = world.memory := by
  have heffect : (world.effect call).memory = world.memory := by
    cases call <;> simp only [effect, put, remove] <;> split <;> rfl
  cases fault with
  | none => exact heffect
  | some fault =>
    simp only [settle]
    split
    · exact heffect
    · rfl

theorem World.find_effect_eq_some
    (hfind : (world.effect call).find kind key = some object) :
    world.find kind key = some object ∨ call = .create kind key object ∨
      call = .update kind key object := by
  by_cases hcall : call.Writes kind key
  · cases call with
    | get target name => exact hcall.elim
    | list target options => exact hcall.elim
    | perform action => exact hcall.elim
    | create target name written =>
      obtain ⟨rfl, rfl⟩ := hcall
      simp only [effect] at hfind
      split at hfind
      · exact .inl hfind
      · simp only [find_put_self, Option.some.injEq] at hfind
        exact .inr (.inl (by rw [hfind]))
    | update target name written =>
      obtain ⟨rfl, rfl⟩ := hcall
      simp only [effect] at hfind
      split at hfind
      · simp only [find_put_self, Option.some.injEq] at hfind
        exact .inr (.inr (by rw [hfind]))
      · exact .inl hfind
    | delete target name =>
      obtain ⟨rfl, rfl⟩ := hcall
      simp [effect] at hfind
  · rw [world.find_effect_of_not_writes hcall] at hfind
    exact .inl hfind

theorem World.isSome_find_effect (hcall : call ≠ .delete kind key)
    (hfound : (world.find kind key).isSome) :
    ((world.effect call).find kind key).isSome := by
  by_cases hwrites : call.Writes kind key
  · cases call with
    | get target name => exact hfound
    | list target options => exact hfound
    | perform action => exact hfound
    | create target name written =>
      obtain ⟨rfl, rfl⟩ := hwrites
      simp [effect, hfound]
    | update target name written =>
      obtain ⟨rfl, rfl⟩ := hwrites
      simp [effect, hfound]
    | delete target name =>
      obtain ⟨rfl, rfl⟩ := hwrites
      exact absurd rfl hcall
  · rwa [world.find_effect_of_not_writes hwrites]

theorem serve_find_eq_some
    (hfind : (serve env call world).2.find kind key = some object) :
    world.find kind key = some object ∨ call = .create kind key object ∨
      call = .update kind key object := by
  rcases serve_objects env call world with hobjects | hobjects
  · rw [World.find_congr hobjects] at hfind
    exact .inl hfind
  · rw [World.find_congr hobjects] at hfind
    exact World.find_effect_eq_some hfind

theorem serve_isSome_find (hcall : call ≠ .delete kind key)
    (hfound : (world.find kind key).isSome) :
    ((serve env call world).2.find kind key).isSome := by
  rcases serve_objects env call world with hobjects | hobjects
  · rwa [World.find_congr hobjects]
  · rw [World.find_congr hobjects]
    exact World.isSome_find_effect hcall hfound

theorem serve_find_eq_none (hcall : ∀ object, call ≠ .create kind key object)
    (habsent : world.find kind key = none) :
    (serve env call world).2.find kind key = none := by
  by_cases hwrites : call.Writes kind key
  · rcases serve_objects env call world with hobjects | hobjects
    · rwa [World.find_congr hobjects]
    · rw [World.find_congr hobjects]
      cases call with
      | get target name => exact habsent
      | list target options => exact habsent
      | perform action => exact habsent
      | create target name object =>
        obtain ⟨rfl, rfl⟩ := hwrites
        exact absurd rfl (hcall object)
      | update target name object =>
        obtain ⟨rfl, rfl⟩ := hwrites
        simp [World.effect, habsent]
      | delete target name =>
        obtain ⟨rfl, rfl⟩ := hwrites
        exact world.find_remove_self _ _
  · rw [serve_find env hwrites, habsent]

theorem serve_find_of_put
    (hcall : call = .create kind key object ∨ call = .update kind key object)
    (world : World Spec Memory) :
    (serve env call world).2.find kind key = world.find kind key ∨
      (serve env call world).2.find kind key = some object := by
  cases hafter : (serve env call world).2.find kind key with
  | none =>
    cases hbefore : world.find kind key with
    | none => exact .inl rfl
    | some found =>
      have hkept : ((serve env call world).2.find kind key).isSome :=
        serve_isSome_find (by rcases hcall with rfl | rfl <;> nofun)
          (Option.isSome_of_eq_some hbefore)
      simp [hafter] at hkept
  | some found =>
    rcases serve_find_eq_some hafter with hbefore | hwritten | hwritten
    · exact .inl hbefore.symm
    · rcases hcall with rfl | rfl <;> cases hwritten
      exact .inr rfl
    · rcases hcall with rfl | rfl <;> cases hwritten
      exact .inr rfl

section Acknowledged

variable {env : Environment Spec ActionReply Memory}
  {world : World Spec Memory} {kind : Kind} {key : ObjectKey}
  {object : Resource (Spec kind)}

theorem serve_create_of_ok
    (hreply : (serve env (.create kind key object) world).1 = .ok ()) :
    (serve env (.create kind key object) world).2.find kind key =
      some object := by
  obtain ⟨hfault, hcreate⟩ := withFault_eq_ok hreply
  have habsent : ¬ (world.find kind key).isSome := by
    intro hfound
    simp [World.createReply, hfound] at hcreate
  simp [serve, hfault, World.settle, World.effect, habsent]

theorem serve_update_of_ok
    (hreply : (serve env (.update kind key object) world).1 = .ok ()) :
    (serve env (.update kind key object) world).2.find kind key =
      some object := by
  obtain ⟨hfault, hupdate⟩ := withFault_eq_ok hreply
  have hfound : (world.find kind key).isSome := by
    by_contra habsent
    simp [World.changeReply, habsent] at hupdate
  simp [serve, hfault, World.settle, World.effect, hfound]

theorem serve_delete_of_ok
    (hreply : (serve env (.delete kind key) world).1 = .ok ()) :
    (serve env (.delete kind key) world).2.find kind key = none := by
  obtain ⟨hfault, -⟩ := withFault_eq_ok hreply
  simp [serve, hfault, World.settle, World.effect]

end Acknowledged

theorem Program.Uses.run_find (env : Environment Spec ActionReply Memory)
    (huses : program.Uses fun call => ¬ call.Writes kind key)
    (world : World Spec Memory) :
    (program.run (serve env) world).2.find kind key = world.find kind key := by
  refine huses.run_preserves
    (fun before after => after.find kind key = before.find kind key)
    (fun _ => rfl) ?_ ?_ world
  · intro a b c hfirst hsecond
    exact hsecond.trans hfirst
  · intro call hcall state
    exact serve_find env hcall state

theorem Program.Uses.run_find_eq_none
    (env : Environment Spec ActionReply Memory)
    (huses : program.Uses fun call =>
      ∀ object, call ≠ .create kind key object)
    (habsent : world.find kind key = none) :
    (program.run (serve env) world).2.find kind key = none := by
  refine huses.run_preserves
    (fun before after => before.find kind key = none →
      after.find kind key = none) ?_ ?_ ?_ world habsent
  · exact fun _ hnone => hnone
  · exact fun hfirst hsecond hnone => hsecond (hfirst hnone)
  · exact fun call hcall state hnone => serve_find_eq_none hcall hnone

theorem Program.Uses.run_isSome_find (env : Environment Spec ActionReply Memory)
    (huses : program.Uses fun call => call ≠ .delete kind key)
    (hfound : (world.find kind key).isSome) :
    ((program.run (serve env) world).2.find kind key).isSome := by
  refine huses.run_preserves
    (fun before after => (before.find kind key).isSome →
      (after.find kind key).isSome) ?_ ?_ ?_ world hfound
  · exact fun _ hsome => hsome
  · exact fun hfirst hsecond hsome => hsecond (hfirst hsome)
  · exact fun call hcall state hsome => serve_isSome_find hcall hsome

theorem Program.Uses.run_find_eq_some
    (huses : program.Uses fun call => ∀ object,
      call ≠ .create kind key object ∧ call ≠ .update kind key object)
    {found : Resource (Spec kind)}
    (hfound : (program.run (serve env) world).2.find kind key = some found) :
    world.find kind key = some found := by
  refine huses.run_preserves
    (fun before after => after.find kind key = some found →
      before.find kind key = some found) ?_ ?_ ?_ world hfound
  · exact fun _ hsome => hsome
  · exact fun hfirst hsecond hsome => hfirst (hsecond hsome)
  · intro call hcall state hsome
    rcases serve_find_eq_some hsome with hbefore | hput | hput
    · exact hbefore
    · exact absurd hput (hcall found).1
    · exact absurd hput (hcall found).2

/-! ## Removing the objects of a list -/

theorem run_forEach_prune {items : List (ObjectKey × Resource (Spec kind))}
    {body : ObjectKey × Resource (Spec kind) →
      ClientCall Spec ActionReply Unit} {after : World Spec Memory}
    (Unwanted : ObjectKey × Resource (Spec kind) → Prop)
    (hkeep : ∀ item ∈ items, ¬ Unwanted item → body item = .done ())
    (hdelete : ∀ item ∈ items, Unwanted item → ∀ before between,
      (body item).run (serve env) before = (.ok (), between) →
        between = (before.remove kind item.1).advance)
    (hrun : (Program.forEach items body).run (serve env) world =
      (.ok (), after)) :
    (∀ item ∈ items, Unwanted item → after.find kind item.1 = none) ∧
      ∀ other key,
        (other = kind → ∀ item ∈ items, Unwanted item → item.1 ≠ key) →
          after.find other key = world.find other key := by
  induction items generalizing world with
  | nil =>
    cases hrun
    exact ⟨fun _ hitem => (List.not_mem_nil hitem).elim, fun _ _ _ => rfl⟩
  | cons first rest ih =>
    obtain ⟨_, between, hfirst, hrest⟩ := run_bind_eq_ok hrun
    obtain ⟨hgone, hkept⟩ := ih
      (fun item hitem => hkeep item (List.mem_cons_of_mem _ hitem))
      (fun item hitem => hdelete item (List.mem_cons_of_mem _ hitem)) hrest
    by_cases hunwanted : Unwanted first
    · have hbetween :=
        hdelete first List.mem_cons_self hunwanted _ _ hfirst
      subst hbetween
      constructor
      · intro item hitem hitemUnwanted
        rcases List.mem_cons.mp hitem with rfl | hlater
        · by_cases hagain : ∃ other ∈ rest, Unwanted other ∧ other.1 = item.1
          · obtain ⟨other, hother, hotherUnwanted, hsame⟩ := hagain
            rw [← hsame]
            exact hgone other hother hotherUnwanted
          · rw [hkept kind item.1 fun _ other hother hotherUnwanted hsame =>
              hagain ⟨other, hother, hotherUnwanted, hsame⟩]
            exact World.find_remove_self _ _ _
        · exact hgone item hlater hitemUnwanted
      · intro other key hkey
        rw [hkept other key fun hother item hitem =>
          hkey hother item (List.mem_cons_of_mem _ hitem)]
        apply World.find_remove_of_ne
        rintro ⟨hkind, hsame⟩
        exact hkey hkind.symm first List.mem_cons_self hunwanted hsame
    · rw [hkeep first List.mem_cons_self hunwanted] at hfirst
      cases hfirst
      constructor
      · intro item hitem hitemUnwanted
        rcases List.mem_cons.mp hitem with rfl | hlater
        · exact absurd hitemUnwanted hunwanted
        · exact hgone item hlater hitemUnwanted
      · intro other key hkey
        exact hkept other key fun hother item hitem =>
          hkey hother item (List.mem_cons_of_mem _ hitem)

def Client.prune (kind : Kind) (options : ListOptions)
    (keeps : ObjectKey → Prop) [DecidablePred keeps] :
    ClientCall Spec ActionReply Unit := do
  let items ← Client.orFail (← Client.list kind options)
  Program.forEach items fun item =>
    if keeps item.1 then .done ()
    else do Client.orFail (← Client.delete kind item.1)

section Prune

variable {env : Environment Spec ActionReply Memory} {kind : Kind}
  {options : ListOptions} {keeps : ObjectKey → Prop} [DecidablePred keeps]
  {world after : World Spec Memory}
  {items : List (ObjectKey × Resource (Spec kind))}

omit [DecidableEq Kind] in
theorem Client.prune_eq :
    (Client.prune kind options keeps : ClientCall Spec ActionReply Unit) =
      ((Client.list kind options).bind fun reply =>
        Client.orFail reply).bind fun items =>
          Program.forEach items fun item =>
            if keeps item.1 then .done ()
            else (Client.delete kind item.1).bind fun reply =>
              Client.orFail reply := by
  rw [Program.bind_assoc]
  rfl

omit [DecidableEq Kind] in
theorem Client.uses_prune {allowed : ApiCall Spec Action → Prop}
    (hlist : allowed (.list kind options))
    (hdelete : ∀ key, allowed (.delete kind key)) :
    (Client.prune kind options keeps :
      ClientCall Spec ActionReply Unit).Uses allowed := by
  refine .bind ((Client.uses_list _ _ _).mpr hlist) fun _ =>
    .bind (Client.uses_orFail _ _) fun _ => .forEach fun item _ => ?_
  split
  · trivial
  · exact .bind ((Client.uses_delete _ _ _).mpr (hdelete _)) fun _ =>
      Client.uses_orFail _ _

theorem run_listed_eq_ok
    (hrun : ((Client.list kind options).bind fun reply =>
        Client.orFail reply : ClientCall Spec ActionReply _).run (serve env)
      world = (.ok items, after)) :
    items = world.select kind options ∧ after = world.advance := by
  rw [run_list_bind] at hrun
  cases hfault : env.fault world.tick (.list kind options) with
  | some fault => simp [hfault, withFault, Client.orFail] at hrun
  | none =>
    simp only [hfault, withFault, Client.orFail, run_done,
      Prod.mk.injEq, Except.ok.injEq] at hrun
    exact ⟨hrun.1.symm, hrun.2.symm⟩

theorem of_issues_prune (hissues : (Client.prune kind options keeps :
        ClientCall Spec ActionReply Unit).Issues (serve env) world
      (.delete other key)) :
    other = kind ∧ ¬ keeps key ∧ ∃ object,
      world.find kind key = some object ∧
        options.selects key object = true := by
  rw [Client.prune_eq] at hissues
  rcases hissues.of_bind with hlist | ⟨items, between, hrun, hloop⟩
  · have hreads : ((Client.list kind options).bind fun reply =>
        Client.orFail reply : ClientCall Spec ActionReply _).Uses
          (fun call => call ≠ .delete other key) :=
      .bind ((Client.uses_list _ _ _).mpr (by simp))
        fun _ => Client.uses_orFail _ _
    exact absurd rfl (hreads.of_issues hlist)
  · obtain ⟨rfl, rfl⟩ := run_listed_eq_ok hrun
    have hdeletes : (Program.forEach (world.select kind options) fun item =>
        if keeps item.1 then .done ()
        else (Client.delete kind item.1).bind fun reply =>
          (Client.orFail reply : ClientCall Spec ActionReply Unit)).Uses
        (fun call => call = .delete other key → other = kind ∧
          ¬ keeps key ∧ ∃ object, world.find kind key = some object ∧
            options.selects key object = true) := by
      apply Program.Uses.forEach
      rintro ⟨listed, object⟩ hitem
      dsimp only
      split
      · trivial
      next hkeeps =>
        refine .bind ((Client.uses_delete _ _ _).mpr ?_)
          fun _ => Client.uses_orFail _ _
        intro hcall
        obtain ⟨rfl, rfl⟩ := ApiCall.delete.inj hcall
        exact ⟨rfl, hkeeps, object, (world.mem_select_iff _ _ _ _).mp hitem⟩
    exact hdeletes.of_issues hloop rfl

/-- After a pruning that returns, the listed objects that are not kept are
gone and nothing else has changed. -/
theorem run_prune_eq_ok
    (hrun : (Client.prune kind options keeps :
        ClientCall Spec ActionReply Unit).run (serve env) world =
      (.ok (), after)) :
    (∀ key object, world.find kind key = some object →
      options.selects key object = true → ¬ keeps key →
        after.find kind key = none) ∧
      ∀ other key,
        (other = kind → ∀ object, world.find kind key = some object →
          options.selects key object = true → keeps key) →
          after.find other key = world.find other key := by
  rw [Client.prune_eq] at hrun
  obtain ⟨items, between, hlist, hloop⟩ := run_bind_eq_ok hrun
  obtain ⟨rfl, rfl⟩ := run_listed_eq_ok hlist
  obtain ⟨hgone, hkept⟩ := run_forEach_prune (fun item => ¬ keeps item.1)
    (fun item _ hkeeps => if_pos (not_not.mp hkeeps))
    (fun item _ hkeeps before next hnext => by
      rw [if_neg hkeeps] at hnext
      exact run_delete_eq_ok hnext) hloop
  constructor
  · intro key object hfind hselects hkeeps
    exact hgone (key, object)
      ((world.mem_select_iff _ _ _ _).mpr ⟨hfind, hselects⟩) hkeeps
  · intro other key hkeeps
    refine (hkept other key ?_).trans (world.find_advance _ _)
    rintro hother ⟨listed, object⟩ hitem hunkept rfl
    obtain ⟨hfind, hselects⟩ := (world.mem_select_iff _ _ _ _).mp hitem
    exact hunkept (hkeeps hother object hfind hselects)

theorem exists_run_forEach_delete (henv : env.Faultless)
    (hnodup : (items.map Prod.fst).Nodup) (world : World Spec Memory)
    (hfound : ∀ item ∈ items, (world.find kind item.1).isSome = true) :
    ∃ after, (Program.forEach items fun item =>
      if keeps item.1 then .done ()
      else (Client.delete kind item.1).bind fun reply =>
        (Client.orFail reply : ClientCall Spec ActionReply Unit)).run
          (serve env) world = (.ok (), after) := by
  induction items generalizing world with
  | nil => exact ⟨world, rfl⟩
  | cons first rest ih =>
    obtain ⟨hfirst, hrest⟩ := List.nodup_cons.mp hnodup
    by_cases hkeeps : keeps first.1
    · obtain ⟨after, hrun⟩ := ih hrest world fun item hitem =>
        hfound item (List.mem_cons_of_mem _ hitem)
      refine ⟨after, ?_⟩
      rw [Program.forEach, if_pos hkeeps]
      exact hrun
    · obtain ⟨after, hrun⟩ := ih hrest (world.remove kind first.1).advance
        fun item hitem => by
          have hne : first.1 ≠ item.1 := fun hsame =>
            hfirst (List.mem_map.mpr ⟨item, hitem, hsame.symm⟩)
          rw [World.find_advance,
            World.find_remove_of_ne _ fun hsame => hne hsame.2]
          exact hfound item (List.mem_cons_of_mem _ hitem)
      have hdelete : ((Client.delete kind first.1).bind fun reply =>
          (Client.orFail reply : ClientCall Spec ActionReply Unit)).run
            (serve env) world =
          (.ok (), (world.remove kind first.1).advance) := by
        rw [run_delete_bind]
        simp [henv _ _, withFault, World.changeReply,
          hfound first List.mem_cons_self, Client.orFail, World.settle,
          World.effect]
      refine ⟨after, ?_⟩
      rw [Program.forEach, if_neg hkeeps]
      exact (run_bind_ok hdelete).trans hrun

theorem exists_run_prune (henv : env.Faultless) (world : World Spec Memory) :
    ∃ after, (Client.prune kind options keeps :
      ClientCall Spec ActionReply Unit).run (serve env) world =
        (.ok (), after) := by
  have hlist : ((Client.list kind options).bind fun reply =>
      Client.orFail reply : ClientCall Spec ActionReply _).run (serve env)
        world = (.ok (world.select kind options), world.advance) := by
    rw [run_list_bind, henv _ _]
    rfl
  rw [Client.prune_eq, run_bind_ok hlist]
  apply exists_run_forEach_delete henv (world.nodup_select kind options)
  intro item hitem
  have hfind := ((world.mem_select_iff kind options _ _).mp hitem).1
  rw [World.find_advance, hfind]
  rfl

theorem issues_prune_of_ok {object : Resource (Spec kind)}
    (hrun : (Client.prune kind options keeps :
        ClientCall Spec ActionReply Unit).run (serve env) world =
      (.ok (), after)) (hfind : world.find kind key = some object)
    (hselects : options.selects key object = true) (hkeeps : ¬ keeps key) :
    (Client.prune kind options keeps :
        ClientCall Spec ActionReply Unit).Issues (serve env) world
      (.delete kind key) := by
  rw [Client.prune_eq] at hrun ⊢
  obtain ⟨items, between, hlist, hloop⟩ := run_bind_eq_ok hrun
  rw [issues_bind_of_ok hlist]
  right
  obtain ⟨rfl, rfl⟩ := run_listed_eq_ok hlist
  refine ((issues_forEach_iff (fun _ => True)
    (fun item => item.1 = key ∧ ¬ keeps item.1)
    (fun item _ state next _ _ => ⟨trivial, ?_⟩) trivial hloop).2).mpr
      ⟨(key, object), (world.mem_select_iff _ _ _ _).mpr ⟨hfind, hselects⟩,
        rfl, hkeeps⟩
  split
  next hkept => simp [hkept]
  next hunkept =>
    constructor
    · intro hissues
      have hdeletes : ((Client.delete kind item.1).bind fun reply =>
          (Client.orFail reply : ClientCall Spec ActionReply Unit)).Uses
            (fun call => call = .delete kind key → item.1 = key) :=
        .bind ((Client.uses_delete _ _ _).mpr fun hcall =>
          (ApiCall.delete.inj hcall).2) fun _ => Client.uses_orFail _ _
      exact ⟨hdeletes.of_issues hissues rfl, hunkept⟩
    · rintro ⟨rfl, -⟩
      exact ⟨_, List.mem_cons_self, rfl⟩

end Prune

end

/-! ## Read, modify and write back -/

section CreateOrUpdate

variable (kind : Kind) [DecidableEq (Spec kind)]
  {allowed : ApiCall Spec Action → Prop}

/-- Read the object, let the closure change what was read (or the given
blank object when there is none), and write it back if it changed. -/
def createOrUpdate (key : ObjectKey) (blank : Resource (Spec kind))
    (mutate : Resource (Spec kind) →
      ClientCall Spec ActionReply (Resource (Spec kind))) :
    ClientCall Spec ActionReply (Resource (Spec kind)) := do
  match ← Client.get kind key with
  | .error .notFound =>
    let object ← mutate blank
    Client.orFail (← Client.create kind key object)
    return object
  | .error error => Client.orFail (.error error)
  | .ok existing =>
    let object ← mutate existing
    if object = existing then return object
    else
      Client.orFail (← Client.update kind key object)
      return object

def upsert (key : ObjectKey) (blank : Resource (Spec kind))
    (change : Resource (Spec kind) → Resource (Spec kind)) :
    ClientCall Spec ActionReply (Resource (Spec kind)) :=
  createOrUpdate kind key blank fun object => .done (change object)

variable {kind} {key : ObjectKey} {blank : Resource (Spec kind)}
  {change : Resource (Spec kind) → Resource (Spec kind)}
  {mutate : Resource (Spec kind) →
    ClientCall Spec ActionReply (Resource (Spec kind))}
  {object : Resource (Spec kind)}

theorem createOrUpdate_uses (hget : allowed (.get kind key))
    (hcreate : ∀ object, allowed (.create kind key object))
    (hupdate : ∀ object, allowed (.update kind key object))
    (hmutate : ∀ object, (mutate object).Uses allowed) :
    (createOrUpdate kind key blank mutate).Uses allowed := by
  refine Program.Uses.bind ((Client.uses_get _ _ _).mpr hget) fun reply => ?_
  split
  · refine Program.Uses.bind (hmutate blank) fun object => ?_
    refine Program.Uses.bind ((Client.uses_create _ _ _ _).mpr
      (hcreate object)) fun written => ?_
    exact Program.Uses.bind (Client.uses_orFail _ _) fun _ => trivial
  · exact Client.uses_orFail _ _
  · refine Program.Uses.bind (hmutate _) fun object => ?_
    split
    · trivial
    · refine Program.Uses.bind ((Client.uses_update _ _ _ _).mpr
        (hupdate object)) fun written => ?_
      exact Program.Uses.bind (Client.uses_orFail _ _) fun _ => trivial

theorem upsert_uses_of_blank (hget : allowed (.get kind key))
    (hcreate : allowed (.create kind key (change blank)))
    (hupdate : ∀ object, allowed (.update kind key (change object))) :
    (upsert kind key blank change :
      ClientCall Spec ActionReply _).Uses allowed := by
  refine Program.Uses.bind ((Client.uses_get _ _ _).mpr hget) fun reply => ?_
  simp only [bind_eq_bind, done_bind]
  split
  · refine Program.Uses.bind ((Client.uses_create _ _ _ _).mpr
      hcreate) fun written => ?_
    exact Program.Uses.bind (Client.uses_orFail _ _) fun _ => trivial
  · exact Client.uses_orFail _ _
  next existing =>
    split
    · trivial
    · refine Program.Uses.bind ((Client.uses_update _ _ _ _).mpr
        (hupdate existing)) fun written => ?_
      exact Program.Uses.bind (Client.uses_orFail _ _) fun _ => trivial

theorem upsert_uses (hget : allowed (.get kind key))
    (hcreate : ∀ object, allowed (.create kind key (change object)))
    (hupdate : ∀ object, allowed (.update kind key (change object))) :
    (upsert kind key blank change :
      ClientCall Spec ActionReply _).Uses allowed :=
  upsert_uses_of_blank hget (hcreate blank) hupdate

theorem upsert_uses_writesOnly_iff {permitted : Kind → ObjectKey → Prop} :
    (upsert kind key blank change : ClientCall Spec ActionReply _).Uses
        (ApiCall.WritesOnly permitted) ↔ permitted kind key := by
  constructor
  · intro huses
    have hcreate := huses.2 (.error .notFound)
    exact (ApiCall.writesOnly_create _ _ _).mp hcreate.1
  · intro hpermitted
    apply upsert_uses (ApiCall.writesOnly_get _ _)
    · exact fun _ => (ApiCall.writesOnly_create _ _ _).mpr hpermitted
    · exact fun _ => (ApiCall.writesOnly_update _ _ _).mpr hpermitted

variable [DecidableEq Kind] {env : Environment Spec ActionReply Memory}
  {world after : World Spec Memory}

/-- A call that returns an object computed it from the one it read and left
it written, unless there was nothing to change. -/
theorem run_createOrUpdate_eq_ok
    (hrun : (createOrUpdate kind key blank mutate).run (serve env) world =
      (.ok object, after)) :
    ∃ between,
      (mutate ((world.find kind key).getD blank)).run (serve env)
          world.advance = (.ok object, between) ∧
        (after = (between.put kind key object).advance ∨
          (after = between ∧ world.find kind key = some object)) := by
  unfold createOrUpdate at hrun
  simp only [bind_eq_bind, run_get_bind] at hrun
  cases hfault : env.fault world.tick (.get kind key) with
  | some fault =>
    cases hfailure : fault.failure <;>
      simp [hfault, withFault, hfailure, Failure.toError,
        Client.orFail] at hrun
  | none =>
    simp only [hfault, withFault, World.read] at hrun
    cases hfind : world.find kind key with
    | none =>
      simp only [hfind] at hrun
      obtain ⟨value, between, hmutate, hrest⟩ := run_bind_eq_ok hrun
      have hwritten := run_create_eq_ok hrest
      cases hwritten
      exact ⟨between, hmutate, .inl rfl⟩
    | some existing =>
      simp only [hfind] at hrun
      obtain ⟨value, between, hmutate, hrest⟩ := run_bind_eq_ok hrun
      split at hrest
      next hsame =>
        simp only [pure_eq_done, run_done,
          Prod.mk.injEq, Except.ok.injEq] at hrest
        obtain ⟨rfl, rfl⟩ := hrest
        exact ⟨between, hmutate, .inr ⟨rfl, by rw [hsame]⟩⟩
      next =>
        have hwritten := run_update_eq_ok hrest
        simp only [pure_eq_done, run_done,
          Prod.mk.injEq, Except.ok.injEq] at hwritten
        obtain ⟨rfl, rfl⟩ := hwritten
        exact ⟨between, hmutate, .inl rfl⟩

theorem exists_run_createOrUpdate (henv : env.Faultless)
    {mutate : Resource (Spec kind) →
      ClientCall Spec ActionReply (Resource (Spec kind))}
    (hmutate : (mutate ((world.find kind key).getD blank)).run (serve env)
      world.advance = (.ok object, after))
    (hkept : after.find kind key = world.find kind key) :
    ∃ last, (createOrUpdate kind key blank mutate).run (serve env) world =
      (.ok object, last) := by
  unfold createOrUpdate
  simp only [bind_eq_bind, run_get_bind, henv _ _, withFault, World.read]
  cases hfind : world.find kind key with
  | none =>
    rw [hfind] at hmutate hkept
    rw [Option.getD_none] at hmutate
    dsimp only
    rw [run_bind_ok hmutate]
    exact ⟨after.settle none (.create kind key object : ApiCall Spec Action),
      by simp [Client.orFail, World.createReply, henv _ _, withFault,
        hkept]⟩
  | some existing =>
    rw [hfind] at hmutate hkept
    rw [Option.getD_some] at hmutate
    dsimp only
    rw [run_bind_ok hmutate]
    split
    · exact ⟨_, rfl⟩
    · exact ⟨after.settle none
        (.update kind key object : ApiCall Spec Action), by
          simp [Client.orFail, World.changeReply, henv _ _, withFault, hkept]⟩

theorem exists_run_upsert (henv : env.Faultless)
    (change : Resource (Spec kind) → Resource (Spec kind))
    (world : World Spec Memory) :
    ∃ object after, (upsert kind key blank change).run (serve env) world =
      (.ok object, after) :=
  ⟨_, exists_run_createOrUpdate henv rfl (World.find_advance _ _ _)⟩

theorem run_upsert_eq_ok
    (hrun : (upsert kind key blank change).run (serve env) world =
      (.ok object, after)) :
    object = change ((world.find kind key).getD blank) ∧
      after.find kind key = some object ∧ after.memory = world.memory := by
  obtain ⟨between, hmutate, hafter⟩ := run_createOrUpdate_eq_ok hrun
  cases hmutate
  rcases hafter with rfl | ⟨rfl, hfound⟩
  · exact ⟨rfl, by simp, rfl⟩
  · exact ⟨rfl, hfound, rfl⟩

theorem upsert_ensures
    {handler : Handler (ApiCall.Reply Spec ActionReply) (World Spec Memory)}
    {Inv Placed : World Spec Memory → Prop}
    (hreply : ∀ call world, (handler call world).1 = (serve env call world).1)
    (hplaced : ∀ call world,
      ((serve env call world).2.find kind key).isSome →
        Placed (handler call world).2)
    (hget : ∀ world, Inv world → Inv (handler (.get kind key) world).2)
    (hcreate : ∀ world object, Inv world →
      Inv (handler (.create kind key object) world).2)
    (hupdate : ∀ world object, Inv world →
      Inv (handler (.update kind key object) world).2) (hworld : Inv world) :
    (upsert kind key blank change).Ensures handler Inv world
      (fun _ after => Inv after ∧ Placed after) (fun _ => Inv) := by
  have hread : (Client.get kind key).Ensures handler Inv world
      (fun reply after => Inv after ∧ ∀ object, reply = .ok object →
        Placed after) (fun (_ : Abort ApiError) => Inv) := by
    refine ⟨hget world hworld, hget world hworld, fun object hobject => ?_⟩
    refine hplaced (.get kind key) world ?_
    rw [hreply] at hobject
    obtain ⟨-, hread⟩ := withFault_eq_ok hobject
    cases hfind : world.find kind key with
    | none => simp [World.read, hfind] at hread
    | some found => simp [serve, hfind]
  refine hread.bind fun reply between hbetween => ?_
  simp only [bind_eq_bind, done_bind]
  split
  · have hinv := hcreate between (change blank) hbetween.1
    refine ⟨hinv, Client.orFail_bind_ensures hinv fun _ hcreated =>
      ⟨hinv, hplaced _ _ ?_⟩⟩
    rw [hreply] at hcreated
    rw [serve_create_of_ok hcreated]
    rfl
  · exact hbetween.1
  next existing =>
    split
    · exact ⟨hbetween.1, hbetween.2 _ rfl⟩
    · have hinv := hupdate between (change existing) hbetween.1
      refine ⟨hinv, Client.orFail_bind_ensures hinv fun _ hupdated =>
        ⟨hinv, hplaced _ _ ?_⟩⟩
      rw [hreply] at hupdated
      rw [serve_update_of_ok hupdated]
      rfl

/-- What the read leaves and the write that follows it, if any, is all that has
to be looked at. -/
theorem upsert_ensures_of_steps {Inv : World Spec Memory → Prop}
    (hread : Inv world.advance)
    (hcreate : world.find kind key = none →
      Inv (serve env (.create kind key (change blank)) world.advance).2)
    (hupdate : ∀ object, world.find kind key = some object →
      change object ≠ object →
        Inv (serve env (.update kind key (change object)) world.advance).2) :
    (upsert kind key blank change).Ensures (serve env) Inv world
      (fun _ => Inv) (fun _ => Inv) := by
  have hget : (Client.get kind key).Ensures (serve env) Inv world
      (fun reply after => reply = withFault (env.fault world.tick
          (.get kind key)) (world.read kind key) ∧ after = world.advance)
      (fun (_ : Abort ApiError) => Inv) := ⟨hread, rfl, rfl⟩
  refine hget.bind fun reply between hbetween => ?_
  obtain ⟨hreply, rfl⟩ := hbetween
  simp only [bind_eq_bind, done_bind]
  split
  next =>
    have hinv := hcreate (by
      cases hfind : world.find kind key with
      | none => rfl
      | some found =>
        cases hfault : env.fault world.tick (.get kind key) with
        | none => simp [hfault, withFault, World.read, hfind] at hreply
        | some fault =>
          cases hfailure : fault.failure <;>
            simp [hfault, withFault, hfailure, Failure.toError] at hreply)
    exact ⟨hinv, Client.orFail_bind_ensures hinv fun _ _ => hinv⟩
  next => exact hread
  next existing =>
    obtain ⟨-, hexisting⟩ := withFault_eq_ok hreply.symm
    have hfound : world.find kind key = some existing := by
      cases hfind : world.find kind key <;>
        simp [World.read, hfind] at hexisting
      rw [hexisting]
    split
    next => exact hread
    next hchanged =>
      have hinv := hupdate existing hfound hchanged
      exact ⟨hinv, Client.orFail_bind_ensures hinv fun _ _ => hinv⟩

theorem upsert_maintains_found (hchange : change object = object) :
    (upsert kind key blank change).Maintains (serve env)
      fun world => world.find kind key = some object := by
  intro world hworld
  refine upsert_ensures_of_steps hworld (fun habsent => ?_)
    fun found hfound hchanged => ?_
  · rw [hworld] at habsent
    cases habsent
  · cases hworld.symm.trans hfound
    exact absurd hchange hchanged

theorem upsert_ensures_absent (habsent : world.find kind key = none) :
    (upsert kind key blank change).Ensures (serve env)
      (fun state => state.find kind key = none ∨
        state.find kind key = some (change blank)) world
      (fun _ state => state.find kind key = none ∨
        state.find kind key = some (change blank))
      (fun _ state => state.find kind key = none ∨
        state.find kind key = some (change blank)) := by
  refine upsert_ensures_of_steps (.inl habsent) (fun _ => ?_)
    fun found hfound _ => ?_
  · exact (serve_find_of_put (.inl rfl) world.advance).imp_left
      fun hkept => hkept.trans habsent
  · rw [habsent] at hfound
    cases hfound

/-- What a computed change keeps of an object stays as it is, however far the
change comes. -/
theorem upsert_maintains_view {V : Type}
    (view : Option (Resource (Spec kind)) → V) (value : V)
    {change : Resource (Spec kind) → Resource (Spec kind)}
    (hchange : ∀ object, view (some (change object)) = view (some object))
    (hblank : view (some (change blank)) = view none) :
    (upsert kind key blank change).Maintains (serve env)
      fun world => view (world.find kind key) = value := by
  intro world hworld
  have hput {call : ApiCall Spec Action} {object : Resource (Spec kind)}
      (hcall : call = .create kind key object ∨ call = .update kind key object)
      (hobject : view (some object) = view (world.find kind key)) :
      view ((serve env call world.advance).2.find kind key) = value := by
    rcases serve_find_of_put hcall world.advance with hkept | hwritten
    · rw [hkept]
      exact hworld
    · rw [hwritten, hobject]
      exact hworld
  refine upsert_ensures_of_steps hworld (fun habsent => ?_)
    fun object hfound _ => ?_
  · exact hput (.inl rfl) (by rw [hblank, habsent])
  · exact hput (.inr rfl) (by rw [hchange, hfound])

end CreateOrUpdate

end ObservabilityOperator
