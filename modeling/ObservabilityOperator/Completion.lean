import ObservabilityOperator.ApiServer

/-!
# Programs that run to their end

Where no call fails, a client that reads objects, writes them back and deletes
them comes to its end, whatever it finds.  `Completes` says so of every run
from a state of an invariant, with what is known of the value that it returns.
The invariant of interest is that the objects of some kinds are those of a
given world: what a program reads of these kinds is known, and the rules for
writes ask for other kinds.
-/

namespace ObservabilityOperator

namespace Program

section Rules

variable {Op S Cause α β γ : Type} {Res : Op → Type} {ε : Type}
  {handler : Handler Res S} {Inv : S → Prop} {Returns : α → Prop}
  {Next : β → Prop} {program : Program Res ε α} {next : α → Program Res ε β}

/-- From every state of the invariant, the program returns a value with the
property, in a state of the invariant. -/
def Completes (program : Program Res ε α) (handler : Handler Res S)
    (Inv : S → Prop) (Returns : α → Prop) : Prop :=
  ∀ state, Inv state → ∃ value after,
    program.run handler state = (.ok value, after) ∧ Returns value ∧ Inv after

theorem completes_done {value : α} (hvalue : Returns value) :
    (done value : Program Res ε α).Completes handler Inv Returns :=
  fun state hstate => ⟨value, state, rfl, hvalue, hstate⟩

theorem Completes.bind (hprogram : program.Completes handler Inv Returns)
    (hnext : ∀ value, Returns value → (next value).Completes handler Inv Next) :
    (program.bind next).Completes handler Inv Next := by
  intro state hstate
  obtain ⟨value, between, hfirst, hvalue, hbetween⟩ := hprogram state hstate
  obtain ⟨result, after, hrest, hafter⟩ := hnext value hvalue between hbetween
  exact ⟨result, after, (run_bind_ok hfirst).trans hrest, hafter⟩

theorem Completes.andThen
    (hprogram : program.Completes handler Inv fun _ => True)
    (hnext : ∀ value, (next value).Completes handler Inv Next) :
    (program.bind next).Completes handler Inv Next :=
  hprogram.bind fun value _ => hnext value

theorem Completes.discard
    (hprogram : program.Completes handler Inv fun _ => True) :
    (program.bind fun _ => .done ()).Completes handler Inv fun _ => True :=
  hprogram.andThen fun _ => completes_done trivial

theorem Completes.mono {Weaker : α → Prop}
    (hprogram : program.Completes handler Inv Returns)
    (hweaker : ∀ value, Returns value → Weaker value) :
    program.Completes handler Inv Weaker := by
  intro state hstate
  obtain ⟨value, after, hrun, hvalue, hafter⟩ := hprogram state hstate
  exact ⟨value, after, hrun, hweaker value hvalue, hafter⟩

theorem Completes.exists_run {program : Program Res ε Unit}
    (hprogram : program.Completes handler Inv fun _ => True) {state : S}
    (hstate : Inv state) :
    ∃ after, program.run handler state = (.ok (), after) := by
  obtain ⟨_, after, hrun, -⟩ := hprogram state hstate
  exact ⟨after, hrun⟩

theorem Completes.forEach {items : List γ} {body : γ → Program Res ε Unit}
    (hbody : ∀ item ∈ items, (body item).Completes handler Inv fun _ => True) :
    (forEach items body).Completes handler Inv fun _ => True := by
  induction items with
  | nil => exact completes_done trivial
  | cons item rest ih =>
    refine (hbody item List.mem_cons_self).bind fun _ _ => ?_
    exact ih fun other hother => hbody other (List.mem_cons_of_mem _ hother)

theorem Completes.collect {items : List γ} {body : γ → Program Res ε β}
    {f : γ → β} (hbody : ∀ item ∈ items,
      (body item).Completes handler Inv (· = f item)) :
    (collect items body).Completes handler Inv (· = items.map f) := by
  induction items with
  | nil => exact completes_done rfl
  | cons item rest ih =>
    refine (hbody item List.mem_cons_self).bind ?_
    rintro _ rfl
    refine (ih fun other hother =>
      hbody other (List.mem_cons_of_mem _ hother)).bind ?_
    rintro _ rfl
    exact completes_done rfl

theorem Completes.attempt {program : Program Res (Abort Cause) α}
    (hprogram : program.Completes handler Inv Returns) :
    program.attempt.Completes handler Inv fun result =>
      ∃ value, Returns value ∧ result = .ok value := by
  intro state hstate
  obtain ⟨value, after, hrun, hvalue, hafter⟩ := hprogram state hstate
  exact ⟨.ok value, after, run_attempt_eq_ok_ok.mpr hrun,
    ⟨value, hvalue, rfl⟩, hafter⟩

theorem Completes.wrapping {program : Program Res (Abort Cause) α}
    {message : String} (hprogram : program.Completes handler Inv Returns) :
    (program.wrapping message).Completes handler Inv Returns := by
  intro state hstate
  obtain ⟨value, after, hrun, hafter⟩ := hprogram state hstate
  exact ⟨value, after, run_wrapping_eq_ok.mpr hrun, hafter⟩

end Rules

end Program

/-! ## Clients of a server that does not fail -/

open Program

section Client

variable {Kind Action Memory α β : Type} [DecidableEq Kind]
  {Spec : Kind → Type} {ActionReply : Action → Type}
  {env : Environment Spec ActionReply Memory} {kinds : List Kind}
  {start world : World Spec Memory} {kind : Kind} {key : ObjectKey}
  {options : ListOptions} {Returns : α → Prop}

def World.AgreesIn (kinds : List Kind) (start world : World Spec Memory) :
    Prop :=
  ∀ kind ∈ kinds, world.objects kind = start.objects kind

omit [DecidableEq Kind] in
theorem World.AgreesIn.find (hagrees : World.AgreesIn kinds start world)
    (hkind : kind ∈ kinds) (key : ObjectKey) :
    world.find kind key = start.find kind key := by
  rw [World.find, hagrees kind hkind, World.find]

theorem completes_of_uses {program : ClientCall Spec ActionReply α}
    (huses : program.Uses (ApiCall.WritesOnly fun kind _ => kind ∉ kinds))
    (hruns : ∀ world, ∃ value after,
      program.run (serve env) world = (.ok value, after)) :
    program.Completes (serve env) (World.AgreesIn kinds start)
      fun _ => True := by
  intro world hworld
  obtain ⟨value, after, hrun⟩ := hruns world
  refine ⟨value, after, hrun, trivial, fun kind hkind => ?_⟩
  have hkept : (program.run (serve env) world).2.objects kind =
      world.objects kind :=
    huses.run_preserves (fun before later : World Spec Memory =>
        later.objects kind = before.objects kind)
      (fun _ => rfl) (fun hfirst hsecond => hsecond.trans hfirst)
      (fun call hcall state => serve_objects_of_not_writes _
        (fun key hwrites => hcall kind key hwrites hkind) state) world
  rw [hrun] at hkept
  exact hkept.trans (hworld kind hkind)

section Reads

variable (henv : env.Faultless)
include henv

theorem completes_get (kind : Kind) (key : ObjectKey) :
    (Client.get kind key : ClientCall Spec ActionReply _).Completes
      (serve env) (World.AgreesIn kinds start) fun reply =>
        (kind ∈ kinds → reply = start.read kind key) ∧
          ∀ error, reply = .error error → error = .notFound := by
  intro world hworld
  refine ⟨world.read kind key, world.advance, ?_, ⟨fun hkind => ?_, ?_⟩, hworld⟩
  · change (Except.ok (withFault (env.fault world.tick (.get kind key))
      (world.read kind key)), world.advance) = _
    rw [henv]
    rfl
  · rw [World.read, hworld.find hkind, World.read]
  · intro error herror
    unfold World.read at herror
    split at herror <;> cases herror
    rfl

theorem completes_get_bind {kind : Kind} {key : ObjectKey}
    {next : Except ApiError (Resource (Spec kind)) →
      ClientCall Spec ActionReply α}
    (hfound : ∀ object, (next (.ok object)).Completes (serve env)
      (World.AgreesIn kinds start) Returns)
    (hmissing : (next (.error .notFound)).Completes (serve env)
      (World.AgreesIn kinds start) Returns) :
    ((Client.get kind key).bind next).Completes (serve env)
      (World.AgreesIn kinds start) Returns := by
  refine (completes_get henv kind key).bind fun reply hreply => ?_
  cases reply with
  | ok object => exact hfound object
  | error error =>
    rw [hreply.2 error rfl]
    exact hmissing

theorem completes_list {next :
      Except ApiError (List (ObjectKey × Resource (Spec kind))) →
        ClientCall Spec ActionReply α}
    (hnext : ∀ items, (kind ∈ kinds → items = start.select kind options) →
      (next (.ok items)).Completes (serve env) (World.AgreesIn kinds start)
        Returns) :
    ((Client.list kind options).bind next).Completes (serve env)
      (World.AgreesIn kinds start) Returns := by
  intro world hworld
  rw [run_list_bind, henv]
  refine hnext (world.select kind options) (fun hkind => ?_) _ hworld
  rw [World.select, hworld kind hkind, World.select]

omit henv in
theorem completes_perform {action : Action}
    {Replies : ActionReply action → Prop}
    (hreply : ∀ tick memory, Replies (env.act tick action memory).1) :
    (Client.perform action : ClientCall Spec ActionReply _).Completes
      (serve env) (World.AgreesIn kinds start) Replies :=
  fun _ hworld => ⟨_, _, rfl, hreply _ _, hworld⟩

end Reads

theorem completes_update (hkind : kind ∉ kinds)
    (object : Resource (Spec kind)) :
    (Client.update kind key object :
      ClientCall Spec ActionReply _).Completes (serve env)
        (World.AgreesIn kinds start) fun _ => True :=
  completes_of_uses ((Client.uses_update _ _ _ _).mpr
    ((ApiCall.writesOnly_update _ _ _).mpr hkind)) fun _ => ⟨_, _, rfl⟩

/-- Where there is nothing of the kind, a deletion changes nothing. -/
theorem completes_deleteIfFound (henv : env.Faultless)
    (hkind : kind ∈ kinds → start.objects kind = ∅) (key : ObjectKey) :
    (Client.deleteIfFound kind key :
      ClientCall Spec ActionReply Unit).Completes (serve env)
        (World.AgreesIn kinds start) fun _ => True := by
  intro world hworld
  refine ⟨(), _, run_deleteIfFound_of_none (henv _ _), trivial, ?_⟩
  intro other hother
  have hsame := hworld other hother
  by_cases hne : other = kind
  · subst hne
    have hnone := hkind hother
    rw [hnone] at hsame ⊢
    simp only [World.remove, World.advance, Function.update_self, hsame]
    rfl
  · simpa [World.remove, World.advance, Function.update_of_ne hne] using hsame

section Writes

variable (henv : env.Faultless) (hkind : kind ∉ kinds)
include henv hkind

theorem completes_prune {keeps : ObjectKey → Prop} [DecidablePred keeps] :
    (Client.prune kind options keeps :
      ClientCall Spec ActionReply Unit).Completes (serve env)
        (World.AgreesIn kinds start) fun _ => True :=
  completes_of_uses (Client.uses_prune (ApiCall.writesOnly_list _ _)
    fun _ => (ApiCall.writesOnly_delete _ _).mpr hkind)
      fun world => ⟨(), exists_run_prune henv world⟩

theorem completes_createOrUpdate [DecidableEq (Spec kind)]
    {blank : Resource (Spec kind)} {mutate : Resource (Spec kind) →
      ClientCall Spec ActionReply (Resource (Spec kind))}
    (hmutate : ∀ object before, World.AgreesIn kinds start before →
      (mutate object).Completes (serve env)
        (World.AgreesIn (kind :: kinds) before) fun _ => True) :
    (createOrUpdate kind key blank mutate).Completes (serve env)
      (World.AgreesIn kinds start) fun _ => True := by
  intro world hworld
  obtain ⟨object, between, hrun, -, hbetween⟩ := hmutate
    ((world.find kind key).getD blank) world hworld world.advance fun _ _ => rfl
  obtain ⟨after, hwritten⟩ := exists_run_createOrUpdate henv hrun
    (hbetween.find List.mem_cons_self key)
  refine ⟨object, after, hwritten, trivial, fun other hother => ?_⟩
  have hsame : between.objects other = start.objects other :=
    (hbetween other (List.mem_cons_of_mem _ hother)).trans (hworld other hother)
  obtain ⟨_, hmutated, hafter⟩ := run_createOrUpdate_eq_ok hwritten
  cases hrun.symm.trans hmutated
  rcases hafter with rfl | ⟨rfl, -⟩
  · have hne : other ≠ kind := fun heq => hkind (heq ▸ hother)
    simpa [World.put, World.advance, Function.update_of_ne hne] using hsame
  · exact hsame

theorem completes_upsert [DecidableEq (Spec kind)]
    {blank : Resource (Spec kind)}
    {change : Resource (Spec kind) → Resource (Spec kind)} :
    (upsert kind key blank change : ClientCall Spec ActionReply _).Completes
      (serve env) (World.AgreesIn kinds start) fun _ => True :=
  completes_createOrUpdate henv hkind fun _ _ _ => completes_done trivial

end Writes

/-- An object that is as it should be is not written. -/
theorem completes_upsert_of_find [DecidableEq (Spec kind)]
    (henv : env.Faultless) (hkind : kind ∈ kinds)
    {blank object : Resource (Spec kind)}
    {change : Resource (Spec kind) → Resource (Spec kind)}
    (hfind : start.find kind key = some object)
    (hsame : change object = object) :
    (upsert kind key blank change : ClientCall Spec ActionReply _).Completes
      (serve env) (World.AgreesIn kinds start) fun _ => True := by
  refine (completes_get henv kind key).bind fun reply hreply => ?_
  rw [hreply.1 hkind, World.read, hfind]
  simp only [bind_eq_bind, done_bind, hsame, if_true]
  exact completes_done trivial

end Client

end ObservabilityOperator
