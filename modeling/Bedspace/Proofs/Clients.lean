import Bedspace.Api.Action

/-!
# Clients that use one store at the same time

Several clients use one store. Each has asked for something and stands somewhere in the program
that deals with it; a step lets one of them make its next call, and the calls of others may fall
between any two of its own.

* `ServiceRequest` is what a client may ask for: any action, on any day and with any settings, or a
  booking with any links;
* `Program.Moves` is one step of a program: a call is carried out or refused, or an identifier is
  issued; `System.Step` is a step of one client or the arrival of a new one, `System.Reaches` a run,
  and `System.StepOf` a step of the client that is followed (`System.Step.client_cases`);
* `System.follow` carries out the run in which clients make their calls in a given order;
* `Program.Within` bounds a program by the calls that it can make, whatever the answers are;
* **`System.Reaches.store_invariant`**: what every allowed call preserves holds in every state of a
  run in which all requests are within the allowed calls.
-/

namespace Bedspace

/-! ## 1. Requests -/

/-- What a client asks for. -/
inductive ServiceRequest where
  | action (settings : SearchSettings) (today : Date) (action : Action)
  | linkedBooking (premises : PremisesId) (request : NewBooking) (links : BookingLinks)
      (today : Date)

namespace ServiceRequest

/-- The operation that deals with a request. -/
def operation : ServiceRequest → Operation ActionError Reply
  | .action settings today wanted => wanted.perform settings today
  | .linkedBooking premises request links today =>
    Action.replying .booking .booking (Bookings.create premises request links today)

/-- The program that deals with a request, down to its reply or error. -/
def program (request : ServiceRequest) : Program (Except ActionError Reply) :=
  ExceptT.run request.operation

end ServiceRequest

/-! ## 2. Steps and runs -/

namespace Program

/-- **One step of a program** over a world: its next call is carried out, or refused before it
    reaches the store, or an identifier is issued. -/
inductive Moves {α : Type} : Program α → World → World → Program α → Prop where
  | call {world : World} (c : Call) (next : Except StoreError c.Answer → Program α) :
      Moves (.call c next) world { world with store := (c.perform world.store).2 }
        (next (c.perform world.store).1)
  | refused {world : World} (c : Call) (next : Except StoreError c.Answer → Program α)
      (e : StoreError) : Moves (.call c next) world world (next (.error e))
  | issue {world : World} (kind : Kind) (next : Id kind → Program α) :
      Moves (.issue kind next) world (world.afterIssue kind) (next (world.nextId kind))

/-- The step of a program whose call is not refused. A program that has ended stays as it is. -/
def proceed {α : Type} : Program α → World → Program α × World
  | done a, world => (done a, world)
  | call c next, world =>
    (next (c.perform world.store).1, { world with store := (c.perform world.store).2 })
  | issue kind next, world => (next (world.nextId kind), world.afterIssue kind)

theorem proceed_cases {α : Type} (p : Program α) (world : World) :
    p.proceed world = (p, world) ∨
      p.Moves world (p.proceed world).2 (p.proceed world).1 := by
  cases p with
  | done a => exact .inl rfl
  | call c next => exact .inr (.call c next)
  | issue kind next => exact .inr (.issue kind next)

end Program

/-- The world and the programs of all clients, as far as they have got. -/
structure System where
  world : World
  clients : List (Program (Except ActionError Reply))

namespace System

/-- A world that no client uses yet. -/
def idle (world : World) : System := ⟨world, []⟩

/-- **One step of the clients**: a new one arrives, or one of them moves. -/
inductive Step : System → System → Prop where
  | arrive (s : System) (request : ServiceRequest) :
      Step s { s with clients := s.clients ++ [request.program] }
  | move (s : System) (i : Nat) (p p' : Program (Except ActionError Reply)) (world' : World)
      (hi : s.clients[i]? = some p) (hp : p.Moves s.world world' p') :
      Step s ⟨world', s.clients.set i p'⟩

/-- **A step of one of the clients**, which is known by its number. -/
inductive StepOf (i : Nat) : System → System → Prop where
  | move (s : System) (p p' : Program (Except ActionError Reply)) (world' : World)
      (hi : s.clients[i]? = some p) (hp : p.Moves s.world world' p') :
      StepOf i s ⟨world', s.clients.set i p'⟩

/-- The states that the clients reach. -/
inductive Reaches (s₀ : System) : System → Prop where
  | start : Reaches s₀ s₀
  | step (s t : System) (h : Reaches s₀ s) (hs : Step s t) : Reaches s₀ t

theorem StepOf.step {s t : System} {i : Nat} (h : StepOf i s t) : Step s t := by
  cases h with
  | move p p' world' hi hp => exact .move s i p p' world' hi hp

/-- A step leaves a client where it is, or is its own. -/
theorem Step.client_cases {s t : System} (h : Step s t) {i : Nat}
    {q : Program (Except ActionError Reply)} (hi : s.clients[i]? = some q) :
    t.clients[i]? = some q ∨ StepOf i s t := by
  obtain ⟨hlt, _⟩ := List.getElem?_eq_some_iff.1 hi
  cases h with
  | arrive request => exact .inl ((List.getElem?_append_left hlt).trans hi)
  | move j p p' world' hj hp =>
    by_cases hij : j = i
    · subst hij
      exact .inr (.move s p p' world' hj hp)
    · exact .inl ((List.getElem?_set_ne hij).trans hi)

/-- A client that has ended stays as it is. -/
theorem Step.done {s t : System} (h : Step s t) {i : Nat} {result : Except ActionError Reply}
    (hi : s.clients[i]? = some (.done result)) : t.clients[i]? = some (.done result) := by
  refine (h.client_cases hi).resolve_right fun hown => ?_
  cases hown with
  | move p p' world' hi' hp =>
    cases Option.some.inj (hi.symm.trans hi')
    cases hp

theorem Reaches.done {s t : System} (h : s.Reaches t) {i : Nat} {result : Except ActionError Reply}
    (hi : s.clients[i]? = some (.done result)) : t.clients[i]? = some (.done result) := by
  induction h with
  | start => exact hi
  | step t u _ hs ih => exact hs.done ih

/-- The state in which some clients have just arrived. -/
def arrived (world : World) (requests : List ServiceRequest) : System :=
  ⟨world, requests.map ServiceRequest.program⟩

/-- Lets a client make its next call, which is carried out. -/
def advance (s : System) (i : Nat) : System :=
  match s.clients[i]? with
  | none => s
  | some p => ⟨(p.proceed s.world).2, s.clients.set i (p.proceed s.world).1⟩

/-- Lets clients make their calls in the order of a schedule. -/
def follow (s : System) (schedule : List Nat) : System := schedule.foldl advance s

theorem reaches_arrived (world : World) (requests : List ServiceRequest) :
    (idle world).Reaches (arrived world requests) := by
  have h : ∀ (s₀ : System) (ps : List (Program (Except ActionError Reply))),
      s₀.Reaches ⟨world, ps⟩ → s₀.Reaches ⟨world, ps ++ requests.map ServiceRequest.program⟩ := by
    intro s₀
    induction requests with
    | nil => exact fun ps h => (List.append_nil ps).symm ▸ h
    | cons request requests ih =>
      intro ps h
      rw [List.map_cons, List.append_cons]
      exact ih _ (.step _ _ h (.arrive ⟨world, ps⟩ request))
  exact h (idle world) [] .start

theorem stepOf_advance (s : System) (i : Nat) : s.advance i = s ∨ StepOf i s (s.advance i) := by
  unfold advance
  split
  · exact .inl rfl
  · rename_i p hi
    rcases p.proceed_cases s.world with e | hp
    · obtain ⟨hlt, rfl⟩ := List.getElem?_eq_some_iff.1 hi
      rw [e, List.set_getElem_self hlt]
      exact .inl rfl
    · exact .inr (.move s p _ _ hi hp)

theorem reaches_advance {s₀ s : System} (h : s₀.Reaches s) (i : Nat) :
    s₀.Reaches (s.advance i) := by
  rcases s.stepOf_advance i with e | hown
  · exact e.symm ▸ h
  · exact .step _ _ h hown.step

/-- **Whatever the schedule, following it is a run.** -/
theorem reaches_follow {s₀ s : System} (h : s₀.Reaches s) (schedule : List Nat) :
    s₀.Reaches (s.follow schedule) := by
  induction schedule generalizing s with
  | nil => exact h
  | cons i schedule ih => exact ih (reaches_advance h i)

end System

/-! ## 3. The calls a program can make -/

namespace Program

variable {α β : Type} {allowed : Call → Prop}

/-- **Every call that a program can make is allowed and every result satisfies `ends`**, from
    whatever stores the answers to its calls come. -/
def Within (allowed : Call → Prop) (ends : α → Prop) : Program α → Prop
  | done a => ends a
  | call c next =>
    allowed c ∧ (∀ store, (next (c.perform store).1).Within allowed ends) ∧
      ∀ e, (next (.error e)).Within allowed ends
  | issue kind next => ∀ n, (next (.numbered kind n)).Within allowed ends

/-- The calls that remain to be made after a step are among the ones before it. -/
theorem Within.moves {ends : α → Prop} {p p' : Program α} {world world' : World}
    (hp : p.Within allowed ends) (h : p.Moves world world' p') : p'.Within allowed ends := by
  cases h with
  | call c next => exact hp.2.1 _
  | refused c next e => exact hp.2.2 e
  | issue kind next => exact hp _

end Program

/-! ## 4. What a run preserves -/

namespace System

variable {allowed : Call → Prop}

/-- Every client is within the allowed calls. -/
def Within (allowed : Call → Prop) (s : System) : Prop :=
  ∀ p ∈ s.clients, p.Within allowed fun _ => True

theorem within_step {s t : System}
    (hreq : ∀ request : ServiceRequest, request.program.Within allowed fun _ => True)
    (hs : s.Within allowed) (h : Step s t) : t.Within allowed := by
  intro q hq
  cases h with
  | arrive request =>
    rcases List.mem_append.1 hq with hq | hq
    · exact hs q hq
    · exact List.mem_singleton.1 hq ▸ hreq request
  | move i p p' world' hi hp =>
    rcases List.mem_or_eq_of_mem_set hq with hq | rfl
    · exact hs q hq
    · exact (hs p (List.mem_of_getElem? hi)).moves hp

/-- A step of the clients changes the store by an allowed call or not at all. -/
theorem store_step {s t : System} (hs : s.Within allowed) (h : Step s t) :
    t.world.store = s.world.store ∨
      ∃ c, allowed c ∧ t.world.store = (c.perform s.world.store).2 := by
  cases h with
  | arrive request => exact .inl rfl
  | move i p p' world' hi hp =>
    have hw := hs p (List.mem_of_getElem? hi)
    cases hp with
    | call c next => exact .inr ⟨c, hw.1, rfl⟩
    | refused c next e => exact .inl rfl
    | issue kind next => exact .inl rfl

theorem within_reaches {s₀ s : System}
    (hreq : ∀ request : ServiceRequest, request.program.Within allowed fun _ => True)
    (h₀ : s₀.Within allowed) (h : s₀.Reaches s) : s.Within allowed := by
  induction h with
  | start => exact h₀
  | step s t _ hs ih => exact within_step hreq ih hs

/-- **What every allowed call preserves holds in every state of a run** from a world that no client
    uses yet. -/
theorem Reaches.store_invariant {Inv : Store → Prop} {world : World} {s : System}
    (hcall : ∀ store c, Inv store → allowed c → Inv (c.perform store).2)
    (hreq : ∀ request : ServiceRequest, request.program.Within allowed fun _ => True)
    (h₀ : Inv world.store) (h : (idle world).Reaches s) : Inv s.world.store := by
  induction h with
  | start => exact h₀
  | step s t hr hs ih =>
    have hw : s.Within allowed := within_reaches hreq (fun _ hp => absurd hp List.not_mem_nil) hr
    rcases store_step hw hs with e | ⟨c, hc, e⟩
    · exact e ▸ ih
    · exact e ▸ hcall _ c ih hc

end System

end Bedspace
