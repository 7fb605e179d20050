import Bedspace.Proofs.Cascade.Throughout
import Bedspace.Proofs.Loading

/-!
# Runs in which clients only ask for actions

No action lets a client choose the links of a booking: it names a placement request, and the service
takes the links from the tree in which it has found it. So where clients ask for actions only, bookings
are linked to what is stored, in whatever order their calls come.

* `System.ReachesActing` is a run of such clients, with estates loaded in between; it is a run as
  `System.ReachesLoading` has it (`System.ReachesActing.reachesLoading`), and carrying an action out
  alone belongs to it (`System.ReachesActing.serve`);
* `Program.BooksOffered`: what a client may still book is on offer;
* **`System.ReachesActing.invariant`**: what loads preserve, and due calls that book only what is on
  offer, holds in every state.
-/

namespace Bedspace

/-! ## 1. Runs -/

namespace System

/-- The state after a client has come with an action. -/
def ask (s : System) (settings : SearchSettings) (today : Date) (wanted : Action) : System :=
  { s with clients := s.clients ++ [(ServiceRequest.action settings today wanted).program] }

/-- **The states that clients reach who ask for actions**, while estates are loaded. -/
inductive ReachesActing (s₀ : System) : System → Prop where
  | start : ReachesActing s₀ s₀
  | ask (s : System) (settings : SearchSettings) (today : Date) (wanted : Action)
      (h : ReachesActing s₀ s) : ReachesActing s₀ (s.ask settings today wanted)
  | move (s : System) (i : Nat) (p p' : Program (Except ActionError Reply)) (world' : World)
      (h : ReachesActing s₀ s) (hi : s.clients[i]? = some p) (hp : p.Moves s.world world' p') :
      ReachesActing s₀ ⟨world', s.clients.set i p'⟩
  | load (s : System) (c : Call) (h : ReachesActing s₀ s) (hc : c.Loads) :
      ReachesActing s₀ (s.load c)

namespace ReachesActing

variable {s₀ s t : System}

theorem reachesLoading (h : s₀.ReachesActing s) : s₀.ReachesLoading s := by
  induction h with
  | start => exact .start
  | ask s settings today wanted _ ih =>
    exact .step s _ ih (.arrive s (.action settings today wanted))
  | move s i p p' world' _ hi hp ih => exact .step s _ ih (.move s i p p' world' hi hp)
  | load s c _ hc ih => exact .load s c ih hc

theorem trans (h : s₀.ReachesActing s) (h' : s.ReachesActing t) : s₀.ReachesActing t := by
  induction h' with
  | start => exact h
  | ask s settings today wanted _ ih => exact .ask s settings today wanted ih
  | move s i p p' world' _ hi hp ih => exact .move s i p p' world' ih hi hp
  | load s c _ hc ih => exact .load s c ih hc

/-- What one client gets to by its own steps belongs to the run. -/
theorem leads {i : Nat} {p p' : Program (Except ActionError Reply)} {world' : World}
    (h : s₀.ReachesActing s) (hi : s.clients[i]? = some p) (hp : p.Leads s.world p' world') :
    s₀.ReachesActing ⟨world', s.clients.set i p'⟩ := by
  obtain ⟨hlt, rfl⟩ := List.getElem?_eq_some_iff.1 hi
  induction hp with
  | start => rwa [List.set_getElem_self hlt]
  | step q q' w w' _ hq ih =>
    have hmoved := ReachesActing.move _ i q q' w' ih (List.getElem?_set_self hlt) hq
    rwa [List.set_set] at hmoved

/-- The client that has come last. -/
theorem getElem?_ask {settings : SearchSettings} {today : Date} {wanted : Action} :
    (s.ask settings today wanted).clients[s.clients.length]? =
      some (ServiceRequest.action settings today wanted).program := by
  unfold System.ask
  rw [List.getElem?_append_right (Nat.le_refl _), Nat.sub_self, List.getElem?_singleton,
    if_pos rfl]

/-- A client was there before, or has come last. -/
theorem getElem?_ask_cases {settings : SearchSettings} {today : Date} {wanted : Action} {i : Nat}
    {p : Program (Except ActionError Reply)}
    (hi : (s.ask settings today wanted).clients[i]? = some p) :
    i < s.clients.length ∧ s.clients[i]? = some p ∨
      i = s.clients.length ∧ p = (ServiceRequest.action settings today wanted).program := by
  by_cases hlt : i < s.clients.length
  · unfold System.ask at hi
    rw [List.getElem?_append_left hlt] at hi
    exact .inl ⟨hlt, hi⟩
  · have hlast : i = s.clients.length := by
      obtain ⟨hbound, _⟩ := List.getElem?_eq_some_iff.1 hi
      unfold System.ask at hbound
      rw [List.length_append, List.length_singleton] at hbound
      omega
    rw [hlast, getElem?_ask] at hi
    exact .inr ⟨hlast, (Option.some.inj hi).symm⟩

/-- **An action that is carried out alone**, with any faults, belongs to the run. -/
theorem serve (h : s₀.ReachesActing s) (faults : Faults) (settings : SearchSettings) (today : Date)
    (wanted : Action) : s₀.ReachesActing (s.serve faults (.action settings today wanted)) := by
  have hasked := ReachesActing.ask s settings today wanted h
  have hserved := hasked.leads getElem?_ask (Program.leads_run faults _ s.world)
  unfold System.ask at hserved
  rwa [List.set_append_right _ _ (Nat.le_refl _), Nat.sub_self, List.set_cons_zero] at hserved

end ReachesActing

/-- The state after actions are carried out alone, one after the other. -/
def serveAll (s : System) (wanted : List Action) : System :=
  wanted.foldl (fun s wanted => s.serve .none (.action .default .first wanted)) s

theorem ReachesActing.serveAll {s₀ s : System} (h : s₀.ReachesActing s) (wanted : List Action) :
    s₀.ReachesActing (s.serveAll wanted) := by
  induction wanted generalizing s with
  | nil => exact h
  | cons first wanted ih => exact ih (h.serve .none .default .first first)

end System

/-! ## 2. What may still be booked -/

/-- **A program books only what is on offer**: of the rights that it has, those to make a booking with
    links are for links on offer. -/
def Program.BooksOffered (p : Program (Except ActionError Reply)) (store : Store) : Prop :=
  ∃ held, p.Rightful Call.Served (fun _ _ => True) held ∧
    ∀ links, Right.booking links ∈ held → store.Offers links

/-- **A due call that makes no booking but one on offer.** -/
structure Call.Offered (world : World) (c : Call) : Prop where
  due : c.Due world
  offers : ∀ links, Right.booking links ∈ c.needs → world.store.Offers links

/-- The links that a client may book after a call are on offer. -/
theorem Call.offers_of_mem_leaves {store : Store} {c : Call} {a : c.Answer}
    (ha : (c.perform store).1 = .ok a) {held : Set Right}
    (hheld : ∀ links, Right.booking links ∈ held → store.Offers links) {links : BookingLinks}
    (h : Right.booking links ∈ c.leaves held a) : (c.perform store).2.Offers links := by
  rcases mem_leaves_cases ha h with ⟨hreads, hold⟩ | ⟨_, _, _, hallocation⟩
  · rw [perform_of_reads hreads]
    rcases hold with hold | ⟨id, tree, htree, r, hr, e⟩
    · exact hheld links hold
    · -- the tree was read just now, so its placement requests are stored
      obtain ⟨_, hstored⟩ := Store.stores_of_tree? htree
      obtain ⟨hrow, hown⟩ := hstored.mem_requests.1 hr
      obtain rfl := Right.booking.inj e
      exact ⟨r, hrow, by rw [hown]⟩
  · cases hallocation

namespace Program.BooksOffered

variable {p p' : Program (Except ActionError Reply)} {world world' : World}

theorem of_action (settings : SearchSettings) (today : Date) (wanted : Action) (store : Store) :
    (ServiceRequest.action settings today wanted).program.BooksOffered store :=
  ⟨∅, (ServiceRequest.action settings today wanted).rightful,
    fun _ h => absurd h (Set.notMem_empty _)⟩

theorem revised {store store' : Store} {c : Call} (h : p.BooksOffered store)
    (hc : store.RevisedBy c store') : p.BooksOffered store' := by
  obtain ⟨held, hp, hheld⟩ := h
  exact ⟨held, hp, fun links hlinks => hc.offers (hheld links hlinks)⟩

/-- A step of a program that books only what is on offer. -/
theorem move (h : p.BooksOffered world.store) (hp : p.Moves world world' p') :
    p'.BooksOffered world'.store := by
  obtain ⟨held, hrightful, hheld⟩ := h
  cases hp with
  | call c next =>
    obtain ⟨_, hok, herror⟩ := hrightful
    cases hans : (c.perform world.store).1 with
    | ok a =>
      exact ⟨c.leaves held a, hok _ a hans, fun _ => Call.offers_of_mem_leaves hans hheld⟩
    | error e =>
      rw [Call.perform_error hans]
      exact ⟨held, herror e, hheld⟩
  | refused c next e => exact ⟨held, hrightful.2.2 e, hheld⟩
  | issue kind next =>
    refine ⟨_, hrightful _, ?_⟩
    rintro links (hissued | hlinks)
    · cases hissued
    · exact hheld links hlinks

/-- The call that such a program is about to make. -/
theorem offers {c : Call} {next : Except StoreError c.Answer → Program (Except ActionError Reply)}
    {store : Store} (h : (Program.call c next).BooksOffered store) {links : BookingLinks}
    (hlinks : Right.booking links ∈ c.needs) : store.Offers links := by
  obtain ⟨held, ⟨⟨_, hneeds⟩, _⟩, hheld⟩ := h
  exact hheld links (hneeds hlinks)

end Program.BooksOffered

/-! ## 3. What holds in every state -/

namespace System.ReachesActing

variable {world : World} {s : System}

theorem entrusted (h₀ : world.Sound) (h : (idle world).ReachesActing s) :
    ∃ held, s.Entrusted held :=
  h.reachesLoading.entrusted (entrusted_idle h₀)

/-- **All clients book only what is on offer.** -/
theorem booksOffered (h₀ : world.Sound) (h : (idle world).ReachesActing s) :
    ∀ p ∈ s.clients, p.BooksOffered s.world.store := by
  induction h with
  | start => exact fun p hp => absurd hp List.not_mem_nil
  | ask s settings today wanted _ ih =>
    intro p hp
    rcases List.mem_append.1 hp with hp | hp
    · exact ih p hp
    · obtain rfl := List.mem_singleton.1 hp
      exact .of_action settings today wanted s.world.store
  | move s i p p' world' hr hi hp ih =>
    intro q hq
    rcases List.mem_or_eq_of_mem_set hq with hq | rfl
    · obtain ⟨held, hheld⟩ := hr.entrusted h₀
      rcases hheld.due_step (.move s i p p' world' hi hp) with e | ⟨c, hc, e⟩
      · rw [e]
        exact ih q hq
      · rw [e]
        exact (ih q hq).revised hc.revisedBy
    · exact (ih p (List.mem_of_getElem? hi)).move hp
  | load s c _ hc ih => exact fun p hp => (ih p hp).revised (hc.revisedBy s.world.store)

/-- The call that a client is about to make is due and books only what is on offer. -/
theorem offered (h₀ : world.Sound) (h : (idle world).ReachesActing s) {i : Nat} {c : Call}
    {next : Except StoreError c.Answer → Program (Except ActionError Reply)}
    (hi : s.clients[i]? = some (.call c next)) : c.Offered s.world := by
  obtain ⟨held, hheld⟩ := h.entrusted h₀
  have hoffered := h.booksOffered h₀ _ (List.mem_of_getElem? hi)
  exact ⟨hheld.due hi, fun _ => hoffered.offers⟩

/-- A step of a client leaves the store as it was, or carries out such a call. -/
theorem offered_move (h₀ : world.Sound) (h : (idle world).ReachesActing s) {i : Nat}
    {p p' : Program (Except ActionError Reply)} {world' : World} (hi : s.clients[i]? = some p)
    (hp : p.Moves s.world world' p') :
    world'.store = s.world.store ∨
      ∃ c : Call, c.Offered s.world ∧ world'.store = (c.perform s.world.store).2 := by
  cases hp with
  | call c next => exact .inr ⟨c, h.offered h₀ hi, rfl⟩
  | refused c next e => exact .inl rfl
  | issue kind next => exact .inl rfl

/-- **What loads preserve, and due calls that book only what is on offer**, holds in every state. -/
theorem invariant {Inv : Store → Prop} (h₀ : world.Sound) (h : (idle world).ReachesActing s)
    (hcall : ∀ (world : World) (c : Call), c.Offered world → Inv world.store →
      Inv (c.perform world.store).2)
    (hload : ∀ (store : Store) (c : Call), c.Loads → Inv store → Inv (c.perform store).2)
    (hinv : Inv world.store) : Inv s.world.store := by
  induction h with
  | start => exact hinv
  | ask s settings today wanted _ ih => exact ih
  | move s i p p' world' hr hi hp ih =>
    rcases hr.offered_move h₀ hi hp with e | ⟨c, hc, e⟩
    · exact e ▸ ih
    · exact e ▸ hcall s.world c hc ih
  | load s c _ hc ih => exact hload s.world.store c hc ih

end System.ReachesActing

end Bedspace
