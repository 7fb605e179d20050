import Bedspace.Proofs.Entitlement

/-!
# Requests in turn

One request is dealt with after the other, and nothing else happens meanwhile. Any call may be
refused, and dealing with a request may break off anywhere.

* `Program.Leads` is any number of steps of one program, `World.Serves` the worlds that actions lead
  to in turn; carrying actions out one after the other, with faults, is a case of it
  (`World.Serves.afterAll`);
* `System.serve` carries one request out alone while other clients stay where they are, which is
  part of a run as well (`System.reaches_serve`);
* a right says more in turn (`Right.Secure`): the application to be allocated to is still submitted,
  and the placement request to be booked is there with its application;
* **`World.Serves.secure_invariant`**: what due calls with such rights preserve holds in every world
  that is served.
-/

namespace Bedspace

/-! ## 1. Running alone -/

namespace Program

variable {α : Type}

/-- **The points to which a program can get** from a world by its own steps. -/
inductive Leads (p₀ : Program α) (w₀ : World) : Program α → World → Prop where
  | start : Leads p₀ w₀ p₀ w₀
  | step (p p' : Program α) (w w' : World) (h : Leads p₀ w₀ p w) (hp : p.Moves w w' p') :
      Leads p₀ w₀ p' w'

theorem Leads.head {p₀ p₁ p : Program α} {w₀ w₁ w : World} (h₀ : p₀.Moves w₀ w₁ p₁)
    (h : p₁.Leads w₁ p w) : p₀.Leads w₀ p w := by
  induction h with
  | start => exact .step p₀ p₁ w₀ w₁ .start h₀
  | step p p' w w' _ hp ih => exact .step p p' w w' ih hp

/-- **Carrying a program out, whatever methods are out of order**, gets it to its end. -/
theorem leads_run (faults : Faults) (p : Program α) (w : World) :
    p.Leads w (.done (p.run faults w).1) (p.run faults w).2 := by
  induction p generalizing w with
  | done a => exact .start
  | issue kind next ih => exact .head (.issue kind next) (ih (w.nextId kind) (w.afterIssue kind))
  | call c next ih =>
    unfold run answer
    cases faults c.method with
    | some e => exact .head (.refused c next e) (ih (.error e) w)
    | none => exact .head (.call c next) (ih _ _)

end Program

namespace System

/-- What one client gets to by its own steps belongs to the run of all of them. -/
theorem reaches_leads {s₀ s : System} {i : Nat} {p p' : Program (Except ActionError Reply)}
    {w' : World} (h : s₀.Reaches s) (hi : s.clients[i]? = some p) (hp : p.Leads s.world p' w') :
    s₀.Reaches ⟨w', s.clients.set i p'⟩ := by
  obtain ⟨hlt, rfl⟩ := List.getElem?_eq_some_iff.1 hi
  induction hp with
  | start => rwa [List.set_getElem_self hlt]
  | step q q' w w' _ hq ih =>
    have hmoved := Reaches.step _ _ ih
      (.move ⟨w, s.clients.set i q⟩ i q q' w' (List.getElem?_set_self hlt) hq)
    rwa [List.set_set] at hmoved

/-- The state after the request of a new client is carried out alone, whatever methods are out of
    order, while the others stay where they are. -/
def serve (s : System) (faults : Faults) (request : ServiceRequest) : System :=
  ⟨(request.program.run faults s.world).2,
    s.clients ++ [.done (request.program.run faults s.world).1]⟩

theorem reaches_serve {s₀ s : System} (h : s₀.Reaches s) (faults : Faults)
    (request : ServiceRequest) : s₀.Reaches (s.serve faults request) := by
  have harrived := Reaches.step _ _ h (.arrive s request)
  have hlast : (s.clients ++ [request.program])[s.clients.length]? = some request.program := by
    rw [List.getElem?_append_right (Nat.le_refl _), Nat.sub_self, List.getElem?_singleton,
      if_pos rfl]
  have hrun := reaches_leads harrived hlast (Program.leads_run faults request.program s.world)
  rwa [List.set_append_right _ _ (Nat.le_refl _), Nat.sub_self, List.set_cons_zero] at hrun

end System

/-- **The worlds to which actions lead in turn.** -/
inductive World.Serves (w₀ : World) : World → Prop where
  | start : Serves w₀ w₀
  | action (w w' : World) (settings : SearchSettings) (today : Date) (wanted : Action)
      (p : Program (Except ActionError Reply)) (h : Serves w₀ w)
      (hp : (ServiceRequest.action settings today wanted).program.Leads w p w') : Serves w₀ w'

/-- The world after an action is carried out. -/
def World.after (w : World) (faults : Faults) (today : Date) (wanted : Action) : World :=
  ((wanted.perform .default today).run faults w).2

/-- The world after actions are carried out in turn on one day, each with its own faults. -/
def World.afterAll (w : World) (today : Date) (wanted : List (Faults × Action)) : World :=
  wanted.foldl (fun w next => w.after next.1 today next.2) w

namespace World.Serves

variable {w₀ w : World} {today : Date}

/-- Carrying an action out, with any faults, serves it. -/
theorem after (h : w₀.Serves w) (faults : Faults) (wanted : Action) :
    w₀.Serves (w.after faults today wanted) :=
  .action w _ .default today wanted _ h (Program.leads_run faults _ w)

theorem afterAll (h : w₀.Serves w) (wanted : List (Faults × Action)) :
    w₀.Serves (w.afterAll today wanted) := by
  induction wanted generalizing w with
  | nil => exact h
  | cons next wanted ih => exact ih (h.after next.1 next.2)

end World.Serves

/-! ## 2. What rights say in turn -/

/-- **What a right says if nobody else has come in between.** -/
def Right.Secure (store : Store) : Right → Prop
  | .issued _ _ => True
  | .allocation id => ∃ a ∈ store.applications.rows, a.id = id ∧ a.status = .submitted
  | .booking links => ∃ r ∈ store.placementRequests.rows, links = ⟨some r.applicationId, some r.id⟩

/-- The rights in hand after a call say so. -/
theorem Call.secure_leaves {store : Store} {c : Call} {a : c.Answer}
    (ha : (c.perform store).1 = .ok a) {held : Set Right}
    (hheld : ∀ right ∈ held, right.Secure store) :
    ∀ right ∈ c.leaves held a, right.Secure (c.perform store).2 := by
  intro right hright
  rcases mem_leaves_cases ha hright with ⟨hreads, hold⟩ | ⟨id, on, rfl, rfl⟩
  · rw [perform_of_reads hreads]
    rcases hold with hold | ⟨id, tree, htree, r, hr, rfl⟩
    · exact hheld right hold
    · obtain ⟨_, hstored⟩ := Store.stores_of_tree? htree
      obtain ⟨hrow, hown⟩ := hstored.mem_requests.1 hr
      exact ⟨r, hrow, by rw [hown]⟩
  · obtain ⟨current, hfind, _, e⟩ := perform_markSubmitted ha
    obtain ⟨_, hid⟩ := store.applications.find?_eq_some_iff.1 hfind
    rw [e]
    exact ⟨_, Table.mem_place_self _ _, congrArg Id.mk hid, rfl⟩

/-- **A step of a program that is alone** is rightful again, and writes by a due call with secure
    rights if it writes. -/
theorem Program.Rightful.move {α : Type} {ends : α → Set Right → Prop} {p p' : Program α}
    {world world' : World} {held : Set Right} (hs : world.Sound)
    (hp : p.Rightful Call.Served ends held)
    (hheld : ∀ right ∈ held, right.Valid world ∧ right.Secure world.store)
    (h : p.Moves world world' p') :
    (∃ held', p'.Rightful Call.Served ends held' ∧
      ∀ right ∈ held', right.Valid world' ∧ right.Secure world'.store) ∧
    world'.Sound ∧
    (world'.store = world.store ∨
      ∃ c : Call, c.Due world ∧ (∀ right ∈ c.needs, right.Secure world.store) ∧
        world'.store = (c.perform world.store).2) := by
  cases h with
  | call c next =>
    obtain ⟨⟨hserved, hneeds⟩, hok, herror⟩ := hp
    have hdue : c.Due world := ⟨hserved, fun right hright => (hheld right (hneeds hright)).1⟩
    refine ⟨?_, hs.perform hdue, .inr ⟨c, hdue, ?_, rfl⟩⟩
    · cases hans : (c.perform world.store).1 with
      | ok a =>
        refine ⟨_, hok _ a hans, fun right hright => ⟨?_, ?_⟩⟩
        · exact Call.valid_leaves hs hans (fun right hr => (hheld right hr).1) right hright
        · exact Call.secure_leaves hans (fun right hr => (hheld right hr).2) right hright
      | error e =>
        rw [Call.perform_error hans]
        exact ⟨held, herror e, hheld⟩
    · exact fun right hright => (hheld right (hneeds hright)).2
  | refused c next e => exact ⟨⟨held, hp.2.2 e, hheld⟩, hs, .inl rfl⟩
  | issue kind next =>
    refine ⟨⟨_, hp _, ?_⟩, hs.afterIssue kind, .inl rfl⟩
    rintro right (rfl | hright)
    · exact ⟨hs.valid_nextId kind, trivial⟩
    · exact ⟨(hheld right hright).1.afterIssue kind, (hheld right hright).2⟩

/-- **What due calls with secure rights preserve holds in every world that actions lead to in
    turn.** -/
theorem World.Serves.secure_invariant {Inv : Store → Prop}
    (hcall : ∀ (world : World) (c : Call), world.Sound → c.Due world →
      (∀ right ∈ c.needs, right.Secure world.store) → Inv world.store →
      Inv (c.perform world.store).2)
    {w₀ w : World} (h₀ : w₀.Sound) (hinv : Inv w₀.store) (h : w₀.Serves w) :
    w.Sound ∧ Inv w.store := by
  induction h with
  | start => exact ⟨h₀, hinv⟩
  | action w w' settings today wanted p _ hp ih =>
    -- with the world, the rights of the program are followed from point to point
    suffices h : (∃ held, p.Rightful Call.Served (fun _ _ => True) held ∧
        ∀ right ∈ held, right.Valid w' ∧ right.Secure w'.store) ∧ w'.Sound ∧ Inv w'.store from h.2
    induction hp with
    | start =>
      refine ⟨⟨∅, (ServiceRequest.action settings today wanted).rightful, ?_⟩, ih⟩
      exact fun right hright => absurd hright (Set.notMem_empty right)
    | step p p' w₁ w₂ _ hmove ihp =>
      obtain ⟨⟨held, hp, hheld⟩, hs, hinv⟩ := ihp
      obtain ⟨hnext, hs', hstore⟩ := hp.move hs hheld hmove
      refine ⟨hnext, hs', ?_⟩
      rcases hstore with e | ⟨c, hdue, hsecure, e⟩
      · exact e ▸ hinv
      · exact e ▸ hcall w₁ c hs hdue hsecure hinv

end Bedspace
