import Bedspace.Proofs.Requests
import Bedspace.Proofs.Writes

/-!
# Rights that hold good

In a run that starts with a store nobody has used, the rights that the clients have in hand hold
good: an identifier that was issued names no record yet, and an application that was submitted has no
assessment yet. No two clients have the same one, so a write of one client takes none away from the
others.

* `Right.Valid` says when a right holds good, `World.Sound` what identifiers and assessments have to
  satisfy for that; `Call.Due` is a call that the services make with such rights;
* **`Call.Due.revisedBy`**: a due call keeps every record, changed in one way at most, and adds only
  new ones under identifiers that were free;
* **`System.Reaches.due_step`**: in a run, whatever is written is written by a due call;
  `System.Reaches.due_invariant` turns this into the rule for what holds in every state.
-/

namespace Bedspace

/-! ## 1. When a right holds good -/

/-- Whether a record of a kind that is issued identifiers is stored under one. -/
def Store.holds (store : Store) : (kind : Kind) → Id kind → Prop
  | .booking, id => ∃ b ∈ store.bookings.rows, b.id = id
  | .outOfService, id => ∃ p ∈ store.outOfService.rows, p.id = id
  | .application, id => ∃ a ∈ store.applications.rows, a.id = id
  | .assessment, id => ∃ a ∈ store.assessments.rows, a.id = id
  | .placementApplication, id => ∃ p ∈ store.placementApplications.rows, p.id = id
  | .placementRequest, id => ∃ r ∈ store.placementRequests.rows, r.id = id
  | .premises, _ => False
  | .room, _ => False
  | .bed, _ => False

/-- **Whether a right holds good.** Links may be given to a booking by anybody. -/
def Right.Valid (world : World) : Right → Prop
  | .issued kind id =>
    (∃ n ≤ world.issued kind, id = .numbered kind n) ∧ ¬ world.store.holds kind id
  | .allocation id =>
    (∃ a ∈ world.store.applications.rows, a.id = id ∧ a.status ≠ .inProgress) ∧
      ∀ a ∈ world.store.assessments.rows, a.applicationId ≠ id
  | .booking _ => True

/-- Whether a right is good for one client only. -/
def Right.IsSingle : Right → Prop
  | .booking _ => False
  | _ => True

/-- **What keeps rights good**: no record has a number that is still to be issued, and only
    applications that were submitted are assessed. -/
structure World.Sound (world : World) : Prop where
  issued : ∀ kind n, world.store.holds kind (.numbered kind n) → n ≤ world.issued kind
  assessed : ∀ x ∈ world.store.assessments.rows,
    ∃ a ∈ world.store.applications.rows, a.id = x.applicationId ∧ a.status ≠ .inProgress

/-- **A call that the services make with rights that hold good.** -/
structure Call.Due (world : World) (c : Call) : Prop where
  served : c.Served
  rights : ∀ right ∈ c.needs, right.Valid world

/-- A store that nobody has used: there may be an estate, and nothing else. -/
structure Store.Unused (store : Store) : Prop where
  bookings : store.bookings.rows = []
  outOfService : store.outOfService.rows = []
  applications : store.applications.rows = []
  assessments : store.assessments.rows = []
  placementApplications : store.placementApplications.rows = []
  placementRequests : store.placementRequests.rows = []

theorem Store.unused_empty : empty.Unused :=
  ⟨rfl, rfl, rfl, rfl, rfl, rfl⟩

theorem World.le_issued_afterIssue (world : World) (kind k : Kind) :
    world.issued k ≤ (world.afterIssue kind).issued k := by
  unfold World.afterIssue
  dsimp only
  split
  · exact Nat.le_succ _
  · exact Nat.le_refl _

/-- No application that is still in progress was submitted. -/
theorem Store.not_submitted_of_inProgress {store : Store} {a : Application} {id : ApplicationId}
    (ha : a ∈ store.applications.rows) (hid : a.id = id) (hstatus : a.status = .inProgress) :
    ¬ ∃ b ∈ store.applications.rows, b.id = id ∧ b.status ≠ .inProgress := by
  rintro ⟨b, hb, hb_id, hsubmitted⟩
  have hsame : b = a :=
    store.applications.key_inj_of_mem hb ha (congrArg Id.text (hb_id.trans hid.symm))
  exact hsubmitted (hsame ▸ hstatus)

theorem Store.Unused.not_holds {store : Store} (h : store.Unused) {kind : Kind} {id : Id kind} :
    ¬ store.holds kind id := by
  cases kind with
  | premises | room | bed => exact not_false
  | _ => simp [holds, h.bookings, h.outOfService, h.applications, h.assessments,
      h.placementApplications, h.placementRequests]

theorem Store.Unused.sound {world : World} (h : world.store.Unused) : world.Sound where
  issued kind n hn := absurd hn h.not_holds
  assessed x hx := by
    rw [h.assessments] at hx
    cases hx

/-! ## 2. What a due call writes -/

/-- **What may come of the records of a store by one call**: they stay, changed in one way at most,
    and what comes is new and was named with a right to do so. -/
structure Store.RevisedBy (store : Store) (c : Call) (store' : Store) : Prop where
  outOfService : Table.Revised (fun p q => q.id = p.id)
    (fun p => .issued .outOfService p.id ∈ c.needs) store.outOfService store'.outOfService
  applications : Table.Revised Application.Change
    (fun a => .issued .application a.id ∈ c.needs ∧ a.IsNew) store.applications store'.applications
  assessments : Table.Revised Assessment.Change
    (fun a => .issued .assessment a.id ∈ c.needs ∧ a.isPending = true ∧
      (.allocation a.applicationId ∈ c.needs ∨
        ∃ x ∈ store.assessments.rows, x.applicationId = a.applicationId))
    store.assessments store'.assessments
  placements : Table.Revised PlacementApplication.Change
    (fun p => .issued .placementApplication p.id ∈ c.needs ∧
      (p.isWithdrawn || p.decision.isSome) = false)
    store.placementApplications store'.placementApplications
  requests : Table.Revised PlacementRequest.Change
    (fun r => .issued .placementRequest r.id ∈ c.needs ∧ r.isWithdrawn = false)
    store.placementRequests store'.placementRequests
  bookings : Table.Revised Booking.Change
    (fun b => .issued .booking b.id ∈ c.needs ∧ Bookings.awaitingObstacle b = none ∧
      (b.links ≠ .none → .booking b.links ∈ c.needs))
    store.bookings store'.bookings

/-- What is written over a stored tree. -/
structure Store.Rewrites (store : Store) (before after : Tree) : Prop where
  application : store.applications.Rewritten (store.applications.put after.application)
    [before.application] [after.application]
  assessments : store.assessments.Rewritten (store.assessments.putAll after.assessments)
    before.assessments after.assessments
  placements : store.placementApplications.Rewritten
    (store.placementApplications.putAll after.placementApplications)
    before.placementApplications after.placementApplications
  requests : store.placementRequests.Rewritten
    (store.placementRequests.putAll after.placementRequests)
    before.placementRequests after.placementRequests
  bookings : store.bookings.Rewritten (store.bookings.putAll after.bookings)
    before.bookings after.bookings

theorem Store.RevisedBy.refl {store : Store} {c : Call} : store.RevisedBy c store where
  outOfService := .refl fun _ => rfl
  applications := .refl .same
  assessments := .refl .same
  placements := .refl .same
  requests := .refl .same
  bookings := .refl .same

theorem Right.Valid.not_contains {α : Type} [Keyed α] {table : Table α} {world : World}
    {kind : Kind} {id : Id kind} (h : (Right.issued kind id).Valid world)
    (hholds : ∀ x ∈ table.rows, key x = id.text → world.store.holds kind id) :
    table.contains id.text = false := by
  refine Bool.eq_false_iff.2 fun hthere => ?_
  obtain ⟨x, hx, e⟩ := table.contains_iff.1 hthere
  exact h.2 (hholds x hx e)

namespace Call.Due

variable {world : World}

/-- **A due call on a stored tree writes over its nodes and adds new ones.** -/
theorem rewrites {before after : Tree} (h : (Call.saveTree before after).Due world)
    (hstored : world.store.Stores before) : world.store.Rewrites before after := by
  have hrev := h.served.revises
  refine ⟨?_, ?_, ?_, ?_, ?_⟩
  · exact Table.rewritten_put hstored.application (congrArg Id.text hrev.application.id_eq)
  · refine Table.rewritten_of_extends (fun _ _ hc => congrArg Id.text hc.id_eq)
      hstored.sublist_assessments hrev.assessments fun a ha => ?_
    exact (h.rights _ (.inl (Tree.issued_mem_added_of_assessment ha))).not_contains
      fun x hx e => ⟨x, hx, congrArg Id.mk e⟩
  · refine Table.rewritten_of_extends (fun _ _ hc => congrArg Id.text hc.id_eq)
      hstored.sublist_placements hrev.placements fun p hp => ?_
    exact (h.rights _ (.inl (Tree.issued_mem_added_of_placement hp))).not_contains
      fun x hx e => ⟨x, hx, congrArg Id.mk e⟩
  · refine Table.rewritten_of_extends (fun _ _ hc => congrArg Id.text hc.id_eq)
      hstored.sublist_requests hrev.requests fun r hr => ?_
    exact (h.rights _ (.inl (Tree.issued_mem_added_of_request hr))).not_contains
      fun x hx e => ⟨x, hx, congrArg Id.mk e⟩
  · refine Table.rewritten_of_extends (fun _ _ hc => congrArg Id.text hc.id_eq)
      hstored.sublist_bookings (.of_forall₂ hrev.bookings) fun b hb => ?_
    rw [drop_of_forall₂ hrev.bookings] at hb
    cases hb

theorem revisedBy_saveTree {before after : Tree} (h : (Call.saveTree before after).Due world)
    (hstored : world.store.Stores before) :
    world.store.RevisedBy (.saveTree before after) (world.store.putTree after) := by
  have hrev := h.served.revises
  have hw := h.rewrites hstored
  refine ⟨.refl fun _ => rfl, ?_, ?_, ?_, ?_, ?_⟩
  · exact hw.application.revised (.of_forall₂ (.cons hrev.application .nil)) .same
      fun _ hy => absurd hy List.not_mem_nil
  · refine hw.assessments.revised hrev.assessments .same fun a ha => ⟨.inl ?_, ?_, ?_⟩
    · exact Tree.issued_mem_added_of_assessment ha
    · exact (hrev.newAssessments a ha).2
    · have hid := (hrev.newAssessments a ha).1
      by_cases hfirst : before.assessments = []
      · exact .inl (.inr ⟨h.served.standing_lt hfirst (List.ne_nil_of_mem ha), by rw [hid]⟩)
      · obtain ⟨x, hx⟩ := List.exists_mem_of_ne_nil _ hfirst
        obtain ⟨hx, hown⟩ := hstored.mem_assessments.1 hx
        exact .inr ⟨x, hx, hown.trans hid.symm⟩
  · refine hw.placements.revised hrev.placements .same fun p hp => ⟨.inl ?_, ?_⟩
    · exact Tree.issued_mem_added_of_placement hp
    · exact (hrev.newPlacements p hp).2
  · refine hw.requests.revised hrev.requests .same fun r hr => ⟨.inl ?_, ?_⟩
    · exact Tree.issued_mem_added_of_request hr
    · exact (hrev.newRequests r hr).2
  · refine hw.bookings.revised (.of_forall₂ hrev.bookings) .same fun b hb => ?_
    rw [drop_of_forall₂ hrev.bookings] at hb
    cases hb

/-- **A due call keeps every record and adds only what it has a right to.** -/
theorem revisedBy {c : Call} (h : c.Due world) :
    world.store.RevisedBy c (c.perform world.store).2 := by
  rcases Call.perform_cases world.store c with e | hw
  · rw [e]
    exact .refl
  · have hserved := h.served
    generalize (c.perform world.store).2 = store' at hw ⊢
    cases hw with
    | putPremises inventory => cases hserved with | read _ h => cases h
    | putDistrict district => cases hserved with | read _ h => cases h
    | insertBooking b hnew hopen hfree =>
      refine { Store.RevisedBy.refl with bookings := ?_ }
      refine (Table.rewritten_put_new hnew).revised (.append_singleton .nil b) .same fun y hy => ?_
      obtain rfl := List.mem_singleton.1 hy
      refine ⟨.inl rfl, ?_, fun hlinked => .inr ⟨hlinked, rfl⟩⟩
      cases hserved with
      | read _ h => cases h
      | book => rfl
    | replaceBooking current updated hmem hid hfree =>
      refine { Store.RevisedBy.refl with bookings := ?_ }
      exact (Table.rewritten_put hmem (congrArg Id.text hid)).revised
        (.of_forall₂ (.cons hserved.change .nil)) .same fun _ hy => absurd hy List.not_mem_nil
    | insertOutOfService p hnew hfree =>
      refine { Store.RevisedBy.refl with outOfService := ?_ }
      refine (Table.rewritten_put_new hnew).revised (.append_singleton .nil p) (fun _ => rfl)
        fun y hy => ?_
      obtain rfl := List.mem_singleton.1 hy
      exact rfl
    | replaceOutOfService p hthere =>
      refine { Store.RevisedBy.refl with outOfService := ?_ }
      obtain ⟨q, hq, e⟩ := world.store.outOfService.contains_iff.1 hthere
      exact (Table.rewritten_put hq e.symm).revised
        (.of_forall₂ (.cons (congrArg Id.mk e.symm) .nil)) (fun _ => rfl)
        fun _ hy => absurd hy List.not_mem_nil
    | insertApplication a hnew =>
      refine { Store.RevisedBy.refl with applications := ?_ }
      refine (Table.rewritten_put_new hnew).revised (.append_singleton .nil a) .same fun y hy => ?_
      obtain rfl := List.mem_singleton.1 hy
      refine ⟨rfl, ?_⟩
      cases hserved with
      | read _ h => cases h
      | createApplication => exact ⟨rfl, rfl, rfl⟩
    | markSubmitted id on a hfind hstatus =>
      refine { Store.RevisedBy.refl with applications := ?_ }
      obtain ⟨ha, _⟩ := world.store.applications.find?_eq_some_iff.1 hfind
      have hchange : a.Change { a with status := .submitted, submittedOn := some on } :=
        .submission a on hstatus
      exact (Table.rewritten_put ha (congrArg Id.text hchange.id_eq)).revised
        (.of_forall₂ (.cons hchange .nil)) .same fun _ hy => absurd hy List.not_mem_nil
    | saveTree snapshot updated hstored hid =>
      exact h.revisedBy_saveTree (Store.stores_of_tree? hstored).2

end Call.Due

/-! ## 3. Rights stay good -/

namespace Store.RevisedBy

variable {store store' : Store} {c : Call}

/-- A call adds records only under identifiers that it has a right to use. -/
theorem holds (h : store.RevisedBy c store') {kind : Kind} {id : Id kind}
    (hid : store'.holds kind id) : store.holds kind id ∨ .issued kind id ∈ c.needs := by
  cases kind with
  | premises | room | bed => cases hid
  | outOfService =>
    obtain ⟨p, hp, rfl⟩ := hid
    exact (h.outOfService.comes p hp).imp (fun ⟨q, hq, e⟩ => ⟨q, hq, e.symm⟩) fun hp => hp
  | booking =>
    obtain ⟨b, hb, rfl⟩ := hid
    exact (h.bookings.comes b hb).imp (fun ⟨x, hx, hc⟩ => ⟨x, hx, hc.id_eq.symm⟩) And.left
  | application =>
    obtain ⟨a, ha, rfl⟩ := hid
    exact (h.applications.comes a ha).imp (fun ⟨x, hx, hc⟩ => ⟨x, hx, hc.id_eq.symm⟩) And.left
  | assessment =>
    obtain ⟨a, ha, rfl⟩ := hid
    exact (h.assessments.comes a ha).imp (fun ⟨x, hx, hc⟩ => ⟨x, hx, hc.id_eq.symm⟩) And.left
  | placementApplication =>
    obtain ⟨p, hp, rfl⟩ := hid
    exact (h.placements.comes p hp).imp (fun ⟨x, hx, hc⟩ => ⟨x, hx, hc.id_eq.symm⟩) And.left
  | placementRequest =>
    obtain ⟨r, hr, rfl⟩ := hid
    exact (h.requests.comes r hr).imp (fun ⟨x, hx, hc⟩ => ⟨x, hx, hc.id_eq.symm⟩) And.left

/-- What was submitted stays submitted. -/
theorem submitted (h : store.RevisedBy c store') {id : ApplicationId}
    (ha : ∃ a ∈ store.applications.rows, a.id = id ∧ a.status ≠ .inProgress) :
    ∃ a ∈ store'.applications.rows, a.id = id ∧ a.status ≠ .inProgress := by
  obtain ⟨a, ha, hid, hs⟩ := ha
  obtain ⟨a', ha', hc⟩ := h.applications.stays a ha
  exact ⟨a', ha', hc.id_eq.trans hid, hc.status_ne_inProgress hs⟩

end Store.RevisedBy

/-- A right that a call does not use up is as good after the call. -/
theorem Right.Valid.keep {world : World} {c : Call} {store' : Store} {right : Right}
    (h : right.Valid world) (hc : world.store.RevisedBy c store') (hnot : right ∉ c.needs) :
    right.Valid { world with store := store' } := by
  cases right with
  | issued kind id => exact ⟨h.1, fun hid => (hc.holds hid).elim h.2 hnot⟩
  | allocation id =>
    refine ⟨hc.submitted h.1, fun a ha e => ?_⟩
    rcases hc.assessments.comes a ha with ⟨x, hx, hch⟩ | ⟨_, _, hown | ⟨x, hx, hown⟩⟩
    · exact h.2 x hx (hch.applicationId_eq.symm.trans e)
    · exact hnot (e ▸ hown)
    · exact h.2 x hx (hown.trans e)
  | booking links => exact trivial

namespace World.Sound

variable {world : World}

theorem afterIssue (h : world.Sound) (kind : Kind) : (world.afterIssue kind).Sound where
  issued k n hn := Nat.le_trans (h.issued k n hn) (world.le_issued_afterIssue kind k)
  assessed := h.assessed

/-- **A world stays sound** if its store is revised with rights that hold good. -/
theorem revised (h : world.Sound) {c : Call} {store' : Store}
    (hc : world.store.RevisedBy c store') (hrights : ∀ right ∈ c.needs, right.Valid world) :
    World.Sound { world with store := store' } where
  issued kind n hn := by
    rcases hc.holds hn with hn | hn
    · exact h.issued kind n hn
    · obtain ⟨⟨m, hm, e⟩, _⟩ := hrights _ hn
      exact Id.numbered_injective e ▸ hm
  assessed x' hx' := by
    rcases hc.assessments.comes x' hx' with ⟨x, hx, hch⟩ | ⟨_, _, hown | ⟨x, hx, hown⟩⟩
    · rw [hch.applicationId_eq]
      exact hc.submitted (h.assessed x hx)
    · exact hc.submitted (hrights _ hown).1
    · exact hown ▸ hc.submitted (h.assessed x hx)

/-- A due call keeps a world sound. -/
theorem perform (h : world.Sound) {c : Call} (hc : c.Due world) :
    World.Sound { world with store := (c.perform world.store).2 } :=
  h.revised hc.revisedBy hc.rights

/-- An identifier that is issued names no record yet. -/
theorem valid_nextId (h : world.Sound) (kind : Kind) :
    (Right.issued kind (world.nextId kind)).Valid (world.afterIssue kind) := by
  refine ⟨⟨world.issued kind + 1, ?_, rfl⟩, fun hid => ?_⟩
  · unfold World.afterIssue
    dsimp only
    rw [if_pos rfl]
  · exact absurd (h.issued kind _ hid) (Nat.not_succ_le_self _)

/-- **Nothing is filed under the next identifier of a kind** in a table of that kind. -/
theorem contains_nextId (h : world.Sound) {α : Type} [Keyed α] {table : Table α} (kind : Kind)
    (hholds : ∀ x ∈ table.rows, key x = (world.nextId kind).text →
      world.store.holds kind (world.nextId kind)) :
    table.contains (world.nextId kind).text = false :=
  (h.valid_nextId kind).not_contains hholds

end World.Sound

theorem Right.Valid.afterIssue {world : World} {right : Right} (h : right.Valid world)
    (kind : Kind) : right.Valid (world.afterIssue kind) := by
  cases right with
  | issued k id =>
    obtain ⟨⟨n, hn, e⟩, hfree⟩ := h
    exact ⟨⟨n, Nat.le_trans hn (world.le_issued_afterIssue kind k), e⟩, hfree⟩
  | allocation id => exact h
  | booking links => exact trivial

/-- **The rights in hand after a call hold good.** -/
theorem Call.valid_leaves {world : World} (hs : world.Sound) {c : Call} {a : c.Answer}
    (ha : (c.perform world.store).1 = .ok a) {held : Set Right}
    (hheld : ∀ right ∈ held, right.Valid world) :
    ∀ right ∈ c.leaves held a,
      right.Valid { world with store := (c.perform world.store).2 } := by
  intro right hright
  rcases Call.mem_leaves_cases ha hright with ⟨hreads, hright | ⟨_, _, _, r, _, rfl⟩⟩ |
    ⟨id, on, rfl, rfl⟩
  · rw [Call.perform_of_reads hreads]
    exact hheld right hright
  · exact trivial
  · obtain ⟨current, hfind, hstatus, e⟩ := Call.perform_markSubmitted ha
    obtain ⟨hcurrent, hid⟩ := world.store.applications.find?_eq_some_iff.1 hfind
    rw [e]
    refine ⟨⟨_, Table.mem_place_self _ _, congrArg Id.mk hid, fun e => nomatch e⟩, fun x hx e => ?_⟩
    -- an assessment would have to be one of an application that was submitted before
    have hown : current.id = x.applicationId := (congrArg Id.mk hid).trans e.symm
    exact Store.not_submitted_of_inProgress hcurrent hown hstatus (hs.assessed x hx)

/-! ## 4. Several clients -/

namespace System

/-- **All clients have only rights that hold good**, and no two of them the same one that is good
    for one client only. -/
structure Entrusted (s : System) (held : Nat → Set Right) : Prop where
  sound : s.world.Sound
  rightful : ∀ i (p : Program (Except ActionError Reply)), s.clients[i]? = some p →
    p.Rightful Call.Served (fun _ _ => True) (held i)
  valid : ∀ i, ∀ right ∈ held i, right.Valid s.world
  apart : ∀ i j, ∀ right ∈ held i, right ∈ held j → right.IsSingle → i = j

namespace Entrusted

variable {s : System} {held : Nat → Set Right}

/-- One client gets on and has other rights then. The rights that it did not have before are not
    single ones, or nobody else has them. -/
theorem update (h : s.Entrusted held) (i : Nat) (p : Program (Except ActionError Reply))
    (world : World) (clients : List (Program (Except ActionError Reply))) (rights : Set Right)
    (hsound : world.Sound)
    (hclients : ∀ j q, clients[j]? = some q → j = i ∧ q = p ∨ j ≠ i ∧ s.clients[j]? = some q)
    (hp : p.Rightful Call.Served (fun _ _ => True) rights)
    (hvalid : ∀ right ∈ rights, right.Valid world)
    (hothers : ∀ j, j ≠ i → ∀ right ∈ held j, right.Valid world)
    (hnew : ∀ right ∈ rights, right.IsSingle → right ∈ held i ∨ ∀ j, right ∉ held j) :
    Entrusted ⟨world, clients⟩ (Function.update held i rights) where
  sound := hsound
  rightful j q hq := by
    rcases hclients j q hq with ⟨rfl, rfl⟩ | ⟨hj, hq⟩
    · rw [Function.update_self]
      exact hp
    · rw [Function.update_of_ne hj]
      exact h.rightful j q hq
  valid j := by
    by_cases hj : j = i
    · rw [hj, Function.update_self]
      exact hvalid
    · rw [Function.update_of_ne hj]
      exact hothers j hj
  apart j k right hright hright' hsingle := by
    by_cases hj : j = i <;> by_cases hk : k = i
    · exact hj.trans hk.symm
    · rw [hj, Function.update_self] at hright
      rw [Function.update_of_ne hk] at hright'
      rcases hnew right hright hsingle with hold | hnone
      · exact hj.trans (h.apart i k right hold hright' hsingle)
      · exact absurd hright' (hnone k)
    · rw [Function.update_of_ne hj] at hright
      rw [hk, Function.update_self] at hright'
      rcases hnew right hright' hsingle with hold | hnone
      · exact (h.apart j i right hright hold hsingle).trans hk.symm
      · exact absurd hright (hnone j)
    · rw [Function.update_of_ne hj] at hright
      rw [Function.update_of_ne hk] at hright'
      exact h.apart j k right hright hright' hsingle

/-- The call that a client is about to make is due. -/
theorem due (h : s.Entrusted held) {i : Nat} {c : Call}
    {next : Except StoreError c.Answer → Program (Except ActionError Reply)}
    (hi : s.clients[i]? = some (.call c next)) : c.Due s.world := by
  obtain ⟨⟨hserved, hneeds⟩, _⟩ := h.rightful i _ hi
  exact ⟨hserved, fun right hright => h.valid i right (hneeds hright)⟩

theorem arrive (h : s.Entrusted held) (request : ServiceRequest) :
    Entrusted { s with clients := s.clients ++ [request.program] }
      (Function.update held s.clients.length request.rights) := by
  have hlinks : ∀ right ∈ request.rights, ∃ links, right = .booking links := by
    cases request with
    | action => exact fun right hright => absurd hright (Set.notMem_empty right)
    | linkedBooking premises request links today => exact fun right hright => ⟨links, hright⟩
  refine h.update _ _ s.world _ _ h.sound (fun j q hq => ?_) request.rightful
    (fun right hright => ?_) (fun j _ => h.valid j) fun right hright hsingle => ?_
  · rw [List.getElem?_append] at hq
    split at hq
    · rename_i hlt
      exact .inr ⟨Nat.ne_of_lt hlt, hq⟩
    · rename_i hle
      obtain ⟨hlt, rfl⟩ := List.getElem?_eq_some_iff.1 hq
      have hj : j = s.clients.length := by
        rw [List.length_singleton] at hlt
        omega
      exact .inl ⟨hj, by simp⟩
  · obtain ⟨links, rfl⟩ := hlinks right hright
    exact trivial
  · obtain ⟨links, rfl⟩ := hlinks right hright
    exact absurd hsingle not_false

theorem getElem?_set_cases {i : Nat} {p p' : Program (Except ActionError Reply)}
    (hi : s.clients[i]? = some p) (j : Nat) (q : Program (Except ActionError Reply))
    (hq : (s.clients.set i p')[j]? = some q) : j = i ∧ q = p' ∨ j ≠ i ∧ s.clients[j]? = some q := by
  by_cases hj : j = i
  · subst hj
    rw [List.getElem?_set_self (List.getElem?_eq_some_iff.1 hi).1] at hq
    exact .inl ⟨rfl, (Option.some.inj hq).symm⟩
  · rw [List.getElem?_set_ne (Ne.symm hj)] at hq
    exact .inr ⟨hj, hq⟩

/-- **A step of one client leaves all of them with rights that hold good.** -/
theorem move (h : s.Entrusted held) {i : Nat} {p p' : Program (Except ActionError Reply)}
    {world' : World} (hi : s.clients[i]? = some p) (hp : p.Moves s.world world' p') :
    ∃ rights, Entrusted ⟨world', s.clients.set i p'⟩ (Function.update held i rights) := by
  cases hp with
  | call c next =>
    have hdue := h.due hi
    obtain ⟨⟨_, hneeds⟩, hok, herror⟩ := h.rightful i _ hi
    have hsound := h.sound.perform hdue
    -- what another client holds and this call uses up would be held by this client too
    have hothers : ∀ j, j ≠ i → ∀ right ∈ held j,
        right.Valid { s.world with store := (c.perform s.world.store).2 } := by
      intro j hj right hright
      by_cases hsingle : right.IsSingle
      · exact (h.valid j right hright).keep hdue.revisedBy fun hused =>
          hj (h.apart j i right hright (hneeds hused) hsingle)
      · cases right with
        | booking => exact trivial
        | issued | allocation => exact absurd trivial hsingle
    cases hans : (c.perform s.world.store).1 with
    | ok a =>
      refine ⟨c.leaves (held i) a, h.update i _ _ _ _ hsound (getElem?_set_cases hi) ?_
        (Call.valid_leaves h.sound hans (h.valid i)) hothers fun right hright hsingle => ?_⟩
      · exact hok _ a hans
      · rcases Call.mem_leaves_cases hans hright with ⟨_, hold | ⟨_, _, _, r, _, rfl⟩⟩ |
          ⟨id, on, rfl, rfl⟩
        · exact .inl hold
        · exact absurd hsingle not_false
        · -- nobody has it for an application that was still in progress
          obtain ⟨current, hfind, hstatus, _⟩ := Call.perform_markSubmitted hans
          obtain ⟨hcurrent, hid⟩ := s.world.store.applications.find?_eq_some_iff.1 hfind
          refine .inr fun j hj => ?_
          exact Store.not_submitted_of_inProgress hcurrent (congrArg Id.mk hid) hstatus
            (h.valid j _ hj).1
    | error e =>
      have hstore := Call.perform_error hans
      rw [hstore]
      exact ⟨held i, h.update i _ _ _ _ h.sound (getElem?_set_cases hi) (herror e) (h.valid i)
        (fun j _ => h.valid j) fun right hright _ => .inl hright⟩
  | refused c next e =>
    obtain ⟨_, _, herror⟩ := h.rightful i _ hi
    exact ⟨held i, h.update i _ _ _ _ h.sound (getElem?_set_cases hi) (herror e) (h.valid i)
      (fun j _ => h.valid j) fun right hright _ => .inl hright⟩
  | issue kind next =>
    refine ⟨insert (.issued kind (s.world.nextId kind)) (held i), h.update i _ _ _ _
      (h.sound.afterIssue kind) (getElem?_set_cases hi)
      (h.rightful i _ hi (s.world.issued kind + 1)) ?_
      (fun j _ right hright => (h.valid j right hright).afterIssue kind) ?_⟩
    · rintro right (rfl | hright)
      · exact h.sound.valid_nextId kind
      · exact (h.valid i right hright).afterIssue kind
    · rintro right (rfl | hright) _
      · -- what others were issued has a lower number
        refine .inr fun j hj => ?_
        obtain ⟨⟨n, hn, e⟩, _⟩ := h.valid j _ hj
        obtain rfl := Id.numbered_injective e
        exact absurd hn (Nat.not_succ_le_self _)
      · exact .inl hright

/-- **After a step of the clients all of them have rights that hold good.** -/
theorem step (h : s.Entrusted held) {t : System} (hs : Step s t) : ∃ held', t.Entrusted held' := by
  cases hs with
  | arrive request => exact ⟨_, h.arrive request⟩
  | move i p p' world' hi hp =>
    obtain ⟨rights, h⟩ := h.move hi hp
    exact ⟨_, h⟩

/-- A step of the clients leaves the store as it was or carries out a due call. -/
theorem due_step (h : s.Entrusted held) {t : System} (hs : Step s t) :
    t.world.store = s.world.store ∨
      ∃ c : Call, c.Due s.world ∧ t.world.store = (c.perform s.world.store).2 := by
  cases hs with
  | arrive request => exact .inl rfl
  | move i p p' world' hi hp =>
    cases hp with
    | call c next => exact .inr ⟨c, h.due hi, rfl⟩
    | refused c next e => exact .inl rfl
    | issue kind next => exact .inl rfl

end Entrusted

theorem entrusted_idle {world : World} (h : world.Sound) : (idle world).Entrusted fun _ => ∅ where
  sound := h
  rightful i p hi := by
    rw [idle, List.getElem?_nil] at hi
    cases hi
  valid i right hright := absurd hright (Set.notMem_empty right)
  apart i j right hright := absurd hright (Set.notMem_empty right)

namespace Reaches

variable {world : World} {s t : System}

/-- In every state of a run all clients have only rights that hold good. -/
theorem entrusted (h₀ : world.Sound) (h : (idle world).Reaches s) :
    ∃ held, s.Entrusted held := by
  induction h with
  | start => exact ⟨_, entrusted_idle h₀⟩
  | step s t _ hs ih =>
    obtain ⟨held, ih⟩ := ih
    exact ih.step hs

/-- **A step of a run leaves the store as it was or carries out a due call.** -/
theorem due_step (h₀ : world.Sound) (h : (idle world).Reaches s) (hs : Step s t) :
    t.world.store = s.world.store ∨
      ∃ c : Call, c.Due s.world ∧ t.world.store = (c.perform s.world.store).2 := by
  obtain ⟨held, hheld⟩ := h.entrusted h₀
  exact hheld.due_step hs

/-- **What due calls preserve holds in every state of a run.** -/
theorem due_invariant {Inv : Store → Prop}
    (hcall : ∀ (world : World) (c : Call), world.Sound → c.Due world → Inv world.store →
      Inv (c.perform world.store).2)
    (h₀ : world.Sound) (hinv : Inv world.store) (h : (idle world).Reaches s) :
    Inv s.world.store := by
  induction h with
  | start => exact hinv
  | step s t hr hs ih =>
    obtain ⟨held, hheld⟩ := hr.entrusted h₀
    rcases hr.due_step h₀ hs with e | ⟨c, hc, e⟩
    · exact e ▸ ih
    · exact e ▸ hcall s.world c hheld.sound hc ih

end Reaches

end System

end Bedspace
