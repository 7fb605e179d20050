import Bedspace.Proofs.Clients
import Bedspace.Proofs.Runs
import Mathlib.Data.Set.Insert

/-!
# What a client may write

Some calls are fit to be made only by a client that has come to them in a certain way: the nodes that
it adds to a tree are named by identifiers that were issued to it and that it has not used yet, the
first assessment is allocated by whoever has submitted the application, and a booking with links is
made for a placement request that was seen in its tree. What a client has in hand is a set of
rights.

* `Call.needs` are the rights that a call uses up, `Call.leaves` the ones in hand after its answer:
  a read keeps them, a write ends them all, whatever has come from them;
* `Program.Rightful` bounds a program by the calls that it can make with the rights it has, whatever
  the answers are; `Operation.rightful_bind` and the like reduce it to the parts of an operation;
* `Program.Rightful.within`: the rights apart, these are the calls of `Program.Within`.
-/

namespace Bedspace

/-! ## 1. Rights -/

/-- Whether a call only reads. -/
def Call.reads : Call → Bool
  | .inventory _ => true
  | .premises _ => true
  | .district _ => true
  | .booking _ => true
  | .bookingsAt _ => true
  | .bookingsOver _ => true
  | .outOfService _ => true
  | .outOfServiceOver _ => true
  | .tree _ => true
  | .ownerOf _ => true
  | _ => false

/-- What a client may do because of what it has done before. -/
inductive Right where
  /-- To name a new record by an identifier. -/
  | issued (kind : Kind) (id : Id kind)
  /-- To allocate the first assessment of an application. -/
  | allocation (id : ApplicationId)
  /-- To make a booking with links. -/
  | booking (links : BookingLinks)

/-- The links of a booking. -/
def Booking.links (booking : Booking) : BookingLinks :=
  ⟨booking.applicationId, booking.placementRequestId⟩

namespace Booking

variable {b : Booking} {application : Option ApplicationId} {request : Option PlacementRequestId}

theorem applicationId_of_links (h : b.links = ⟨application, request⟩) :
    b.applicationId = application :=
  congrArg BookingLinks.applicationId h

theorem placementRequestId_of_links (h : b.links = ⟨application, request⟩) :
    b.placementRequestId = request :=
  congrArg BookingLinks.placementRequestId h

end Booking

namespace Tree

/-- The nodes that a tree has after those of another one, as rights to name them. -/
def added (before after : Tree) : List Right :=
  (after.assessments.drop before.assessments.length).map (fun a => .issued .assessment a.id)
    ++ (after.placementApplications.drop before.placementApplications.length).map
      (fun p => .issued .placementApplication p.id)
    ++ (after.placementRequests.drop before.placementRequests.length).map
      (fun r => .issued .placementRequest r.id)

variable {before after : Tree}

theorem issued_mem_added_of_assessment {a : Assessment}
    (ha : a ∈ after.assessments.drop before.assessments.length) :
    .issued .assessment a.id ∈ before.added after :=
  List.mem_append_left _ (List.mem_append_left _ (List.mem_map_of_mem ha))

theorem issued_mem_added_of_placement {p : PlacementApplication}
    (hp : p ∈ after.placementApplications.drop before.placementApplications.length) :
    .issued .placementApplication p.id ∈ before.added after :=
  List.mem_append_left _ (List.mem_append_right _ (List.mem_map_of_mem hp))

theorem issued_mem_added_of_request {r : PlacementRequest}
    (hr : r ∈ after.placementRequests.drop before.placementRequests.length) :
    .issued .placementRequest r.id ∈ before.added after :=
  List.mem_append_right _ (List.mem_map_of_mem hr)

/-- How many assessments stand, which are the ones that were not handed to another assessor. -/
def standing (tree : Tree) : Nat := tree.assessments.countP fun a => a.reallocatedOn.isNone

/-- The links of bookings for the placement requests of a tree, as rights to make them. -/
def bookable (tree : Tree) : Set Right :=
  {right | ∃ r ∈ tree.placementRequests, right = .booking ⟨some tree.application.id, some r.id⟩}

end Tree

namespace Call

/-- **The rights that a call uses up.** -/
def needs : Call → Set Right
  | .insertBooking b =>
    {right | right = .issued .booking b.id ∨ b.links ≠ .none ∧ right = .booking b.links}
  | .insertOutOfService p => {.issued .outOfService p.id}
  | .insertApplication a => {.issued .application a.id}
  | .saveTree before after =>
    {right | right ∈ before.added after ∨
      before.standing < after.standing ∧ right = .allocation before.application.id}
  | _ => ∅

/-- **The rights in hand after the answer to a call.** -/
def leaves (held : Set Right) : (c : Call) → c.Answer → Set Right
  | .tree _, found => held ∪ found.elim ∅ Tree.bookable
  | .markSubmitted id _, _ => {.allocation id}
  | c, _ => if c.reads then held else ∅

theorem perform_of_reads {c : Call} (h : c.reads = true) (store : Store) :
    (c.perform store).2 = store := by
  unfold reads at h
  split at h
  all_goals first | rfl | exact absurd h Bool.false_ne_true

theorem needs_of_reads {c : Call} (h : c.reads = true) : c.needs = ∅ := by
  unfold reads at h
  split at h
  all_goals first | rfl | exact absurd h Bool.false_ne_true

/-- **Where a right comes from that is in hand after a call**: a read has kept it, or has shown the
    placement request for which a booking can be made, or an application was submitted. -/
theorem mem_leaves_cases {c : Call} {store : Store} {a : c.Answer}
    (ha : (c.perform store).1 = .ok a) {held : Set Right} {right : Right}
    (h : right ∈ c.leaves held a) :
    c.reads = true ∧
        (right ∈ held ∨ ∃ id tree, store.tree? id = some tree ∧ right ∈ tree.bookable) ∨
      ∃ id on, c = .markSubmitted id on ∧ right = .allocation id := by
  cases c with
  | tree id =>
    refine .inl ⟨rfl, h.imp_right fun h => ?_⟩
    cases a with
    | none => exact absurd h (Set.notMem_empty right)
    | some tree => exact ⟨id, tree, Except.ok.inj ha, h⟩
  | markSubmitted id on => exact .inr ⟨id, on, rfl, h⟩
  | _ =>
    first
    | exact .inl ⟨rfl, .inl h⟩
    | exact absurd h (Set.notMem_empty right)

end Call

/-! ## 2. Programs -/

namespace Program

variable {α β : Type} {allowed : Call → Prop}

/-- **Every call that a program can make is allowed and uses rights that are in hand by then**, and
    every result satisfies `ends` with the rights that are left. -/
def Rightful (allowed : Call → Prop) (ends : α → Set Right → Prop) : Program α → Set Right → Prop
  | done a, held => ends a held
  | call c next, held =>
    (allowed c ∧ c.needs ⊆ held) ∧
      (∀ store a, (c.perform store).1 = .ok a →
        (next (.ok a)).Rightful allowed ends (c.leaves held a)) ∧
      ∀ e, (next (.error e)).Rightful allowed ends held
  | issue kind next, held =>
    ∀ n, (next (.numbered kind n)).Rightful allowed ends
      (insert (.issued kind (.numbered kind n)) held)

theorem rightful_mono {ends ends' : α → Set Right → Prop} (h : ∀ a held, ends a held → ends' a held)
    {p : Program α} {held : Set Right} (hp : p.Rightful allowed ends held) :
    p.Rightful allowed ends' held := by
  induction p generalizing held with
  | done a => exact h a held hp
  | call c next ih =>
    obtain ⟨hc, hok, herror⟩ := hp
    exact ⟨hc, fun store a ha => ih _ (hok store a ha), fun e => ih _ (herror e)⟩
  | issue kind next ih => exact fun n => ih _ (hp n)

theorem rightful_bind {p : Program α} {f : α → Program β} {ends : β → Set Right → Prop}
    {held : Set Right} :
    (p.bind f).Rightful allowed ends held ↔
      p.Rightful allowed (fun a held => (f a).Rightful allowed ends held) held := by
  induction p generalizing held with
  | done a => exact Iff.rfl
  | call c next ih =>
    refine and_congr Iff.rfl (and_congr ?_ (forall_congr' fun e => ih _))
    exact forall_congr' fun store => forall_congr' fun a => forall_congr' fun _ => ih _
  | issue kind next ih => exact forall_congr' fun n => ih _

theorem rightful_map {p : Program α} {f : α → β} {ends : β → Set Right → Prop} {held : Set Right} :
    (f <$> p).Rightful allowed ends held ↔
      p.Rightful allowed (fun a held => ends (f a) held) held := by
  rw [map_eq_pure_bind, bind_eq, rightful_bind]
  exact Iff.rfl

/-- The calls of a rightful program are the allowed ones. -/
theorem Rightful.within {ends : α → Set Right → Prop} {p : Program α} {held : Set Right}
    (h : p.Rightful allowed ends held) : p.Within allowed fun _ => True := by
  induction p generalizing held with
  | done a => exact trivial
  | call c next ih =>
    obtain ⟨⟨hc, _⟩, hok, herror⟩ := h
    refine ⟨hc, fun store => ?_, fun e => ih _ (herror e)⟩
    cases ha : (c.perform store).1 with
    | ok a => exact ih _ (hok store a ha)
    | error e => exact ih _ (herror e)
  | issue kind next ih => exact fun n => ih _ (h n)

end Program

/-! ## 3. Operations -/

namespace Operation

variable {ε ε' α β : Type} {allowed : Call → Prop} {held : Set Right}

/-- Every call that an operation can make is allowed and uses rights that are in hand by then, and
    every value it gives satisfies `ends` with the rights that are left. -/
def Rightful (allowed : Call → Prop) (op : Operation ε α) (held : Set Right)
    (ends : α → Set Right → Prop) : Prop :=
  (ExceptT.run op).Rightful allowed (fun result held => ∀ a, result = .ok a → ends a held) held

theorem rightful_pure {a : α} {ends : α → Set Right → Prop} :
    (pure a : Operation ε α).Rightful allowed held ends ↔ ends a held :=
  ⟨fun h => h a rfl, fun h _ e => Except.ok.inj e ▸ h⟩

theorem rightful_throw {e : ε} {ends : α → Set Right → Prop} :
    (throw e : Operation ε α).Rightful allowed held ends :=
  fun _ h => nomatch h

theorem rightful_call {wrap : StoreError → ε} {c : Call} {ends : c.Answer → Set Right → Prop} :
    Rightful (α := no_index c.Answer) allowed (call wrap c) held ends ↔
      (allowed c ∧ c.needs ⊆ held) ∧
        ∀ store a, (c.perform store).1 = .ok a → ends a (c.leaves held a) := by
  constructor
  · rintro ⟨hc, hok, _⟩
    exact ⟨hc, fun store a ha => hok store a ha a rfl⟩
  · rintro ⟨hc, h⟩
    refine ⟨hc, fun store a ha b hb => ?_, fun e a ha => nomatch ha⟩
    obtain rfl : a = b := Except.ok.inj hb
    exact h store a ha

/-- A call that reads needs no rights. -/
theorem rightful_read {wrap : StoreError → ε} {c : Call} {ends : c.Answer → Set Right → Prop}
    (hreads : c.reads = true) (hc : allowed c)
    (h : ∀ store a, (c.perform store).1 = .ok a → ends a (c.leaves held a)) :
    Rightful (α := no_index c.Answer) allowed (call wrap c) held ends := by
  refine rightful_call.2 ⟨⟨hc, ?_⟩, h⟩
  rw [Call.needs_of_reads hreads]
  exact Set.empty_subset held

theorem rightful_issue {kind : Kind} {ends : Id kind → Set Right → Prop} :
    (issue kind : Operation ε (Id kind)).Rightful allowed held ends ↔
      ∀ n, ends (.numbered kind n) (insert (.issued kind (.numbered kind n)) held) :=
  ⟨fun h n => h n _ rfl, fun h n _ e => Except.ok.inj e ▸ h n⟩

/-- **An operation that goes on with the value of another one** is rightful if it is so with the
    rights that the other one leaves. -/
theorem rightful_bind {op : Operation ε α} {f : α → Operation ε β} {ends : β → Set Right → Prop} :
    (op >>= f).Rightful allowed held ends ↔
      op.Rightful allowed held fun a held => (f a).Rightful allowed held ends := by
  unfold Rightful
  rw [ExceptT.run_bind, Program.bind_eq, Program.rightful_bind]
  constructor
  · refine Program.rightful_mono fun result held h a ha => ?_
    subst ha
    exact h
  · refine Program.rightful_mono fun result held h => ?_
    cases result with
    | ok a => exact h a rfl
    | error e => exact fun _ h => nomatch h

theorem rightful_map {op : Operation ε α} {f : α → β} {ends : β → Set Right → Prop} :
    (f <$> op).Rightful allowed held ends ↔
      op.Rightful allowed held fun a held => ends (f a) held := by
  rw [map_eq_pure_bind, rightful_bind]
  simp only [rightful_pure]

theorem rightful_adapt {wrap : ε → ε'} {op : Operation ε α} {ends : α → Set Right → Prop} :
    Rightful allowed (ExceptT.adapt wrap op : Operation ε' α) held ends ↔
      op.Rightful allowed held ends := by
  show Program.Rightful allowed _ (Except.mapError wrap <$> ExceptT.run op) held ↔ _
  rw [Program.rightful_map]
  constructor
  · exact Program.rightful_mono fun result held h a ha => h a (by rw [ha]; rfl)
  · exact Program.rightful_mono fun result held h a ha => h a (eq_ok_of_mapError ha)

theorem rightful_demand {missing : ε} {found : Option α} {ends : α → Set Right → Prop} :
    (demand missing found).Rightful allowed held ends ↔ ∀ a, found = some a → ends a held := by
  cases found with
  | none => exact iff_of_true rightful_throw fun _ h => nomatch h
  | some b => exact rightful_pure.trans ⟨fun h _ e => Option.some.inj e ▸ h, fun h => h b rfl⟩

theorem rightful_failWith {fault : Option ε} {ends : Unit → Set Right → Prop} :
    (failWith fault).Rightful allowed held ends ↔ (fault = none → ends () held) := by
  cases fault with
  | none => exact rightful_pure.trans ⟨fun h _ => h, fun h => h rfl⟩
  | some e => exact iff_of_true rightful_throw fun h => nomatch h

theorem rightful_failIf {condition : Bool} {e : ε} {ends : Unit → Set Right → Prop} :
    (failIf condition e).Rightful allowed held ends ↔ (condition = false → ends () held) := by
  unfold failIf
  rw [rightful_failWith]
  cases condition <;> simp

end Operation

end Bedspace
