import Bedspace.Proofs.Cascade.Effect

/-!
# Where a node of a tree stands

A tree holds a record under the name of each of its nodes, and marks change these records one by
one.

* `Tree.record?` looks the record of a node up, whatever its kind; `SkipReason.describes` says
  whether a record is in the state that a reason names, `Tree.stands` says so of the record of a
  node;
* `Tree.isOpen_eq_any` and `Tree.contains_eq_isSome` read off that record whether a node is open or
  in the tree at all;
* `Tree.withdraw_of_closed`: a withdrawal from a node that is not open passes it over, and leaves
  the tree as it is;
* **`Tree.record?_marked`**: the record of a node in a marked tree is its record with the mark. What
  is marked is not open afterwards (`Tree.isOpen_marked`), and nothing else has changed
  (`Tree.record?_marked_ne_iff`).
-/

namespace Bedspace

/-! ## 1. Records of any kind -/

/-- A record of a tree, of whichever kind. -/
inductive NodeRecord where
  | application (a : Application)
  | assessment (a : Assessment)
  | placementApplication (p : PlacementApplication)
  | placementRequest (r : PlacementRequest)
  | booking (b : Booking)
  deriving DecidableEq

/-- A record is the node that it is as one of its kind. -/
instance : TreeNode NodeRecord where
  entity
    | .application a => TreeNode.entity a
    | .assessment a => TreeNode.entity a
    | .placementApplication p => TreeNode.entity p
    | .placementRequest r => TreeNode.entity r
    | .booking b => TreeNode.entity b
  isOpen
    | .application a => TreeNode.isOpen a
    | .assessment a => TreeNode.isOpen a
    | .placementApplication p => TreeNode.isOpen p
    | .placementRequest r => TreeNode.isOpen r
    | .booking b => TreeNode.isOpen b
  stamp note reason
    | .application a => .application (TreeNode.stamp note reason a)
    | .assessment a => .assessment (TreeNode.stamp note reason a)
    | .placementApplication p => .placementApplication (TreeNode.stamp note reason p)
    | .placementRequest r => .placementRequest (TreeNode.stamp note reason r)
    | .booking b => .booking (TreeNode.stamp note reason b)
  entity_stamp note reason
    | .application a => TreeNode.entity_stamp note reason a
    | .assessment a => TreeNode.entity_stamp note reason a
    | .placementApplication p => TreeNode.entity_stamp note reason p
    | .placementRequest r => TreeNode.entity_stamp note reason r
    | .booking b => TreeNode.entity_stamp note reason b
  isOpen_stamp note reason
    | .application a => TreeNode.isOpen_stamp note reason a
    | .assessment a => TreeNode.isOpen_stamp note reason a
    | .placementApplication p => TreeNode.isOpen_stamp note reason p
    | .placementRequest r => TreeNode.isOpen_stamp note reason r
    | .booking b => TreeNode.isOpen_stamp note reason b

/-- **Whether a record is in the state that a reason for passing over names.** -/
def SkipReason.describes : SkipReason → NodeRecord → Bool
  | .arrivalRecorded, .booking b => b.hasArrival
  | .alreadyCancelled, .booking b => b.isCancelled
  | .alreadyWithdrawn, .application a => a.isWithdrawn
  | .alreadyWithdrawn, .assessment a => a.withdrawn
  | .alreadyWithdrawn, .placementApplication p => p.isWithdrawn
  | .alreadyWithdrawn, .placementRequest r => r.isWithdrawn
  | .reallocated, .assessment a => a.reallocatedOn.isSome
  | _, _ => false

namespace TreeNode

/-- What is found among changed records is what is found among the records, changed. -/
theorem find?_map_of_id {α ι : Type} [DecidableEq ι] {id : α → ι} {wrap : α → NodeRecord}
    {xs : List α} {i : ι} {f : α → α} {change : NodeRecord → NodeRecord}
    (hid : ∀ x, id (f x) = id x) (hwrap : ∀ x, change (wrap x) = wrap (f x)) :
    ((xs.map f).find? fun x => id x = i).map wrap =
      ((xs.find? fun x => id x = i).map wrap).map change := by
  have hsame : ((fun x => decide (id x = i)) ∘ f) = fun x => decide (id x = i) :=
    funext fun x => by rw [Function.comp_apply, hid]
  rw [List.find?_map, hsame, Option.map_map, Option.map_map]
  exact congrArg (fun f => Option.map f _) (funext fun x => (hwrap x).symm)

variable {α ι : Type} [TreeNode α]

/-- Records of a kind are named by their identifiers, and are the nodes that they are also among
    records of all kinds. -/
structure FiledBy (id : α → ι) (node : ι → Entity) (wrap : α → NodeRecord) : Prop
    extends NamedBy id node where
  entity_wrap : ∀ a, entity (wrap a) = entity a
  isOpen_wrap : ∀ a, isOpen (wrap a) = isOpen a
  stamp_wrap : ∀ note reason a, stamp note reason (wrap a) = wrap (stamp note reason a)

namespace FiledBy

variable {id : α → ι} {node : ι → Entity} {wrap : α → NodeRecord} {note : WithdrawalNote}
  {reasonOf : Entity → WithdrawalReason} {marked : List Entity} [DecidableEq ι] {xs : List α}
  {i : ι} (h : FiledBy id node wrap)

include h

omit [DecidableEq ι] in
theorem mark_wrap (a : α) :
    mark note reasonOf marked (wrap a) = wrap (mark note reasonOf marked a) := by
  unfold mark
  rw [h.entity_wrap, h.stamp_wrap, apply_ite wrap]

theorem entity_of_find? {r : NodeRecord} (hr : (xs.find? fun x => id x = i).map wrap = some r) :
    entity r = node i := by
  obtain ⟨x, hx, rfl⟩ := Option.map_eq_some_iff.1 hr
  have hid := List.find?_some hx
  rw [h.entity_wrap, h.entity_eq, of_decide_eq_true hid]

theorem find?_map_mark :
    ((xs.map (mark note reasonOf marked)).find? fun x => id x = i).map wrap =
      ((xs.find? fun x => id x = i).map wrap).map (mark note reasonOf marked) :=
  find?_map_of_id h.id_mark h.mark_wrap

theorem any_isOpen_eq (hxs : (xs.map id).Nodup) :
    (xs.any fun x => id x = i && isOpen x) =
      ((xs.find? fun x => id x = i).map wrap).any isOpen := by
  cases hfind : xs.find? fun x => id x = i with
  | none =>
    refine List.any_eq_false.2 fun x hx hfits => ?_
    exact List.find?_eq_none.1 hfind x hx (Bool.and_eq_true_iff.1 hfits).1
  | some x =>
    have hid := List.find?_some hfind
    obtain rfl := of_decide_eq_true hid
    rw [Tree.any_of_mem hxs (List.mem_of_find?_eq_some hfind)]
    exact (h.isOpen_wrap x).symm

end FiledBy

end TreeNode

theorem Application.filedBy :
    TreeNode.FiledBy Application.id Entity.application NodeRecord.application :=
  ⟨⟨fun _ _ => Entity.application.inj, fun _ => rfl⟩, fun _ => rfl, fun _ => rfl, fun _ _ _ => rfl⟩

theorem Assessment.filedBy :
    TreeNode.FiledBy Assessment.id Entity.assessment NodeRecord.assessment :=
  ⟨⟨fun _ _ => Entity.assessment.inj, fun _ => rfl⟩, fun _ => rfl, fun _ => rfl, fun _ _ _ => rfl⟩

theorem PlacementApplication.filedBy : TreeNode.FiledBy PlacementApplication.id
    Entity.placementApplication NodeRecord.placementApplication :=
  ⟨namedBy, fun _ => rfl, fun _ => rfl, fun _ _ _ => rfl⟩

theorem PlacementRequest.filedBy :
    TreeNode.FiledBy PlacementRequest.id Entity.placementRequest NodeRecord.placementRequest :=
  ⟨namedBy, fun _ => rfl, fun _ => rfl, fun _ _ _ => rfl⟩

theorem Booking.filedBy : TreeNode.FiledBy Booking.id Entity.booking NodeRecord.booking :=
  ⟨namedBy, fun _ => rfl, fun _ => rfl, fun _ _ _ => rfl⟩

namespace Tree

/-! ## 2. The record of a node -/

/-- The record that a tree holds under the name of a node. -/
def record? (tree : Tree) : Entity → Option NodeRecord
  | .application id =>
    if tree.application.id = id then some (.application tree.application) else none
  | .assessment id => (tree.assessments.find? fun a => a.id = id).map .assessment
  | .placementApplication id =>
    (tree.placementApplications.find? fun p => p.id = id).map .placementApplication
  | .placementRequest id => (tree.placementRequests.find? fun r => r.id = id).map .placementRequest
  | .booking id => (tree.bookings.find? fun b => b.id = id).map .booking

/-- Whether the record of a node is in the state that a reason names. -/
def stands (tree : Tree) (state : SkipReason) (node : Entity) : Bool :=
  (tree.record? node).any state.describes

variable {tree : Tree} {e : Entity} {r : NodeRecord}

theorem record?_application {id : ApplicationId} (h : tree.record? (.application id) = some r) :
    tree.application.id = id ∧ r = .application tree.application := by
  unfold record? at h
  dsimp only at h
  split at h
  · exact ⟨‹_›, (Option.some.inj h).symm⟩
  · cases h

theorem entity_of_record? (h : tree.record? e = some r) : TreeNode.entity r = e := by
  cases e with
  | application id =>
    obtain ⟨rfl, rfl⟩ := record?_application h
    rfl
  | assessment id => exact Assessment.filedBy.entity_of_find? h
  | placementApplication id => exact PlacementApplication.filedBy.entity_of_find? h
  | placementRequest id => exact PlacementRequest.filedBy.entity_of_find? h
  | booking id => exact Booking.filedBy.entity_of_find? h

/-- **A node is open if its record is.** -/
theorem isOpen_eq_any (ht : tree.DistinctIds) (e : Entity) :
    tree.isOpen e = (tree.record? e).any TreeNode.isOpen := by
  cases e with
  | application id =>
    unfold isOpen record?
    dsimp only
    by_cases hid : tree.application.id = id
    · rw [if_pos hid, decide_eq_true hid]
      rfl
    · rw [if_neg hid, decide_eq_false hid]
      rfl
  | assessment id => exact Assessment.filedBy.any_isOpen_eq ht.assessments
  | placementApplication id => exact PlacementApplication.filedBy.any_isOpen_eq ht.placements
  | placementRequest id => exact PlacementRequest.filedBy.any_isOpen_eq ht.requests
  | booking id => exact Booking.filedBy.any_isOpen_eq ht.bookings

theorem any_eq_isSome_find? {α : Type} {p : α → Bool} {wrap : α → NodeRecord} (xs : List α) :
    xs.any p = ((xs.find? p).map wrap).isSome := by
  rw [Option.isSome_map, Bool.eq_iff_iff, List.any_eq_true, List.find?_isSome]

/-- **A node is in a tree if there is a record of it.** -/
theorem contains_eq_isSome (tree : Tree) (e : Entity) :
    tree.contains e = (tree.record? e).isSome := by
  cases e with
  | application id =>
    unfold contains record?
    dsimp only
    by_cases hid : tree.application.id = id
    · rw [if_pos hid, decide_eq_true hid]
      rfl
    · rw [if_neg hid, decide_eq_false hid]
      rfl
  | assessment id => exact any_eq_isSome_find? tree.assessments
  | placementApplication id => exact any_eq_isSome_find? tree.placementApplications
  | placementRequest id => exact any_eq_isSome_find? tree.placementRequests
  | booking id => exact any_eq_isSome_find? tree.bookings

theorem exists_record?_of_contains (h : tree.contains e = true) : ∃ r, tree.record? e = some r :=
  Option.isSome_iff_exists.1 ((tree.contains_eq_isSome e).symm.trans h)

/-- An open node has a record, which is open. -/
theorem exists_record?_of_isOpen (ht : tree.DistinctIds) (h : tree.isOpen e = true) :
    ∃ r, tree.record? e = some r ∧ TreeNode.isOpen r = true := by
  rw [isOpen_eq_any ht] at h
  exact (Option.any_eq_true _ _).1 h

/-- A booking with an arrival is not open. -/
theorem hasArrived_eq_false_of_isOpen (ht : tree.DistinctIds) {id : BookingId}
    (h : tree.isOpen (.booking id) = true) : tree.hasArrived id = false := by
  obtain ⟨b, hb, hfits⟩ := List.any_eq_true.1 h
  obtain ⟨hid, hopen⟩ := Bool.and_eq_true_iff.1 hfits
  obtain rfl := of_decide_eq_true hid
  have harrived : tree.hasArrived b.id = b.hasArrival := any_of_mem ht.bookings hb _
  exact harrived.trans (Booking.isOpen_iff.1 hopen).1

/-- An open node is in the tree. -/
theorem contains_of_isOpen (h : tree.isOpen e = true) : tree.contains e = true := by
  cases e with
  | application id => exact (Bool.and_eq_true_iff.1 h).1
  | assessment id | placementApplication id | placementRequest id | booking id =>
    obtain ⟨x, hx, hfits⟩ := List.any_eq_true.1 h
    exact List.any_eq_true.2 ⟨x, hx, (Bool.and_eq_true_iff.1 hfits).1⟩

/-- What is directly below another node is in the tree. -/
theorem Child.contains {parent child : Entity} (h : tree.Child parent child) :
    tree.contains child = true := by
  cases h with
  | assessment x hx | placement x hx | firstRequest x hx | ownBooking x hx | request x hx
  | booking x hx => exact List.any_eq_true.2 ⟨x, hx, decide_eq_true rfl⟩

/-- What is looked at on the way down from a node of a tree is in the tree. -/
theorem contains_of_mem_visits {root : Entity} (hroot : tree.contains root = true)
    (h : e ∈ tree.visits root) : tree.contains e = true := by
  cases mem_visits_iff_reached.1 h with
  | root => exact hroot
  | child parent _ _ _ hchild => exact hchild.contains

/-- **A node that is not open is in the state for which it is passed over.** -/
theorem describes_skipReason (ht : tree.DistinctIds) (h : tree.record? e = some r)
    (hclosed : TreeNode.isOpen r = false) : (tree.skipReason e).describes r = true := by
  cases e with
  | application id =>
    obtain ⟨rfl, rfl⟩ := record?_application h
    exact (Bool.not_eq_false' _).mp hclosed
  | assessment id =>
    obtain ⟨a, hfind, rfl⟩ := Option.map_eq_some_iff.1 h
    have hid := List.find?_some hfind
    obtain rfl := of_decide_eq_true hid
    have hclosed : (!a.withdrawn && a.reallocatedOn.isNone) = false := hclosed
    unfold skipReason
    dsimp only
    rw [any_of_mem ht.assessments (List.mem_of_find?_eq_some hfind)]
    cases hw : a.withdrawn with
    | true => exact hw
    | false =>
      rw [hw, Bool.not_false, Bool.true_and] at hclosed
      exact Option.isNone_eq_false_iff.1 hclosed
  | placementApplication id =>
    obtain ⟨p, _, rfl⟩ := Option.map_eq_some_iff.1 h
    exact (Bool.not_eq_false' _).mp hclosed
  | placementRequest id =>
    obtain ⟨x, _, rfl⟩ := Option.map_eq_some_iff.1 h
    exact (Bool.not_eq_false' _).mp hclosed
  | booking id =>
    obtain ⟨b, hfind, rfl⟩ := Option.map_eq_some_iff.1 h
    have hid := List.find?_some hfind
    obtain rfl := of_decide_eq_true hid
    have hclosed : (!b.hasArrival && !b.isCancelled) = false := hclosed
    unfold skipReason hasArrived
    dsimp only
    rw [any_of_mem ht.bookings (List.mem_of_find?_eq_some hfind)]
    cases ha : b.hasArrival with
    | true => exact ha
    | false =>
      rw [ha] at hclosed
      exact (Bool.not_eq_false' _).mp hclosed

theorem course_of_closed {note : WithdrawalNote} {reasonOf : Entity → WithdrawalReason}
    (hclosed : tree.isOpen e = false) :
    tree.course note reasonOf [e] = ⟨tree, [], [⟨e, tree.skipReason e⟩]⟩ := by
  rw [← List.nil_append [e], ← Cascade.course_skip hclosed, Cascade.course_nil]
  rfl

/-- **Of a node that is not open, nothing is withdrawn**, and the tree stays as it is. -/
theorem withdraw_of_closed (ht : tree.DistinctIds) {target : WithdrawalTarget}
    {reason : WithdrawalReason} {note : WithdrawalNote}
    (hin : tree.contains target.entity = true) (hclosed : tree.isOpen target.entity = false)
    (harrived : ∀ id, target = .booking id → tree.hasArrived id = false) :
    tree.withdraw target reason note =
      .ok (⟨target.entity, [], [⟨target.entity, tree.skipReason target.entity⟩]⟩, tree) := by
  rw [withdraw_eq ht hin harrived, Cascade.visits_of_closed hclosed, course_of_closed hclosed]

/-! ## 3. Marked trees -/

section Marked

variable {note : WithdrawalNote} {reasonOf : Entity → WithdrawalReason} {marked : List Entity}

/-- **The record of a node in a marked tree is its record with the mark.** -/
theorem record?_marked (e : Entity) :
    (tree.marked note reasonOf marked).record? e =
      (tree.record? e).map (TreeNode.mark note reasonOf marked) := by
  cases e with
  | application id =>
    have hid : (TreeNode.mark note reasonOf marked tree.application).id = tree.application.id :=
      Application.filedBy.id_mark tree.application
    unfold record? Tree.marked
    dsimp only
    rw [hid]
    by_cases hi : tree.application.id = id
    · rw [if_pos hi, if_pos hi, Option.map_some]
      exact congrArg some (Application.filedBy.mark_wrap tree.application).symm
    · rw [if_neg hi, if_neg hi, Option.map_none]
  | assessment id => exact Assessment.filedBy.find?_map_mark
  | placementApplication id => exact PlacementApplication.filedBy.find?_map_mark
  | placementRequest id => exact PlacementRequest.filedBy.find?_map_mark
  | booking id => exact Booking.filedBy.find?_map_mark

/-- **Marks on open nodes change the records of these and no other.** -/
theorem record?_marked_ne_iff (ht : tree.DistinctIds)
    (hopen : ∀ e ∈ marked, tree.isOpen e = true) :
    (tree.marked note reasonOf marked).record? e ≠ tree.record? e ↔ e ∈ marked := by
  rw [record?_marked]
  constructor
  · intro hne
    by_contra hnot
    cases hr : tree.record? e with
    | none => exact hne (by rw [hr, Option.map_none])
    | some r =>
      refine hne ?_
      rw [hr, Option.map_some, TreeNode.mark_of_not_mem (by rwa [entity_of_record? hr])]
  · intro he
    obtain ⟨r, hr, hr_open⟩ := exists_record?_of_isOpen ht (hopen e he)
    rw [hr, Option.map_some, TreeNode.mark_of_mem (by rwa [entity_of_record? hr])]
    exact fun h => stamp_ne_of_isOpen hr_open (Option.some.inj h)

theorem distinctIds_marked (ht : tree.DistinctIds) :
    (tree.marked note reasonOf marked).DistinctIds where
  assessments := by
    unfold Tree.marked
    rw [Assessment.filedBy.map_id_mark]
    exact ht.assessments
  placements := by
    unfold Tree.marked
    rw [PlacementApplication.namedBy.map_id_mark]
    exact ht.placements
  requests := by
    unfold Tree.marked
    rw [PlacementRequest.namedBy.map_id_mark]
    exact ht.requests
  bookings := by
    unfold Tree.marked
    rw [Booking.namedBy.map_id_mark]
    exact ht.bookings

theorem contains_marked (e : Entity) :
    (tree.marked note reasonOf marked).contains e = tree.contains e := by
  rw [contains_eq_isSome, contains_eq_isSome, record?_marked, Option.isSome_map]

/-- Marks record no arrivals. -/
theorem hasArrived_marked (id : BookingId) :
    (tree.marked note reasonOf marked).hasArrived id = tree.hasArrived id := by
  unfold hasArrived Tree.marked
  rw [List.any_map]
  refine congrArg tree.bookings.any (funext fun b => ?_)
  have hid : (TreeNode.mark note reasonOf marked b).id = b.id := Booking.namedBy.id_mark b
  have harrival : (TreeNode.mark note reasonOf marked b).hasArrival = b.hasArrival :=
    TreeNode.apply_mark (fun _ _ => rfl) b
  rw [Function.comp_apply, hid, harrival]

/-- **What is marked is not open any more**, and other nodes are as open as they were. -/
theorem isOpen_marked (ht : tree.DistinctIds) (e : Entity) :
    (tree.marked note reasonOf marked).isOpen e = (tree.isOpen e && decide (e ∉ marked)) := by
  rw [isOpen_eq_any (distinctIds_marked ht), isOpen_eq_any ht, record?_marked]
  cases hr : tree.record? e with
  | none => rfl
  | some r =>
    show TreeNode.isOpen (TreeNode.mark note reasonOf marked r) = (TreeNode.isOpen r && _)
    by_cases hmem : e ∈ marked
    · rw [TreeNode.mark_of_mem (by rwa [entity_of_record? hr]), TreeNode.isOpen_stamp,
        decide_eq_false (not_not_intro hmem), Bool.and_false]
    · rw [TreeNode.mark_of_not_mem (by rwa [entity_of_record? hr]), decide_eq_true hmem,
        Bool.and_true]

end Marked

end Tree

end Bedspace
