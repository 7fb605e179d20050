import Bedspace.Application.Cascade
import Mathlib.Data.List.Nodup

/-!
# The nodes of a tree, from above to below

What a withdrawal should reach, said without following its passes.

* `Tree.Child` puts nodes directly below one another, `Tree.isOpen` says which of them a withdrawal
  still takes along; `Tree.Affected` is the least set that holds an open target and goes on from
  each of its nodes to the open children;
* `Tree.visits` lists the nodes that are looked at on the way down from a node, passed-over ones
  too, each before what is below it;
* **`Tree.mem_visits_iff`**: the open ones among them are the affected nodes;
* **`Tree.nodup_visits`**: if identifiers tell the nodes of a tree apart, none is looked at twice.
-/

namespace Bedspace

/-! ## 1. Records as nodes -/

/-- A kind of record that is a node of a tree: which node it is, whether a withdrawal still takes it
    along, and what becomes of it then. -/
class TreeNode (α : Type) where
  entity : α → Entity
  isOpen : α → Bool
  stamp : WithdrawalNote → WithdrawalReason → α → α
  entity_stamp : ∀ note reason a, entity (stamp note reason a) = entity a
  isOpen_stamp : ∀ note reason a, isOpen (stamp note reason a) = false

instance : TreeNode Application where
  entity a := .application a.id
  isOpen a := !a.isWithdrawn
  stamp note reason a :=
    { a with status := .withdrawn, withdrawal := some (note.withdrawal reason) }
  entity_stamp _ _ _ := rfl
  isOpen_stamp _ _ _ := rfl

instance : TreeNode Assessment where
  entity a := .assessment a.id
  isOpen a := !a.withdrawn && a.reallocatedOn.isNone
  stamp _ _ a := { a with withdrawn := true }
  entity_stamp _ _ _ := rfl
  isOpen_stamp _ _ _ := rfl

instance : TreeNode PlacementApplication where
  entity p := .placementApplication p.id
  isOpen p := !p.isWithdrawn
  stamp note reason p := { p with withdrawal := some (note.withdrawal reason) }
  entity_stamp _ _ _ := rfl
  isOpen_stamp _ _ _ := rfl

instance : TreeNode PlacementRequest where
  entity r := .placementRequest r.id
  isOpen r := !r.isWithdrawn
  stamp note reason r := { r with withdrawal := some (note.withdrawal reason) }
  entity_stamp _ _ _ := rfl
  isOpen_stamp _ _ _ := rfl

instance : TreeNode Booking where
  entity b := .booking b.id
  isOpen b := !b.hasArrival && !b.isCancelled
  stamp note reason b := { b with cancellation := some (note.cancellation reason) }
  entity_stamp _ _ _ := rfl
  isOpen_stamp _ _ _ := Bool.and_false _

theorem Application.isOpen_iff {a : Application} :
    TreeNode.isOpen a = true ↔ a.isWithdrawn = false := by
  simp [TreeNode.isOpen]

theorem Assessment.isOpen_iff {a : Assessment} :
    TreeNode.isOpen a = true ↔ a.withdrawn = false ∧ a.reallocatedOn = none := by
  simp [TreeNode.isOpen]

theorem Assessment.isPending_iff {a : Assessment} :
    a.isPending = true ↔ a.decision = none ∧ a.reallocatedOn = none ∧ a.withdrawn = false := by
  simp [isPending, and_assoc]

theorem PlacementApplication.isOpen_iff {p : PlacementApplication} :
    TreeNode.isOpen p = true ↔ p.isWithdrawn = false := by
  simp [TreeNode.isOpen]

theorem PlacementRequest.isOpen_iff {r : PlacementRequest} :
    TreeNode.isOpen r = true ↔ r.isWithdrawn = false := by
  simp [TreeNode.isOpen]

theorem Booking.isOpen_iff {b : Booking} :
    TreeNode.isOpen b = true ↔ b.hasArrival = false ∧ b.isCancelled = false := by
  simp [TreeNode.isOpen]

/-! ## 2. Nodes below nodes -/

/-- The reason that a withdrawn node hands down to what is directly below it. Only applications,
    placement applications and placement requests have anything below them. -/
def Entity.reasonBelow : Entity → WithdrawalReason
  | .application _ => .relatedApplicationWithdrawn
  | .placementApplication _ => .relatedPlacementApplicationWithdrawn
  | .placementRequest _ => .relatedPlacementRequestWithdrawn
  | .assessment _ => .relatedApplicationWithdrawn
  | .booking _ => .relatedApplicationWithdrawn

/-- Identifiers tell the nodes of each kind apart. -/
structure Tree.DistinctIds (tree : Tree) : Prop where
  assessments : (tree.assessments.map Assessment.id).Nodup
  placements : (tree.placementApplications.map PlacementApplication.id).Nodup
  requests : (tree.placementRequests.map PlacementRequest.id).Nodup
  bookings : (tree.bookings.map Booking.id).Nodup

namespace Tree

/-- **A node is directly below another one**: what names no placement application or no placement
    request hangs on the application itself. -/
inductive Child (tree : Tree) : Entity → Entity → Prop where
  | assessment (a : Assessment) (h : a ∈ tree.assessments) :
      Child tree (.application tree.application.id) (.assessment a.id)
  | placement (p : PlacementApplication) (h : p ∈ tree.placementApplications) :
      Child tree (.application tree.application.id) (.placementApplication p.id)
  | firstRequest (r : PlacementRequest) (h : r ∈ tree.placementRequests)
      (hp : r.placementApplicationId = none) :
      Child tree (.application tree.application.id) (.placementRequest r.id)
  | ownBooking (b : Booking) (h : b ∈ tree.bookings) (hr : b.placementRequestId = none) :
      Child tree (.application tree.application.id) (.booking b.id)
  | request (r : PlacementRequest) (h : r ∈ tree.placementRequests) (id : PlacementApplicationId)
      (hp : r.placementApplicationId = some id) :
      Child tree (.placementApplication id) (.placementRequest r.id)
  | booking (b : Booking) (h : b ∈ tree.bookings) (id : PlacementRequestId)
      (hr : b.placementRequestId = some id) : Child tree (.placementRequest id) (.booking b.id)

/-- Whether a node is in the tree and a withdrawal still takes it along. -/
def isOpen (tree : Tree) : Entity → Bool
  | .application id => tree.application.id = id && TreeNode.isOpen tree.application
  | .assessment id => tree.assessments.any fun a => a.id = id && TreeNode.isOpen a
  | .placementApplication id =>
    tree.placementApplications.any fun p => p.id = id && TreeNode.isOpen p
  | .placementRequest id => tree.placementRequests.any fun r => r.id = id && TreeNode.isOpen r
  | .booking id => tree.bookings.any fun b => b.id = id && TreeNode.isOpen b

/-- **The nodes that the withdrawal of a target takes along**: the target, if it is open, and every
    open child of a node that is taken along. -/
inductive Affected (tree : Tree) (target : Entity) : Entity → Prop where
  | target (h : tree.isOpen target = true) : Affected tree target target
  | child (parent child : Entity) (hparent : Affected tree target parent)
      (h : tree.Child parent child) (hopen : tree.isOpen child = true) :
      Affected tree target child

/-- How far a node is from the lowest ones. -/
def height : Entity → Nat
  | .application _ => 3
  | .placementApplication _ => 2
  | .placementRequest _ => 1
  | .assessment _ => 0
  | .booking _ => 0

variable {tree : Tree}

theorem Child.height_lt {parent child : Entity} (h : tree.Child parent child) :
    height child < height parent := by
  cases h <;> exact Nat.le_of_ble_eq_true rfl

/-! ## 3. Looking nodes up -/

section Lookup

variable {α ι : Type} [DecidableEq ι] {id : α → ι} {xs : List α}

theorem find?_of_mem (hxs : (xs.map id).Nodup) {x : α} (hx : x ∈ xs) :
    xs.find? (fun y => id y = id x) = some x := by
  cases h : xs.find? (fun y => id y = id x) with
  | none => exact absurd (decide_eq_true rfl) (List.find?_eq_none.1 h x hx)
  | some y =>
    have hid : id y = id x := by simpa using List.find?_some h
    exact congrArg some (List.inj_on_of_nodup_map hxs (List.mem_of_find?_eq_some h) hx hid)

theorem any_of_mem (hxs : (xs.map id).Nodup) {x : α} (hx : x ∈ xs) (p : α → Bool) :
    (xs.any fun y => id y = id x && p y) = p x := by
  cases hp : p x with
  | true => exact List.any_eq_true.2 ⟨x, hx, by rw [decide_eq_true rfl, hp]; rfl⟩
  | false =>
    refine List.any_eq_false.2 fun y hy h => ?_
    rw [Bool.and_eq_true, decide_eq_true_eq] at h
    obtain rfl := List.inj_on_of_nodup_map hxs hy hx h.1
    rw [hp] at h
    exact Bool.false_ne_true h.2

end Lookup

/-- The node directly above a node. -/
def parent? (tree : Tree) : Entity → Option Entity
  | .application _ => none
  | .assessment _ => some (.application tree.application.id)
  | .placementApplication _ => some (.application tree.application.id)
  | .placementRequest id =>
    (tree.placementRequests.find? fun r => r.id = id).map fun r =>
      (r.placementApplicationId.map Entity.placementApplication).getD
        (.application tree.application.id)
  | .booking id =>
    (tree.bookings.find? fun b => b.id = id).map fun b =>
      (b.placementRequestId.map Entity.placementRequest).getD (.application tree.application.id)

theorem Child.parent? (ht : tree.DistinctIds) {parent child : Entity}
    (h : tree.Child parent child) : tree.parent? child = some parent := by
  unfold Tree.parent?
  cases h with
  | assessment a h => rfl
  | placement p h => rfl
  | firstRequest r h hp =>
    dsimp only
    rw [find?_of_mem ht.requests h, Option.map_some, hp]
    rfl
  | ownBooking b h hr =>
    dsimp only
    rw [find?_of_mem ht.bookings h, Option.map_some, hr]
    rfl
  | request r h id hp =>
    dsimp only
    rw [find?_of_mem ht.requests h, Option.map_some, hp]
    rfl
  | booking b h id hr =>
    dsimp only
    rw [find?_of_mem ht.bookings h, Option.map_some, hr]
    rfl

/-- A node is directly below one other node at most. -/
theorem Child.parent_unique (ht : tree.DistinctIds) {p q child : Entity} (hp : tree.Child p child)
    (hq : tree.Child q child) : p = q :=
  Option.some.inj ((hp.parent? ht).symm.trans (hq.parent? ht))

/-! ## 4. Lists of children -/

/-- The nodes directly below a node, in the order in which a withdrawal comes to them. -/
def children (tree : Tree) : Entity → List Entity
  | .application id =>
    if tree.application.id = id then
      tree.assessments.map (fun a => .assessment a.id)
        ++ tree.placementApplications.map (fun p => .placementApplication p.id)
        ++ (tree.placementRequests.filter fun r => r.placementApplicationId.isNone).map
          (fun r => .placementRequest r.id)
        ++ (tree.bookings.filter fun b => b.placementRequestId.isNone).map
          (fun b => .booking b.id)
    else []
  | .placementApplication id =>
    (tree.placementRequests.filter fun r => r.placementApplicationId = some id).map
      (fun r => .placementRequest r.id)
  | .placementRequest id =>
    (tree.bookings.filter fun b => b.placementRequestId = some id).map (fun b => .booking b.id)
  | .assessment _ => []
  | .booking _ => []

theorem mem_children_iff {parent child : Entity} :
    child ∈ tree.children parent ↔ tree.Child parent child := by
  constructor
  · intro h
    cases parent with
    | application id =>
      by_cases hid : tree.application.id = id
      · subst hid
        simp only [children, if_true, List.mem_append, List.mem_map, List.mem_filter,
          Option.isNone_iff_eq_none] at h
        rcases h with ((⟨a, ha, rfl⟩ | ⟨p, hp, rfl⟩) | ⟨r, ⟨hr, hn⟩, rfl⟩) | ⟨b, ⟨hb, hn⟩, rfl⟩
        · exact .assessment a ha
        · exact .placement p hp
        · exact .firstRequest r hr hn
        · exact .ownBooking b hb hn
      · simp only [children, if_neg hid, List.not_mem_nil] at h
    | placementApplication id =>
      simp only [children, List.mem_map, List.mem_filter, decide_eq_true_eq] at h
      obtain ⟨r, ⟨hr, hs⟩, rfl⟩ := h
      exact .request r hr id hs
    | placementRequest id =>
      simp only [children, List.mem_map, List.mem_filter, decide_eq_true_eq] at h
      obtain ⟨b, ⟨hb, hs⟩, rfl⟩ := h
      exact .booking b hb id hs
    | assessment id => cases h
    | booking id => cases h
  · intro h
    cases h with
    | assessment a ha => simpa [children] using ⟨a, ha, rfl⟩
    | placement p hp => simpa [children] using ⟨p, hp, rfl⟩
    | firstRequest r hr hn => simpa [children] using ⟨r, ⟨hr, hn⟩, rfl⟩
    | ownBooking b hb hn => simpa [children] using ⟨b, ⟨hb, hn⟩, rfl⟩
    | request r hr id hs => simpa [children] using ⟨r, ⟨hr, hs⟩, rfl⟩
    | booking b hb id hs => simpa [children] using ⟨b, ⟨hb, hs⟩, rfl⟩

theorem nodup_entities {α ι : Type} {id : α → ι} {node : ι → Entity}
    (hnode : ∀ i j, node i = node j → i = j) {xs ys : List α} (hxs : (xs.map id).Nodup)
    (hys : ys.Sublist xs) : (ys.map fun y => node (id y)).Nodup := by
  have h : ((ys.map id).map node).Nodup := (hxs.sublist (hys.map id)).map fun i j => hnode i j
  rw [List.map_map] at h
  exact h

theorem nodup_children (ht : tree.DistinctIds) (parent : Entity) :
    (tree.children parent).Nodup := by
  have requests (ys : List PlacementRequest) (hys : ys.Sublist tree.placementRequests) :
      (ys.map fun r => Entity.placementRequest r.id).Nodup :=
    nodup_entities (fun _ _ => Entity.placementRequest.inj) ht.requests hys
  have bookings (ys : List Booking) (hys : ys.Sublist tree.bookings) :
      (ys.map fun b => Entity.booking b.id).Nodup :=
    nodup_entities (fun _ _ => Entity.booking.inj) ht.bookings hys
  cases parent with
  | application id =>
    unfold children
    dsimp only
    split
    · -- the four kinds have no node in common
      refine List.nodup_append.2 ⟨List.nodup_append.2 ⟨List.nodup_append.2 ⟨?_, ?_, ?_⟩, ?_, ?_⟩,
        ?_, ?_⟩
      · exact nodup_entities (fun _ _ => Entity.assessment.inj) ht.assessments (.refl _)
      · exact nodup_entities (fun _ _ => Entity.placementApplication.inj) ht.placements (.refl _)
      · simp
      · exact requests _ List.filter_sublist
      · rintro _ ha _ hb rfl
        obtain ⟨r, _, rfl⟩ := List.mem_map.1 hb
        simp at ha
      · exact bookings _ List.filter_sublist
      · rintro _ ha _ hb rfl
        obtain ⟨b, _, rfl⟩ := List.mem_map.1 hb
        simp at ha
    · exact List.nodup_nil
  | placementApplication id => exact requests _ List.filter_sublist
  | placementRequest id => exact bookings _ List.filter_sublist
  | assessment id => exact List.nodup_nil
  | booking id => exact List.nodup_nil

/-! ## 5. The way down -/

/-- The nodes that are looked at on the way down from a node, in that order: the node itself and,
    if it is open, those that are looked at from each of its children. -/
def visits (tree : Tree) (node : Entity) : List Entity :=
  node ::
    if tree.isOpen node then
      (tree.children node).attach.flatMap fun ⟨child, _⟩ => tree.visits child
    else []
termination_by height node
decreasing_by
  rename_i h
  exact (mem_children_iff.1 h).height_lt

theorem visits_eq (tree : Tree) (node : Entity) :
    tree.visits node =
      node :: if tree.isOpen node then (tree.children node).flatMap tree.visits else [] := by
  have h : ((tree.children node).attach.flatMap fun child => tree.visits child.1)
      = (tree.children node).flatMap tree.visits := by
    rw [← List.flatMap_map Subtype.val tree.visits, List.attach_map_subtype_val]
  rw [← h, visits]

/-- A node is looked at on the way down from another one. -/
inductive Reached (tree : Tree) (root : Entity) : Entity → Prop where
  | root : Reached tree root root
  | child (parent child : Entity) (hparent : Reached tree root parent)
      (hopen : tree.isOpen parent = true) (h : tree.Child parent child) : Reached tree root child

/-- What holds of a node if it holds of its children holds of every node. -/
theorem descend (tree : Tree) {motive : Entity → Prop}
    (h : ∀ node, (∀ child, tree.Child node child → motive child) → motive node) (node : Entity) :
    motive node :=
  h node fun child _ => descend tree h child
termination_by height node
decreasing_by
  rename_i hchild
  exact hchild.height_lt

theorem mem_visits {node e : Entity} :
    e ∈ tree.visits node ↔
      e = node ∨ tree.isOpen node = true ∧ ∃ child, tree.Child node child ∧ e ∈ tree.visits child := by
  rw [visits_eq, List.mem_cons]
  refine or_congr Iff.rfl ?_
  split
  · rename_i hopen
    simp only [List.mem_flatMap, mem_children_iff, hopen, true_and]
  · rename_i hclosed
    exact iff_of_false List.not_mem_nil fun h => hclosed h.1

theorem visits_child (root : Entity) {parent child : Entity} (hp : parent ∈ tree.visits root)
    (hopen : tree.isOpen parent = true) (h : tree.Child parent child) :
    child ∈ tree.visits root := by
  induction root using descend tree with
  | h root ih =>
    rcases mem_visits.1 hp with rfl | ⟨hroot, c, hc, hp⟩
    · exact mem_visits.2 (.inr ⟨hopen, child, h, mem_visits.2 (.inl rfl)⟩)
    · exact mem_visits.2 (.inr ⟨hroot, c, hc, ih c hc hp⟩)

theorem mem_visits_iff_reached {root e : Entity} : e ∈ tree.visits root ↔ tree.Reached root e := by
  constructor
  · have down (node : Entity) : tree.Reached root node → e ∈ tree.visits node →
        tree.Reached root e := by
      induction node using descend tree with
      | h node ih =>
        intro hr he
        rcases mem_visits.1 he with rfl | ⟨hopen, c, hc, he⟩
        · exact hr
        · exact ih c hc (.child node c hr hopen hc) he
    exact down root .root
  · intro h
    induction h with
    | root => exact mem_visits.2 (.inl rfl)
    | child parent child _ hopen h ih => exact visits_child root ih hopen h

/-- **The open nodes among those that are looked at are the affected ones.** -/
theorem mem_visits_iff {root e : Entity} :
    e ∈ tree.visits root ∧ tree.isOpen e = true ↔ tree.Affected root e := by
  rw [mem_visits_iff_reached]
  constructor
  · rintro ⟨hr, hopen⟩
    induction hr with
    | root => exact .target hopen
    | child parent child _ hp h ih => exact .child parent child (ih hp) h hopen
  · intro h
    induction h with
    | target h => exact ⟨.root, h⟩
    | child parent child _ h hopen ih => exact ⟨.child parent child ih.1 ih.2 h, hopen⟩

/-! ## 6. No node is looked at twice -/

theorem Reached.height_le {root e : Entity} (h : tree.Reached root e) : height e ≤ height root := by
  induction h with
  | root => exact Nat.le_refl _
  | child parent child _ _ h ih => exact Nat.le_trans (Nat.le_of_lt h.height_lt) ih

/-- Of two nodes from which one node is reached, one is reached from the other. -/
theorem Reached.comparable (ht : tree.DistinctIds) {c d e : Entity} (hc : tree.Reached c e)
    (hd : tree.Reached d e) : tree.Reached c d ∨ tree.Reached d c := by
  induction hc with
  | root => exact .inr hd
  | child p e hp hopen h ih =>
    cases hd with
    | root => exact .inl (.child p d hp hopen h)
    | child q _ hq hopen' h' => exact ih (h.parent_unique ht h' ▸ hq)

theorem Reached.eq_of_siblings (ht : tree.DistinctIds) {parent c d : Entity}
    (hc : tree.Child parent c) (hd : tree.Child parent d) (h : tree.Reached c d) : c = d := by
  cases h with
  | root => rfl
  | child p _ hp hopen h =>
    rw [h.parent_unique ht hd] at hp
    exact absurd hc.height_lt (Nat.not_lt_of_le hp.height_le)

/-- **If identifiers tell the nodes apart, no node is looked at twice.** -/
theorem nodup_visits (ht : tree.DistinctIds) (node : Entity) : (tree.visits node).Nodup := by
  induction node using descend tree with
  | h node ih =>
    rw [visits_eq, List.nodup_cons]
    split
    · constructor
      · intro h
        obtain ⟨c, hc, hnode⟩ := List.mem_flatMap.1 h
        have hle := (mem_visits_iff_reached.1 hnode).height_le
        exact absurd (mem_children_iff.1 hc).height_lt (Nat.not_lt_of_le hle)
      · refine List.nodup_flatMap.2 ⟨fun c hc => ih c (mem_children_iff.1 hc), ?_⟩
        refine (nodup_children ht node).imp_of_mem fun {c d} hc hd hne e hec hed => hne ?_
        have hc := mem_children_iff.1 hc
        have hd := mem_children_iff.1 hd
        rcases (mem_visits_iff_reached.1 hec).comparable ht (mem_visits_iff_reached.1 hed) with h | h
        · exact h.eq_of_siblings ht hc hd
        · exact (h.eq_of_siblings ht hd hc).symm
    · exact ⟨List.not_mem_nil, List.nodup_nil⟩

end Tree

end Bedspace
