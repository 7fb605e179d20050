import Bedspace.Proofs.Cascade.Nodes

/-!
# The passes of a withdrawal, node by node

The passes of a withdrawal look nodes up again and again in a tree that they change meanwhile. Where
identifiers tell the nodes apart, all of it comes to this: having looked at some nodes, a withdrawal
has marked the open ones among them and noted the others (`Cascade.course`), and a pass over a node
adds the nodes of `Tree.visits` to them.

* `Tree.marked` marks nodes of a tree all at once; the marks of a withdrawal carry its note and a
  reason for each node;
* `Cascade.course_booking` and the like follow one pass; `Cascade.course_foldl` follows a pass that
  is made for each of several nodes;
* **`Tree.withdraw_eq`**: a withdrawal that gets under way marks the open nodes that it looks at,
  each for the reason that the node above it hands down.
-/

namespace Bedspace

/-! ## 1. Marking nodes -/

namespace TreeNode

variable {α ι : Type} [TreeNode α] (note : WithdrawalNote) (reasonOf : Entity → WithdrawalReason)

/-- A record with its mark, if it is one of the marked nodes. -/
def mark (marked : List Entity) (a : α) : α :=
  if entity a ∈ marked then stamp note (reasonOf (entity a)) a else a

variable {note reasonOf} {marked : List Entity}

theorem mark_of_mem {a : α} (h : entity a ∈ marked) :
    mark note reasonOf marked a = stamp note (reasonOf (entity a)) a :=
  if_pos h

theorem mark_of_not_mem {a : α} (h : entity a ∉ marked) : mark note reasonOf marked a = a :=
  if_neg h

/-- What stamps leave alone is left alone by marks. -/
theorem apply_mark {β : Type} {f : α → β} (hf : ∀ reason a, f (stamp note reason a) = f a) (a : α) :
    f (mark note reasonOf marked a) = f a := by
  unfold mark
  split
  · exact hf _ a
  · rfl

theorem entity_mark (a : α) : entity (mark note reasonOf marked a) = entity a :=
  apply_mark (entity_stamp note) a

theorem mark_append_of_not_mem {extra : List Entity} {a : α} (h : entity a ∉ extra) :
    mark note reasonOf (marked ++ extra) a = mark note reasonOf marked a := by
  unfold mark
  simp only [List.mem_append, h, or_false]

theorem map_mark_append {extra : List Entity} {xs : List α} (h : ∀ a ∈ xs, entity a ∉ extra) :
    xs.map (mark note reasonOf (marked ++ extra)) = xs.map (mark note reasonOf marked) :=
  List.map_congr_left fun a ha => mark_append_of_not_mem (h a ha)

/-- The records of a kind are named by their identifiers. -/
structure NamedBy (id : α → ι) (node : ι → Entity) : Prop where
  injective : ∀ i j, node i = node j → i = j
  entity_eq : ∀ a, entity a = node (id a)

variable {id : α → ι} {node : ι → Entity} (hn : NamedBy id node) {xs : List α}

include hn

theorem NamedBy.id_mark (a : α) : id (mark note reasonOf marked a) = id a := by
  refine hn.injective _ _ ?_
  rw [← hn.entity_eq, ← hn.entity_eq, entity_mark]

theorem NamedBy.map_id_mark :
    (xs.map (mark note reasonOf marked)).map id = xs.map id := by
  rw [List.map_map]
  exact List.map_congr_left fun x _ => hn.id_mark x

/-- What a condition selects among marked records, if marks make no difference to it. -/
theorem NamedBy.ids_filter_mark {p : α → Bool} (hp : ∀ a, p (mark note reasonOf marked a) = p a) :
    ((xs.map (mark note reasonOf marked)).filter p).map id = (xs.filter p).map id := by
  rw [List.filter_map, hn.map_id_mark]
  exact congrArg (fun ys => List.map id ys) (List.filter_congr fun a _ => hp a)

variable [DecidableEq ι] (hxs : (xs.map id).Nodup)

include hxs

/-- A record whose node is not marked is found among the marked ones as it is. -/
theorem NamedBy.find?_mark {a : α} (ha : a ∈ xs) (hmarked : node (id a) ∉ marked) :
    (xs.map (mark note reasonOf marked)).find? (fun x => id x = id a) = some a := by
  have hself : mark note reasonOf marked a = a :=
    mark_of_not_mem (by rw [hn.entity_eq]; exact hmarked)
  have hids : ((xs.map (mark note reasonOf marked)).map id).Nodup := by
    rw [hn.map_id_mark]
    exact hxs
  exact Tree.find?_of_mem hids (List.mem_map.2 ⟨a, ha, hself⟩)

/-- Changing the first record with an identifier to what its mark makes of it marks its node. -/
theorem NamedBy.updateFirst_mark {i : ι} (hmarked : node i ∉ marked) :
    updateFirst (fun x => id x = i) (stamp note (reasonOf (node i)))
        (xs.map (mark note reasonOf marked)) =
      xs.map (mark note reasonOf (marked ++ [node i])) := by
  induction xs with
  | nil => rfl
  | cons a xs ih =>
    obtain ⟨hnotin, hxs⟩ := List.nodup_cons.1 hxs
    rw [List.map_cons, List.map_cons, updateFirst, hn.id_mark]
    by_cases hid : id a = i
    · subst hid
      have hrest : ∀ x ∈ xs, entity x ∉ [node (id a)] := by
        intro x hx hmem
        rw [hn.entity_eq, List.mem_singleton] at hmem
        exact hnotin (hn.injective _ _ hmem ▸ List.mem_map.2 ⟨x, hx, rfl⟩)
      have hself : mark note reasonOf marked a = a :=
        mark_of_not_mem (by rw [hn.entity_eq]; exact hmarked)
      have hnow : entity a ∈ marked ++ [node (id a)] := by
        rw [hn.entity_eq]
        exact List.mem_append_right _ List.mem_cons_self
      rw [if_pos (decide_eq_true rfl), map_mark_append hrest, hself, mark_of_mem hnow,
        hn.entity_eq]
    · have hne : entity a ∉ [node i] := by
        rw [hn.entity_eq, List.mem_singleton]
        exact fun h => hid (hn.injective _ _ h)
      rw [if_neg (by simpa using hid), ih hxs, mark_append_of_not_mem hne]

end TreeNode

theorem PlacementApplication.namedBy :
    TreeNode.NamedBy PlacementApplication.id Entity.placementApplication :=
  ⟨fun _ _ => Entity.placementApplication.inj, fun _ => rfl⟩

theorem PlacementRequest.namedBy : TreeNode.NamedBy PlacementRequest.id Entity.placementRequest :=
  ⟨fun _ _ => Entity.placementRequest.inj, fun _ => rfl⟩

theorem Booking.namedBy : TreeNode.NamedBy Booking.id Entity.booking :=
  ⟨fun _ _ => Entity.booking.inj, fun _ => rfl⟩

/-- A mark leaves the placement application of a request as it is. -/
theorem PlacementRequest.placementApplicationId_mark {note : WithdrawalNote}
    {reasonOf : Entity → WithdrawalReason} {marked : List Entity} (r : PlacementRequest) :
    (TreeNode.mark note reasonOf marked r).placementApplicationId = r.placementApplicationId :=
  TreeNode.apply_mark (fun _ _ => rfl) r

/-- A mark leaves the placement request of a booking as it is. -/
theorem Booking.placementRequestId_mark {note : WithdrawalNote}
    {reasonOf : Entity → WithdrawalReason} {marked : List Entity} (b : Booking) :
    (TreeNode.mark note reasonOf marked b).placementRequestId = b.placementRequestId :=
  TreeNode.apply_mark (fun _ _ => rfl) b

/-- The tree with marks on some of its nodes. -/
def Tree.marked (tree : Tree) (note : WithdrawalNote) (reasonOf : Entity → WithdrawalReason)
    (marked : List Entity) : Tree where
  application := TreeNode.mark note reasonOf marked tree.application
  assessments := tree.assessments.map (TreeNode.mark note reasonOf marked)
  placementApplications := tree.placementApplications.map (TreeNode.mark note reasonOf marked)
  placementRequests := tree.placementRequests.map (TreeNode.mark note reasonOf marked)
  bookings := tree.bookings.map (TreeNode.mark note reasonOf marked)

section Marked

variable {tree : Tree} {note : WithdrawalNote} {reasonOf : Entity → WithdrawalReason}
  {marked : List Entity}

theorem Tree.marked_nil : tree.marked note reasonOf [] = tree := by
  unfold marked TreeNode.mark
  simp

theorem Tree.marked_application (id : ApplicationId) :
    tree.marked note reasonOf (marked ++ [.application id]) =
      { tree.marked note reasonOf marked with
        application :=
          TreeNode.mark note reasonOf (marked ++ [.application id]) tree.application } := by
  simp (disch := simp [TreeNode.entity]) only [Tree.marked, TreeNode.map_mark_append]

theorem Tree.marked_assessments (ids : List AssessmentId) :
    tree.marked note reasonOf (marked ++ ids.map .assessment) =
      { tree.marked note reasonOf marked with
        assessments :=
          tree.assessments.map (TreeNode.mark note reasonOf (marked ++ ids.map .assessment)) } := by
  simp (disch := simp [TreeNode.entity]) only [Tree.marked, TreeNode.map_mark_append,
    TreeNode.mark_append_of_not_mem]

theorem Tree.marked_placementApplication (id : PlacementApplicationId) :
    tree.marked note reasonOf (marked ++ [.placementApplication id]) =
      { tree.marked note reasonOf marked with
        placementApplications :=
          tree.placementApplications.map
            (TreeNode.mark note reasonOf (marked ++ [.placementApplication id])) } := by
  simp (disch := simp [TreeNode.entity]) only [Tree.marked, TreeNode.map_mark_append,
    TreeNode.mark_append_of_not_mem]

theorem Tree.marked_placementRequest (id : PlacementRequestId) :
    tree.marked note reasonOf (marked ++ [.placementRequest id]) =
      { tree.marked note reasonOf marked with
        placementRequests :=
          tree.placementRequests.map
            (TreeNode.mark note reasonOf (marked ++ [.placementRequest id])) } := by
  simp (disch := simp [TreeNode.entity]) only [Tree.marked, TreeNode.map_mark_append,
    TreeNode.mark_append_of_not_mem]

theorem Tree.marked_booking (id : BookingId) :
    tree.marked note reasonOf (marked ++ [.booking id]) =
      { tree.marked note reasonOf marked with
        bookings :=
          tree.bookings.map (TreeNode.mark note reasonOf (marked ++ [.booking id])) } := by
  simp (disch := simp [TreeNode.entity]) only [Tree.marked, TreeNode.map_mark_append,
    TreeNode.mark_append_of_not_mem]

end Marked

/-! ## 2. What has been done after some nodes -/

namespace Tree

variable {tree : Tree}

/-- Why a node that is not open is passed over. -/
def skipReason (tree : Tree) : Entity → SkipReason
  | .application _ => .alreadyWithdrawn
  | .assessment id =>
    if tree.assessments.any fun a => a.id = id && a.withdrawn then .alreadyWithdrawn
    else .reallocated
  | .placementApplication _ => .alreadyWithdrawn
  | .placementRequest _ => .alreadyWithdrawn
  | .booking id => if tree.hasArrived id then .arrivalRecorded else .alreadyCancelled

/-- The note of a node that is passed over. -/
def passedOver? (tree : Tree) (node : Entity) : Option SkippedEntity :=
  if tree.isOpen node then none else some ⟨node, tree.skipReason node⟩

theorem isOpen_assessment (ht : tree.DistinctIds) {a : Assessment} (ha : a ∈ tree.assessments) :
    tree.isOpen (.assessment a.id) = TreeNode.isOpen a :=
  any_of_mem ht.assessments ha TreeNode.isOpen

theorem isOpen_placementApplication (ht : tree.DistinctIds) {p : PlacementApplication}
    (hp : p ∈ tree.placementApplications) :
    tree.isOpen (.placementApplication p.id) = TreeNode.isOpen p :=
  any_of_mem ht.placements hp TreeNode.isOpen

theorem isOpen_placementRequest (ht : tree.DistinctIds) {r : PlacementRequest}
    (hr : r ∈ tree.placementRequests) :
    tree.isOpen (.placementRequest r.id) = TreeNode.isOpen r :=
  any_of_mem ht.requests hr TreeNode.isOpen

theorem isOpen_booking (ht : tree.DistinctIds) {b : Booking} (hb : b ∈ tree.bookings) :
    tree.isOpen (.booking b.id) = TreeNode.isOpen b :=
  any_of_mem ht.bookings hb TreeNode.isOpen

theorem isOpen_application :
    tree.isOpen (.application tree.application.id) = TreeNode.isOpen tree.application := by
  show (decide (tree.application.id = tree.application.id) && _) = _
  rw [decide_eq_true rfl, Bool.true_and]

/-- What a withdrawal has come to when it has looked at some nodes. -/
def course (tree : Tree) (note : WithdrawalNote) (reasonOf : Entity → WithdrawalReason)
    (visited : List Entity) : Cascade where
  tree := tree.marked note reasonOf (visited.filter tree.isOpen)
  withdrawn := visited.filter tree.isOpen
  skipped := visited.filterMap tree.passedOver?

end Tree

namespace Cascade

variable {tree : Tree} {note : WithdrawalNote} {reasonOf : Entity → WithdrawalReason}
  {visited : List Entity} {reason : WithdrawalReason}

theorem course_nil : tree.course note reasonOf [] = ⟨tree, [], []⟩ := by
  unfold Tree.course
  rw [List.filter_nil, Tree.marked_nil]
  rfl

/-- Passing over a node that is not open. -/
theorem course_skip {node : Entity} (hclosed : tree.isOpen node = false) :
    (tree.course note reasonOf visited).skip node (tree.skipReason node) =
      tree.course note reasonOf (visited ++ [node]) := by
  unfold skip Tree.course
  have hpassed : tree.passedOver? node = some ⟨node, tree.skipReason node⟩ := by
    unfold Tree.passedOver?
    rw [hclosed]
    rfl
  simp only [List.filter_append, List.filterMap_append, List.filter_cons, List.filter_nil, hclosed,
    List.filterMap_cons, List.filterMap_nil, hpassed, Bool.false_eq_true, if_false,
    List.append_nil]

/-- Marking a node that is open. -/
theorem course_mark {node : Entity} {tree' : Tree} (hopen : tree.isOpen node = true)
    (htree : tree' = tree.marked note reasonOf (visited.filter tree.isOpen ++ [node])) :
    (tree.course note reasonOf visited).mark node tree' =
      tree.course note reasonOf (visited ++ [node]) := by
  unfold mark Tree.course
  have hpassed : tree.passedOver? node = none := by
    unfold Tree.passedOver?
    rw [hopen]
    rfl
  simp only [List.filter_append, List.filterMap_append, List.filter_cons, List.filter_nil, hopen,
    List.filterMap_cons, List.filterMap_nil, hpassed, if_true, List.append_nil, htree]

theorem not_mem_filter {p : Entity → Bool} {node : Entity} (h : node ∉ visited) :
    node ∉ visited.filter p :=
  fun hmem => h (List.mem_filter.1 hmem).1

/-! ## 3. One pass after the other -/

theorem visits_of_closed {node : Entity} (h : tree.isOpen node = false) :
    tree.visits node = [node] := by
  rw [Tree.visits_eq, h]
  rfl

theorem visits_of_childless {node : Entity} (h : tree.children node = []) :
    tree.visits node = [node] := by
  rw [Tree.visits_eq, h, List.flatMap_nil, ite_self]

theorem flatMap_visits_of_childless {nodes : List Entity}
    (h : ∀ node ∈ nodes, tree.children node = []) : nodes.flatMap tree.visits = nodes := by
  induction nodes with
  | nil => rfl
  | cons node nodes ih =>
    rw [List.flatMap_cons, visits_of_childless (h node List.mem_cons_self),
      ih fun node hnode => h node (List.mem_cons_of_mem _ hnode)]
    rfl

theorem visits_of_open {node : Entity} (h : tree.isOpen node = true) :
    tree.visits node = node :: (tree.children node).flatMap tree.visits := by
  rw [Tree.visits_eq, h, if_pos rfl]

/-- **A pass that is made for several nodes** looks at what it looks at for each of them. -/
theorem course_foldl {ι : Type} {node : ι → Entity} {step : Cascade → ι → Cascade} {ids : List ι}
    (hstep : ∀ id ∈ ids, ∀ visited, (visited ++ tree.visits (node id)).Nodup →
      step (tree.course note reasonOf visited) id =
        tree.course note reasonOf (visited ++ tree.visits (node id)))
    (hfresh : (visited ++ (ids.map node).flatMap tree.visits).Nodup) :
    ids.foldl step (tree.course note reasonOf visited) =
      tree.course note reasonOf (visited ++ (ids.map node).flatMap tree.visits) := by
  induction ids generalizing visited with
  | nil => rw [List.map_nil, List.flatMap_nil, List.append_nil, List.foldl_nil]
  | cons id ids ih =>
    rw [List.map_cons, List.flatMap_cons, ← List.append_assoc] at hfresh ⊢
    have hid : (visited ++ tree.visits (node id)).Nodup := (List.nodup_append.1 hfresh).1
    rw [List.foldl_cons, hstep id List.mem_cons_self visited hid]
    exact ih (fun id hid => hstep id (List.mem_cons_of_mem _ hid)) hfresh

theorem course_booking (ht : tree.DistinctIds) {b : Booking} (hb : b ∈ tree.bookings)
    (hreason : reasonOf (.booking b.id) = reason)
    (hfresh : (visited ++ tree.visits (.booking b.id)).Nodup) :
    (tree.course note reasonOf visited).booking note reason b.id =
      tree.course note reasonOf (visited ++ tree.visits (.booking b.id)) := by
  rw [visits_of_childless rfl] at hfresh ⊢
  have hnew : Entity.booking b.id ∉ visited.filter tree.isOpen :=
    not_mem_filter (List.disjoint_of_nodup_append hfresh · List.mem_cons_self)
  have hfind : (tree.course note reasonOf visited).tree.bookings.find? (fun x => x.id = b.id)
      = some b := Booking.namedBy.find?_mark ht.bookings hb hnew
  have harrived : tree.hasArrived b.id = b.hasArrival :=
    Tree.any_of_mem ht.bookings hb Booking.hasArrival
  have hopen : tree.isOpen (.booking b.id) = (!b.hasArrival && !b.isCancelled) :=
    Tree.isOpen_booking ht hb
  unfold booking
  dsimp only
  rw [hfind]
  dsimp only
  cases ha : b.hasArrival with
  | true =>
    have hskip : tree.skipReason (.booking b.id) = .arrivalRecorded := by
      rw [Tree.skipReason, harrived, ha, if_pos rfl]
    rw [if_pos rfl, ← hskip]
    exact course_skip (by rw [hopen, ha]; rfl)
  | false =>
    rw [if_neg Bool.false_ne_true]
    cases hc : b.isCancelled with
    | true =>
      have hskip : tree.skipReason (.booking b.id) = .alreadyCancelled := by
        rw [Tree.skipReason, harrived, ha, if_neg Bool.false_ne_true]
      rw [if_pos rfl, ← hskip]
      exact course_skip (by rw [hopen, hc]; exact Bool.and_false _)
    | false =>
      rw [if_neg Bool.false_ne_true]
      refine course_mark (by rw [hopen, ha, hc]; rfl) ?_
      rw [Tree.marked_booking, ← Booking.namedBy.updateFirst_mark ht.bookings hnew, ← hreason]
      rfl

/-- Below a certain height, the reason for a node is the one that the node above it hands down. -/
def HandsDown (tree : Tree) (reasonOf : Entity → WithdrawalReason) (bound : Nat) : Prop :=
  ∀ parent child, tree.Child parent child → Tree.height parent ≤ bound →
    reasonOf child = parent.reasonBelow

theorem course_placementRequest (ht : tree.DistinctIds) {r : PlacementRequest}
    (hr : r ∈ tree.placementRequests) (hreason : reasonOf (.placementRequest r.id) = reason)
    (hbelow : HandsDown tree reasonOf 1)
    (hfresh : (visited ++ tree.visits (.placementRequest r.id)).Nodup) :
    (tree.course note reasonOf visited).placementRequest note reason r.id =
      tree.course note reasonOf (visited ++ tree.visits (.placementRequest r.id)) := by
  have hnew : Entity.placementRequest r.id ∉ visited.filter tree.isOpen :=
    not_mem_filter (List.disjoint_of_nodup_append hfresh · (Tree.mem_visits.2 (.inl rfl)))
  have hfind : (tree.course note reasonOf visited).tree.placementRequests.find?
      (fun x => x.id = r.id) = some r := PlacementRequest.namedBy.find?_mark ht.requests hr hnew
  have hopen : tree.isOpen (.placementRequest r.id) = !r.isWithdrawn :=
    Tree.isOpen_placementRequest ht hr
  unfold placementRequest
  dsimp only
  rw [hfind]
  dsimp only
  cases hw : r.isWithdrawn with
  | true =>
    have hclosed : tree.isOpen (.placementRequest r.id) = false := by rw [hopen, hw]; rfl
    rw [if_pos rfl, visits_of_closed hclosed]
    exact course_skip hclosed
  | false =>
    have hopen : tree.isOpen (.placementRequest r.id) = true := by rw [hopen, hw]; rfl
    have hids : ((tree.course note reasonOf visited).tree.bookings.filter
        fun b => b.placementRequestId = some r.id).map Booking.id =
        (tree.bookings.filter fun b => b.placementRequestId = some r.id).map Booking.id :=
      Booking.namedBy.ids_filter_mark fun b => by rw [Booking.placementRequestId_mark]
    have hchildren : tree.children (.placementRequest r.id) =
        ((tree.bookings.filter fun b => b.placementRequestId = some r.id).map Booking.id).map
          Entity.booking := by
      rw [List.map_map]
      rfl
    rw [visits_of_open hopen, List.append_cons, hchildren] at hfresh ⊢
    rw [if_neg Bool.false_ne_true, hids, course_mark hopen]
    · refine course_foldl (fun id hid visited hfresh => ?_) hfresh
      obtain ⟨b, hb, rfl⟩ := List.mem_map.1 hid
      obtain ⟨hb, hlink⟩ := List.mem_filter.1 hb
      refine course_booking ht hb ?_ hfresh
      exact hbelow _ _ (.booking b hb r.id (of_decide_eq_true hlink)) (Nat.le_refl _)
    · rw [Tree.marked_placementRequest,
        ← PlacementRequest.namedBy.updateFirst_mark ht.requests hnew, ← hreason]
      rfl

theorem course_placementApplication (ht : tree.DistinctIds) {p : PlacementApplication}
    (hp : p ∈ tree.placementApplications)
    (hreason : reasonOf (.placementApplication p.id) = reason)
    (hbelow : HandsDown tree reasonOf 2)
    (hfresh : (visited ++ tree.visits (.placementApplication p.id)).Nodup) :
    (tree.course note reasonOf visited).placementApplication note reason p.id =
      tree.course note reasonOf (visited ++ tree.visits (.placementApplication p.id)) := by
  have hnew : Entity.placementApplication p.id ∉ visited.filter tree.isOpen :=
    not_mem_filter (List.disjoint_of_nodup_append hfresh · (Tree.mem_visits.2 (.inl rfl)))
  have hfind : (tree.course note reasonOf visited).tree.placementApplications.find?
      (fun x => x.id = p.id) = some p :=
    PlacementApplication.namedBy.find?_mark ht.placements hp hnew
  have hopen : tree.isOpen (.placementApplication p.id) = !p.isWithdrawn :=
    Tree.isOpen_placementApplication ht hp
  unfold placementApplication
  dsimp only
  rw [hfind]
  dsimp only
  cases hw : p.isWithdrawn with
  | true =>
    have hclosed : tree.isOpen (.placementApplication p.id) = false := by rw [hopen, hw]; rfl
    rw [if_pos rfl, visits_of_closed hclosed]
    exact course_skip hclosed
  | false =>
    have hopen : tree.isOpen (.placementApplication p.id) = true := by rw [hopen, hw]; rfl
    have hids : ((tree.course note reasonOf visited).tree.placementRequests.filter
        fun r => r.placementApplicationId = some p.id).map PlacementRequest.id =
        (tree.placementRequests.filter fun r => r.placementApplicationId = some p.id).map
          PlacementRequest.id :=
      PlacementRequest.namedBy.ids_filter_mark fun r => by
        rw [PlacementRequest.placementApplicationId_mark]
    have hchildren : tree.children (.placementApplication p.id) =
        ((tree.placementRequests.filter fun r => r.placementApplicationId = some p.id).map
          PlacementRequest.id).map Entity.placementRequest := by
      rw [List.map_map]
      rfl
    rw [visits_of_open hopen, List.append_cons, hchildren] at hfresh ⊢
    rw [if_neg Bool.false_ne_true, hids, course_mark hopen]
    · refine course_foldl (fun id hid visited hfresh => ?_) hfresh
      obtain ⟨r, hr, rfl⟩ := List.mem_map.1 hid
      obtain ⟨hr, hlink⟩ := List.mem_filter.1 hr
      refine course_placementRequest ht hr ?_ (fun q c hc hle => hbelow q c hc (by omega)) hfresh
      exact hbelow _ _ (.request r hr p.id (of_decide_eq_true hlink)) (Nat.le_refl _)
    · rw [Tree.marked_placementApplication,
        ← PlacementApplication.namedBy.updateFirst_mark ht.placements hnew, ← hreason]
      rfl

/-- What the pass over assessments comes to, for assessments of any tree. -/
theorem assessments_eq (note : WithdrawalNote) (reason : WithdrawalReason) (cascade : Cascade)
    (done rest : List Assessment) :
    cascade.assessments done rest =
      { tree :=
          { cascade.tree with
            assessments := done ++ rest.map fun a =>
              if TreeNode.isOpen a then TreeNode.stamp note reason a else a }
        withdrawn := cascade.withdrawn ++ (rest.filter TreeNode.isOpen).map TreeNode.entity
        skipped := cascade.skipped ++ rest.filterMap fun a =>
          if TreeNode.isOpen a then none
          else
            some ⟨.assessment a.id, if a.withdrawn then .alreadyWithdrawn else .reallocated⟩ } := by
  induction rest generalizing cascade done with
  | nil => simp [assessments]
  | cons a rest ih =>
    unfold assessments
    dsimp only
    cases hw : a.withdrawn with
    | true => simp [ih, TreeNode.isOpen, hw, skip]
    | false =>
      cases hr : a.reallocatedOn with
      | some on => simp [ih, TreeNode.isOpen, hw, hr, skip]
      | none => simp [ih, TreeNode.isOpen, TreeNode.stamp, TreeNode.entity, hw, hr, mark]

theorem course_assessments (ht : tree.DistinctIds) :
    (tree.course note reasonOf visited).assessments [] tree.assessments =
      tree.course note reasonOf
        (visited ++ (tree.assessments.map Assessment.id).map Entity.assessment) := by
  have hopen (a : Assessment) (ha : a ∈ tree.assessments) :
      tree.isOpen (.assessment a.id) = TreeNode.isOpen a := Tree.isOpen_assessment ht ha
  have hwithdrawn : ((tree.assessments.map Assessment.id).map Entity.assessment).filter tree.isOpen
      = ((tree.assessments.filter TreeNode.isOpen).map Assessment.id).map Entity.assessment := by
    rw [List.map_map, List.map_map, List.filter_map]
    exact congrArg (List.map _) (List.filter_congr hopen)
  have hskipped : ((tree.assessments.map Assessment.id).map Entity.assessment).filterMap
      tree.passedOver? = tree.assessments.filterMap fun a =>
        if TreeNode.isOpen a then none
        else some ⟨.assessment a.id, if a.withdrawn then .alreadyWithdrawn else .reallocated⟩ := by
    rw [List.map_map, List.filterMap_map]
    refine List.filterMap_congr fun a ha => ?_
    show tree.passedOver? (.assessment a.id) = _
    rw [Tree.passedOver?, hopen a ha, Tree.skipReason,
      Tree.any_of_mem ht.assessments ha Assessment.withdrawn]
  have hmarked (a : Assessment) (ha : a ∈ tree.assessments) :
      TreeNode.mark note reasonOf (visited.filter tree.isOpen ++
        ((tree.assessments.filter TreeNode.isOpen).map Assessment.id).map Entity.assessment) a =
        if TreeNode.isOpen a then TreeNode.stamp note .other a else a := by
    rw [← hwithdrawn, ← List.filter_append]
    cases hc : TreeNode.isOpen a with
    | true =>
      refine TreeNode.mark_of_mem (List.mem_filter.2 ⟨List.mem_append_right _ ?_, ?_⟩)
      · exact List.mem_map.2 ⟨a.id, List.mem_map.2 ⟨a, ha, rfl⟩, rfl⟩
      · exact (hopen a ha).trans hc
    | false =>
      refine TreeNode.mark_of_not_mem fun h => ?_
      have := (List.mem_filter.1 h).2
      rw [show tree.isOpen (TreeNode.entity a) = _ from hopen a ha, hc] at this
      exact Bool.false_ne_true this
  rw [assessments_eq note .other]
  unfold Tree.course
  rw [List.filter_append, List.filterMap_append, hwithdrawn, hskipped, Tree.marked_assessments,
    List.map_congr_left hmarked, List.map_map]
  rfl

/-- What is looked at from an open application on, pass by pass. -/
theorem visits_application (hopen : tree.isOpen (.application tree.application.id) = true) :
    tree.visits (.application tree.application.id) =
      [.application tree.application.id]
        ++ (tree.assessments.map Assessment.id).map Entity.assessment
        ++ ((tree.placementApplications.map PlacementApplication.id).map
          Entity.placementApplication).flatMap tree.visits
        ++ (((tree.placementRequests.filter fun r => r.placementApplicationId.isNone).map
          PlacementRequest.id).map Entity.placementRequest).flatMap tree.visits
        ++ (((tree.bookings.filter fun b => b.placementRequestId.isNone).map
          Booking.id).map Entity.booking).flatMap tree.visits := by
  have hassessments : ((tree.assessments.map Assessment.id).map Entity.assessment).flatMap
      tree.visits = (tree.assessments.map Assessment.id).map Entity.assessment := by
    refine flatMap_visits_of_childless fun node hnode => ?_
    obtain ⟨id, _, rfl⟩ := List.mem_map.1 hnode
    rfl
  rw [visits_of_open hopen, Tree.children, if_pos rfl]
  simp only [List.map_map, List.flatMap_append] at hassessments ⊢
  rw [← hassessments]
  simp only [List.append_assoc]
  rfl

/-- The mark on an open application. -/
theorem course_mark_application
    (hopen : tree.isOpen (.application tree.application.id) = true)
    (hreason : reasonOf (.application tree.application.id) = reason) :
    mark ⟨tree, [], []⟩ (.application tree.application.id)
        { tree with
          application :=
            { tree.application with
              status := .withdrawn, withdrawal := some (note.withdrawal reason) } } =
      tree.course note reasonOf [.application tree.application.id] := by
  have hstamp : TreeNode.mark note reasonOf ([] ++ [.application tree.application.id])
      tree.application = TreeNode.stamp note reason tree.application := by
    rw [TreeNode.mark_of_mem (by exact List.mem_cons_self), ← hreason]
    rfl
  rw [← course_nil]
  refine course_mark hopen ?_
  rw [List.filter_nil, Tree.marked_application, Tree.marked_nil, hstamp]
  rfl

theorem course_application (ht : tree.DistinctIds)
    (hreason : reasonOf (.application tree.application.id) = reason)
    (hbelow : HandsDown tree reasonOf 3) :
    Cascade.application note reason ⟨tree, [], []⟩ =
      tree.course note reasonOf (tree.visits (.application tree.application.id)) := by
  have hopen : tree.isOpen (.application tree.application.id) = !tree.application.isWithdrawn :=
    Tree.isOpen_application
  unfold application
  dsimp only
  cases hw : tree.application.isWithdrawn with
  | true =>
    have hclosed : tree.isOpen (.application tree.application.id) = false := by rw [hopen, hw]; rfl
    rw [if_pos rfl, visits_of_closed hclosed, ← course_nil]
    exact course_skip hclosed
  | false =>
    have hopen : tree.isOpen (.application tree.application.id) = true := by rw [hopen, hw]; rfl
    have hfresh := Tree.nodup_visits ht (.application tree.application.id)
    rw [visits_application hopen] at hfresh ⊢
    have hfreshR := (List.nodup_append.1 hfresh).1
    have hfreshP := (List.nodup_append.1 hfreshR).1
    rw [if_neg Bool.false_ne_true, course_mark_application hopen hreason, course_assessments ht,
      course_foldl ?placements hfreshP, course_foldl ?requests hfreshR,
      course_foldl ?bookings hfresh]
    case placements =>
      intro id hid visited hfresh
      obtain ⟨p, hp, rfl⟩ := List.mem_map.1 hid
      refine course_placementApplication ht hp ?_ (fun q c hc hle => hbelow q c hc (by omega)) hfresh
      exact hbelow _ _ (.placement p hp) (Nat.le_refl _)
    case requests =>
      intro id hid visited hfresh
      obtain ⟨r, hr, rfl⟩ := List.mem_map.1 hid
      obtain ⟨hr, hnone⟩ := List.mem_filter.1 hr
      refine course_placementRequest ht hr ?_ (fun q c hc hle => hbelow q c hc (by omega)) hfresh
      exact hbelow _ _ (.firstRequest r hr (Option.isNone_iff_eq_none.1 hnone)) (Nat.le_refl _)
    case bookings =>
      intro id hid visited hfresh
      obtain ⟨b, hb, rfl⟩ := List.mem_map.1 hid
      obtain ⟨hb, hnone⟩ := List.mem_filter.1 hb
      refine course_booking ht hb ?_ hfresh
      exact hbelow _ _ (.ownBooking b hb (Option.isNone_iff_eq_none.1 hnone)) (Nat.le_refl _)

end Cascade

/-! ## 4. The withdrawal -/

namespace Tree

variable {tree : Tree}

/-- The reason for a node: the one that was given for the target, and below it the one that the node
    above hands down. -/
def reasonFor (tree : Tree) (target : Entity) (reason : WithdrawalReason) (node : Entity) :
    WithdrawalReason :=
  if node = target then reason else ((tree.parent? node).map Entity.reasonBelow).getD reason

theorem reasonFor_target {target : Entity} {reason : WithdrawalReason} :
    tree.reasonFor target reason target = reason :=
  if_pos rfl

theorem handsDown_reasonFor (ht : tree.DistinctIds) (target : Entity) (reason : WithdrawalReason) :
    Cascade.HandsDown tree (tree.reasonFor target reason) (height target) := by
  intro parent child h hle
  have hne : child ≠ target := by
    rintro rfl
    exact absurd h.height_lt (Nat.not_lt_of_le hle)
  rw [reasonFor, if_neg hne, h.parent? ht]
  rfl

/-- **A withdrawal that gets under way** looks at the nodes from its target on, marks the open ones
    and notes the others. -/
theorem withdraw_eq (ht : tree.DistinctIds) {target : WithdrawalTarget} {reason : WithdrawalReason}
    {note : WithdrawalNote} (hin : tree.contains target.entity = true)
    (harrived : ∀ id, target = .booking id → tree.hasArrived id = false) :
    let c := tree.course note (tree.reasonFor target.entity reason) (tree.visits target.entity)
    tree.withdraw target reason note = .ok (⟨target.entity, c.withdrawn, c.skipped⟩, c.tree) := by
  have hreason : tree.reasonFor target.entity reason target.entity = reason := reasonFor_target
  have hbelow := handsDown_reasonFor ht target.entity reason
  have hfresh : ([] ++ tree.visits target.entity).Nodup := nodup_visits ht target.entity
  have hstart : tree.course note (tree.reasonFor target.entity reason) [] = ⟨tree, [], []⟩ :=
    Cascade.course_nil
  unfold withdraw
  rw [hin, Bool.not_true, if_neg Bool.false_ne_true]
  cases target with
  | application id =>
    obtain rfl : tree.application.id = id := of_decide_eq_true hin
    dsimp only
    rw [Cascade.course_application ht hreason hbelow]
    rfl
  | placementApplication id =>
    obtain ⟨p, hp, hid⟩ := List.any_eq_true.1 hin
    obtain rfl : p.id = id := of_decide_eq_true hid
    dsimp only
    rw [← hstart, Cascade.course_placementApplication ht hp hreason hbelow hfresh]
    rfl
  | placementRequest id =>
    obtain ⟨r, hr, hid⟩ := List.any_eq_true.1 hin
    obtain rfl : r.id = id := of_decide_eq_true hid
    dsimp only
    rw [← hstart, Cascade.course_placementRequest ht hr hreason hbelow hfresh]
    rfl
  | booking id =>
    obtain ⟨b, hb, hid⟩ := List.any_eq_true.1 hin
    obtain rfl : b.id = id := of_decide_eq_true hid
    dsimp only
    rw [harrived _ rfl, if_neg Bool.false_ne_true, ← hstart,
      Cascade.course_booking ht hb hreason hfresh]
    rfl

end Tree

end Bedspace
