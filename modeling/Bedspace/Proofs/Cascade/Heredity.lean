import Bedspace.Proofs.Cascade.Cancelling
import Bedspace.Proofs.Entitlement

/-!
# What is open hangs on what is open

A withdrawal does not look below a node that was withdrawn before, so it takes everything along only
if nothing open hangs there.

* `Hereditary` says so of the records of two kinds, of which one hangs on the other;
* `Hereditary.of_revised` keeps it through changes that close no node with others below it
  (`ClosedBefore`), `Hereditary.mark` through the marks of a withdrawal;
* **`Call.Due.progress`**: a due call closes no such node or is a withdrawal.
-/

namespace Bedspace

/-! ## 1. Records of two kinds -/

section Kinds

variable {α β : Type} [TreeNode α] [TreeNode β] {hangsOn : β → Option Entity}

/-- **No open record hangs on one that is not open.** -/
def Hereditary (hangsOn : β → Option Entity) (xs : List α) (ys : List β) : Prop :=
  ∀ x ∈ xs, ∀ y ∈ ys, hangsOn y = some (TreeNode.entity x) → TreeNode.isOpen y = true →
    TreeNode.isOpen x = true

theorem Hereditary.of_eq_nil {xs : List α} {ys : List β} (h : xs = []) :
    Hereditary hangsOn xs ys := by
  subst h
  exact fun x hx => absurd hx List.not_mem_nil

/-- What is not open among some records was not open before. -/
def ClosedBefore (xs xs' : List α) : Prop :=
  ∀ x' ∈ xs', TreeNode.isOpen x' = false →
    ∃ x ∈ xs, TreeNode.entity x = TreeNode.entity x' ∧ TreeNode.isOpen x = false

theorem ClosedBefore.refl (xs : List α) : ClosedBefore xs xs :=
  fun x hx hclosed => ⟨x, hx, rfl, hclosed⟩

theorem ClosedBefore.append_singleton {xs : List α} {a : α} (ha : TreeNode.isOpen a = true) :
    ClosedBefore xs (xs ++ [a]) := by
  intro x hx hclosed
  rcases List.mem_append.1 hx with hx | hx
  · exact ⟨x, hx, rfl, hclosed⟩
  · rw [List.mem_singleton.1 hx, ha] at hclosed
    cases hclosed

theorem ClosedBefore.updateFirst {xs : List α} {p : α → Bool} {f : α → α}
    (hentity : ∀ x, TreeNode.entity (f x) = TreeNode.entity x)
    (hopen : ∀ x, TreeNode.isOpen (f x) = TreeNode.isOpen x) :
    ClosedBefore xs (updateFirst p f xs) := by
  intro x' hx' hclosed
  rcases mem_updateFirst hx' with hx | ⟨x, hx, rfl⟩
  · exact ⟨x', hx, rfl, hclosed⟩
  · exact ⟨x, hx, (hentity x).symm, (hopen x).symm.trans hclosed⟩

theorem Table.Rewritten.closedBefore [Keyed α] {table table' : Table α} {before after : List α}
    (h : table.Rewritten table' before after) (hc : ClosedBefore before after) :
    ClosedBefore table.rows table'.rows := by
  obtain ⟨rest, hrows, hrows'⟩ := h
  intro x' hx' hclosed
  rcases List.mem_append.1 (hrows'.mem_iff.1 hx') with hx' | hx'
  · obtain ⟨x, hx, hentity, hx_closed⟩ := hc x' hx' hclosed
    exact ⟨x, hrows.mem_iff.2 (List.mem_append_left _ hx), hentity, hx_closed⟩
  · exact ⟨x', hrows.mem_iff.2 (List.mem_append_right _ hx'), rfl, hclosed⟩

theorem TreeNode.isOpen_of_mark {note : WithdrawalNote} {reasonOf : Entity → WithdrawalReason}
    {marked : List Entity} {a : α}
    (h : TreeNode.isOpen (TreeNode.mark note reasonOf marked a) = true) :
    TreeNode.entity a ∉ marked ∧ TreeNode.isOpen a = true := by
  have hmem : TreeNode.entity a ∉ marked := by
    intro hmem
    rw [TreeNode.mark_of_mem hmem, TreeNode.isOpen_stamp] at h
    cases h
  rw [TreeNode.mark_of_not_mem hmem] at h
  exact ⟨hmem, h⟩

section Withdrawal

variable {tree : Tree} {target : Entity} {note : WithdrawalNote}
  {reasonOf : Entity → WithdrawalReason}

/-- **A withdrawal closes what hangs on a node that it closes.** -/
theorem Tree.isOpen_mark_below {x : α} {y : β}
    (hy : tree.isOpen (TreeNode.entity y) = TreeNode.isOpen y)
    (hchild : tree.Child (TreeNode.entity x) (TreeNode.entity y))
    (hopen : TreeNode.isOpen x = true)
    (hclosed : TreeNode.isOpen
      (TreeNode.mark note reasonOf ((tree.visits target).filter tree.isOpen) x) = false) :
    TreeNode.isOpen
      (TreeNode.mark note reasonOf ((tree.visits target).filter tree.isOpen) y) = false := by
  have hmarked : TreeNode.entity x ∈ (tree.visits target).filter tree.isOpen := by
    refine Classical.byContradiction fun hnot => ?_
    rw [TreeNode.mark_of_not_mem hnot, hopen] at hclosed
    cases hclosed
  refine Bool.eq_false_iff.2 fun hy' => ?_
  obtain ⟨hnot, hyopen⟩ := TreeNode.isOpen_of_mark hy'
  obtain ⟨hvisited, hxopen⟩ := List.mem_filter.1 hmarked
  exact hnot (List.mem_filter.2 ⟨visits_child target hvisited hxopen hchild, hy.trans hyopen⟩)

/-- **The marks of a withdrawal** keep records hereditary, if all that hangs on the records of the
    tree is in the tree, and what hangs on a node there is below it. -/
theorem Hereditary.mark [Keyed α] [Keyed β] {table table' : Table α} {below below' : Table β}
    {xs : List α} {ys : List β} (h : Hereditary hangsOn table.rows below.rows)
    (hxs : table.Rewritten table' xs
      (xs.map (TreeNode.mark note reasonOf ((tree.visits target).filter tree.isOpen))))
    (hys : below.Rewritten below' ys
      (ys.map (TreeNode.mark note reasonOf ((tree.visits target).filter tree.isOpen))))
    (hmark : ∀ y, hangsOn
      (TreeNode.mark note reasonOf ((tree.visits target).filter tree.isOpen) y) = hangsOn y)
    (hopen : ∀ y ∈ ys, tree.isOpen (TreeNode.entity y) = TreeNode.isOpen y)
    (hchild : ∀ x ∈ xs, ∀ y ∈ below.rows, hangsOn y = some (TreeNode.entity x) →
      y ∈ ys ∧ tree.Child (TreeNode.entity x) (TreeNode.entity y)) :
    Hereditary hangsOn table'.rows below'.rows := by
  obtain ⟨restX, hrows, hrows'⟩ := hxs
  obtain ⟨restY, hbelow, hbelow'⟩ := hys
  have hrest : ∀ y ∈ ys, y ∉ restY :=
    (List.nodup_append'.1 (hbelow.nodup_iff.1 below.nodup_rows)).2.2
  intro x' hx' y' hy' hlink hy_open
  rcases List.mem_append.1 (hrows'.mem_iff.1 hx') with hx' | hx'
  · obtain ⟨x, hx, rfl⟩ := List.mem_map.1 hx'
    have hxrow := hrows.mem_iff.2 (List.mem_append_left restX hx)
    rw [TreeNode.entity_mark] at hlink
    rcases List.mem_append.1 (hbelow'.mem_iff.1 hy') with hy' | hy'
    · obtain ⟨y, hy, rfl⟩ := List.mem_map.1 hy'
      rw [hmark] at hlink
      have hyrow := hbelow.mem_iff.2 (List.mem_append_left restY hy)
      have hxopen := h x hxrow y hyrow hlink (TreeNode.isOpen_of_mark hy_open).2
      rw [← Bool.not_eq_false]
      intro hxclosed
      have hbelow := (hchild x hx y hyrow hlink).2
      rw [Tree.isOpen_mark_below (hopen y hy) hbelow hxopen hxclosed] at hy_open
      cases hy_open
    · have hyrow := hbelow.mem_iff.2 (List.mem_append_right ys hy')
      exact absurd hy' (hrest y' (hchild x hx y' hyrow hlink).1)
  · have hxrow := hrows.mem_iff.2 (List.mem_append_right xs hx')
    rcases List.mem_append.1 (hbelow'.mem_iff.1 hy') with hy' | hy'
    · obtain ⟨y, hy, rfl⟩ := List.mem_map.1 hy'
      rw [hmark] at hlink
      exact h x' hxrow y (hbelow.mem_iff.2 (List.mem_append_left restY hy)) hlink
        (TreeNode.isOpen_of_mark hy_open).2
    · exact h x' hxrow y' (hbelow.mem_iff.2 (List.mem_append_right ys hy')) hlink hy_open

end Withdrawal

end Kinds

/-! ## 2. What the records of a tree hang on -/

section Records

variable {note : WithdrawalNote} {reasonOf : Entity → WithdrawalReason} {marked : List Entity}

def Assessment.hangsOn (a : Assessment) : Option Entity := some (.application a.applicationId)

def PlacementApplication.hangsOn (p : PlacementApplication) : Option Entity :=
  some (.application p.applicationId)

/-- A placement request hangs on its placement application, the first one on the application. -/
def PlacementRequest.hangsOn (r : PlacementRequest) : Option Entity :=
  match r.placementApplicationId with
  | some id => some (.placementApplication id)
  | none => some (.application r.applicationId)

/-- A booking hangs on the placement request that it names. -/
def Booking.hangsOn (b : Booking) : Option Entity :=
  b.placementRequestId.map Entity.placementRequest

theorem Assessment.hangsOn_eq_iff {a : Assessment} {id : ApplicationId} :
    a.hangsOn = some (.application id) ↔ a.applicationId = id := by
  simp [hangsOn]

theorem PlacementApplication.hangsOn_eq_iff {p : PlacementApplication} {id : ApplicationId} :
    p.hangsOn = some (.application id) ↔ p.applicationId = id := by
  simp [hangsOn]

theorem PlacementRequest.hangsOn_application_iff {r : PlacementRequest} {id : ApplicationId} :
    r.hangsOn = some (.application id) ↔
      r.placementApplicationId = none ∧ r.applicationId = id := by
  unfold hangsOn
  split
  · rename_i i hi
    simp [hi]
  · rename_i hi
    simp [hi]

theorem PlacementRequest.hangsOn_placement_iff {r : PlacementRequest}
    {id : PlacementApplicationId} :
    r.hangsOn = some (.placementApplication id) ↔ r.placementApplicationId = some id := by
  unfold hangsOn
  split
  · rename_i i hi
    simp [hi]
  · rename_i hi
    simp [hi]

theorem Booking.hangsOn_eq_iff {b : Booking} {id : PlacementRequestId} :
    b.hangsOn = some (.placementRequest id) ↔ b.placementRequestId = some id := by
  simp [hangsOn]

theorem Assessment.hangsOn_mark (a : Assessment) :
    (TreeNode.mark note reasonOf marked a).hangsOn = a.hangsOn :=
  TreeNode.apply_mark (fun _ _ => rfl) a

theorem PlacementApplication.hangsOn_mark (p : PlacementApplication) :
    (TreeNode.mark note reasonOf marked p).hangsOn = p.hangsOn :=
  TreeNode.apply_mark (fun _ _ => rfl) p

theorem PlacementRequest.hangsOn_mark (r : PlacementRequest) :
    (TreeNode.mark note reasonOf marked r).hangsOn = r.hangsOn :=
  TreeNode.apply_mark (fun _ _ => rfl) r

theorem Booking.hangsOn_mark (b : Booking) :
    (TreeNode.mark note reasonOf marked b).hangsOn = b.hangsOn :=
  TreeNode.apply_mark (fun _ _ => rfl) b

end Records

/-! ## 3. Changes of records -/

/-- A change leaves a record hanging where it does, and opens nothing. -/
structure HangsAsBefore {α : Type} [TreeNode α] (hangsOn : α → Option Entity) (a a' : α) :
    Prop where
  hangsOn_eq : hangsOn a' = hangsOn a
  isOpen_of : TreeNode.isOpen a' = true → TreeNode.isOpen a = true

theorem Assessment.Change.hangs {a a' : Assessment} (h : a.Change a') :
    HangsAsBefore Assessment.hangsOn a a' := by
  cases h with
  | same => exact ⟨rfl, fun h => h⟩
  | decision => exact ⟨rfl, fun h => h⟩
  | reallocation on hpending =>
    refine ⟨rfl, fun h => ?_⟩
    cases (Assessment.isOpen_iff.1 h).2
  | withdrawal hopen => exact ⟨rfl, fun _ => hopen⟩

theorem PlacementApplication.Change.hangs {p p' : PlacementApplication} (h : p.Change p') :
    HangsAsBefore PlacementApplication.hangsOn p p' := by
  cases h with
  | same => exact ⟨rfl, fun h => h⟩
  | decision => exact ⟨rfl, fun h => h⟩
  | withdrawal withdrawal hlive => exact ⟨rfl, fun _ => PlacementApplication.isOpen_iff.2 hlive⟩

theorem PlacementRequest.Change.hangs {r r' : PlacementRequest} (h : r.Change r') :
    HangsAsBefore PlacementRequest.hangsOn r r' := by
  cases h with
  | same => exact ⟨rfl, fun h => h⟩
  | withdrawal withdrawal hlive => exact ⟨rfl, fun _ => PlacementRequest.isOpen_iff.2 hlive⟩

theorem Booking.Change.hangs {b b' : Booking} (h : b.Change b') :
    HangsAsBefore Booking.hangsOn b b' := by
  cases h with
  | same => exact ⟨rfl, fun h => h⟩
  | nonArrival => exact ⟨rfl, fun h => h⟩
  | arrival arrival hawaiting =>
    exact ⟨rfl, fun hopen => absurd (Booking.isOpen_iff.1 hopen).1 Bool.noConfusion⟩
  | cancellation cancellation hopen => exact ⟨rfl, fun _ => hopen⟩

/-- A record comes where everything it hangs on is open. -/
def ComesOpen {α β : Type} [TreeNode α] (hangsOn : β → Option Entity) (xs : List α) (y : β) :
    Prop :=
  ∀ x ∈ xs, hangsOn y = some (TreeNode.entity x) → TreeNode.isOpen x = true

/-- **Where nothing closes that others hang on**, records stay hereditary if none is opened and new
    ones come where everything is open. -/
theorem Hereditary.of_revised {α β : Type} [TreeNode α] [TreeNode β] [Keyed β]
    {hangsOn : β → Option Entity} {xs xs' : List α} {below below' : Table β} {rel : β → β → Prop}
    (h : Hereditary hangsOn xs below.rows) (hx : ClosedBefore xs xs')
    (hbelow : Table.Revised rel (ComesOpen hangsOn xs) below below')
    (hrel : ∀ y y', rel y y' → HangsAsBefore hangsOn y y') :
    Hereditary hangsOn xs' below'.rows := by
  intro x' hx' y' hy' hlink hopen
  rw [← Bool.not_eq_false]
  intro hclosed
  obtain ⟨x, hx, hentity, hxclosed⟩ := hx x' hx' hclosed
  have hxopen : TreeNode.isOpen x = true := by
    rcases hbelow.comes y' hy' with ⟨y, hy, hch⟩ | hnew
    · have hhangs := hrel y y' hch
      exact h x hx y hy (by rw [← hhangs.hangsOn_eq, hlink, hentity]) (hhangs.isOpen_of hopen)
    · exact hnew x hx (by rw [hlink, hentity])
  exact Bool.false_ne_true (hxclosed.symm.trans hxopen)

/-! ## 4. What a due call closes -/

/-- **Nothing is closed that others hang on.** -/
structure Store.ClosesNothing (store store' : Store) : Prop where
  applications : ClosedBefore store.applications.rows store'.applications.rows
  placements : ClosedBefore store.placementApplications.rows store'.placementApplications.rows
  requests : ClosedBefore store.placementRequests.rows store'.placementRequests.rows

theorem Store.ClosesNothing.refl (store : Store) : store.ClosesNothing store :=
  ⟨.refl _, .refl _, .refl _⟩

/-- A tree that is saved closes none of its application, placement applications and placement
    requests, unless it comes from a withdrawal. -/
theorem Call.Served.closedBefore_or_withdraw {before after : Tree}
    (h : (Call.saveTree before after).Served) :
    (∃ target reason note outcome, before.withdraw target reason note = .ok (outcome, after)) ∨
      after.application = before.application ∧
        ClosedBefore before.placementApplications after.placementApplications ∧
        ClosedBefore before.placementRequests after.placementRequests := by
  cases h with
  | read _ h => cases h
  | withdraw store id _ _ target reason note outcome htree hreason hwithdraw hchanged =>
    exact .inl ⟨target, reason, note, outcome, hwithdraw⟩
  | allocate | rejectAssessment | reallocateAssessment =>
    exact .inr ⟨rfl, .refl _, .refl _⟩
  | acceptAssessment => exact .inr ⟨rfl, .refl _, .append_singleton rfl⟩
  | createPlacement => exact .inr ⟨rfl, .append_singleton rfl, .refl _⟩
  | rejectPlacement => exact .inr ⟨rfl, .updateFirst (fun _ => rfl) fun _ => rfl, .refl _⟩
  | acceptPlacement =>
    exact .inr ⟨rfl, .updateFirst (fun _ => rfl) fun _ => rfl, .append_singleton rfl⟩

/-- How a call gets the store on. -/
inductive Store.Progress (store : Store) : Call → Store → Prop where
  | steady (c : Call) (store' : Store) (h : store.ClosesNothing store') : Progress store c store'
  | withdrawal (before : Tree) (target : Entity) (note : WithdrawalNote)
      (reasonOf : Entity → WithdrawalReason) (hstored : store.Stores before)
      (hdue : store.Rewrites before
        (before.marked note reasonOf ((before.visits target).filter before.isOpen))) :
      Progress store
        (.saveTree before
          (before.marked note reasonOf ((before.visits target).filter before.isOpen)))
        (store.putTree
          (before.marked note reasonOf ((before.visits target).filter before.isOpen)))

/-- **A due call closes no node that others hang on, or marks all that is open below a node.** -/
theorem Call.Due.progress {world : World} {c : Call} (h : c.Due world) :
    world.store.Progress c (c.perform world.store).2 := by
  rcases Call.perform_cases world.store c with e | hw
  · rw [e]
    exact .steady c _ (.refl _)
  · generalize (c.perform world.store).2 = store' at hw ⊢
    cases hw with
    | putPremises | putDistrict | insertBooking | replaceBooking | insertOutOfService
    | replaceOutOfService => exact .steady _ _ ⟨.refl _, .refl _, .refl _⟩
    | insertApplication a hnew =>
      refine .steady _ _ ⟨?_, .refl _, .refl _⟩
      have hopen : TreeNode.isOpen a = true := by
        cases h.served with
        | read _ h => cases h
        | createApplication => rfl
      exact (Table.rewritten_put_new hnew).closedBefore (ClosedBefore.append_singleton hopen)
    | markSubmitted id on a hfind hstatus =>
      refine .steady _ _ ⟨?_, .refl _, .refl _⟩
      obtain ⟨ha, _⟩ := world.store.applications.find?_eq_some_iff.1 hfind
      refine Table.Rewritten.closedBefore (Table.rewritten_put ha rfl) fun x hx hclosed => ?_
      obtain rfl := List.mem_singleton.1 hx
      cases hclosed
    | saveTree before after hstored hid =>
      obtain ⟨_, hstored⟩ := Store.stores_of_tree? hstored
      have hw := h.rewrites hstored
      rcases h.served.closedBefore_or_withdraw with
        ⟨target, reason, note, outcome, hwithdraw⟩ | ⟨happ, hplacements, hrequests⟩
      · obtain rfl := Tree.eq_marked_of_withdraw hstored.distinctIds hwithdraw
        exact .withdrawal before target.entity note _ hstored hw
      · refine .steady _ _ ⟨?_, hw.placements.closedBefore hplacements,
          hw.requests.closedBefore hrequests⟩
        exact hw.application.closedBefore (happ ▸ .refl _)

end Bedspace
