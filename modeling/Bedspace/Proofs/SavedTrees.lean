import Bedspace.Proofs.Numbering
import Bedspace.Proofs.Ownership

/-!
# The tree of a reply is the stored one

An operation on a tree answers with the tree that it has worked out, in which new nodes stand last. The
store puts the tree together anew from its tables, each node where its identifier comes in their order.
As long as identifiers come in the order of issue, both are the same.

* `Store.Rooted.stores_putTree`: a revision of a stored tree is the stored tree once it is written, if
  what is new in it comes after all that is stored;
* `Action.Makes` says what each action that answers with a changed tree makes of the tree before:
  which node changes and how, and which one is new;
* **`System.reaches_savedTree`**: in every state that clients reach by actions, such an action makes
  that of the tree which is shown before it, and its reply is the tree which is shown after it.
-/

namespace Bedspace

/-! ## 1. Rows that are written over -/

namespace Table

variable {α : Type} [Keyed α] {table : Table α} {before after : List α} {rel : α → α → Prop}

/-- Rows that are carried over stay in order, if what is new comes after all rows. -/
theorem ascending_of_extends (hrel : ∀ x y, rel x y → key y = key x)
    (hsub : before.Sublist table.rows) (he : Extends rel before after)
    (hlast : ∀ y ∈ after.drop before.length, ∀ x ∈ table.rows, key x < key y) :
    after.Pairwise fun a b => key a < key b := by
  have hkeys : (after.map key).Pairwise (· < ·) ↔ after.Pairwise fun a b => key a < key b :=
    List.pairwise_map
  rw [← hkeys, map_key_of_extends hrel he, List.pairwise_append]
  refine ⟨List.pairwise_map.2 (table.ascending.sublist hsub), ?_, ?_⟩
  · match after.drop before.length, he.added with
    | [], _ => exact .nil
    | [y], _ => exact List.pairwise_singleton _ _
  · intro k hk k' hk'
    obtain ⟨x, hx, rfl⟩ := List.mem_map.1 hk
    obtain ⟨y, hy, rfl⟩ := List.mem_map.1 hk'
    exact hlast y hy x (hsub.subset hx)

/-- **The rows of one owner are still its rows once they are written over**, in the order in which they
    were written. -/
theorem filter_putAll_of_extends {γ : Type} [DecidableEq γ] {owner : α → γ} {own : γ}
    (hrel : ∀ x y, rel x y → key y = key x) (howner : ∀ x y, rel x y → owner y = owner x)
    (hbefore : before = table.rows.filter fun x => owner x = own) (he : Extends rel before after)
    (hnew : ∀ y ∈ after.drop before.length, owner y = own)
    (hlast : ∀ y ∈ after.drop before.length, ∀ x ∈ table.rows, key x < key y) :
    after = (table.putAll after).rows.filter fun x => owner x = own := by
  have hsub : before.Sublist table.rows := hbefore ▸ List.filter_sublist
  have hown : ∀ x ∈ before, owner x = own := by
    intro x hx
    rw [hbefore] at hx
    exact of_decide_eq_true (List.mem_filter.1 hx).2
  have hown' : ∀ y ∈ after, owner y = own :=
    he.forall_mem (fun x y hxy hx => (howner x y hxy).trans hx) hnew hown
  have hfresh : ∀ y ∈ after.drop before.length, table.contains (key y) = false := by
    intro y hy
    refine Bool.eq_false_iff.2 fun hthere => ?_
    obtain ⟨x, hx, e⟩ := table.contains_iff.1 hthere
    exact String.ne_of_lt (hlast y hy x hx) e
  obtain ⟨rest, hrows, hrows'⟩ := rewritten_of_extends hrel hsub he hfresh
  have hall {xs : List α} (h : ∀ x ∈ xs, owner x = own) : xs.filter (fun x => owner x = own) = xs :=
    List.filter_eq_self.2 fun x hx => decide_eq_true (h x hx)
  have hrest : rest.filter (fun x => owner x = own) = [] := by
    -- of all rows only those that are written over are of this owner
    have hlength := (hrows.filter fun x => owner x = own).length_eq
    rw [List.filter_append, hall hown, ← hbefore, List.length_append] at hlength
    exact List.eq_nil_of_length_eq_zero (by omega)
  have hperm := hrows'.filter fun x => owner x = own
  rw [List.filter_append, hrest, List.append_nil, hall hown'] at hperm
  exact (eq_of_perm hperm ((table.putAll after).ascending.filter _)
    (ascending_of_extends hrel hsub he hlast)).symm

end Table

/-! ## 2. A tree that is written over -/

namespace Store

variable {store : Store} {before after : Tree}

/-- **What one tree has after the nodes of another one comes after all that is stored.** -/
def AddsLast (store : Store) (before after : Tree) : Prop :=
  ∀ kind id, Right.issued kind id ∈ before.added after →
    ∀ other, store.holds kind other → other.text < id.text

/-- The placement requests of a revised tree belong to its application. -/
theorem Rooted.bookingBelongs_revised (h : store.Rooted) (hstored : store.Stores before)
    (hrev : before.Revises after) (hlast : store.AddsLast before after) {b : Booking}
    (hb : b ∈ store.bookings.rows) :
    bookingBelongs before.application.id after.placementRequests b =
      bookingBelongs before.application.id before.placementRequests b := by
  rw [Bool.eq_iff_iff, hstored.requests, h.bookingBelongs_iff hb]
  refine h.bookingBelongs_iff_of (fun r hr r' hr' hid => ?_) hb
  rcases hrev.requests.comes hr with ⟨x, hx, hch⟩ | hnew
  · obtain ⟨hx, hown⟩ := hstored.mem_requests.1 hx
    have hsame : r' = x :=
      store.placementRequests.key_inj_of_mem hr' hx (congrArg Id.text (hid.trans hch.id_eq))
    exact hsame ▸ hown
  · -- a new placement request has an identifier of its own
    have hlt := hlast _ _ (Tree.issued_mem_added_of_request hnew) r'.id ⟨r', hr', rfl⟩
    exact absurd (hid ▸ hlt) (String.lt_irrefl _)

/-- **A revision of a stored tree is the stored tree once it is written**, if what is new in it comes
    last. -/
theorem Rooted.stores_putTree (h : store.Rooted) (hstored : store.Stores before)
    (hrev : before.Revises after) (hbookings : after.bookings = before.bookings)
    (hlast : store.AddsLast before after) : (store.putTree after).Stores after where
  application := Table.mem_place_self _ _
  assessments := by
    rw [hrev.application.id_eq]
    refine Table.filter_putAll_of_extends (fun _ _ hch => congrArg Id.text hch.id_eq)
      (fun _ _ hch => hch.applicationId_eq) hstored.assessments hrev.assessments
      (fun a ha => (hrev.newAssessments a ha).1) fun a ha x hx => ?_
    exact hlast _ _ (Tree.issued_mem_added_of_assessment ha) x.id ⟨x, hx, rfl⟩
  placements := by
    rw [hrev.application.id_eq]
    refine Table.filter_putAll_of_extends (fun _ _ hch => congrArg Id.text hch.id_eq)
      (fun _ _ hch => hch.applicationId_eq) hstored.placements hrev.placements
      (fun p hp => (hrev.newPlacements p hp).1) fun p hp x hx => ?_
    exact hlast _ _ (Tree.issued_mem_added_of_placement hp) x.id ⟨x, hx, rfl⟩
  requests := by
    rw [hrev.application.id_eq]
    refine Table.filter_putAll_of_extends (fun _ _ hch => congrArg Id.text hch.id_eq)
      (fun _ _ hch => hch.applicationId_eq) hstored.requests hrev.requests
      (fun r hr => (hrev.newRequests r hr).1) fun r hr x hx => ?_
    exact hlast _ _ (Tree.issued_mem_added_of_request hr) x.id ⟨x, hx, rfl⟩
  bookings := by
    have hsame : (store.putTree after).bookings = store.bookings := by
      unfold putTree
      rw [hbookings]
      exact Table.putAll_of_sublist hstored.sublist_bookings
    rw [hsame, hbookings, hrev.application.id_eq, hstored.bookings]
    exact List.filter_congr fun b hb => (h.bookingBelongs_revised hstored hrev hlast hb).symm

end Store

/-! ## 3. What an operation has met that succeeds -/

namespace Applications

open Operation

variable {faults : Faults} {world world' : World} {tree : Tree}

theorem findTree_eq_ok {id : ApplicationId}
    (h : (findTree id).run faults world = (.ok tree, world')) :
    world.store.tree? id = some tree ∧ world' = world := by
  obtain ⟨found, _, hread, hdemand⟩ := run_bind_eq_ok h
  obtain ⟨hfound, rfl⟩ := run_call_eq_ok hread
  obtain ⟨rfl, rfl⟩ := run_demand_eq_ok hdemand
  exact ⟨Except.ok.inj hfound, rfl⟩

theorem findTreeOf_eq_ok {e : Entity} (h : (findTreeOf e).run faults world = (.ok tree, world')) :
    (∃ id, world.store.tree? id = some tree) ∧ world' = world := by
  obtain ⟨owner, _, hread, h₁⟩ := run_bind_eq_ok h
  obtain ⟨_, rfl⟩ := run_call_eq_ok hread
  obtain ⟨id, _, hdemand, h₂⟩ := run_bind_eq_ok h₁
  obtain ⟨_, rfl⟩ := run_demand_eq_ok hdemand
  obtain ⟨htree, rfl⟩ := findTree_eq_ok h₂
  exact ⟨⟨id, htree⟩, rfl⟩

/-- A tree that is found pending is stored, and its assessment waits for its assessor. -/
theorem findPending_eq_ok {id : AssessmentId}
    (h : (findPending id).run faults world = (.ok tree, world')) :
    world.store.Stores tree ∧ tree.ReadPending id ∧ world' = world := by
  obtain ⟨found, _, hfind, h₁⟩ := run_bind_eq_ok h
  obtain ⟨⟨application, htree⟩, rfl⟩ := findTreeOf_eq_ok hfind
  obtain ⟨_, _, hensured, h₂⟩ := run_bind_eq_ok h₁
  obtain ⟨hlive, rfl⟩ := run_failIf_eq_ok hensured
  obtain ⟨a, _, hdemand, h₃⟩ := run_bind_eq_ok h₂
  obtain ⟨ha, rfl⟩ := run_demand_eq_ok hdemand
  obtain ⟨_, _, hchecked, h₄⟩ := run_bind_eq_ok h₃
  obtain ⟨hpending, rfl⟩ := run_failIf_eq_ok hchecked
  cases h₄
  rw [Bool.not_eq_false'] at hpending
  obtain ⟨_, hstored⟩ := Store.stores_of_tree? htree
  exact ⟨hstored, ⟨⟨⟨_, application, htree⟩, hlive⟩, a, ha, hpending⟩, rfl⟩

/-- A tree that is stored is written over. -/
theorem save_eq_ok {before after : Tree} {u : Unit} (hstored : world.store.Stores before)
    (hid : after.application.id = before.application.id)
    (h : (save before after).run faults world = (.ok u, world')) :
    world' = { world with store := world.store.putTree after } := by
  obtain ⟨_, rfl⟩ := run_call_eq_ok h
  have hsaved := Store.saveTree_of_tree? (Store.tree?_of_stores hstored) hid
  show { world with store := (Call.settleUnit world.store (world.store.saveTree before after)).2 } = _
  rw [hsaved]
  rfl

end Applications

/-! ## 4. What an action makes of a tree -/

/-- **What an action makes of a tree**: one node changes, and at most one is new, under the identifier
    that comes next. -/
inductive Action.Makes (today : Date) (next : (kind : Kind) → Id kind) :
    Action → Tree → Tree → Prop where
  | submit (tree : Tree) (h : tree.application.status = .inProgress) :
      Makes today next (.submit tree.application.id) tree
        { tree with
          application := { tree.application with status := .submitted, submittedOn := some today }
          assessments := tree.assessments ++
            [Tree.newAssessment (next .assessment) tree.application.id today] }
  | accept (tree : Tree) (front back : List Assessment) (a : Assessment) (dates : PlacementDates)
      (h : tree.assessments = front ++ a :: back) (hpending : a.isPending = true) :
      Makes today next (.acceptAssessment a.id dates) tree
        { tree with
          assessments := front ++ { a with decision := some .accepted } :: back
          placementRequests := tree.placementRequests ++
            [Tree.newRequest (next .placementRequest) tree.application.id none dates today] }
  | reject (tree : Tree) (front back : List Assessment) (a : Assessment)
      (h : tree.assessments = front ++ a :: back) (hpending : a.isPending = true) :
      Makes today next (.rejectAssessment a.id) tree
        { tree with assessments := front ++ { a with decision := some .rejected } :: back }
  | reallocate (tree : Tree) (front back : List Assessment) (a : Assessment)
      (h : tree.assessments = front ++ a :: back) (hpending : a.isPending = true) :
      Makes today next (.reallocateAssessment a.id) tree
        { tree with
          assessments := front ++ { a with reallocatedOn := some today } :: back ++
            [Tree.newAssessment (next .assessment) tree.application.id today] }
  | rejectPlacement (tree : Tree) (front back : List PlacementApplication)
      (p : PlacementApplication) (h : tree.placementApplications = front ++ p :: back)
      (hopen : (p.isWithdrawn || p.decision.isSome) = false) :
      Makes today next (.decidePlacement p.id .rejected) tree
        { tree with
          placementApplications := front ++ { p with decision := some .rejected } :: back }
  | acceptPlacement (tree : Tree) (front back : List PlacementApplication)
      (p : PlacementApplication) (dates : PlacementDates)
      (h : tree.placementApplications = front ++ p :: back)
      (hopen : (p.isWithdrawn || p.decision.isSome) = false) :
      Makes today next (.decidePlacement p.id (.accepted dates)) tree
        { tree with
          placementApplications := front ++ { p with decision := some .accepted } :: back
          placementRequests := tree.placementRequests ++
            [Tree.newRequest (next .placementRequest) tree.application.id (some p.id) dates
              today] }

/-- An action that answers with a tree that it has changed. -/
inductive Action.ChangesTree : Action → Prop where
  | submit (id : ApplicationId) : ChangesTree (.submit id)
  | accept (id : AssessmentId) (dates : PlacementDates) : ChangesTree (.acceptAssessment id dates)
  | reject (id : AssessmentId) : ChangesTree (.rejectAssessment id)
  | reallocate (id : AssessmentId) : ChangesTree (.reallocateAssessment id)
  | decidePlacement (id : PlacementApplicationId) (decision : PlacementDecision) :
      ChangesTree (.decidePlacement id decision)

/-- **An action has made a tree of the stored one**, and that is stored after it. -/
def Action.Saves (wanted : Action) (today : Date) (world world' : World) (tree : Tree) : Prop :=
  ∃ before, world.store.Stores before ∧ wanted.Makes today world.nextId before tree ∧
    world'.store.Stores tree

/-- What holds of a world in which clients ask for actions. -/
structure World.Regular (world : World) : Prop where
  sound : world.Sound
  rooted : world.store.Rooted
  numbered : world.store.Numbered

theorem World.Regular.perform {world : World} {c : Call} (hw : world.Regular)
    (hc : c.Offered world) : World.Regular { world with store := (c.perform world.store).2 } where
  sound := hw.sound.perform hc.due
  rooted := hw.rooted.perform hc
  numbered := hw.numbered.perform hc.due

/-- **A tree is what is shown of its application.** -/
def World.Shows (world : World) (tree : Tree) : Prop :=
  ∀ settings today, ((Action.showApplication tree.application.id).perform settings today).run .none
    world = (.ok (.tree tree), world)

namespace Tree

variable {tree : Tree}

theorem exists_of_updateAssessment {id : AssessmentId} {a : Assessment}
    (h : tree.assessments.find? (fun a => a.id = id) = some a) (f : Assessment → Assessment) :
    ∃ front back, tree.assessments = front ++ a :: back ∧ a.id = id ∧
      tree.updateAssessment id f = { tree with assessments := front ++ f a :: back } := by
  have hid : a.id = id := by simpa using List.find?_some h
  obtain ⟨front, back, hbefore, hafter⟩ := exists_of_updateFirst h f
  refine ⟨front, back, hbefore, hid, ?_⟩
  unfold updateAssessment
  rw [hafter]

theorem exists_of_decidePlacement {id : PlacementApplicationId} {p : PlacementApplication}
    (h : tree.placementApplications.find? (fun p => p.id = id) = some p) (decision : Decision) :
    ∃ front back, tree.placementApplications = front ++ p :: back ∧ p.id = id ∧
      tree.decidePlacement id decision =
        { tree with
          placementApplications := front ++ { p with decision := some decision } :: back } := by
  have hid : p.id = id := by simpa using List.find?_some h
  obtain ⟨front, back, hbefore, hafter⟩ :=
    exists_of_updateFirst h fun p => { p with decision := some decision }
  refine ⟨front, back, hbefore, hid, ?_⟩
  unfold decidePlacement
  rw [hafter]

end Tree

namespace Applications

open Operation

variable {faults : Faults} {world world' : World} {before after tree : Tree} {today : Date}

/-- What has the next identifier comes last. -/
theorem addsLast_nextId (hw : world.Regular) {kind : Kind}
    (hdigits : world.issued kind + 1 ≤ 999999)
    (hadded : before.added after = [.issued kind (world.nextId kind)]) :
    world.store.AddsLast before after := by
  intro k id hid other hother
  rw [hadded, List.mem_singleton] at hid
  cases hid
  exact hw.sound.lt_nextId hw.numbered hdigits hother

/-- Where no node is new, all that is new comes last. -/
theorem addsLast_of_amends {store : Store} (h : before.Amends after) :
    store.AddsLast before after := by
  intro k id hid
  rw [h.added] at hid
  cases hid

/-- The number that was issued last before a tree was saved has six digits. -/
theorem issued_le_of_save {kind : Kind} {u : Unit} (hdigits : world'.SixDigits)
    (h : (save before after).run faults (world.afterIssue kind) = (.ok u, world')) :
    world.issued kind + 1 ≤ 999999 := by
  obtain ⟨_, rfl⟩ := run_call_eq_ok h
  have hlimit := hdigits kind
  unfold World.afterIssue at hlimit
  dsimp only at hlimit
  rwa [if_pos rfl] at hlimit

/-- **A tree that is saved with one new node is stored**, if that is named by the identifier that was
    issued for it. -/
theorem stores_of_save {kind : Kind} {u : Unit} (hw : world.Regular)
    (hstored : world.store.Stores before) (hrev : before.Revises after)
    (hbookings : after.bookings = before.bookings)
    (hadded : before.added after = [.issued kind (world.nextId kind)]) (hdigits : world'.SixDigits)
    (h : (save before after).run faults (world.afterIssue kind) = (.ok u, world')) :
    world'.store.Stores after := by
  have hlimit := issued_le_of_save hdigits h
  have hstored' : (world.afterIssue kind).store.Stores before := hstored
  rw [save_eq_ok hstored' hrev.application.id_eq h]
  exact hw.rooted.stores_putTree hstored hrev hbookings (addsLast_nextId hw hlimit hadded)

/-- A tree that is saved with no new node is stored. -/
theorem stores_of_save_amended {u : Unit} (hw : world.Regular) (hstored : world.store.Stores before)
    (hamends : before.Amends after) (hbookings : after.bookings = before.bookings)
    (h : (save before after).run faults world = (.ok u, world')) : world'.store.Stores after := by
  rw [save_eq_ok hstored hamends.application.id_eq h]
  exact hw.rooted.stores_putTree hstored hamends.revises hbookings (addsLast_of_amends hamends)

/-! ## 5. Each of the actions -/

theorem acceptAssessment_eq_ok {id : AssessmentId} {dates : PlacementDates} (hw : world.Regular)
    (hdigits : world'.SixDigits)
    (h : (acceptAssessment id dates today).run faults world = (.ok tree, world')) :
    (Action.acceptAssessment id dates).Saves today world world' tree := by
  unfold acceptAssessment at h
  obtain ⟨_, _, hnights, h₁⟩ := run_bind_eq_ok h
  obtain ⟨_, rfl⟩ := run_failIf_eq_ok hnights
  obtain ⟨before, _, hfind, h₂⟩ := run_bind_eq_ok h₁
  obtain ⟨hstored, hpending, rfl⟩ := findPending_eq_ok hfind
  obtain ⟨_, _, hissue, h₃⟩ := run_bind_eq_ok h₂
  cases hissue
  obtain ⟨_, _, hsave, h₄⟩ := run_bind_eq_ok h₃
  cases h₄
  have hamends := hpending.amends_decide .accepted
  obtain ⟨_, a, ha, hwaits⟩ := hpending
  refine ⟨before, hstored, ?_, ?_⟩
  · obtain ⟨front, back, hbefore, rfl, hafter⟩ := Tree.exists_of_updateAssessment ha
      fun a => { a with decision := some .accepted }
    unfold Tree.decideAssessment
    rw [hafter]
    exact .accept before front back a dates hbefore hwaits
  · exact stores_of_save hw hstored (hamends.revises_addRequest rfl rfl) rfl
      (hamends.added_addRequest _) hdigits hsave

theorem rejectAssessment_eq_ok {id : AssessmentId} (hw : world.Regular)
    (h : (rejectAssessment id).run faults world = (.ok tree, world')) :
    (Action.rejectAssessment id).Saves today world world' tree := by
  unfold rejectAssessment at h
  obtain ⟨before, _, hfind, h₁⟩ := run_bind_eq_ok h
  obtain ⟨hstored, hpending, rfl⟩ := findPending_eq_ok hfind
  obtain ⟨_, _, hsave, h₂⟩ := run_bind_eq_ok h₁
  cases h₂
  have hamends := hpending.amends_decide .rejected
  obtain ⟨_, a, ha, hwaits⟩ := hpending
  refine ⟨before, hstored, ?_, stores_of_save_amended hw hstored hamends rfl hsave⟩
  obtain ⟨front, back, hbefore, rfl, hafter⟩ := Tree.exists_of_updateAssessment ha
    fun a => { a with decision := some .rejected }
  unfold Tree.decideAssessment
  rw [hafter]
  exact .reject before front back a hbefore hwaits

theorem reallocateAssessment_eq_ok {id : AssessmentId} (hw : world.Regular)
    (hdigits : world'.SixDigits)
    (h : (reallocateAssessment id today).run faults world = (.ok tree, world')) :
    (Action.reallocateAssessment id).Saves today world world' tree := by
  unfold reallocateAssessment at h
  obtain ⟨before, _, hfind, h₁⟩ := run_bind_eq_ok h
  obtain ⟨hstored, hpending, rfl⟩ := findPending_eq_ok hfind
  obtain ⟨_, _, hissue, h₂⟩ := run_bind_eq_ok h₁
  cases hissue
  obtain ⟨_, _, hsave, h₃⟩ := run_bind_eq_ok h₂
  cases h₃
  have hamends := hpending.amends_reallocate today
  obtain ⟨_, a, ha, hwaits⟩ := hpending
  refine ⟨before, hstored, ?_, ?_⟩
  · obtain ⟨front, back, hbefore, rfl, hafter⟩ := Tree.exists_of_updateAssessment ha
      fun a => { a with reallocatedOn := some today }
    rw [hafter]
    exact .reallocate before front back a hbefore hwaits
  · exact stores_of_save hw hstored (hamends.revises_addAssessment rfl rfl) rfl
      (hamends.added_addAssessment _) hdigits hsave

theorem decidePlacement_eq_ok {id : PlacementApplicationId} {decision : PlacementDecision}
    (hw : world.Regular) (hdigits : world'.SixDigits)
    (h : (decidePlacement id decision today).run faults world = (.ok tree, world')) :
    (Action.decidePlacement id decision).Saves today world world' tree := by
  unfold decidePlacement at h
  obtain ⟨before, _, hfind, h₁⟩ := run_bind_eq_ok h
  obtain ⟨⟨application, htree⟩, rfl⟩ := findTreeOf_eq_ok hfind
  obtain ⟨_, hstored⟩ := Store.stores_of_tree? htree
  obtain ⟨_, _, hensured, h₂⟩ := run_bind_eq_ok h₁
  obtain ⟨_, rfl⟩ := run_failIf_eq_ok hensured
  obtain ⟨p, _, hdemand, h₃⟩ := run_bind_eq_ok h₂
  obtain ⟨hp, rfl⟩ := run_demand_eq_ok hdemand
  obtain ⟨_, _, hchecked, h₄⟩ := run_bind_eq_ok h₃
  obtain ⟨hopen, rfl⟩ := run_failIf_eq_ok hchecked
  obtain ⟨after, _, hdecide, h₅⟩ := run_bind_eq_ok h₄
  obtain ⟨_, _, hsave, h₆⟩ := run_bind_eq_ok h₅
  cases h₆
  cases decision with
  | rejected =>
    cases hdecide
    refine ⟨before, hstored, ?_,
      stores_of_save_amended hw hstored (Tree.amends_decidePlacement hp hopen) rfl hsave⟩
    obtain ⟨front, back, hbefore, rfl, hafter⟩ := Tree.exists_of_decidePlacement hp .rejected
    rw [hafter]
    exact .rejectPlacement before front back p hbefore hopen
  | accepted dates =>
    obtain ⟨_, _, hnights, hdecide₁⟩ := run_bind_eq_ok hdecide
    obtain ⟨_, rfl⟩ := run_failIf_eq_ok hnights
    obtain ⟨_, _, hissue, hdecide₂⟩ := run_bind_eq_ok hdecide₁
    cases hissue
    cases hdecide₂
    have hamends : before.Amends (before.decidePlacement id .accepted) :=
      Tree.amends_decidePlacement hp hopen
    refine ⟨before, hstored, ?_, ?_⟩
    · obtain ⟨front, back, hbefore, rfl, hafter⟩ := Tree.exists_of_decidePlacement hp .accepted
      rw [hafter]
      exact .acceptPlacement before front back p dates hbefore hopen
    · exact stores_of_save hw hstored (hamends.revises_addRequest rfl rfl) rfl
        (hamends.added_addRequest _) hdigits hsave

/-- The tree of an application that was marked as submitted just now. -/
theorem stores_of_markSubmitted {id : ApplicationId} {a' : Application}
    (h : ((Call.markSubmitted id today).perform world.store).1 = .ok a') :
    ∃ before, world.store.Stores before ∧ before.application.id = id ∧
      before.application.status = .inProgress ∧
      ((Call.markSubmitted id today).perform world.store).2.Stores
        { before with
          application :=
            { before.application with status := .submitted, submittedOn := some today } } := by
  obtain ⟨a, hfind, hstatus, hstore⟩ := Call.perform_markSubmitted h
  obtain ⟨ha, hid⟩ := world.store.applications.find?_eq_some_iff.1 hfind
  obtain ⟨before, htree⟩ := Store.exists_tree?_of_holds ⟨a, ha, rfl⟩
  obtain ⟨hsame, hstored⟩ := Store.stores_of_tree? htree
  obtain rfl : before.application = a :=
    world.store.applications.key_inj_of_mem hstored.application ha (congrArg Id.text hsame)
  refine ⟨before, hstored, congrArg Id.mk hid, hstatus, ?_⟩
  rw [hstore]
  exact ⟨Table.mem_place_self _ _, hstored.assessments, hstored.placements, hstored.requests,
    hstored.bookings⟩

theorem submit_eq_ok {id : ApplicationId} (hw : world.Regular) (hdigits : world'.SixDigits)
    (h : (submit id today).run faults world = (.ok tree, world')) :
    (Action.submit id).Saves today world world' tree := by
  unfold submit at h
  obtain ⟨a', marked, hmark, h₁⟩ := run_bind_eq_ok h
  obtain ⟨hmarked, rfl⟩ := run_call_eq_ok hmark
  obtain ⟨snapshot, _, hfind, h₂⟩ := run_bind_eq_ok h₁
  obtain ⟨htree, rfl⟩ := findTree_eq_ok hfind
  obtain ⟨_, _, hissue, h₃⟩ := run_bind_eq_ok h₂
  cases hissue
  obtain ⟨_, _, hsave, h₄⟩ := run_bind_eq_ok h₃
  cases h₄
  obtain ⟨before, hstored, rfl, hstatus, hstored'⟩ := stores_of_markSubmitted hmarked
  obtain rfl := Option.some.inj ((Store.tree?_of_stores hstored').symm.trans htree)
  have hoffered : (Call.markSubmitted before.application.id today).Offered world :=
    ⟨⟨.markSubmitted _ today, fun right hright => absurd hright (Set.notMem_empty right)⟩,
      fun _ hlinks => absurd hlinks (Set.notMem_empty _)⟩
  have hamends := Tree.Amends.refl
    { before with
      application := { before.application with status := .submitted, submittedOn := some today } }
  refine ⟨before, hstored, .submit before hstatus, ?_⟩
  exact stores_of_save (hw.perform hoffered) hstored' (hamends.revises_addAssessment rfl rfl) rfl
    (hamends.added_addAssessment _) hdigits hsave

end Applications

/-! ## 6. Every such action -/

/-- A stored tree is shown. -/
theorem World.shows_of_stores {world : World} {tree : Tree} (h : world.store.Stores tree) :
    world.Shows tree := by
  intro settings today
  show (Action.replying .application .tree _).run .none world = _
  rw [Action.run_replying, Applications.run_findTree (Store.tree?_of_stores h)]
  rfl

/-- **Each of these actions saves the tree that it answers with.** -/
theorem Action.ChangesTree.saves {wanted : Action} {world world' : World} {faults : Faults}
    {settings : SearchSettings} {today : Date} {reply : Reply} (h : wanted.ChangesTree)
    (hw : world.Regular) (hdigits : world'.SixDigits)
    (hrun : (wanted.perform settings today).run faults world = (.ok reply, world')) :
    ∃ tree, reply = .tree tree ∧ wanted.Saves today world world' tree := by
  cases h with
  | submit id =>
    obtain ⟨tree, hop, rfl⟩ := exists_of_run_replying_eq_ok hrun
    exact ⟨tree, rfl, Applications.submit_eq_ok hw hdigits hop⟩
  | accept id dates =>
    obtain ⟨tree, hop, rfl⟩ := exists_of_run_replying_eq_ok hrun
    exact ⟨tree, rfl, Applications.acceptAssessment_eq_ok hw hdigits hop⟩
  | reject id =>
    obtain ⟨tree, hop, rfl⟩ := exists_of_run_replying_eq_ok hrun
    exact ⟨tree, rfl, Applications.rejectAssessment_eq_ok hw hop⟩
  | reallocate id =>
    obtain ⟨tree, hop, rfl⟩ := exists_of_run_replying_eq_ok hrun
    exact ⟨tree, rfl, Applications.reallocateAssessment_eq_ok hw hdigits hop⟩
  | decidePlacement id decision =>
    obtain ⟨tree, hop, rfl⟩ := exists_of_run_replying_eq_ok hrun
    exact ⟨tree, rfl, Applications.decidePlacement_eq_ok hw hdigits hop⟩

namespace System

variable {world : World} {s : System}

theorem ReachesActing.regular (h₀ : world.store.Unused) (h : (idle world).ReachesActing s) :
    s.world.Regular := by
  obtain ⟨held, hheld⟩ := h.entrusted h₀.sound
  exact ⟨hheld.sound, h.rooted h₀, h.numbered h₀⟩

/-- **The tree of a reply is the stored one.** In every state that clients reach by actions, an action
    that changes a tree makes of the tree that is shown before it what it is to make, and nothing
    else. That is its reply, and what is shown after it, as long as numbers have six digits. -/
theorem reaches_savedTree (h₀ : world.store.Unused) (h : (idle world).ReachesActing s)
    {wanted : Action} (hchanges : wanted.ChangesTree) {faults : Faults} {settings : SearchSettings}
    {today : Date} {reply : Reply} {world' : World}
    (hrun : (wanted.perform settings today).run faults s.world = (.ok reply, world'))
    (hdigits : world'.SixDigits) :
    ∃ before after, reply = .tree after ∧ s.world.Shows before ∧
      wanted.Makes today s.world.nextId before after ∧ world'.Shows after := by
  obtain ⟨after, hreply, before, hbefore, hmakes, hafter⟩ :=
    hchanges.saves (h.regular h₀) hdigits hrun
  exact ⟨before, after, hreply, World.shows_of_stores hbefore, hmakes,
    World.shows_of_stores hafter⟩

/-- Two applications that are assessed, one after the other. -/
def twoAssessed : System :=
  (idle .oneBed).serveAll
    [.createApplication "X320741", .createApplication "X320742",
      .submit (.numbered .application 1), .submit (.numbered .application 2)]

theorem reaches_twoAssessed : (idle .oneBed).ReachesActing twoAssessed :=
  ReachesActing.start.serveAll _

/-- The assessment of the first one is handed on. The reply has the new assessment after the old one,
    and so has what is shown; that of the second application, which was numbered in between, is in
    neither. -/
theorem twoAssessed_savedTree :
    let handOn : Action := .reallocateAssessment (.numbered .assessment 1)
    ∃ before after world',
      (handOn.perform .default .first).run .none twoAssessed.world = (.ok (.tree after), world') ∧
      handOn.Makes .first twoAssessed.world.nextId before after ∧ world'.Shows after ∧
      after.assessments.map Assessment.id = [.numbered .assessment 1, .numbered .assessment 3] := by
  intro handOn
  let operation := Applications.reallocateAssessment (.numbered .assessment 1) .first
  have hids : (operation.run .none twoAssessed.world).1.toOption.map
      (fun tree => tree.assessments.map Assessment.id) =
        some [.numbered .assessment 1, .numbered .assessment 3] := by decide +kernel
  obtain ⟨tree, htree, hids⟩ := Option.map_eq_some_iff.1 hids
  have hrun : (handOn.perform .default .first).run .none twoAssessed.world =
      (.ok (.tree tree), (operation.run .none twoAssessed.world).2) := by
    show (Action.replying .application .tree operation).run .none _ = _
    rw [Action.run_replying, eq_ok_of_toOption htree]
    rfl
  have hdigits : (operation.run .none twoAssessed.world).2.SixDigits := by
    intro kind
    cases kind <;> decide +kernel
  obtain ⟨before, after, hreply, _, hmakes, hshows⟩ :=
    reaches_savedTree World.unused_oneBed reaches_twoAssessed (.reallocate _) hrun hdigits
  cases hreply
  exact ⟨before, tree, _, hrun, hmakes, hshows, hids⟩

end System

end Bedspace
