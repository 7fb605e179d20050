import Bedspace.Proofs.Cascade.Heredity
import Bedspace.Proofs.Decisions

/-!
# Assessments of withdrawn applications

A withdrawal closes all assessments of its application, and whatever was read before it cannot be
saved after it. Only a submission that has marked the application before the withdrawal and reads
the tree after it still saves one, for it does not look whether the application is withdrawn.

* `Assessment.ClosedButOne` says that no assessment of a list is open, or that it is the only one
  and waits for its assessor;
* `Call.Due.perm_assessments` says what the assessments of an application are after a tree is saved,
  `Call.Due.closedButOne` what those of a withdrawn application are;
* **`System.reaches_closedButOne`**: in every run, a withdrawn application has no open assessment,
  or just the one of such a late submission.
-/

namespace Bedspace

/-! ## 1. Lists of assessments -/

namespace Assessment

/-- **No assessment is open, or there is only one**, and it waits for its assessor. -/
def ClosedButOne (xs : List Assessment) : Prop :=
  (∀ a ∈ xs, TreeNode.isOpen a = false) ∨ ∃ a, xs = [a] ∧ a.isPending = true

theorem ClosedButOne.perm {xs ys : List Assessment} (h : ClosedButOne xs) (hperm : ys.Perm xs) :
    ClosedButOne ys := by
  refine h.imp (fun hclosed a ha => hclosed a (hperm.mem_iff.1 ha)) ?_
  rintro ⟨a, rfl, ha⟩
  exact ⟨a, List.perm_singleton.1 hperm, ha⟩

variable {note : WithdrawalNote} {reasonOf : Entity → WithdrawalReason} {marked : List Entity}

/-- Marks close what they are put on and leave the rest as it is. -/
theorem ClosedButOne.mark {xs : List Assessment} (h : ClosedButOne xs) :
    ClosedButOne (xs.map (TreeNode.mark note reasonOf marked)) := by
  have closed {a : Assessment} (ha : TreeNode.isOpen a = false) :
      TreeNode.isOpen (TreeNode.mark note reasonOf marked a) = false := by
    refine Bool.eq_false_iff.2 fun hopen => ?_
    rw [(TreeNode.isOpen_of_mark hopen).2] at ha
    cases ha
  rcases h with hclosed | ⟨a, rfl, ha⟩
  · refine .inl fun a' ha' => ?_
    obtain ⟨a, ha, rfl⟩ := List.mem_map.1 ha'
    exact closed (hclosed a ha)
  · by_cases hmarked : TreeNode.entity a ∈ marked
    · refine .inl fun a' ha' => ?_
      obtain rfl := List.mem_singleton.1 ha'
      rw [TreeNode.mark_of_mem hmarked]
      exact TreeNode.isOpen_stamp _ _ a
    · refine .inr ⟨a, ?_, ha⟩
      rw [List.map_singleton, TreeNode.mark_of_not_mem hmarked]

end Assessment

/-! ## 2. One call -/

namespace Store

/-- The assessments of an application, in the order of their identifiers. -/
def assessmentsOf (store : Store) (id : ApplicationId) : List Assessment :=
  store.assessments.rows.filter fun a => a.applicationId = id

/-- **No withdrawn application has an open assessment**, except for one that is its only one. -/
def ClosedButOne (store : Store) : Prop :=
  ∀ a ∈ store.applications.rows, a.isWithdrawn = true →
    Assessment.ClosedButOne (store.assessmentsOf a.id)

end Store

namespace Call.Due

variable {world : World} {before after : Tree}

/-- **The assessments of an application after a tree is saved** are those of the tree, or the same
    as before if the tree is of another application. -/
theorem perm_assessments (hc : (Call.saveTree before after).Due world)
    (hstored : world.store.Stores before) (id : ApplicationId) :
    ((world.store.putTree after).assessmentsOf id).Perm
      (if before.application.id = id then after.assessments else world.store.assessmentsOf id) := by
  have hbefore : ∀ a ∈ before.assessments, a.applicationId = before.application.id :=
    fun a ha => (hstored.mem_assessments.1 ha).2
  have hafter := hc.served.revises.own hbefore
  obtain ⟨rest, hrows, hrows'⟩ := (hc.rewrites hstored).assessments
  have hsplit := hrows.filter fun a => decide (a.applicationId = id)
  have hsplit' := hrows'.filter fun a => decide (a.applicationId = id)
  rw [List.filter_append] at hsplit hsplit'
  split
  · rename_i hid
    subst hid
    have hall {xs : List Assessment} (hxs : ∀ a ∈ xs, a.applicationId = before.application.id) :
        xs.filter (fun a => decide (a.applicationId = before.application.id)) = xs :=
      List.filter_eq_self.2 fun a ha => decide_eq_true (hxs a ha)
    -- nothing else in the table is of this application
    have hrest : rest.filter (fun a => decide (a.applicationId = before.application.id)) = [] := by
      have hlength := hsplit.length_eq
      rw [← hstored.assessments, hall hbefore, List.length_append] at hlength
      exact List.length_eq_zero_iff.1 (by omega)
    rw [hrest, List.append_nil, hall hafter] at hsplit'
    exact hsplit'
  · rename_i hid
    have hnone {xs : List Assessment} (hxs : ∀ a ∈ xs, a.applicationId = before.application.id) :
        xs.filter (fun a => decide (a.applicationId = id)) = [] :=
      List.filter_eq_nil_iff.2 fun a ha h => hid ((hxs a ha).symm.trans (of_decide_eq_true h))
    rw [hnone hbefore, List.nil_append] at hsplit
    rw [hnone hafter, List.nil_append] at hsplit'
    exact hsplit'.trans hsplit.symm

/-- **What is saved of a withdrawn application has no open assessment**, except for one that is its
    only one. -/
theorem closedButOne (hc : (Call.saveTree before after).Due world)
    (hstored : world.store.Stores before)
    (hbefore : before.application.isWithdrawn = true →
      Assessment.ClosedButOne before.assessments)
    (hwithdrawn : after.application.isWithdrawn = true) :
    Assessment.ClosedButOne after.assessments := by
  have of_readLive (hlive : before.ReadLive) (hsame : after.application = before.application) :
      Assessment.ClosedButOne after.assessments := by
    rw [hsame, hlive.2] at hwithdrawn
    cases hwithdrawn
  cases hc.served with
  | read _ h => cases h
  | allocate store id _ n today htree =>
    -- the right to allocate is good only as long as there is no assessment
    have hfirst := hc.assessments_eq_nil hstored (by
      rw [Tree.standing_addAssessment rfl]
      exact Nat.lt_succ_self _)
    refine .inr ⟨Tree.newAssessment (.numbered .assessment n) id today, ?_, rfl⟩
    unfold Tree.addAssessment
    rw [hfirst, List.nil_append]
  | acceptAssessment _ id n dates today hpending hdays => exact of_readLive hpending.1 rfl
  | rejectAssessment _ id hpending => exact of_readLive hpending.1 rfl
  | reallocateAssessment _ id n today hpending => exact of_readLive hpending.1 rfl
  | createPlacement _ n today hlive haccepted => exact of_readLive hlive rfl
  | rejectPlacement _ id placement hlive hfind hopen => exact of_readLive hlive rfl
  | acceptPlacement _ id placement n dates today hlive hfind hopen hdays =>
    exact of_readLive hlive rfl
  | withdraw store id _ _ target reason note outcome htree hreason hwithdraw hchanged =>
    have hids := hstored.distinctIds
    obtain rfl := Tree.eq_marked_of_withdraw hids hwithdraw
    cases hold : before.application.isWithdrawn with
    | true => exact (hbefore hold).mark
    | false =>
      -- the application is closed now, and all that is open below it with it
      have hopen : TreeNode.isOpen before.application = true := Application.isOpen_iff.2 hold
      have hclosed := Bool.eq_false_iff.2 fun h =>
        Bool.false_ne_true ((Application.isOpen_iff.1 h).symm.trans hwithdrawn)
      refine .inl fun a' ha' => ?_
      obtain ⟨a, ha, rfl⟩ := List.mem_map.1 ha'
      exact Tree.isOpen_mark_below (Tree.isOpen_assessment hids ha) (.assessment a ha) hopen
        hclosed

end Call.Due

namespace Store.ClosedButOne

variable {world : World}

theorem save {before after : Tree} (h : world.store.ClosedButOne)
    (hc : (Call.saveTree before after).Due world) (hstored : world.store.Stores before) :
    (world.store.putTree after).ClosedButOne := by
  have hid : after.application.id = before.application.id := hc.served.revises.application.id_eq
  intro a ha hwithdrawn
  have hperm := hc.perm_assessments hstored a.id
  rcases world.store.applications.mem_put.1 ha with rfl | ⟨ha, hkey⟩
  · rw [if_pos hid.symm] at hperm
    refine .perm (hc.closedButOne hstored (fun hold => ?_) hwithdrawn) hperm
    have hbefore := h before.application hstored.application hold
    rwa [assessmentsOf, ← hstored.assessments] at hbefore
  · rw [if_neg fun e => hkey (congrArg Id.text (e.symm.trans hid.symm))] at hperm
    exact .perm (h a ha hwithdrawn) hperm

/-- Another application that is not withdrawn changes nothing. -/
theorem putApplication {store : Store} (h : store.ClosedButOne) {a : Application}
    (ha : a.isWithdrawn = false) :
    ({ store with applications := store.applications.put a } : Store).ClosedButOne := by
  intro b hb hwithdrawn
  rcases store.applications.mem_put.1 hb with rfl | ⟨hb, _⟩
  · rw [ha] at hwithdrawn
    cases hwithdrawn
  · exact h b hb hwithdrawn

/-- **A due call leaves no withdrawn application with an open assessment**, except for one that is
    its only one. -/
theorem perform {c : Call} (hc : c.Due world) (h : world.store.ClosedButOne) :
    (c.perform world.store).2.ClosedButOne := by
  rcases Call.perform_cases world.store c with e | hw
  · rw [e]
    exact h
  · generalize (c.perform world.store).2 = store' at hw ⊢
    cases hw with
    | putPremises | putDistrict | insertBooking | replaceBooking | insertOutOfService
    | replaceOutOfService => exact h
    | insertApplication a hnew =>
      refine h.putApplication ?_
      cases hc.served with
      | read _ h => cases h
      | createApplication => rfl
    | markSubmitted id on a hfind hstatus => exact h.putApplication rfl
    | saveTree before after hstored hid => exact h.save hc (Store.stores_of_tree? hstored).2

end Store.ClosedButOne

/-! ## 3. Runs -/

namespace System

variable {world : World} {s : System}

/-- **All assessments of a withdrawn application are withdrawn or were reallocated, or it has only
    one**, which still waits for its assessor. -/
theorem reaches_closedButOne (h₀ : world.store.Unused) (h : (idle world).Reaches s)
    {id : ApplicationId} {tree : Tree} (htree : s.world.store.tree? id = some tree)
    (hwithdrawn : tree.application.isWithdrawn = true) :
    (∀ a ∈ tree.assessments, a.withdrawn = true ∨ a.reallocatedOn.isSome = true) ∨
      ∃ a, tree.assessments = [a] ∧ a.isPending = true := by
  have hunused : world.store.ClosedButOne := by
    unfold Store.ClosedButOne
    rw [h₀.applications]
    exact fun _ ha => absurd ha List.not_mem_nil
  have hinv : s.world.store.ClosedButOne :=
    h.due_invariant (fun _ _ _ hc h => h.perform hc) h₀.sound hunused
  obtain ⟨_, hstored⟩ := Store.stores_of_tree? htree
  have hclosed := hinv tree.application hstored.application hwithdrawn
  rw [Store.assessmentsOf, ← hstored.assessments] at hclosed
  refine hclosed.imp_left fun hclosed a ha => ?_
  have hnot := Bool.eq_false_iff.1 (hclosed a ha)
  rw [Ne, Assessment.isOpen_iff, not_and_or, Bool.not_eq_false] at hnot
  exact hnot.imp_right Option.isSome_iff_ne_none.2

/-- An application is created and marked by its submission; before that reads the tree, the
    application is withdrawn. -/
def overtaken : System :=
  let application : ApplicationId := .numbered .application 1
  (arrived (.ofStore .empty)
    [.action .default .first (.createApplication "X320741"),
    .action .default .first (.submit application),
    .action .default .first (.withdraw (.application application) ⟨.duplicateApplication, none⟩)]
    ).follow [0, 0, 1, 2, 2, 2, 1, 1, 1]

theorem overtaken_closedButOne :
    ∃ tree, overtaken.world.store.tree? (.numbered .application 1) = some tree ∧
      tree.application.isWithdrawn = true ∧
      ((∀ a ∈ tree.assessments, a.withdrawn = true ∨ a.reallocatedOn.isSome = true) ∨
        ∃ a, tree.assessments = [a] ∧ a.isPending = true) := by
  have hstored : (overtaken.world.store.tree? (.numbered .application 1)).map
      (fun tree => tree.application.isWithdrawn) = some true := by
    decide +kernel
  obtain ⟨tree, htree, hwithdrawn⟩ := Option.map_eq_some_iff.1 hstored
  exact ⟨tree, htree, hwithdrawn, reaches_closedButOne Store.unused_empty
    (reaches_follow (reaches_arrived _ _) _) htree hwithdrawn⟩

/-- The submission goes on and allocates an assessment of the withdrawn application. -/
theorem overtaken_open :
    (idle (.ofStore .empty)).Reaches overtaken ∧
      overtaken.world.store.applications.rows.map (fun a => (a.id, a.status)) =
        [(.numbered .application 1, .withdrawn)] ∧
      overtaken.world.store.assessments.rows.map
          (fun a => (a.applicationId, a.withdrawn, a.reallocatedOn)) =
        [(.numbered .application 1, false, none)] :=
  ⟨reaches_follow (reaches_arrived _ _) _, by decide +kernel, by decide +kernel⟩

end System

end Bedspace
