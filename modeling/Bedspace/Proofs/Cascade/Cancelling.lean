import Bedspace.Application.Cascade

/-!
# A withdrawal only cancels bookings

Whatever tree a withdrawal starts from, also one in which identifiers occur twice, it adds no booking
and changes none but by cancelling it.

* `Tree.OnlyCancels` says so of two trees; every pass of the withdrawal satisfies it;
* **`Tree.onlyCancels_withdraw`**: so does the whole withdrawal.
-/

namespace Bedspace

/-! ## 1. Trees with the same live bookings or fewer -/

/-- The live bookings of the second tree are bookings of the first one. -/
def Tree.OnlyCancels (before after : Tree) : Prop :=
  ∀ b ∈ after.bookings, b.isCancelled = false → b ∈ before.bookings

theorem Tree.OnlyCancels.refl (tree : Tree) : tree.OnlyCancels tree :=
  fun _ hb _ => hb

theorem Tree.OnlyCancels.trans {t₁ t₂ t₃ : Tree} (h₁ : t₁.OnlyCancels t₂)
    (h₂ : t₂.OnlyCancels t₃) : t₁.OnlyCancels t₃ :=
  fun b hb hlive => h₁ b (h₂ b hb hlive) hlive

theorem mem_updateFirst {α : Type} {p : α → Bool} {f : α → α} {as : List α} {a : α}
    (h : a ∈ updateFirst p f as) : a ∈ as ∨ ∃ b ∈ as, a = f b := by
  induction as with
  | nil => cases h
  | cons b as ih =>
    unfold updateFirst at h
    split at h
    · rcases List.mem_cons.1 h with rfl | h
      · exact .inr ⟨b, List.mem_cons_self, rfl⟩
      · exact .inl (List.mem_cons_of_mem _ h)
    · rcases List.mem_cons.1 h with rfl | h
      · exact .inl List.mem_cons_self
      · rcases ih h with h | ⟨c, hc, e⟩
        · exact .inl (List.mem_cons_of_mem _ h)
        · exact .inr ⟨c, List.mem_cons_of_mem _ hc, e⟩

/-! ## 2. The passes -/

namespace Cascade

variable (note : WithdrawalNote) (reason : WithdrawalReason)

/-- What every step of a fold only cancels, the fold only cancels. -/
theorem onlyCancels_foldl {β : Type} {step : Cascade → β → Cascade}
    (hstep : ∀ (cascade : Cascade) (x : β), cascade.tree.OnlyCancels (step cascade x).tree)
    (xs : List β) (cascade : Cascade) : cascade.tree.OnlyCancels (xs.foldl step cascade).tree := by
  induction xs generalizing cascade with
  | nil => exact .refl _
  | cons x xs ih => exact (hstep cascade x).trans (ih (step cascade x))

theorem onlyCancels_booking (cascade : Cascade) (id : BookingId) :
    cascade.tree.OnlyCancels (cascade.booking note reason id).tree := by
  unfold booking
  dsimp only
  split
  · exact .refl _
  · split
    · exact .refl _
    · split
      · exact .refl _
      · intro b hb hlive
        rcases mem_updateFirst hb with hb | ⟨c, _, rfl⟩
        · exact hb
        · simp [Booking.isCancelled] at hlive

theorem onlyCancels_placementRequest (cascade : Cascade) (id : PlacementRequestId) :
    cascade.tree.OnlyCancels (cascade.placementRequest note reason id).tree := by
  unfold placementRequest
  dsimp only
  split
  · exact .refl _
  · split
    · exact .refl _
    · exact onlyCancels_foldl (onlyCancels_booking note _) _ (cascade.mark _ _)

theorem onlyCancels_placementApplication (cascade : Cascade) (id : PlacementApplicationId) :
    cascade.tree.OnlyCancels (cascade.placementApplication note reason id).tree := by
  unfold placementApplication
  dsimp only
  split
  · exact .refl _
  · split
    · exact .refl _
    · exact onlyCancels_foldl (onlyCancels_placementRequest note _) _ (cascade.mark _ _)

theorem assessments_bookings (cascade : Cascade) (done rest : List Assessment) :
    (cascade.assessments done rest).tree.bookings = cascade.tree.bookings := by
  induction rest generalizing cascade done with
  | nil => rfl
  | cons a rest ih =>
    unfold assessments
    dsimp only
    split
    · exact ih _ _
    · split
      · exact ih _ _
      · exact ih _ _

theorem onlyCancels_application (cascade : Cascade) :
    cascade.tree.OnlyCancels (cascade.application note reason).tree := by
  unfold application
  dsimp only
  split
  · exact .refl _
  · refine Tree.OnlyCancels.trans ?_ (onlyCancels_foldl (onlyCancels_booking note _) _ _)
    refine Tree.OnlyCancels.trans ?_ (onlyCancels_foldl (onlyCancels_placementRequest note _) _ _)
    refine Tree.OnlyCancels.trans ?_
      (onlyCancels_foldl (onlyCancels_placementApplication note _) _ _)
    intro b hb _
    rw [assessments_bookings] at hb
    exact hb

end Cascade

/-! ## 3. The withdrawal -/

/-- **A withdrawal only cancels bookings.** -/
theorem Tree.onlyCancels_withdraw {tree tree' : Tree} {target : WithdrawalTarget}
    {reason : WithdrawalReason} {note : WithdrawalNote} {outcome : WithdrawalOutcome}
    (h : tree.withdraw target reason note = .ok (outcome, tree')) : tree.OnlyCancels tree' := by
  unfold withdraw at h
  dsimp only at h
  split at h
  · cases h
  · cases target with
    | application id =>
      cases h
      exact Cascade.onlyCancels_application note reason ⟨tree, [], []⟩
    | placementApplication id =>
      cases h
      exact Cascade.onlyCancels_placementApplication note reason ⟨tree, [], []⟩ id
    | placementRequest id =>
      cases h
      exact Cascade.onlyCancels_placementRequest note reason ⟨tree, [], []⟩ id
    | booking id =>
      dsimp only at h
      split at h
      · cases h
      · cases h
        exact Cascade.onlyCancels_booking note reason ⟨tree, [], []⟩ id

end Bedspace
