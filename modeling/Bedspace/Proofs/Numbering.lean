import Bedspace.Proofs.Acting

/-!
# Identifiers in the order of issue

Records are listed in the order of the texts of their identifiers. As long as numbers have six digits,
this is the order in which the identifiers were issued.

* `Id.numbered_lt`: of two identifiers of a kind the one with the greater number comes later, up to
  the last six-digit number;
* `Store.Numbered`: records have identifiers of the form in which they are issued; this holds in every
  state that clients reach by actions (`System.ReachesActing.numbered`);
* **`World.Sound.lt_nextId`**: the next identifier of a kind comes after all that are in use.
-/

namespace Bedspace

/-! ## 1. Numbers of the same width -/

theorem ofDigitChars_cons_eq (c : Char) (digits : List Char) :
    Nat.ofDigitChars 10 (c :: digits) 0 =
      10 ^ digits.length * (c.toNat - '0'.toNat) + Nat.ofDigitChars 10 digits 0 := by
  rw [Nat.ofDigitChars_cons, Nat.ofDigitChars_eq_ofDigitChars_zero, Nat.mul_zero, Nat.zero_add]

/-- A number is less than the first one with more digits. -/
theorem ofDigitChars_lt {digits : List Char} (h : ∀ c ∈ digits, c.isDigit = true) :
    Nat.ofDigitChars 10 digits 0 < 10 ^ digits.length := by
  induction digits with
  | nil => exact Nat.one_pos
  | cons c digits ih =>
    obtain ⟨hc, hdigits⟩ := List.forall_mem_cons.1 h
    have hrest := ih hdigits
    have hdigit : c.toNat - '0'.toNat ≤ 9 := by
      have hle : c.toNat ≤ '9'.toNat := (Char.isDigit_iff_toNat.1 hc).2
      exact Nat.sub_le_sub_right hle '0'.toNat
    have hfirst : 10 ^ digits.length * (c.toNat - '0'.toNat) ≤ 10 ^ digits.length * 9 :=
      Nat.mul_le_mul_left _ hdigit
    rw [ofDigitChars_cons_eq, List.length_cons, Nat.pow_succ]
    omega

/-- **Of two rows of as many digits, the one with the lesser number comes first.** -/
theorem lt_of_ofDigitChars_lt {xs ys : List Char} (hlength : xs.length = ys.length)
    (hxs : ∀ c ∈ xs, c.isDigit = true) (hys : ∀ c ∈ ys, c.isDigit = true)
    (h : Nat.ofDigitChars 10 xs 0 < Nat.ofDigitChars 10 ys 0) : xs < ys := by
  induction xs generalizing ys with
  | nil =>
    obtain rfl : ys = [] := List.eq_nil_of_length_eq_zero hlength.symm
    exact absurd h (Nat.lt_irrefl _)
  | cons x xs ih =>
    cases ys with
    | nil => cases hlength
    | cons y ys =>
      have hlength : xs.length = ys.length := Nat.succ.inj hlength
      obtain ⟨hx, hxs⟩ := List.forall_mem_cons.1 hxs
      obtain ⟨hy, hys⟩ := List.forall_mem_cons.1 hys
      rw [ofDigitChars_cons_eq, ofDigitChars_cons_eq, hlength] at h
      rw [List.cons_lt_cons_iff]
      rcases Nat.lt_trichotomy x.toNat y.toNat with hlt | heq | hgt
      · exact .inl hlt
      · rw [heq] at h
        exact .inr ⟨Char.toNat_inj.1 heq, ih hlength hxs hys (Nat.lt_of_add_lt_add_left h)⟩
      · -- the first digit outweighs all that come after it
        have hbound : Nat.ofDigitChars 10 ys 0 < 10 ^ ys.length := ofDigitChars_lt hys
        have hzero : '0'.toNat ≤ y.toNat := (Char.isDigit_iff_toNat.1 hy).1
        have hstep : y.toNat - '0'.toNat + 1 ≤ x.toNat - '0'.toNat := by omega
        have hmore : 10 ^ ys.length * (y.toNat - '0'.toNat + 1) ≤
            10 ^ ys.length * (x.toNat - '0'.toNat) := Nat.mul_le_mul_left _ hstep
        rw [Nat.mul_succ] at hmore
        omega

/-- **Numbers that fit into a width come in their order.** -/
theorem paddedNumber_lt {width m n : Nat} (hwidth : 0 < width) (hn : n < 10 ^ width) (h : m < n) :
    paddedNumber width m < paddedNumber width n := by
  have hlength (k : Nat) (hk : k < 10 ^ width) :
      ((Nat.toDigits 10 k).leftpad width '0').length = width := by
    have hfits : (Nat.toDigits 10 k).length ≤ width :=
      (Nat.length_toDigits_le_iff (by decide) hwidth).2 hk
    rw [List.length_leftpad, Nat.max_eq_left hfits]
  have hdigits (k : Nat) : ∀ c ∈ (Nat.toDigits 10 k).leftpad width '0', c.isDigit = true := by
    intro c hc
    rcases List.mem_append.1 hc with hc | hc
    · rw [List.eq_of_mem_replicate hc]
      rfl
    · exact Nat.isDigit_of_mem_toDigits (by decide) (by decide) hc
  unfold paddedNumber
  rw [String.lt_iff, String.toList_ofList, String.toList_ofList]
  refine lt_of_ofDigitChars_lt ?_ (hdigits m) (hdigits n) ?_
  · rw [hlength m (Nat.lt_trans h hn), hlength n hn]
  · rwa [ofDigitChars_leftpad_toDigits, ofDigitChars_leftpad_toDigits]

/-- **Identifiers of a kind come in the order of issue**, up to the last one with six digits. -/
theorem Id.numbered_lt {kind : Kind} {m n : Nat} (h : m < n) (hn : n ≤ 999999) :
    (numbered kind m).text < (numbered kind n).text := by
  have hnumber : paddedNumber 6 m < paddedNumber 6 n :=
    paddedNumber_lt (by decide) (Nat.lt_succ_of_le hn) h
  have htext (k : Nat) : (numbered kind k).text.toList =
      (kind.stem ++ "-").toList ++ (paddedNumber 6 k).toList := String.toList_append
  rw [String.lt_iff] at hnumber ⊢
  rw [htext, htext]
  exact List.append_left_lt hnumber

/-- With a seventh digit the order is another one. -/
example : (Id.numbered .assessment 1000000).text < (Id.numbered .assessment 999999).text := by
  decide

/-! ## 2. Identifiers in use -/

/-- **Records have identifiers that are numbered.** -/
def Store.Numbered (store : Store) : Prop :=
  ∀ kind id, store.holds kind id → ∃ n, id = .numbered kind n

/-- At most as many identifiers of a kind were issued as there are numbers of six digits. -/
def World.SixDigits (world : World) : Prop := ∀ kind, world.issued kind ≤ 999999

theorem Store.Numbered.perform {world : World} {c : Call} (h : world.store.Numbered)
    (hc : c.Due world) : (c.perform world.store).2.Numbered := by
  intro kind id hid
  rcases hc.revisedBy.holds hid with hold | hneeds
  · exact h kind id hold
  · obtain ⟨⟨n, _, e⟩, _⟩ := hc.rights _ hneeds
    exact ⟨n, e⟩

/-- **Where clients ask for actions, identifiers are numbered.** -/
theorem System.ReachesActing.numbered {world : World} {s : System} (h₀ : world.store.Unused)
    (h : (idle world).ReachesActing s) : s.world.store.Numbered := by
  refine h.invariant h₀.sound (fun _ _ hc hnumbered => hnumbered.perform hc.due)
    (fun store c hc hnumbered => ?_) fun kind id hid => absurd hid h₀.not_holds
  -- what is loaded is not issued an identifier
  cases hc with
  | premises => exact fun kind id hid => hnumbered kind id (by cases kind <;> exact hid)
  | district => exact fun kind id hid => hnumbered kind id (by cases kind <;> exact hid)

/-- **The next identifier of a kind comes after all of this kind that are in use.** -/
theorem World.Sound.lt_nextId {world : World} (h : world.Sound) (hnumbered : world.store.Numbered)
    {kind : Kind} (hdigits : world.issued kind + 1 ≤ 999999) {id : Id kind}
    (hid : world.store.holds kind id) : id.text < (world.nextId kind).text := by
  obtain ⟨n, rfl⟩ := hnumbered kind id hid
  exact Id.numbered_lt (Nat.lt_succ_of_le (h.issued kind n hid)) hdigits

end Bedspace
