import Bedspace.Proofs.Calendar.Overlaps
import Bedspace.Search.Find
import Mathlib.Data.Finset.Card

/-!
# How results are listed and counted

* `trans_of_number` and `total_of_number` are the laws of an order by a number and then by something
  else; `pairwise_mergeSort_dated` puts records into the order of a date and then of an identifier;
* `ApprovedPremisesBed.NotAfter` is the order of approved premises results; sorting by
  `BedSearch.nearerFirst`, by `BedSearch.bedListedBefore` and by `BedSearch.groupListedBefore` puts a
  listing into its order (`BedSearch.pairwise_nearest` and the like);
* `BedSearchResults.distinct_eq`: counting by way of a table of texts counts the different ones.
-/

namespace Bedspace

/-! ## 1. Orders -/

section ByNumber

variable {α : Type} {before second : α → α → Bool} {number : α → Int}

theorem trans_of_number
    (h : ∀ a b, before a b = true ↔
      number a < number b ∨ number a = number b ∧ second a b = true)
    (hsecond : ∀ a b c, second a b = true → second b c = true → second a c = true)
    (a b c : α) (hab : before a b = true) (hbc : before b c = true) : before a c = true := by
  rw [h] at hab hbc ⊢
  rcases hab with hab | ⟨hab, sab⟩
  · rcases hbc with hbc | ⟨hbc, _⟩
    · exact .inl (Int.lt_trans hab hbc)
    · exact .inl (hbc ▸ hab)
  · rcases hbc with hbc | ⟨hbc, sbc⟩
    · exact .inl (hab ▸ hbc)
    · exact .inr ⟨hab.trans hbc, hsecond a b c sab sbc⟩

theorem total_of_number
    (h : ∀ a b, before a b = true ↔
      number a < number b ∨ number a = number b ∧ second a b = true)
    (hsecond : ∀ a b, (second a b || second b a) = true) (a b : α) :
    (before a b || before b a) = true := by
  rw [Bool.or_eq_true, h, h]
  rcases Int.lt_trichotomy (number a) (number b) with hlt | heq | hgt
  · exact .inl (.inl hlt)
  · rcases Bool.or_eq_true_iff.1 (hsecond a b) with hs | hs
    · exact .inl (.inr ⟨heq, hs⟩)
    · exact .inr (.inr ⟨heq.symm, hs⟩)
  · exact .inr (.inl hgt)

end ByNumber

/-- **Records with different identifiers are put in the strict order of a date and the identifier.** -/
theorem pairwise_mergeSort_dated {α : Type} {kind : Kind} {before : α → α → Bool} {date : α → Date}
    {id : α → Id kind}
    (h : ∀ a b, before a b = true ↔ date a < date b ∨ date a = date b ∧ (id a).text ≤ (id b).text)
    {xs : List α} (hids : (xs.map id).Nodup) :
    (xs.mergeSort before).Pairwise fun a b =>
      date a < date b ∨ date a = date b ∧ (id a).text < (id b).text := by
  have hnumber (a b : α) : before a b = true ↔ (date a).day < (date b).day ∨
      (date a).day = (date b).day ∧ decide ((id a).text ≤ (id b).text) = true := by
    rw [h, decide_eq_true_eq]
    exact or_congr Iff.rfl (and_congr_left' ⟨congrArg Date.day, Date.eq_of_day_eq⟩)
  have htrans := trans_of_number hnumber fun a b c hab hbc =>
    decide_eq_true (String.le_trans (of_decide_eq_true hab) (of_decide_eq_true hbc))
  have htotal := total_of_number hnumber fun a b => by
    rw [Bool.or_eq_true, decide_eq_true_eq, decide_eq_true_eq]
    exact String.le_total _ _
  have hdistinct : (xs.mergeSort before).Pairwise fun a b => id a ≠ id b :=
    List.pairwise_map.1 (((List.mergeSort_perm xs before).map id).nodup_iff.2 hids)
  refine (List.pairwise_mergeSort htrans htotal xs).imp₂ (fun a b hbefore hne => ?_) hdistinct
  refine ((h a b).1 hbefore).imp_right fun ⟨hdate, hle⟩ => ⟨hdate, ?_⟩
  exact String.not_le.1 fun hge => hne (congrArg Id.mk (String.le_antisymm hle hge))

/-- The names of a result, by which it is ordered among those at one distance. -/
def ApprovedPremisesBed.names (found : ApprovedPremisesBed) : List String :=
  [found.premises.name, found.room.name, found.bed.name]

/-- **One result does not come after another one**: it is nearer, or as near and not after it by the
    names of premises, room and bed. -/
def ApprovedPremisesBed.NotAfter (a b : ApprovedPremisesBed) : Prop :=
  Decimal.totalOrder a.distanceMiles b.distanceMiles = .lt ∨
    Decimal.totalOrder a.distanceMiles b.distanceMiles = .eq ∧ Text.Precedes a.names b.names

/-- What does not come after another result is not farther. -/
theorem ApprovedPremisesBed.NotAfter.not_nearer {a b : ApprovedPremisesBed} (h : a.NotAfter b) :
    Decimal.totalOrder b.distanceMiles a.distanceMiles ≠ .lt := by
  rw [NotAfter, Decimal.totalOrder, Int.compare_eq_lt, Int.compare_eq_eq] at h
  rw [Decimal.totalOrder, Ne, Int.compare_eq_lt]
  omega

namespace BedSearch

theorem nearerFirst_iff {a b : ApprovedPremisesBed} : nearerFirst a b = true ↔ a.NotAfter b := by
  unfold nearerFirst ApprovedPremisesBed.NotAfter
  cases Decimal.totalOrder a.distanceMiles b.distanceMiles with
  | lt => exact iff_of_true rfl (.inl rfl)
  | eq =>
    refine Text.precedes_iff.trans ⟨fun h => .inr ⟨rfl, h⟩, fun h => ?_⟩
    rcases h with h | ⟨_, h⟩
    · cases h
    · exact h
  | gt => exact iff_of_false Bool.false_ne_true fun h => by rcases h with h | ⟨h, _⟩ <;> cases h

/-- Nearest first, in terms of the places of the distances in their order. -/
theorem nearerFirst_iff_key {a b : ApprovedPremisesBed} :
    nearerFirst a b = true ↔
      Decimal.orderKey a.distanceMiles < Decimal.orderKey b.distanceMiles ∨
        Decimal.orderKey a.distanceMiles = Decimal.orderKey b.distanceMiles ∧
          Text.precedes a.names b.names = true := by
  rw [nearerFirst_iff, ApprovedPremisesBed.NotAfter, Decimal.totalOrder, Int.compare_eq_lt,
    Int.compare_eq_eq, Text.precedes_iff]

theorem pairwise_nearest (beds : List ApprovedPremisesBed) :
    (beds.mergeSort nearerFirst).Pairwise ApprovedPremisesBed.NotAfter := by
  have hnumber (a b : ApprovedPremisesBed) := nearerFirst_iff_key (a := a) (b := b)
  have htrans := trans_of_number hnumber fun _ _ _ => Text.precedes_trans
  have htotal := total_of_number hnumber fun a b => Text.precedes_total a.names b.names
  exact (List.pairwise_mergeSort htrans htotal beds).imp nearerFirst_iff.1

/-- Of two beds that are listed, the nearer one comes first. -/
theorem map_id_eq_of_nearer {beds : List ApprovedPremisesBed} {x y : BedId} (hxy : x ≠ y)
    (hpair : (beds.map fun found => found.bed.id).Perm [x, y])
    (horder : beds.Pairwise ApprovedPremisesBed.NotAfter)
    (hnearer : ∀ a ∈ beds, ∀ b ∈ beds, a.bed.id = x → b.bed.id = y →
      Decimal.totalOrder a.distanceMiles b.distanceMiles = .lt) :
    beds.map (fun found => found.bed.id) = [x, y] := by
  have hlater : (beds.map fun found => found.bed.id).Pairwise fun first second =>
      ¬ (first = y ∧ second = x) :=
    List.pairwise_map.2 (horder.imp_of_mem fun {a b} ha hb hnotAfter ⟨hay, hbx⟩ =>
      hnotAfter.not_nearer (hnearer b hb a ha hbx hay))
  refine hpair.eq_of_pairwise (fun first second hfirst hsecond hle hge => ?_) hlater
    (List.pairwise_pair.2 fun h => hxy h.1)
  rcases List.mem_pair.1 (hpair.mem_iff.1 hfirst) with rfl | rfl <;>
    rcases List.mem_pair.1 hsecond with rfl | rfl
  · rfl
  · exact absurd ⟨rfl, rfl⟩ hge
  · exact absurd ⟨rfl, rfl⟩ hle
  · rfl

/-- Sorting by rows of texts puts a listing in the order of these rows. -/
theorem pairwise_mergeSort_precedes {α : Type} (row : α → List String) (xs : List α) :
    (xs.mergeSort fun a b => Text.precedes (row a) (row b)).Pairwise fun a b =>
      Text.Precedes (row a) (row b) := by
  have htrans (a b c : α) (hab : Text.precedes (row a) (row b) = true)
      (hbc : Text.precedes (row b) (row c) = true) : Text.precedes (row a) (row c) = true :=
    Text.precedes_trans hab hbc
  have htotal (a b : α) : (Text.precedes (row a) (row b) || Text.precedes (row b) (row a)) = true :=
    Text.precedes_total (row a) (row b)
  exact (List.pairwise_mergeSort htrans htotal xs).imp fun h => Text.precedes_iff.1 h

theorem pairwise_bedsByName (beds : List (Room × Bed)) :
    (beds.mergeSort bedListedBefore).Pairwise fun a b =>
      Text.Precedes [a.1.name, a.2.name] [b.1.name, b.2.name] :=
  pairwise_mergeSort_precedes (fun found => [found.1.name, found.2.name]) beds

theorem pairwise_groupsByName (groups : List TemporaryAccommodationGroup) :
    (groups.mergeSort groupListedBefore).Pairwise fun a b =>
      Text.Precedes [a.premises.name, a.premises.id.text]
        [b.premises.name, b.premises.id.text] :=
  pairwise_mergeSort_precedes (fun group => [group.premises.name, group.premises.id.text]) groups

end BedSearch

/-! ## 2. Counts -/

theorem TextSet.mem_putAll {texts : List String} (set : TextSet) {text : String} :
    text ∈ (set.putAll texts).rows ↔ text ∈ texts ∨ text ∈ set.rows := by
  induction texts generalizing set with
  | nil => exact ⟨.inr, fun h => h.resolve_left List.not_mem_nil⟩
  | cons a texts ih =>
    rw [Table.putAll_cons, ih, Table.mem_put, List.mem_cons]
    constructor
    · rintro (h | rfl | ⟨h, _⟩)
      · exact .inl (.inr h)
      · exact .inl (.inl rfl)
      · exact .inr h
    · rintro ((rfl | h) | h)
      · exact .inr (.inl rfl)
      · exact .inl h
      · by_cases e : text = a
        · exact .inr (.inl e)
        · exact .inr (.inr ⟨h, e⟩)

theorem TextSet.nodup_rows (set : TextSet) : set.rows.Nodup :=
  set.ascending.imp fun {a b} (h : a < b) => String.ne_of_lt h

/-- **The number of different texts is the size of their set.** -/
theorem BedSearchResults.distinct_eq (texts : List String) :
    distinct texts = texts.toFinset.card := by
  unfold distinct
  rw [← List.toFinset_card_of_nodup (TextSet.nodup_rows _)]
  congr 1
  ext text
  rw [List.mem_toFinset, List.mem_toFinset, Table.ofList, TextSet.mem_putAll]
  exact or_iff_left List.not_mem_nil

end Bedspace
