import Bedspace.Proofs.Estate.Bookkeeping
import Mathlib.Data.List.TakeWhile

/-!
# What an imported estate is like

Two things that an import checks, said of all that it gives.

* `Inventory.DistinctBeds`: no two beds of some premises have one identifier, as no two of the whole
  estate have (**`readEstate_distinctBeds`**);
* `District.Named`: the outcode of a district is more than blanks. A row has no blanks at the ends
  of its values (`Csv.trim_of_mem_rows`), so the check that the outcode is not empty is enough
  (**`readDistricts_named`**).
-/

namespace Bedspace

open Text

/-! ## 1. Beds -/

/-- No two beds of some premises have one identifier. -/
def Inventory.DistinctBeds (inventory : Inventory) : Prop :=
  (inventory.beds.map fun found => found.2.id).Nodup

/-- Premises have some of the beds of their estate. -/
theorem Estate.Groups.distinctBeds {records : List BedRecord} {estate : Estate}
    (h : Groups records estate) : ∀ inventory ∈ estate, inventory.DistinctBeds := by
  intro inventory hinventory
  have hdistinct := h.bedsDistinct
  unfold bedPlaces at hdistinct
  rw [List.map_flatMap] at hdistinct
  have hthese := (List.nodup_flatMap.1 hdistinct).1 inventory hinventory
  unfold Inventory.DistinctBeds Inventory.beds
  rw [List.map_flatMap] at hthese ⊢
  simp only [List.map_map] at hthese ⊢
  exact hthese

/-- **No premises of an imported estate have two beds under one identifier.** -/
theorem readEstate_distinctBeds {input : List UInt8} {estate : Estate}
    (h : readEstate input = .ok estate) : ∀ inventory ∈ estate, inventory.DistinctBeds := by
  obtain ⟨records, _, h⟩ := exists_of_bind_eq_ok h
  exact (Estate.groups_of_ofRecords h).distinctBeds

/-- The beds of distinct premises are found by their identifiers. -/
theorem Inventory.DistinctBeds.locate? {inventory : Inventory} (h : inventory.DistinctBeds)
    {found : Room × Bed} (hfound : found ∈ inventory.beds) :
    inventory.locate? found.2.id = some found := by
  unfold Inventory.locate?
  cases hfind : inventory.beds.find? fun other => other.2.id = found.2.id with
  | none => exact absurd (decide_eq_true rfl) (List.find?_eq_none.1 hfind found hfound)
  | some other =>
    have hfits := List.find?_some hfind
    have hid : other.2.id = found.2.id := of_decide_eq_true hfits
    exact congrArg some (List.inj_on_of_nodup_map h (List.mem_of_find?_eq_some hfind) hfound hid)

/-! ## 2. Values of rows -/

namespace Csv

variable {value : String} {values : List String} {found : List (Option String)}
  {columns : List Column}

theorem trim_of_mem_decodeFields {number : Nat} {fields : List (List UInt8)}
    (h : decodeFields number fields = .ok values) (hvalue : value ∈ values) :
    trim value = value := by
  induction fields generalizing number values with
  | nil =>
    cases h
    cases hvalue
  | cons field fields ih =>
    unfold decodeFields at h
    split at h
    · cases h
    · rename_i first _
      obtain ⟨rest, hrest, rfl⟩ := exists_of_map_eq_ok h
      rcases List.mem_cons.1 hvalue with rfl | hvalue
      · exact trim_trim first
      · exact ih hrest hvalue

/-- **A row has no blanks at the ends of its values.** -/
theorem trim_of_mem_rows {input : List UInt8} {row : Row} (h : .ok row ∈ rows input)
    (hvalue : value ∈ row.values) : trim value = value := by
  unfold rows at h
  split at h
  · cases h
  · obtain ⟨record, _, h⟩ := List.mem_map.1 h
    unfold rowOf at h
    split at h
    · cases h
    · split at h
      · cases h
      · rename_i values hvalues
        cases h
        exact trim_of_mem_decodeFields hvalues hvalue

theorem mem_of_lookup {β : Type} {cells : List (String × β)} {name : String} {b : β}
    (h : cells.lookup name = some b) : b ∈ cells.map Prod.snd := by
  induction cells with
  | nil => cases h
  | cons cell cells ih =>
    rw [List.lookup_cons] at h
    split at h
    · exact Option.some.inj h ▸ List.mem_cons_self
    · exact List.mem_cons_of_mem _ (ih h)

theorem mem_of_selectNamed {cells : List (String × String)}
    (h : selectNamed cells columns = .ok found) (hvalue : some value ∈ found) :
    value ∈ cells.map Prod.snd := by
  induction columns generalizing found with
  | nil =>
    cases h
    cases hvalue
  | cons column columns ih =>
    unfold selectNamed at h
    dsimp only at h
    split at h
    · cases h
    · obtain ⟨rest, hrest, rfl⟩ := exists_of_map_eq_ok h
      rcases List.mem_cons.1 hvalue with e | hvalue
      · exact mem_of_lookup e.symm
      · exact ih hrest hvalue

theorem mem_of_selectNext {shape : String} {wanted number : Nat}
    (h : selectNext shape wanted number values columns = .ok found)
    (hvalue : some value ∈ found) : value ∈ values := by
  induction columns generalizing number values found with
  | nil =>
    unfold selectNext at h
    cases h
    cases hvalue
  | cons column columns ih =>
    cases values with
    | nil =>
      unfold selectNext at h
      split at h
      · cases h
      · obtain ⟨rest, hrest, rfl⟩ := exists_of_map_eq_ok h
        rcases List.mem_cons.1 hvalue with e | hvalue
        · cases e
        · exact ih hrest hvalue
    | cons first values =>
      unfold selectNext at h
      obtain ⟨rest, hrest, rfl⟩ := exists_of_map_eq_ok h
      rcases List.mem_cons.1 hvalue with e | hvalue
      · exact Option.some.inj e ▸ List.mem_cons_self
      · exact List.mem_cons_of_mem _ (ih hrest hvalue)

/-- What is selected from a row is among its values. -/
theorem Row.mem_of_select {row : Row} {shape : String} (h : row.select shape columns = .ok found)
    (hvalue : some value ∈ found) : value ∈ row.values := by
  have h := eq_ok_of_mapError h
  split at h
  · exact mem_of_selectNext h hvalue
  · split at h
    · cases h
    · obtain ⟨cell, hcell, rfl⟩ := List.mem_map.1 (mem_of_selectNamed h hvalue)
      exact (List.of_mem_zip hcell).2

end Csv

/-! ## 3. Outcodes -/

/-- The outcode of a district is more than blanks. -/
def District.Named (district : District) : Prop := isEmptyTrimmed district.outcode = false

namespace Text

theorem trim_eq_empty_iff {s : String} : trim s = "" ↔ isEmptyTrimmed s = true := by
  unfold trim isEmptyTrimmed trimChars trimStart
  rw [String.ofList_eq_empty_iff, List.reverse_eq_nil_iff, List.dropWhile_eq_nil_iff,
    List.all_eq_true]
  constructor
  · intro h
    have hhead := List.head?_dropWhile_not isBlank s.toList
    cases hrest : s.toList.dropWhile isBlank with
    | nil => exact List.dropWhile_eq_nil_iff.1 hrest
    | cons c rest =>
      -- what is left begins with a character that is not blank
      rw [hrest] at hhead h
      exact absurd (h c (List.mem_reverse.2 List.mem_cons_self)) (Bool.eq_false_iff.1 hhead)
  · intro h c hc
    exact h c ((List.dropWhile_sublist _).subset (List.mem_reverse.1 hc))

/-- The characters from `A` to `z` are not blank. -/
theorem isBlank_of_letter {c : Char} (hfirst : 65 ≤ c.toNat) (hlast : c.toNat ≤ 122) :
    isBlank c = false := by
  unfold isBlank
  simp only [Bool.or_eq_false_iff, Bool.and_eq_false_iff, decide_eq_false_iff_not,
    beq_eq_false_iff_ne]
  omega

theorem isBlank_toUpper (c : Char) : isBlank c.toUpper = isBlank c := by
  unfold Char.toUpper
  split
  · rename_i hsmall
    obtain ⟨hfirst, hlast⟩ := hsmall
    have hfirst : 97 ≤ c.toNat := UInt32.le_iff_toNat_le.1 hfirst
    have hlast : c.toNat ≤ 122 := UInt32.le_iff_toNat_le.1 hlast
    have hcapital : (c.val + ('A'.val - 'a'.val)).toNat = c.toNat - 32 := by
      rw [UInt32.toNat_add, show ('A'.val - 'a'.val).toNat = 2 ^ 32 - 32 from rfl]
      show (c.toNat + (2 ^ 32 - 32)) % 2 ^ 32 = _
      omega
    rw [isBlank_of_letter (by omega) hlast]
    refine isBlank_of_letter ?_ ?_
    · show 65 ≤ (c.val + ('A'.val - 'a'.val)).toNat
      omega
    · show (c.val + ('A'.val - 'a'.val)).toNat ≤ 122
      omega
  · rfl

theorem isEmptyTrimmed_asciiUpper (s : String) :
    isEmptyTrimmed (asciiUpper s) = isEmptyTrimmed s := by
  unfold isEmptyTrimmed asciiUpper
  rw [String.toList_map, List.all_map]
  exact congrArg s.toList.all (funext isBlank_toUpper)

end Text

/-- The form under which districts are filed is empty for blank outcodes only. -/
theorem normalizeOutcode_eq_empty_iff {raw : String} :
    normalizeOutcode raw = "" ↔ isEmptyTrimmed raw = true := by
  rw [← trim_eq_empty_iff]
  unfold normalizeOutcode asciiUpper
  rw [← String.toList_eq_nil_iff, String.toList_map, List.map_eq_nil_iff, String.toList_eq_nil_iff]

theorem mem_of_cell {columns : List Csv.Column} {values : List (Option String)}
    {name value : String} (h : cell columns values name = some value) : some value ∈ values := by
  obtain ⟨found, hfound, hvalue⟩ := List.mem_map.1 (Csv.mem_of_lookup (Option.join_eq_some_iff.1 h))
  exact hvalue ▸ (List.of_mem_zip hfound).2

theorem District.named_ofValues {values : List (Option String)} {district : District}
    (h : ofValues values = .ok district)
    (htrim : ∀ value, some value ∈ values → trim value = value) : district.Named := by
  unfold ofValues at h
  dsimp only at h
  obtain ⟨_, hfilled, h⟩ := exists_of_bind_eq_ok h
  obtain ⟨location, _, h⟩ := exists_of_bind_eq_ok h
  cases h
  unfold demandFilled at hfilled
  split at hfilled
  · cases hfilled
  · rename_i hne
    show isEmptyTrimmed (asciiUpper (trim _)) = false
    cases hcell : cell districtColumns values "outcode" with
    | none =>
      rw [hcell] at hne
      exact absurd rfl hne
    | some outcode =>
      rw [hcell] at hne
      have htrimmed : trim outcode = outcode := htrim outcode (mem_of_cell hcell)
      show isEmptyTrimmed (asciiUpper (trim outcode)) = false
      rw [isEmptyTrimmed_asciiUpper, htrimmed, Bool.eq_false_iff, Ne, ← trim_eq_empty_iff, htrimmed]
      exact hne

/-- **Every imported district has a name.** -/
theorem readDistricts_named {input : List UInt8} {districts : List District}
    (h : readDistricts input = .ok districts) : ∀ district ∈ districts, district.Named := by
  intro district hdistrict
  obtain ⟨row, values, _, hrow, hselect, hcheck⟩ := exists_of_mem_checkRows h hdistrict
  exact District.named_ofValues hcheck fun value hvalue =>
    Csv.trim_of_mem_rows hrow (Csv.Row.mem_of_select hselect hvalue)

end Bedspace
