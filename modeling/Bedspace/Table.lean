/-!
# Tables: records in the order of their keys

A table holds at most one record for a key and lists its records in ascending order of the key's
text (by code point). The order is part of the type, so every listing is sorted by construction.

* `Table.put` writes a record over the one with its key, or adds it (`find?_put_self`,
  `find?_put_of_ne`, `mem_put`);
* `Table.find?` looks a key up; it finds a record exactly when the record is listed
  (`find?_eq_some_iff`);
* a table of texts is a set of texts (`TextSet`).
-/

namespace Bedspace

/-- Records that are filed under a text. -/
class Keyed (α : Type) where
  key : α → String

export Keyed (key)

/-- Records with pairwise different keys, in ascending order of the keys. -/
structure Table (α : Type) [Keyed α] where
  rows : List α
  ascending : rows.Pairwise (fun a b => key a < key b)

namespace Table

variable {α : Type} [Keyed α]

/-! ## 1. Rows in ascending order -/

/-- Writes `a` into ascending rows: over the row with its key, or before the first greater one. -/
def place (a : α) : List α → List α
  | [] => [a]
  | b :: rows =>
    if key a < key b then a :: b :: rows
    else if key a = key b then a :: rows
    else b :: place a rows

theorem mem_place_imp {a c : α} {rows : List α} (h : c ∈ place a rows) : c = a ∨ c ∈ rows := by
  induction rows with
  | nil => simpa [place] using h
  | cons b rows ih =>
    unfold place at h
    split at h
    · simpa using h
    · split at h
      · rcases List.mem_cons.1 h with h | h
        · exact .inl h
        · exact .inr (List.mem_cons_of_mem _ h)
      · rcases List.mem_cons.1 h with h | h
        · exact .inr (h ▸ List.mem_cons_self)
        · rcases ih h with h | h
          · exact .inl h
          · exact .inr (List.mem_cons_of_mem _ h)

/-- Of two texts that are different, the one that does not come first comes second. -/
theorem lt_of_not_lt_of_ne {s t : String} (h : ¬ s < t) (hne : s ≠ t) : t < s := by
  rcases String.le_total (a := s) (b := t) with hle | hle
  · exact absurd (String.le_antisymm hle (String.not_lt.1 h)) hne
  · exact String.not_le.1 fun hst => hne (String.le_antisymm hst hle)

theorem place_ascending (a : α) {rows : List α} (h : rows.Pairwise (fun a b => key a < key b)) :
    (place a rows).Pairwise (fun a b => key a < key b) := by
  induction rows with
  | nil => simp [place]
  | cons b rows ih =>
    obtain ⟨hb, hrows⟩ := List.pairwise_cons.1 h
    unfold place
    split
    · rename_i hab
      refine List.pairwise_cons.2 ⟨fun c hc => ?_, h⟩
      rcases List.mem_cons.1 hc with rfl | hc
      · exact hab
      · exact String.lt_trans hab (hb c hc)
    · rename_i hnlt
      split
      · rename_i heq
        exact List.pairwise_cons.2 ⟨fun c hc => heq ▸ hb c hc, hrows⟩
      · rename_i hne
        refine List.pairwise_cons.2 ⟨fun c hc => ?_, ih hrows⟩
        rcases mem_place_imp hc with rfl | hc
        · exact lt_of_not_lt_of_ne hnlt hne
        · exact hb c hc

/-! ## 2. Operations -/

/-- The table without records. -/
def empty : Table α := ⟨[], .nil⟩

instance : EmptyCollection (Table α) := ⟨empty⟩

instance : Inhabited (Table α) := ⟨empty⟩

/-- The record filed under a key. -/
def find? (table : Table α) (k : String) : Option α :=
  table.rows.find? fun a => key a = k

/-- Whether a record is filed under a key. -/
def contains (table : Table α) (k : String) : Bool :=
  (table.find? k).isSome

/-- Files a record under its key, in place of the one filed there before. -/
def put (table : Table α) (a : α) : Table α :=
  ⟨place a table.rows, place_ascending a table.ascending⟩

/-- Files records one after the other, so that of two with one key the later one stays. -/
def putAll (table : Table α) (records : List α) : Table α :=
  records.foldl put table

/-- The table that files the records one after the other. -/
def ofList (records : List α) : Table α :=
  putAll empty records

/-! ## 3. What the operations do to the listing -/

@[simp] theorem rows_empty : (∅ : Table α).rows = [] := rfl

@[simp] theorem rows_put (table : Table α) (a : α) : (table.put a).rows = place a table.rows := rfl

@[simp] theorem putAll_nil (table : Table α) : table.putAll [] = table := rfl

@[simp] theorem putAll_cons (table : Table α) (a : α) (records : List α) :
    table.putAll (a :: records) = (table.put a).putAll records := rfl

theorem key_inj_of_mem (table : Table α) {a b : α} (ha : a ∈ table.rows) (hb : b ∈ table.rows)
    (h : key a = key b) : a = b := by
  have key_ne : ∀ rows : List α, rows.Pairwise (fun a b => key a < key b) →
      a ∈ rows → b ∈ rows → a = b := by
    intro rows hrows
    induction rows with
    | nil => intro ha _; cases ha
    | cons c rows ih =>
      obtain ⟨hc, hrows⟩ := List.pairwise_cons.1 hrows
      intro ha hb
      rcases List.mem_cons.1 ha with rfl | ha' <;> rcases List.mem_cons.1 hb with hb | hb'
      · exact hb.symm
      · exact absurd (h ▸ hc b hb') (String.lt_irrefl _)
      · exact absurd (h ▸ hb ▸ hc a ha') (hb ▸ String.lt_irrefl _)
      · exact ih hrows ha' hb'
  exact key_ne table.rows table.ascending ha hb

/-- **A look-up finds a record exactly when the record is listed under that key.** -/
theorem find?_eq_some_iff (table : Table α) {k : String} {a : α} :
    table.find? k = some a ↔ a ∈ table.rows ∧ key a = k := by
  constructor
  · intro h
    exact ⟨List.mem_of_find?_eq_some h, by simpa using List.find?_some h⟩
  · rintro ⟨ha, hk⟩
    cases hf : table.find? k with
    | none =>
      have := List.find?_eq_none.1 hf a ha
      simp [hk] at this
    | some b =>
      have hb : b ∈ table.rows := List.mem_of_find?_eq_some hf
      have hbk : key b = k := by simpa using List.find?_some hf
      exact congrArg some (table.key_inj_of_mem hb ha (hbk.trans hk.symm))

theorem mem_place_self (a : α) (rows : List α) : a ∈ place a rows := by
  induction rows with
  | nil => simp [place]
  | cons b rows ih =>
    unfold place
    split
    · simp
    · split
      · simp
      · exact List.mem_cons_of_mem _ ih

theorem mem_place_of_ne {a c : α} {rows : List α} (hc : c ∈ rows) (hne : key c ≠ key a) :
    c ∈ place a rows := by
  induction rows with
  | nil => cases hc
  | cons b rows ih =>
    unfold place
    split
    · exact List.mem_cons_of_mem _ hc
    · split
      · rename_i heq
        rcases List.mem_cons.1 hc with rfl | hc
        · exact absurd heq.symm hne
        · exact List.mem_cons_of_mem _ hc
      · rcases List.mem_cons.1 hc with rfl | hc
        · exact List.mem_cons_self
        · exact List.mem_cons_of_mem _ (ih hc)

@[simp] theorem find?_put_self (table : Table α) (a : α) : (table.put a).find? (key a) = some a :=
  (find?_eq_some_iff _).2 ⟨mem_place_self a table.rows, rfl⟩

/-- **The listing after a write**: the record, and every other record under another key. -/
theorem mem_put (table : Table α) {a c : α} :
    c ∈ (table.put a).rows ↔ c = a ∨ c ∈ table.rows ∧ key c ≠ key a := by
  constructor
  · intro h
    rcases mem_place_imp h with rfl | hc
    · exact .inl rfl
    · by_cases hk : key c = key a
      · exact .inl ((table.put a).key_inj_of_mem h (mem_place_self a table.rows) hk)
      · exact .inr ⟨hc, hk⟩
  · rintro (rfl | ⟨hc, hne⟩)
    · exact mem_place_self c table.rows
    · exact mem_place_of_ne hc hne

theorem mem_putAll_imp {records : List α} (table : Table α) {c : α}
    (h : c ∈ (table.putAll records).rows) : c ∈ records ∨ c ∈ table.rows := by
  induction records generalizing table with
  | nil => exact .inr h
  | cons a records ih =>
    rcases ih (table.put a) h with hc | hc
    · exact .inl (List.mem_cons_of_mem _ hc)
    · rcases mem_place_imp hc with rfl | hc
      · exact .inl List.mem_cons_self
      · exact .inr hc

/-- **The listing after records with different keys were written**: the records, and every other
    record under a key of none of them. -/
theorem mem_putAll {records : List α} (table : Table α) (hkeys : (records.map key).Nodup) {c : α} :
    c ∈ (table.putAll records).rows ↔
      c ∈ records ∨ c ∈ table.rows ∧ key c ∉ records.map key := by
  induction records generalizing table with
  | nil => simp
  | cons a records ih =>
    obtain ⟨ha, hkeys⟩ := List.nodup_cons.1 hkeys
    rw [putAll_cons, ih (table.put a) hkeys, mem_put, List.mem_cons, List.map_cons, List.mem_cons,
      not_or]
    constructor
    · rintro (hc | ⟨rfl | ⟨hc, hne⟩, hnot⟩)
      · exact .inl (.inr hc)
      · exact .inl (.inl rfl)
      · exact .inr ⟨hc, hne, hnot⟩
    · rintro ((rfl | hc) | ⟨hc, hne, hnot⟩)
      · exact .inr ⟨.inl rfl, ha⟩
      · exact .inl hc
      · exact .inr ⟨.inr ⟨hc, hne⟩, hnot⟩

theorem contains_iff (table : Table α) {k : String} :
    table.contains k = true ↔ ∃ a ∈ table.rows, key a = k := by
  unfold contains
  rw [Option.isSome_iff_exists]
  exact exists_congr fun a => table.find?_eq_some_iff

/-- No key is listed twice. -/
theorem nodup_keys (table : Table α) : (table.rows.map key).Nodup :=
  List.pairwise_map.2 (table.ascending.imp fun h => String.ne_of_lt h)

theorem find?_put_of_ne (table : Table α) {a : α} {k : String} (h : k ≠ key a) :
    (table.put a).find? k = table.find? k := by
  apply Option.ext
  intro c
  simp only [find?_eq_some_iff, mem_put]
  constructor
  · rintro ⟨rfl | ⟨hc, _⟩, hk⟩
    · exact absurd hk.symm h
    · exact ⟨hc, hk⟩
  · rintro ⟨hc, hk⟩
    exact ⟨.inr ⟨hc, fun e => h (hk ▸ e)⟩, hk⟩

end Table

/-! ## 4. Sets of texts -/

instance : Keyed String := ⟨id⟩

/-- A set of texts, listed in ascending order. -/
abbrev TextSet := Table String

namespace TextSet

/-- Whether every text of `small` is a text of `large`. -/
def subset (small large : TextSet) : Bool :=
  small.rows.all fun text => large.contains text

end TextSet

end Bedspace
