import Bedspace.Estate.Import
import Mathlib.Algebra.GroupWithZero.Nat
import Mathlib.Data.List.Induction
import Mathlib.Data.List.Nodup
import Mathlib.Data.List.Perm.Basic

/-!
# Records put together by what they name

The records of an estate file are one for each bed, in any order. What they should come to can be
said of the list of records as a whole, without going through it:

* `firstBy` takes the first record for each key, `familiesBy` makes something of it and of all
  records with its key;
* `Estate.grouped` is the estate that some records should come to;
* `Estate.Groups` says of an estate that it holds the beds of some records, each once, in the places
  and in the order that the records give, and that premises and rooms are as the first record has
  them; **`Estate.groups_grouped`**: the grouped estate is so, if the records are consistent.
-/

namespace Bedspace

/-! ## 1. Families -/

section Families

variable {α β κ : Type} [DecidableEq κ] (key : α → κ)

/-- The first member for each key, in their order. -/
def firstBy : List α → List α
  | [] => []
  | x :: xs => x :: (firstBy xs).filter fun y => key y ≠ key x

/-- The members with a key. -/
def familyOf (xs : List α) (k : κ) : List α := xs.filter fun x => key x = k

/-- What is made of each family: of its first member and all of its members. -/
def familiesBy (make : α → List α → β) (xs : List α) : List β :=
  (firstBy key xs).map fun x => make x (familyOf key xs (key x))

variable {key} {x y : α} {xs : List α}

theorem firstBy_sublist (xs : List α) : (firstBy key xs).Sublist xs := by
  induction xs with
  | nil => exact .slnil
  | cons x xs ih => exact (List.filter_sublist.trans ih).cons_cons x

/-- A member with a new key is the first one with it. -/
theorem firstBy_append_of_new (h : key x ∉ xs.map key) :
    firstBy key (xs ++ [x]) = firstBy key xs ++ [x] := by
  induction xs with
  | nil => rfl
  | cons y xs ih =>
    rw [List.map_cons, List.mem_cons, not_or] at h
    rw [List.cons_append, firstBy, ih h.2, List.filter_append, List.filter_singleton,
      decide_eq_true h.1]
    rfl

theorem firstBy_append_of_mem (h : key x ∈ xs.map key) :
    firstBy key (xs ++ [x]) = firstBy key xs := by
  induction xs with
  | nil => cases h
  | cons y xs ih =>
    rw [List.cons_append, firstBy, firstBy]
    by_cases hmem : key x ∈ xs.map key
    · rw [ih hmem]
    · have hkey : key x = key y := (List.mem_cons.1 h).resolve_right hmem
      rw [firstBy_append_of_new hmem, List.filter_append, List.filter_singleton,
        decide_eq_false (not_not_intro hkey)]
      exact congrArg _ (List.append_nil _)

/-- **The keys of the first members** are the keys in the order of their first occurrence. -/
theorem map_firstBy (xs : List α) : (firstBy key xs).map key = (xs.map key).eraseDups := by
  induction xs using List.reverseRec with
  | nil => rfl
  | append_singleton xs x ih =>
    rw [List.map_append, List.eraseDups_append, ← ih, List.map_singleton, List.removeAll]
    by_cases hmem : key x ∈ xs.map key
    · rw [firstBy_append_of_mem hmem, List.filter_cons_of_neg (by simpa using hmem)]
      exact (List.append_nil _).symm
    · rw [firstBy_append_of_new hmem, List.map_append,
        List.filter_cons_of_pos (by simpa using hmem)]
      rfl

theorem nodup_map_firstBy (xs : List α) : ((firstBy key xs).map key).Nodup := by
  induction xs with
  | nil => exact .nil
  | cons x xs ih =>
    refine List.nodup_cons.2 ⟨fun hmem => ?_, ih.sublist (List.filter_sublist.map key)⟩
    obtain ⟨y, hy, hkey⟩ := List.mem_map.1 hmem
    exact of_decide_eq_true (List.mem_filter.1 hy).2 hkey

theorem mem_map_firstBy {k : κ} : k ∈ (firstBy key xs).map key ↔ k ∈ xs.map key := by
  rw [map_firstBy, List.mem_eraseDups]

/-- A first member is the first one with its key. -/
theorem find?_of_mem_firstBy (h : x ∈ firstBy key xs) :
    (xs.find? fun y => key y = key x) = some x := by
  induction xs with
  | nil => cases h
  | cons y xs ih =>
    rcases List.mem_cons.1 h with rfl | h
    · exact List.find?_cons_of_pos (decide_eq_true rfl)
    · obtain ⟨hx, hne⟩ := List.mem_filter.1 h
      have hne : key x ≠ key y := of_decide_eq_true hne
      rw [List.find?_cons_of_neg (by simpa using Ne.symm hne), ih hx]

theorem firstBy_ne_nil (h : x ∈ xs) : firstBy key xs ≠ [] := by
  intro hnil
  have hkey : key x ∈ (firstBy key xs).map key := mem_map_firstBy.2 (List.mem_map_of_mem h)
  rw [hnil] at hkey
  cases hkey

theorem head?_familyOf (k : κ) : (familyOf key xs k).head? = xs.find? fun x => key x = k :=
  List.head?_filter

theorem mem_familyOf {k : κ} : x ∈ familyOf key xs k ↔ x ∈ xs ∧ key x = k := by
  unfold familyOf
  rw [List.mem_filter, decide_eq_true_eq]

theorem familyOf_append (xs : List α) (x : α) (k : κ) :
    familyOf key (xs ++ [x]) k =
      if key x = k then familyOf key xs k ++ [x] else familyOf key xs k := by
  unfold familyOf
  rw [List.filter_append, List.filter_singleton]
  by_cases hkey : key x = k
  · rw [if_pos hkey, decide_eq_true hkey]
    rfl
  · rw [if_neg hkey, decide_eq_false hkey]
    exact List.append_nil _

/-- **Families hold every member once**: the ones for some different keys, if these are all. -/
theorem flatMap_familyOf_perm {ks : List κ} (hks : ks.Nodup) (hall : ∀ x ∈ xs, key x ∈ ks) :
    (ks.flatMap (familyOf key xs)).Perm xs := by
  induction ks generalizing xs with
  | nil =>
    have hnone : xs = [] :=
      List.eq_nil_iff_forall_not_mem.2 fun x hx => List.not_mem_nil (hall x hx)
    rw [hnone]
    exact .nil
  | cons k ks ih =>
    obtain ⟨hk, hks⟩ := List.nodup_cons.1 hks
    have hothers : ks.flatMap (familyOf key xs) =
        ks.flatMap (familyOf key (xs.filter fun x => !decide (key x = k))) := by
      refine List.flatMap_congr fun k' hk' => ?_
      unfold familyOf
      rw [List.filter_filter]
      refine List.filter_congr fun x _ => ?_
      by_cases hkey : key x = k'
      · have hne : key x ≠ k := fun e => hk (e ▸ hkey ▸ hk')
        simp [hkey, hkey ▸ hne]
      · simp [hkey]
    rw [List.flatMap_cons, hothers]
    refine ((ih hks fun x hx => ?_).append_left _).trans (List.filter_append_perm _ xs)
    obtain ⟨hx, hne⟩ := List.mem_filter.1 hx
    exact (List.mem_cons.1 (hall x hx)).resolve_left (by simpa using hne)

theorem flatMap_firstBy_perm (xs : List α) :
    ((firstBy key xs).flatMap fun x => familyOf key xs (key x)).Perm xs := by
  rw [← List.flatMap_map key (familyOf key xs)]
  exact flatMap_familyOf_perm (nodup_map_firstBy xs) fun x hx =>
    mem_map_firstBy.2 (List.mem_map_of_mem hx)

/-- A member with a new key makes a family of its own. -/
theorem familiesBy_append_of_new {make : α → List α → β} (h : key x ∉ xs.map key) :
    familiesBy key make (xs ++ [x]) = familiesBy key make xs ++ [make x [x]] := by
  have hnone : familyOf key xs (key x) = [] :=
    List.filter_eq_nil_iff.2 fun y hy hkey =>
      h (List.mem_map.2 ⟨y, hy, of_decide_eq_true hkey⟩)
  unfold familiesBy
  rw [firstBy_append_of_new h, List.map_append, List.map_singleton, familyOf_append, if_pos rfl,
    hnone]
  refine congrArg (· ++ _) (List.map_congr_left fun y hy => ?_)
  have hne : key x ≠ key y := fun e =>
    h (List.mem_map.2 ⟨y, (firstBy_sublist xs).subset hy, e.symm⟩)
  rw [familyOf_append, if_neg hne]

/-- **A member with a key that is there** comes last in its family. -/
theorem familiesBy_append_of_mem (h : key x ∈ xs.map key) {make : α → List α → β} (name : β → κ)
    {extend : β → β} (hname : ∀ y ys, name (make y ys) = key y)
    (hextend : ∀ y ys, extend (make y ys) = make y (ys ++ [x])) :
    familiesBy key make (xs ++ [x]) =
      (familiesBy key make xs).map fun b => if name b = key x then extend b else b := by
  unfold familiesBy
  rw [firstBy_append_of_mem h, List.map_map]
  refine List.map_congr_left fun y _ => ?_
  show _ = if name (make y _) = key x then extend (make y _) else make y _
  rw [hname, familyOf_append]
  by_cases hkey : key y = key x
  · rw [if_pos hkey, if_pos hkey.symm, hextend]
  · rw [if_neg hkey, if_neg (Ne.symm hkey)]

end Families

/-! ## 2. The estate of some records -/

namespace BedRecord

/-- The premises that a record names. -/
def premisesId (record : BedRecord) : PremisesId := record.premises.id

/-- The room that a record names. -/
def roomId (record : BedRecord) : RoomId := record.room.id

/-- The bed that a record names. -/
def bedId (record : BedRecord) : BedId := record.bed.id

/-- The bed of a record, in its room and premises. -/
def bedPlace (record : BedRecord) : PremisesId × RoomId × Bed :=
  (record.premisesId, record.roomId, record.bed)

end BedRecord

namespace Estate

/-- A room with the beds of some records, as the first of them has it. -/
def roomOf (first : BedRecord) (records : List BedRecord) : RoomInventory :=
  ⟨first.room, records.map BedRecord.bed⟩

/-- The rooms of some records. -/
def groupedRooms (records : List BedRecord) : List RoomInventory :=
  familiesBy BedRecord.roomId roomOf records

/-- Premises with the rooms of some records, as the first of them has the premises. -/
def premisesOf (first : BedRecord) (records : List BedRecord) : Inventory :=
  ⟨first.premises, groupedRooms records⟩

/-- The estate of some records. -/
def grouped (records : List BedRecord) : Estate :=
  familiesBy BedRecord.premisesId premisesOf records

/-- **Records fit together** if no bed comes twice and no room is in two premises. -/
structure Consistent (records : List BedRecord) : Prop where
  beds : (records.map BedRecord.bedId).Nodup
  rooms : ∀ x ∈ records, ∀ y ∈ records, x.roomId = y.roomId → x.premisesId = y.premisesId

/-- Every bed of an estate, in its room and premises. -/
def bedPlaces (estate : Estate) : List (PremisesId × RoomId × Bed) :=
  estate.flatMap fun inventory => inventory.rooms.flatMap fun r =>
    r.beds.map fun bed => (inventory.premises.id, r.room.id, bed)

/-- **An estate is what some records come to.** -/
structure Groups (records : List BedRecord) (estate : Estate) : Prop where
  -- premises, rooms and beds come in the order of the records that name them first
  premisesOrder : estate.map (fun inventory => inventory.premises.id) =
    (records.map BedRecord.premisesId).eraseDups
  roomsOrder : ∀ inventory ∈ estate, inventory.rooms.map (fun r => r.room.id) =
    ((records.filter fun x => x.premisesId = inventory.premises.id).map
      BedRecord.roomId).eraseDups
  bedsOrder : ∀ inventory ∈ estate, ∀ r ∈ inventory.rooms,
    r.beds = (records.filter fun x => x.roomId = r.room.id).map BedRecord.bed
  -- premises and rooms are as these records have them
  premisesFirst : ∀ inventory ∈ estate,
    (records.find? fun x => x.premisesId = inventory.premises.id).map BedRecord.premises =
      some inventory.premises
  roomsFirst : ∀ inventory ∈ estate, ∀ r ∈ inventory.rooms,
    (records.find? fun x => x.roomId = r.room.id).map BedRecord.room = some r.room
  -- the bed of each record is there, in its place, and none but these
  bedsOnce : (bedPlaces estate).Perm (records.map BedRecord.bedPlace)
  bedsDistinct : ((bedPlaces estate).map fun place => place.2.2.id).Nodup
  roomsDistinct : (estate.flatMap fun inventory => inventory.rooms.map fun r => r.room.id).Nodup
  premisesFilled : ∀ inventory ∈ estate, inventory.rooms ≠ []
  roomsFilled : ∀ inventory ∈ estate, ∀ r ∈ inventory.rooms, r.beds ≠ []
  bedCount : (estate.map Inventory.bedCount).sum = records.length

variable {records members : List BedRecord} {inventory : Inventory} {r : RoomInventory}

theorem exists_of_mem_grouped (h : inventory ∈ grouped records) :
    ∃ first ∈ firstBy BedRecord.premisesId records,
      inventory =
        premisesOf first (familyOf BedRecord.premisesId records first.premisesId) := by
  obtain ⟨first, hfirst, hmade⟩ := List.mem_map.1 h
  exact ⟨first, hfirst, hmade.symm⟩

theorem exists_of_mem_groupedRooms (h : r ∈ groupedRooms members) :
    ∃ first ∈ firstBy BedRecord.roomId members,
      r = roomOf first (familyOf BedRecord.roomId members first.roomId) := by
  obtain ⟨first, hfirst, hmade⟩ := List.mem_map.1 h
  exact ⟨first, hfirst, hmade.symm⟩

theorem map_id_groupedRooms (members : List BedRecord) :
    (groupedRooms members).map (fun r => r.room.id) = (members.map BedRecord.roomId).eraseDups := by
  unfold groupedRooms familiesBy
  rw [List.map_map, ← map_firstBy]
  rfl

/-- **A room has all its beds in one premises**, if records fit together. -/
theorem familyOf_roomId (h : Consistent records) {id : PremisesId} {x : BedRecord}
    (hx : x ∈ familyOf BedRecord.premisesId records id) :
    familyOf BedRecord.roomId (familyOf BedRecord.premisesId records id) x.roomId =
      familyOf BedRecord.roomId records x.roomId := by
  obtain ⟨hmem, hid⟩ := mem_familyOf.1 hx
  unfold familyOf
  rw [List.filter_filter]
  refine List.filter_congr fun y hy => ?_
  by_cases hroom : y.roomId = x.roomId
  · have hpremises : y.premisesId = id := (h.rooms y hy x hmem hroom).trans hid
    rw [decide_eq_true hroom, decide_eq_true hpremises, Bool.true_and]
  · rw [decide_eq_false hroom, Bool.false_and]

/-- The beds of some premises are those of its records. -/
theorem bedPlaces_premisesOf (first : BedRecord) :
    ((premisesOf first (familyOf BedRecord.premisesId records first.premisesId)).rooms.flatMap
      fun r => r.beds.map fun bed => (first.premisesId, r.room.id, bed)).Perm
    ((familyOf BedRecord.premisesId records first.premisesId).map BedRecord.bedPlace) := by
  have hrooms : ((premisesOf first
        (familyOf BedRecord.premisesId records first.premisesId)).rooms.flatMap
          fun r => r.beds.map fun bed => (first.premisesId, r.room.id, bed)) =
      ((firstBy BedRecord.roomId
        (familyOf BedRecord.premisesId records first.premisesId)).flatMap fun x =>
          familyOf BedRecord.roomId (familyOf BedRecord.premisesId records first.premisesId)
            x.roomId).map BedRecord.bedPlace := by
    show ((firstBy _ _).map _).flatMap _ = _
    rw [List.flatMap_map, List.map_flatMap]
    refine List.flatMap_congr fun x _ => ?_
    show ((familyOf _ _ _).map _).map _ = _
    rw [List.map_map]
    refine List.map_congr_left fun y hy => ?_
    obtain ⟨hy, hroom⟩ := mem_familyOf.1 hy
    exact Prod.ext (mem_familyOf.1 hy).2.symm (Prod.ext hroom.symm rfl)
  rw [hrooms]
  exact (flatMap_firstBy_perm _).map _

/-- **The bed of every record is there once, in its place.** -/
theorem bedPlaces_grouped (records : List BedRecord) :
    (bedPlaces (grouped records)).Perm (records.map BedRecord.bedPlace) := by
  have hpremises : (bedPlaces (grouped records)).Perm
      ((firstBy BedRecord.premisesId records).flatMap fun x =>
        (familyOf BedRecord.premisesId records x.premisesId).map BedRecord.bedPlace) := by
    unfold bedPlaces grouped familiesBy
    rw [List.flatMap_map]
    exact List.Perm.flatMap_left _ fun x _ => bedPlaces_premisesOf x
  refine hpremises.trans ?_
  rw [← List.map_flatMap]
  exact (flatMap_firstBy_perm records).map _

/-- No room comes twice, if records fit together. -/
theorem nodup_rooms_grouped (h : Consistent records) :
    ((grouped records).flatMap fun inventory =>
      inventory.rooms.map fun r => r.room.id).Nodup := by
  have hids (x : BedRecord) :
      ((premisesOf x (familyOf BedRecord.premisesId records x.premisesId)).rooms.map
        fun r => r.room.id) =
      (firstBy BedRecord.roomId (familyOf BedRecord.premisesId records x.premisesId)).map
        BedRecord.roomId := (map_id_groupedRooms _).trans (map_firstBy _).symm
  have hdistinct : ((firstBy BedRecord.premisesId records).map BedRecord.premisesId).Nodup :=
    nodup_map_firstBy records
  unfold grouped familiesBy
  rw [List.flatMap_map, List.flatMap_congr fun x _ => hids x]
  refine List.nodup_flatMap.2 ⟨fun x _ => nodup_map_firstBy _, ?_⟩
  · refine (List.pairwise_map.1 hdistinct).imp fun {x y} hne id hx hy => hne ?_
    obtain ⟨x', hx', hid⟩ := List.mem_map.1 (mem_map_firstBy.1 hx)
    obtain ⟨y', hy', hid'⟩ := List.mem_map.1 (mem_map_firstBy.1 hy)
    obtain ⟨hx', hpremises⟩ := mem_familyOf.1 hx'
    obtain ⟨hy', hpremises'⟩ := mem_familyOf.1 hy'
    rw [← hpremises, ← hpremises']
    exact h.rooms x' hx' y' hy' (hid.trans hid'.symm)

/-- The beds of an estate are counted premises by premises. -/
theorem length_bedPlaces (estate : Estate) :
    (bedPlaces estate).length = (estate.map Inventory.bedCount).sum := by
  unfold bedPlaces
  rw [List.length_flatMap]
  refine congrArg List.sum (List.map_congr_left fun inventory _ => ?_)
  unfold Inventory.bedCount Inventory.beds
  rw [List.length_flatMap, List.length_flatMap]
  simp only [List.length_map]

/-- **What consistent records come to.** -/
theorem groups_grouped (h : Consistent records) : Groups records (grouped records) where
  premisesOrder := by
    unfold grouped familiesBy
    rw [List.map_map, ← map_firstBy]
    rfl
  roomsOrder inventory hinventory := by
    obtain ⟨x, _, rfl⟩ := exists_of_mem_grouped hinventory
    exact map_id_groupedRooms _
  bedsOrder inventory hinventory r hr := by
    obtain ⟨x, _, rfl⟩ := exists_of_mem_grouped hinventory
    obtain ⟨y, hy, rfl⟩ := exists_of_mem_groupedRooms hr
    exact congrArg _ (familyOf_roomId h ((firstBy_sublist _).subset hy))
  premisesFirst inventory hinventory := by
    obtain ⟨x, hx, rfl⟩ := exists_of_mem_grouped hinventory
    exact congrArg _ (find?_of_mem_firstBy hx)
  roomsFirst inventory hinventory r hr := by
    obtain ⟨x, _, rfl⟩ := exists_of_mem_grouped hinventory
    obtain ⟨y, hy, rfl⟩ := exists_of_mem_groupedRooms hr
    show (records.find? fun z => z.roomId = y.roomId).map BedRecord.room = some y.room
    rw [← head?_familyOf, ← familyOf_roomId h ((firstBy_sublist _).subset hy), head?_familyOf,
      find?_of_mem_firstBy hy]
    rfl
  bedsOnce := bedPlaces_grouped records
  bedsDistinct := by
    have hids := (bedPlaces_grouped records).map fun place => place.2.2.id
    rw [List.map_map] at hids
    exact hids.nodup_iff.2 h.beds
  roomsDistinct := nodup_rooms_grouped h
  premisesFilled inventory hinventory := by
    obtain ⟨x, hx, rfl⟩ := exists_of_mem_grouped hinventory
    have hmem : x ∈ familyOf BedRecord.premisesId records x.premisesId :=
      mem_familyOf.2 ⟨(firstBy_sublist records).subset hx, rfl⟩
    exact mt List.map_eq_nil_iff.1 (firstBy_ne_nil hmem)
  roomsFilled inventory hinventory r hr := by
    obtain ⟨x, _, rfl⟩ := exists_of_mem_grouped hinventory
    obtain ⟨y, hy, rfl⟩ := exists_of_mem_groupedRooms hr
    have hmem : y ∈ familyOf BedRecord.roomId
        (familyOf BedRecord.premisesId records x.premisesId) y.roomId :=
      mem_familyOf.2 ⟨(firstBy_sublist _).subset hy, rfl⟩
    exact mt List.map_eq_nil_iff.1 (List.ne_nil_of_mem hmem)
  bedCount := by
    rw [← length_bedPlaces, (bedPlaces_grouped records).length_eq, List.length_map]

end Estate

end Bedspace
