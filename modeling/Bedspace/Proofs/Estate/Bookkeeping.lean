import Bedspace.Proofs.Estate.Grouping
import Bedspace.Proofs.Runs

/-!
# An estate is put together in one pass

The import takes the records one after the other, and looks each of them up: in the places of the
premises, the owners of the rooms and the beds so far. These have to stay in step with the estate.

* `Estate.Draft.Tracks` says that they are, after some records; `Estate.Draft.add_of_consistent` is
  one record more, `Estate.Draft.addAll_cases` a whole list of them;
* `Estate.Offends` is what is wrong with a record after others;
* **`readEstate_groups`**: a file of valid rows gives an estate exactly if its records fit together,
  and then the one that groups them; otherwise the first record that does not fit is named.
-/

namespace Bedspace

namespace Estate

variable {draft : Draft} {done records : List BedRecord} {record : BedRecord} {fault : RowFault}

/-! ## 1. Putting a bed into its place -/

theorem addToRooms_of_new {rooms : List RoomInventory}
    (h : record.roomId ∉ rooms.map fun r => r.room.id) :
    addToRooms record rooms = rooms ++ [⟨record.room, [record.bed]⟩] := by
  induction rooms with
  | nil => rfl
  | cons r rooms ih =>
    rw [List.map_cons, List.mem_cons, not_or] at h
    have hother : ¬ r.room.id = record.room.id := Ne.symm h.1
    unfold addToRooms
    rw [if_neg hother, ih h.2]
    rfl

/-- Changing what has one of some distinct names leaves the rest, which has others. -/
theorem map_ite_of_not_mem {α κ : Type} [DecidableEq κ] {name : α → κ} {f : α → α} {xs : List α}
    {k : κ} (h : k ∉ xs.map name) : (xs.map fun x => if name x = k then f x else x) = xs := by
  refine (List.map_congr_left fun x hx => if_neg fun e => h ?_).trans (List.map_id _)
  exact List.mem_map.2 ⟨x, hx, e⟩

theorem addToRooms_of_mem {rooms : List RoomInventory}
    (hdistinct : (rooms.map fun r => r.room.id).Nodup)
    (h : record.roomId ∈ rooms.map fun r => r.room.id) :
    addToRooms record rooms = rooms.map fun r =>
      if r.room.id = record.room.id then { r with beds := r.beds ++ [record.bed] } else r := by
  induction rooms with
  | nil => cases h
  | cons r rooms ih =>
    obtain ⟨hr, hdistinct⟩ := List.nodup_cons.1 hdistinct
    unfold addToRooms
    rw [List.map_cons]
    by_cases hid : r.room.id = record.room.id
    · rw [if_pos hid, if_pos hid]
      exact congrArg _ (map_ite_of_not_mem (hid ▸ hr)).symm
    · rw [if_neg hid, if_neg hid, ih hdistinct ((List.mem_cons.1 h).resolve_left (Ne.symm hid))]

/-- **A bed put into grouped rooms** is where grouping its record with the others puts it. -/
theorem addToRooms_groupedRooms (record : BedRecord) (members : List BedRecord) :
    addToRooms record (groupedRooms members) = groupedRooms (members ++ [record]) := by
  have hids := map_id_groupedRooms members
  by_cases h : record.roomId ∈ members.map BedRecord.roomId
  · have hdistinct : ((groupedRooms members).map fun r => r.room.id).Nodup := by
      rw [hids, ← map_firstBy]
      exact nodup_map_firstBy members
    rw [addToRooms_of_mem hdistinct (by rwa [hids, List.mem_eraseDups])]
    refine (familiesBy_append_of_mem h (fun r : RoomInventory => r.room.id) (fun _ _ => rfl)
      fun first members => ?_).symm
    unfold roomOf
    rw [List.map_append]
    rfl
  · rw [addToRooms_of_new (by rwa [hids, List.mem_eraseDups])]
    exact (familiesBy_append_of_new h).symm

theorem addBed_premisesOf (record first : BedRecord) (members : List BedRecord) :
    addBed record (premisesOf first members) = premisesOf first (members ++ [record]) :=
  congrArg (Inventory.mk first.premises) (addToRooms_groupedRooms record members)

/-- Changing what stands at a position changes what has its name. -/
theorem modify_of_nodup {α κ : Type} [DecidableEq κ] {name : α → κ} {f : α → α} {xs : List α}
    {k : κ} {position : Nat} (hdistinct : (xs.map name).Nodup)
    (h : (xs.map name)[position]? = some k) :
    xs.modify position f = xs.map fun x => if name x = k then f x else x := by
  induction xs generalizing position with
  | nil => cases h
  | cons x xs ih =>
    obtain ⟨hx, hdistinct⟩ := List.nodup_cons.1 hdistinct
    rw [List.map_cons]
    cases position with
    | zero =>
      obtain rfl : name x = k := Option.some.inj h
      rw [List.modify_zero_cons, if_pos rfl, map_ite_of_not_mem hx]
    | succ position =>
      have hne : name x ≠ k := fun e => hx (e ▸ List.mem_of_getElem? h)
      rw [List.modify_succ_cons, ih hdistinct h, if_neg hne]

/-! ## 2. What is looked up -/

/-- The premises of an estate in their order. -/
def premisesIds (estate : Estate) : List PremisesId :=
  estate.map fun inventory => inventory.premises.id

theorem premisesIds_grouped (records : List BedRecord) :
    premisesIds (grouped records) = (firstBy BedRecord.premisesId records).map
      BedRecord.premisesId :=
  List.map_map

theorem premisesIds_modify (estate : Estate) (position : Nat) :
    premisesIds (estate.modify position (addBed record)) = premisesIds estate := by
  induction estate generalizing position with
  | nil => rw [List.modify_nil]
  | cons inventory estate ih =>
    cases position with
    | zero => rfl
    | succ position => exact congrArg (inventory.premises.id :: ·) (ih position)

theorem lookup_cons_of_ne {κ β : Type} [DecidableEq κ] {k k' : κ} {b : β} {xs : List (κ × β)}
    (h : k' ≠ k) : ((k, b) :: xs).lookup k' = xs.lookup k' := by
  rw [List.lookup_cons, beq_false_of_ne h]

/-- The premises that a room belongs to after some records, if it has come. -/
def ownerIn (done : List BedRecord) (id : RoomId) : Option PremisesId :=
  (done.find? fun x => x.roomId = id).map BedRecord.premisesId

theorem exists_of_ownerIn {id : RoomId} {owner : PremisesId} (h : ownerIn done id = some owner) :
    ∃ x ∈ done, x.roomId = id ∧ x.premisesId = owner := by
  obtain ⟨x, hfind, howner⟩ := Option.map_eq_some_iff.1 h
  exact ⟨x, List.mem_of_find?_eq_some hfind, by simpa using List.find?_some hfind, howner⟩

theorem ownerIn_of_mem (h : Consistent done) (hmem : record ∈ done) :
    ownerIn done record.roomId = some record.premisesId := by
  cases howner : ownerIn done record.roomId with
  | none =>
    have hnone := List.find?_eq_none.1 (Option.map_eq_none_iff.1 howner) record hmem
    exact absurd (decide_eq_true rfl) hnone
  | some owner =>
    obtain ⟨x, hx, hroom, hpremises⟩ := exists_of_ownerIn howner
    rw [← hpremises, h.rooms x hx record hmem hroom]

theorem ownerIn_append_of_ne {id : RoomId} (h : id ≠ record.roomId) :
    ownerIn (done ++ [record]) id = ownerIn done id := by
  unfold ownerIn
  rw [List.find?_append, List.find?_cons_of_neg (by simpa using Ne.symm h), List.find?_nil,
    Option.or_none]

namespace Draft

/-- **A draft holds the estate of some records, and knows where its premises are.** -/
structure Placed (draft : Draft) (done : List BedRecord) : Prop where
  estate : draft.estate = grouped done
  placed : ∀ id position, draft.places.lookup id = some position →
    (premisesIds draft.estate)[position]? = some id
  unplaced : ∀ id, draft.places.lookup id = none → id ∉ done.map BedRecord.premisesId

/-- **A draft is in step with the records that it has taken.** -/
structure Tracks (draft : Draft) (done : List BedRecord) : Prop extends draft.Placed done where
  owners : ∀ id, draft.owners.lookup id = ownerIn done id
  beds : ∀ id, id ∈ draft.beds ↔ id ∈ done.map BedRecord.bedId

theorem tracks_empty : empty.Tracks [] where
  estate := rfl
  placed _ _ h := nomatch h
  unplaced _ _ := List.not_mem_nil
  owners _ := rfl
  beds _ := Iff.rfl

/-- A bed for premises that are there is put into these. -/
theorem Placed.place_there (h : draft.Placed done) {position : Nat}
    (hplace : draft.places.lookup record.premisesId = some position) :
    Placed { draft with estate := draft.estate.modify position (addBed record) }
      (done ++ [record]) := by
  have hposition := h.placed _ _ hplace
  have hmem : record.premisesId ∈ done.map BedRecord.premisesId := by
    have hthere := List.mem_of_getElem? hposition
    rwa [h.estate, premisesIds_grouped, mem_map_firstBy] at hthere
  refine ⟨?_, fun id position hid => ?_, fun id hid => ?_⟩
  · have hdistinct : (premisesIds draft.estate).Nodup := by
      rw [h.estate, premisesIds_grouped]
      exact nodup_map_firstBy done
    refine (modify_of_nodup hdistinct hposition).trans ?_
    rw [h.estate]
    exact (familiesBy_append_of_mem hmem (fun inventory : Inventory => inventory.premises.id)
      (fun _ _ => rfl) (addBed_premisesOf record)).symm
  · show (premisesIds (draft.estate.modify _ _))[position]? = some id
    rw [premisesIds_modify]
    exact h.placed id position hid
  · rw [List.map_append, List.mem_append, not_or]
    refine ⟨h.unplaced id hid, fun hlast => ?_⟩
    rw [List.mem_singleton.1 hlast] at hid
    cases hplace.symm.trans hid

/-- New premises come last. -/
theorem Placed.place_new (h : draft.Placed done)
    (hplace : draft.places.lookup record.premisesId = none) :
    Placed { draft with
        estate := draft.estate ++ [addBed record ⟨record.premises, []⟩]
        places := (record.premises.id, draft.estate.length) :: draft.places }
      (done ++ [record]) := by
  have hids : premisesIds (draft.estate ++ [addBed record ⟨record.premises, []⟩]) =
      premisesIds draft.estate ++ [record.premisesId] := List.map_append
  refine ⟨?_, fun id position hid => ?_, fun id hid => ?_⟩
  · have hone : addBed record ⟨record.premises, []⟩ = premisesOf record [record] :=
      addBed_premisesOf record record []
    show draft.estate ++ _ = _
    rw [h.estate, hone]
    exact (familiesBy_append_of_new (h.unplaced _ hplace)).symm
  · show (premisesIds (draft.estate ++ _))[position]? = some id
    rw [hids]
    by_cases hnew : id = record.premises.id
    · subst hnew
      obtain rfl : draft.estate.length = position :=
        Option.some.inj (List.lookup_cons_self.symm.trans hid)
      have hlength : (premisesIds draft.estate).length = draft.estate.length := List.length_map _
      rw [← hlength]
      exact List.getElem?_concat_length
    · have hold := h.placed id position ((lookup_cons_of_ne hnew).symm.trans hid)
      rw [List.getElem?_append_left (List.getElem?_eq_some_iff.1 hold).1]
      exact hold
  · rw [List.map_append, List.mem_append, not_or]
    by_cases hnew : id = record.premises.id
    · subst hnew
      cases List.lookup_cons_self.symm.trans hid
    · exact ⟨h.unplaced id ((lookup_cons_of_ne hnew).symm.trans hid),
        fun hlast => hnew (List.mem_singleton.1 hlast)⟩

/-- **A bed is put where its record says**, and premises are found where they stand. -/
theorem Placed.place (h : draft.Placed done) (record : BedRecord) :
    (draft.place record).Placed (done ++ [record]) := by
  unfold Draft.place
  split
  · rename_i position hplace
    exact h.place_there hplace
  · rename_i hplace
    exact h.place_new hplace

theorem owners_place (draft : Draft) (record : BedRecord) :
    (draft.place record).owners = draft.owners := by
  unfold place
  split
  · rfl
  · rfl

theorem beds_place (draft : Draft) (record : BedRecord) :
    (draft.place record).beds = draft.beds := by
  unfold place
  split
  · rfl
  · rfl

end Draft

/-! ## 3. What does not fit -/

/-- **What is wrong with a record after others.** A bed that comes again is noted first. -/
inductive Offends (done : List BedRecord) (record : BedRecord) : RowFault → Prop
  | repeatedBed (hbed : record.bedId ∈ done.map BedRecord.bedId) :
    Offends done record (.repeatedBed record.bedId.text)
  | roomTaken (x : BedRecord) (hbed : record.bedId ∉ done.map BedRecord.bedId) (hx : x ∈ done)
    (hroom : x.roomId = record.roomId) (hpremises : x.premisesId ≠ record.premisesId) :
    Offends done record (.roomTaken record.roomId.text x.premisesId.text)

theorem not_consistent_of_offends {rest : List BedRecord} (h : Offends done record fault) :
    ¬ Consistent (done ++ record :: rest) := by
  intro hfit
  cases h with
  | repeatedBed hbed =>
    have hdistinct := hfit.beds
    rw [List.map_append] at hdistinct
    exact List.disjoint_of_nodup_append hdistinct hbed List.mem_cons_self
  | roomTaken x _ hx hroom hpremises =>
    exact hpremises (hfit.rooms x (List.mem_append_left _ hx) record
      (List.mem_append_right _ List.mem_cons_self) hroom)

/-- **A record after records that fit together** fits them too, or something is wrong with it. -/
theorem consistent_or_offends (h : Consistent done) (record : BedRecord) :
    Consistent (done ++ [record]) ∨ ∃ fault, Offends done record fault := by
  by_cases hbed : record.bedId ∈ done.map BedRecord.bedId
  · exact .inr ⟨_, .repeatedBed hbed⟩
  · by_cases hrooms : ∀ x ∈ done, x.roomId = record.roomId → x.premisesId = record.premisesId
    · refine .inl ⟨?_, fun x hx y hy hroom => ?_⟩
      · rw [List.map_append, List.map_singleton, ← List.concat_eq_append]
        exact h.beds.concat hbed
      · rcases List.mem_append.1 hx with hx' | hx' <;> rcases List.mem_append.1 hy with hy' | hy'
        · exact h.rooms x hx' y hy' hroom
        · obtain rfl := List.mem_singleton.1 hy'
          exact hrooms x hx' hroom
        · obtain rfl := List.mem_singleton.1 hx'
          exact (hrooms y hy' hroom.symm).symm
        · rw [List.mem_singleton.1 hx', List.mem_singleton.1 hy']
    · push Not at hrooms
      obtain ⟨x, hx, hroom, hpremises⟩ := hrooms
      exact .inr ⟨_, .roomTaken x hbed hx hroom hpremises⟩

/-! ## 4. One record, and all of them -/

namespace Draft

theorem noteBed_of_mem (h : record.bedId ∈ draft.beds) :
    draft.noteBed record = .error (.repeatedBed record.bedId.text) :=
  if_pos (List.contains_iff_mem.2 h)

theorem noteBed_of_not_mem (h : record.bedId ∉ draft.beds) :
    draft.noteBed record = .ok { draft with beds := record.bed.id :: draft.beds } :=
  if_neg (mt List.contains_iff_mem.1 h)

/-- A room that belongs to the premises of a record, or to none, is noted as theirs. -/
theorem noteRoom_of_consistent (h : ∀ id, draft.owners.lookup id = ownerIn done id)
    (hfit : Consistent (done ++ [record])) :
    ∃ owners, draft.noteRoom record = .ok { draft with owners } ∧
      ∀ id, owners.lookup id = ownerIn (done ++ [record]) id := by
  have hlast : ownerIn (done ++ [record]) record.roomId = some record.premisesId :=
    ownerIn_of_mem hfit (List.mem_append_right _ List.mem_cons_self)
  unfold noteRoom
  cases hlookup : draft.owners.lookup record.room.id with
  | some owner =>
    obtain ⟨x, hx, hroom, howner⟩ := exists_of_ownerIn ((h _).symm.trans hlookup)
    have hsame : x.premisesId = record.premisesId :=
      hfit.rooms x (List.mem_append_left _ hx) record (List.mem_append_right _ List.mem_cons_self)
        hroom
    obtain rfl : owner = record.premises.id := howner.symm.trans hsame
    refine ⟨draft.owners, if_pos rfl, fun id => ?_⟩
    by_cases hid : id = record.roomId
    · rw [hid, hlast]
      exact hlookup
    · rw [ownerIn_append_of_ne hid, h]
  | none =>
    refine ⟨(record.room.id, record.premises.id) :: draft.owners, rfl, fun id => ?_⟩
    by_cases hid : id = record.roomId
    · rw [hid, hlast]
      exact List.lookup_cons_self
    · rw [ownerIn_append_of_ne hid, ← h]
      exact lookup_cons_of_ne hid

/-- **A record that fits is taken.** -/
theorem add_of_consistent (h : draft.Tracks done) (hfit : Consistent (done ++ [record])) :
    ∃ draft', draft.add record = .ok draft' ∧ draft'.Tracks (done ++ [record]) := by
  have hnew : record.bedId ∉ draft.beds := fun hbed =>
    not_consistent_of_offends (.repeatedBed ((h.beds _).1 hbed)) hfit
  let noted : Draft := { draft with beds := record.bed.id :: draft.beds }
  have howned : ∀ id, noted.owners.lookup id = ownerIn done id := h.owners
  obtain ⟨owners, hroom, howners⟩ := noteRoom_of_consistent howned hfit
  have hplaced : Placed { noted with owners } done := ⟨h.estate, h.placed, h.unplaced⟩
  refine ⟨Draft.place { noted with owners } record, ?_, hplaced.place record, ?_, ?_⟩
  · unfold add
    rw [noteBed_of_not_mem hnew]
    show noted.noteRoom record >>= _ = _
    rw [hroom]
    rfl
  · rw [owners_place]
    exact howners
  · intro id
    rw [beds_place, List.map_append, List.mem_append, ← h.beds]
    show id ∈ record.bedId :: draft.beds ↔ _ ∨ id ∈ [record.bedId]
    rw [List.mem_cons, List.mem_singleton, or_comm]

/-- **A record that does not fit is refused**, and the fault says why. -/
theorem add_of_offends (h : draft.Tracks done) (hdone : Consistent done)
    (hfault : Offends done record fault) : draft.add record = .error fault := by
  unfold add
  cases hfault with
  | repeatedBed hbed =>
    rw [noteBed_of_mem ((h.beds _).2 hbed)]
    rfl
  | roomTaken x hbed hx hroom hpremises =>
    have howner : draft.owners.lookup record.room.id = some x.premisesId := by
      rw [h.owners, ← ownerIn_of_mem hdone hx, hroom]
      rfl
    rw [noteBed_of_not_mem (mt (h.beds _).1 hbed)]
    show Draft.noteRoom _ record >>= _ = _
    have hrefused : noteRoom { draft with beds := record.bed.id :: draft.beds } record =
        .error (.roomTaken record.roomId.text x.premisesId.text) := by
      unfold noteRoom
      rw [howner]
      exact if_neg hpremises
    rw [hrefused]
    rfl

/-- **What taking records one after the other comes to**, with a draft in step with others. -/
theorem addAll_cases (h : draft.Tracks done) (hdone : Consistent done) (records : List BedRecord) :
    (Consistent (done ++ records) ∧
      ∃ draft', draft.addAll records = .ok draft' ∧ draft'.Tracks (done ++ records)) ∨
    ∃ before record rest fault, records = before ++ record :: rest ∧
      Consistent (done ++ before) ∧ Offends (done ++ before) record fault ∧
      draft.addAll records = .error (.invalidRow record.line fault) := by
  induction records generalizing draft done with
  | nil =>
    rw [List.append_nil]
    exact .inl ⟨hdone, draft, rfl, h⟩
  | cons record records ih =>
    unfold addAll
    rcases consistent_or_offends hdone record with hfit | ⟨fault, hfault⟩
    · obtain ⟨draft', hadd, h'⟩ := add_of_consistent h hfit
      -- the record joins those that are done, and the rest is taken from there
      have hcases := ih h' hfit
      rw [List.append_assoc, List.singleton_append] at hcases
      rw [hadd]
      rcases hcases with hall | ⟨before, bad, rest, fault, rfl, hbefore, hfault, herror⟩
      · exact .inl hall
      · rw [List.append_assoc, List.singleton_append] at hbefore hfault
        exact .inr ⟨record :: before, bad, rest, fault, rfl, hbefore, hfault, herror⟩
    · refine .inr ⟨[], record, records, fault, rfl, ?_, ?_, ?_⟩
      · rwa [List.append_nil]
      · rwa [List.append_nil]
      · rw [add_of_offends h hdone hfault]
        rfl

end Draft

theorem consistent_nil : Consistent [] := ⟨.nil, fun _ hx => absurd hx List.not_mem_nil⟩

/-- **Records that fit together come to the estate that groups them.** -/
theorem ofRecords_of_consistent (h : Consistent records) :
    ofRecords records = .ok (grouped records) := by
  unfold ofRecords
  rcases Draft.addAll_cases Draft.tracks_empty consistent_nil records with
    ⟨_, draft, hadd, htracks⟩ | ⟨before, record, rest, fault, rfl, _, hfault, _⟩
  · rw [hadd]
    exact congrArg _ htracks.estate
  · exact absurd h (not_consistent_of_offends hfault)

/-- **Of other records, the first that does not fit is refused.** -/
theorem ofRecords_of_not_consistent (h : ¬ Consistent records) :
    ∃ before record rest fault, records = before ++ record :: rest ∧ Consistent before ∧
      Offends before record fault ∧ ofRecords records = .error (.invalidRow record.line fault) := by
  unfold ofRecords
  rcases Draft.addAll_cases Draft.tracks_empty consistent_nil records with
    ⟨hfit, _⟩ | ⟨before, record, rest, fault, hsplit, hbefore, hfault, hadd⟩
  · exact absurd hfit h
  · refine ⟨before, record, rest, fault, hsplit, hbefore, hfault, ?_⟩
    rw [hadd]
    rfl

theorem consistent_of_ofRecords {estate : Estate} (h : ofRecords records = .ok estate) :
    Consistent records := by
  by_contra hbroken
  obtain ⟨_, _, _, _, _, _, _, herror⟩ := ofRecords_of_not_consistent hbroken
  cases herror.symm.trans h

theorem groups_of_ofRecords {estate : Estate} (h : ofRecords records = .ok estate) :
    Groups records estate := by
  have hfit := consistent_of_ofRecords h
  obtain rfl := Except.ok.inj ((ofRecords_of_consistent hfit).symm.trans h)
  exact groups_grouped hfit

/-- **The rooms of an estate are those of their premises, and the beds those of their rooms.** -/
structure Linked (estate : Estate) : Prop where
  rooms : ∀ inventory ∈ estate, ∀ r ∈ inventory.rooms, r.room.premisesId = inventory.premises.id
  beds : ∀ inventory ∈ estate, ∀ r ∈ inventory.rooms, ∀ bed ∈ r.beds, bed.roomId = r.room.id

end Estate

/-! ## 5. Whole files -/

/-- **Every record comes from the row in its place**, by the columns and the check. -/
theorem exists_of_getElem?_checkRows {α : Type} {shape : String} {columns : List Csv.Column}
    {check : Nat → List (Option String) → Except RowFault α} {line : Nat}
    {rows : List (Except Csv.Fault Csv.Row)} {records : List α}
    (h : checkRows shape columns check line rows = .ok records) {i : Nat} {record : α}
    (hrecord : records[i]? = some record) :
    ∃ row values, rows[i]? = some (.ok row) ∧ row.select shape columns = .ok values ∧
      check (line + i) values = .ok record := by
  induction rows generalizing line records i with
  | nil =>
    cases h
    cases hrecord
  | cons first rows ih =>
    unfold checkRows at h
    obtain ⟨row, hrow, h⟩ := exists_of_bind_eq_ok h
    obtain ⟨values, hvalues, h⟩ := exists_of_bind_eq_ok h
    obtain ⟨made, hmade, h⟩ := exists_of_bind_eq_ok h
    obtain ⟨rest, hrest, h⟩ := exists_of_bind_eq_ok h
    cases h
    cases i with
    | zero =>
      cases hrecord
      exact ⟨row, values, congrArg some (eq_ok_of_mapError hrow), eq_ok_of_mapError hvalues,
        eq_ok_of_mapError hmade⟩
    | succ i =>
      obtain ⟨row, values, hrow, hselect, hcheck⟩ := ih hrest hrecord
      rw [Nat.add_assoc, Nat.add_comm 1] at hcheck
      exact ⟨row, values, hrow, hselect, hcheck⟩

theorem exists_of_mem_checkRows {α : Type} {shape : String} {columns : List Csv.Column}
    {check : Nat → List (Option String) → Except RowFault α} {line : Nat}
    {rows : List (Except Csv.Fault Csv.Row)} {records : List α}
    (h : checkRows shape columns check line rows = .ok records) {record : α}
    (hrecord : record ∈ records) :
    ∃ row values number, .ok row ∈ rows ∧ row.select shape columns = .ok values ∧
      check number values = .ok record := by
  obtain ⟨i, hi⟩ := List.mem_iff_getElem?.1 hrecord
  obtain ⟨row, values, hrow, h⟩ := exists_of_getElem?_checkRows h hi
  exact ⟨row, values, _, List.mem_of_getElem? hrow, h⟩

namespace BedRecord

/-- The room of a record is in its premises, and the bed in the room. -/
structure Linked (record : BedRecord) : Prop where
  room : record.room.premisesId = record.premisesId
  bed : record.bed.roomId = record.roomId

/-- **A row that is valid gives a record with its number**, whose parts name each other. -/
theorem linked_ofValues {line : Nat} {values : List (Option String)} {record : BedRecord}
    (h : ofValues line values = .ok record) : record.line = line ∧ record.Linked := by
  unfold ofValues at h
  dsimp only at h
  -- three values that have to be there, then the columns that are read, in the order of the checks
  obtain ⟨_, _, h⟩ := exists_of_bind_eq_ok h
  obtain ⟨_, _, h⟩ := exists_of_bind_eq_ok h
  obtain ⟨_, _, h⟩ := exists_of_bind_eq_ok h
  obtain ⟨service, _, h⟩ := exists_of_bind_eq_ok h
  obtain ⟨status, _, h⟩ := exists_of_bind_eq_ok h
  obtain ⟨location, _, h⟩ := exists_of_bind_eq_ok h
  obtain ⟨turnaroundDays, _, h⟩ := exists_of_bind_eq_ok h
  obtain ⟨endDate, _, h⟩ := exists_of_bind_eq_ok h
  cases h
  exact ⟨rfl, rfl, rfl⟩

end BedRecord

section Files

variable {input : List UInt8} {records : List BedRecord}

theorem line_of_readBedRecords (h : readBedRecords input = .ok records) {i : Nat}
    {record : BedRecord} (hrecord : records[i]? = some record) :
    record.line = firstRowLine + i := by
  obtain ⟨_, _, _, _, hcheck⟩ := exists_of_getElem?_checkRows h hrecord
  exact (BedRecord.linked_ofValues hcheck).1

theorem linked_of_readBedRecords (h : readBedRecords input = .ok records) :
    ∀ record ∈ records, record.Linked := by
  intro record hrecord
  obtain ⟨_, _, _, _, _, hcheck⟩ := exists_of_mem_checkRows h hrecord
  exact (BedRecord.linked_ofValues hcheck).2

theorem Estate.Groups.linked {estate : Estate} (h : Groups records estate)
    (hfit : Consistent records) (hlinked : ∀ record ∈ records, record.Linked) :
    estate.Linked where
  rooms inventory hinventory r hr := by
    obtain ⟨x, hfind, hroom⟩ := Option.map_eq_some_iff.1 (h.roomsFirst inventory hinventory r hr)
    have hx : x ∈ records := List.mem_of_find?_eq_some hfind
    -- some record names the room in these premises
    have hid : r.room.id ∈ inventory.rooms.map fun r => r.room.id := List.mem_map_of_mem hr
    rw [h.roomsOrder inventory hinventory, List.mem_eraseDups] at hid
    obtain ⟨y, hy, hyroom⟩ := List.mem_map.1 hid
    obtain ⟨hy, hpremises⟩ := List.mem_filter.1 hy
    have hsame : x.roomId = y.roomId := by
      rw [hyroom, ← hroom]
      rfl
    calc r.room.premisesId = x.premisesId := hroom ▸ (hlinked x hx).room
      _ = y.premisesId := hfit.rooms x hx y hy hsame
      _ = inventory.premises.id := of_decide_eq_true hpremises
  beds inventory hinventory r hr bed hbed := by
    rw [h.bedsOrder inventory hinventory r hr] at hbed
    obtain ⟨x, hx, rfl⟩ := List.mem_map.1 hbed
    obtain ⟨hx, hroom⟩ := List.mem_filter.1 hx
    exact (hlinked x hx).bed.trans (of_decide_eq_true hroom)

theorem readEstate_of_records (h : readBedRecords input = .ok records) :
    readEstate input = Estate.ofRecords records := by
  unfold readEstate
  rw [h]
  rfl

/-- **A file of valid rows gives an estate exactly if no bed comes twice and no room moves**: the
    estate that groups the records. Otherwise the answer is what is wrong with the first record that
    does not fit those before it, with the number of its row. -/
theorem readEstate_groups (h : readBedRecords input = .ok records) :
    ((∃ estate, readEstate input = .ok estate) ↔ Estate.Consistent records) ∧
    (¬ Estate.Consistent records → ∃ before record rest fault,
      records = before ++ record :: rest ∧ Estate.Consistent before ∧
      Estate.Offends before record fault ∧
      readEstate input = .error (.invalidRow (firstRowLine + before.length) fault)) ∧
    ∀ estate, readEstate input = .ok estate → Estate.Groups records estate ∧ estate.Linked := by
  rw [readEstate_of_records h]
  refine ⟨⟨fun ⟨estate, hestate⟩ => Estate.consistent_of_ofRecords hestate,
    fun hfit => ⟨_, Estate.ofRecords_of_consistent hfit⟩⟩, fun hbroken => ?_,
    fun estate hestate => ?_⟩
  · obtain ⟨before, record, rest, fault, hsplit, hbefore, hfault, herror⟩ :=
      Estate.ofRecords_of_not_consistent hbroken
    have hposition : records[before.length]? = some record := by
      rw [hsplit, List.getElem?_append_right (Nat.le_refl _), Nat.sub_self]
      rfl
    rw [line_of_readBedRecords h hposition] at herror
    exact ⟨before, record, rest, fault, hsplit, hbefore, hfault, herror⟩
  · have hgroups := Estate.groups_of_ofRecords hestate
    exact ⟨hgroups, hgroups.linked (Estate.consistent_of_ofRecords hestate)
      (linked_of_readBedRecords h)⟩

/-- The column names without which an estate file is refused. -/
def briefHeading : String :=
  "premises_id,premises_name,service,postcode,pdu,room_id,room_name,bed_id,bed_name\n"

/-- Two premises with their rows in turns, and a second name for one of them. -/
def interleavedFile : List UInt8 :=
  (briefHeading ++ "elm,Elm House,ap,LS1 1AA,Leeds,elm-1,Room 1,b1,Bed 1\n"
    ++ "ash,Ash House,ta,LS2 2BB,Leeds,ash-1,Room 1,b2,Bed 1\n"
    ++ "elm,Elm Place,ap,LS1 1AA,Leeds,elm-2,Room 2,b3,Bed 1\n"
    ++ "elm,Elm House,ap,LS1 1AA,Leeds,elm-1,Room 1,b4,Bed 2\n").toUTF8.toList

/-- A room that moves to other premises in the second row. -/
def movedRoomFile : List UInt8 :=
  (briefHeading ++ "elm,Elm House,ap,LS1 1AA,Leeds,elm-1,Room 1,b1,Bed 1\n"
    ++ "ash,Ash House,ta,LS2 2BB,Leeds,elm-1,Room 1,b2,Bed 1\n").toUTF8.toList

/-- Rows in turns are grouped, and a room that moves is refused with the number of its row. -/
theorem interleaved_groups :
    (∃ records estate, readBedRecords interleavedFile = .ok records ∧
      readEstate interleavedFile = .ok estate ∧ Estate.Groups records estate ∧ estate.Linked ∧
      (estate.map fun inventory => (inventory.premises.name, inventory.rooms.map fun r =>
        (r.room.id.text, r.beds.map fun bed => bed.id.text))) =
        [("Elm House", [("elm-1", ["b1", "b4"]), ("elm-2", ["b3"])]),
          ("Ash House", [("ash-1", ["b2"])])]) ∧
    ∃ records before record rest, readBedRecords movedRoomFile = .ok records ∧
      records = before ++ record :: rest ∧ before.length = 1 ∧
      readEstate movedRoomFile = .error (.invalidRow 3 (.roomTaken "elm-1" "elm")) := by
  constructor
  · have hfile : (readEstate interleavedFile).toOption.map (fun estate =>
        estate.map fun inventory => (inventory.premises.name, inventory.rooms.map fun r =>
          (r.room.id.text, r.beds.map fun bed => bed.id.text))) =
        some [("Elm House", [("elm-1", ["b1", "b4"]), ("elm-2", ["b3"])]),
          ("Ash House", [("ash-1", ["b2"])])] := by decide +kernel
    obtain ⟨estate, hestate, hshape⟩ := Option.map_eq_some_iff.1 hfile
    have hestate := eq_ok_of_toOption hestate
    obtain ⟨records, hrecords, _⟩ := exists_of_bind_eq_ok hestate
    obtain ⟨hgroups, hlinked⟩ := (readEstate_groups hrecords).2.2 estate hestate
    exact ⟨records, estate, hrecords, hestate, hgroups, hlinked, hshape⟩
  · have hfile : (readBedRecords movedRoomFile).toOption.isSome = true ∧
        failure? (readEstate movedRoomFile) =
          some (.invalidRow 3 (.roomTaken "elm-1" "elm")) := by decide +kernel
    obtain ⟨hrows, hfailure⟩ := hfile
    obtain ⟨records, hrecords⟩ := Option.isSome_iff_exists.1 hrows
    have hrecords := eq_ok_of_toOption hrecords
    have herror := failure?_eq_some_iff.1 hfailure
    obtain ⟨hsucceeds, hfirst, _⟩ := readEstate_groups hrecords
    have hbroken : ¬ Estate.Consistent records := fun hfit => by
      obtain ⟨estate, hestate⟩ := hsucceeds.2 hfit
      cases herror.symm.trans hestate
    obtain ⟨before, record, rest, fault, hsplit, _, _, hanswer⟩ := hfirst hbroken
    refine ⟨records, before, record, rest, hrecords, hsplit, ?_, herror⟩
    injection herror.symm.trans hanswer with hsame
    injection hsame with hline _
    exact Nat.add_left_cancel hline.symm

end Files

end Bedspace
