import Bedspace.Proofs.Csv.Lines
import Bedspace.Proofs.Estate.Bookkeeping

/-!
# The numbers of refused rows

A row that is refused is named by a number that is called its line. It is counted by rows: the first
row below the column names has number 2, whatever lines there are in between.

* `checkRows_eq_invalidRow`: which row it is that is refused by its own check, and that the rows
  before it pass;
* `Csv.Numbers` says of a number which record it stands for, and how far it is from the line of that
  record;
* **`import_numbers`**: what either import says of a row that it refuses. The number is the line of
  the row exactly if no line is empty so far and no field before it holds a line end;
  `gapFile_misnumbered` has a row after an empty line, and one after a line end in a field.
-/

namespace Bedspace

/-! ## 1. Rows that are refused -/

/-- **A row passes its checks**, with its number. -/
def RowPasses {α : Type} (shape : String) (columns : List Csv.Column)
    (check : Nat → List (Option String) → Except RowFault α) (line : Nat)
    (row : Except Csv.Fault Csv.Row) : Prop :=
  ∃ found values a, row = .ok found ∧ found.select shape columns = .ok values ∧
    check line values = .ok a

section Rows

variable {α : Type} {shape : String} {columns : List Csv.Column}
  {check : Nat → List (Option String) → Except RowFault α} {line n : Nat} {fault : RowFault}
  {rows : List (Except Csv.Fault Csv.Row)}

/-- **Which row is refused**: the first one that does not pass, by its check and with its number. -/
theorem checkRows_eq_invalidRow
    (h : checkRows shape columns check line rows = .error (.invalidRow n fault)) :
    ∃ i row values, rows[i]? = some (.ok row) ∧ row.select shape columns = .ok values ∧
      n = line + i ∧ check n values = .error fault ∧
      ∀ j < i, ∀ other, rows[j]? = some other →
        RowPasses shape columns check (line + j) other := by
  induction rows generalizing line with
  | nil => cases h
  | cons first rows ih =>
    unfold checkRows at h
    rcases exists_of_bind_eq_error h with hrow | ⟨row, hrow, h⟩
    · obtain ⟨_, _, e⟩ := exists_of_mapError_eq_error hrow
      cases e
    · rcases exists_of_bind_eq_error h with hselect | ⟨values, hselect, h⟩
      · obtain ⟨_, _, e⟩ := exists_of_mapError_eq_error hselect
        cases e
      · rcases exists_of_bind_eq_error h with hcheck | ⟨made, hcheck, h⟩
        · obtain ⟨_, hcheck, e⟩ := exists_of_mapError_eq_error hcheck
          cases e
          exact ⟨0, row, values, congrArg some (eq_ok_of_mapError hrow),
            eq_ok_of_mapError hselect, rfl, hcheck, fun j hj => absurd hj (Nat.not_lt_zero j)⟩
        · have hrest : checkRows shape columns check (line + 1) rows =
              .error (.invalidRow n fault) := by
            rcases exists_of_bind_eq_error h with hrest | ⟨_, _, h⟩
            · exact hrest
            · cases h
          obtain ⟨i, row', values', hrow', hselect', hn, hcheck', hearlier⟩ := ih hrest
          refine ⟨i + 1, row', values', hrow', hselect', by omega, hcheck', ?_⟩
          intro j hj other hother
          cases j with
          | zero =>
            obtain rfl : first = other := Option.some.inj hother
            exact ⟨row, values, made, eq_ok_of_mapError hrow, eq_ok_of_mapError hselect,
              eq_ok_of_mapError hcheck⟩
          | succ j =>
            have hpasses := hearlier j (Nat.lt_of_succ_lt_succ hj) other hother
            rwa [Nat.add_assoc, Nat.add_comm 1 j] at hpasses

theorem length_of_checkRows {made : List α}
    (h : checkRows shape columns check line rows = .ok made) : made.length = rows.length := by
  induction rows generalizing line made with
  | nil =>
    cases h
    rfl
  | cons first rows ih =>
    unfold checkRows at h
    obtain ⟨_, _, h⟩ := exists_of_bind_eq_ok h
    obtain ⟨_, _, h⟩ := exists_of_bind_eq_ok h
    obtain ⟨_, _, h⟩ := exists_of_bind_eq_ok h
    obtain ⟨rest, hrest, h⟩ := exists_of_bind_eq_ok h
    cases h
    exact congrArg (· + 1) (ih hrest)

/-- Where all rows are taken, all of them pass. -/
theorem rowPasses_of_checkRows {made : List α}
    (h : checkRows shape columns check line rows = .ok made) {i : Nat}
    {row : Except Csv.Fault Csv.Row} (hrow : rows[i]? = some row) :
    RowPasses shape columns check (line + i) row := by
  have hi : i < made.length := by
    rw [length_of_checkRows h]
    exact (List.getElem?_eq_some_iff.1 hrow).1
  obtain ⟨found, values, hfound, hselect, hcheck⟩ :=
    exists_of_getElem?_checkRows h (List.getElem?_eq_getElem hi)
  obtain rfl : row = .ok found := Option.some.inj (hrow.symm.trans hfound)
  exact ⟨found, values, made[i], rfl, hselect, hcheck⟩

end Rows

/-! ## 2. What a number stands for -/

namespace Csv

variable {input : List UInt8} {i : Nat} {record : Record}

/-- **A row is made of the record in its place**, after the one with the column names. -/
theorem exists_of_getElem?_rows {row : Except Fault Row} (h : (rows input)[i]? = some row) :
    ∃ record expected names, (records input)[i + 1]? = some record ∧
      row = rowOf expected names record := by
  unfold rows at h
  cases hrecords : records input with
  | nil =>
    rw [hrecords] at h
    cases h
  | cons head rest =>
    rw [hrecords, List.getElem?_map] at h
    obtain ⟨record, hrecord, hrow⟩ := Option.map_eq_some_iff.1 h
    exact ⟨record, _, _, hrecord, hrow.symm⟩

/-- **A number stands for the record of a row.** It counts the rows up to that one, and one more for
    the column names. The line of the record has the same number exactly if every record before it
    takes one line and no line is empty. -/
structure Numbers (input : List UInt8) (n i : Nat) (record : Record) : Prop where
  number : n = firstRowLine + i
  stands : (records input)[i + 1]? = some record
  row : ∃ expected names, (rows input)[i]? = some (rowOf expected names record)
  line : record.lineOf input = n + (((records input).take (i + 1)).map Record.innerLines).sum +
    (((records input).take (i + 2)).map (Record.emptyLines input)).sum
  right : n = record.lineOf input ↔
    (∀ before ∈ (records input).take (i + 1), before.innerLines = 0) ∧
    ∀ upTo ∈ (records input).take (i + 2), upTo.emptyLines input = 0

/-- **Every row has a number**, which stands for its record. -/
theorem numbers_of_getElem?_rows {row : Except Fault Row} (h : (rows input)[i]? = some row) :
    ∃ record, Numbers input (firstRowLine + i) i record := by
  obtain ⟨record, expected, names, hrecord, hrow⟩ := exists_of_getElem?_rows h
  have hline : record.lineOf input =
      firstRowLine + i + (((records input).take (i + 1)).map Record.innerLines).sum +
        (((records input).take (i + 2)).map (Record.emptyLines input)).sum := by
    have hcount : firstRowLine + i = i + 1 + 1 := Nat.add_comm 2 i
    rw [hcount]
    exact lineOf_getElem? hrecord
  have hsum (f : Record → Nat) (found : List Record) :
      (found.map f).sum = 0 ↔ ∀ r ∈ found, f r = 0 := by
    rw [List.sum_eq_zero_iff_forall_eq_nat]
    exact List.forall_mem_map
  refine ⟨record, rfl, hrecord, ⟨expected, names, hrow ▸ h⟩, hline, ?_⟩
  rw [hline, ← hsum, ← hsum]
  omega

end Csv

/-! ## 3. Refused files -/

/-- **A row is refused by its own check**, with its number. -/
def RowFails {α : Type} (shape : String) (columns : List Csv.Column)
    (check : Nat → List (Option String) → Except RowFault α) (n : Nat)
    (row : Except Csv.Fault Csv.Row) (fault : RowFault) : Prop :=
  ∃ found values, row = .ok found ∧ found.select shape columns = .ok values ∧
    check n values = .error fault

/-- **A row does not fit the rows before it**: all rows pass their checks, and the records before
    that of the row fit together, but not with it. -/
def RowMisfits (input : List UInt8) (i : Nat) (fault : RowFault) : Prop :=
  ∃ before record rest, readBedRecords input = .ok (before ++ record :: rest) ∧
    before.length = i ∧ Estate.Consistent before ∧ Estate.Offends before record fault

section Files

variable {input : List UInt8} {n : Nat} {fault : RowFault}

theorem exists_of_checkRows {α : Type} {shape : String} {columns : List Csv.Column}
    {check : Nat → List (Option String) → Except RowFault α}
    (h : checkRows shape columns check firstRowLine (Csv.rows input) =
      .error (.invalidRow n fault)) :
    ∃ i record row, Csv.Numbers input n i record ∧ (Csv.rows input)[i]? = some row ∧
      RowFails shape columns check n row fault ∧
      ∀ j < i, ∀ other, (Csv.rows input)[j]? = some other →
        RowPasses shape columns check (firstRowLine + j) other := by
  obtain ⟨i, row, values, hrow, hselect, rfl, hcheck, hearlier⟩ := checkRows_eq_invalidRow h
  obtain ⟨record, hnumbers⟩ := Csv.numbers_of_getElem?_rows hrow
  exact ⟨i, record, .ok row, hnumbers, hrow, ⟨row, values, rfl, hselect, hcheck⟩, hearlier⟩

/-- Records that do not fit together come from rows that all pass. -/
theorem exists_of_ofRecords {records : List BedRecord} (hrows : readBedRecords input = .ok records)
    (h : Estate.ofRecords records = .error (.invalidRow n fault)) :
    ∃ i record row, Csv.Numbers input n i record ∧ (Csv.rows input)[i]? = some row ∧
      RowMisfits input i fault ∧
      ∀ j other, (Csv.rows input)[j]? = some other →
        RowPasses "EstateRow" estateColumns BedRecord.ofValues (firstRowLine + j) other := by
  have hbroken : ¬ Estate.Consistent records := by
    intro hfit
    cases h.symm.trans (Estate.ofRecords_of_consistent hfit)
  obtain ⟨before, misfit, rest, fault', rfl, hbefore, hfault, herror⟩ :=
    Estate.ofRecords_of_not_consistent hbroken
  have hplace : (before ++ misfit :: rest)[before.length]? = some misfit := by simp
  obtain ⟨row, _, hrow, _, _⟩ := exists_of_getElem?_checkRows hrows hplace
  obtain ⟨record, hnumbers⟩ := Csv.numbers_of_getElem?_rows hrow
  have hline := line_of_readBedRecords hrows hplace
  cases h.symm.trans herror
  exact ⟨before.length, record, .ok row, hline ▸ hnumbers, hrow,
    ⟨before, misfit, rest, hrows, rfl, hbefore, hfault⟩,
    fun j other hother => rowPasses_of_checkRows hrows hother⟩

/-- **What a refused row is called.** Its number stands for the record of the row, and is the line of
    that record as far as `Csv.Numbers` says. All rows before it pass their checks. In an estate file
    the row is refused by its own check or does not fit the rows before it, in a file of postcode
    districts by its own check. -/
theorem import_numbers (input : List UInt8) (n : Nat) (fault : RowFault) :
    (readEstate input = .error (.invalidRow n fault) →
      ∃ i record row, Csv.Numbers input n i record ∧ (Csv.rows input)[i]? = some row ∧
        (RowFails "EstateRow" estateColumns BedRecord.ofValues n row fault ∨
          RowMisfits input i fault) ∧
        ∀ j < i, ∀ other, (Csv.rows input)[j]? = some other →
          RowPasses "EstateRow" estateColumns BedRecord.ofValues (firstRowLine + j) other) ∧
    (readDistricts input = .error (.invalidRow n fault) →
      ∃ i record row, Csv.Numbers input n i record ∧ (Csv.rows input)[i]? = some row ∧
        RowFails "DistrictRow" districtColumns (fun _ => District.ofValues) n row fault ∧
        ∀ j < i, ∀ other, (Csv.rows input)[j]? = some other →
          RowPasses "DistrictRow" districtColumns (fun _ => District.ofValues)
            (firstRowLine + j) other) := by
  refine ⟨fun h => ?_, fun h => exists_of_checkRows h⟩
  rcases exists_of_bind_eq_error h with hrows | ⟨records, hrows, hgroup⟩
  · obtain ⟨i, record, row, hnumbers, hrow, hfails, hearlier⟩ := exists_of_checkRows hrows
    exact ⟨i, record, row, hnumbers, hrow, .inl hfails, hearlier⟩
  · obtain ⟨i, record, row, hnumbers, hrow, hmisfits, hall⟩ := exists_of_ofRecords hrows hgroup
    exact ⟨i, record, row, hnumbers, hrow, .inr hmisfits, fun j _ => hall j⟩

end Files

/-- An empty line below the column names, and a row with a service that nobody knows. -/
def gapFile : List UInt8 :=
  (briefHeading ++ "\n" ++ "elm,Elm House,xx,LS1 1AA,Leeds,elm-1,Room 1,b1,Bed 1\n").toUTF8.toList

/-- A column name on two lines, and a row without an outcode. -/
def foldedFile : List UInt8 :=
  "outcode,latitude,longitude,\"name of\nthe town\"\n,53.8,-1.5,Leeds\n".toUTF8.toList

/-- A room that moves is refused with the line of its row, and a missing outcode with the line before
    its own. -/
theorem movedRoom_numbers :
    readEstate movedRoomFile = .error (.invalidRow 3 (.roomTaken "elm-1" "elm")) ∧
    (∃ record, Csv.Numbers movedRoomFile 3 1 record ∧ record.lineOf movedRoomFile = 3) ∧
    readDistricts foldedFile = .error (.invalidRow 2 (.empty "outcode")) ∧
    ∃ record, Csv.Numbers foldedFile 2 0 record ∧ record.lineOf foldedFile = 3 := by
  have hmoved : readEstate movedRoomFile = .error (.invalidRow 3 (.roomTaken "elm-1" "elm")) :=
    failure?_eq_some_iff.1 (by decide +kernel)
  have hfolded : readDistricts foldedFile = .error (.invalidRow 2 (.empty "outcode")) :=
    failure?_eq_some_iff.1 (by decide +kernel)
  refine ⟨hmoved, ?_, hfolded, ?_⟩
  · obtain ⟨i, record, row, hnumbers, _, _, _⟩ := (import_numbers _ _ _).1 hmoved
    obtain rfl : i = 1 := (Nat.add_left_cancel (n := firstRowLine) hnumbers.number).symm
    have hright : 3 = record.lineOf movedRoomFile := hnumbers.right.2 (by decide +kernel)
    exact ⟨record, hnumbers, hright.symm⟩
  · obtain ⟨i, record, row, hnumbers, _, _, _⟩ := (import_numbers _ _ _).2 hfolded
    obtain rfl : i = 0 := (Nat.add_left_cancel (n := firstRowLine) hnumbers.number).symm
    have hline := hnumbers.line
    have hinner : (((Csv.records foldedFile).take 1).map Csv.Record.innerLines).sum = 1 := by
      decide +kernel
    have hempty : (((Csv.records foldedFile).take 2).map (Csv.Record.emptyLines foldedFile)).sum
        = 0 := by
      decide +kernel
    rw [hinner, hempty] at hline
    exact ⟨record, hnumbers, hline⟩

/-- **A row can be called by a wrong line**: what is on line 3 is said to be on line 2, after an empty
    line in an estate file and after a line break between quotes in a file of postcode districts. -/
theorem gapFile_misnumbered :
    (readEstate gapFile = .error (.invalidRow 2 (.unknownService "xx")) ∧
      ((Csv.records gapFile)[1]?.map (Csv.Record.lineOf gapFile)) = some 3) ∧
    readDistricts foldedFile = .error (.invalidRow 2 (.empty "outcode")) ∧
      ((Csv.records foldedFile)[1]?.map (Csv.Record.lineOf foldedFile)) = some 3 := by
  refine ⟨⟨failure?_eq_some_iff.1 ?_, ?_⟩, failure?_eq_some_iff.1 ?_, ?_⟩
  all_goals decide +kernel

end Bedspace
