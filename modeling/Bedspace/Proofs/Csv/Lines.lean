import Bedspace.Csv.Record
import Mathlib.Algebra.GroupWithZero.Nat

/-!
# The lines of a comma separated file

A record need not stand on the line that has its number: empty lines are skipped, and a field in
quotes may hold line ends. How far the two are apart can be said exactly.

* `lineEnds` counts the lines that end in some bytes, `lineOf` numbers the line on which a record
  begins;
* `Layout` takes a file apart into records with the line ends before each of them, which is how
  `Scan` reads it (`Scan.Reads`);
* **`lineOf_getElem?`**: the line of a record comes after as many lines as there are records,
  further lines inside these records, and empty lines before it.
-/

namespace Bedspace.Csv

/-! ## 1. Line ends -/

/-- A byte at which a line ends. -/
def isLineEnd (b : UInt8) : Bool := b == lineFeed || b == carriageReturn

/-- Whether one more line ends with a byte: a line feed right after a carriage return belongs to the
    line end of that. -/
def endsLine (returned : Bool) (b : UInt8) : Bool :=
  b == carriageReturn || (b == lineFeed && !returned)

/-- How many lines end in some bytes, which may come right after a carriage return. -/
def lineEndsAfter : Bool → List UInt8 → Nat
  | _, [] => 0
  | returned, b :: bytes =>
    (if endsLine returned b then 1 else 0) + lineEndsAfter (b == carriageReturn) bytes

/-- How many lines end in some bytes. -/
def lineEnds (bytes : List UInt8) : Nat := lineEndsAfter false bytes

/-- Whether some bytes end with a carriage return. -/
def endsReturned (bytes : List UInt8) : Bool := bytes.getLast? == some carriageReturn

@[simp] theorem comma_beq_carriageReturn : (comma == carriageReturn) = false := rfl

@[simp] theorem quote_beq_carriageReturn : (quote == carriageReturn) = false := rfl

section Counting

variable {returned : Bool} {b : UInt8} {bytes : List UInt8}

@[simp] theorem lineEnds_nil : lineEnds [] = 0 := rfl

@[simp] theorem endsReturned_nil : endsReturned [] = false := rfl

@[simp] theorem endsReturned_concat : endsReturned (bytes ++ [b]) = (b == carriageReturn) := by
  simp [endsReturned]

theorem lineEndsAfter_append (returned : Bool) (bytes more : List UInt8) :
    lineEndsAfter returned (bytes ++ more) =
      lineEndsAfter returned bytes +
        lineEndsAfter (if bytes = [] then returned else endsReturned bytes) more := by
  induction bytes generalizing returned with
  | nil => simp [lineEndsAfter]
  | cons b bytes ih =>
    rw [List.cons_append, lineEndsAfter, ih, lineEndsAfter, if_neg (List.cons_ne_nil b bytes)]
    have hlast : (if bytes = [] then b == carriageReturn else endsReturned bytes) =
        endsReturned (b :: bytes) := by
      cases bytes with
      | nil => simp [endsReturned]
      | cons c bytes => simp [endsReturned]
    rw [hlast]
    omega

theorem lineEnds_concat (bytes : List UInt8) (b : UInt8) :
    lineEnds (bytes ++ [b]) =
      lineEnds bytes + if endsLine (endsReturned bytes) b then 1 else 0 := by
  have hlast : (if bytes = [] then false else endsReturned bytes) = endsReturned bytes := by
    cases bytes with
    | nil => rfl
    | cons c bytes => rfl
  unfold lineEnds
  rw [lineEndsAfter_append, hlast]
  rfl

/-- A byte that ends no line goes on with the line. -/
theorem lineEnds_concat_of_not (hb : isLineEnd b = false) :
    lineEnds (bytes ++ [b]) = lineEnds bytes := by
  obtain ⟨hfeed, hreturn⟩ := Bool.or_eq_false_iff.1 hb
  rw [lineEnds_concat, endsLine, hfeed, hreturn]
  rfl

/-- **Lines are counted part by part**, unless a part begins with a line feed. -/
theorem lineEnds_append_cons (front : List UInt8) (hb : isLineEnd b = false) :
    lineEnds (front ++ b :: bytes) = lineEnds front + lineEnds (b :: bytes) := by
  obtain ⟨hfeed, hreturn⟩ := Bool.or_eq_false_iff.1 hb
  have hstart (returned : Bool) : lineEndsAfter returned (b :: bytes) = lineEnds (b :: bytes) := by
    simp [lineEnds, lineEndsAfter, endsLine, hfeed, hreturn]
  unfold lineEnds
  rw [lineEndsAfter_append, hstart]
  rfl

theorem lineEnds_le_append (front more : List UInt8) :
    lineEnds front ≤ lineEnds (front ++ more) := by
  unfold lineEnds
  rw [lineEndsAfter_append]
  exact Nat.le_add_right _ _

end Counting

/-! ## 2. Where a record begins -/

/-- The bytes of a mark that may stand in front of a file. -/
def markLength : List UInt8 → Nat
  | 0xEF :: 0xBB :: 0xBF :: _ => 3
  | _ => 0

/-- Where reading a record began. -/
def Record.offset (input : List UInt8) (record : Record) : Nat :=
  max record.position.byte (markLength input)

/-- Where a record begins, once line ends before it are skipped. -/
def Record.startOf (input : List UInt8) (record : Record) : Nat :=
  record.offset input + ((input.drop (record.offset input)).takeWhile isLineEnd).length

/-- **The number of the line on which a record begins**, counted from one. -/
def Record.lineOf (input : List UInt8) (record : Record) : Nat :=
  lineEnds (input.take (record.startOf input)) + 1

/-- The number of empty lines right before a record. -/
def Record.emptyLines (input : List UInt8) (record : Record) : Nat :=
  lineEnds (input.take (record.startOf input)) - lineEnds (input.take (record.offset input))

/-- The number of line ends inside the fields of a record. -/
def Record.innerLines (record : Record) : Nat := (record.fields.map lineEnds).sum

/-! ## 3. How a file is made up of records -/

/-- Some bytes begin with one at which no line ends. -/
def BeginsRecord (body : List UInt8) : Prop :=
  ∃ b rest, body = b :: rest ∧ isLineEnd b = false

/-- **A record begins after some text and some line ends.** -/
structure Opens (mark text gap body : List UInt8) (record : Record) : Prop where
  offset : max record.position.byte mark.length = text.length
  gap : ∀ b ∈ gap, isLineEnd b = true
  begins : BeginsRecord body

/-- **Some text is a mark and the records after it**, each with the line ends before it and the one
    at its end. -/
inductive Layout (mark : List UInt8) : List UInt8 → List Record → Prop where
  | nil : Layout mark mark []
  | record (text gap body : List UInt8) (records : List Record) (record : Record)
      (h : Layout mark text records) (hopens : Opens mark text gap body record)
      (hends : lineEnds body = record.innerLines + 1) :
      Layout mark (text ++ gap ++ body) (records ++ [record])

/-! ## 4. One byte -/

/-- A place before the first byte of a record. -/
def Place.isBefore : Place → Bool
  | .recordStart => true
  | .returnSeen => true
  | _ => false

namespace Scan

/-- The record at hand, if it ended here. -/
def lastRecord (scan : Scan) : Record := ⟨scan.start, (scan.bytes.reverse :: scan.fields).reverse⟩

/-- **The bytes of the record at hand are those of its fields**, as far as lines go. -/
structure Counts (scan : Scan) (body : List UInt8) : Prop where
  lines : lineEnds body = (scan.fields.map lineEnds).sum + lineEnds scan.bytes.reverse
  returned : endsReturned body = (scan.place == .quoted && endsReturned scan.bytes.reverse)
  fresh : scan.place = .fieldStart ∨ scan.place.isBefore = true → scan.bytes = []

theorem innerLines_lastRecord (scan : Scan) :
    scan.lastRecord.innerLines =
      (scan.fields.map lineEnds).sum + lineEnds scan.bytes.reverse := by
  unfold lastRecord Record.innerLines
  rw [List.map_reverse, List.sum_reverse, List.map_cons, List.sum_cons, Nat.add_comm]

/-- **What one byte makes of the record at hand**: it goes on, or it ends. -/
inductive Comes (scan : Scan) (body : List UInt8) (b : UInt8) : Scan → Prop where
  | goesOn (scan' : Scan) (hhere : scan'.here = scan.here) (hstart : scan'.start = scan.start)
      (hfinished : scan'.finished = scan.finished) (hplace : scan'.place.isBefore = false)
      (hcounts : scan'.Counts (body ++ [b])) : Comes scan body b scan'
  | ends (place : Place) (hplace : place.isBefore = true)
      (hends : lineEnds (body ++ [b]) = scan.lastRecord.innerLines + 1) :
      Comes scan body b (scan.endRecord place)

variable {scan : Scan} {body : List UInt8} {b : UInt8}

theorem Counts.comes_take (h : scan.Counts body) (hb : isLineEnd b = false) :
    scan.Comes body b (scan.take b .field) := by
  obtain ⟨_, hreturn⟩ := Bool.or_eq_false_iff.1 hb
  refine .goesOn _ rfl rfl rfl rfl ⟨?_, ?_, ?_⟩
  · simp [take, lineEnds_concat_of_not hb, h.lines]
  · simp [take, hreturn]
  · simp [take, Place.isBefore]

theorem Counts.comes_delimitOr (h : scan.Counts body) (hplace : scan.place ≠ .quoted) :
    scan.Comes body b (scan.delimitOr b fun scan => scan.take b .field) := by
  have hreturned : endsReturned body = false := by
    simp [h.returned, hplace]
  unfold delimitOr
  by_cases hcomma : b = comma
  · subst hcomma
    refine .goesOn _ rfl rfl rfl rfl ⟨?_, ?_, fun _ => rfl⟩
    · rw [lineEnds_concat_of_not rfl, h.lines]
      simp [endField, Nat.add_comm]
    · simp [endField]
  · by_cases hfeed : b = lineFeed
    · subst hfeed
      refine .ends .recordStart rfl ?_
      rw [lineEnds_concat, hreturned, innerLines_lastRecord, h.lines]
      rfl
    · by_cases hreturn : b = carriageReturn
      · subst hreturn
        refine .ends .returnSeen rfl ?_
        rw [lineEnds_concat, hreturned, innerLines_lastRecord, h.lines]
        rfl
      · have hb : isLineEnd b = false := by simp [isLineEnd, hfeed, hreturn]
        simp only [beq_iff_eq, hcomma, hfeed, hreturn, if_false]
        exact h.comes_take hb

/-- The first byte of a field, which may be the first one of a record. -/
theorem Counts.comes_firstOfField (h : scan.Counts body)
    (hplace : scan.place = .fieldStart ∨ scan.place.isBefore = true) :
    scan.Comes body b (scan.firstOfField b) := by
  have hfresh := h.fresh hplace
  have hunquoted : scan.place ≠ .quoted := by
    rintro e
    rw [e] at hplace
    simp [Place.isBefore] at hplace
  unfold firstOfField
  by_cases hquote : b = quote
  · subst hquote
    refine .goesOn _ rfl rfl rfl rfl ⟨?_, ?_, ?_⟩
    · rw [lineEnds_concat_of_not rfl, h.lines]
      rfl
    · simp [hfresh]
    · simp [Place.isBefore]
  · rw [if_neg (by simpa using hquote)]
    exact h.comes_delimitOr hunquoted

/-- A byte between quotes is one of the field, whatever it is, or else may end it. -/
theorem Counts.comes_quoted (h : scan.Counts body) (hplace : scan.place = .quoted) :
    scan.Comes body b
      (if b == quote then { scan with place := .quoteSeen } else scan.take b .quoted) := by
  have hreturned : endsReturned body = endsReturned scan.bytes.reverse := by
    simp [h.returned, hplace]
  by_cases hquote : b = quote
  · subst hquote
    refine .goesOn _ rfl rfl rfl rfl ⟨?_, ?_, ?_⟩
    · rw [lineEnds_concat_of_not rfl, h.lines]
      rfl
    · simp
    · simp [Place.isBefore]
  · rw [if_neg (by simpa using hquote)]
    refine .goesOn _ rfl rfl rfl rfl ⟨?_, ?_, ?_⟩
    · -- both counts go up by one, or neither does
      rw [lineEnds_concat, hreturned, h.lines]
      simp [take, lineEnds_concat, Nat.add_assoc]
    · simp [take]
    · simp [take, Place.isBefore]

/-- **One byte more of a record** that was begun. -/
theorem Counts.comes_enter (h : scan.Counts body) (hplace : scan.place.isBefore = false) :
    scan.Comes body b (scan.enter b) := by
  unfold enter
  cases e : scan.place with
  | recordStart | returnSeen =>
    rw [e] at hplace
    cases hplace
  | fieldStart => exact h.comes_firstOfField (.inl e)
  | field => exact h.comes_delimitOr (by simp [e])
  | quoted => exact h.comes_quoted e
  | quoteSeen =>
    dsimp only
    by_cases hquote : b = quote
    · subst hquote
      show scan.Comes body quote (scan.take quote .quoted)
      refine .goesOn _ rfl rfl rfl rfl ⟨?_, ?_, ?_⟩
      · have hsame : lineEnds (scan.bytes.reverse ++ [quote]) = lineEnds scan.bytes.reverse :=
          lineEnds_concat_of_not rfl
        rw [lineEnds_concat_of_not rfl, h.lines]
        simp [take, hsame]
      · simp [take]
      · simp [take, Place.isBefore]
    · rw [if_neg (by simpa using hquote)]
      exact h.comes_delimitOr (by simp [e])

/-- A byte before a record is skipped if a line ends at it, and is the first one of the record
    otherwise. -/
theorem enter_of_isBefore (hplace : scan.place.isBefore = true) :
    scan.enter b =
      if isLineEnd b then { scan with place := .recordStart } else scan.firstOfField b := by
  unfold enter
  cases e : scan.place with
  | recordStart => rfl
  | returnSeen =>
    dsimp only
    by_cases hfeed : b = lineFeed
    · subst hfeed
      rfl
    · rw [if_neg (by simpa using hfeed)]
      rfl
  | fieldStart | field | quoted | quoteSeen =>
    rw [e] at hplace
    cases hplace

/-! ## 5. A whole file -/

/-- **What has been read of a file**: a mark, some records, line ends, and the record at hand. -/
structure Reads (mark : List UInt8) (scan : Scan) (text gap body : List UInt8) : Prop where
  here : scan.here.byte = (text ++ gap ++ body).length
  layout : Layout mark text scan.finished.reverse
  offset : max scan.start.byte mark.length = text.length
  gap : ∀ b ∈ gap, isLineEnd b = true
  counts : scan.Counts body
  begins : if scan.place.isBefore then body = [] else BeginsRecord body

variable {mark text gap : List UInt8}

theorem reads_initial (mark : List UInt8) : Reads mark (initial mark.length) mark [] [] where
  here := by simp [initial]
  layout := .nil
  offset := Nat.zero_max _
  gap _ h := absurd h List.not_mem_nil
  counts := ⟨rfl, rfl, fun _ => rfl⟩
  begins := rfl

/-- What one byte makes of the record at hand, as part of the file. -/
theorem Reads.of_comes {scan' : Scan}
    (hhere : scan.here.byte = (text ++ gap ++ (body ++ [b])).length)
    (hlayout : Layout mark text scan.finished.reverse)
    (hoffset : max scan.start.byte mark.length = text.length)
    (hgap : ∀ b ∈ gap, isLineEnd b = true) (hbegins : BeginsRecord (body ++ [b]))
    (hcomes : scan.Comes body b scan') :
    ∃ text' gap' body', text' ++ gap' ++ body' = text ++ gap ++ (body ++ [b]) ∧
      Reads mark scan' text' gap' body' := by
  cases hcomes with
  | goesOn _ hhere' hstart hfinished hplace hcounts =>
    refine ⟨text, gap, body ++ [b], rfl, ?_, ?_, ?_, hgap, hcounts, ?_⟩
    · rw [hhere', hhere]
    · rwa [hfinished]
    · rwa [hstart]
    · simpa [hplace] using hbegins
  | ends place hplace hends =>
    refine ⟨text ++ gap ++ (body ++ [b]), [], [], by simp, ?_, ?_, ?_, ?_, ?_, ?_⟩
    · simpa [endRecord, endField] using hhere
    · have hrecord : Layout mark (text ++ gap ++ (body ++ [b]))
          (scan.finished.reverse ++ [scan.lastRecord]) :=
        .record text gap _ _ _ hlayout ⟨hoffset, hgap, hbegins⟩ hends
      simpa [endRecord, endField, lastRecord] using hrecord
    · show max scan.here.byte mark.length = _
      rw [hhere]
      simp only [List.length_append] at hoffset ⊢
      omega
    · exact fun _ h => absurd h List.not_mem_nil
    · refine ⟨rfl, ?_, fun _ => rfl⟩
      simp [endRecord]
    · simp [endRecord, hplace]

/-- What a byte comes to once it is counted. -/
theorem Reads.enter (hhere : scan.here.byte = (text ++ gap ++ (body ++ [b])).length)
    (hlayout : Layout mark text scan.finished.reverse)
    (hoffset : max scan.start.byte mark.length = text.length)
    (hgap : ∀ b ∈ gap, isLineEnd b = true) (hcounts : scan.Counts body)
    (hbegins : if scan.place.isBefore then body = [] else BeginsRecord body) :
    ∃ text' gap' body', text' ++ gap' ++ body' = text ++ gap ++ (body ++ [b]) ∧
      Reads mark (scan.enter b) text' gap' body' := by
  cases hplace : scan.place.isBefore with
  | true =>
    have hbody : body = [] := by simpa [hplace] using hbegins
    subst hbody
    rw [enter_of_isBefore hplace]
    cases hb : isLineEnd b with
    | true =>
      refine ⟨text, gap ++ [b], [], by simp, ⟨by simpa using hhere, hlayout, hoffset, ?_, ?_, rfl⟩⟩
      · intro c hc
        rcases List.mem_append.1 hc with hc | hc
        · exact hgap c hc
        · obtain rfl := List.mem_singleton.1 hc
          exact hb
      · exact ⟨hcounts.lines, rfl, fun _ => hcounts.fresh (.inr hplace)⟩
    | false =>
      have hbegun : BeginsRecord ([] ++ [b]) := ⟨b, [], rfl, hb⟩
      exact Reads.of_comes hhere hlayout hoffset hgap hbegun
        (hcounts.comes_firstOfField (.inr hplace))
  | false =>
    have hbegun : BeginsRecord (body ++ [b]) := by
      have hbody : BeginsRecord body := by simpa [hplace] using hbegins
      obtain ⟨first, rest, rfl, hfirst⟩ := hbody
      exact ⟨first, rest ++ [b], rfl, hfirst⟩
    exact Reads.of_comes hhere hlayout hoffset hgap hbegun (hcounts.comes_enter hplace)

/-- **Reading one byte more.** -/
theorem Reads.step (h : Reads mark scan text gap body) (b : UInt8) :
    ∃ text' gap' body', text' ++ gap' ++ body' = text ++ gap ++ body ++ [b] ∧
      Reads mark (scan.step b) text' gap' body' := by
  have hhere : scan.here.byte + 1 = (text ++ gap ++ (body ++ [b])).length := by
    have hread := h.here
    simp only [List.length_append, List.length_singleton] at hread ⊢
    omega
  rw [List.append_assoc (text ++ gap)]
  exact Reads.enter hhere h.layout h.offset h.gap
    ⟨h.counts.lines, h.counts.returned, h.counts.fresh⟩ h.begins

/-- **Reading all of some bytes.** -/
theorem Reads.foldl_step (h : Reads mark scan text gap body) (bytes : List UInt8) :
    ∃ text' gap' body', text' ++ gap' ++ body' = text ++ gap ++ body ++ bytes ∧
      Reads mark (bytes.foldl Scan.step scan) text' gap' body' := by
  induction bytes generalizing scan text gap body with
  | nil => exact ⟨text, gap, body, by simp, h⟩
  | cons b bytes ih =>
    obtain ⟨text₁, gap₁, body₁, hread, h₁⟩ := h.step b
    obtain ⟨text', gap', body', hall, h'⟩ := ih h₁
    refine ⟨text', gap', body', ?_, h'⟩
    rw [hall, hread, List.append_assoc, List.singleton_append]

end Scan

section Files

variable {mark text gap body input : List UInt8} {found : List Record} {record : Record} {i : Nat}

/-- **A record of some text stands after the records before it.** -/
theorem Layout.exists_of_getElem? (h : Layout mark text found) (hrecord : found[i]? = some record) :
    ∃ front gap body rest, Layout mark front (found.take i) ∧ Opens mark front gap body record ∧
      text = front ++ gap ++ body ++ rest := by
  induction h with
  | nil => cases hrecord
  | record text gap body found last h hopens hends ih =>
    by_cases hlast : i < found.length
    · rw [List.getElem?_append_left hlast] at hrecord
      obtain ⟨front, gap', body', rest, hfront, hopens', rfl⟩ := ih hrecord
      refine ⟨front, gap', body', rest ++ gap ++ body, ?_, hopens', ?_⟩
      · rwa [List.take_append_of_le_length (Nat.le_of_lt hlast)]
      · simp only [List.append_assoc]
    · have hi : i = found.length := by
        obtain ⟨hlt, _⟩ := List.getElem?_eq_some_iff.1 hrecord
        rw [List.length_append, List.length_singleton] at hlt
        omega
      subst hi
      rw [List.getElem?_concat_length] at hrecord
      obtain rfl := Option.some.inj hrecord
      refine ⟨text, gap, body, [], ?_, hopens, (List.append_nil _).symm⟩
      rwa [List.take_left]

/-- The record at hand when a file ends stands after the others as well. -/
theorem Scan.Reads.exists_of_getElem?_finish {scan : Scan} (h : scan.Reads mark text gap body)
    (hrecord : scan.finish[i]? = some record) :
    ∃ front gap' body' rest, Layout mark front (scan.finish.take i) ∧
      Opens mark front gap' body' record ∧
      text ++ gap ++ body = front ++ gap' ++ body' ++ rest := by
  have hfinish : scan.finish =
      if scan.place.isBefore then scan.finished.reverse
      else scan.finished.reverse ++ [scan.lastRecord] := by
    unfold finish
    cases scan.place <;> simp [Place.isBefore, endRecord, endField, lastRecord]
  have hfound {i : Nat} (hrecord : scan.finished.reverse[i]? = some record) :
      ∃ front gap' body' rest, Layout mark front (scan.finished.reverse.take i) ∧
        Opens mark front gap' body' record ∧
        text ++ gap ++ body = front ++ gap' ++ body' ++ rest := by
    obtain ⟨front, gap', body', rest, hfront, hopens, htext⟩ := h.layout.exists_of_getElem? hrecord
    refine ⟨front, gap', body', rest ++ gap ++ body, hfront, hopens, ?_⟩
    rw [htext]
    simp only [List.append_assoc]
  rw [hfinish] at hrecord ⊢
  cases hplace : scan.place.isBefore with
  | true =>
    rw [hplace] at hrecord
    exact hfound hrecord
  | false =>
    rw [hplace] at hrecord
    simp only [Bool.false_eq_true, if_false] at hrecord ⊢
    by_cases hlast : i < scan.finished.reverse.length
    · rw [List.getElem?_append_left hlast] at hrecord
      rw [List.take_append_of_le_length (Nat.le_of_lt hlast)]
      exact hfound hrecord
    · have hi : i = scan.finished.reverse.length := by
        obtain ⟨hlt, _⟩ := List.getElem?_eq_some_iff.1 hrecord
        rw [List.length_append, List.length_singleton] at hlt
        omega
      subst hi
      rw [List.getElem?_concat_length] at hrecord
      obtain rfl := Option.some.inj hrecord
      have hbegins : BeginsRecord body := by simpa [hplace] using h.begins
      refine ⟨text, gap, body, [], ?_, ⟨h.offset, h.gap, hbegins⟩, (List.append_nil _).symm⟩
      rw [List.take_left]
      exact h.layout

/-- **Every record of a file stands after the records before it.** -/
theorem exists_layout_records (input : List UInt8) :
    ∃ mark : List UInt8, mark.length = markLength input ∧ lineEnds mark = 0 ∧
      ∀ i record, (records input)[i]? = some record → ∃ text gap body rest,
        Layout mark text ((records input).take i) ∧ Opens mark text gap body record ∧
        input = text ++ gap ++ body ++ rest := by
  have hread (mark bytes : List UInt8) (i : Nat) (record : Record)
      (hrecord : (bytes.foldl Scan.step (Scan.initial mark.length)).finish[i]? = some record) :
      ∃ text gap body rest,
        Layout mark text ((bytes.foldl Scan.step (Scan.initial mark.length)).finish.take i) ∧
        Opens mark text gap body record ∧ mark ++ bytes = text ++ gap ++ body ++ rest := by
    obtain ⟨text, gap, body, hall, hreads⟩ := (Scan.reads_initial mark).foldl_step bytes
    obtain ⟨front, gap', body', rest, hfront, hopens, htext⟩ :=
      hreads.exists_of_getElem?_finish hrecord
    refine ⟨front, gap', body', rest, hfront, hopens, ?_⟩
    rw [← htext, hall]
    simp
  by_cases hmark : ∃ bytes, input = 0xEF :: 0xBB :: 0xBF :: bytes
  · obtain ⟨bytes, rfl⟩ := hmark
    exact ⟨[0xEF, 0xBB, 0xBF], rfl, rfl, hread [0xEF, 0xBB, 0xBF] bytes⟩
  · have hlength : markLength input = 0 := by
      unfold markLength
      split
      · exact absurd ⟨_, rfl⟩ hmark
      · rfl
    have hrecords : records input = (input.foldl Scan.step (Scan.initial 0)).finish := by
      unfold records
      split
      · exact absurd ⟨_, rfl⟩ hmark
      · rfl
    rw [hlength, hrecords]
    exact ⟨[], rfl, rfl, hread [] input⟩

/-! ## 6. Lines -/

/-- Where a record begins is after the text and the line ends before it. -/
theorem Opens.take_startOf {rest : List UInt8} (h : Opens mark text gap body record)
    (hmark : mark.length = markLength input) (hinput : input = text ++ gap ++ body ++ rest) :
    input.take (record.offset input) = text ∧ input.take (record.startOf input) = text ++ gap := by
  have hoffset : record.offset input = text.length := by
    unfold Record.offset
    rw [← hmark]
    exact h.offset
  have hgap : (input.drop text.length).takeWhile isLineEnd = gap := by
    obtain ⟨b, more, rfl, hb⟩ := h.begins
    have hdrop : input.drop text.length = gap ++ (b :: more ++ rest) := by
      rw [hinput, List.append_assoc, List.append_assoc, List.drop_left]
    rw [hdrop, List.takeWhile_append_of_pos h.gap, List.cons_append,
      List.takeWhile_cons_of_neg (by rw [hb]; exact Bool.false_ne_true), List.append_nil]
  constructor
  · rw [hoffset, hinput, List.append_assoc, List.append_assoc, List.take_left]
  · unfold Record.startOf
    rw [hoffset, hgap, ← List.length_append, hinput, List.append_assoc (text ++ gap),
      List.take_left]

theorem Opens.emptyLines_eq {rest : List UInt8} (h : Opens mark text gap body record)
    (hmark : mark.length = markLength input) (hinput : input = text ++ gap ++ body ++ rest) :
    lineEnds (text ++ gap) = lineEnds text + record.emptyLines input := by
  obtain ⟨htext, hstart⟩ := h.take_startOf hmark hinput
  have hle := lineEnds_le_append text gap
  unfold Record.emptyLines
  rw [htext, hstart]
  omega

/-- **The lines of some text** are those at whose ends its records end, those inside its records and
    the empty ones. -/
theorem Layout.lineEnds_eq {rest : List UInt8} (h : Layout mark text found)
    (hmark : mark.length = markLength input) (hnone : lineEnds mark = 0)
    (hinput : input = text ++ rest) :
    lineEnds text = found.length + (found.map Record.innerLines).sum +
      (found.map (Record.emptyLines input)).sum := by
  induction h generalizing rest with
  | nil => exact hnone
  | record text gap body found record h hopens hends ih =>
    have hsplit : input = text ++ (gap ++ body ++ rest) := by simp [hinput]
    have hbefore := ih hsplit
    have hempty := hopens.emptyLines_eq hmark hinput
    obtain ⟨b, more, rfl, hb⟩ := hopens.begins
    rw [lineEnds_append_cons _ hb, hends, hempty, hbefore]
    simp
    omega

/-- **The line on which a record begins.** The records before it make a line each, and there are
    further lines inside of these and empty ones before each of them and before the record. -/
theorem lineOf_getElem? (h : (records input)[i]? = some record) :
    record.lineOf input = i + 1 + (((records input).take i).map Record.innerLines).sum +
      (((records input).take (i + 1)).map (Record.emptyLines input)).sum := by
  obtain ⟨mark, hmark, hnone, hall⟩ := exists_layout_records input
  obtain ⟨text, gap, body, rest, hlayout, hopens, hinput⟩ := hall i record h
  obtain ⟨hlt, _⟩ := List.getElem?_eq_some_iff.1 h
  have hsplit : input = text ++ (gap ++ body ++ rest) := by simp [hinput]
  have hlines := hlayout.lineEnds_eq hmark hnone hsplit
  have hempty := hopens.emptyLines_eq hmark hinput
  have hcount : ((records input).take i).length = i := by
    rw [List.length_take]
    omega
  rw [hcount] at hlines
  unfold Record.lineOf
  rw [(hopens.take_startOf hmark hinput).2, List.take_add_one, h, hempty, hlines]
  simp
  omega

end Files

end Bedspace.Csv
