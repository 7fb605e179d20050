import Bedspace.Text.Alphanumeric
import Bedspace.Text.LowerCase.Table

/-!
# Lower case

A text is put into lower case character by character, with two rules beside the simple mappings:

* the capital I with a dot becomes an i and a combining dot;
* a capital sigma becomes a final sigma at the end of a word, that is, after a cased letter and
  not before one, where marks and the like in between do not count.

Codes and service names fold the case of the letters `a` to `z` only (`asciiLower`, `asciiUpper`);
every other character, an accented letter too, stays as it is.
-/

namespace Bedspace.Text

/-! ## 1. ASCII letters -/

/-- The text with `A` to `Z` in lower case. -/
def asciiLower (s : String) : String :=
  s.map Char.toLower

/-- The text with `a` to `z` in upper case. -/
def asciiUpper (s : String) : String :=
  s.map Char.toUpper

/-! ## 2. Letters of any script -/

/-- Whether a run holds a code point. -/
def LowerRun.holds (run : LowerRun) (n : Nat) : Bool :=
  run.first ≤ n && n ≤ run.last && (n - run.first) % run.step == 0

/-- The simple lower-case mapping of a character. -/
def lowerChar (c : Char) : Char :=
  match lowerRuns.find? fun run => run.holds c.toNat with
  | some run => Char.ofNat ((c.toNat : Int) + run.shift).toNat
  | none => c

/-- Whether the first character that case does not ignore is a cased letter. -/
def meetsCased (cs : List Char) : Bool :=
  match cs.dropWhile (inRanges caseIgnorableRanges) with
  | [] => false
  | c :: _ => inRanges casedRanges c

/-- The lower case of characters that stand after `before` (nearest first). -/
def lowerAfter (before : List Char) : List Char → List Char
  | [] => []
  | c :: cs =>
    let lowered :=
      if c = 'Σ' then
        if meetsCased before && !meetsCased cs then ['ς'] else ['σ']
      else if c = 'İ' then ['i', '\u0307']
      else [lowerChar c]
    lowered ++ lowerAfter (c :: before) cs

/-- A text in lower case. -/
def lowerCase (s : String) : String :=
  String.ofList (lowerAfter [] s.toList)

theorem lowerAfter_eq_nil_iff {before cs : List Char} : lowerAfter before cs = [] ↔ cs = [] := by
  cases cs with
  | nil => exact iff_of_true rfl rfl
  | cons c cs =>
    refine iff_of_false (fun h => ?_) (List.cons_ne_nil c cs)
    unfold lowerAfter at h
    have hlowered := (List.append_eq_nil_iff.1 h).1
    split at hlowered
    · split at hlowered
      · cases hlowered
      · cases hlowered
    · split at hlowered
      · cases hlowered
      · cases hlowered

/-- Only the empty text is empty in lower case. -/
theorem lowerCase_eq_empty_iff {s : String} : lowerCase s = "" ↔ s = "" := by
  unfold lowerCase
  rw [String.ofList_eq_empty_iff, lowerAfter_eq_nil_iff, String.toList_eq_nil_iff]

end Bedspace.Text
