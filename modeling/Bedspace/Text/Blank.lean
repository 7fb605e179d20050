/-!
# Blank characters

* `isBlank` is the Unicode property White_Space, all 25 characters of it;
* `trim` takes the blank characters off both ends of a text;
* `isAsciiBlank` is the smaller set used on raw bytes: tab, line feed, form feed, carriage return
  and space, without the vertical tab.
-/

namespace Bedspace.Text

/-- The characters with the property White_Space. -/
def isBlank (c : Char) : Bool :=
  let n := c.toNat
  (0x09 ≤ n && n ≤ 0x0D) || n == 0x20 || n == 0x85 || n == 0xA0 || n == 0x1680 ||
    (0x2000 ≤ n && n ≤ 0x200A) || n == 0x2028 || n == 0x2029 || n == 0x202F || n == 0x205F ||
    n == 0x3000

/-- The characters without the blank ones in front. -/
def trimStart (cs : List Char) : List Char :=
  cs.dropWhile isBlank

/-- The characters without the blank ones at both ends. -/
def trimChars (cs : List Char) : List Char :=
  (trimStart (trimStart cs).reverse).reverse

/-- A text without the blank characters at both ends. -/
def trim (s : String) : String :=
  String.ofList (trimChars s.toList)

/-- What stands in front of a text without blanks in front has none either. -/
theorem trimStart_of_front {cs ds : List Char} (h : ds <+: trimStart cs) : trimStart ds = ds := by
  cases ds with
  | nil => rfl
  | cons d ds =>
    obtain ⟨rest, h⟩ := h
    have hhead := List.head?_dropWhile_not isBlank cs
    rw [show cs.dropWhile isBlank = d :: ds ++ rest from h.symm] at hhead
    exact List.dropWhile_cons_of_neg (by simpa using hhead)

theorem trimChars_trimChars (cs : List Char) : trimChars (trimChars cs) = trimChars cs := by
  have hsuffix : trimStart (trimStart cs).reverse <:+ (trimStart cs).reverse :=
    List.dropWhile_suffix isBlank
  have hstart : trimStart (trimChars cs) = trimChars cs := by
    refine @trimStart_of_front cs _ ?_
    unfold trimChars
    rw [← List.reverse_suffix, List.reverse_reverse]
    exact hsuffix
  have hstop : trimStart (trimChars cs).reverse = (trimChars cs).reverse := by
    unfold trimChars
    rw [List.reverse_reverse]
    exact trimStart_of_front (List.prefix_refl _)
  rw [trimChars, hstart, hstop, List.reverse_reverse]

/-- **Trimming a text once is enough.** -/
theorem trim_trim (s : String) : trim (trim s) = trim s := by
  unfold trim
  rw [String.toList_ofList, trimChars_trimChars]

/-- Whether nothing is left of a text once it is trimmed. -/
def isEmptyTrimmed (s : String) : Bool :=
  s.toList.all isBlank

/-- Tab, line feed, form feed, carriage return and space, as bytes. -/
def isAsciiBlank (b : UInt8) : Bool :=
  b == 0x09 || b == 0x0A || b == 0x0C || b == 0x0D || b == 0x20

/-- Bytes without the ASCII blanks at both ends. -/
def trimBytes (bytes : List UInt8) : List UInt8 :=
  ((bytes.dropWhile isAsciiBlank).reverse.dropWhile isAsciiBlank).reverse

end Bedspace.Text
