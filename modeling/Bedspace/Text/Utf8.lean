/-!
# UTF-8

Bytes are read as characters one after the other; what begins no character is a fault, together
with as many of the following bytes as could still have belonged to one.

* `decode` reads bytes that are all in order and names the position of the first fault;
* `decodeLossy` puts the replacement character in the place of each fault;
* `bytes` are the bytes of a text.
-/

namespace Bedspace.Text.Utf8

/-- The bytes of a text. -/
def bytes (s : String) : List UInt8 := s.toUTF8.toList

/-- What stands at the front of bytes: a character or a fault, and how many more bytes belong to
    it after the first one. -/
structure Front where
  char : Option Char
  more : Nat

/-- Whether a byte is between two others. -/
def between (low high b : UInt8) : Bool := low ≤ b && b ≤ high

/-- Whether a byte carries on a character. -/
def isContinuation (b : UInt8) : Bool := between 0x80 0xBF b

/-- The bytes that may come second after a first byte of a character of three bytes. -/
def secondOfThree (lead b : UInt8) : Bool :=
  if lead == 0xE0 then between 0xA0 0xBF b
  else if lead == 0xED then between 0x80 0x9F b
  else isContinuation b

/-- The bytes that may come second after a first byte of a character of four bytes. -/
def secondOfFour (lead b : UInt8) : Bool :=
  if lead == 0xF0 then between 0x90 0xBF b
  else if lead == 0xF4 then between 0x80 0x8F b
  else isContinuation b

/-- The six bits of a byte that carries on a character. -/
def payload (b : UInt8) : Nat := b.toNat % 64

/-- The front of the bytes `lead :: rest`. -/
def front (lead : UInt8) (rest : List UInt8) : Front :=
  if lead < 0x80 then ⟨some (Char.ofNat lead.toNat), 0⟩
  else if between 0xC2 0xDF lead then
    match rest with
    | b :: _ =>
      if isContinuation b then ⟨some (Char.ofNat (lead.toNat % 32 * 64 + payload b)), 1⟩
      else ⟨none, 0⟩
    | [] => ⟨none, 0⟩
  else if between 0xE0 0xEF lead then
    match rest with
    | b :: c :: _ =>
      if !secondOfThree lead b then ⟨none, 0⟩
      else if isContinuation c then
        ⟨some (Char.ofNat ((lead.toNat % 16 * 64 + payload b) * 64 + payload c)), 2⟩
      else ⟨none, 1⟩
    | [b] => ⟨none, if secondOfThree lead b then 1 else 0⟩
    | [] => ⟨none, 0⟩
  else if between 0xF0 0xF4 lead then
    match rest with
    | b :: c :: d :: _ =>
      if !secondOfFour lead b then ⟨none, 0⟩
      else if !isContinuation c then ⟨none, 1⟩
      else if isContinuation d then
        ⟨some (Char.ofNat
          (((lead.toNat % 8 * 64 + payload b) * 64 + payload c) * 64 + payload d)), 3⟩
      else ⟨none, 2⟩
    | [b, c] =>
      ⟨none, if !secondOfFour lead b then 0 else if isContinuation c then 2 else 1⟩
    | [b] => ⟨none, if secondOfFour lead b then 1 else 0⟩
    | [] => ⟨none, 0⟩
  else ⟨none, 0⟩

/-- The characters of bytes; at a fault the number of bytes in order before it. -/
def decodeChars (position : Nat) (input : List UInt8) : Except Nat (List Char) :=
  match input with
  | [] => .ok []
  | lead :: rest =>
    let head := front lead rest
    match head.char with
    | none => .error position
    | some c => (decodeChars (position + head.more + 1) (rest.drop head.more)).map (c :: ·)
termination_by input.length
decreasing_by simp only [List.length_drop, List.length_cons]; omega

/-- The text of bytes; at a fault the number of bytes in order before it. -/
def decode (input : List UInt8) : Except Nat String :=
  (decodeChars 0 input).map String.ofList

/-- The characters of bytes, with a replacement character for each fault. -/
def decodeLossyChars (input : List UInt8) : List Char :=
  match input with
  | [] => []
  | lead :: rest =>
    let head := front lead rest
    head.char.getD '\ufffd' :: decodeLossyChars (rest.drop head.more)
termination_by input.length
decreasing_by simp only [List.length_drop, List.length_cons]; omega

/-- The text of bytes, with a replacement character for each fault. -/
def decodeLossy (input : List UInt8) : String := String.ofList (decodeLossyChars input)

end Bedspace.Text.Utf8
