/-!
Byte strings and the text they hold in UTF-8. Strict reading refuses what is not UTF-8; lossy
reading puts U+FFFD in place of each part that cannot belong to a character.
Main statement: `text?_ofText`, a text read back from its bytes is that text.
-/

namespace CalibratedSweep

abbrev Bytes := List UInt8

namespace Bytes

def ofText (s : String) : Bytes := s.toUTF8.data.toList

def text? (b : Bytes) : Option String := String.fromUTF8? ⟨b.toArray⟩

theorem text?_ofText (s : String) : text? (ofText s) = some s := by
  have h : (⟨s.toUTF8.data.toList.toArray⟩ : ByteArray) = s.toUTF8 := by
    simp
  unfold text? ofText
  rw [h]
  simp [String.fromUTF8?, String.fromUTF8, s.isValidUTF8]

def isContinuation (b : Nat) : Bool := decide (0x80 ≤ b ∧ b < 0xC0)

/--
For the first byte of a longer character: its data bits, the range of the byte after it, and how
many continuation bytes follow that one. The range excludes overlong forms, surrogates and what
lies past the last code point.
-/
def lead? (b : Nat) : Option (Nat × Nat × Nat × Nat) :=
  if 0xC2 ≤ b ∧ b ≤ 0xDF then some (b - 0xC0, 0x80, 0xBF, 0)
  else if b = 0xE0 then some (0, 0xA0, 0xBF, 1)
  else if b = 0xED then some (0xD, 0x80, 0x9F, 1)
  else if 0xE1 ≤ b ∧ b ≤ 0xEF then some (b - 0xE0, 0x80, 0xBF, 1)
  else if b = 0xF0 then some (0, 0x90, 0xBF, 2)
  else if 0xF1 ≤ b ∧ b ≤ 0xF3 then some (b - 0xF0, 0x80, 0xBF, 2)
  else if b = 0xF4 then some (4, 0x80, 0x8F, 2)
  else none

def replacement : Char := Char.ofNat 0xFFFD

/-- The character that `count` more continuation bytes complete, and how many bytes it uses. -/
def complete (value used : Nat) : Nat → Bytes → Char × Nat
  | 0, _ => (Char.ofNat value, used)
  | _ + 1, [] => (replacement, used)
  | count + 1, b :: rest =>
    if isContinuation b.toNat then complete (value * 64 + (b.toNat - 0x80)) (used + 1) count rest
    else (replacement, used)

def firstChar (b : UInt8) (rest : Bytes) : Char × Nat :=
  if b.toNat < 0x80 then (Char.ofNat b.toNat, 0)
  else
    match lead? b.toNat, rest with
    | none, _ => (replacement, 0)
    | some _, [] => (replacement, 0)
    | some (value, low, high, count), b2 :: rest2 =>
      if low ≤ b2.toNat ∧ b2.toNat ≤ high then
        complete (value * 64 + (b2.toNat - 0x80)) 1 count rest2
      else (replacement, 0)

/-- The characters of the bytes, with U+FFFD for each longest part that begins no character. -/
def lossyChars : Bytes → List Char
  | [] => []
  | b :: rest => (firstChar b rest).1 :: lossyChars (rest.drop (firstChar b rest).2)
termination_by b => b.length
decreasing_by rw [List.length_drop, List.length_cons]; omega

def lossyText (b : Bytes) : String := String.ofList (lossyChars b)

end Bytes

end CalibratedSweep
