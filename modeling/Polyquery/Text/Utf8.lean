/-!
# UTF-8

* `utf8Bytes` - the bytes of a text;
* `utf8Text` - the text of any bytes: each longest cut-off start of a sequence, and each byte that
  starts none, becomes the replacement character.
-/

namespace Polyquery.Text

/-- The bytes of a text. -/
def utf8Bytes (cs : List Char) : List UInt8 := cs.flatMap String.utf8EncodeChar

/-- An unfinished sequence: its value so far, the number of bytes that are missing, and the range
of the next one. -/
structure Utf8Start where
  value : Nat
  missing : Nat
  low : Nat
  high : Nat

/-- The sequence a byte starts, if it takes more than one byte.  The ranges leave out overlong
forms, surrogates and values that are too large. -/
def Utf8Start.ofByte? (b : Nat) : Option Utf8Start :=
  if 0xC2 ≤ b ∧ b ≤ 0xDF then some ⟨b - 0xC0, 1, 0x80, 0xBF⟩
  else if b = 0xE0 then some ⟨0, 2, 0xA0, 0xBF⟩
  else if b = 0xED then some ⟨13, 2, 0x80, 0x9F⟩
  else if 0xE1 ≤ b ∧ b ≤ 0xEF then some ⟨b - 0xE0, 2, 0x80, 0xBF⟩
  else if b = 0xF0 then some ⟨0, 3, 0x90, 0xBF⟩
  else if 0xF1 ≤ b ∧ b ≤ 0xF3 then some ⟨b - 0xF0, 3, 0x80, 0xBF⟩
  else if b = 0xF4 then some ⟨4, 3, 0x80, 0x8F⟩
  else none

/-- The character for bytes that form none. -/
def replacement : Char := '\ufffd'

/-- What a byte gives outside of any sequence. -/
def freshByte (b : Nat) : List Char × Option Utf8Start :=
  if b < 0x80 then ([Char.ofNat b], none)
  else
    match Utf8Start.ofByte? b with
    | some start => ([], some start)
    | none => ([replacement], none)

/-- What a byte gives after an unfinished sequence. -/
def nextByte (start : Option Utf8Start) (b : Nat) : List Char × Option Utf8Start :=
  match start with
  | none => freshByte b
  | some s =>
    if s.low ≤ b ∧ b ≤ s.high then
      let value := s.value * 64 + b % 64
      if s.missing ≤ 1 then ([Char.ofNat value], none)
      else ([], some ⟨value, s.missing - 1, 0x80, 0xBF⟩)
    else
      let (cs, start) := freshByte b
      (replacement :: cs, start)

/-- The text of bytes after an unfinished sequence. -/
def utf8TextFrom (start : Option Utf8Start) : List UInt8 → List Char
  | [] => if start.isSome then [replacement] else []
  | b :: rest =>
    let (cs, start) := nextByte start b.toNat
    cs ++ utf8TextFrom start rest

/-- The text of bytes. -/
def utf8Text (bytes : List UInt8) : List Char := utf8TextFrom none bytes

end Polyquery.Text
