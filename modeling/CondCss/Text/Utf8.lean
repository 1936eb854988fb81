import CondCss.Text.Basic

/-!
# Lenient decoding

Bytes are read as UTF-8. Where they are not well formed, the longest stretch that could have begun a
character is read as the replacement character.
-/

namespace CondCss
namespace Text

/-- The replacement character. -/
def replacementChar : Char := Char.ofNat 0xFFFD

/-- What the first byte of a character tells: its part of the code point, how many bytes follow,
    and the bounds of the next one. -/
structure LeadByte where
  /-- The high bits of the code point. -/
  bits : Nat
  /-- How many bytes follow. -/
  more : Nat
  /-- The least next byte. -/
  low : Nat := 0x80
  /-- The greatest next byte. -/
  high : Nat := 0xBF
  deriving DecidableEq, Repr

/-- Reads the first byte of a character. -/
def leadByte? (b : Nat) : Option LeadByte :=
  if b < 0x80 then some ⟨b, 0, 0x80, 0xBF⟩
  else if 0xC2 ≤ b && b ≤ 0xDF then some ⟨b - 0xC0, 1, 0x80, 0xBF⟩
  else if 0xE0 ≤ b && b ≤ 0xEF then
    some ⟨b - 0xE0, 2, if b == 0xE0 then 0xA0 else 0x80, if b == 0xED then 0x9F else 0xBF⟩
  else if 0xF0 ≤ b && b ≤ 0xF4 then
    some ⟨b - 0xF0, 3, if b == 0xF0 then 0x90 else 0x80, if b == 0xF4 then 0x8F else 0xBF⟩
  else none

/-- Decodes bytes, where `state` is the character that has been begun. -/
def decodeFrom (state : Option LeadByte) : List UInt8 → Text
  | [] => if state.isSome then [replacementChar] else []
  | byte :: rest =>
    let b := byte.toNat
    let begin (_ : Unit) : Option LeadByte × Text :=
      match leadByte? b with
      | none => (none, [replacementChar])
      | some lead => if lead.more == 0 then (none, [Char.ofNat lead.bits]) else (some lead, [])
    let (state, out) : Option LeadByte × Text :=
      match state with
      | none => begin ()
      | some lead =>
        if lead.low ≤ b && b ≤ lead.high then
          let bits := lead.bits * 64 + (b - 0x80)
          if lead.more == 1 then (none, [Char.ofNat bits])
          else (some { bits, more := lead.more - 1 }, [])
        else
          let (state, out) := begin ()
          (state, replacementChar :: out)
    out ++ decodeFrom state rest

/-- Decodes bytes. -/
def decodeUtf8 (bytes : List UInt8) : Text :=
  decodeFrom none bytes

/-- Encodes a text. -/
def encodeUtf8 (s : Text) : List UInt8 :=
  s.flatMap String.utf8EncodeChar

end Text
end CondCss
