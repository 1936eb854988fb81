import CondCss.Text.Quoted

/-!
# ASCII texts

Host names and the headers of a message are sent in ASCII. A text that has other characters is
refused with a complaint that tells where they are.
-/

namespace CondCss
namespace Text

/-- Whether a character is an ASCII one. -/
def isAsciiChar (c : Char) : Bool :=
  c.toNat < 0x80

/-- Whether a text has ASCII characters only. -/
def isAscii (s : Text) : Bool :=
  s.all isAsciiChar

/-- What is said of a text that is not in ASCII: where its first other characters are, and which
    character it is if there is just one. -/
def asciiComplaint (s : Text) : String :=
  let start := (s.takeWhile isAsciiChar).length
  let others := (s.drop start).takeWhile (!isAsciiChar ·)
  "'ascii' codec can't encode " ++
    (match others with
      | [c] => "character '" ++ String.ofList (escapeCode c.toNat) ++ s!"' in position {start}"
      | _ => s!"characters in position {start}-{start + others.length - 1}") ++
    ": ordinal not in range(128)"

end Text
end CondCss
