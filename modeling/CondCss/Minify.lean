import CondCss.Text.Basic

/-!
# Minifying

A minified style sheet has one space for every run of blanks, and none beside a brace or semicolon
or at its ends.
-/

namespace CondCss
namespace Minify

/-- The characters that need no blank beside them. -/
def isPunctuation (c : Char) : Bool :=
  c == '{' || c == '}' || c == ';'

/-- Drops the blanks on both sides of every punctuation character. -/
def tighten : Text → Text
  | [] => []
  | c :: rest =>
    let tail := tighten rest
    if isPunctuation c then c :: Text.trimLeft tail
    else if Text.isBlank c && tail.head?.any isPunctuation then tail
    else c :: tail

end Minify

/-- The minified form of a style sheet. -/
def minify (s : Text) : Text :=
  Text.trim (Minify.tighten (Text.collapse s))

end CondCss
