/-!
# Code points

Characters are numbered by code points. Classes of characters that only a table can describe are
kept as lists of closed ranges of code points, in increasing order. A class tests ASCII by a direct
rule first, where there is one, and looks a character up only beyond it.
-/

namespace CondCss
namespace Text

/-- The number of a character. Some numbers have no character. -/
abbrev CodePoint := Nat

/-- Whether `n` lies in one of the closed ranges. -/
def inRanges (ranges : List (Nat × Nat)) (n : CodePoint) : Bool :=
  ranges.any fun r => r.1 ≤ n && n ≤ r.2

end Text
end CondCss
