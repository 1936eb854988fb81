import CondCss.Scan
import CondCss.Text.LowerCase

/-!
# Media queries

A query is looked up in a normal form: single spaces, one space after a colon and none before it,
and no parentheses around the whole. A query in normal form is a list of alternatives, separated by
commas or the word `or`; an alternative is a list of conjuncts, separated by the word `and`.
-/

namespace CondCss
namespace Media

/-- Puts every colon next to the word before it, with one space after it. -/
def spaceColons : Text → Text
  | [] => []
  | c :: rest =>
    let tail := spaceColons rest
    if c == ':' then ':' :: ' ' :: Text.trimLeft tail
    else if Text.isBlank c && tail.head? == some ':' then tail
    else c :: tail

/-- The text inside the parentheses that enclose a whole text. -/
def unwrap? : Text → Option Text
  | '(' :: rest =>
    match Scan.cutParen? rest with
    | some (inside, []) => some inside
    | _ => none
  | _ => none

theorem length_unwrap?_lt {s inside : Text} (h : unwrap? s = some inside) :
    inside.length < s.length := by
  unfold unwrap? at h
  split at h
  · rename_i rest
    split at h
    · rename_i inside' hcut
      obtain rfl : inside' = inside := by simpa using h
      have := Scan.length_cutParenFrom? hcut
      simp only [List.length_cons, List.length_nil] at this ⊢
      omega
    · simp at h
  · simp at h

/-- Takes off the parentheses around a whole text, as often as there are any. -/
def peel (s : Text) : Text :=
  match h : unwrap? s with
  | some inside =>
    have : (Text.trim inside).length < s.length :=
      Nat.lt_of_le_of_lt (Text.length_trim_le inside) (length_unwrap?_lt h)
    peel (Text.trim inside)
  | none => s
termination_by s.length

/-- The normal form of a query. -/
def normalize (query : Text) : Text :=
  peel (spaceColons (Text.trim (Text.collapse query)))

/-- Splits at a word between spaces outside parentheses. The word is looked for in the lower-case
    text, `low`, at the same position; the first `skip` characters belong to a word found before. -/
def splitWordFrom (token : Text) (depth : Int) (skip : Nat) : (s low : Text) → List Text
  | [], _ => [[]]
  | c :: rest, low =>
    match skip with
    | skip + 1 => splitWordFrom token depth skip rest (low.drop 1)
    | 0 =>
      if c == '(' then Text.consHead c (splitWordFrom token (depth + 1) 0 rest (low.drop 1))
      else if c == ')' then Text.consHead c (splitWordFrom token (depth - 1) 0 rest (low.drop 1))
      else if depth == 0 && token.isPrefixOf low then
        [] :: splitWordFrom token depth (token.length - 1) rest (low.drop 1)
      else Text.consHead c (splitWordFrom token depth 0 rest (low.drop 1))

/-- Splits at a word between spaces outside parentheses, in capitals or not. Positions of the word
    are those in the lower-case text, which differ where that is longer. -/
def splitWord (word s : Text) : List Text :=
  splitWordFrom ([' '] ++ word ++ [' ']) 0 0 s (Text.lower s)

/-- The alternatives of a query in normal form. -/
def alternatives (s : Text) : List Text :=
  (Text.splitOnChar ',' s).flatMap (splitWord ['o', 'r'])

/-- The conjuncts of an alternative. -/
def conjuncts (s : Text) : List Text :=
  splitWord ['a', 'n', 'd'] s

/-- What a query negates, if it starts with the word `not`. -/
def negated? (s : Text) : Option Text :=
  if ['n', 'o', 't', ' '].isPrefixOf (Text.lower s) then some (s.drop 4) else none

/-- How a query is put together. -/
inductive Shape where
  | anyOf (parts : List Text)
  | allOf (parts : List Text)
  | negation (part : Text)
  | feature (text : Text)
  deriving DecidableEq, Repr

/-- The outermost part of the structure of a query in normal form. -/
def shape (s : Text) : Shape :=
  if 1 < (alternatives s).length then .anyOf (alternatives s)
  else if 1 < (conjuncts s).length then .allOf (conjuncts s)
  else match negated? s with
    | some part => .negation part
    | none => .feature s

end Media
end CondCss
