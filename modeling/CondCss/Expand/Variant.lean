import CondCss.Conditional
import CondCss.Occurrence
import CondCss.Text.Lines

/-!
# Variants of a declaration

A declaration whose value has conditional parts is written as several declarations, one for every
way to choose a clause or the `else` of each part. Those with chosen clauses stand in blocks that
apply when the conditions of these clauses hold. The order makes the cascade agree with the
conditional parts: of all variants that apply, the last one has the first true clause of each part.
-/

namespace CondCss
namespace Expand

/-- What is chosen for one conditional value: a clause, or `none` for the `else`. -/
abbrev Choice := Option Clause

/-- The choices for a conditional value, from the weakest on: the `else`, then the clauses from the
    last to the first. -/
def choices (c : Conditional) : List Choice :=
  (if c.hasElse then [none] else []) ++ c.clauses.reverse.map some

/-- How strong a choice is: the `else` counts nothing, and an earlier clause more than a later
    one. -/
def strength (c : Conditional) : Choice → Nat
  | none => 0
  | some clause => c.clauses.length - c.clauses.idxOf clause

/-- The value that a choice stands for. -/
def chosenValue (c : Conditional) : Choice → Text
  | none => c.otherwise.getD []
  | some clause => clause.value

/-- All ways to take one element of each list; the last list varies fastest. -/
def selections {α : Type} : List (List α) → List (List α)
  | [] => [[]]
  | options :: rest => options.flatMap fun a => (selections rest).map (a :: ·)

/-- Inserts an element in front of the first one that it does not come after. -/
def insertSorted {α : Type} (le : α → α → Bool) (a : α) : List α → List α
  | [] => [a]
  | b :: rest => if le a b then a :: b :: rest else b :: insertSorted le a rest

/-- Sorts a list; elements that count as equal keep their order. -/
def sortStable {α : Type} (le : α → α → Bool) (l : List α) : List α :=
  l.foldr (insertSorted le) []

/-- The strengths of a selection of choices. -/
def strengths (conditionals : List Conditional) (selection : List Choice) : List Nat :=
  List.zipWith strength conditionals selection

/-- What selections are ordered by: the sum of the strengths, then the strengths from the left. -/
def rank (conditionals : List Conditional) (selection : List Choice) : List Nat :=
  let s := strengths conditionals selection
  s.foldr (· + ·) 0 :: s

/-- Whether a list of numbers comes before another one or equals it; the first difference
    decides. -/
def comesFirst : List Nat → List Nat → Bool
  | [], _ => true
  | _ :: _, [] => false
  | m :: s, n :: t => m < n || (m == n && comesFirst s t)

/-- Whether a selection is at most as strong as another one. Weaker selections are written first. -/
def weakerOrEqual (conditionals : List Conditional) (a b : List Choice) : Bool :=
  comesFirst (rank conditionals a) (rank conditionals b)

/-- All selections of choices, from the weakest to the strongest. -/
def orderedSelections (conditionals : List Conditional) : List (List Choice) :=
  sortStable (weakerOrEqual conditionals) (selections (conditionals.map choices))

/-- How many selections of choices there are. -/
def selectionCount (conditionals : List Conditional) : Nat :=
  (conditionals.map fun c => (choices c).length).foldl (· * ·) 1

/-- One way to write a declaration: the value, and the conditions under which it is meant. -/
structure Variant where
  /-- The chosen clauses. -/
  conditions : List Clause
  /-- The value with every conditional part replaced. -/
  value : Text
  deriving DecidableEq, Repr

/-- The variant of `value` for a selection of choices. -/
def variant (value : Text) (occurrences : List Occurrence) (conditionals : List Conditional)
    (selection : List Choice) : Variant where
  conditions := selection.filterMap id
  value := Occurrence.replaceAll value occurrences (List.zipWith chosenValue conditionals selection)

/-- Prints a rule with one declaration. -/
def declarationRule (selector property value : Text) : Text :=
  selector ++ [' ', '{', ' '] ++ property ++ [':', ' '] ++ value ++ [';', ' ', '}']

/-- Puts a text into a block, indented by two spaces. -/
def wrap (header inner : Text) : Text :=
  header ++ [' ', '{', '\n'] ++ Text.indent inner ++ ['\n', '}']

/-- The header of a block for the conjunction of conditions; repeated ones are written once. -/
def header (keyword : Text) (expressions : List Text) : Text :=
  keyword ++ Text.joinWith [' ', 'a', 'n', 'd', ' ']
    (expressions.eraseDups.map fun e => ['('] ++ e ++ [')'])

/-- The expressions of the clauses of one kind. -/
def expressionsOf (kind : ConditionKind) (clauses : List Clause) : List Text :=
  (clauses.filter (·.kind == kind)).map (·.expression)

/-- Puts a rule into a block for the conditions of one kind, if there are any. -/
def wrapIn (keyword : Text) (expressions : List Text) (inner : Text) : Text :=
  if expressions.isEmpty then inner else wrap (header keyword expressions) inner

/-- Prints a variant of a declaration. Blocks for media queries are outside those for features. -/
def Variant.render (selector property : Text) (v : Variant) : Text :=
  wrapIn ['@', 'm', 'e', 'd', 'i', 'a', ' '] (expressionsOf .media v.conditions)
    (wrapIn ['@', 's', 'u', 'p', 'p', 'o', 'r', 't', 's', ' ']
      (expressionsOf .supports v.conditions)
      (declarationRule selector property v.value))

end Expand
end CondCss
