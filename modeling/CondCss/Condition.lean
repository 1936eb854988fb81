import CondCss.Conditional
import CondCss.Host

/-!
# Conditions on a host

A condition is asked of a host. A question that the host cannot answer counts as false. The value of
a conditional is that of its first clause whose condition holds, otherwise that of its `else`, and
without one it is empty.
-/

namespace CondCss

/-- A question that got no answer while a condition was evaluated. -/
structure Condition.Failure where
  /-- The condition, as it is written. -/
  condition : Text
  /-- The question. -/
  oracle : Oracle
  deriving DecidableEq, Repr

/-- What is said of a condition without an answer. -/
def Condition.Failure.message (f : Condition.Failure) : String :=
  String.ofList f.condition ++ " failed: " ++ f.oracle.message ++ "; treating condition as false"

/-- A word that names no kind of condition. -/
structure ConditionKind.Unknown where
  /-- The word. -/
  word : Text
  deriving DecidableEq, Repr

/-- What is said of a word that names no kind of condition. -/
def ConditionKind.Unknown.message (u : ConditionKind.Unknown) : String :=
  "Unknown condition type: " ++ Text.quotedString u.word

/-- The kind of condition that a word names. -/
def ConditionKind.ofName (word : Text) : Except ConditionKind.Unknown ConditionKind :=
  match ConditionKind.ofName? word with
  | some kind => .ok kind
  | none => .error ⟨word⟩

namespace Condition

/-- Literals that are true, in lower case. -/
def trueLiterals : List Text :=
  [['t', 'r', 'u', 'e'], ['1']]

/-- The value that no computed style has by itself. -/
def initialValue : Text :=
  ['i', 'n', 'i', 't', 'i', 'a', 'l']

/-- The property that a condition on styles asks about, and the value it asks for, if any. -/
def readStyle (expression : Text) : Text × Option Text :=
  match Scan.cut? (· == ':') expression with
  | none => (Text.trim expression, none)
  | some (property, value) =>
    let value := Text.trim value
    (Text.trim property, if value.isEmpty then none else some value)

/-- Whether a computed value is as asked: equal to a value, or there at all. -/
def styleHolds (expected : Option Text) (actual : Text) : Bool :=
  match expected with
  | some value => actual == value
  | none => !actual.isEmpty && actual != initialValue

/-- Asks a host whether a condition holds. -/
def ask (h : Host) (element : Option Text) (kind : ConditionKind) (expression : Text) :
    Except Failure Bool :=
  let described {α : Type} (answer : Except Oracle α) : Except Failure α :=
    answer.mapError (⟨kind.name ++ ['('] ++ expression ++ [')'], ·⟩)
  match kind with
  | .literal => .ok (trueLiterals.contains (Text.lower (Text.trim expression)))
  | .media => described (h.matchMedia (['('] ++ expression ++ [')']))
  | .supports => described (h.supports expression)
  | .style =>
    let (property, expected) := readStyle expression
    described ((h.computedStyle element property).map fun actual =>
      styleHolds expected (Text.trim actual))

/-- Whether an answer is a yes. -/
def isYes : Except Failure Bool → Bool
  | .ok answer => answer
  | .error _ => false

/-- Whether a condition holds. -/
def holds (h : Host) (element : Option Text) (c : Clause) : Bool :=
  isYes (ask h element c.kind c.expression)

/-- The outcome of choosing among clauses. -/
structure Choice where
  /-- The value of the first clause that holds. -/
  value : Option Text
  /-- The failures among the clauses looked at, in order. -/
  failures : List Failure
  deriving DecidableEq, Repr

/-- Looks at clauses in order, up to the first that holds. -/
def choose (h : Host) (element : Option Text) : List Clause → Choice
  | [] => ⟨none, []⟩
  | c :: rest =>
    match ask h element c.kind c.expression with
    | .ok true => ⟨some c.value, []⟩
    | .ok false => choose h element rest
    | .error failure =>
      let later := choose h element rest
      ⟨later.value, failure :: later.failures⟩

end Condition

/-- The value of a conditional on a host. -/
def Conditional.select (h : Host) (element : Option Text) (c : Conditional) : Text :=
  ((Condition.choose h element c.clauses).value.orElse fun _ => c.otherwise).getD []

end CondCss
