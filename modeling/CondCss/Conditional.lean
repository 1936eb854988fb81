import CondCss.Scan
import CondCss.Text.Quoted

/-!
# Conditional values

The content of an `if(...)` is a list of clauses `condition: value` separated by semicolons, and
perhaps an `else: value`. A condition is `style(...)`, `media(...)` or `supports(...)`; where
literals are allowed, any other text is a condition of its own. Separators count at the top level
only.

`Conditional.parse` reads such a content and `Conditional.render` prints it.
-/

namespace CondCss

/-- What a condition asks about. -/
inductive ConditionKind where
  | style
  | media
  | supports
  | literal
  deriving DecidableEq, Repr

namespace ConditionKind

/-- The word for a kind. -/
def name : ConditionKind → Text
  | style => ['s', 't', 'y', 'l', 'e']
  | media => ['m', 'e', 'd', 'i', 'a']
  | supports => ['s', 'u', 'p', 'p', 'o', 'r', 't', 's']
  | literal => ['l', 'i', 't', 'e', 'r', 'a', 'l']

/-- Every kind. -/
def all : List ConditionKind := [style, media, supports, literal]

/-- The kind that a word names. -/
def ofName? (word : Text) : Option ConditionKind :=
  all.find? (·.name == word)

/-- Whether a condition of this kind can stand in the header of a block. -/
def isNative : ConditionKind → Bool
  | media | supports => true
  | style | literal => false

/-- The kinds that are written as a function, in the order in which they are looked for. -/
def functions : List ConditionKind := [style, media, supports]

end ConditionKind

/-- One `condition: value` of a conditional value. -/
structure Clause where
  /-- What the condition asks about. -/
  kind : ConditionKind
  /-- The text between the parentheses of the condition, or the whole of a literal one. -/
  expression : Text
  /-- The value when the condition holds. -/
  value : Text
  deriving DecidableEq, Repr

/-- A conditional value: clauses in order, and the value when none holds. -/
structure Conditional where
  /-- The clauses; the first whose condition holds decides. -/
  clauses : List Clause
  /-- The value of the `else`, if there is one; it may be empty. -/
  otherwise : Option Text
  deriving DecidableEq, Repr

/-- Whether a condition without a known keyword is an error or a literal. -/
inductive Conditional.Mode where
  | strict
  | literal
  deriving DecidableEq, Repr

/-- Why the content of an `if(...)` cannot be read. -/
inductive Conditional.Error where
  /-- A clause has no colon at the top level. -/
  | missingColon (clause : Text)
  /-- The condition has no known keyword. -/
  | unknownCondition (condition : Text)
  /-- The parenthesis of the condition is not closed. -/
  | unclosedCondition (condition : Text)
  /-- Text follows the parenthesis of the condition. -/
  | trailingText (condition : Text)
  /-- There is no clause besides an `else`. -/
  | noClause (content : Text)
  deriving DecidableEq, Repr

/-- What is said of an error. -/
def Conditional.Error.message : Conditional.Error → String
  | missingColon clause => "Missing ':' in if() clause " ++ Text.quotedString clause
  | unknownCondition condition => "Unknown condition type in " ++ Text.quotedString condition
  | unclosedCondition condition => "Unterminated condition in " ++ Text.quotedString condition
  | trailingText condition => "Unexpected text after condition in " ++ Text.quotedString condition
  | noClause content => "if() has no condition clause: " ++ Text.quotedString content

namespace Conditional

/-- Whether there is an `else`. -/
def hasElse (c : Conditional) : Bool :=
  c.otherwise.isSome

/-- Whether every condition can stand in the header of a block. -/
def isNative (c : Conditional) : Bool :=
  c.clauses.all (·.kind.isNative)

/-- Whether some condition depends on computed styles. -/
def needsStyles (c : Conditional) : Bool :=
  c.clauses.any (·.kind == .style)

/-- The media queries of all clauses, in order. -/
def mediaQueries (c : Conditional) : List Text :=
  (c.clauses.filter (·.kind == .media)).map (·.expression)

/-- One part of the content: the `else` or a clause. -/
inductive Part where
  | otherwise (value : Text)
  | clause (clause : Clause)
  deriving DecidableEq, Repr

/-- The word that starts the default part. -/
def elseWord : Text := ['e', 'l', 's', 'e']

/-- The value of an `else`, if the part is one. -/
def readElse? (part : Text) : Option Text :=
  match (Text.after? elseWord part).map Text.trimLeft with
  | some (':' :: value) => some (Text.trim value)
  | _ => none

/-- The kind of a condition that is written as a function, and the text after the opening
    parenthesis. -/
def readFunction? (condition : Text) : Option (ConditionKind × Text) :=
  ConditionKind.functions.findSome? fun kind =>
    match (Text.after? kind.name condition).map Text.trimLeft with
    | some ('(' :: rest) => some (kind, rest)
    | _ => none

/-- Reads a condition. -/
def readCondition (mode : Mode) (condition : Text) : Except Error (ConditionKind × Text) :=
  match readFunction? condition with
  | some (kind, rest) =>
    match Scan.cutParen? rest with
    | some (expression, []) => .ok (kind, Text.trim expression)
    | some (_, _ :: _) => .error (.trailingText condition)
    | none => .error (.unclosedCondition condition)
  | none =>
    match mode with
    | .literal => .ok (.literal, condition)
    | .strict => .error (.unknownCondition condition)

/-- Reads one part, which has no blanks at its ends and is not empty. -/
def readPart (mode : Mode) (part : Text) : Except Error Part :=
  match readElse? part with
  | some value => .ok (.otherwise value)
  | none =>
    match Scan.cut? (· == ':') part with
    | none => .error (.missingColon part)
    | some (condition, value) =>
      (readCondition mode (Text.trim condition)).map fun (kind, expression) =>
        .clause ⟨kind, expression, Text.trim value⟩

/-- The parts of a content, without blanks at their ends and without the empty ones. -/
def parts (content : Text) : List Text :=
  ((Scan.splitTopLevel (· == ';') content).map Text.trim).filter (!·.isEmpty)

/-- The clause that a part is. -/
def Part.clause? : Part → Option Clause
  | clause c => some c
  | otherwise _ => none

/-- The value of the `else` that a part is. -/
def Part.otherwise? : Part → Option Text
  | clause _ => none
  | otherwise value => some value

/-- Reads the content of an `if(...)`. The first part that cannot be read is the error; of several
    `else` parts the last one counts. -/
def parse (mode : Mode) (content : Text) : Except Error Conditional := do
  let parts ← (parts content).mapM (readPart mode)
  let clauses := parts.filterMap Part.clause?
  if clauses.isEmpty then
    throw (.noClause content)
  return ⟨clauses, (parts.filterMap Part.otherwise?).getLast?⟩

/-- Prints a clause. -/
def renderClause (c : Clause) : Text :=
  match c.kind with
  | .literal => c.expression ++ [':', ' '] ++ c.value
  | kind => kind.name ++ ['('] ++ c.expression ++ [')', ':', ' '] ++ c.value

/-- Prints a conditional value, as the content of an `if(...)`. -/
def render (c : Conditional) : Text :=
  Text.joinWith [';', ' '] (c.clauses.map renderClause ++
    c.otherwise.toList.map fun value => elseWord ++ [':', ' '] ++ value)

end Conditional
end CondCss
