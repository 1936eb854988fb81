import CondCss.Scan

/-!
# Style sheets

A style sheet is cut into items: a rule or block with its braces, a comment at the top, or a
statement that ends with a semicolon. An item of the form `selector { declarations }` without
further braces is a rule; every other item is kept as it is.

`Sheet.pieces` cuts a text without losing a character, and `Sheet.items` trims the pieces.
-/

namespace CondCss

/-- One `property: value` of a rule. -/
structure Declaration where
  /-- The property. -/
  property : Text
  /-- The value. -/
  value : Text
  deriving DecidableEq, Repr

/-- Prints a declaration. -/
def Declaration.render (d : Declaration) : Text :=
  d.property ++ [':', ' '] ++ d.value

/-- A rule without nested blocks. -/
structure Rule where
  /-- The selector. -/
  selector : Text
  /-- The declarations, in order. -/
  declarations : List Declaration
  /-- The text that the rule was read from. -/
  source : Text
  deriving DecidableEq, Repr

/-- One item of a style sheet. -/
inductive Item where
  | rule (rule : Rule)
  /-- A comment, a statement, a block with nested braces, or anything else that is no rule. -/
  | block (text : Text)
  deriving DecidableEq, Repr

/-- The rule that an item is. -/
def Item.rule? : Item → Option Rule
  | rule r => some r
  | block _ => none

namespace Sheet

/-- Whether a text starts with a comment, closed or not. -/
def startsComment (s : Text) : Bool :=
  ['/', '*'].isPrefixOf s

/-- Where the scan of a style sheet is. -/
inductive Region where
  /-- Outside every comment. -/
  | code
  /-- At the star that opens a comment. -/
  | opening
  /-- Inside a comment. -/
  | comment
  deriving DecidableEq, Repr

/-- The text of a style sheet in pieces, one for each item: a piece ends with the brace that closes
    its outermost block, with a semicolon outside all braces, before and after a comment outside all
    braces, and at the end of the text. Comments are not looked for in strings, and braces not in
    strings or comments. A closing brace too many closes nothing. -/
def piecesFrom (before : Option Char) (quote : Option Quote) (depth : Nat) :
    (region : Region) → Text → List Text
  | _, [] => [[]]
  | .comment, '*' :: '/' :: rest =>
    if depth == 0 then ['*', '/'] :: piecesFrom (some '/') none depth .code rest
    else Text.consHead '*' (Text.consHead '/' (piecesFrom (some '/') none depth .code rest))
  | .comment, c :: rest => Text.consHead c (piecesFrom (some c) none depth .comment rest)
  | .opening, c :: rest => Text.consHead c (piecesFrom (some c) none depth .comment rest)
  | .code, c :: rest =>
    if quote.isNone && startsComment (c :: rest) then
      let onward := Text.consHead c (piecesFrom (some c) none depth .opening rest)
      if depth == 0 then [] :: onward else onward
    else
      let quote := Quote.next before c quote
      if quote.isSome then Text.consHead c (piecesFrom (some c) quote depth .code rest)
      else if c == '{' then Text.consHead c (piecesFrom (some c) quote (depth + 1) .code rest)
      else if c == '}' then
        if depth == 1 then [c] :: piecesFrom (some c) quote 0 .code rest
        else Text.consHead c (piecesFrom (some c) quote (depth - 1) .code rest)
      else if c == ';' && depth == 0 then [c] :: piecesFrom (some c) quote depth .code rest
      else Text.consHead c (piecesFrom (some c) quote depth .code rest)

/-- The pieces of a whole style sheet. Together they are the text. -/
def pieces (s : Text) : List Text :=
  piecesFrom none none 0 .code s

/-- The items of a style sheet, without the blanks around them. -/
def items (s : Text) : List Text :=
  ((pieces s).map Text.trim).filter (!·.isEmpty)

/-- How many characters a comment has after its opening, with its end; none when it has no end. -/
def commentLength? : Text → Option Nat
  | [] => none
  | '*' :: '/' :: _ => some 2
  | _ :: rest => (commentLength? rest).map (· + 1)

/-- Removes the comments of a text, of which the first `skip` characters belong to an earlier
    one. -/
def withoutCommentsFrom (skip : Nat) : Text → Text
  | [] => []
  | c :: rest =>
    match skip with
    | skip + 1 => withoutCommentsFrom skip rest
    | 0 =>
      if startsComment (c :: rest) then
        match commentLength? (rest.drop 1) with
        | some length => withoutCommentsFrom (length + 1) rest
        | none => c :: rest
      else c :: withoutCommentsFrom 0 rest

/-- Removes every comment that has an end, wherever it stands. -/
def withoutComments (s : Text) : Text :=
  withoutCommentsFrom 0 s

/-- Reads one declaration; a text without a property or a value is none. -/
def readDeclaration? (s : Text) : Option Declaration :=
  match Scan.cut? (· == ':') s with
  | some (property, value) =>
    let d := Declaration.mk (Text.trim property) (Text.trim value)
    if d.property.isEmpty || d.value.isEmpty then none else some d
  | none => none

/-- The declarations of a rule's body, in order. -/
def readDeclarations (body : Text) : List Declaration :=
  (Scan.splitTopLevel (· == ';') (withoutComments body)).filterMap readDeclaration?

/-- The text between the first opening and the last closing brace, with the text before them. -/
def cutBraces? (s : Text) : Option (Text × Text) :=
  match Text.cutAt? '{' s with
  | some (selector, rest) =>
    (Text.cutAt? '}' rest.reverse).map fun (_, body) => (selector, body.reverse)
  | none => none

/-- Reads an item as a rule. An item without braces and one with nested braces are none. -/
def readRule? (s : Text) : Option Rule :=
  match cutBraces? s with
  | some (selector, body) =>
    if (withoutComments body).contains '{' then none
    else some ⟨Text.trim selector, readDeclarations body, s⟩
  | none => none

/-- Reads an item. -/
def readItem (s : Text) : Item :=
  match readRule? s with
  | some rule => .rule rule
  | none => .block s

/-- Reads a style sheet. -/
def read (s : Text) : List Item :=
  (items s).map readItem

end Sheet
end CondCss
