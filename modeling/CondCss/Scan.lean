import CondCss.Text.Basic

/-!
# Quote- and parenthesis-aware scanning

A character of a value is at the top level when it stands outside every quoted string and at
parenthesis depth zero, counted from the start of the scan. A quote after a backslash neither opens
nor closes a string, so every scan also knows the character before the one it reads.

`cutTopLevel?` cuts at the first separator at the top level, `splitTopLevel` at all of them, and
`cutParen?` at the parenthesis that closes one already open.
-/

namespace CondCss

/-- The two kinds of quotes around a string. -/
inductive Quote where
  | single
  | double
  deriving DecidableEq, Repr

namespace Quote

/-- The quote that a character is, if it is one. -/
def ofChar? (c : Char) : Option Quote :=
  if c == '\'' then some single else if c == '"' then some double else none

/-- The character of a quote. -/
def toChar : Quote → Char
  | single => '\''
  | double => '"'

/-- The open string after reading `c`, where `before` is the character in front of `c` and `quote`
    the string open until then. -/
def next (before : Option Char) (c : Char) (quote : Option Quote) : Option Quote :=
  match ofChar? c with
  | none => quote
  | some mark =>
    if before == some '\\' then quote
    else match quote with
      | none => some mark
      | some opened => if mark = opened then none else quote

/-- The open string after reading the character at position `i` of a text; past the end nothing
    changes. -/
def nextAt (s : Text) (i : Nat) (quote : Option Quote) : Option Quote :=
  match s[i]? with
  | some c => next (Text.charBefore? s i) c quote
  | none => quote

end Quote

namespace Scan

/-- The text before the first separator at the top level, and the text after it. Parentheses are
    never separators. -/
def cutTopLevel? (isSep : Char → Bool) (before : Option Char) (quote : Option Quote) (depth : Int) :
    Text → Option (Text × Text)
  | [] => none
  | c :: rest =>
    let quote := Quote.next before c quote
    let onward (depth : Int) :=
      (cutTopLevel? isSep (some c) quote depth rest).map fun (head, tail) => (c :: head, tail)
    if quote.isSome then onward depth
    else if c == '(' then onward (depth + 1)
    else if c == ')' then onward (depth - 1)
    else if isSep c && depth == 0 then some ([], rest)
    else onward depth

/-- The text before the first separator at the top level of a whole text, and the text after it. -/
def cut? (isSep : Char → Bool) (s : Text) : Option (Text × Text) :=
  cutTopLevel? isSep none none 0 s

/-- The position of the first separator at the top level, scanning from `start`. -/
def findTopLevel? (isSep : Char → Bool) (s : Text) (start : Nat) : Option Nat :=
  (cutTopLevel? isSep (Text.charBefore? s start) none 0 (s.drop start)).map fun (head, _) =>
    start + head.length

/-- Cuts at every separator at the top level. -/
def splitTopLevelFrom (isSep : Char → Bool) (before : Option Char) (quote : Option Quote)
    (depth : Int) : Text → List Text
  | [] => [[]]
  | c :: rest =>
    let quote := Quote.next before c quote
    let onward (depth : Int) :=
      Text.consHead c (splitTopLevelFrom isSep (some c) quote depth rest)
    if quote.isSome then onward depth
    else if c == '(' then onward (depth + 1)
    else if c == ')' then onward (depth - 1)
    else if isSep c && depth == 0 then [] :: splitTopLevelFrom isSep (some c) none 0 rest
    else onward depth

/-- The pieces of a text between its separators at the top level, as they stand. -/
def splitTopLevel (isSep : Char → Bool) (s : Text) : List Text :=
  splitTopLevelFrom isSep none none 0 s

/-- The text before the parenthesis that closes the one already open, and the text after it. -/
def cutParenFrom? (before : Option Char) (quote : Option Quote) (depth : Nat) :
    Text → Option (Text × Text)
  | [] => none
  | c :: rest =>
    let quote := Quote.next before c quote
    let onward (depth : Nat) :=
      (cutParenFrom? (some c) quote depth rest).map fun (head, tail) => (c :: head, tail)
    if quote.isSome then onward depth
    else if c == '(' then onward (depth + 1)
    else if c == ')' then
      match depth with
      | 0 => some ([], rest)
      | depth + 1 => onward depth
    else onward depth

/-- The cut loses nothing but the closing parenthesis. -/
theorem length_cutParenFrom? {before : Option Char} {quote : Option Quote} {depth : Nat}
    {s head tail : Text} (h : cutParenFrom? before quote depth s = some (head, tail)) :
    head.length + tail.length + 1 = s.length := by
  induction s generalizing before quote depth head with
  | nil => simp [cutParenFrom?] at h
  | cons c rest ih =>
    have onward {quote : Option Quote} {depth : Nat}
        (h : (cutParenFrom? (some c) quote depth rest).map
          (fun (head, tail) => (c :: head, tail)) = some (head, tail)) :
        head.length + tail.length + 1 = (c :: rest).length := by
      obtain ⟨⟨head', tail'⟩, hcut, heq⟩ := Option.map_eq_some_iff.1 h
      obtain ⟨rfl, rfl⟩ : c :: head' = head ∧ tail' = tail := by simpa using heq
      have := ih hcut
      simp only [List.length_cons]
      omega
    simp only [cutParenFrom?] at h
    split at h
    · exact onward h
    · split at h
      · exact onward h
      · split at h
        · split at h
          · obtain ⟨rfl, rfl⟩ : [] = head ∧ rest = tail := by simpa using h
            simp
          · exact onward h
        · exact onward h

/-- The content of a parenthesis whose opening character has just been read, and the text after its
    close. -/
def cutParen? (s : Text) : Option (Text × Text) :=
  cutParenFrom? (some '(') none 0 s

/-- A parenthesis that is never closed, with the position just after it. -/
structure Unclosed where
  /-- Position of the first character inside the parenthesis. -/
  start : Nat
  deriving DecidableEq, Repr

/-- What is said of an unclosed parenthesis. -/
def Unclosed.message (u : Unclosed) : String :=
  s!"No matching ')' for parenthesis opened before offset {u.start}"

/-- The position of the parenthesis that closes the one opened just before `start`. -/
def closingParen (s : Text) (start : Nat) : Except Unclosed Nat :=
  match cutParenFrom? (Text.charBefore? s start) none 0 (s.drop start) with
  | some (inside, _) => .ok (start + inside.length)
  | none => .error ⟨start⟩

end Scan
end CondCss
