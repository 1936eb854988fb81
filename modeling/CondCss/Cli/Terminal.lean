import CondCss.Text.Basic

/-!
# Terminal texts

A terminal takes some sequences of characters for commands, such as a change of colour. What the
program prints is freed from them, and its lines end in line feeds alone.
-/

namespace CondCss
namespace Cli
namespace Terminal

/-- The character that starts a command. -/
def escape : Char := '\x1b'

/-- Whether a character belongs to the parameters of a command. -/
def isParameter (c : Char) : Bool :=
  0x30 ≤ c.toNat && c.toNat ≤ 0x3F

/-- Whether a character may stand between the parameters of a command and its end. -/
def isIntermediate (c : Char) : Bool :=
  0x20 ≤ c.toNat && c.toNat ≤ 0x2F

/-- Whether a character ends a command. -/
def isFinal (c : Char) : Bool :=
  0x40 ≤ c.toNat && c.toNat ≤ 0x7E

/-- What follows a command after its first character: a bracket, parameters, intermediate characters
    and a final one. -/
def afterCommand? (s : Text) : Option Text :=
  match s with
  | '[' :: rest =>
    match (rest.dropWhile isParameter).dropWhile isIntermediate with
    | c :: after => if isFinal c then some after else none
    | [] => none
  | _ => none

theorem length_afterCommand?_lt {s after : Text} (h : afterCommand? s = some after) :
    after.length < s.length := by
  unfold afterCommand? at h
  split at h
  · next rest =>
    have shorter : ((rest.dropWhile isParameter).dropWhile isIntermediate).length ≤ rest.length :=
      ((List.dropWhile_suffix isIntermediate).trans (List.dropWhile_suffix isParameter)).length_le
    split at h
    · next c tail eq =>
      rw [eq] at shorter
      split at h
      · cases h
        simp only [List.length_cons] at shorter ⊢
        omega
      · cases h
    · cases h
  · cases h

/-- A text without the commands in it. -/
def plain : Text → Text
  | [] => []
  | c :: rest =>
    if c == escape then
      match h : afterCommand? rest with
      | some after =>
        have := length_afterCommand?_lt h
        plain after
      | none => c :: plain rest
    else c :: plain rest
termination_by s => s.length

/-- Drops every carriage return that stands before a line feed. -/
def lineFeeds : Text → Text
  | [] => []
  | '\r' :: '\n' :: rest => '\n' :: lineFeeds rest
  | c :: rest => c :: lineFeeds rest

end Terminal
end Cli
end CondCss
