import CondCss.Assoc
import CondCss.Text.Basic

/-!
# Nodes

The nodes of a document that matter for style sheets: inline styles and links. Each has a data set,
in which a session leaves its marks. Nodes live in a table and are known by their place in it.
-/

namespace CondCss

/-- A link to another resource. -/
structure Link where
  /-- Where it leads. -/
  href : Text
  /-- What it is for. -/
  rel : Text
  /-- Whether the linked style sheet is switched off. -/
  disabled : Bool
  deriving DecidableEq, Repr

/-- The relation of a link to a style sheet. -/
def Link.sheetRel : Text := "stylesheet".toList

/-- Whether a link leads to a style sheet. -/
def Link.isSheet (l : Link) : Bool :=
  l.rel == sheetRel

/-- What a node is. -/
inductive NodeBody where
  | style (text : Text)
  | link (link : Link)
  deriving DecidableEq, Repr

/-- A node. -/
structure Node where
  /-- What it is. -/
  body : NodeBody
  /-- Its data set. -/
  dataset : List (Text × Text) := []
  deriving DecidableEq, Repr

namespace Node

/-- The mark of a node that has been processed. -/
def processedKey : Text := "css-if-polyfill-processed".toList

/-- The mark of a link that is being loaded. -/
def pendingKey : Text := "css-if-polyfill-pending".toList

/-- The entry that tells where the text of a style was loaded from. -/
def loadedFromKey : Text := "original-href".toList

/-- The value of a mark. -/
def markValue : Text := ['t', 'r', 'u', 'e']

/-- Whether a node has been processed. -/
def isProcessed (n : Node) : Bool :=
  Assoc.contains processedKey n.dataset

/-- Whether a link is being loaded. -/
def isPending (n : Node) : Bool :=
  Assoc.contains pendingKey n.dataset

/-- Sets a mark. -/
def mark (key : Text) (n : Node) : Node :=
  { n with dataset := Assoc.insert key markValue n.dataset }

/-- Removes a mark or another entry of the data set. -/
def unmark (key : Text) (n : Node) : Node :=
  { n with dataset := Assoc.erase key n.dataset }

/-- Whether a node is an inline style. -/
def isStyle (n : Node) : Bool :=
  match n.body with
  | .style _ => true
  | .link _ => false

/-- The text of an inline style. -/
def text? (n : Node) : Option Text :=
  match n.body with
  | .style text => some text
  | .link _ => none

/-- The link that a node is. -/
def link? (n : Node) : Option Link :=
  match n.body with
  | .style _ => none
  | .link l => some l

/-- Replaces the text of an inline style. -/
def setText (text : Text) (n : Node) : Node :=
  match n.body with
  | .style _ => { n with body := .style text }
  | .link _ => n

/-- Switches a linked style sheet off. -/
def disable (n : Node) : Node :=
  match n.body with
  | .style _ => n
  | .link l => { n with body := .link { l with disabled := true } }

end Node

/-- The place of a node in the table. -/
abbrev NodeId := Nat

/-- The table of nodes. -/
abbrev Nodes := List Node

end CondCss
