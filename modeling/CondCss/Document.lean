import CondCss.Node

/-!
# Documents

A document has a list of nodes in its head and one in its body. Insertions are recorded, and the
records are handed to the observers in one batch when the document is flushed.
-/

namespace CondCss

/-- A record of nodes that were inserted. -/
abbrev Record := List NodeId

/-- A document, whose observers are known by keys. -/
structure Document (ω : Type) where
  /-- The address that links are relative to. -/
  origin : Text
  /-- Nodes of the head. -/
  head : List NodeId := []
  /-- Nodes of the body. -/
  body : List NodeId := []
  /-- Observers, in the order of registration. -/
  observers : List ω := []
  /-- Records not yet delivered. -/
  queue : List Record := []
  deriving DecidableEq, Repr

namespace Document

variable {ω : Type}

/-- All nodes, those of the head first. -/
def nodes (d : Document ω) : List NodeId :=
  d.head ++ d.body

/-- Whether a node is in the document. -/
def contains (d : Document ω) (id : NodeId) : Bool :=
  d.nodes.contains id

/-- Puts a node at the end of the head or of the body. -/
def append (id : NodeId) (toBody : Bool) (d : Document ω) : Document ω :=
  let d := if toBody then { d with body := d.body ++ [id] } else { d with head := d.head ++ [id] }
  { d with queue := d.queue ++ [[id]] }

/-- Puts a node behind the first occurrence of another one, if there is any. -/
def insertBehind? (reference id : NodeId) : List NodeId → Option (List NodeId)
  | [] => none
  | n :: rest =>
    if n == reference then some (n :: id :: rest)
    else (insertBehind? reference id rest).map (n :: ·)

/-- A node that should be in the document is not. -/
structure Detached where
  /-- The node. -/
  node : NodeId
  deriving DecidableEq, Repr

/-- What is said of a reference that is not in the document. -/
def Detached.message (_ : Detached) : String :=
  "Reference node is not in the document"

/-- Puts a node behind another one. -/
def insertAfter (reference id : NodeId) (d : Document ω) : Except Detached (Document ω) :=
  let recorded := d.queue ++ [[id]]
  match insertBehind? reference id d.head, insertBehind? reference id d.body with
  | some head, _ => .ok { d with head, queue := recorded }
  | none, some body => .ok { d with body, queue := recorded }
  | none, none => .error ⟨reference⟩

/-- Takes a node out of the document, where it stands first. -/
def remove (id : NodeId) (d : Document ω) : Document ω :=
  if d.head.contains id then { d with head := d.head.erase id }
  else { d with body := d.body.erase id }

/-- The inline styles of the document. -/
def styles (table : Nodes) (d : Document ω) : List NodeId :=
  d.nodes.filter fun id => table[id]?.any Node.isStyle

/-- The links of the document. -/
def links (table : Nodes) (d : Document ω) : List NodeId :=
  d.nodes.filter fun id => table[id]?.any (!·.isStyle)

/-- Registers an observer, once. -/
def observe [BEq ω] (observer : ω) (d : Document ω) : Document ω :=
  if d.observers.contains observer then d else { d with observers := d.observers ++ [observer] }

/-- Takes an observer back. -/
def disconnect [BEq ω] (observer : ω) (d : Document ω) : Document ω :=
  { d with observers := d.observers.erase observer }

/-- Takes the recorded insertions out of the queue. -/
def takeQueue (d : Document ω) : List Record × Document ω :=
  (d.queue, { d with queue := [] })

end Document

/-- Does a step for each element, up to the first that fails. -/
def forEach {α σ ε : Type} (step : α → σ → σ × Option ε) : List α → σ → σ × Option ε
  | [], s => (s, none)
  | a :: rest, s =>
    match step a s with
    | (s, none) => forEach step rest s
    | (s, some e) => (s, some e)

/-- Hands the nodes of a batch to those who process style sheets: every node once, unless it has
    been processed by then, and of the links only those to style sheets. -/
def deliverFrom {σ ε : Type} (table : σ → Nodes) (onStyle onLink : NodeId → σ → σ × Option ε)
    (seen : List NodeId) : List NodeId → σ → σ × Option ε
  | [], s => (s, none)
  | id :: rest, s =>
    match (table s)[id]? with
    | none => deliverFrom table onStyle onLink seen rest s
    | some node =>
      if seen.contains id || node.isProcessed then deliverFrom table onStyle onLink seen rest s
      else
        let handled :=
          match node.body with
          | .style _ => onStyle id s
          | .link l => if l.isSheet then onLink id s else (s, none)
        match handled with
        | (s, none) => deliverFrom table onStyle onLink (id :: seen) rest s
        | (s, some e) => (s, some e)

/-- Hands a batch of records to those who process style sheets. -/
def deliver {σ ε : Type} (table : σ → Nodes) (onStyle onLink : NodeId → σ → σ × Option ε)
    (batch : List Record) (s : σ) : σ × Option ε :=
  deliverFrom table onStyle onLink [] batch.flatten s

end CondCss
