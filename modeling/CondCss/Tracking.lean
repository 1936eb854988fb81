import CondCss.Document
import CondCss.Platform
import CondCss.Render

/-!
# Tracking

Registries remember which nodes depend on which media queries, by the text of the query. A registry
has at most one listener for a query, however many nodes depend on it. When the answer to a query
changes, every node that depends on it is rendered again.

Several registries share one platform and one table of nodes. What happens is written to a journal.
-/

namespace CondCss

/-- A node whose text is rendered from a source. -/
structure Subscriber where
  /-- The node. -/
  node : NodeId
  /-- The text that it is rendered from. -/
  source : Text
  /-- How it is rendered. -/
  options : Options := {}
  deriving DecidableEq, Repr

/-- Who depends on which media queries. -/
structure Registry where
  /-- The subscribers to each query, both in the order of registration. -/
  subscribers : List (Text × List Subscriber) := []
  /-- The live query that is listened to, for each query. -/
  listeners : List (Text × QueryId) := []
  deriving DecidableEq, Repr

namespace Registry

/-- The subscribers to a query. -/
def subscribersOf (r : Registry) (query : Text) : List Subscriber :=
  (r.subscribers.lookup query).getD []

/-- Adds a subscriber to a query, once. -/
def subscribe (query : Text) (s : Subscriber) (r : Registry) : Registry :=
  let known := r.subscribersOf query
  { r with subscribers :=
      Assoc.insert query (if known.contains s then known else known ++ [s]) r.subscribers }

end Registry

/-- One entry of the journal. Registries are known by their numbers. -/
inductive Entry where
  | event (registry : Nat) (event : Event)
  | logged (entry : Log.Entry)
  /-- A subscriber was rendered again. -/
  | rendered (registry : Nat) (subscriber : Subscriber)
  /-- A resource was requested while these nodes were being loaded. -/
  | requested (url : Text) (pending : List NodeId)
  /-- A load that started during a request ended with this result, when the document had these
      nodes. -/
  | nested (result : Option NodeId) (present : List NodeId)
  deriving DecidableEq, Repr

/-- A listener: the number of a registry and a query. -/
abbrev ListenerKey := Nat × Text

/-- A platform, a table of nodes and the registries that track them. -/
structure Tracking where
  /-- The platform. -/
  platform : Platform ListenerKey := {}
  /-- The nodes. -/
  nodes : Nodes := []
  /-- The registries. -/
  registries : List Registry := []
  /-- What happened so far. -/
  journal : List Entry := []
  deriving DecidableEq, Repr

/-- Renders a subscriber, or tells why that is not possible. -/
abbrev Renderer := Host → Subscriber → Except String Rendering

/-- Each registry has its own renderer; one can serve them all. -/
instance : Coe Renderer (Nat → Renderer) := ⟨fun render _ => render⟩

namespace Tracking

/-- Writes to the journal. -/
def write (entry : Entry) (t : Tracking) : Tracking :=
  { t with journal := t.journal ++ [entry] }

/-- Writes a log entry about subscriptions. -/
def note (message : String) (t : Tracking) : Tracking :=
  t.write (.logged { source := .subscriptions, message })

/-- A registry, by its number. -/
def registry (t : Tracking) (i : Nat) : Registry :=
  t.registries[i]?.getD {}

/-- Changes a registry. -/
def modifyRegistry (i : Nat) (f : Registry → Registry) (t : Tracking) : Tracking :=
  { t with registries := t.registries.modify i f }

/-- Changes a node. -/
def modifyNode (id : NodeId) (f : Node → Node) (t : Tracking) : Tracking :=
  { t with nodes := t.nodes.modify id f }

/-- Listens to a query for a registry, if the platform can. -/
def listen (i : Nat) (query : Text) (t : Tracking) : Tracking :=
  if t.platform.host.failing.contains .matchMedia then
    t.note ("Failed to register media query listener: " ++ String.ofList query ++ " (" ++
      Oracle.matchMedia.message ++ ")")
  else
    let (q, platform) := t.platform.openQuery (['('] ++ query ++ [')'])
    let t := { t with platform := platform.listen q (i, query) }
    ((t.modifyRegistry i fun r => { r with listeners := r.listeners ++ [(query, q)] }).note
      ("Registered media query listener: " ++ String.ofList query)).write
      (.event i (.queryRegistered query))

/-- Subscribes to a query in a registry. -/
def register (i : Nat) (query : Text) (s : Subscriber) (t : Tracking) : Tracking :=
  let t := t.modifyRegistry i (·.subscribe query s)
  if Assoc.contains query (t.registry i).listeners then t else t.listen i query

/-- Carries out one effect of a rendering: the subscriber, if there is one, is registered for the
    queries it depends on. -/
def absorbOne (i : Nat) (subscriber : Option Subscriber) (t : Tracking) : Effect → Tracking
  | .asked query =>
    match subscriber with
    | some s => t.register i query s
    | none => t
  | .failed call error => t.write (.event i (.expressionFailed call error.message))
  | .logged entry => t.write (.logged entry)

/-- Carries out the effects of a rendering. -/
def absorb (i : Nat) (subscriber : Option Subscriber) (effects : List Effect) (t : Tracking) :
    Tracking :=
  effects.foldl (absorbOne i subscriber) t

/-- Renders a subscriber of a registry again, and tells whether its text is another one now. -/
def refresh (render : Nat → Renderer) (i : Nat) (query : Text) (t : Tracking) (s : Subscriber) :
    Tracking × Bool :=
  let t := t.write (.rendered i s)
  match render i t.platform.host s with
  | .error message =>
    (t.note ("Failed to reprocess element for media query " ++ String.ofList query ++ ": " ++
      message), false)
  | .ok r =>
    let t := t.absorb i (some s) r.effects
    if t.nodes[s.node]?.bind Node.text? == some r.text then (t, false)
    else (t.modifyNode s.node (·.setText r.text), true)

/-- Renders the subscribers to a query again, and tells how many texts changed. -/
def reprocess (render : Nat → Renderer) (i : Nat) (query : Text) (t : Tracking) : Tracking × Nat :=
  ((t.registry i).subscribersOf query).foldl (fun (t, count) s =>
    let (t, changed) := t.refresh render i query s
    (t, if changed then count + 1 else count)) (t, 0)

/-- What a listener does: it announces the new answer and renders the subscribers. -/
def onChange (render : Nat → Renderer) (q : QueryId) (key : ListenerKey) (t : Tracking) : Tracking :=
  let t := t.note ("Media query changed: " ++ String.ofList key.2)
  let t := t.write (.event key.1 (.queryChanged key.2 (t.platform.isMatch q)))
  (t.reprocess render key.1 key.2).1

/-- Changes the host and calls the listeners of the queries whose answers changed. -/
def changeHost (render : Nat → Renderer) (change : Host → Host) (t : Tracking) : Tracking :=
  Platform.notify Tracking.platform (onChange render) t.platform.snapshot
    { t with platform := t.platform.changeHost change }

/-- Removes all listeners of a registry and forgets its subscribers. -/
def cleanup (i : Nat) (t : Tracking) : Tracking :=
  let t := (t.registry i).listeners.foldl (fun t (query, q) =>
    { t with platform := t.platform.unlisten q (i, query) }.note
      ("Cleaned up media query listener: " ++ String.ofList query)) t
  t.modifyRegistry i fun _ => {}

end Tracking
end CondCss
