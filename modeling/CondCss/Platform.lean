import CondCss.Host

/-!
# Live media queries

A platform is a host whose media queries can be watched. A live query has listeners; it is watched
as long as it has any. When the host changes, every watched query whose answer is another one than
before calls its listeners.

A query whose evaluation does not end has no answer (`Host.evaluate?`). Here it counts as one that does
not match. A platform that evaluates it until its stack is used up fails instead: an error leaves the
change, which is not made if the query had no answer before, and whose remaining listeners are not
called if it has none afterwards. So what is said of changes is about platforms whose watched queries
all have answers.
-/

namespace CondCss

/-- A media query with the listeners to its changes, known by keys. -/
structure LiveQuery (κ : Type) where
  /-- The query, as it was asked. -/
  media : Text
  /-- The listeners, in the order of registration. -/
  listeners : List κ := []
  deriving DecidableEq, Repr

/-- The place of a live query in its platform's list. -/
abbrev QueryId := Nat

/-- A host with its live queries. -/
structure Platform (κ : Type) where
  /-- The host. -/
  host : Host := {}
  /-- All live queries, in the order in which they were opened. -/
  queries : List (LiveQuery κ) := []
  /-- The watched ones, in the order in which they got their first listener. -/
  watched : List QueryId := []
  deriving DecidableEq, Repr

namespace Platform

variable {κ : Type}

/-- Opens a live query. -/
def openQuery (media : Text) (p : Platform κ) : QueryId × Platform κ :=
  (p.queries.length, { p with queries := p.queries ++ [{ media }] })

/-- The text of a live query. -/
def mediaOf (p : Platform κ) (q : QueryId) : Text :=
  (p.queries[q]?.map (·.media)).getD []

/-- The listeners to a live query. -/
def listenersOf (p : Platform κ) (q : QueryId) : List κ :=
  (p.queries[q]?.map (·.listeners)).getD []

/-- Whether a live query matches now; one without an answer does not. -/
def isMatch (p : Platform κ) (q : QueryId) : Bool :=
  p.host.isMatch (p.mediaOf q)

/-- Replaces the listeners to a live query. -/
def setListeners (q : QueryId) (listeners : List κ) (p : Platform κ) : Platform κ :=
  { p with queries := p.queries.modify q fun query => { query with listeners } }

/-- Adds a listener to a live query, once, and watches the query. -/
def listen [BEq κ] (q : QueryId) (listener : κ) (p : Platform κ) : Platform κ :=
  if (p.listenersOf q).contains listener then p
  else
    let p := p.setListeners q (p.listenersOf q ++ [listener])
    { p with watched := if p.watched.contains q then p.watched else p.watched ++ [q] }

/-- Removes a listener from a live query; a query without listeners is not watched. -/
def unlisten [BEq κ] (q : QueryId) (listener : κ) (p : Platform κ) : Platform κ :=
  let p := p.setListeners q ((p.listenersOf q).erase listener)
  if (p.listenersOf q).isEmpty then { p with watched := p.watched.erase q } else p

/-- How many listeners the watched queries have. -/
def listenerCount (p : Platform κ) : Nat :=
  (p.watched.flatMap p.listenersOf).length

/-- The watched queries with their answers. -/
def snapshot (p : Platform κ) : List (QueryId × Bool) :=
  p.watched.map fun q => (q, p.isMatch q)

/-- Changes the host, without telling anyone. -/
def changeHost (change : Host → Host) (p : Platform κ) : Platform κ :=
  { p with host := change p.host }

/-- Calls the listeners of every query in a snapshot whose answer is another one now. The state
    that the listeners work on has the platform as a part; both the answer and the listeners of a
    query are looked at when its turn comes. That a query has no answer is no error here, but the
    answer that it does not match. -/
def notify {σ : Type} (platform : σ → Platform κ) (call : QueryId → κ → σ → σ)
    (before : List (QueryId × Bool)) (s : σ) : σ :=
  before.foldl (fun s (q, was) =>
    if (platform s).isMatch q == was then s
    else ((platform s).listenersOf q).foldl (fun s listener => call q listener s) s) s

/-! ### Runs -/

/-- What is done to a platform. -/
inductive Action (κ : Type) where
  | openQuery (media : Text)
  | listen (q : QueryId) (listener : κ)
  | unlisten (q : QueryId) (listener : κ)
  | resize (width : Int) (height : Option Int)
  | setEnvironment (feature value : Text)
  | setMedia (query : Text) (isMatch : Bool)
  deriving DecidableEq, Repr

/-- What a listener gets to know of a query: its answer when the listener is added, and again each
    time when the listener is called. -/
structure Notice (κ : Type) where
  /-- The query. -/
  query : QueryId
  /-- The listener. -/
  listener : κ
  /-- The answer. -/
  isMatch : Bool
  /-- Whether the listener was called. -/
  isCall : Bool
  deriving DecidableEq, Repr

/-- A platform with what the listeners got to know so far. -/
structure Run (κ : Type) where
  /-- The platform. -/
  platform : Platform κ
  /-- The notices, in order. -/
  notices : List (Notice κ) := []
  /-- Whether changes by listeners were left out because they went too deep. -/
  exhausted : Bool := false
  deriving DecidableEq, Repr

namespace Run

/-- The calls of listeners, in order. -/
def calls (r : Run κ) : List (Notice κ) :=
  r.notices.filter (·.isCall)

/-- Tells a listener the answer of a query. -/
def tell (isCall : Bool) (q : QueryId) (listener : κ) (r : Run κ) : Run κ :=
  { r with notices := r.notices ++ [⟨q, listener, r.platform.isMatch q, isCall⟩] }

/-- Adds a listener to a live query, if there is such a query and the listener is new to it. -/
def listen [BEq κ] (q : QueryId) (listener : κ) (r : Run κ) : Run κ :=
  if r.platform.queries.length ≤ q || (r.platform.listenersOf q).contains listener then r
  else { r.tell false q listener with platform := r.platform.listen q listener }

/-- Carries out one action, given how to change the host. -/
def act [BEq κ] (change : (Host → Host) → Run κ → Run κ) : Action κ → Run κ → Run κ
  | .openQuery media, r => { r with platform := (r.platform.openQuery media).2 }
  | .listen q listener, r => r.listen q listener
  | .unlisten q listener, r => { r with platform := r.platform.unlisten q listener }
  | .resize width height, r => change (Host.resize width height) r
  | .setEnvironment feature value, r => change (Host.setEnvironment feature value) r
  | .setMedia query isMatch, r => change (Host.setMedia query isMatch) r

end Run

/-- What a listener does when it is called: one action after the other, each one chosen when the
    actions before it are done. -/
inductive Program (κ : Type) where
  | done
  | act (action : Action κ) (next : Run κ → Program κ)

/-- Carries out a program, given how to change the host. -/
def Program.perform [BEq κ] (change : (Host → Host) → Run κ → Run κ) :
    Program κ → Run κ → Run κ
  | done, r => r
  | act action next, r =>
    let r := r.act change action
    (next r).perform change r

/-- How deep changes by listeners are followed. -/
def maxDepth : Nat := 1000

/-- Changes the host and calls the listeners, whose programs are carried out in turn. A change that
    would go deeper than the given depth is left out. -/
def Run.changeWithin [BEq κ] (react : κ → QueryId → Run κ → Program κ) :
    (depth : Nat) → (Host → Host) → Run κ → Run κ
  | 0, _, r => { r with exhausted := true }
  | depth + 1, change, r =>
    notify Run.platform (fun q listener r =>
      let r := r.tell true q listener
      (react listener q r).perform (Run.changeWithin react depth) r)
      r.platform.snapshot { r with platform := r.platform.changeHost change }

/-- An action from outside, with what the listeners do when it makes them be called. -/
structure Step (κ : Type) where
  /-- The action. -/
  action : Action κ
  /-- What a listener to a query does when it is called. -/
  react : κ → QueryId → Run κ → Program κ := fun _ _ _ => .done
  /-- How deep their changes are followed. -/
  depth : Nat := maxDepth

/-- Carries out an action from outside, with all that follows from it. -/
def Run.step [BEq κ] (r : Run κ) (s : Step κ) : Run κ :=
  r.act (changeWithin s.react s.depth) s.action

end Platform
end CondCss
