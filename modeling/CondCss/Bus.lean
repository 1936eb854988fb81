import CondCss.Assoc
import CondCss.Event

/-!
# Event bus

A bus delivers events to listeners: first those that listen to everything, then those of the event's
kind, each group in the order of registration. A listener may change the registrations while an
event is delivered; that counts from the next event on.
-/

namespace CondCss

/-- The registrations of a bus, for listeners known by keys. -/
structure Bus (κ : Type) where
  /-- Listeners to one kind of event. -/
  byKind : List (EventKind × List κ) := []
  /-- Listeners to everything. -/
  catchAll : List κ := []

namespace Bus

variable {κ : Type}

/-- A change of the registrations. -/
inductive Change (κ : Type) where
  | subscribe (kind : EventKind) (listener : κ)
  | unsubscribe (kind : EventKind) (listener : κ)
  | onAll (listener : κ)

/-- The listeners to a kind of event. -/
def listeners (b : Bus κ) (kind : EventKind) : List κ :=
  (b.byKind.lookup kind).getD []

/-- Registers a listener for a kind of event. -/
def subscribe (kind : EventKind) (listener : κ) (b : Bus κ) : Bus κ :=
  { b with byKind := Assoc.insert kind (b.listeners kind ++ [listener]) b.byKind }

/-- Takes back one registration of a listener for a kind of event, if there is any. -/
def unsubscribe [BEq κ] (kind : EventKind) (listener : κ) (b : Bus κ) : Bus κ :=
  { b with byKind := Assoc.insert kind ((b.listeners kind).erase listener) b.byKind }

/-- Registers a listener for everything. -/
def onAll (listener : κ) (b : Bus κ) : Bus κ :=
  { b with catchAll := b.catchAll ++ [listener] }

/-- Carries out a change. -/
def apply [BEq κ] (b : Bus κ) : Change κ → Bus κ
  | .subscribe kind listener => b.subscribe kind listener
  | .unsubscribe kind listener => b.unsubscribe kind listener
  | .onAll listener => b.onAll listener

/-- Who gets an event, in order. -/
def targets (b : Bus κ) (e : Event) : List κ :=
  b.catchAll ++ b.listeners e.kind

/-- Delivers an event: who got it, and the registrations after each listener made its changes. -/
def emit [BEq κ] (changes : κ → List (Change κ)) (e : Event) (b : Bus κ) : List κ × Bus κ :=
  (b.targets e, (b.targets e).foldl (fun b listener => (changes listener).foldl apply b) b)

end Bus
end CondCss
