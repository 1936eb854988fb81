import CondCss.Proofs.Session.Keeping

/-!
# Sessions with several engines

A run of a session that several engines share is any sequence of commands: nodes are made, put into
the document and taken out of it, the server and the host change, and engines start, refresh, load
links and hear of insertions, in any order. In a session with a document, the longer ones among them
are loops between two steps that move nothing (`start_eq`, `refreshAll_eq`, `flush_eq`).
-/

namespace CondCss

/-- What can be asked of a session. Engines are known by their numbers. -/
inductive Command where
  /-- A node is made. It is known by the next free place in the table. -/
  | create (node : Node)
  | append (id : NodeId) (toBody : Bool)
  | insertAfter (reference id : NodeId)
  | remove (id : NodeId)
  | serve (server : Server)
  | changeHost (change : Host → Host)
  | load (i : Nat) (id : NodeId)
  | start (i : Nat)
  | refreshAll (i : Nat)
  | flush

/-- Whether a command is one of the page, its server or its platform, and not of an engine. -/
def Command.isPage : Command → Bool
  | create _ | append .. | insertAfter .. | remove _ | serve _ | changeHost _ => true
  | load .. | start _ | refreshAll _ | flush => false

namespace Session

/-- The fault with which an operation stops. -/
def faultOf {α : Type} : Except Fault α → Option Fault
  | .ok _ => none
  | .error fault => some fault

/-- Carries out a command, and tells the fault with which it stops. Only nodes that have been made can
    be put into the document, and only behind others that are there. -/
def execute (s : Session) : Command → Session × Option Fault
  | .create node => (s.track fun t => { t with nodes := t.nodes ++ [node] }, none)
  | .append id toBody =>
    (if id < s.nodes.length then s.modifyDocument (·.append id toBody) else s, none)
  | .insertAfter reference id =>
    (if id < s.nodes.length then
      s.modifyDocument fun d => ((d.insertAfter reference id).toOption).getD d else s, none)
  | .remove id => (s.modifyDocument (·.remove id), none)
  | .serve server => ({ s with server }, none)
  | .changeHost change => (s.changeHost change, none)
  | .load i id => s.linkStep i id
  | .start i => ((s.start i).1, faultOf (s.start i).2)
  | .refreshAll i => ((s.refreshAll i).1, faultOf (s.refreshAll i).2)
  | .flush => (s.flush.1, faultOf s.flush.2)

/-- The state after several commands. One that stops with a fault leaves the state that it has
    reached. -/
def executeAll (s : Session) (commands : List Command) : Session :=
  commands.foldl (fun s c => (s.execute c).1) s

/-- A session with an empty document that engines share, one for each of the options. -/
def shared (host : Host) (options : List Options) (origin : Text) (server : Server)
    (followsRedirects : Bool) : Session where
  platform := { host }
  registries := options.map fun _ => {}
  engines := options.map fun options => { options }
  document := some { origin }
  server := server
  followsRedirects := followsRedirects

/-! ### What engines do in a document -/

variable {s : Session} {d : Document Nat} {i : Nat}

/-- The state in which an engine that starts turns to the document. -/
def prepared (i : Nat) (s : Session) : Session :=
  s.detectNative.1.debug i "Initializing CSS if() runtime"

/-- The state in which an engine observes the document from now on, if it has not done so before. -/
def watching (i : Nat) (s : Session) : Session :=
  if (s.engine i).observing then s
  else (s.modifyDocument (·.observe i)).modifyEngine i ({ · with observing := true })

theorem keeps_detectNative (s : Session) : Keeps s s.detectNative.1 := by
  unfold detectNative
  split
  · exact .refl s
  · exact keeps_write s _

theorem keeps_prepared (i : Nat) (s : Session) : Keeps s (s.prepared i) :=
  (keeps_detectNative s).trans (keeps_debug _ i _)

theorem nodes_debug (i : Nat) (message : String) (s : Session) :
    (s.debug i message).nodes = s.nodes := by
  unfold debug
  split <;> rfl

theorem document_debug (i : Nat) (message : String) (s : Session) :
    (s.debug i message).document = s.document := by
  unfold debug
  split <;> rfl

theorem document_prepared (i : Nat) (s : Session) : (s.prepared i).document = s.document := by
  refine (document_debug i _ _).trans ?_
  unfold detectNative
  split <;> rfl

/-- On a platform that needs engines, one that starts processes the document and then observes it,
    unless the processing fails. -/
theorem start_eq (isDocument : s.document = some d) (needed : s.detectNative.2 = false) :
    s.start i = match (s.prepared i).processDocument i d with
      | (s, some fault) => (s, .error fault)
      | (s, none) => (s.watching i, .ok true) := by
  unfold start
  rw [isDocument]
  simp only [needed, Bool.false_eq_true, if_false]
  rw [prepared]
  obtain ⟨s', _ | fault⟩ :=
    (s.detectNative.1.debug i "Initializing CSS if() runtime").processDocument i d
  · simp only [watching]
    split <;> rfl
  · rfl

theorem start_of_native (isDocument : s.document = some d) (native : s.detectNative.2 = true) :
    s.start i =
      (s.detectNative.1.debug i "Native CSS if() support detected, runtime not needed", .ok false) := by
  unfold start
  rw [isDocument]
  simp only [native, if_true]

/-- An engine that has started was needed, and processing the document did not fail. -/
theorem start_of_ok (isDocument : s.document = some d) (started : (s.start i).2 = .ok true) :
    s.detectNative.2 = false ∧ ((s.prepared i).processDocument i d).2 = none ∧
      (s.start i).1 = ((s.prepared i).processDocument i d).1.watching i := by
  cases native : s.detectNative.2 with
  | true =>
    rw [start_of_native isDocument native] at started
    cases started
  | false =>
    rw [start_eq isDocument native] at started ⊢
    generalize (s.prepared i).processDocument i d = r at started ⊢
    obtain ⟨s', _ | fault⟩ := r
    · exact ⟨rfl, rfl, rfl⟩
    · cases started

theorem refreshAll_eq (isDocument : s.document = some d) :
    s.refreshAll i = match s.processDocument i d with
      | (s, some fault) => (s, .error fault)
      | (s, none) => (s, .ok ()) := by
  unfold refreshAll
  rewrite [isDocument]
  rfl

/-- Those who are told of what is recorded in a document. -/
def audience (d : Document Nat) : List Nat :=
  if d.queue.isEmpty then [] else d.observers

/-- The state in which what is recorded in a document has been taken out, and nobody is told yet. -/
def taken (d : Document Nat) (s : Session) : Session :=
  { s with document := some d.takeQueue.2 }

theorem flush_eq (isDocument : s.document = some d) :
    s.flush = match forEach (fun i => deliver (·.nodes) (styleStep i) (linkStep i) d.queue)
        (audience d) (s.taken d) with
      | (s, some fault) => (s, .error fault)
      | (s, none) => (s, .ok d.queue.length) := by
  unfold flush
  rewrite [isDocument]
  rfl

end Session
end CondCss
