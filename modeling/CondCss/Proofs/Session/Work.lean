import CondCss.Proofs.Session.Course
import CondCss.Proofs.Tracking.Following

/-!
# The work of an engine

What an engine does to a document, it does in few kinds of steps: it writes to the journal, renders
texts, changes nodes, adds styles and moves nodes about. A property that each kind of step keeps is
kept by all that an engine does (`Kept`): it is kept at every moment of a load, so it does not matter
how the server's script makes engines load style sheets inside each other.
-/

namespace CondCss
namespace Session

/-- A property that every step of the engine with the number 0 keeps, if it changes only certain
    nodes: all links, new nodes, and inline styles through `processStyle`. -/
structure Kept (P : Session → Prop) (free : NodeId → Prop) : Prop where
  link : ∀ {s : Session} {id : NodeId} {l : Link}, P s →
    s.nodes[id]?.bind Node.link? = some l → free id
  fresh : ∀ {s : Session}, P s → free s.nodes.length
  write : ∀ {s : Session} (e : Entry), P s → P (s.write e)
  moved : ∀ {s : Session} {f : Document Nat → Document Nat},
    (∀ d, (f d).observers = d.observers) → P s → P (s.modifyDocument f)
  changed : ∀ {s : Session} {id : NodeId} (f : Node → Node), free id → P s → P (s.modifyNode id f)
  added : ∀ {s : Session} (node : Node), P s →
    P (s.track fun t => { t with nodes := t.nodes ++ [node] })
  rendered : ∀ {s : Session} {id : NodeId} (i : Nat) (text : Text), free id → P s →
    P (s.processText i text none (some id)).1
  styled : ∀ {s : Session} (id : NodeId), P s → P (s.processStyle 0 id).1
  observer : ∀ {s : Session} {d : Document Nat}, P s → s.document = some d → ∀ i ∈ d.observers, i = 0
  observing : ∀ {s : Session}, P s →
    P ((s.modifyDocument (·.observe 0)).modifyEngine 0 ({ · with observing := true }))

namespace Kept

variable {P : Session → Prop} {free : NodeId → Prop} {s : Session}

/-! ### Linked style sheets -/

theorem skip (k : Kept P free) (h : P s) (i : Nat) (href : Text) (reason : String) :
    P (s.skip i href reason) :=
  k.write _ (k.write _ h)

theorem debug (k : Kept P free) (h : P s) (i : Nat) (message : String) : P (s.debug i message) := by
  unfold Session.debug
  split
  · exact k.write _ h
  · exact h

theorem replaceLink (k : Kept P free) (h : P s) (i : Nat) {id : NodeId} (isFree : free id) (url : Url)
    (text : Text) : P (s.replaceLink i id url text).1 := by
  have marked := k.changed (·.mark Node.processedKey) isFree h
  have isFresh := k.fresh marked
  have rendered := k.rendered i text isFresh (k.added { body := .style [] } marked)
  unfold Session.replaceLink
  simp only
  split
  · exact rendered
  · refine k.write _ (k.write _ (k.changed _ isFree (k.moved (fun d => ?_)
      (k.changed _ isFresh rendered))))
    unfold Document.insertAfter
    simp only
    split <;> rfl

/-- The loads in flight are of links, whose nodes may be changed. -/
theorem step (k : Kept P free) {m : Moment} {flights flights' : List Flight} {s' : Session}
    (h : Step m flights s flights' s') (inv : P s ∧ ∀ f ∈ flights, free f.link) :
    P s' ∧ ∀ f ∈ flights', free f.link := by
  obtain ⟨holds, areFree⟩ := inv
  cases h with
  | began f flights s isDocument found isLink =>
    have isFree : free f.link := k.link holds (by rw [found]; exact isLink)
    exact ⟨k.changed _ isFree holds, List.forall_mem_cons.2 ⟨isFree, areFree⟩⟩
  | requested f flights s url => exact ⟨k.write _ holds, areFree⟩
  | removed f flights s id =>
    refine ⟨k.moved (fun d => ?_) holds, areFree⟩
    unfold Document.remove
    split <;> rfl
  | told f flights s result present => exact ⟨k.write _ holds, areFree⟩
  | dropped f flights s =>
    obtain ⟨isFree, areFree⟩ := List.forall_mem_cons.1 areFree
    exact ⟨k.changed _ isFree holds, areFree⟩
  | loaded f flights s i url text present =>
    obtain ⟨isFree, areFree⟩ := List.forall_mem_cons.1 areFree
    exact ⟨k.replaceLink (k.changed _ isFree holds) i isFree url text, areFree⟩
  | skipped flights s i id href reason => exact ⟨k.skip holds i href reason, areFree⟩

/-! ### Whole documents -/

theorem styleStep (k : Kept P free) (h : P s) (id : NodeId) : P (s.styleStep 0 id).1 :=
  k.styled id h

theorem linkStep (k : Kept P free) (h : P s) (i : Nat) (id : NodeId) : P (s.linkStep i id).1 := by
  obtain ⟨scenes, course, -⟩ := above_linkStep i id [] s
  have kept := course.invariant (I := fun flights s => P s ∧ ∀ f ∈ flights, free f.link) k.step
    ⟨h, fun f member => absurd member List.not_mem_nil⟩
  exact kept.1.1

end Kept

theorem forEach_keeps {α σ ε : Type} {P : σ → Prop} {step : α → σ → σ × Option ε} {l : List α}
    {s : σ} (keeps : ∀ a ∈ l, ∀ s, P s → P (step a s).1) (h : P s) :
    P (forEach step l s).1 := by
  induction l generalizing s with
  | nil => exact h
  | cons a l ih =>
    have first := keeps a List.mem_cons_self s h
    unfold forEach
    split <;> rename_i result <;> rw [result] at first
    · exact ih (fun b hb => keeps b (List.mem_cons_of_mem a hb)) first
    · exact first

theorem deliverFrom_keeps {ε : Type} {P : Session → Prop}
    {onStyle onLink : NodeId → Session → Session × Option ε}
    (styles : ∀ id s, P s → P (onStyle id s).1) (links : ∀ id s, P s → P (onLink id s).1)
    (seen batch : List NodeId) (s : Session) (h : P s) :
    P (deliverFrom (·.nodes) onStyle onLink seen batch s).1 := by
  induction batch generalizing seen s with
  | nil => exact h
  | cons id batch ih =>
    unfold deliverFrom
    split
    · exact ih seen s h
    · rename_i node _
      split
      · exact ih seen s h
      · cases node.body
        case' style text => have handled := styles id s h
        case' link l =>
          have handled : P (if l.isSheet then onLink id s else (s, none)).1 := by
            split
            · exact links id s h
            · exact h
        all_goals
          simp only
          split <;> rename_i result <;> rw [result] at handled
          · exact ih _ _ handled
          · exact handled

namespace Kept

variable {P : Session → Prop} {free : NodeId → Prop} {s : Session}

theorem processDocument (k : Kept P free) (h : P s) (document : Document Nat) :
    P (s.processDocument 0 document).1 := by
  unfold Session.processDocument
  have found := k.debug h 0 (s!"Found {((document.styles s.nodes).filter fun id =>
    s.nodes[id]?.any (!·.isProcessed)).length} unprocessed style elements")
  refine forEach_keeps (fun id _ s h => k.linkStep h 0 id) ?_
  exact forEach_keeps (fun id _ s h => k.styleStep h id) found

theorem start (k : Kept P free) (h : P s) : P (s.start 0).1 := by
  unfold Session.start
  split
  · exact h
  · rename_i document _
    have detected : P s.detectNative.1 := by
      unfold Session.detectNative
      split
      · exact h
      · exact k.write _ h
    simp only
    split
    · exact k.debug detected 0 _
    · have processed := k.processDocument (k.debug detected 0 "Initializing CSS if() runtime")
        document
      split <;> rename_i result <;> rw [result] at processed
      · exact processed
      · split
        · exact processed
        · exact k.observing processed

theorem refreshAll (k : Kept P free) (h : P s) : P (s.refreshAll 0).1 := by
  unfold Session.refreshAll
  split
  · exact h
  · rename_i document _
    have processed := k.processDocument h document
    split <;> rename_i result <;> rw [result] at processed <;> exact processed

theorem flush (k : Kept P free) (h : P s) : P s.flush.1 := by
  unfold Session.flush
  split
  · exact h
  · rename_i document isDocument
    have taken : P { s with document := some document.takeQueue.2 } := by
      have moved := k.moved (f := fun d => d.takeQueue.2) (fun d => rfl) h
      rw [modifyDocument, isDocument] at moved
      exact moved
    have observers := k.observer taken rfl
    have delivered : P (forEach (fun i => deliver (·.nodes) (Session.styleStep i)
        (Session.linkStep i) document.takeQueue.1)
          (if document.takeQueue.1.isEmpty then [] else document.takeQueue.2.observers)
          { s with document := some document.takeQueue.2 }).1 := by
      refine forEach_keeps (fun i hi s h => ?_) taken
      have isFirst : i = 0 := by
        split at hi
        · exact absurd hi List.not_mem_nil
        · exact observers i hi
      subst isFirst
      exact deliverFrom_keeps (P := P) (fun id s h => k.styleStep h id)
        (fun id s h => k.linkStep h 0 id) [] _ s h
    simp only
    split <;> rename_i result <;> rw [result] at delivered <;> exact delivered

end Kept

/-! ### Inline styles -/

/-- What the engine does with an inline style: nothing, or it renders the text and sets it, with a
    mark, if it is another one. -/
theorem processStyle_cases (s : Session) (i : Nat) (id : NodeId) :
    (s.processStyle i id).1 = s ∨
    ∃ node rendered, s.nodes[id]? = some node ∧ node.isProcessed = false ∧
      s.processText i (node.text?.getD []) none (some id) = rendered ∧
      ((s.processStyle i id).1 = rendered.1 ∨
        ∃ e, (s.processStyle i id).1 = (rendered.1.modifyNode id fun n =>
          (n.setText rendered.2).mark Node.processedKey).write e) := by
  unfold processStyle
  cases found : s.nodes[id]? with
  | none => exact .inl rfl
  | some node =>
    simp only
    split
    · exact .inl rfl
    · rename_i unprocessed
      refine .inr ⟨node, _, rfl, Bool.eq_false_iff.2 unprocessed, rfl, ?_⟩
      split
      · exact .inl rfl
      · exact .inr ⟨_, rfl⟩

end Session
end CondCss
