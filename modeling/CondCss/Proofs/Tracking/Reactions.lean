import CondCss.Proofs.Tracking.Growth

/-!
# Reactions to a change of the host

When the host changes, every listener to a query whose answer is another one now renders the
subscribers to that query again. A property that is kept when something is written to the journal and
when a subscriber is rendered is kept by all of this, whatever the renderers do (`Stable.changeHost`).
-/

namespace CondCss
namespace Tracking

variable {render : Nat → Renderer} {t t' : Tracking} {i : Nat} {query : Text} {s : Subscriber}
  {P Q : Tracking → Prop}

/-- To render a subscriber again is to write that it is rendered, and either to note that this is not
    possible or to carry out the effects, after which the text of its node may be set. -/
theorem refresh_cases (render : Nat → Renderer) (t : Tracking) (i : Nat) (query : Text)
    (s : Subscriber) :
    (∃ message, (t.refresh render i query s).1 = (t.write (.rendered i s)).note message) ∨
    ∃ effects, (t.refresh render i query s).1 =
        (t.write (.rendered i s)).absorb i (some s) effects ∨
      ∃ text, (t.refresh render i query s).1 =
        ((t.write (.rendered i s)).absorb i (some s) effects).modifyNode s.node
          (·.setText text) := by
  unfold refresh
  simp only
  split
  · exact .inl ⟨_, rfl⟩
  · rename_i r _
    split
    · exact .inr ⟨r.effects, .inl rfl⟩
    · exact .inr ⟨r.effects, .inr ⟨r.text, rfl⟩⟩

theorem grows_refresh (render : Nat → Renderer) (t : Tracking) (i : Nat) (query : Text)
    (s : Subscriber) : Grows t (t.refresh render i query s).1 := by
  have written : Grows t (t.write (.rendered i s)) := .of_eq rfl rfl
  rcases refresh_cases render t i query s with
    ⟨message, failed⟩ | ⟨effects, kept | ⟨text, changed⟩⟩
  · rw [failed]
    exact written.trans (.of_eq rfl rfl)
  · rw [kept]
    exact written.trans (grows_absorb _ i (some s) effects)
  · rw [changed]
    exact (written.trans (grows_absorb _ i (some s) effects)).trans (.of_eq rfl rfl)

/-- The state after the subscribers to a query are rendered again. -/
theorem reprocess_fst (render : Nat → Renderer) (t : Tracking) (i : Nat) (query : Text) :
    (t.reprocess render i query).1 = ((t.registry i).subscribersOf query).foldl
      (fun t s => (t.refresh render i query s).1) t := by
  have counting (l : List Subscriber) (t : Tracking) (count : Nat) :
      (l.foldl (fun done s =>
        ((done.1.refresh render i query s).1,
          if (done.1.refresh render i query s).2 then done.2 + 1 else done.2)) (t, count)).1 =
      l.foldl (fun t s => (t.refresh render i query s).1) t := by
    induction l generalizing t count with
    | nil => rfl
    | cons s l ih => exact ih _ _
  exact counting _ t 0

/-! ### What all reactions keep -/

/-- A property that is kept when something else than a rendering is written to the journal, and when
    a subscriber is rendered again. -/
structure Stable (render : Nat → Renderer) (P : Tracking → Prop) : Prop where
  write : ∀ {t : Tracking} {e : Entry}, (∀ i s, e ≠ .rendered i s) → P t → P (t.write e)
  refresh : ∀ {t : Tracking} {i : Nat} {query : Text} {s : Subscriber},
    s ∈ (t.registry i).subscribersOf query → P t → P (t.refresh render i query s).1

/-- Who is subscribed stays so while others are rendered. -/
theorem stable_grows (t₀ : Tracking) : Stable render (Grows t₀) where
  write _ h := h.trans (.of_eq rfl rfl)
  refresh _ h := h.trans (grows_refresh ..)

theorem Stable.and (hP : Stable render P) (hQ : Stable render Q) :
    Stable render fun t => P t ∧ Q t where
  write quiet h := ⟨hP.write quiet h.1, hQ.write quiet h.2⟩
  refresh member h := ⟨hP.refresh member h.1, hQ.refresh member h.2⟩

/-- One subscriber after another, of those that were there at the start. -/
theorem Stable.refresh_of_grows (hP : Stable render P) {t₀ : Tracking}
    (member : s ∈ (t₀.registry i).subscribersOf query) (h : P t ∧ Grows t₀ t) :
    P (t.refresh render i query s).1 ∧ Grows t₀ (t.refresh render i query s).1 :=
  (hP.and (stable_grows t₀)).refresh (h.2.subscribed member) h

/-- A property that is kept when something else than a rendering is written to the journal, and when
    a subscriber to one query of one registry is rendered again. -/
structure StableAt (render : Nat → Renderer) (i : Nat) (query : Text) (P : Tracking → Prop) :
    Prop where
  write : ∀ {t : Tracking} {e : Entry}, (∀ i s, e ≠ .rendered i s) → P t → P (t.write e)
  refresh : ∀ {t : Tracking} {s : Subscriber},
    s ∈ (t.registry i).subscribersOf query → P t → P (t.refresh render i query s).1

theorem Stable.at (hP : Stable render P) (i : Nat) (query : Text) : StableAt render i query P :=
  ⟨hP.write, hP.refresh⟩

theorem StableAt.reprocess (hP : StableAt render i query P) (h : P t) :
    P (t.reprocess render i query).1 := by
  rw [reprocess_fst]
  have kept := List.foldlRecOn ((t.registry i).subscribersOf query)
    (fun t s => (t.refresh render i query s).1) (motive := fun t' => P t' ∧ Grows t t')
    ⟨h, .refl t⟩ fun t' h' s member =>
      ⟨hP.refresh (h'.2.subscribed member) h'.1, h'.2.trans (grows_refresh ..)⟩
  exact kept.1

/-- What a listener writes before it renders. -/
theorem StableAt.announce (hP : StableAt render i query P) (h : P t) (message : String)
    (answer : Bool) :
    P ((t.note message).write (.event i (.queryChanged query answer))) := by
  have noted : P (t.note message) := hP.write (by rintro i s ⟨⟩) h
  exact hP.write (by rintro i s ⟨⟩) noted

theorem StableAt.onChange (hP : StableAt render i query P) (h : P t) (q : QueryId) :
    P (t.onChange render q (i, query)) :=
  hP.reprocess (hP.announce h _ _)

theorem Stable.reprocess (hP : Stable render P) (h : P t) :
    P (t.reprocess render i query).1 :=
  (hP.at i query).reprocess h

theorem Stable.onChange (hP : Stable render P) (h : P t) (q : QueryId) (key : ListenerKey) :
    P (t.onChange render q key) :=
  (hP.at key.1 key.2).onChange h q

/-- What one turn of a live query does. -/
theorem Stable.turn (hP : Stable render P) (h : P t) (turn : QueryId × Bool) :
    P (if t.platform.isMatch turn.1 == turn.2 then t
      else (t.platform.listenersOf turn.1).foldl
        (fun t listener => t.onChange render turn.1 listener) t) := by
  split
  · exact h
  · exact List.foldlRecOn _ _ h fun t' h' key _ => hP.onChange h' turn.1 key

/-- A property that holds once the host is another one holds when all have reacted to that. -/
theorem Stable.changeHost (hP : Stable render P) {change : Host → Host}
    (h : P { t with platform := t.platform.changeHost change }) :
    P (t.changeHost render change) :=
  List.foldlRecOn t.platform.snapshot _ h fun _ h' turn _ => hP.turn h' turn

end Tracking
end CondCss
