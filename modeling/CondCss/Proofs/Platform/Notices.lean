import Mathlib.Algebra.GroupWithZero.Nat
import Mathlib.Data.List.Nodup
import Mathlib.Data.List.Perm.Basic
import CondCss.Proofs.Tracking.Growth

/-!
# Listeners that change what they listen to

A listener that is called may itself add and remove listeners and change the host, so a change can run
inside the calls that another one makes. Each change looks only at the answers before and after it. Still,
when the outermost change is done, every listener was last told the answer that holds now.

While changes are under way some listeners have old answers. They are excused (`Informed`): the answer is
the one in the snapshot of a change that has yet to come to their query, or their call is next. No action
makes an excuse wrong that a change around it relies on, and what a change excuses is settled when it ends.
-/

namespace CondCss
namespace Platform

variable {κ : Type}

/-! ### Watched queries -/

section Queries

variable {p : Platform κ} {q q' : QueryId} {listeners : List κ} {listener : κ} {media : Text}

@[simp] theorem isMatch_setListeners : (p.setListeners q listeners).isMatch q' = p.isMatch q' := by
  have media : (p.setListeners q listeners).mediaOf q' = p.mediaOf q' := by
    unfold mediaOf setListeners
    rw [List.getElem?_modify]
    cases p.queries[q']? <;> simp [apply_ite]
  unfold isMatch
  rw [media]
  rfl

theorem listenersOf_setListeners :
    (p.setListeners q listeners).listenersOf q' =
      if q = q' ∧ q < p.queries.length then listeners else p.listenersOf q' := by
  unfold listenersOf setListeners
  rw [List.getElem?_modify]
  by_cases same : q = q'
  · subst same
    by_cases inside : q < p.queries.length <;> simp [inside]
  · simp [same]

@[simp] theorem listenersOf_openQuery :
    (p.openQuery media).2.listenersOf q = p.listenersOf q := by
  unfold openQuery listenersOf
  rw [List.getElem?_append]
  split
  · rfl
  · rename_i beyond
    rw [List.getElem?_eq_none (Nat.le_of_not_lt beyond), List.getElem?_singleton]
    split <;> rfl

theorem isMatch_openQuery (inside : q < p.queries.length) :
    (p.openQuery media).2.isMatch q = p.isMatch q := by
  simp [openQuery, isMatch, mediaOf, List.getElem?_append_left inside]

/-- Just the queries with listeners are watched, each one once. -/
structure WatchesListened (p : Platform κ) : Prop where
  mem_watched : ∀ {q : QueryId}, q ∈ p.watched ↔ p.listenersOf q ≠ []
  once : p.watched.Nodup

theorem WatchesListened.openQuery (h : WatchesListened p) :
    WatchesListened (p.openQuery media).2 where
  mem_watched := by
    intro q
    rw [listenersOf_openQuery]
    exact h.mem_watched
  once := h.once

/-- The listeners of the watched queries are all listeners. -/
theorem WatchesListened.listenerCount_eq (h : WatchesListened p) :
    p.listenerCount = (p.queries.map (·.listeners.length)).sum := by
  let listened := (List.range p.queries.length).filter fun q => !(p.listenersOf q).isEmpty
  have perm : p.watched.Perm listened := by
    refine (List.perm_ext_iff_of_nodup h.once (List.nodup_range.filter _)).2 fun q => ?_
    rw [h.mem_watched, List.mem_filter, List.mem_range]
    constructor
    · intro some
      obtain ⟨listener, member⟩ := List.exists_mem_of_ne_nil _ some
      exact ⟨lt_of_mem_listenersOf member, by simpa using some⟩
    · rintro ⟨-, some⟩
      simpa using some
  have dropEmpty (qs : List QueryId) :
      (qs.filter fun q => !(p.listenersOf q).isEmpty).flatMap p.listenersOf =
        qs.flatMap p.listenersOf := by
    induction qs with
    | nil => rfl
    | cons q qs ih =>
      rw [List.filter_cons]
      split
      · rw [List.flatMap_cons, List.flatMap_cons, ih]
      · rename_i none
        have none : p.listenersOf q = [] := by simpa using none
        rw [ih, List.flatMap_cons, none, List.nil_append]
  have byPlace : (List.range p.queries.length).map p.listenersOf = p.queries.map (·.listeners) := by
    refine List.ext_getElem (by simp) fun q inRange inQueries => ?_
    have inside : q < p.queries.length := by simpa using inRange
    simp [listenersOf, inside]
  calc p.listenerCount
    _ = (listened.flatMap p.listenersOf).length := (perm.flatMap_right p.listenersOf).length_eq
    _ = ((List.range p.queries.length).map p.listenersOf).flatten.length := by
      rw [dropEmpty, List.flatMap_def]
    _ = (p.queries.map (·.listeners.length)).sum := by
      rw [byPlace, List.length_flatten, List.map_map]
      rfl

variable [BEq κ] [LawfulBEq κ]

omit [LawfulBEq κ] in
theorem isMatch_listen : (p.listen q listener).isMatch q' = p.isMatch q' := by
  unfold listen
  split
  · rfl
  · exact isMatch_setListeners

theorem listenersOf_listen (inside : q < p.queries.length) (new : listener ∉ p.listenersOf q) :
    (p.listen q listener).listenersOf q' =
      if q = q' then p.listenersOf q ++ [listener] else p.listenersOf q' := by
  have added : (p.listenersOf q).contains listener = false := by simpa using new
  simp only [listen, added, Bool.false_eq_true, if_false]
  change (p.setListeners q (p.listenersOf q ++ [listener])).listenersOf q' = _
  simp [listenersOf_setListeners, inside]

theorem WatchesListened.listen (h : WatchesListened p) (inside : q < p.queries.length)
    (new : listener ∉ p.listenersOf q) : WatchesListened (p.listen q listener) := by
  have added : (p.listenersOf q).contains listener = false := by simpa using new
  have watched : (p.listen q listener).watched =
      if p.watched.contains q then p.watched else p.watched ++ [q] := by
    simp only [Platform.listen, added, Bool.false_eq_true, if_false]
    rfl
  have mem (q' : QueryId) : q' ∈ (p.listen q listener).watched ↔ q' ∈ p.watched ∨ q' = q := by
    rw [watched]
    split
    · rename_i known
      have known : q ∈ p.watched := by simpa using known
      exact ⟨.inl, fun either => either.elim id fun same => same ▸ known⟩
    · simp
  constructor
  · intro q'
    rw [mem, listenersOf_listen inside new]
    by_cases same : q = q'
    · simp [same]
    · simp [same, Ne.symm same, h.mem_watched]
  · rw [watched]
    split
    · exact h.once
    · rename_i unknown
      rw [← List.concat_eq_append]
      exact h.once.concat (by simpa using unknown)

omit [LawfulBEq κ] in
theorem unlisten_eq :
    p.unlisten q listener =
      { p.setListeners q ((p.listenersOf q).erase listener) with
        watched :=
          if (p.setListeners q ((p.listenersOf q).erase listener)).listenersOf q = [] then
            p.watched.erase q
          else p.watched } := by
  unfold unlisten
  dsimp only
  simp only [List.isEmpty_iff]
  split <;> rfl

omit [LawfulBEq κ] in
theorem isMatch_unlisten : (p.unlisten q listener).isMatch q' = p.isMatch q' := by
  rw [unlisten_eq]
  exact isMatch_setListeners

omit [LawfulBEq κ] in
theorem listenersOf_unlisten :
    (p.unlisten q listener).listenersOf q' =
      if q = q' then (p.listenersOf q).erase listener else p.listenersOf q' := by
  rw [unlisten_eq]
  change (p.setListeners q _).listenersOf q' = _
  rw [listenersOf_setListeners]
  by_cases same : q = q'
  · subst same
    by_cases inside : q < p.queries.length
    · simp [inside]
    · simp [listenersOf, inside]
  · simp [same]

omit [LawfulBEq κ] in
theorem WatchesListened.unlisten (h : WatchesListened p) :
    WatchesListened (p.unlisten q listener) := by
  have watched : (p.unlisten q listener).watched =
      if (p.unlisten q listener).listenersOf q = [] then p.watched.erase q else p.watched := by
    rw [unlisten_eq]
    rfl
  constructor
  · intro q'
    rw [watched]
    by_cases same : q = q'
    · subst same
      split
      · rename_i none
        exact iff_of_false h.once.not_mem_erase (not_not_intro none)
      · rename_i some
        refine iff_of_true (h.mem_watched.2 fun none => some ?_) some
        rw [listenersOf_unlisten, if_pos rfl, none]
        rfl
    · have other : (p.unlisten q listener).listenersOf q' = p.listenersOf q' := by
        rw [listenersOf_unlisten, if_neg same]
      rw [other, ← h.mem_watched]
      split
      · rw [List.mem_erase_of_ne (Ne.symm same)]
      · rfl
  · rw [watched]
    split
    · exact h.once.erase q
    · exact h.once

end Queries

/-! ### What listeners know -/

/-- What a listener to a query was told last. -/
def Run.told [DecidableEq κ] (r : Run κ) (q : QueryId) (listener : κ) : Option Bool :=
  (r.notices.filter fun n => n.query == q && n.listener == listener).getLast?.map (·.isMatch)

/-- Every listener knows the answer of its query, unless what it was told last is excused. -/
structure Run.Informed [DecidableEq κ] (excused : QueryId → κ → Bool → Prop) (r : Run κ) : Prop where
  watches : r.platform.WatchesListened
  knows : ∀ {q : QueryId} {listener : κ}, listener ∈ r.platform.listenersOf q →
    ∃ answer, r.told q listener = some answer ∧
      (answer = r.platform.isMatch q ∨ excused q listener answer)

namespace Run

variable [DecidableEq κ] {r : Run κ} {q : QueryId} {listener : κ}
  {excused excused' : QueryId → κ → Bool → Prop} {change : (Host → Host) → Run κ → Run κ}

theorem told_tell (isCall : Bool) (q q' : QueryId) (listener listener' : κ) (r : Run κ) :
    (r.tell isCall q listener).told q' listener' =
      if q = q' ∧ listener = listener' then some (r.platform.isMatch q)
      else r.told q' listener' := by
  unfold told tell
  dsimp only
  rw [List.filter_append]
  by_cases same : q = q' ∧ listener = listener'
  · simp [same]
  · have other : (q == q' && listener == listener') = false := by simpa using same
    simp [same, other]

namespace Informed

theorem mono (h : Informed excused r)
    (weaker : ∀ q listener answer, listener ∈ r.platform.listenersOf q →
      excused q listener answer → answer = r.platform.isMatch q ∨ excused' q listener answer) :
    Informed excused' r := by
  refine ⟨h.watches, fun {q listener} member => ?_⟩
  obtain ⟨answer, told, fresh | old⟩ := h.knows member
  · exact ⟨answer, told, .inl fresh⟩
  · exact ⟨answer, told, weaker q listener answer member old⟩

/-! #### One action -/

theorem openQuery (h : Informed excused r) (media : Text) :
    Informed excused { r with platform := (r.platform.openQuery media).2 } := by
  refine ⟨h.watches.openQuery, fun {q listener} member => ?_⟩
  rw [listenersOf_openQuery] at member
  obtain ⟨answer, told, knows⟩ := h.knows member
  exact ⟨answer, told, by rwa [isMatch_openQuery (lt_of_mem_listenersOf member)]⟩

theorem listen (h : Informed excused r) (q : QueryId) (listener : κ) :
    Informed excused (r.listen q listener) := by
  unfold Run.listen
  split
  · exact h
  · rename_i new
    rw [Bool.or_eq_true, decide_eq_true_eq, List.contains_iff_mem, not_or, Nat.not_le] at new
    obtain ⟨inside, new⟩ := new
    refine ⟨h.watches.listen inside new, fun {q' listener'} member => ?_⟩
    dsimp only at member ⊢
    change ∃ answer, (r.tell false q listener).told q' listener' = some answer ∧ _
    rw [told_tell, isMatch_listen]
    split
    · rename_i added
      exact ⟨_, rfl, .inl (by rw [added.1])⟩
    · rename_i other
      refine h.knows ?_
      rw [listenersOf_listen inside new] at member
      split at member
      · rename_i same
        subst same
        rcases List.mem_append.1 member with old | added
        · exact old
        · exact absurd ⟨rfl, (List.mem_singleton.1 added).symm⟩ other
      · exact member

theorem unlisten (h : Informed excused r) (q : QueryId) (listener : κ) :
    Informed excused { r with platform := r.platform.unlisten q listener } := by
  refine ⟨h.watches.unlisten, fun {q' listener'} member => ?_⟩
  have before : listener' ∈ r.platform.listenersOf q' := by
    rw [listenersOf_unlisten] at member
    split at member
    · rename_i same
      subst same
      exact List.mem_of_mem_erase member
    · exact member
  obtain ⟨answer, told, knows⟩ := h.knows before
  exact ⟨answer, told, by rwa [isMatch_unlisten]⟩

/-- A listener that is told the answer needs no excuse. -/
theorem tell {q : QueryId} {listener : κ} (isCall : Bool)
    (h : Informed (fun q' listener' answer =>
      excused q' listener' answer ∨ q = q' ∧ listener = listener') r) :
    Informed excused (r.tell isCall q listener) := by
  refine ⟨h.watches, fun {q' listener'} member => ?_⟩
  rw [told_tell]
  split
  · rename_i same
    exact ⟨_, rfl, .inl (by rw [same.1]; rfl)⟩
  · rename_i other
    obtain ⟨answer, told, fresh | old | called⟩ := h.knows member
    · exact ⟨answer, told, .inl fresh⟩
    · exact ⟨answer, told, .inr old⟩
    · exact absurd called other

/-- An action keeps listeners informed if a change of the host does. -/
theorem act (h : Informed excused r)
    (changes : ∀ hostChange r, Informed excused r → Informed excused (change hostChange r))
    (action : Action κ) : Informed excused (r.act change action) := by
  cases action with
  | openQuery media => exact h.openQuery media
  | listen q listener => exact h.listen q listener
  | unlisten q listener => exact h.unlisten q listener
  | resize width height => exact changes _ r h
  | setEnvironment feature value => exact changes _ r h
  | setMedia query isMatch => exact changes _ r h

theorem perform (h : Informed excused r)
    (changes : ∀ hostChange r, Informed excused r → Informed excused (change hostChange r))
    (program : Program κ) : Informed excused (program.perform change r) := by
  induction program generalizing r with
  | done => exact h
  | act action next ih => exact ih _ (h.act changes action)

/-! #### A change of the host -/

/-- After a change, an old answer is the one in the snapshot. -/
theorem changeHost (h : Informed excused r) (hostChange : Host → Host) :
    Informed (fun q listener answer =>
      excused q listener answer ∨ (q, answer) ∈ r.platform.snapshot)
      { r with platform := r.platform.changeHost hostChange } := by
  refine ⟨⟨h.watches.mem_watched, h.watches.once⟩, fun {q listener} member => ?_⟩
  have watched : q ∈ r.platform.watched := h.watches.mem_watched.2 (List.ne_nil_of_mem member)
  obtain ⟨answer, told, fresh | old⟩ := h.knows member
  · exact ⟨answer, told, .inr (.inr (List.mem_map.2 ⟨q, watched, by rw [fresh]⟩))⟩
  · exact ⟨answer, told, .inr (.inl old)⟩

variable {call : QueryId → κ → Run κ → Run κ}

/-- What one call must do: whoever else is excused, the called listener needs no excuse any more. -/
def Settles (call : QueryId → κ → Run κ → Run κ) : Prop :=
  ∀ (excused : QueryId → κ → Bool → Prop) (q : QueryId) (listener : κ) (r : Run κ),
    Informed (fun q' listener' answer =>
      excused q' listener' answer ∨ q = q' ∧ listener = listener') r →
    Informed excused (call q listener r)

/-- Calling the listeners of a query, one after the other. -/
theorem dispatch (calls : Settles call) {listeners : List κ}
    (h : Informed (fun q' listener answer =>
      excused q' listener answer ∨ q = q' ∧ listener ∈ listeners) r) :
    Informed excused (listeners.foldl (fun r listener => call q listener r) r) := by
  induction listeners generalizing r with
  | nil =>
    refine h.mono fun q' listener answer _ old => .inr ?_
    simpa using old
  | cons first rest ih =>
    refine ih (calls _ q first r (h.mono ?_))
    rintro q' listener answer - (old | ⟨same, next⟩)
    · exact .inr (.inl (.inl old))
    · rcases List.mem_cons.1 next with rfl | later
      · exact .inr (.inr ⟨same, rfl⟩)
      · exact .inr (.inl (.inr ⟨same, later⟩))

/-- When all queries of a snapshot had their turn, its answers excuse nobody. -/
theorem notify (calls : Settles call) {snapshot : List (QueryId × Bool)}
    (h : Informed (fun q listener answer =>
      excused q listener answer ∨ (q, answer) ∈ snapshot) r) :
    Informed excused (Platform.notify Run.platform call snapshot r) := by
  induction snapshot generalizing r with
  | nil =>
    refine h.mono fun q listener answer _ old => .inr ?_
    simpa using old
  | cons first rest ih =>
    obtain ⟨q, was⟩ := first
    refine ih ?_
    dsimp only
    split
    · rename_i unchanged
      refine h.mono ?_
      rintro q' listener answer - (old | inSnapshot)
      · exact .inr (.inl old)
      · rcases List.mem_cons.1 inSnapshot with here | later
        · cases here
          exact .inl (beq_iff_eq.1 unchanged).symm
        · exact .inr (.inr later)
    · refine dispatch calls (h.mono ?_)
      rintro q' listener answer member (old | inSnapshot)
      · exact .inr (.inl (.inl old))
      · rcases List.mem_cons.1 inSnapshot with here | later
        · cases here
          exact .inr (.inr ⟨rfl, member⟩)
        · exact .inr (.inl (.inr later))

/-- A change of the host with all that follows from it excuses nobody new. The induction is on how deep
    changes are followed: a listener's own changes run inside its call. -/
theorem changeWithin (react : κ → QueryId → Run κ → Program κ) (depth : Nat) (h : Informed excused r)
    (hostChange : Host → Host) : Informed excused (r.changeWithin react depth hostChange) := by
  induction depth generalizing excused hostChange r with
  | zero => exact ⟨h.watches, h.knows⟩
  | succ depth ih =>
    refine notify (fun excused q listener r called => ?_) (h.changeHost hostChange)
    exact (called.tell true).perform (fun hostChange r h => ih h hostChange) _

theorem step (h : Informed excused r) (s : Step κ) : Informed excused (r.step s) :=
  h.act (fun hostChange _ h => h.changeWithin s.react s.depth hostChange) s.action

theorem run (h : Informed excused r) (steps : List (Step κ)) :
    Informed excused (steps.foldl Run.step r) := by
  induction steps generalizing r with
  | nil => exact h
  | cons s steps ih => exact ih (h.step s)

end Informed

/-! ### How deep changes are followed -/

/-- Where the first function is not cut off, it started from a run that was not, and the second one does
    the same. -/
def Within (f g : Run κ → Run κ) : Prop :=
  ∀ r, (f r).exhausted = false → r.exhausted = false ∧ g r = f r

namespace Within

variable {f f' g g' : Run κ → Run κ}

omit [DecidableEq κ] in
theorem refl (keeps : ∀ r, (f r).exhausted = r.exhausted) : Within f f :=
  fun r notCut => ⟨keeps r ▸ notCut, rfl⟩

omit [DecidableEq κ] in
theorem comp (first : Within f g) (second : Within f' g') :
    Within (fun r => f' (f r)) (fun r => g' (g r)) := by
  intro r notCut
  obtain ⟨between, laterSame⟩ := second (f r) notCut
  obtain ⟨before, same⟩ := first r between
  exact ⟨before, (congrArg g' same).trans laterSame⟩

variable {change change' : (Host → Host) → Run κ → Run κ}

theorem act (changes : ∀ hostChange, Within (change hostChange) (change' hostChange))
    (action : Action κ) : Within (Run.act change action) (Run.act change' action) := by
  cases action with
  | openQuery media => exact refl fun r => rfl
  | listen q listener =>
    refine refl fun r => ?_
    simp only [Run.act, Run.listen]
    split <;> rfl
  | unlisten q listener => exact refl fun r => rfl
  | resize width height => exact changes _
  | setEnvironment feature value => exact changes _
  | setMedia query isMatch => exact changes _

theorem perform (changes : ∀ hostChange, Within (change hostChange) (change' hostChange))
    (program : Program κ) : Within (program.perform change) (program.perform change') := by
  induction program with
  | done => exact refl fun r => rfl
  | act action next ih => exact (act changes action).comp fun r => ih r r

variable {call call' : QueryId → κ → Run κ → Run κ}

omit [DecidableEq κ] in
theorem dispatch (calls : ∀ q listener, Within (call q listener) (call' q listener)) (q : QueryId)
    (listeners : List κ) :
    Within (fun r => listeners.foldl (fun r listener => call q listener r) r)
      (fun r => listeners.foldl (fun r listener => call' q listener r) r) := by
  induction listeners with
  | nil => exact refl fun r => rfl
  | cons listener listeners ih => exact (calls q listener).comp ih

omit [DecidableEq κ] in
theorem notify (calls : ∀ q listener, Within (call q listener) (call' q listener))
    (snapshot : List (QueryId × Bool)) :
    Within (Platform.notify Run.platform call snapshot)
      (Platform.notify Run.platform call' snapshot) := by
  induction snapshot with
  | nil => exact refl fun r => rfl
  | cons first rest ih =>
    have turn : Within
        (fun r => if r.platform.isMatch first.1 == first.2 then r
          else (r.platform.listenersOf first.1).foldl (fun r listener => call first.1 listener r) r)
        (fun r => if r.platform.isMatch first.1 == first.2 then r
          else (r.platform.listenersOf first.1).foldl (fun r listener => call' first.1 listener r) r) := by
      intro r
      dsimp only
      split
      · exact fun notCut => ⟨notCut, rfl⟩
      · exact dispatch calls first.1 _ r
    exact turn.comp ih

theorem changeWithin_succ (react : κ → QueryId → Run κ → Program κ) (depth : Nat)
    (hostChange : Host → Host) :
    Within (Run.changeWithin react depth hostChange) (Run.changeWithin react (depth + 1) hostChange) := by
  induction depth generalizing hostChange with
  | zero => exact fun r notCut => absurd notCut (Bool.noConfusion)
  | succ depth ih =>
    intro r
    refine notify (fun q listener => ?_) r.platform.snapshot _
    have told : Within (tell true q listener) (tell true q listener) := refl fun r => rfl
    have performed : Within (fun r => (react listener q r).perform (Run.changeWithin react depth) r)
        (fun r => (react listener q r).perform (Run.changeWithin react (depth + 1)) r) :=
      fun r => perform ih _ r
    exact told.comp performed

end Within

/-- A change that is not cut off at some depth is the same when it is followed deeper. -/
theorem changeWithin_of_le (react : κ → QueryId → Run κ → Program κ) {depth depth' : Nat}
    (deeper : depth ≤ depth') (hostChange : Host → Host) (r : Run κ)
    (notCut : (r.changeWithin react depth hostChange).exhausted = false) :
    r.changeWithin react depth' hostChange = r.changeWithin react depth hostChange := by
  induction deeper with
  | refl => rfl
  | step _ ih =>
    rw [← ih] at notCut
    exact (Within.changeWithin_succ react _ hostChange r notCut).2.trans ih

end Run

/-! ### Runs -/

end Platform
end CondCss
