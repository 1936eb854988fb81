import CondCss.Proofs.Tracking.Listeners

/-!
# Registries that share a platform

A run is made of what several registries do with one platform, and of changes of the host. In every
run the listeners stay in step (`inStep_run`). A registry that is cleaned up is idle: it renders
nothing, whatever happens, until it registers again (`Idle.run`).
-/

namespace CondCss
namespace Tracking

variable {render : Nat → Renderer} {t : Tracking} {i j : Nat} {query : Text} {s : Subscriber}

/-! ### Renderings of a registry -/

/-- The subscriber that a registry rendered, if an entry of the journal says so. -/
def renderedBy? (i : Nat) : Entry → Option Subscriber
  | .rendered j s => if j = i then some s else none
  | _ => none

/-- The subscribers that a registry rendered so far, in order. -/
def renderedBy (i : Nat) (t : Tracking) : List Subscriber :=
  t.journal.filterMap (renderedBy? i)

theorem renderedBy_write {e : Entry} (quiet : ∀ s, e ≠ .rendered i s) (t : Tracking) :
    (t.write e).renderedBy i = t.renderedBy i := by
  have nothing : renderedBy? i e = none := by
    cases e with
    | rendered j s =>
      refine if_neg ?_
      rintro rfl
      exact quiet s rfl
    | _ => rfl
  unfold renderedBy write
  rw [List.filterMap_append, List.filterMap_cons_none nothing, List.filterMap_nil, List.append_nil]

theorem renderedBy_note (message : String) (t : Tracking) :
    (t.note message).renderedBy i = t.renderedBy i :=
  renderedBy_write (by rintro s ⟨⟩) t

theorem renderedBy_of_quiet {t' : Tracking} (h : Quiet t t') : t'.renderedBy i = t.renderedBy i := by
  obtain ⟨new, journal, quiet⟩ := h
  have nothing : new.filterMap (renderedBy? i) = [] := by
    refine List.filterMap_eq_nil_iff.2 fun e member => ?_
    cases e with
    | rendered j s => exact absurd rfl (quiet _ member j s)
    | _ => rfl
  rw [renderedBy, journal, List.filterMap_append, nothing, List.append_nil, renderedBy]

theorem renderedBy_register (t : Tracking) (j : Nat) (query : Text) (s : Subscriber) :
    (t.register j query s).renderedBy i = t.renderedBy i :=
  renderedBy_of_quiet (quiet_register t j query s)

theorem renderedBy_absorb (t : Tracking) (j : Nat) (subscriber : Option Subscriber)
    (effects : List Effect) : (t.absorb j subscriber effects).renderedBy i = t.renderedBy i :=
  renderedBy_of_quiet (quiet_absorb t j subscriber effects)

theorem renderedBy_cleanup (t : Tracking) (j : Nat) :
    (t.cleanup j).renderedBy i = t.renderedBy i :=
  List.foldlRecOn (motive := fun t' : Tracking => t'.renderedBy i = t.renderedBy i)
    (t.registry j).listeners (stopListening j) rfl fun _ h _ _ => (renderedBy_note _ _).trans h

/-! ### Registries that are cleaned up -/

/-- A registry is empty, and has rendered these subscribers so far. -/
structure Idle (i : Nat) (rendered : List Subscriber) (t : Tracking) : Prop where
  empty : t.registry i = {}
  rendered : t.renderedBy i = rendered

variable {rendered : List Subscriber}

theorem registry_listen_of_ne (other : j ≠ i) (query : Text) :
    (t.listen j query).registry i = t.registry i := by
  cases able : t.platform.host.failing.contains .matchMedia with
  | true =>
    unfold registry
    rw [(listen_of_unable able j query).2.1]
  | false =>
    rw [registry, (listen_of_able able j query).2.1]
    change (t.modifyRegistry j _).registry i = _
    rw [registry_modifyRegistry, if_neg fun both => other both.1]

/-- To register for one registry leaves the others alone. -/
theorem registry_register_of_ne (other : j ≠ i) (query : Text) (s : Subscriber) :
    (t.register j query s).registry i = t.registry i := by
  have subscribed : (t.modifyRegistry j (·.subscribe query s)).registry i = t.registry i := by
    rw [registry_modifyRegistry, if_neg fun both => other both.1]
  unfold register
  simp only
  split
  · exact subscribed
  · exact (registry_listen_of_ne other query).trans subscribed

theorem registry_absorb_of_ne (other : j ≠ i) (subscriber : Option Subscriber)
    (effects : List Effect) : (t.absorb j subscriber effects).registry i = t.registry i := by
  refine absorb_induction (P := fun t' => t'.registry i = t.registry i) ?_ ?_ effects rfl
  · intro t' query s kept
    exact (registry_register_of_ne other query s).trans kept
  · intro t' e _ kept
    exact kept

theorem idle_cleanup (t : Tracking) (i : Nat) : Idle i (t.renderedBy i) (t.cleanup i) := by
  refine ⟨?_, renderedBy_cleanup t i⟩
  rw [registry_cleanup, if_pos rfl]

theorem Idle.ne_of_mem (h : Idle i rendered t)
    (member : s ∈ (t.registry j).subscribersOf query) : j ≠ i := by
  rintro rfl
  rw [h.empty] at member
  exact absurd member List.not_mem_nil

theorem Idle.absorb (h : Idle i rendered t) (other : j ≠ i) (subscriber : Option Subscriber)
    (effects : List Effect) : Idle i rendered (t.absorb j subscriber effects) :=
  ⟨(registry_absorb_of_ne other subscriber effects).trans h.empty,
    (renderedBy_absorb t j subscriber effects).trans h.rendered⟩

theorem stable_idle (i : Nat) (rendered : List Subscriber) : Stable render (Idle i rendered) where
  write quiet h := ⟨h.empty, (renderedBy_write (quiet i) _).trans h.rendered⟩
  refresh {t j query s} member h := by
    have other : j ≠ i := h.ne_of_mem member
    have written : Idle i rendered (t.write (.rendered j s)) := by
      refine ⟨h.empty, (renderedBy_write ?_ t).trans h.rendered⟩
      rintro s' ⟨⟩
      exact other rfl
    rcases refresh_cases render t j query s with
      ⟨message, failed⟩ | ⟨effects, kept | ⟨text, changed⟩⟩
    · rw [failed]
      exact ⟨written.empty, (renderedBy_note message _).trans written.rendered⟩
    · rw [kept]
      exact written.absorb other (some s) effects
    · rw [changed]
      obtain ⟨empty, rendered⟩ := written.absorb other (some s) effects
      exact ⟨empty, rendered⟩

/-! ### Runs -/

/-- What can be done with so many registries: to register, render again or clean up for one of them,
    and to change the host, also in whether it can answer. -/
inductive Action (n : Nat) where
  | register (i : Fin n) (query : Text) (s : Subscriber)
  | reprocess (i : Fin n) (query : Text)
  | cleanup (i : Fin n)
  | changeHost (change : Host → Host)

variable {n : Nat}

/-- Carries out an action. -/
def perform (render : Nat → Renderer) (t : Tracking) : Action n → Tracking
  | .register i query s => t.register i query s
  | .reprocess i query => (t.reprocess render i query).1
  | .cleanup i => t.cleanup i
  | .changeHost change => t.changeHost render change

/-- Carries out actions, one after the other. -/
def run (render : Nat → Renderer) (actions : List (Action n)) (t : Tracking) : Tracking :=
  actions.foldl (perform render) t

/-- So many empty registries on a host that nobody listens to. -/
def start (n : Nat) (host : Host) (nodes : Nodes) : Tracking :=
  { platform := { host }, nodes, registries := List.replicate n {} }

theorem length_registries_perform (t : Tracking) (a : Action n) :
    (t.perform render a).registries.length = t.registries.length := by
  cases a with
  | register i query s => exact (grows_register t i query s).registries
  | reprocess i query => exact ((stable_grows t).reprocess (.refl t)).registries
  | cleanup i =>
    rw [perform, registries_cleanup, List.length_modify]
  | changeHost change =>
    have grows : Grows { t with platform := t.platform.changeHost change }
        (t.changeHost render change) := (stable_grows _).changeHost (.refl _)
    exact grows.registries

theorem inStep_start (n : Nat) (host : Host) (nodes : Nodes) : InStep (start n host nodes) := by
  have empty (i : Nat) : (start n host nodes).registry i = {} := by
    unfold registry start
    rw [List.getElem?_replicate]
    split <;> rfl
  have unheard (q : QueryId) : (start n host nodes).platform.listenersOf q = [] := rfl
  have unwatched : (start n host nodes).platform.watched = [] := rfl
  constructor <;> simp [empty, unheard, unwatched, Registry.subscribersOf]

/-- Every action keeps the listeners in step. -/
theorem InStep.perform (h : InStep t) (size : t.registries.length = n) (a : Action n) :
    InStep (t.perform render a) := by
  cases a with
  | register i query s => exact h.register (size ▸ i.isLt) query s
  | reprocess i query => exact stable_inStep.reprocess h
  | cleanup i => exact h.cleanup i
  | changeHost change => exact h.changeHost change

theorem inStep_run (render : Nat → Renderer) (n : Nat) (host : Host) (nodes : Nodes)
    (actions : List (Action n)) :
    InStep ((start n host nodes).run render actions) ∧
      ((start n host nodes).run render actions).registries.length = n := by
  refine List.foldlRecOn actions (perform render)
    (motive := fun t => InStep t ∧ t.registries.length = n)
    ⟨inStep_start n host nodes, List.length_replicate⟩ ?_
  rintro t ⟨h, size⟩ a -
  exact ⟨h.perform size a, (length_registries_perform t a).trans size⟩

/-- A registry stays idle as long as it does not register. -/
theorem Idle.perform (h : Idle i rendered t) (a : Action n)
    (other : ∀ j query s, a = .register j query s → j.val ≠ i) :
    Idle i rendered (t.perform render a) := by
  cases a with
  | register j query s =>
    have ne : j.val ≠ i := other j query s rfl
    exact ⟨(registry_register_of_ne ne query s).trans h.empty,
      (renderedBy_register t j query s).trans h.rendered⟩
  | reprocess j query => exact (stable_idle i rendered).reprocess h
  | cleanup j =>
    refine ⟨?_, (renderedBy_cleanup t j).trans h.rendered⟩
    rw [Tracking.perform, registry_cleanup, h.empty]
    split <;> rfl
  | changeHost change => exact (stable_idle i rendered).changeHost ⟨h.empty, h.rendered⟩

theorem Idle.run (h : Idle i rendered t) {actions : List (Action n)}
    (other : ∀ j query s, .register j query s ∈ actions → j.val ≠ i) :
    Idle i rendered (t.run render actions) := by
  refine List.foldlRecOn actions (Tracking.perform render) h fun t' h' a member => ?_
  refine h'.perform a ?_
  rintro j query s rfl
  exact other j query s member

/-- However registries share a platform, their listeners and those of the platform stay in step: a
    registry has one for a query at most, on a live query of its own, and the platform has as many as
    the registries. Registering twice is registering once. Cleaning up empties a registry and leaves
    the listeners of the others alone, and the registry renders nothing until it registers again. -/
theorem listeners_in_step (render : Nat → Renderer) (n : Nat) (host : Host) (nodes : Nodes)
    (actions : List (Action n)) :
    let t := (start n host nodes).run render actions
    InStep t ∧
    (∀ (i : Nat) (query : Text) (q q' : QueryId), (i, query) ∈ t.platform.listenersOf q →
      (i, query) ∈ t.platform.listenersOf q' → q = q') ∧
    t.platform.listenerCount = (t.registries.map (·.listeners.length)).sum ∧
    (∀ (i : Fin n) (query : Text) (s : Subscriber),
      let once := t.register i query s
      (once.register i query s).registries = once.registries ∧
        (once.register i query s).platform = once.platform) ∧
    ∀ i : Fin n,
      (t.cleanup i).registry i = {} ∧
      (∀ j, j ≠ i.val → (t.cleanup i).registry j = t.registry j ∧
        ∀ query q, (query, q) ∈ (t.registry j).listeners →
          (t.cleanup i).platform.queries[q]? = t.platform.queries[q]? ∧
            q ∈ (t.cleanup i).platform.watched) ∧
      ∀ later : List (Action n), (∀ query s, .register i query s ∉ later) →
        ((t.cleanup i).run render later).renderedBy i = t.renderedBy i := by
  intro t
  obtain ⟨inStep, size⟩ : InStep t ∧ t.registries.length = n :=
    inStep_run render n host nodes actions
  have inside (i : Fin n) : i < t.registries.length := size.symm ▸ i.isLt
  refine ⟨inStep, fun i query q q' => inStep.listener_unique, inStep.listenerCount_eq,
    fun i query s => register_register (inside i) query s, fun i => ?_⟩
  have idle := idle_cleanup t i
  refine ⟨idle.empty, fun j other => inStep.cleanup_of_ne other.symm, fun later silent => ?_⟩
  have stillIdle : Idle i (t.renderedBy i) ((t.cleanup i).run render later) := by
    refine idle.run fun j query s member same => ?_
    obtain rfl : j = i := Fin.ext same
    exact silent query s member
  exact stillIdle.rendered

end Tracking
end CondCss
