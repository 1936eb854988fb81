import Mathlib.Algebra.GroupWithZero.Nat
import Mathlib.Data.List.Nodup
import CondCss.Proofs.Tracking.Reactions

/-!
# Listeners in step

Several registries share a platform. What they know of their listeners and what the platform knows of
them belongs together (`InStep`). Registering, reacting to a change of the host and cleaning up keep
it so, also when the platform cannot answer. It follows that the platform has as many listeners as
the registries (`InStep.listenerCount_eq`), and that to clean up one registry leaves the listeners of
the others alone (`InStep.cleanup_of_ne`).
-/

namespace CondCss

/-! ### Live queries with one listener -/

namespace Platform

variable {κ : Type} [BEq κ] [LawfulBEq κ] {p : Platform κ} {media : Text} {listener : κ} {q : QueryId}

/-- Without its only listener a live query is not watched. -/
theorem unlisten_of_alone (alone : p.queries[q]? = some ⟨media, [listener]⟩) :
    p.unlisten q listener =
      { p with
        queries := p.queries.modify q fun query => { query with listeners := [] }
        watched := p.watched.erase q } := by
  have before : p.listenersOf q = [listener] := by
    rw [listenersOf, alone]
    rfl
  have after : (p.setListeners q []).listenersOf q = [] := by
    rw [listenersOf, setListeners, List.getElem?_modify_eq, alone]
    rfl
  rw [unlisten, before, List.erase_cons_head]
  simp only [after, List.isEmpty_nil, if_true]
  rfl

/-- Removing the only listeners of some live queries clears these, and nothing else. -/
theorem foldl_unlisten {entries : List (κ × QueryId)}
    (alone : ∀ e ∈ entries, ∃ media, p.queries[e.2]? = some ⟨media, [e.1]⟩)
    (distinct : (entries.map Prod.snd).Nodup) (once : p.watched.Nodup) :
    let p' := entries.foldl (fun p e => p.unlisten e.2 e.1) p
    (∀ q, q ∉ entries.map Prod.snd → p'.queries[q]? = p.queries[q]?) ∧
      (∀ q ∈ entries.map Prod.snd, p'.listenersOf q = []) ∧
      p'.watched = p.watched.filter fun q => !(entries.map Prod.snd).contains q := by
  induction entries generalizing p with
  | nil => simp
  | cons e entries ih =>
    obtain ⟨media, here⟩ := alone e List.mem_cons_self
    obtain ⟨other, distinct⟩ := List.nodup_cons.1 distinct
    have first := unlisten_of_alone here
    have kept (q : QueryId) (ne : q ≠ e.2) :
        (p.unlisten e.2 e.1).queries[q]? = p.queries[q]? := by
      rw [first]
      exact List.getElem?_modify_ne _ _ ne.symm
    have cleared : (p.unlisten e.2 e.1).listenersOf e.2 = [] := by
      rw [first, listenersOf, List.getElem?_modify_eq, here]
      rfl
    have watched : (p.unlisten e.2 e.1).watched = p.watched.filter (· != e.2) := by
      rw [first]
      exact once.erase_eq_filter e.2
    -- The other live queries still have their only listener, since they are different ones.
    have aloneLater : ∀ e' ∈ entries, ∃ media,
        (p.unlisten e.2 e.1).queries[e'.2]? = some ⟨media, [e'.1]⟩ := by
      intro e' member
      obtain ⟨media', there⟩ := alone e' (List.mem_cons_of_mem e member)
      have ne : e'.2 ≠ e.2 := fun same => other (same ▸ List.mem_map_of_mem member)
      exact ⟨media', (kept _ ne).trans there⟩
    obtain ⟨keptLater, clearedLater, watchedLater⟩ :=
      ih aloneLater distinct (watched ▸ once.filter _)
    refine ⟨fun q outside => ?_, fun q inside => ?_, ?_⟩
    · rw [List.map_cons, List.mem_cons, not_or] at outside
      exact (keptLater q outside.2).trans (kept q outside.1)
    · rcases List.mem_cons.1 inside with rfl | later
      · rw [List.foldl_cons, listenersOf, keptLater _ other]
        exact cleared
      · exact clearedLater q later
    · rw [List.foldl_cons, watchedLater, watched, List.filter_filter]
      refine List.filter_congr fun q _ => ?_
      rw [List.map_cons, List.contains_cons, Bool.not_or, Bool.and_comm]
      rfl

end Platform

namespace Tracking

variable {render : Nat → Renderer} {t t' : Tracking} {i j : Nat} {query query' : Text} {q : QueryId}
  {s : Subscriber}

/-- No subscriber is listed twice for a query after one is added. -/
theorem nodup_subscribersOf_subscribe {r : Registry}
    (h : ∀ query, (r.subscribersOf query).Nodup) (query query' : Text) (s : Subscriber) :
    ((r.subscribe query s).subscribersOf query').Nodup := by
  rw [Registry.subscribersOf_subscribe]
  split
  · split
    · exact h query
    · rename_i new
      rw [← List.concat_eq_append]
      exact (h query).concat fun member => new (List.contains_iff_mem.2 member)
  · exact h query'

/-- The listeners of the registries and the live queries of the platform belong together. -/
structure InStep (t : Tracking) : Prop where
  /-- A registry has at most one listener for a query. -/
  single : ∀ i, ((t.registry i).listeners.map Prod.fst).Nodup
  /-- A query that is listened to has subscribers. -/
  listed : ∀ {i : Nat} {query : Text} {q : QueryId}, (query, q) ∈ (t.registry i).listeners →
    (t.registry i).subscribersOf query ≠ []
  /-- No subscriber is listed twice. -/
  distinct : ∀ i query, ((t.registry i).subscribersOf query).Nodup
  /-- The live query of a listener asks for the query and has this listener alone. -/
  live : ∀ {i : Nat} {query : Text} {q : QueryId}, (query, q) ∈ (t.registry i).listeners →
    t.platform.queries[q]? = some ⟨['('] ++ query ++ [')'], [(i, query)]⟩
  /-- No live query has a listener that its registry does not know. -/
  known : ∀ {i : Nat} {query : Text} {q : QueryId}, (i, query) ∈ t.platform.listenersOf q →
    (query, q) ∈ (t.registry i).listeners
  /-- The watched live queries are those of the registries. -/
  watched : ∀ {q : QueryId}, q ∈ t.platform.watched ↔
    ∃ i query, (query, q) ∈ (t.registry i).listeners
  /-- No live query is watched twice. -/
  once : t.platform.watched.Nodup

/-! ### What belongs together -/

theorem lt_of_mem_listeners (h : (query, q) ∈ (t.registry i).listeners) :
    i < t.registries.length := by
  rcases Nat.lt_or_ge i t.registries.length with inside | beyond
  · exact inside
  · rw [registry_of_length_le beyond] at h
    exact absurd h List.not_mem_nil

namespace InStep

/-- A live query has one owner. -/
theorem owner_unique (h : InStep t) (first : (query, q) ∈ (t.registry i).listeners)
    (second : (query', q) ∈ (t.registry j).listeners) : i = j ∧ query = query' := by
  have same := (h.live first).symm.trans (h.live second)
  simp only [Option.some.injEq, LiveQuery.mk.injEq, List.cons.injEq, Prod.mk.injEq] at same
  exact same.2.1

/-- The live queries of a registry are different ones. -/
theorem nodup_live (h : InStep t) (i : Nat) : ((t.registry i).listeners.map Prod.snd).Nodup := by
  refine List.Nodup.map_on ?_ (h.single i).of_map
  rintro ⟨query, q⟩ first ⟨query', q'⟩ second same
  obtain rfl : q = q' := same
  obtain ⟨-, rfl⟩ := h.owner_unique first second
  rfl

/-- A registry has at most one listener for a query on the platform. -/
theorem listener_unique (h : InStep t) {q' : QueryId} (first : (i, query) ∈ t.platform.listenersOf q)
    (second : (i, query) ∈ t.platform.listenersOf q') : q = q' := by
  have same := List.inj_on_of_nodup_map (h.single i) (h.known first) (h.known second) rfl
  exact (Prod.mk.inj same).2

/-- What is in step does not concern the host, the nodes and the journal. -/
theorem of_eq (h : InStep t) (queries : t'.platform.queries = t.platform.queries)
    (watched : t'.platform.watched = t.platform.watched)
    (registries : t'.registries = t.registries) : InStep t' := by
  have registry (i : Nat) : t'.registry i = t.registry i := by
    unfold Tracking.registry
    rw [registries]
  have listenersOf (q : QueryId) : t'.platform.listenersOf q = t.platform.listenersOf q := by
    rw [Platform.listenersOf, queries, Platform.listenersOf]
  constructor
  case single => simpa only [registry] using h.single
  case listed =>
    intro i query q member
    rw [registry] at member ⊢
    exact h.listed member
  case distinct => simpa only [registry] using h.distinct
  case live =>
    intro i query q member
    rw [registry] at member
    exact queries ▸ h.live member
  case known =>
    intro i query q heard
    rw [listenersOf] at heard
    rw [registry]
    exact h.known heard
  case watched =>
    intro q
    simp only [registry, watched]
    exact h.watched
  case once => exact watched ▸ h.once

/-! ### Registering -/

theorem subscribe (h : InStep t) (i : Nat) (query : Text) (s : Subscriber) :
    InStep (t.modifyRegistry i (·.subscribe query s)) where
  single j := by
    rw [listeners_modifyRegistry_subscribe]
    exact h.single j
  listed {j query' q} member := by
    rw [listeners_modifyRegistry_subscribe] at member
    obtain ⟨s', member'⟩ := List.exists_mem_of_ne_nil _ (h.listed member)
    apply List.ne_nil_of_mem (a := s')
    rw [registry_modifyRegistry]
    split
    · exact Registry.mem_subscribersOf_subscribe.2 (.inl member')
    · exact member'
  distinct j query' := by
    rw [registry_modifyRegistry]
    split
    · exact nodup_subscribersOf_subscribe (h.distinct j) query query' s
    · exact h.distinct j query'
  live {j query' q} member := by
    rw [listeners_modifyRegistry_subscribe] at member
    exact h.live member
  known {j query' q} heard := by
    rw [listeners_modifyRegistry_subscribe]
    exact h.known heard
  watched {q} := by
    simp only [listeners_modifyRegistry_subscribe]
    exact h.watched
  once := h.once

/-- A registry that has no listener for a query gets one, with a live query of its own. -/
theorem listen_of_able (h : InStep t) (inside : i < t.registries.length)
    (fresh : Assoc.contains query (t.registry i).listeners = false)
    (listed : (t.registry i).subscribersOf query ≠ [])
    (able : t.platform.host.failing.contains .matchMedia = false) :
    InStep (t.listen i query) where
  single j := by
    rw [listeners_listen able]
    split
    · rename_i here
      obtain ⟨rfl, -⟩ := here
      rw [List.map_append, List.map_singleton, ← List.concat_eq_append]
      refine (h.single i).concat fun member => ?_
      obtain ⟨entry, isEntry, same⟩ := List.mem_map.1 member
      have found : Assoc.contains query (t.registry i).listeners = true :=
        List.any_eq_true.2 ⟨entry, isEntry, beq_iff_eq.2 same⟩
      exact Bool.false_ne_true (fresh.symm.trans found)
    · exact h.single j
  listed {j query' q} member := by
    rw [subscribersOf_listen]
    rcases (mem_listeners_listen able).1 member with old | ⟨rfl, -, rfl, -⟩
    · exact h.listed old
    · exact listed
  distinct j query' := by
    rw [subscribersOf_listen]
    exact h.distinct j query'
  live {j query' q} member := by
    rw [(Tracking.listen_of_able able i query).1, Platform.openAndListen_eq]
    rcases (mem_listeners_listen able).1 member with old | ⟨rfl, -, rfl, rfl⟩
    · have live := h.live old
      rw [List.getElem?_append_left (List.getElem?_eq_some_iff.1 live).1]
      exact live
    · simp
  known {j query' q} heard := by
    rw [(Tracking.listen_of_able able i query).1] at heard
    rcases Nat.lt_or_ge q t.platform.queries.length with old | beyond
    · rw [(Platform.openAndListen_old _ _ old).1] at heard
      exact (mem_listeners_listen able).2 (.inl (h.known heard))
    · have last := Platform.lt_of_mem_listenersOf heard
      rw [Platform.length_queries_openAndListen] at last
      obtain rfl : q = t.platform.queries.length := Nat.eq_of_le_of_lt_succ beyond last
      rw [(Platform.openAndListen_new _ _ t.platform).1, List.mem_singleton] at heard
      obtain ⟨rfl, rfl⟩ := Prod.mk.inj heard
      exact (mem_listeners_listen able).2 (.inr ⟨rfl, inside, rfl, rfl⟩)
  watched {q} := by
    rw [(Tracking.listen_of_able able i query).1, Platform.mem_watched_openAndListen, h.watched]
    simp only [mem_listeners_listen able]
    constructor
    · rintro (⟨j, query', old⟩ | isNew)
      · exact ⟨j, query', .inl old⟩
      · exact ⟨i, query, .inr ⟨rfl, inside, rfl, isNew⟩⟩
    · rintro ⟨j, query', old | ⟨-, -, -, isNew⟩⟩
      · exact .inl ⟨j, query', old⟩
      · exact .inr isNew
  once := by
    rw [(Tracking.listen_of_able able i query).1, Platform.openAndListen_eq]
    simp only
    split
    · exact h.once
    · rename_i unwatched
      rw [← List.concat_eq_append]
      exact h.once.concat fun member => unwatched (List.contains_iff_mem.2 member)

theorem listen (h : InStep t) (inside : i < t.registries.length)
    (fresh : Assoc.contains query (t.registry i).listeners = false)
    (listed : (t.registry i).subscribersOf query ≠ []) : InStep (t.listen i query) := by
  cases able : t.platform.host.failing.contains .matchMedia with
  | true =>
    obtain ⟨platform, registries, -⟩ := listen_of_unable able i query
    exact h.of_eq (by rw [platform]) (by rw [platform]) registries
  | false => exact h.listen_of_able inside fresh listed able

theorem register (h : InStep t) (inside : i < t.registries.length) (query : Text) (s : Subscriber) :
    InStep (t.register i query s) := by
  have subscribed := h.subscribe i query s
  have listed : s ∈ ((t.modifyRegistry i (·.subscribe query s)).registry i).subscribersOf query := by
    rw [registry_modifyRegistry, if_pos ⟨rfl, inside⟩]
    exact Registry.mem_subscribersOf_subscribe.2 (.inr ⟨rfl, rfl⟩)
  unfold Tracking.register
  simp only
  split
  · exact subscribed
  · rename_i fresh
    refine subscribed.listen ?_ (Bool.not_eq_true _ ▸ fresh) (List.ne_nil_of_mem listed)
    simpa [modifyRegistry] using inside

theorem absorb (h : InStep t) (inside : i < t.registries.length) (subscriber : Option Subscriber)
    (effects : List Effect) : InStep (t.absorb i subscriber effects) := by
  have kept : InStep (t.absorb i subscriber effects) ∧
      i < (t.absorb i subscriber effects).registries.length := by
    refine absorb_induction (P := fun t => InStep t ∧ i < t.registries.length) ?_ ?_ effects
      ⟨h, inside⟩
    · rintro t query s ⟨h, inside⟩
      exact ⟨h.register inside query s, (grows_register t i query s).registries ▸ inside⟩
    · rintro t e - ⟨h, inside⟩
      exact ⟨h.of_eq rfl rfl rfl, inside⟩
  exact kept.1

end InStep

/-! ### Reacting -/

theorem stable_inStep : Stable render InStep where
  write _ h := h.of_eq rfl rfl rfl
  refresh {t i query s} member h := by
    have written : InStep (t.write (.rendered i s)) := h.of_eq rfl rfl rfl
    have inside : i < (t.write (.rendered i s)).registries.length := lt_of_mem_subscribersOf member
    rcases refresh_cases render t i query s with
      ⟨message, failed⟩ | ⟨effects, kept | ⟨text, changed⟩⟩
    · rw [failed]
      exact written.of_eq rfl rfl rfl
    · rw [kept]
      exact written.absorb inside (some s) effects
    · rw [changed]
      exact (written.absorb inside (some s) effects).of_eq rfl rfl rfl

theorem InStep.changeHost (h : InStep t) (change : Host → Host) :
    InStep (t.changeHost render change) :=
  stable_inStep.changeHost (h.of_eq rfl rfl rfl)

/-! ### Cleaning up -/

/-- Removes one listener of a registry. -/
def stopListening (i : Nat) (t : Tracking) (entry : Text × QueryId) : Tracking :=
  { t with platform := t.platform.unlisten entry.2 (i, entry.1) }.note
    ("Cleaned up media query listener: " ++ String.ofList entry.1)

theorem cleanup_eq (t : Tracking) (i : Nat) :
    t.cleanup i =
      ((t.registry i).listeners.foldl (stopListening i) t).modifyRegistry i fun _ => {} := rfl

theorem registries_cleanup (t : Tracking) (i : Nat) :
    (t.cleanup i).registries = t.registries.modify i fun _ => {} := by
  have kept : ((t.registry i).listeners.foldl (stopListening i) t).registries = t.registries :=
    List.foldlRecOn (motive := fun t' : Tracking => t'.registries = t.registries)
      (t.registry i).listeners (stopListening i) rfl fun _ h _ _ => h
  rw [cleanup_eq, modifyRegistry, kept]

theorem registry_cleanup (t : Tracking) (i j : Nat) :
    (t.cleanup i).registry j = if i = j then {} else t.registry j := by
  rw [registry, registries_cleanup]
  change (t.modifyRegistry i _).registry j = _
  rw [registry_modifyRegistry]
  by_cases same : i = j
  · subst same
    rcases Nat.lt_or_ge i t.registries.length with inside | beyond
    · rw [if_pos ⟨rfl, inside⟩, if_pos rfl]
    · rw [if_pos rfl, registry_of_length_le beyond, ite_self]
  · rw [if_neg fun both => same both.1, if_neg same]

theorem platform_cleanup (t : Tracking) (i : Nat) :
    (t.cleanup i).platform = ((t.registry i).listeners.map fun e => ((i, e.1), e.2)).foldl
      (fun p e => p.unlisten e.2 e.1) t.platform := by
  rw [List.foldl_map]
  exact (List.foldl_hom Tracking.platform fun _ _ => rfl).symm

/-- Cleaning up a registry clears its live queries, and nothing else. -/
theorem InStep.platform_cleanup (h : InStep t) (i : Nat) :
    (∀ q, q ∉ (t.registry i).listeners.map Prod.snd →
      (t.cleanup i).platform.queries[q]? = t.platform.queries[q]?) ∧
    (∀ q ∈ (t.registry i).listeners.map Prod.snd, (t.cleanup i).platform.listenersOf q = []) ∧
    (t.cleanup i).platform.watched =
      t.platform.watched.filter fun q => !((t.registry i).listeners.map Prod.snd).contains q := by
  have same : ((t.registry i).listeners.map fun e => ((i, e.1), e.2)).map Prod.snd =
      (t.registry i).listeners.map Prod.snd := by
    rw [List.map_map]
    rfl
  have alone : ∀ e ∈ (t.registry i).listeners.map fun e => ((i, e.1), e.2), ∃ media,
      t.platform.queries[e.2]? = some ⟨media, [e.1]⟩ := by
    intro e member
    obtain ⟨⟨query, q⟩, isEntry, rfl⟩ := List.mem_map.1 member
    exact ⟨_, h.live isEntry⟩
  have cleared := Platform.foldl_unlisten alone (same ▸ h.nodup_live i) h.once
  rw [same] at cleared
  rw [Tracking.platform_cleanup]
  exact cleared

theorem mem_listeners_cleanup :
    (query, q) ∈ ((t.cleanup i).registry j).listeners ↔
      i ≠ j ∧ (query, q) ∈ (t.registry j).listeners := by
  rw [registry_cleanup]
  split
  · rename_i same
    simp [same]
  · rename_i other
    simp [other]

theorem InStep.cleanup (h : InStep t) (i : Nat) : InStep (t.cleanup i) := by
  obtain ⟨kept, cleared, watched⟩ := h.platform_cleanup i
  have outside {j : Nat} {query : Text} {q : QueryId} (ne : i ≠ j)
      (member : (query, q) ∈ (t.registry j).listeners) :
      q ∉ (t.registry i).listeners.map Prod.snd := by
    intro own
    obtain ⟨⟨query', q'⟩, isOwn, rfl⟩ := List.mem_map.1 own
    exact ne (h.owner_unique isOwn member).1
  constructor
  case single =>
    intro j
    rw [registry_cleanup]
    split
    · exact List.nodup_nil
    · exact h.single j
  case listed =>
    intro j query q member
    obtain ⟨ne, old⟩ := mem_listeners_cleanup.1 member
    rw [registry_cleanup, if_neg ne]
    exact h.listed old
  case distinct =>
    intro j query
    rw [registry_cleanup]
    split
    · exact List.nodup_nil
    · exact h.distinct j query
  case live =>
    intro j query q member
    obtain ⟨ne, old⟩ := mem_listeners_cleanup.1 member
    exact (kept q (outside ne old)).trans (h.live old)
  case known =>
    intro j query q heard
    by_cases own : q ∈ (t.registry i).listeners.map Prod.snd
    · rw [cleared q own] at heard
      exact absurd heard List.not_mem_nil
    · rw [Platform.listenersOf, kept q own] at heard
      have old := h.known heard
      refine mem_listeners_cleanup.2 ⟨?_, old⟩
      rintro rfl
      exact own (List.mem_map_of_mem old)
  case watched =>
    intro q
    simp only [watched, mem_listeners_cleanup, List.mem_filter, h.watched, Bool.not_eq_true',
      List.contains_eq_mem, decide_eq_false_iff_not]
    constructor
    · rintro ⟨⟨j, query, old⟩, own⟩
      refine ⟨j, query, ?_, old⟩
      rintro rfl
      exact own (List.mem_map_of_mem old)
    · rintro ⟨j, query, ne, old⟩
      exact ⟨⟨j, query, old⟩, outside ne old⟩
  case once =>
    rw [watched]
    exact h.once.filter _

/-- Cleaning up a registry leaves the listeners of the others alone. -/
theorem InStep.cleanup_of_ne (h : InStep t) (other : i ≠ j) :
    (t.cleanup i).registry j = t.registry j ∧
      ∀ query q, (query, q) ∈ (t.registry j).listeners →
        (t.cleanup i).platform.queries[q]? = t.platform.queries[q]? ∧
          q ∈ (t.cleanup i).platform.watched := by
  have same : (t.cleanup i).registry j = t.registry j := by
    rw [registry_cleanup, if_neg other]
  refine ⟨same, fun query q member => ?_⟩
  have still : (query, q) ∈ ((t.cleanup i).registry j).listeners := same ▸ member
  have after := h.cleanup i
  exact ⟨(after.live still).trans (h.live member).symm, after.watched.2 ⟨j, query, still⟩⟩

/-! ### Counting -/

/-- The live queries of all registries. -/
def liveQueries (t : Tracking) : List QueryId :=
  (List.range t.registries.length).flatMap fun i => (t.registry i).listeners.map Prod.snd

theorem length_liveQueries (t : Tracking) :
    t.liveQueries.length = (t.registries.map (·.listeners.length)).sum := by
  have all : t.registries = (List.range t.registries.length).map t.registry := by
    refine List.ext_getElem (by simp) fun i inside _ => ?_
    simp [registry, List.getElem?_eq_getElem inside]
  conv_rhs => rw [all]
  simp [liveQueries, List.length_flatMap, List.map_map, Function.comp_def]

theorem InStep.perm_liveQueries (h : InStep t) : t.platform.watched.Perm t.liveQueries := by
  have distinct : t.liveQueries.Nodup := by
    refine List.nodup_flatMap.2 ⟨fun i _ => h.nodup_live i, ?_⟩
    refine List.nodup_range.imp fun {i j} ne q first second => ?_
    obtain ⟨⟨query, q⟩, isFirst, rfl⟩ := List.mem_map.1 first
    obtain ⟨⟨query', q'⟩, isSecond, same⟩ := List.mem_map.1 second
    obtain rfl : q' = q := same
    exact ne (h.owner_unique isFirst isSecond).1
  refine (List.perm_ext_iff_of_nodup h.once distinct).2 fun q => h.watched.trans ?_
  simp only [liveQueries, List.mem_flatMap, List.mem_map]
  constructor
  · rintro ⟨i, query, isEntry⟩
    exact ⟨i, List.mem_range.2 (lt_of_mem_listeners isEntry), (query, q), isEntry, rfl⟩
  · rintro ⟨i, -, ⟨query, q⟩, isEntry, rfl⟩
    exact ⟨i, query, isEntry⟩

/-- The platform has as many listeners as the registries have. -/
theorem InStep.listenerCount_eq (h : InStep t) :
    t.platform.listenerCount = (t.registries.map (·.listeners.length)).sum := by
  have alone : ∀ q ∈ t.platform.watched, (t.platform.listenersOf q).length = 1 := by
    intro q member
    obtain ⟨i, query, isEntry⟩ := h.watched.1 member
    rw [Platform.listenersOf, h.live isEntry]
    rfl
  calc t.platform.listenerCount
    _ = (t.platform.watched.map fun q => (t.platform.listenersOf q).length).sum :=
      List.length_flatMap ..
    _ = t.platform.watched.length := by rw [List.map_congr_left alone]; simp
    _ = t.liveQueries.length := h.perm_liveQueries.length_eq
    _ = (t.registries.map (·.listeners.length)).sum := length_liveQueries t

/-! ### Registering twice -/

theorem modifyRegistry_eq_self {f : Registry → Registry} (same : f (t.registry i) = t.registry i) :
    t.modifyRegistry i f = t := by
  have kept : t.registries.modify i f = t.registries := by
    refine List.ext_getElem? fun j => ?_
    by_cases here : i = j
    · subst here
      rw [List.getElem?_modify_eq]
      unfold registry at same
      cases found : t.registries[i]? with
      | none => rfl
      | some r =>
        rw [found] at same
        exact congrArg some same
    · rw [List.getElem?_modify_ne _ _ here]
  unfold modifyRegistry
  rw [kept]

/-- To register a second time adds neither a subscriber nor a listener. -/
theorem register_register (inside : i < t.registries.length) (query : Text) (s : Subscriber) :
    ((t.register i query s).register i query s).registries = (t.register i query s).registries ∧
      ((t.register i query s).register i query s).platform = (t.register i query s).platform := by
  have member : s ∈ ((t.register i query s).registry i).subscribersOf query :=
    mem_subscribersOf_register.2 (.inr ⟨rfl, inside, rfl, rfl⟩)
  have kept : (t.register i query s).modifyRegistry i (·.subscribe query s) =
      t.register i query s :=
    modifyRegistry_eq_self (Registry.subscribe_eq_self member)
  rw [register, kept]
  split
  · exact ⟨rfl, rfl⟩
  · rename_i fresh
    cases able : t.platform.host.failing.contains .matchMedia with
    | false => exact absurd (contains_listeners_register able inside query s) fresh
    | true =>
      have unable : (t.register i query s).platform.host.failing.contains .matchMedia = true := by
        rw [(grows_register t i query s).host]
        exact able
      obtain ⟨platform, registries, -⟩ := listen_of_unable unable i query
      exact ⟨registries, platform⟩

end Tracking
end CondCss
