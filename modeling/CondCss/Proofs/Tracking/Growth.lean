import CondCss.Proofs.Render.Dependence
import CondCss.Tracking

/-!
# Registrations only grow

Carrying out the effects of a rendering adds subscribers and live queries and takes none away
(`Grows`). What it adds is said once, in `mem_subscribersOf_absorb`. As long as the platform can
answer, every query that has subscribers has a live query whose listener leads back to them
(`Listening`).
-/

namespace CondCss

namespace Registry

theorem subscribersOf_subscribe (r : Registry) (query query' : Text) (s : Subscriber) :
    (r.subscribe query s).subscribersOf query' =
      if query' == query then
        if (r.subscribersOf query).contains s then r.subscribersOf query
        else r.subscribersOf query ++ [s]
      else r.subscribersOf query' := by
  change ((Assoc.insert query _ r.subscribers).lookup query').getD [] = _
  rw [Assoc.lookup_insert]
  split <;> rfl

theorem mem_subscribersOf_subscribe {r : Registry} {query query' : Text} {s s' : Subscriber} :
    s' ∈ (r.subscribe query s).subscribersOf query' ↔
      s' ∈ r.subscribersOf query' ∨ (query' = query ∧ s' = s) := by
  rw [subscribersOf_subscribe]
  by_cases same : query' = query
  · subst same
    by_cases known : s ∈ r.subscribersOf query'
    · simp only [BEq.rfl, if_true, List.contains_iff_mem.2 known, true_and]
      constructor
      · exact Or.inl
      · rintro (h | rfl)
        · exact h
        · exact known
    · simp [known]
  · simp [same]

/-- Subscribing again changes nothing. -/
theorem subscribe_eq_self {r : Registry} {query : Text} {s : Subscriber}
    (member : s ∈ r.subscribersOf query) : r.subscribe query s = r := by
  have kept : Assoc.insert query (r.subscribersOf query) r.subscribers = r.subscribers := by
    apply Assoc.insert_of_lookup
    unfold subscribersOf at member ⊢
    cases found : r.subscribers.lookup query with
    | none =>
      rw [found] at member
      exact absurd member List.not_mem_nil
    | some known => rfl
  unfold subscribe
  simp only [List.contains_iff_mem.2 member, if_true, kept]

end Registry

/-! ### Live queries -/

namespace Platform

variable {κ : Type} [BEq κ]

/-- A platform with one more live query, which has one listener. -/
def openAndListen (media : Text) (listener : κ) (p : Platform κ) : Platform κ :=
  (p.openQuery media).2.listen (p.openQuery media).1 listener

theorem openAndListen_eq (media : Text) (listener : κ) (p : Platform κ) :
    p.openAndListen media listener =
      { host := p.host
        queries := p.queries ++ [{ media, listeners := [listener] }]
        watched := if p.watched.contains p.queries.length then p.watched
          else p.watched ++ [p.queries.length] } := by
  have none : (p.openQuery media).2.listenersOf (p.openQuery media).1 = [] := by
    simp [openQuery, listenersOf]
  have set (queries : List (LiveQuery κ)) :
      (queries ++ [LiveQuery.mk media []]).modify queries.length
        (fun query => { query with listeners := [listener] }) =
          queries ++ [{ media, listeners := [listener] }] := by
    induction queries with
    | nil => rfl
    | cons first queries ih => simp [ih]
  rw [openAndListen, listen, none]
  simp only [List.contains_nil, Bool.false_eq_true, if_false, List.nil_append, setListeners,
    openQuery, set]

variable {media : Text} {listener : κ} {p : Platform κ}

@[simp] theorem host_openAndListen : (p.openAndListen media listener).host = p.host := by
  rw [openAndListen_eq]

@[simp] theorem length_queries_openAndListen :
    (p.openAndListen media listener).queries.length = p.queries.length + 1 := by
  rw [openAndListen_eq, List.length_append, List.length_singleton]

theorem mem_watched_openAndListen {q : QueryId} :
    q ∈ (p.openAndListen media listener).watched ↔ q ∈ p.watched ∨ q = p.queries.length := by
  rw [openAndListen_eq]
  simp only
  split
  · rename_i known
    constructor
    · exact Or.inl
    · rintro (h | rfl)
      · exact h
      · exact List.contains_iff_mem.1 known
  · simp

/-- What a live query that has listeners had before, it has now. -/
theorem openAndListen_old (media : Text) (listener : κ) {q : QueryId} (h : q < p.queries.length) :
    (p.openAndListen media listener).listenersOf q = p.listenersOf q ∧
      (p.openAndListen media listener).mediaOf q = p.mediaOf q := by
  rw [openAndListen_eq]
  simp [listenersOf, mediaOf, List.getElem?_append_left h]

theorem openAndListen_new (media : Text) (listener : κ) (p : Platform κ) :
    (p.openAndListen media listener).listenersOf p.queries.length = [listener] ∧
      (p.openAndListen media listener).mediaOf p.queries.length = media := by
  rw [openAndListen_eq]
  simp [listenersOf, mediaOf]

omit [BEq κ] in
theorem lt_of_mem_listenersOf {q : QueryId} {key : κ} (h : key ∈ p.listenersOf q) :
    q < p.queries.length := by
  rcases Nat.lt_or_ge q p.queries.length with inside | beyond
  · exact inside
  · rw [listenersOf, List.getElem?_eq_none beyond] at h
    exact absurd h List.not_mem_nil

end Platform

namespace Tracking

variable {t t' t'' : Tracking} {i j : Nat} {query : Text}

/-! ### What registering adds -/

theorem registry_modifyRegistry (t : Tracking) (i j : Nat) (f : Registry → Registry) :
    (t.modifyRegistry i f).registry j =
      if i = j ∧ j < t.registries.length then f (t.registry j) else t.registry j := by
  unfold registry modifyRegistry
  rw [List.getElem?_modify]
  by_cases inside : j < t.registries.length
  · by_cases same : i = j <;> simp [inside, same]
  · simp [inside]

theorem registry_of_length_le (beyond : t.registries.length ≤ i) : t.registry i = {} := by
  rw [registry, List.getElem?_eq_none beyond]
  rfl

/-- A registry with entries is one of the session's. -/
theorem lt_of_mem_subscribersOf {s : Subscriber} (h : s ∈ (t.registry i).subscribersOf query) :
    i < t.registries.length := by
  rcases Nat.lt_or_ge i t.registries.length with inside | beyond
  · exact inside
  · rw [registry_of_length_le beyond] at h
    exact absurd h List.not_mem_nil

/-- What listening to a query changes, if the platform can answer. -/
theorem listen_of_able (able : t.platform.host.failing.contains .matchMedia = false) (i : Nat)
    (query : Text) :
    (t.listen i query).platform =
        t.platform.openAndListen (['('] ++ query ++ [')']) (i, query) ∧
      (t.listen i query).registries = t.registries.modify i
        (fun r => { r with listeners := r.listeners ++ [(query, t.platform.queries.length)] }) ∧
      (t.listen i query).nodes = t.nodes := by
  unfold listen
  rw [able]
  exact ⟨rfl, rfl, rfl⟩

/-- Without an answer from the platform nothing is listened to. -/
theorem listen_of_unable (unable : t.platform.host.failing.contains .matchMedia = true) (i : Nat)
    (query : Text) :
    (t.listen i query).platform = t.platform ∧ (t.listen i query).registries = t.registries ∧
      (t.listen i query).nodes = t.nodes := by
  unfold listen
  rw [unable]
  exact ⟨rfl, rfl, rfl⟩

theorem subscribersOf_listen (t : Tracking) (i j : Nat) (query query' : Text) :
    ((t.listen i query).registry j).subscribersOf query' =
      (t.registry j).subscribersOf query' := by
  cases able : t.platform.host.failing.contains .matchMedia with
  | true => rw [registry, (listen_of_unable able i query).2.1, registry]
  | false =>
    rw [registry, (listen_of_able able i query).2.1]
    change ((t.modifyRegistry i _).registry j).subscribersOf query' = _
    rw [registry_modifyRegistry]
    split <;> rfl

/-- Registering adds one subscriber to one query of one registry, and nothing else. -/
theorem mem_subscribersOf_register {query' : Text} {s s' : Subscriber} :
    s' ∈ ((t.register i query s).registry j).subscribersOf query' ↔
      s' ∈ (t.registry j).subscribersOf query' ∨
        (j = i ∧ i < t.registries.length ∧ query' = query ∧ s' = s) := by
  have subscribed : s' ∈ ((t.modifyRegistry i (·.subscribe query s)).registry j).subscribersOf
      query' ↔ s' ∈ (t.registry j).subscribersOf query' ∨
        (j = i ∧ i < t.registries.length ∧ query' = query ∧ s' = s) := by
    rw [registry_modifyRegistry]
    split
    · rename_i same
      obtain ⟨rfl, inside⟩ := same
      rw [Registry.mem_subscribersOf_subscribe]
      simp only [inside, true_and]
    · rename_i other
      constructor
      · exact Or.inl
      · rintro (h | ⟨rfl, inside, -⟩)
        · exact h
        · exact absurd ⟨rfl, inside⟩ other
  unfold register
  simp only
  split
  · exact subscribed
  · rw [subscribersOf_listen]
    exact subscribed

/-- A list goes on as another one with elements of one kind behind it. -/
def GoesOn {α : Type} (l l' : List α) (kind : α → Prop) : Prop :=
  ∃ new, l' = l ++ new ∧ ∀ a ∈ new, kind a

section GoesOn

variable {α : Type} {l l' l'' : List α} {kind kind' : α → Prop}

theorem GoesOn.refl (l : List α) (kind : α → Prop) : GoesOn l l kind :=
  ⟨[], (List.append_nil l).symm, fun _ member => absurd member List.not_mem_nil⟩

theorem GoesOn.trans (h : GoesOn l l' kind) (h' : GoesOn l' l'' kind) : GoesOn l l'' kind := by
  obtain ⟨new, rfl, ofKind⟩ := h
  obtain ⟨more, rfl, ofKind'⟩ := h'
  exact ⟨new ++ more, List.append_assoc .., List.forall_mem_append.2 ⟨ofKind, ofKind'⟩⟩

theorem GoesOn.mono (h : GoesOn l l' kind) (imp : ∀ a ∈ l', kind a → kind' a) :
    GoesOn l l' kind' := by
  obtain ⟨new, rfl, ofKind⟩ := h
  exact ⟨new, rfl, fun a member => imp a (List.mem_append_right l member) (ofKind a member)⟩

theorem GoesOn.subset (h : GoesOn l l' kind) : l ⊆ l' := by
  obtain ⟨new, rfl, -⟩ := h
  exact List.subset_append_left l new

theorem GoesOn.filter (h : GoesOn l l' kind) (p : α → Bool) :
    GoesOn (l.filter p) (l'.filter p) kind := by
  obtain ⟨new, rfl, ofKind⟩ := h
  exact ⟨new.filter p, List.filter_append .., fun a member => ofKind a (List.mem_filter.1 member).1⟩

end GoesOn

/-- Registering adds a subscriber that is new to a query behind the others. -/
theorem goesOn_register (t : Tracking) (i j : Nat) (query query' : Text) (s : Subscriber) :
    GoesOn ((t.registry j).subscribersOf query')
      (((t.register i query s).registry j).subscribersOf query') fun s' =>
        s' = s ∧ j = i ∧ query' = query ∧ s' ∉ (t.registry j).subscribersOf query' := by
  have subscribed : GoesOn ((t.registry j).subscribersOf query')
      (((t.modifyRegistry i (·.subscribe query s)).registry j).subscribersOf query') fun s' =>
        s' = s ∧ j = i ∧ query' = query ∧ s' ∉ (t.registry j).subscribersOf query' := by
    rw [registry_modifyRegistry]
    split
    · rename_i own
      obtain ⟨rfl, -⟩ := own
      rw [Registry.subscribersOf_subscribe]
      by_cases same : query' = query
      · subst same
        by_cases known : s ∈ (t.registry i).subscribersOf query'
        · simpa [known] using GoesOn.refl _ _
        · exact ⟨[s], by simp [known], by simpa using known⟩
      · simpa [same] using GoesOn.refl _ _
    · exact .refl _ _
  unfold register
  simp only
  split
  · exact subscribed
  · rw [subscribersOf_listen]
    exact subscribed

theorem nodes_register (t : Tracking) (i : Nat) (query : Text) (s : Subscriber) :
    (t.register i query s).nodes = t.nodes := by
  unfold register
  simp only
  split
  · rfl
  · cases able : (t.modifyRegistry i (·.subscribe query s)).platform.host.failing.contains
      .matchMedia with
    | true => exact (listen_of_unable able i query).2.2
    | false => exact (listen_of_able able i query).2.2

/-! ### What is written -/

/-- Nothing is rendered between two states: what the journal gains is about something else. -/
def Quiet (t t' : Tracking) : Prop :=
  ∃ new, t'.journal = t.journal ++ new ∧ ∀ e ∈ new, ∀ i s, e ≠ .rendered i s

theorem Quiet.refl (t : Tracking) : Quiet t t :=
  ⟨[], (List.append_nil _).symm, by simp⟩

theorem Quiet.trans (first : Quiet t t') (second : Quiet t' t'') : Quiet t t'' := by
  obtain ⟨new, journal, quiet⟩ := first
  obtain ⟨new', journal', quiet'⟩ := second
  refine ⟨new ++ new', by rw [journal', journal, List.append_assoc], fun e member => ?_⟩
  rcases List.mem_append.1 member with member | member
  · exact quiet e member
  · exact quiet' e member

theorem quiet_write {e : Entry} (quiet : ∀ i s, e ≠ .rendered i s) (t : Tracking) :
    Quiet t (t.write e) :=
  ⟨[e], rfl, by simpa using quiet⟩

theorem quiet_note (message : String) (t : Tracking) : Quiet t (t.note message) :=
  quiet_write (by rintro i s ⟨⟩) t

theorem quiet_register (t : Tracking) (i : Nat) (query : Text) (s : Subscriber) :
    Quiet t (t.register i query s) := by
  unfold register
  simp only
  split
  · exact .refl t
  · unfold listen
    split
    · exact quiet_note _ t
    · exact (quiet_note _ t).trans (quiet_write (by rintro i s ⟨⟩) (t.note _))

/-! ### Growth -/

/-- Subscribers and live queries are added and none is taken away; the host stays as it is. -/
structure Grows (t t' : Tracking) : Prop where
  host : t'.platform.host = t.platform.host
  registries : t'.registries.length = t.registries.length
  watched : ∀ {q : QueryId}, q ∈ t.platform.watched → q ∈ t'.platform.watched
  heard : ∀ {q : QueryId} {key : ListenerKey}, key ∈ t.platform.listenersOf q →
    key ∈ t'.platform.listenersOf q ∧ t'.platform.mediaOf q = t.platform.mediaOf q
  subscribed : ∀ {i : Nat} {query : Text} {s : Subscriber},
    s ∈ (t.registry i).subscribersOf query → s ∈ (t'.registry i).subscribersOf query

/-- A change that concerns neither the platform nor the registries is no shrinking. -/
theorem Grows.of_eq (platform : t'.platform = t.platform) (registries : t'.registries = t.registries) :
    Grows t t' where
  host := by rw [platform]
  registries := by rw [registries]
  watched := by rw [platform]; exact id
  heard := by rw [platform]; exact fun h => ⟨h, rfl⟩
  subscribed := by unfold registry; rw [registries]; exact id

theorem Grows.refl (t : Tracking) : Grows t t := .of_eq rfl rfl

theorem Grows.trans (first : Grows t t') (second : Grows t' t'') : Grows t t'' where
  host := second.host.trans first.host
  registries := second.registries.trans first.registries
  watched h := second.watched (first.watched h)
  heard h := ⟨(second.heard (first.heard h).1).1,
    (second.heard (first.heard h).1).2.trans (first.heard h).2⟩
  subscribed h := second.subscribed (first.subscribed h)

theorem grows_listen (t : Tracking) (i : Nat) (query : Text) : Grows t (t.listen i query) := by
  cases able : t.platform.host.failing.contains .matchMedia with
  | true =>
    obtain ⟨platform, registries, -⟩ := listen_of_unable able i query
    exact .of_eq platform registries
  | false =>
    obtain ⟨platform, registries, -⟩ := listen_of_able able i query
    refine ⟨by simp [platform], by simp [registries], fun h => ?_, fun h => ?_, fun h => ?_⟩
    · rw [platform]
      exact Platform.mem_watched_openAndListen.2 (.inl h)
    · obtain ⟨listeners, media⟩ := Platform.openAndListen_old
        (['('] ++ query ++ [')']) (i, query) (Platform.lt_of_mem_listenersOf h)
      rw [platform, listeners, media]
      exact ⟨h, rfl⟩
    · rw [subscribersOf_listen]
      exact h

theorem grows_register (t : Tracking) (i : Nat) (query : Text) (s : Subscriber) :
    Grows t (t.register i query s) := by
  have subscribed : Grows t (t.modifyRegistry i (·.subscribe query s)) := by
    refine ⟨rfl, by simp [modifyRegistry], id, fun h => ⟨h, rfl⟩, fun h => ?_⟩
    rw [registry_modifyRegistry]
    split
    · exact Registry.mem_subscribersOf_subscribe.2 (.inl h)
    · exact h
  unfold register
  simp only
  split
  · exact subscribed
  · exact subscribed.trans (grows_listen _ i query)

/-- To carry out effects is to register the subscriber and to write to the journal, so what both keep
    is kept. -/
theorem absorb_induction {P : Tracking → Prop} {subscriber : Option Subscriber}
    (register : ∀ {t : Tracking} (query : Text) (s : Subscriber), P t → P (t.register i query s))
    (write : ∀ {t : Tracking} {e : Entry}, (∀ j s, e ≠ .rendered j s) → P t → P (t.write e))
    (effects : List Effect) (h : P t) : P (t.absorb i subscriber effects) := by
  refine List.foldlRecOn effects (absorbOne i subscriber) h fun t' h' e _ => ?_
  cases e with
  | asked query =>
    cases subscriber with
    | some s => exact register query s h'
    | none => exact h'
  | failed call error => exact write (by rintro j s ⟨⟩) h'
  | logged entry => exact write (by rintro j s ⟨⟩) h'

theorem grows_absorb (t : Tracking) (i : Nat) (subscriber : Option Subscriber)
    (effects : List Effect) : Grows t (t.absorb i subscriber effects) :=
  absorb_induction (fun query s h => h.trans (grows_register _ i query s))
    (fun _ h => h.trans (.of_eq rfl rfl)) effects (.refl t)

theorem nodes_absorb (t : Tracking) (i : Nat) (subscriber : Option Subscriber)
    (effects : List Effect) : (t.absorb i subscriber effects).nodes = t.nodes :=
  absorb_induction (P := fun t' => t'.nodes = t.nodes)
    (fun query s h => (nodes_register _ i query s).trans h) (fun _ h => h) effects rfl

theorem quiet_absorb (t : Tracking) (i : Nat) (subscriber : Option Subscriber)
    (effects : List Effect) : Quiet t (t.absorb i subscriber effects) :=
  absorb_induction (fun query s h => h.trans (quiet_register _ i query s))
    (fun quiet h => h.trans (quiet_write quiet _)) effects (.refl t)

/-- Carrying out effects registers the subscriber for the queries among them, and nothing else. -/
theorem mem_subscribersOf_absorb {subscriber : Option Subscriber} {effects : List Effect}
    {query : Text} {s : Subscriber} :
    s ∈ ((t.absorb i subscriber effects).registry j).subscribersOf query ↔
      s ∈ (t.registry j).subscribersOf query ∨
        (j = i ∧ i < t.registries.length ∧ subscriber = some s ∧
          query ∈ Render.queriesOf effects) := by
  induction effects generalizing t with
  | nil => simp [absorb, Render.queriesOf]
  | cons e effects ih =>
    have grows : Grows t (t.absorbOne i subscriber e) := grows_absorb t i subscriber [e]
    have later := ih (t := t.absorbOne i subscriber e)
    rw [grows.registries] at later
    refine later.trans ?_
    cases e with
    | asked query' =>
      cases subscriber with
      | some s' =>
        simp only [absorbOne, mem_subscribersOf_register, Render.queriesOf,
          List.filterMap_cons_some (show (Effect.asked query').query? = some query' from rfl),
          List.mem_cons, Option.some.injEq, eq_comm]
        grind
      | none => simp [absorbOne]
    | failed call error => rfl
    | logged entry => rfl

/-- Carrying out effects adds a subscriber behind the others, where it is new. -/
theorem goesOn_absorb (t : Tracking) (i j : Nat) (subscriber : Option Subscriber)
    (effects : List Effect) (query : Text) :
    GoesOn ((t.registry j).subscribersOf query)
      (((t.absorb i subscriber effects).registry j).subscribersOf query) fun s =>
        subscriber = some s ∧ j = i ∧ query ∈ Render.queriesOf effects ∧
          s ∉ (t.registry j).subscribersOf query := by
  induction effects generalizing t with
  | nil => exact .refl _ _
  | cons e effects ih =>
    have first : GoesOn ((t.registry j).subscribersOf query)
        (((t.absorbOne i subscriber e).registry j).subscribersOf query) fun s =>
          subscriber = some s ∧ j = i ∧ query ∈ Render.queriesOf (e :: effects) ∧
            s ∉ (t.registry j).subscribersOf query := by
      cases e with
      | asked query' =>
        cases subscriber with
        | none => exact .refl _ _
        | some s =>
          refine (goesOn_register t i j query' query s).mono fun s' _ isNew => ?_
          obtain ⟨rfl, rfl, rfl, unknown⟩ := isNew
          exact ⟨rfl, rfl, List.mem_cons_self, unknown⟩
      | failed call error => exact .refl _ _
      | logged entry => exact .refl _ _
    refine first.trans ((ih (t.absorbOne i subscriber e)).mono fun s _ isNew => ?_)
    obtain ⟨isSubscriber, same, asked, unknown⟩ := isNew
    refine ⟨isSubscriber, same, ?_, fun known => unknown (first.subset known)⟩
    obtain ⟨e', member, isQuery⟩ := List.mem_filterMap.1 asked
    exact List.mem_filterMap.2 ⟨e', List.mem_cons_of_mem e member, isQuery⟩

/-! ### Listening -/

/-- Every query that a registry listens to has a watched live query with the listener of the
    registry. -/
def Live (t : Tracking) : Prop :=
  ∀ {i : Nat} {query : Text} {q : QueryId}, (query, q) ∈ (t.registry i).listeners →
    q ∈ t.platform.watched ∧ (i, query) ∈ t.platform.listenersOf q ∧
      t.platform.mediaOf q = ['('] ++ query ++ [')']

/-- Every query with subscribers is listened to, through a live query. -/
structure Listening (t : Tracking) : Prop where
  live : t.Live
  listened : ∀ {i : Nat} {query : Text} {s : Subscriber},
    s ∈ (t.registry i).subscribersOf query →
      Assoc.contains query (t.registry i).listeners = true

/-- A query with subscribers has a watched live query with the listener of the registry. -/
theorem Listening.exists_live (h : Listening t) {s : Subscriber}
    (subscribed : s ∈ (t.registry i).subscribersOf query) :
    ∃ q ∈ t.platform.watched, (i, query) ∈ t.platform.listenersOf q ∧
      t.platform.mediaOf q = ['('] ++ query ++ [')'] := by
  obtain ⟨⟨query', q⟩, member, same⟩ := List.any_eq_true.1 (h.listened subscribed)
  obtain rfl := beq_iff_eq.1 same
  exact ⟨q, h.live member⟩

/-- What listening requires does not concern the journal and the nodes. -/
theorem Listening.of_eq (h : Listening t) (platform : t'.platform = t.platform)
    (registries : t'.registries = t.registries) : Listening t' := by
  have registry (i : Nat) : t'.registry i = t.registry i := by
    unfold Tracking.registry
    rw [registries]
  refine ⟨fun member => ?_, fun subscribed => ?_⟩
  · rw [registry] at member
    rw [platform]
    exact h.live member
  · rw [registry] at subscribed ⊢
    exact h.listened subscribed

theorem listeners_modifyRegistry_subscribe (t : Tracking) (i j : Nat) (query : Text)
    (s : Subscriber) :
    ((t.modifyRegistry i (·.subscribe query s)).registry j).listeners =
      (t.registry j).listeners := by
  rw [registry_modifyRegistry]
  split <;> rfl

/-- The listeners of a registry after listening to one more query. -/
theorem listeners_listen (able : t.platform.host.failing.contains .matchMedia = false) (i j : Nat)
    (query : Text) :
    ((t.listen i query).registry j).listeners =
      if i = j ∧ j < t.registries.length then
        (t.registry j).listeners ++ [(query, t.platform.queries.length)]
      else (t.registry j).listeners := by
  rw [registry, (listen_of_able able i query).2.1]
  change ((t.modifyRegistry i _).registry j).listeners = _
  rw [registry_modifyRegistry]
  split <;> rfl

theorem mem_listeners_listen (able : t.platform.host.failing.contains .matchMedia = false)
    {query' : Text} {q : QueryId} :
    (query', q) ∈ ((t.listen i query).registry j).listeners ↔
      (query', q) ∈ (t.registry j).listeners ∨
        (j = i ∧ i < t.registries.length ∧ query' = query ∧ q = t.platform.queries.length) := by
  rw [listeners_listen able]
  split
  · rename_i same
    obtain ⟨rfl, inside⟩ := same
    simp [inside]
  · rename_i other
    constructor
    · exact Or.inl
    · rintro (h | ⟨rfl, inside, -⟩)
      · exact h
      · exact absurd ⟨rfl, inside⟩ other

theorem Live.listen (h : Live t)
    (able : t.platform.host.failing.contains .matchMedia = false) (i : Nat) (query : Text) :
    Live (t.listen i query) := by
  intro j query' q member
  rcases (mem_listeners_listen able).1 member with old | ⟨rfl, -, rfl, rfl⟩
  · obtain ⟨watched, heard, media⟩ := h old
    have grows := grows_listen t i query
    exact ⟨grows.watched watched, (grows.heard heard).1, (grows.heard heard).2.trans media⟩
  · obtain ⟨listeners, media⟩ := Platform.openAndListen_new (['('] ++ query' ++ [')'])
      (j, query') t.platform
    rw [(listen_of_able able j query').1]
    refine ⟨Platform.mem_watched_openAndListen.2 (.inr rfl), ?_, media⟩
    rw [listeners]
    exact List.mem_singleton.2 rfl

theorem contains_listeners_listen (i j : Nat) (query : Text) {query' : Text}
    (known : Assoc.contains query' (t.registry j).listeners = true) :
    Assoc.contains query' ((t.listen i query).registry j).listeners = true := by
  cases able : t.platform.host.failing.contains .matchMedia with
  | true =>
    rw [registry, (listen_of_unable able i query).2.1]
    exact known
  | false =>
    obtain ⟨⟨query'', q⟩, member, same⟩ := List.any_eq_true.1 known
    exact List.any_eq_true.2 ⟨_, (mem_listeners_listen able).2 (.inl member), same⟩

/-- Registering listens to the query, if the platform can answer. -/
theorem contains_listeners_register (able : t.platform.host.failing.contains .matchMedia = false)
    (inside : i < t.registries.length) (query : Text) (s : Subscriber) :
    Assoc.contains query ((t.register i query s).registry i).listeners = true := by
  unfold register
  simp only
  split
  · assumption
  · have stillAble : (t.modifyRegistry i (·.subscribe query s)).platform.host.failing.contains
        .matchMedia = false := able
    have entry : (query, t.platform.queries.length) ∈
        (((t.modifyRegistry i (·.subscribe query s)).listen i query).registry i).listeners := by
      refine (mem_listeners_listen stillAble).2 (.inr ⟨rfl, ?_, rfl, rfl⟩)
      simpa [modifyRegistry] using inside
    exact List.any_eq_true.2 ⟨_, entry, BEq.rfl⟩

theorem Listening.register (h : Listening t)
    (able : t.platform.host.failing.contains .matchMedia = false) (i : Nat) (query : Text)
    (s : Subscriber) : Listening (t.register i query s) := by
  have sameListeners (j : Nat) := listeners_modifyRegistry_subscribe t i j query s
  have live : Live (t.modifyRegistry i (·.subscribe query s)) := by
    intro j query' q member
    rw [sameListeners] at member
    exact h.live member
  have stillAble : (t.modifyRegistry i (·.subscribe query s)).platform.host.failing.contains
      .matchMedia = false := able
  refine ⟨?_, fun {j query' s'} subscribed => ?_⟩
  · unfold Tracking.register
    simp only
    split
    · exact live
    · exact live.listen stillAble i query
  · rcases mem_subscribersOf_register.1 subscribed with before | ⟨rfl, inside, rfl, -⟩
    · have known : Assoc.contains query'
          ((t.modifyRegistry i (·.subscribe query s)).registry j).listeners = true := by
        rw [sameListeners]
        exact h.listened before
      unfold Tracking.register
      simp only
      split
      · exact known
      · exact contains_listeners_listen i j query known
    · exact contains_listeners_register able inside query' s

theorem Listening.absorb (h : Listening t)
    (able : t.platform.host.failing.contains .matchMedia = false) (i : Nat)
    (subscriber : Option Subscriber) (effects : List Effect) :
    Listening (t.absorb i subscriber effects) := by
  have kept : Listening (t.absorb i subscriber effects) ∧
      (t.absorb i subscriber effects).platform.host.failing.contains .matchMedia = false := by
    refine absorb_induction (P := fun t => Listening t ∧
      t.platform.host.failing.contains .matchMedia = false) ?_ ?_ effects ⟨h, able⟩
    · rintro t query s ⟨h, able⟩
      exact ⟨h.register able i query s, (grows_register t i query s).host ▸ able⟩
    · rintro t e - ⟨h, able⟩
      exact ⟨h.of_eq rfl rfl, able⟩
  exact kept.1

end Tracking
end CondCss
