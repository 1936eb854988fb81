import CondCss.Proofs.Session.Staleness
import CondCss.Proofs.Tracking.Sharing

/-!
# Nodes that are tracked with several texts

An engine can track one node with one text after another. It never drops the subscriptions for the
earlier texts, so a change of the host may display one of them again (`earlier_text_returns`). What a
node shows is always the rendering of a text that it was tracked with, on the host as it is. It is the
latest one as long as that one is rendered last whenever the node is rendered again (`text_of_tracked`).

Both are cases of one statement: as long as the last subscription of the node that reacts to a change of
the host is for one of certain texts, the node shows one of these texts (`Shows.changeHost`).
-/

namespace CondCss

theorem exists_of_getLast?_filter {α : Type} {p : α → Bool} {l : List α} {a : α}
    (isLast : (l.filter p).getLast? = some a) :
    p a = true ∧ ∃ front back, l = front ++ a :: back ∧ ∀ b ∈ back, p b = false := by
  rw [← List.head?_reverse, ← List.filter_reverse, List.head?_filter,
    List.find?_eq_some_iff_append] at isLast
  obtain ⟨holds, back, front, split, none⟩ := isLast
  refine ⟨holds, front.reverse, back.reverse, ?_, fun b member => ?_⟩
  · have whole := congrArg List.reverse split
    simpa using whole
  · simpa using none b (List.mem_reverse.1 member)

namespace Tracking

open Session (renderer)

variable {t t₀ : Tracking} {n : NodeId} {options : Options} {allowed : Text → Prop} {i : Nat}
  {query : Text} {s : Subscriber} {change : Host → Host}

/-- The registrations are in order, and the node is a style. -/
structure Styled (options : Options) (n : NodeId) (t : Tracking) : Prop where
  sound : Sound options t
  inStep : InStep t
  style : ∃ text, t.nodes[n]?.bind Node.text? = some text

/-- The node has the text of an allowed source, and it is subscribed for that. -/
def Shows (options : Options) (n : NodeId) (allowed : Text → Prop) (t : Tracking) : Prop :=
  ∃ source, allowed source ∧ UpToDate ⟨n, source, options⟩ t

theorem Styled.subscriber_eq (h : Styled options n t)
    (member : s ∈ (t.registry i).subscribersOf query) (isNode : s.node = n) :
    s = ⟨n, s.source, options⟩ := by
  have isOptions := h.sound.options member
  obtain ⟨node, source, options'⟩ := s
  cases isNode
  cases isOptions
  rfl

/-! ### Displaying subscribers -/

theorem Styled.display (h : Styled options n t) (inside : i < t.registries.length)
    (isOptions : s.options = options) : Styled options n (t.display i s) where
  sound := h.sound.display isOptions
  inStep := (h.inStep.absorb inside (some s) _).of_eq rfl rfl rfl
  style := by
    by_cases same : s.node = n
    · subst same
      exact ⟨_, text?_display_own h.style⟩
    · rw [nodes_display, List.getElem?_modify_ne _ _ same]
      exact h.style

theorem stable_styled : Stable renderer (Styled options n) where
  write _ h := ⟨h.sound.of_eq rfl rfl, h.inStep.of_eq rfl rfl rfl, h.style⟩
  refresh {t i query s} member h := by
    rw [refresh_eq]
    have written : Styled options n (t.write (.rendered i s)) :=
      ⟨h.sound.of_eq rfl rfl, h.inStep.of_eq rfl rfl rfl, h.style⟩
    exact written.display (lt_of_mem_subscribersOf member) (h.sound.options member)

/-- What a node shows stays allowed when a subscriber for an allowed text, or for another node, is
    displayed. -/
theorem Shows.display (shows : Shows options n allowed t) (h : Styled options n t)
    (inside : i < t.registries.length) (isOptions : s.options = options)
    (isAllowed : s.node = n → allowed s.source) : Shows options n allowed (t.display i s) := by
  by_cases same : s.node = n
  · obtain ⟨node, source, options'⟩ := s
    cases same
    cases isOptions
    exact ⟨source, isAllowed rfl, upToDate_display_own h.style inside⟩
  · obtain ⟨source, isAllowed, upToDate⟩ := shows
    exact ⟨source, isAllowed, upToDate.display_of_ne same⟩

/-! ### Who reacts to a change -/

/-- The answer to a query is another one after the change. -/
def Flips (change : Host → Host) (t₀ : Tracking) (query : Text) : Prop :=
  t₀.platform.host.isMatch (['('] ++ query ++ [')']) ≠
    (change t₀.platform.host).isMatch (['('] ++ query ++ [')'])

instance (change : Host → Host) (t₀ : Tracking) (query : Text) : Decidable (Flips change t₀ query) :=
  inferInstanceAs (Decidable (_ ≠ _))

/-- The listeners to these live queries that react to the change, in this order. -/
def reacting (change : Host → Host) (t₀ : Tracking) (live : List QueryId) : List ListenerKey :=
  (live.flatMap t₀.platform.listenersOf).filter fun key => Flips change t₀ key.2

/-- The subscriptions of a node to a query, in the order in which they are rendered. -/
def subscriptions (n : NodeId) (t : Tracking) (key : ListenerKey) : List Subscriber :=
  ((t.registry key.1).subscribersOf key.2).filter (·.node == n)

/-- The subscriptions of a node that are rendered again after the change, in this order. -/
def rerendered (n : NodeId) (change : Host → Host) (t₀ : Tracking) (live : List QueryId) :
    List Subscriber :=
  (reacting change t₀ live).flatMap (subscriptions n t₀)

/-- A change favours the allowed texts of a node: the last subscription of the node that is rendered
    again, if there is any, is for such a text, and those for other texts do not come to depend on
    further queries to which someone reacts. -/
@[mk_iff]
structure Favours (change : Host → Host) (n : NodeId) (allowed : Text → Prop) (t₀ : Tracking) :
    Prop where
  last : ∀ s ∈ (rerendered n change t₀ t₀.platform.watched).getLast?, allowed s.source
  settled : ∀ key ∈ reacting change t₀ t₀.platform.watched, ∀ s ∈ subscriptions n t₀ key,
    allowed s.source ∨ ∀ key' ∈ reacting change t₀ t₀.platform.watched, key'.1 = key.1 →
      key'.2 ∈ (s.rendering (change t₀.platform.host)).queries →
        s ∈ (t₀.registry key'.1).subscribersOf key'.2

instance (change : Host → Host) (n : NodeId) [DecidablePred allowed] (t₀ : Tracking) :
    Decidable (Favours change n allowed t₀) :=
  decidable_of_iff _ (favours_iff change n allowed t₀).symm

/-- All subscriptions of the node to a query are for allowed texts. -/
def Spared (n : NodeId) (allowed : Text → Prop) (t₀ : Tracking) (i : Nat) (query : Text) : Prop :=
  ∀ s ∈ (t₀.registry i).subscribersOf query, s.node = n → allowed s.source

theorem mem_subscriptions {key : ListenerKey} :
    s ∈ subscriptions n t key ↔ s ∈ (t.registry key.1).subscribersOf key.2 ∧ s.node = n := by
  rw [subscriptions, List.mem_filter, beq_iff_eq]

theorem Favours.of_spared (spared : ∀ i query, Spared n allowed t₀ i query) :
    Favours change n allowed t₀ := by
  have each (key : ListenerKey) : ∀ s ∈ subscriptions n t₀ key, allowed s.source := fun s member =>
    spared key.1 key.2 s (mem_subscriptions.1 member).1 (mem_subscriptions.1 member).2
  refine ⟨fun s isLast => ?_, fun key _ s member => .inl (each key s member)⟩
  obtain ⟨key, -, member⟩ := List.mem_flatMap.1 (List.mem_of_getLast? isLast)
  exact each key s member

/-- Rendering again adds no subscription for another text. -/
theorem stable_spared : Stable renderer fun t => ∀ i query, Spared n allowed t i query where
  write _ h := h
  refresh member h i query s' member' isNode := by
    rcases mem_subscribersOf_refresh.1 member' with old | ⟨-, -, rfl, -⟩
    · exact h i query s' old isNode
    · exact h _ _ _ member isNode

/-- The state in which the host has changed and nobody has reacted yet. -/
def hostChanged (change : Host → Host) (t₀ : Tracking) : Tracking :=
  { t₀ with platform := t₀.platform.changeHost change }

/-- What one live query does in its turn, when its answer was the given one. -/
def turn (t : Tracking) (turn : QueryId × Bool) : Tracking :=
  if t.platform.isMatch turn.1 == turn.2 then t
  else (t.platform.listenersOf turn.1).foldl (fun t key => t.onChange renderer turn.1 key) t

/-- A live query has one listener, and that reacts in its turn if the answer to its query is another
    one. -/
theorem turn_eq {q : QueryId} (before : InStep t₀) (inStep : InStep t)
    (grows : Grows (t₀.hostChanged change) t) (listed : (query, q) ∈ (t₀.registry i).listeners) :
    t.turn (q, t₀.platform.isMatch q) =
      if Flips change t₀ query then t.onChange renderer q (i, query) else t := by
  have first := before.live listed
  have heard : (i, query) ∈ (t₀.hostChanged change).platform.listenersOf q := by
    change (i, query) ∈ t₀.platform.listenersOf q
    rw [Platform.listenersOf, first]
    exact List.mem_singleton_self _
  have now := inStep.live (inStep.known (grows.heard heard).1)
  have only : t.platform.listenersOf q = [(i, query)] := by
    rw [Platform.listenersOf, now]
    rfl
  have host : t.platform.host = change t₀.platform.host := grows.host
  have isFlip : (t.platform.isMatch q == t₀.platform.isMatch q) = true ↔ ¬ Flips change t₀ query := by
    rw [beq_iff_eq, Platform.isMatch, Platform.isMatch, Platform.mediaOf, Platform.mediaOf, now, first,
      host, Flips, not_not]
    exact eq_comm
  rw [turn, only]
  by_cases flips : Flips change t₀ query
  · rw [if_neg (fun same => isFlip.1 same flips), if_pos flips]
    rfl
  · rw [if_pos (isFlip.2 flips), if_neg flips]

theorem changeHost_eq (change : Host → Host) (t : Tracking) :
    t.changeHost renderer change =
      t.platform.watched.foldl (fun t' q => t'.turn (q, t.platform.isMatch q))
        (t.hostChanged change) := by
  rw [changeHost, Platform.notify, Platform.snapshot, List.foldl_map]
  rfl

theorem reacting_cons {q : QueryId} (before : InStep t₀)
    (listed : (query, q) ∈ (t₀.registry i).listeners) (live : List QueryId) :
    reacting change t₀ (q :: live) =
      (if Flips change t₀ query then [(i, query)] else []) ++ reacting change t₀ live := by
  have only : t₀.platform.listenersOf q = [(i, query)] := by
    rw [Platform.listenersOf, before.live listed]
    rfl
  rw [reacting, List.flatMap_cons, only, List.filter_append, List.filter_cons]
  by_cases flips : Flips change t₀ query
  · simp [flips, reacting]
  · simp [flips, reacting]

theorem mem_reacting {live : List QueryId} {q : QueryId} (isLive : q ∈ live)
    (heard : (i, query) ∈ t₀.platform.listenersOf q) (flips : Flips change t₀ query) :
    (i, query) ∈ reacting change t₀ live :=
  List.mem_filter.2 ⟨List.mem_flatMap.2 ⟨q, isLive, heard⟩, decide_eq_true flips⟩

/-! ### Reactions to one change -/

/-- While those react who react to a change: what is subscribed behind the subscriptions of the node to
    their queries is for allowed texts. -/
structure Followed (change : Host → Host) (t₀ : Tracking) (options : Options) (n : NodeId)
    (allowed : Text → Prop) (t : Tracking) : Prop extends Styled options n t where
  grows : Grows (t₀.hostChanged change) t
  added : ∀ key ∈ reacting change t₀ t₀.platform.watched, ∃ new,
    subscriptions n t key = subscriptions n t₀ key ++ new ∧ ∀ s ∈ new, allowed s.source

theorem goesOn_subscriptions_refresh (t : Tracking) (i : Nat) (query : Text) (s : Subscriber)
    (key : ListenerKey) :
    GoesOn (subscriptions n t key) (subscriptions n (t.refresh renderer i query s).1 key) fun s' =>
      s = s' ∧ key.1 = i ∧ key.2 ∈ (s'.rendering t.platform.host).queries ∧
        s' ∉ (t.registry key.1).subscribersOf key.2 := by
  have absorbed := goesOn_absorb (t.write (.rendered i s)) i key.1 (some s)
    (s.rendering t.platform.host).effects key.2
  rw [refresh_eq]
  refine (absorbed.filter (·.node == n)).mono fun s' _ isNew => ?_
  obtain ⟨isSubscriber, same, asked, unknown⟩ := isNew
  obtain rfl := Option.some.inj isSubscriber
  exact ⟨rfl, same, asked, unknown⟩

section Reactions

variable (favours : Favours change n allowed t₀)
  (reacts : (i, query) ∈ reacting change t₀ t₀.platform.watched)

include favours reacts in
theorem stableAt_followed :
    StableAt renderer i query (Followed change t₀ options n allowed) where
  write quiet h := ⟨stable_styled.write quiet h.toStyled, h.grows.trans (.of_eq rfl rfl), h.added⟩
  refresh {t s} member h := by
    refine ⟨stable_styled.refresh member h.toStyled, h.grows.trans (grows_refresh ..),
      fun key reacts' => ?_⟩
    have refreshed : GoesOn (subscriptions n t key)
        (subscriptions n (t.refresh renderer i query s).1 key) fun s' => allowed s'.source := by
      refine (goesOn_subscriptions_refresh t i query s key).mono fun s' member' isNew => ?_
      -- Another text whose subscription is new would have been settled before the change.
      obtain ⟨rfl, same, asked, unknown⟩ := isNew
      have isNode := (mem_subscriptions.1 member').2
      obtain ⟨new, kept, isAllowed⟩ := h.added (i, query) reacts
      have among : s ∈ subscriptions n t (i, query) := mem_subscriptions.2 ⟨member, isNode⟩
      rw [kept] at among
      rcases List.mem_append.1 among with old | isNew
      · rcases favours.settled (i, query) reacts s old with isAllowed | settled
        · exact isAllowed
        · have host : t.platform.host = change t₀.platform.host := h.grows.host
          rw [host] at asked
          exact absurd (h.grows.subscribed (settled key reacts' same asked)) unknown
      · exact isAllowed s isNew
    exact GoesOn.trans (h.added key reacts') refreshed

include reacts in
/-- When the subscribers to a query are rendered again, and the last of them that is of the node was
    for an allowed text before the change, the node shows an allowed text. -/
theorem Followed.shows_reprocess (favours : Favours change n allowed t₀)
    (h : Followed change t₀ options n allowed t)
    (last : ∀ s ∈ (subscriptions n t₀ (i, query)).getLast?, allowed s.source)
    (shows : Shows options n allowed t ∨ subscriptions n t₀ (i, query) ≠ []) :
    Shows options n allowed (t.reprocess renderer i query).1 := by
  have stable : StableAt renderer i query (Followed change t₀ options n allowed) :=
    stableAt_followed favours reacts
  have keeps {l : List Subscriber} (among : ∀ s ∈ l, s ∈ (t.registry i).subscribersOf query)
      {t' : Tracking} (h' : Followed change t₀ options n allowed t' ∧ Grows t t') :
      Followed change t₀ options n allowed (l.foldl (fun t s => (t.refresh renderer i query s).1) t') ∧
        Grows t (l.foldl (fun t s => (t.refresh renderer i query s).1) t') :=
    List.foldlRecOn l _ (motive := fun t' => Followed change t₀ options n allowed t' ∧ Grows t t') h'
      fun t' h' s member =>
        ⟨stable.refresh (h'.2.subscribed (among s member)) h'.1, h'.2.trans (grows_refresh ..)⟩
  have stays {l : List Subscriber} (others : ∀ s ∈ l, s.node ≠ n) {t' : Tracking}
      (shows : Shows options n allowed t') :
      Shows options n allowed (l.foldl (fun t s => (t.refresh renderer i query s).1) t') := by
    refine List.foldlRecOn l _ shows fun t' shows s member => ?_
    obtain ⟨source, isAllowed, upToDate⟩ := shows
    exact ⟨source, isAllowed, upToDate.refresh_of_ne (others s member)⟩
  obtain ⟨new, kept, isAllowed⟩ := h.added (i, query) reacts
  rw [reprocess_fst]
  cases isLast : (subscriptions n t (i, query)).getLast? with
  | none =>
    have empty := List.getLast?_eq_none_iff.1 isLast
    have others : ∀ s ∈ (t.registry i).subscribersOf query, s.node ≠ n := fun s member isNode => by
      have among : s ∈ subscriptions n t (i, query) := mem_subscriptions.2 ⟨member, isNode⟩
      rw [empty] at among
      exact absurd among List.not_mem_nil
    rw [empty] at kept
    exact stays others (shows.resolve_right fun some => some (List.append_eq_nil_iff.1 kept.symm).1)
  | some own =>
    -- The last subscription is for an allowed text, and what is rendered after it is of other nodes.
    have ownAllowed : allowed own.source := by
      rw [kept, List.getLast?_append, Option.or_eq_some_iff] at isLast
      rcases isLast with isLast | ⟨-, isLast⟩
      · exact isAllowed own (List.mem_of_getLast? isLast)
      · exact last own isLast
    obtain ⟨isNode, front, back, split, others⟩ := exists_of_getLast?_filter isLast
    have isNode : own.node = n := beq_iff_eq.1 isNode
    rw [split, List.foldl_append, List.foldl_cons]
    obtain ⟨followed, grows⟩ := keeps (l := front)
      (fun s member => by rw [split]; exact List.mem_append_left _ member) ⟨h, .refl t⟩
    have member : own ∈ (t.registry i).subscribersOf query := by
      rw [split]
      exact List.mem_append_right _ List.mem_cons_self
    have member' := grows.subscribed member
    refine stays (fun s member => by simpa using others s member) ⟨own.source, ownAllowed, ?_⟩
    rw [← followed.subscriber_eq member' isNode]
    subst isNode
    exact upToDate_refresh_own followed.style (lt_of_mem_subscribersOf member')

end Reactions

/-- When those behind some live queries have reacted, the node shows an allowed text, if the last
    subscription of the node that they render again is for one, and the node showed one before or has
    such a subscription. -/
theorem Followed.shows_turns (favours : Favours change n allowed t₀) (before : InStep t₀)
    {live : List QueryId} (isLive : ∀ q ∈ live, q ∈ t₀.platform.watched)
    (h : Followed change t₀ options n allowed t)
    (last : ∀ s ∈ (rerendered n change t₀ live).getLast?, allowed s.source)
    (shows : Shows options n allowed t ∨ rerendered n change t₀ live ≠ []) :
    Shows options n allowed
      (live.foldl (fun t q => t.turn (q, t₀.platform.isMatch q)) t) := by
  induction live generalizing t with
  | nil => exact shows.resolve_right fun some => some rfl
  | cons q live ih =>
    obtain ⟨here, later⟩ := List.forall_mem_cons.1 isLive
    obtain ⟨i, query, listed⟩ := before.watched.1 here
    have cut : rerendered n change t₀ (q :: live) =
        (if Flips change t₀ query then subscriptions n t₀ (i, query) else []) ++
          rerendered n change t₀ live := by
      rw [rerendered, reacting_cons before listed, List.flatMap_append, ← rerendered]
      split <;> simp
    rw [cut] at last shows
    rw [List.foldl_cons, turn_eq before h.inStep h.grows listed]
    by_cases flips : Flips change t₀ query
    · rw [if_pos flips] at last shows ⊢
      have heard : (i, query) ∈ t₀.platform.listenersOf q := by
        rw [Platform.listenersOf, before.live listed]
        exact List.mem_singleton_self _
      have reacts := mem_reacting here heard flips
      have followed := (stableAt_followed favours reacts).onChange h q
      by_cases none : rerendered n change t₀ live = []
      · -- Nothing of the node is rendered after this turn.
        rw [none, List.append_nil] at last shows
        refine ih later followed (by simp [none]) (.inl ?_)
        have announced (message : String) (answer : Bool) :=
          (stableAt_followed favours reacts).announce h message answer
        refine (announced _ _).shows_reprocess reacts favours last (shows.imp_left ?_)
        rintro ⟨source, isAllowed, upToDate⟩
        exact ⟨source, isAllowed, upToDate.text, upToDate.subscribed⟩
      · refine ih later followed (fun s isLast => last s ?_) (.inr none)
        rw [Option.mem_def, List.getLast?_append, isLast]
        rfl
    · rw [if_neg flips, List.nil_append] at last shows
      rw [if_neg flips]
      exact ih later h last shows

theorem Styled.hostChanged (h : Styled options n t)
    (same : t.platform.host.AgreeBesidesMedia (change t.platform.host)) :
    Styled options n (t.hostChanged change) :=
  ⟨h.sound.of_host same.failing, h.inStep.of_eq rfl rfl rfl, h.style⟩

/-- After a change that favours the allowed texts of the node, it shows one of them. -/
theorem Shows.changeHost (shows : Shows options n allowed t) (h : Styled options n t)
    (same : t.platform.host.AgreeBesidesMedia (change t.platform.host))
    (favours : Favours change n allowed t) :
    Shows options n allowed (t.changeHost renderer change) := by
  obtain ⟨source, isAllowed, upToDate⟩ := shows
  have start : Followed change t options n allowed (t.hostChanged change) :=
    ⟨h.hostChanged same, .refl _, fun key _ => GoesOn.refl (subscriptions n t key) _⟩
  rw [changeHost_eq]
  refine start.shows_turns favours h.inStep (fun _ member => member) favours.last ?_
  by_cases agree : t.platform.host.AgreeOn (change t.platform.host)
    (Subscriber.rendering ⟨n, source, options⟩ t.platform.host).queries
  · -- No answer that the shown text depends on changed: it still is what the node shows.
    obtain ⟨sameText, sameQueries⟩ := render_lockstep (same.agreeFor agree)
    refine .inl ⟨source, isAllowed, ?_, fun query asked => ?_⟩
    · exact upToDate.text.trans (congrArg some sameText.symm)
    · exact upToDate.subscribed query (sameQueries ▸ asked)
  · -- The shown text is subscribed to a query whose answer changed, so it is rendered again.
    simp only [Host.AgreeOn, Classical.not_forall] at agree
    obtain ⟨query, asked, flipped⟩ := agree
    obtain ⟨i, subscribed⟩ := upToDate.subscribed query asked
    obtain ⟨q, watched, heard, -⟩ := h.sound.listening.exists_live subscribed
    have again : (⟨n, source, options⟩ : Subscriber) ∈
        rerendered n change t t.platform.watched := by
      refine List.mem_flatMap.2 ⟨(i, query), ?_, mem_subscriptions.2 ⟨subscribed, rfl⟩⟩
      exact mem_reacting watched heard (Ne.symm flipped)
    exact .inr (List.ne_nil_of_mem again)

end Tracking

/-! ### Runs -/

/-- What happens to tracked nodes: one is rendered from a text and gets the result, or the host
    changes. -/
inductive Move where
  | process (n : NodeId) (source : Text)
  | resize (width : Int) (height : Option Int)
  | setEnvironment (feature value : Text)
  | setMedia (query : Text) (isMatch : Bool)
  deriving DecidableEq, Repr

/-- The change of the host that a move is. -/
def Move.change? : Move → Option (Host → Host)
  | process _ _ => none
  | resize width height => some (Host.resize width height)
  | setEnvironment feature value => some (Host.setEnvironment feature value)
  | setMedia query isMatch => some (Host.setMedia query isMatch)

theorem Move.agreeBesidesMedia {m : Move} {change : Host → Host} (isChange : m.change? = some change)
    (host : Host) : host.AgreeBesidesMedia (change host) := by
  cases m with
  | process n source => cases isChange
  | resize width height => cases isChange; exact ⟨rfl, rfl, rfl, rfl⟩
  | setEnvironment feature value => cases isChange; exact ⟨rfl, rfl, rfl, rfl⟩
  | setMedia query isMatch => cases isChange; exact ⟨rfl, rfl, rfl, rfl⟩

namespace Session

/-- Carries out a move with the engine of the number 0. -/
def move (s : Session) (m : Move) : Session :=
  match m with
  | .process n source =>
    let (s, text) := s.processText 0 source none (some n)
    s.modifyNode n (·.setText text)
  | .resize width height => s.changeHost (Host.resize width height)
  | .setEnvironment feature value => s.changeHost (Host.setEnvironment feature value)
  | .setMedia query isMatch => s.changeHost (Host.setMedia query isMatch)

/-- A session with one engine and some nodes, none of which is tracked. -/
def untracked (host : Host) (options : Options) (nodes : Nodes) : Session where
  platform := { host }
  nodes
  registries := [{}]
  engines := [{ options }]

/-- A move spares the allowed texts of a node if it does not change the host, or if the change favours
    them. -/
def Spares (n : NodeId) (allowed : Text → Prop) (s : Session) (m : Move) : Prop :=
  ∀ change, m.change? = some change → Tracking.Favours change n allowed s.toTracking

/-- One engine with a sound registry, and the node is a style. -/
structure Tracks (options : Options) (n : NodeId) (s : Session) : Prop where
  styled : s.toTracking.Styled options n
  options : (s.engine 0).options = options

variable {options : Options} {n : NodeId} {allowed : Text → Prop} {s : Session} {host : Host}
  {nodes : Nodes}

theorem move_of_change {m : Move} {change : Host → Host} (isChange : m.change? = some change) :
    s.move m = s.changeHost change := by
  cases m <;> cases isChange <;> rfl

theorem toTracking_process (isOptions : (s.engine 0).options = options) (n : NodeId) (source : Text) :
    (s.move (.process n source)).toTracking = s.toTracking.display 0 ⟨n, source, options⟩ := by
  subst isOptions
  rfl

theorem Tracks.inside (h : Tracks options n s) : 0 < s.registries.length := by
  rw [h.styled.sound.registries]
  exact Nat.one_pos

theorem Tracks.move (h : Tracks options n s) (m : Move) : Tracks options n (s.move m) := by
  cases isChange : m.change? with
  | some change =>
    rw [move_of_change isChange]
    refine ⟨Tracking.stable_styled.changeHost ?_, h.options⟩
    exact h.styled.hostChanged (m.agreeBesidesMedia isChange _)
  | none =>
    cases m with
    | process n' source =>
      refine ⟨?_, h.options⟩
      rw [toTracking_process h.options]
      exact h.styled.display h.inside rfl
    | resize => cases isChange
    | setEnvironment => cases isChange
    | setMedia => cases isChange

/-- A move that spares the allowed texts of a node leaves it with one of them. -/
theorem shows_move (h : Tracks options n s) (shows : s.toTracking.Shows options n allowed) {m : Move}
    (spares : Spares n allowed s m) (processed : ∀ source, m = .process n source → allowed source) :
    (s.move m).toTracking.Shows options n allowed := by
  cases isChange : m.change? with
  | some change =>
    rw [move_of_change isChange]
    exact shows.changeHost h.styled (m.agreeBesidesMedia isChange _) (spares change isChange)
  | none =>
    cases m with
    | process n' source =>
      rw [toTracking_process h.options]
      refine shows.display h.styled h.inside rfl fun same => ?_
      exact processed source (by rw [← same])
    | resize => cases isChange
    | setEnvironment => cases isChange
    | setMedia => cases isChange

/-- The state after several moves. -/
def moves (s : Session) (ms : List Move) : Session :=
  ms.foldl move s

theorem moves_append (s : Session) (front back : List Move) :
    s.moves (front ++ back) = (s.moves front).moves back :=
  List.foldl_append

theorem Tracks.moves (h : Tracks options n s) (ms : List Move) : Tracks options n (s.moves ms) :=
  List.foldlRecOn ms Session.move h fun _ h' m _ => h'.move m

theorem shows_moves (h : Tracks options n s) (shows : s.toTracking.Shows options n allowed)
    {ms : List Move}
    (spares : ∀ front m back, ms = front ++ m :: back → Spares n allowed (s.moves front) m)
    (processed : ∀ source, .process n source ∈ ms → allowed source) :
    (s.moves ms).toTracking.Shows options n allowed := by
  induction ms generalizing s with
  | nil => exact shows
  | cons m ms ih =>
    refine ih (h.move m) (shows_move h shows (spares [] m ms rfl) ?_) ?_ ?_
    · rintro source rfl
      exact processed source List.mem_cons_self
    · rintro front m' back rfl
      exact spares (m :: front) m' back rfl
    · exact fun source member => processed source (List.mem_cons_of_mem _ member)

/-- Moves add no subscriptions of a node for texts that it is not processed with. -/
theorem spared_moves (h : Tracks options n s)
    (spared : ∀ i query, Tracking.Spared n allowed s.toTracking i query) {ms : List Move}
    (processed : ∀ source, .process n source ∈ ms → allowed source) :
    ∀ i query, Tracking.Spared n allowed (s.moves ms).toTracking i query := by
  induction ms generalizing s with
  | nil => exact spared
  | cons m ms ih =>
    refine ih (h.move m) ?_ fun source member => processed source (List.mem_cons_of_mem _ member)
    cases isChange : m.change? with
    | some change =>
      rw [move_of_change isChange]
      exact Tracking.stable_spared.changeHost spared
    | none =>
      cases m with
      | process n' source =>
        rw [toTracking_process h.options]
        intro i query s' member isNode
        rcases Tracking.mem_subscribersOf_display.1 member with old | ⟨-, -, rfl, -⟩
        · exact spared i query s' old isNode
        · exact processed source (by rw [← isNode]; exact List.mem_cons_self)
      | resize => cases isChange
      | setEnvironment => cases isChange
      | setMedia => cases isChange

theorem registry_untracked (host : Host) (options : Options) (nodes : Nodes) (i : Nat) :
    (untracked host options nodes).registry i = {} := by
  cases i <;> rfl

theorem tracks_untracked (able : host.failing = [])
    (style : ∃ text, nodes[n]?.bind Node.text? = some text) :
    Tracks options n (untracked host options nodes) := by
  have empty := registry_untracked host options nodes
  have noSubscriber {i : Nat} {query : Text} {s : Subscriber} :
      s ∉ ((untracked host options nodes).registry i).subscribersOf query := by
    rw [empty]
    exact List.not_mem_nil
  refine ⟨⟨⟨?_, ⟨?_, ?_⟩, rfl, ?_⟩, Tracking.inStep_start 1 host nodes, style⟩, rfl⟩
  · change host.failing.contains _ = _
    rw [able]
    rfl
  · intro i query q member
    rw [empty] at member
    exact absurd member List.not_mem_nil
  · exact fun member => absurd member noSubscriber
  · exact fun member => absurd member noSubscriber

/-- All subscriptions of a node are for texts that it was processed with. -/
theorem spared_untracked (options : Options) (able : host.failing = [])
    (style : ∃ text, nodes[n]?.bind Node.text? = some text) (ms : List Move) (i : Nat) (query : Text) :
    Tracking.Spared n (.process n · ∈ ms) ((untracked host options nodes).moves ms).toTracking i query := by
  refine spared_moves (tracks_untracked able style) ?_ (fun _ member => member) i query
  intro i query own member
  rw [registry_untracked] at member
  exact absurd member List.not_mem_nil

/-- What a node shows after it was processed is the rendering, on the host as it is, of a text that it
    was processed with. It is the latest one if every later change of the host spares that: of the
    subscriptions of the node to queries whose answers change, none is for another text, or the one that
    is rendered last is for the latest text. -/
theorem text_of_tracked (host : Host) (options : Options) (nodes : Nodes) (able : host.failing = [])
    (n : NodeId) (style : ∃ text, nodes[n]?.bind Node.text? = some text) (before after : List Move)
    (source : Text) :
    let s := (untracked host options nodes).moves (before ++ .process n source :: after)
    let shown := s.nodes[n]?.bind Node.text?
    (∃ text, .process n text ∈ before ++ .process n source :: after ∧
      shown = some (render s.platform.host options text).text) ∧
    ((∀ text, .process n text ∉ after) →
      (∀ front m back, after = front ++ m :: back → Spares n (· = source)
        ((untracked host options nodes).moves (before ++ .process n source :: front)) m) →
      shown = some (render s.platform.host options source).text) := by
  have start : Tracks options n (untracked host options nodes) := tracks_untracked able style
  have tracks := (start.moves before).move (.process n source)
  have shows (allowed : Text → Prop) (isAllowed : allowed source) :
      (((untracked host options nodes).moves before).move
        (.process n source)).toTracking.Shows options n allowed := by
    rw [toTracking_process (start.moves before).options]
    exact ⟨source, isAllowed, Tracking.upToDate_display_own (start.moves before).styled.style
      (start.moves before).inside⟩
  intro s shown
  have run : s = (((untracked host options nodes).moves before).move (.process n source)).moves after :=
    moves_append _ before (.process n source :: after)
  constructor
  · let allowed (text : Text) : Prop := .process n text ∈ before ++ .process n source :: after
    obtain ⟨text, isAllowed, upToDate⟩ : s.toTracking.Shows options n allowed := by
      rw [run]
      refine shows_moves tracks (shows allowed (by simp [allowed])) ?_ ?_
      · rintro front m back rfl change -
        refine .of_spared fun i query own member isNode => ?_
        have processed := spared_untracked options able style (before ++ .process n source :: front)
          i query own
        rw [moves_append] at processed
        have earlier : before ++ .process n source :: (front ++ m :: back) =
            (before ++ .process n source :: front) ++ m :: back := by simp
        change _ ∈ _
        rw [earlier]
        exact List.mem_append_left _ (processed member isNode)
      · exact fun text member => List.mem_append_right _ (List.mem_cons_of_mem _ member)
    exact ⟨text, isAllowed, upToDate.text⟩
  · intro latest spares
    obtain ⟨text, rfl, upToDate⟩ : s.toTracking.Shows options n (· = source) := by
      rw [run]
      refine shows_moves tracks (shows (· = source) rfl) ?_
        fun text member => absurd member (latest text)
      intro front m back split
      have spared := spares front m back split
      rwa [moves_append] at spared
    exact upToDate.text

/-- A style sheet that depends on a media query. -/
def followsX : Text :=
  ".a \x7b b: if(media(x): 1; style(--s): 0; else: 2); \x7d".toList

/-- A style sheet that depends on this media query, and on another one. -/
def followsBoth : Text :=
  ".a \x7b c: if(media(y): 5; media(x): 4; style(--s): 0; else: 3); \x7d".toList

/-- One node, processed with both texts; then the query matches on which both depend. Both are rendered
    again, the later one last. -/
theorem text_of_tracked_followsBoth :
    ((untracked {} {} [{ body := .style [] }]).moves
      [.process 0 followsX, .process 0 followsBoth, .setMedia ['x'] true]).nodes[0]?.bind Node.text? =
        some ".a \x7b c: 4; \x7d".toList := by
  obtain ⟨-, latest⟩ := text_of_tracked {} {} [{ body := .style [] }] rfl 0 ⟨[], rfl⟩
    [.process 0 followsX] [.setMedia ['x'] true] followsBoth
  refine (latest (by simp) ?_).trans (by decide +kernel)
  intro front m back split change isChange
  obtain ⟨rfl, rfl, rfl⟩ : front = [] ∧ m = .setMedia ['x'] true ∧ back = [] := by
    cases front with
    | nil => simpa [eq_comm] using split
    | cons first front => simp at split
  cases isChange
  decide +kernel

/-- The node gets the first text back: that one is still subscribed to its query, and the text that the
    node was processed with last asks nothing. -/
theorem earlier_text_returns :
    let plain : Text := ".a \x7b c: if(style(--s): 4; else: 3); \x7d".toList
    let s := (untracked {} {} [{ body := .style [] }]).moves [.process 0 followsX, .process 0 plain]
    let s' := s.move (.setMedia ['x'] true)
    s.nodes[0]?.bind Node.text? = some ".a \x7b c: 3; \x7d".toList ∧
      (render s'.platform.host {} plain).text = ".a \x7b c: 3; \x7d".toList ∧
      s'.nodes[0]?.bind Node.text? = some ".a \x7b b: 1; \x7d".toList ∧
      (render s'.platform.host {} followsX).text = ".a \x7b b: 1; \x7d".toList := by
  decide +kernel

end Session
end CondCss
