import CondCss.Proofs.Session.Work

/-!
# No processed style goes stale

A run of a session with one engine is any sequence of actions: nodes are made and put into the
document, the document is flushed, the engine starts or refreshes, and the host changes its viewport,
its environment or its answers. In every run, an inline style that the engine has processed keeps the
text that its source is rendered to on the host as it is now (`text_of_processed`), also when a later
pass reaches media queries that the first rendering did not ask.

The condition is that the node had no subscription from an earlier text when it was processed. The
engine leaves a style unmarked when rendering does not change it, and an unmarked style is processed
again; a subscription left by the first time then still writes what the earlier text is rendered to
(`processed_text_differs`).
-/

namespace CondCss

/-- What can happen in a session, besides direct changes of nodes. -/
inductive Action where
  /-- A node is made. It is known by the next free place in the table. -/
  | create (node : Node)
  | append (id : NodeId) (toBody : Bool)
  | insertAfter (reference id : NodeId)
  | flush
  | start
  | refreshAll
  | resize (width : Int) (height : Option Int)
  | setEnvironment (feature value : Text)
  | setMedia (query : Text) (isMatch : Bool)
  deriving DecidableEq, Repr

namespace Session

/-- The state after an action of the page, the platform or the engine with the number 0. An action
    that stops with a fault leaves the state that it has reached. -/
def perform (s : Session) : Action → Session
  | .create node => s.track fun t => { t with nodes := t.nodes ++ [node] }
  | .append id toBody => s.modifyDocument (·.append id toBody)
  | .insertAfter reference id =>
    s.modifyDocument fun d => ((d.insertAfter reference id).toOption).getD d
  | .flush => s.flush.1
  | .start => (s.start 0).1
  | .refreshAll => (s.refreshAll 0).1
  | .resize width height => s.changeHost (Host.resize width height)
  | .setEnvironment feature value => s.changeHost (Host.setEnvironment feature value)
  | .setMedia query isMatch => s.changeHost (Host.setMedia query isMatch)

/-- The state after several actions. -/
def run (s : Session) (actions : List Action) : Session :=
  actions.foldl perform s

theorem run_append (s : Session) (before after : List Action) :
    s.run (before ++ after) = (s.run before).run after :=
  List.foldl_append

/-- A session with one engine and an empty document. -/
def single (host : Host) (options : Options) (origin : Text) (server : Server)
    (followsRedirects : Bool) : Session where
  platform := { host }
  registries := [{}]
  engines := [{ options }]
  document := some { origin }
  server := server
  followsRedirects := followsRedirects

/-! ### Sessions with one engine -/

/-- The registrations of the engine are in order, and nobody else observes the document. -/
structure Ready (options : Options) (s : Session) : Prop where
  sound : s.toTracking.Sound options
  options : (s.engine 0).options = options
  observers : ∀ {d : Document Nat}, s.document = some d → ∀ i ∈ d.observers, i = 0

/-- The options with which the engine of a number renders, if it has a registry. -/
theorem Ready.engine_options {options : Options} {s : Session} (h : Ready options s) {i : Nat}
    (inside : i < s.registries.length) : (s.engine i).options = options := by
  have first : i = 0 := by
    have := h.sound.registries
    omega
  rw [first]
  exact h.options

theorem ready_single (host : Host) (options : Options) (origin : Text) (server : Server)
    (followsRedirects : Bool) (able : host.failing = []) :
    Ready options (single host options origin server followsRedirects) := by
  have empty (i : Nat) :
      (single host options origin server followsRedirects).registry i = {} := by
    cases i <;> rfl
  refine ⟨⟨?_, ⟨?_, ?_⟩, rfl, ?_⟩, rfl, ?_⟩
  · change host.failing.contains _ = _
    rw [able]
    rfl
  · intro i query q member
    rw [empty] at member
    exact absurd member List.not_mem_nil
  · intro i query s member
    rw [empty] at member
    exact absurd member List.not_mem_nil
  · intro i query s member
    rw [empty] at member
    exact absurd member List.not_mem_nil
  · rintro d isDocument i member
    obtain rfl := Option.some.inj isDocument
    exact absurd member List.not_mem_nil

theorem Ready.of_eq {options : Options} {s s' : Session} (h : Ready options s)
    (platform : s'.platform = s.platform) (registries : s'.registries = s.registries)
    (engines : s'.engines = s.engines) (document : s'.document = s.document) : Ready options s' where
  sound := h.sound.of_eq platform registries
  options := by
    unfold engine
    rw [engines]
    exact h.options
  observers isDocument := h.observers (document ▸ isDocument)

theorem Ready.modifyDocument {options : Options} {s : Session} {f : Document Nat → Document Nat}
    (same : ∀ d, (f d).observers = d.observers) (h : Ready options s) :
    Ready options (s.modifyDocument f) where
  sound := h.sound
  options := h.options
  observers isDocument := by
    obtain ⟨d, before, rfl⟩ := Option.map_eq_some_iff.1 isDocument
    rw [same]
    exact h.observers before

theorem Ready.processText {options : Options} {s : Session} (h : Ready options s) (i : Nat)
    (text : Text) (id : NodeId) : Ready options (s.processText i text none (some id)).1 where
  sound := by
    refine h.sound.absorb (fun own isOwn inside => ?_) _
    obtain rfl := Option.some.inj isOwn
    exact h.engine_options inside
  options := h.options
  observers := h.observers

theorem Ready.observing {options : Options} {s : Session} (h : Ready options s) :
    Ready options
      ((s.modifyDocument (·.observe 0)).modifyEngine 0 ({ · with observing := true })) where
  sound := h.sound
  options := by
    rw [← h.options]
    change ((s.engines.modify 0 _)[0]?.getD ({} : Engine)).options = _
    rw [engine]
    rw [List.getElem?_modify_eq]
    cases s.engines[0]? <;> rfl
  observers isDocument i member := by
    obtain ⟨d, before, rfl⟩ := Option.map_eq_some_iff.1 isDocument
    unfold Document.observe at member
    split at member
    · exact h.observers before i member
    · rcases List.mem_append.1 member with old | new
      · exact h.observers before i old
      · exact List.mem_singleton.1 new

theorem kept_ready (options : Options) : Kept (Ready options) fun _ => True where
  link _ _ := trivial
  fresh _ := trivial
  write _ h := h.of_eq rfl rfl rfl rfl
  moved same h := h.modifyDocument same
  changed _ _ h := h.of_eq rfl rfl rfl rfl
  added _ h := h.of_eq rfl rfl rfl rfl
  rendered i text _ h := h.processText i text _
  styled {s} id h := by
    rcases processStyle_cases s 0 id with same | ⟨node, rendered, -, -, rfl, done | ⟨e, done⟩⟩
    · rw [same]
      exact h
    · rw [done]
      exact h.processText 0 _ id
    · rw [done]
      exact (h.processText 0 _ id).of_eq rfl rfl rfl rfl
  observer h := h.observers
  observing h := h.observing

/-! ### One inline style -/

/-- A style that has no subscription but those for its source. It is marked and up to date, or, if it
    may be `waiting` to be processed, it is not marked and has its source as its text. -/
structure Tended (waiting : Prop) (own : Subscriber) (s : Session) : Prop
    extends Ready own.options s where
  attended : s.toTracking.Attended own
  state : ∃ node, s.nodes[own.node]? = some node ∧
    (waiting ∧ node.isProcessed = false ∧ node.text? = some own.source ∨
      node.isProcessed = true ∧ s.toTracking.UpToDate own)

variable {waiting : Prop} {own : Subscriber} {s s' : Session}

theorem Tended.text? (h : Tended waiting own s) :
    ∃ text, s.nodes[own.node]?.bind Node.text? = some text :=
  h.attended.style

/-- More registrations and changes of other nodes do not concern the style. -/
theorem Tended.of_grows (h : Tended waiting own s) (ready : Ready own.options s')
    (attended : s'.toTracking.Attended own) (grows : s.toTracking.Grows s'.toTracking)
    (same : s'.nodes[own.node]? = s.nodes[own.node]?) : Tended waiting own s' where
  toReady := ready
  attended := attended
  state := by
    obtain ⟨node, found, state⟩ := h.state
    refine ⟨node, same.trans found, state.imp id fun ⟨marked, upToDate⟩ => ⟨marked, ?_, ?_⟩⟩
    · rw [same, grows.host]
      exact upToDate.text
    · intro query asked
      rw [grows.host] at asked
      obtain ⟨i, subscribed⟩ := upToDate.subscribed query asked
      exact ⟨i, grows.subscribed subscribed⟩

/-- A change that concerns neither the platform, nor the registries, nor the style. -/
theorem Tended.of_eq (h : Tended waiting own s) (ready : Ready own.options s')
    (platform : s'.platform = s.platform) (registries : s'.registries = s.registries)
    (same : s'.nodes[own.node]? = s.nodes[own.node]?) : Tended waiting own s' := by
  refine h.of_grows ready ⟨ready.sound, fun member isOwn => ?_, ?_⟩ (.of_eq platform registries) same
  · unfold Tracking.registry at member
    rw [registries] at member
    exact h.attended.owned member isOwn
  · rw [same]
    exact h.attended.style

theorem Tended.processText (h : Tended waiting own s) (i : Nat) (text : Text) (id : NodeId)
    (isOwn : id = own.node → i = 0 ∧ text = own.source) :
    Tended waiting own (s.processText i text none (some id)).1 := by
  refine h.of_grows (h.toReady.processText i text id) ?_ (Tracking.grows_absorb ..) ?_
  · refine h.attended.absorb (fun s isSome inside => ?_) (fun s isSome isNode => ?_) _
    · obtain rfl := Option.some.inj isSome
      exact h.toReady.engine_options inside
    · obtain rfl := Option.some.inj isSome
      obtain ⟨rfl, rfl⟩ := isOwn isNode
      obtain ⟨node, source, options⟩ := own
      cases isNode
      simp only [Option.getD_none, h.toReady.options]
  · change (Tracking.absorb _ _ _ s.toTracking).nodes[_]? = _
    rw [Tracking.nodes_absorb]

theorem getElem?_modifyNode_of_ne {id n : NodeId} (other : id ≠ n) (f : Node → Node) (s : Session) :
    (s.modifyNode id f).nodes[n]? = s.nodes[n]? :=
  List.getElem?_modify_ne f s.nodes other

/-- The engine renders the source of a style as the subscriber for it is rendered. -/
theorem processText_own (isOptions : (s.engine 0).options = own.options) :
    s.processText 0 own.source none (some own.node) =
      (s.track (·.absorb 0 (some own) (own.rendering s.platform.host).effects),
        (own.rendering s.platform.host).text) := by
  unfold Session.processText Subscriber.rendering
  simp only [Option.getD_none, isOptions, Option.map_some]

theorem mark_setText {node : Node} {source : Text} (isStyle : node.text? = some source)
    (text key : Text) :
    ((node.setText text).mark key).text? = some text ∧
      Assoc.contains key ((node.setText text).mark key).dataset = true := by
  have marked (dataset : List (Text × Text)) (value : Text) :
      Assoc.contains key (Assoc.insert key value dataset) = true := by
    induction dataset with
    | nil => simp [Assoc.insert, Assoc.contains]
    | cons e dataset ih =>
      unfold Assoc.insert
      split
      · rename_i here
        simp [Assoc.contains, here]
      · exact Bool.or_eq_true_iff.2 (.inr ih)
  obtain ⟨body, dataset⟩ := node
  cases body with
  | style _ => exact ⟨rfl, marked dataset Node.markValue⟩
  | link _ => cases isStyle

/-- Processing the style itself leaves it as it is, or marks it and brings it up to date. -/
theorem Tended.processStyle_own (h : Tended waiting own s) :
    Tended waiting own (s.processStyle 0 own.node).1 := by
  rcases processStyle_cases s 0 own.node with
    same | ⟨node, rendered, found, unmarked, hrendered, done⟩
  · rw [same]
    exact h
  have isSource : node.text? = some own.source := by
    obtain ⟨node', found', ⟨-, -, isSource⟩ | ⟨marked, -⟩⟩ := h.state
    · obtain rfl := Option.some.inj (found.symm.trans found')
      exact isSource
    · obtain rfl := Option.some.inj (found.symm.trans found')
      rw [unmarked] at marked
      cases marked
  rw [isSource, Option.getD_some] at hrendered
  have tended := h.processText 0 own.source own.node fun _ => ⟨rfl, rfl⟩
  rw [hrendered] at tended
  rcases done with done | ⟨e, done⟩
  · rw [done]
    exact tended
  rw [processText_own h.toReady.options] at hrendered
  subst hrendered
  rw [done]
  obtain ⟨isText, isMarked⟩ := mark_setText isSource (own.rendering s.platform.host).text
    Node.processedKey
  have found' : ((s.track (·.absorb 0 (some own) (own.rendering s.platform.host).effects)).modifyNode
      own.node fun n => (n.setText (own.rendering s.platform.host).text).mark
        Node.processedKey).nodes[own.node]? =
      some ((node.setText (own.rendering s.platform.host).text).mark Node.processedKey) := by
    change ((Tracking.absorb _ _ _ s.toTracking).nodes.modify own.node _)[own.node]? = _
    rw [Tracking.nodes_absorb, List.getElem?_modify_eq, found]
    rfl
  have host := (Tracking.grows_absorb s.toTracking 0 (some own)
    (own.rendering s.platform.host).effects).host
  refine ⟨tended.toReady.of_eq rfl rfl rfl rfl,
    ⟨tended.toReady.sound.of_eq rfl rfl, tended.attended.owned, ?_⟩, _, found', .inr ⟨isMarked, ?_, ?_⟩⟩
  · exact ⟨_, (congrArg (·.bind Node.text?) found').trans isText⟩
  · refine (congrArg (·.bind Node.text?) found').trans (isText.trans ?_)
    exact congrArg (fun h => some (own.rendering h).text) host.symm
  · intro query asked
    have asked : query ∈ (own.rendering s.platform.host).queries := by
      rw [← host]
      exact asked
    refine ⟨0, Tracking.mem_subscribersOf_absorb.2 (.inr ⟨rfl, ?_, rfl, asked⟩)⟩
    rw [h.toReady.sound.registries]
    exact Nat.one_pos

theorem kept_tended (waiting : Prop) (own : Subscriber) :
    Kept (Tended waiting own) (· ≠ own.node) where
  link {s id l} h isLink same := by
    obtain ⟨text, isText⟩ := h.text?
    obtain ⟨node, found, isLink⟩ := Option.bind_eq_some_iff.1 isLink
    rw [← same, found] at isText
    obtain ⟨body, dataset⟩ := node
    cases body <;> cases isText
    cases isLink
  fresh {s} h same := by
    obtain ⟨node, found, -⟩ := h.state
    rw [← same, List.getElem?_eq_none (Nat.le_refl _)] at found
    cases found
  write e h := h.of_eq ((kept_ready _).write e h.toReady) rfl rfl rfl
  moved same h := h.of_eq (h.toReady.modifyDocument same) rfl rfl rfl
  changed f other h := h.of_eq ((kept_ready _).changed f trivial h.toReady) rfl rfl
    (getElem?_modifyNode_of_ne other f _)
  added {s} node h := by
    refine h.of_eq ((kept_ready _).added node h.toReady) rfl rfl ?_
    obtain ⟨_, found, -⟩ := h.state
    obtain ⟨inside, -⟩ := List.getElem?_eq_some_iff.1 found
    exact List.getElem?_append_left inside
  rendered i text other h := h.processText i text _ fun same => absurd same other
  styled {s} id h := by
    by_cases same : id = own.node
    · rw [same]
      exact h.processStyle_own
    rcases processStyle_cases s 0 id with unchanged | ⟨node, rendered, -, -, rfl, done | ⟨e, done⟩⟩
    · rw [unchanged]
      exact h
    · rw [done]
      exact h.processText 0 _ id fun isOwn => absurd isOwn same
    · rw [done]
      have tended := h.processText 0 (node.text?.getD []) id fun isOwn => absurd isOwn same
      exact tended.of_eq (tended.toReady.of_eq rfl rfl rfl rfl) rfl rfl
        (getElem?_modifyNode_of_ne same _ _)
  observer h := h.toReady.observers
  observing h := h.of_eq h.toReady.observing rfl rfl rfl

/-! ### Runs -/

/-- An action is a change of the host that concerns media alone, or keeps what all work of the engine
    keeps. -/
theorem perform_cases {P : Session → Prop} {free : NodeId → Prop} (k : Kept P free) (h : P s)
    (a : Action) : P (s.perform a) ∨ ∃ change : Host → Host,
      (∀ host : Host, host.AgreeBesidesMedia (change host)) ∧ s.perform a = s.changeHost change := by
  cases a with
  | create node => exact .inl (k.added node h)
  | append id toBody =>
    refine .inl (k.moved (fun d => ?_) h)
    unfold Document.append
    split <;> rfl
  | insertAfter reference id =>
    refine .inl (k.moved (fun d => ?_) h)
    unfold Document.insertAfter
    simp only
    split <;> rfl
  | flush => exact .inl (k.flush h)
  | start => exact .inl (k.start h)
  | refreshAll => exact .inl (k.refreshAll h)
  | resize width height => exact .inr ⟨Host.resize width height, fun _ => ⟨rfl, rfl, rfl, rfl⟩, rfl⟩
  | setEnvironment feature value =>
    exact .inr ⟨Host.setEnvironment feature value, fun _ => ⟨rfl, rfl, rfl, rfl⟩, rfl⟩
  | setMedia query isMatch =>
    exact .inr ⟨Host.setMedia query isMatch, fun _ => ⟨rfl, rfl, rfl, rfl⟩, rfl⟩

theorem Ready.changeHost {options : Options} (h : Ready options s) {change : Host → Host}
    (same : ∀ host : Host, host.AgreeBesidesMedia (change host)) : Ready options (s.changeHost change) where
  sound := (Tracking.stable_sound options).changeHost (h.sound.of_host (same _).failing)
  options := h.options
  observers := h.observers

theorem Ready.perform {options : Options} (h : Ready options s) (a : Action) :
    Ready options (s.perform a) := by
  rcases perform_cases (kept_ready options) h a with kept | ⟨change, same, changed⟩
  · exact kept
  · rw [changed]
    exact h.changeHost same

theorem Ready.run {options : Options} (h : Ready options s) (actions : List Action) :
    Ready options (s.run actions) :=
  List.foldlRecOn actions Session.perform h fun _ h' a _ => h'.perform a

/-- No change of the host sets or removes a mark. -/
theorem dataset_changeHost (s : Session) (change : Host → Host) (n : NodeId) :
    (s.changeHost change).nodes[n]?.map Node.dataset = s.nodes[n]?.map Node.dataset := by
  have stable : Tracking.Stable renderer fun t => t.nodes[n]?.map Node.dataset =
      s.nodes[n]?.map Node.dataset := by
    refine ⟨fun _ h => h, fun {t i query own} _ h => ?_⟩
    rw [Tracking.nodes_refresh, ← h]
    by_cases same : own.node = n
    · rw [same, List.getElem?_modify_eq]
      cases t.nodes[n]? with
      | none => rfl
      | some node =>
        obtain ⟨body, dataset⟩ := node
        cases body <;> rfl
    · rw [List.getElem?_modify_ne _ _ same]
  exact stable.changeHost rfl

theorem Tended.changeHost (h : Tended False own s) {change : Host → Host}
    (same : ∀ host : Host, host.AgreeBesidesMedia (change host)) : Tended False own (s.changeHost change) := by
  obtain ⟨node, found, ⟨⟨⟩, -⟩ | ⟨marked, upToDate⟩⟩ := h.state
  obtain ⟨attended, upToDate⟩ := upToDate.changeHost h.attended (same _)
  have dataset := dataset_changeHost s change own.node
  rw [found, Option.map_some] at dataset
  obtain ⟨node', found', sameDataset⟩ := Option.map_eq_some_iff.1 dataset
  refine ⟨h.toReady.changeHost same, attended, node', found', .inr ⟨?_, upToDate⟩⟩
  rw [Node.isProcessed, sameDataset]
  exact marked

theorem Tended.run (h : Tended False own s) (actions : List Action) :
    Tended False own (s.run actions) := by
  refine List.foldlRecOn actions Session.perform h fun s h a _ => ?_
  rcases perform_cases (kept_tended False own) h a with kept | ⟨change, same, changed⟩
  · exact kept
  · rw [changed]
    exact h.changeHost same

/-- The action that marks a style brings it up to date. -/
theorem Tended.of_marked (h : Tended True own s) {a : Action}
    (unmarked : s.nodes[own.node]?.any Node.isProcessed = false)
    (marked : (s.perform a).nodes[own.node]?.any Node.isProcessed = true) :
    Tended False own (s.perform a) := by
  rcases perform_cases (kept_tended True own) h a with kept | ⟨change, -, changed⟩
  · obtain ⟨node, found, ⟨-, notMarked, -⟩ | upToDate⟩ := kept.state
    · rw [found, Option.any_some, notMarked] at marked
      cases marked
    · exact ⟨kept.toReady, kept.attended, node, found, .inr upToDate⟩
  · have byDataset (found : Option Node) : found.any Node.isProcessed =
        (found.map Node.dataset).any (Assoc.contains Node.processedKey) := by
      cases found <;> rfl
    rw [changed, byDataset, dataset_changeHost, ← byDataset, unmarked] at marked
    cases marked

/-- In every run, an inline style that an action has marked as processed has, from then on, the text
    that its source is rendered to on the host as it is, provided that it had no subscription for
    another text when it was processed. -/
theorem text_of_processed (host : Host) (options : Options) (origin : Text) (server : Server)
    (followsRedirects : Bool) (able : host.failing = []) (before : List Action) (a : Action)
    (after : List Action) (n : NodeId) (source : Text)
    (isSource : ((single host options origin server followsRedirects).run before).nodes[n]?.bind
      Node.text? = some source)
    (unmarked : ((single host options origin server followsRedirects).run before).nodes[n]?.any
      Node.isProcessed = false)
    (noOther : ∀ (i : Nat) (query : Text),
      ∀ s ∈ (((single host options origin server followsRedirects).run before).registry
        i).subscribersOf query, s.node = n → s.source = source)
    (marked : ((single host options origin server followsRedirects).run
      (before ++ [a])).nodes[n]?.any Node.isProcessed = true) :
    ((single host options origin server followsRedirects).run
        (before ++ a :: after)).nodes[n]?.bind Node.text? =
      some (render ((single host options origin server followsRedirects).run
        (before ++ a :: after)).platform.host options source).text := by
  have ready := (ready_single host options origin server followsRedirects able).run before
  rw [run_append] at marked ⊢
  generalize (single host options origin server followsRedirects).run before = s at *
  have tended : Tended True ⟨n, source, options⟩ s := by
    refine ⟨ready, ⟨ready.sound, fun member isNode => ?_, source, isSource⟩, ?_⟩
    · rename_i s'
      have isSource := noOther _ _ s' member isNode
      have isOptions := ready.sound.options member
      obtain ⟨node', source', options'⟩ := s'
      cases isNode
      cases isSource
      cases isOptions
      rfl
    · obtain ⟨node, found, isText⟩ := Option.bind_eq_some_iff.1 isSource
      rw [found] at unmarked
      exact ⟨node, found, .inl ⟨trivial, unmarked, isText⟩⟩
  obtain ⟨node, -, ⟨⟨⟩, -⟩ | ⟨-, upToDate⟩⟩ := ((tended.of_marked unmarked marked).run after).state
  exact upToDate.text

/-- A style sheet whose rendering asks a second media query only when the first one matches. -/
def nestedQueries : Text :=
  "a \x7b b: if(media(x): if(media(y): 1; else: 2); else: 3); \x7d".toList

/-- The style is processed when neither query matches; then the first one does, and then the
    second. -/
theorem text_of_processed_nestedQueries :
    ((single {} {} [] [] false).run
      [.create { body := .style nestedQueries }, .append 0 false, .start]).nodes[0]?.bind
        Node.text? = some "a \x7b b: 3; \x7d".toList ∧
    ((single {} {} [] [] false).run
      [.create { body := .style nestedQueries }, .append 0 false, .start, .setMedia ['x'] true,
        .setMedia ['y'] true]).nodes[0]?.bind Node.text? = some "a \x7b b: 1; \x7d".toList := by
  refine ⟨by decide +kernel, ?_⟩
  have current := text_of_processed {} {} [] [] false rfl
    [.create { body := .style nestedQueries }, .append 0 false] .start
    [.setMedia ['x'] true, .setMedia ['y'] true] 0 nestedQueries rfl rfl
    (fun i query s member _ => by cases i <;> exact absurd member List.not_mem_nil)
    (by decide +kernel)
  refine current.trans ?_
  decide +kernel

/-- A text that its rendering leaves as it is although that depends on a media query: the call that
    asks it stands in two strings of the deferred part, and what the call is replaced by makes up for
    what expanding moved. -/
def unchangedByAccident : Text :=
  "a: \")if(media(q):(;);b:\"' \x7b c: \"'\" if(); \x7d\na: \")\" if(); \x7d".toList

/-- What the style has as its text while the query matches. -/
def unchangedByAccident.whileMatching : Text :=
  "a: \")if(media(q):(;);b:\"' \x7b c: \"'\" if(); \x7d\na: \")(;)\" if(); \x7d".toList

/-- The style is rendered but not marked, changes with the query, is processed with the text that it
    has then, and is written by its first subscription when the query changes back. -/
theorem processed_text_differs :
    let before : List Action := [.create { body := .style unchangedByAccident }, .append 0 false,
      .start, .setMedia ['q'] true]
    let s := (single {} {} [] [] false).run before
    let s' := s.run [.refreshAll]
    let s'' := s'.run [.setMedia ['q'] false]
    s.nodes[0]?.bind Node.text? = some unchangedByAccident.whileMatching ∧
    s.nodes[0]?.any Node.isProcessed = false ∧
    s'.nodes[0]?.any Node.isProcessed = true ∧
    s''.nodes[0]?.bind Node.text? = some unchangedByAccident ∧
    (render s''.platform.host {} unchangedByAccident.whileMatching).text ≠ unchangedByAccident := by
  decide +kernel

end Session
end CondCss
