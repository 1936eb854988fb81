import CondCss.Proofs.Session.Offers
import CondCss.Proofs.Tracking.Reactions

/-!
# No style sheet is missed

An engine that has started observes the document. Whatever happens then, as long as nothing fails,
every style and every link to a style sheet in the document has been offered to the engine, or is
processed, or is recorded and waits for the next flush. So when nothing is recorded, none has been
missed. What is recorded is delivered in the next flush, once to each observer, and in each delivery a
node is offered at most once, and only if it is not processed (`no_sheet_missed`).

What commands other than flushes can do is said once (`Advances`), and the rest is derived from it.
-/

namespace CondCss

theorem Document.append_cases {ω : Type} (id : NodeId) (toBody : Bool) (d : Document ω) :
    ∃ head body, (∀ n ∈ head ++ body, n ∈ d.nodes ∨ n = id) ∧
      d.append id toBody = { d with head, body, queue := d.queue ++ [[id]] } := by
  cases toBody with
  | true =>
    refine ⟨d.head, d.body ++ [id], fun n member => ?_, rfl⟩
    rw [← List.append_assoc] at member
    exact (List.mem_append.1 member).imp_right List.mem_singleton.1
  | false =>
    refine ⟨d.head ++ [id], d.body, fun n member => ?_, rfl⟩
    simp only [List.mem_append, List.mem_singleton, nodes] at member ⊢
    rcases member with (member | member) | member <;> simp [member]

namespace Session

variable {s s' s'' : Session} {d d' d'' : Document Nat}

/-! ### How sessions advance -/

/-- The second session, with its document, is the first one at a later time without a flush in between:
    nodes persist, what is recorded stays so, those who observe stay, and what is new in the document
    is recorded. -/
structure Advances (s : Session) (d : Document Nat) (s' : Session) (d' : Document Nat) : Prop where
  isDocument : s'.document = some d'
  length : s.nodes.length ≤ s'.nodes.length
  node : ∀ {id : NodeId} {node : Node}, s.nodes[id]? = some node →
    ∃ node', s'.nodes[id]? = some node' ∧ node.Persists node'
  queue : ∃ added, d'.queue = d.queue ++ added ∧ ∀ id ∈ added.flatten, id < s'.nodes.length
  places : ∀ id ∈ d'.nodes, id ∈ d.nodes ∨ [id] ∈ d'.queue
  observers : ∀ i ∈ d.observers, i ∈ d'.observers
  single : d.observers.Nodup → d'.observers.Nodup
  observing : ∀ i, (s'.engine i).observing = true →
    (s.engine i).observing = true ∨ i ∈ d'.observers

namespace Advances

/-- The document stays, and nodes persist. -/
theorem of_nodes (isDocument : s'.document = some d) (engines : s'.engines = s.engines)
    (length : s.nodes.length ≤ s'.nodes.length)
    (node : ∀ {id : NodeId} {node : Node}, s.nodes[id]? = some node →
      ∃ node', s'.nodes[id]? = some node' ∧ node.Persists node') : Advances s d s' d where
  isDocument := isDocument
  length := length
  node := node
  queue := ⟨[], (List.append_nil _).symm, fun _ member => absurd member List.not_mem_nil⟩
  places _ member := .inl member
  observers _ member := member
  single nodup := nodup
  observing i isObserving := by
    rw [engine, engines] at isObserving
    exact .inl isObserving

/-- The table stays, and so does everyone who observes. -/
theorem of_document (isDocument : s'.document = some d') (nodes : s'.nodes = s.nodes)
    (engines : s'.engines = s.engines) (observers : d'.observers = d.observers)
    (queue : ∃ added, d'.queue = d.queue ++ added ∧ ∀ id ∈ added.flatten, id < s.nodes.length)
    (places : ∀ id ∈ d'.nodes, id ∈ d.nodes ∨ [id] ∈ d'.queue) : Advances s d s' d' where
  isDocument := isDocument
  length := by rw [nodes]
  node {_ node} found := ⟨node, by rwa [nodes], .refl node⟩
  queue := by rwa [nodes]
  places := places
  observers := by simp [observers]
  single := by simp [observers]
  observing i isObserving := by
    rw [engine, engines] at isObserving
    exact .inl isObserving

theorem refl (isDocument : s.document = some d) : Advances s d s d :=
  .of_nodes isDocument rfl (Nat.le_refl _) fun {_ node} found => ⟨node, found, .refl node⟩

theorem trans (first : Advances s d s' d') (second : Advances s' d' s'' d'') :
    Advances s d s'' d'' where
  isDocument := second.isDocument
  length := Nat.le_trans first.length second.length
  node found := by
    obtain ⟨node', found', persists⟩ := first.node found
    obtain ⟨node'', found'', persists'⟩ := second.node found'
    exact ⟨node'', found'', persists.trans persists'⟩
  queue := by
    obtain ⟨added, queue, inside⟩ := first.queue
    obtain ⟨added', queue', inside'⟩ := second.queue
    refine ⟨added ++ added', by rw [queue', queue, List.append_assoc], fun id member => ?_⟩
    rw [List.flatten_append, List.mem_append] at member
    rcases member with member | member
    · exact Nat.lt_of_lt_of_le (inside id member) second.length
    · exact inside' id member
  places id member := by
    rcases second.places id member with member | member
    · refine (first.places id member).imp_right fun recorded => ?_
      obtain ⟨added, queue, -⟩ := second.queue
      rw [queue]
      exact List.mem_append_left _ recorded
    · exact .inr member
  observers i member := second.observers i (first.observers i member)
  single nodup := second.single (first.single nodup)
  observing i isObserving := by
    rcases second.observing i isObserving with before | member
    · exact (first.observing i before).imp_right (second.observers i)
    · exact .inr member

end Advances

theorem Keeps.advances (k : Keeps s s') (isDocument : s.document = some d) :
    ∃ d', Advances s d s' d' := by
  obtain ⟨d', isDocument', kept⟩ := k.document isDocument
  obtain ⟨added, queue, isNew⟩ := kept.queue
  refine ⟨d', isDocument', k.nodes.length, k.nodes.node, ⟨added, queue, fun id member => ?_⟩,
    fun id member => (kept.nodes id member).imp_right fun new => new.2.1, ?_, ?_, ?_⟩
  · obtain ⟨r, inAdded, member⟩ := List.mem_flatten.1 member
    obtain ⟨id', -, inside, rfl⟩ := isNew r inAdded
    rwa [List.mem_singleton.1 member]
  · simp [kept.observers]
  · simp [kept.observers]
  · intro i isObserving
    rw [engine, k.engines] at isObserving
    exact .inl isObserving

theorem advances_watching (isDocument : s.document = some d) (i : Nat) :
    ∃ d', Advances s d (s.watching i) d' ∧ ((s.engine i).observing = false → i ∈ d'.observers) := by
  unfold watching
  split
  · rename_i isObserving
    exact ⟨d, .refl isDocument, fun notObserving => absurd (isObserving.symm.trans notObserving) nofun⟩
  · have observers : ∀ j, j ∈ (d.observe i).observers ↔ j ∈ d.observers ∨ j = i := by
      intro j
      unfold Document.observe
      split
      · rename_i present
        refine ⟨.inl, fun member => member.elim id fun same => ?_⟩
        exact same ▸ List.contains_iff_mem.1 present
      · simp
    have unchanged : (d.observe i).nodes = d.nodes ∧ (d.observe i).queue = d.queue := by
      unfold Document.observe
      split <;> exact ⟨rfl, rfl⟩
    have isObserver := (observers i).2 (.inr rfl)
    refine ⟨d.observe i, ⟨?_, Nat.le_refl _, fun {_ node} found => ⟨node, found, .refl node⟩,
      ⟨[], by rw [unchanged.2, List.append_nil], fun _ member => absurd member List.not_mem_nil⟩,
      fun id member => .inl (unchanged.1 ▸ member), fun j member => (observers j).2 (.inl member),
      ?_, fun j isObserving => ?_⟩, fun _ => isObserver⟩
    · exact congrArg (Option.map _) isDocument
    · intro nodup
      unfold Document.observe
      split
      · exact nodup
      · rename_i absent
        simp only [List.contains_iff_mem] at absent
        refine List.nodup_append.2 ⟨nodup, List.pairwise_singleton _ _, ?_⟩
        rintro j member k isLast rfl
        exact absent (List.mem_singleton.1 isLast ▸ member)
    · by_cases same : j = i
      · exact .inr (same ▸ isObserver)
      · refine .inl ?_
        change ((s.engines.modify i _)[j]?.getD {}).observing = true at isObserving
        rwa [List.getElem?_modify_ne _ _ (Ne.symm same)] at isObserving

/-! ### Commands -/

theorem nodesKept_changeHost (s : Session) (change : Host → Host) :
    NodesKept s.nodes (s.changeHost change).nodes := by
  have stable : Tracking.Stable renderer fun t => NodesKept s.nodes t.nodes := by
    refine ⟨fun _ h => h, fun {t i query own} _ h => ?_⟩
    rw [Tracking.nodes_refresh]
    exact h.trans (.modify t.nodes own.node fun node => node.persists_setText _)
  exact stable.changeHost (.refl s.nodes)

theorem advances_start (isDocument : s.document = some d) (i : Nat) :
    ∃ d', Advances s d (s.start i).1 d' := by
  cases native : s.detectNative.2 with
  | true =>
    rw [start_of_native isDocument native]
    exact ((keeps_detectNative s).trans (keeps_debug _ i _)).advances isDocument
  | false =>
    rw [start_eq isDocument native]
    obtain ⟨d', advances⟩ := ((keeps_prepared i s).trans (keeps_processDocument i d _)).advances
      isDocument
    generalize (s.prepared i).processDocument i d = r at advances ⊢
    obtain ⟨s', _ | fault⟩ := r
    · obtain ⟨d'', watching, -⟩ := advances_watching advances.isDocument i
      exact ⟨d'', advances.trans watching⟩
    · exact ⟨d', advances⟩

theorem advances_refreshAll (isDocument : s.document = some d) (i : Nat) :
    ∃ d', Advances s d (s.refreshAll i).1 d' := by
  have advances := (keeps_processDocument i d s).advances isDocument
  rw [refreshAll_eq isDocument]
  generalize s.processDocument i d = r at advances ⊢
  obtain ⟨s', _ | fault⟩ := r <;> exact advances

/-- A node is put somewhere into the document and recorded. -/
theorem advances_placed {f : Document Nat → Document Nat} {head body : List NodeId} {id : NodeId}
    (isDocument : s.document = some d) (inside : id < s.nodes.length)
    (placed : f d = { d with head, body, queue := d.queue ++ [[id]] })
    (members : ∀ n ∈ head ++ body, n ∈ d.nodes ∨ n = id) :
    Advances s d (s.modifyDocument f) { d with head, body, queue := d.queue ++ [[id]] } := by
  refine .of_document ((congrArg (Option.map f) isDocument).trans (congrArg some placed)) rfl rfl rfl
    ⟨[[id]], rfl, fun n member => ?_⟩ fun n member => ?_
  · rwa [List.mem_singleton.1 member]
  · refine (members n member).imp_right fun isNew => ?_
    simp [isNew]

/-- Every command but a flush advances the session. -/
theorem advances_execute (isDocument : s.document = some d) {c : Command} (notFlush : c ≠ .flush) :
    ∃ d', Advances s d (s.execute c).1 d' := by
  cases c with
  | create node =>
    refine ⟨d, .of_nodes isDocument rfl ?_ fun {_ node} found => ⟨node, ?_, .refl node⟩⟩
    · simp [execute, track]
    · exact (List.getElem?_append_left (List.getElem?_eq_some_iff.1 found).1).trans found
  | append id toBody =>
    simp only [execute]
    split
    · rename_i inside
      obtain ⟨head, body, members, placed⟩ := Document.append_cases id toBody d
      exact ⟨_, advances_placed isDocument inside placed members⟩
    · exact ⟨d, .refl isDocument⟩
  | insertAfter reference id =>
    simp only [execute]
    split
    · rename_i inside
      rcases Document.place_cases reference id d with same | ⟨head, body, members, placed⟩
      · refine ⟨d, .of_nodes ?_ rfl (Nat.le_refl _) fun {_ node} found => ⟨node, found, .refl node⟩⟩
        exact (congrArg (Option.map _) isDocument).trans (congrArg some same)
      · exact ⟨_, advances_placed isDocument inside placed members⟩
    · exact ⟨d, .refl isDocument⟩
  | remove id => exact (keeps_remove s id).advances isDocument
  | serve server => exact ⟨d, .of_document isDocument rfl rfl rfl
      ⟨[], (List.append_nil _).symm, fun _ member => absurd member List.not_mem_nil⟩
      fun _ member => .inl member⟩
  | changeHost change =>
    have kept := nodesKept_changeHost s change
    exact ⟨d, .of_nodes isDocument rfl kept.length kept.node⟩
  | load i id => exact (keeps_linkStep i id s).advances isDocument
  | start i => exact advances_start isDocument i
  | refreshAll i => exact advances_refreshAll isDocument i
  | flush => exact absurd rfl notFlush

/-- A flush takes out what is recorded and then tells those who observe. -/
theorem keeps_flush (isDocument : s.document = some d) : Keeps (s.taken d) s.flush.1 := by
  rw [flush_fst isDocument]
  exact keeps_telling d.queue (audience d) (s.taken d, [])

/-! ### Order -/

/-- Only nodes of the table are in the document or recorded, and everyone who is observing is an
    observer, once. -/
structure Orderly (s : Session) (d : Document Nat) : Prop where
  isDocument : s.document = some d
  known : ∀ id ∈ d.nodes, id < s.nodes.length
  recorded : ∀ id ∈ d.queue.flatten, id < s.nodes.length
  single : d.observers.Nodup
  observing : ∀ i, (s.engine i).observing = true → i ∈ d.observers

theorem Orderly.advances (h : Orderly s d) (a : Advances s d s' d') : Orderly s' d' := by
  have recorded : ∀ id ∈ d'.queue.flatten, id < s'.nodes.length := by
    intro id member
    obtain ⟨added, queue, inside⟩ := a.queue
    rw [queue, List.flatten_append] at member
    rcases List.mem_append.1 member with old | isNew
    · exact Nat.lt_of_lt_of_le (h.recorded id old) a.length
    · exact inside id isNew
  refine ⟨a.isDocument, fun id member => ?_, recorded, a.single h.single, fun i isObserving => ?_⟩
  · rcases a.places id member with old | isRecorded
    · exact Nat.lt_of_lt_of_le (h.known id old) a.length
    · exact recorded id (List.mem_flatten_of_mem isRecorded List.mem_cons_self)
  · rcases a.observing i isObserving with before | member
    · exact a.observers i (h.observing i before)
    · exact member

theorem Orderly.taken (h : Orderly s d) : Orderly (s.taken d) d.takeQueue.2 :=
  ⟨rfl, h.known, fun _ member => absurd member List.not_mem_nil, h.single, h.observing⟩

theorem Orderly.execute (h : Orderly s d) (c : Command) : ∃ d', Orderly (s.execute c).1 d' := by
  by_cases isFlush : c = .flush
  · subst isFlush
    obtain ⟨d', advances⟩ := (keeps_flush h.isDocument).advances rfl
    exact ⟨d', h.taken.advances advances⟩
  · obtain ⟨d', advances⟩ := advances_execute h.isDocument isFlush
    exact ⟨d', h.advances advances⟩

theorem orderly_executeAll (commands : List Command) (h : ∃ d, Orderly s d) :
    ∃ d, Orderly (s.executeAll commands) d :=
  List.foldlRecOn commands _ (motive := fun s => ∃ d, Orderly s d) h fun _ ⟨_, h⟩ c _ => h.execute c

theorem orderly_shared (host : Host) (options : List Options) (origin : Text) (server : Server)
    (followsRedirects : Bool) :
    Orderly (shared host options origin server followsRedirects) { origin } := by
  refine ⟨rfl, fun _ member => absurd member List.not_mem_nil, fun _ member =>
    absurd member List.not_mem_nil, List.nodup_nil, fun i isObserving => ?_⟩
  change ((options.map fun options => ({ options } : Engine))[i]?.getD {}).observing = true at isObserving
  rw [List.getElem?_map] at isObserving
  cases found : options[i]? <;> simp [found] at isObserving

/-! ### What has been offered -/

/-- The rounds in which nodes are offered while a command is carried out. -/
def rounds (s : Session) : Command → List Round
  | .load i id => if s.nodes[id]?.any (!·.isStyle) then [⟨i, none, [⟨id, s⟩]⟩] else []
  | .start i =>
    match s.document with
    | none => []
    | some d =>
      if s.detectNative.2 then [] else [⟨i, none, (offerDocument i d (s.prepared i)).1.2⟩]
  | .refreshAll i =>
    match s.document with
    | none => []
    | some d => [⟨i, none, (offerDocument i d s).1.2⟩]
  | .flush =>
    match s.document with
    | none => []
    | some d => (offerFlush d s).1.2
  | _ => []

theorem rounds_start {i : Nat} (isDocument : s.document = some d) (needed : s.detectNative.2 = false) :
    s.rounds (.start i) = [⟨i, none, (offerDocument i d (s.prepared i)).1.2⟩] := by
  simp only [rounds, isDocument, needed, Bool.false_eq_true, if_false]

theorem rounds_flush (isDocument : s.document = some d) :
    s.rounds .flush = (offerFlush d s).1.2 := by
  simp only [rounds, isDocument]

theorem rounds_refreshAll {i : Nat} (isDocument : s.document = some d) :
    s.rounds (.refreshAll i) = [⟨i, none, (offerDocument i d s).1.2⟩] := by
  simp only [rounds, isDocument]

/-- What an engine does with nodes at a command is to make the offers of the rounds. Besides, a pass
    writes to the journal before it, a flush takes out what is recorded, and an engine that has started
    observes the document then. -/
structure Accounted (s : Session) (c : Command) : Prop where
  page : c.isPage = true → s.rounds c = []
  load : ∀ i id, c = .load i id → HandsAll (s.rounds c) s (s.execute c)
  start : ∀ i d, c = .start i → s.document = some d → s.detectNative.2 = false →
    ∃ s', HandsAll (s.rounds c) (beforeStyles i d (s.prepared i)) (s', (s.execute c).2) ∧
      (s.execute c).1 = if (s.execute c).2.isNone then s'.watching i else s'
  refreshAll : ∀ i d, c = .refreshAll i → s.document = some d →
    HandsAll (s.rounds c) (beforeStyles i d s) (s.execute c)
  flush : ∀ d, c = .flush → s.document = some d → HandsAll (s.rounds c) (s.taken d) (s.execute c)

theorem linkStep_of_style {i : Nat} {id : NodeId} (style : s.nodes[id]?.any (!·.isStyle) = false) :
    s.linkStep i id = (s, none) := by
  have nothing : s.processLink i id = (s, .ok none) := by
    unfold processLink loadWithin
    split
    · rename_i d node _ found
      have notLink : node.link? = none := by
        rw [found] at style
        obtain ⟨body, dataset⟩ := node
        cases body with
        | style text => rfl
        | link l => cases style
      rw [notLink]
    · rfl
  rw [linkStep, nothing]

theorem accounted (s : Session) (c : Command) : Accounted s c where
  page isPage := by
    cases c with
    | load | start | refreshAll | flush => cases isPage
    | _ => rfl
  load := by
    rintro i id rfl
    rw [rounds]
    cases isLink : s.nodes[id]?.any (!·.isStyle) with
    | true =>
      obtain ⟨node, found, notStyle⟩ := (Option.any_eq_true _ _).1 isLink
      have handed : handOver i id s = s.linkStep i id := by
        rw [handOver_of_kept (.refl s) found, if_neg (by simpa using notStyle)]
      have hands : Hands i [⟨id, s⟩] s (s.linkStep i id) := by
        rw [← handed]
        cases stops : (handOver i id s).2 with
        | none =>
          have done := Hands.cons stops (.nil (i := i) _)
          rwa [← stops] at done
        | some fault =>
          have stop := Hands.stop stops
          rwa [← stops] at stop
      exact .single (r := ⟨i, none, [⟨id, s⟩]⟩) hands
    | false =>
      rw [execute, linkStep_of_style isLink]
      exact .nil s
  start := by
    rintro i d rfl isDocument needed
    have hands := hands_document i d (s.prepared i)
    rw [rounds_start isDocument needed, execute, start_eq isDocument needed]
    generalize (s.prepared i).processDocument i d = outcome at hands ⊢
    obtain ⟨s', _ | fault⟩ := outcome
    · exact ⟨s', .single (r := ⟨i, none, _⟩) hands, rfl⟩
    · exact ⟨s', .single (r := ⟨i, none, _⟩) hands, rfl⟩
  refreshAll := by
    rintro i d rfl isDocument
    have hands := hands_document i d s
    rw [rounds_refreshAll isDocument, execute, refreshAll_eq isDocument]
    generalize s.processDocument i d = outcome at hands ⊢
    obtain ⟨s', _ | fault⟩ := outcome <;> exact .single (r := ⟨i, none, _⟩) hands
  flush := by
    rintro d rfl isDocument
    rw [rounds_flush isDocument]
    exact handsAll_flush isDocument

/-- The rounds of several commands. -/
def roundsAll (s : Session) : List Command → List Round
  | [] => []
  | c :: commands => s.rounds c ++ (s.execute c).1.roundsAll commands

/-- A node has been offered to an engine. -/
def IsOffered (i : Nat) (id : NodeId) (rounds : List Round) : Prop :=
  ∃ r ∈ rounds, r.engine = i ∧ id ∈ r.offers.map (·.node)

theorem IsOffered.append_left {i : Nat} {id : NodeId} {rounds : List Round}
    (h : IsOffered i id rounds) (more : List Round) : IsOffered i id (rounds ++ more) := by
  obtain ⟨r, member, offered⟩ := h
  exact ⟨r, List.mem_append_left more member, offered⟩

/-- The engine observes the document, and every style sheet in the document has been offered to it, or
    is processed, or is recorded. -/
structure Covered (i : Nat) (rounds : List Round) (s : Session) (d : Document Nat) : Prop where
  observes : i ∈ d.observers
  sheet : ∀ id ∈ d.nodes, ∀ node, s.nodes[id]? = some node → node.isSheet = true →
    node.isProcessed = true ∨ IsOffered i id rounds ∨ id ∈ d.queue.flatten

variable {i : Nat} {before : List Round}

theorem Covered.append (h : Covered i before s d) (more : List Round) :
    Covered i (before ++ more) s d :=
  ⟨h.observes, fun id member node found isSheet =>
    (h.sheet id member node found isSheet).imp_right (·.imp_left (·.append_left more))⟩

/-- What is true of every style sheet in the document that is not processed stays true of those that are
    not recorded. -/
theorem Advances.sheet {P : NodeId → Prop} (a : Advances s d s' d') (orderly : Orderly s d)
    (h : ∀ id ∈ d.nodes, ∀ node, s.nodes[id]? = some node → node.isSheet = true →
      node.isProcessed = true ∨ P id) :
    ∀ id ∈ d'.nodes, ∀ node, s'.nodes[id]? = some node → node.isSheet = true →
      node.isProcessed = true ∨ P id ∨ id ∈ d'.queue.flatten := by
  intro id member node found isSheet
  rcases a.places id member with old | recorded
  · obtain ⟨node₀, found₀⟩ : ∃ node₀, s.nodes[id]? = some node₀ :=
      ⟨_, List.getElem?_eq_getElem (orderly.known id old)⟩
    obtain ⟨node', found', persists⟩ := a.node found₀
    obtain rfl := Option.some.inj (found.symm.trans found')
    rcases h id old node₀ found₀ (persists.isSheet.symm.trans isSheet) with processed | holds
    · exact .inl (persists.processed processed)
    · exact .inr (.inl holds)
  · exact .inr (.inr (List.mem_flatten_of_mem recorded List.mem_cons_self))

theorem Covered.advances (h : Covered i before s d) (orderly : Orderly s d)
    (a : Advances s d s' d') : Covered i before s' d' := by
  refine ⟨a.observers i h.observes, fun id member node found isSheet => ?_⟩
  rcases a.sheet orderly h.sheet id member node found isSheet with processed |
    (offered | recorded) | recorded
  · exact .inl processed
  · exact .inr (.inl offered)
  · obtain ⟨added, queue, -⟩ := a.queue
    rw [queue, List.flatten_append]
    exact .inr (.inr (List.mem_append_left _ recorded))
  · exact .inr (.inr recorded)

/-- After a flush in which nothing fails, nothing that was recorded before has been missed. -/
theorem Covered.flush (h : Covered i before s d) (orderly : Orderly s d)
    (done : faultOf s.flush.2 = none) (a : Advances (s.taken d) d.takeQueue.2 s.flush.1 d') :
    Covered i (before ++ s.rounds .flush) s.flush.1 d' := by
  refine ⟨a.observers i h.observes, fun id member node found isSheet => ?_⟩
  rcases a.sheet orderly.taken h.sheet id member node found isSheet with processed |
    (offered | recorded) | recorded
  · exact .inl processed
  · exact .inr (.inl (offered.append_left _))
  · rw [flush_fst orderly.isDocument] at found
    rw [faultOf_flush orderly.isDocument] at done
    rcases covered_flush orderly.recorded done h.observes recorded found isSheet with processed |
      ⟨r, inRounds, offered⟩
    · exact .inl processed
    · rw [rounds_flush orderly.isDocument]
      exact .inr (.inl ⟨r, List.mem_append_right _ inRounds, offered⟩)
  · exact .inr (.inr recorded)

theorem Covered.execute (h : Covered i before s d) (orderly : Orderly s d) {c : Command}
    (done : (s.execute c).2 = none) :
    ∃ d', Orderly (s.execute c).1 d' ∧ Covered i (before ++ s.rounds c) (s.execute c).1 d' := by
  by_cases isFlush : c = .flush
  · subst isFlush
    obtain ⟨d', advances⟩ := (keeps_flush orderly.isDocument).advances rfl
    exact ⟨d', orderly.taken.advances advances, h.flush orderly done advances⟩
  · obtain ⟨d', advances⟩ := advances_execute orderly.isDocument isFlush
    exact ⟨d', orderly.advances advances, (h.advances orderly advances).append _⟩

/-- An engine that has started on a platform that needs it has been offered everything. -/
theorem covered_start (orderly : Orderly s d) (started : (s.start i).2 = .ok true) :
    ∃ d', Orderly (s.start i).1 d' ∧ Covered i (s.rounds (.start i)) (s.start i).1 d' := by
  obtain ⟨needed, done, isStart⟩ := start_of_ok orderly.isDocument started
  have isDocument := (document_prepared i s).trans orderly.isDocument
  obtain ⟨d₁, a₁⟩ := (keeps_prepared i s).advances orderly.isDocument
  obtain rfl := Option.some.inj (isDocument.symm.trans a₁.isDocument)
  have orderly₁ := orderly.advances a₁
  obtain ⟨d₂, a₂⟩ := (keeps_processDocument i d (s.prepared i)).advances isDocument
  have orderly₂ := orderly₁.advances a₂
  obtain ⟨d₃, a₃, observes⟩ := advances_watching a₂.isDocument i
  have offered : ∀ id ∈ d₂.nodes, ∀ node,
      ((s.prepared i).processDocument i d).1.nodes[id]? = some node → node.isSheet = true →
      node.isProcessed = true ∨
        IsOffered i id [⟨i, none, (offerDocument i d (s.prepared i)).1.2⟩] := by
    intro id member node found _
    refine (covered_document isDocument orderly₁.known done a₂.isDocument member found).imp_right
      fun isOffered => ?_
    exact ⟨_, List.mem_singleton_self _, rfl, isOffered⟩
  rw [rounds_start orderly.isDocument needed, isStart]
  refine ⟨d₃, orderly₂.advances a₃, ?_, a₃.sheet orderly₂ offered⟩
  cases isObserving : (((s.prepared i).processDocument i d).1.engine i).observing with
  | true => exact a₃.observers i (orderly₂.observing i isObserving)
  | false => exact observes isObserving

/-! ### Runs -/

/-- What is true of every command that does not fail. -/
structure Told (s : Session) (c : Command) : Prop where
  /-- Every command but a flush leaves what is recorded, records what it adds to the document, and
      delivers nothing. -/
  kept : c ≠ .flush → (∀ r ∈ s.rounds c, r.batch = none) ∧ ∃ d d' added, s.document = some d ∧
    (s.execute c).1.document = some d' ∧ d'.queue = d.queue ++ added ∧
    ∀ id ∈ d'.nodes, id ∈ d.nodes ∨ [id] ∈ d'.queue
  /-- A flush delivers all that is recorded, once to everyone who observes the document. Only nodes made
      in the meantime are recorded afterwards, among them all that were added to the document. -/
  flushed : c = .flush → ∃ d d', s.document = some d ∧ (s.execute c).1.document = some d' ∧
    d.observers.Nodup ∧
    (s.rounds c).map (fun r => (r.engine, r.batch)) =
      (audience d).map (fun i => (i, some d.queue)) ∧
    (∀ r ∈ d'.queue, ∃ id, s.nodes.length ≤ id ∧ r = [id]) ∧
    ∀ id ∈ d'.nodes, id ∈ d.nodes ∨ [id] ∈ d'.queue
  /-- In a delivery, nodes are offered once, and only if they are not processed. -/
  once : ∀ r ∈ s.rounds c, ∀ batch, r.batch = some batch → r.Once batch

theorem batch_rounds {c : Command} (notFlush : c ≠ .flush) : ∀ r ∈ s.rounds c, r.batch = none := by
  intro r member
  cases c with
  | flush => exact absurd rfl notFlush
  | load i id =>
    simp only [rounds] at member
    split at member
    · rw [List.mem_singleton.1 member]
    · exact absurd member List.not_mem_nil
  | start i =>
    simp only [rounds] at member
    split at member
    · exact absurd member List.not_mem_nil
    · split at member
      · exact absurd member List.not_mem_nil
      · rw [List.mem_singleton.1 member]
  | refreshAll i =>
    simp only [rounds] at member
    split at member
    · exact absurd member List.not_mem_nil
    · rw [List.mem_singleton.1 member]
  | _ => exact absurd member List.not_mem_nil

theorem Orderly.told (h : Orderly s d) {c : Command} (done : (s.execute c).2 = none) : Told s c := by
  by_cases isFlush : c = .flush
  · subst isFlush
    obtain ⟨d', isDocument', kept⟩ := (keeps_flush h.isDocument).document rfl
    obtain ⟨written, ledger, each, engines⟩ := rounds_telling d.queue (audience d) (s.taken d, [])
    rw [List.nil_append] at ledger
    have told : written.map (·.engine) = audience d :=
      engines ((faultOf_flush h.isDocument).symm.trans done)
    refine ⟨fun notFlush => absurd rfl notFlush, fun _ => ?_, fun r member batch isBatch => ?_⟩
    · refine ⟨d, d', h.isDocument, isDocument', h.single, ?_, fun r member => ?_,
        fun id member => (kept.nodes id member).imp_right fun new => new.2.1⟩
      · rw [rounds_flush h.isDocument, offerFlush, ledger, ← told, List.map_map]
        exact List.map_congr_left fun r member => congrArg (r.engine, ·) (each r member).1
      · obtain ⟨added, queue, isNew⟩ := kept.queue
        rw [queue] at member
        obtain ⟨id, beyond, -, isRecord⟩ := isNew r member
        exact ⟨id, beyond, isRecord⟩
    · rw [rounds_flush h.isDocument, offerFlush, ledger] at member
      obtain rfl := Option.some.inj ((each r member).1.symm.trans isBatch)
      exact (each r member).2
  · obtain ⟨d', advances⟩ := advances_execute h.isDocument isFlush
    obtain ⟨added, queue, -⟩ := advances.queue
    refine ⟨fun _ => ⟨batch_rounds isFlush, d, d', added, h.isDocument, advances.isDocument, queue,
        advances.places⟩,
      fun flush => absurd flush isFlush, fun r member batch isBatch => ?_⟩
    rw [batch_rounds isFlush r member] at isBatch
    cases isBatch

theorem executeAll_of_forEach {commands : List Command}
    (runs : forEach (fun c s => s.execute c) commands s = (s', none)) :
    s.executeAll commands = s' := by
  induction commands generalizing s with
  | nil =>
    cases runs
    rfl
  | cons c commands ih =>
    rw [forEach] at runs
    split at runs
    · rename_i result
      have rest := ih runs
      rw [executeAll, List.foldl_cons, result]
      exact rest
    · cases runs

theorem Covered.executeAll {commands : List Command} (h : Covered i before s d) (orderly : Orderly s d)
    (faultless : (forEach (fun c s => s.execute c) commands s).2 = none) :
    ∃ d', Orderly (s.executeAll commands) d' ∧
      Covered i (before ++ s.roundsAll commands) (s.executeAll commands) d' := by
  induction commands generalizing s d before with
  | nil => exact ⟨d, orderly, h.append []⟩
  | cons c commands ih =>
    obtain ⟨s₁, start, done, rest⟩ := @forEach_split _ _ _ _ [] commands c s faultless
    cases start
    obtain ⟨d', orderly', covered'⟩ := h.execute orderly done
    rw [List.nil_append] at rest
    rw [rest] at faultless
    obtain ⟨d'', orderly'', covered''⟩ := ih covered' orderly' faultless
    refine ⟨d'', orderly'', ?_⟩
    rwa [List.append_assoc] at covered''

/-- For an engine that has started, in every run in which nothing fails: whenever nothing is recorded,
    every style and every link to a style sheet in the document is processed or has been offered to the
    engine. All that is recorded is delivered once to everyone who observes, in the next flush, and in
    one delivery nodes are offered once, and only if they are not processed. Making these offers is what
    the commands do. -/
theorem no_sheet_missed (host : Host) (options : List Options) (origin : Text) (server : Server)
    (followsRedirects : Bool) (before after : List Command) (i : Nat)
    (started : (((shared host options origin server followsRedirects).executeAll before).start i).2 =
      .ok true)
    (faultless : (forEach (fun c s => s.execute c) after
      (((shared host options origin server followsRedirects).executeAll before).start i).1).2 = none) :
    let s₀ := (shared host options origin server followsRedirects).executeAll before
    let s₁ := (s₀.start i).1
    (∃ d, (s₁.executeAll after).document = some d ∧ (d.queue = [] → ∀ id ∈ d.nodes, ∀ node,
      (s₁.executeAll after).nodes[id]? = some node → node.isSheet = true →
        node.isProcessed = true ∨ IsOffered i id (s₀.rounds (.start i) ++ s₁.roundsAll after))) ∧
    (∀ front c back, after = front ++ c :: back → Told (s₁.executeAll front) c) ∧
    Accounted s₀ (.start i) ∧
    ∀ front c back, after = front ++ c :: back → Accounted (s₁.executeAll front) c := by
  intro s₀ s₁
  obtain ⟨d₀, orderly₀⟩ := orderly_executeAll before
    ⟨_, orderly_shared host options origin server followsRedirects⟩
  obtain ⟨d₁, orderly₁, covered₁⟩ := covered_start orderly₀ started
  refine ⟨?_, ?_, accounted s₀ (.start i), fun front c _ _ => accounted (s₁.executeAll front) c⟩
  · obtain ⟨d, orderly, covered⟩ := covered₁.executeAll orderly₁ faultless
    refine ⟨d, orderly.isDocument, fun empty id member node found isSheet => ?_⟩
    rcases covered.sheet id member node found isSheet with processed | offered | recorded
    · exact .inl processed
    · exact .inr offered
    · rw [empty] at recorded
      exact absurd recorded List.not_mem_nil
  · rintro front c back rfl
    obtain ⟨s, runs, done, -⟩ := forEach_split faultless
    obtain ⟨d, orderly⟩ := orderly_executeAll front ⟨d₁, orderly₁⟩
    rw [executeAll_of_forEach runs] at orderly ⊢
    exact orderly.told done

/-- A document with a link, for which the server has a style sheet. -/
def withLink : Session :=
  (shared {} [{}] "http://h".toList
    [("/a".toList, { text := "a\x7bb:if(media(x):c)\x7d".toList })] false).executeAll
    [.create { body := .link ⟨['a'], Link.sheetRel, false⟩ }, .append 0 false]

/-- The engine puts a style behind the link when it starts, the page puts another style behind both and
    moves the link. After two flushes nothing is recorded any more. -/
def moveAbout : List Command :=
  [.create { body := .style "e".toList }, .insertAfter 1 2, .remove 0, .append 0 true, .flush, .flush]

theorem no_sheet_missed_moveAbout :
    (((withLink.start 0).1.executeAll moveAbout).document.map fun d => (d.nodes, d.queue)) =
      some ([1, 2, 0], []) ∧
    ∀ id ∈ [1, 2, 0], ∀ node, ((withLink.start 0).1.executeAll moveAbout).nodes[id]? = some node →
      node.isSheet = true → node.isProcessed = true ∨
        IsOffered 0 id (withLink.rounds (.start 0) ++ (withLink.start 0).1.roundsAll moveAbout) := by
  have places : (((withLink.start 0).1.executeAll moveAbout).document.map fun d =>
      (d.nodes, d.queue)) = some ([1, 2, 0], []) := by decide +kernel
  refine ⟨places, ?_⟩
  obtain ⟨⟨d, isDocument, covered⟩, -⟩ := no_sheet_missed {} [{}] "http://h".toList
    [("/a".toList, { text := "a\x7bb:if(media(x):c)\x7d".toList })] false
    [.create { body := .link ⟨['a'], Link.sheetRel, false⟩ }, .append 0 false] moveAbout 0
    (by decide +kernel) (by decide +kernel)
  rw [withLink, isDocument] at places
  obtain ⟨nodes, queue⟩ := Prod.mk.inj (Option.some.inj places)
  rw [← nodes]
  exact covered queue

end Session
end CondCss
