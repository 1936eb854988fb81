import CondCss.Proofs.Session.Work

/-!
# What engines leave as it is

Loading and rendering never takes a node out of the table, nor a mark from a processed node, and never
changes where a link leads. In the document, engines put nothing but processed styles, each directly
behind its link, and they record each of them behind what is recorded already. All this is said once
(`Keeps`), for every moment of a load, and carried over to all that engines do.
-/

namespace CondCss

/-! ### Documents -/

namespace Document

variable {ω : Type} {reference id : NodeId} {l l' : List NodeId}

/-- The second list is the first one with a node put behind the first occurrence of another. -/
def PutBehind (reference id : NodeId) (l l' : List NodeId) : Prop :=
  ∃ front back, reference ∉ front ∧ l = front ++ reference :: back ∧
    l' = front ++ reference :: id :: back

theorem insertBehind?_eq_none (h : insertBehind? reference id l = none) : reference ∉ l := by
  induction l with
  | nil => exact List.not_mem_nil
  | cons n l ih =>
    unfold insertBehind? at h
    split at h
    · cases h
    · rename_i other
      simp only [Option.map_eq_none_iff] at h
      simp only [List.mem_cons, not_or]
      exact ⟨fun same => other (beq_iff_eq.2 same.symm), ih h⟩

theorem putBehind_of_insertBehind? (h : insertBehind? reference id l = some l') :
    PutBehind reference id l l' := by
  induction l generalizing l' with
  | nil => cases h
  | cons n l ih =>
    unfold insertBehind? at h
    split at h
    · rename_i same
      obtain rfl := beq_iff_eq.1 same
      cases h
      exact ⟨[], l, List.not_mem_nil, rfl, rfl⟩
    · rename_i other
      obtain ⟨rest, found, rfl⟩ := Option.map_eq_some_iff.1 h
      obtain ⟨front, back, absent, rfl, rfl⟩ := ih found
      refine ⟨n :: front, back, ?_, rfl, rfl⟩
      simp only [List.mem_cons, not_or]
      exact ⟨fun same => other (beq_iff_eq.2 same.symm), absent⟩

/-- A node is put behind another one where that stands first, in the head or in the body. -/
theorem insertAfter_cases (reference id : NodeId) (d : Document ω) :
    (reference ∉ d.nodes ∧ d.insertAfter reference id = .error ⟨reference⟩) ∨
    (∃ head, PutBehind reference id d.head head ∧
      d.insertAfter reference id = .ok { d with head, queue := d.queue ++ [[id]] }) ∨
    ∃ body, reference ∉ d.head ∧ PutBehind reference id d.body body ∧
      d.insertAfter reference id = .ok { d with body, queue := d.queue ++ [[id]] } := by
  unfold insertAfter
  cases inHead : insertBehind? reference id d.head with
  | some head => exact .inr (.inl ⟨head, putBehind_of_insertBehind? inHead, rfl⟩)
  | none =>
    cases inBody : insertBehind? reference id d.body with
    | some body =>
      exact .inr (.inr ⟨body, insertBehind?_eq_none inHead, putBehind_of_insertBehind? inBody, rfl⟩)
    | none =>
      refine .inl ⟨?_, rfl⟩
      simp only [nodes, List.mem_append, not_or]
      exact ⟨insertBehind?_eq_none inHead, insertBehind?_eq_none inBody⟩

theorem PutBehind.mem {n : NodeId} (h : PutBehind reference id l l') (member : n ∈ l') :
    n ∈ l ∨ n = id := by
  obtain ⟨front, back, -, rfl, rfl⟩ := h
  simp only [List.mem_append, List.mem_cons] at member ⊢
  rcases member with member | rfl | rfl | member <;> simp [*]

/-- What putting a node behind another one, if that is there, does to a document. -/
theorem place_cases (reference id : NodeId) (d : Document ω) :
    ((d.insertAfter reference id).toOption).getD d = d ∨
    ∃ head body, (∀ n ∈ head ++ body, n ∈ d.nodes ∨ n = id) ∧
      ((d.insertAfter reference id).toOption).getD d =
        { d with head, body, queue := d.queue ++ [[id]] } := by
  rcases insertAfter_cases reference id d with ⟨-, inserted⟩ | ⟨head, put, inserted⟩ |
    ⟨body, -, put, inserted⟩
  · rw [inserted]
    exact .inl rfl
  · rw [inserted]
    refine .inr ⟨head, d.body, fun n member => ?_, rfl⟩
    rcases List.mem_append.1 member with member | member
    · exact (put.mem member).imp_left fun old => List.mem_append_left _ old
    · exact .inl (List.mem_append_right _ member)
  · rw [inserted]
    refine .inr ⟨d.head, body, fun n member => ?_, rfl⟩
    rcases List.mem_append.1 member with member | member
    · exact .inl (List.mem_append_left _ member)
    · exact (put.mem member).imp_left fun old => List.mem_append_right _ old

theorem mem_of_mem_remove {n : NodeId} {d : Document ω} (member : n ∈ (d.remove id).nodes) :
    n ∈ d.nodes := by
  unfold remove at member
  split at member
  · rcases List.mem_append.1 member with member | member
    · exact List.mem_append_left _ (List.mem_of_mem_erase member)
    · exact List.mem_append_right _ member
  · rcases List.mem_append.1 member with member | member
    · exact List.mem_append_left _ member
    · exact List.mem_append_right _ (List.mem_of_mem_erase member)

end Document

/-! ### Nodes -/

namespace Node

/-- Where a link leads, and what for. -/
def target? (n : Node) : Option (Text × Text) :=
  n.link?.map fun l => (l.href, l.rel)

/-- The second node is the first one at a later time: it leads to the same place, and it is processed
    if it was. -/
structure Persists (n n' : Node) : Prop where
  target : n'.target? = n.target?
  processed : n.isProcessed = true → n'.isProcessed = true

theorem Persists.refl (n : Node) : n.Persists n := ⟨rfl, id⟩

theorem Persists.trans {n n' n'' : Node} (first : n.Persists n') (second : n'.Persists n'') :
    n.Persists n'' :=
  ⟨second.target.trans first.target, fun h => second.processed (first.processed h)⟩

theorem persists_mark (n : Node) (key : Text) : n.Persists (n.mark key) :=
  ⟨rfl, fun h => by simp [h]⟩

theorem persists_unmark (n : Node) : n.Persists (n.unmark pendingKey) := by
  refine ⟨rfl, fun h => ?_⟩
  obtain ⟨e, member, isKey⟩ := List.any_eq_true.1 h
  refine List.any_eq_true.2 ⟨e, List.mem_filter.2 ⟨member, ?_⟩, isKey⟩
  rw [eq_of_beq isKey]
  decide

theorem persists_setText (n : Node) (text : Text) : n.Persists (n.setText text) := by
  refine ⟨?_, by simp [isProcessed]⟩
  obtain ⟨body, dataset⟩ := n
  cases body <;> rfl

theorem persists_disable (n : Node) : n.Persists n.disable := by
  refine ⟨?_, by simp [isProcessed]⟩
  obtain ⟨body, dataset⟩ := n
  cases body <;> rfl

theorem isStyle_eq_isNone (n : Node) : n.isStyle = n.target?.isNone := by
  obtain ⟨body, dataset⟩ := n
  cases body <;> rfl

theorem Persists.isStyle {n n' : Node} (h : n.Persists n') : n'.isStyle = n.isStyle := by
  rw [isStyle_eq_isNone, isStyle_eq_isNone, h.target]

/-- Whether a node is a style or leads to a style sheet. -/
def isSheet (n : Node) : Bool :=
  n.target?.all (·.2 == Link.sheetRel)

theorem Persists.isSheet {n n' : Node} (h : n.Persists n') : n'.isSheet = n.isSheet := by
  rw [Node.isSheet, Node.isSheet, h.target]

end Node

/-- The second table is the first one at a later time, when styles may have been added. -/
structure NodesKept (nodes nodes' : Nodes) : Prop where
  length : nodes.length ≤ nodes'.length
  node : ∀ {id : NodeId} {node : Node}, nodes[id]? = some node →
    ∃ node', nodes'[id]? = some node' ∧ node.Persists node'
  fresh : ∀ {id : NodeId} {node : Node}, nodes.length ≤ id → nodes'[id]? = some node →
    node.isStyle = true

namespace NodesKept

variable {nodes nodes' nodes'' : Nodes}

theorem modify (nodes : Nodes) (id : NodeId) {f : Node → Node}
    (persists : ∀ node : Node, node.Persists (f node)) : NodesKept nodes (nodes.modify id f) := by
  refine ⟨Nat.le_of_eq (List.length_modify _ _ _).symm, fun {n node} found => ?_,
    fun {n node} beyond found => ?_⟩
  · by_cases here : id = n
    · subst here
      rw [List.getElem?_modify_eq, found]
      exact ⟨f node, rfl, persists node⟩
    · rw [List.getElem?_modify_ne _ _ here]
      exact ⟨node, found, .refl node⟩
  · rw [List.getElem?_eq_none (by rwa [List.length_modify])] at found
    cases found

theorem refl (nodes : Nodes) : NodesKept nodes nodes := by
  refine ⟨Nat.le_refl _, fun {_ node} found => ⟨node, found, .refl node⟩, fun beyond found => ?_⟩
  rw [List.getElem?_eq_none beyond] at found
  cases found

theorem concat (nodes : Nodes) {node : Node} (isStyle : node.isStyle = true) :
    NodesKept nodes (nodes ++ [node]) := by
  refine ⟨by simp, fun {_ node} found => ⟨node, ?_, .refl node⟩, fun {id _} beyond found => ?_⟩
  · rwa [List.getElem?_append_left (List.getElem?_eq_some_iff.1 found).1]
  · rw [List.getElem?_append_right beyond] at found
    rw [List.mem_singleton.1 (List.mem_of_getElem? found)]
    exact isStyle

theorem trans (first : NodesKept nodes nodes') (second : NodesKept nodes' nodes'') :
    NodesKept nodes nodes'' where
  length := Nat.le_trans first.length second.length
  node found := by
    obtain ⟨node', found', persists⟩ := first.node found
    obtain ⟨node'', found'', persists'⟩ := second.node found'
    exact ⟨node'', found'', persists.trans persists'⟩
  fresh {id node''} beyond found := by
    by_cases inside : id < nodes'.length
    · obtain ⟨node, found', persists⟩ := second.node (List.getElem?_eq_getElem inside)
      obtain rfl := Option.some.inj (found.symm.trans found')
      rw [persists.isStyle]
      exact first.fresh beyond (List.getElem?_eq_getElem inside)
    · exact second.fresh (Nat.le_of_not_lt inside) found

end NodesKept

namespace Session

/-! ### Sessions -/

/-- The second document is the first one at a later time, when the nodes from `known` on have been
    added to the table: nobody has come or gone who observes it, and what was added to its nodes and
    records are such nodes, which are processed. What was added to its nodes is recorded. -/
structure DocumentKept (known : Nat) (nodes : Nodes) (d d' : Document Nat) : Prop where
  origin : d'.origin = d.origin
  observers : d'.observers = d.observers
  queue : ∃ added, d'.queue = d.queue ++ added ∧
    ∀ r ∈ added, ∃ id, known ≤ id ∧ id < nodes.length ∧ r = [id]
  nodes : ∀ id ∈ d'.nodes, id ∈ d.nodes ∨
    known ≤ id ∧ [id] ∈ d'.queue ∧ ∃ node, nodes[id]? = some node ∧ node.isProcessed = true

/-- The second session is the first one at a later time, when engines have worked on it. -/
structure Keeps (s s' : Session) : Prop where
  server : s'.server = s.server
  followsRedirects : s'.followsRedirects = s.followsRedirects
  engines : s'.engines = s.engines
  nodes : NodesKept s.nodes s'.nodes
  noDocument : s.document = none → s'.document = none
  document : ∀ {d : Document Nat}, s.document = some d →
    ∃ d', s'.document = some d' ∧ DocumentKept s.nodes.length s'.nodes d d'

variable {s s' s'' : Session} {m : Moment} {flights flights' : List Flight}

theorem DocumentKept.refl (known : Nat) (nodes : Nodes) (d : Document Nat) :
    DocumentKept known nodes d d :=
  ⟨rfl, rfl, ⟨[], (List.append_nil _).symm, fun _ member => absurd member List.not_mem_nil⟩,
    fun _ member => .inl member⟩

/-- Nodes may change, as long as they persist, while the document stays. -/
theorem Keeps.of_nodes (server : s'.server = s.server)
    (followsRedirects : s'.followsRedirects = s.followsRedirects) (engines : s'.engines = s.engines)
    (document : s'.document = s.document) (nodes : NodesKept s.nodes s'.nodes) : Keeps s s' where
  server := server
  followsRedirects := followsRedirects
  engines := engines
  nodes := nodes
  noDocument isNone := document.trans isNone
  document {d} isDocument := ⟨d, document.trans isDocument, .refl _ _ d⟩

theorem Keeps.refl (s : Session) : Keeps s s :=
  .of_nodes rfl rfl rfl rfl (.refl s.nodes)

theorem Keeps.trans (first : Keeps s s') (second : Keeps s' s'') : Keeps s s'' where
  server := second.server.trans first.server
  followsRedirects := second.followsRedirects.trans first.followsRedirects
  engines := second.engines.trans first.engines
  nodes := first.nodes.trans second.nodes
  noDocument isNone := second.noDocument (first.noDocument isNone)
  document isDocument := by
    obtain ⟨d', isDocument', kept⟩ := first.document isDocument
    obtain ⟨d'', isDocument'', kept'⟩ := second.document isDocument'
    obtain ⟨added, queue, isNew⟩ := kept.queue
    obtain ⟨added', queue', isNew'⟩ := kept'.queue
    refine ⟨d'', isDocument'', kept'.origin.trans kept.origin, kept'.observers.trans kept.observers,
      ⟨added ++ added', by rw [queue', queue, List.append_assoc], ?_⟩, ?_⟩
    · intro r member
      rcases List.mem_append.1 member with member | member
      · obtain ⟨id, beyond, inside, rfl⟩ := isNew r member
        exact ⟨id, beyond, Nat.lt_of_lt_of_le inside second.nodes.length, rfl⟩
      · obtain ⟨id, beyond, inside, rfl⟩ := isNew' r member
        exact ⟨id, Nat.le_trans first.nodes.length beyond, inside, rfl⟩
    · intro id member
      rcases kept'.nodes id member with member | ⟨beyond, isProcessed⟩
      · rcases kept.nodes id member with member | ⟨beyond, recorded, node, found, processed⟩
        · exact .inl member
        · obtain ⟨node', found', persists⟩ := second.nodes.node found
          rw [queue']
          exact .inr ⟨beyond, List.mem_append_left _ recorded, node', found',
            persists.processed processed⟩
      · exact .inr ⟨Nat.le_trans first.nodes.length beyond, isProcessed⟩

theorem keeps_write (s : Session) (e : Entry) : Keeps s (s.write e) :=
  .of_nodes rfl rfl rfl rfl (.refl s.nodes)

theorem keeps_skip (s : Session) (i : Nat) (href : Text) (reason : String) :
    Keeps s (s.skip i href reason) :=
  .of_nodes rfl rfl rfl rfl (.refl s.nodes)

theorem keeps_debug (s : Session) (i : Nat) (message : String) : Keeps s (s.debug i message) := by
  unfold debug
  split
  · exact keeps_write s _
  · exact .refl s

theorem keeps_modifyNode (s : Session) (id : NodeId) {f : Node → Node}
    (persists : ∀ node : Node, node.Persists (f node)) : Keeps s (s.modifyNode id f) :=
  .of_nodes rfl rfl rfl rfl (.modify s.nodes id persists)

theorem keeps_processText (s : Session) (i : Nat) (text : Text) (options : Option Options)
    (tracked : Option NodeId) : Keeps s (s.processText i text options tracked).1 := by
  refine .of_nodes rfl rfl rfl rfl ?_
  change NodesKept s.nodes (Tracking.absorb _ _ _ s.toTracking).nodes
  rw [Tracking.nodes_absorb]
  exact .refl s.nodes

theorem keeps_remove (s : Session) (id : NodeId) : Keeps s (s.modifyDocument (·.remove id)) where
  server := rfl
  followsRedirects := rfl
  engines := rfl
  nodes := .refl s.nodes
  noDocument isNone := congrArg (Option.map _) isNone
  document {d} isDocument := by
    refine ⟨d.remove id, congrArg (Option.map _) isDocument, ?_⟩
    have unchanged : (d.remove id).origin = d.origin ∧ (d.remove id).observers = d.observers ∧
        (d.remove id).queue = d.queue := by
      unfold Document.remove
      split <;> exact ⟨rfl, rfl, rfl⟩
    exact ⟨unchanged.1, unchanged.2.1, ⟨[], unchanged.2.2.trans (List.append_nil _).symm,
      fun _ member => absurd member List.not_mem_nil⟩, fun _ member =>
        .inl (Document.mem_of_mem_remove member)⟩

/-! ### Replacing a link -/

theorem modify_concat (nodes : Nodes) (node : Node) (f : Node → Node) :
    (nodes ++ [node]).modify nodes.length f = nodes ++ [f node] := by
  induction nodes with
  | nil => rfl
  | cons n nodes ih => exact congrArg (n :: ·) ih

/-- The style that is put behind a link, for the text that the one from its address is rendered to. -/
def replacement (url : Url) (text : Text) : Node where
  body := .style text
  dataset := [(Node.processedKey, Node.markValue), (Node.loadedFromKey, url.print)]

/-- When a text comes for a link, the link is processed. Unless rendering leaves the text as it is, the
    link is switched off and a style is put directly behind it. -/
theorem replaceLink_cases (s : Session) (i : Nat) (id : NodeId) (url : Url) (text : Text) :
    ((s.replaceLink i id url text).2 = none ∧
      (s.replaceLink i id url text).1.nodes =
        s.nodes.modify id (·.mark Node.processedKey) ++ [{ body := .style [] }] ∧
      (s.replaceLink i id url text).1.document = s.document) ∨
    ∃ rendered, (render s.platform.host (s.engine i).options text).text = rendered ∧
      (s.replaceLink i id url text).2 = some s.nodes.length ∧
      (s.replaceLink i id url text).1.nodes =
        (s.nodes.modify id (·.mark Node.processedKey) ++ [replacement url rendered]).modify id
          (·.disable) ∧
      (s.replaceLink i id url text).1.document =
        s.document.map fun d => ((d.insertAfter id s.nodes.length).toOption).getD d := by
  have marked : (s.modifyNode id (·.mark Node.processedKey)).nodes.length = s.nodes.length :=
    List.length_modify _ _ _
  unfold replaceLink
  simp only
  split
  · exact .inl ⟨rfl, Tracking.nodes_absorb .., rfl⟩
  · refine .inr ⟨_, rfl, congrArg some marked, ?_, by rw [marked]; rfl⟩
    change ((Tracking.absorb _ _ _ _).nodes.modify _ _).modify id _ = _
    rw [Tracking.nodes_absorb]
    exact congrArg (List.modify · id _) (modify_concat _ _ _)

theorem getElem?_replaceLink_of_ne {s : Session} {id n : NodeId} {node : Node} (other : n ≠ id)
    (found : s.nodes[n]? = some node) (i : Nat) (url : Url) (text : Text) :
    (s.replaceLink i id url text).1.nodes[n]? = some node := by
  have marked (added : Node) :
      (s.nodes.modify id (·.mark Node.processedKey) ++ [added])[n]? = some node := by
    have found' : (s.nodes.modify id (·.mark Node.processedKey))[n]? = some node :=
      (List.getElem?_modify_ne _ _ (Ne.symm other)).trans found
    rwa [List.getElem?_append_left (List.getElem?_eq_some_iff.1 found').1]
  rcases replaceLink_cases s i id url text with ⟨-, nodes, -⟩ | ⟨rendered, -, -, nodes, -⟩
  · rw [nodes]
    exact marked _
  · rw [nodes]
    exact (List.getElem?_modify_ne _ _ (Ne.symm other)).trans (marked _)

theorem keeps_replaceLink (s : Session) (i : Nat) (id : NodeId) (url : Url) (text : Text) :
    Keeps s (s.replaceLink i id url text).1 := by
  have unchanged : (s.replaceLink i id url text).1.server = s.server ∧
      (s.replaceLink i id url text).1.followsRedirects = s.followsRedirects ∧
      (s.replaceLink i id url text).1.engines = s.engines := by
    unfold replaceLink
    simp only
    split <;> exact ⟨rfl, rfl, rfl⟩
  have marked : NodesKept s.nodes (s.nodes.modify id (·.mark Node.processedKey)) :=
    .modify s.nodes id fun node => node.persists_mark Node.processedKey
  rcases replaceLink_cases s i id url text with ⟨-, nodes, document⟩ |
    ⟨rendered, -, -, nodes, document⟩
  · refine .of_nodes unchanged.1 unchanged.2.1 unchanged.2.2 document ?_
    rw [nodes]
    exact marked.trans (.concat _ rfl)
  · have off := NodesKept.modify
      (s.nodes.modify id (·.mark Node.processedKey) ++ [replacement url rendered]) id
      Node.persists_disable
    refine ⟨unchanged.1, unchanged.2.1, unchanged.2.2, ?_, fun isNone => ?_, fun {d} isDocument => ?_⟩
    · rw [nodes]
      exact (marked.trans (.concat _ rfl)).trans off
    · rw [document, isNone]
      rfl
    · obtain ⟨node, found, persists⟩ : ∃ node,
          (s.replaceLink i id url text).1.nodes[s.nodes.length]? = some node ∧
            (replacement url rendered).Persists node := by
        rw [nodes]
        refine off.node ?_
        have size : (s.nodes.modify id (·.mark Node.processedKey)).length = s.nodes.length :=
          List.length_modify _ _ _
        rw [← size, List.getElem?_concat_length]
      refine ⟨((d.insertAfter id s.nodes.length).toOption).getD d, by rw [document, isDocument]; rfl, ?_⟩
      rcases Document.place_cases id s.nodes.length d with same | ⟨head, body, inside, placed⟩
      · rw [same]
        exact .refl _ _ d
      · rw [placed]
        refine ⟨rfl, rfl, ⟨[[s.nodes.length]], rfl, fun r member => ?_⟩, fun n member => ?_⟩
        · exact ⟨_, Nat.le_refl _, (List.getElem?_eq_some_iff.1 found).1, List.mem_singleton.1 member⟩
        · rcases inside n member with old | rfl
          · exact .inl old
          · exact .inr ⟨Nat.le_refl _, List.mem_append_right _ (List.mem_singleton_self _), node,
              found, persists.processed rfl⟩

/-! ### All work of engines -/

theorem Step.keeps (h : Step m flights s flights' s') : Keeps s s' := by
  cases h with
  | began => exact keeps_modifyNode s _ fun node => node.persists_mark _
  | requested f flights s url => exact keeps_write s _
  | removed f flights s id => exact keeps_remove s id
  | told f flights s result present => exact keeps_write s _
  | dropped f flights s => exact keeps_modifyNode s _ Node.persists_unmark
  | loaded f flights s i url text present =>
    exact (keeps_modifyNode s _ Node.persists_unmark).trans (keeps_replaceLink _ i _ url text)
  | skipped flights s i id href reason => exact keeps_skip s i href reason

theorem Course.keeps {scenes : List Scene} (h : Course Step flights s scenes flights' s') :
    Keeps s s' := by
  induction h with
  | nil _ s => exact .refl s
  | cons first _ ih => exact first.keeps.trans ih

theorem keeps_linkStep (i : Nat) (id : NodeId) (s : Session) : Keeps s (s.linkStep i id).1 := by
  obtain ⟨scenes, course, -⟩ := above_linkStep i id [] s
  exact course.keeps

theorem keeps_loadWithin (depth i : Nat) (id : NodeId) (s : Session) :
    Keeps s (s.loadWithin depth i id).1 := by
  obtain ⟨scenes, course, -⟩ := (load_cases depth i id [] s).above
  exact course.keeps

theorem keeps_styleStep (i : Nat) (id : NodeId) (s : Session) : Keeps s (s.styleStep i id).1 := by
  change Keeps s (s.processStyle i id).1
  rcases processStyle_cases s i id with same | ⟨node, rendered, -, -, rfl, done | ⟨e, done⟩⟩
  · rw [same]
    exact .refl s
  · rw [done]
    exact keeps_processText s i _ none (some id)
  · rw [done]
    refine (keeps_processText s i _ none (some id)).trans ((keeps_modifyNode _ id ?_).trans
      (keeps_write _ e))
    exact fun node => (node.persists_setText _).trans (Node.persists_mark _ _)

theorem keeps_forEach {α ε : Type} {step : α → Session → Session × Option ε}
    (keeps : ∀ a s, Keeps s (step a s).1) (l : List α) (s : Session) :
    Keeps s (forEach step l s).1 :=
  forEach_keeps (fun a _ s' h => h.trans (keeps a s')) (.refl s)

theorem keeps_deliverFrom (i : Nat) (seen batch : List NodeId) (s : Session) :
    Keeps s (deliverFrom (·.nodes) (styleStep i) (linkStep i) seen batch s).1 :=
  deliverFrom_keeps (fun id _ h => h.trans (keeps_styleStep i id _))
    (fun id _ h => h.trans (keeps_linkStep i id _)) seen batch s (.refl s)

theorem keeps_processDocument (i : Nat) (document : Document Nat) (s : Session) :
    Keeps s (s.processDocument i document).1 := by
  unfold processDocument
  exact (keeps_debug s i _).trans ((keeps_forEach (keeps_styleStep i) _ _).trans
    (keeps_forEach (keeps_linkStep i) _ _))

end Session
end CondCss
