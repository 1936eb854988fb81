import CondCss.Proofs.Session.Runs

/-!
# The life of a link

However many engines share a document, and whatever the server does while it answers, the life of a
link has one course. It is marked as pending exactly while one load of it is in flight. A load that
brings no text leaves the link as it found it. The first one that brings a text marks the link as
processed, and puts at most one style behind it; from then on the link is never requested again
(`links_live_once`).

A run of commands is a sequence of moments, those of loads and all others (`PlaysAll`). What every moment
keeps (`Charted`) holds throughout the run, and then so do the laws of every moment (`Scene.Lawful`). A
load has no moments but those of loads, so nothing else can be put into the document while it lasts.
-/

namespace CondCss
namespace Session

variable {s s' : Session}

/-! ### What is in flight -/

variable {m : Moment} {flights flights' : List Flight} {f : Flight}

/-- Exactly the links with a load in flight are marked as pending, each for one load, and otherwise
    they are as they were when it began. -/
structure Charted (flights : List Flight) (s : Session) : Prop where
  single : (flights.map (·.link)).Nodup
  pending : ∀ id, s.nodes[id]?.any Node.isPending = true ↔ id ∈ flights.map (·.link)
  marked : ∀ f ∈ flights, s.nodes[f.link]? = some (f.node.mark Node.pendingKey)

theorem Charted.of_nodes (h : Charted flights s) (same : s'.nodes = s.nodes) : Charted flights s' := by
  refine ⟨h.single, ?_, ?_⟩
  · rw [same]
    exact h.pending
  · rw [same]
    exact h.marked

theorem Charted.began (h : Charted flights s) (found : s.nodes[f.link]? = some f.node) :
    Charted (f :: flights) (s.modifyNode f.link (·.mark Node.pendingKey)) := by
  have isNew : f.link ∉ flights.map (·.link) := by
    rw [← h.pending, found, Option.any_some, f.idle]
    exact Bool.false_ne_true
  refine ⟨List.nodup_cons.2 ⟨isNew, h.single⟩, fun id => ?_, fun g member => ?_⟩
  · change (s.nodes.modify f.link _)[id]?.any _ = true ↔ id ∈ f.link :: flights.map (·.link)
    by_cases here : f.link = id
    · subst here
      simp [List.getElem?_modify_eq, found]
    · rw [List.getElem?_modify_ne _ _ here, h.pending, List.mem_cons]
      exact (or_iff_right (Ne.symm here)).symm
  · change (s.nodes.modify f.link _)[g.link]? = _
    rcases List.mem_cons.1 member with rfl | member
    · rw [List.getElem?_modify_eq, found]
      rfl
    · have other : f.link ≠ g.link := fun same => isNew (List.mem_map.2 ⟨g, member, same.symm⟩)
      rw [List.getElem?_modify_ne _ _ other]
      exact h.marked g member

/-- In the second table, a load has ended and left its link as it is there. All other nodes of the
    first table are as they were. -/
structure Landed (f : Flight) (node : Node) (nodes nodes' : Nodes) : Prop where
  own : nodes'[f.link]? = some node
  others : ∀ {n : NodeId}, n ≠ f.link →
    nodes'[n]? = nodes[n]? ∨ nodes[n]? = none ∧ nodes'[n]?.any Node.isPending = false

theorem Landed.other {node node' : Node} {nodes nodes' : Nodes} {n : NodeId}
    (h : Landed f node nodes nodes') (other : n ≠ f.link) (found : nodes[n]? = some node') :
    nodes'[n]? = some node' := by
  rcases h.others other with same | ⟨absent, -⟩
  · rw [same, found]
  · rw [found] at absent
    cases absent

theorem Charted.landed {node : Node} (h : Charted (f :: flights) s) (idle : node.isPending = false)
    (landed : Landed f node s.nodes s'.nodes) : Charted flights s' := by
  obtain ⟨isNew, single⟩ := List.nodup_cons.1 h.single
  refine ⟨single, fun id => ?_, fun g member => ?_⟩
  · by_cases here : id = f.link
    · subst here
      rw [landed.own, Option.any_some, idle]
      exact ⟨fun isPending => absurd isPending Bool.false_ne_true, fun member => absurd member isNew⟩
    · have before := (h.pending id).trans (List.mem_cons.trans (or_iff_right here))
      rcases landed.others here with same | ⟨absent, notPending⟩
      · rw [same]
        exact before
      · rw [← before, absent, notPending]
        rfl
  · have other : g.link ≠ f.link := fun same => isNew (List.mem_map.2 ⟨g, member, same⟩)
    exact landed.other other (h.marked g (List.mem_cons_of_mem f member))

theorem Landed.modify {node : Node} {nodes nodes' : Nodes} (h : Landed f node nodes nodes')
    (g : Node → Node) : Landed f (g node) nodes (nodes'.modify f.link g) := by
  refine ⟨?_, fun {n} other => ?_⟩
  · rw [List.getElem?_modify_eq, h.own]
    rfl
  · rw [List.getElem?_modify_ne _ _ (Ne.symm other)]
    exact h.others other

theorem Landed.concat {node added : Node} {nodes nodes' : Nodes} (h : Landed f node nodes nodes')
    (size : nodes'.length = nodes.length) (idle : added.isPending = false) :
    Landed f node nodes (nodes' ++ [added]) := by
  refine ⟨?_, fun {n} other => ?_⟩
  · rw [List.getElem?_append_left (List.getElem?_eq_some_iff.1 h.own).1]
    exact h.own
  · by_cases inside : n < nodes'.length
    · rw [List.getElem?_append_left inside]
      exact h.others other
    · have absent : nodes'[n]? = none := List.getElem?_eq_none (Nat.le_of_not_lt inside)
      refine .inr ⟨List.getElem?_eq_none (size ▸ Nat.le_of_not_lt inside),
        Bool.eq_false_iff.2 fun isPending => ?_⟩
      have before := (LinksSpared.concat idle).pending isPending
      rw [absent] at before
      cases before

theorem Charted.unmarked (h : Charted (f :: flights) s) :
    Landed f f.node s.nodes (s.modifyNode f.link (·.unmark Node.pendingKey)).nodes := by
  constructor
  · change (s.nodes.modify f.link _)[f.link]? = _
    rw [List.getElem?_modify_eq, h.marked f List.mem_cons_self]
    exact congrArg some (Node.unmark_mark f.idle)
  · intro n other
    exact .inl (List.getElem?_modify_ne _ _ (Ne.symm other))

theorem isPending_replacement (url : Url) (text : Text) : (replacement url text).isPending = false := by
  have another : (Node.loadedFromKey == Node.pendingKey) = false := by decide
  simp [Node.isPending, replacement, Assoc.contains, another]

/-- What becomes of a link for which a text comes. -/
theorem Charted.replaced (h : Charted (f :: flights) s) (i : Nat) (url : Url) (text : Text)
    {r : Session × Option NodeId}
    (isResult : (s.modifyNode f.link (·.unmark Node.pendingKey)).replaceLink i f.link url text = r) :
    (r.2 = none ∧ r.1.document = s.document ∧
      Landed f (f.node.mark Node.processedKey) s.nodes r.1.nodes) ∨
    (r.2 = some s.nodes.length ∧
      r.1.document = s.document.map
        (fun d => ((d.insertAfter f.link s.nodes.length).toOption).getD d) ∧
      Landed f (f.node.mark Node.processedKey).disable s.nodes r.1.nodes) := by
  have size : (s.modifyNode f.link (·.unmark Node.pendingKey)).nodes.length = s.nodes.length :=
    List.length_modify _ _ _
  have marked := h.unmarked.modify (·.mark Node.processedKey)
  have size' := (List.length_modify (·.mark Node.processedKey) _ f.link).trans size
  rcases replaceLink_cases (s.modifyNode f.link (·.unmark Node.pendingKey)) i f.link url text with
    ⟨style, nodes, document⟩ | ⟨rendered, -, style, nodes, document⟩ <;>
      rw [isResult] at style nodes document
  · refine .inl ⟨style, document, ?_⟩
    rw [nodes]
    exact marked.concat size' rfl
  · rw [size] at style document
    refine .inr ⟨style, document, ?_⟩
    rw [nodes]
    exact (marked.concat size' (isPending_replacement url rendered)).modify (·.disable)

theorem Step.charted (h : Step m flights s flights' s') (charted : Charted flights s) :
    Charted flights' s' := by
  cases h with
  | began f flights s isDocument found => exact charted.began found
  | dropped f flights s => exact charted.landed f.idle charted.unmarked
  | loaded f flights s i url text present =>
    rcases charted.replaced i url text rfl with ⟨-, -, landed⟩ | ⟨-, -, landed⟩
    · exact charted.landed (by simp [f.idle]) landed
    · exact charted.landed (by simp [f.idle]) landed
  | _ => exact charted.of_nodes rfl

theorem Happens.charted (h : Happens m flights s flights' s') (charted : Charted flights s) :
    Charted flights' s' := by
  cases h with
  | load step => exact step.charted charted
  | aside aside =>
    refine ⟨List.nodup_nil, fun id => ⟨fun isPending => ?_, fun member => ?_⟩, fun f member => ?_⟩
    · exact (charted.pending id).1 (aside.linksSpared.pending isPending)
    · exact absurd member List.not_mem_nil
    · exact absurd member List.not_mem_nil

/-! ### The laws of every moment -/

end Session

namespace Node

/-- The second node is the first one, which has been marked as processed and switched off if that is
    said. -/
structure Becomes (n n' : Node) (loaded replaced : Bool) : Prop where
  processed : n'.isProcessed = (n.isProcessed || loaded)
  link : n'.link? = n.link?.map fun l => { l with disabled := l.disabled || replaced }

theorem Becomes.of_eq {n n' : Node} (processed : n'.isProcessed = n.isProcessed)
    (link : n'.link? = n.link?) : n.Becomes n' false false := by
  refine ⟨by rw [processed, Bool.or_false], ?_⟩
  rw [link]
  cases n.link? <;> simp

end Node

namespace Document

variable {ω : Type}

/-- Where the nodes are. -/
def places (d : Document ω) : List NodeId × List NodeId :=
  (d.head, d.body)

/-- The second document is the first one with a node put directly behind another, where that stands
    first. -/
def PutInto (reference id : NodeId) (d d' : Document ω) : Prop :=
  PutBehind reference id d.head d'.head ∧ d'.body = d.body ∨
  reference ∉ d.head ∧ d'.head = d.head ∧ PutBehind reference id d.body d'.body

theorem putInto_of_mem {reference : NodeId} {d : Document ω} (id : NodeId)
    (present : reference ∈ d.nodes) :
    PutInto reference id d (((d.insertAfter reference id).toOption).getD d) := by
  rcases insertAfter_cases reference id d with ⟨absent, -⟩ | ⟨head, put, inserted⟩ |
    ⟨body, notHead, put, inserted⟩
  · exact absurd present absent
  · rw [inserted]
    exact .inl ⟨put, rfl⟩
  · rw [inserted]
    exact .inr ⟨notHead, rfl, put⟩

end Document

namespace Session

/-- The node is a link, and this is whether it is processed. -/
def IsLink (processed : Bool) (id : NodeId) (s : Session) : Prop :=
  ∃ node, s.nodes[id]? = some node ∧ node.isStyle = false ∧ node.isProcessed = processed

/-- Whether a text comes for a link. -/
def Scene.loads (scene : Scene) (id : NodeId) : Bool :=
  match scene.moment with
  | .loaded link _ => link == id
  | _ => false

/-- Whether a style is put behind a link. -/
def Scene.replaces (scene : Scene) (id : NodeId) : Bool :=
  match scene.moment with
  | .loaded link style => link == id && style.isSome
  | _ => false

/-- What is true of every moment. -/
structure Scene.Lawful (scene : Scene) : Prop where
  /-- A link is pending exactly while a load of it is in flight, -/
  pending : ∀ id, scene.before.nodes[id]?.any Node.isPending = true ↔
    id ∈ scene.inFlight.map (·.link)
  /-- which is one load. -/
  single : (scene.inFlight.map (·.link)).Nodup
  /-- A link becomes processed when a text comes for it, and is switched off when a style is put behind
      it, and never else. -/
  link : ∀ {id : NodeId} {node : Node}, scene.before.nodes[id]? = some node → node.isStyle = false →
    ∃ node', scene.after.nodes[id]? = some node' ∧
      node.Becomes node' (scene.loads id) (scene.replaces id)
  /-- Only links that are not processed are requested. -/
  requested : ∀ {id : NodeId} {url : Text}, scene.moment = .requested id url →
    IsLink false id scene.before
  /-- Texts come only for links that are not processed. If there is a style, then it is new and is put
      directly behind the link. -/
  loaded : ∀ {id : NodeId} {style : Option NodeId}, scene.moment = .loaded id style →
    IsLink false id scene.before ∧ ∀ new, style = some new →
      new = scene.before.nodes.length ∧ ∃ d d', scene.before.document = some d ∧
        scene.after.document = some d' ∧ d.PutInto id new d'
  /-- A request that comes to nothing leaves the link as it was when the load began. -/
  dropped : ∀ {id : NodeId}, scene.moment = .dropped id →
    ∃ f, scene.inFlight.head? = some f ∧ f.link = id ∧ scene.after.nodes[id]? = some f.node
  /-- What a load announces does not change any node. -/
  skipped : ∀ {id : NodeId} {reason : String}, scene.moment = .skipped id reason →
    scene.after.nodes = scene.before.nodes
  /-- The page and the server apart, the places of nodes in the document change when a style is put
      behind a link, and never else. -/
  places : scene.moment ≠ .page → (∀ id, scene.moment ≠ .removed id) →
    (∀ id, scene.replaces id = false) →
    scene.after.document.map Document.places = scene.before.document.map Document.places

theorem Charted.isLink (h : Charted flights s) (member : f ∈ flights) : IsLink false f.link s :=
  ⟨_, h.marked f member, f.isLink, by simp [f.unprocessed]⟩

theorem Step.link (h : Step m flights s flights' s') (charted : Charted flights s) {id : NodeId}
    {node : Node} (found : s.nodes[id]? = some node) :
    ∃ node', s'.nodes[id]? = some node' ∧ node.Becomes node'
      (Scene.loads ⟨m, flights, s, s'⟩ id) (Scene.replaces ⟨m, flights, s, s'⟩ id) := by
  cases h with
  | began f flights s isDocument found' =>
    by_cases here : f.link = id
    · subst here
      refine ⟨_, (charted.began found').marked f List.mem_cons_self, ?_⟩
      obtain rfl := Option.some.inj (found'.symm.trans found)
      exact .of_eq (by simp) rfl
    · exact ⟨node, (List.getElem?_modify_ne _ _ here).trans found, .of_eq rfl rfl⟩
  | dropped f flights s =>
    by_cases here : id = f.link
    · subst here
      obtain rfl := Option.some.inj ((charted.marked f List.mem_cons_self).symm.trans found)
      exact ⟨f.node, charted.unmarked.own, .of_eq (by simp) rfl⟩
    · exact ⟨node, (List.getElem?_modify_ne _ _ (Ne.symm here)).trans found, .of_eq rfl rfl⟩
  | loaded f flights s i url text present =>
    by_cases here : id = f.link
    · subst here
      obtain rfl := Option.some.inj ((charted.marked f List.mem_cons_self).symm.trans found)
      rcases charted.replaced i url text rfl with ⟨isNone, -, landed⟩ | ⟨isStyle, -, landed⟩
      · exact ⟨_, landed.own, by simp [Scene.loads], by simp [Scene.replaces, isNone]⟩
      · exact ⟨_, landed.own, by simp [Scene.loads], by simp [Scene.replaces, isStyle]⟩
    · have notLoads : (f.link == id) = false := beq_eq_false_iff_ne.2 (Ne.symm here)
      simp only [Scene.loads, Scene.replaces, notLoads, Bool.false_and]
      rcases charted.replaced i url text rfl with ⟨-, -, landed⟩ | ⟨-, -, landed⟩
      · exact ⟨node, landed.other here found, .of_eq rfl rfl⟩
      · exact ⟨node, landed.other here found, .of_eq rfl rfl⟩
  | _ => exact ⟨node, found, .of_eq rfl rfl⟩

theorem Step.isLink_of_requested {id : NodeId} {url : Text}
    (h : Step (.requested id url) flights s flights' s') (charted : Charted flights s) :
    IsLink false id s := by
  cases h with
  | requested f flights => exact charted.isLink List.mem_cons_self

theorem Step.putInto_of_loaded {id : NodeId} {style : Option NodeId}
    (h : Step (.loaded id style) flights s flights' s') (charted : Charted flights s) :
    IsLink false id s ∧ ∀ new, style = some new → new = s.nodes.length ∧
      ∃ d d', s.document = some d ∧ s'.document = some d' ∧ d.PutInto id new d' := by
  cases h with
  | loaded f flights s i url text present =>
    refine ⟨charted.isLink List.mem_cons_self, fun new isNew => ?_⟩
    rcases charted.replaced i url text rfl with ⟨none, -, -⟩ | ⟨isStyle, document, -⟩
    · rw [isNew] at none
      cases none
    · obtain rfl := Option.some.inj (isNew.symm.trans isStyle)
      obtain ⟨d, isDocument, contains⟩ := (Option.any_eq_true _ _).1 present
      refine ⟨rfl, d, _, isDocument, by rw [document, isDocument]; rfl, ?_⟩
      exact Document.putInto_of_mem _ (List.contains_iff_mem.1 contains)

theorem Step.node_of_dropped {id : NodeId} (h : Step (.dropped id) flights s flights' s')
    (charted : Charted flights s) :
    ∃ f, flights.head? = some f ∧ f.link = id ∧ s'.nodes[id]? = some f.node := by
  cases h with
  | dropped f flights => exact ⟨f, rfl, rfl, charted.unmarked.own⟩

theorem Step.nodes_of_skipped {id : NodeId} {reason : String}
    (h : Step (.skipped id reason) flights s flights' s') : s'.nodes = s.nodes := by
  cases h with
  | skipped => rfl

theorem Step.document (h : Step m flights s flights' s') (charted : Charted flights s)
    (notRemoved : ∀ id, m ≠ .removed id)
    (noStyle : ∀ id, Scene.replaces ⟨m, flights, s, s'⟩ id = false) : s'.document = s.document := by
  cases h with
  | removed f flights s id => exact absurd rfl (notRemoved id)
  | loaded f flights s i url text present =>
    rcases charted.replaced i url text rfl with ⟨-, document, -⟩ | ⟨isStyle, -, -⟩
    · exact document
    · have replaced := noStyle f.link
      simp [Scene.replaces, isStyle] at replaced
  | _ => rfl

theorem Aside.places (h : Aside m s s') (notPage : m ≠ .page) :
    s'.document.map Document.places = s.document.map Document.places := by
  cases h with
  | styled s i id =>
    rcases processStyle_cases s i id with same | ⟨node, rendered, -, -, rfl, done | ⟨e, done⟩⟩
    · rw [same]
    · rw [done]
      rfl
    · rw [done]
      rfl
  | logged => rfl
  | observed s i =>
    refine (Option.map_map _ _ _).trans (congrArg (Option.map · s.document) (funext fun d => ?_))
    simp only [Function.comp, Document.observe]
    split <;> rfl
  | taken => exact Option.map_map _ _ _
  | _ => exact absurd rfl notPage

theorem Happens.lawful (h : Happens m flights s flights' s') (charted : Charted flights s) :
    Scene.Lawful ⟨m, flights, s, s'⟩ := by
  refine ⟨charted.pending, charted.single, fun found isLink => ?_, ?_, ?_, ?_, ?_, ?_⟩
  · cases h with
    | load step => exact step.link charted found
    | aside aside =>
      refine ⟨_, aside.linksSpared.link found isLink, ?_⟩
      rcases aside.moment with rfl | rfl <;> exact .of_eq rfl rfl
  · rintro id url ⟨⟩
    cases h with
    | load step => exact step.isLink_of_requested charted
    | aside aside => cases aside
  · rintro id style ⟨⟩
    cases h with
    | load step => exact step.putInto_of_loaded charted
    | aside aside => cases aside
  · rintro id ⟨⟩
    cases h with
    | load step => exact step.node_of_dropped charted
    | aside aside => cases aside
  · rintro id reason ⟨⟩
    cases h with
    | load step => exact step.nodes_of_skipped
    | aside aside => cases aside
  · intro notPage notRemoved noStyle
    cases h with
    | load step => exact congrArg _ (step.document charted notRemoved noStyle)
    | aside aside => exact aside.places notPage

/-! ### Loads that bring no text -/

/-- A load is made of the moments of loads alone, and those in flight stay so. When it leaves its link
    unprocessed, the link is as it was before. If the document is not, then because of what happened
    while the request of this load was in flight, since the link was marked. -/
def LoadsCleanly (flights : List Flight) (s : Session) : Prop :=
  ∀ (depth i : Nat) (id : NodeId), Above flights s (s.loadWithin depth i id).1 ∧
    ((s.loadWithin depth i id).1.nodes[id]?.any Node.isProcessed = false →
      (s.loadWithin depth i id).1.nodes[id]? = s.nodes[id]? ∧
        ((s.loadWithin depth i id).1.document = s.document ∨
          ∃ f answered, f.link = id ∧
            Above (f :: flights) (s.modifyNode id (·.mark Node.pendingKey)) answered ∧
            (s.loadWithin depth i id).1.document = answered.document))

theorem Charted.above (h : Charted flights s) (above : Above flights s s') : Charted flights s' := by
  obtain ⟨scenes, course, -⟩ := above
  exact (course.invariant (I := Charted) Step.charted h).1

theorem Step.found_of_began (h : Step m flights s flights' s') (isBegan : m = .began f.link)
    (inFlight : flights' = f :: flights) : s.nodes[f.link]? = some f.node := by
  cases h with
  | began g flights s isDocument found =>
    obtain rfl := (List.cons.inj inFlight).1
    exact found
  | _ => cases isBegan

theorem Charted.loadsCleanly (h : Charted flights s) : LoadsCleanly flights s := by
  intro depth i id
  have cases := load_cases depth i id flights s
  refine ⟨cases.above, fun unprocessed => ?_⟩
  generalize s.loadWithin depth i id = r at cases unprocessed ⊢
  cases cases with
  | idle id result => exact ⟨rfl, .inl rfl⟩
  | foreign id href => exact ⟨rfl, .inl rfl⟩
  | @dropped f answered begins between result =>
    have found := begins.found_of_began rfl rfl
    have landed := ((h.began found).above between).unmarked
    exact ⟨landed.own.trans found.symm, .inr ⟨f, answered, rfl, between, rfl⟩⟩
  | @skipped f answered begins between href reason =>
    have found := begins.found_of_began rfl rfl
    have landed := ((h.began found).above between).unmarked
    exact ⟨landed.own.trans found.symm, .inr ⟨f, answered, rfl, between, rfl⟩⟩
  | @loaded f answered begins between present url text =>
    have charted := (h.began (begins.found_of_began rfl rfl)).above between
    rcases charted.replaced i url text rfl with ⟨-, -, landed⟩ | ⟨-, -, landed⟩ <;>
      simp [landed.own] at unprocessed

/-! ### Runs -/

theorem IsLink.unique {processed processed' : Bool} {id : NodeId} (h : IsLink processed id s)
    (h' : IsLink processed' id s) : processed = processed' := by
  obtain ⟨node, found, -, rfl⟩ := h
  obtain ⟨node', found', -, rfl⟩ := h'
  obtain rfl := Option.some.inj (found.symm.trans found')
  rfl

theorem Scene.Lawful.isLink {scene : Scene} (h : scene.Lawful) {processed : Bool} {id : NodeId}
    (isLink : IsLink processed id scene.before) :
    IsLink (processed || scene.loads id) id scene.after := by
  obtain ⟨node, found, notStyle, rfl⟩ := isLink
  obtain ⟨node', found', becomes⟩ := h.link found notStyle
  refine ⟨node', found', ?_, becomes.processed⟩
  obtain ⟨body, dataset⟩ := node
  cases body with
  | style _ => cases notStyle
  | link l => exact Node.isStyle_eq_false_of_link? becomes.link

theorem Scene.Lawful.isLink_of_loads {scene : Scene} (h : scene.Lawful) {id : NodeId}
    (loads : scene.loads id = true) : IsLink false id scene.before := by
  unfold Scene.loads at loads
  split at loads
  · rename_i isLoaded
    exact beq_iff_eq.1 loads ▸ (h.loaded isLoaded).1
  · cases loads

theorem Course.lawful {scenes : List Scene} (h : Course Happens flights s scenes flights' s')
    (charted : Charted flights s) {scene : Scene} (member : scene ∈ scenes) :
    scene.Lawful ∧ LoadsCleanly scene.inFlight scene.before := by
  have before := (h.invariant (I := Charted) Happens.charted charted).2 scene member
  obtain ⟨flights', happens⟩ := h.step_of_mem member
  exact ⟨happens.lawful before, before.loadsCleanly⟩

/-- Once a text has come for a link, no text comes for it again, nor is it requested. -/
theorem Course.pairwise {scenes : List Scene} (h : Course Happens flights s scenes flights' s')
    (charted : Charted flights s) :
    scenes.Pairwise fun earlier later => ∀ id, earlier.loads id = true →
      later.loads id = false ∧ ∀ url, later.moment ≠ .requested id url := by
  induction h with
  | nil => exact .nil
  | @cons m flights flights' flights'' s s' s'' scenes first rest ih =>
    have charted' := first.charted charted
    refine List.pairwise_cons.2 ⟨fun later member id loads => ?_, ih charted'⟩
    have lawful := first.lawful charted
    have processed : IsLink true id s' := by
      have isLink := lawful.isLink (lawful.isLink_of_loads loads)
      rwa [loads] at isLink
    have isLink : IsLink true id later.before :=
      ((rest.invariant (I := fun flights s => Charted flights s ∧ IsLink true id s)
        (fun h inv => ⟨h.charted inv.1, (h.lawful inv.1).isLink inv.2⟩)
        ⟨charted', processed⟩).2 later member).2
    have laterLawful := (rest.lawful charted' member).1
    refine ⟨Bool.eq_false_iff.2 fun loadsAgain => ?_, fun url isRequested => ?_⟩
    · cases (laterLawful.isLink_of_loads loadsAgain).unique isLink
    · cases (laterLawful.requested isRequested).unique isLink

theorem charted_shared (host : Host) (options : List Options) (origin : Text) (server : Server)
    (followsRedirects : Bool) : Charted [] (shared host options origin server followsRedirects) :=
  ⟨List.nodup_nil, fun _ => ⟨nofun, nofun⟩, nofun⟩

/-- Every run of a session that engines share is a course in which every moment is lawful. What the page
    does are moments by themselves, one for a command of the page, and none while an engine works. Every
    load is made of the moments of loads alone, and one that leaves its link unprocessed skips it
    cleanly. A text comes at most once for each link, and after that the link is not requested. In the
    end no link is pending. -/
theorem links_live_once (host : Host) (options : List Options) (origin : Text) (server : Server)
    (followsRedirects : Bool) (commands : List Command)
    (idle : ∀ node, Command.create node ∈ commands → node.isPending = false) :
    ∃ scenes, PlaysAll (shared host options origin server followsRedirects) commands scenes ∧
      Course Happens [] (shared host options origin server followsRedirects) scenes []
        ((shared host options origin server followsRedirects).executeAll commands) ∧
      (∀ scene ∈ scenes, scene.Lawful ∧ LoadsCleanly scene.inFlight scene.before) ∧
      (scenes.Pairwise fun earlier later => ∀ id, earlier.loads id = true →
        later.loads id = false ∧ ∀ url, later.moment ≠ .requested id url) ∧
      (∀ id : NodeId, ((shared host options origin server
        followsRedirects).executeAll commands).nodes[id]?.any Node.isPending = false) ∧
      LoadsCleanly [] ((shared host options origin server followsRedirects).executeAll commands) := by
  have charted := charted_shared host options origin server followsRedirects
  obtain ⟨scenes, plays⟩ := plays_executeAll (shared host options origin server followsRedirects) idle
  have course := plays.course
  have last := (course.invariant (I := Charted) Happens.charted charted).1
  refine ⟨scenes, plays, course, fun scene member => course.lawful charted member,
    course.pairwise charted, fun id => Bool.eq_false_iff.2 fun isPending => ?_, last.loadsCleanly⟩
  exact absurd ((last.pending id).1 isPending) List.not_mem_nil

/-- Two engines, and a server that makes one of them load the link for which the other one has asked
    it. -/
def echoing : Session :=
  shared {} [{}, {}] "http://localhost".toList
    [("/a.css".toList,
      { load := some (1, 0), text := "a { b: if(media(x): c; else: d); }".toList })] false

/-- Both engines load a link. -/
def loadTwice : List Command :=
  [.create { body := .link ⟨"a.css".toList, Link.sheetRel, false⟩ }, .append 0 false, .load 0 0,
    .load 1 0]

/-- The link is loaded three times, once while it is in flight, and one style is put behind it. -/
theorem links_live_once_echoing :
    (∃ scenes, PlaysAll echoing loadTwice scenes ∧
      Course Happens [] echoing scenes [] (echoing.executeAll loadTwice) ∧
      ∀ scene ∈ scenes, scene.Lawful) ∧
    (echoing.executeAll loadTwice).document.map Document.places = some ([0, 1], []) := by
  have idle (node : Node) (member : Command.create node ∈ loadTwice) : node.isPending = false := by
    simp only [loadTwice, List.mem_cons, Command.create.injEq, reduceCtorEq, List.not_mem_nil,
      or_false] at member
    rw [member]
    rfl
  obtain ⟨scenes, plays, course, lawful, -⟩ := links_live_once {} [{}, {}] "http://localhost".toList
    [("/a.css".toList,
      { load := some (1, 0), text := "a { b: if(media(x): c; else: d); }".toList })] false
    loadTwice idle
  exact ⟨⟨scenes, plays, course, fun scene member => (lawful scene member).1⟩, by decide +kernel⟩

end Session
end CondCss
