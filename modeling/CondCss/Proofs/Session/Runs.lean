import CondCss.Proofs.Session.Commands
import CondCss.Proofs.Tracking.Reactions

/-!
# Runs as courses

Whatever commands are carried out, a run is a sequence of moments: those of loads, which may be nested,
and what else happens while no request is in flight (`Happens`). Of the latter, none touches a link that
is in the table or makes a node pending (`Aside.linksSpared`). Each command has its own moments: what
the page does is one of them, and an engine that works adds none for the page (`Plays`, `PlaysAll`).
-/

namespace CondCss

/-! ### Tables whose links stay as they are -/

/-- In the second table, all links of the first one are as they were, and no node is pending that was
    not. -/
structure LinksSpared (nodes nodes' : Nodes) : Prop where
  link : ∀ {id : NodeId} {node : Node}, nodes[id]? = some node → node.isStyle = false →
    nodes'[id]? = some node
  pending : ∀ {id : NodeId}, nodes'[id]?.any Node.isPending = true →
    nodes[id]?.any Node.isPending = true

namespace LinksSpared

variable {nodes nodes' nodes'' : Nodes}

theorem refl (nodes : Nodes) : LinksSpared nodes nodes := ⟨fun found _ => found, id⟩

theorem trans (first : LinksSpared nodes nodes') (second : LinksSpared nodes' nodes'') :
    LinksSpared nodes nodes'' :=
  ⟨fun found isLink => second.link (first.link found isLink) isLink,
    fun pending => first.pending (second.pending pending)⟩

theorem modify {id : NodeId} {f : Node → Node}
    (spared : ∀ node, nodes[id]? = some node → node.isStyle = false → f node = node)
    (pending : ∀ node : Node, (f node).isPending = node.isPending) :
    LinksSpared nodes (nodes.modify id f) := by
  refine ⟨fun {n node} found isLink => ?_, fun {n} isPending => ?_⟩
  · rw [List.getElem?_modify, found]
    by_cases here : id = n
    · subst here
      simp [spared node found isLink]
    · simp [here]
  · rw [List.getElem?_modify] at isPending
    cases found : nodes[n]? with
    | none => simp [found] at isPending
    | some node =>
      by_cases here : id = n <;> simpa [found, here, pending] using isPending

theorem concat {node : Node} (idle : node.isPending = false) :
    LinksSpared nodes (nodes ++ [node]) := by
  refine ⟨fun {n _} found _ => ?_, fun {n} isPending => ?_⟩
  · rwa [List.getElem?_append_left (List.getElem?_eq_some_iff.1 found).1]
  · rw [List.getElem?_append] at isPending
    by_cases inside : n < nodes.length
    · simpa [inside] using isPending
    · rw [if_neg inside] at isPending
      cases found : [node][n - nodes.length]? with
      | none => simp [found] at isPending
      | some other =>
        rw [List.mem_singleton.1 (List.mem_of_getElem? found)] at found
        simp [found, idle] at isPending

end LinksSpared

namespace Session

variable {s s' s'' : Session}

/-- A link has no text of its own, so rendering it as a style does nothing. -/
theorem processStyle_of_link {id : NodeId} {node : Node} (found : s.nodes[id]? = some node)
    (isLink : node.isStyle = false) (i : Nat) : (s.processStyle i id).1 = s := by
  have noText : node.text?.getD [] = [] := by
    obtain ⟨body, dataset⟩ := node
    cases body with
    | style _ => cases isLink
    | link _ => rfl
  have empty (options : Options) : render s.platform.host options [] = ⟨[], []⟩ := rfl
  unfold processStyle
  rw [found]
  simp only [noText, processText, empty]
  split
  · rfl
  · rfl

theorem linksSpared_processStyle (s : Session) (i : Nat) (id : NodeId) :
    LinksSpared s.nodes (s.processStyle i id).1.nodes := by
  rcases processStyle_cases s i id with same | ⟨node, rendered, found, -, rfl, done | ⟨e, done⟩⟩
  · rw [same]
    exact .refl s.nodes
  · rw [done]
    change LinksSpared s.nodes (Tracking.absorb _ _ _ s.toTracking).nodes
    rw [Tracking.nodes_absorb]
    exact .refl s.nodes
  · cases isStyle : node.isStyle with
    | false =>
      rw [processStyle_of_link found isStyle]
      exact .refl s.nodes
    | true =>
      rw [done]
      change LinksSpared s.nodes ((Tracking.absorb _ _ _ s.toTracking).nodes.modify id _)
      rw [Tracking.nodes_absorb]
      refine .modify (fun other found' isLink => ?_) fun other => ?_
      · obtain rfl := Option.some.inj (found.symm.trans found')
        rw [isStyle] at isLink
        cases isLink
      · simp only [Node.isPending_mark, Node.processedKey_beq_pendingKey, Bool.false_or,
          Node.isPending_setText]

theorem linksSpared_changeHost (s : Session) (change : Host → Host) :
    LinksSpared s.nodes (s.changeHost change).nodes := by
  have stable : Tracking.Stable renderer fun t => LinksSpared s.nodes t.nodes := by
    refine ⟨fun _ h => h, fun {t i query own} _ h => ?_⟩
    rw [Tracking.nodes_refresh]
    exact h.trans (.modify (fun _ _ isLink => Node.setText_of_link isLink _) fun node => by simp)
  exact stable.changeHost (.refl s.nodes)

/-! ### Runs as courses -/

/-- What happens in a session besides loads. -/
inductive Aside : Moment → Session → Session → Prop where
  | created (s : Session) (node : Node) (idle : node.isPending = false) :
      Aside .page s (s.track fun t => { t with nodes := t.nodes ++ [node] })
  | appended (s : Session) (id : NodeId) (toBody : Bool) :
      Aside .page s (s.modifyDocument (·.append id toBody))
  | inserted (s : Session) (reference id : NodeId) :
      Aside .page s (s.modifyDocument fun d => ((d.insertAfter reference id).toOption).getD d)
  | removed (s : Session) (id : NodeId) : Aside .page s (s.modifyDocument (·.remove id))
  | served (s : Session) (server : Server) : Aside .page s { s with server }
  | hostChanged (s : Session) (change : Host → Host) : Aside .page s (s.changeHost change)
  | styled (s : Session) (i : Nat) (id : NodeId) : Aside .other s (s.processStyle i id).1
  | logged (s : Session) (source : Log.Source) (message : String) :
      Aside .other s (s.log source message)
  | observed (s : Session) (i : Nat) :
      Aside .other s
        ((s.modifyDocument (·.observe i)).modifyEngine i ({ · with observing := true }))
  | taken (s : Session) : Aside .other s (s.modifyDocument (·.takeQueue.2))

theorem Aside.linksSpared {m : Moment} (h : Aside m s s') : LinksSpared s.nodes s'.nodes := by
  cases h with
  | created s node idle => exact .concat idle
  | hostChanged s change => exact linksSpared_changeHost s change
  | styled s i id => exact linksSpared_processStyle s i id
  | _ => exact .refl _

theorem Aside.moment {m : Moment} (h : Aside m s s') : m = .page ∨ m = .other := by
  cases h <;> simp

/-- All that happens: the moments of loads, and what else happens while no request is in flight. -/
inductive Happens : Moment → List Flight → Session → List Flight → Session → Prop where
  | load {m : Moment} {flights flights' : List Flight} {s s' : Session} :
      Step m flights s flights' s' → Happens m flights s flights' s'
  | aside {m : Moment} {s s' : Session} : Aside m s s' → Happens m [] s [] s'

/-- The second state is reached from the first one by a course in which the page does nothing. -/
def Works (s s' : Session) : Prop :=
  ∃ scenes, Course Happens [] s scenes [] s' ∧ ∀ scene ∈ scenes, scene.moment ≠ .page

theorem Works.refl (s : Session) : Works s s :=
  ⟨[], .nil [] s, fun _ member => absurd member List.not_mem_nil⟩

theorem Works.trans (first : Works s s') (second : Works s' s'') : Works s s'' := by
  obtain ⟨scenes, course, quiet⟩ := first
  obtain ⟨scenes', course', quiet'⟩ := second
  exact ⟨scenes ++ scenes', course.append course', fun scene member =>
    (List.mem_append.1 member).elim (quiet scene) (quiet' scene)⟩

theorem Works.aside (h : Aside .other s s') : Works s s' :=
  ⟨_, .single (.aside h), fun _ member => by rw [List.mem_singleton.1 member]; nofun⟩

/-- The moments of loads alone. -/
theorem Step.moment_ne_page {m : Moment} {flights flights' : List Flight}
    (h : Step m flights s flights' s') : m ≠ .page := by
  cases h <;> nofun

theorem Course.moment_ne_page {flights flights' : List Flight} {scenes : List Scene}
    (h : Course Step flights s scenes flights' s') : ∀ scene ∈ scenes, scene.moment ≠ .page := by
  intro scene member
  obtain ⟨flights', step⟩ := h.step_of_mem member
  exact step.moment_ne_page

theorem works_linkStep (i : Nat) (id : NodeId) (s : Session) : Works s (s.linkStep i id).1 := by
  obtain ⟨scenes, course, -⟩ := above_linkStep i id [] s
  exact ⟨scenes, course.mono .load, course.moment_ne_page⟩

theorem works_styleStep (i : Nat) (id : NodeId) (s : Session) : Works s (s.styleStep i id).1 :=
  .aside (.styled s i id)

theorem works_debug (s : Session) (i : Nat) (message : String) : Works s (s.debug i message) := by
  unfold debug
  split
  · exact .aside (.logged s _ _)
  · exact .refl s

theorem works_detectNative (s : Session) : Works s s.detectNative.1 := by
  unfold detectNative
  split
  · exact .refl s
  · exact .aside (.logged s _ _)

theorem works_forEach {α ε : Type} {step : α → Session → Session × Option ε}
    (works : ∀ a s, Works s (step a s).1) (l : List α) (s : Session) : Works s (forEach step l s).1 :=
  forEach_keeps (fun a _ s' h => h.trans (works a s')) (.refl s)

theorem works_processDocument (i : Nat) (document : Document Nat) (s : Session) :
    Works s (s.processDocument i document).1 := by
  unfold processDocument
  exact (works_debug s i _).trans ((works_forEach (works_styleStep i) _ _).trans
    (works_forEach (works_linkStep i) _ _))

theorem works_prepared (i : Nat) (s : Session) : Works s (s.prepared i) :=
  (works_detectNative s).trans (works_debug _ i _)

theorem works_watching (i : Nat) (s : Session) : Works s (s.watching i) := by
  unfold watching
  split
  · exact .refl s
  · exact .aside (.observed s i)

theorem works_start (i : Nat) (s : Session) : Works s (s.start i).1 := by
  cases isDocument : s.document with
  | none =>
    rw [start, isDocument]
    exact .refl s
  | some d =>
    cases native : s.detectNative.2 with
    | true =>
      rw [start_of_native isDocument native]
      exact (works_detectNative s).trans (works_debug _ i _)
    | false =>
      have processed := (works_prepared i s).trans (works_processDocument i d (s.prepared i))
      rw [start_eq isDocument native]
      generalize (s.prepared i).processDocument i d = outcome at processed
      obtain ⟨s', _ | fault⟩ := outcome
      · exact processed.trans (works_watching i s')
      · exact processed

theorem works_refreshAll (i : Nat) (s : Session) : Works s (s.refreshAll i).1 := by
  cases isDocument : s.document with
  | none =>
    rw [refreshAll, isDocument]
    exact .refl s
  | some d =>
    have processed := works_processDocument i d s
    rw [refreshAll_eq isDocument]
    generalize s.processDocument i d = outcome at processed
    obtain ⟨s', _ | fault⟩ := outcome <;> exact processed

theorem works_deliver (i : Nat) (batch : List Record) (s : Session) :
    Works s (deliver (·.nodes) (styleStep i) (linkStep i) batch s).1 :=
  deliverFrom_keeps (fun id _ h => h.trans (works_styleStep i id _))
    (fun id _ h => h.trans (works_linkStep i id _)) [] batch.flatten s (.refl s)

theorem works_flush (s : Session) : Works s s.flush.1 := by
  cases isDocument : s.document with
  | none =>
    rw [flush, isDocument]
    exact .refl s
  | some d =>
    have taken : Works s (s.taken d) := by
      have aside := Aside.taken s
      rw [modifyDocument, isDocument] at aside
      exact .aside aside
    have delivered := taken.trans
      (works_forEach (fun i => works_deliver i d.queue) (audience d) (s.taken d))
    rw [flush_eq isDocument]
    generalize forEach _ (audience d) (s.taken d) = outcome at delivered
    obtain ⟨s', _ | fault⟩ := outcome <;> exact delivered

/-- What the scenes of a command are. A command of the page is a moment by itself. While an engine
    works, the page does nothing, and a load is made of the moments of loads alone. -/
structure Plays (s : Session) (c : Command) (scenes : List Scene) : Prop where
  course : Course Happens [] s scenes [] (s.execute c).1
  page : c.isPage = true → ∀ scene ∈ scenes, scene = ⟨.page, [], s, (s.execute c).1⟩
  work : c.isPage = false → ∀ scene ∈ scenes, scene.moment ≠ .page
  load : ∀ i id, c = .load i id → Course Step [] s scenes [] (s.execute c).1

/-- The scenes of several commands, those of one after those of the other. -/
inductive PlaysAll : Session → List Command → List Scene → Prop where
  | nil (s : Session) : PlaysAll s [] []
  | cons {s : Session} {c : Command} {commands : List Command} {own rest : List Scene} :
      Plays s c own → PlaysAll (s.execute c).1 commands rest →
      PlaysAll s (c :: commands) (own ++ rest)

theorem PlaysAll.course {commands : List Command} {scenes : List Scene}
    (h : PlaysAll s commands scenes) : Course Happens [] s scenes [] (s.executeAll commands) := by
  induction h with
  | nil s => exact .nil [] s
  | cons own _ ih => exact own.course.append ih

theorem plays_of_page {c : Command} (isPage : c.isPage = true)
    (h : Aside .page s (s.execute c).1 ∨ (s.execute c).1 = s) : ∃ scenes, Plays s c scenes := by
  have notLoad (i : Nat) (id : NodeId) (isLoad : c = .load i id) : False := by
    rw [isLoad] at isPage
    cases isPage
  rcases h with aside | same
  · refine ⟨_, .single (.aside aside), fun _ scene member => List.mem_singleton.1 member, ?_, ?_⟩
    · exact fun notPage => absurd (isPage.symm.trans notPage) nofun
    · exact fun i id isLoad => (notLoad i id isLoad).elim
  · refine ⟨[], ?_, fun _ _ member => absurd member List.not_mem_nil,
      fun _ _ member => absurd member List.not_mem_nil, fun i id isLoad => (notLoad i id isLoad).elim⟩
    rw [same]
    exact .nil [] s

theorem plays_of_works {c : Command} (notPage : c.isPage = false) (notLoad : ∀ i id, c ≠ .load i id)
    (h : Works s (s.execute c).1) : ∃ scenes, Plays s c scenes := by
  obtain ⟨scenes, course, quiet⟩ := h
  exact ⟨scenes, course, fun isPage => absurd (notPage.symm.trans isPage) nofun, fun _ => quiet,
    fun i id isLoad => absurd isLoad (notLoad i id)⟩

theorem plays_load (s : Session) (i : Nat) (id : NodeId) : ∃ scenes, Plays s (.load i id) scenes := by
  obtain ⟨scenes, course, -⟩ := above_linkStep i id [] s
  exact ⟨scenes, course.mono .load, nofun, fun _ => course.moment_ne_page, fun _ _ _ => course⟩

theorem plays_execute (s : Session) {c : Command}
    (idle : ∀ node, c = .create node → node.isPending = false) : ∃ scenes, Plays s c scenes := by
  cases c with
  | create node => exact plays_of_page rfl (.inl (.created s node (idle node rfl)))
  | append id toBody =>
    refine plays_of_page rfl ?_
    simp only [execute]
    split
    · exact .inl (.appended s id toBody)
    · exact .inr rfl
  | insertAfter reference id =>
    refine plays_of_page rfl ?_
    simp only [execute]
    split
    · exact .inl (.inserted s reference id)
    · exact .inr rfl
  | remove id => exact plays_of_page rfl (.inl (.removed s id))
  | serve server => exact plays_of_page rfl (.inl (.served s server))
  | changeHost change => exact plays_of_page rfl (.inl (.hostChanged s change))
  | load i id => exact plays_load s i id
  | start i => exact plays_of_works rfl nofun (works_start i s)
  | refreshAll i => exact plays_of_works rfl nofun (works_refreshAll i s)
  | flush => exact plays_of_works rfl nofun (works_flush s)

theorem plays_executeAll (s : Session) {commands : List Command}
    (idle : ∀ node, .create node ∈ commands → node.isPending = false) :
    ∃ scenes, PlaysAll s commands scenes := by
  induction commands generalizing s with
  | nil => exact ⟨[], .nil s⟩
  | cons c commands ih =>
    obtain ⟨own, plays⟩ := plays_execute s fun node isCreate =>
      idle node (isCreate ▸ List.mem_cons_self)
    obtain ⟨rest, playsAll⟩ := ih (s.execute c).1 fun node member =>
      idle node (List.mem_cons_of_mem c member)
    exact ⟨own ++ rest, .cons plays playsAll⟩

end Session
end CondCss
