import CondCss.Proofs.Tracking.Growth
import CondCss.Session

/-!
# The course of loads

While a server answers the request for a link, it may take nodes out of the document and start other
loads, also of the same link and by other engines. All of this happens one thing after the other. Here
the moments of a load are told apart: it marks its link, asks the server, and ends, with a text or
without one (`Step`). A course is a sequence of moments, with the loads whose requests are in flight.
Whatever the script of the server, a load is such a course, and what happens between its request and
its answer happens while it is in flight (`load_cases`).
-/

namespace CondCss

/-! ### Marks -/

namespace Assoc

variable {α β : Type} [BEq α] [LawfulBEq α]

theorem contains_insert (key key' : α) (value : β) (table : List (α × β)) :
    contains key (insert key' value table) = (key' == key || contains key table) := by
  induction table with
  | nil => simp [insert, contains]
  | cons e table ih =>
    obtain ⟨k, v⟩ := e
    unfold insert
    split
    · rename_i same
      obtain rfl := eq_of_beq same
      simp only [contains, List.any_cons]
      cases k == key <;> simp
    · simp only [contains, List.any_cons] at ih ⊢
      rw [ih]
      cases k == key <;> simp

theorem erase_insert {key : α} {table : List (α × β)} (absent : contains key table = false)
    (value : β) : erase key (insert key value table) = table := by
  induction table with
  | nil => simp [insert, erase]
  | cons e table ih =>
    obtain ⟨k, v⟩ := e
    obtain ⟨other, later⟩ := Bool.or_eq_false_iff.1 absent
    have kept := ih later
    simp only [insert, other, Bool.false_eq_true, if_false]
    simp only [erase, List.filter_cons, other, Bool.not_false, if_true] at kept ⊢
    rw [kept]

end Assoc

namespace Node

variable (n : Node) (key text : Text)

@[simp] theorem isStyle_mark : (n.mark key).isStyle = n.isStyle := rfl

@[simp] theorem link?_mark : (n.mark key).link? = n.link? := rfl

@[simp] theorem isProcessed_mark :
    (n.mark key).isProcessed = (key == processedKey || n.isProcessed) :=
  Assoc.contains_insert processedKey key markValue n.dataset

@[simp] theorem isPending_mark : (n.mark key).isPending = (key == pendingKey || n.isPending) :=
  Assoc.contains_insert pendingKey key markValue n.dataset

@[simp] theorem processedKey_beq_pendingKey : (processedKey == pendingKey) = false := by decide

@[simp] theorem pendingKey_beq_processedKey : (pendingKey == processedKey) = false := by decide

/-- A mark that is set and taken back leaves no trace. -/
theorem unmark_mark {n : Node} (idle : n.isPending = false) :
    (n.mark pendingKey).unmark pendingKey = n := by
  obtain ⟨body, dataset⟩ := n
  exact congrArg (Node.mk body) (Assoc.erase_insert idle markValue)

@[simp] theorem dataset_setText : (n.setText text).dataset = n.dataset := by
  unfold setText
  split <;> rfl

@[simp] theorem isStyle_setText : (n.setText text).isStyle = n.isStyle := by
  obtain ⟨body, dataset⟩ := n
  cases body <;> rfl

@[simp] theorem isPending_setText : (n.setText text).isPending = n.isPending :=
  congrArg (Assoc.contains pendingKey) (n.dataset_setText text)

theorem setText_of_link {n : Node} (isLink : n.isStyle = false) (text : Text) : n.setText text = n := by
  obtain ⟨body, dataset⟩ := n
  cases body with
  | style _ => cases isLink
  | link _ => rfl

@[simp] theorem dataset_disable : n.disable.dataset = n.dataset := by
  unfold disable
  split <;> rfl

@[simp] theorem isStyle_disable : n.disable.isStyle = n.isStyle := by
  obtain ⟨body, dataset⟩ := n
  cases body <;> rfl

@[simp] theorem isPending_disable : n.disable.isPending = n.isPending :=
  congrArg (Assoc.contains pendingKey) n.dataset_disable

@[simp] theorem isProcessed_disable : n.disable.isProcessed = n.isProcessed :=
  congrArg (Assoc.contains processedKey) n.dataset_disable

@[simp] theorem link?_disable : n.disable.link? = n.link?.map ({ · with disabled := true }) := by
  obtain ⟨body, dataset⟩ := n
  cases body <;> rfl

theorem isStyle_eq_false_of_link? {n : Node} {l : Link} (isLink : n.link? = some l) :
    n.isStyle = false := by
  obtain ⟨body, dataset⟩ := n
  cases body with
  | style text => cases isLink
  | link l => rfl

end Node

namespace Session

/-! ### Moments -/

/-- A load whose request is in flight. It began with a link that was neither processed nor being
    loaded. -/
structure Flight where
  /-- The link. -/
  link : NodeId
  /-- The node of the link, as it was when the load began. -/
  node : Node
  isLink : node.isStyle = false
  unprocessed : node.isProcessed = false
  idle : node.isPending = false
  deriving DecidableEq, Repr

/-- What happens in a session. -/
inductive Moment where
  /-- A link is marked, and its request goes out. -/
  | began (link : NodeId)
  /-- The server is asked, for the sake of a link. -/
  | requested (link : NodeId) (url : Text)
  /-- The server takes a node out of the document while it answers. -/
  | removed (node : NodeId)
  /-- The server is told how a load went that it started. -/
  | told
  /-- The request for a link comes to nothing. -/
  | dropped (link : NodeId)
  /-- The request for a link brings a text, which is put behind the link as a style if rendering
      changes it. -/
  | loaded (link : NodeId) (style : Option NodeId)
  /-- It is announced that a link is not loaded. -/
  | skipped (link : NodeId) (reason : String)
  /-- The page or the platform changes. -/
  | page
  /-- An engine does something else. -/
  | other
  deriving DecidableEq, Repr

/-- The moments of loads, with the loads in flight, those that began last first. -/
inductive Step : Moment → List Flight → Session → List Flight → Session → Prop where
  | began (f : Flight) (flights : List Flight) (s : Session) {document : Document Nat} {link : Link}
      {url : Url} (isDocument : s.document = some document) (found : s.nodes[f.link]? = some f.node)
      (isLink : f.node.link? = some link) (isSheet : link.isSheet = true)
      (own : address document link.href = .ok (url, true)) :
      Step (.began f.link) flights s (f :: flights)
        (s.modifyNode f.link (·.mark Node.pendingKey))
  | requested (f : Flight) (flights : List Flight) (s : Session) (url : Text) :
      Step (.requested f.link url) (f :: flights) s (f :: flights)
        (s.write (.requested url s.pending))
  | removed (f : Flight) (flights : List Flight) (s : Session) (id : NodeId) :
      Step (.removed id) (f :: flights) s (f :: flights) (s.modifyDocument (·.remove id))
  | told (f : Flight) (flights : List Flight) (s : Session) (result : Option NodeId)
      (present : List NodeId) :
      Step .told (f :: flights) s (f :: flights) (s.write (.nested result present))
  | dropped (f : Flight) (flights : List Flight) (s : Session) :
      Step (.dropped f.link) (f :: flights) s flights
        (s.modifyNode f.link (·.unmark Node.pendingKey))
  | loaded (f : Flight) (flights : List Flight) (s : Session) (i : Nat) (url : Url) (text : Text)
      (present : s.document.any (·.contains f.link) = true) :
      Step
        (.loaded f.link
          ((s.modifyNode f.link (·.unmark Node.pendingKey)).replaceLink i f.link url text).2)
        (f :: flights) s flights
        ((s.modifyNode f.link (·.unmark Node.pendingKey)).replaceLink i f.link url text).1
  | skipped (flights : List Flight) (s : Session) (i : Nat) (id : NodeId) (href : Text)
      (reason : String) : Step (.skipped id reason) flights s flights (s.skip i href reason)

/-- A moment, with the loads that are in flight then, and the states before and after it. -/
structure Scene where
  /-- What happens. -/
  moment : Moment
  /-- The loads in flight, those that began last first. -/
  inFlight : List Flight
  /-- The state before. -/
  before : Session
  /-- The state after. -/
  after : Session

/-- A sequence of scenes, each of which is a step from where the one before it ended. -/
inductive Course (step : Moment → List Flight → Session → List Flight → Session → Prop) :
    List Flight → Session → List Scene → List Flight → Session → Prop where
  | nil (flights : List Flight) (s : Session) : Course step flights s [] flights s
  | cons {m : Moment} {flights flights' flights'' : List Flight} {s s' s'' : Session}
      {scenes : List Scene} : step m flights s flights' s' →
      Course step flights' s' scenes flights'' s'' →
      Course step flights s (⟨m, flights, s, s'⟩ :: scenes) flights'' s''

variable {step step' : Moment → List Flight → Session → List Flight → Session → Prop}
  {flights flights' flights'' : List Flight} {s s' s'' : Session} {scenes scenes' : List Scene}

theorem Course.single {m : Moment} (h : step m flights s flights' s') :
    Course step flights s [⟨m, flights, s, s'⟩] flights' s' :=
  .cons h (.nil flights' s')

theorem Course.append (first : Course step flights s scenes flights' s')
    (second : Course step flights' s' scenes' flights'' s'') :
    Course step flights s (scenes ++ scenes') flights'' s'' := by
  induction first with
  | nil _ _ => exact second
  | cons h _ ih => exact .cons h (ih second)

theorem Course.mono (le : ∀ {m flights s flights' s'}, step m flights s flights' s' →
      step' m flights s flights' s') (h : Course step flights s scenes flights' s') :
    Course step' flights s scenes flights' s' := by
  induction h with
  | nil flights s => exact .nil flights s
  | cons h _ ih => exact .cons (le h) ih

/-- What every step keeps is kept by a course, and holds before each of its scenes. -/
theorem Course.invariant {I : List Flight → Session → Prop}
    (kept : ∀ {m flights s flights' s'}, step m flights s flights' s' → I flights s →
      I flights' s')
    (h : Course step flights s scenes flights' s') (inv : I flights s) :
    I flights' s' ∧ ∀ scene ∈ scenes, I scene.inFlight scene.before := by
  induction h with
  | nil flights s => exact ⟨inv, fun scene member => absurd member List.not_mem_nil⟩
  | cons h _ ih =>
    obtain ⟨last, each⟩ := ih (kept h inv)
    exact ⟨last, List.forall_mem_cons.2 ⟨inv, each⟩⟩

theorem Course.step_of_mem (h : Course step flights s scenes flights' s') {scene : Scene}
    (member : scene ∈ scenes) :
    ∃ flights', step scene.moment scene.inFlight scene.before flights' scene.after := by
  induction h with
  | nil => exact absurd member List.not_mem_nil
  | cons h _ ih =>
    rcases List.mem_cons.1 member with rfl | member
    · exact ⟨_, h⟩
    · exact ih member

/-! ### Loads as courses -/

/-- The state `s'` is reached from `s` by a course during which certain loads stay in flight. -/
def Above (flights : List Flight) (s s' : Session) : Prop :=
  ∃ scenes, Course Step flights s scenes flights s' ∧ ∀ scene ∈ scenes, flights <:+ scene.inFlight

theorem Above.refl (flights : List Flight) (s : Session) : Above flights s s :=
  ⟨[], .nil flights s, fun _ member => absurd member List.not_mem_nil⟩

theorem Above.trans (first : Above flights s s') (second : Above flights s' s'') :
    Above flights s s'' := by
  obtain ⟨scenes, course, above⟩ := first
  obtain ⟨scenes', course', above'⟩ := second
  refine ⟨scenes ++ scenes', course.append course', fun scene member => ?_⟩
  rcases List.mem_append.1 member with member | member
  · exact above scene member
  · exact above' scene member

theorem Above.single {m : Moment} (h : Step m flights s flights s') : Above flights s s' :=
  ⟨_, .single h, fun _ member => List.mem_singleton.1 member ▸ List.suffix_refl flights⟩

/-- A load that begins and ends, with what happens in between. -/
theorem Above.within {m m' : Moment} {f : Flight} {started answered : Session}
    (begins : Step m flights s (f :: flights) started) (between : Above (f :: flights) started answered)
    (ends : Step m' (f :: flights) answered flights s') : Above flights s s' := by
  obtain ⟨scenes, course, above⟩ := between
  refine ⟨_, (Course.cons begins course).append (.single ends), fun scene member => ?_⟩
  simp only [List.cons_append, List.mem_cons, List.mem_append, List.not_mem_nil, or_false] at member
  rcases member with rfl | member | rfl
  · exact List.suffix_refl flights
  · exact (List.suffix_cons f flights).trans (above scene member)
  · exact List.suffix_cons f flights

variable {load : Nat → NodeId → Session → Outcome (Option NodeId)}

theorem above_send (loads : ∀ flights i id s, Above flights s (load i id s).1) (f : Flight)
    (flights : List Flight) (url : Url) (s : Session) :
    Above (f :: flights) s (send load url s).1 := by
  have asked := Above.single (.requested f flights s url.print)
  unfold send
  simp only
  generalize s.write (.requested url.print s.pending) = s' at asked ⊢
  generalize (s'.server.lookup url.resource).getD notFound = route
  cases route.remove
  case' some id => replace asked := asked.trans (.single (.removed f flights s' id))
  all_goals
    simp only
    split
    · exact asked
    · rename_i i id _
      have nested := asked.trans (loads (f :: flights) i id _)
      split <;> rename_i result <;> rw [result] at nested
      · exact nested
      · exact nested.trans (.single (.told f flights _ _ _))

/-- A request leaves the state of its first exchange, or that of the request to which this one leads. -/
theorem fetch_fst (load : Nat → NodeId → Session → Outcome (Option NodeId)) (redirects : Nat)
    (url : Url) (s : Session) :
    (fetch load redirects url s).1 = (send load url s).1 ∨
    ∃ n next, redirects = n + 1 ∧
      (fetch load redirects url s).1 = (fetch load n next (send load url s).1).1 := by
  rw [fetch]
  generalize send load url s = sent
  obtain ⟨s', fault | failure | response⟩ := sent
  · exact .inl rfl
  · exact .inl rfl
  · simp only
    split
    · exact .inl rfl
    · split
      · exact .inl rfl
      · exact .inl rfl
      · split
        · cases redirects with
          | zero => exact .inl rfl
          | succ n => exact .inr ⟨n, _, rfl, rfl⟩
        · exact .inl rfl

theorem above_fetch (loads : ∀ flights i id s, Above flights s (load i id s).1) (f : Flight)
    (flights : List Flight) (redirects : Nat) (url : Url) (s : Session) :
    Above (f :: flights) s (fetch load redirects url s).1 := by
  induction redirects using Nat.strongRecOn generalizing url s with
  | _ redirects ih =>
    have sent := above_send loads f flights url s
    obtain last | ⟨n, next, rfl, goesOn⟩ := fetch_fst load redirects url s
    · rw [last]
      exact sent
    · rw [goesOn]
      exact sent.trans (ih n (Nat.lt_succ_self n) next _)

theorem above_download (loads : ∀ flights i id s, Above flights s (load i id s).1) (f : Flight)
    (flights : List Flight) (url : Url) (s : Session) :
    Above (f :: flights) s (download load url s).1 := by
  unfold download
  simp only
  split
  · exact .refl (f :: flights) s
  · have fetched := above_fetch loads f flights Http.maxRedirects (Http.requestTarget url) s
    split <;> rename_i result <;> rw [result] at fetched <;> exact fetched

/-- What a load of a link comes to. -/
inductive LoadCase (i : Nat) (flights : List Flight) (s : Session) :
    NodeId → Outcome (Option NodeId) → Prop where
  /-- There is nothing to load, or the link has no address. -/
  | idle (id : NodeId) (result : Except Fault (Option NodeId))
      (nothing : ∀ style, result ≠ .ok (some style)) : LoadCase i flights s id (s, result)
  /-- The link leads to another origin. -/
  | foreign (id : NodeId) (href : Text) :
      LoadCase i flights s id (s.skip i href "cross-origin", .ok none)
  /-- The request comes to nothing. If it failed, this is announced before the link is unmarked. -/
  | dropped {f : Flight} {answered : Session}
      (begins : Step (.began f.link) flights s (f :: flights)
        (s.modifyNode f.link (·.mark Node.pendingKey)))
      (between : Above (f :: flights) (s.modifyNode f.link (·.mark Node.pendingKey)) answered)
      (result : Except Fault (Option NodeId)) (nothing : ∀ style, result ≠ .ok (some style)) :
      LoadCase i flights s f.link (answered.modifyNode f.link (·.unmark Node.pendingKey), result)
  /-- The link has left the document, and this is announced. -/
  | skipped {f : Flight} {answered : Session}
      (begins : Step (.began f.link) flights s (f :: flights)
        (s.modifyNode f.link (·.mark Node.pendingKey)))
      (between : Above (f :: flights) (s.modifyNode f.link (·.mark Node.pendingKey)) answered)
      (href : Text) (reason : String) :
      LoadCase i flights s f.link
        ((answered.modifyNode f.link (·.unmark Node.pendingKey)).skip i href reason, .ok none)
  /-- The request brings a text. -/
  | loaded {f : Flight} {answered : Session}
      (begins : Step (.began f.link) flights s (f :: flights)
        (s.modifyNode f.link (·.mark Node.pendingKey)))
      (between : Above (f :: flights) (s.modifyNode f.link (·.mark Node.pendingKey)) answered)
      (present : answered.document.any (·.contains f.link) = true) (url : Url) (text : Text) :
      LoadCase i flights s f.link
        (((answered.modifyNode f.link (·.unmark Node.pendingKey)).replaceLink i f.link url text).1,
          .ok ((answered.modifyNode f.link
            (·.unmark Node.pendingKey)).replaceLink i f.link url text).2)

theorem LoadCase.above {i : Nat} {id : NodeId} {r : Outcome (Option NodeId)}
    (h : LoadCase i flights s id r) : Above flights s r.1 := by
  cases h with
  | idle => exact .refl flights s
  | foreign id href => exact .single (.skipped flights s i id href _)
  | @dropped f answered begins between result =>
    exact .within begins between (.dropped f flights answered)
  | @skipped f answered begins between href reason =>
    exact (Above.within begins between (.dropped f flights answered)).trans
      (.single (.skipped flights _ i f.link href reason))
  | @loaded f answered begins between present url text =>
    exact .within begins between (.loaded f flights answered i url text present)

/-- Every load is of one of these kinds, and so are the loads inside it. -/
theorem load_cases (depth i : Nat) (id : NodeId) (flights : List Flight) (s : Session) :
    LoadCase i flights s id (s.loadWithin depth i id) := by
  induction depth generalizing i id flights s with
  | zero => exact .idle id _ (by simp)
  | succ depth ih =>
    have loads (flights i id s) : Above flights s (loadWithin depth i id s).1 :=
      (ih i id flights s).above
    unfold loadWithin
    split
    · rename_i document node isDocument found
      split
      · exact .idle id _ (by simp)
      · rename_i link isLink
        split
        · exact .idle id _ (by simp)
        · rename_i guard
          simp only [Bool.or_eq_true, Bool.not_eq_true', not_or, Bool.not_eq_false,
            Bool.not_eq_true] at guard
          obtain ⟨⟨isSheet, unprocessed⟩, idle⟩ := guard
          split
          · exact .idle id _ (by simp)
          · exact .foreign id link.href
          · rename_i url own
            let f : Flight :=
              ⟨id, node, Node.isStyle_eq_false_of_link? isLink, unprocessed, idle⟩
            have begins := Step.began f flights s isDocument found isLink isSheet own
            have between := above_download loads f flights url
              (s.modifyNode id (·.mark Node.pendingKey))
            simp only
            split
            · exact .dropped begins between _ (by simp)
            · have told (reason : String) :=
                between.trans (.single (.skipped (f :: flights) _ i f.link link.href reason))
              exact .dropped begins (told _) _ (by simp)
            · split
              · rename_i present
                exact .loaded begins between present url _
              · exact .skipped begins between link.href _
    · exact .idle id _ (by simp)

theorem above_linkStep (i : Nat) (id : NodeId) (flights : List Flight) (s : Session) :
    Above flights s (s.linkStep i id).1 := by
  have loaded := (load_cases (s.nodes.length + 1) i id flights s).above
  unfold linkStep processLink
  split <;> rename_i result <;> rw [result] at loaded <;> exact loaded

end Session
end CondCss
