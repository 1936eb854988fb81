import CondCss.Proofs.Tracking.Reactions
import CondCss.Session

/-!
# Following the host

A subscriber is up to date when its node has the text that its source is rendered to now, and it is
subscribed to every media query that this rendering depends on. When the host changes, it stays up to
date (`UpToDate.changeHost`): if no answer to these queries changes, the rendering is the same; if one
changes, the listener to that query renders the subscriber again, and what is rendered after that
leaves it alone.
-/

namespace CondCss

/-- The rendering of a subscriber on a host. -/
def Subscriber.rendering (s : Subscriber) (h : Host) : Rendering :=
  render h s.options s.source

/-- If every step keeps an invariant and what is wanted, and the step for one element reaches it, all
    steps together reach it. -/
theorem foldl_reaches {σ α : Type} {step : σ → α → σ} (Inv Goal : σ → Prop) {l : List α} {a : α}
    (keeps : ∀ b ∈ l, ∀ s, Inv s → Inv (step s b))
    (stays : ∀ b ∈ l, ∀ s, Inv s → Goal s → Goal (step s b)) (member : a ∈ l)
    (reaches : ∀ s, Inv s → Goal (step s a)) {s : σ} (h : Inv s) : Goal (l.foldl step s) := by
  obtain ⟨before, after, rfl⟩ := List.append_of_mem member
  rw [List.foldl_append, List.foldl_cons]
  have first : Inv (before.foldl step s) :=
    List.foldlRecOn before step h fun s hs b hb =>
      keeps b (List.mem_append_left _ hb) s hs
  have here : Inv (step (before.foldl step s) a) := keeps a member _ first
  exact (List.foldlRecOn after step (motive := fun s => Inv s ∧ Goal s) ⟨here, reaches _ first⟩
    fun s hs b hb =>
      have inList := List.mem_append_right before (List.mem_cons_of_mem a hb)
      ⟨keeps b inList s hs.1, stays b inList s hs.1 hs.2⟩).2

namespace Tracking

open Session (renderer)

variable {t t' : Tracking} {i : Nat} {query : Text} {s own : Subscriber}

/-! ### Rendering a subscriber again -/

theorem modify_setText_self {nodes : Nodes} {n : NodeId} {text : Text}
    (h : nodes[n]?.bind Node.text? = some text) : nodes.modify n (·.setText text) = nodes := by
  obtain ⟨node, found, isText⟩ := Option.bind_eq_some_iff.1 h
  have same : node.setText text = node := by
    obtain ⟨body, dataset⟩ := node
    cases body with
    | style text' =>
      obtain rfl := Option.some.inj isText
      rfl
    | link l => cases isText
  refine List.ext_getElem? fun m => ?_
  by_cases here : n = m
  · subst here
    rw [List.getElem?_modify_eq, found]
    exact congrArg some same
  · rw [List.getElem?_modify_ne _ _ here]

/-- Carries out the effects of rendering a subscriber, and sets the text of its node. -/
def display (i : Nat) (s : Subscriber) (t : Tracking) : Tracking :=
  (t.absorb i (some s) (s.rendering t.platform.host).effects).modifyNode s.node
    (·.setText (s.rendering t.platform.host).text)

theorem grows_display (t : Tracking) (i : Nat) (s : Subscriber) : Grows t (t.display i s) :=
  (grows_absorb t i (some s) _).trans (.of_eq rfl rfl)

theorem nodes_display (t : Tracking) (i : Nat) (s : Subscriber) :
    (t.display i s).nodes =
      t.nodes.modify s.node (·.setText (s.rendering t.platform.host).text) := by
  unfold display modifyNode
  simp only [nodes_absorb]

theorem mem_subscribersOf_display {j : Nat} {query' : Text} {s' : Subscriber} :
    s' ∈ ((t.display i s).registry j).subscribersOf query' ↔
      s' ∈ (t.registry j).subscribersOf query' ∨
        (j = i ∧ i < t.registries.length ∧ s = s' ∧
          query' ∈ (s.rendering t.platform.host).queries) := by
  refine mem_subscribersOf_absorb.trans ?_
  rw [Option.some.injEq]
  rfl

/-- To render a subscriber again is to write that it is rendered, and to display it. -/
theorem refresh_eq (t : Tracking) (i : Nat) (query : Text) (s : Subscriber) :
    (t.refresh renderer i query s).1 = (t.write (.rendered i s)).display i s := by
  unfold refresh display
  simp only [renderer]
  split
  · rename_i same
    have unchanged := modify_setText_self (beq_iff_eq.1 same)
    unfold modifyNode
    exact congrArg (fun nodes => { Tracking.absorb i _ _ _ with nodes }) unchanged.symm
  · rfl

theorem nodes_refresh (t : Tracking) (i : Nat) (query : Text) (s : Subscriber) :
    (t.refresh renderer i query s).1.nodes =
      t.nodes.modify s.node (·.setText (s.rendering t.platform.host).text) := by
  rw [refresh_eq]
  exact nodes_display (t.write (.rendered i s)) i s

theorem mem_subscribersOf_refresh {j : Nat} {query' : Text} {s' : Subscriber} :
    s' ∈ ((t.refresh renderer i query s).1.registry j).subscribersOf query' ↔
      s' ∈ (t.registry j).subscribersOf query' ∨
        (j = i ∧ i < t.registries.length ∧ s = s' ∧
          query' ∈ (s.rendering t.platform.host).queries) := by
  rw [refresh_eq]
  exact mem_subscribersOf_display (t := t.write (.rendered i s))

/-! ### Subscribers that are up to date -/

/-- There is one registry, the platform can answer it, and all its subscribers are rendered with the
    same options. -/
structure Sound (options : Options) (t : Tracking) : Prop where
  able : t.platform.host.failing.contains .matchMedia = false
  listening : Listening t
  registries : t.registries.length = 1
  options : ∀ {i : Nat} {query : Text} {s : Subscriber},
    s ∈ (t.registry i).subscribersOf query → s.options = options

/-- A change that concerns neither the platform nor the registries keeps them sound. -/
theorem Sound.of_eq {options : Options} (h : Sound options t) (platform : t'.platform = t.platform)
    (registries : t'.registries = t.registries) : Sound options t' where
  able := platform ▸ h.able
  listening := h.listening.of_eq platform registries
  registries := registries ▸ h.registries
  options member := by
    unfold registry at member
    rw [registries] at member
    exact h.options member

theorem Sound.absorb {options : Options} {subscriber : Option Subscriber} (h : Sound options t)
    (isOptions : ∀ s, subscriber = some s → i < t.registries.length → s.options = options)
    (effects : List Effect) : Sound options (t.absorb i subscriber effects) where
  able := (grows_absorb t i subscriber effects).host ▸ h.able
  listening := h.listening.absorb h.able i subscriber effects
  registries := (grows_absorb t i subscriber effects).registries.trans h.registries
  options member := by
    rcases mem_subscribersOf_absorb.1 member with old | ⟨-, inside, isSubscriber, -⟩
    · exact h.options old
    · exact isOptions _ isSubscriber inside

theorem Sound.display {options : Options} (h : Sound options t) (isOptions : s.options = options) :
    Sound options (t.display i s) := by
  refine Sound.of_eq (h.absorb (fun s' isSome _ => ?_) (s.rendering t.platform.host).effects) rfl rfl
  obtain rfl := Option.some.inj isSome
  exact isOptions

theorem Sound.refresh {options : Options} (h : Sound options t) (isOptions : s.options = options) :
    Sound options (t.refresh renderer i query s).1 := by
  rw [refresh_eq]
  exact (h.of_eq rfl rfl : Sound options (t.write (.rendered i s))).display isOptions

theorem stable_sound (options : Options) : Stable renderer (Sound options) where
  write _ h := h.of_eq rfl rfl
  refresh member h := h.refresh (h.options member)

/-- A node that has no other subscriber than this one. -/
structure Attended (own : Subscriber) (t : Tracking) : Prop extends Sound own.options t where
  owned : ∀ {i : Nat} {query : Text} {s : Subscriber},
    s ∈ (t.registry i).subscribersOf query → s.node = own.node → s = own
  style : ∃ text, t.nodes[own.node]?.bind Node.text? = some text

theorem Attended.absorb {subscriber : Option Subscriber} (h : Attended own t)
    (isOptions : ∀ s, subscriber = some s → i < t.registries.length → s.options = own.options)
    (isOwn : ∀ s, subscriber = some s → s.node = own.node → s = own) (effects : List Effect) :
    Attended own (t.absorb i subscriber effects) where
  toSound := h.toSound.absorb isOptions effects
  owned member isNode := by
    rcases mem_subscribersOf_absorb.1 member with old | ⟨-, -, isSubscriber, -⟩
    · exact h.owned old isNode
    · exact isOwn _ isSubscriber isNode
  style := by
    rw [nodes_absorb]
    exact h.style

/-- The text of a node after a subscriber was displayed. -/
theorem text?_display_of_ne (other : s.node ≠ own.node) :
    (t.display i s).nodes[own.node]?.bind Node.text? = t.nodes[own.node]?.bind Node.text? := by
  rw [nodes_display, List.getElem?_modify_ne _ _ other]

theorem text?_display_own (style : ∃ text, t.nodes[own.node]?.bind Node.text? = some text) :
    (t.display i own).nodes[own.node]?.bind Node.text? =
      some (own.rendering t.platform.host).text := by
  obtain ⟨text, isText⟩ := style
  obtain ⟨node, found, isText⟩ := Option.bind_eq_some_iff.1 isText
  rw [nodes_display, List.getElem?_modify_eq, found]
  obtain ⟨body, dataset⟩ := node
  cases body with
  | style _ => rfl
  | link _ => cases isText

theorem text?_refresh_of_ne (other : s.node ≠ own.node) :
    (t.refresh renderer i query s).1.nodes[own.node]?.bind Node.text? =
      t.nodes[own.node]?.bind Node.text? := by
  rw [refresh_eq]
  exact text?_display_of_ne (t := t.write (.rendered i s)) other

theorem text?_refresh_own (style : ∃ text, t.nodes[own.node]?.bind Node.text? = some text) :
    (t.refresh renderer i query own).1.nodes[own.node]?.bind Node.text? =
      some (own.rendering t.platform.host).text := by
  rw [refresh_eq]
  exact text?_display_own (t := t.write (.rendered i own)) style

theorem stable_attended (own : Subscriber) : Stable renderer (Attended own) where
  write _ h := ⟨h.toSound.of_eq rfl rfl, h.owned, h.style⟩
  refresh {t i query s} member h := by
    refine ⟨h.toSound.refresh (h.options member), fun member' isOwn => ?_, ?_⟩
    · rcases mem_subscribersOf_refresh.1 member' with old | ⟨-, -, rfl, -⟩
      · exact h.owned old isOwn
      · exact h.owned member isOwn
    · by_cases same : s.node = own.node
      · obtain rfl := h.owned member same
        exact ⟨_, text?_refresh_own h.style⟩
      · rw [text?_refresh_of_ne same]
        exact h.style

/-- The node of a subscriber has the text that it is rendered to now, and the subscriber is known for
    every media query that this depends on. -/
structure UpToDate (own : Subscriber) (t : Tracking) : Prop where
  text : t.nodes[own.node]?.bind Node.text? = some (own.rendering t.platform.host).text
  subscribed : ∀ query ∈ (own.rendering t.platform.host).queries,
    ∃ i, own ∈ (t.registry i).subscribersOf query

/-- Displaying a subscriber brings it up to date. -/
theorem upToDate_display_own (style : ∃ text, t.nodes[own.node]?.bind Node.text? = some text)
    (inside : i < t.registries.length) : UpToDate own (t.display i own) := by
  have host := (grows_display t i own).host
  refine ⟨by rw [host]; exact text?_display_own style, fun query' asked => ⟨i, ?_⟩⟩
  rw [host] at asked
  exact mem_subscribersOf_display.2 (.inr ⟨rfl, inside, rfl, asked⟩)

/-- Displaying another subscriber leaves it up to date. -/
theorem UpToDate.display_of_ne (h : UpToDate own t) (other : s.node ≠ own.node) :
    UpToDate own (t.display i s) := by
  have grows := grows_display t i s
  refine ⟨by rw [grows.host, text?_display_of_ne other]; exact h.text, fun query' asked => ?_⟩
  rw [grows.host] at asked
  obtain ⟨j, subscribed⟩ := h.subscribed query' asked
  exact ⟨j, grows.subscribed subscribed⟩

theorem upToDate_refresh_own (style : ∃ text, t.nodes[own.node]?.bind Node.text? = some text)
    (inside : i < t.registries.length) : UpToDate own (t.refresh renderer i query own).1 := by
  rw [refresh_eq]
  exact upToDate_display_own (t := t.write (.rendered i own)) style inside

theorem UpToDate.refresh_of_ne (h : UpToDate own t) (other : s.node ≠ own.node) :
    UpToDate own (t.refresh renderer i query s).1 := by
  rw [refresh_eq]
  exact UpToDate.display_of_ne (t := t.write (.rendered i s)) ⟨h.text, h.subscribed⟩ other

theorem stable_upToDate (own : Subscriber) :
    Stable renderer fun t => Attended own t ∧ UpToDate own t where
  write quiet h := ⟨(stable_attended own).write quiet h.1, h.2.text, h.2.subscribed⟩
  refresh {t i query s} member h := by
    refine ⟨(stable_attended own).refresh member h.1, ?_⟩
    by_cases same : s.node = own.node
    · obtain rfl := h.1.owned member same
      exact upToDate_refresh_own h.1.style (lt_of_mem_subscribersOf member)
    · exact h.2.refresh_of_ne same

theorem upToDate_reprocess (h : Attended own t)
    (subscribed : own ∈ (t.registry i).subscribersOf query) :
    UpToDate own (t.reprocess renderer i query).1 := by
  rw [reprocess_fst]
  refine foldl_reaches (fun t' => Attended own t' ∧ Grows t t') (UpToDate own)
    (fun s member t' h' => ?_) (fun s member t' h' upToDate => ?_) subscribed (fun t' h' => ?_)
    ⟨h, .refl t⟩
  · exact (stable_attended own).refresh_of_grows member h'
  · exact ((stable_upToDate own).refresh_of_grows member ⟨⟨h'.1, upToDate⟩, h'.2⟩).1.2
  · exact upToDate_refresh_own h'.1.style (lt_of_mem_subscribersOf (h'.2.subscribed subscribed))

theorem upToDate_onChange (h : Attended own t)
    (subscribed : own ∈ (t.registry i).subscribersOf query) (q : QueryId) :
    UpToDate own (t.onChange renderer q (i, query)) :=
  upToDate_reprocess (((stable_attended own).at i query).announce h _ _) subscribed

/-- The turn of a live query whose answer is another one now brings a subscriber to it up to
    date. -/
theorem upToDate_turn (h : Attended own t) {q : QueryId} {was : Bool}
    (flipped : t.platform.isMatch q ≠ was) (heard : (i, query) ∈ t.platform.listenersOf q)
    (subscribed : own ∈ (t.registry i).subscribersOf query) :
    UpToDate own (if t.platform.isMatch q == was then t
      else (t.platform.listenersOf q).foldl (fun t listener => t.onChange renderer q listener) t) := by
  rw [if_neg (by simpa using flipped)]
  have stable := (stable_attended own).and (stable_grows t)
  refine foldl_reaches (fun t' => Attended own t' ∧ Grows t t') (UpToDate own)
    (fun key _ t' h' => stable.onChange h' q key) (fun key _ t' h' upToDate => ?_) heard
    (fun t' h' => upToDate_onChange h'.1 (h'.2.subscribed subscribed) q) ⟨h, .refl t⟩
  exact ((stable_upToDate own).onChange ⟨h'.1, upToDate⟩ q key).2

/-- The state just after a change of the host, before anyone is told. -/
theorem Sound.of_host {options : Options} (h : Sound options t) {change : Host → Host}
    (same : (change t.platform.host).failing = t.platform.host.failing) :
    Sound options { t with platform := t.platform.changeHost change } where
  able := by
    change (change t.platform.host).failing.contains _ = _
    rw [same]
    exact h.able
  listening := ⟨h.listening.live, h.listening.listened⟩
  registries := h.registries
  options := h.options

theorem Attended.of_host (h : Attended own t) {change : Host → Host}
    (same : (change t.platform.host).failing = t.platform.host.failing) :
    Attended own { t with platform := t.platform.changeHost change } :=
  ⟨h.toSound.of_host same, h.owned, h.style⟩

/-- A subscriber that is up to date stays so when the host changes, whatever of its answers to media
    queries the change concerns. -/
theorem UpToDate.changeHost (upToDate : UpToDate own t) (h : Attended own t) {change : Host → Host}
    (same : t.platform.host.AgreeBesidesMedia (change t.platform.host)) :
    Attended own (t.changeHost renderer change) ∧ UpToDate own (t.changeHost renderer change) := by
  have changed := h.of_host same.failing
  refine ⟨(stable_attended own).changeHost changed, ?_⟩
  by_cases agree : t.platform.host.AgreeOn (change t.platform.host)
    (own.rendering t.platform.host).queries
  · -- No answer changed: the rendering is the same, and every reaction keeps that.
    obtain ⟨sameText, sameQueries⟩ :
        (own.rendering (change t.platform.host)).text = (own.rendering t.platform.host).text ∧
          (own.rendering (change t.platform.host)).queries =
            (own.rendering t.platform.host).queries :=
      render_lockstep (same.agreeFor agree)
    have already : UpToDate own { t with platform := t.platform.changeHost change } := by
      refine ⟨?_, fun query asked => ?_⟩
      · exact upToDate.text.trans (congrArg some sameText.symm)
      · exact upToDate.subscribed query (sameQueries ▸ asked)
    exact ((stable_upToDate own).changeHost ⟨changed, already⟩).2
  · -- The turn of a query whose answer changed brings the subscriber up to date.
    simp only [Host.AgreeOn, Classical.not_forall] at agree
    obtain ⟨query, asked, flipped⟩ := agree
    obtain ⟨i, subscribed⟩ := upToDate.subscribed query asked
    obtain ⟨q, watched, heard, media⟩ := h.listening.exists_live subscribed
    have inSnapshot : (q, t.platform.isMatch q) ∈ t.platform.snapshot :=
      List.mem_map.2 ⟨q, watched, rfl⟩
    have stable := (stable_attended own).and
      (stable_grows { t with platform := t.platform.changeHost change })
    refine foldl_reaches
      (fun t' => Attended own t' ∧ Grows { t with platform := t.platform.changeHost change } t')
      (UpToDate own) (fun turn _ t' h' => stable.turn h' turn) (fun turn _ t' h' reached => ?_)
      inSnapshot (fun t' h' => ?_) ⟨changed, .refl _⟩
    · exact ((stable_upToDate own).turn ⟨h'.1, reached⟩ turn).2
    · obtain ⟨stillHeard, sameMedia⟩ := h'.2.heard heard
      refine upToDate_turn h'.1 ?_ stillHeard (h'.2.subscribed subscribed)
      have sameMedia : t'.platform.mediaOf q = t.platform.mediaOf q := sameMedia
      have host : t'.platform.host = change t.platform.host := h'.2.host
      rw [Platform.isMatch, Platform.isMatch, host, sameMedia, media]
      exact flipped

end Tracking
end CondCss
