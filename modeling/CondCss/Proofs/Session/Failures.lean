import CondCss.Proofs.Render.Silence
import CondCss.Proofs.Tracking.Following

/-!
# Sessions on a platform that cannot answer

Whatever questions a platform cannot answer, a session goes on. A text is rendered as if the platform
had said no, or had no styles, and a node that is tracked is registered for the queries of that
rendering. Nodes are rendered again from their sources in the same way, one after the other
(`Redisplays`), when they are asked to and when the host changes.
-/

namespace CondCss

namespace Tracking

open Session (renderer)

variable {t t' t'' : Tracking} {i : Nat} {query : Text} {s : Subscriber}
  {first second : List Subscriber}

/-- The subscriber that was rendered, if an entry of the journal says so. -/
def rendered? : Entry → Option Subscriber
  | .rendered _ s => some s
  | _ => none

/-- Sets the text of a subscriber's node to what its source is rendered to, with a no or an empty style
    in place of every answer that the host cannot give. -/
def showSilenced (h : Host) (nodes : Nodes) (s : Subscriber) : Nodes :=
  nodes.modify s.node (·.setText (Render.textUnder h.silenced.truth s.options s.source))

/-- Between two states with the same host these subscribers were rendered, and nothing else happened to
    the nodes: each one got the text of its source by what the host answers. -/
structure Redisplays (t t' : Tracking) (subscribers : List Subscriber) : Prop where
  host : t'.platform.host = t.platform.host
  journal : ∃ new, t'.journal = t.journal ++ new ∧ new.filterMap rendered? = subscribers
  nodes : t'.nodes = subscribers.foldl (showSilenced t.platform.host) t.nodes

namespace Redisplays

theorem refl (t : Tracking) : Redisplays t t [] :=
  ⟨rfl, ⟨[], (List.append_nil _).symm, rfl⟩, rfl⟩

theorem trans (h : Redisplays t t' first) (h' : Redisplays t' t'' second) :
    Redisplays t t'' (first ++ second) := by
  obtain ⟨new, journal, rendered⟩ := h.journal
  obtain ⟨new', journal', rendered'⟩ := h'.journal
  refine ⟨h'.host.trans h.host, ⟨new ++ new', ?_, ?_⟩, ?_⟩
  · rw [journal', journal, List.append_assoc]
  · rw [List.filterMap_append, rendered, rendered']
  · rw [h'.nodes, h.nodes, h.host, List.foldl_append]

theorem of_quiet (host : t'.platform.host = t.platform.host) (quiet : Quiet t t')
    (nodes : t'.nodes = t.nodes) : Redisplays t t' [] := by
  obtain ⟨new, journal, isQuiet⟩ := quiet
  refine ⟨host, ⟨new, journal, List.filterMap_eq_nil_iff.2 fun e member => ?_⟩, nodes⟩
  cases e with
  | rendered j s => exact absurd rfl (isQuiet _ member j s)
  | _ => rfl

end Redisplays

/-- To render a subscriber again always gives a text, and this is the one by what the host answers. -/
theorem redisplays_refresh (t : Tracking) (i : Nat) (query : Text) (s : Subscriber) :
    Redisplays t (t.refresh renderer i query s).1 [s] := by
  refine ⟨(grows_refresh renderer t i query s).host, ?_, ?_⟩
  · obtain ⟨new, journal, quiet⟩ := (Redisplays.of_quiet (grows_absorb (t.write (.rendered i s)) i
      (some s) (s.rendering t.platform.host).effects).host (quiet_absorb ..) (nodes_absorb ..)).journal
    refine ⟨.rendered i s :: new, ?_, congrArg (s :: ·) quiet⟩
    rw [refresh_eq]
    exact journal.trans (List.append_assoc ..)
  · rw [nodes_refresh]
    exact congrArg (fun text => t.nodes.modify s.node (·.setText text)) (Render.render_text ..)

theorem redisplays_reprocess (t : Tracking) (i : Nat) (query : Text) :
    Redisplays t (t.reprocess renderer i query).1 ((t.registry i).subscribersOf query) := by
  rw [reprocess_fst]
  generalize (t.registry i).subscribersOf query = subscribers
  induction subscribers generalizing t with
  | nil => exact .refl t
  | cons s subscribers ih => exact (redisplays_refresh t i query s).trans (ih _)

theorem stable_redisplays (t₀ : Tracking) :
    Stable renderer fun t => ∃ subscribers, Redisplays t₀ t subscribers where
  write {t e} quiet h := by
    obtain ⟨subscribers, h⟩ := h
    exact ⟨_, h.trans (.of_quiet rfl (quiet_write quiet t) rfl)⟩
  refresh {t i query s} _ h := by
    obtain ⟨subscribers, h⟩ := h
    exact ⟨_, h.trans (redisplays_refresh t i query s)⟩

theorem exists_redisplays_changeHost (t : Tracking) (change : Host → Host) :
    ∃ subscribers, Redisplays { t with platform := t.platform.changeHost change }
      (t.changeHost renderer change) subscribers :=
  (stable_redisplays _).changeHost ⟨[], .refl _⟩

end Tracking

namespace Session

open Render (textUnder evaluated isUnreadable StandsAt Reaches place stage stageBefore maxPasses)

/-- Texts are rendered to the same whatever questions the platform cannot answer: to the text by the
    answers of one that says no and has no styles instead, and so to the text on a host that can answer
    everything and says no to the queries that are asked. A tracked node is registered for these queries.
    Every pass leaves a call as it is that it cannot read, and it stands in the result unless a later
    pass finds a call in its place that can be read; a declaration with such a call is kept whole for
    the passes. Nodes are rendered again in the same way, those of a query one after the other, and so
    are all those that react to a change of the host. -/
theorem processText_of_failing (s : Session) (i : Nat) (text : Text) (options : Option Options)
    (tracked : Option NodeId) :
    let h := s.platform.host
    let own := options.getD (s.engine i).options
    let done := s.processText i text options tracked
    let answering := h.answering (render h own text).queries
    (answering.failing = [] ∧ done.2 = textUnder h.silenced.truth own text ∧
      done.2 = (render answering own text).text) ∧
    (∀ node query, tracked = some node → i < s.registries.length →
      query ∈ (render answering own text).queries →
        ⟨node, text, own⟩ ∈ (done.1.registry i).subscribersOf query) ∧
    (∀ u, ∀ o ∈ Occurrence.allIn u, isUnreadable o.content = true →
      StandsAt o.fullText (stage h u) (stageBefore h u o.start).length) ∧
    (∀ o ∈ Occurrence.allIn (evaluated own text), isUnreadable o.content = true →
      (∀ m < maxPasses, 0 < m → ¬Reaches ((stage h)^[m] (evaluated own text))
        (place h (evaluated own text) o.start m) o.fullText.length) → o.fullText <:+: done.2) ∧
    (∀ selector property value, (∃ o ∈ Occurrence.allIn value, Expand.IsMalformed o) →
      (Expand.declaration selector property value).deferred =
        some (Expand.declarationRule selector property value)) ∧
    (∀ (later : Session) (j : Nat) (query : Text),
      later.toTracking.Redisplays (later.reprocess j query).1.toTracking
        ((later.registry j).subscribersOf query)) ∧
    ∀ (later : Session) (change : Host → Host), ∃ subscribers,
      Tracking.Redisplays { later.toTracking with platform := later.platform.changeHost change }
        (later.changeHost change).toTracking subscribers := by
  intro h own done answering
  have isText : done.2 = (render h own text).text := rfl
  obtain ⟨sameText, sameQueries⟩ := render_answering h own text
  refine ⟨⟨rfl, isText.trans (Render.render_text h own text), isText.trans sameText.symm⟩, ?_,
    fun u o member unreadable => Render.standsAt_stage (Render.standsAt_of_mem member)
      (Render.not_reaches_of_unreadable member unreadable),
    fun o member unreadable free => Render.isInfix_of_unreadable member unreadable free, ?_,
    fun later => later.toTracking.redisplays_reprocess,
    fun later => later.toTracking.exists_redisplays_changeHost⟩
  · rintro node query rfl inside asked
    rw [sameQueries] at asked
    exact Tracking.mem_subscribersOf_absorb.2 (.inr ⟨rfl, inside, rfl, asked⟩)
  · rintro selector property value ⟨o, member, malformed⟩
    exact (Expand.declaration_of_malformed member malformed).2

/-- A session on a platform that can answer nothing, with a style to track. -/
def unable : Session where
  platform := { host := { failing := [.matchMedia, .supports, .computedStyle] } }
  nodes := [{ body := .style [] }]
  registries := [{}]
  engines := [{}]

/-- A call that cannot be read, and others that ask for all that a host can tell. -/
def asksForAll : Text :=
  ("a\x7bb:if(c) if(media(screen): 1; else: if(supports(x): 2; else: 3)) " ++
    "if(style(--y): 4; true: 5)\x7d").toList

theorem processText_of_failing_unable :
    let done := unable.processText 0 asksForAll none (some 0)
    done.2 = "a \x7b b: if(c) 3 5; \x7d".toList ∧
      ⟨0, asksForAll, {}⟩ ∈ (done.1.registry 0).subscribersOf "screen".toList ∧
      "if(c)".toList <:+: done.2 := by
  intro done
  obtain ⟨⟨-, text, -⟩, tracked, -, kept, -⟩ :=
    processText_of_failing unable 0 asksForAll none (some 0)
  refine ⟨text.trans (by decide +kernel), tracked 0 _ rfl (by decide) (by decide +kernel), ?_⟩
  exact kept ⟨7, ['c']⟩ (by decide +kernel) (by decide +kernel) (by decide +kernel)

end Session
end CondCss
