import CondCss.Proofs.Session.Commands

/-!
# What engines are offered

A document is processed by handing its styles and links to an engine, one after the other, and so is a
batch of records. To tell what has been handed over, the same loops are run on a state that also keeps
a list of offers (`noting`). Without that list they are the loops of the session
(`processDocument_of_noting`, `deliver_of_noting`). And making the offers one after the other does all
that the loops do (`Hands`, `hands_document`, `handsAll_flush`).
-/

namespace CondCss

/-! ### Loops on larger states -/

section Loops

variable {α σ τ ε : Type} {p : τ → σ}

/-- A loop whose steps do the same on a part of the state as those of another loop. -/
theorem forEach_projects {step : α → σ → σ × Option ε} {step' : α → τ → τ × Option ε}
    (projects : ∀ a t, (p (step' a t).1, (step' a t).2) = step a (p t)) (l : List α) (t : τ) :
    (p (forEach step' l t).1, (forEach step' l t).2) = forEach step l (p t) := by
  induction l generalizing t with
  | nil => rfl
  | cons a l ih =>
    unfold forEach
    rw [← projects a t]
    obtain ⟨t', _ | e⟩ := step' a t
    · exact ih t'
    · rfl

theorem deliverFrom_projects {table : σ → Nodes} {onStyle onLink : NodeId → σ → σ × Option ε}
    {onStyle' onLink' : NodeId → τ → τ × Option ε}
    (styles : ∀ id t, (p (onStyle' id t).1, (onStyle' id t).2) = onStyle id (p t))
    (links : ∀ id t, (p (onLink' id t).1, (onLink' id t).2) = onLink id (p t))
    (seen batch : List NodeId) (t : τ) :
    (p (deliverFrom (table ∘ p) onStyle' onLink' seen batch t).1,
      (deliverFrom (table ∘ p) onStyle' onLink' seen batch t).2) =
    deliverFrom table onStyle onLink seen batch (p t) := by
  induction batch generalizing seen t with
  | nil => rfl
  | cons id batch ih =>
    unfold deliverFrom
    simp only [Function.comp]
    split
    · exact ih seen t
    · rename_i node _
      split
      · exact ih seen t
      · cases node.body with
        | style text =>
          simp only
          rw [← styles id t]
          obtain ⟨t', _ | e⟩ := onStyle' id t
          · exact ih _ t'
          · rfl
        | link l =>
          by_cases isSheet : l.isSheet = true
          · simp only [isSheet, if_true]
            rw [← links id t]
            obtain ⟨t', _ | e⟩ := onLink' id t
            · exact ih _ t'
            · rfl
          · simp only [isSheet]
            exact ih _ t

/-- A loop that gets to its end has got through each of its steps. -/
theorem forEach_split {step : α → σ → σ × Option ε} {front back : List α} {a : α} {s : σ}
    (done : (forEach step (front ++ a :: back) s).2 = none) :
    ∃ s', forEach step front s = (s', none) ∧ (step a s').2 = none ∧
      forEach step (front ++ a :: back) s = forEach step back (step a s').1 := by
  induction front generalizing s with
  | nil =>
    simp only [List.nil_append, forEach] at done ⊢
    split at done
    · rename_i result
      exact ⟨s, rfl, by rw [result], by rw [result]⟩
    · cases done
  | cons b front ih =>
    simp only [List.cons_append, forEach] at done ⊢
    split at done
    · exact ih done
    · cases done

end Loops

namespace Session

/-! ### Offers -/

/-- A node that is handed to an engine, and the state in which this happens. -/
structure Offer where
  /-- The node. -/
  node : NodeId
  /-- The state. -/
  state : Session

/-- A session, with the offers made so far. -/
abbrev Ledger := Session × List Offer

/-- A step for a node, put down as an offer. -/
def noting (step : NodeId → Session → Session × Option Fault) (id : NodeId) (l : Ledger) :
    Ledger × Option Fault :=
  (((step id l.1).1, l.2 ++ [⟨id, l.1⟩]), (step id l.1).2)

variable {step : NodeId → Session → Session × Option Fault}

theorem forEach_of_noting (step : NodeId → Session → Session × Option Fault) (ids : List NodeId)
    (l : Ledger) :
    ((forEach (noting step) ids l).1.1, (forEach (noting step) ids l).2) = forEach step ids l.1 :=
  forEach_projects (p := Prod.fst) (fun _ _ => rfl) ids l

theorem forEach_of_noting_snd (step : NodeId → Session → Session × Option Fault)
    (ids : List NodeId) (l : Ledger) :
    (forEach (noting step) ids l).2 = (forEach step ids l.1).2 :=
  congrArg Prod.snd (forEach_of_noting step ids l)

/-- A loop that gets to its end has made all offers. -/
theorem offers_forEach {ids : List NodeId} {l : Ledger} (done : (forEach step ids l.1).2 = none) :
    (forEach (noting step) ids l).1.2.map (·.node) = l.2.map (·.node) ++ ids := by
  induction ids generalizing l with
  | nil => exact (List.append_nil _).symm
  | cons id ids ih =>
    cases result : step id l.1 with
    | mk s e? =>
      cases e? with
      | some e =>
        rw [forEach, result] at done
        cases done
      | none =>
        rw [forEach, result] at done
        have first : forEach (noting step) (id :: ids) l =
            forEach (noting step) ids (s, l.2 ++ [⟨id, l.1⟩]) := by
          rw [forEach, noting, result]
        rw [first, ih done]
        simp

/-- What an engine does with a node that it is offered. -/
def handle (i : Nat) (id : NodeId) (node : Node) (s : Session) : Session × Option Fault :=
  if node.isStyle then s.styleStep i id else s.linkStep i id

theorem keeps_handle (i : Nat) (id : NodeId) (node : Node) (s : Session) :
    Keeps s (handle i id node s).1 := by
  unfold handle
  split
  · exact keeps_styleStep i id s
  · exact keeps_linkStep i id s

/-- What an engine does with a node of the table. -/
def handOver (i : Nat) (id : NodeId) (s : Session) : Session × Option Fault :=
  match s.nodes[id]? with
  | some node => handle i id node s
  | none => (s, none)

theorem handOver_of_found {i : Nat} {id : NodeId} {node : Node} {s : Session}
    (found : s.nodes[id]? = some node) : handOver i id s = handle i id node s := by
  rw [handOver, found]

theorem keeps_handOver (i : Nat) (id : NodeId) (s : Session) : Keeps s (handOver i id s).1 := by
  unfold handOver
  split
  · exact keeps_handle i id _ s
  · exact .refl s

/-- Making these offers to an engine, one after the other and up to the first at which it stops, leads
    from a state to a result. Each offer tells the state in which it is made. -/
inductive Hands (i : Nat) : List Offer → Session → Session × Option Fault → Prop where
  | nil (s : Session) : Hands i [] s (s, none)
  | cons {id : NodeId} {s : Session} {offers : List Offer} {result : Session × Option Fault}
      (done : (handOver i id s).2 = none) :
      Hands i offers (handOver i id s).1 result → Hands i (⟨id, s⟩ :: offers) s result
  | stop {id : NodeId} {s : Session} {fault : Fault} (stops : (handOver i id s).2 = some fault) :
      Hands i [⟨id, s⟩] s ((handOver i id s).1, some fault)

theorem Hands.append {i : Nat} {front back : List Offer} {s s' : Session}
    {first result : Session × Option Fault} (h : Hands i front s first) (isFirst : first = (s', none))
    (hback : Hands i back s' result) : Hands i (front ++ back) s result := by
  induction h with
  | nil s =>
    cases isFirst
    exact hback
  | cons done _ ih => exact .cons done (ih isFirst)
  | stop stops => cases isFirst

/-- A loop over nodes with which the engine does what the loop does makes the offers that it puts
    down. -/
theorem hands_forEach {i : Nat} {ids : List NodeId} {l : Ledger}
    (same : ∀ s, Keeps l.1 s → ∀ id ∈ ids, handOver i id s = step id s) :
    ∃ offers, (forEach (noting step) ids l).1.2 = l.2 ++ offers ∧
      Hands i offers l.1 ((forEach (noting step) ids l).1.1, (forEach (noting step) ids l).2) := by
  induction ids generalizing l with
  | nil => exact ⟨[], (List.append_nil _).symm, .nil l.1⟩
  | cons id ids ih =>
    have here : handOver i id l.1 = step id l.1 := same l.1 (.refl l.1) id List.mem_cons_self
    have kept := keeps_handOver i id l.1
    rw [forEach, noting]
    cases result : (step id l.1).2 with
    | none =>
      obtain ⟨offers, ledger, hands⟩ := ih (l := ((step id l.1).1, l.2 ++ [⟨id, l.1⟩]))
        fun s reached id' member => same s (kept.trans (here ▸ reached)) id'
          (List.mem_cons_of_mem id member)
      refine ⟨⟨id, l.1⟩ :: offers, by rw [ledger, List.append_assoc]; rfl,
        .cons (by rw [here, result]) ?_⟩
      rw [here]
      exact hands
    | some fault =>
      have stop : Hands i [⟨id, l.1⟩] l.1 ((handOver i id l.1).1, some fault) :=
        .stop (by rw [here, result])
      rw [here] at stop
      exact ⟨[⟨id, l.1⟩], rfl, stop⟩

/-! ### Documents -/

/-- The styles of a document that have not been processed. -/
def unprocessedStyles (document : Document Nat) (s : Session) : List NodeId :=
  (document.styles s.nodes).filter fun id => s.nodes[id]?.any (!·.isProcessed)

/-- The links of the document, if there is one. -/
def currentLinks (s : Session) : List NodeId :=
  (s.document.map (·.links s.nodes)).getD []

/-- The state in which an engine turns to the styles of a document. -/
def beforeStyles (i : Nat) (document : Document Nat) (s : Session) : Session :=
  s.debug i s!"Found {(unprocessedStyles document s).length} unprocessed style elements"

/-- The state in which an engine turns from the styles of a document to its links. -/
def afterStyles (i : Nat) (document : Document Nat) (s : Session) : Session :=
  (forEach (styleStep i) (unprocessedStyles document s) (beforeStyles i document s)).1

theorem processDocument_eq (i : Nat) (document : Document Nat) (s : Session) :
    s.processDocument i document =
      forEach (linkStep i) (afterStyles i document s).currentLinks (afterStyles i document s) :=
  rfl

/-- Processes the styles of a document and puts the offers down. -/
def offerStyles (i : Nat) (document : Document Nat) (s : Session) : Ledger :=
  (forEach (noting (styleStep i)) (unprocessedStyles document s) (beforeStyles i document s, [])).1

/-- Processes a document and puts the offers down. -/
def offerDocument (i : Nat) (document : Document Nat) (s : Session) : Ledger × Option Fault :=
  forEach (noting (linkStep i)) (afterStyles i document s).currentLinks (offerStyles i document s)

variable (i : Nat) (document : Document Nat) (s : Session)

theorem offerStyles_fst : (offerStyles i document s).1 = afterStyles i document s :=
  congrArg Prod.fst (forEach_of_noting (styleStep i) _ _)

theorem processDocument_of_noting :
    ((offerDocument i document s).1.1, (offerDocument i document s).2) =
      s.processDocument i document := by
  rw [processDocument_eq, ← offerStyles_fst, offerDocument, ← offerStyles_fst]
  exact forEach_of_noting (linkStep i) _ _

theorem forEach_styleStep_snd (ids : List NodeId) : (forEach (styleStep i) ids s).2 = none := by
  induction ids generalizing s with
  | nil => rfl
  | cons id ids ih => exact ih _

theorem offers_styles :
    (offerStyles i document s).2.map (·.node) = unprocessedStyles document s := by
  rw [offerStyles, offers_forEach (forEach_styleStep_snd i _ _)]
  rfl

variable {i : Nat} {document : Document Nat} {s : Session}

/-- If nothing fails, all styles that have not been processed and all links are offered. -/
theorem offers_document (done : (s.processDocument i document).2 = none) :
    (offerDocument i document s).1.2.map (·.node) =
      unprocessedStyles document s ++ (afterStyles i document s).currentLinks := by
  rw [processDocument_eq, ← offerStyles_fst] at done
  rw [offerDocument, ← offerStyles_fst, offers_forEach done, offers_styles]

theorem keeps_afterStyles (i : Nat) (document : Document Nat) (s : Session) :
    Keeps s (afterStyles i document s) :=
  (keeps_debug s i _).trans (keeps_forEach (keeps_styleStep i) _ _)

/-- A node stays a style, or a link, while an engine works. -/
theorem handOver_of_kept {id : NodeId} {s s' : Session} (h : Keeps s s') {node : Node}
    (found : s.nodes[id]? = some node) :
    handOver i id s' = if node.isStyle then s'.styleStep i id else s'.linkStep i id := by
  obtain ⟨node', found', persists⟩ := h.nodes.node found
  rw [handOver_of_found found', handle, persists.isStyle]

/-- To process a document is to hand over what is offered. -/
theorem hands_document (i : Nat) (document : Document Nat) (s : Session) :
    Hands i (offerDocument i document s).1.2 (beforeStyles i document s)
      (s.processDocument i document) := by
  have styles : ∀ s', Keeps (beforeStyles i document s) s' → ∀ id ∈ unprocessedStyles document s,
      handOver i id s' = s'.styleStep i id := by
    intro s' kept id member
    obtain ⟨node, found, isStyle⟩ := (Option.any_eq_true _ _).1
      (List.mem_filter.1 (List.mem_filter.1 member).1).2
    rw [handOver_of_kept ((keeps_debug s i _).trans kept) found, if_pos isStyle]
  have links : ∀ s', Keeps (afterStyles i document s) s' →
      ∀ id ∈ (afterStyles i document s).currentLinks, handOver i id s' = s'.linkStep i id := by
    intro s' kept id member
    obtain ⟨node, found, isLink⟩ : ∃ node, (afterStyles i document s).nodes[id]? = some node ∧
        node.isStyle = false := by
      unfold currentLinks at member
      cases isDocument : (afterStyles i document s).document with
      | none =>
        rw [isDocument] at member
        exact absurd member List.not_mem_nil
      | some d =>
        rw [isDocument] at member
        obtain ⟨node, found, isLink⟩ := (Option.any_eq_true _ _).1 (List.mem_filter.1 member).2
        exact ⟨node, found, by simpa using isLink⟩
    rw [handOver_of_kept kept found, isLink]
    rfl
  obtain ⟨front, ledger, hands⟩ := hands_forEach (l := (beforeStyles i document s, [])) styles
  rw [← offerStyles, List.nil_append] at ledger
  rw [← offerStyles, offerStyles_fst, forEach_of_noting_snd, forEach_styleStep_snd] at hands
  obtain ⟨back, ledger', hands'⟩ := hands_forEach (l := offerStyles i document s)
    (by rw [offerStyles_fst]; exact links)
  rw [← offerDocument, offerStyles_fst, processDocument_of_noting] at hands'
  rw [← offerDocument] at ledger'
  rw [ledger', ledger]
  exact hands.append rfl hands'

/-- If nothing fails, what is in the document then has been offered or is processed. -/
theorem covered_document (isDocument : s.document = some document)
    (known : ∀ id ∈ document.nodes, id < s.nodes.length)
    (done : (s.processDocument i document).2 = none) {after : Document Nat}
    (isAfter : (s.processDocument i document).1.document = some after) {id : NodeId}
    (member : id ∈ after.nodes) {node : Node}
    (found : (s.processDocument i document).1.nodes[id]? = some node) :
    node.isProcessed = true ∨ id ∈ (offerDocument i document s).1.2.map (·.node) := by
  rw [offers_document done, List.mem_append]
  have styled := keeps_afterStyles i document s
  have linked := keeps_forEach (keeps_linkStep i) (afterStyles i document s).currentLinks
    (afterStyles i document s)
  rw [← processDocument_eq] at linked
  obtain ⟨middle, isMiddle, toMiddle⟩ := styled.document isDocument
  obtain ⟨after', isAfter', toAfter⟩ := linked.document isMiddle
  obtain rfl := Option.some.inj (isAfter.symm.trans isAfter')
  have stays {node₁ : Node} (found₁ : (afterStyles i document s).nodes[id]? = some node₁)
      (processed : node₁.isProcessed = true) : node.isProcessed = true := by
    obtain ⟨node', found', persists⟩ := linked.nodes.node found₁
    obtain rfl := Option.some.inj (found.symm.trans found')
    exact persists.processed processed
  rcases toAfter.nodes id member with member | ⟨-, -, node', found', processed⟩
  · rcases toMiddle.nodes id member with old | ⟨-, -, node', found', processed⟩
    · obtain ⟨node₀, found₀⟩ : ∃ node₀, s.nodes[id]? = some node₀ :=
        ⟨_, List.getElem?_eq_getElem (known id old)⟩
      obtain ⟨node₁, found₁, persists⟩ := styled.nodes.node found₀
      cases isStyle : node₀.isStyle with
      | true =>
        cases isProcessed : node₀.isProcessed with
        | true => exact .inl (stays found₁ (persists.processed isProcessed))
        | false =>
          refine .inr (.inl (List.mem_filter.2 ⟨List.mem_filter.2 ⟨old, ?_⟩, ?_⟩))
          · rw [found₀]
            exact isStyle
          · rw [found₀, Option.any_some, isProcessed]
            rfl
      | false =>
        refine .inr (.inr ?_)
        rw [currentLinks, isMiddle]
        refine List.mem_filter.2 ⟨member, ?_⟩
        rw [found₁, Option.any_some, persists.isStyle, isStyle]
        rfl
    · exact .inl (stays found' processed)
  · obtain rfl := Option.some.inj (found.symm.trans found')
    exact .inl processed

/-! ### Batches -/

/-- Hands the nodes of a batch over like `deliverFrom`, and puts the offers down. -/
def offerFrom (i : Nat) (seen batch : List NodeId) (l : Ledger) : Ledger × Option Fault :=
  deliverFrom (·.1.nodes) (noting (styleStep i)) (noting (linkStep i)) seen batch l

theorem deliver_of_noting (i : Nat) (seen batch : List NodeId) (l : Ledger) :
    ((offerFrom i seen batch l).1.1, (offerFrom i seen batch l).2) =
      deliverFrom (·.nodes) (styleStep i) (linkStep i) seen batch l.1 :=
  @deliverFrom_projects _ _ _ Prod.fst (fun s : Session => s.nodes) (styleStep i) (linkStep i)
    (noting (styleStep i)) (noting (linkStep i)) (fun _ _ => rfl) (fun _ _ => rfl) seen batch l

theorem keeps_offerFrom (i : Nat) (seen batch : List NodeId) (l : Ledger) :
    Keeps l.1 (offerFrom i seen batch l).1.1 := by
  have kept := keeps_deliverFrom i seen batch l.1
  rwa [← deliver_of_noting] at kept

/-- What becomes of the first node of a batch: it is passed over, or it is offered if it is a style
    sheet. -/
theorem offerFrom_cases (i : Nat) (seen : List NodeId) (id : NodeId) (batch : List NodeId) (l : Ledger) :
    ((∀ node, l.1.nodes[id]? = some node → id ∈ seen ∨ node.isProcessed = true) ∧
      offerFrom i seen (id :: batch) l = offerFrom i seen batch l) ∨
    ∃ node, l.1.nodes[id]? = some node ∧ id ∉ seen ∧ node.isProcessed = false ∧
      (node.isSheet = false ∧ offerFrom i seen (id :: batch) l = offerFrom i (id :: seen) batch l ∨
        node.isSheet = true ∧ ((handle i id node l.1).2 = none ∧
            offerFrom i seen (id :: batch) l =
              offerFrom i (id :: seen) batch ((handle i id node l.1).1, l.2 ++ [⟨id, l.1⟩]) ∨
          ∃ fault, (handle i id node l.1).2 = some fault ∧
            offerFrom i seen (id :: batch) l =
              (((handle i id node l.1).1, l.2 ++ [⟨id, l.1⟩]), some fault))) := by
  unfold offerFrom
  rw [deliverFrom]
  split
  · rename_i absent
    exact .inl ⟨fun node found => absurd (absent.symm.trans found) (by simp), rfl⟩
  · rename_i node found
    split
    · rename_i guard
      refine .inl ⟨fun node' found' => ?_, rfl⟩
      obtain rfl := Option.some.inj (found.symm.trans found')
      simpa using guard
    · rename_i guard
      simp only [Bool.or_eq_true, List.contains_iff_mem, not_or, Bool.not_eq_true] at guard
      refine .inr ⟨node, found, guard.1, guard.2, ?_⟩
      obtain ⟨body, dataset⟩ := node
      cases body with
      | style text => exact .inr ⟨rfl, .inl ⟨rfl, rfl⟩⟩
      | link link =>
        by_cases isSheet : link.isSheet = true
        · refine .inr ⟨isSheet, ?_⟩
          have isLink : handle i id ⟨.link link, dataset⟩ l.1 = l.1.linkStep i id := rfl
          simp only [isSheet, if_true, noting, isLink]
          cases (l.1.linkStep i id).2 with
          | none => exact .inl ⟨rfl, rfl⟩
          | some fault => exact .inr ⟨fault, rfl, rfl⟩
        · refine .inl ⟨Bool.eq_false_iff.2 isSheet, ?_⟩
          simp only [isSheet]
          rfl

/-- The nodes of a batch that are offered are offered once, and were not processed then. -/
theorem offers_batch (i : Nat) (seen batch : List NodeId) (l : Ledger) :
    ∃ offers, (offerFrom i seen batch l).1.2 = l.2 ++ offers ∧ (offers.map (·.node)).Nodup ∧
      ∀ o ∈ offers, o.node ∉ seen ∧ o.node ∈ batch ∧
        o.state.nodes[o.node]?.any (!·.isProcessed) = true := by
  induction batch generalizing seen l with
  | nil =>
    exact ⟨[], (List.append_nil _).symm, List.nodup_nil, nofun⟩
  | cons id batch ih =>
    have wider {offers : List Offer} {seen' : List NodeId} (sub : ∀ n ∈ seen, n ∈ seen')
        (each : ∀ o ∈ offers, o.node ∉ seen' ∧ o.node ∈ batch ∧
          o.state.nodes[o.node]?.any (!·.isProcessed) = true) :
        ∀ o ∈ offers, o.node ∉ seen ∧ o.node ∈ id :: batch ∧
          o.state.nodes[o.node]?.any (!·.isProcessed) = true := by
      intro o member
      obtain ⟨unseen, inBatch, unprocessed⟩ := each o member
      exact ⟨fun isSeen => unseen (sub _ isSeen), List.mem_cons_of_mem id inBatch, unprocessed⟩
    rcases offerFrom_cases i seen id batch l with ⟨-, passed⟩ |
      ⟨node, found, unseen, unprocessed, ⟨-, passed⟩ | ⟨-, next⟩⟩
    · obtain ⟨offers, ledger, once, each⟩ := ih seen l
      rw [passed]
      exact ⟨offers, ledger, once, wider (fun _ h => h) each⟩
    · obtain ⟨offers, ledger, once, each⟩ := ih (id :: seen) l
      rw [passed]
      exact ⟨offers, ledger, once, wider (fun _ h => List.mem_cons_of_mem id h) each⟩
    · have first : id ∉ seen ∧ id ∈ id :: batch ∧ l.1.nodes[id]?.any (!·.isProcessed) = true := by
        refine ⟨unseen, List.mem_cons_self, ?_⟩
        rw [found, Option.any_some, unprocessed]
        rfl
      rcases next with ⟨-, next⟩ | ⟨fault, -, stopped⟩
      · obtain ⟨offers, ledger, once, each⟩ :=
          ih (id :: seen) ((handle i id node l.1).1, l.2 ++ [⟨id, l.1⟩])
        refine ⟨⟨id, l.1⟩ :: offers, ?_, List.nodup_cons.2 ⟨fun again => ?_, once⟩,
          List.forall_mem_cons.2 ⟨first, wider (fun _ h => List.mem_cons_of_mem id h) each⟩⟩
        · rw [next, ledger, List.append_assoc]
          rfl
        · obtain ⟨o, member, same⟩ := List.mem_map.1 again
          exact (each o member).1 (same ▸ List.mem_cons_self)
      · refine ⟨[⟨id, l.1⟩], by rw [stopped], List.pairwise_singleton _ _, ?_⟩
        exact List.forall_mem_singleton.2 first

/-- To deliver a batch is to hand over what is offered. -/
theorem hands_batch (i : Nat) (seen batch : List NodeId) (l : Ledger) :
    ∃ offers, (offerFrom i seen batch l).1.2 = l.2 ++ offers ∧
      Hands i offers l.1 ((offerFrom i seen batch l).1.1, (offerFrom i seen batch l).2) := by
  induction batch generalizing seen l with
  | nil => exact ⟨[], (List.append_nil _).symm, .nil l.1⟩
  | cons id batch ih =>
    rcases offerFrom_cases i seen id batch l with ⟨-, passed⟩ |
      ⟨node, found, -, -, ⟨-, passed⟩ | ⟨-, ⟨done, next⟩ | ⟨fault, stops, stopped⟩⟩⟩
    · rw [passed]
      exact ih seen l
    · rw [passed]
      exact ih (id :: seen) l
    · rw [← handOver_of_found found] at done next
      obtain ⟨offers, ledger, hands⟩ := ih (id :: seen) ((handOver i id l.1).1, l.2 ++ [⟨id, l.1⟩])
      rw [next]
      exact ⟨⟨id, l.1⟩ :: offers, by rw [ledger, List.append_assoc]; rfl, .cons done hands⟩
    · rw [← handOver_of_found found] at stops stopped
      rw [stopped]
      exact ⟨[⟨id, l.1⟩], rfl, .stop stops⟩

/-- If nothing fails, every style sheet of a batch has been offered or is processed then. -/
theorem covered_batch {i : Nat} {seen batch : List NodeId} {l : Ledger}
    (isSeen : ∀ n ∈ seen, n ∈ l.2.map (·.node) ∨
      ∃ node, l.1.nodes[n]? = some node ∧ node.isSheet = false)
    (known : ∀ n ∈ batch, n < l.1.nodes.length) (done : (offerFrom i seen batch l).2 = none)
    {n : NodeId} (member : n ∈ batch) {node : Node}
    (found : (offerFrom i seen batch l).1.1.nodes[n]? = some node) (isSheet : node.isSheet = true) :
    node.isProcessed = true ∨ n ∈ (offerFrom i seen batch l).1.2.map (·.node) := by
  -- The nodes that have been seen are those that were offered, and links to something else.
  induction batch generalizing seen l with
  | nil => exact absurd member List.not_mem_nil
  | cons id batch ih =>
    obtain ⟨here, later⟩ := List.forall_mem_cons.1 known
    obtain ⟨node₀, found₀⟩ : ∃ node₀, l.1.nodes[id]? = some node₀ :=
      ⟨_, List.getElem?_eq_getElem here⟩
    have stays {l' : Ledger} {seen' : List NodeId} {o : NodeId} (offered : o ∈ l'.2.map (·.node)) :
        o ∈ (offerFrom i seen' batch l').1.2.map (·.node) := by
      obtain ⟨offers, ledger, -⟩ := offers_batch i seen' batch l'
      rw [ledger, List.map_append]
      exact List.mem_append_left _ offered
    rcases offerFrom_cases i seen id batch l with ⟨why, passed⟩ |
      ⟨node₁, found₁, -, unprocessed, ⟨notSheet, passed⟩ | ⟨-, ⟨-, next⟩ | ⟨fault, -, stopped⟩⟩⟩
    · rw [passed] at done found ⊢
      rcases List.mem_cons.1 member with rfl | member
      · obtain ⟨node', found', persists⟩ := (keeps_offerFrom i seen batch l).nodes.node found₀
        obtain rfl := Option.some.inj (found.symm.trans found')
        rcases why node₀ found₀ with seen | processed
        · rcases isSeen n seen with offered | ⟨node₁, found₁, notSheet⟩
          · exact .inr (stays offered)
          · obtain rfl := Option.some.inj (found₀.symm.trans found₁)
            rw [persists.isSheet, notSheet] at isSheet
            cases isSheet
        · exact .inl (persists.processed processed)
      · exact ih isSeen later done member found
    · rw [passed] at done found ⊢
      rcases List.mem_cons.1 member with rfl | member
      · obtain ⟨node', found', persists⟩ := (keeps_offerFrom i (n :: seen) batch l).nodes.node found₁
        obtain rfl := Option.some.inj (found.symm.trans found')
        rw [persists.isSheet, notSheet] at isSheet
        cases isSheet
      · exact ih (List.forall_mem_cons.2 ⟨.inr ⟨node₁, found₁, notSheet⟩, isSeen⟩) later done member
          found
    · rw [next] at done found ⊢
      have kept := keeps_handle i id node₁ l.1
      have offered : id ∈ (((handle i id node₁ l.1).1, l.2 ++ [⟨id, l.1⟩]) : Ledger).2.map (·.node) := by
        simp
      rcases List.mem_cons.1 member with rfl | member
      · exact .inr (stays offered)
      · refine ih (List.forall_mem_cons.2 ⟨.inl offered, fun n seen => ?_⟩)
          (fun n member => Nat.lt_of_lt_of_le (later n member) kept.nodes.length) done member found
        rcases isSeen n seen with offered | ⟨node₂, found₂, notSheet⟩
        · refine .inl ?_
          rw [List.map_append]
          exact List.mem_append_left _ offered
        · obtain ⟨node', found', persists⟩ := kept.nodes.node found₂
          exact .inr ⟨node', found', persists.isSheet.trans notSheet⟩
    · rw [stopped] at done
      cases done

/-! ### Flushes -/

/-- A round in which nodes are offered to an engine. -/
structure Round where
  /-- The engine. -/
  engine : Nat
  /-- The batch that it is told of, if the round is for one. -/
  batch : Option (List Record)
  /-- The offers, in order. -/
  offers : List Offer

/-- Tells an engine of a batch and puts the round down. -/
def telling (batch : List Record) (i : Nat) (w : Session × List Round) :
    (Session × List Round) × Option Fault :=
  (((offerFrom i [] batch.flatten (w.1, [])).1.1,
    w.2 ++ [⟨i, some batch, (offerFrom i [] batch.flatten (w.1, [])).1.2⟩]),
    (offerFrom i [] batch.flatten (w.1, [])).2)

/-- Flushes the document and puts the rounds down. -/
def offerFlush (d : Document Nat) (s : Session) : (Session × List Round) × Option Fault :=
  forEach (telling d.queue) (audience d) (s.taken d, [])

/-- Making the offers of these rounds, one round after the other and up to the first at which an engine
    stops, leads from a state to a result. -/
inductive HandsAll : List Round → Session → Session × Option Fault → Prop where
  | nil (s : Session) : HandsAll [] s (s, none)
  | cons {r : Round} {rounds : List Round} {s s' : Session} {result : Session × Option Fault} :
      Hands r.engine r.offers s (s', none) → HandsAll rounds s' result →
      HandsAll (r :: rounds) s result
  | stop {r : Round} {s s' : Session} {fault : Fault} :
      Hands r.engine r.offers s (s', some fault) → HandsAll [r] s (s', some fault)

theorem HandsAll.single {r : Round} {s : Session} {result : Session × Option Fault}
    (h : Hands r.engine r.offers s result) : HandsAll [r] s result := by
  obtain ⟨s', _ | fault⟩ := result
  · exact .cons h (.nil s')
  · exact .stop h

variable {d : Document Nat} {s : Session}

theorem flush_of_telling (isDocument : s.document = some d) :
    s.flush = ((offerFlush d s).1.1, match (offerFlush d s).2 with
      | some fault => .error fault
      | none => .ok d.queue.length) := by
  have erased : forEach (fun i => deliver (·.nodes) (styleStep i) (linkStep i) d.queue) (audience d)
      (s.taken d) = ((offerFlush d s).1.1, (offerFlush d s).2) :=
    (@forEach_projects Nat Session (Session × List Round) Fault Prod.fst _ (telling d.queue)
      (fun i w => deliver_of_noting i [] d.queue.flatten (w.1, [])) (audience d) (s.taken d, [])).symm
  rw [flush_eq isDocument, erased]
  cases (offerFlush d s).2 <;> rfl

theorem flush_fst (isDocument : s.document = some d) : s.flush.1 = (offerFlush d s).1.1 :=
  congrArg Prod.fst (flush_of_telling isDocument)

theorem faultOf_flush (isDocument : s.document = some d) : faultOf s.flush.2 = (offerFlush d s).2 := by
  rw [flush_of_telling isDocument]
  cases (offerFlush d s).2 <;> rfl

/-- Each node of a batch that is offered in a round is offered once, and was not processed then. -/
def Round.Once (r : Round) (batch : List Record) : Prop :=
  (r.offers.map (·.node)).Nodup ∧ ∀ o ∈ r.offers, o.node ∈ batch.flatten ∧
    o.state.nodes[o.node]?.any (!·.isProcessed) = true

/-- Those who are told of a batch are told once, of the whole batch. -/
theorem rounds_telling (batch : List Record) (observers : List Nat) (w : Session × List Round) :
    ∃ rounds, (forEach (telling batch) observers w).1.2 = w.2 ++ rounds ∧
      (∀ r ∈ rounds, r.batch = some batch ∧ r.Once batch) ∧
      ((forEach (telling batch) observers w).2 = none → rounds.map (·.engine) = observers) := by
  induction observers generalizing w with
  | nil => exact ⟨[], (List.append_nil _).symm, nofun, fun _ => rfl⟩
  | cons i observers ih =>
    obtain ⟨offers, ledger, once, each⟩ := offers_batch i [] batch.flatten (w.1, [])
    have isOnce : Round.Once ⟨i, some batch, (offerFrom i [] batch.flatten (w.1, [])).1.2⟩ batch := by
      rw [Round.Once, ledger]
      exact ⟨once, fun o member => (each o member).2⟩
    rw [forEach]
    cases fault : (offerFrom i [] batch.flatten (w.1, [])).2 with
    | none =>
      obtain ⟨rounds, written, all, engines⟩ := ih (telling batch i w).1
      simp only [telling, fault] at written engines ⊢
      refine ⟨_ :: rounds, by rw [written, List.append_assoc]; rfl,
        List.forall_mem_cons.2 ⟨⟨rfl, isOnce⟩, all⟩, fun done => ?_⟩
      rw [List.map_cons, engines done]
    | some fault =>
      simp only [telling, fault]
      exact ⟨[_], rfl, List.forall_mem_singleton.2 ⟨rfl, isOnce⟩, nofun⟩

/-- To tell engines of a batch is to hand over what is offered, one round after the other. -/
theorem handsAll_telling (batch : List Record) (observers : List Nat) (w : Session × List Round) :
    ∃ rounds, (forEach (telling batch) observers w).1.2 = w.2 ++ rounds ∧
      HandsAll rounds w.1
        ((forEach (telling batch) observers w).1.1, (forEach (telling batch) observers w).2) := by
  induction observers generalizing w with
  | nil => exact ⟨[], (List.append_nil _).symm, .nil w.1⟩
  | cons i observers ih =>
    obtain ⟨offers, ledger, hands⟩ := hands_batch i [] batch.flatten (w.1, [])
    rw [List.nil_append] at ledger
    rw [forEach]
    cases fault : (offerFrom i [] batch.flatten (w.1, [])).2 with
    | none =>
      obtain ⟨rounds, written, handsAll⟩ := ih (telling batch i w).1
      rw [fault, ← ledger] at hands
      simp only [telling, fault] at written handsAll ⊢
      exact ⟨_ :: rounds, by rw [written, List.append_assoc]; rfl, .cons hands handsAll⟩
    | some fault' =>
      rw [fault, ← ledger] at hands
      simp only [telling, fault]
      exact ⟨[_], rfl, .stop hands⟩

/-- To flush a document is to hand over what is offered. -/
theorem handsAll_flush (isDocument : s.document = some d) :
    HandsAll (offerFlush d s).1.2 (s.taken d) (s.flush.1, faultOf s.flush.2) := by
  obtain ⟨rounds, written, handsAll⟩ := handsAll_telling d.queue (audience d) (s.taken d, [])
  rw [List.nil_append] at written
  rw [offerFlush, written, flush_fst isDocument, faultOf_flush isDocument]
  exact handsAll

theorem keeps_telling (batch : List Record) (observers : List Nat) (w : Session × List Round) :
    Keeps w.1 (forEach (telling batch) observers w).1.1 :=
  forEach_keeps (P := fun w' : Session × List Round => Keeps w.1 w'.1)
    (fun i _ w' h => h.trans (keeps_offerFrom i [] batch.flatten (w'.1, []))) (.refl w.1)

/-- If nothing fails, everyone who observes the document has been offered every style sheet that is
    recorded in it, or the style sheet is processed then. -/
theorem covered_flush (known : ∀ n ∈ d.queue.flatten, n < s.nodes.length)
    (done : (offerFlush d s).2 = none) {i : Nat} (observes : i ∈ d.observers) {n : NodeId}
    (member : n ∈ d.queue.flatten) {node : Node}
    (found : (offerFlush d s).1.1.nodes[n]? = some node) (isSheet : node.isSheet = true) :
    node.isProcessed = true ∨
      ∃ r ∈ (offerFlush d s).1.2, r.engine = i ∧ n ∈ r.offers.map (·.node) := by
  have told : i ∈ audience d := by
    rw [audience, if_neg]
    · exact observes
    · intro isEmpty
      rw [List.isEmpty_iff.1 isEmpty] at member
      exact absurd member List.not_mem_nil
  obtain ⟨front, back, split⟩ := List.append_of_mem told
  rw [offerFlush, split] at done found ⊢
  obtain ⟨w, runs, passes, rest⟩ := forEach_split done
  rw [rest] at found ⊢
  have reached : Keeps (s.taken d) w.1 := by
    have kept := keeps_telling d.queue front (s.taken d, [])
    rwa [runs] at kept
  have known' : ∀ n ∈ d.queue.flatten, n < w.1.nodes.length := fun n member =>
    Nat.lt_of_lt_of_le (known n member) reached.nodes.length
  have turn := keeps_offerFrom i [] d.queue.flatten (w.1, [])
  obtain ⟨node₁, found₁⟩ : ∃ node₁,
      (offerFrom i [] d.queue.flatten (w.1, [])).1.1.nodes[n]? = some node₁ :=
    ⟨_, List.getElem?_eq_getElem (Nat.lt_of_lt_of_le (known' n member) turn.nodes.length)⟩
  obtain ⟨node', found', persists⟩ :=
    (keeps_telling d.queue back (telling d.queue i w).1).nodes.node found₁
  obtain rfl := Option.some.inj (found.symm.trans found')
  rcases covered_batch (fun _ isSeen => absurd isSeen List.not_mem_nil) known' passes member found₁
    (persists.isSheet.symm.trans isSheet) with processed | offered
  · exact .inl (persists.processed processed)
  · obtain ⟨rounds, written, -⟩ := rounds_telling d.queue back (telling d.queue i w).1
    refine .inr ⟨⟨i, some d.queue, (offerFrom i [] d.queue.flatten (w.1, [])).1.2⟩, ?_, rfl,
      offered⟩
    rw [written]
    exact List.mem_append_left _ (List.mem_append_right _ List.mem_cons_self)

end Session
end CondCss
