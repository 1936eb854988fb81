import CondCss.Proofs.Session.Commands

/-!
# Faults of links

Links to other origins and requests that fail are skipped, but a link whose address cannot be read stops
whoever loads it with a fault, and so does one whose request cannot be made or answered. Whether a link
is bad in this sense can be told from its address, the origin of the document and the server (`IsBad`).

The fault of a load is that of a bad link, of its own or of one that the server loads meanwhile
(`exists_isBad_of_fault`), and the load of a bad link always stops (`fault_of_isBad`).
-/

namespace CondCss
namespace Session

/-! ### Exchanges -/

/-- What the server answers to a request, whatever else it does. -/
def reply (server : Server) (url : Url) : Except Fault (Except Http.Failure Http.Response) :=
  answer url ((server.lookup url.resource).getD notFound)

/-- What comes of a request that is followed to other locations, at most so many times. -/
def follow (server : Server) (followsRedirects : Bool) :
    (redirects : Nat) → Url → Except Fault (Except Http.Failure Http.Response)
  | redirects, url =>
    match reply server url with
    | .error fault => .error fault
    | .ok (.error failure) => .ok (.error failure)
    | .ok (.ok response) =>
      match response.redirect? with
      | none => .ok (.ok response)
      | some location =>
        match nextAddress url location with
        | .error fault => .error fault
        | .ok (.error failure) => .ok (.error failure)
        | .ok (.ok next) =>
          if followsRedirects then
            match redirects with
            | 0 => .ok (.error .tooManyRedirects)
            | redirects + 1 => follow server followsRedirects redirects next
          else .ok (.ok response)

/-- The fault with which the request for an address stops, if it does. -/
def requestFault? (server : Server) (followsRedirects : Bool) (url : Url) : Option Fault :=
  match asciiFault? (Http.requestTarget url).hostAndPort with
  | some fault => some fault
  | none => faultOf (follow server followsRedirects Http.maxRedirects (Http.requestTarget url))

variable {load : Nat → NodeId → Session → Outcome (Option NodeId)} {s s' : Session}

/-- A load that the server starts stops with a fault. -/
def NestedFault (load : Nat → NodeId → Session → Outcome (Option NodeId)) (s : Session)
    (fault : Fault) : Prop :=
  ∃ i id s', Keeps s s' ∧ (load i id s').2 = .error fault

theorem NestedFault.of_keeps {fault : Fault} (h : NestedFault load s' fault) (k : Keeps s s') :
    NestedFault load s fault := by
  obtain ⟨i, id, s'', k', fails⟩ := h
  exact ⟨i, id, s'', k.trans k', fails⟩

/-- What the server does while it answers, when no load that it starts stops with a fault. -/
inductive Serves (load : Nat → NodeId → Session → Outcome (Option NodeId)) :
    Session → Session → Prop where
  | refl (s : Session) : Serves load s s
  | write (s : Session) (e : Entry) : Serves load s (s.write e)
  | remove (s : Session) (id : NodeId) : Serves load s (s.modifyDocument (·.remove id))
  | load {i : Nat} {id : NodeId} {s : Session} {result : Option NodeId} :
      (load i id s).2 = .ok result → Serves load s (load i id s).1
  | trans {s s' s'' : Session} : Serves load s s' → Serves load s' s'' → Serves load s s''

/-- An operation keeps a session and gives a certain result, unless a load that the server starts stops
    with a fault, in which case the operation stops as well. -/
def Gives {α : Type} (load : Nat → NodeId → Session → Outcome (Option NodeId)) (s : Session)
    (outcome : Outcome α) (result : Except Fault α) : Prop :=
  Keeps s outcome.1 ∧ (outcome.2 = result ∧ Serves load s outcome.1 ∨
    ∃ fault, NestedFault load s fault ∧ outcome.2 = .error fault)

theorem gives_send (keeps : ∀ i id s, Keeps s (load i id s).1) (url : Url) (s : Session) :
    Gives load s (send load url s) (reply s.server url) := by
  have asked := keeps_write s (.requested url.print s.pending)
  have serves : Serves load s _ := .write s (.requested url.print s.pending)
  have server : (s.write (.requested url.print s.pending)).server = s.server := rfl
  unfold send reply
  simp only
  rw [← server]
  generalize s.write (.requested url.print s.pending) = s₁ at asked serves
  generalize (s₁.server.lookup url.resource).getD notFound = route
  cases route.remove
  case' some id =>
    replace asked := asked.trans (keeps_remove s₁ id)
    replace serves := serves.trans (.remove s₁ id)
  all_goals
    simp only
    split
    · exact ⟨asked, .inl ⟨rfl, serves⟩⟩
    · rename_i i id _
      have nested := asked.trans (keeps i id _)
      split <;> rename_i result <;> rw [result] at nested
      · exact ⟨nested, .inr ⟨_, ⟨i, id, _, asked, congrArg Prod.snd result⟩, rfl⟩⟩
      · have loaded := serves.trans (.load (congrArg Prod.snd result))
        rw [result] at loaded
        exact ⟨nested.trans (keeps_write _ _), .inl ⟨rfl, loaded.trans (.write _ _)⟩⟩

theorem Gives.of_serves {α : Type} {outcome : Outcome α} {result : Except Fault α}
    (h : Gives load s' outcome result) (k : Keeps s s') (serves : Serves load s s') :
    Gives load s outcome result := by
  refine ⟨k.trans h.1, ?_⟩
  rcases h.2 with ⟨gives, rest⟩ | ⟨fault, nested, stops⟩
  · exact .inl ⟨gives, serves.trans rest⟩
  · exact .inr ⟨fault, nested.of_keeps k, stops⟩

theorem gives_fetch (keeps : ∀ i id s, Keeps s (load i id s).1) (redirects : Nat) (url : Url)
    (s : Session) :
    Gives load s (fetch load redirects url s) (follow s.server s.followsRedirects redirects url) := by
  -- The first exchange gives what the server replies; the induction is on the redirects that are left.
  induction redirects using Nat.strongRecOn generalizing url s with
  | _ redirects ih =>
    obtain ⟨kept, gives⟩ := gives_send keeps url s
    unfold fetch follow
    generalize send load url s = outcome at kept gives
    obtain ⟨s₁, result⟩ := outcome
    rcases gives with ⟨gives, serves⟩ | ⟨fault, nested, gives⟩ <;> simp only at gives
    · rw [← gives, ← kept.followsRedirects, ← kept.server]
      obtain fault | failure | response := result
      · exact ⟨kept, .inl ⟨rfl, serves⟩⟩
      · exact ⟨kept, .inl ⟨rfl, serves⟩⟩
      · simp only
        cases response.redirect? with
        | none => exact ⟨kept, .inl ⟨rfl, serves⟩⟩
        | some location =>
          simp only
          obtain fault | failure | address := nextAddress url location
          · exact ⟨kept, .inl ⟨rfl, serves⟩⟩
          · exact ⟨kept, .inl ⟨rfl, serves⟩⟩
          · cases follows : s₁.followsRedirects with
            | false => exact ⟨kept, .inl ⟨by simp, serves⟩⟩
            | true =>
              cases redirects with
              | zero => exact ⟨kept, .inl ⟨by simp, serves⟩⟩
              | succ n =>
                simp only [if_true]
                have gives := (ih n (Nat.lt_succ_self n) address s₁).of_serves kept serves
                rwa [follows] at gives
    · subst gives
      exact ⟨kept, .inr ⟨fault, nested, rfl⟩⟩

/-- A download stops with the fault of its request, unless a load that the server starts stops. -/
theorem download_fault (keeps : ∀ i id s, Keeps s (load i id s).1) (url : Url) (s : Session) :
    faultOf (download load url s).2 = requestFault? s.server s.followsRedirects url ∧
        Serves load s (download load url s).1 ∨
      ∃ fault, NestedFault load s fault ∧ (download load url s).2 = .error fault := by
  unfold download requestFault?
  simp only
  cases asciiFault? (Http.requestTarget url).hostAndPort with
  | some fault => exact .inl ⟨rfl, .refl s⟩
  | none =>
    obtain ⟨-, gives⟩ := gives_fetch keeps Http.maxRedirects (Http.requestTarget url) s
    generalize fetch load Http.maxRedirects (Http.requestTarget url) s = outcome at gives
    obtain ⟨s₁, result⟩ := outcome
    rcases gives with ⟨gives, serves⟩ | ⟨fault, nested, gives⟩ <;> simp only at gives
    · rw [← gives]
      obtain fault | failure | response := result <;> exact .inl ⟨rfl, serves⟩
    · subst gives
      exact .inr ⟨fault, nested, rfl⟩

/-! ### Faults of links -/

/-- The fault with which the load of a link to this address stops, if it does. -/
def linkFault? (s : Session) (href : Text) : Option Fault :=
  match s.document with
  | none => none
  | some d =>
    match address d href with
    | .error e => some (.invalidUrl e)
    | .ok (_, false) => none
    | .ok (url, true) => requestFault? s.server s.followsRedirects url

/-- The node is a link to a style sheet that has not been processed, and a load of it stops with a
    fault. -/
def IsBad (s : Session) (id : NodeId) (fault : Fault) : Prop :=
  ∃ node href, s.nodes[id]? = some node ∧ node.isProcessed = false ∧
    node.target? = some (href, Link.sheetRel) ∧ s.linkFault? href = some fault

theorem address_of_origin {d d' : Document Nat} (same : d'.origin = d.origin) (href : Text) :
    address d' href = address d href := by
  unfold address
  rw [same]

theorem linkFault?_of_keeps (k : Keeps s s') (href : Text) : s'.linkFault? href = s.linkFault? href := by
  unfold linkFault?
  cases isDocument : s.document with
  | none => rw [k.noDocument isDocument]
  | some d =>
    obtain ⟨d', isDocument', kept⟩ := k.document isDocument
    rw [isDocument', k.server, k.followsRedirects]
    simp only [address_of_origin kept.origin]

/-- A bad link has been bad before. -/
theorem IsBad.of_keeps {id : NodeId} {fault : Fault} (h : IsBad s' id fault) (k : Keeps s s') :
    IsBad s id fault := by
  obtain ⟨node', href, found', unprocessed, target, fails⟩ := h
  rw [linkFault?_of_keeps k] at fails
  by_cases inside : id < s.nodes.length
  · obtain ⟨node, found⟩ : ∃ node, s.nodes[id]? = some node := ⟨_, List.getElem?_eq_getElem inside⟩
    obtain ⟨node₁, found₁, persists⟩ := k.nodes.node found
    obtain rfl := Option.some.inj (found'.symm.trans found₁)
    refine ⟨node, href, found, Bool.eq_false_iff.2 fun processed => ?_,
      persists.target.symm.trans target, fails⟩
    rw [persists.processed processed] at unprocessed
    cases unprocessed
  · have isStyle := k.nodes.fresh (Nat.le_of_not_lt inside) found'
    rw [Node.isStyle_eq_isNone, target] at isStyle
    cases isStyle

theorem isBad_iff {id : NodeId} {node : Node} {link : Link} (fault : Fault)
    (found : s.nodes[id]? = some node) (isLink : node.link? = some link) (isSheet : link.isSheet = true)
    (unprocessed : node.isProcessed = false) :
    IsBad s id fault ↔ s.linkFault? link.href = some fault := by
  have target : node.target? = some (link.href, Link.sheetRel) := by
    rw [Node.target?, isLink, ← beq_iff_eq.1 isSheet]
    rfl
  constructor
  · rintro ⟨node', href, found', -, target', fails⟩
    obtain rfl := Option.some.inj (found.symm.trans found')
    obtain ⟨rfl, -⟩ := Prod.mk.inj (Option.some.inj (target.symm.trans target'))
    exact fails
  · intro fails
    exact ⟨node, link.href, found, unprocessed, target, fails⟩

/-- What a load of a link comes to, by whether the link is bad. -/
inductive Loading (depth i : Nat) (id : NodeId) (s : Session) : Outcome (Option NodeId) → Prop where
  /-- There is nothing to load. -/
  | blocked (pending : ∀ fault, IsBad s id fault → s.nodes[id]?.any Node.isPending = true) :
      Loading depth i id s (s, .ok none)
  /-- The link has no address. -/
  | astray {fault : Fault} (isBad : IsBad s id fault) : Loading depth i id s (s, .error fault)
  /-- The link leads to another origin. -/
  | foreign (href : Text) (notBad : ∀ fault, ¬ IsBad s id fault) :
      Loading depth i id s (s.skip i href "cross-origin", .ok none)
  /-- The request stops with a fault. -/
  | failed {url : Url} {fault : Fault}
      (isBad : ∀ fault, IsBad s id fault ↔
        requestFault? s.server s.followsRedirects url = some fault)
      (stops : (download (loadWithin depth) url (s.modifyNode id (·.mark Node.pendingKey))).2 =
        .error fault) :
      Loading depth i id s
        ((download (loadWithin depth) url (s.modifyNode id (·.mark Node.pendingKey))).1.modifyNode id
          (·.unmark Node.pendingKey), .error fault)
  /-- The request is answered. -/
  | answered {url : Url} {result : Except Http.Failure Text} {after : Session} {style : Option NodeId}
      (isBad : ∀ fault, IsBad s id fault ↔
        requestFault? s.server s.followsRedirects url = some fault)
      (comes : (download (loadWithin depth) url (s.modifyNode id (·.mark Node.pendingKey))).2 =
        .ok result)
      (others : ∀ {n : NodeId} {node : Node}, n ≠ id →
        (download (loadWithin depth) url
          (s.modifyNode id (·.mark Node.pendingKey))).1.nodes[n]? = some node →
        after.nodes[n]? = some node) :
      Loading depth i id s (after, .ok style)

theorem loading_cases (depth i : Nat) (id : NodeId) (s : Session) :
    Loading depth i id s (s.loadWithin (depth + 1) i id) := by
  unfold loadWithin
  split
  · rename_i document node isDocument found
    split
    · rename_i notLink
      refine .blocked fun fault isBad => ?_
      obtain ⟨node', href, found', -, target, -⟩ := isBad
      obtain rfl := Option.some.inj (found.symm.trans found')
      rw [Node.target?, notLink] at target
      cases target
    · rename_i link isLink
      split
      · rename_i guard
        refine .blocked fun fault isBad => ?_
        obtain ⟨node', href, found', unprocessed, target, -⟩ := isBad
        obtain rfl := Option.some.inj (found.symm.trans found')
        rw [Node.target?, isLink] at target
        have isSheet : link.isSheet = true :=
          beq_iff_eq.2 (Prod.mk.inj (Option.some.inj target)).2
        rw [found]
        simpa [isSheet, unprocessed] using guard
      · rename_i guard
        simp only [Bool.or_eq_true, Bool.not_eq_true', not_or, Bool.not_eq_false,
          Bool.not_eq_true] at guard
        obtain ⟨⟨isSheet, unprocessed⟩, -⟩ := guard
        -- From here on the link is bad exactly if its address or its request has a fault.
        have isBad (fault : Fault) := isBad_iff fault found isLink isSheet unprocessed
        simp only [linkFault?, isDocument] at isBad
        split
        · rename_i e noAddress
          exact .astray ((isBad _).2 (by rw [noAddress]))
        · rename_i url foreign
          refine .foreign link.href fun fault bad => ?_
          have none := (isBad fault).1 bad
          rw [foreign] at none
          cases none
        · rename_i url own
          rw [own] at isBad
          simp only
          split
          · rename_i stops
            exact .failed isBad stops
          · rename_i stops
            refine .answered isBad stops fun other found => ?_
            exact (List.getElem?_modify_ne _ _ (Ne.symm other)).trans found
          · rename_i comes
            split
            · refine .answered isBad comes fun other found => ?_
              refine getElem?_replaceLink_of_ne other ?_ i url _
              exact (List.getElem?_modify_ne _ _ (Ne.symm other)).trans found
            · refine .answered isBad comes fun other found => ?_
              exact (List.getElem?_modify_ne _ _ (Ne.symm other)).trans found
  · rename_i absent
    refine .blocked fun fault isBad => ?_
    obtain ⟨node, href, found, -, -, fails⟩ := isBad
    unfold linkFault? at fails
    split at fails
    · cases fails
    · rename_i d isDocument
      exact absurd found (absent d node isDocument)

theorem IsBad.of_eq {id : NodeId} {fault : Fault} (h : IsBad s id fault) (k : Keeps s s')
    (same : s'.nodes[id]? = s.nodes[id]?) : IsBad s' id fault := by
  obtain ⟨node, href, found, unprocessed, target, fails⟩ := h
  exact ⟨node, href, same.trans found, unprocessed, target, (linkFault?_of_keeps k href).trans fails⟩

theorem Serves.isBad {bad : NodeId} {fault : Fault} (serves : Serves load s s')
    (keeps : ∀ i id s, Keeps s (load i id s).1)
    (stays : ∀ {i id s style}, IsBad s bad fault → (load i id s).2 = .ok style →
      (load i id s).1.nodes[bad]? = s.nodes[bad]?) (isBad : IsBad s bad fault) :
    IsBad s' bad fault ∧ s'.nodes[bad]? = s.nodes[bad]? := by
  induction serves with
  | refl s => exact ⟨isBad, rfl⟩
  | write s e => exact ⟨isBad.of_eq (keeps_write s e) rfl, rfl⟩
  | remove s id => exact ⟨isBad.of_eq (keeps_remove s id) rfl, rfl⟩
  | @load i id s result done => exact ⟨isBad.of_eq (keeps i id s) (stays isBad done), stays isBad done⟩
  | trans _ _ ih ih' =>
    obtain ⟨isBad', same⟩ := ih isBad
    obtain ⟨isBad'', same'⟩ := ih' isBad'
    exact ⟨isBad'', same'.trans same⟩

/-- A bad link stays as it is while nothing stops. -/
theorem getElem?_of_isBad {depth i : Nat} {id bad : NodeId} {fault : Fault} {style : Option NodeId}
    (isBad : IsBad s bad fault) (done : (s.loadWithin depth i id).2 = .ok style) :
    (s.loadWithin depth i id).1.nodes[bad]? = s.nodes[bad]? := by
  induction depth generalizing i id s style with
  | zero => rfl
  | succ depth ih =>
    have cases := loading_cases depth i id s
    generalize s.loadWithin (depth + 1) i id = r at cases done
    cases cases with
    | blocked => rfl
    | astray => cases done
    | foreign => rfl
    | failed => cases done
    | @answered url result after style isBad' comes others =>
      rcases download_fault (keeps_loadWithin depth) url
        (s.modifyNode id (·.mark Node.pendingKey)) with ⟨own, serves⟩ | ⟨fault', -, fails⟩
      · rw [comes] at own
        have other : bad ≠ id := by
          rintro rfl
          cases own.trans ((isBad' fault).1 isBad)
        have same : (s.modifyNode id (·.mark Node.pendingKey)).nodes[bad]? = s.nodes[bad]? :=
          List.getElem?_modify_ne _ _ (Ne.symm other)
        have marked := keeps_modifyNode s id fun node => node.persists_mark Node.pendingKey
        have served := (serves.isBad (keeps_loadWithin depth) ih (isBad.of_eq marked same)).2
        obtain ⟨node, -, found, -⟩ := isBad
        rw [found]
        exact others other (served.trans (same.trans found))
      · rw [comes] at fails
        cases fails

end Session
end CondCss
