import CondCss.Http.CookieOwner
import CondCss.Http.Exchange
import CondCss.Tracking

/-!
# Sessions

A session is a document on a platform with engines that process its style sheets. An engine renders
inline styles in place and replaces linked style sheets of the same origin by inline ones. It
remembers the media queries they depend on, and renders them again when an answer changes. Several
engines may share the document and the platform.

Linked style sheets come from a server. While it answers, it may itself change the document or start
another load, so loading is defined together with the server's script.
-/

namespace CondCss

/-- How a server answers the request for a resource. The steps are done in the order of the
    fields. -/
structure Route where
  /-- A node that is taken out of the document first. -/
  remove : Option NodeId := none
  /-- A link that an engine, known by its number, loads first. -/
  load : Option (Nat × NodeId) := none
  /-- The error with which the connection fails. -/
  fail : Option String := none
  /-- The status code. -/
  status : Int := 200
  /-- The text. -/
  text : Text := []
  /-- Where else the resource is. -/
  location : Option Text := none
  deriving DecidableEq, Repr

/-- The routes of a server, by resource. Unknown resources are not found. -/
abbrev Server := List (Text × Route)

/-- One engine of a session. -/
structure Engine where
  /-- How it renders. -/
  options : Options := {}
  /-- Whether it observes the document. -/
  observing : Bool := false
  deriving DecidableEq, Repr

/-- The state of a session. The registry of an engine has the same number as the engine. -/
structure Session extends Tracking where
  /-- The document, whose observers are the numbers of engines. -/
  document : Option (Document Nat) := none
  /-- The engines. -/
  engines : List Engine := []
  /-- The server of linked style sheets. -/
  server : Server := []
  /-- Whether requests are followed to other locations. -/
  followsRedirects : Bool := false
  deriving DecidableEq, Repr

/-- What an operation that needs a document is. -/
inductive Operation where
  | start
  | refreshAll
  deriving DecidableEq, Repr

/-- The name of an operation. -/
def Operation.name : Operation → String
  | start => "CSSIfRuntime.initialize()"
  | refreshAll => "CSSIfRuntime.refresh_all()"

/-- Why an operation of a session stops. -/
inductive Fault where
  /-- A link has no valid address, or a request leads to none. -/
  | invalidUrl (error : Url.Error)
  /-- An answer came whose cookies would belong to nobody. -/
  | noOwner (error : Http.OwnerError)
  /-- A text that is sent along with a request or an answer is not in ASCII. -/
  | notAscii (text : Text)
  /-- There is no document. -/
  | noDocument (operation : Operation)
  deriving DecidableEq, Repr

/-- What is said of a fault. -/
def Fault.message : Fault → String
  | invalidUrl error => error.message
  | noOwner error => error.message
  | notAscii text => Text.asciiComplaint text
  | noDocument operation => operation.name ++ " requires a document"

namespace Session

/-- The state after an operation, with its result. -/
abbrev Outcome (α : Type) := Session × Except Fault α

/-- Changes the part of a session that concerns tracking. -/
def track (f : Tracking → Tracking) (s : Session) : Session :=
  { s with toTracking := f s.toTracking }

/-- Writes to the journal. -/
def write (entry : Entry) (s : Session) : Session :=
  s.track (·.write entry)

/-- Announces an event of an engine. -/
def announce (i : Nat) (e : Event) (s : Session) : Session :=
  s.write (.event i e)

/-- Writes a log entry. -/
def log (source : Log.Source) (message : String) (s : Session) : Session :=
  s.write (.logged { source, message })

/-- Changes a node. -/
def modifyNode (id : NodeId) (f : Node → Node) (s : Session) : Session :=
  s.track (·.modifyNode id f)

/-- Changes the document, if there is one. -/
def modifyDocument (f : Document Nat → Document Nat) (s : Session) : Session :=
  { s with document := s.document.map f }

/-- An engine, by its number. -/
def engine (s : Session) (i : Nat) : Engine :=
  s.engines[i]?.getD {}

/-- Writes a log entry of an engine that logs every step. -/
def debug (i : Nat) (message : String) (s : Session) : Session :=
  if (s.engine i).options.debug then s.log .session message else s

/-- Renders a subscriber from its source. -/
def renderer (h : Host) (s : Subscriber) : Except String Rendering :=
  .ok (render h s.options s.source)

/-! ### Texts and inline styles -/

/-- Renders a text with the given options or those of the engine. A node that is to be tracked is
    registered for the media queries that the text depends on. -/
def processText (i : Nat) (text : Text) (options : Option Options) (tracked : Option NodeId)
    (s : Session) : Session × Text :=
  let options := options.getD (s.engine i).options
  let r := render s.platform.host options text
  (s.track (·.absorb i (tracked.map (⟨·, text, options⟩)) r.effects), r.text)

/-- Renders an inline style that has not been processed, and tells whether its text changed. -/
def processStyle (i : Nat) (id : NodeId) (s : Session) : Session × Bool :=
  match s.nodes[id]? with
  | none => (s, false)
  | some node =>
    let source := node.text?.getD []
    if node.isProcessed then (s, false)
    else
      let (s, text) := s.processText i source none (some id)
      if text == source then (s, false)
      else
        let s := s.modifyNode id fun n => (n.setText text).mark Node.processedKey
        (s.announce i (.sheetRendered "style".toList text.length), true)

/-! ### Linked style sheets -/

/-- Announces that a link is not loaded. -/
def skip (i : Nat) (href : Text) (reason : String) (s : Session) : Session :=
  (s.log .loader ("Skipping stylesheet " ++ String.ofList href ++ ": " ++ reason)).announce i
    (.linkSkipped href reason)

/-- The nodes that are being loaded. -/
def pending (s : Session) : List NodeId :=
  (List.range s.nodes.length).filter fun id => s.nodes[id]?.any Node.isPending

/-- The fault of a text that has to be in ASCII, if it is not. -/
def asciiFault? (text : Text) : Option Fault :=
  if Text.isAscii text then none else some (.notAscii text)

/-- What the server answers, once it has done the other steps of a route. -/
def answer (url : Url) (route : Route) : Except Fault (Except Http.Failure Http.Response) :=
  match route.fail, asciiFault? (route.location.getD []) with
  | some message, _ => .ok (.error (.transport message))
  | none, some fault => .error fault
  | none, none =>
    match Http.ownerError? url.print with
    | some error => .error (.noOwner error)
    | none =>
      .ok (.ok { url, status := route.status, text := route.text, location := route.location })

/-- The route by which a resource that the server does not know is answered. -/
def notFound : Route := { status := 404 }

/-- Sends one request. Loads that the server starts are done by `load`. -/
def send (load : Nat → NodeId → Session → Outcome (Option NodeId)) (url : Url) (s : Session) :
    Outcome (Except Http.Failure Http.Response) :=
  let s := s.write (.requested url.print s.pending)
  let route := (s.server.lookup url.resource).getD notFound
  let s := match route.remove with
    | some id => s.modifyDocument (·.remove id)
    | none => s
  match route.load with
  | none => (s, answer url route)
  | some (i, id) =>
    match load i id s with
    | (s, .error fault) => (s, .error fault)
    | (s, .ok loaded) =>
      let present := (s.document.map (·.nodes)).getD []
      (s.write (.nested loaded present), answer url route)

/-- The address to which a request for `url` is sent on, when the answer names a location: a
    failure if that is no address, and a fault if the address cannot be used. -/
def nextAddress (url : Url) (location : Text) : Except Fault (Except Http.Failure Url) :=
  match Url.parse location with
  | .error e => .ok (.error (.badLocation e))
  | .ok location =>
    match Http.redirectTarget url location with
    | .error e => .error (.invalidUrl e)
    | .ok next =>
      match asciiFault? next.hostAndPort with
      | some fault => .error fault
      | none => .ok (.ok next)

/-- Sends a request and follows it to other locations, at most so many times, if the session does
    that. -/
def fetch (load : Nat → NodeId → Session → Outcome (Option NodeId)) :
    (redirects : Nat) → Url → Session → Outcome (Except Http.Failure Http.Response)
  | redirects, url, s =>
    match send load url s with
    | (s, .error fault) => (s, .error fault)
    | (s, .ok (.error failure)) => (s, .ok (.error failure))
    | (s, .ok (.ok response)) =>
      match response.redirect? with
      | none => (s, .ok (.ok response))
      | some location =>
        match nextAddress url location with
        | .error fault => (s, .error fault)
        | .ok (.error failure) => (s, .ok (.error failure))
        | .ok (.ok next) =>
          if s.followsRedirects then
            match redirects with
            | 0 => (s, .ok (.error .tooManyRedirects))
            | redirects + 1 => fetch load redirects next s
          else (s, .ok (.ok response))

/-- The text at an address, if the request succeeds. -/
def download (load : Nat → NodeId → Session → Outcome (Option NodeId)) (url : Url) (s : Session) :
    Outcome (Except Http.Failure Text) :=
  let url := Http.requestTarget url
  match asciiFault? url.hostAndPort with
  | some fault => (s, .error fault)
  | none =>
    match fetch load Http.maxRedirects url s with
    | (s, .error fault) => (s, .error fault)
    | (s, .ok (.error failure)) => (s, .ok (.error failure))
    | (s, .ok (.ok response)) =>
      (s, .ok (if Http.isSuccess response.status then .ok response.text
        else .error (.refused response)))

/-- The address that a link leads to, and whether it is of the same origin as the document. -/
def address (d : Document Nat) (href : Text) : Except Url.Error (Url × Bool) := do
  let origin ← Url.parse d.origin
  let url ← origin.join (← Url.parse href)
  return (url, (← url.origin) == (← origin.origin))

/-- Puts the rendered text of a linked style sheet behind its link, unless rendering left it as it
    is. -/
def replaceLink (i : Nat) (id : NodeId) (url : Url) (text : Text) (s : Session) :
    Session × Option NodeId :=
  let s := s.modifyNode id (·.mark Node.processedKey)
  let style := s.nodes.length
  let s := s.track fun t => { t with nodes := t.nodes ++ [{ body := .style [] }] }
  let (s, rendered) := s.processText i text none (some style)
  if rendered == text then (s, none)
  else
    let s := s.modifyNode style fun n =>
      let n := (n.setText rendered).mark Node.processedKey
      { n with dataset := Assoc.insert Node.loadedFromKey url.print n.dataset }
    let s := s.modifyDocument fun d => ((d.insertAfter id style).toOption).getD d
    let s := s.modifyNode id (·.disable)
    let s := s.log .loader
      ("External stylesheet processed and replaced: " ++ String.ofList url.print)
    (s.announce i (.sheetRendered url.print rendered.length), some style)

/-- Loads a link to a style sheet and replaces it by an inline style, at most `depth` loads inside
    each other. A link is loaded once; links to other origins, failed requests and links that have
    left the document in the meantime are skipped. -/
def loadWithin : (depth : Nat) → (i : Nat) → (id : NodeId) → Session → Outcome (Option NodeId)
  | 0, _, _, s => (s, .ok none)
  | depth + 1, i, id, s =>
    match s.document, s.nodes[id]? with
    | some document, some node =>
      match node.link? with
      | none => (s, .ok none)
      | some link =>
        if !link.isSheet || node.isProcessed || node.isPending then (s, .ok none)
        else match address document link.href with
          | .error e => (s, .error (.invalidUrl e))
          | .ok (_, false) => (s.skip i link.href "cross-origin", .ok none)
          | .ok (url, true) =>
            let s := s.modifyNode id (·.mark Node.pendingKey)
            let (s, downloaded) := s.download (loadWithin depth) url
            match downloaded with
            | .error fault => (s.modifyNode id (·.unmark Node.pendingKey), .error fault)
            | .ok (.error failure) =>
              -- The mark is still there when the failure is announced.
              let s := s.skip i link.href ("fetch failed: " ++ failure.message)
              (s.modifyNode id (·.unmark Node.pendingKey), .ok none)
            | .ok (.ok text) =>
              let s := s.modifyNode id (·.unmark Node.pendingKey)
              if s.document.any (·.contains id) then
                let (s, style) := s.replaceLink i id url text
                (s, .ok style)
              else (s.skip i link.href "removed from document", .ok none)
    | _, _ => (s, .ok none)

/-- Loads a link to a style sheet. Loads inside each other are of different links, so their depth
    is bounded by the number of nodes. -/
def processLink (i : Nat) (id : NodeId) (s : Session) : Outcome (Option NodeId) :=
  s.loadWithin (s.nodes.length + 1) i id

/-! ### Whole documents -/

/-- A step that cannot fail. -/
def styleStep (i : Nat) (id : NodeId) (s : Session) : Session × Option Fault :=
  ((s.processStyle i id).1, none)

/-- A step that fails when the address of a link is not valid. -/
def linkStep (i : Nat) (id : NodeId) (s : Session) : Session × Option Fault :=
  match s.processLink i id with
  | (s, .ok _) => (s, none)
  | (s, .error fault) => (s, some fault)

/-- Processes the inline styles of the document that have not been processed, then its links. -/
def processDocument (i : Nat) (document : Document Nat) (s : Session) : Session × Option Fault :=
  let fresh := (document.styles s.nodes).filter fun id => s.nodes[id]?.any (!·.isProcessed)
  let s := s.debug i s!"Found {fresh.length} unprocessed style elements"
  let (s, _) := forEach (styleStep i) fresh s
  forEach (linkStep i) ((s.document.map (·.links s.nodes)).getD []) s

/-- The declaration by which a platform that needs no engine is recognised. -/
def probe : Text × Text :=
  ("color".toList, "if(style(--true): red; else: blue)".toList)

/-- Whether the platform needs no engine; one that cannot tell needs one. -/
def detectNative (s : Session) : Session × Bool :=
  match s.platform.host.supportsDeclaration probe.1 probe.2 with
  | .ok answer => (s, answer)
  | .error o => (s.log .session ("Native if() support probe failed: " ++ o.message), false)

/-- Changes an engine. -/
def modifyEngine (i : Nat) (f : Engine → Engine) (s : Session) : Session :=
  { s with engines := s.engines.modify i f }

/-- Processes the document and observes it from now on, unless the platform needs no engine. -/
def start (i : Nat) (s : Session) : Outcome Bool :=
  match s.document with
  | none => (s, .error (.noDocument .start))
  | some document =>
    let (s, isNative) := s.detectNative
    if isNative then
      (s.debug i "Native CSS if() support detected, runtime not needed", .ok false)
    else
      let s := s.debug i "Initializing CSS if() runtime"
      match s.processDocument i document with
      | (s, some fault) => (s, .error fault)
      | (s, none) =>
        if (s.engine i).observing then (s, .ok true)
        else
          ((s.modifyDocument (·.observe i)).modifyEngine i ({ · with observing := true }), .ok true)

/-- Processes what has not been processed of the document. -/
def refreshAll (i : Nat) (s : Session) : Outcome Unit :=
  match s.document with
  | none => (s, .error (.noDocument .refreshAll))
  | some document =>
    match s.processDocument i document with
    | (s, some fault) => (s, .error fault)
    | (s, none) => (s, .ok ())

/-- Hands the recorded insertions to the engines that observe the document, and tells how many
    there were. -/
def flush (s : Session) : Outcome Nat :=
  match s.document with
  | none => (s, .ok 0)
  | some document =>
    let (batch, flushed) := document.takeQueue
    let s := { s with document := some flushed }
    let observers := if batch.isEmpty then [] else flushed.observers
    match forEach (fun i => deliver (·.nodes) (styleStep i) (linkStep i) batch) observers s with
    | (s, some fault) => (s, .error fault)
    | (s, none) => (s, .ok batch.length)

/-- Forgets all that an engine tracks. -/
def teardown (i : Nat) (s : Session) : Session :=
  s.track (·.cleanup i)

/-- Forgets all that an engine tracks and observes the document no longer. -/
def close (i : Nat) (s : Session) : Session :=
  let s := s.teardown i
  if s.document.isSome && (s.engine i).observing then
    (s.modifyDocument (·.disconnect i)).modifyEngine i ({ · with observing := false })
  else s

/-- Renders the nodes that depend on a media query again, and tells how many texts changed. -/
def reprocess (i : Nat) (query : Text) (s : Session) : Session × Nat :=
  let (t, count) := s.toTracking.reprocess renderer i query
  ({ s with toTracking := t }, count)

/-- Changes the host; nodes that depend on changed answers are rendered again. -/
def changeHost (change : Host → Host) (s : Session) : Session :=
  s.track (·.changeHost renderer change)

end Session
end CondCss
