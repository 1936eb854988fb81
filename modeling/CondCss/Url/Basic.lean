import CondCss.Text.DecimalDigit
import CondCss.Url.Authority

/-!
# Addresses

An address has a scheme, an authority of user part, host and port, a path, and perhaps a query and a
fragment. Reading an address brings it into its normal form: scheme and host in lower case, the
default port of the scheme left out, dot segments removed from the path, and every part escaped.
-/

namespace CondCss

/-- An address in normal form. Parts that are missing are empty; a query or fragment may be there
    and empty. -/
structure Url where
  /-- The scheme. -/
  scheme : Text := []
  /-- The part before the `@` of the authority. -/
  userinfo : Text := []
  /-- The host, without brackets. -/
  host : Text := []
  /-- The port, unless it is the default one. -/
  port : Option Int := none
  /-- The path. -/
  path : Text := []
  /-- The query. -/
  query : Option Text := none
  /-- The fragment. -/
  fragment : Option Text := none
  deriving DecidableEq, Repr

namespace Url

/-- The parts that an address is put together from. -/
inductive Component where
  | scheme
  | authority
  | path
  | query
  | fragment
  | host
  deriving DecidableEq, Repr

/-- The name of a part. -/
def Component.name : Component → String
  | scheme => "scheme"
  | authority => "authority"
  | path => "path"
  | query => "query"
  | fragment => "fragment"
  | host => "host"

/-- Why a text is no address, or an address cannot be changed or compared. -/
inductive Error where
  | tooLong
  | unprintable (c : Char) (position : Nat)
  /-- A part that is put into an address is too long. -/
  | partTooLong (component : Component)
  /-- A part that is put into an address has a character without a visible form. -/
  | partUnprintable (component : Component) (c : Char) (position : Nat)
  | invalidHost (error : HostError)
  /-- The name that the host stands for cannot be read. -/
  | unreadableHost (error : NameError)
  /-- A reference cannot be resolved. -/
  | unresolvable (error : AuthorityError)
  | invalidPort (port : Text)
  /-- The path after an authority does not start with a slash. -/
  | pathNotRooted
  /-- The path of a relative address starts with two slashes. -/
  | doubleSlash
  /-- The path of a relative address starts with a colon. -/
  | leadingColon
  deriving DecidableEq, Repr

/-- What is said of an error. -/
def Error.message : Error → String
  | tooLong => "URL too long"
  | unprintable c position =>
    "Invalid non-printable ASCII character in URL, " ++ Text.quotedString [c] ++
      s!" at position {position}."
  | partTooLong component => "URL component '" ++ component.name ++ "' too long"
  | partUnprintable component c position =>
    "Invalid non-printable ASCII character in URL " ++ component.name ++ " component, " ++
      Text.quotedString [c] ++ s!" at position {position}."
  | invalidHost error => error.message
  | unreadableHost error => error.message
  | unresolvable error => error.message
  | invalidPort port => "Invalid port: " ++ Text.quotedString port
  | pathNotRooted => "For absolute URLs, path must be empty or begin with '/'"
  | doubleSlash => "Relative URLs cannot have a path starting with '//'"
  | leadingColon => "Relative URLs cannot have a path starting with ':'"

/-- The longest text that is read as an address. -/
def maxLength : Nat := 65536

/-! ### Printing -/

/-- Prints a number. -/
def printInt (n : Int) : Text :=
  (toString n).toList

/-- A host as it stands in an authority: one with colons is put into brackets. -/
def inBrackets (host : Text) : Text :=
  if host.contains ':' then ['['] ++ host ++ [']'] else host

/-- Prints the host and the port. -/
def hostAndPort (u : Url) : Text :=
  inBrackets u.host ++
  (match u.port with
    | some port => ':' :: printInt port
    | none => [])

/-- Prints the authority. -/
def authority (u : Url) : Text :=
  (if u.userinfo.isEmpty then [] else u.userinfo ++ ['@']) ++ u.hostAndPort

/-- Prints the path and the query. -/
def target (u : Url) : Text :=
  u.path ++ (match u.query with
    | some query => '?' :: query
    | none => [])

/-- Prints an address. -/
def print (u : Url) : Text :=
  (if u.scheme.isEmpty then [] else u.scheme ++ [':']) ++
  (if u.authority.isEmpty then [] else ['/', '/'] ++ u.authority) ++
  u.target ++
  (match u.fragment with
    | some fragment => '#' :: fragment
    | none => [])

/-! ### Reading -/

/-- Whether a character may stand in a scheme. -/
def isSchemeChar (c : Char) : Bool :=
  c.isAlphanum || c == '+' || c == '-' || c == '.'

/-- Splits off a scheme and its colon. A colon at the very start ends an empty scheme. -/
def cutScheme (s : Text) : Text × Text :=
  match Text.cutAt? ':' s with
  | some (scheme, rest) =>
    if scheme.all isSchemeChar && scheme.head?.all Char.isAlpha then (scheme, rest) else ([], s)
  | none => ([], s)

/-- Splits off an authority, if there is one. -/
def cutAuthority : Text → Text × Text
  | '/' :: '/' :: rest =>
    let isEnd (c : Char) := c == '/' || c == '?' || c == '#'
    (rest.takeWhile (!isEnd ·), rest.dropWhile (!isEnd ·))
  | s => ([], s)

/-- Splits an address without scheme and authority into path, query and fragment. -/
def cutTail (s : Text) : Text × Option Text × Option Text :=
  let (s, fragment) :=
    match Text.cutAt? '#' s with
    | some (s, fragment) => (s, some fragment)
    | none => (s, none)
  match Text.cutAt? '?' s with
  | some (path, query) => (path, some query, fragment)
  | none => (s, none, fragment)

/-- Splits an authority into user part, host and port. -/
def splitAuthority (s : Text) : Text × Text × Text :=
  let (userinfo, s) := (cutAtLast? '@' s).getD ([], s)
  let bracketed : Option (Text × Text) :=
    match s with
    | '[' :: rest => (cutAtLast? ']' rest).map fun (inside, tail) => ('[' :: inside ++ [']'], tail)
    | _ => none
  let (host, tail) := bracketed.getD (s.takeWhile (· != ':'), s.dropWhile (· != ':'))
  (userinfo, host, (Text.after? [':'] tail).getD tail)

/-- The greatest number of digits that are read as a number. -/
def maxDigits : Nat := 4300

/-- Reads decimal digits of any script, which single underscores may divide. -/
def readDigits? (s : Text) : Option Nat :=
  let groups := Text.splitOnChar '_' s
  let digits := groups.flatten.mapM Text.digitValue?
  if groups.all (!·.isEmpty) && groups.flatten.length ≤ maxDigits then
    digits.map (·.foldl (fun n d => 10 * n + d) 0)
  else none

/-- Reads a whole number with or without a sign, between blanks. -/
def readInt? (s : Text) : Option Int :=
  match Text.trim s with
  | '-' :: rest => (readDigits? rest).map fun n => -(n : Int)
  | '+' :: rest => (readDigits? rest).map fun n => (n : Int)
  | rest => (readDigits? rest).map fun n => (n : Int)

/-- The ports that need not be written. -/
def defaultPorts : List (Text × Int) :=
  [("ftp".toList, 21), ("http".toList, 80), ("https".toList, 443), ("ws".toList, 80),
   ("wss".toList, 443)]

/-- Reads a port; the default port of the scheme, as it is written, is left out. -/
def readPort (scheme port : Text) : Except Error (Option Int) :=
  if port.isEmpty then .ok none
  else match readInt? port with
    | none => .error (.invalidPort port)
    | some n => .ok (if defaultPorts.lookup scheme == some n then none else some n)

/-- Checks how a path may start. -/
def checkPath (hasScheme hasAuthority : Bool) (path : Text) : Except Error Unit :=
  if hasAuthority && !path.isEmpty && path.head? != some '/' then .error .pathNotRooted
  else if !hasScheme && !hasAuthority && ['/', '/'].isPrefixOf path then .error .doubleSlash
  else if !hasScheme && !hasAuthority && path.head? == some ':' then .error .leadingColon
  else .ok ()

/-- Handles one segment while dot segments are removed. -/
def pushSegment (out : List Text) (segment : Text) : List Text :=
  if segment == ['.'] then out
  else if segment == ['.', '.'] then if out.isEmpty || out == [[]] then out else out.dropLast
  else out ++ [segment]

/-- Removes the dot segments of a path. -/
def removeDots (path : Text) : Text :=
  let segments := Text.splitOnChar '/' path
  if segments.contains ['.'] || segments.contains ['.', '.'] then
    Text.joinWith ['/'] (segments.foldl pushSegment [])
  else path

/-- Whether a character is ASCII and has no visible form. -/
def isUnprintable (c : Char) : Bool :=
  Text.isAsciiChar c && !Text.isPrintable c

/-- The parts of an address before they are brought into their normal form. -/
structure Parts where
  /-- The scheme. -/
  scheme : Text
  /-- The authority. -/
  authority : Text
  /-- The path. -/
  path : Text
  /-- The query. -/
  query : Option Text
  /-- The fragment. -/
  fragment : Option Text
  /-- The host, if it is to stand in place of that of the authority. -/
  host : Option Text := none
  deriving DecidableEq, Repr

/-- Cuts a text into the parts of an address. -/
def cut (s : Text) : Parts :=
  let (scheme, rest) := cutScheme s
  let (authority, rest) := cutAuthority rest
  let (path, query, fragment) := cutTail rest
  { scheme, authority, path, query, fragment }

/-- Puts an address together, bringing every part into its normal form. -/
def assemble (p : Parts) : Except Error Url := do
  let (userinfo, host, port) := splitAuthority p.authority
  let host ← (readHost (p.host.getD host)).mapError .invalidHost
  let port ← readPort p.scheme port
  let hasScheme := !p.scheme.isEmpty
  let hasAuthority := !userinfo.isEmpty || !host.isEmpty || port.isSome
  checkPath hasScheme hasAuthority p.path
  let path := if hasScheme || hasAuthority then removeDots p.path else p.path
  return { scheme := Text.lower p.scheme
           userinfo := encode inUserinfo userinfo
           host
           port
           path := encode inPath path
           query := p.query.map (encode inQuery)
           fragment := p.fragment.map (encode inFragment) }

/-- Reads an address. -/
def parse (s : Text) : Except Error Url := do
  if maxLength < s.length then throw .tooLong
  match s.find? isUnprintable with
  | some c => throw (.unprintable c (s.idxOf c))
  | none => assemble (cut s)

/-! ### Changing -/

/-- The parts of an address. -/
def parts (u : Url) : Parts where
  scheme := u.scheme
  authority := u.authority
  path := u.path
  query := u.query
  fragment := u.fragment

/-- Checks a part that is put into an address. -/
def checkPart (component : Component) (value : Text) : Except Error Unit := do
  if maxLength < value.length then throw (.partTooLong component)
  match value.find? isUnprintable with
  | some c => throw (.partUnprintable component c (value.idxOf c))
  | none => return

/-- Puts an address together again after some of its parts have been changed. -/
def reassemble (p : Parts) : Except Error Url := do
  checkPart .scheme p.scheme
  checkPart .authority p.authority
  checkPart .path p.path
  checkPart .query (p.query.getD [])
  checkPart .fragment (p.fragment.getD [])
  checkPart .host (p.host.getD [])
  assemble p

/-- The address with another host. -/
def withHost (host : Text) (u : Url) : Except Error Url :=
  reassemble { u.parts with host := some (inBrackets host) }

/-- The address with another fragment. -/
def withFragment (fragment : Text) (u : Url) : Except Error Url :=
  reassemble { u.parts with fragment := some fragment }

/-! ### Parts -/

/-- The host as it is compared with others. -/
def hostName (u : Url) : Except Error Text :=
  (readableHost u.host).mapError .unreadableHost

/-- What must be equal for two addresses to be of the same origin: scheme, host and port. -/
def origin (u : Url) : Except Error (Text × Text × Option Int) := do
  return (u.scheme, ← u.hostName, u.port)

/-- The text that the fragment stands for. -/
def fragmentText (u : Url) : Text :=
  decode (u.fragment.getD [])

/-- Whether an address stands for itself: it has a scheme and a host. -/
def isAbsolute (u : Url) : Bool :=
  !u.scheme.isEmpty && !u.host.isEmpty

/-- The path by which a server knows a resource: never empty, and with its escapes read. -/
def resource (u : Url) : Text :=
  if u.path.isEmpty then ['/'] else decode u.path

end Url
end CondCss
