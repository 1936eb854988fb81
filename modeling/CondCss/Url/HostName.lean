import CondCss.Url.Label
import CondCss.Url.Percent

/-!
# Hosts

A host is an address of four numbers, an address in brackets, or a name. Names are written in lower
case; a name with characters beyond ASCII is written in its ASCII form.
-/

namespace CondCss
namespace Url

/-- Whether a host looks like four numbers between dots. -/
def looksNumeric (host : Text) : Bool :=
  let parts := Text.splitOnChar '.' host
  parts.length == 4 && parts.all fun part => !part.isEmpty && part.all Char.isDigit

/-- Whether a text is a number up to 255 without leading zeros. -/
def isOctet (s : Text) : Bool :=
  !s.isEmpty && s.length ≤ 3 && s.all Char.isDigit && (s.length == 1 || s.head? != some '0') &&
    s.foldl (fun n c => 10 * n + (c.toNat - '0'.toNat)) 0 ≤ 255

/-- Whether a text is an address of four numbers. -/
def isIpv4 (s : Text) : Bool :=
  let parts := Text.splitOnChar '.' s
  parts.length == 4 && parts.all isOctet

/-- Whether a text is a group of an address in brackets. -/
def isHextet (s : Text) : Bool :=
  !s.isEmpty && s.length ≤ 4 && s.all fun c => (hexValue? c).isSome

/-- The groups of an address in brackets, where four numbers at the end count as two groups. -/
def hextets? (s : Text) : Option (List Text) :=
  let parts := Text.splitOnChar ':' s
  match parts.getLast? with
  | some last =>
    if last.contains '.' then
      if isIpv4 last then some (parts.dropLast ++ [['0'], ['0']]) else none
    else some parts
  | none => none

/-- Whether groups make up an address: eight of them, or fewer with one gap between two colons. -/
def areGroups (parts : List Text) : Bool :=
  let gaps := ((parts.drop 1).dropLast).countP (·.isEmpty)
  if parts.length < 3 || 9 < parts.length then false
  else if gaps == 0 then parts.length == 8 && parts.all isHextet
  else
    let opening := parts.head? == some []
    let closing := parts.getLast? == some []
    let groups := parts.filter (!·.isEmpty)
    gaps == 1 && groups.length ≤ 7 && groups.all isHextet &&
      (!opening || parts[1]? == some []) &&
      (!closing || parts[parts.length - 2]? == some [])

/-- Whether a text is an address of the kind that stands in brackets, perhaps with a zone. -/
def isIpv6 (s : Text) : Bool :=
  let zoned := Text.cutAt? '%' s
  let address := (zoned.map (·.1)).getD s
  let zoneFits := zoned.all fun (_, zone) => !zone.isEmpty && !zone.contains '%'
  zoneFits && !s.contains '/' && (hextets? address).any areGroups

/-- Why a text is no host. -/
inductive HostError where
  | ipv4 (host : Text)
  | ipv6 (host : Text)
  | name (host : Text)
  deriving DecidableEq, Repr

/-- What is said of a text that is no host. -/
def HostError.message : HostError → String
  | ipv4 host => "Invalid IPv4 address: " ++ Text.quotedString host
  | ipv6 host => "Invalid IPv6 address: " ++ Text.quotedString host
  | name host => "Invalid IDNA hostname: " ++ Text.quotedString host

/-- Brings a host into its normal form. -/
def readHost (host : Text) : Except HostError Text :=
  if host.isEmpty then .ok []
  else if looksNumeric host then if isIpv4 host then .ok host else .error (.ipv4 host)
  else
    let inside := (host.drop 1).dropLast
    if host == '[' :: inside ++ [']'] then
      if isIpv6 inside then .ok inside else .error (.ipv6 host)
    else if Text.isAscii host then .ok (encode inHost (Text.lower host))
    else match asciiName (Text.lower host) with
      | .ok form => .ok form
      | .error _ => .error (.name host)

/-- A host as it is compared with others: a name in ASCII that stands for another one is read. -/
def readableHost (host : Text) : Except NameError Text :=
  if asciiMarker.isPrefixOf host then readableName host else .ok host

end Url
end CondCss
