import CondCss.Url.HostName

/-!
# Authorities

While a reference is resolved its authority is looked at more closely. Brackets stand around an
address and nothing else, and no character may look like one of those that end or divide an
authority.
-/

namespace CondCss
namespace Url

/-- What is wrong with an authority. -/
inductive AuthorityError where
  /-- A bracket is missing or stands in the wrong place. -/
  | brackets
  /-- The host beside or between the brackets is no address. -/
  | noAddress (host : Text)
  /-- An address of four numbers stands between the brackets. -/
  | ipv4
  /-- An address of a kind that is not known yet is not well formed. -/
  | future
  /-- A character looks like one that ends or divides an authority. -/
  | lookalike (authority : Text)
  deriving DecidableEq, Repr

/-- What is said of an error. -/
def AuthorityError.message : AuthorityError → String
  | brackets => "Invalid IPv6 URL"
  | noAddress host =>
    Text.quotedString host ++ " does not appear to be an IPv4 or IPv6 address"
  | ipv4 => "An IPv4 address cannot be in brackets"
  | future => "IPvFuture address is invalid"
  | lookalike authority =>
    "netloc '" ++ String.ofList authority ++
      "' contains invalid characters under NFKC normalization"

/-- Splits at the last occurrence of a character. -/
def cutAtLast? (sep : Char) (s : Text) : Option (Text × Text) :=
  (Text.cutAt? sep s.reverse).map fun (after, before) => (before.reverse, after.reverse)

/-- Splits at the first occurrence of a character; without one, nothing follows. -/
def cutOr (sep : Char) (s : Text) : Text × Text :=
  (Text.cutAt? sep s).getD (s, [])

/-- Whether a text is an address of a kind that is not known yet: a version in hexadecimal digits, a
    dot, and more. -/
def isFutureAddress (s : Text) : Bool :=
  match s with
  | 'v' :: rest =>
    let (version, tail) := cutOr '.' rest
    !version.isEmpty && version.all (fun c => (hexValue? c).isSome) && !tail.isEmpty
  | _ => false

/-- What is wrong with a host that belongs to brackets. -/
def bracketedError? (host : Text) : Option AuthorityError :=
  if host.head? == some 'v' then if isFutureAddress host then none else some .future
  else if isIpv4 host then some .ipv4
  else if isIpv6 host then none
  else some (.noAddress host)

/-- What is wrong with the brackets in an authority: around the host there is nothing but a port,
    and if they stand elsewhere, the host must be an address all the same. -/
def bracketError? (authority : Text) : Option AuthorityError :=
  let hostAndPort := ((cutAtLast? '@' authority).map (·.2)).getD authority
  match Text.cutAt? '[' hostAndPort with
  | some (before, rest) =>
    let (host, port) := cutOr ']' rest
    if !before.isEmpty || (!port.isEmpty && port.head? != some ':') then some .brackets
    else bracketedError? host
  | none => bracketedError? (cutOr ':' hostAndPort).1

/-- Characters beyond ASCII that look like a slash, a question mark, a number sign, an at sign or a
    colon, or have one in them, as closed ranges. -/
def lookalikeRanges : List (Nat × Nat) :=
  [ (0x2047, 0x2049), (0x2100, 0x2101), (0x2105, 0x2106), (0x2A74, 0x2A74), (0xFE13, 0xFE13),
    (0xFE16, 0xFE16), (0xFE55, 0xFE56), (0xFE5F, 0xFE5F), (0xFE6B, 0xFE6B), (0xFF03, 0xFF03),
    (0xFF0F, 0xFF0F), (0xFF1A, 0xFF1A), (0xFF1F, 0xFF20) ]

/-- The first thing that is wrong with an authority. -/
def authorityError? (authority : Text) : Option AuthorityError :=
  let opens := authority.contains '['
  let closes := authority.contains ']'
  let badBrackets :=
    if opens != closes then some .brackets
    else if opens then bracketError? authority
    else none
  badBrackets.orElse fun _ =>
    if authority.any (fun c => Text.inRanges lookalikeRanges c.toNat) then
      some (.lookalike authority)
    else none

end Url
end CondCss
