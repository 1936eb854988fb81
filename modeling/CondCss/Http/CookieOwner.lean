import CondCss.Url.Join

/-!
# Owners of cookies

An answer may bring cookies, which belong to the host that answered. So the text of the address that
answered is read once more when the answer is there. This reading is about the type of the address
and its authority only: what stands before the first colon is the type, whatever its characters are,
and what stands behind the last number sign is put aside.
-/

namespace CondCss
namespace Http

/-- Why the owner of the cookies in an answer cannot be told. -/
inductive OwnerError where
  /-- The address has no type. -/
  | untyped (address : Text)
  /-- The authority of the address is not well formed. -/
  | badAuthority (error : Url.AuthorityError)
  deriving DecidableEq, Repr

/-- What is said of an error. -/
def OwnerError.message : OwnerError → String
  | untyped address => "unknown url type: " ++ Text.quotedString address
  | badAuthority error => error.message

/-- The mark that may stand before an address. -/
def addressMark : Text := ['U', 'R', 'L', ':']

/-- Whether an address starts with a type: at least one character other than a slash, and a
    colon. -/
def isTyped (address : Text) : Bool :=
  match Text.cutAt? ':' address with
  | some (kind, _) => !kind.isEmpty && !kind.contains '/'
  | none => false

/-- The first thing that keeps the owner of cookies from an address from being told. A number sign
    at the very end of the address does not count. -/
def ownerError? (address : Text) : Option OwnerError :=
  let address := (Text.after? addressMark address).getD address
  let (place, tag) := (Url.cutAtLast? '#' address).getD (address, [])
  let whole := if tag.isEmpty then place else place ++ '#' :: tag
  if !isTyped place then some (.untyped whole)
  else match Url.Reference.read [] whole with
    | .error error => some (.badAuthority error)
    | .ok _ => none

end Http
end CondCss
