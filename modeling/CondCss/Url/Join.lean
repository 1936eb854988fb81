import CondCss.Url.Basic

/-!
# Relative addresses

A reference is resolved against a base address: what it lacks at the front is taken from the base.
-/

namespace CondCss
namespace Url

/-- The parts of a reference, as they are written. A missing part is empty. -/
structure Reference where
  /-- The scheme. -/
  scheme : Text
  /-- The authority. -/
  authority : Text
  /-- The path. -/
  path : Text
  /-- What follows a semicolon in the last segment. -/
  params : Text
  /-- The query. -/
  query : Text
  /-- The fragment. -/
  fragment : Text
  deriving DecidableEq, Repr

namespace Reference

/-- Schemes in which references are resolved. -/
def hierarchical : List Text :=
  ["", "ftp", "http", "gopher", "nntp", "imap", "wais", "file", "https", "shttp", "mms", "prospero",
   "rtsp", "rtspu", "sftp", "svn", "svn+ssh", "ws", "wss"].map String.toList

/-- Schemes whose last segment may have parameters. -/
def parametric : List Text :=
  ["", "ftp", "hdl", "prospero", "http", "imap", "https", "shttp", "rtsp", "rtspu", "sip", "sips",
   "mms", "sftp", "tel"].map String.toList

/-- Splits the parameters off the last segment of a path. -/
def cutParams (path : Text) : Text × Text :=
  let (directory, last) :=
    match cutAtLast? '/' path with
    | some (directory, last) => (directory ++ ['/'], last)
    | none => ([], path)
  match Text.cutAt? ';' last with
  | some (name, params) => (directory ++ name, params)
  | none => (path, [])

/-- Reads a reference; without a scheme it has the default one. -/
def read (defaultScheme s : Text) : Except AuthorityError Reference :=
  let (scheme, rest) :=
    match Text.cutAt? ':' s with
    | some (scheme, rest) =>
      if scheme.all isSchemeChar && scheme.head?.any Char.isAlpha then (Text.lower scheme, rest)
      else (defaultScheme, s)
    | none => (defaultScheme, s)
  let (authority, rest) := cutAuthority rest
  let (path, query, fragment) := cutTail rest
  let (path, params) := if parametric.contains scheme then cutParams path else (path, [])
  match authorityError? authority with
  | some error => .error error
  | none => .ok ⟨scheme, authority, path, params, query.getD [], fragment.getD []⟩

/-- Prints a reference; empty parts are left out. -/
def print (r : Reference) : Text :=
  let path := if r.params.isEmpty then r.path else r.path ++ [';'] ++ r.params
  let startsAuthority := ['/', '/'].isPrefixOf path
  let hasAuthority := !r.authority.isEmpty ||
    (!r.scheme.isEmpty && hierarchical.contains r.scheme && !startsAuthority)
  let rooted := if path.isEmpty || path.head? == some '/' then path else '/' :: path
  (if r.scheme.isEmpty then [] else r.scheme ++ [':']) ++
  (if hasAuthority then ['/', '/'] ++ r.authority ++ rooted else path) ++
  (if r.query.isEmpty then [] else '?' :: r.query) ++
  (if r.fragment.isEmpty then [] else '#' :: r.fragment)

/-- Drops the empty segments between the first and the last one. -/
def dropEmptyInside (segments : List Text) : List Text :=
  match segments with
  | first :: rest =>
    first :: rest.dropLast.filter (!·.isEmpty) ++ rest.getLast?.toList
  | [] => []

/-- Handles one segment while a path is resolved. -/
def resolveSegment (out : List Text) (segment : Text) : List Text :=
  if segment == ['.', '.'] then out.dropLast
  else if segment == ['.'] then out
  else out ++ [segment]

/-- Resolves a path that is not empty against the path of the base. -/
def resolvePath (base path : Text) : Text :=
  let inherited :=
    let parts := Text.splitOnChar '/' base
    if parts.getLast? == some [] then parts else parts.dropLast
  let segments :=
    if path.head? == some '/' then Text.splitOnChar '/' path
    else dropEmptyInside (inherited ++ Text.splitOnChar '/' path)
  let resolved := segments.foldl resolveSegment []
  let last := segments.getLast?.getD []
  let resolved := if last == ['.'] || last == ['.', '.'] then resolved ++ [[]] else resolved
  match Text.joinWith ['/'] resolved with
  | [] => ['/']
  | path => path

/-- Resolves a reference against a base. -/
def resolve (base r : Reference) : Reference :=
  if !r.authority.isEmpty then r
  else if r.path.isEmpty && r.params.isEmpty then
    { r with
      authority := base.authority
      path := base.path
      params := base.params
      query := if r.query.isEmpty then base.query else r.query }
  else { r with authority := base.authority, path := resolvePath base.path r.path }

end Reference

/-- The text of a reference resolved against the text of a base. -/
def resolveText (base s : Text) : Except AuthorityError Text := do
  if base.isEmpty then return s
  if s.isEmpty then return base
  let baseParts ← Reference.read [] base
  let parts ← Reference.read baseParts.scheme s
  if parts.scheme == baseParts.scheme && Reference.hierarchical.contains parts.scheme then
    return (Reference.resolve baseParts parts).print
  return s

/-- The address that a relative address leads to from the address `u`. -/
def join (u reference : Url) : Except Error Url := do
  let resolved ← (resolveText u.print reference.print).mapError .unresolvable
  parse resolved

end Url
end CondCss
