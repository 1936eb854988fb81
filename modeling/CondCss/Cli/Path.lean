import CondCss.Text.Quoted

/-!
# File names

A file is named by components between slashes. In the normal form of a name there are no empty
components and no single dots.
-/

namespace CondCss
namespace Cli
namespace Path

/-- The components of a name that matter. -/
def components (name : Text) : List Text :=
  (Text.splitOnChar '/' name).filter fun c => !c.isEmpty && c != ['.']

/-- The slashes at the start of a name that matter: one, or exactly two. -/
def root (name : Text) : Text :=
  match (name.takeWhile (· == '/')).length with
  | 0 => []
  | 2 => ['/', '/']
  | _ => ['/']

/-- The normal form of a name. -/
def normalize (name : Text) : Text :=
  match root name ++ Text.joinWith ['/'] (components name) with
  | [] => ['.']
  | name => name

/-- The last component of a name. -/
def lastComponent (name : Text) : Text :=
  (components name).getLast?.getD []

end Path

/-- Why the operating system refuses a file. -/
inductive OsError where
  | notFound
  | notDirectory
  | isDirectory
  | nameTooLong
  /-- Any other error, with its number and its text. -/
  | other (code : Nat) (text : String)
  deriving DecidableEq, Repr

/-- What is said of an error with a file, named in normal form. -/
def OsError.message (file : Text) (e : OsError) : String :=
  let (code, text) := match e with
    | notFound => (2, "No such file or directory")
    | notDirectory => (20, "Not a directory")
    | isDirectory => (21, "Is a directory")
    | nameTooLong => (36, "File name too long")
    | other code text => (code, text)
  s!"[Errno {code}] " ++ text ++ ": " ++ Text.quotedString (Path.normalize file)

/-- What a name stands for. -/
inductive FileKind where
  | file
  | directory
  deriving DecidableEq, Repr

/-- What the commands need of a file system. -/
structure FileSystem (m : Type → Type) where
  /-- What a name stands for, if it is there. -/
  kind? : Text → m (Option FileKind)
  /-- The bytes of a file. -/
  read : Text → m (Except OsError ByteArray)
  /-- Replaces or makes a file. -/
  write : Text → String → m (Except OsError Unit)

end Cli
end CondCss
