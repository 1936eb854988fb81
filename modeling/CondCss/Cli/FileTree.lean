import CondCss.Assoc
import CondCss.Cli.Path

/-!
# File trees

A file tree is a file system in memory: directories and files below a current directory, which is
its root. The directories above the root are there, but nothing else in them is known. Of the rest
of the machine the usual directories are there, and a device that is always empty.
-/

namespace CondCss
namespace Cli

/-- Directories and files, by their components. -/
structure FileTree where
  /-- The directories below the root. -/
  directories : List (List Text) := []
  /-- The files, with their bytes. -/
  files : List (List Text × ByteArray) := []

namespace FileTree

/-- The component that goes up. -/
def parent : Text := ['.', '.']

/-- The component that stands for the top of the machine. -/
def top : Text := ['/']

/-- The usual directories at the top of the machine. -/
def usual : List (List Text) :=
  ["bin", "dev", "etc", "home", "lib", "proc", "root", "sys", "tmp", "usr", "var"].map
    fun name => [top, name.toList]

/-- The device that is always empty. -/
def emptyDevice : List Text := [top, "dev".toList, "null".toList]

/-- Whether a place is the root or above it. -/
def isAbove (place : List Text) : Bool :=
  place.all (· == parent)

/-- Whether a place is outside of the tree. -/
def isOutside (place : List Text) : Bool :=
  place.head?.any fun component => component == top || component == parent

/-- What stands at a place. -/
def at? (t : FileTree) (place : List Text) : Option FileKind :=
  if Assoc.contains place t.files || place == emptyDevice then some .file
  else if isAbove place || place == [top] || usual.contains place || t.directories.contains place
  then some .directory
  else none

/-- The number of bytes of a name. -/
def byteLength (name : Text) : Nat :=
  (String.ofList name).utf8ByteSize

/-- The greatest number of bytes of a component. -/
def maxComponentLength : Nat := 255

/-- The greatest number of bytes of a whole name. -/
def maxNameLength : Nat := 4095

/-- Goes from a directory to one of its entries. An empty component and a dot stay, and two dots go
    up, except at the top of the machine; all of them need a directory. -/
def step (t : FileTree) (place : List Text) (component : Text) : Except OsError (List Text) :=
  match t.at? place with
  | none => .error .notFound
  | some .file => .error .notDirectory
  | some .directory =>
    if component.isEmpty || component == ['.'] then .ok place
    else if component == parent then
      .ok (if place == [top] then place
        else if isAbove place then place ++ [parent]
        else place.dropLast)
    else if maxComponentLength < byteLength component then .error .nameTooLong
    else .ok (place ++ [component])

/-- The place that a name leads to; the last component need not be there. -/
def walk (t : FileTree) (name : Text) : Except OsError (List Text) :=
  let start := if name.head? == some '/' then [top] else []
  if name.isEmpty then .error .notFound
  else if maxNameLength < byteLength name then .error .nameTooLong
  else (Text.splitOnChar '/' name).foldlM t.step start

/-- What a name stands for, if it is there. -/
def kind? (t : FileTree) (name : Text) : Option FileKind :=
  match t.walk name with
  | .ok place => t.at? place
  | .error _ => none

/-- The bytes of a file. -/
def read (t : FileTree) (name : Text) : Except OsError ByteArray := do
  let place ← t.walk (Path.normalize name)
  match t.files.lookup place, t.at? place with
  | some bytes, _ => .ok bytes
  | none, some .file => .ok .empty
  | none, some .directory => .error .isDirectory
  | none, none => .error .notFound

/-- Replaces or makes a file. -/
def write (t : FileTree) (name : Text) (text : String) : Except OsError FileTree := do
  let place ← t.walk (Path.normalize name)
  if t.at? place == some .directory then throw .isDirectory
  if place == emptyDevice then return t
  return { t with files := Assoc.insert place text.toUTF8 t.files }

/-- Makes the directories on the way to a place. -/
def makeDirectories (place : List Text) (t : FileTree) : FileTree :=
  let onTheWay := (List.range (place.length + 1)).map place.take
  { t with directories := t.directories ++ onTheWay }

/-- Makes a directory. -/
def addDirectory (name : Text) (t : FileTree) : FileTree :=
  t.makeDirectories (Path.components name)

/-- Makes a file, with the directories on the way to it. -/
def addFile (name : Text) (bytes : ByteArray) (t : FileTree) : FileTree :=
  let place := Path.components name
  let t := t.makeDirectories place.dropLast
  { t with files := Assoc.insert place bytes t.files }

/-- The files inside a tree that another tree does not have with the same bytes. -/
def changesFrom (before after : FileTree) : List (Text × ByteArray) :=
  let isChanged (entry : List Text × ByteArray) : Bool :=
    !isOutside entry.1 && before.files.lookup entry.1 != some entry.2
  (after.files.filter isChanged).map fun (place, bytes) => (Text.joinWith ['/'] place, bytes)

/-- The tree as a file system. -/
def fileSystem : FileSystem (StateM FileTree) where
  kind? name := do return (← get).kind? name
  read name := do return (← get).read name
  write name text := do
    match (← get).write name text with
    | .ok t => set t; return .ok ()
    | .error e => return .error e

end FileTree
end Cli
end CondCss
