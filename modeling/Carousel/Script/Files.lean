/-
# Files that scripts are read from

The file system is a tree. A path is walked from the root, or from the working
directory, one component at a time. A symbolic link on the way, or at the end of
it, is replaced by the path that it holds, and only so many links are followed.
The first component that cannot be entered decides how reading fails, so a
missing directory hides everything behind it.
-/

namespace Carousel

/-- Why a file could not be read as text. -/
inductive FileFlaw
  | notFound
  | deviceError
  | noSuchDevice
  | forbidden
  | notDirectory
  | isDirectory
  | invalidArgument
  | nameTooLong
  | tooManyLinks
  | nulInPath
  | outOfMemory
  | notText
  deriving DecidableEq

/-- The wording of a flaw. -/
def FileFlaw.message : FileFlaw → String
  | .notFound => "No such file or directory (os error 2)"
  | .deviceError => "Input/output error (os error 5)"
  | .noSuchDevice => "No such device or address (os error 6)"
  | .forbidden => "Permission denied (os error 13)"
  | .notDirectory => "Not a directory (os error 20)"
  | .isDirectory => "Is a directory (os error 21)"
  | .invalidArgument => "Invalid argument (os error 22)"
  | .nameTooLong => "File name too long (os error 36)"
  | .tooManyLinks => "Too many levels of symbolic links (os error 40)"
  | .nulInPath => "file name contained an unexpected NUL byte"
  | .outOfMemory => "out of memory"
  | .notText => "stream did not contain valid UTF-8"

/-- How a directory comes by its entries. -/
inductive DirectoryKind
  /-- The entries are stored, and there is a longest name for them. -/
  | stored
  /-- The system makes the entries up as they are looked for. A name that is too
  long to exist is as missing as any other. -/
  | generated
  deriving DecidableEq

/-- A directory with named entries, a file with its bytes, a symbolic link with
the path that it holds, or a file that cannot be read as text for a reason of
its own. -/
inductive FileNode
  | directory (kind : DirectoryKind) (entries : List (String × FileNode))
  | file (bytes : List UInt8)
  | link (target : String)
  | faulty (flaw : FileFlaw)

/-- The longest component of a path, in bytes. -/
def DirectoryKind.maxNameBytes : Nat := 255

/-- Whether a name is too long to be looked for in a directory. -/
def DirectoryKind.refuses (kind : DirectoryKind) (name : String) : Bool :=
  kind = .stored ∧ maxNameBytes < name.utf8ByteSize

namespace FileNode

/-- The entry of a directory listing under `name`. -/
def find (name : String) : List (String × FileNode) → Option FileNode
  | [] => none
  | (other, node) :: rest => if other = name then some node else find name rest

end FileNode

/-- A tree of files, seen from a working directory. -/
structure FileTree where
  root : FileNode
  workingDirectory : List String

namespace FileTree

/-- The longest path, in bytes. -/
def maxPathBytes : Nat := 4095

/-- The most links that are followed for one path. -/
def maxLinks : Nat := 40

/-- The components of a path. -/
def components (path : String) : List String :=
  path.splitOn "/"

/-- Where a path starts that is met in the last of the nodes in `trail`: there,
or at the root. -/
def start (path : String) (trail : List FileNode) : List FileNode :=
  if path.startsWith "/" then trail.drop (trail.length - 1) else trail

/-- Walk on from the last of the nodes in `trail`, which lists the directories
from there up to the root, and follow no more than `links` links. -/
def walk (links : Nat) (trail : List FileNode) (path : List String) :
    Except FileFlaw FileNode :=
  match trail, path with
  | [], _ => .error .notFound
  | node :: _, [] => .ok node
  | .directory kind entries :: above, component :: rest =>
    let here := FileNode.directory kind entries :: above
    if component = "" ∨ component = "." then walk links here rest
    else if component = ".." then
      walk links (if above.isEmpty then here else above) rest
    else if kind.refuses component then .error .nameTooLong
    else
      match FileNode.find component entries with
      | none => .error .notFound
      | some (.link target) =>
        if links = 0 then .error .tooManyLinks
        else walk (links - 1) (start target here) (components target ++ rest)
      | some node => walk links (node :: here) rest
  | _ :: _, _ :: _ => .error .notDirectory
termination_by (links, path.length)

/-- The node at a path. -/
def locate (tree : FileTree) (path : String) : Except FileFlaw FileNode :=
  if path.toList.contains '\x00' then .error .nulInPath
  else if path = "" then .error .notFound
  else if maxPathBytes < path.utf8ByteSize then .error .nameTooLong
  else if path.startsWith "/" then
    walk maxLinks [tree.root] (components path)
  else walk maxLinks [tree.root] (tree.workingDirectory ++ components path)

/-- The text of the file at a path. A directory can be opened, but not read. No
walk ends on a link. -/
def readText (tree : FileTree) (path : String) : Except FileFlaw String :=
  match tree.locate path with
  | .error flaw => .error flaw
  | .ok (.directory _ _) => .error .isDirectory
  | .ok (.link _) => .error .tooManyLinks
  | .ok (.faulty flaw) => .error flaw
  | .ok (.file bytes) =>
    match String.fromUTF8? ⟨bytes.toArray⟩ with
    | some text => .ok text
    | none => .error .notText

end FileTree

end Carousel
