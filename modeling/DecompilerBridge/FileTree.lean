import DecompilerBridge.Path
import DecompilerBridge.Text.Lossy

/-!
# File trees

Trees of files, looked up by path the way a file system does it: every component but the last has to
be a directory, `.` stays and `..` goes up.
-/

set_option autoImplicit false

namespace DecompilerBridge

/-- Why a path cannot be read. -/
inductive ReadError where
  | missing
  | isDirectory
  | notDirectory
  | nameTooLong
  | nulByte
deriving DecidableEq, Repr

def ReadError.message : ReadError → String
  | missing => "No such file or directory (os error 2)"
  | isDirectory => "Is a directory (os error 21)"
  | notDirectory => "Not a directory (os error 20)"
  | nameTooLong => "File name too long (os error 36)"
  | nulByte => "file name contained an unexpected NUL byte"

/-- A file or a directory with its named members. -/
inductive FileNode where
  | file (bytes : List UInt8)
  | directory (members : List (String × FileNode))

/-- A tree below the root directory, and the directory that relative paths start from. -/
structure FileTree where
  members : List (String × FileNode) := []
  workingDirectory : String := "/"

namespace FileTree

/-- The longest file name, in bytes. -/
def longestName : Nat := 255

/-- The longest path, in bytes. -/
def longestPath : Nat := 4095

/-- The member of a directory with a name. -/
def member? (name : String) : List (String × FileNode) → Option FileNode
  | [] => none
  | (n, node) :: rest => if n = name then some node else member? name rest

/-- Follow path components from a node, given the directories above it, nearest first. -/
def follow : List String → FileNode → List FileNode → Except ReadError FileNode
  | [], node, _ => .ok node
  | _ :: _, .file _, _ => .error .notDirectory
  | name :: rest, .directory members, above =>
    if name = "" ∨ name = "." then follow rest (.directory members) above
    else if name = ".." then
      match above with
      | [] => follow rest (.directory members) []
      | parent :: upper => follow rest parent upper
    else if longestName < Text.byteCount name then .error .nameTooLong
    else
      match member? name members with
      | none => .error .missing
      | some node => follow rest node (.directory members :: above)

/-- The node at a path. -/
def node (t : FileTree) (path : String) : Except ReadError FileNode :=
  if path.toList.contains (Char.ofNat 0) then .error .nulByte
  else if path = "" then .error .missing
  else if longestPath < Text.byteCount path then .error .nameTooLong
  else follow (Path.components (Path.join t.workingDirectory path)) (.directory t.members) []

/-- The bytes of the file at a path. -/
def read (t : FileTree) (path : String) : Except ReadError (List UInt8) :=
  match t.node path with
  | .ok (.file bytes) => .ok bytes
  | .ok (.directory _) => .error .isDirectory
  | .error e => .error e

/-- Drop `.` and empty components and resolve `..` by name. -/
def plainComponents (path : String) : List String :=
  ((Path.components path).foldl (fun above name =>
    if name = "" ∨ name = "." then above
    else if name = ".." then above.tail
    else name :: above) []).reverse

/-- Change the member of a directory with a name; a change to nothing removes it. -/
def alterMember (name : String) (change : Option FileNode → Option FileNode) :
    List (String × FileNode) → List (String × FileNode)
  | [] =>
    match change none with
    | none => []
    | some node => [(name, node)]
  | (n, node) :: rest =>
    if n = name then
      match change (some node) with
      | none => rest
      | some changed => (n, changed) :: rest
    else (n, node) :: alterMember name change rest

/-- The members of a node that is to be a directory. -/
def membersOf : Option FileNode → List (String × FileNode)
  | some (.directory members) => members
  | _ => []

/-- Change what stands at a list of plain components; directories on the way are created. -/
def alterAt (change : Option FileNode → Option FileNode) :
    List String → List (String × FileNode) → List (String × FileNode)
  | [], members => members
  | [name], members => alterMember name change members
  | name :: rest, members =>
    alterMember name (fun node => some (.directory (alterAt change rest (membersOf node)))) members

/-- Put a file or directory at a path, with the directories that lead to it. -/
def insert (t : FileTree) (path : String) (node : FileNode) : FileTree :=
  let components := plainComponents (Path.join t.workingDirectory path)
  { t with members := alterAt (fun _ => some node) components t.members }

/-- Remove what stands at a path. -/
def erase (t : FileTree) (path : String) : FileTree :=
  let components := plainComponents (Path.join t.workingDirectory path)
  match t.node path with
  | .ok _ => { t with members := alterAt (fun _ => none) components t.members }
  | .error _ => t

end FileTree

end DecompilerBridge
