import UserRegistry.Config.Loading

/-!
# Files

A tree of files and directories, and the look-up of a path in it.
-/

namespace UserRegistry

/-- A file with its bytes, or a directory with its entries. -/
inductive FileTree where
  | file (bytes : ByteArray)
  | directory (entries : List (String × FileTree))
  deriving Inhabited

namespace FileTree

/-- Puts a tree at a path, making the directories on the way.  A directory that
is already there keeps its entries. -/
def put (content : FileTree) : List String → FileTree → FileTree
  | [], present =>
    match content, present with
    | .directory [], .directory entries => .directory entries
    | _, _ => content
  | name :: path, tree =>
    let entries :=
      match tree with
      | .directory entries => entries
      | .file _ => []
    let inner := put content path ((entries.lookup name).getD (.directory []))
    .directory ((name, inner) :: entries.filter fun entry => entry.1 ≠ name)

def pathParts (path : String) : List String :=
  (path.toList.splitOn '/').map String.ofList

def ofFiles (files : List (String × FileTree)) : FileTree :=
  files.foldl
    (fun tree (path, content) => put content ((pathParts path).filter (· ≠ "")) tree)
    (.directory [])

/-- The longest name of a file, in bytes. -/
def nameLimit : Nat :=
  255

/-- The longest path, in bytes. -/
def pathLimit : Nat :=
  4095

/-- Follows the parts of a path; `above` holds the directories that enclose the
one reached.  An empty part and a single point stay where they are. -/
def follow (above : List FileTree) (tree : FileTree) : List String → Except FileFault FileTree
  | [] => .ok tree
  | part :: parts =>
    match tree with
    | .file _ => .error .notDirectory
    | .directory entries =>
      if part = "" ∨ part = "." then follow above tree parts
      else if part = ".." then
        match above with
        | [] => follow [] (.directory []) parts
        | parent :: above => follow above parent parts
      else if nameLimit < part.utf8ByteSize then .error .nameTooLong
      else
        match entries.lookup part with
        | none => .error .notFound
        | some inner => follow (tree :: above) inner parts

/-- The bytes of the file at a path below this directory. -/
def read (tree : FileTree) (path : String) : Except FileFault ByteArray :=
  if path.toList.contains '\x00' then .error .zeroByte
  else if path = "" then .error .notFound
  else if pathLimit < path.utf8ByteSize then .error .nameTooLong
  else
    let root := if path.startsWith "/" then .directory [] else tree
    match follow [] root (pathParts path) with
    | .error fault => .error fault
    | .ok (.directory _) => .error .isDirectory
    | .ok (.file bytes) => .ok bytes

end FileTree

end UserRegistry
