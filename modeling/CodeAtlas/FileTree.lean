import CodeAtlas.Path
import CodeAtlas.Text.Utf8

set_option autoImplicit false

/-! # A tree of files

All that the program knows of a disk: folders of named entries and files of bytes. Reading and writing
are functions on the tree, and each failure has a cause that says what stood in the way. Links, devices and
the rights to files are left out. -/

namespace CodeAtlas

/-- A file, or a folder of named entries with the size that the file system reports of it. -/
inductive FileTree where
  | file (bytes : ByteArray)
  | folder (size : Nat) (entries : List (String × FileTree))
deriving Inhabited

/-- What was attempted when a file operation failed. -/
inductive FileOperation where
  | openFile
  | readFolder
  | stat
  | mkdir
  | rename
deriving DecidableEq

/-- The word for an operation in messages. -/
def FileOperation.word : FileOperation → String
  | openFile => "open"
  | readFolder => "scandir"
  | stat => "stat"
  | mkdir => "mkdir"
  | rename => "rename"

/-- Why a file operation failed. -/
inductive FileError where
  | notFound (op : FileOperation) (path : String)
  | notFolder (op : FileOperation) (path : String)
  | exists (op : FileOperation) (path : String)
  | isFolder
  | isFolderAt (op : FileOperation) (path : String)
deriving DecidableEq

/-- The wording of a failure. -/
def FileError.message : FileError → String
  | notFound op path => "ENOENT: no such file or directory, " ++ op.word ++ " '" ++ path ++ "'"
  | notFolder op path => "ENOTDIR: not a directory, " ++ op.word ++ " '" ++ path ++ "'"
  | .exists op path => "EEXIST: file already exists, " ++ op.word ++ " '" ++ path ++ "'"
  | isFolder => "EISDIR: illegal operation on a directory, read"
  | isFolderAt op path => "EISDIR: illegal operation on a directory, " ++ op.word ++ " '" ++ path ++ "'"

namespace FileTree

def empty (size : Nat) : FileTree := folder size []

/-- The size of a node: of a file its bytes, of a folder what the file system says. -/
def size : FileTree → Nat
  | file bytes => bytes.size
  | folder size _ => size

/-- What stands at a list of segments below a node. A file has nothing below it, which is told apart
    from a name that is missing. -/
inductive Found where
  | node (t : FileTree)
  | missing
  | belowFile

/-- Look up a list of segments. -/
def lookup : FileTree → List String → Found
  | t, [] => .node t
  | file _, _ :: _ => .belowFile
  | folder _ entries, s :: rest =>
    match entries.lookup s with
    | some t => t.lookup rest
    | none => .missing

/-- The node at an absolute path. -/
def find (t : FileTree) (path : String) : Found :=
  t.lookup (Path.absoluteSegments path)

/-- The bytes of the file at a path. -/
def read (t : FileTree) (path : String) : Except FileError ByteArray :=
  match t.find path with
  | .node (file bytes) =>
    if path.endsWith "/" then .error (.notFolder .openFile path) else .ok bytes
  | .node (folder _ _) => .error .isFolder
  | .missing => .error (.notFound .openFile path)
  | .belowFile => .error (.notFolder .openFile path)

/-- The entries of the folder at a path. -/
def list (t : FileTree) (path : String) : Except FileError (List (String × FileTree)) :=
  match t.find path with
  | .node (folder _ entries) => .ok entries
  | .node (file _) => .error (.notFolder .readFolder path)
  | .missing => .error (.notFound .readFolder path)
  | .belowFile => .error (.notFolder .readFolder path)

/-- Give an entry of a folder a new node: in its place, or at the end. -/
def setEntry (entries : List (String × FileTree)) (name : String) (t : FileTree) :
    List (String × FileTree) :=
  if entries.any (·.1 == name) then entries.map fun e => if e.1 == name then (name, t) else e
  else entries ++ [(name, t)]

/-- Put a node at a list of segments, making the folders above it, each of the size `fresh`. A file in the
    way is an error, given as the number of segments that lead to it. -/
def place (fresh : Nat) (node : FileTree) : FileTree → List String → Except Nat FileTree
  | _, [] => .ok node
  | file _, _ :: _ => .error 0
  | folder size entries, s :: rest =>
    let child := (entries.lookup s).getD (empty fresh)
    match place fresh node child rest with
    | .ok t => .ok (folder size (setEntry entries s t))
    | .error n => .error (n + 1)

/-- Make a folder and all folders above it. New folders are as large as the outermost one. -/
def makeFolder (t : FileTree) (path : String) : Except FileError FileTree :=
  match t.find path with
  | .node (folder _ _) => .ok t
  | .node (file _) => .error (.exists .mkdir path)
  | _ =>
    match place t.size (empty t.size) t (Path.absoluteSegments path) with
    | .ok t => .ok t
    | .error _ => .error (.notFolder .mkdir path)

/-- Write a file into an existing folder. -/
def write (t : FileTree) (path : String) (bytes : ByteArray) : Except FileError FileTree :=
  match t.find (Path.dirname path) with
  | .node (folder _ _) =>
    match t.find path with
    | .node (folder _ _) => .error (.isFolderAt .openFile path)
    | _ =>
      match place t.size (file bytes) t (Path.absoluteSegments path) with
      | .ok t => .ok t
      | .error _ => .error (.notFolder .openFile path)
  | .missing => .error (.notFound .openFile path)
  | _ => .error (.notFolder .openFile path)

/-- The tree without the node at a list of segments. -/
def removeAt : FileTree → List String → FileTree
  | t, [] => t
  | file b, _ :: _ => file b
  | folder size entries, [s] => folder size (entries.filter (·.1 != s))
  | folder size entries, s :: r :: rest =>
    match entries.lookup s with
    | some t => folder size (setEntry entries s (t.removeAt (r :: rest)))
    | none => folder size entries

/-- The tree without the node at a path. -/
def remove (t : FileTree) (path : String) : FileTree :=
  t.removeAt (Path.absoluteSegments path)

/-- Move a file over another one, or to a new name. -/
def rename (t : FileTree) (source target : String) : Except FileError FileTree :=
  match t.find source with
  | .node (file bytes) =>
    match t.find target with
    | .node (folder _ _) => .error (.isFolderAt .rename (source ++ "' -> '" ++ target))
    | _ => (t.remove source).write target bytes
  | .node (folder _ _) => .error (.isFolderAt .rename (source ++ "' -> '" ++ target))
  | _ => .error (.notFound .rename (source ++ "' -> '" ++ target))

end FileTree

end CodeAtlas
