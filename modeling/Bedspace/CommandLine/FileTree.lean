import Bedspace.Text.Utf8

/-!
# Files in folders

A command line can be carried out among given files, without those of a machine. They stand in a
tree, in which paths are followed as a machine follows them.

* `FileTree.insert` puts a file at a path;
* `Location` is a folder that was opened, with the folders around it; `Location.find` follows a path
  from there. A path with a slash in front starts at the outermost folder, `.` and an empty name
  stay where they are and `..` leads to the folder around;
* only a folder has anything below it, also where the rest of the path would lead nowhere;
* `Location.read` gives the bytes of what a path leads to: a folder can be opened and holds none.
-/

namespace Bedspace

open Text

/-- What a name stands for: a file with its bytes, or a folder with what it holds. -/
inductive FileTree where
  | file (bytes : List UInt8)
  | folder (entries : List (String × FileTree))

/-- Why a path leads nowhere. -/
inductive PathFault where
  | missing
  | notFolder
  | nameTooLong
  deriving DecidableEq, Repr

/-- The wording for a path that leads nowhere. -/
def PathFault.message : PathFault → String
  | missing => "No such file or directory (os error 2)"
  | notFolder => "Not a directory (os error 20)"
  | nameTooLong => "File name too long (os error 36)"

/-- The names of a path, between its slashes. -/
def pathNames (path : String) : List String := (path.toList.splitOn '/').map String.ofList

/-- The most bytes that a name can have. -/
def nameLimit : Nat := 255

/-- The most bytes that a path can have. -/
def pathLimit : Nat := 4095

namespace FileTree

/-- A folder that holds nothing. -/
def empty : FileTree := .folder []

/-- What a folder holds; a file holds nothing by name. -/
def entries : FileTree → List (String × FileTree)
  | file _ => []
  | folder entries => entries

/-- The bytes that can be read. -/
def bytes : FileTree → List UInt8
  | file bytes => bytes
  | folder _ => []

/-- The tree with a file at a path, in the place of what was there. -/
def insert (content : List UInt8) : List String → FileTree → FileTree
  | [], _ => .file content
  | name :: names, tree =>
    let inner := (tree.entries.lookup name).getD empty
    .folder ((name, insert content names inner) :: tree.entries.filter fun entry => entry.1 ≠ name)

/-- The tree of some files, of which the first one counts if two have one path. -/
def ofFiles (files : List (String × List UInt8)) : FileTree :=
  files.foldr (fun (path, content) tree =>
    tree.insert content ((pathNames path).filter fun name => name ≠ "" && name ≠ ".")) empty

/-- What stands at the root of a machine: the usual folders, and among the devices an empty file. -/
def root : FileTree :=
  let usual := ["bin", "boot", "etc", "home", "lib", "media", "mnt", "opt", "proc", "root", "run",
    "sbin", "srv", "sys", "tmp", "usr", "var"]
  .folder (("dev", .folder [("null", .file [])]) :: usual.map fun name => (name, empty))

end FileTree

/-- A place in a tree of files, with the folders around it, the nearest one first. -/
structure Location where
  here : FileTree
  around : List FileTree

namespace Location

/-- Where the files of a program are that was started in a folder for it alone. -/
def ofFiles (files : List (String × List UInt8)) : Location :=
  ⟨.ofFiles files, [.empty, .root]⟩

/-- The outermost folder. -/
def outermost (location : Location) : Location :=
  ⟨location.around.getLast?.getD location.here, []⟩

/-- The folder around a place; the outermost one lies in itself. -/
def up (location : Location) : Location :=
  match location.around with
  | [] => location
  | outer :: around => ⟨outer, around⟩

/-- Follows one name. -/
def enter (location : Location) (name : String) : Except PathFault Location :=
  match location.here with
  | .file _ => .error .notFolder
  | .folder entries =>
    if name = "" || name = "." then .ok location
    else if name = ".." then .ok location.up
    else if (Utf8.bytes name).length > nameLimit then .error .nameTooLong
    else
      match entries.lookup name with
      | some inner => .ok ⟨inner, location.here :: location.around⟩
      | none => .error .missing

/-- What a path leads to from a place. -/
def find (location : Location) (path : String) : Except PathFault FileTree :=
  if path = "" then .error .missing
  else if (Utf8.bytes path).length > pathLimit then .error .nameTooLong
  else
    let start := if path.startsWith "/" then location.outermost else location
    ((pathNames path).foldlM enter start).map here

/-- The bytes of what a path leads to. -/
def read (location : Location) (path : String) : Except PathFault (List UInt8) :=
  (location.find path).map FileTree.bytes

end Location

end Bedspace
