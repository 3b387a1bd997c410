import CertSteward.Config.Error
import CertSteward.Mapping
import CertSteward.Text.Utf8

/-!
# Files and directories

A tree of files below one root directory. Paths are lists of names from the
root; what lies outside the root is not there.
-/

namespace CertSteward.Config

set_option autoImplicit false

inductive Node where
  | file (bytes : List UInt8)
  | directory
deriving DecidableEq, Repr

abbrev Path := List String

/-- The nodes below the root by their paths. Every directory on the way to a node is a node. -/
abbrev FileTree := List (Path × Node)

/-- The names of a path text. Empty names and single dots say nothing, and two dots go back. -/
def Path.ofText (text : String) : Path :=
  ((text.toList.splitOn '/').map String.ofList).foldl
    (fun path name =>
      if name = "" ∨ name = "." then path
      else if name = ".." then path.dropLast
      else path ++ [name]) []

namespace FileTree

def find? (tree : FileTree) (path : Path) : Option Node :=
  if path = [] then some .directory else tree.lookup path

def put (tree : FileTree) (path : Path) (node : Node) : FileTree :=
  (path, node) :: tree.filter fun entry => entry.1 != path

/-- Makes the directories from one path on, name by name. A file at the very end is in the way
as such, a file on the way as something that is no directory. -/
def makeFrom (tree : FileTree) (done : Path) : List String → Except FileFault FileTree
  | [] => .ok tree
  | name :: rest =>
      let path := done ++ [name]
      match tree.find? path with
      | some .directory => makeFrom tree path rest
      | some (.file _) => .error (if rest.isEmpty then .fileExists else .notADirectory)
      | none => makeFrom (tree.put path .directory) path rest

def makeDirectory (tree : FileTree) (path : Path) : Except FileFault FileTree :=
  tree.makeFrom [] path

/-- Writes a file into a directory that is there. -/
def write (tree : FileTree) (path : Path) (bytes : List UInt8) : Except FileFault FileTree :=
  match tree.find? path with
  | some .directory => .error .isADirectory
  | _ => .ok (tree.put path (.file bytes))

/-- The text of a file; nothing if there is no such node. -/
def readText (tree : FileTree) (path : Path) : Except FileFault (Option String) :=
  match tree.find? path with
  | none => .ok none
  | some .directory => .error .isADirectory
  | some (.file bytes) =>
      match Text.Utf8.decode? bytes with
      | some text => .ok (some text)
      | none => .error .notText

def name (entry : Path × Node) : String :=
  let path := "/".intercalate entry.1
  match entry.2 with
  | .directory => path ++ "/"
  | .file _ => path

/-- The paths of all nodes in ascending order, those of directories with a slash behind them. -/
def names (tree : FileTree) : List String :=
  (Mapping.ofList (tree.map fun entry => (name entry, ()))).names

end FileTree

end CertSteward.Config
