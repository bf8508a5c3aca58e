import WikiMessage.Text.Affix

/-!
# Files

What loading sees of a file system: the content of files and the names in directories. A tree of
files is such a file system; its paths are relative to the root.
-/

namespace WikiMessage.Catalog

inductive FileError
  | notFound
  | notADirectory
  | isADirectory
  | notText
  /-- Any other reason, in the words of the file system. -/
  | other (reason : String)
  deriving DecidableEq, Repr

def FileError.message : FileError → String
  | notFound => "No such file or directory (os error 2)"
  | notADirectory => "Not a directory (os error 20)"
  | isADirectory => "Is a directory (os error 21)"
  | notText => "stream did not contain valid UTF-8"
  | other reason => reason

/-- A file system, by what is found under each path. -/
structure Files where
  read : String → Except FileError String
  /-- The names in a directory. -/
  list : String → Except FileError (List String)

/-- The file system that holds what was read and listed before, and nothing else. -/
def Files.ofFound (texts : List (String × Except FileError String))
    (names : List (String × Except FileError (List String))) : Files where
  read path := (texts.lookup path).getD (.error .notFound)
  list path := (names.lookup path).getD (.error .notFound)

/-- The parts of a path between slashes. -/
def components (path : String) : List String :=
  (path.toList.splitOnP (· = '/')).map String.ofList

/-- The last part of a path, unless it leads upwards. -/
def fileName? (path : String) : Option String :=
  match ((components path).filter fun c => c ≠ "" && c ≠ ".").getLast? with
  | some name => if name = ".." then none else some name
  | none => none

/-- The parts of a name before and after its last point. A point at the beginning does not count. -/
def splitExtension (name : String) : String × Option String :=
  match Text.cutAt? '.' name.toList.reverse with
  | some (after, before) =>
    if before.isEmpty then (name, none)
    else (String.ofList before.reverse, some (String.ofList after.reverse))
  | none => (name, none)

/-- The name of a file without its extension. -/
def stem? (path : String) : Option String :=
  (fileName? path).map fun name => (splitExtension name).1

/-- The path of a name in a directory. -/
def joinPath (directory name : String) : String :=
  if directory.isEmpty || directory.toList.getLast? = some '/' then directory ++ name
  else directory ++ "/" ++ name

inductive FileTree
  | file (bytes : ByteArray)
  | directory (entries : List (String × FileTree))

namespace FileTree

/-- The entry at the end of a path, where `above` are the directories on the way, nearest first. -/
def follow (above : List FileTree) (here : FileTree) : List String → Except FileError FileTree
  | [] => .ok here
  | part :: parts =>
    match here with
    | file _ => .error .notADirectory
    | directory entries =>
      if part = "" || part = "." then follow above here parts
      else if part = ".." then
        match above with
        | up :: above => follow above up parts
        | [] => .error .notFound
      else
        match entries.lookup part with
        | some entry => follow (here :: above) entry parts
        | none => .error .notFound

/-- The entry of a path that is relative to the tree. -/
def find (tree : FileTree) (path : String) : Except FileError FileTree :=
  if path.isEmpty || path.toList.head? = some '/' then .error .notFound
  else follow [] tree (components path)

def read (tree : FileTree) (path : String) : Except FileError String :=
  match tree.find path with
  | .error e => .error e
  | .ok (directory _) => .error .isADirectory
  | .ok (file bytes) =>
    match String.fromUTF8? bytes with
    | some text => .ok text
    | none => .error .notText

def list (tree : FileTree) (path : String) : Except FileError (List String) :=
  match tree.find path with
  | .error e => .error e
  | .ok (directory entries) => .ok (entries.map Prod.fst)
  | .ok (file _) => .error .notADirectory

def files (tree : FileTree) : Files := ⟨tree.read, tree.list⟩

/-- Puts an entry at the end of a path of names, with the directories on the way. -/
def put (tree : FileTree) : List String → FileTree → FileTree
  | [], entry => entry
  | name :: names, entry =>
    let entries := match tree with
      | directory entries => entries
      | file _ => []
    let child := (entries.lookup name).getD (directory [])
    directory ((name, put child names entry) :: entries.filter fun e => e.1 ≠ name)

end FileTree
end WikiMessage.Catalog
