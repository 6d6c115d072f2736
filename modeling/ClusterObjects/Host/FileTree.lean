import ClusterObjects.Text.Split

/-!
# A tree of files

Directories and files by their path. A path is walked name by name, and every name but the last has
to lead to a directory. `FileTree.write` changes one file and nothing else. The host may refuse a
change: then nothing is made at a place, or what is written to it breaks off.
-/

namespace ClusterObjects

/-- Why a file cannot be used. -/
inductive FileFault where
  | missing
  | isDirectory
  | notDirectory
  | notText
  | denied
  | readOnly
  | noSpace
  deriving DecidableEq, Repr

def FileFault.message : FileFault → String
  | missing => "No such file or directory (os error 2)"
  | isDirectory => "Is a directory (os error 21)"
  | notDirectory => "Not a directory (os error 20)"
  | notText => "stream did not contain valid UTF-8"
  | denied => "Permission denied (os error 13)"
  | readOnly => "Read-only file system (os error 30)"
  | noSpace => "No space left on device (os error 28)"

namespace FilePath

def isAbsolute (path : String) : Bool := path.startsWith "/"

/-- A path below a directory; one that is absolute stays as it is. -/
def join (directory path : String) : String :=
  if isAbsolute path || directory.isEmpty then path
  else if directory.endsWith "/" then directory ++ path
  else directory ++ "/" ++ path

/-- The names that a path is made of. -/
def names (path : String) : List String :=
  (Text.split '/' path).filter fun name ↦ name != "" && name != "."

/-- The directory that a path lies in. The root and the empty path lie in none. -/
def parent? (path : String) : Option String :=
  match (names path).reverse with
  | [] => none
  | _ :: before =>
    some ((if isAbsolute path then "/" else "") ++ String.intercalate "/" before.reverse)

end FilePath

/-- A place in the tree: the names that lead there, the last one first. -/
abbrev Place := List String

inductive FileEntry where
  | directory
  | file (data : ByteArray)

instance : DecidableEq FileEntry
  | .directory, .directory => isTrue rfl
  | .directory, .file _ => isFalse nofun
  | .file _, .directory => isFalse nofun
  | .file data, .file other =>
    match ByteArray.instDecidableEq data other with
    | isTrue h => isTrue (congrArg FileEntry.file h)
    | isFalse h => isFalse fun heq ↦ h (FileEntry.file.inj heq)

/-- How the host refuses changes at a place. -/
structure Refusal where
  fault : FileFault
  /-- The bytes that a file takes before the fault, when it can be opened or made at all. -/
  room : Option Nat
  deriving DecidableEq

structure FileTree where
  /-- What there is beside the root. -/
  entries : List (Place × FileEntry) := []
  /-- Where relative paths begin. -/
  origin : Place := []
  /-- Where changes are refused. -/
  refusals : List (Place × Refusal) := []
  /-- The files at paths that are no texts, by the bytes of their paths. -/
  unnamed : List (List UInt8 × ByteArray) := []

namespace FileTree

def entryAt? (tree : FileTree) (place : Place) : Option FileEntry :=
  if place.isEmpty then some .directory else tree.entries.lookup place

def put (tree : FileTree) (place : Place) (entry : FileEntry) : FileTree :=
  { tree with entries := (place, entry) :: tree.entries.filter (·.1 != place) }

/-- The fault of a place that has to be a directory. -/
def requireDirectory (tree : FileTree) (place : Place) : Except FileFault Unit :=
  match tree.entryAt? place with
  | some .directory => .ok ()
  | some (.file _) => .error .notDirectory
  | none => .error .missing

/-- The place that a name leads to. -/
def step (place : Place) (name : String) : Place :=
  if name == "" || name == "." then place else if name == ".." then place.drop 1 else name :: place

/-- Walks along names. -/
def walk (tree : FileTree) : Place → List String → Except FileFault Place
  | place, [] => .ok place
  | place, name :: rest => do
    tree.requireDirectory place
    tree.walk (step place name) rest

def start (tree : FileTree) (path : String) : Place :=
  if FilePath.isAbsolute path then [] else tree.origin

/-- The place of a path, which may be free. -/
def locate (tree : FileTree) (path : String) : Except FileFault Place :=
  if path.isEmpty then .error .missing else tree.walk (tree.start path) (Text.split '/' path)

def entry? (tree : FileTree) (path : String) : Option FileEntry :=
  match tree.locate path with
  | .ok place => tree.entryAt? place
  | .error _ => none

def contains (tree : FileTree) (path : String) : Bool := (tree.entry? path).isSome

def isDirectory (tree : FileTree) (path : String) : Bool := tree.entry? path == some .directory

def read (tree : FileTree) (path : String) : Except FileFault ByteArray := do
  match tree.entryAt? (← tree.locate path) with
  | some (.file data) => return data
  | some .directory => throw .isDirectory
  | none => throw .missing

/-- The text of a file in UTF-8. -/
def readText (tree : FileTree) (path : String) : Except FileFault String := do
  match String.fromUTF8? (← tree.read path) with
  | some text => return text
  | none => throw .notText

/-- Writes a file, which is emptied first. A write that is cut short leaves what there was room
for. -/
def write (tree : FileTree) (path : String) (data : ByteArray) :
    Except FileFault Unit × FileTree :=
  match tree.locate path with
  | .error fault => (.error fault, tree)
  | .ok place =>
    if tree.entryAt? place = some .directory then (.error .isDirectory, tree)
    else
      match tree.refusals.lookup place with
      | none => (.ok (), tree.put place (.file data))
      | some ⟨fault, none⟩ => (.error fault, tree)
      | some ⟨fault, some room⟩ =>
        if data.size ≤ room then (.ok (), tree.put place (.file data))
        else (.error fault, tree.put place (.file (data.extract 0 room)))

/-- Walks along names and makes the directories that are missing on the way. -/
def makeAlong : FileTree → Place → List String → Except FileFault Unit × FileTree
  | tree, _, [] => (.ok (), tree)
  | tree, place, name :: rest =>
    let next := step place name
    match tree.entryAt? next with
    | some .directory => makeAlong tree next rest
    | some (.file _) => (.error .notDirectory, tree)
    | none =>
      match tree.refusals.lookup next with
      | some refusal => (.error refusal.fault, tree)
      | none => makeAlong (tree.put next .directory) next rest

/-- Makes a directory and those it lies in, unless something is there already. What was made before
a fault stays. -/
def ensureDirectory (tree : FileTree) (path : String) : Except FileFault Unit × FileTree :=
  if tree.contains path || path.isEmpty then (.ok (), tree)
  else tree.makeAlong (tree.start path) (Text.split '/' path)

end FileTree

end ClusterObjects
