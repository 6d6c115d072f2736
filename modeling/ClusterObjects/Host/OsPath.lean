import ClusterObjects.Host.FileTree
import ClusterObjects.Text.Encoding

/-!
# Paths of the system

The system takes any bytes for a path, and a path need not be a text. A path that is none can be
used and shown, but what is shown of it is the text of another path.
-/

namespace ClusterObjects

structure OsPath where
  bytes : List UInt8
  deriving DecidableEq, Repr

namespace OsPath

def ofText (text : String) : OsPath := ⟨Text.bytesOf text.toList⟩

/-- The text that is shown for a path. -/
def shown (path : OsPath) : String := Text.decodeLossy path.bytes

/-- The text that a path is, if it is one. -/
def text? (path : OsPath) : Option String :=
  if ofText path.shown = path then some path.shown else none

end OsPath

/-- The file at a path. -/
def FileTree.readAt (tree : FileTree) (path : OsPath) : Except FileFault ByteArray :=
  match path.text? with
  | some text => tree.read text
  | none =>
    match tree.unnamed.lookup path.bytes with
    | some data => .ok data
    | none => .error .missing

/-- Whether there is something at a path. -/
def FileTree.containsAt (tree : FileTree) (path : OsPath) : Bool :=
  match path.text? with
  | some text => tree.contains text
  | none => (tree.unnamed.lookup path.bytes).isSome

end ClusterObjects
