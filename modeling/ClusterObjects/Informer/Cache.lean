import ClusterObjects.Object.Basic

/-!
# The cache of an informer

A collection is followed by listing it and then watching it, again and again. The cache keeps the
last known state of every object, so that each change can be reported together with what it
changed, and deletions that nobody watched are found when the next list is complete.
-/

namespace ClusterObjects

/-- What identifies an object among those of its kind: its namespace, which may be absent, and its
name. -/
structure ObjectKey where
  scope : Option String
  name : String
  deriving DecidableEq, Repr

/-- An object that has a name. -/
structure NamedObject where
  object : Object
  name : String
  named : object.name? = some name
  deriving DecidableEq, Repr

namespace NamedObject

def ofObject? (object : Object) : Option NamedObject :=
  match named : object.name? with
  | some name => some { object, name, named }
  | none => none

def namespace? (named : NamedObject) : Option String := named.object.namespace?

def key (named : NamedObject) : ObjectKey := ⟨named.namespace?, named.name⟩

end NamedObject

/-- A change of a collection: the start of a list, an object in it and its end, and outside of
lists an object that is there or gone. -/
inductive CollectionEvent where
  | init
  | initApply (object : NamedObject)
  | initDone
  | apply (object : NamedObject)
  | delete (object : NamedObject)
  deriving DecidableEq, Repr

/-- What the user of a cache is told. -/
inductive CacheCall where
  | add (object : NamedObject)
  | update (old new : NamedObject)
  | delete (object : NamedObject)
  deriving DecidableEq, Repr

/-- Objects by their keys, each key once. -/
abbrev ObjectMap := List (ObjectKey × NamedObject)

namespace ObjectMap

def get? (map : ObjectMap) (key : ObjectKey) : Option NamedObject := map.lookup key

def erase (map : ObjectMap) (key : ObjectKey) : ObjectMap := map.filter (·.1 != key)

/-- Puts an object under its key. -/
def put (map : ObjectMap) (object : NamedObject) : ObjectMap :=
  (object.key, object) :: erase map object.key

def objects (map : ObjectMap) : List NamedObject := map.map (·.2)

end ObjectMap

structure InformerCache where
  objects : ObjectMap := []
  /-- The keys of the list that is being read, while there is one. -/
  relisted : Option (List ObjectKey) := none
  /-- Whether a list has been read to its end. -/
  synced : Bool := false

namespace InformerCache

def put (cache : InformerCache) (object : NamedObject) : List CacheCall × InformerCache :=
  let call := match ObjectMap.get? cache.objects object.key with
    | some old => .update old object
    | none => .add object
  ([call], { cache with objects := ObjectMap.put cache.objects object })

/-- The calls that an event makes, and the cache after it. -/
def step (cache : InformerCache) : CollectionEvent → List CacheCall × InformerCache
  | .init => ([], { cache with relisted := some [] })
  | .initApply object =>
    { cache with relisted := cache.relisted.map (object.key :: ·) }.put object
  | .initDone =>
    match cache.relisted with
    | some seen =>
      let gone := cache.objects.filter fun entry ↦ !seen.contains entry.1
      let kept := cache.objects.filter fun entry ↦ seen.contains entry.1
      ((ObjectMap.objects gone).map .delete, { objects := kept, relisted := none, synced := true })
    | none => ([], { cache with synced := true })
  | .apply object => cache.put object
  | .delete object =>
    ([.delete object], { cache with objects := ObjectMap.erase cache.objects object.key })

/-- Reports every object as unchanged. -/
def resync (cache : InformerCache) : List CacheCall :=
  (ObjectMap.objects cache.objects).map fun object ↦ .update object object

end InformerCache

end ClusterObjects
