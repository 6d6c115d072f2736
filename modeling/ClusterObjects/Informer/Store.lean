import ClusterObjects.Informer.Cache

/-!
# The store that listers read

A store follows a collection for readers. A list is gathered aside and takes the store's place when
it is complete, from which moment on the store is ready.
-/

namespace ClusterObjects

structure ObjectStore where
  objects : ObjectMap := []
  buffer : ObjectMap := []
  ready : Bool := false

namespace ObjectStore

def step (store : ObjectStore) : CollectionEvent → ObjectStore
  | .init => { store with buffer := [] }
  | .initApply object => { store with buffer := ObjectMap.put store.buffer object }
  | .initDone => { objects := store.buffer, buffer := [], ready := true }
  | .apply object => { store with objects := ObjectMap.put store.objects object }
  | .delete object => { store with objects := ObjectMap.erase store.objects object.key }

/-- All objects. -/
def list (store : ObjectStore) : List NamedObject := ObjectMap.objects store.objects

def listByNamespace (store : ObjectStore) (name : String) : List NamedObject :=
  store.list.filter fun object ↦ object.namespace? == some name

/-- The object with a name; an empty namespace stands for none. -/
def get? (store : ObjectStore) (namespaceName name : String) : Option NamedObject :=
  ObjectMap.get? store.objects
    ⟨if namespaceName.isEmpty then none else some namespaceName, name⟩

end ObjectStore

end ClusterObjects
