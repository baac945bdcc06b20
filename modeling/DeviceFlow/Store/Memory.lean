import DeviceFlow.Store.Basic

/-!
# A store in memory

A dictionary of workflows by their ids.
-/

namespace DeviceFlow

/-- The workflows of a store in memory. -/
abbrev MemoryStore := Dict String Workflow

namespace MemoryStore

/-- A store without workflows. -/
def empty : MemoryStore := Dict.empty

/-- Puts a workflow in as it is. -/
def put (store : MemoryStore) (w : Workflow) : MemoryStore := store.insert w.id w

/-- The workflow with an id. -/
def load (store : MemoryStore) (id : String) : Option Workflow := store.get? id

/-- The ids of all workflows, sorted. -/
def list (store : MemoryStore) : List String := store.keys.mergeSort (· ≤ ·)

/-- Saves a workflow. -/
def save (store : MemoryStore) (now : Timestamp) (w : Workflow) :
    MemoryStore × Except StoreError Workflow :=
  match (w.inheritCreation (store.load w.id)).stamped? now with
  | .error e => (store, .error e)
  | .ok saved => (store.put saved, .ok saved)

/-- What is reported about saving a workflow. -/
def saveLog (store : MemoryStore) (w : Workflow) : List LogRecord :=
  (w.inheritCreation (store.load w.id)).validationLog

/-- Removes a workflow; whether there was one. -/
def delete (store : MemoryStore) (id : String) : MemoryStore × Bool :=
  (store.erase id, store.contains id)

end MemoryStore

end DeviceFlow
