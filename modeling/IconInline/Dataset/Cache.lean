import IconInline.Host

/-!
# Cached datasets

A dataset is loaded when it is first asked for and kept from then on. A load that fails leaves
no trace, so the next request loads again.
-/

namespace IconInline

/-- The cells of the keys that have been asked for, each key once. A cell is empty until a load
for it succeeds. -/
structure Cache where
  entries : List (DatasetRef × Option IconSet) := []
  deriving DecidableEq, Repr

namespace Cache

/-- A dataset, if it has been loaded. -/
def find? (cache : Cache) (key : DatasetRef) : Option IconSet :=
  (cache.entries.lookup key).join

/-- The number of datasets that have been loaded. -/
def size (cache : Cache) : Nat := cache.entries.countP (·.2.isSome)

/-- The place of the cell of a key, and the cache with this cell. A new key gets an empty one. -/
def cell (cache : Cache) (key : DatasetRef) : Nat × Cache :=
  match cache.entries.findIdx? (·.1 == key) with
  | some place => (place, cache)
  | none => (cache.entries.length, ⟨cache.entries ++ [(key, none)]⟩)

/-- What a cell holds. -/
def content? (cache : Cache) (place : Nat) : Option IconSet := (cache.entries[place]?).bind (·.2)

/-- Keeps a loaded dataset in a cell. -/
def fill (cache : Cache) (place : Nat) (icons : IconSet) : Cache :=
  ⟨cache.entries.modify place fun (key, _) => (key, some icons)⟩

/-- A dataset, which is loaded unless it has been before. -/
def fetch {m : Type → Type} [Monad m] (host : Host m) (key : DatasetRef) :
    StateT Cache m (Except Failure IconSet) := do
  let (place, cache) := (← get).cell key
  set cache
  match cache.content? place with
  | some icons => return .ok icons
  | none =>
    host.log ⟨.info, "Loading icon dataset " ++ key.display⟩
    match ← host.load key with
    | .ok icons =>
      modify (·.fill place icons)
      return .ok icons
    | .error e => return .error e

/-- Loads datasets in their order up to the first that fails. -/
def loadAll {m : Type → Type} [Monad m] (host : Host m) :
    List DatasetRef → StateT Cache m (Except Failure Unit)
  | [] => return .ok ()
  | key :: rest => do
    match ← fetch host key with
    | .ok _ => loadAll host rest
    | .error e => return .error e

end Cache

end IconInline
