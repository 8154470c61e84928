import FluentSql.Duration
import FluentSql.Row.Basic
import FluentSql.Value.Serialized

/-! Results kept for statements that were asked for before. -/
namespace FluentSql

/-- The key of a statement with its arguments. -/
def cacheKey (sql : String) (args : List Value) : String :=
  "dblayer:" ++ sql ++ ":" ++ Value.serializeList args

/-- A cache driver, by its number. -/
abbrev DriverId := Nat

/-- What was asked of a driver. -/
inductive CacheCall where
  | get (driver : DriverId) (key : String) (hit : Bool)
  | set (driver : DriverId) (key : String) (rows : List Row) (ttl : Duration)
  deriving DecidableEq

/-- The driver in use, and the result sets that every driver holds. They stay while the driver is
not in use. -/
structure Cache where
  driver? : Option DriverId
  stores : DriverId → Entries (List Row)
  calls : List CacheCall
  deriving Inhabited

namespace Cache

def empty : Cache := ⟨none, fun _ => [], []⟩

def activate (cache : Cache) (driver : DriverId) : Cache := { cache with driver? := some driver }

def deactivate (cache : Cache) : Cache := { cache with driver? := none }

/-- Change what one driver holds. -/
def onStore (cache : Cache) (driver : DriverId)
    (change : Entries (List Row) → Entries (List Row)) : Cache :=
  { cache with
    stores := fun other =>
      if other = driver then change (cache.stores driver) else cache.stores other }

def find? (cache : Cache) (driver : DriverId) (key : String) : Option (List Row) :=
  Entries.find? (cache.stores driver) key

def get (cache : Cache) (driver : DriverId) (key : String) : Option (List Row) × Cache :=
  let found? := cache.find? driver key
  (found?, { cache with calls := cache.calls ++ [.get driver key found?.isSome] })

def set (cache : Cache) (driver : DriverId) (key : String) (rows : List Row) (ttl : Duration) :
    Cache :=
  { cache.onStore driver (Entries.insert key rows) with
    calls := cache.calls ++ [.set driver key rows ttl] }

def forget (cache : Cache) (driver : DriverId) (key : String) : Cache :=
  cache.onStore driver fun store => store.filter fun entry => entry.1 != key

theorem find?_set_self (cache : Cache) (driver : DriverId) (key : String) (rows : List Row)
    (ttl : Duration) : (cache.set driver key rows ttl).find? driver key = some rows := by
  simp [find?, set, onStore, Entries.find?_insert_self]

/-- What is set under a key leaves the other keys and the other drivers alone. -/
theorem find?_set_of_ne (cache : Cache) {driver other : DriverId} {key name : String}
    (rows : List Row) (ttl : Duration) (apart : other ≠ driver ∨ name ≠ key) :
    (cache.set driver key rows ttl).find? other name = cache.find? other name := by
  by_cases same : other = driver
  · subst same
    have different : name ≠ key := apart.resolve_left fun differs => differs rfl
    simp [find?, set, onStore, Entries.find?_insert_of_ne, different]
  · simp [find?, set, onStore, same]

/-- A driver that forgets a key holds nothing that it did not hold. -/
theorem find?_of_find?_forget {cache : Cache} {driver other : DriverId} {key name : String}
    {rows : List Row} (found : (cache.forget driver key).find? other name = some rows) :
    cache.find? other name = some rows := by
  by_cases same : other = driver
  · subst same
    simp only [find?, forget, onStore, if_true] at found ⊢
    exact Entries.find?_of_filter found
  · simpa [find?, forget, onStore, same] using found

end Cache
end FluentSql
