import DeviceGate.Store.Error
import DeviceGate.Time.Clock

/-!
The shared key-value cache, whose entries live for a number of seconds.  An entry that would live
beyond the cache's clock overruns it, and what an overrun cache holds means nothing any more.

* `Cache.get`: the live entry of a key; an entry that is over is dropped on the way.
* `Cache.set`: a new entry with its lifetime.
-/

namespace DeviceGate

/-- An entry and the moment at which it is over. -/
structure CacheEntry where
  value : String
  expiresAt : Nat
  deriving DecidableEq

/-- The cache; its own clock counts seconds. -/
structure Cache where
  entries : List (String × CacheEntry) := []
  unavailable : Bool := false
  now : Nat := 0
  /-- Whether an entry was set whose end the clock never shows. -/
  overrun : Bool := false
  deriving DecidableEq

namespace Cache

/-- An unreachable cache fails every call. -/
def check (c : Cache) : Except CacheError Unit :=
  if c.unavailable then .error (.unavailable "connection refused") else .ok ()

/-- The cache without the entry of a key. -/
def drop (c : Cache) (key : String) : Cache :=
  { c with entries := c.entries.filter fun e => e.1 ≠ key }

/-- The value of a key, and the cache without the entry if that was over. -/
def get (c : Cache) (key : String) : Except CacheError (Option String × Cache) := do
  c.check
  match c.entries.lookup key with
  | none => return (none, c)
  | some e => if e.expiresAt ≤ c.now then return (none, c.drop key) else return (some e.value, c)

/-- Sets the value of a key for so many seconds. -/
def set (c : Cache) (key value : String) (ttl : Nat) : Except CacheError Cache := do
  c.check
  match Clock.after? c.now ttl with
  | none => return { c with overrun := true }
  | some moment =>
    let rest := (c.drop key).entries
    return { c with entries := (key, { value := value, expiresAt := moment }) :: rest }

end Cache

end DeviceGate
