/-!
Failures of the collaborators that keep records, and the calls that can fail.

* `StoreError`, `CacheError`: the causes, each with its `message`.
* `StoreCall`: the calls of the record store, by the names under which they are reported.
* `Faults`: which calls are down, and what is said of them.
-/

namespace DeviceGate

/-- Why the record store does not answer. -/
inductive StoreError where
  | notFound (what : String)
  | violated (what : String)
  | unavailable (why : String)
  deriving DecidableEq

/-- The wording of a failure. -/
def StoreError.message : StoreError → String
  | notFound what => "record not found: " ++ what
  | violated what => "constraint violated: " ++ what
  | unavailable why => "storage unavailable: " ++ why

/-- Why the shared cache does not answer. -/
inductive CacheError where
  | unavailable (why : String)
  | corrupt (key value : String)
  deriving DecidableEq

/-- The wording of a failure. -/
def CacheError.message : CacheError → String
  | unavailable why => "cache unavailable: " ++ why
  | corrupt key value => "corrupt cache entry for " ++ key ++ ": " ++ value

/-- A call of the record store. -/
inductive StoreCall where
  | findDevice
  | setSecret
  | updateStatus
  | devicesWithStatus
  | isAttached
  | findComponentType
  | findUser
  | memberships
  | deviceRelationships
  | beginTransaction
  | getOrCreateSnapshot
  | insertReading
  | touchDevice
  | commit
  | rollback
  | insertBatch
  | incrementProcessed
  | getBatch
  | markCompleted
  | markFailed
  | ingestImage
  deriving DecidableEq

namespace StoreCall

/-- The name of a call. -/
def name : StoreCall → String
  | findDevice => "find_device"
  | setSecret => "set_hmac_secret"
  | updateStatus => "update_status"
  | devicesWithStatus => "devices_with_status"
  | isAttached => "is_attached"
  | findComponentType => "find_component_type"
  | findUser => "find_user"
  | memberships => "memberships"
  | deviceRelationships => "device_relationships"
  | beginTransaction => "begin"
  | getOrCreateSnapshot => "get_or_create_snapshot"
  | insertReading => "insert_reading"
  | touchDevice => "touch_device"
  | commit => "commit"
  | rollback => "rollback"
  | insertBatch => "insert_batch"
  | incrementProcessed => "increment_processed"
  | getBatch => "get_batch"
  | markCompleted => "mark_completed"
  | markFailed => "mark_failed"
  | ingestImage => "ingest"

/-- Every call. -/
def all : List StoreCall :=
  [findDevice, setSecret, updateStatus, devicesWithStatus, isAttached, findComponentType, findUser,
   memberships, deviceRelationships, beginTransaction, getOrCreateSnapshot, insertReading,
   touchDevice, commit, rollback, insertBatch, incrementProcessed, getBatch, markCompleted,
   markFailed, ingestImage]

/-- The call of a name. -/
def ofName? (s : String) : Option StoreCall :=
  all.find? fun c => c.name = s

theorem ofName?_name (c : StoreCall) : ofName? c.name = some c := by
  cases c <;> decide

end StoreCall

/-! ### Answers -/

theorem bind_eq_ok_iff {ε α β : Type} {x : Except ε α} {f : α → Except ε β} {b : β} :
    (x >>= f) = .ok b ↔ ∃ a, x = .ok a ∧ f a = .ok b := by
  cases x <;> simp [bind, Except.bind]

theorem pure_eq_ok_iff {ε α : Type} {a b : α} : (pure a : Except ε α) = .ok b ↔ b = a := by
  simp [pure, Except.pure, eq_comm]

theorem throw_ne_ok {ε α : Type} {e : ε} {a : α} : (throw e : Except ε α) ≠ .ok a := by
  simp [throw, throwThe, MonadExceptOf.throw]

/-- Which calls are down, and what the store says of each of them then. -/
structure Faults where
  down : StoreCall → Bool
  why : StoreCall → String

instance : CoeFun Faults fun _ => StoreCall → Bool where
  coe := Faults.down

namespace Faults

/-- Every call answers. -/
def none : Faults where
  down _ := false
  why call := call.name ++ " down"

/-- No call is down. -/
def AllUp (f : Faults) : Prop := ∀ call, f call = false

theorem allUp_none : none.AllUp := fun _ => rfl

/-- The same faults with one call switched. -/
def switch (f : Faults) (call : StoreCall) (down : Bool) : Faults :=
  { f with down := fun c => if c = call then down else f c }

/-- The failure of a call that is down. -/
def error (f : Faults) (call : StoreCall) : StoreError :=
  .unavailable (f.why call)

/-- A call that is down fails before it does anything. -/
def check (f : Faults) (call : StoreCall) : Except StoreError Unit :=
  if f call then .error (f.error call) else .ok ()

/-- A call answers exactly when it is not down and what it does succeeds. -/
theorem check_bind_eq_ok_iff {α : Type} {f : Faults} {call : StoreCall}
    {k : Unit → Except StoreError α} {a : α} :
    (f.check call >>= k) = .ok a ↔ f call = false ∧ k () = .ok a := by
  unfold check
  cases f call <;> simp [bind, Except.bind]

/-- A call that is down fails, whatever it does otherwise. -/
theorem check_bind_of_down {α : Type} {f : Faults} {call : StoreCall} (h : f call = true)
    (k : Unit → Except StoreError α) : (f.check call >>= k) = .error (f.error call) := by
  simp [check, h, bind, Except.bind]

/-- A call that is not down does what it does. -/
theorem check_bind_of_up {α : Type} {f : Faults} {call : StoreCall} (h : f call = false)
    (k : Unit → Except StoreError α) : (f.check call >>= k) = k () := by
  simp [check, h, bind, Except.bind]

end Faults

end DeviceGate
