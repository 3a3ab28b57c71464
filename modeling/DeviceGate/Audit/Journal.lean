import DeviceGate.Audit.Event

/-!
Computations that write to the log and emit audit events beside their result.  Lines and events are
kept in the one order in which they arise.

* `Note`: a line or an event; `Noted`: a result with its notes, a lawful monad.
* `Act`: a computation that also reads and changes a state.
* `Noted.events`, `Noted.lines`: the notes of either kind.
-/

namespace DeviceGate

/-- One thing noted on the way. -/
inductive Note where
  | line (l : LogLine)
  | event (e : AuditEvent)

namespace Note

/-- The events among the notes. -/
def events (notes : List Note) : List AuditEvent :=
  notes.filterMap fun
    | event e => some e
    | line _ => none

/-- The log lines among the notes. -/
def lines (notes : List Note) : List LogLine :=
  notes.filterMap fun
    | line l => some l
    | event _ => none

@[simp] theorem events_nil : events [] = [] := rfl

@[simp] theorem events_append (a b : List Note) : events (a ++ b) = events a ++ events b := by
  simp [events]

@[simp] theorem lines_nil : lines [] = [] := rfl

@[simp] theorem lines_append (a b : List Note) : lines (a ++ b) = lines a ++ lines b := by
  simp [lines]

end Note

/-- A result and what was noted on the way to it. -/
@[ext]
structure Noted (α : Type) where
  value : α
  notes : List Note

namespace Noted

/-- The events emitted. -/
def events {α : Type} (x : Noted α) : List AuditEvent := Note.events x.notes

/-- The lines written. -/
def lines {α : Type} (x : Noted α) : List LogLine := Note.lines x.notes

instance : Monad Noted where
  pure a := ⟨a, []⟩
  bind x f := ⟨(f x.value).value, x.notes ++ (f x.value).notes⟩

instance : LawfulMonad Noted :=
  LawfulMonad.mk' Noted
    (fun x => by simp [Functor.map])
    (fun a f => by simp [pure, bind])
    (fun x f g => by simp [bind])

/-- Writes a line. -/
def log (level : LogLevel) (message : String) : Noted Unit :=
  ⟨(), [.line { level := level, message := message }]⟩

/-- Emits an event. -/
def emit (e : AuditEvent) : Noted Unit :=
  ⟨(), [.event e]⟩

@[simp] theorem value_pure {α : Type} (a : α) : (pure a : Noted α).value = a := rfl

@[simp] theorem notes_pure {α : Type} (a : α) : (pure a : Noted α).notes = [] := rfl

@[simp] theorem value_bind {α β : Type} (x : Noted α) (f : α → Noted β) :
    (x >>= f).value = (f x.value).value := rfl

@[simp] theorem notes_bind {α β : Type} (x : Noted α) (f : α → Noted β) :
    (x >>= f).notes = x.notes ++ (f x.value).notes := rfl

@[simp] theorem value_map {α β : Type} (f : α → β) (x : Noted α) : (f <$> x).value = f x.value :=
  rfl

@[simp] theorem notes_map {α β : Type} (f : α → β) (x : Noted α) : (f <$> x).notes = x.notes := by
  simp [Functor.map]

@[simp] theorem value_log (level : LogLevel) (message : String) : (log level message).value = () :=
  rfl

@[simp] theorem value_emit (e : AuditEvent) : (emit e).value = () := rfl

@[simp] theorem events_log (level : LogLevel) (message : String) :
    Note.events (log level message).notes = [] := rfl

@[simp] theorem events_emit (e : AuditEvent) : Note.events (emit e).notes = [e] := rfl

@[simp] theorem events_of_log (level : LogLevel) (message : String) :
    (log level message).events = [] := rfl

@[simp] theorem events_of_emit (e : AuditEvent) : (emit e).events = [e] := rfl

@[simp] theorem events_pure {α : Type} (a : α) : (pure a : Noted α).events = [] := rfl

@[simp] theorem events_bind {α β : Type} (x : Noted α) (f : α → Noted β) :
    (x >>= f).events = x.events ++ (f x.value).events := by
  simp [events]

@[simp] theorem events_map {α β : Type} (f : α → β) (x : Noted α) :
    (f <$> x).events = x.events := by
  simp [events]

end Noted

/-- A computation on a state that notes lines and events. -/
abbrev Act (σ : Type) := StateT σ Noted

namespace Act

/-- Writes a line. -/
def log {σ : Type} (level : LogLevel) (message : String) : Act σ Unit :=
  StateT.lift (Noted.log level message)

/-- Emits an event. -/
def emit {σ : Type} (e : AuditEvent) : Act σ Unit :=
  StateT.lift (Noted.emit e)

/-- A computation that only reads the state. -/
def reading {σ α : Type} (f : σ → Noted α) : Act σ α := fun s =>
  ⟨((f s).value, s), (f s).notes⟩

theorem pure_apply {σ α : Type} (a : α) (s : σ) : (pure a : Act σ α) s = pure (a, s) := rfl

end Act

end DeviceGate
