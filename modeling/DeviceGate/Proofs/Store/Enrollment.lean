import DeviceGate.Proofs.Store.Growth
import DeviceGate.Telemetry.Integrity

/-!
Secrets that are given out.  A device without a secret is given one, and from then on it keeps it.
The look at the record and the write are two steps: whether there is a secret is decided by the copy
of the record that the caller holds, and the write replaces whatever is stored by then.  So a caller
whose copy is older than the secret gives the device a second one.

* `Store.secretOf`: the secret that is stored of a device.
* `Enrollment.Call`: a call with the copy that its caller holds; `Enrollment.Call.Does`: what it
  does.
* `Enrollment.Call.Stale`: the copy is older than the secret, and nothing stops the write.
* `Enrollment.Read`: all copies were read from the store, at whatever time.
* `Enrollment.GivenOnce`: there is one secret, which all callers get and one event reports.
* `Enrollment.secret_given_once`: this is so exactly as long as no call is stale.
-/

namespace DeviceGate

/-- The secret that is stored of a device, if it has one. -/
def Store.secretOf (s : Store) (id : Int) : Option String :=
  (s.tables.device? id).bind fun d => nonempty? d.hmacSecret

namespace Enrollment

/-- A call: the copy of the device's record that its caller holds, the random bytes that it draws,
and the calls of the store that are down for it. -/
structure Call where
  copy : Device
  randomBytes : List UInt8
  length_randomBytes : randomBytes.length = 32
  faults : Faults := Faults.none
  ctx : LogContext := { request := "" }

namespace Call

/-- The secret of the copy, if it has one. -/
def held (call : Call) : Option String :=
  nonempty? call.copy.hmacSecret

/-- The secret that the random bytes make. -/
def drawn (call : Call) : String :=
  secretText call.randomBytes

/-- The event of a secret that was given out. -/
def event (call : Call) : AuditEvent :=
  AuditEvent.of .deviceSecretEnrolled "Device HMAC secret enrolled"
    |>.byActor (some call.copy.uuid) |>.detail "device_id" (toString call.copy.id)

/-- The tables with that secret, in place of whatever the device has had. -/
def giving (call : Call) (t : Tables) : Tables :=
  { t with
    devices := Tables.updateDevice call.copy.id
      (fun d => { d with hmacSecret := some call.drawn }) t.devices }

/-- The call, with what it answers and leaves. -/
def serve (call : Call) (s : Store) : Noted (Except StoreError String × Store) :=
  Store.enrollSecret { s with faults := call.faults } call.ctx call.copy call.randomBytes

/-- What a call does: its answer, the events that it emits and what it leaves. -/
inductive Does (s : Store) (call : Call) :
    Except StoreError String → List AuditEvent → Store → Prop
  /-- The copy has a secret, which is the answer. -/
  | kept {secret : String} {after : Store} (hheld : call.held = some secret)
      (htables : after.tables = s.tables) : Does s call (.ok secret) [] after
  /-- The copy has none, and the write fails. -/
  | failed {e : StoreError} {after : Store} (hheld : call.held = none)
      (hdown : call.faults .setSecret = true ∨ s.tables.device? call.copy.id = none)
      (htables : after.tables = s.tables) : Does s call (.error e) [] after
  /-- The copy has none, and the device is given the secret that was drawn, whatever it had. -/
  | given {after : Store} (hheld : call.held = none) (hup : call.faults .setSecret = false)
      (hfound : (s.tables.device? call.copy.id).isSome = true)
      (htables : after.tables = call.giving s.tables) :
      Does s call (.ok call.drawn) [call.event] after

/-- Every call does one of these things. -/
lemma does_serve (call : Call) (s : Store) :
    call.Does s (call.serve s).value.1 (call.serve s).events (call.serve s).value.2 := by
  rw [serve, Store.enrollSecret]
  rcases hheld : nonempty? call.copy.hmacSecret with _ | secret
  · rcases hdown : call.faults .setSecret with _ | _
    · rcases hfound : s.tables.device? call.copy.id with _ | d
      · simp only [Store.setSecret, Faults.check_bind_of_up hdown, Store.changeDevice, hfound]
        exact .failed hheld (.inr hfound) rfl
      · simp only [Store.setSecret, Faults.check_bind_of_up hdown, Store.changeDevice, hfound]
        exact .given hheld hdown (by rw [hfound]; rfl) rfl
    · simp only [Store.setSecret, Faults.check_bind_of_down hdown]
      exact .failed hheld (.inl hdown) rfl
  · exact .kept hheld rfl

/-- The copy is older than the secret that is stored, and nothing stops the write. -/
structure Stale (call : Call) (s : Store) : Prop where
  held : call.held = none
  stored : (s.secretOf call.copy.id).isSome = true
  up : call.faults .setSecret = false

/-- The copy is as new as what is stored. -/
def Fresh (call : Call) (s : Store) : Prop :=
  call.held = s.secretOf call.copy.id

end Call

/-- What is owed to a device: a secret that is stored stays, without an event, and is the answer
unless the call fails; and one that fails has done nothing. -/
structure Spared (s : Store) (id : Int) (answer : Except StoreError String)
    (events : List AuditEvent) (after : Store) : Prop where
  left : ∀ secret, s.secretOf id = some secret → after.secretOf id = some secret
  silent : (s.secretOf id).isSome = true → events = []
  returned : ∀ secret, answer = .ok secret → after.secretOf id = some secret
  failed : ∀ e, answer = .error e → after.tables = s.tables ∧ events = []

namespace Call

/-- The call does what is owed to its device. -/
def Spares (call : Call) (s : Store) : Prop :=
  Spared s call.copy.id (call.serve s).value.1 (call.serve s).events (call.serve s).value.2

section Effects

variable {call : Call} {s after : Store} {answer : Except StoreError String}
  {events : List AuditEvent}

lemma drawn_ne_empty (call : Call) : call.drawn ≠ "" := by
  intro hempty
  have hlength := congrArg (fun t => t.toList.length) hempty
  simp [drawn, secretText, Text.Base64Url.length_encode, call.length_randomBytes] at hlength

lemma secretOf_of_tables (htables : after.tables = s.tables) (id : Int) :
    after.secretOf id = s.secretOf id := by
  rw [Store.secretOf, htables, Store.secretOf]

/-- Behind a write, the secret that was drawn is stored. -/
lemma secretOf_given (hfound : (s.tables.device? call.copy.id).isSome = true)
    (htables : after.tables = call.giving s.tables) :
    after.secretOf call.copy.id = some call.drawn := by
  obtain ⟨d, hd⟩ := Option.isSome_iff_exists.1 hfound
  rw [Tables.device?] at hd
  rw [Store.secretOf, htables, Tables.device?, giving, Tables.find?_updateDevice_id fun _ => by rfl,
    hd]
  simpa using nonempty?_eq_some_iff.2 ⟨rfl, call.drawn_ne_empty⟩

lemma Stale.found (h : call.Stale s) : (s.tables.device? call.copy.id).isSome = true :=
  Option.isSome_of_isSome_bind h.stored

/-- A stale call gives the device another secret, and says so. -/
lemma Stale.given (h : call.Stale s) (hdoes : call.Does s answer events after) :
    answer = .ok call.drawn ∧ events = [call.event] ∧
      after.secretOf call.copy.id = some call.drawn := by
  cases hdoes with
  | kept hheld => cases h.held.symm.trans hheld
  | failed hheld hdown =>
      rcases hdown with hdown | hnone
      · cases h.up.symm.trans hdown
      · cases hnone ▸ h.found
  | given hheld hup hfound htables => exact ⟨rfl, rfl, secretOf_given hfound htables⟩

/-- A call that is not stale does what is owed, if its copy has no other secret than the one that is
stored. -/
lemma Does.spared (hdoes : call.Does s answer events after) (hstale : ¬ call.Stale s)
    (hcopy : ∀ secret, call.held = some secret → s.secretOf call.copy.id = some secret) :
    Spared s call.copy.id answer events after := by
  cases hdoes with
  | kept hheld htables =>
      refine ⟨?_, fun _ => rfl, ?_, nofun⟩
      · intro secret hstored
        rwa [secretOf_of_tables htables]
      · rintro secret ⟨⟩
        rw [secretOf_of_tables htables]
        exact hcopy _ hheld
  | failed hheld hdown htables =>
      refine ⟨?_, fun _ => rfl, nofun, fun e _ => ⟨htables, rfl⟩⟩
      intro secret hstored
      rwa [secretOf_of_tables htables]
  | given hheld hup hfound htables =>
      have hnone : ¬ (s.secretOf call.copy.id).isSome = true :=
        fun hstored => hstale ⟨hheld, hstored, hup⟩
      refine ⟨?_, fun hstored => absurd hstored hnone, ?_, nofun⟩
      · intro secret hstored
        exact absurd (by rw [hstored]; rfl) hnone
      · rintro secret ⟨⟩
        exact secretOf_given hfound htables

/-- **One call.**  Of the calls whose copy has no other secret than the one that is stored, those do
what is owed that are not stale. -/
lemma spares_iff (hcopy : ∀ secret, call.held = some secret →
      s.secretOf call.copy.id = some secret) : call.Spares s ↔ ¬ call.Stale s := by
  constructor
  · intro hspares hstale
    have hsilent := hspares.silent hstale.stored
    rw [(hstale.given (call.does_serve s)).2.1] at hsilent
    cases hsilent
  · intro hstale
    exact (call.does_serve s).spared hstale hcopy

/-- A call that fails has done nothing, whatever its copy. -/
lemma of_error {e : StoreError} (herror : (call.serve s).value.1 = .error e) :
    (call.serve s).value.2.tables = s.tables ∧ (call.serve s).events = [] := by
  have hdoes := call.does_serve s
  rw [herror] at hdoes
  generalize (call.serve s).events = events, (call.serve s).value.2 = after at hdoes ⊢
  cases hdoes with
  | failed hheld hdown htables => exact ⟨htables, rfl⟩

/-- A call that emits something has given out a secret, and reports no more than that. -/
lemma events_cases (call : Call) (s : Store) : (call.serve s).events = [] ∨
    (call.serve s).events = [call.event] ∧
      ((call.serve s).value.2.secretOf call.copy.id).isSome = true := by
  have hdoes := call.does_serve s
  generalize (call.serve s).value.1 = answer, (call.serve s).events = events,
    (call.serve s).value.2 = after at hdoes ⊢
  cases hdoes with
  | kept => exact .inl rfl
  | failed => exact .inl rfl
  | given hheld hup hfound htables =>
      exact .inr ⟨rfl, by rw [secretOf_given hfound htables]; rfl⟩

end Effects

end Call

/-! ### Calls one after the other -/

/-- What the calls leave. -/
def run (s : Store) (calls : List Call) : Store :=
  calls.foldl (fun s call => (call.serve s).value.2) s

/-- The events of the calls. -/
def emitted (s : Store) : List Call → List AuditEvent
  | [] => []
  | call :: rest => (call.serve s).events ++ emitted (call.serve s).value.2 rest

/-- What holds of every call, at the time when it is made. -/
def Throughout (P : Call → Store → Prop) (s : Store) : List Call → Prop
  | [] => True
  | call :: rest => P call s ∧ Throughout P (call.serve s).value.2 rest

/-- The copies are of the record of one device, and were read from the store: each has no secret, or
the one that is stored, or one that has been stored before. -/
def Read (id : Int) (before : List String) (s : Store) : List Call → Prop
  | [] => True
  | call :: rest =>
      call.copy.id = id ∧
      (∀ secret, call.held = some secret → secret ∈ (s.secretOf id).toList ++ before) ∧
      Read id ((s.secretOf id).toList ++ before) (call.serve s).value.2 rest

section Run

variable {id : Int} {s : Store} {before : List String} {calls : List Call}
  {P Q : Call → Store → Prop}

@[simp] lemma run_cons (s : Store) (call : Call) (rest : List Call) :
    run s (call :: rest) = run (call.serve s).value.2 rest :=
  rfl

lemma run_append (s : Store) (calls more : List Call) :
    run s (calls ++ more) = run (run s calls) more :=
  List.foldl_append

lemma Throughout.imp (h : ∀ call s, P call s → Q call s) (hcalls : Throughout P s calls) :
    Throughout Q s calls := by
  induction calls generalizing s with
  | nil => trivial
  | cons call rest ih => exact ⟨h call s hcalls.1, ih hcalls.2⟩

lemma Throughout.behind {more : List Call} (h : Throughout P s (calls ++ more)) :
    Throughout P (run s calls) more := by
  induction calls generalizing s with
  | nil => exact h
  | cons call rest ih => exact ih h.2

/-- **The calls of a run.**  All of them do what is owed if and only if none is stale.  As long as
this is so there is only one secret that a copy can have. -/
lemma throughout_spares_iff (hread : Read id before s calls)
    (hbefore : ∀ secret ∈ before, s.secretOf id = some secret) :
    Throughout Call.Spares s calls ↔ Throughout (fun call s => ¬ call.Stale s) s calls := by
  induction calls generalizing s before with
  | nil => exact Iff.rfl
  | cons call rest ih =>
      obtain ⟨rfl, hheld, hrest⟩ := hread
      have hknown : ∀ secret ∈ (s.secretOf call.copy.id).toList ++ before,
          s.secretOf call.copy.id = some secret := by
        intro secret hsecret
        rcases List.mem_append.1 hsecret with hstored | hsecret
        · exact Option.mem_toList.1 hstored
        · exact hbefore secret hsecret
      have hcall : call.Spares s ↔ ¬ call.Stale s :=
        Call.spares_iff fun secret hsecret => hknown secret (hheld secret hsecret)
      have hlater : call.Spares s →
          (Throughout Call.Spares (call.serve s).value.2 rest ↔
            Throughout (fun call s => ¬ call.Stale s) (call.serve s).value.2 rest) :=
        fun hspares => ih hrest fun secret hsecret => hspares.left secret (hknown secret hsecret)
      constructor
      · rintro ⟨hspares, hspared⟩
        exact ⟨hcall.1 hspares, (hlater hspares).1 hspared⟩
      · rintro ⟨hstale, hspared⟩
        exact ⟨hcall.2 hstale, (hlater (hcall.2 hstale)).2 hspared⟩

/-- A secret that is stored is stored for good. -/
lemma secretOf_run (hids : ∀ call ∈ calls, call.copy.id = id)
    (hspared : Throughout Call.Spares s calls) {secret : String}
    (hstored : s.secretOf id = some secret) : (run s calls).secretOf id = some secret := by
  induction calls generalizing s with
  | nil => exact hstored
  | cons call rest ih =>
      obtain ⟨rfl, hrest⟩ := List.forall_mem_cons.1 hids
      exact ih hrest hspared.2 (hspared.1.left secret hstored)

/-- Where a secret is stored, nothing more is emitted. -/
lemma emitted_of_stored (hids : ∀ call ∈ calls, call.copy.id = id)
    (hspared : Throughout Call.Spares s calls) (hstored : (s.secretOf id).isSome = true) :
    emitted s calls = [] := by
  induction calls generalizing s with
  | nil => rfl
  | cons call rest ih =>
      obtain ⟨rfl, hrest⟩ := List.forall_mem_cons.1 hids
      obtain ⟨secret, hsecret⟩ := Option.isSome_iff_exists.1 hstored
      rw [emitted, hspared.1.silent hstored, List.nil_append]
      exact ih hrest hspared.2 (by rw [hspared.1.left secret hsecret]; rfl)

/-- At most one secret is given out. -/
lemma length_emitted_le (hids : ∀ call ∈ calls, call.copy.id = id)
    (hspared : Throughout Call.Spares s calls) : (emitted s calls).length ≤ 1 := by
  induction calls generalizing s with
  | nil => exact Nat.zero_le _
  | cons call rest ih =>
      obtain ⟨rfl, hrest⟩ := List.forall_mem_cons.1 hids
      rw [emitted]
      rcases call.events_cases s with hnone | ⟨hone, hstored⟩
      · rw [hnone, List.nil_append]
        exact ih hrest hspared.2
      · rw [hone, emitted_of_stored hrest hspared.2 hstored]
        exact le_rfl

lemma Read.ids (hread : Read id before s calls) : ∀ call ∈ calls, call.copy.id = id := by
  induction calls generalizing s before with
  | nil => exact nofun
  | cons call rest ih => exact List.forall_mem_cons.2 ⟨hread.1, ih hread.2.2⟩

end Run

/-- The device has been given at most one secret: one that is stored at some time is stored for
good, it is what all successful calls answer, and no more than one event reports it.  A call that
fails has done nothing. -/
structure GivenOnce (id : Int) (s : Store) (calls : List Call) : Prop where
  kept : ∀ first rest, calls = first ++ rest → ∀ secret,
    (run s first).secretOf id = some secret → (run s calls).secretOf id = some secret
  returned : ∀ first call rest, calls = first ++ call :: rest → ∀ secret,
    (call.serve (run s first)).value.1 = .ok secret → (run s calls).secretOf id = some secret
  once : (emitted s calls).length ≤ 1
  failed : ∀ first call rest, calls = first ++ call :: rest → ∀ e,
    (call.serve (run s first)).value.1 = .error e →
      (call.serve (run s first)).value.2.tables = (run s first).tables ∧
        (call.serve (run s first)).events = []

/-- If all calls do what is owed, there is only one secret. -/
lemma givenOnce_of_spares {id : Int} {s : Store} {calls : List Call}
    (hids : ∀ call ∈ calls, call.copy.id = id) (hspared : Throughout Call.Spares s calls) :
    GivenOnce id s calls := by
  refine ⟨?_, ?_, length_emitted_le hids hspared, ?_⟩
  · rintro first rest rfl secret hstored
    rw [run_append]
    exact secretOf_run (fun call hcall => hids call (List.mem_append_right _ hcall))
      hspared.behind hstored
  · rintro first call rest rfl secret hanswer
    obtain ⟨hcall, hrest⟩ := hspared.behind
    have hlater := fun call hcall => hids call (List.mem_append_right first hcall)
    obtain ⟨rfl, hids⟩ := List.forall_mem_cons.1 hlater
    rw [run_append, run_cons]
    exact secretOf_run hids hrest (hcall.returned secret hanswer)
  · rintro first call rest rfl e hanswer
    exact hspared.behind.1.failed e hanswer

/-- **At most one secret.**  Whatever copies of its record the callers hold, whichever writes fail
and whatever is drawn: all calls for a device spare the secret that it has, if and only if none of
them is stale.  Then it is given at most one secret, which all callers get; and so it is if all
copies are fresh.  A stale call gives the device another secret in place of the one it has, and
reports it.  A call that fails has done nothing, stale or not. -/
theorem secret_given_once (id : Int) (s : Store) (calls : List Call)
    (hread : Read id [] s calls) :
    (Throughout Call.Spares s calls ↔ Throughout (fun call s => ¬ call.Stale s) s calls) ∧
    (Throughout (fun call s => ¬ call.Stale s) s calls → GivenOnce id s calls) ∧
    (Throughout Call.Fresh s calls → GivenOnce id s calls) ∧
    (∀ (call : Call) (s : Store), call.Stale s →
      (call.serve s).value.1 = .ok call.drawn ∧ (call.serve s).events = [call.event] ∧
        (call.serve s).value.2.secretOf call.copy.id = some call.drawn) ∧
    ∀ (call : Call) (s : Store) (e : StoreError), (call.serve s).value.1 = .error e →
      (call.serve s).value.2.tables = s.tables ∧ (call.serve s).events = [] := by
  have hiff : Throughout Call.Spares s calls ↔
      Throughout (fun call s => ¬ call.Stale s) s calls := throughout_spares_iff hread nofun
  have hgiven : Throughout (fun call s => ¬ call.Stale s) s calls → GivenOnce id s calls :=
    fun hstale => givenOnce_of_spares hread.ids (hiff.2 hstale)
  refine ⟨hiff, hgiven, fun hfresh => hgiven (hfresh.imp ?_), ?_, fun _ _ _ => Call.of_error⟩
  · intro call s hfresh hstale
    have hstored := hstale.stored
    rw [← hfresh, hstale.held] at hstored
    cases hstored
  · exact fun call s hstale => hstale.given (call.does_serve s)

namespace Sample

/-- A device that has no secret yet. -/
def device : Device where
  id := 1
  uuid := "D1"
  cpuSerial := none
  hmacSecret := none
  status := .online
  lastSeenAt := none

/-- The store that it is registered in. -/
def store : Store where
  tables.devices := [device]

/-- A call by a caller who has read the record before anything was given out. -/
def call (byte : UInt8) : Call where
  copy := device
  randomBytes := List.replicate 32 byte
  length_randomBytes := List.length_replicate

end Sample

open Sample in
/-- Two callers have read the record before either of them calls: the first gives the device its
secret, and the second replaces it. -/
theorem secret_given_again :
    Read 1 [] store [call 0, call 1] ∧ GivenOnce 1 store [call 0] ∧
      ¬ Throughout Call.Spares store [call 0, call 1] ∧
      (run store [call 0]).secretOf 1 = some (call 0).drawn ∧
      (run store [call 0, call 1]).secretOf 1 = some (call 1).drawn ∧
      (call 1).drawn ≠ (call 0).drawn ∧
      emitted store [call 0, call 1] = [(call 0).event, (call 1).event] := by
  have hfirst : Read 1 [] store [call 0] := ⟨rfl, nofun, trivial⟩
  have hread : Read 1 [] store [call 0, call 1] := ⟨rfl, nofun, rfl, nofun, trivial⟩
  have hstored : (run store [call 0]).secretOf 1 = some (call 0).drawn := by decide +kernel
  have hstale : (call 1).Stale (run store [call 0]) :=
    ⟨rfl, Option.isSome_iff_exists.2 ⟨_, hstored⟩, rfl⟩
  obtain ⟨hiff, -, -, hreplaced, -⟩ := secret_given_once 1 store _ hread
  obtain ⟨-, hevents, hlast⟩ := hreplaced _ _ hstale
  refine ⟨hread, ?_, fun hspares => (hiff.1 hspares).2.1 hstale, hstored, hlast,
    by decide +kernel, ?_⟩
  · exact (secret_given_once 1 store _ hfirst).2.2.1 ⟨rfl, trivial⟩
  · exact congrArg ((call 0).event :: ·) ((List.append_nil _).trans hevents)

end Enrollment

end DeviceGate
