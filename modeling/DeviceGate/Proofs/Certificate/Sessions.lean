import DeviceGate.Certificate.Connection
import Mathlib.Data.List.Nodup

/-!
The broker's sessions, each told from all others.  A broker is watched: every call on it is recorded
with its answer, and the sessions that it opens are numbered.

* `Broker.recorded`: the broker under watch; `Connection.unwatched`: what is there without.
* `Connection.Does`: what a call on the connection does, case by case; `Connection.does_perform`.
* `Connection.Accounted`: the sessions that were ended and the live one are the sessions that were
  opened, each once; `Connection.Accounted.of_does`: every call keeps it.
* `Connection.sessions_accounted`: no run of calls loses a session or ends one twice, and what is
  sent goes out on the live session.
-/

namespace DeviceGate

/-- A call on the broker and its answer. -/
inductive BrokerCall where
  | opened (number : ℕ) (certificate : Certificate)
  | refused (certificate : Certificate) (e : BrokerError)
  | sent (number : ℕ) (topic : String) (payload : ByteArray) (answer : Except BrokerError Unit)
  | ended (number : ℕ)

namespace BrokerCall

/-- The session that was opened. -/
def opened? : BrokerCall → Option ℕ
  | opened n _ => some n
  | _ => none

/-- The session that was ended. -/
def ended? : BrokerCall → Option ℕ
  | ended n => some n
  | _ => none

end BrokerCall

/-- A broker under watch: its sessions are numbered as they are opened, and its calls recorded. -/
def Broker.recorded {ς κ : Type} (broker : Broker ς κ) :
    Broker (ℕ × ς) (κ × List BrokerCall) where
  connect certificate := fun (k, calls) => do
    match ← broker.connect certificate k with
    | (.ok session, k) =>
      let number := (calls.filterMap BrokerCall.opened?).length
      return (.ok (number, session), k, calls ++ [.opened number certificate])
    | (.error e, k) => return (.error e, k, calls ++ [.refused certificate e])
  publish session topic payload := fun (k, calls) => do
    let (answer, k) ← broker.publish session.2 topic payload k
    return (answer, k, calls ++ [.sent session.1 topic payload answer])
  disconnect session := fun (k, calls) => do
    let ((), k) ← broker.disconnect session.2 k
    return ((), k, calls ++ [.ended session.1])
  events_connect certificate := fun (k, calls) => by
    rcases h : (broker.connect certificate k).value with ⟨_ | _, _⟩ <;> simp [h]
  events_publish session topic payload := fun (k, calls) => by simp
  events_disconnect session := fun (k, calls) => by simp

/-- A call on the connection. -/
inductive ConnectionCall where
  | swap (certificate : Certificate)
  | publish (topic : String) (payload : ByteArray)
  | shutdown

namespace Connection

variable {ς κ : Type}

/-- One call, and its answer if it has one. -/
def perform (broker : Broker ς κ) (c : Connection ς κ) :
    ConnectionCall → Noted (Option (Except BrokerError Unit) × Connection ς κ)
  | .swap certificate => do
    let (answer, c) ← c.swap broker certificate
    return (some answer, c)
  | .publish topic payload => do
    let (answer, c) ← c.publish broker topic payload
    return (some answer, c)
  | .shutdown => do return (none, ← c.shutdown broker)

/-- The connection behind some calls. -/
def run (broker : Broker ς κ) (c : Connection ς κ) (calls : List ConnectionCall) :
    Connection ς κ :=
  calls.foldl (fun c call => (c.perform broker call).value.2) c

@[simp] lemma run_nil (broker : Broker ς κ) (c : Connection ς κ) : c.run broker [] = c :=
  rfl

@[simp] lemma run_cons (broker : Broker ς κ) (c : Connection ς κ) (call : ConnectionCall)
    (calls : List ConnectionCall) :
    c.run broker (call :: calls) = ((c.perform broker call).value.2).run broker calls :=
  rfl

/-! ### What the operations come to -/

variable {broker : Broker ς κ} {c : Connection ς κ} {certificate : Certificate}

/-- A refused connect leaves the live session as it is. -/
lemma swap_of_refused {e : BrokerError} {k : κ}
    (h : (broker.connect certificate c.connector).value = (.error e, k)) :
    (c.swap broker certificate).value = (.error e, { c with connector := k }) := by
  simp [swap, h]

/-- The state of the broker when the session before, if there was one, has been ended. -/
def release (broker : Broker ς κ) (live : Option (LiveConnection ς)) (k : κ) : κ :=
  match live with
  | some old => (broker.disconnect old.session k).value.2
  | none => k

lemma swap_of_opened {session : ς} {k : κ}
    (h : (broker.connect certificate c.connector).value = (.ok session, k)) :
    (c.swap broker certificate).value =
      (.ok (), { connector := release broker c.live k, live := some ⟨certificate, session⟩ }) := by
  rcases hlive : c.live with _ | old
  · simp [swap, h, hlive, release]
  · simp [swap, h, hlive, release]

lemma shutdown_eq (broker : Broker ς κ) (c : Connection ς κ) :
    (c.shutdown broker).value =
      { connector := release broker c.live c.connector, live := none } := by
  obtain ⟨k, live⟩ := c
  rcases live with _ | old
  · rfl
  · rfl

/-- A publish is without a connection if there is no live session or the session says so. -/
lemma publish_eq_notConnected_iff (broker : Broker ς κ) (c : Connection ς κ) (topic : String)
    (payload : ByteArray) :
    (c.publish broker topic payload).value.1 = .error .notConnected ↔
      c.live = none ∨ ∃ live, c.live = some live ∧
        (broker.publish live.session topic payload c.connector).value.1 =
          .error .notConnected := by
  rcases hlive : c.live with _ | live
  · simp [publish, hlive]
  · simp [publish, hlive]

/-! ### What is recorded -/

/-- The calls on the broker so far. -/
def calls (c : Connection (ℕ × ς) (κ × List BrokerCall)) : List BrokerCall :=
  c.connector.2

/-- The sessions that were opened. -/
def opened (c : Connection (ℕ × ς) (κ × List BrokerCall)) : List ℕ :=
  c.calls.filterMap BrokerCall.opened?

/-- The sessions that were ended. -/
def ended (c : Connection (ℕ × ς) (κ × List BrokerCall)) : List ℕ :=
  c.calls.filterMap BrokerCall.ended?

/-- The live session. -/
def number (c : Connection (ℕ × ς) (κ × List BrokerCall)) : Option ℕ :=
  c.live.map (·.session.1)

/-- The connection without the watch over its broker. -/
def unwatched (c : Connection (ℕ × ς) (κ × List BrokerCall)) : Connection ς κ where
  connector := c.connector.1
  live := c.live.map fun live => { certificate := live.certificate, session := live.session.2 }

/-- What a call does to a connection whose broker is watched, and what it answers. -/
inductive Does (c : Connection (ℕ × ς) (κ × List BrokerCall)) :
    ConnectionCall → Option (Except BrokerError Unit) →
      Connection (ℕ × ς) (κ × List BrokerCall) → Prop
  /-- The connect is refused, and that is all that happens. -/
  | refused {certificate : Certificate} {e : BrokerError}
      {after : Connection (ℕ × ς) (κ × List BrokerCall)} (hlive : after.live = c.live)
      (hcalls : after.calls = c.calls ++ [.refused certificate e]) :
      Does c (.swap certificate) (some (.error e)) after
  /-- A session is opened, and then the one before, if there was one, is ended. -/
  | swapped {certificate : Certificate} {session : ℕ × ς}
      {after : Connection (ℕ × ς) (κ × List BrokerCall)}
      (hlive : after.live = some ⟨certificate, session⟩) (hnew : session.1 = c.opened.length)
      (hcalls : after.calls =
        c.calls ++ .opened session.1 certificate :: (c.number.map .ended).toList) :
      Does c (.swap certificate) (some (.ok ())) after
  /-- There is no session to publish on. -/
  | unsent {topic : String} {payload : ByteArray} (hlive : c.live = none) :
      Does c (.publish topic payload) (some (.error .notConnected)) c
  /-- The message goes out on the live session, whose answer is the answer of the call. -/
  | sent {topic : String} {payload : ByteArray} {live : LiveConnection (ℕ × ς)}
      {answer : Except BrokerError Unit} {after : Connection (ℕ × ς) (κ × List BrokerCall)}
      (hlive : c.live = some live) (hkept : after.live = c.live)
      (hcalls : after.calls = c.calls ++ [.sent live.session.1 topic payload answer]) :
      Does c (.publish topic payload) (some answer) after
  /-- The live session, if there is one, is ended. -/
  | ended {after : Connection (ℕ × ς) (κ × List BrokerCall)} (hlive : after.live = none)
      (hcalls : after.calls = c.calls ++ (c.number.map .ended).toList) :
      Does c .shutdown none after

section Watched

variable {c after : Connection (ℕ × ς) (κ × List BrokerCall)}

/-- Ending the session before is recorded. -/
lemma calls_release (broker : Broker ς κ) (live : Option (LiveConnection (ℕ × ς)))
    (k : κ × List BrokerCall) :
    (release broker.recorded live k).2 =
      k.2 ++ (live.map fun old => BrokerCall.ended old.session.1).toList := by
  rcases live with _ | old
  · exact (List.append_nil _).symm
  · rfl

/-- Every call does one of these things. -/
lemma does_perform (broker : Broker ς κ) (c : Connection (ℕ × ς) (κ × List BrokerCall))
    (call : ConnectionCall) :
    c.Does call (c.perform broker.recorded call).value.1
      (c.perform broker.recorded call).value.2 := by
  cases call with
  | swap certificate =>
      rcases hanswer : broker.connect certificate c.connector.1 |>.value with ⟨e | session, k⟩
      · have hconnect : (broker.recorded.connect certificate c.connector).value =
            (.error e, k, c.calls ++ [.refused certificate e]) := by
          simp [Broker.recorded, hanswer, calls]
        simp only [perform, Noted.value_bind, swap_of_refused hconnect, Noted.value_pure]
        exact .refused rfl rfl
      · have hconnect : (broker.recorded.connect certificate c.connector).value =
            (.ok (c.opened.length, session), k,
              c.calls ++ [.opened c.opened.length certificate]) := by
          simp [Broker.recorded, hanswer, calls, opened]
        simp only [perform, Noted.value_bind, swap_of_opened hconnect, Noted.value_pure]
        refine .swapped rfl rfl ?_
        rw [calls, calls_release]
        simp [number, Option.map_map, Function.comp_def]
  | publish topic payload =>
      rcases hlive : c.live with _ | live
      · simp only [perform, publish, hlive, Noted.value_bind, Noted.value_pure]
        exact .unsent hlive
      · simp only [perform, publish, hlive, Noted.value_bind, Noted.value_pure]
        exact .sent hlive hlive.symm rfl
  | shutdown =>
      simp only [perform, shutdown_eq, Noted.value_bind, Noted.value_pure]
      refine .ended rfl ?_
      rw [calls, calls_release]
      simp [number, calls, Option.map_map, Function.comp_def]

/-! ### Nothing changes under watch -/

/-- A swap is the same under watch: in its answer, its notes and what it leaves. -/
lemma swap_unwatched (broker : Broker ς κ) (c : Connection (ℕ × ς) (κ × List BrokerCall))
    (certificate : Certificate) :
    (fun done => (done.1, done.2.unwatched)) <$> c.swap broker.recorded certificate =
      c.unwatched.swap broker certificate := by
  obtain ⟨⟨k, calls⟩, live⟩ := c
  rcases hanswer : (broker.connect certificate k).value with ⟨_ | _, _⟩
  · ext <;> simp [swap, Broker.recorded, unwatched, hanswer]
  · rcases live with _ | old
    · ext <;> simp [swap, Broker.recorded, unwatched, hanswer]
    · ext <;> simp [swap, Broker.recorded, unwatched, hanswer]

/-- So is every call. -/
lemma perform_unwatched (broker : Broker ς κ) (c : Connection (ℕ × ς) (κ × List BrokerCall))
    (call : ConnectionCall) :
    (fun done => (done.1, done.2.unwatched)) <$> c.perform broker.recorded call =
      c.unwatched.perform broker call := by
  cases call with
  | swap certificate =>
      rw [perform, perform, ← swap_unwatched]
      simp
  | publish topic payload =>
      obtain ⟨⟨k, calls⟩, _ | live⟩ := c
      · rfl
      · ext <;> simp [perform, publish, Broker.recorded, unwatched]
  | shutdown =>
      obtain ⟨⟨k, calls⟩, _ | old⟩ := c
      · rfl
      · ext <;> simp [perform, shutdown, Broker.recorded, unwatched]

/-- And every run of calls. -/
lemma run_unwatched (broker : Broker ς κ) (c : Connection (ℕ × ς) (κ × List BrokerCall))
    (calls : List ConnectionCall) :
    (c.run broker.recorded calls).unwatched = c.unwatched.run broker calls := by
  induction calls generalizing c with
  | nil => rfl
  | cons call calls ih =>
      have hcall := congrArg (fun done => done.value.2) (perform_unwatched broker c call)
      rw [run_cons, run_cons, ih, ← hcall]
      rfl

/-! ### The account -/

/-- The sessions that were ended, and the live one, are those that were opened, each once; and the
live one was opened with the active certificate. -/
structure Accounted (c : Connection (ℕ × ς) (κ × List BrokerCall)) : Prop where
  numbered : c.opened = List.range c.opened.length
  balance : (c.ended ++ c.number.toList).Perm c.opened
  credential : ∀ live, c.live = some live → .opened live.session.1 live.certificate ∈ c.calls

namespace Accounted

lemma start (k : κ) :
    Accounted { connector := (k, []), live := (none : Option (LiveConnection (ℕ × ς))) } where
  numbered := rfl
  balance := .refl _
  credential _ h := nomatch h

lemma nodup_opened (h : c.Accounted) : c.opened.Nodup := by
  rw [h.numbered]
  exact List.nodup_range

/-- A session that was opened is the live one, or has been ended once. -/
lemma live_or_ended (h : c.Accounted) {n : ℕ} (hopened : n ∈ c.opened) :
    c.number = some n ∧ n ∉ c.ended ∨ c.number ≠ some n ∧ c.ended.count n = 1 := by
  have hcount : c.ended.count n + c.number.toList.count n = 1 := by
    rw [← List.count_append, h.balance.count_eq, List.count_eq_one_of_mem h.nodup_opened hopened]
  rcases hnumber : c.number with _ | live
  · rw [hnumber] at hcount
    exact .inr ⟨nofun, hcount⟩
  · by_cases hlive : live = n
    · subst hlive
      refine .inl ⟨rfl, List.count_eq_zero.mp ?_⟩
      simpa [hnumber] using hcount
    · exact .inr ⟨by simpa using hlive, by simpa [hnumber, hlive] using hcount⟩

/-- Only what was opened is ended. -/
lemma opened_of_ended (h : c.Accounted) {n : ℕ} (hended : n ∈ c.ended) : n ∈ c.opened :=
  h.balance.subset (List.mem_append_left _ hended)

/-- A call that neither opens nor ends a session keeps the account. -/
lemma of_kept (h : c.Accounted) {call : BrokerCall} (hopened : call.opened? = none)
    (hended : call.ended? = none) (hlive : after.live = c.live)
    (hcalls : after.calls = c.calls ++ [call]) : after.Accounted := by
  have hopenings : after.opened = c.opened := by simp [opened, hcalls, hopened]
  have hendings : after.ended = c.ended := by simp [Connection.ended, hcalls, hended]
  have hnumber : after.number = c.number := by rw [number, hlive, number]
  refine ⟨hopenings ▸ h.numbered, ?_, ?_⟩
  · rw [hopenings, hendings, hnumber]
    exact h.balance
  intro live hsome
  rw [hcalls]
  exact List.mem_append_left _ (h.credential live (hlive ▸ hsome))

/-- Ending the live session keeps the account. -/
lemma of_ended (h : c.Accounted) (hlive : after.live = none)
    (hcalls : after.calls = c.calls ++ (c.number.map .ended).toList) : after.Accounted := by
  have hopenings : after.opened = c.opened := by
    rcases hnumber : c.number with _ | n <;> simp [opened, hcalls, hnumber, BrokerCall.opened?]
  have hendings : after.ended = c.ended ++ c.number.toList := by
    rcases hnumber : c.number with _ | n <;>
      simp [Connection.ended, hcalls, hnumber, BrokerCall.ended?]
  have hnumber : after.number = none := by rw [number, hlive, Option.map_none]
  refine ⟨by rw [hopenings, ← h.numbered], ?_, by simp [hlive]⟩
  rw [hopenings, hendings, hnumber, Option.toList_none, List.append_nil]
  exact h.balance

/-- Opening a session and ending the one before keeps the account. -/
lemma of_swapped (h : c.Accounted) {certificate : Certificate} {session : ℕ × ς}
    (hlive : after.live = some ⟨certificate, session⟩) (hnew : session.1 = c.opened.length)
    (hcalls : after.calls =
      c.calls ++ .opened session.1 certificate :: (c.number.map .ended).toList) :
    after.Accounted := by
  have hopenings : after.opened = c.opened ++ [session.1] := by
    rcases hnumber : c.number with _ | n <;>
      simp [opened, hcalls, hnumber, List.filterMap_cons, BrokerCall.opened?]
  have hendings : after.ended = c.ended ++ c.number.toList := by
    rcases hnumber : c.number with _ | n <;>
      simp [Connection.ended, hcalls, hnumber, List.filterMap_cons, BrokerCall.ended?]
  have hnumber : after.number = some session.1 := by rw [number, hlive, Option.map_some]
  refine ⟨?_, ?_, ?_⟩
  · rw [hopenings, List.length_append, List.length_singleton, List.range_succ, ← h.numbered, hnew]
  · rw [hopenings, hendings, hnumber]
    exact h.balance.append_right _
  · intro live hsome
    obtain rfl := Option.some.inj (hlive.symm.trans hsome)
    simp [hcalls]

/-- **The account is kept.**  Every call keeps it. -/
lemma of_does (h : c.Accounted) {call : ConnectionCall}
    {answer : Option (Except BrokerError Unit)} (hdoes : c.Does call answer after) :
    after.Accounted := by
  cases hdoes with
  | refused hlive hcalls => exact h.of_kept rfl rfl hlive hcalls
  | swapped hlive hnew hcalls => exact h.of_swapped hlive hnew hcalls
  | unsent hlive => exact h
  | sent hlive hkept hcalls => exact h.of_kept rfl rfl hkept hcalls
  | ended hlive hcalls => exact h.of_ended hlive hcalls

/-- And so does every run of calls. -/
lemma run (h : c.Accounted) (broker : Broker ς κ) (calls : List ConnectionCall) :
    (c.run broker.recorded calls).Accounted := by
  induction calls generalizing c with
  | nil => exact h
  | cons call calls ih => exact ih (h.of_does (does_perform broker c call))

end Accounted

end Watched

/-- **No session is lost and none is ended twice.**  Behind any calls on a connection that had no
session at first, each session that was opened is the live one and has not been ended, or it is
another one and has been ended once.  A swap opens its session before it ends the one before, and a
connect that is refused leaves all as it is.  A message goes out on the live session, which was
opened with the active certificate; and the answer is that there is no connection if there is no
live session or if the session says so.  The record, out of which all this is read, is of the
broker's own calls: without the watch the same calls are made, with the same answers. -/
theorem sessions_accounted (broker : Broker ς κ) (k : κ) (calls : List ConnectionCall) :
    let c := ({ connector := (k, []) } : Connection (ℕ × ς) (κ × List BrokerCall)).run
      broker.recorded calls
    (c.opened.Nodup ∧ (∀ n ∈ c.ended, n ∈ c.opened) ∧ ∀ n ∈ c.opened,
      c.number = some n ∧ n ∉ c.ended ∨ c.number ≠ some n ∧ c.ended.count n = 1) ∧
    (∀ certificate,
      let done := (c.swap broker.recorded certificate).value
      (∃ e, done.1 = .error e ∧ done.2.live = c.live ∧
        done.2.calls = c.calls ++ [.refused certificate e]) ∨
      ∃ n, n ∉ c.opened ∧ done.1 = .ok () ∧ done.2.number = some n ∧
        done.2.activeCertificate = some certificate ∧
        done.2.calls = c.calls ++ .opened n certificate :: (c.number.map .ended).toList) ∧
    (∀ topic payload,
      let done := (c.publish broker.recorded topic payload).value
      done.2.live = c.live ∧
      (c.live = none ∧ done.2.calls = c.calls ∨
        ∃ n certificate, c.number = some n ∧ c.activeCertificate = some certificate ∧
          .opened n certificate ∈ c.calls ∧
          done.2.calls = c.calls ++ [.sent n topic payload done.1]) ∧
      (done.1 = .error .notConnected ↔ c.live = none ∨ ∃ live, c.live = some live ∧
        (broker.publish live.session.2 topic payload c.connector.1).value.1 =
          .error .notConnected)) ∧
    ((c.shutdown broker.recorded).value.live = none ∧
      (c.shutdown broker.recorded).value.calls =
        c.calls ++ (c.number.map .ended).toList) ∧
    c.unwatched = ({ connector := k } : Connection ς κ).run broker calls ∧
    ∀ call, (fun done => (done.1, done.2.unwatched)) <$> c.perform broker.recorded call =
      c.unwatched.perform broker call := by
  intro c
  have haccount : c.Accounted := (Accounted.start k).run broker calls
  refine ⟨⟨haccount.nodup_opened, fun _ => haccount.opened_of_ended,
    fun _ => haccount.live_or_ended⟩, fun certificate => ?_, fun topic payload => ?_, ?_,
    run_unwatched broker _ calls, perform_unwatched broker c⟩
  · have hdoes := does_perform broker c (.swap certificate)
    simp only [perform, Noted.value_bind, Noted.value_pure] at hdoes
    generalize (c.swap broker.recorded certificate).value = done at hdoes ⊢
    obtain ⟨answer, after⟩ := done
    cases hdoes with
    | refused hlive hcalls => exact .inl ⟨_, rfl, hlive, hcalls⟩
    | swapped hlive hnew hcalls =>
        refine .inr ⟨_, ?_, rfl, ?_, ?_, hcalls⟩
        · rw [haccount.numbered, hnew, List.mem_range]
          exact Nat.lt_irrefl _
        · rw [number, hlive, Option.map_some]
        · rw [activeCertificate, hlive, Option.map_some]
  · have hdoes := does_perform broker c (.publish topic payload)
    have hanswer := publish_eq_notConnected_iff broker.recorded c topic payload
    simp only [perform, Noted.value_bind, Noted.value_pure] at hdoes
    generalize (c.publish broker.recorded topic payload).value = done at hdoes hanswer ⊢
    obtain ⟨answer, after⟩ := done
    dsimp only at hdoes
    cases hdoes with
    | unsent hlive => exact ⟨rfl, .inl ⟨hlive, rfl⟩, hanswer⟩
    | sent hlive hkept hcalls =>
        refine ⟨hkept, .inr ⟨_, _, ?_, ?_, haccount.credential _ hlive, hcalls⟩, hanswer⟩
        · rw [number, hlive, Option.map_some]
        · rw [activeCertificate, hlive, Option.map_some]
  · have hdoes := does_perform broker c .shutdown
    simp only [perform, Noted.value_bind, Noted.value_pure] at hdoes
    cases hdoes with
    | ended hlive hcalls => exact ⟨hlive, hcalls⟩

end Connection

end DeviceGate
