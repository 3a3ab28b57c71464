import DeviceGate.Proofs.Access.Session
import DeviceGate.Proofs.Telemetry.Rejection
import DeviceGate.Proofs.Telemetry.Stored

/-!
Outages only take permission away.  What is permitted while much is down is permitted while less is
down, and a message that is admitted then writes the same; there is one exception, a message whose
sequence number a cache that answers cannot keep for as long as is asked.

* `Outage`, `Outage.Within`: what is down, and that less is down.
* `World.under`: the world with that outage.
* `Outage.Within.grants`, `Outage.Within.clears`, `Outage.Within.takes`: what a caller or a message
  needs is there in a smaller outage too.
* `World.reply?`: what a caller learns; `World.Overtaxes`: the exception.
* `World.AdmitsAs`: a message writes the same in two worlds.
* `World.permission_of_within`: what an outage permits, a smaller one permits too.
-/

namespace DeviceGate

/-! ### Outages -/

/-- What is down: calls of the record store, the readings that a transaction is refused, and the
cache. -/
structure Outage where
  faults : Faults
  refusesReading : ℕ → Bool
  cacheDown : Bool

/-- Whatever is down in the one outage is down in the other. -/
structure Outage.Within (o o' : Outage) : Prop where
  faults : ∀ call, o.faults call = true → o'.faults call = true
  readings : ∀ k, o.refusesReading k = true → o'.refusesReading k = true
  cache : o.cacheDown = true → o'.cacheDown = true

/-- Nothing is down. -/
def Outage.none : Outage where
  faults := .none
  refusesReading := fun _ => false
  cacheDown := false

/-- The store with that outage. -/
def Store.under (s : Store) (o : Outage) : Store :=
  { s with faults := o.faults, refusesReading := o.refusesReading }

/-- The records with that outage. -/
def Records.under (r : Records) (o : Outage) : Records where
  store := r.store.under o
  cache := { r.cache with unavailable := o.cacheDown }

/-- The world with that outage. -/
def World.under (w : World) (o : Outage) : World :=
  { w with state := { w.state with records := w.state.records.under o } }

namespace Outage.Within

variable {o o' : Outage} {s : Store}

lemma none (o : Outage) : Outage.none.Within o where
  faults _ h := by cases h
  readings _ h := by cases h
  cache h := by cases h

lemma up (h : o.Within o') {call : StoreCall} (hup : o'.faults call = false) :
    o.faults call = false := by
  rw [Bool.eq_false_iff]
  intro hdown
  rw [h.faults call hdown] at hup
  cases hup

/-- A call that answers in an outage gives the same answer in a smaller one. -/
lemma answers (h : o.Within o') {α : Type} {call : StoreCall} {k : Unit → Except StoreError α}
    {a : α}
    (hanswer : (o'.faults.check call >>= k) = .ok a) : (o.faults.check call >>= k) = .ok a := by
  rw [Faults.check_bind_eq_ok_iff] at hanswer ⊢
  exact ⟨h.up hanswer.1, hanswer.2⟩

/-! ### Callers -/

lemma authenticate (h : o.Within o') {ctx : LogContext} {c : Credentials}
    (hallowed : ((s.under o').authenticate ctx c).value = .allow) :
    ((s.under o).authenticate ctx c).value = .allow := by
  rw [Store.value_authenticate_eq_allow_iff] at hallowed ⊢
  rcases hallowed with
    ⟨name, hclaims, hpassword, hup, hlisted⟩ | ⟨hno, id, hid, hblank, hup, hlisted⟩
  · exact .inl ⟨name, hclaims, hpassword, h.up hup, hlisted⟩
  · exact .inr ⟨hno, id, hid, hblank, h.up hup, hlisted⟩

lemma grants (h : o.Within o') {policy : AccessPolicy} {r : AccessRequest}
    (hgrants : policy.Grants (s.under o') r) : policy.Grants (s.under o) r := by
  cases hgrants with
  | superuser htrust => exact .superuser htrust
  | rule hno hfirst hcovers => exact .rule hno hfirst hcovers
  | itself hno hsilent hid hdevice hanon hself =>
      exact .itself hno hsilent hid (h.answers hdevice) hanon hself
  | holder hno hsilent hid hdevice hby huser hm hr hholds =>
      exact .holder hno hsilent hid (h.answers hdevice) hby (h.answers huser) (h.up hm) (h.up hr)
        hholds

lemma authorize (h : o.Within o') {policy : AccessPolicy} {ctx : LogContext} {r : AccessRequest}
    (hallowed : (policy.authorize (s.under o') ctx r).value = .allow) :
    (policy.authorize (s.under o) ctx r).value = .allow := by
  rw [AccessPolicy.value_authorize_eq_allow_iff] at hallowed ⊢
  exact h.grants hallowed

lemma mayPurge (h : o.Within o') {ctx : LogContext} {id : String} {granted : Bool}
    (hgranted : ((s.under o').mayPurge ctx id).value = .ok granted) :
    ((s.under o).mayPurge ctx id).value = .ok granted := by
  rw [Store.mayPurge] at hgranted ⊢
  rcases hrow : (s.under o').fetchBatch id with e | row
  · simp [hrow] at hgranted
  · have hrow' : (s.under o).fetchBatch id = .ok row := by
      rw [Store.fetchBatch] at hrow ⊢
      rcases hfound : (s.under o').getBatch id with e | _ | found
      · simp [hfound] at hrow
      · simp [hfound] at hrow
      · have hsame : (s.under o).getBatch id = .ok (some found) := h.answers hfound
        simpa [hfound, hsame] using hrow
    simpa [hrow, hrow'] using hgranted

/-! ### Messages -/

variable {a : Admission} {topic : String} {payload : Json}

lemma clears (h : o.Within o') {uuid : String} {t : TelemetryPayload} {d : Device}
    {c : ComponentType}
    (hclears : a.Clears (s.under o') topic payload uuid t d c) :
    a.Clears (s.under o) topic payload uuid t d c :=
  { hclears with
    registered := h.answers hclears.registered
    supported := h.answers hclears.supported
    attached := h.answers hclears.attached }

lemma takes (h : o.Within o') {count : ℕ} (htakes : (s.under o').Takes count) :
    (s.under o).Takes count where
  begins := h.up htakes.begins
  groups := h.up htakes.groups
  inserts hne := h.up (htakes.inserts hne)
  accepts k hk := by
    rw [Bool.eq_false_iff]
    intro hrefused
    have haccepted := htakes.accepts k hk
    change o'.refusesReading k = false at haccepted
    rw [h.readings k hrefused] at haccepted
    cases haccepted
  touches := h.up htakes.touches
  commits := h.up htakes.commits

end Outage.Within

/-! ### What a caller learns -/

/-- A request for a permission. -/
inductive GateRequest where
  | authenticate (c : Credentials)
  | authorize (r : AccessRequest)
  | accept (m : Message) (payload : Json)
  | mayPurge (id : String)

/-- The command of a request. -/
def GateRequest.command : GateRequest → GateCommand
  | authenticate c => .authenticate c
  | authorize r => .authorize r
  | accept m payload => .accept m payload
  | mayPurge id => .mayPurge id

/-- The answer gives the permission. -/
def GateAnswer.IsPermission : GateAnswer → Prop
  | decision d => d = .allow
  | receipt _ => True
  | purge granted => granted = true
  | _ => False

namespace World

/-- What the caller of a command learns: nothing, if the records overrun on the way. -/
def reply? (w : World) (command : GateCommand) : Option GateAnswer :=
  let o := w.perform command
  if o.world.isOverrun then none else some o.answer

/-- The request is a message that asks too much of the cache's clock. -/
def Overtaxes (w : World) (q : GateRequest) : Prop :=
  ∃ m payload, q = .accept m payload ∧
    w.config.admission.Overreaches payload w.state.records.cache

/-- A message is admitted in the one world as in the other, under the same snapshot and with as many
rows, and the stores behind it differ in nothing but what is down. -/
def AdmitsAs (w w' : World) (m : Message) (payload : Json) : Prop :=
  ∃ receipt receipt' : AdmissionReceipt,
    (w.perform (.accept m payload)).answer = .receipt receipt ∧
    (w'.perform (.accept m payload)).answer = .receipt receipt' ∧
    receipt.snapshotId = receipt'.snapshotId ∧ receipt.rowsWritten = receipt'.rowsWritten ∧
    (w.perform (.accept m payload)).world.store =
      { (w'.perform (.accept m payload)).world.store with
        faults := w.store.faults, refusesReading := w.store.refusesReading }

variable {w : World} {m : Message} {payload : Json}

lemma reply?_eq_some_iff {command : GateCommand} {a : GateAnswer} :
    w.reply? command = some a ↔
      (w.perform command).world.isOverrun = false ∧ (w.perform command).answer = a := by
  simp [reply?]

/-- A question to the record store is answered by it, and overruns nothing. -/
lemma reply?_of_fromStore {α : Type} {ask : Store → Noted α} {f : α → GateAnswer}
    {command : GateCommand} (h : w.perform command = w.answerWith (f <$> Gate.fromStore ask))
    {a : GateAnswer} :
    w.reply? command = some a ↔ w.isOverrun = false ∧ f (ask w.store).value = a := by
  rw [reply?_eq_some_iff, h]
  rfl

/-- A question to the record store that is answered with a permission is answered with one in a
smaller outage, if the store itself gives it there. -/
lemma asked_of_within {o o' : Outage} {α : Type} {q : GateRequest} (ask : Store → Noted α)
    (f : α → GateAnswer)
    (hq : ∀ o, (w.under o).perform q.command = (w.under o).answerWith (f <$> Gate.fromStore ask))
    {a' : GateAnswer} (hkeeps : (f (ask (w.store.under o')).value).IsPermission →
      (f (ask (w.store.under o)).value).IsPermission)
    (hgiven : (w.under o').reply? q.command = some a') (hpermits : a'.IsPermission) :
    ∃ a, (w.under o).reply? q.command = some a ∧ a.IsPermission := by
  rw [reply?_of_fromStore (hq o')] at hgiven
  obtain ⟨hruns, rfl⟩ := hgiven
  exact ⟨_, (reply?_of_fromStore (hq o)).2 ⟨hruns, rfl⟩, hkeeps hpermits⟩

/-- What an admitted message leads to at the gate. -/
lemma accept_of_clears {uuid : String} {t : TelemetryPayload} {d : Device} {c : ComponentType}
    (hclears : w.config.admission.Clears w.store m.topic payload uuid t d c)
    (htakes : w.store.Takes t.readings.length) :
    let seenAt := t.capturedAt.getD w.state.clock
    let o := w.perform (.accept m payload)
    (∃ gap, o.answer =
      .receipt ⟨(w.store.snapshotOf ⟨d, t⟩ seenAt).id, t.readings.length, gap⟩) ∧
    o.world.store = w.store.storing ⟨d, t⟩ seenAt ∧
    (o.world.isOverrun = true ↔ w.isOverrun = true ∨ w.Overtaxes (.accept m payload)) := by
  obtain ⟨gap, hanswer, hstore⟩ :=
    Admission.process_eq_of_clears (r := w.state.records) hclears htakes w.state.clock
  refine ⟨⟨gap, ?_⟩, ?_, ?_⟩
  · rw [answer_accept, processed, hanswer, GateAnswer.ofOutcome]
    rfl
  · rw [world_accept]
    exact hstore
  · have hcache : (w.processed m payload).value.2.cache.overrun = true ↔
        w.state.records.cache.overrun = true ∨
          w.config.admission.Overreaches payload w.state.records.cache := by
      rw [processed, Admission.value_process]
      rcases w.config.admission.run_cases w.state.clock m.context m.topic payload
        w.state.records with
        ⟨rejection, s, -, -, hfirst⟩ | ⟨receipt, after, heq, -, hoverrun⟩
      · exact absurd ⟨uuid, t, d, c, hclears, htakes⟩ hfirst.not_admissible
      · rw [heq]
        exact hoverrun
    have hsame : (w.processed m payload).value.2.store.overrun = w.store.overrun := by
      rw [processed, hstore]
      rfl
    have htaxes : w.Overtaxes (.accept m payload) ↔
        w.config.admission.Overreaches payload w.state.records.cache := by
      simp [Overtaxes]
    rw [world_accept, htaxes]
    simp only [isOverrun, Bool.or_eq_true, hcache, hsame, or_assoc]
    rfl

/-- A message that is answered with a receipt has cleared the checks, and the store has taken it. -/
lemma admissible_of_receipt {receipt : AdmissionReceipt}
    (h : (w.perform (.accept m payload)).answer = .receipt receipt) :
    w.config.admission.Admissible w.store m.topic payload :=
  Admission.admissible_of_process_eq_ok (processed_of_receipt h)

/-- A message that is admitted in an outage is admitted in a smaller one, and gets its answer there
unless it asks too much of the cache's clock. -/
lemma accept_of_within {o o' : Outage} (h : o.Within o') {a' : GateAnswer}
    (hgiven : (w.under o').reply? (.accept m payload) = some a') (hpermits : a'.IsPermission) :
    (w.under o).AdmitsAs (w.under o') m payload ∧
    ((w.under o).isOverrun = false ∧
      ((w.under o).Overtaxes (.accept m payload) → o'.cacheDown = true)) ∧
    (((w.under o).perform (.accept m payload)).world.isOverrun = true ↔
      (w.under o).Overtaxes (.accept m payload)) := by
  rw [reply?_eq_some_iff] at hgiven
  obtain ⟨hruns', rfl⟩ := hgiven
  obtain ⟨receipt', hreceipt'⟩ :
      ∃ receipt', ((w.under o').perform (.accept m payload)).answer = .receipt receipt' := by
    rw [answer_accept] at hpermits ⊢
    rcases hended : ((w.under o').processed m payload).value.1 with rejection | receipt'
    · rw [hended] at hpermits
      exact hpermits.elim
    · exact ⟨receipt', rfl⟩
  obtain ⟨uuid, t, d, c, hclears', htakes'⟩ := admissible_of_receipt hreceipt'
  obtain ⟨⟨gap', hanswer'⟩, hstore', hoverrun'⟩ := accept_of_clears hclears' htakes'
  obtain ⟨⟨gap, hanswer⟩, hstore, hoverrun⟩ :=
    accept_of_clears (w := w.under o) (h.clears hclears') (h.takes htakes')
  rw [← Bool.not_eq_true, hoverrun'] at hruns'
  have hruns : (w.under o).isOverrun = false := by
    rw [← Bool.not_eq_true]
    exact fun hover => hruns' (.inl hover)
  refine ⟨⟨_, _, hanswer, hanswer', rfl, rfl, ?_⟩, ⟨hruns, ?_⟩, ?_⟩
  · rw [hstore, hstore']
    rfl
  · rintro ⟨m', payload', hq, t', current, hread, hcurrent, -, hclock⟩
    cases hq
    by_contra hanswers
    refine hruns' (.inr ⟨m, payload, rfl, t', current, hread, hcurrent, ?_, hclock⟩)
    exact Bool.eq_false_iff.2 hanswers
  · rw [hoverrun, hruns]
    simp

/-- **Outages only take permission away.**  Whatever request is permitted while something is down,
it is permitted from the same world while less is down, unless it is a message that asks too much of
the cache's clock; such a message was admitted only because the cache did not answer, and gets no
answer now.  Either way a message that was admitted has written the same. -/
theorem permission_of_within {o o' : Outage} (h : o.Within o') (w : World) (q : GateRequest)
    (a' : GateAnswer) (hgiven : (w.under o').reply? q.command = some a')
    (hpermits : a'.IsPermission) :
    ((∃ a, (w.under o).reply? q.command = some a ∧ a.IsPermission) ↔ ¬ (w.under o).Overtaxes q) ∧
    ((w.under o).Overtaxes q → o'.cacheDown = true ∧ (w.under o).reply? q.command = none) ∧
    (∀ m payload, q = .accept m payload → (w.under o).AdmitsAs (w.under o') m payload) := by
  cases q with
  | accept m payload =>
      obtain ⟨hadmits, ⟨-, hdown⟩, hoverrun⟩ := accept_of_within h hgiven hpermits
      obtain ⟨receipt, -, hanswer, -⟩ := id hadmits
      refine ⟨?_, fun htaxes => ⟨hdown htaxes, ?_⟩, ?_⟩
      · simp only [GateRequest.command, reply?_eq_some_iff, ← hoverrun, hanswer]
        simp [GateAnswer.IsPermission]
      · simp [GateRequest.command, reply?, hoverrun.2 htaxes]
      · rintro _ _ ⟨⟩
        exact hadmits
  | authenticate c =>
      have hgranted := asked_of_within (fun s => s.authenticate context c) .decision (fun _ => rfl)
        h.authenticate hgiven hpermits
      simp [Overtaxes, hgranted]
  | authorize r =>
      have hgranted := asked_of_within (fun s => w.config.policy.authorize s context r) .decision
        (fun _ => rfl) h.authorize hgiven hpermits
      simp [Overtaxes, hgranted]
  | mayPurge id =>
      have hkeeps :
          (ledgerAnswer .purge ((w.store.under o').mayPurge context id).value).IsPermission →
          (ledgerAnswer .purge ((w.store.under o).mayPurge context id).value).IsPermission := by
        rcases hpurge : ((w.store.under o').mayPurge context id).value with e | granted
        · cases e <;> exact False.elim
        · rw [h.mayPurge hpurge]
          exact fun hgranted => hgranted
      have hgranted := asked_of_within (fun s => s.mayPurge context id) (ledgerAnswer .purge)
        (fun _ => rfl) hkeeps hgiven hpermits
      simp [Overtaxes, hgranted]

/-! ### A sequence number that is kept for too long -/

/-- A gate with the records of a sample, which keeps sequence numbers for so many seconds. -/
def sampleKeeping (sequenceTtl : ℕ) : World :=
  let w := sample .none
  { w with config := { w.config with admission := { w.config.admission with sequenceTtl } } }

/-- Only the cache is down. -/
def cacheOutage : Outage :=
  { Outage.none with cacheDown := true }

/-- However long sequence numbers are kept, a message is admitted while the cache is down. -/
lemma admitted_of_cacheOutage (sequenceTtl : ℕ) :
    ∃ receipt, ((sampleKeeping sequenceTtl).under cacheOutage).reply?
      (.accept Admission.Sample.message Admission.Sample.payload) = some (.receipt receipt) := by
  obtain ⟨⟨gap, hanswer⟩, -, hoverrun⟩ :=
    accept_of_clears (w := (sampleKeeping sequenceTtl).under cacheOutage)
      (@Admission.Sample.clears .none sequenceTtl fun _ _ => rfl)
      ⟨rfl, rfl, fun _ => rfl, fun _ _ => rfl, rfl, rfl⟩
  refine ⟨_, reply?_eq_some_iff.2 ⟨?_, hanswer⟩⟩
  rw [← Bool.not_eq_true, hoverrun]
  rintro (hover | ⟨_, _, ⟨⟩, _, _, -, -, hup, -⟩)
  · cases hover
  · cases hup

/-- A message whose sequence number is kept for a minute is admitted whether the cache is down or
not; one whose number is kept for as long as the clock counts is admitted only while the cache is
down. -/
theorem permission_sample :
    (∃ a, ((sampleKeeping 60).under .none).reply?
      (.accept Admission.Sample.message Admission.Sample.payload) = some a ∧ a.IsPermission) ∧
    (∃ a, ((sampleKeeping Clock.greatest).under cacheOutage).reply?
      (.accept Admission.Sample.message Admission.Sample.payload) = some a ∧ a.IsPermission) ∧
    ((sampleKeeping Clock.greatest).under .none).reply?
      (.accept Admission.Sample.message Admission.Sample.payload) = none := by
  obtain ⟨receipt, hbriefly⟩ := admitted_of_cacheOutage 60
  obtain ⟨receipt', hforever⟩ := admitted_of_cacheOutage Clock.greatest
  refine ⟨?_, ⟨_, hforever, trivial⟩, ?_⟩
  · have hexact := (permission_of_within (.none cacheOutage) (sampleKeeping 60)
      (.accept Admission.Sample.message Admission.Sample.payload) _ hbriefly trivial).1
    refine hexact.2 ?_
    rintro ⟨_, _, -, _, _, -, -, -, hclock⟩
    exact absurd hclock (by decide)
  · have hexcept := (permission_of_within (.none cacheOutage) (sampleKeeping Clock.greatest)
      (.accept Admission.Sample.message Admission.Sample.payload) _ hforever trivial).2.1
    refine (hexcept ⟨_, _, rfl, Admission.Sample.telemetry, 7, by rfl, rfl, rfl, ?_⟩).2
    decide

end World

end DeviceGate
