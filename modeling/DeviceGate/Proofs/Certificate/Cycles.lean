import DeviceGate.Certificate.Connector
import DeviceGate.Certificate.Rotation
import DeviceGate.Certificate.Scripted
import DeviceGate.Proofs.Certificate.Sessions

/-!
Cycles of rotation, one after another, while the authority fails and the broker refuses as they
will.  Both are watched: what they were asked and what they answered is recorded.

* `Authority.recorded`: the authority under watch.
* `Rotation.Does`: what a cycle does, case by case; `Rotation.does_rotate`.
* `Rotation.rotate_unwatched`, `Rotation.run_unwatched`: without the watch the same is done.
* `Rotation.Traceable`: the active certificate is the first one or has been issued since, which is
  how it is told from one that was just issued; `Rotation.Traceable.run`.
* `Rotation.Harmless`: what a cycle may do to the connection.
* `Rotation.cycle_keeps_credential`: no cycle leaves the connection worse off.
-/

namespace DeviceGate

/-- An authority under watch: its answers are recorded. -/
def Authority.recorded {σ : Type} (authority : Authority σ) :
    Authority (σ × List (Except PkiError Certificate)) where
  name := authority.name
  issue request := fun (s, answers) =>
    let (answer, s) := authority.issue request s
    (answer, s, answers ++ [answer])

/-- Why a certificate is to be issued, if the current one is not to be used on. -/
def Lifecycle.dueBecause? (current : Option Certificate) (now : Timestamp) : Option String :=
  match current with
  | none => some "no current certificate"
  | some c => (c.validityAt now).reason?

namespace Lifecycle

variable {σ : Type} {current : Option Certificate} {now : Timestamp}

/-- None is to be issued if there is one that is valid. -/
lemma dueBecause?_eq_none_iff :
    dueBecause? current now = none ↔ ∃ c, current = some c ∧ (c.validityAt now).isValid := by
  rcases current with _ | c
  · simp [dueBecause?]
  · cases h : c.validityAt now <;>
      simp [dueBecause?, h, CertificateValidity.reason?, CertificateValidity.isValid]

lemma acquire_of_due (authority : Authority σ) (request : CertificateRequest) {reason : String}
    (h : dueBecause? current now = some reason) :
    acquireCertificate authority request current now = renew authority request reason := by
  rcases current with _ | c
  · obtain rfl := Option.some.inj h
    rfl
  · have hreason : (c.validityAt now).reason? = some reason := h
    simp only [acquireCertificate, hreason]

lemma acquire_of_valid (authority : Authority σ) (request : CertificateRequest) (s : σ)
    {c : Certificate} (hcurrent : current = some c) (h : dueBecause? current now = none) :
    (acquireCertificate authority request current now s).value =
        (.ok { certificate := c, newBecause := none }, s) ∧
      (acquireCertificate authority request current now s).events = [reusedEvent request c] := by
  subst hcurrent
  have hreason : (c.validityAt now).reason? = none := h
  simp only [acquireCertificate, hreason]
  exact ⟨rfl, rfl⟩

variable {authority : Authority σ} {request : CertificateRequest} {s s' : σ}

lemma renew_of_failed {e : PkiError} (h : authority.issue request s = (.error e, s'))
    (reason : String) :
    (renew authority request reason s).value = (.error e, s') ∧
      (renew authority request reason s).events = [] := by
  have hask : (modifyGet (authority.issue request) : Act σ _) s = pure (.error e, s') :=
    congrArg pure h
  constructor
  · simp [renew, Act.log, StateT.lift, bind, StateT.bind, hask, Act.pure_apply]
  · simp [renew, Act.log, Noted.events, StateT.lift, bind, StateT.bind, hask, Act.pure_apply]

lemma renew_of_issued {c : Certificate} (h : authority.issue request s = (.ok c, s'))
    (reason : String) :
    (renew authority request reason s).value =
        (.ok { certificate := c, newBecause := some reason }, s') ∧
      (renew authority request reason s).events = [issuedEvent request c reason] := by
  have hask : (modifyGet (authority.issue request) : Act σ _) s = pure (.ok c, s') :=
    congrArg pure h
  constructor
  · simp [renew, Act.log, Act.emit, StateT.lift, bind, StateT.bind, hask, Act.pure_apply]
  · simp [renew, Act.log, Act.emit, Noted.events, StateT.lift, bind, StateT.bind, hask,
      Act.pure_apply]

end Lifecycle

/-- A swap emits nothing. -/
lemma Connection.events_swap {ς κ : Type} (broker : Broker ς κ) (c : Connection ς κ)
    (certificate : Certificate) : (c.swap broker certificate).events = [] := by
  rcases hanswer : (broker.connect certificate c.connector).value with ⟨_ | _, _⟩
  · simp [swap, hanswer]
  · rcases hlive : c.live with _ | old <;> simp [swap, hanswer, hlive]

namespace Rotation

variable {σ ς κ : Type}

section Cycle

variable {authority : Authority σ} {request : CertificateRequest} {now : Timestamp} {s s' : σ}
  {c : Connection ς κ} (broker : Broker ς κ)

/-- A cycle for which no certificate can be had. -/
lemma rotate_of_unissued {e : PkiError}
    (h : (acquireCertificate authority request c.activeCertificate now s).value = (.error e, s')) :
    (rotate authority broker request now (s, c)).value = (.failed e.message, s', c) ∧
      (rotate authority broker request now (s, c)).events =
        (acquireCertificate authority request c.activeCertificate now s).events := by
  constructor
  · simp [rotate, h]
  · simp [rotate, h]

/-- A cycle whose certificate is the active one. -/
lemma rotate_of_same {acquired : AcquiredCertificate}
    (h : (acquireCertificate authority request c.activeCertificate now s).value =
      (.ok acquired, s'))
    (hsame : isActive c.activeCertificate acquired.certificate = true) :
    (rotate authority broker request now (s, c)).value = (.unchanged, s', c) ∧
      (rotate authority broker request now (s, c)).events =
        (acquireCertificate authority request c.activeCertificate now s).events := by
  constructor
  · simp [rotate, h, hsame]
  · simp [rotate, h, hsame]

/-- The outcome of a cycle that swaps over to a certificate. -/
def outcomeOf (certificate : Certificate) : Except BrokerError Unit → RotationOutcome
  | .ok () => .rotated certificate.serialNumber
  | .error e => .failed e.message

lemma apply_eq (c : Connection ς κ) (certificate : Certificate) :
    (apply broker c certificate).value =
        (outcomeOf certificate (c.swap broker certificate).value.1,
          (c.swap broker certificate).value.2) ∧
      (apply broker c certificate).events = [] := by
  rcases hswap : (c.swap broker certificate).value with ⟨_ | _, _⟩
  · simp [apply, hswap, Connection.events_swap, outcomeOf]
  · simp [apply, hswap, Connection.events_swap, outcomeOf]

/-- A cycle with another certificate than the active one. -/
lemma rotate_of_new {acquired : AcquiredCertificate}
    (h : (acquireCertificate authority request c.activeCertificate now s).value =
      (.ok acquired, s'))
    (hnew : isActive c.activeCertificate acquired.certificate = false) :
    (rotate authority broker request now (s, c)).value =
        (outcomeOf acquired.certificate (c.swap broker acquired.certificate).value.1, s',
          (c.swap broker acquired.certificate).value.2) ∧
      (rotate authority broker request now (s, c)).events =
        (acquireCertificate authority request c.activeCertificate now s).events := by
  have happly := apply_eq broker c acquired.certificate
  constructor
  · simp [rotate, h, hnew, happly]
  · simp [rotate, h, hnew, happly]

end Cycle

/-- Everything that a cycle works on, with authority and broker under watch. -/
abbrev Watched (σ ς κ : Type) :=
  (σ × List (Except PkiError Certificate)) × Connection (ℕ × ς) (κ × List BrokerCall)

/-- The answers of the authority so far. -/
def answers (w : Watched σ ς κ) : List (Except PkiError Certificate) :=
  w.1.2

/-- The certificates that it has issued. -/
def issued (w : Watched σ ς κ) : List Certificate :=
  (answers w).filterMap Except.toOption

/-- The active certificate. -/
def active (w : Watched σ ς κ) : Option Certificate :=
  w.2.activeCertificate

/-- What a cycle does: its outcome, the events that it emits and what it leaves. -/
inductive Does (request : CertificateRequest) (now : Timestamp) (w : Watched σ ς κ) :
    RotationOutcome → List AuditEvent → Watched σ ς κ → Prop
  /-- The active certificate is used on. -/
  | kept {c : Certificate} (hactive : active w = some c)
      (hdue : Lifecycle.dueBecause? (active w) now = none) :
      Does request now w .unchanged [Lifecycle.reusedEvent request c] w
  /-- The authority fails. -/
  | unissued {e : PkiError} {reason : String} {after : Watched σ ς κ}
      (hdue : Lifecycle.dueBecause? (active w) now = some reason)
      (hanswers : answers after = answers w ++ [.error e]) (hkept : after.2 = w.2) :
      Does request now w (.failed e.message) [] after
  /-- The authority issues the active certificate once more. -/
  | reissued {c : Certificate} {reason : String} {after : Watched σ ς κ}
      (hdue : Lifecycle.dueBecause? (active w) now = some reason)
      (hanswers : answers after = answers w ++ [.ok c]) (hsame : isActive (active w) c)
      (hkept : after.2 = w.2) :
      Does request now w .unchanged [Lifecycle.issuedEvent request c reason] after
  /-- A new certificate is issued, with which the broker refuses to connect. -/
  | refused {c : Certificate} {e : BrokerError} {reason : String} {after : Watched σ ς κ}
      (hdue : Lifecycle.dueBecause? (active w) now = some reason)
      (hanswers : answers after = answers w ++ [.ok c]) (hlive : after.2.live = w.2.live)
      (hcalls : after.2.calls = w.2.calls ++ [.refused c e]) :
      Does request now w (.failed e.message) [Lifecycle.issuedEvent request c reason] after
  /-- A new certificate is issued, and a session opened with it. -/
  | installed {c : Certificate} {reason : String} {after : Watched σ ς κ}
      (hdue : Lifecycle.dueBecause? (active w) now = some reason)
      (hanswers : answers after = answers w ++ [.ok c]) (hactive : active after = some c) :
      Does request now w (.rotated c.serialNumber) [Lifecycle.issuedEvent request c reason] after

/-- Every cycle does one of these things. -/
lemma does_rotate (authority : Authority σ) (broker : Broker ς κ) (request : CertificateRequest)
    (now : Timestamp) (w : Watched σ ς κ) :
    Does request now w (rotate authority.recorded broker.recorded request now w).value.1
      (rotate authority.recorded broker.recorded request now w).events
      (rotate authority.recorded broker.recorded request now w).value.2 := by
  obtain ⟨⟨s, asked⟩, c⟩ := w
  rcases hdue : Lifecycle.dueBecause? c.activeCertificate now with _ | reason
  · obtain ⟨current, hcurrent, -⟩ := Lifecycle.dueBecause?_eq_none_iff.mp hdue
    obtain ⟨hacquire, hevents⟩ :=
      Lifecycle.acquire_of_valid authority.recorded request (s, asked) hcurrent hdue
    have hsame : isActive c.activeCertificate current = true := by
      simp [isActive, hcurrent, Certificate.sameIssuance]
    obtain ⟨hvalue, hemitted⟩ := rotate_of_same broker.recorded hacquire hsame
    rw [hvalue, hemitted, hevents]
    exact .kept hcurrent hdue
  · have hacquire := Lifecycle.acquire_of_due authority.recorded request hdue
    rcases hissue : authority.issue request s with ⟨e | certificate, s'⟩
    · have hask : authority.recorded.issue request (s, asked) =
          (.error e, s', asked ++ [.error e]) := by simp [Authority.recorded, hissue]
      obtain ⟨hrenewed, hevents⟩ := Lifecycle.renew_of_failed hask reason
      rw [← hacquire] at hrenewed hevents
      obtain ⟨hvalue, hemitted⟩ := rotate_of_unissued broker.recorded hrenewed
      rw [hvalue, hemitted, hevents]
      exact .unissued hdue rfl rfl
    · have hask : authority.recorded.issue request (s, asked) =
          (.ok certificate, s', asked ++ [.ok certificate]) := by
        simp [Authority.recorded, hissue]
      obtain ⟨hrenewed, hevents⟩ := Lifecycle.renew_of_issued hask reason
      rw [← hacquire] at hrenewed hevents
      rcases hsame : isActive c.activeCertificate certificate with _ | _
      · obtain ⟨hvalue, hemitted⟩ := rotate_of_new broker.recorded hrenewed hsame
        rw [hvalue, hemitted, hevents]
        have hdoes := Connection.does_perform broker c (.swap certificate)
        simp only [Connection.perform, Noted.value_bind, Noted.value_pure] at hdoes
        generalize (c.swap broker.recorded certificate).value = done at hdoes ⊢
        obtain ⟨answer, after⟩ := done
        cases hdoes with
        | refused hlive hcalls => exact .refused hdue rfl hlive hcalls
        | swapped hlive hnew hcalls =>
            exact .installed hdue rfl (congrArg (Option.map LiveConnection.certificate) hlive)
      · obtain ⟨hvalue, hemitted⟩ := rotate_of_same broker.recorded hrenewed hsame
        rw [hvalue, hemitted, hevents]
        exact .reissued hdue rfl hsame rfl

/-! ### Nothing changes under watch -/

/-- What there is without the watch. -/
def unwatched (w : Watched σ ς κ) : σ × Connection ς κ :=
  (w.1.1, w.2.unwatched)

/-- The authority is asked the same under watch. -/
lemma renew_unwatched (authority : Authority σ) (request : CertificateRequest) (reason : String)
    (s : σ × List (Except PkiError Certificate)) :
    (fun done => (done.1, done.2.1)) <$> Lifecycle.renew authority.recorded request reason s =
      Lifecycle.renew authority request reason s.1 := by
  have hname : authority.recorded.name = authority.name := rfl
  rcases hissue : authority.issue request s.1 with ⟨answer, s'⟩
  have hask : (modifyGet (authority.issue request) : Act σ _) s.1 = pure (answer, s') :=
    congrArg pure hissue
  have hrecorded : (modifyGet (authority.recorded.issue request) : Act (σ × List _) _) s =
      pure (answer, s', s.2 ++ [answer]) := by
    refine congrArg pure ?_
    simp [hissue]
  rcases answer with e | c
  · apply Noted.ext <;>
      simp [Lifecycle.renew, Act.log, StateT.lift, bind, StateT.bind, hask, hrecorded, hname,
        Act.pure_apply]
  · apply Noted.ext <;>
      simp [Lifecycle.renew, Act.log, Act.emit, StateT.lift, bind, StateT.bind, hask, hrecorded,
        hname, Act.pure_apply]

/-- So is an acquisition. -/
lemma acquire_unwatched (authority : Authority σ) (request : CertificateRequest)
    (current : Option Certificate) (now : Timestamp)
    (s : σ × List (Except PkiError Certificate)) :
    (fun done => (done.1, done.2.1)) <$>
        acquireCertificate authority.recorded request current now s =
      acquireCertificate authority request current now s.1 := by
  rcases hdue : Lifecycle.dueBecause? current now with _ | reason
  · obtain ⟨c, rfl, -⟩ := Lifecycle.dueBecause?_eq_none_iff.mp hdue
    have hreason : (c.validityAt now).reason? = none := hdue
    simp only [acquireCertificate, hreason]
    rfl
  · rw [Lifecycle.acquire_of_due _ _ hdue, Lifecycle.acquire_of_due _ _ hdue, renew_unwatched]

lemma activeCertificate_unwatched (c : Connection (ℕ × ς) (κ × List BrokerCall)) :
    c.unwatched.activeCertificate = c.activeCertificate := by
  simp [Connection.activeCertificate, Connection.unwatched, Function.comp_def]

/-- So is a swap with its outcome. -/
lemma apply_unwatched (broker : Broker ς κ) (c : Connection (ℕ × ς) (κ × List BrokerCall))
    (certificate : Certificate) :
    (fun done => (done.1, done.2.unwatched)) <$> apply broker.recorded c certificate =
      apply broker c.unwatched certificate := by
  rw [apply, apply, ← Connection.swap_unwatched, map_bind, bind_map_left]
  congr 1
  funext ⟨answer, after⟩
  rcases answer with e | ⟨⟩
  · rfl
  · rfl

/-- And so is a cycle: in its outcome, its notes and what it leaves. -/
lemma rotate_unwatched (authority : Authority σ) (broker : Broker ς κ)
    (request : CertificateRequest) (now : Timestamp) (w : Watched σ ς κ) :
    (fun done => (done.1, unwatched done.2)) <$>
        rotate authority.recorded broker.recorded request now w =
      rotate authority broker request now (unwatched w) := by
  obtain ⟨s, c⟩ := w
  simp only [rotate, unwatched, activeCertificate_unwatched]
  rw [← acquire_unwatched, map_bind, bind_map_left]
  congr 1
  funext ⟨acquired, s⟩
  rcases acquired with e | acquired
  · rfl
  · dsimp only
    split
    · rfl
    · rw [← apply_unwatched, map_bind, bind_map_left]
      rfl

/-! ### Cycle after cycle -/

/-- What cycles at these moments leave. -/
def run (authority : Authority σ) (broker : Broker ς κ) (request : CertificateRequest)
    (start : σ × Connection ς κ) (moments : List Timestamp) : σ × Connection ς κ :=
  moments.foldl (fun w now => (rotate authority broker request now w).value.2) start

@[simp] lemma run_nil (authority : Authority σ) (broker : Broker ς κ)
    (request : CertificateRequest) (start : σ × Connection ς κ) :
    run authority broker request start [] = start :=
  rfl

@[simp] lemma run_cons (authority : Authority σ) (broker : Broker ς κ)
    (request : CertificateRequest) (start : σ × Connection ς κ) (now : Timestamp)
    (moments : List Timestamp) :
    run authority broker request start (now :: moments) =
      run authority broker request (rotate authority broker request now start).value.2 moments :=
  rfl

/-- The same cycles are run under watch. -/
lemma run_unwatched (authority : Authority σ) (broker : Broker ς κ)
    (request : CertificateRequest) (w : Watched σ ς κ) (moments : List Timestamp) :
    unwatched (run authority.recorded broker.recorded request w moments) =
      run authority broker request (unwatched w) moments := by
  induction moments generalizing w with
  | nil => rfl
  | cons now moments ih =>
      have hcycle := congrArg (fun done => done.value.2)
        (rotate_unwatched authority broker request now w)
      rw [run_cons, run_cons, ih, ← hcycle]
      rfl

section Serials

variable {request : CertificateRequest} {now : Timestamp} {w after : Watched σ ς κ}
  {first : Option Certificate} {c : Certificate}

lemma issued_of_ok (hanswers : answers after = answers w ++ [.ok c]) :
    issued after = issued w ++ [c] := by
  rw [issued, hanswers, List.filterMap_append, issued]
  rfl

lemma issued_of_error {e : PkiError} (hanswers : answers after = answers w ++ [.error e]) :
    issued after = issued w := by
  rw [issued, hanswers, List.filterMap_append, issued]
  exact List.append_nil _

/-- The active certificate is the one that was active at first, or has been issued since. -/
def Traceable (first : Option Certificate) (w : Watched σ ς κ) : Prop :=
  ∀ c, active w = some c → c ∈ first.toList ++ issued w

/-- Every cycle keeps the active certificate traceable. -/
lemma Traceable.of_does (h : Traceable first w) {outcome : RotationOutcome}
    {events : List AuditEvent} (hdoes : Does request now w outcome events after) :
    Traceable first after := by
  intro c hactive
  cases hdoes with
  | kept => exact h c hactive
  | unissued hdue hanswers hkept =>
      rw [issued_of_error hanswers]
      exact h c (by rwa [active, hkept] at hactive)
  | reissued hdue hanswers hsame hkept =>
      rw [issued_of_ok hanswers, ← List.append_assoc]
      exact List.mem_append_left _ (h c (by rwa [active, hkept] at hactive))
  | refused hdue hanswers hlive hcalls =>
      rw [issued_of_ok hanswers, ← List.append_assoc]
      rw [active, Connection.activeCertificate, hlive] at hactive
      exact List.mem_append_left _ (h c hactive)
  | installed hdue hanswers hinstalled =>
      obtain rfl := Option.some.inj (hinstalled.symm.trans hactive)
      rw [issued_of_ok hanswers, ← List.append_assoc]
      exact List.mem_append_right _ (List.mem_singleton_self _)

/-- And so does every run of cycles. -/
lemma Traceable.run (h : Traceable first w) (authority : Authority σ) (broker : Broker ς κ)
    (request : CertificateRequest) (moments : List Timestamp) :
    Traceable first (run authority.recorded broker.recorded request w moments) := by
  induction moments generalizing w with
  | nil => exact h
  | cons now moments ih => exact ih (h.of_does (does_rotate authority broker request now w))

/-- With serial numbers that are never issued again, a certificate that was just issued is not the
active one. -/
lemma Traceable.not_isActive (h : Traceable first w)
    (hserials : ((first.toList ++ issued after).map (·.serialNumber)).Nodup)
    (hanswers : answers after = answers w ++ [.ok c]) : isActive (active w) c = false := by
  rw [issued_of_ok hanswers, ← List.append_assoc, List.map_append] at hserials
  rcases hactive : active w with _ | old
  · rfl
  · have hold : old.serialNumber ∈ (first.toList ++ issued w).map (·.serialNumber) :=
      List.mem_map_of_mem (h old hactive)
    have hother : old.serialNumber ≠ c.serialNumber :=
      fun heq => (List.disjoint_of_nodup_append hserials) hold (by simp [heq])
    simp [isActive, Certificate.sameIssuance, hother]

end Serials

/-- A cycle leaves the connection no worse off. -/
structure Harmless (request : CertificateRequest) (now : Timestamp) (w : Watched σ ς κ)
    (outcome : RotationOutcome) (events : List AuditEvent) (after : Watched σ ς κ) : Prop where
  unchanged_iff : outcome = .unchanged ↔ ∃ c, active w = some c ∧ (c.validityAt now).isValid
  /-- In that case neither the authority nor the broker is called. -/
  unchanged : outcome = .unchanged → after = w
  /-- A failure leaves the live session; at most, a connect has been refused. -/
  failed : ∀ message, outcome = .failed message → after.2.live = w.2.live ∧
    (after.2 = w.2 ∨ ∃ c e, after.2.calls = w.2.calls ++ [.refused c e])
  /-- Otherwise the certificate that was just issued is active in place of one that is not valid. -/
  rotated : ∀ serial, outcome = .rotated serial → ∃ c, c.serialNumber = serial ∧
    answers after = answers w ++ [.ok c] ∧ active after = some c ∧
    ∀ old, active w = some old → (old.validityAt now).isValid = false
  connected : w.2.live.isSome → after.2.live.isSome
  /-- The authority has failed, or it has not been asked, or it has issued a certificate. -/
  emitted : (∃ e, answers after = answers w ++ [.error e] ∧ events = []) ∨
    (∃ c, answers after = answers w ∧ active w = some c ∧
      events = [Lifecycle.reusedEvent request c]) ∨
    ∃ c reason, answers after = answers w ++ [.ok c] ∧
      events = [Lifecycle.issuedEvent request c reason]

/-- A certificate that is due is not valid. -/
lemma isValid_of_due {now : Timestamp} {w : Watched σ ς κ} {reason : String}
    (hdue : Lifecycle.dueBecause? (active w) now = some reason) :
    ∀ old, active w = some old → (old.validityAt now).isValid = false := by
  intro old hactive
  by_contra hvalid
  rw [Bool.not_eq_false] at hvalid
  rw [Lifecycle.dueBecause?_eq_none_iff.mpr ⟨old, hactive, hvalid⟩] at hdue
  cases hdue

/-- What a cycle does is harmless, unless the active certificate is issued once more. -/
lemma Does.harmless {request : CertificateRequest} {now : Timestamp} {w after : Watched σ ς κ}
    {outcome : RotationOutcome} {events : List AuditEvent}
    (hdoes : Does request now w outcome events after)
    (hnew : ∀ c, answers after = answers w ++ [.ok c] → isActive (active w) c = false) :
    Harmless request now w outcome events after := by
  have hvalid : Lifecycle.dueBecause? (active w) now = none ↔
      ∃ c, active w = some c ∧ (c.validityAt now).isValid := Lifecycle.dueBecause?_eq_none_iff
  cases hdoes with
  | kept hactive hdue =>
      exact ⟨iff_of_true rfl (hvalid.mp hdue), fun _ => rfl, nofun, nofun, id,
        .inr (.inl ⟨_, rfl, hactive, rfl⟩)⟩
  | unissued hdue hanswers hkept =>
      refine ⟨iff_of_false nofun ?_, nofun, ?_, nofun, ?_, .inl ⟨_, hanswers, rfl⟩⟩
      · rw [← hvalid, hdue]
        exact nofun
      · exact fun _ _ => ⟨congrArg Connection.live hkept, .inl hkept⟩
      · rw [hkept]
        exact id
  | reissued hdue hanswers hsame hkept =>
      rw [hnew _ hanswers] at hsame
      cases hsame
  | refused hdue hanswers hlive hcalls =>
      refine ⟨iff_of_false nofun ?_, nofun, ?_, nofun, ?_, .inr (.inr ⟨_, _, hanswers, rfl⟩)⟩
      · rw [← hvalid, hdue]
        exact nofun
      · exact fun _ _ => ⟨hlive, .inr ⟨_, _, hcalls⟩⟩
      · rw [hlive]
        exact id
  | installed hdue hanswers hactive =>
      refine ⟨iff_of_false nofun ?_, nofun, nofun, ?_, ?_, .inr (.inr ⟨_, _, hanswers, rfl⟩)⟩
      · rw [← hvalid, hdue]
        exact nofun
      · rintro _ ⟨rfl⟩
        exact ⟨_, rfl, hanswers, hactive, isValid_of_due hdue⟩
      · intro _
        obtain ⟨live, hlive, -⟩ := Option.map_eq_some_iff.mp hactive
        simp [hlive]

/-- **No cycle leaves the connection worse off.**  Behind any cycles of rotation, whatever their
moments and however the authority has failed and the broker refused, one more cycle is harmless: it
keeps a certificate that is valid, and only such a one; it leaves the live session as it is if it
fails; and otherwise it leaves active what it was just issued.  One event is emitted, unless the
authority has failed.  No serial number may have been issued twice, nor that of the certificate that
was active at first.  All this is read out of a record of what the authority and the broker were
asked, without which the cycles are the same. -/
theorem cycle_keeps_credential (authority : Authority σ) (broker : Broker ς κ)
    (request : CertificateRequest) (s : σ) (start : Connection (ℕ × ς) (κ × List BrokerCall))
    (moments : List Timestamp) (now : Timestamp) :
    let w : Watched σ ς κ :=
      run authority.recorded broker.recorded request ((s, []), start) moments
    let cycle := rotate authority.recorded broker.recorded request now w
    ((start.activeCertificate.toList ++ issued cycle.value.2).map (·.serialNumber)).Nodup →
    Harmless request now w cycle.value.1 cycle.events cycle.value.2 ∧
    unwatched w = run authority broker request (s, start.unwatched) moments ∧
    (fun done => (done.1, unwatched done.2)) <$> cycle =
      rotate authority broker request now (unwatched w) := by
  intro w cycle hserials
  have hstart : Traceable start.activeCertificate (((s, []), start) : Watched σ ς κ) :=
    fun c hactive => List.mem_append_left _ (Option.mem_toList.mpr hactive)
  have htraceable : Traceable start.activeCertificate w :=
    hstart.run authority broker request moments
  have hdoes : Does request now w cycle.value.1 cycle.events cycle.value.2 :=
    does_rotate authority broker request now w
  refine ⟨hdoes.harmless ?_, run_unwatched .., rotate_unwatched ..⟩
  exact fun c hanswers => htraceable.not_isActive hserials hanswers

namespace Sample

def request : CertificateRequest where
  commonName := "gate"
  roleName := "server"

/-- An authority whose certificates last for one hour. -/
def authority : ScriptedAuthority where
  script := .dated ⟨0, 0⟩ ⟨3600, 0⟩ none
  clock := ⟨0, 0⟩

/-- A connection to a broker that accepts every connect. -/
def connection : Connection (ℕ × BrokerSession) (Connector × List BrokerCall) where
  connector := ({ mode := .attached none none }, [])

/-- What the first cycle leaves. -/
def connected : Watched ScriptedAuthority BrokerSession Connector :=
  run ScriptedAuthority.authority.recorded Connector.broker.recorded request
    ((authority, []), connection) [⟨0, 0⟩]

/-- The cycle two hours later. -/
def renewal : Noted (RotationOutcome × Watched ScriptedAuthority BrokerSession Connector) :=
  rotate ScriptedAuthority.authority.recorded Connector.broker.recorded request ⟨7200, 0⟩ connected

end Sample

open Sample in
theorem cycle_keeps_credential_expired :
    ((connection.activeCertificate.toList ++ issued renewal.value.2).map
      (·.serialNumber)).Nodup ∧
    renewal.value.1 = .rotated "s2" ∧
    Harmless request ⟨7200, 0⟩ connected renewal.value.1 renewal.events renewal.value.2 :=
  have hserials : ((connection.activeCertificate.toList ++ issued renewal.value.2).map
      (·.serialNumber)).Nodup := by decide
  ⟨hserials, by decide,
    (cycle_keeps_credential ScriptedAuthority.authority Connector.broker request authority
      connection [⟨0, 0⟩] ⟨7200, 0⟩ hserials).1⟩

end Rotation

end DeviceGate
