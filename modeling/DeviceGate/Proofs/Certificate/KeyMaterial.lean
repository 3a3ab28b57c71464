import DeviceGate.Certificate.Desk
import DeviceGate.Certificate.Issuer
import Mathlib.Data.List.Forall2
import Mathlib.Data.Option.Basic

/-!
Key material is kept out of sight.  Two keepers of a certificate are run side by side: what they are
given differs in key material only, and nothing that can be seen of them tells one from the other.

* `Certificate.facts`: a certificate without its key material; `Certificate.Alike`: the same facts.
* `Noted.Alike`, `Act.Alike`: two computations that note the same and have related results.
* `Authority.Alike`, `Broker.Alike`: two authorities, two brokers, to the same effect;
  `PkiClient.authority_alike`, `Connector.broker_alike`: cases of them.
* `Keyring`: everything that a certificate passes through; `Keyring.serve`: one call on it.
* `KeySight`: what can be seen of a call.
* `Keyring.alike_serve`, `Keyring.sight_eq`: calls that are alike are seen alike and leave alike
  keyrings.
* `Keyring.key_material_unseen`: and so do any number of them.
-/

namespace DeviceGate

/-! ### Certificates without their key material -/

/-- Everything about a certificate but its key material. -/
structure CertificateFacts where
  serialNumber : String
  commonName : String
  issuedAt : Timestamp
  expiration : Timestamp
  deriving DecidableEq

namespace Certificate

/-- The certificate without its key material. -/
def facts (c : Certificate) : CertificateFacts where
  serialNumber := c.serialNumber
  commonName := c.commonName
  issuedAt := c.issuedAt
  expiration := c.expiration

/-- Two certificates that differ in key material at most. -/
def Alike (c c' : Certificate) : Prop := c.facts = c'.facts

variable {c c' a a' : Certificate}

lemma alike_iff :
    c.Alike c' ↔ c.serialNumber = c'.serialNumber ∧ c.commonName = c'.commonName ∧
      c.issuedAt = c'.issuedAt ∧ c.expiration = c'.expiration := by
  rw [Alike, facts, facts, CertificateFacts.mk.injEq]

lemma Alike.serialNumber (h : c.Alike c') : c.serialNumber = c'.serialNumber :=
  congrArg CertificateFacts.serialNumber h

/-- One is the other with different key material. -/
lemma Alike.exists_eq (h : c.Alike c') :
    ∃ certificate privateKey issuingCa, c = { c' with
      certificate := certificate, privateKey := privateKey, issuingCa := issuingCa } := by
  obtain ⟨hserial, hname, hissued, hexpires⟩ := alike_iff.mp h
  refine ⟨c.certificate, c.privateKey, c.issuingCa, ?_⟩
  rw [← hserial, ← hname, ← hissued, ← hexpires]

/-- Whether a certificate is due is no matter of its key material. -/
lemma Alike.validityAt (h : c.Alike c') (now : Timestamp) :
    c.validityAt now = c'.validityAt now := by
  obtain ⟨_, _, _, rfl⟩ := h.exists_eq
  rfl

lemma Alike.remainingAt (h : c.Alike c') (now : Timestamp) :
    c.remainingAt now = c'.remainingAt now := by
  obtain ⟨_, _, _, rfl⟩ := h.exists_eq
  rfl

/-- Nor is what a log may show of it. -/
lemma Alike.debugText (h : c.Alike c') : c.debugText = c'.debugText := by
  obtain ⟨_, _, _, rfl⟩ := h.exists_eq
  rfl

/-- Nor whether two certificates come from one issue. -/
lemma Alike.sameIssuance (h : c.Alike c') (ha : a.Alike a') :
    c.sameIssuance a = c'.sameIssuance a' := by
  rw [Certificate.sameIssuance, h.serialNumber, ha.serialNumber, Certificate.sameIssuance]

/-- The texts of a certificate, if there is one. -/
lemma texts_of_rel {o o' : Option Certificate} (h : Option.Rel Alike o o') :
    o.toList.map Certificate.debugText = o'.toList.map Certificate.debugText := by
  cases h with
  | none => rfl
  | some h => exact congrArg ([·]) h.debugText

end Certificate

namespace AcquiredCertificate

/-- What may be seen of an acquisition: the certificate without its key material, and the reason for
a new one. -/
def facts (a : AcquiredCertificate) : CertificateFacts × Option String :=
  (a.certificate.facts, a.newBecause)

/-- Two acquisitions that differ in key material at most. -/
def Alike (a a' : AcquiredCertificate) : Prop := a.facts = a'.facts

lemma Alike.certificate {a a' : AcquiredCertificate} (h : a.Alike a') :
    a.certificate.Alike a'.certificate :=
  congrArg Prod.fst h

end AcquiredCertificate

/-! ### Computations side by side -/

section Relations

variable {α β γ δ ε : Type}

/-- Two pairs with either part related. -/
def Paired (R : α → β → Prop) (S : γ → δ → Prop) (p : α × γ) (q : β × δ) : Prop :=
  R p.1 q.1 ∧ S p.2 q.2

/-- Two answers that are the same failure or related results. -/
inductive Answered (R : α → β → Prop) : Except ε α → Except ε β → Prop
  | failed (e : ε) : Answered R (.error e) (.error e)
  | done {a : α} {b : β} (h : R a b) : Answered R (.ok a) (.ok b)

/-- Two computations that write the same lines and emit the same events, in the same order, and have
related results. -/
def Noted.Alike (R : α → β → Prop) (x : Noted α) (y : Noted β) : Prop :=
  x.notes = y.notes ∧ R x.value y.value

namespace Noted.Alike

variable {R : α → β → Prop} {S : γ → δ → Prop}

lemma pure {a : α} {b : β} (h : R a b) : Noted.Alike R (Pure.pure a) (Pure.pure b) :=
  ⟨rfl, h⟩

lemma bind {x : Noted α} {y : Noted β} {f : α → Noted γ} {g : β → Noted δ}
    (h : Noted.Alike R x y) (hnext : ∀ a b, R a b → Noted.Alike S (f a) (g b)) :
    Noted.Alike S (x >>= f) (y >>= g) := by
  obtain ⟨hnotes, hvalue⟩ := hnext _ _ h.2
  exact ⟨congrArg₂ (· ++ ·) h.1 hnotes, hvalue⟩

/-- The same line before either. -/
lemma log {x : Noted γ} {y : Noted δ} {level : LogLevel} {m m' : String} (hm : m = m')
    (h : Noted.Alike S x y) :
    Noted.Alike S (Noted.log level m >>= fun _ => x) (Noted.log level m' >>= fun _ => y) :=
  ⟨by simp [hm, h.1], h.2⟩

/-- The same event before either. -/
lemma emit {x : Noted γ} {y : Noted δ} {e e' : AuditEvent} (he : e = e')
    (h : Noted.Alike S x y) :
    Noted.Alike S (Noted.emit e >>= fun _ => x) (Noted.emit e' >>= fun _ => y) :=
  ⟨by simp [he, h.1], h.2⟩

end Noted.Alike

variable {σ τ : Type} {R : σ → τ → Prop} {S : α → β → Prop} {U : γ → δ → Prop}

/-- Two computations on states: from related states they note the same, have related results and
leave related states. -/
def Act.Alike (R : σ → τ → Prop) (S : α → β → Prop) (x : Act σ α) (y : Act τ β) : Prop :=
  ∀ s t, R s t → Noted.Alike (Paired S R) (x s) (y t)

namespace Act.Alike

lemma pure {a : α} {b : β} (h : S a b) : Act.Alike R S (Pure.pure a) (Pure.pure b) :=
  fun _ _ hst => .pure ⟨h, hst⟩

lemma bind {x : Act σ α} {y : Act τ β} {f : α → Act σ γ} {g : β → Act τ δ}
    (h : Act.Alike R S x y) (hnext : ∀ a b, S a b → Act.Alike R U (f a) (g b)) :
    Act.Alike R U (x >>= f) (y >>= g) :=
  fun s t hst => (h s t hst).bind fun p q hpq => hnext p.1 q.1 hpq.1 p.2 q.2 hpq.2

lemma lift {x : Noted α} {y : Noted β} (h : Noted.Alike S x y) :
    Act.Alike R S (StateT.lift x) (StateT.lift y) :=
  fun _ _ hst => h.bind fun _ _ hab => .pure ⟨hab, hst⟩

/-- The same line before either. -/
lemma log {x : Act σ γ} {y : Act τ δ} {level : LogLevel} {m m' : String} (hm : m = m')
    (h : Act.Alike R U x y) :
    Act.Alike R U (Act.log level m >>= fun _ => x) (Act.log level m' >>= fun _ => y) :=
  bind (S := Eq) (lift ⟨by rw [hm], rfl⟩) fun _ _ _ => h

/-- The same event before either. -/
lemma emit {x : Act σ γ} {y : Act τ δ} {e e' : AuditEvent} (he : e = e')
    (h : Act.Alike R U x y) :
    Act.Alike R U (Act.emit e >>= fun _ => x) (Act.emit e' >>= fun _ => y) :=
  bind (S := Eq) (lift ⟨by rw [he], rfl⟩) fun _ _ _ => h

end Act.Alike

end Relations

/-- Two authorities of one name that give, from related states, the same failures and certificates
that differ in key material at most. -/
structure Authority.Alike {σ σ' : Type} (authority : Authority σ) (authority' : Authority σ')
    (R : σ → σ' → Prop) : Prop where
  name : authority.name = authority'.name
  issue (request : CertificateRequest) {s : σ} {s' : σ'} (h : R s s') :
    Paired (Answered Certificate.Alike) R (authority.issue request s) (authority'.issue request s')

/-- Two brokers that do the same from related states and on related sessions, with certificates that
differ in key material at most. -/
structure Broker.Alike {ς κ ς' κ' : Type} (broker : Broker ς κ) (broker' : Broker ς' κ')
    (S : ς → ς' → Prop) (K : κ → κ' → Prop) : Prop where
  connect {c c' : Certificate} (h : c.Alike c') :
    Act.Alike K (Answered S) (broker.connect c) (broker'.connect c')
  publish (topic : String) (payload : ByteArray) {session : ς} {session' : ς'}
    (h : S session session') :
    Act.Alike K Eq (broker.publish session topic payload) (broker'.publish session' topic payload)
  disconnect {session : ς} {session' : ς'} (h : S session session') :
    Act.Alike K Eq (broker.disconnect session) (broker'.disconnect session')

/-- The broker of the rehearsals does the same whatever the key material. -/
lemma Connector.broker_alike : Connector.broker.Alike Connector.broker Eq Eq where
  connect {c c'} h := by
    rintro k _ rfl
    have haccept : k.accept c = k.accept c' := by simp only [accept, h.serialNumber]
    rcases hmode : k.mode with _ | ⟨_ | why, failure⟩
    · simp only [broker, connect, hmode, haccept]
      refine .log ?_ (.pure ⟨.done rfl, rfl⟩)
      obtain ⟨_, _, _, rfl⟩ := h.exists_eq
      rfl
    · simp only [broker, connect, hmode, haccept]
      exact .pure ⟨.done rfl, rfl⟩
    · simp only [broker, connect, hmode, h.serialNumber]
      exact .pure ⟨.failed _, rfl⟩
  publish topic payload := by
    rintro session _ rfl k _ rfl
    exact ⟨rfl, rfl, rfl⟩
  disconnect := by
    rintro session _ rfl k _ rfl
    exact ⟨rfl, rfl, rfl⟩

/-- Two answers from which the same is learnt but for key material, whose presence counts. -/
inductive PkiAnswer.Alike : PkiAnswer → PkiAnswer → Prop
  | same (a : PkiAnswer) : Alike a a
  | decoded {a a' : PkiAnswer} {m m' : IssuedMaterial} (hstatus : a.status = a'.status)
      (h : (Json.read? a.body).bind IssuedMaterial.ofJson? = some m)
      (h' : (Json.read? a'.body).bind IssuedMaterial.ofJson? = some m')
      (hsuccess : ¬(a.status < 200 ∨ 300 ≤ a.status))
      (hserial : m.serialNumber = m'.serialNumber) (hexpires : m.expiration = m'.expiration)
      (hcertificate : m.certificate.isEmpty = m'.certificate.isEmpty)
      (hkey : m.privateKey.isEmpty = m'.privateKey.isEmpty) : Alike a a'

namespace PkiClient

variable {c : PkiClient} {answer answer' : PkiAnswer}

lemma interpret_alike (h : answer.Alike answer') (request : CertificateRequest)
    (issuedAt : Timestamp) :
    Answered Certificate.Alike (c.interpret request issuedAt answer)
      (c.interpret request issuedAt answer') := by
  cases h with
  | same =>
      rcases c.interpret request issuedAt answer with e | certificate
      · exact .failed e
      · exact .done rfl
  | @decoded _ m m' hstatus h h' hsuccess hserial hexpires hcertificate hkey =>
      simp only [interpret, ← hstatus, if_neg hsuccess, h, h', hcertificate, hkey, hexpires,
        hserial]
      split
      · exact .failed _
      · rcases c.expirationOf m'.expiration issuedAt with e | expiration
        · exact .failed e
        · exact .done rfl

/-- The authority behind HTTP, with the same clock and answers that are alike. -/
lemma authority_alike {σ σ' : Type} {R : σ → σ' → Prop} {clock : σ → Timestamp × σ}
    {clock' : σ' → Timestamp × σ'} {exchange : PkiCall → σ → Except String PkiAnswer × σ}
    {exchange' : PkiCall → σ' → Except String PkiAnswer × σ'}
    (hclock : ∀ s s', R s s' → Paired Eq R (clock s) (clock' s'))
    (hexchange : ∀ call s s', R s s' →
      Paired (Answered PkiAnswer.Alike) R (exchange call s) (exchange' call s')) :
    (c.authority clock exchange).Alike (c.authority clock' exchange') R where
  name := rfl
  issue request {s s'} hs := by
    obtain ⟨hmoment, hs⟩ := hclock s s' hs
    obtain ⟨hanswer, hs⟩ := hexchange (c.call request) _ _ hs
    simp only [authority, ← hmoment]
    generalize exchange (c.call request) (clock s).2 = reply at hanswer hs ⊢
    generalize exchange' (c.call request) (clock' s').2 = reply' at hanswer hs ⊢
    obtain ⟨answer, s⟩ := reply
    obtain ⟨answer', s'⟩ := reply'
    cases hanswer with
    | failed why => exact ⟨.failed _, hs⟩
    | done h => exact ⟨interpret_alike h request _, hs⟩

end PkiClient

/-! ### The operations side by side -/

namespace Lifecycle

variable {σ σ' : Type} {authority : Authority σ} {authority' : Authority σ'} {R : σ → σ' → Prop}
  {c c' : Certificate}

/-- The details of an event have no key material in them. -/
lemma describe_congr (h : c.Alike c') (e : AuditEvent) (request : CertificateRequest) :
    describe e request c = describe e request c' := by
  obtain ⟨_, _, _, rfl⟩ := h.exists_eq
  rfl

lemma alike_reuse (h : c.Alike c') (request : CertificateRequest) (now : Timestamp) :
    Noted.Alike AcquiredCertificate.Alike (reuse request c now) (reuse request c' now) := by
  refine .log ?_ (.emit ?_ (.pure ?_))
  · rw [h.serialNumber, h.remainingAt]
  · exact describe_congr h _ request
  · exact congrArg (·, none) h

lemma alike_renew (hauthority : authority.Alike authority' R) (request : CertificateRequest)
    (reason : String) :
    Act.Alike R (Answered AcquiredCertificate.Alike) (renew authority request reason)
      (renew authority' request reason) := by
  have hask : Act.Alike R (Answered Certificate.Alike) (modifyGet (authority.issue request))
      (modifyGet (authority'.issue request)) := fun s s' hs => .pure (hauthority.issue request hs)
  rw [renew, renew, hauthority.name]
  refine .log rfl (hask.bind fun answer answer' hanswer => ?_)
  cases hanswer with
  | failed e => exact .log rfl (.pure (.failed e))
  | @done c c' h =>
      refine .log ?_ (.emit ?_ (.pure (.done ?_)))
      · obtain ⟨_, _, _, rfl⟩ := h.exists_eq
        rfl
      · exact congrArg (·.detail "reason" reason) (describe_congr h _ request)
      · exact congrArg (·, some reason) h

/-- An acquisition, from certificates and with authorities that are alike. -/
lemma alike_acquire (hauthority : authority.Alike authority' R) (request : CertificateRequest)
    {current current' : Option Certificate}
    (hcurrent : Option.Rel Certificate.Alike current current') (now : Timestamp) :
    Act.Alike R (Answered AcquiredCertificate.Alike)
      (acquireCertificate authority request current now)
      (acquireCertificate authority' request current' now) := by
  cases hcurrent with
  | none => exact alike_renew hauthority request _
  | @some c c' h =>
      simp only [acquireCertificate, h.validityAt now]
      rcases (c'.validityAt now).reason? with _ | reason
      · exact .bind (.lift (alike_reuse h request now)) fun _ _ ha => .pure (.done ha)
      · exact alike_renew hauthority request reason

end Lifecycle

namespace LiveConnection

/-- Two sessions that are related, opened with certificates that differ in key material at most. -/
structure Alike {ς ς' : Type} (S : ς → ς' → Prop) (l : LiveConnection ς) (l' : LiveConnection ς') :
    Prop where
  certificate : l.certificate.Alike l'.certificate
  session : S l.session l'.session

end LiveConnection

namespace Connection

variable {ς κ ς' κ' : Type} {S : ς → ς' → Prop} {K : κ → κ' → Prop}

/-- Two connections with related brokers and sessions. -/
structure Alike (S : ς → ς' → Prop) (K : κ → κ' → Prop) (c : Connection ς κ)
    (c' : Connection ς' κ') : Prop where
  connector : K c.connector c'.connector
  live : Option.Rel (LiveConnection.Alike S) c.live c'.live

variable {broker : Broker ς κ} {broker' : Broker ς' κ'} {c : Connection ς κ}
  {c' : Connection ς' κ'}

lemma Alike.activeCertificate (h : c.Alike S K c') :
    Option.Rel Certificate.Alike c.activeCertificate c'.activeCertificate := by
  obtain ⟨k, live⟩ := c
  obtain ⟨k', live'⟩ := c'
  cases h.live with
  | none => exact .none
  | some hlive => exact .some hlive.certificate

lemma alike_swap (hbroker : broker.Alike broker' S K) (hc : c.Alike S K c')
    {certificate certificate' : Certificate} (h : certificate.Alike certificate') :
    Noted.Alike (Paired Eq (Alike S K)) (c.swap broker certificate)
      (c'.swap broker' certificate') := by
  obtain ⟨k, live⟩ := c
  obtain ⟨k', live'⟩ := c'
  refine (hbroker.connect h k k' hc.connector).bind ?_
  rintro ⟨answer, k⟩ ⟨answer', k'⟩ ⟨hanswer, hk⟩
  cases hanswer with
  | failed e => exact .pure ⟨rfl, hk, hc.live⟩
  | done hsession =>
      cases hc.live with
      | none => exact .log (by rw [h.serialNumber]) (.pure ⟨rfl, hk, .some ⟨h, hsession⟩⟩)
      | some hold =>
          refine .log (by rw [hold.certificate.serialNumber, h.serialNumber]) ?_
          refine (hbroker.disconnect hold.session _ _ hk).bind ?_
          exact fun _ _ hended => .pure ⟨rfl, hended.2, .some ⟨h, hsession⟩⟩

lemma alike_publish (hbroker : broker.Alike broker' S K) (hc : c.Alike S K c') (topic : String)
    (payload : ByteArray) :
    Noted.Alike (Paired Eq (Alike S K)) (c.publish broker topic payload)
      (c'.publish broker' topic payload) := by
  obtain ⟨k, live⟩ := c
  obtain ⟨k', live'⟩ := c'
  cases hc.live with
  | none => exact .pure ⟨rfl, hc⟩
  | some hlive =>
      refine (hbroker.publish topic payload hlive.session k k' hc.connector).bind ?_
      exact fun _ _ hsent => .pure ⟨hsent.1, hsent.2, .some hlive⟩

lemma alike_shutdown (hbroker : broker.Alike broker' S K) (hc : c.Alike S K c') :
    Noted.Alike (Alike S K) (c.shutdown broker) (c'.shutdown broker') := by
  obtain ⟨k, live⟩ := c
  obtain ⟨k', live'⟩ := c'
  cases hc.live with
  | none => exact .pure hc
  | some hlive =>
      refine .log (by rw [hlive.certificate.serialNumber]) ?_
      refine (hbroker.disconnect hlive.session k k' hc.connector).bind ?_
      exact fun _ _ hended => .pure ⟨hended.2, .none⟩

end Connection

namespace Rotation

variable {σ σ' ς κ ς' κ' : Type} {authority : Authority σ} {authority' : Authority σ'}
  {broker : Broker ς κ} {broker' : Broker ς' κ'} {R : σ → σ' → Prop} {S : ς → ς' → Prop}
  {K : κ → κ' → Prop} {c : Connection ς κ} {c' : Connection ς' κ'}

lemma isActive_congr {active active' : Option Certificate}
    (hactive : Option.Rel Certificate.Alike active active') {a a' : Certificate} (h : a.Alike a') :
    isActive active a = isActive active' a' := by
  cases hactive with
  | none => rfl
  | some hactive => exact hactive.sameIssuance h

lemma alike_apply (hbroker : broker.Alike broker' S K) (hc : c.Alike S K c')
    {certificate certificate' : Certificate} (h : certificate.Alike certificate') :
    Noted.Alike (Paired Eq (Connection.Alike S K)) (apply broker c certificate)
      (apply broker' c' certificate') := by
  rw [apply, apply, h.serialNumber]
  refine (Connection.alike_swap hbroker hc h).bind ?_
  rintro ⟨answer, c⟩ ⟨answer', c'⟩ ⟨⟨⟩, hc⟩
  rcases answer with e | ⟨⟩
  · exact .log rfl (.pure ⟨rfl, hc⟩)
  · exact .log rfl (.pure ⟨rfl, hc⟩)

/-- A cycle, with authorities and brokers that are alike. -/
lemma alike_rotate (hauthority : authority.Alike authority' R) (hbroker : broker.Alike broker' S K)
    (request : CertificateRequest) (now : Timestamp) :
    Act.Alike (Paired R (Connection.Alike S K)) Eq (rotate authority broker request now)
      (rotate authority' broker' request now) := by
  rintro ⟨s, c⟩ ⟨s', c'⟩ ⟨hs, hc⟩
  refine (Lifecycle.alike_acquire hauthority request hc.activeCertificate now s s' hs).bind ?_
  rintro ⟨answer, s⟩ ⟨answer', s'⟩ ⟨hanswer, hs⟩
  cases hanswer with
  | failed e => exact .log rfl (.pure ⟨rfl, hs, hc⟩)
  | done h =>
      simp only [isActive_congr hc.activeCertificate h.certificate]
      split
      · exact .log rfl (.pure ⟨rfl, hs, hc⟩)
      · refine (alike_apply hbroker hc h.certificate).bind ?_
        exact fun _ _ happlied => .pure ⟨happlied.1, hs, happlied.2⟩

end Rotation

/-! ### Everything that a certificate passes through -/

/-- An authority, a connection and the certificate that was acquired last. -/
structure Keyring (σ ς κ : Type) where
  authority : σ
  connection : Connection ς κ
  acquired : Option Certificate := none

/-- A call on a keyring. -/
inductive KeyCall where
  | acquire (current : CurrentCertificate) (now : Timestamp)
  | cycle (now : Timestamp)
  | swap (certificate : CurrentCertificate)
  | publish (topic : String) (payload : ByteArray)
  | shutdown

/-- What may be seen of an answer: it is told without key material. -/
inductive KeyAnswer where
  | acquired (answer : Except PkiError (CertificateFacts × Option String))
  | outcome (o : RotationOutcome)
  | replied (answer : Except BrokerError Unit)
  | ended
  /-- There is no certificate to swap over to. -/
  | unasked

/-- What can be seen of a call: its answer, the lines and events in their order, and the texts of
all certificates that it has to do with. -/
structure KeySight where
  answer : KeyAnswer
  notes : List Note
  texts : List String

/-- Two certificates to start from that differ in key material at most. -/
inductive CurrentCertificate.Alike : CurrentCertificate → CurrentCertificate → Prop
  | absent : Alike .absent .absent
  | lastAcquired : Alike .lastAcquired .lastAcquired
  | active : Alike .active .active
  | given {c c' : Certificate} (h : c.Alike c') : Alike (.given c) (.given c')

/-- Two calls that differ in key material at most. -/
inductive KeyCall.Alike : KeyCall → KeyCall → Prop
  | acquire {current current' : CurrentCertificate} (h : current.Alike current')
      (now : Timestamp) : Alike (.acquire current now) (.acquire current' now)
  | cycle (now : Timestamp) : Alike (.cycle now) (.cycle now)
  | swap {certificate certificate' : CurrentCertificate} (h : certificate.Alike certificate') :
      Alike (.swap certificate) (.swap certificate')
  | publish (topic : String) (payload : ByteArray) :
      Alike (.publish topic payload) (.publish topic payload)
  | shutdown : Alike .shutdown .shutdown

namespace Keyring

section Calls

variable {σ ς κ : Type} (authority : Authority σ) (broker : Broker ς κ)
  (request : CertificateRequest) (r : Keyring σ ς κ)

/-- The certificate that is meant. -/
def resolve : CurrentCertificate → Option Certificate
  | .absent => none
  | .lastAcquired => r.acquired
  | .active => r.connection.activeCertificate
  | .given c => some c

/-- The certificate that an acquisition comes to, if it succeeds. -/
def acquires (current : Option Certificate) (now : Timestamp) : Option Certificate :=
  (acquireCertificate authority request current now r.authority).value.1.toOption.map
    (·.certificate)

/-- One call. -/
def serve : KeyCall → Noted (KeyAnswer × Keyring σ ς κ)
  | .acquire current now => do
    let (answer, s) ← acquireCertificate authority request (r.resolve current) now r.authority
    let acquired := (answer.toOption.map (·.certificate)).or r.acquired
    return (.acquired (answer.map AcquiredCertificate.facts),
      { r with authority := s, acquired := acquired })
  | .cycle now => do
    let (outcome, s, c) ← rotate authority broker request now (r.authority, r.connection)
    return (.outcome outcome, { r with authority := s, connection := c })
  | .swap certificate =>
    match r.resolve certificate with
    | none => return (.unasked, r)
    | some certificate => do
      let (answer, c) ← r.connection.swap broker certificate
      return (.replied answer, { r with connection := c })
  | .publish topic payload => do
    let (answer, c) ← r.connection.publish broker topic payload
    return (.replied answer, { r with connection := c })
  | .shutdown => do
    let c ← r.connection.shutdown broker
    return (.ended, { r with connection := c })

/-- The certificates that a call has to do with. -/
def involved : KeyCall → List Certificate
  | .acquire current now =>
    (r.resolve current).toList ++ (r.acquires authority request (r.resolve current) now).toList
  | .cycle now =>
    r.connection.activeCertificate.toList ++
      (r.acquires authority request r.connection.activeCertificate now).toList
  | .swap certificate => r.connection.activeCertificate.toList ++ (r.resolve certificate).toList
  | .publish _ _ => r.connection.activeCertificate.toList
  | .shutdown => r.connection.activeCertificate.toList

/-- What can be seen of a call. -/
def sight (call : KeyCall) : KeySight where
  answer := (r.serve authority broker request call).value.1
  notes := (r.serve authority broker request call).notes
  texts := (r.involved authority request call).map Certificate.debugText

/-- What calls leave. -/
def after (calls : List KeyCall) : Keyring σ ς κ :=
  calls.foldl (fun r call => (r.serve authority broker request call).value.2) r

/-- What can be seen of calls, one after another. -/
def sights : Keyring σ ς κ → List KeyCall → List KeySight
  | _, [] => []
  | r, call :: calls =>
    r.sight authority broker request call ::
      sights (r.serve authority broker request call).value.2 calls

end Calls

section SideBySide

variable {σ σ' ς κ ς' κ' : Type} {authority : Authority σ} {authority' : Authority σ'}
  {broker : Broker ς κ} {broker' : Broker ς' κ'} {R : σ → σ' → Prop} {S : ς → ς' → Prop}
  {K : κ → κ' → Prop} {r : Keyring σ ς κ} {r' : Keyring σ' ς' κ'}

/-- Two keyrings with related authorities and brokers, whose certificates differ in key material at
most. -/
structure Alike (R : σ → σ' → Prop) (S : ς → ς' → Prop) (K : κ → κ' → Prop) (r : Keyring σ ς κ)
    (r' : Keyring σ' ς' κ') : Prop where
  authority : R r.authority r'.authority
  connection : r.connection.Alike S K r'.connection
  acquired : Option.Rel Certificate.Alike r.acquired r'.acquired

lemma Alike.resolve (hr : r.Alike R S K r') {source source' : CurrentCertificate}
    (h : source.Alike source') :
    Option.Rel Certificate.Alike (r.resolve source) (r'.resolve source') := by
  cases h with
  | absent => exact .none
  | lastAcquired => exact hr.acquired
  | active => exact hr.connection.activeCertificate
  | given h => exact .some h

lemma Alike.acquires (hr : r.Alike R S K r') (hauthority : authority.Alike authority' R)
    (request : CertificateRequest) {current current' : Option Certificate}
    (h : Option.Rel Certificate.Alike current current') (now : Timestamp) :
    Option.Rel Certificate.Alike (r.acquires authority request current now)
      (r'.acquires authority' request current' now) := by
  have hacquire := (Lifecycle.alike_acquire hauthority request h now _ _ hr.authority).2.1
  rw [Keyring.acquires, Keyring.acquires]
  generalize (acquireCertificate authority request current now r.authority).value.1 = answer
    at hacquire ⊢
  generalize (acquireCertificate authority' request current' now r'.authority).value.1 = answer'
    at hacquire ⊢
  cases hacquire with
  | failed e => exact .none
  | done h => exact .some h.certificate

/-- **One call.**  Calls that are alike, on keyrings that are alike, note the same, are answered the
same and leave keyrings that are alike. -/
lemma alike_serve (hauthority : authority.Alike authority' R) (hbroker : broker.Alike broker' S K)
    (request : CertificateRequest) (hr : r.Alike R S K r') {call call' : KeyCall}
    (h : call.Alike call') :
    Noted.Alike (Paired Eq (Alike R S K)) (r.serve authority broker request call)
      (r'.serve authority' broker' request call') := by
  cases h with
  | acquire h now =>
      have hacquire := Lifecycle.alike_acquire hauthority request (hr.resolve h) now
      refine (hacquire _ _ hr.authority).bind ?_
      rintro ⟨answer, s⟩ ⟨answer', s'⟩ ⟨hanswer, hs⟩
      cases hanswer with
      | failed e => exact .pure ⟨rfl, hs, hr.connection, hr.acquired⟩
      | done h => exact .pure ⟨congrArg (KeyAnswer.acquired ∘ Except.ok) h, hs, hr.connection,
          .some h.certificate⟩
  | cycle now =>
      have hrotate := Rotation.alike_rotate hauthority hbroker request now
      refine (hrotate _ _ ⟨hr.authority, hr.connection⟩).bind ?_
      rintro ⟨outcome, s, c⟩ ⟨_, s', c'⟩ ⟨⟨⟩, hs, hc⟩
      exact .pure ⟨rfl, hs, hc, hr.acquired⟩
  | swap h =>
      have hsource := hr.resolve h
      simp only [serve]
      generalize r.resolve _ = source at hsource ⊢
      generalize r'.resolve _ = source' at hsource ⊢
      cases hsource with
      | none => exact .pure ⟨rfl, hr⟩
      | some h =>
          refine (Connection.alike_swap hbroker hr.connection h).bind ?_
          rintro ⟨answer, c⟩ ⟨_, c'⟩ ⟨⟨⟩, hc⟩
          exact .pure ⟨rfl, hr.authority, hc, hr.acquired⟩
  | publish topic payload =>
      refine (Connection.alike_publish hbroker hr.connection topic payload).bind ?_
      rintro ⟨answer, c⟩ ⟨_, c'⟩ ⟨⟨⟩, hc⟩
      exact .pure ⟨rfl, hr.authority, hc, hr.acquired⟩
  | shutdown =>
      refine (Connection.alike_shutdown hbroker hr.connection).bind fun c c' hc => ?_
      exact .pure ⟨rfl, hr.authority, hc, hr.acquired⟩

/-- The certificates that such calls have to do with are shown alike. -/
lemma texts_involved_eq (hauthority : authority.Alike authority' R) (request : CertificateRequest)
    (hr : r.Alike R S K r') {call call' : KeyCall} (h : call.Alike call') :
    (r.involved authority request call).map Certificate.debugText =
      (r'.involved authority' request call').map Certificate.debugText := by
  have hactive := hr.connection.activeCertificate
  have hnew {current current' : Option Certificate}
      (h : Option.Rel Certificate.Alike current current') (now : Timestamp) :=
    Certificate.texts_of_rel (hr.acquires hauthority request h now)
  have hactiveTexts := Certificate.texts_of_rel hactive
  cases h with
  | acquire h now =>
      have hsource := hr.resolve h
      simp only [involved, List.map_append, Certificate.texts_of_rel hsource, hnew hsource now]
  | cycle now => simp only [involved, List.map_append, hactiveTexts, hnew hactive now]
  | swap h =>
      simp only [involved, List.map_append, hactiveTexts, Certificate.texts_of_rel (hr.resolve h)]
  | publish topic payload => exact hactiveTexts
  | shutdown => exact hactiveTexts

/-- So they cannot be told apart. -/
lemma sight_eq (hauthority : authority.Alike authority' R) (hbroker : broker.Alike broker' S K)
    (request : CertificateRequest) (hr : r.Alike R S K r') {call call' : KeyCall}
    (h : call.Alike call') :
    r.sight authority broker request call = r'.sight authority' broker' request call' := by
  obtain ⟨hnotes, hanswer, -⟩ := alike_serve hauthority hbroker request hr h
  rw [sight, sight, hnotes, hanswer, texts_involved_eq hauthority request hr h]

/-- **Key material is never seen.**  Two keyrings are kept side by side, for one request.  Their
authorities answer alike and their brokers do alike, and the calls on them are alike: the same
operations at the same moments, with certificates that are equal in serial number, common name,
issue and expiration but in nothing else.  Then, call by call, the same is answered, the same lines
are written and events emitted in the same order, and every certificate that is involved has the
same text; and the keyrings that are left are alike again. -/
theorem key_material_unseen (hauthority : authority.Alike authority' R)
    (hbroker : broker.Alike broker' S K) (request : CertificateRequest)
    (hstart : r.Alike R S K r') {calls calls' : List KeyCall}
    (hcalls : List.Forall₂ KeyCall.Alike calls calls') :
    sights authority broker request r calls = sights authority' broker' request r' calls' ∧
      (r.after authority broker request calls).Alike R S K
        (r'.after authority' broker' request calls') := by
  induction hcalls generalizing r r' with
  | nil => exact ⟨rfl, hstart⟩
  | cons hcall hcalls ih =>
      obtain ⟨-, -, hnext⟩ := alike_serve hauthority hbroker request hstart hcall
      obtain ⟨hsights, hafter⟩ := ih hnext
      exact ⟨congrArg₂ (· :: ·) (sight_eq hauthority hbroker request hstart hcall) hsights, hafter⟩

end SideBySide

namespace Sample

def request : CertificateRequest where
  commonName := "gate"
  roleName := "server"

/-- A certificate with this key material. -/
def certificate (material serial : String) (expiration : Timestamp) : Certificate where
  certificate := material
  privateKey := material
  issuingCa := material
  serialNumber := serial
  commonName := "gate"
  issuedAt := ⟨0, 0⟩
  expiration := expiration

lemma certificate_alike (material material' serial : String) (expiration : Timestamp) :
    (certificate material serial expiration).Alike (certificate material' serial expiration) :=
  rfl

/-- An authority whose certificates have this key material and last for one hour. -/
def issuer (material : String) : Authority Nat where
  name := "sample"
  issue _ n := (.ok (certificate material (toString n) ⟨3600, 0⟩), n + 1)

/-- A keyring without a certificate. -/
def start : Keyring Nat BrokerSession Connector where
  authority := 1
  connection := { connector := { mode := .attached none none } }

/-- A certificate is acquired and taken into use.  It has expired by the first cycle, and its
successor by the last acquisition, which is given one of a hundred days. -/
def calls (material : String) : List KeyCall :=
  [.acquire .absent ⟨0, 0⟩, .swap .lastAcquired, .publish "topic" "payload".toUTF8,
    .cycle ⟨7200, 0⟩, .acquire (.given (certificate material "9" ⟨8640000, 0⟩)) ⟨7200, 0⟩,
    .shutdown]

end Sample

open Sample in
theorem key_material_unseen_rotated :
    ((issuer "A").Alike (issuer "B") Eq ∧ start.Alike Eq Eq Eq start ∧
      List.Forall₂ KeyCall.Alike (calls "A") (calls "B")) ∧
    sights (issuer "A") Connector.broker request start (calls "A") =
      sights (issuer "B") Connector.broker request start (calls "B") ∧
    (start.after (issuer "A") Connector.broker request (calls "A")).acquired.map (·.privateKey) =
      some "A" ∧
    (start.after (issuer "B") Connector.broker request (calls "B")).acquired.map (·.privateKey) =
      some "B" := by
  have hauthority : (issuer "A").Alike (issuer "B") Eq :=
    ⟨rfl, fun _ _ _ h => h ▸ ⟨.done (certificate_alike ..), rfl⟩⟩
  have hstart : start.Alike Eq Eq Eq start := ⟨rfl, ⟨rfl, .none⟩, .none⟩
  have hcalls : List.Forall₂ KeyCall.Alike (calls "A") (calls "B") :=
    .cons (.acquire .absent _) <| .cons (.swap .lastAcquired) <| .cons (.publish _ _) <|
      .cons (.cycle _) <| .cons (.acquire (.given (certificate_alike ..)) _) <| .cons .shutdown .nil
  exact ⟨⟨hauthority, hstart, hcalls⟩,
    (key_material_unseen hauthority Connector.broker_alike request hstart hcalls).1,
    by decide +kernel, by decide +kernel⟩

end Keyring

end DeviceGate
