import DeviceGate.Proofs.Access.Policy
import DeviceGate.Proofs.Audit.Trail

/-!
Who a caller is.  A session under a username is that user's, and the client id that it has chosen
has no say in any decision about it: it only stands in what is reported.  A session without a
username is its client id's, and neither the users nor who holds which device has a say in any
decision about it.

* `AuditEvent.fromClient`: an event with another client id.
* `Accounts`, `Store.withAccounts`: what is known of users, and a store that knows something else.
* `AccessPolicy.evaluate_named`, `AccessPolicy.evaluate_nameless`: what the steps of a decision look
  at in the two cases.
* `AccessPolicy.authorize_identity`: two requests that differ in what they do not look at.
-/

namespace DeviceGate

/-- The event with another client id, if it names one. -/
def AuditEvent.fromClient (clientId : String) (e : AuditEvent) : AuditEvent :=
  e.retold "client_id" clientId

/-! ### The directory of accounts -/

/-- What is known of users, and which of the three calls about them are down, and why. -/
structure Accounts where
  users : List User
  memberships : List Membership
  relationships : List Relationship
  down : Faults

/-- The call asks for accounts. -/
def StoreCall.isAboutAccounts : StoreCall → Bool
  | findUser | memberships | deviceRelationships => true
  | _ => false

namespace Store

/-- The store with another directory of accounts. -/
def withAccounts (s : Store) (a : Accounts) : Store :=
  { s with
    tables :=
      { s.tables with
        users := a.users, memberships := a.memberships, relationships := a.relationships }
    faults :=
      { down := fun call => if call.isAboutAccounts then a.down call else s.faults call
        why := fun call => if call.isAboutAccounts then a.down.why call else s.faults.why call } }

/-- Devices are not looked up among the accounts. -/
lemma findDevice_withAccounts (s : Store) (a : Accounts) (uuid : String) :
    (s.withAccounts a).findDevice uuid = s.findDevice uuid :=
  rfl

end Store

namespace AccessPolicy

variable (policy : AccessPolicy) (s : Store) (ctx : LogContext)

/-! ### What a decision looks at -/

/-- Under a username the steps of a decision do not look at the client id. -/
lemma evaluate_named (name clientId clientId' topic : String) (access : Access) :
    policy.evaluate s ctx (some name) ⟨some name, clientId, topic, access⟩ =
      policy.evaluate s ctx (some name) ⟨some name, clientId', topic, access⟩ := by
  rw [evaluate, evaluate]
  have hidentity : (some name).getD clientId = (some name).getD clientId' := rfl
  rw [hidentity]
  rcases SystemRule.find? policy.rules [(some name).getD clientId'] topic with _ | rule
  · rcases Topic.deviceId? topic with _ | uuid
    · rfl
    · dsimp only
      rcases s.findDevice uuid with e | _ | device
      · rfl
      · rfl
      · rfl
  · rfl

/-- Without a username they look at no account. -/
lemma evaluate_nameless (a : Accounts) (username username' : Option String)
    (clientId topic : String) (access : Access) :
    policy.evaluate (s.withAccounts a) ctx none ⟨username, clientId, topic, access⟩ =
      policy.evaluate s ctx none ⟨username', clientId, topic, access⟩ := by
  rw [evaluate, evaluate]
  rcases SystemRule.find? policy.rules [Option.getD none clientId] topic with _ | rule
  · rcases Topic.deviceId? topic with _ | uuid
    · rfl
    · dsimp only
      rw [s.findDevice_withAccounts a uuid]
      rcases s.findDevice uuid with e | _ | device
      · rfl
      · rfl
      · rfl
  · rfl

/-- The report of a decision tells the client id of the request. -/
lemma events_report (username : Option String) (r : AccessRequest) (clientId : String)
    (d : Decision) :
    (report ctx username { r with clientId := clientId } d).events =
      (report ctx username r d).events.map (AuditEvent.fromClient clientId) := by
  cases d with
  | allow => rfl
  | deny reason => simp [report, AuditEvent.fromClient]

/-! ### Two requests -/

/-- A session under a username is decided on alike, whatever its client id, and reported alike but
for the client id. -/
lemma authorize_named {name : String} (h : name ≠ "") (clientId clientId' topic : String)
    (access : Access) :
    let asked := fun clientId => policy.authorize s ctx ⟨some name, clientId, topic, access⟩
    (asked clientId').value = (asked clientId).value ∧
      (asked clientId').events = (asked clientId).events.map (AuditEvent.fromClient clientId') := by
  intro asked
  have hname : nonempty? (some name) = some name := nonempty?_eq_some_iff.2 ⟨rfl, h⟩
  have hsame := policy.evaluate_named s ctx name clientId' clientId topic access
  simp only [asked, authorize, hname]
  cases policy.isSuperuser (some name) with
  | true => exact ⟨rfl, rfl⟩
  | false =>
      have hreport := events_report ctx (some name) ⟨some name, clientId, topic, access⟩ clientId'
      simp [hsame, hreport, events_evaluate]

/-- A session without a username is decided on alike, and leaves the same traces, whether the
username is missing or empty, and whatever the accounts are. -/
lemma authorize_nameless {username username' : Option String} (h : nonempty? username = none)
    (h' : nonempty? username' = none) (a : Accounts) (clientId topic : String) (access : Access) :
    policy.authorize (s.withAccounts a) ctx ⟨username, clientId, topic, access⟩ =
      policy.authorize s ctx ⟨username', clientId, topic, access⟩ := by
  rw [authorize, authorize, h, h',
    policy.evaluate_nameless s ctx a username username' clientId topic access]
  rfl

/-- **Who a caller is.**  Whatever the superusers, the rules and the records are and whatever is
down, a session under a username is decided on alike for any two client ids, and reported alike but
for the client id.  A session without a username is decided on alike, with the same log and the same
events, whether the username is missing or empty and whatever the accounts are, and whichever calls
for them are down. -/
theorem authorize_identity (topic : String) (access : Access) :
    (∀ name, name ≠ "" → ∀ clientId clientId',
      let asked := fun clientId => policy.authorize s ctx ⟨some name, clientId, topic, access⟩
      (asked clientId').value = (asked clientId).value ∧
        (asked clientId').events = (asked clientId).events.map (AuditEvent.fromClient clientId')) ∧
    (∀ username username', (username = none ∨ username = some "") →
      (username' = none ∨ username' = some "") → ∀ a clientId,
        policy.authorize (s.withAccounts a) ctx ⟨username, clientId, topic, access⟩ =
          policy.authorize s ctx ⟨username', clientId, topic, access⟩) := by
  refine ⟨fun name hname clientId clientId' => ?_, fun username username' h h' a clientId => ?_⟩
  · exact policy.authorize_named s ctx hname clientId clientId' topic access
  · exact policy.authorize_nameless s ctx (nonempty?_eq_none_iff.2 h) (nonempty?_eq_none_iff.2 h') a
      clientId topic access

/-- A user who borrows the client id of a service is refused as before; the service itself, which
has no username, is allowed even while no account can be looked up. -/
theorem borrowed_client_id :
    let policy : AccessPolicy := { superusers := ["root"], rules := SystemRule.builtIn }
    let s : Store :=
      { tables :=
        { devices := [⟨1, "D1", none, none, .online, none⟩], users := [⟨12, "stranger"⟩] } }
    let asked := fun username clientId => policy.authorize s { request := "t" }
      ⟨username, clientId, "ares4/D1/commands", .publish⟩
    (asked (some "stranger") "ares-server-x").value = .deny "no valid ownership" ∧
      (asked (some "stranger") "ares-server-x").events =
        (asked (some "stranger") "app").events.map (AuditEvent.fromClient "ares-server-x") ∧
      (policy.authorize (s.withAccounts ⟨[], [], [], ⟨fun _ => true, fun _ => ""⟩⟩)
        { request := "t" }
        ⟨some "", "ares-server-1", "ares4/D1/commands", .publish⟩).value = .allow := by
  intro policy s asked
  obtain ⟨hnamed, hnameless⟩ :=
    policy.authorize_identity s { request := "t" } "ares4/D1/commands" .publish
  obtain ⟨hvalue, hevents⟩ := hnamed "stranger" (by decide) "app" "ares-server-x"
  refine ⟨?_, hevents, ?_⟩
  · calc (asked (some "stranger") "ares-server-x").value
        = (asked (some "stranger") "app").value := hvalue
      _ = .deny "no valid ownership" := by decide
  · have hservice : (asked none "ares-server-1").value = .allow := by decide
    rw [hnameless (some "") none (.inr rfl) (.inl rfl)]
    exact hservice

end AccessPolicy

end DeviceGate
