import DeviceGate.Gate.State
import Mathlib.Tactic

/-!
The access policy as a statement about records.  A request is granted in four ways only: the
username is a superuser's, the first rule about the caller and the topic permits it, a device asks
for itself, or a user asks who holds the device; each way is closed as soon as an earlier one has an
opinion.

* `AccessPolicy.Grants`: the policy, one constructor for each way.
* `Tables.Holds`: a user holds a device, directly or through an organization.
* `Gate.authorize_allow_iff`: the engine allows exactly what the policy grants, denies everything
  else, and leaves the records as they are.
-/

namespace DeviceGate

/-! ### The policy -/

namespace AccessRequest

/-- The session was opened under that username. -/
def IsBy (r : AccessRequest) (name : String) : Prop :=
  r.username = some name ∧ name ≠ ""

/-- The session was opened without a username, or with an empty one. -/
def IsAnonymous (r : AccessRequest) : Prop :=
  r.username = none ∨ r.username = some ""

/-- What rules compare with their beginnings: the username, or else the client id. -/
def identity (r : AccessRequest) : String :=
  match r.username with
  | some name => if name = "" then r.clientId else name
  | none => r.clientId

end AccessRequest

namespace SystemRule

/-- The identity begins as the rule says, and the topic passes the rule's filter. -/
def Concerns (rule : SystemRule) (identity topic : String) : Prop :=
  rule.callerStart.toList <+: identity.toList ∧ Topic.matchesFilter rule.filter topic = true

/-- The rule is the first of the table that concerns the identity and the topic. -/
def IsFirst (rule : SystemRule) (rules : List SystemRule) (identity topic : String) : Prop :=
  ∃ before after, rules = before ++ rule :: after ∧ rule.Concerns identity topic ∧
    ∀ other ∈ before, ¬ other.Concerns identity topic

end SystemRule

/-- What a role covers: everything for owners and operators, subscriptions for viewers. -/
def OwnershipRole.Covers (role : OwnershipRole) (access : Access) : Prop :=
  role = .owner ∨ role = .operator ∨ (role = .viewer ∧ access = .subscribe)

/-- The user holds the device in a role that covers the access: some active relationship of the
device names the user, or an organization in which the user is an active member. -/
def Tables.Holds (t : Tables) (user : User) (device : Device) (access : Access) : Prop :=
  ∃ link ∈ t.relationships, link.deviceId = device.id ∧ link.active = true ∧
    (link.userId = some user.id ∨
      ∃ m ∈ t.memberships, m.userId = user.id ∧ m.active = true ∧
        link.organizationId = some m.organizationId) ∧
    link.role.Covers access

namespace AccessPolicy

/-- The session belongs to a superuser. -/
def Trusts (policy : AccessPolicy) (r : AccessRequest) : Prop :=
  ∃ name ∈ policy.superusers, r.IsBy name

/-- No rule of the table has an opinion about the request. -/
def IsSilent (policy : AccessPolicy) (r : AccessRequest) : Prop :=
  ∀ rule ∈ policy.rules, ¬ rule.Concerns r.identity r.topic

/-- What the policy grants, over the records of the store. -/
inductive Grants (policy : AccessPolicy) (s : Store) (r : AccessRequest) : Prop where
  | superuser : policy.Trusts r → Grants policy s r
  | rule {rule : SystemRule} : ¬ policy.Trusts r →
      rule.IsFirst policy.rules r.identity r.topic → rule.permission.grants r.access = true →
      Grants policy s r
  | itself {uuid : String} {device : Device} : ¬ policy.Trusts r → policy.IsSilent r →
      Topic.deviceId? r.topic = some uuid → s.findDevice uuid = .ok (some device) →
      r.IsAnonymous → r.clientId = device.uuid → Grants policy s r
  | holder {uuid name : String} {device : Device} {user : User} : ¬ policy.Trusts r →
      policy.IsSilent r → Topic.deviceId? r.topic = some uuid →
      s.findDevice uuid = .ok (some device) → r.IsBy name → s.findUser name = .ok (some user) →
      s.faults .memberships = false → s.faults .deviceRelationships = false →
      s.tables.Holds user device r.access → Grants policy s r

end AccessPolicy

/-! ### Callers and rules -/

lemma AccessRequest.nonempty?_username_eq_some_iff {r : AccessRequest} {name : String} :
    nonempty? r.username = some name ↔ r.IsBy name := by
  rw [nonempty?_eq_some_iff]
  rfl

lemma AccessRequest.nonempty?_username_eq_none_iff {r : AccessRequest} :
    nonempty? r.username = none ↔ r.IsAnonymous := by
  rw [nonempty?_eq_none_iff]
  rfl

/-- A username that is not empty is the identity, and otherwise the client id is. -/
lemma AccessRequest.identity_eq (r : AccessRequest) :
    (nonempty? r.username).getD r.clientId = r.identity := by
  rw [identity]
  cases h : r.username with
  | none => simp [nonempty?]
  | some name => by_cases hn : name = "" <;> simp [nonempty?, hn, Option.filter]

lemma SystemRule.appliesTo_singleton_iff {rule : SystemRule} {identity topic : String} :
    rule.appliesTo [identity] topic = true ↔ rule.Concerns identity topic := by
  simp [appliesTo, covers, Concerns, List.isPrefixOf_iff_prefix]

lemma SystemRule.find?_eq_some_iff {rule : SystemRule} {rules : List SystemRule}
    {identity topic : String} :
    find? rules [identity] topic = some rule ↔ rule.IsFirst rules identity topic := by
  rw [find?, List.find?_eq_some_iff_append]
  simp only [Bool.not_eq_true', ← Bool.not_eq_true, appliesTo_singleton_iff]
  constructor
  · rintro ⟨hrule, before, after, hrules, hbefore⟩
    exact ⟨before, after, hrules, hrule, hbefore⟩
  · rintro ⟨before, after, hrules, hrule, hbefore⟩
    exact ⟨hrule, before, after, hrules, hbefore⟩

lemma SystemRule.find?_eq_none_iff {rules : List SystemRule} {identity topic : String} :
    find? rules [identity] topic = none ↔ ∀ rule ∈ rules, ¬ rule.Concerns identity topic := by
  rw [find?, List.find?_eq_none]
  simp only [appliesTo_singleton_iff]

/-! ### Ownership -/

lemma OwnershipRole.grants_eq_true_iff {role : OwnershipRole} {access : Access} :
    role.grants access = true ↔ role.Covers access := by
  cases role <;> simp [grants, Covers]

/-- The scan over the answers of the two look-ups finds a relationship exactly when the user holds
the device. -/
lemma ownershipGrants_eq_true_iff (t : Tables) (user : User) (device : Device) (access : Access) :
    ownershipGrants user (t.memberships.filter fun m => m.userId = user.id)
        (t.relationships.filter fun l => l.deviceId = device.id) access = true ↔
      t.Holds user device access := by
  simp only [ownershipGrants, List.any_eq_true, List.mem_filter, decide_eq_true_eq,
    Bool.and_eq_true, Bool.or_eq_true, beq_iff_eq, OwnershipRole.grants_eq_true_iff, Tables.Holds]
  refine exists_congr fun link => ?_
  cases link.organizationId with
  | none => simp only [reduceCtorEq, and_false, exists_false, Bool.false_eq_true]; tauto
  | some organization =>
      simp only [List.contains_iff_mem, List.mem_map, List.mem_filter, decide_eq_true_eq,
        Option.some.injEq]
      constructor
      · rintro ⟨⟨hlink, hdevice⟩, ⟨hactive, hnames⟩, hrole⟩
        refine ⟨hlink, hdevice, hactive, hnames.imp_right ?_, hrole⟩
        rintro ⟨m, ⟨⟨hm, huser⟩, hmember⟩, rfl⟩
        exact ⟨m, hm, huser, hmember, rfl⟩
      · rintro ⟨hlink, hdevice, hactive, hnames, hrole⟩
        refine ⟨⟨hlink, hdevice⟩, ⟨hactive, hnames.imp_right ?_⟩, hrole⟩
        rintro ⟨m, hm, huser, hmember, horg⟩
        exact ⟨m, ⟨⟨hm, huser⟩, hmember⟩, horg.symm⟩

/-! ### The steps of the engine -/

namespace AccessPolicy

lemma value_checkOwnership_eq_allow_iff (s : Store) (ctx : LogContext) (user : User)
    (device : Device) (access : Access) :
    (checkOwnership s ctx user device access).value = .allow ↔
      s.faults .memberships = false ∧ s.faults .deviceRelationships = false ∧
        s.tables.Holds user device access := by
  rw [checkOwnership, Store.memberships, Store.deviceRelationships]
  cases hm : s.faults .memberships with
  | true => simp [Faults.check_bind_of_down hm]
  | false =>
      cases hr : s.faults .deviceRelationships with
      | true =>
          rw [Faults.check_bind_of_up hm, Faults.check_bind_of_down hr]
          simp [pure, Except.pure]
      | false =>
          rw [Faults.check_bind_of_up hm, Faults.check_bind_of_up hr, ← ownershipGrants_eq_true_iff]
          simp only [pure, Except.pure]
          split <;> simp_all

lemma value_checkDevice_eq_allow_iff (s : Store) (ctx : LogContext) (r : AccessRequest)
    (device : Device) :
    (checkDevice s ctx (nonempty? r.username) r device).value = .allow ↔
      (r.IsAnonymous ∧ r.clientId = device.uuid) ∨
      ∃ name user, r.IsBy name ∧ s.findUser name = .ok (some user) ∧
        s.faults .memberships = false ∧ s.faults .deviceRelationships = false ∧
        s.tables.Holds user device r.access := by
  unfold checkDevice
  cases hu : nonempty? r.username with
  | none =>
      have hanon := AccessRequest.nonempty?_username_eq_none_iff.1 hu
      have hnobody : ∀ name, ¬ r.IsBy name := by
        intro name hname
        rw [AccessRequest.nonempty?_username_eq_some_iff.2 hname] at hu
        cases hu
      simp only [hanon, hnobody, false_and, exists_false, or_false, true_and]
      split <;> simp_all [eq_comm]
  | some name =>
      have hname := AccessRequest.nonempty?_username_eq_some_iff.1 hu
      have hanon : ¬ r.IsAnonymous := by
        intro h
        rw [AccessRequest.nonempty?_username_eq_none_iff.2 h] at hu
        cases hu
      have honly : ∀ other, r.IsBy other ↔ other = name := by
        intro other
        rw [← AccessRequest.nonempty?_username_eq_some_iff, hu]
        simp [eq_comm]
      simp only [hanon, false_and, honly, exists_and_left, exists_eq_left, false_or]
      rcases hf : s.findUser name with e | _ | user
      · simp
      · simp
      · simp [value_checkOwnership_eq_allow_iff]

lemma isSuperuser_eq_true_iff (policy : AccessPolicy) (r : AccessRequest) :
    policy.isSuperuser (nonempty? r.username) = true ↔ policy.Trusts r := by
  unfold isSuperuser Trusts
  simp only [← AccessRequest.nonempty?_username_eq_some_iff]
  cases nonempty? r.username with
  | none => simp
  | some name => simp

/-- A table with a first rule is not silent. -/
lemma IsSilent.not_isFirst {policy : AccessPolicy} {r : AccessRequest} (h : policy.IsSilent r)
    (rule : SystemRule) : ¬ rule.IsFirst policy.rules r.identity r.topic := by
  rintro ⟨before, after, hrules, hrule, -⟩
  exact h rule (by rw [hrules]; simp) hrule

/-- Behind the superusers the first rule alone decides. -/
lemma grants_iff_of_isFirst {policy : AccessPolicy} {r : AccessRequest} {rule : SystemRule}
    (s : Store) (h : ¬ policy.Trusts r)
    (hfirst : rule.IsFirst policy.rules r.identity r.topic) :
    policy.Grants s r ↔ rule.permission.grants r.access = true := by
  constructor
  · intro hgrants
    cases hgrants with
    | superuser htrust => exact absurd htrust h
    | @rule other _ hother hperm =>
        have hsame : some other = some rule := by
          rw [← SystemRule.find?_eq_some_iff.2 hother, SystemRule.find?_eq_some_iff.2 hfirst]
        rwa [← Option.some.inj hsame]
    | itself _ hsilent => exact absurd hfirst (hsilent.not_isFirst rule)
    | holder _ hsilent => exact absurd hfirst (hsilent.not_isFirst rule)
  · exact .rule h hfirst

/-- Behind a silent table the topic's device decides: for itself, or for who holds it. -/
lemma grants_iff_of_isSilent {policy : AccessPolicy} {r : AccessRequest} (s : Store)
    (h : ¬ policy.Trusts r) (hsilent : policy.IsSilent r) :
    policy.Grants s r ↔
      ∃ uuid device, Topic.deviceId? r.topic = some uuid ∧ s.findDevice uuid = .ok (some device) ∧
        ((r.IsAnonymous ∧ r.clientId = device.uuid) ∨
          ∃ name user, r.IsBy name ∧ s.findUser name = .ok (some user) ∧
            s.faults .memberships = false ∧ s.faults .deviceRelationships = false ∧
            s.tables.Holds user device r.access) := by
  constructor
  · intro hgrants
    cases hgrants with
    | superuser htrust => exact absurd htrust h
    | rule _ hfirst => exact absurd hfirst (hsilent.not_isFirst _)
    | itself _ _ hid hdevice hanon hself =>
        exact ⟨_, _, hid, hdevice, .inl ⟨hanon, hself⟩⟩
    | holder _ _ hid hdevice hby huser hm hr hholds =>
        exact ⟨_, _, hid, hdevice, .inr ⟨_, _, hby, huser, hm, hr, hholds⟩⟩
  · rintro ⟨uuid, device, hid, hdevice, ⟨hanon, hself⟩ | ⟨name, user, hby, huser, hm, hr, hholds⟩⟩
    · exact .itself h hsilent hid hdevice hanon hself
    · exact .holder h hsilent hid hdevice hby huser hm hr hholds

lemma value_evaluate_eq_allow_iff (policy : AccessPolicy) (s : Store) (ctx : LogContext)
    (r : AccessRequest) (h : ¬ policy.Trusts r) :
    (policy.evaluate s ctx (nonempty? r.username) r).value = .allow ↔ policy.Grants s r := by
  rw [evaluate]
  rw [AccessRequest.identity_eq]
  cases hrule : SystemRule.find? policy.rules [r.identity] r.topic with
  | some rule =>
      rw [grants_iff_of_isFirst s h (SystemRule.find?_eq_some_iff.1 hrule)]
      cases hgrants : rule.permission.grants r.access <;> simp [hgrants]
  | none =>
      rw [grants_iff_of_isSilent s h (SystemRule.find?_eq_none_iff.1 hrule)]
      cases hid : Topic.deviceId? r.topic with
      | none => simp
      | some uuid =>
          rcases hdevice : s.findDevice uuid with e | _ | device
          · simp [hdevice]
          · simp [hdevice]
          · simp [hdevice, value_checkDevice_eq_allow_iff]

/-- The decision of the engine is the policy's. -/
lemma value_authorize_eq_allow_iff (policy : AccessPolicy) (s : Store) (ctx : LogContext)
    (r : AccessRequest) :
    (policy.authorize s ctx r).value = .allow ↔ policy.Grants s r := by
  rw [authorize]
  cases hsuper : policy.isSuperuser (nonempty? r.username) with
  | true =>
      have hgrants : policy.Grants s r := .superuser ((isSuperuser_eq_true_iff policy r).1 hsuper)
      simp [hgrants]
  | false =>
      have h : ¬ policy.Trusts r := by
        rw [← isSuperuser_eq_true_iff, hsuper]
        exact Bool.false_ne_true
      simpa [hsuper] using value_evaluate_eq_allow_iff policy s ctx r h

lemma events_checkOwnership (s : Store) (ctx : LogContext) (user : User) (device : Device)
    (access : Access) : (checkOwnership s ctx user device access).events = [] := by
  rw [checkOwnership]
  rcases s.memberships user.id with e | memberships
  · rfl
  · rcases s.deviceRelationships device.id with e | relationships
    · rfl
    · simp only [apply_ite Noted.events, Noted.events_pure, ite_self]

lemma events_checkDevice (s : Store) (ctx : LogContext) (username : Option String)
    (r : AccessRequest) (device : Device) :
    (checkDevice s ctx username r device).events = [] := by
  rcases username with _ | name
  · simp only [checkDevice, apply_ite Noted.events, Noted.events_pure, ite_self]
  · rw [checkDevice]
    rcases s.findUser name with e | _ | user
    · rfl
    · rfl
    · exact events_checkOwnership ..

/-- The steps to a decision emit nothing. -/
lemma events_evaluate (policy : AccessPolicy) (s : Store) (ctx : LogContext)
    (username : Option String) (r : AccessRequest) :
    (policy.evaluate s ctx username r).events = [] := by
  rw [evaluate]
  rcases SystemRule.find? policy.rules [username.getD r.clientId] r.topic with _ | rule
  · rcases Topic.deviceId? r.topic with _ | uuid
    · rfl
    · dsimp only
      rcases s.findDevice uuid with e | _ | device
      · rfl
      · rfl
      · exact events_checkDevice ..
  · simp only [Noted.events_bind, apply_ite Noted.events, Noted.events_pure, ite_self]
    rfl

end AccessPolicy

/-! ### The decision -/

/-- **The access policy.**  For every table of rules, every set of superusers, all records and
faults, a request is allowed exactly when the policy grants it; every other request is denied, and
neither answer changes the records, the clock or the stream of random bytes. -/
theorem Gate.authorize_allow_iff (g : GateConfig) (ctx : LogContext) (r : AccessRequest)
    (st : GateState) :
    let (decision, after) := (Gate.authorize g ctx r st).value
    (decision = .allow ↔ g.policy.Grants st.records.store r) ∧
      ((∃ reason, decision = .deny reason) ↔ ¬ g.policy.Grants st.records.store r) ∧
      after = st := by
  have hallow := AccessPolicy.value_authorize_eq_allow_iff g.policy st.records.store ctx r
  refine ⟨hallow, ?_, rfl⟩
  rw [← hallow]
  change (∃ reason, (g.policy.authorize st.records.store ctx r).value = .deny reason) ↔ _
  cases (g.policy.authorize st.records.store ctx r).value <;> simp

end DeviceGate
