import DeviceGate.Access.Authentication
import DeviceGate.Proofs.Access.Policy

/-!
Whose session a connection is.  A session bears the username it was opened with, and authorization
trusts that name.  The name is proved by a password, but it is also taken over from a device that
hails without one: such a device is told apart by its client id, and whatever username it claims
is never looked at.

* `Credentials.Proves`: a user of that name has presented a password.
* `Credentials.Hails`: a registered device, without a password.
* `Credentials.Verified`: what an allowed connection ought to be.
* `Store.value_authenticate_eq_allow_iff`: a connection is allowed for these two reasons only.
* `Store.authenticate_verified_iff`: an allowed connection is verified unless a device hails under a
  username, and then it may do whatever that name may do.
-/

namespace DeviceGate

/-! ### Credentials -/

namespace Credentials

/-- The caller says to be the user of that name. -/
def Claims (c : Credentials) (name : String) : Prop :=
  c.username = some name ∧ Text.isBlankText name = false

/-- The caller has presented a password. -/
def HasPassword (c : Credentials) : Prop :=
  ∃ password, c.password = some password ∧ Text.isBlankText password = false

/-- The caller has presented a password and is a user of that very name. -/
def Proves (c : Credentials) (s : Store) (name : String) : Prop :=
  c.Claims name ∧ c.HasPassword ∧
    s.faults .findUser = false ∧ ∃ user ∈ s.tables.users, user.username = name

/-- The client id is that of a registered device. -/
def IsDevice (c : Credentials) (s : Store) : Prop :=
  ∃ id, c.clientId = some id ∧ Text.isBlankText id = false ∧
    s.faults .findDevice = false ∧ ∃ device ∈ s.tables.devices, device.uuid = id

/-- A registered device, without a password. -/
def Hails (c : Credentials) (s : Store) : Prop :=
  ¬ c.HasPassword ∧ c.IsDevice s

/-- Nothing is claimed but to be a device, which is registered; or a username is claimed, with a
password, by the user of that very name. -/
def Verified (c : Credentials) (s : Store) : Prop :=
  ((∀ name, ¬ c.Claims name) ∧ c.IsDevice s) ∨ ∃ name, c.Proves s name

lemma present?_eq_some_iff {s : Option String} {t : String} :
    present? s = some t ↔ s = some t ∧ Text.isBlankText t = false := by
  simp [present?, Option.filter_eq_some_iff]

lemma present?_username_eq_some_iff {c : Credentials} {name : String} :
    present? c.username = some name ↔ c.Claims name :=
  present?_eq_some_iff

lemma present?_password_isSome_iff {c : Credentials} :
    (present? c.password).isSome = true ↔ c.HasPassword := by
  simp only [Option.isSome_iff_exists, present?_eq_some_iff]
  rfl

/-- A caller claims one name at most. -/
lemma Claims.unique {c : Credentials} {name other : String} (h : c.Claims name)
    (h' : c.Claims other) : name = other :=
  Option.some.inj (h.1.symm.trans h'.1)

end Credentials

/-! ### Look-ups -/

namespace Store

lemma exists_findUser_eq_ok_iff (s : Store) (name : String) :
    (∃ user, s.findUser name = .ok (some user)) ↔
      s.faults .findUser = false ∧ ∃ user ∈ s.tables.users, user.username = name := by
  have hlisted : (∃ user ∈ s.tables.users, user.username = name) ↔
      ∃ user, (s.tables.users.find? fun u => u.username = name) = some user := by
    rw [← Option.isSome_iff_exists, List.find?_isSome]
    simp
  rw [hlisted]
  simp [findUser, Faults.check_bind_eq_ok_iff, pure, Except.pure]

lemma exists_findDevice_eq_ok_iff (s : Store) (uuid : String) :
    (∃ device, s.findDevice uuid = .ok (some device)) ↔
      s.faults .findDevice = false ∧ ∃ device ∈ s.tables.devices, device.uuid = uuid := by
  have hlisted : (∃ device ∈ s.tables.devices, device.uuid = uuid) ↔
      ∃ device, (s.tables.devices.find? fun d => d.uuid = uuid) = some device := by
    rw [← Option.isSome_iff_exists, List.find?_isSome]
    simp
  rw [hlisted]
  simp [findDevice, Faults.check_bind_eq_ok_iff, pure, Except.pure]

/-! ### The two ways in -/

lemma value_authenticateUser_eq_allow_iff (s : Store) (ctx : LogContext) (name : String)
    (clientId : Option String) :
    (s.authenticateUser ctx name clientId).value = .allow ↔
      ∃ user, s.findUser name = .ok (some user) := by
  rw [authenticateUser]
  rcases s.findUser name with e | _ | user
  · simp
  · simp
  · simp

lemma value_authenticateDevice_eq_allow_iff (s : Store) (ctx : LogContext) (clientId : String) :
    (s.authenticateDevice ctx clientId).value = .allow ↔
      ∃ device, s.findDevice clientId = .ok (some device) := by
  rw [authenticateDevice]
  rcases s.findDevice clientId with e | _ | device
  · simp [reportUnknownDevice]
  · simp [reportUnknownDevice]
  · simp [reportUnknownDevice]

lemma value_refuseIncomplete (ctx : LogContext) (username clientId : Option String) :
    (refuseIncomplete ctx username clientId).value = .deny "missing credentials" :=
  rfl

/-- A connection is allowed for two reasons only: a user of the claimed name presents a password, or
a registered device presents none.  The device may claim any username. -/
lemma value_authenticate_eq_allow_iff (s : Store) (ctx : LogContext) (c : Credentials) :
    (s.authenticate ctx c).value = .allow ↔ (∃ name, c.Proves s name) ∨ c.Hails s := by
  rw [authenticate]
  cases hp : Credentials.present? c.password with
  | some password =>
      have hhas : c.HasPassword := by simp [← Credentials.present?_password_isSome_iff, hp]
      have hhail : ¬ c.Hails s := fun h => h.1 hhas
      cases hu : Credentials.present? c.username with
      | some name =>
          have hclaims := Credentials.present?_username_eq_some_iff.1 hu
          simp only [value_authenticateUser_eq_allow_iff, exists_findUser_eq_ok_iff, hhail,
            or_false]
          constructor
          · rintro ⟨hup, hlisted⟩
            exact ⟨name, hclaims, hhas, hup, hlisted⟩
          · rintro ⟨other, hother, -, hup, hlisted⟩
            rw [hclaims.unique hother]
            exact ⟨hup, hlisted⟩
      | none =>
          have hnobody : ∀ name, ¬ c.Proves s name := by
            rintro name ⟨hclaims, -⟩
            rw [Credentials.present?_username_eq_some_iff.2 hclaims] at hu
            cases hu
          simp [value_refuseIncomplete, hnobody, hhail]
  | none =>
      have hno : ¬ c.HasPassword := by simp [← Credentials.present?_password_isSome_iff, hp]
      have hnobody : ∀ name, ¬ c.Proves s name := fun name h => hno h.2.1
      simp only [hnobody, exists_false, false_or]
      cases hc : Credentials.present? c.clientId with
      | some id =>
          obtain ⟨hclient, hblank⟩ := Credentials.present?_eq_some_iff.1 hc
          simp only [value_authenticateDevice_eq_allow_iff, exists_findDevice_eq_ok_iff]
          constructor
          · rintro ⟨hup, hlisted⟩
            exact ⟨hno, id, hclient, hblank, hup, hlisted⟩
          · rintro ⟨-, other, hother, -, hup, hlisted⟩
            obtain rfl : id = other := Option.some.inj (hclient.symm.trans hother)
            exact ⟨hup, hlisted⟩
      | none =>
          have hdevice : ¬ c.Hails s := by
            rintro ⟨-, id, hclient, hblank, -⟩
            rw [Credentials.present?_eq_some_iff.2 ⟨hclient, hblank⟩] at hc
            cases hc
          simp [value_refuseIncomplete, hdevice]

/-! ### Whose session it is -/

/-- **Whose session it is.**  An allowed connection is verified unless a device hails, without a
password, under a username that is not blank.  The name that authorization goes by is proved or
belongs to such a hail; and a device that hails under the name of a superuser is let in, and then
may use every topic. -/
theorem authenticate_verified_iff (s : Store) (ctx : LogContext) (c : Credentials) :
    (((s.authenticate ctx c).value = .allow → c.Verified s) ↔
      ¬ (c.Hails s ∧ ∃ name, c.Claims name)) ∧
    (∀ (r : AccessRequest) (name : String), r.username = c.username → r.IsBy name →
      (s.authenticate ctx c).value = .allow → c.Proves s name ∨ c.Hails s) ∧
    (∀ (policy : AccessPolicy) (r : AccessRequest) (name : String), r.username = c.username →
      r.IsBy name → name ∈ policy.superusers → c.Hails s →
      (s.authenticate ctx c).value = .allow ∧ (policy.authorize s ctx r).value = .allow) := by
  rw [value_authenticate_eq_allow_iff]
  refine ⟨⟨?_, ?_⟩, ?_, ?_⟩
  · rintro hverified ⟨hhails, name, hclaims⟩
    rcases hverified (.inr hhails) with ⟨hnothing, -⟩ | ⟨other, -, hpassword, -⟩
    · exact hnothing name hclaims
    · exact hhails.1 hpassword
  · rintro hnot (hproves | hhails)
    · exact .inr hproves
    · exact .inl ⟨fun name hclaims => hnot ⟨hhails, name, hclaims⟩, hhails.2⟩
  · rintro r name husername ⟨hby, -⟩ (⟨other, hproves⟩ | hhails)
    · rw [husername, hproves.1.1] at hby
      cases hby
      exact .inl hproves
    · exact .inr hhails
  · intro policy r name _ hby hsuper hhails
    have hgrants : policy.Grants s r := .superuser ⟨name, hsuper, hby⟩
    exact ⟨.inr hhails, (policy.value_authorize_eq_allow_iff s ctx r).2 hgrants⟩

/-- A device that hails as the superuser is let in unverified, and may command another device. -/
theorem hail_as_superuser :
    let s : Store := { tables := { devices := [⟨1, "D1", none, none, .online, none⟩] } }
    let c : Credentials := ⟨some "root", none, some "D1"⟩
    let policy : AccessPolicy := { superusers := ["root"] }
    (s.authenticate { request := "t" } c).value = .allow ∧ ¬ c.Verified s ∧
      (policy.authorize s { request := "t" }
        ⟨some "root", "D1", "ares4/D2/commands", .publish⟩).value = .allow := by
  intro s c policy
  have hpassword : ¬ c.HasPassword := by
    rintro ⟨password, hgiven, -⟩
    cases hgiven
  have hhails : c.Hails s := ⟨hpassword, "D1", rfl, by decide, rfl, by simp [s]⟩
  have hclaims : c.Claims "root" := ⟨rfl, by decide⟩
  obtain ⟨hexact, -, hescalates⟩ := authenticate_verified_iff s { request := "t" } c
  obtain ⟨hallowed, hcommand⟩ := hescalates policy
    ⟨some "root", "D1", "ares4/D2/commands", .publish⟩ "root" rfl ⟨rfl, by decide⟩
    (by simp [policy]) hhails
  exact ⟨hallowed, fun hverified => hexact.1 (fun _ => hverified) ⟨hhails, "root", hclaims⟩,
    hcommand⟩

end Store

end DeviceGate
