import DeviceGate.Proofs.Access.Policy
import DeviceGate.Proofs.Topic.Covering

/-!
What an allowed request reaches.  A subscription is decided as if the filter it asks for were a
topic.  Where ownership decides, the filter names one device and reaches nothing else; where a rule
decides, the filter may reach beyond the rule, and does so exactly when it outgrows that of the
rule.

* `Topic.getElem?_segments_of_matchesFilter`: what passes a filter belongs to the filter's device.
* `AccessPolicy.reach_device`: a grant by ownership reaches the topics of one device.
* `AccessPolicy.reach_rule`: when a grant by a rule stays within the rule's filter.
-/

namespace DeviceGate

/-! ### Topics of one device -/

namespace Topic

lemma deviceId?_eq_some_iff {topic uuid : String} :
    deviceId? topic = some uuid ↔
      ∃ first rest, segments topic = first :: uuid :: rest ∧ first ≠ "" ∧
        isDeviceSegment uuid = true := by
  rw [deviceId?]
  rcases segments topic with _ | ⟨first, _ | ⟨second, rest⟩⟩
  · simp
  · simp
  · simp only [Option.ite_none_right_eq_some, Option.some.injEq, Bool.and_eq_true,
      Bool.not_eq_true', String.isEmpty_eq_false_iff, List.cons.injEq]
    constructor
    · rintro ⟨⟨hfirst, hdevice⟩, rfl⟩
      exact ⟨first, rest, ⟨rfl, rfl, rfl⟩, hfirst, hdevice⟩
    · rintro ⟨_, _, ⟨rfl, rfl, rfl⟩, hfirst, hdevice⟩
      exact ⟨⟨hfirst, hdevice⟩, rfl⟩

/-- A segment that names a device is no wildcard. -/
lemma ne_wildcard_of_isDeviceSegment {part : String} (h : isDeviceSegment part = true) :
    part ≠ "+" ∧ part ≠ "#" := by
  constructor
  · rintro rfl
    simp [isDeviceSegment] at h
  · rintro rfl
    simp [isDeviceSegment] at h

/-- The second segment of a filter that names a device stands for itself. -/
lemma getElem?_segments_of_matchesFilter {requested topic uuid : String}
    (hid : deviceId? requested = some uuid) (h : matchesFilter requested topic = true) :
    (segments topic)[1]? = some uuid := by
  obtain ⟨first, rest, hrequested, -, hdevice⟩ := deviceId?_eq_some_iff.1 hid
  obtain ⟨hplus, hall⟩ := ne_wildcard_of_isDeviceSegment hdevice
  obtain ⟨-, -, -, hmatches⟩ := matchesFilter_iff.1 h
  rw [hrequested] at hmatches
  obtain ⟨_, _, htopic, -, hbehind⟩ :=
    hmatches.cons_cases (hmatches.ne_of_cons (List.cons_ne_nil _ _))
  obtain ⟨_, _, rfl, heq, -⟩ := hbehind.cons_cases hall
  rw [htopic, heq.resolve_left hplus]
  rfl

end Topic

/-! ### Grants by ownership -/

namespace Store

lemma mem_devices_of_findDevice {s : Store} {uuid : String} {device : Device}
    (h : s.findDevice uuid = .ok (some device)) :
    device ∈ s.tables.devices ∧ device.uuid = uuid := by
  rw [findDevice, Faults.check_bind_eq_ok_iff, pure_eq_ok_iff] at h
  exact ⟨List.mem_of_find?_eq_some h.2.symm, by simpa using List.find?_some h.2.symm⟩

lemma mem_users_of_findUser {s : Store} {name : String} {user : User}
    (h : s.findUser name = .ok (some user)) :
    user ∈ s.tables.users ∧ user.username = name := by
  rw [findUser, Faults.check_bind_eq_ok_iff, pure_eq_ok_iff] at h
  exact ⟨List.mem_of_find?_eq_some h.2.symm, by simpa using List.find?_some h.2.symm⟩

end Store

namespace AccessPolicy

variable {policy : AccessPolicy} {s : Store} {ctx : LogContext} {r : AccessRequest}

/-- **Grants by ownership.**  What is allowed behind the superusers and the rules is about one
registered device: whatever passes the requested filter has that device as its second segment, and
the caller is the device itself, or a user who holds it. -/
theorem reach_device (hallow : (policy.authorize s ctx r).value = .allow)
    (hsuper : ¬ policy.Trusts r) (hsilent : policy.IsSilent r) :
    ∃ device ∈ s.tables.devices,
      (∀ topic, Topic.matchesFilter r.topic topic = true →
        (Topic.segments topic)[1]? = some device.uuid) ∧
      ((r.IsAnonymous ∧ r.clientId = device.uuid) ∨
        ∃ user ∈ s.tables.users, r.IsBy user.username ∧ s.tables.Holds user device r.access) := by
  have hgrants := (value_authorize_eq_allow_iff policy s ctx r).1 hallow
  obtain ⟨uuid, device, hid, hfound, hcaller⟩ := (grants_iff_of_isSilent s hsuper hsilent).1 hgrants
  obtain ⟨hdevice, rfl⟩ := Store.mem_devices_of_findDevice hfound
  refine ⟨device, hdevice, fun _ => Topic.getElem?_segments_of_matchesFilter hid, ?_⟩
  refine hcaller.imp_right ?_
  rintro ⟨name, user, hby, hknown, -, -, hholds⟩
  obtain ⟨huser, rfl⟩ := Store.mem_users_of_findUser hknown
  exact ⟨user, huser, hby, hholds⟩

/-- An owner who asks for one device under any first segment. -/
theorem reach_device_of_owner :
    let s : Store :=
      { tables :=
        { devices := [⟨1, "D1", none, none, .online, none⟩, ⟨2, "D2", none, none, .online, none⟩]
          users := [⟨7, "grower"⟩]
          relationships := [⟨1, none, some 7, .owner, true⟩] } }
    ∃ device ∈ s.tables.devices, ∀ topic, Topic.matchesFilter "+/D1/#" topic = true →
      (Topic.segments topic)[1]? = some device.uuid := by
  intro s
  let policy : AccessPolicy := { superusers := ["root"], rules := SystemRule.builtIn }
  let r : AccessRequest := ⟨some "grower", "app-1", "+/D1/#", .subscribe⟩
  have hallow : (policy.authorize s { request := "t" } r).value = .allow := by decide
  have hsuper : ¬ policy.Trusts r := (policy.isSuperuser_eq_true_iff r).not.1 (by decide)
  have hsilent : policy.IsSilent r := SystemRule.find?_eq_none_iff.1 (by decide)
  obtain ⟨device, hdevice, hreach, -⟩ := reach_device hallow hsuper hsilent
  exact ⟨device, hdevice, hreach⟩

/-! ### Grants by a rule -/

/-- A filter that ends in no `+`, even before a `#`, is not outgrown. -/
lemma covers_of_not_suffix {filter requested : String}
    (h : Topic.matchesFilter filter requested = true)
    (hends : ¬ ["+"] <:+ Topic.segments filter ∧ ¬ ["+", "#"] <:+ Topic.segments filter) :
    Topic.Covers filter requested := by
  rw [Topic.covers_iff h]
  rintro ⟨hstrays, -⟩
  exact (hstrays.suffix (Topic.matchesFilter_iff.1 h).2.2.2).elim hends.1 hends.2

/-- No rule of the table used by default ends in a `+`, even before a `#`. -/
lemma builtIn_ends : ∀ rule ∈ SystemRule.builtIn,
    ¬ ["+"] <:+ Topic.segments rule.filter ∧ ¬ ["+", "#"] <:+ Topic.segments rule.filter := by
  decide

/-- **Grants by a rule.**  Behind the superusers the first rule about the caller and the requested
filter decides about a subscription by its permission alone.  What is requested then stays within
the filter of the rule exactly when it does not outgrow it, as it never does for the rules used when
none are configured. -/
theorem reach_rule {rule : SystemRule} (hsuper : ¬ policy.Trusts r)
    (hfirst : SystemRule.find? policy.rules [r.identity] r.topic = some rule)
    (hsubscribe : r.access = .subscribe) :
    ((policy.authorize s ctx r).value = .allow ↔ rule.permission.grants .subscribe = true) ∧
      (Topic.Covers rule.filter r.topic ↔ ¬ Topic.Outgrows r.topic rule.filter) ∧
      (rule ∈ SystemRule.builtIn → Topic.Covers rule.filter r.topic) := by
  have hisFirst := SystemRule.find?_eq_some_iff.1 hfirst
  have hmatches : Topic.matchesFilter rule.filter r.topic = true := by
    obtain ⟨_, _, -, ⟨-, hmatches⟩, -⟩ := hisFirst
    exact hmatches
  refine ⟨?_, Topic.covers_iff hmatches, fun hbuiltIn => ?_⟩
  · rw [value_authorize_eq_allow_iff, grants_iff_of_isFirst s hsuper hisFirst, hsubscribe]
  · exact covers_of_not_suffix hmatches (builtIn_ends rule hbuiltIn)

/-- A rule about `a/+` lets its service subscribe to all topics below `a`. -/
theorem reach_rule_beyond :
    let policy : AccessPolicy := { rules := [⟨"svc", "a/+", .read⟩] }
    (policy.authorize { tables := {} } { request := "t" }
        ⟨none, "svc-1", "a/#", .subscribe⟩).value = .allow ∧
      ¬ Topic.Covers "a/+" "a/#" := by
  intro policy
  have hsuper : ¬ policy.Trusts ⟨none, "svc-1", "a/#", .subscribe⟩ :=
    (policy.isSuperuser_eq_true_iff _).not.1 (by decide)
  have hfirst : SystemRule.find? policy.rules ["svc-1"] "a/#" = some ⟨"svc", "a/+", .read⟩ := by
    decide
  have hgrows : Topic.Outgrows "a/#" "a/+" :=
    ⟨.behind (by decide) (.here []), fun hall => absurd hall (by decide)⟩
  obtain ⟨hallowed, hcovers, -⟩ :=
    @reach_rule policy { tables := {} } { request := "t" } _ _ hsuper hfirst rfl
  exact ⟨hallowed.2 rfl, fun h => hcovers.1 h hgrows⟩

end AccessPolicy

end DeviceGate
