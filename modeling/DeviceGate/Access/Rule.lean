import DeviceGate.Access.Decision
import DeviceGate.Topic

/-!
Static rules for system services.  A rule names the beginning of a caller's identity, a topic filter
and a permission; the first rule that applies decides.

* `SystemRule.appliesTo`: the rule is about this caller and this topic.
* `SystemRule.find?`: the first rule of a table that applies.
* `SystemRule.builtIn`: the table used when none is configured.
-/

namespace DeviceGate

/-- What a rule permits. -/
inductive RulePermission where
  | read
  | write
  | readWrite
  | deny
  deriving DecidableEq

namespace RulePermission

/-- The name of a permission in configuration. -/
def name : RulePermission → String
  | read => "read"
  | write => "write"
  | readWrite => "read-write"
  | deny => "deny"

/-- The name of a permission in log lines. -/
def label : RulePermission → String
  | read => "Read"
  | write => "Write"
  | readWrite => "ReadWrite"
  | deny => "Deny"

/-- The permission of a configured name. -/
def ofName? (s : String) : Option RulePermission :=
  [read, write, readWrite, deny].find? fun p => p.name = s

/-- Whether the permission covers an access. -/
def grants : RulePermission → Access → Bool
  | read, access => access = .subscribe
  | write, access => access = .publish
  | readWrite, _ => true
  | deny, _ => false

theorem ofName?_name (p : RulePermission) : ofName? p.name = some p := by
  cases p <;> decide

end RulePermission

/-- One row of the table. -/
structure SystemRule where
  /-- How the caller's identity begins. -/
  callerStart : String
  filter : String
  permission : RulePermission
  deriving DecidableEq

namespace SystemRule

/-- The identity begins with the rule's text. -/
def covers (rule : SystemRule) (identity : String) : Bool :=
  rule.callerStart.toList.isPrefixOf identity.toList

/-- The rule is about one of the identities and about the topic. -/
def appliesTo (rule : SystemRule) (identities : List String) (topic : String) : Bool :=
  identities.any rule.covers && Topic.matchesFilter rule.filter topic

/-- The first rule that applies. -/
def find? (rules : List SystemRule) (identities : List String) (topic : String) :
    Option SystemRule :=
  rules.find? fun rule => rule.appliesTo identities topic

/-- The rules used when none are configured. -/
def builtIn : List SystemRule :=
  [⟨"ares-server", "ares4/#", .readWrite⟩,
   ⟨"ares-server", "ares/#", .readWrite⟩,
   ⟨"ares-bridge", "ares4/+/telemetry/#", .read⟩,
   ⟨"ares-bridge", "ares4/+/images/#", .read⟩,
   ⟨"ares-monitor", "$SYS/#", .read⟩]

theorem appliesTo_of_find? {rules : List SystemRule} {identities : List String} {topic : String}
    {rule : SystemRule} (h : find? rules identities topic = some rule) :
    rule ∈ rules ∧ rule.appliesTo identities topic = true := by
  unfold find? at h
  exact ⟨List.mem_of_find?_eq_some h, by simpa using List.find?_some h⟩

end SystemRule

end DeviceGate
