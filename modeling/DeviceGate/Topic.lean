/-!
Topics: texts whose segments are separated by `/`, and filters over them, in which the segment `+`
stands for one segment and a last segment `#` for all that follow.

* `Topic.Matches`: the relation between the segments of a filter and of a topic.
* `Topic.matchesFilter`: its decision on texts, where a topic that begins with `$` is closed to
  filters that begin with a wildcard; `matchesSegments_iff` says that the decision is the relation.
* `Topic.deviceId?`: the device that a topic belongs to.
* `Topic.kind`: telemetry, image or neither.
-/

namespace DeviceGate.Topic

/-! ### Segments -/

/-- The segments of a topic given as characters; there is always at least one. -/
def splitChars : List Char → List (List Char)
  | [] => [[]]
  | c :: rest =>
    if c = '/' then [] :: splitChars rest
    else
      match splitChars rest with
      | segment :: others => (c :: segment) :: others
      | [] => [[c]]

/-- The segments of a topic. -/
def segments (topic : String) : List String :=
  (splitChars topic.toList).map String.ofList

/-! ### Filters -/

/-- The segments of a filter match those of a topic. -/
inductive Matches : List String → List String → Prop where
  | done : Matches [] []
  | all (ts : List String) : Matches ["#"] ts
  | one {fs ts : List String} (x : String) : Matches fs ts → Matches ("+" :: fs) (x :: ts)
  | literal {fs ts : List String} {l : String} : l ≠ "+" → l ≠ "#" → Matches fs ts →
      Matches (l :: fs) (l :: ts)

/-- The decision of the relation, segment by segment. -/
def matchesSegments : List String → List String → Bool
  | [], [] => true
  | [], _ :: _ => false
  | "#" :: fs, _ => fs.isEmpty
  | _ :: _, [] => false
  | f :: fs, t :: ts => (f == "+" || f == t) && matchesSegments fs ts

/-- A topic that belongs to the broker itself. -/
def isReserved (topic : String) : Bool :=
  topic.toList.head? = some '$'

/-- The filter begins with a wildcard. -/
def startsWithWildcard (filter : String) : Bool :=
  match (segments filter).head? with
  | some s => s == "#" || s == "+"
  | none => false

/-- Whether a topic passes a filter; neither may be empty, and a leading wildcard does not reach
reserved topics. -/
def matchesFilter (filter topic : String) : Bool :=
  !filter.isEmpty && !topic.isEmpty && !(isReserved topic && startsWithWildcard filter) &&
    matchesSegments (segments filter) (segments topic)

theorem matches_of_matchesSegments {fs ts : List String} (h : matchesSegments fs ts = true) :
    Matches fs ts := by
  fun_induction matchesSegments fs ts with
  | case1 => exact .done
  | case2 => simp at h
  | case3 fs ts =>
    cases fs with
    | nil => exact .all ts
    | cons f fs => simp at h
  | case4 => simp at h
  | case5 f fs t ts hne ih =>
    simp only [Bool.and_eq_true, Bool.or_eq_true, beq_iff_eq] at h
    rcases h with ⟨rfl | rfl, hr⟩
    · exact .one t (ih hr)
    · by_cases hp : f = "+"
      · subst hp
        exact .one _ (ih hr)
      · exact .literal hp hne (ih hr)

theorem matchesSegments_of_matches {fs ts : List String} (h : Matches fs ts) :
    matchesSegments fs ts = true := by
  induction h with
  | done => rfl
  | all ts => simp [matchesSegments]
  | one x _ ih => simp [matchesSegments, ih]
  | @literal fs ts l hp hh _ ih => simp [matchesSegments, ih]

theorem matchesSegments_iff {fs ts : List String} :
    matchesSegments fs ts = true ↔ Matches fs ts :=
  ⟨matches_of_matchesSegments, matchesSegments_of_matches⟩

/-! ### Devices and kinds -/

/-- A segment that can name a device: not empty, and without wildcard characters. -/
def isDeviceSegment (s : String) : Bool :=
  !s.isEmpty && !s.toList.contains '+' && !s.toList.contains '#'

/-- The device of a topic: its second segment, behind a first one that is not empty. -/
def deviceId? (topic : String) : Option String :=
  match segments topic with
  | first :: second :: _ => if !first.isEmpty && isDeviceSegment second then some second else none
  | _ => none

/-- Where messages of a topic go. -/
inductive Kind where
  | telemetry
  | image
  | other
  deriving DecidableEq

/-- The name of a kind. -/
def Kind.name : Kind → String
  | .telemetry => "Telemetry"
  | .image => "Image"
  | .other => "Other"

/-- Some segment is exactly `telemetry`. -/
def isTelemetry (topic : String) : Bool :=
  (segments topic).contains "telemetry"

/-- Some segment is exactly `images`. -/
def isImage (topic : String) : Bool :=
  (segments topic).contains "images"

/-- The kind of a topic; telemetry goes before images. -/
def kind (topic : String) : Kind :=
  if isTelemetry topic then .telemetry else if isImage topic then .image else .other

/-- The first segment of a topic. -/
def namespaceOf (topic : String) : String :=
  (segments topic).headD ""

end DeviceGate.Topic
