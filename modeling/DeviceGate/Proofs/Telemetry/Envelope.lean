import DeviceGate.Proofs.Telemetry.Checkpoints

/-!
What an envelope takes from its payload.  There is one reading for each entry of `data`, in the
order of the entries; it has the metric, the unit and the statistics of its entry, and a statistic
that the entry does not give follows from another one, or has its default.

* `Reading.Summarizes`: what a reading takes from its entry.
* `TelemetryPayload.readingsFrom_eq_ok_iff`: there is one reading for each entry, in order.
* `TelemetryPayload.Describes`: what an envelope takes from its payload.
* `TelemetryPayload.exists_describes`: an envelope that was read describes its payload.
-/

namespace DeviceGate

namespace Json

/-- The number that a member stands for, if it stands for one. -/
def number? (entry : Json) (name : String) : Option Binary64 :=
  (entry.member? name).bind asFloat?

lemma bind_items?_eq_some_iff {v : Option Json} {items : List Json} :
    v.bind items? = some items ↔ v = some (.array items) := by
  rcases v with _ | v
  · simp
  · cases v <;> simp [items?]

end Json

/-- The reading takes its metric, its unit and its statistics from the entry: the value is the
average where it is missing, the average is the value, the extremes are the average, deviation and
slope are zero, and one sample was taken. -/
structure Reading.Summarizes (r : Reading) (entry : Json) : Prop where
  metric : entry.member? "metric" = some (.text r.metric)
  named : r.metric ≠ ""
  unit : r.unit = (entry.member? "unit").bind Json.text?
  value : (entry.number? "value").or (entry.number? "avg") = some r.value
  avg : r.avg = (entry.number? "avg").getD r.value
  min : r.min = (entry.number? "min").getD r.avg
  max : r.max = (entry.number? "max").getD r.avg
  stddev : r.stddev = (entry.number? "stddev").getD .zero
  slope : r.slope = (entry.number? "slope").getD .zero
  sampleCount : r.sampleCount = ((entry.member? "count").bind Json.asInt?).getD 1

namespace TelemetryPayload

/-! ### Readings -/

/-- An entry is read as the reading that takes everything from it. -/
lemma readingOf_eq_ok_iff {index : ℕ} {entry : Json} {r : Reading} :
    readingOf index entry = .ok r ↔ r.Summarizes entry := by
  rw [readingOf]
  constructor
  · intro h
    rcases hmetric : nonempty? ((entry.member? "metric").bind Json.text?) with _ | metric
    · simp [hmetric] at h
    · rcases hvalue : (entry.number? "value").or (entry.number? "avg") with _ | value
      · rw [Json.number?, Json.number?] at hvalue
        simp [hmetric, hvalue] at h
      · obtain ⟨htext, hne⟩ := nonempty?_eq_some_iff.1 hmetric
        have hmember := Admission.bind_text?_eq_some_iff.1 htext
        rw [Json.number?, Json.number?] at hvalue
        simp only [hmetric, hvalue] at h
        cases h
        exact ⟨hmember, hne, rfl, hvalue, rfl, rfl, rfl, rfl, rfl, rfl⟩
  · intro h
    have hmetric : nonempty? ((entry.member? "metric").bind Json.text?) = some r.metric :=
      nonempty?_eq_some_iff.2 ⟨Admission.bind_text?_eq_some_iff.2 h.metric, h.named⟩
    have hvalue := h.value
    rw [Json.number?, Json.number?] at hvalue
    simp only [hmetric, hvalue]
    cases r
    obtain ⟨-, -, hunit, -, havg, hmin, hmax, hstddev, hslope, hcount⟩ := h
    dsimp only at hunit havg hmin hmax hstddev hslope hcount
    subst hunit hmin hmax havg hstddev hslope hcount
    rfl

/-- **Readings.**  Entries are read one for one, in their order. -/
lemma readingsFrom_eq_ok_iff {index : ℕ} {entries : List Json} {readings : List Reading} :
    readingsFrom index entries = .ok readings ↔
      List.Forall₂ (fun entry r => r.Summarizes entry) entries readings := by
  induction entries generalizing index readings with
  | nil =>
      rw [readingsFrom, List.forall₂_nil_left_iff, Except.ok.injEq]
      exact eq_comm
  | cons entry rest ih =>
      simp only [readingsFrom, bind_eq_ok_iff, readingOf_eq_ok_iff, ih, pure_eq_ok_iff,
        List.forall₂_cons_left_iff]
      constructor
      · rintro ⟨r, hr, others, hothers, rfl⟩
        exact ⟨r, others, hr, hothers, rfl⟩
      · rintro ⟨r, others, hr, hothers, rfl⟩
        exact ⟨r, hr, others, hothers, rfl⟩

/-! ### The envelope -/

lemma requiredText_eq_ok_iff {payload : Json} {field text : String} :
    requiredText payload field = .ok text ↔
      payload.member? field = some (.text text) ∧ text ≠ "" := by
  rw [← Admission.bind_text?_eq_some_iff, ← nonempty?_eq_some_iff, requiredText]
  rcases nonempty? ((payload.member? field).bind Json.text?) with _ | found
  · simp
  · simp

/-- The envelope takes its texts and its moment of capture from the payload, and its readings from
these entries. -/
structure Describes (t : TelemetryPayload) (payload : Json) (entries : List Json) : Prop where
  componentType : payload.member? "component_type" = some (.text t.componentType)
  instanceName : payload.member? "instance_name" = some (.text t.instanceName)
  snapshotId : payload.member? "snapshot_id" = some (.text t.snapshotId)
  capturedAt : t.capturedAt = capturedAtOf payload
  data : payload.member? "data" = some (.array entries)
  readings : List.Forall₂ (fun entry r => r.Summarizes entry) entries t.readings

/-- **Envelopes.**  An envelope that was read describes its payload. -/
lemma exists_describes {payload : Json} {t : TelemetryPayload} (h : ofJson? payload = .ok t) :
    ∃ entries, t.Describes payload entries := by
  rw [ofJson?] at h
  split at h
  · cases h
  · simp only [bind_eq_ok_iff, requiredText_eq_ok_iff] at h
    obtain ⟨component, ⟨hcomponent, -⟩, name, ⟨hname, -⟩, key, ⟨hkey, -⟩, number, -, h⟩ := h
    rcases hdata : (payload.member? "data").bind Json.items? with _ | items
    · simp only [hdata, bind_eq_ok_iff] at h
      obtain ⟨_, hmissing, -⟩ := h
      cases hmissing
    · simp only [hdata, bind_eq_ok_iff, pure_eq_ok_iff, Except.ok.injEq] at h
      obtain ⟨entries, rfl, readings, hreadings, rfl⟩ := h
      exact ⟨_, hcomponent, hname, hkey, rfl, Json.bind_items?_eq_some_iff.1 hdata,
        readingsFrom_eq_ok_iff.1 hreadings⟩

end TelemetryPayload

end DeviceGate
