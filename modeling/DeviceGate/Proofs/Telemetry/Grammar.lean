import DeviceGate.Proofs.Telemetry.Envelope

/-!
Which payloads are envelopes, and what is said of those that are not.  What is asked of a payload
stands in a list, and the reader goes through it from the front: a payload that has everything is an
envelope, and of any other payload it is said which demand it is the first not to meet.

* `TelemetryPayload.Demand`, `FirstUnmet`: what is asked, and the first thing that is missing.
* `TelemetryPayload.Asks`: a step of the reader asks for exactly these things.
* `TelemetryPayload.demands`, `asks_ofJson?`: what the reader asks for.
* `TelemetryPayload.Grammatical`: the payloads that have everything.
* `TelemetryPayload.Renders`: all that an envelope takes from its payload.
* `TelemetryPayload.Alike`: payloads that differ only in what is not read.
* `TelemetryPayload.grammar`: what is read, of what, and what is said otherwise.
-/

namespace DeviceGate

namespace Json

/-- The member is a text, and it is not empty. -/
def HasName (v : Json) (field : String) : Prop :=
  ∃ text, v.member? field = some (.text text) ∧ text ≠ ""

/-- The entries of `data`; none if it is not an array. -/
def entries (v : Json) : List Json :=
  ((v.member? "data").bind items?).getD []

/-- The values have the same members of these names. -/
def AgreeOn (names : List String) (v w : Json) : Prop :=
  ∀ name ∈ names, v.member? name = w.member? name

variable {v : Json} {field : String}

lemma nonempty?_text?_eq_some_iff {text : String} :
    nonempty? ((v.member? field).bind text?) = some text ↔
      v.member? field = some (.text text) ∧ text ≠ "" := by
  rw [nonempty?_eq_some_iff, Admission.bind_text?_eq_some_iff]

lemma not_hasName (h : nonempty? ((v.member? field).bind text?) = none) : ¬v.HasName field := by
  rintro ⟨text, htext⟩
  rw [nonempty?_text?_eq_some_iff.2 htext] at h
  cases h

lemma entries_eq {items : List Json} (h : v.member? "data" = some (.array items)) :
    v.entries = items := by
  rw [entries, h]
  rfl

lemma isObject_of_member? {member : Json} (h : v.member? field = some member) :
    v.isObject = true := by
  cases v with
  | object members => rfl
  | _ => cases h

end Json

namespace TelemetryPayload

/-! ### Demands -/

/-- Something that is asked of a payload, and what is said of a payload that does not have it. -/
structure Demand where
  met : Prop
  complaint : String

/-- The complaint is about the first demand that is not met. -/
inductive FirstUnmet : List Demand → String → Prop
  | head {d : Demand} {ds : List Demand} : ¬d.met → FirstUnmet (d :: ds) d.complaint
  | tail {d : Demand} {ds : List Demand} {text : String} :
      d.met → FirstUnmet ds text → FirstUnmet (d :: ds) text

/-- The step asks for these things: where it succeeds it has found all of them, and where it fails
it complains about the first that is missing. -/
structure Asks {α : Type} (x : Except PayloadFault α) (ds : List Demand) : Prop where
  met : ∀ a, x = .ok a → ∀ d ∈ ds, d.met
  complains : ∀ f, x = .error f → FirstUnmet ds f.message

section Demands

variable {α β : Type} {x : Except PayloadFault α} {f : α → Except PayloadFault β} {d : Demand}
  {ds ds' : List Demand} {text text' : String}

lemma FirstUnmet.exists_unmet (h : FirstUnmet ds text) : ∃ d ∈ ds, ¬d.met := by
  induction h with
  | head hunmet => exact ⟨_, List.mem_cons_self, hunmet⟩
  | tail _ _ ih =>
      obtain ⟨d, hd, hunmet⟩ := ih
      exact ⟨d, List.mem_cons_of_mem _ hd, hunmet⟩

lemma FirstUnmet.unique (h : FirstUnmet ds text) (h' : FirstUnmet ds text') : text = text' := by
  induction h with
  | head hunmet =>
      cases h' with
      | head => rfl
      | tail hmet => exact absurd hmet hunmet
  | tail hmet _ ih =>
      cases h' with
      | head hunmet => exact absurd hmet hunmet
      | tail _ h' => exact ih h'

lemma FirstUnmet.append (h : FirstUnmet ds text) : FirstUnmet (ds ++ ds') text := by
  induction h with
  | head hunmet => exact .head hunmet
  | tail hmet _ ih => exact .tail hmet ih

lemma FirstUnmet.behind (hmet : ∀ d ∈ ds, d.met) (h : FirstUnmet ds' text) :
    FirstUnmet (ds ++ ds') text := by
  induction ds with
  | nil => exact h
  | cons d ds ih =>
      exact .tail (hmet d List.mem_cons_self)
        (ih fun d' hd' => hmet d' (List.mem_cons_of_mem _ hd'))

lemma Asks.pure (a : α) : Asks (Pure.pure a) [] :=
  ⟨fun _ _ _ hd => absurd hd List.not_mem_nil, nofun⟩

lemma Asks.of_unmet {e : PayloadFault} (h : FirstUnmet ds e.message) :
    Asks (.error e : Except PayloadFault α) ds := by
  refine ⟨nofun, fun f hf => ?_⟩
  cases hf
  exact h

/-- A step that asks for one thing. -/
lemma Asks.one (hmet : ∀ a, x = .ok a → d.met)
    (hunmet : ∀ e, x = .error e → ¬d.met ∧ e.message = d.complaint) : Asks x [d] := by
  refine ⟨fun a ha d' hd' => ?_, fun e he => ?_⟩
  · rw [List.mem_singleton.1 hd']
    exact hmet a ha
  · rw [(hunmet e he).2]
    exact .head (hunmet e he).1

/-- What two steps ask for, one after the other. -/
lemma Asks.bind (h : Asks x ds) (h' : ∀ a, x = .ok a → Asks (f a) ds') :
    Asks (x >>= f) (ds ++ ds') := by
  cases x with
  | error e => exact .of_unmet (h.complains e rfl).append
  | ok a =>
      have hmet := h.met a rfl
      refine ⟨fun b hb d hd => ?_, fun e he => .behind hmet ((h' a rfl).complains e he)⟩
      obtain hd | hd := List.mem_append.1 hd
      · exact hmet d hd
      · exact (h' a rfl).met b hb d hd

/-- A step that asks for one thing, and what is asked behind it. -/
lemma Asks.bind_cons (h : Asks x [d]) (h' : ∀ a, x = .ok a → Asks (f a) ds) :
    Asks (x >>= f) (d :: ds) :=
  h.bind h'

/-- What is found already need not be asked for. -/
lemma Asks.cons_of_met (hd : d.met) (h : Asks x ds) : Asks x (d :: ds) :=
  ⟨fun a ha => List.forall_mem_cons.2 ⟨hd, h.met a ha⟩, fun e he => .tail hd (h.complains e he)⟩

/-- What is made of the result asks for nothing more. -/
lemma Asks.bind_pure (h : Asks x ds) (g : α → β) : Asks (x >>= fun a => Pure.pure (g a)) ds := by
  rw [← List.append_nil ds]
  exact h.bind fun a _ => .pure (g a)

/-- A step succeeds exactly if all is there that it asks for. -/
lemma Asks.exists_ok_iff (h : Asks x ds) : (∃ a, x = .ok a) ↔ ∀ d ∈ ds, d.met := by
  constructor
  · rintro ⟨a, ha⟩
    exact h.met a ha
  · intro hmet
    cases x with
    | ok a => exact ⟨a, rfl⟩
    | error e =>
        obtain ⟨d, hd, hunmet⟩ := (h.complains e rfl).exists_unmet
        exact absurd (hmet d hd) hunmet

/-- It says a text exactly if this is the complaint about the first thing that is missing. -/
lemma Asks.exists_error_iff (h : Asks x ds) :
    (∃ e, x = .error e ∧ e.message = text) ↔ FirstUnmet ds text := by
  constructor
  · rintro ⟨e, he, rfl⟩
    exact h.complains e he
  · intro hfirst
    cases x with
    | ok a =>
        obtain ⟨d, hd, hunmet⟩ := hfirst.exists_unmet
        exact absurd (h.met a rfl d hd) hunmet
    | error e => exact ⟨e, rfl, (h.complains e rfl).unique hfirst⟩

end Demands

/-! ### What is asked of a payload -/

/-- What a sequence number stands for: a missing one for none, and one that is there for a number of
64 bits, which a text may spell. -/
inductive SequenceIs : Option Json → Option ℕ → Prop
  | missing : SequenceIs none none
  | null : SequenceIs (some .null) none
  | integer {n : Integer64} : 0 ≤ n.val → SequenceIs (some (.integer n)) (some n.val.toNat)
  | text {s : String} {n : ℕ} : readUnsigned64? s = some n → SequenceIs (some (.text s)) (some n)

/-- What is asked of an entry of `data`: a name, and a value or else an average. -/
def entryDemands (index : ℕ) (entry : Json) : List Demand :=
  [{ met := entry.HasName "metric"
     complaint := "data[" ++ toString index ++ "]: missing metric" },
   { met := (∃ x, entry.number? "value" = some x) ∨ ∃ x, entry.number? "avg" = some x
     complaint := "data[" ++ toString index ++ "]: missing value" }]

/-- What is asked of the entries from an index on. -/
def entriesDemands (index : ℕ) (entries : List Json) : List Demand :=
  (entries.zipIdx index).flatMap fun entry => entryDemands entry.2 entry.1

@[simp] lemma entriesDemands_nil (index : ℕ) : entriesDemands index [] = [] :=
  rfl

@[simp] lemma entriesDemands_cons (index : ℕ) (entry : Json) (rest : List Json) :
    entriesDemands index (entry :: rest) =
      entryDemands index entry ++ entriesDemands (index + 1) rest :=
  rfl

/-- What is asked of a payload, in this order. -/
def demands (v : Json) : List Demand :=
  [{ met := v.isObject = true, complaint := "payload is not a JSON object" },
   { met := v.HasName "component_type", complaint := "missing field: component_type" },
   { met := v.HasName "instance_name", complaint := "missing field: instance_name" },
   { met := v.HasName "snapshot_id", complaint := "missing field: snapshot_id" },
   { met := ∃ number, SequenceIs (v.member? "sequence_number") number
     complaint := "invalid sequence_number" },
   { met := ∃ entries, v.member? "data" = some (.array entries)
     complaint := "missing field: data" }] ++
  entriesDemands 0 v.entries

/-- The entry has what is asked of it. -/
structure GrammaticalEntry (entry : Json) : Prop where
  metric : entry.HasName "metric"
  value : (∃ x, entry.number? "value" = some x) ∨ ∃ x, entry.number? "avg" = some x

/-- The payload has everything that is asked of it. -/
structure Grammatical (v : Json) : Prop where
  isObject : v.isObject = true
  componentType : v.HasName "component_type"
  instanceName : v.HasName "instance_name"
  snapshotId : v.HasName "snapshot_id"
  sequenceNumber : ∃ number, SequenceIs (v.member? "sequence_number") number
  data : ∃ entries, v.member? "data" = some (.array entries)
  entries : ∀ entry ∈ v.entries, GrammaticalEntry entry

variable {v w entry : Json} {index : ℕ} {entries : List Json}

lemma grammaticalEntry_iff (index : ℕ) :
    GrammaticalEntry entry ↔ ∀ d ∈ entryDemands index entry, d.met := by
  simp only [entryDemands, List.mem_cons, List.not_mem_nil, or_false, forall_eq_or_imp, forall_eq]
  exact ⟨fun h => ⟨h.metric, h.value⟩, fun h => ⟨h.1, h.2⟩⟩

lemma grammaticalEntries_iff (index : ℕ) :
    (∀ entry ∈ entries, GrammaticalEntry entry) ↔ ∀ d ∈ entriesDemands index entries, d.met := by
  induction entries generalizing index with
  | nil => simp
  | cons entry rest ih =>
      rw [entriesDemands_cons, List.forall_mem_append, List.forall_mem_cons,
        grammaticalEntry_iff index, ih (index + 1)]

/-- A payload has everything exactly if it meets all demands. -/
lemma grammatical_iff : Grammatical v ↔ ∀ d ∈ demands v, d.met := by
  rw [demands, List.forall_mem_append, ← grammaticalEntries_iff]
  simp only [List.forall_mem_cons, List.not_mem_nil, false_implies, implies_true, and_true]
  constructor
  · rintro ⟨hobject, hcomponent, hname, hkey, hnumber, hdata, hentries⟩
    exact ⟨⟨hobject, hcomponent, hname, hkey, hnumber, hdata⟩, hentries⟩
  · rintro ⟨⟨hobject, hcomponent, hname, hkey, hnumber, hdata⟩, hentries⟩
    exact ⟨hobject, hcomponent, hname, hkey, hnumber, hdata, hentries⟩

/-! ### What the steps ask for -/

lemma asks_requiredText (v : Json) (field : String) :
    Asks (requiredText v field)
      [{ met := v.HasName field, complaint := "missing field: " ++ field }] := by
  refine .one (fun text htext => ⟨text, requiredText_eq_ok_iff.1 htext⟩) fun e he => ?_
  rw [requiredText] at he
  rcases hname : nonempty? ((v.member? field).bind Json.text?) with _ | text <;> rw [hname] at he
  · cases he
    exact ⟨Json.not_hasName hname, rfl⟩
  · cases he

lemma sequenceOf_eq_ok_iff {number : Option ℕ} :
    sequenceOf v = .ok number ↔ SequenceIs (v.member? "sequence_number") number := by
  rw [sequenceOf]
  constructor
  · intro h
    split at h
    · rename_i hmember
      cases h
      rw [hmember]
      exact .missing
    · rename_i hmember
      cases h
      rw [hmember]
      exact .null
    · rename_i member _ hmember
      rw [hmember]
      cases member with
      | integer n =>
          by_cases hn : 0 ≤ n.val
          · simp only [asSequence?, if_pos hn] at h
            cases h
            exact .integer hn
          · simp only [asSequence?, if_neg hn] at h
            cases h
      | text s =>
          rcases hread : readUnsigned64? s with _ | n <;> simp only [asSequence?, hread] at h
          · cases h
          · cases h
            exact .text hread
      | _ => cases h
  · generalize v.member? "sequence_number" = member
    rintro (_ | _ | hn | hread)
    · rfl
    · rfl
    · simp only [asSequence?, if_pos hn]
    · simp only [asSequence?, hread]

lemma asks_sequenceOf (v : Json) :
    Asks (sequenceOf v)
      [{ met := ∃ number, SequenceIs (v.member? "sequence_number") number
         complaint := "invalid sequence_number" }] := by
  refine .one (fun number h => ⟨number, sequenceOf_eq_ok_iff.1 h⟩) fun e he => ⟨?_, ?_⟩
  · rintro ⟨number, hnumber⟩
    rw [sequenceOf_eq_ok_iff.2 hnumber] at he
    cases he
  · rw [sequenceOf] at he
    split at he
    · cases he
    · cases he
    · split at he <;> cases he
      rfl

/-- An entry that is not a reading lacks its name, or else its value. -/
lemma asks_readingOf (index : ℕ) (entry : Json) :
    Asks (readingOf index entry) (entryDemands index entry) := by
  refine ⟨fun r hr => ?_, fun e he => ?_⟩
  · have hsummarizes := readingOf_eq_ok_iff.1 hr
    refine (grammaticalEntry_iff index).1 ⟨⟨_, hsummarizes.metric, hsummarizes.named⟩, ?_⟩
    obtain hvalue | ⟨-, hvalue⟩ := Option.or_eq_some_iff.1 hsummarizes.value
    · exact .inl ⟨_, hvalue⟩
    · exact .inr ⟨_, hvalue⟩
  · rw [readingOf] at he
    rcases hmetric : nonempty? ((entry.member? "metric").bind Json.text?) with _ | metric <;>
      simp only [hmetric] at he
    · cases he
      exact .head (Json.not_hasName hmetric)
    · refine .tail ⟨metric, Json.nonempty?_text?_eq_some_iff.1 hmetric⟩ ?_
      split at he <;> cases he
      rename_i hvalue
      obtain ⟨hvalue, havg⟩ := Option.or_eq_none_iff.1 hvalue
      exact .head (by simp [Json.number?, hvalue, havg])

/-- The entries are asked one after the other. -/
lemma asks_readingsFrom (index : ℕ) (entries : List Json) :
    Asks (readingsFrom index entries) (entriesDemands index entries) := by
  induction entries generalizing index with
  | nil => exact .pure _
  | cons entry rest ih =>
      rw [entriesDemands_cons]
      exact (asks_readingOf index entry).bind fun r _ => (ih (index + 1)).bind_pure _

/-- **Demands.**  The reader asks for all that is asked of a payload, in order. -/
lemma asks_ofJson? (v : Json) : Asks (ofJson? v) (demands v) := by
  rw [ofJson?]
  by_cases hobject : v.isObject = true
  · simp only [hobject, Bool.not_true, Bool.false_eq_true, if_false]
    refine .cons_of_met hobject ?_
    refine (asks_requiredText v "component_type").bind_cons fun component _ => ?_
    refine (asks_requiredText v "instance_name").bind_cons fun name _ => ?_
    refine (asks_requiredText v "snapshot_id").bind_cons fun key _ => ?_
    refine (asks_sequenceOf v).bind_cons fun number _ => ?_
    rcases hdata : (v.member? "data").bind Json.items? with _ | items
    · refine .of_unmet (.head ?_)
      rintro ⟨entries, hentries⟩
      rw [Json.bind_items?_eq_some_iff.2 hentries] at hdata
      cases hdata
    · have harray := Json.bind_items?_eq_some_iff.1 hdata
      refine .cons_of_met ⟨items, harray⟩ ?_
      rw [Json.entries_eq harray]
      exact (asks_readingsFrom 0 items).bind_pure _
  · simp only [hobject]
    exact .of_unmet (.head hobject)

/-! ### What is read -/

/-- All that an envelope takes from its payload. -/
structure Renders (t : TelemetryPayload) (v : Json) (entries : List Json) : Prop
    extends t.Describes v entries where
  named : t.componentType ≠ "" ∧ t.instanceName ≠ "" ∧ t.snapshotId ≠ ""
  sequenceNumber : SequenceIs (v.member? "sequence_number") t.sequenceNumber

variable {t u : TelemetryPayload}

/-- An envelope is read exactly from a payload from which it takes everything. -/
lemma ofJson?_eq_ok_iff : ofJson? v = .ok t ↔ ∃ entries, t.Renders v entries := by
  constructor
  · intro h
    obtain ⟨entries, hdescribes⟩ := exists_describes h
    rw [ofJson?] at h
    split at h
    · cases h
    · simp only [bind_eq_ok_iff, requiredText_eq_ok_iff, sequenceOf_eq_ok_iff] at h
      obtain ⟨_, ⟨-, hcomponent⟩, _, ⟨-, hname⟩, _, ⟨-, hkey⟩, number, hnumber, h⟩ := h
      split at h
      · simp only [bind_eq_ok_iff, pure_eq_ok_iff] at h
        obtain ⟨_, -, _, -, rfl⟩ := h
        exact ⟨entries, hdescribes, ⟨hcomponent, hname, hkey⟩, hnumber⟩
      · cases h
  · rintro ⟨entries, ⟨hcomponent, hname, hkey, hcaptured, hdata, hreadings⟩, hnamed, hnumber⟩
    have hobject : v.isObject = true := Json.isObject_of_member? hdata
    rw [ofJson?]
    simp only [hobject, requiredText_eq_ok_iff.2 ⟨hcomponent, hnamed.1⟩,
      requiredText_eq_ok_iff.2 ⟨hname, hnamed.2.1⟩, requiredText_eq_ok_iff.2 ⟨hkey, hnamed.2.2⟩,
      sequenceOf_eq_ok_iff.2 hnumber, Json.bind_items?_eq_some_iff.2 hdata, ← hcaptured]
    change (readingsFrom 0 entries >>= _) = _
    rw [readingsFrom_eq_ok_iff.2 hreadings]
    rfl

/-- The members of an entry that are read. -/
def entryMembers : List String :=
  ["metric", "unit", "value", "avg", "min", "max", "stddev", "slope", "count"]

/-- The payloads differ only in what is not read. -/
structure Alike (v w : Json) : Prop where
  isObject : v.isObject = w.isObject
  members : Json.AgreeOn
    ["component_type", "instance_name", "snapshot_id", "captured_at", "sequence_number"] v w
  data : Option.Rel (List.Forall₂ (Json.AgreeOn entryMembers))
    ((v.member? "data").bind Json.items?) ((w.member? "data").bind Json.items?)

lemma readingOf_congr {entry' : Json} (h : Json.AgreeOn entryMembers entry entry') :
    readingOf index entry = readingOf index entry' := by
  simp only [Json.AgreeOn, entryMembers, List.forall_mem_cons] at h
  obtain ⟨hmetric, hunit, hvalue, havg, hmin, hmax, hstddev, hslope, hcount, -⟩ := h
  simp only [readingOf, hmetric, hunit, hvalue, havg, hmin, hmax, hstddev, hslope, hcount]

lemma readingsFrom_congr {entries' : List Json}
    (h : List.Forall₂ (Json.AgreeOn entryMembers) entries entries') :
    readingsFrom index entries = readingsFrom index entries' := by
  induction h generalizing index with
  | nil => rfl
  | cons hentry _ ih => rw [readingsFrom, readingsFrom, readingOf_congr hentry, ih]

/-- Nothing else is read. -/
lemma ofJson?_congr (h : Alike v w) : ofJson? v = ofJson? w := by
  have htexts : ∀ field, v.member? field = w.member? field →
      requiredText v field = requiredText w field := fun field hfield => by
    rw [requiredText, requiredText, hfield]
  have hmembers := h.members
  simp only [Json.AgreeOn, List.forall_mem_cons] at hmembers
  obtain ⟨hcomponent, hname, hkey, hcaptured, hnumber, -⟩ := hmembers
  have hsequence : sequenceOf v = sequenceOf w := by rw [sequenceOf, sequenceOf, hnumber]
  have hmoment : capturedAtOf v = capturedAtOf w := by rw [capturedAtOf, capturedAtOf, hcaptured]
  have hdata := h.data
  rw [ofJson?, ofJson?, h.isObject, htexts _ hcomponent, htexts _ hname, htexts _ hkey, hsequence,
    hmoment]
  generalize (v.member? "data").bind Json.items? = items at hdata
  generalize (w.member? "data").bind Json.items? = items' at hdata
  cases hdata with
  | none => rfl
  | some hentries => simp only [bind, Except.bind, readingsFrom_congr hentries]

/-- A reading stands where its entry stands. -/
lemma Renders.readingOf_getElem {entries : List Json} (h : t.Renders v entries) {i : ℕ}
    (hi : i < entries.length) (index : ℕ) :
    ∃ r, t.readings[i]? = some r ∧ readingOf index entries[i] = .ok r := by
  have hi' : i < t.readings.length := h.readings.length_eq ▸ hi
  exact ⟨_, List.getElem?_eq_getElem hi', readingOf_eq_ok_iff.2 (h.readings.get hi hi')⟩

/-- A reading follows from its own entry. -/
lemma getElem?_readings_congr (ht : ofJson? v = .ok t) (hu : ofJson? w = .ok u) {i : ℕ}
    {entry' : Json} (hentry : v.entries[i]? = some entry) (hentry' : w.entries[i]? = some entry')
    (h : Json.AgreeOn entryMembers entry entry') : t.readings[i]? = u.readings[i]? := by
  obtain ⟨entries, hrenders⟩ := ofJson?_eq_ok_iff.1 ht
  obtain ⟨entries', hrenders'⟩ := ofJson?_eq_ok_iff.1 hu
  rw [Json.entries_eq hrenders.data] at hentry
  rw [Json.entries_eq hrenders'.data] at hentry'
  obtain ⟨hi, rfl⟩ := List.getElem?_eq_some_iff.1 hentry
  obtain ⟨hi', rfl⟩ := List.getElem?_eq_some_iff.1 hentry'
  obtain ⟨r, hr, hread⟩ := hrenders.readingOf_getElem hi i
  obtain ⟨r', hr', hread'⟩ := hrenders'.readingOf_getElem hi' i
  rw [readingOf_congr h, hread', Except.ok.injEq] at hread
  rw [hr, hr', hread]

/-- **The grammar of envelopes.**  An envelope is read exactly of the payloads that have everything
that is asked for, and it takes everything from its payload: one reading for each entry, in their
order.  Of every other payload it is said what the first thing is that it lacks.  A reading depends
on nothing but what is read of its own entry; and nothing else in a payload makes a difference. -/
theorem grammar (v : Json) :
    ((∃ t, ofJson? v = .ok t) ↔ Grammatical v) ∧
    (∀ t, ofJson? v = .ok t ↔ ∃ entries, t.Renders v entries) ∧
    (∀ text, (∃ e, ofJson? v = .error e ∧ e.message = text) ↔ FirstUnmet (demands v) text) ∧
    (∀ w t u, ofJson? v = .ok t → ofJson? w = .ok u → ∀ (i : ℕ) entry entry',
      v.entries[i]? = some entry → w.entries[i]? = some entry' →
      Json.AgreeOn entryMembers entry entry' → t.readings[i]? = u.readings[i]?) ∧
    ∀ w, Alike v w → ofJson? v = ofJson? w := by
  have hasks := asks_ofJson? v
  refine ⟨hasks.exists_ok_iff.trans grammatical_iff.symm, fun t => ofJson?_eq_ok_iff,
    fun text => hasks.exists_error_iff, ?_, fun w => ofJson?_congr⟩
  intro w t u ht hu i entry entry' hentry hentry'
  exact getElem?_readings_congr ht hu hentry hentry'

namespace Sample

/-- A payload with one entry, captured at that time and in that unit. -/
def payload (capturedAt unit : String) : Json :=
  .object
    [("captured_at", .text capturedAt), ("component_type", .text "DHT22"),
     ("data", .array [.object
       [("metric", .text "temperature"), ("unit", .text unit), ("value", .ofNat 21)]]),
     ("instance_name", .text "gl"), ("snapshot_id", .text "snap-1")]

end Sample

/-- The moment of capture and the unit, of which no payload needs to have any, make a difference;
and of a payload that is no object it is not said that it lacks a member. -/
theorem capture_and_unit_read :
    (ofJson? (Sample.payload "2026-01-01T10:00:00Z" "C")).map (·.capturedAt) ≠
      (ofJson? (Sample.payload "2026-01-01T11:00:00Z" "C")).map (·.capturedAt) ∧
    (ofJson? (Sample.payload "2026-01-01T10:00:00Z" "C")).map (·.readings) ≠
      (ofJson? (Sample.payload "2026-01-01T10:00:00Z" "F")).map (·.readings) ∧
    (ofJson? .null).map (·.readings) = .error .notObject ∧
    PayloadFault.notObject.message = "payload is not a JSON object" := by
  decide +kernel

end TelemetryPayload

end DeviceGate
