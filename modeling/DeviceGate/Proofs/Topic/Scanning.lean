import DeviceGate.Proofs.Topic.Covering

/-!
Scanning a filter.  Whether a topic passes a filter can be found out by going over the segments of
the filter with a counter and looking up the segment of the topic at the same place; a `#` ends the
scan, and if there is none the two counts are compared at the end.  This finds what the relation
between the segments says, because the scan never gets past a place that the topic does not have.

* `Topic.scan`, `Topic.scanFilter`: the scan, of segments and of texts.
* `Topic.scan_eq`: from any place on, the scan is the decision on what is left of both.
* `Topic.Matches.ne_of_mem_dropLast`: no `#` stands before the last segment of a filter that
  matches.
* `Topic.scanFilter_iff_matches`: the scan, the decision and the relation agree on all texts.
-/

namespace DeviceGate.Topic

/-! ### The scan -/

/-- The scan of a filter of `count` segments over those of a topic, from the place `i` on, where
these segments of the filter are left. -/
def scan (count : ℕ) (topic : List String) (i : ℕ) : List String → Bool
  | [] => count = topic.length
  | part :: rest =>
    if part = "#" then i = count - 1
    else if part = "+" then
      if topic.length ≤ i then false else scan count topic (i + 1) rest
    else if topic[i]? ≠ some part then false
    else scan count topic (i + 1) rest

/-- The scan of a filter over a topic, as texts. -/
def scanFilter (filter topic : String) : Bool :=
  if filter = "" ∨ topic = "" then false
  else if topic.toList.head? = some '$' ∧
      ((segments filter).head? = some "#" ∨ (segments filter).head? = some "+") then false
  else scan (segments filter).length (segments topic) 0 (segments filter)

/-! ### From one place to the next -/

section Places

variable {part : String} {rest topic : List String}

lemma matchesSegments_all (rest topic : List String) :
    matchesSegments ("#" :: rest) topic = rest.isEmpty := by
  simp [matchesSegments]

lemma matchesSegments_nil (h : part ≠ "#") : matchesSegments (part :: rest) [] = false := by
  simp [matchesSegments]

lemma matchesSegments_cons (h : part ≠ "#") (t : String) (ts : List String) :
    matchesSegments (part :: rest) (t :: ts) =
      ((part == "+" || part == t) && matchesSegments rest ts) := by
  simp [matchesSegments]

/-- A place that the topic does not have ends the scan, unless a `#` stands there. -/
lemma scan_of_beyond (h : part ≠ "#") {i : ℕ} (hi : topic.length ≤ i) (count : ℕ) :
    scan count topic i (part :: rest) = false := by
  have hnone : topic[i]? = none := List.getElem?_eq_none hi
  rw [scan, if_neg h, if_pos hi, hnone, if_pos (Option.some_ne_none part).symm, ite_self]

/-- At a place that the topic has, the scan goes on if the segment there may stand there. -/
lemma scan_of_within (h : part ≠ "#") {i : ℕ} (hi : i < topic.length) (count : ℕ) :
    scan count topic i (part :: rest) =
      ((part == "+" || part == topic[i]) && scan count topic (i + 1) rest) := by
  have hsome : topic[i]? = some topic[i] := List.getElem?_eq_getElem hi
  rw [scan, if_neg h]
  by_cases hplus : part = "+"
  · rw [if_pos hplus, if_neg (by omega)]
    simp [hplus]
  · by_cases hpart : part = topic[i]
    · rw [if_neg hplus, if_neg (by simp [hsome, hpart])]
      simp [← hpart]
    · rw [if_neg hplus, if_pos (by simpa [hsome] using Ne.symm hpart)]
      simp [hplus, hpart]

end Places

/-- **The scan from any place on.**  As long as the topic goes as far, the scan is the decision on
what is left of the filter and of the topic. -/
lemma scan_eq {topic : List String} (filter : List String) {i : ℕ} (hi : i ≤ topic.length) :
    scan (i + filter.length) topic i filter = matchesSegments filter (topic.drop i) := by
  induction filter generalizing i with
  | nil =>
      -- the counts agree at the end exactly if nothing of the topic is left
      rcases hdrop : topic.drop i with _ | ⟨t, ts⟩
      · have hle : topic.length ≤ i := List.drop_eq_nil_iff.1 hdrop
        simp only [scan, matchesSegments, List.length_nil, decide_eq_true_eq]
        omega
      · have hlength := congrArg List.length hdrop
        rw [List.length_drop, List.length_cons] at hlength
        simp only [scan, matchesSegments, List.length_nil, decide_eq_false_iff_not]
        omega
  | cons part rest ih =>
      by_cases hall : part = "#"
      · subst hall
        rw [matchesSegments_all, scan, if_pos rfl, List.length_cons]
        cases rest with
        | nil => simp
        | cons f fs => simp
      · by_cases hwithin : i < topic.length
        · have hcount : i + (part :: rest).length = i + 1 + rest.length := by
            rw [List.length_cons]
            omega
          rw [scan_of_within hall hwithin, hcount, ih hwithin, List.drop_eq_getElem_cons hwithin,
            matchesSegments_cons hall]
        · have hbeyond : topic.length ≤ i := Nat.le_of_not_lt hwithin
          rw [scan_of_beyond hall hbeyond, List.drop_of_length_le hbeyond, matchesSegments_nil hall]

/-! ### Filters and topics -/

/-- No `#` stands before the last segment of a filter that anything matches. -/
lemma Matches.ne_of_mem_dropLast {fs ts : List String} (h : Matches fs ts) {part : String}
    (hpart : part ∈ fs.dropLast) : part ≠ "#" := by
  induction fs generalizing ts with
  | nil => cases hpart
  | cons f fs ih =>
      have hfs : fs ≠ [] := by
        rintro rfl
        cases hpart
      have hf : f ≠ "#" := h.ne_of_cons hfs
      obtain ⟨t, behind, -, -, hbehind⟩ := h.cons_cases hf
      rw [List.dropLast_cons_of_ne_nil hfs] at hpart
      rcases List.mem_cons.1 hpart with rfl | hpart
      · exact hf
      · exact ih hbehind hpart

lemma closed_iff (filter topic : String) :
    (topic.toList.head? = some '$' ∧
        ((segments filter).head? = some "#" ∨ (segments filter).head? = some "+")) ↔
      isReserved topic = true ∧ startsWithWildcard filter = true := by
  rw [isReserved, decide_eq_true_iff, startsWithWildcard_iff, namespaceOf]
  rcases hsegments : segments filter with _ | ⟨first, rest⟩
  · exact absurd hsegments (segments_ne_nil filter)
  · simp

/-- The scan of texts is the decision on them. -/
lemma scanFilter_eq (filter topic : String) :
    scanFilter filter topic = matchesFilter filter topic := by
  have hscan : scan (segments filter).length (segments topic) 0 (segments filter) =
      matchesSegments (segments filter) (segments topic) := by
    simpa using scan_eq (segments filter) (Nat.zero_le (segments topic).length)
  rw [scanFilter, hscan, Bool.eq_iff_iff, matchesFilter_iff, ← matchesSegments_iff]
  simp only [closed_iff]
  split_ifs with hempty hclosed
  · simp only [false_iff]
    tauto
  · simp only [false_iff]
    tauto
  · tauto

/-- **Filters.**  A topic passes a filter exactly if neither is empty, the topic does not belong to
the broker while the filter begins with a wildcard, and the segments of the one match those of the
other; a scan with a counter finds the same, and no topic passes a filter in which a `#` stands
before the last segment. -/
theorem scanFilter_iff_matches (filter topic : String) :
    scanFilter filter topic = matchesFilter filter topic ∧
    (matchesFilter filter topic = true ↔
      filter ≠ "" ∧ topic ≠ "" ∧
      ¬ (topic.toList.head? = some '$' ∧
        ((segments filter).head? = some "#" ∨ (segments filter).head? = some "+")) ∧
      Matches (segments filter) (segments topic)) ∧
    ¬ ("#" ∈ (segments filter).dropLast ∧ matchesFilter filter topic = true) := by
  refine ⟨scanFilter_eq filter topic, ?_, ?_⟩
  · rw [closed_iff]
    exact matchesFilter_iff
  · rintro ⟨hall, hpasses⟩
    obtain ⟨-, -, -, hmatches⟩ := matchesFilter_iff.1 hpasses
    exact hmatches.ne_of_mem_dropLast hall rfl

end DeviceGate.Topic
