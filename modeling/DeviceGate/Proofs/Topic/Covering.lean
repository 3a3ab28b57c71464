import DeviceGate.Topic
import Mathlib.Tactic

/-!
Filters over filters.  A subscription asks for all topics that pass a filter, so what is let through
as one topic may stand for many.  A filter that a subscription passes lets through everything the
subscription asks for, except where one of its `+` meets the last `#` of the subscription: the `+`
stands for one segment, and the `#` for any number of them.

* `Topic.segments_ofSegments`, `Topic.ofSegments_segments`: a topic and its segments determine each
  other.
* `Topic.IsConcrete`, `Topic.Covers`: every topic that passes the one filter passes the other.
* `Topic.Strays`, `Topic.Outgrows`: the exception, on segments and on texts.
* `Topic.Matches.trans`: matching is transitive outside the exception.
* `Topic.covers_iff`: a filter that a subscription passes covers it outside the exception only.
-/

namespace DeviceGate.Topic

/-! ### Topics and their segments -/

lemma splitChars_eq_splitOn (cs : List Char) : splitChars cs = cs.splitOn '/' := by
  induction cs with
  | nil => rfl
  | cons c rest ih =>
      have hcons : (c :: rest).splitOn '/' =
          if c = '/' then [] :: rest.splitOn '/' else (rest.splitOn '/').modifyHead (c :: ·) := by
        simp only [List.splitOn_eq_splitOnP, List.splitOnP_cons_eq_if_modifyHead, beq_iff_eq]
      rw [splitChars, ih, hcons]
      rcases hrest : rest.splitOn '/' with _ | ⟨segment, others⟩
      · exact absurd hrest (List.splitOn_ne_nil _ _)
      · rfl

lemma segments_ne_nil (topic : String) : segments topic ≠ [] := by
  rw [segments, splitChars_eq_splitOn, ne_eq, List.map_eq_nil_iff]
  exact List.splitOn_ne_nil _ _

/-- The topic with those segments. -/
def ofSegments (parts : List String) : String :=
  "/".intercalate parts

lemma ofSegments_segments (topic : String) : ofSegments (segments topic) = topic := by
  have hparts : (segments topic).map String.toList = topic.toList.splitOn '/' := by
    rw [segments, splitChars_eq_splitOn, List.map_map]
    exact (List.map_congr_left fun s _ => String.toList_ofList).trans (List.map_id _)
  rw [← String.toList_inj, ofSegments, String.toList_intercalate, hparts]
  exact List.intercalate_splitOn '/'

lemma segments_ofSegments {parts : List String} (hne : parts ≠ [])
    (h : ∀ part ∈ parts, '/' ∉ part.toList) : segments (ofSegments parts) = parts := by
  have hsplit : (['/'].intercalate (parts.map String.toList)).splitOn '/' =
      parts.map String.toList :=
    List.splitOn_intercalate '/' (by simpa using h) (by simpa using hne)
  rw [segments, ofSegments, splitChars_eq_splitOn, String.toList_intercalate]
  change ((['/'].intercalate (parts.map String.toList)).splitOn '/').map String.ofList = parts
  rw [hsplit, List.map_map]
  exact (List.map_congr_left fun s _ => String.ofList_toList).trans (List.map_id _)

/-- No segment of a topic holds the separator. -/
lemma slash_notMem_of_mem_segments {topic part : String} (h : part ∈ segments topic) :
    '/' ∉ part.toList := by
  have hsplit : ∀ text : List Char, ∀ cs ∈ splitChars text, '/' ∉ cs := by
    intro text
    fun_induction splitChars text with
    | case1 => simp
    | case2 rest ih => simpa using ih
    | case3 c rest hc segment others hrest ih =>
        rw [hrest] at ih
        obtain ⟨hfirst, hothers⟩ := List.forall_mem_cons.1 ih
        refine List.forall_mem_cons.2 ⟨?_, hothers⟩
        simpa [Ne.symm hc] using hfirst
    | case4 c rest hc => simpa using Ne.symm hc
  obtain ⟨cs, hcs, rfl⟩ := List.mem_map.1 h
  rw [String.toList_ofList]
  exact hsplit _ cs hcs

/-- A topic belongs to the broker when its first segment says so. -/
lemma isReserved_iff (topic : String) :
    isReserved topic = true ↔ (namespaceOf topic).toList.head? = some '$' := by
  rw [isReserved, namespaceOf, segments, decide_eq_true_iff]
  rcases topic.toList with _ | ⟨c, rest⟩
  · simp [splitChars]
  · rw [splitChars]
    by_cases hc : c = '/'
    · simp [hc]
    · rw [if_neg hc]
      split <;> simp

lemma startsWithWildcard_iff (filter : String) :
    startsWithWildcard filter = true ↔ namespaceOf filter = "#" ∨ namespaceOf filter = "+" := by
  rw [startsWithWildcard, namespaceOf]
  rcases hsegments : segments filter with _ | ⟨first, rest⟩
  · exact absurd hsegments (segments_ne_nil filter)
  · simp

lemma matchesFilter_iff {filter topic : String} :
    matchesFilter filter topic = true ↔ filter ≠ "" ∧ topic ≠ "" ∧
      ¬ (isReserved topic = true ∧ startsWithWildcard filter = true) ∧
      Matches (segments filter) (segments topic) := by
  simp only [matchesFilter, Bool.and_eq_true, Bool.not_eq_true', String.isEmpty_eq_false_iff,
    Bool.and_eq_false_iff, matchesSegments_iff, and_assoc, not_and_or, Bool.not_eq_true]

/-! ### What passes a filter -/

section Matching

variable {fs ss ts : List String}

/-- Nothing but the end of a filter, or a last `#`, stands for nothing. -/
lemma Matches.nil_cases (h : Matches fs []) : fs = [] ∨ fs = ["#"] := by
  cases h with
  | done => exact .inl rfl
  | all => exact .inr rfl

/-- A segment of a filter stands for one segment, itself unless it is `+`, when it is no `#`. -/
lemma Matches.cons_cases {f : String} (h : Matches (f :: fs) ts) (hf : f ≠ "#") :
    ∃ t rest, ts = t :: rest ∧ (f = "+" ∨ f = t) ∧ Matches fs rest := by
  cases h with
  | all => exact absurd rfl hf
  | one t hrest => exact ⟨t, _, rfl, .inl rfl, hrest⟩
  | literal _ _ hrest => exact ⟨f, _, rfl, .inr rfl, hrest⟩

/-- A `#` stands at the end of a filter only. -/
lemma Matches.ne_of_cons {f : String} (h : Matches (f :: fs) ts) (hfs : fs ≠ []) : f ≠ "#" := by
  cases h with
  | all => exact absurd rfl hfs
  | one => decide
  | literal _ hf => exact hf

lemma Matches.tail {f t : String} (h : Matches (f :: fs) (t :: ts)) (hfs : fs ≠ []) :
    Matches fs ts := by
  obtain ⟨_, _, heq, -, hrest⟩ := h.cons_cases (h.ne_of_cons hfs)
  cases heq
  exact hrest

/-- What is left of a filter when its `+` stands for the last segment. -/
lemma Matches.end_of_plus {t : String} (h : Matches ("+" :: fs) [t]) : fs = [] ∨ fs = ["#"] := by
  obtain ⟨_, _, heq, -, hrest⟩ := h.cons_cases (by decide)
  cases heq
  exact hrest.nil_cases

/-- Only a last `#` may stand for nothing. -/
lemma Matches.length_le (h : Matches fs ts) : fs.length ≤ ts.length + 1 := by
  induction h with
  | done => simp
  | all ts => simp
  | one x _ ih => simpa using ih
  | literal _ _ _ ih => simpa using ih

/-- Without a `#` the segments of a filter stand for one segment each. -/
lemma Matches.length_eq (h : Matches fs ts) (hall : "#" ∉ fs) : fs.length = ts.length := by
  induction h with
  | done => rfl
  | all ts => simp at hall
  | one x _ ih => simpa using ih fun hmem => hall (List.mem_cons_of_mem _ hmem)
  | literal _ _ _ ih => simpa using ih fun hmem => hall (List.mem_cons_of_mem _ hmem)

/-- Of two filters, `+` of the first one stands where the second one ends in `#`. -/
inductive Strays : List String → List String → Prop where
  | here (fs : List String) : Strays ("+" :: fs) ["#"]
  | behind {f s : String} {fs ss : List String} : s ≠ "#" → Strays fs ss →
      Strays (f :: fs) (s :: ss)

lemma Strays.ne_nil (h : Strays fs ss) : fs ≠ [] := by
  cases h with
  | _ => simp

/-- The second filter ends in its only `#`. -/
lemma Strays.exists_known (h : Strays fs ss) : ∃ known, ss = known ++ ["#"] ∧ "#" ∉ known := by
  induction h with
  | here fs => exact ⟨[], rfl, List.not_mem_nil⟩
  | @behind f s fs ss hs _ ih =>
      obtain ⟨known, rfl, hknown⟩ := ih
      exact ⟨s :: known, rfl, by simp [hs.symm, hknown]⟩

/-- The first filter, where it lets the second one through, ends in that `+`, but for a `#`. -/
lemma Strays.suffix (h : Strays fs ss) (hmatches : Matches fs ss) :
    ["+"] <:+ fs ∨ ["+", "#"] <:+ fs := by
  induction h with
  | here fs =>
      rcases hmatches.end_of_plus with rfl | rfl
      · exact .inl (List.suffix_refl _)
      · exact .inr (List.suffix_refl _)
  | @behind f s fs ss _ hstrays ih =>
      have hends := ih (hmatches.tail hstrays.ne_nil)
      exact hends.imp (·.trans (List.suffix_cons f fs)) (·.trans (List.suffix_cons f fs))

/-- A `#` of the first filter then stands behind everything that the second one names. -/
lemma Strays.length_lt (h : Strays fs ss) (hmatches : Matches fs ss) (hall : "#" ∈ fs) :
    ss.length < fs.length := by
  induction h with
  | here fs =>
      rcases hmatches.end_of_plus with rfl | rfl
      · simp at hall
      · simp
  | @behind f s fs ss _ hstrays ih =>
      have hf := hmatches.ne_of_cons hstrays.ne_nil
      simpa using ih (hmatches.tail hstrays.ne_nil) (by simpa [hf.symm] using hall)

/-- **Matching is transitive**, as long as no `+` meets the last `#` of the filter in between, or
another `#` makes up for it. -/
theorem Matches.trans (h : Matches fs ss) (h' : Matches ss ts)
    (hstays : Strays fs ss → "#" ∈ fs ∧ ss.length ≤ ts.length) : Matches fs ts := by
  induction h generalizing ts with
  | done =>
      cases h'
      exact .done
  | all ss => exact .all ts
  | @one fs ss x hrest ih =>
      -- what is asked of the tails, where the heads stand for one segment each
      have hbehind : ∀ {y : String} {ts : List String}, x ≠ "#" →
          (Strays ("+" :: fs) (x :: ss) → "#" ∈ "+" :: fs ∧ (x :: ss).length ≤ (y :: ts).length) →
          Strays fs ss → "#" ∈ fs ∧ ss.length ≤ ts.length := by
        intro y ts hx hstays hstrays
        simpa using hstays (.behind hx hstrays)
      cases h' with
      | all ts =>
          obtain ⟨hall, hlength⟩ := hstays (.here fs)
          cases hrest with
          | done => simp at hall
          | all =>
              cases ts with
              | nil => simp at hlength
              | cons t ts => exact .one t (.all ts)
      | one y htail => exact .one y (ih htail (hbehind (by decide) hstays))
      | literal _ hl htail => exact .one _ (ih htail (hbehind hl hstays))
  | @literal fs ss l hplus hl hrest ih =>
      cases h' with
      | all => exact absurd rfl hl
      | one => exact absurd rfl hplus
      | literal _ _ htail =>
          refine .literal hplus hl (ih htail fun hstrays => ?_)
          obtain ⟨hall, hlength⟩ := hstays (.behind hl hstrays)
          exact ⟨by simpa [hl.symm] using hall, by simpa using hlength⟩

end Matching

/-! ### Filters over filters -/

/-- A topic that messages can have, of which no segment is a wildcard. -/
def IsConcrete (topic : String) : Prop :=
  "+" ∉ segments topic ∧ "#" ∉ segments topic

/-- Every concrete topic that passes the inner filter passes the outer one. -/
def Covers (outer inner : String) : Prop :=
  ∀ topic, IsConcrete topic → matchesFilter inner topic = true → matchesFilter outer topic = true

/-- A `+` of the filter meets the last `#` of what is requested, and no `#` behind it makes up for
that; one does only if nothing but the empty text ends where the requested `#` begins. -/
def Outgrows (requested filter : String) : Prop :=
  Strays (segments filter) (segments requested) ∧
    ("#" ∈ segments filter → requested ≠ "#" ∧ requested ≠ "/#")

section Covering

variable {filter requested topic : String}

/-- A topic begins as the filter that it passes, unless that begins with a wildcard. -/
lemma namespaceOf_eq_of_matches (h : Matches (segments filter) (segments topic))
    (hwild : ¬ startsWithWildcard filter = true) : namespaceOf filter = namespaceOf topic := by
  rw [startsWithWildcard_iff, not_or, namespaceOf] at hwild
  rw [namespaceOf, namespaceOf]
  rcases hfilter : segments filter with _ | ⟨first, rest⟩
  · exact absurd hfilter (segments_ne_nil filter)
  · rw [hfilter] at h hwild
    obtain ⟨t, ts, htopic, heq, -⟩ := h.cons_cases hwild.1
    rw [htopic]
    exact heq.resolve_left hwild.2

/-- A topic that passes `#` or `/#` has at least as many segments. -/
lemma length_le_of_root (hne : topic ≠ "") (h : Matches (segments requested) (segments topic))
    (hroot : requested = "#" ∨ requested = "/#") :
    (segments requested).length ≤ (segments topic).length := by
  rcases hroot with rfl | rfl
  · exact List.length_pos_iff.2 (segments_ne_nil topic)
  · obtain ⟨t, rest, htopic, heq, hrest⟩ :=
      (show Matches ["", "#"] (segments topic) from h).cons_cases (by decide)
    rcases rest with _ | ⟨next, rest⟩
    · -- only the empty topic ends where the `#` begins
      obtain rfl : "" = t := heq.resolve_left (by decide)
      refine absurd ?_ hne
      rw [← ofSegments_segments topic, htopic]
      rfl
    · rw [htopic]
      exact Nat.le_add_left 2 rest.length

/-- A filter that a subscription passes covers it, unless it is outgrown. -/
lemma covers_of_not_outgrows (h : matchesFilter filter requested = true)
    (hnot : ¬ Outgrows requested filter) : Covers filter requested := by
  intro topic _ htopic
  obtain ⟨hfilter, -, hopen, hmatches⟩ := matchesFilter_iff.1 h
  obtain ⟨-, hne, hopen', hmatches'⟩ := matchesFilter_iff.1 htopic
  refine matchesFilter_iff.2 ⟨hfilter, hne, ?_, hmatches.trans hmatches' fun hstrays => ?_⟩
  · rintro ⟨hreserved, hwild⟩
    have hfirst : namespaceOf requested = namespaceOf topic :=
      namespaceOf_eq_of_matches hmatches' fun hwild' => hopen' ⟨hreserved, hwild'⟩
    rw [isReserved_iff, ← hfirst, ← isReserved_iff] at hreserved
    exact hopen ⟨hreserved, hwild⟩
  · have hroot : "#" ∈ segments filter ∧ (requested = "#" ∨ requested = "/#") := by
      by_contra hgrows
      exact hnot ⟨hstrays, fun hall => not_or.1 fun hor => hgrows ⟨hall, hor⟩⟩
    exact ⟨hroot.1, length_le_of_root hne hmatches' hroot.2⟩

/-- The segments of a topic that passes a filter, with something in the place of each `+`. -/
def fill (parts : List String) : List String :=
  parts.map fun part => if part = "+" then "a" else part

lemma matches_fill {known : List String} (h : "#" ∉ known) (rest : List String) :
    Matches (known ++ ["#"]) (fill known ++ rest) := by
  induction known with
  | nil => exact .all rest
  | cons part known ih =>
      obtain ⟨hpart, hknown⟩ := not_or.1 (List.mem_cons.not.1 h)
      have htail := ih hknown
      by_cases hplus : part = "+"
      · subst hplus
        exact .one "a" htail
      · have hfill : fill (part :: known) = part :: fill known := by simp [fill, hplus]
        rw [hfill]
        exact .literal hplus (Ne.symm hpart) htail

/-- Where a `+` meets the last `#`, something passes the second filter and not the first: the `+`
stands for one segment, and the `#` for two, or for none where a `#` follows the `+`. -/
lemma Strays.exists_beyond {fs ss : List String} (h : Strays fs ss) (hmatches : Matches fs ss) :
    ∃ known rest, ss = known ++ ["#"] ∧ "#" ∉ known ∧
      (rest = [] ∧ "#" ∈ fs ∨ rest = ["a", "a"]) ∧ ¬ Matches fs (fill known ++ rest) := by
  obtain ⟨known, rfl, hnone⟩ := h.exists_known
  by_cases hall : "#" ∈ fs
  · refine ⟨known, [], rfl, hnone, .inl ⟨rfl, hall⟩, fun hpasses => ?_⟩
    have hlt := h.length_lt hmatches hall
    have hle := hpasses.length_le
    simp only [fill, List.append_nil, List.length_map, List.length_append,
      List.length_singleton] at hlt hle
    omega
  · refine ⟨known, ["a", "a"], rfl, hnone, .inr rfl, fun hpasses => ?_⟩
    have hfirst := hmatches.length_eq hall
    have hsecond := hpasses.length_eq hall
    simp only [fill, List.length_append, List.length_map, List.length_cons,
      List.length_nil] at hfirst hsecond
    omega

/-- No wildcard is left, and none is filled in. -/
lemma wildcard_notMem_fill {known rest : List String} (hnone : "#" ∉ known)
    (hrest : rest = [] ∨ rest = ["a", "a"]) :
    "+" ∉ fill known ++ rest ∧ "#" ∉ fill known ++ rest := by
  have hleft : ∀ part ∈ fill known, part ≠ "+" ∧ part ≠ "#" := by
    intro part hpart
    obtain ⟨named, hmem, rfl⟩ := List.mem_map.1 hpart
    split
    · decide
    · rename_i hplus
      exact ⟨hplus, ne_of_mem_of_not_mem hmem hnone⟩
  have hfilled : ∀ part ∈ rest, part ≠ "+" ∧ part ≠ "#" := by
    rcases hrest with rfl | rfl <;> simp
  have hboth := List.forall_mem_append.2 ⟨hleft, hfilled⟩
  exact ⟨fun hplus => (hboth _ hplus).1 rfl, fun hall => (hboth _ hall).2 rfl⟩

/-- What is filled in begins no reserved topic. -/
lemma not_isReserved_of_fill {known rest : List String} (hnone : "#" ∉ known)
    (hrest : rest = [] ∨ rest = ["a", "a"]) (hrequested : segments requested = known ++ ["#"])
    (htopic : segments topic = fill known ++ rest) :
    ¬ (isReserved topic = true ∧ startsWithWildcard requested = true) := by
  rintro ⟨hreserved, hwild⟩
  rw [isReserved_iff, namespaceOf, htopic] at hreserved
  rw [startsWithWildcard_iff, namespaceOf, hrequested] at hwild
  rcases known with _ | ⟨first, known⟩
  · rcases hrest with rfl | rfl
    · simp [fill] at hreserved
    · simp [fill] at hreserved
  · rcases hwild with rfl | rfl
    · simp at hnone
    · simp [fill] at hreserved

/-- What is filled in names a topic, and not the empty one. -/
lemma fill_ne {known rest : List String} (hrequested : requested = ofSegments (known ++ ["#"]))
    (hrest : rest = [] ∧ (requested ≠ "#" ∧ requested ≠ "/#") ∨ rest = ["a", "a"]) :
    fill known ++ rest ≠ [] ∧ fill known ++ rest ≠ [""] := by
  rcases hrest with ⟨rfl, hbare, hrooted⟩ | rfl
  · rw [List.append_nil]
    constructor
    · intro hnil
      obtain rfl : known = [] := List.map_eq_nil_iff.1 hnil
      exact hbare hrequested
    · intro hempty
      obtain ⟨part, rfl, hpart⟩ := List.map_eq_singleton_iff.1 hempty
      have hplus : part ≠ "+" := by
        rintro rfl
        simp at hpart
      obtain rfl : part = "" := by simpa [hplus] using hpart
      exact hrooted hrequested
  · refine ⟨by simp, fun hempty => ?_⟩
    have hlength := congrArg List.length hempty
    simp at hlength

/-- No separator is filled in. -/
lemma slash_notMem_of_mem_fill {known rest : List String} {part : String}
    (hnamed : ∀ named ∈ known, '/' ∉ named.toList) (hrest : rest = [] ∨ rest = ["a", "a"])
    (hpart : part ∈ fill known ++ rest) : '/' ∉ part.toList := by
  rcases List.mem_append.1 hpart with hpart | hpart
  · obtain ⟨named, hmem, rfl⟩ := List.mem_map.1 hpart
    split
    · decide
    · exact hnamed named hmem
  · rcases hrest with rfl | rfl
    · cases hpart
    · obtain rfl : part = "a" := by simpa using hpart
      decide

/-- A subscription that outgrows a filter reaches a concrete topic that does not pass it. -/
lemma exists_beyond (h : matchesFilter filter requested = true)
    (hgrows : Outgrows requested filter) :
    ∃ topic, IsConcrete topic ∧ matchesFilter requested topic = true ∧
      ¬ matchesFilter filter topic = true := by
  obtain ⟨-, hrequested, -, hmatches⟩ := matchesFilter_iff.1 h
  obtain ⟨hstrays, hroot⟩ := hgrows
  obtain ⟨known, rest, hknown, hnone, hrest, hbeyond⟩ := hstrays.exists_beyond hmatches
  have hnamed : ∀ part ∈ known, '/' ∉ part.toList := fun part hpart =>
    slash_notMem_of_mem_segments (hknown ▸ List.mem_append_left ["#"] hpart)
  have hfilled : fill known ++ rest ≠ [] ∧ fill known ++ rest ≠ [""] :=
    fill_ne (by rw [← hknown, ofSegments_segments]) (hrest.imp_left (And.imp_right hroot))
  have hends := hrest.imp_left And.left
  -- the topic of the filled segments
  have hsegments := segments_ofSegments hfilled.1 fun _ => slash_notMem_of_mem_fill hnamed hends
  refine ⟨ofSegments (fill known ++ rest), ?_, matchesFilter_iff.2 ⟨hrequested, ?_, ?_, ?_⟩, ?_⟩
  · rw [IsConcrete, hsegments]
    exact wildcard_notMem_fill hnone hends
  · intro hempty
    rw [hempty] at hsegments
    exact hfilled.2 hsegments.symm
  · exact not_isReserved_of_fill hnone hends hknown hsegments
  · rw [hsegments, hknown]
    exact matches_fill hnone rest
  · intro hpasses
    rw [← hsegments] at hbeyond
    exact hbeyond (matchesFilter_iff.1 hpasses).2.2.2

/-- **Filters over filters.**  A filter that a subscription passes as if it were a topic lets every
topic through that the subscription asks for, exactly when the subscription does not outgrow it. -/
theorem covers_iff (h : matchesFilter filter requested = true) :
    Covers filter requested ↔ ¬ Outgrows requested filter := by
  refine ⟨fun hcovers hgrows => ?_, covers_of_not_outgrows h⟩
  obtain ⟨topic, hconcrete, hpasses, hbeyond⟩ := exists_beyond h hgrows
  exact hbeyond (hcovers topic hconcrete hpasses)

end Covering

end DeviceGate.Topic
