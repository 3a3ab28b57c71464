import DeviceGate.Json.Canonical
import Mathlib.Data.List.Sort
import Mathlib.Data.String.Basic
import Mathlib.Tactic

/-!
When two JSON values are the same.  An object stands for a finite map, so the order of its members
does not count; everything else does, down to the sign of a zero.

* `Json.ind`: induction over a value, its items and its members.
* `Json.Same`: two values are the same.
* `Json.DistinctKeys`: no object inside the value repeats a key, so that each is a finite map.
* `Json.lookup_sortByKey`, `Json.sortByKey_eq_of_perm`: members sorted by key are the same map, and
  one map is sorted in one way.
-/

namespace DeviceGate.Json

/-- Induction over a value, with the items of an array and the members of an object. -/
@[elab_as_elim]
theorem ind {P : Json → Prop} (null : P .null) (bool : ∀ b, P (.bool b))
    (integer : ∀ n, P (.integer n)) (real : ∀ x, P (.real x)) (text : ∀ s, P (.text s))
    (array : ∀ items, (∀ v ∈ items, P v) → P (.array items))
    (object : ∀ members, (∀ m ∈ members, P m.2) → P (.object members)) : ∀ v, P v
  | .null => null
  | .bool b => bool b
  | .integer n => integer n
  | .real x => real x
  | .text s => text s
  | .array items => array items fun v hv =>
      have := List.sizeOf_lt_of_mem hv
      ind null bool integer real text array object v
  | .object members => object members fun m hm =>
      have := List.sizeOf_lt_of_mem hm
      ind null bool integer real text array object m.2
termination_by v => sizeOf v
decreasing_by
  · simp only [Json.array.sizeOf_spec]
    omega
  · obtain ⟨key, value⟩ := m
    simp only [Json.object.sizeOf_spec, Prod.mk.sizeOf_spec] at this ⊢
    omega

/-- Two values are the same: they have the same structure at every depth, the same keys, texts and
truth values, and the same numbers of the same kind. -/
inductive Same : Json → Json → Prop where
  | null : Same .null .null
  | bool (b : Bool) : Same (.bool b) (.bool b)
  | integer (n : Integer64) : Same (.integer n) (.integer n)
  | real (x : Finite64) : Same (.real x) (.real x)
  | text (s : String) : Same (.text s) (.text s)
  | array {vs ws : List Json} : List.Forall₂ Same vs ws → Same (.array vs) (.array ws)
  | object {ms ns : List (String × Json)} :
      (∀ key, Option.Rel Same (ms.lookup key) (ns.lookup key)) → Same (.object ms) (.object ns)

/-- No object inside the value repeats a key. -/
inductive DistinctKeys : Json → Prop where
  | null : DistinctKeys .null
  | bool (b : Bool) : DistinctKeys (.bool b)
  | integer (n : Integer64) : DistinctKeys (.integer n)
  | real (x : Finite64) : DistinctKeys (.real x)
  | text (s : String) : DistinctKeys (.text s)
  | array {vs : List Json} : (∀ v ∈ vs, DistinctKeys v) → DistinctKeys (.array vs)
  | object {ms : List (String × Json)} : (ms.map Prod.fst).Nodup → (∀ m ∈ ms, DistinctKeys m.2) →
      DistinctKeys (.object ms)

/-! ### Finite maps as lists -/

section Lookup

variable {α β : Type} {l l' : List (String × α)}

lemma lookup_cons_ite {κ : Type} [BEq κ] [LawfulBEq κ] [DecidableEq κ] (key other : κ) (value : α)
    (l : List (κ × α)) :
    ((key, value) :: l).lookup other = if other = key then some value else l.lookup other := by
  rw [List.lookup_cons]
  split <;> simp_all

lemma mem_of_lookup_eq_some {κ : Type} [BEq κ] [LawfulBEq κ] {l : List (κ × α)} {key : κ}
    {value : α} (h : l.lookup key = some value) : (key, value) ∈ l := by
  obtain ⟨before, after, rfl, -⟩ := List.lookup_eq_some_iff.1 h
  exact List.mem_append_right _ List.mem_cons_self

/-- What is left when the entries of one key are dropped. -/
lemma lookup_filter_ne (key other : String) (l : List (String × α)) :
    (l.filter fun e => e.1 ≠ key).lookup other = if other = key then none else l.lookup other := by
  induction l with
  | nil => simp
  | cons e rest ih =>
      obtain ⟨k, v⟩ := e
      by_cases hk : k = key
      · subst hk
        rw [List.filter_cons_of_neg (by simp), ih, lookup_cons_ite]
        grind
      · rw [List.filter_cons_of_pos (by simpa using hk), lookup_cons_ite, lookup_cons_ite, ih]
        grind

/-- What is looked up under distinct keys is what is listed. -/
lemma lookup_eq_some_iff_mem (h : (l.map Prod.fst).Nodup) {key : String} {value : α} :
    l.lookup key = some value ↔ (key, value) ∈ l := by
  induction l with
  | nil => simp
  | cons m rest ih =>
      obtain ⟨k, v⟩ := m
      obtain ⟨hfresh, hrest⟩ := List.nodup_cons.1 h
      by_cases hkey : key = k
      · subst hkey
        have hnot : (key, value) ∉ rest := fun hmem =>
          hfresh (List.mem_map.2 ⟨(key, value), hmem, rfl⟩)
        simp [hnot, eq_comm]
      · rw [List.lookup_cons, beq_false_of_ne hkey, List.mem_cons]
        simp [ih hrest, hkey]

/-- Lists of distinct keys that are permutations of each other are the same map. -/
lemma lookup_eq_of_perm (h : (l.map Prod.fst).Nodup) (hperm : l.Perm l') (key : String) :
    l.lookup key = l'.lookup key := by
  have h' : (l'.map Prod.fst).Nodup := (hperm.map Prod.fst).nodup_iff.1 h
  refine Option.ext fun value => ?_
  rw [lookup_eq_some_iff_mem h, lookup_eq_some_iff_mem h', hperm.mem_iff]

/-- Lists of distinct keys that are the same map are permutations of each other. -/
lemma perm_of_lookup_eq (h : (l.map Prod.fst).Nodup) (h' : (l'.map Prod.fst).Nodup)
    (hlookup : ∀ key, l.lookup key = l'.lookup key) : l.Perm l' := by
  rw [List.perm_ext_iff_of_nodup (h.of_map _) (h'.of_map _)]
  rintro ⟨key, value⟩
  rw [← lookup_eq_some_iff_mem h, ← lookup_eq_some_iff_mem h', hlookup]

lemma lookup_map (f : α → β) (key : String) :
    (l.map fun m => (m.1, f m.2)).lookup key = (l.lookup key).map f := by
  induction l with
  | nil => rfl
  | cons m rest ih =>
      rw [List.map_cons, List.lookup_cons, List.lookup_cons]
      cases key == m.1 with
      | true => rfl
      | false => exact ih

lemma nodup_keys_map (f : α → β) (h : (l.map Prod.fst).Nodup) :
    ((l.map fun m => (m.1, f m.2)).map Prod.fst).Nodup := by
  rw [List.map_map]
  exact h

/-- Maps that are listed in the same order of keys are related as their lists are. -/
lemma rel_lookup_of_forall₂ {R : α → β → Prop} {ms : List (String × α)} {ns : List (String × β)}
    (h : List.Forall₂ (fun m n => m.1 = n.1 ∧ R m.2 n.2) ms ns) (key : String) :
    Option.Rel R (ms.lookup key) (ns.lookup key) := by
  induction h with
  | nil => exact .none
  | @cons m n _ _ hhead _ ih =>
      rw [List.lookup_cons, List.lookup_cons, ← hhead.1]
      cases key == m.1 with
      | true => exact .some hhead.2
      | false => exact ih

end Lookup

/-! ### Every value is the same as itself -/

/-- A value is the same as itself. -/
lemma Same.refl (v : Json) : v.Same v := by
  induction v using ind with
  | null => exact .null
  | bool b => exact .bool b
  | integer n => exact .integer n
  | real x => exact .real x
  | text s => exact .text s
  | array items ih => exact .array (List.forall₂_same.2 ih)
  | object members ih =>
      refine .object fun key => ?_
      rcases hfound : members.lookup key with _ | v
      · exact .none
      · obtain ⟨before, behind, rfl, -⟩ := List.lookup_eq_some_iff.1 hfound
        exact .some (ih (key, v) (by simp))

/-- An object is the same however its members are listed. -/
lemma Same.of_perm {ms ns : List (String × Json)} (h : (ms.map Prod.fst).Nodup)
    (hperm : ms.Perm ns) : Same (.object ms) (.object ns) := by
  refine .object fun key => ?_
  rw [← lookup_eq_of_perm h hperm key]
  rcases ms.lookup key with _ | v
  · exact .none
  · exact .some (.refl v)

/-! ### Sorting by key -/

section SortByKey

variable {α β : Type}

/-- Members in the order of their keys. -/
def sortByKey (l : List (String × α)) : List (String × α) :=
  l.mergeSort fun a b => decide (a.1 ≤ b.1)

lemma perm_sortByKey (l : List (String × α)) : (sortByKey l).Perm l :=
  List.mergeSort_perm l _

lemma pairwise_sortByKey (l : List (String × α)) :
    (sortByKey l).Pairwise fun a b => a.1 ≤ b.1 := by
  have htrans : ∀ a b c : String × α, decide (a.1 ≤ b.1) = true → decide (b.1 ≤ c.1) = true →
      decide (a.1 ≤ c.1) = true := by
    intro a b c hab hbc
    rw [decide_eq_true_eq] at hab hbc ⊢
    exact le_trans hab hbc
  have htotal : ∀ a b : String × α, (decide (a.1 ≤ b.1) || decide (b.1 ≤ a.1)) = true := by
    intro a b
    simpa using le_total a.1 b.1
  have hsorted : (sortByKey l).Pairwise fun a b => decide (a.1 ≤ b.1) = true :=
    List.pairwise_mergeSort htrans htotal l
  simpa only [decide_eq_true_eq] using hsorted

/-- One map is sorted in one way. -/
lemma sortByKey_eq_of_perm {l l' : List (String × α)} (h : (l.map Prod.fst).Nodup)
    (hperm : l.Perm l') : sortByKey l = sortByKey l' := by
  have hperm' : (sortByKey l).Perm (sortByKey l') :=
    (perm_sortByKey l).trans (hperm.trans (perm_sortByKey l').symm)
  refine hperm'.eq_of_pairwise ?_ (pairwise_sortByKey l) (pairwise_sortByKey l')
  rintro ⟨key, value⟩ ⟨key', value'⟩ hmem hmem' hle hle'
  obtain rfl : key = key' := le_antisymm hle hle'
  have hvalue := (lookup_eq_some_iff_mem h).2 ((perm_sortByKey l).mem_iff.1 hmem)
  have hvalue' := (lookup_eq_some_iff_mem h).2
    (hperm.mem_iff.2 ((perm_sortByKey l').mem_iff.1 hmem'))
  rw [hvalue] at hvalue'
  rw [Option.some.inj hvalue']

/-- The order of keys does not depend on what they stand for. -/
lemma sortByKey_map (f : α → β) (l : List (String × α)) :
    sortByKey (l.map fun m => (m.1, f m.2)) = (sortByKey l).map fun m => (m.1, f m.2) := by
  unfold sortByKey
  rw [List.map_mergeSort]
  intro _ _ _ _
  rfl

lemma lookup_sortByKey {l : List (String × α)} (h : (l.map Prod.fst).Nodup) (key : String) :
    (sortByKey l).lookup key = l.lookup key :=
  (lookup_eq_of_perm h (perm_sortByKey l).symm key).symm

end SortByKey

end DeviceGate.Json
