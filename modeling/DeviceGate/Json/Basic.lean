import DeviceGate.Number.Binary64

/-!
JSON values.  A number is either an integer that fits 64 bits, signed or unsigned, or a finite
floating-point number; the two kinds are never equal.  An object is a list of members, and a list
that a reader builds is sorted by key without repetitions.

* `Json`: the values; `Integer64`: the integers.
* `Json.member?`, `Json.text?`, `Json.items?`: what a value holds.
* `Json.putMember`, `Json.dropMember`: change one member of an object.
* `Json.putMember_sorted`: adding a member keeps the keys in strictly increasing order.
-/

namespace DeviceGate

/-- An integer in the union of the signed and the unsigned 64-bit ranges. -/
structure Integer64 where
  val : Int
  ge : -9223372036854775808 ≤ val
  lt : val < 18446744073709551616
  deriving DecidableEq

/-- A JSON value. -/
inductive Json where
  | null
  | bool (b : Bool)
  | integer (n : Integer64)
  | real (x : Finite64)
  | text (s : String)
  | array (items : List Json)
  | object (members : List (String × Json))

namespace Integer64

/-- The integer, if it is in range. -/
def ofInt? (n : Int) : Option Integer64 :=
  if h : -9223372036854775808 ≤ n ∧ n < 18446744073709551616 then some ⟨n, h.1, h.2⟩ else none

end Integer64

namespace Json

/-- An integer, which must be in range; one that is not becomes null. -/
def ofInt (n : Int) : Json :=
  match Integer64.ofInt? n with
  | some k => .integer k
  | none => .null

/-- A natural number, which must be in range. -/
def ofNat (n : Nat) : Json :=
  ofInt n

/-- A finite floating-point number; the others become null. -/
def ofFloat : Binary64 → Json
  | .finite x => .real x
  | _ => .null

/-- A text, or null. -/
def ofText? : Option String → Json
  | some s => .text s
  | none => .null

/-- The member of that name, when the value is an object that has one. -/
def member? (v : Json) (key : String) : Option Json :=
  match v with
  | object members => members.lookup key
  | _ => none

/-- The text, when the value is one. -/
def text? : Json → Option String
  | text s => some s
  | _ => none

/-- The items, when the value is an array. -/
def items? : Json → Option (List Json)
  | array items => some items
  | _ => none

/-- The integer, when the value is one. -/
def int? : Json → Option Int
  | integer n => some n.val
  | _ => none

/-- The integer, when the value is one that is not negative. -/
def nat? : Json → Option Nat
  | integer n => if 0 ≤ n.val then some n.val.toNat else none
  | _ => none

/-- The truth value, when the value is one. -/
def bool? : Json → Option Bool
  | bool b => some b
  | _ => none

/-- Whether the value is an object. -/
def isObject : Json → Bool
  | object _ => true
  | _ => false

/-- Puts a member in its place by key order; an earlier value of the key is lost. -/
def putMember (key : String) (value : Json) : List (String × Json) → List (String × Json)
  | [] => [(key, value)]
  | (k, v) :: rest =>
    if key < k then (key, value) :: (k, v) :: rest
    else if key = k then (key, value) :: rest
    else (k, v) :: putMember key value rest

/-- The members without those of that name. -/
def dropMember (key : String) (members : List (String × Json)) : List (String × Json) :=
  members.filter fun m => m.1 ≠ key

/-- Keys in strictly increasing order, hence without repetition. -/
def KeysSorted (members : List (String × Json)) : Prop :=
  members.Pairwise fun a b => a.1 < b.1

theorem mem_putMember {key k : String} {value v : Json} {members : List (String × Json)}
    (h : (k, v) ∈ putMember key value members) : (k, v) = (key, value) ∨ (k, v) ∈ members := by
  induction members with
  | nil => simpa [putMember] using h
  | cons m rest ih =>
    obtain ⟨k', v'⟩ := m
    simp only [putMember] at h
    split at h
    · simpa using h
    · split at h
      · rcases List.mem_cons.1 h with h | h
        · exact Or.inl h
        · exact Or.inr (List.mem_cons_of_mem _ h)
      · rcases List.mem_cons.1 h with h | h
        · exact Or.inr (h ▸ List.mem_cons_self)
        · rcases ih h with h | h
          · exact Or.inl h
          · exact Or.inr (List.mem_cons_of_mem _ h)

theorem putMember_sorted {key : String} {value : Json} {members : List (String × Json)}
    (h : KeysSorted members) : KeysSorted (putMember key value members) := by
  induction members with
  | nil => simp [putMember, KeysSorted]
  | cons m rest ih =>
    obtain ⟨k, v⟩ := m
    have hrest : KeysSorted rest := (List.pairwise_cons.1 h).2
    have hhead : ∀ b ∈ rest, k < b.1 := (List.pairwise_cons.1 h).1
    simp only [putMember]
    split
    · rename_i hlt
      refine List.pairwise_cons.2 ⟨?_, h⟩
      intro b hb
      rcases List.mem_cons.1 hb with rfl | hb
      · exact hlt
      · exact String.lt_trans hlt (hhead b hb)
    · split
      · rename_i _ heq
        subst heq
        exact List.pairwise_cons.2 ⟨hhead, hrest⟩
      · rename_i hnlt hne
        refine List.pairwise_cons.2 ⟨?_, ih hrest⟩
        intro b hb
        obtain ⟨bk, bv⟩ := b
        rcases mem_putMember hb with heq | hb
        · cases heq
          refine Decidable.byContradiction fun hn => hne ?_
          exact String.le_antisymm (String.not_lt.1 hn) (String.not_lt.1 hnlt)
        · exact hhead _ hb

end Json

end DeviceGate
