import DeviceGate.Proofs.Json.Canonical
import DeviceGate.Proofs.Number.Reread

/-!
What is read from a canonical text.  The reader takes up the whole text of a value that does not
nest too deep, and nothing behind it; it makes the same value of it, except that every
floating-point number becomes the one that is read from its own text, and that the members of an
object come in the order of their keys.

* `Json.levels`: how deep arrays and objects nest; `Json.reals`: the floating-point numbers.
* `Json.reread`: the value that is read; `Json.Lossless`: its numbers are those that were written.
* `Json.readChars?_encodeText`: texts are read as they were written.
* `Json.readValue?_encode`: so is every value, up to its floating-point numbers.
* `Json.read?_canonicalText`: what is read from a whole text.
* `Json.reread_same_iff`: when it is the value that was written.
-/

namespace DeviceGate.Json

/-! ### Levels, numbers, and what is read -/

mutual

/-- How many arrays and objects stand around the innermost value, itself included. -/
def levels : Json → ℕ
  | array items => levelsItems items + 1
  | object members => levelsMembers members + 1
  | null | bool _ | integer _ | real _ | text _ => 0

/-- The levels of the items of an array. -/
def levelsItems : List Json → ℕ
  | [] => 0
  | item :: rest => max (levels item) (levelsItems rest)

/-- The levels of the members of an object. -/
def levelsMembers : List (String × Json) → ℕ
  | [] => 0
  | (_, value) :: rest => max (levels value) (levelsMembers rest)

end

mutual

/-- The floating-point numbers in a value. -/
def reals : Json → List Finite64
  | real x => [x]
  | array items => realsItems items
  | object members => realsMembers members
  | null | bool _ | integer _ | text _ => []

/-- The floating-point numbers in the items of an array. -/
def realsItems : List Json → List Finite64
  | [] => []
  | item :: rest => reals item ++ realsItems rest

/-- The floating-point numbers in the members of an object. -/
def realsMembers : List (String × Json) → List Finite64
  | [] => []
  | (_, value) :: rest => reals value ++ realsMembers rest

end

/-- Every floating-point number in the value is read as it was written. -/
def Lossless (v : Json) : Prop :=
  ∀ x ∈ v.reals, x.reread = x

mutual

/-- The value that is read from the text of a value. -/
def reread : Json → Json
  | real x => .real x.reread
  | array items => .array (rereadItems items)
  | object members => .object (sortByKey (rereadMembers members))
  | null => .null
  | bool b => .bool b
  | integer n => .integer n
  | text s => .text s

/-- The items that are read. -/
def rereadItems : List Json → List Json
  | [] => []
  | item :: rest => reread item :: rereadItems rest

/-- The members that are read, before they are sorted. -/
def rereadMembers : List (String × Json) → List (String × Json)
  | [] => []
  | (key, value) :: rest => (key, reread value) :: rereadMembers rest

end

lemma levelsItems_le_iff {items : List Json} {n : ℕ} :
    levelsItems items ≤ n ↔ ∀ v ∈ items, v.levels ≤ n := by
  induction items with
  | nil => simp [levelsItems]
  | cons item rest ih => simp [levelsItems, ih]

lemma levelsMembers_le_iff {members : List (String × Json)} {n : ℕ} :
    levelsMembers members ≤ n ↔ ∀ m ∈ members, m.2.levels ≤ n := by
  induction members with
  | nil => simp [levelsMembers]
  | cons member rest ih => simp [levelsMembers, ih]

lemma mem_realsItems {items : List Json} {x : Finite64} :
    x ∈ realsItems items ↔ ∃ v ∈ items, x ∈ v.reals := by
  induction items with
  | nil => simp [realsItems]
  | cons item rest ih => simp [realsItems, ih]

lemma mem_realsMembers {members : List (String × Json)} {x : Finite64} :
    x ∈ realsMembers members ↔ ∃ m ∈ members, x ∈ m.2.reals := by
  induction members with
  | nil => simp [realsMembers]
  | cons member rest ih => simp [realsMembers, ih]

lemma rereadItems_eq_map (items : List Json) : rereadItems items = items.map reread := by
  induction items with
  | nil => rfl
  | cons item rest ih => rw [rereadItems, ih, List.map_cons]

lemma rereadMembers_eq_map (members : List (String × Json)) :
    rereadMembers members = members.map fun m => (m.1, m.2.reread) := by
  induction members with
  | nil => rfl
  | cons member rest ih => rw [rereadMembers, ih, List.map_cons]

/-! ### Texts -/

/-- The digits of a control character are read as it. -/
lemma hexUnit?_escapeDigit (n : ℕ) (h : n < 32) :
    hexUnit? '0' '0' (escapeDigit (n / 16)) (escapeDigit n) = some n := by
  revert n
  decide

/-- An escaped character is read as it. -/
lemma readChars?_escapeChar (c : Char) (tail : List Char) :
    readChars? (escapeChar c ++ tail) = (readChars? tail).map fun p => (c :: p.1, p.2) := by
  unfold escapeChar
  split
  · simp [readChars?, shortEscape?]
  · simp [readChars?, shortEscape?]
  · simp [readChars?, shortEscape?]
  · simp [readChars?, shortEscape?]
  · simp [readChars?, shortEscape?]
  · simp [readChars?, shortEscape?]
  · simp [readChars?, shortEscape?]
  · rename_i hbackslash _ _ _ _ _
    split
    · rename_i hcontrol
      have hunit := hexUnit?_escapeDigit c.toNat hcontrol
      simp only [List.cons_append, List.nil_append, readChars?, hunit]
      rw [if_neg (by omega), if_neg (by omega), Char.ofNat_toNat]
    · rename_i hprintable
      have hbackslash' : c ≠ '\\' := fun h => hbackslash h
      simp [readChars?, hbackslash', hprintable]

/-- Escaped characters are read up to the quote behind them. -/
lemma readChars?_escaped (cs rest : List Char) :
    readChars? (cs.flatMap escapeChar ++ '"' :: rest) = some (cs, rest) := by
  induction cs with
  | nil => simp [readChars?]
  | cons c cs ih =>
      rw [List.flatMap_cons, List.append_assoc, readChars?_escapeChar, ih]
      rfl

/-- A text is read as it was written. -/
lemma readText?_encodeText (s : String) (rest : List Char) :
    readText? (encodeText s ++ rest) = some (s, rest) := by
  have hsplit : encodeText s ++ rest = '"' :: (s.toList.flatMap escapeChar ++ '"' :: rest) := by
    simp [encodeText]
  rw [hsplit, readText?, readChars?_escaped]
  simp

/-! ### The first character -/

/-- The first character of a value. -/
def Opens (c : Char) : Prop :=
  c ∈ ['n', 't', 'f', '"', '[', '\x7b', '-'] ∨ c.isDigit = true

/-- A value ends there. -/
def EndsValue (rest : List Char) : Prop :=
  ∀ c ∈ rest.head?, c ∈ [',', ']', '\x7d']

lemma EndsValue.cons {c : Char} (h : c ∈ [',', ']', '\x7d']) (rest : List Char) :
    EndsValue (c :: rest) := by
  intro d hd
  cases hd
  exact h

lemma EndsValue.endsNumber {rest : List Char} (h : EndsValue rest) : EndsNumber rest := by
  intro c hc
  have hall : ∀ c ∈ [',', ']', '\x7d'], isDigit c = false ∧ c ≠ '.' ∧ c ≠ 'e' ∧ c ≠ 'E' := by
    simp [isDigit]
  exact hall c (h c hc)

/-- No blank opens a value. -/
lemma skipBlanks_of_opens {c : Char} (h : Opens c) (cs : List Char) :
    skipBlanks (c :: cs) = c :: cs := by
  have hblank : ∀ b ∈ [' ', '\n', '\t', '\r'], c ≠ b := by
    rintro b hb rfl
    have hno : ∀ b ∈ [' ', '\n', '\t', '\r'], ¬ (b ∈ ['n', 't', 'f', '"', '[', '\x7b', '-'] ∨
        b.isDigit = true) := by simp
    exact hno c hb h
  rw [skipBlanks, List.dropWhile_cons_of_neg]
  simpa using ⟨⟨⟨hblank ' ' (by decide), hblank '\n' (by decide)⟩, hblank '\t' (by decide)⟩,
    hblank '\r' (by decide)⟩

lemma skipBlanks_comma (cs : List Char) : skipBlanks (',' :: cs) = ',' :: cs :=
  rfl

lemma skipBlanks_colon (cs : List Char) : skipBlanks (':' :: cs) = ':' :: cs :=
  rfl

lemma skipBlanks_close (cs : List Char) : skipBlanks ('\x7d' :: cs) = '\x7d' :: cs :=
  rfl

/-- The text of a member begins with its key. -/
lemma skipBlanks_memberText (m : String × Json) (tail : List Char) :
    skipBlanks (memberText .signed m ++ tail) =
      encodeText m.1 ++ (':' :: (encode .signed m.2 ++ tail)) := by
  have hsplit : memberText .signed m ++ tail =
      encodeText m.1 ++ (':' :: (encode .signed m.2 ++ tail)) := by
    simp [memberText]
  rw [hsplit, encodeText, List.cons_append, List.cons_append]
  exact skipBlanks_of_opens (.inl (by decide)) _

/-- A number begins with a sign or a digit. -/
lemma exists_head_encodeInt (n : ℤ) :
    ∃ c cs, encodeInt n = c :: cs ∧ (c = '-' ∨ c.isDigit = true) := by
  rw [encodeInt]
  split
  · exact ⟨'-', _, rfl, .inl rfl⟩
  · obtain ⟨hne, hall⟩ := DecimalText.isDigits_toDigits n.natAbs
    obtain ⟨c, cs, hcs⟩ := List.exists_cons_of_ne_nil hne
    exact ⟨c, cs, hcs, .inr (hall c (by rw [hcs]; exact List.mem_cons_self))⟩

lemma exists_head_write (x : Finite64) :
    ∃ c cs, DecimalLayout.signed.write x = c :: cs ∧ (c = '-' ∨ c.isDigit = true) := by
  rw [DecimalLayout.write_eq]
  cases x.negative with
  | true => exact ⟨'-', _, rfl, .inl rfl⟩
  | false =>
      obtain ⟨d, more, hbody, hdigit⟩ := DecimalLayout.signed.head_body x
      exact ⟨d, more, by simpa using hbody, .inr hdigit⟩

lemma opens_of_number {c : Char} (h : c = '-' ∨ c.isDigit = true) : Opens c :=
  h.imp_left fun hminus => by rw [hminus]; decide

/-- The first character of an encoded value opens one. -/
lemma exists_opens_encode (v : Json) : ∃ c cs, encode .signed v = c :: cs ∧ Opens c := by
  cases v with
  | null => exact ⟨'n', _, rfl, .inl (by decide)⟩
  | bool b =>
      cases b with
      | true => exact ⟨'t', _, rfl, .inl (by decide)⟩
      | false => exact ⟨'f', _, rfl, .inl (by decide)⟩
  | integer n =>
      obtain ⟨c, cs, hcs, hhead⟩ := exists_head_encodeInt n.val
      exact ⟨c, cs, hcs, opens_of_number hhead⟩
  | real x =>
      obtain ⟨c, cs, hcs, hhead⟩ := exists_head_write x
      exact ⟨c, cs, hcs, opens_of_number hhead⟩
  | text s => exact ⟨'"', _, rfl, .inl (by decide)⟩
  | array items => exact ⟨'[', _, by rw [encode]; rfl, .inl (by decide)⟩
  | object members => exact ⟨'\x7b', _, by rw [encode]; rfl, .inl (by decide)⟩

/-! ### Values -/

/-- The value is read from its text, whatever follows that ends it. -/
def Reads (v : Json) : Prop :=
  ∀ depth fuel rest, v.levels ≤ depth → 2 * (encode .signed v).length ≤ fuel → EndsValue rest →
    readValue? fuel depth (encode .signed v ++ rest) = some (v.reread, rest)

/-- A number begins like one. -/
lemma readValue?_number {c : Char} (h : c = '-' ∨ c.isDigit = true) (fuel depth : ℕ)
    (cs : List Char) : readValue? (fuel + 1) depth (c :: cs) = readNumber? (c :: cs) := by
  have hother : ∀ d ∈ ['n', 't', 'f', '"', '[', '\x7b'], c ≠ d := by
    rintro d hd rfl
    have hno : ∀ d ∈ ['n', 't', 'f', '"', '[', '\x7b'], ¬ (d = '-' ∨ d.isDigit = true) := by simp
    exact hno c hd h
  rw [readValue?, skipBlanks_of_opens (opens_of_number h)]
  simp only [List.mem_cons, List.not_mem_nil, or_false, forall_eq_or_imp, forall_eq] at hother
  simp [hother]

/-- There is fuel left for a value. -/
lemma exists_fuel {v : Json} {fuel : ℕ} (h : 2 * (encode .signed v).length ≤ fuel) :
    ∃ n, fuel = n + 1 := by
  obtain ⟨c, cs, hcs, -⟩ := exists_opens_encode v
  rw [hcs, List.length_cons] at h
  exact ⟨fuel - 1, by omega⟩

lemma reads_integer (n : Integer64) : Reads (.integer n) := by
  intro depth fuel rest hlevels hfuel hrest
  obtain ⟨fuel, rfl⟩ := exists_fuel hfuel
  obtain ⟨c, cs, hcs, hhead⟩ := exists_head_encodeInt n.val
  rw [encode, reread, ← readNumber?_encodeInt n hrest.endsNumber, hcs, List.cons_append,
    readValue?_number hhead]

lemma reads_real (x : Finite64) : Reads (.real x) := by
  intro depth fuel rest hlevels hfuel hrest
  obtain ⟨fuel, rfl⟩ := exists_fuel hfuel
  obtain ⟨c, cs, hcs, hhead⟩ := exists_head_write x
  rw [encode, reread, ← readNumber?_write_eq x hrest.endsNumber, hcs, List.cons_append,
    readValue?_number hhead]

lemma reads_text (s : String) : Reads (.text s) := by
  intro depth fuel rest hlevels hfuel hrest
  obtain ⟨fuel, rfl⟩ := exists_fuel hfuel
  have hread := readText?_encodeText s rest
  rw [encode]
  rw [encodeText, List.cons_append, List.cons_append] at hread ⊢
  rw [readValue?, skipBlanks_of_opens (.inl (by decide))]
  simp only [hread]
  rfl

/-- The items of an array are read one after the other. -/
lemma readItems?_joinComma {items : List Json} (hitems : ∀ v ∈ items, Reads v) (hne : items ≠ [])
    {depth : ℕ} (hlevels : ∀ v ∈ items, v.levels ≤ depth) (fuel : ℕ)
    (hfuel : 2 * (joinComma (items.map (encode .signed))).length + 1 ≤ fuel) (rest : List Char) :
    readItems? fuel depth (joinComma (items.map (encode .signed)) ++ ']' :: rest) =
      some (items.map reread, rest) := by
  induction items generalizing fuel with
  | nil => exact absurd rfl hne
  | cons v items ih =>
      obtain ⟨fuel, rfl⟩ : ∃ n, fuel = n + 1 := ⟨fuel - 1, by omega⟩
      have hv := hitems v List.mem_cons_self depth fuel
      have hvlevels := hlevels v List.mem_cons_self
      cases items with
      | nil =>
          rw [List.map_cons, List.map_nil, joinComma] at hfuel ⊢
          rw [readItems?, hv _ hvlevels (by omega) (EndsValue.cons (by decide) rest)]
          rfl
      | cons w items =>
          have hjoin : joinComma ((v :: w :: items).map (encode .signed)) =
              encode .signed v ++ ',' :: joinComma ((w :: items).map (encode .signed)) := rfl
          rw [hjoin, List.length_append, List.length_cons] at hfuel
          have hmore := ih (fun u hu => hitems u (List.mem_cons_of_mem _ hu)) (by simp)
            (fun u hu => hlevels u (List.mem_cons_of_mem _ hu)) fuel (by omega)
          rw [hjoin, List.append_assoc, List.cons_append, readItems?,
            hv _ hvlevels (by omega) (EndsValue.cons (by decide) _)]
          simp only [skipBlanks_comma]
          rw [hmore]
          rfl

/-- A key behind all others goes to the end. -/
lemma putMember_append {key : String} {value : Json} {before : List (String × Json)}
    (h : ∀ m ∈ before, m.1 < key) : putMember key value before = before ++ [(key, value)] := by
  induction before with
  | nil => rfl
  | cons m before ih =>
      have hlt := h m List.mem_cons_self
      rw [putMember, if_neg (String.lt_asymm hlt), if_neg (String.ne_of_lt hlt).symm,
        ih fun n hn => h n (List.mem_cons_of_mem _ hn)]
      rfl

/-- The members of an object are read one after the other, and each goes behind those before it. -/
lemma readMembers?_joinComma {members : List (String × Json)} (hmembers : ∀ m ∈ members, Reads m.2)
    (hne : members ≠ []) {depth : ℕ} (hlevels : ∀ m ∈ members, m.2.levels ≤ depth)
    (hsorted : members.Pairwise fun m n => m.1 < n.1) {before : List (String × Json)}
    (hbefore : ∀ b ∈ before, ∀ m ∈ members, b.1 < m.1) (fuel : ℕ)
    (hfuel : 2 * (joinComma (members.map (memberText .signed))).length + 1 ≤ fuel)
    (rest : List Char) :
    readMembers? fuel depth before
        (joinComma (members.map (memberText .signed)) ++ '\x7d' :: rest) =
      some (before ++ members.map (fun m => (m.1, m.2.reread)), rest) := by
  induction members generalizing fuel before with
  | nil => exact absurd rfl hne
  | cons m members ih =>
      obtain ⟨fuel, rfl⟩ : ∃ n, fuel = n + 1 := ⟨fuel - 1, by omega⟩
      obtain ⟨hhead, htail⟩ := List.pairwise_cons.1 hsorted
      have hm := hmembers m List.mem_cons_self depth fuel
      have hmlevels := hlevels m List.mem_cons_self
      have hput : putMember m.1 m.2.reread before = before ++ [(m.1, m.2.reread)] :=
        putMember_append fun b hb => hbefore b hb m List.mem_cons_self
      have hlength : 2 * (encode .signed m.2).length ≤ 2 * (memberText .signed m).length := by
        simp only [memberText, List.length_append, List.length_cons]
        omega
      cases members with
      | nil =>
          rw [List.map_cons, List.map_nil, joinComma] at hfuel ⊢
          rw [readMembers?, skipBlanks_memberText, readText?_encodeText]
          simp only [skipBlanks_colon]
          rw [hm _ hmlevels (by omega) (EndsValue.cons (by decide) rest)]
          simp only [skipBlanks_close, hput, List.map_cons, List.map_nil]
      | cons n members =>
          have hjoin : joinComma ((m :: n :: members).map (memberText .signed)) =
              memberText .signed m ++ ',' :: joinComma ((n :: members).map (memberText .signed)) :=
            rfl
          rw [hjoin, List.length_append, List.length_cons] at hfuel
          have hnext : ∀ b ∈ before ++ [(m.1, m.2.reread)], ∀ k ∈ n :: members, b.1 < k.1 := by
            intro b hb k hk
            rcases List.mem_append.1 hb with hb | hb
            · exact hbefore b hb k (List.mem_cons_of_mem _ hk)
            · rw [List.mem_singleton.1 hb]
              exact hhead k hk
          have hmore := ih (fun u hu => hmembers u (List.mem_cons_of_mem _ hu)) (by simp)
            (fun u hu => hlevels u (List.mem_cons_of_mem _ hu)) htail hnext fuel (by omega)
          rw [hjoin, List.append_assoc, List.cons_append, readMembers?,
            skipBlanks_memberText, readText?_encodeText]
          simp only [skipBlanks_colon]
          rw [hm _ hmlevels (by omega) (EndsValue.cons (by decide) _)]
          simp only [skipBlanks_comma, hput]
          rw [hmore, List.append_assoc]
          rfl

/-- An array that is not empty is read item by item. -/
lemma readValue?_array {c : Char} (hc : Opens c) (fuel depth : ℕ) (cs : List Char) :
    readValue? (fuel + 1) (depth + 1) ('[' :: c :: cs) =
      (readItems? fuel depth (c :: cs)).map fun p => (.array p.1, p.2) := by
  have hother : c ≠ ']' := by
    rintro rfl
    have hno : ¬ (']' ∈ ['n', 't', 'f', '"', '[', '\x7b', '-'] ∨ ']'.isDigit = true) := by decide
    exact hno hc
  rw [readValue?, skipBlanks_of_opens (.inl (by decide))]
  simp [skipBlanks_of_opens hc, hother]

/-- An object that is not empty is read member by member. -/
lemma readValue?_object (fuel depth : ℕ) (cs : List Char) :
    readValue? (fuel + 1) (depth + 1) ('\x7b' :: '"' :: cs) =
      (readMembers? fuel depth [] ('"' :: cs)).map fun p => (.object p.1, p.2) := by
  rw [readValue?, skipBlanks_of_opens (.inl (by decide))]
  simp [skipBlanks_of_opens (c := '"') (.inl (by decide))]

lemma reads_array {items : List Json} (hitems : ∀ v ∈ items, Reads v) : Reads (.array items) := by
  intro depth fuel rest hlevels hfuel hrest
  obtain ⟨fuel, rfl⟩ := exists_fuel hfuel
  rw [levels] at hlevels
  obtain ⟨depth, rfl⟩ : ∃ d, depth = d + 1 := ⟨depth - 1, by omega⟩
  rw [reread, rereadItems_eq_map]
  cases items with
  | nil => rfl
  | cons v items =>
      obtain ⟨parts, hparts⟩ : ∃ parts, parts = joinComma ((v :: items).map (encode .signed)) :=
        ⟨_, rfl⟩
      have hencode : encode .signed (.array (v :: items)) ++ rest =
          '[' :: (parts ++ ']' :: rest) := by
        simp [encode_array, hparts]
      have hlength : (encode .signed (.array (v :: items))).length = parts.length + 2 := by
        simp [encode_array, hparts]
      obtain ⟨c, cs, hcs, hopens⟩ := exists_opens_encode v
      have hhead : ∃ more, parts ++ ']' :: rest = c :: more := by
        rw [hparts, List.map_cons, joinComma_cons, hcs]
        exact ⟨_, rfl⟩
      obtain ⟨more, hmore⟩ := hhead
      rw [hencode, hmore, readValue?_array hopens, ← hmore, hparts,
        readItems?_joinComma hitems (by simp)
          (levelsItems_le_iff.1 (by omega)) fuel (by rw [← hparts]; omega) rest]
      rfl

lemma pairwise_lt_sortByKey {members : List (String × Json)} (h : (members.map Prod.fst).Nodup) :
    (sortByKey members).Pairwise fun m n => m.1 < n.1 := by
  have hnodup : ((sortByKey members).map Prod.fst).Nodup :=
    (((perm_sortByKey members).map Prod.fst).nodup_iff).2 h
  rw [List.nodup_iff_pairwise_ne, List.pairwise_map] at hnodup
  exact ((pairwise_sortByKey members).and hnodup).imp fun ⟨hle, hne⟩ => lt_of_le_of_ne hle hne

lemma reads_object {members : List (String × Json)} (hkeys : (members.map Prod.fst).Nodup)
    (hmembers : ∀ m ∈ members, Reads m.2) : Reads (.object members) := by
  intro depth fuel rest hlevels hfuel hrest
  obtain ⟨fuel, rfl⟩ := exists_fuel hfuel
  rw [levels] at hlevels
  obtain ⟨depth, rfl⟩ : ∃ d, depth = d + 1 := ⟨depth - 1, by omega⟩
  have hreread : (Json.object members).reread =
      .object ((sortByKey members).map fun m => (m.1, m.2.reread)) := by
    rw [reread, rereadMembers_eq_map, sortByKey_map]
  have hmem : ∀ m ∈ sortByKey members, m ∈ members := fun m => (perm_sortByKey members).mem_iff.1
  have hsorted := pairwise_lt_sortByKey hkeys
  rw [hreread]
  obtain ⟨parts, hparts⟩ :
      ∃ parts, parts = joinComma ((sortByKey members).map (memberText .signed)) := ⟨_, rfl⟩
  have hencode : encode .signed (.object members) ++ rest =
      '\x7b' :: (parts ++ '\x7d' :: rest) := by
    simp [encode_object, hparts]
  have hlength : (encode .signed (.object members)).length = parts.length + 2 := by
    simp [encode_object, hparts]
  cases hfirst : sortByKey members with
  | nil =>
      rw [hencode, hparts, hfirst]
      rfl
  | cons m others =>
      rw [hfirst] at hparts hsorted hmem
      have hhead : ∃ more, parts ++ '\x7d' :: rest = '"' :: more := by
        rw [hparts, List.map_cons, joinComma_cons, memberText, encodeText]
        exact ⟨_, rfl⟩
      obtain ⟨more, hmore⟩ := hhead
      rw [hencode, hmore, readValue?_object, ← hmore, hparts,
        readMembers?_joinComma (fun n hn => hmembers n (hmem n hn)) (by simp)
          (fun n hn => levelsMembers_le_iff.1 (by omega) n (hmem n hn)) hsorted (by simp) fuel
          (by rw [← hparts]; omega) rest]
      rfl

/-- **Written and read.**  A value is read from its text, and nothing of what follows. -/
theorem readValue?_encode {v : Json} (hkeys : v.DistinctKeys) : Reads v := by
  induction v using ind with
  | null =>
      intro depth fuel rest hlevels hfuel hrest
      obtain ⟨fuel, rfl⟩ := exists_fuel hfuel
      rfl
  | bool b =>
      intro depth fuel rest hlevels hfuel hrest
      obtain ⟨fuel, rfl⟩ := exists_fuel hfuel
      cases b with
      | true => rfl
      | false => rfl
  | integer n => exact reads_integer n
  | real x => exact reads_real x
  | text s => exact reads_text s
  | array items ih =>
      cases hkeys with | array hitems
      exact reads_array fun v hv => ih v hv (hitems v hv)
  | object members ih =>
      cases hkeys with | object hnodup hmembers
      exact reads_object hnodup fun m hm => ih m hm (hmembers m hm)

/-- What is read from the whole text of a value that does not nest too deep. -/
theorem read?_canonicalText {v : Json} (hkeys : v.DistinctKeys) (hlevels : v.levels ≤ maxDepth) :
    read? v.canonicalText = some v.reread := by
  have hread := readValue?_encode hkeys maxDepth (2 * (encode .signed v).length + 2) [] hlevels
    (by omega) (by simp [EndsValue])
  rw [List.append_nil] at hread
  rw [read?, canonicalText, canonical, String.toList_ofList, readChars, hread]
  rfl

/-! ### When nothing is lost -/

lemma reread_array_same_iff {items : List Json} :
    (Json.array items).reread.Same (.array items) ↔ ∀ v ∈ items, v.reread.Same v := by
  rw [reread, rereadItems_eq_map]
  constructor
  · intro h
    cases h with | array hitems
    rw [List.forall₂_map_left_iff, List.forall₂_same] at hitems
    exact hitems
  · intro h
    refine .array ?_
    rw [List.forall₂_map_left_iff, List.forall₂_same]
    exact h

lemma lookup_reread {members : List (String × Json)} (h : (members.map Prod.fst).Nodup)
    (key : String) :
    (sortByKey (rereadMembers members)).lookup key = (members.lookup key).map reread := by
  rw [rereadMembers_eq_map, lookup_sortByKey (nodup_keys_map reread h), lookup_map]

lemma reread_object_same_iff {members : List (String × Json)} (h : (members.map Prod.fst).Nodup) :
    (Json.object members).reread.Same (.object members) ↔ ∀ m ∈ members, m.2.reread.Same m.2 := by
  rw [reread]
  constructor
  · intro hsame m hm
    cases hsame with | object hlookup
    have hfound := (lookup_eq_some_iff_mem h).2 hm
    have hrel := hlookup m.1
    rw [lookup_reread h, hfound] at hrel
    cases hrel with | some hvalue
    exact hvalue
  · intro hmembers
    refine .object fun key => ?_
    rw [lookup_reread h]
    rcases hfound : members.lookup key with _ | v
    · exact .none
    · exact .some (hmembers (key, v) ((lookup_eq_some_iff_mem h).1 hfound))

/-- The value that is read repeats no key either. -/
lemma DistinctKeys.reread {v : Json} (h : v.DistinctKeys) : v.reread.DistinctKeys := by
  induction v using ind with
  | null => exact .null
  | bool b => exact .bool b
  | integer n => exact .integer n
  | real x => exact .real _
  | text s => exact .text s
  | array items ih =>
      cases h with | array hitems
      rw [Json.reread, rereadItems_eq_map]
      refine .array fun v hv => ?_
      obtain ⟨item, hitem, rfl⟩ := List.mem_map.1 hv
      exact ih item hitem (hitems item hitem)
  | object members ih =>
      cases h with | object hkeys hmembers
      rw [Json.reread, rereadMembers_eq_map]
      have hperm := perm_sortByKey (members.map fun m => (m.1, m.2.reread))
      refine .object ((hperm.map Prod.fst).nodup_iff.2 (nodup_keys_map Json.reread hkeys)) ?_
      intro n hn
      obtain ⟨m, hm, rfl⟩ := List.mem_map.1 (hperm.mem_iff.1 hn)
      exact ih m hm (hmembers m hm)

/-- **What is lost.**  The value that is read is the one that was written exactly when every
floating-point number in it is read as it was written. -/
theorem reread_same_iff {v : Json} (hkeys : v.DistinctKeys) : v.reread.Same v ↔ v.Lossless := by
  induction v using ind with
  | null => simp [reread, Lossless, reals, Same.refl]
  | bool b => simp [reread, Lossless, reals, Same.refl]
  | integer n => simp [reread, Lossless, reals, Same.refl]
  | text s => simp [reread, Lossless, reals, Same.refl]
  | real x =>
      rw [reread, Lossless, reals]
      constructor
      · intro h y hy
        cases List.mem_singleton.1 hy
        generalize hread : x.reread = y at h
        cases h
        rfl
      · intro h
        rw [h x List.mem_cons_self]
        exact .refl _
  | array items ih =>
      cases hkeys with | array hitems
      rw [reread_array_same_iff, Lossless, reals]
      simp only [mem_realsItems, forall_exists_index, and_imp]
      exact ⟨fun h x v hv => (ih v hv (hitems v hv)).1 (h v hv) x,
        fun h v hv => (ih v hv (hitems v hv)).2 fun x hx => h x v hv hx⟩
  | object members ih =>
      cases hkeys with | object hnodup hmembers
      rw [reread_object_same_iff hnodup, Lossless, reals]
      simp only [mem_realsMembers, forall_exists_index, and_imp]
      exact ⟨fun h x m hm => (ih m hm (hmembers m hm)).1 (h m hm) x,
        fun h m hm => (ih m hm (hmembers m hm)).2 fun x hx => h x m hm hx⟩

end DeviceGate.Json
