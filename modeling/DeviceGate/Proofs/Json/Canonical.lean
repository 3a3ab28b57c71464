import DeviceGate.Proofs.Json.Same
import DeviceGate.Proofs.Number.Layout

/-!
The canonical encoding is a canonical form.  The text of a value is a code that nothing needs to
delimit, except for numbers, which end where a character stands that is in no number; so a text is
read in one way only, and the order in which an object lists its members leaves no trace in it.

* `Json.escapeChar_append_inj`, `Json.encodeText_append_inj`: texts are prefix-free.
* `Json.number_append_inj`: numbers end by themselves.
* `Json.joinComma_append_inj`: so do lists of parts that are read in one way.
* `Json.toldApart_of_distinctKeys`: an encoding determines its value and what follows it.
* `Json.encode_eq_of_same`: values that are the same are encoded alike.
* `Json.canonicalText_eq_iff`: the canonical encodings agree exactly when the values are the same.
-/

namespace DeviceGate.Json

/-! ### Texts -/

/-- The value of a hexadecimal digit. -/
def hexValue (c : Char) : ℕ :=
  if c.isDigit then c.toNat - 48 else c.toNat - 87

/-- The first character of an escaped text, and the rest behind it. -/
def unescape : List Char → Option (Char × List Char)
  | '\\' :: 'u' :: _ :: _ :: high :: low :: rest =>
      some (Char.ofNat (16 * hexValue high + hexValue low), rest)
  | '\\' :: 'n' :: rest => some ('\n', rest)
  | '\\' :: 'r' :: rest => some ('\r', rest)
  | '\\' :: 't' :: rest => some ('\t', rest)
  | '\\' :: 'b' :: rest => some ('\x08', rest)
  | '\\' :: 'f' :: rest => some ('\x0c', rest)
  | '\\' :: c :: rest => some (c, rest)
  | c :: rest => some (c, rest)
  | [] => none

/-- The digits of a control character spell it. -/
lemma hexValue_escapeDigit (n : ℕ) (h : n < 32) :
    16 * hexValue (escapeDigit (n / 16)) + hexValue (escapeDigit n) = n := by
  revert n
  decide

lemma unescape_cons {c : Char} {rest : List Char} (h : c ≠ '\\') :
    unescape (c :: rest) = some (c, rest) := by
  unfold unescape
  split <;> simp_all

/-- An escaped character is read back, whatever follows it. -/
lemma unescape_escapeChar (c : Char) (rest : List Char) :
    unescape (escapeChar c ++ rest) = some (c, rest) := by
  unfold escapeChar
  split
  · rfl
  · rfl
  · rfl
  · rfl
  · rfl
  · rfl
  · rfl
  · rename_i hbackslash _ _ _ _ _
    split
    · rename_i hcontrol
      simp only [List.cons_append, List.nil_append, unescape, hexValue_escapeDigit _ hcontrol,
        Char.ofNat_toNat]
    · exact unescape_cons fun h => hbackslash h

/-- An escaped character is never a bare quote. -/
lemma escapeChar_append_ne (c : Char) (rest rest' : List Char) :
    escapeChar c ++ rest ≠ '"' :: rest' := by
  unfold escapeChar
  split
  · simp
  · simp
  · simp
  · simp
  · simp
  · simp
  · simp
  · rename_i hquote _ _ _ _ _ _
    split
    · simp
    · intro h
      exact hquote (List.head_eq_of_cons_eq h)

/-- Escaped characters are read in one way. -/
lemma escapeChar_append_inj {c d : Char} {r r' : List Char}
    (h : escapeChar c ++ r = escapeChar d ++ r') : c = d ∧ r = r' := by
  have hread := unescape_escapeChar c r
  rw [h, unescape_escapeChar] at hread
  cases hread
  exact ⟨rfl, rfl⟩

/-- Escaped texts end at the first bare quote. -/
lemma escaped_append_inj {cs ds r r' : List Char}
    (h : cs.flatMap escapeChar ++ '"' :: r = ds.flatMap escapeChar ++ '"' :: r') :
    cs = ds ∧ r = r' := by
  induction cs generalizing ds with
  | nil =>
      cases ds with
      | nil => exact ⟨rfl, (List.cons.inj h).2⟩
      | cons d ds =>
          rw [List.flatMap_cons, List.append_assoc] at h
          exact absurd h.symm (escapeChar_append_ne d _ r)
  | cons c cs ih =>
      cases ds with
      | nil =>
          rw [List.flatMap_cons, List.append_assoc] at h
          exact absurd h (escapeChar_append_ne c _ r')
      | cons d ds =>
          rw [List.flatMap_cons, List.flatMap_cons, List.append_assoc, List.append_assoc] at h
          obtain ⟨rfl, hrest⟩ := escapeChar_append_inj h
          obtain ⟨rfl, hr⟩ := ih hrest
          exact ⟨rfl, hr⟩

/-- A text is read in one way. -/
lemma encodeText_append_inj {s t : String} {r r' : List Char}
    (h : encodeText s ++ r = encodeText t ++ r') : s = t ∧ r = r' := by
  simp only [encodeText, List.cons_append, List.append_assoc, List.nil_append, List.cons.injEq,
    true_and] at h
  obtain ⟨hchars, hr⟩ := escaped_append_inj h
  exact ⟨String.toList_inj.1 hchars, hr⟩

/-! ### Numbers -/

open DecimalLayout (isNumberChar)

/-- No number goes on there. -/
def IsClosed (rest : List Char) : Prop :=
  ∀ c ∈ rest.head?, isNumberChar c = false

/-- Numbers end where no number goes on. -/
lemma number_append_inj {ds es r r' : List Char} (hds : ∀ c ∈ ds, isNumberChar c = true)
    (hes : ∀ c ∈ es, isNumberChar c = true) (hr : IsClosed r) (hr' : IsClosed r')
    (h : ds ++ r = es ++ r') : ds = es ∧ r = r' := by
  have hread : ∀ {ds r : List Char}, (∀ c ∈ ds, isNumberChar c = true) → IsClosed r →
      (ds ++ r).takeWhile isNumberChar = ds := by
    intro ds r hds hr
    rw [List.takeWhile_append_of_pos hds]
    cases r with
    | nil => simp
    | cons c r => simp [hr c rfl]
  have hsame : ds = es := by rw [← hread hds hr, h, hread hes hr']
  subst hsame
  exact ⟨rfl, List.append_cancel_left h⟩

lemma mem_encodeInt {n : ℤ} {c : Char} (h : c ∈ encodeInt n) : c.isDigit = true ∨ c = '-' := by
  have hdigits : ∀ c ∈ Nat.toDigits 10 n.natAbs, c.isDigit = true :=
    (DecimalText.isDigits_toDigits _).2
  rw [encodeInt] at h
  split at h
  · rcases List.mem_cons.1 h with rfl | h
    · exact .inr rfl
    · exact .inl (hdigits c h)
  · exact .inl (hdigits c h)

/-- The text of an integer determines it. -/
lemma encodeInt_injective : Function.Injective encodeInt := by
  have hvalue : ∀ n, DecimalText.exponentOf (encodeInt n) = n := by
    intro n
    rw [encodeInt]
    split
    · simp only [DecimalText.exponentOf, Nat.ofDigitChars_ten_toDigits]
      omega
    · rw [DecimalText.exponentOf_digits (DecimalText.isDigits_toDigits _),
        Nat.ofDigitChars_ten_toDigits]
      omega
  exact Function.LeftInverse.injective hvalue

/-- An integer is never written like a floating-point number. -/
lemma encodeInt_ne_write (n : ℤ) (layout : DecimalLayout) (x : Finite64) :
    encodeInt n ≠ layout.write x := by
  intro h
  rcases layout.exists_mark_mem_write x with hmark | hmark
  · rw [← h] at hmark
    rcases mem_encodeInt hmark with hdigit | heq
    · exact absurd hdigit (by decide)
    · exact absurd heq (by decide)
  · rw [← h] at hmark
    rcases mem_encodeInt hmark with hdigit | heq
    · exact absurd hdigit (by decide)
    · exact absurd heq (by decide)

/-! ### Lists of parts -/

lemma joinComma_cons (part : List Char) (rest : List (List Char)) :
    joinComma (part :: rest) = part ++ rest.flatMap fun p => ',' :: p := by
  induction rest generalizing part with
  | nil => simp [joinComma]
  | cons p rest ih =>
      have hsplit : joinComma (part :: p :: rest) = part ++ ',' :: joinComma (p :: rest) := rfl
      rw [hsplit, ih]
      simp

section Parts

variable {α : Type} {R : α → α → Prop} {f : α → List Char} {close : Char}

/-- Behind a part of a list, no number goes on. -/
lemma isClosed_parts (hclose : isNumberChar close = false) (as : List α) (r : List Char) :
    IsClosed ((as.map f).flatMap (fun p => ',' :: p) ++ close :: r) := by
  cases as with
  | nil =>
      intro c hc
      cases hc
      exact hclose
  | cons a as =>
      intro c hc
      cases hc
      decide

/-- The parts behind the first one are read in one way, if each of them is. -/
lemma parts_append_inj (hclose : isNumberChar close = false) (hcomma : close ≠ ',') {as bs : List α}
    (hpart : ∀ a ∈ as, ∀ b ∈ bs, ∀ r r', IsClosed r → IsClosed r' → f a ++ r = f b ++ r' →
      R a b ∧ r = r')
    {r r' : List Char}
    (h : (as.map f).flatMap (fun p => ',' :: p) ++ close :: r =
      (bs.map f).flatMap (fun p => ',' :: p) ++ close :: r') :
    List.Forall₂ R as bs ∧ r = r' := by
  induction as generalizing bs with
  | nil =>
      cases bs with
      | nil => exact ⟨.nil, (List.cons.inj h).2⟩
      | cons b bs => exact absurd (List.cons.inj h).1 hcomma
  | cons a as ih =>
      cases bs with
      | nil => exact absurd (List.cons.inj h).1.symm hcomma
      | cons b bs =>
          simp only [List.map_cons, List.flatMap_cons, List.cons_append, List.append_assoc,
            List.cons.injEq, true_and] at h
          obtain ⟨hhead, htail⟩ := hpart a List.mem_cons_self b List.mem_cons_self _ _
            (isClosed_parts hclose as r) (isClosed_parts hclose bs r') h
          obtain ⟨hrest, hr⟩ := ih (fun a ha b hb =>
            hpart a (List.mem_cons_of_mem _ ha) b (List.mem_cons_of_mem _ hb)) htail
          exact ⟨.cons hhead hrest, hr⟩

/-- A list of parts is read in one way, if each part is and none looks like the end of the list. -/
lemma joinComma_append_inj (hclose : isNumberChar close = false) (hcomma : close ≠ ',')
    {as bs : List α}
    (hpart : ∀ a ∈ as, ∀ b ∈ bs, ∀ r r', IsClosed r → IsClosed r' → f a ++ r = f b ++ r' →
      R a b ∧ r = r')
    (hopen : ∀ a r r', f a ++ r ≠ close :: r') {r r' : List Char}
    (h : joinComma (as.map f) ++ close :: r = joinComma (bs.map f) ++ close :: r') :
    List.Forall₂ R as bs ∧ r = r' := by
  cases as with
  | nil =>
      cases bs with
      | nil => exact ⟨.nil, (List.cons.inj h).2⟩
      | cons b bs =>
          rw [List.map_cons, joinComma_cons, List.append_assoc] at h
          exact absurd h.symm (hopen b _ r)
  | cons a as =>
      cases bs with
      | nil =>
          rw [List.map_cons, joinComma_cons, List.append_assoc] at h
          exact absurd h (hopen a _ r')
      | cons b bs =>
          simp only [List.map_cons, joinComma_cons, List.append_assoc] at h
          obtain ⟨hhead, htail⟩ := hpart a List.mem_cons_self b List.mem_cons_self _ _
            (isClosed_parts hclose as r) (isClosed_parts hclose bs r') h
          obtain ⟨hrest, hr⟩ := parts_append_inj hclose hcomma (fun a ha b hb =>
            hpart a (List.mem_cons_of_mem _ ha) b (List.mem_cons_of_mem _ hb)) htail
          exact ⟨.cons hhead hrest, hr⟩

end Parts

/-! ### The first character -/

/-- The kind of value that a first character announces; the end of an array announces none. -/
def announced : Char → ℕ
  | 'n' => 0
  | 't' => 1
  | 'f' => 2
  | '"' => 3
  | '[' => 4
  | '\x7b' => 5
  | ']' => 7
  | _ => 6

/-- The kind of a value, as far as its first character tells it. -/
def kind : Json → ℕ
  | .null => 0
  | .bool true => 1
  | .bool false => 2
  | .text _ => 3
  | .array _ => 4
  | .object _ => 5
  | .integer _ | .real _ => 6

lemma announced_of_digit {c : Char} (h : c.isDigit = true) : announced c = 6 := by
  unfold announced
  split
  · exact absurd h (by decide)
  · exact absurd h (by decide)
  · exact absurd h (by decide)
  · exact absurd h (by decide)
  · exact absurd h (by decide)
  · exact absurd h (by decide)
  · exact absurd h (by decide)
  · rfl

/-- A text of digits announces a number. -/
lemma announced_digits {ds : List Char} (h : DecimalText.IsDigits ds) :
    ∃ c rest, ds = c :: rest ∧ announced c = 6 := by
  cases ds with
  | nil => exact absurd rfl h.1
  | cons d ds => exact ⟨d, ds, rfl, announced_of_digit (h.2 d List.mem_cons_self)⟩

/-- The first character of an encoding announces its kind. -/
lemma encode_eq_cons (layout : DecimalLayout) (v : Json) :
    ∃ c rest, encode layout v = c :: rest ∧ announced c = v.kind := by
  cases v with
  | null => exact ⟨'n', _, rfl, rfl⟩
  | bool b =>
      cases b with
      | true => exact ⟨'t', _, rfl, rfl⟩
      | false => exact ⟨'f', _, rfl, rfl⟩
  | integer n =>
      rw [encode, encodeInt]
      split
      · exact ⟨'-', _, rfl, rfl⟩
      · exact announced_digits (DecimalText.isDigits_toDigits _)
  | real x =>
      rw [encode]
      rw [DecimalLayout.write_eq]
      cases x.negative with
      | true => exact ⟨'-', _, rfl, rfl⟩
      | false =>
          obtain ⟨d, rest, hbody, hdigit⟩ := layout.head_body x
          exact ⟨d, rest, by simpa using hbody, announced_of_digit hdigit⟩
  | text s => exact ⟨'"', _, rfl, rfl⟩
  | array items => exact ⟨'[', _, by rw [encode]; rfl, rfl⟩
  | object members => exact ⟨'\x7b', _, by rw [encode]; rfl, rfl⟩

/-- Encodings that begin alike are of one kind. -/
lemma kind_eq_of_append_eq {layout : DecimalLayout} {v w : Json} {r r' : List Char}
    (h : encode layout v ++ r = encode layout w ++ r') : v.kind = w.kind := by
  obtain ⟨c, rest, hv, hc⟩ := encode_eq_cons layout v
  obtain ⟨d, rest', hw, hd⟩ := encode_eq_cons layout w
  rw [hv, hw] at h
  rw [← hc, ← hd, (List.cons.inj h).1]

/-- No encoding begins with the end of an array. -/
lemma encode_append_ne (layout : DecimalLayout) (v : Json) (r r' : List Char) :
    encode layout v ++ r ≠ ']' :: r' := by
  intro h
  obtain ⟨c, rest, hv, hc⟩ := encode_eq_cons layout v
  rw [hv] at h
  rw [(List.cons.inj h).1] at hc
  have hkind : v.kind ≤ 6 := by
    unfold kind
    split <;> decide
  have : announced ']' = 7 := rfl
  omega

/-! ### Values -/

lemma encode_array (layout : DecimalLayout) (items : List Json) :
    encode layout (.array items) = '[' :: joinComma (items.map (encode layout)) ++ [']'] := by
  rw [encode, encodeItems_eq_map]

/-- The members of an object with their values encoded, in the order of their keys. -/
lemma sortMembers_encodeMembers (layout : DecimalLayout) (members : List (String × Json)) :
    sortMembers (encodeMembers layout members) =
      sortByKey (members.map fun m => (m.1, encode layout m.2)) := by
  rw [encodeMembers_eq_map]
  rfl

/-- A member of an object, encoded. -/
def memberText (layout : DecimalLayout) (m : String × Json) : List Char :=
  encodeText m.1 ++ ':' :: encode layout m.2

lemma encode_object (layout : DecimalLayout) (members : List (String × Json)) :
    encode layout (.object members) =
      '\x7b' :: joinComma ((sortByKey members).map (memberText layout)) ++ ['\x7d'] := by
  rw [encode, sortMembers_encodeMembers, sortByKey_map, List.map_map]
  rfl

lemma memberText_append_ne (layout : DecimalLayout) (m : String × Json) (r r' : List Char) :
    memberText layout m ++ r ≠ '\x7d' :: r' := by
  simp [memberText, encodeText]

/-- The encoding of a number is made of the characters of numbers. -/
lemma isNumberChar_of_mem_encode {layout : DecimalLayout} {v : Json} (hv : v.kind = 6) {c : Char}
    (h : c ∈ encode layout v) : isNumberChar c = true := by
  cases v with
  | integer n =>
      rw [encode] at h
      rcases mem_encodeInt h with hdigit | rfl
      · simp [isNumberChar, hdigit]
      · rfl
  | real x =>
      rw [encode] at h
      exact DecimalLayout.isNumberChar_of_mem_write h
  | bool b => cases b <;> simp [kind] at hv
  | _ => simp [kind] at hv

/-- The encoding of a number determines it, and whether it is an integer. -/
lemma same_of_number_encode_eq {layout : DecimalLayout} {v w : Json} (hv : v.kind = 6)
    (hw : w.kind = 6) (h : encode layout v = encode layout w) : v.Same w := by
  cases v with
  | integer n =>
      cases w with
      | integer m =>
          rw [encode, encode] at h
          have hval := encodeInt_injective h
          obtain rfl : n = m := by
            cases n
            cases m
            simp_all
          exact .integer n
      | real y =>
          rw [encode, encode] at h
          exact absurd h (encodeInt_ne_write n.val layout y)
      | bool b => cases b <;> simp [kind] at hw
      | _ => simp [kind] at hw
  | real x =>
      cases w with
      | integer m =>
          rw [encode, encode] at h
          exact absurd h.symm (encodeInt_ne_write m.val layout x)
      | real y =>
          rw [encode, encode] at h
          obtain rfl := layout.write_injective h
          exact .real x
      | bool b => cases b <;> simp [kind] at hw
      | _ => simp [kind] at hw
  | bool b => cases b <;> simp [kind] at hv
  | _ => simp [kind] at hv

/-- Two values are told apart by their encodings, whatever follows them. -/
def ToldApart (layout : DecimalLayout) (v w : Json) : Prop :=
  ∀ r r', IsClosed r → IsClosed r' → encode layout v ++ r = encode layout w ++ r' →
    v.Same w ∧ r = r'

/-- A number is told apart from every other value. -/
lemma toldApart_of_number {layout : DecimalLayout} {v w : Json} (hv : v.kind = 6) :
    ToldApart layout v w := by
  intro r r' hr hr' h
  have hw : w.kind = 6 := (kind_eq_of_append_eq h).symm.trans hv
  obtain ⟨htext, hrest⟩ := number_append_inj (fun _ => isNumberChar_of_mem_encode hv)
    (fun _ => isNumberChar_of_mem_encode hw) hr hr' h
  exact ⟨same_of_number_encode_eq hv hw htext, hrest⟩

/-- Arrays are told apart if their items are. -/
lemma toldApart_array {layout : DecimalLayout} {items items' : List Json}
    (h : ∀ v ∈ items, ∀ w ∈ items', ToldApart layout v w) :
    ToldApart layout (.array items) (.array items') := by
  intro r r' hr hr' heq
  rw [encode_array, encode_array] at heq
  simp only [List.cons_append, List.append_assoc, List.nil_append, List.cons.injEq,
    true_and] at heq
  obtain ⟨hsame, hrest⟩ := joinComma_append_inj (by decide) (by decide) h
    (encode_append_ne layout) heq
  exact ⟨.array hsame, hrest⟩

/-- Members are told apart if their values are. -/
lemma memberText_append_inj {layout : DecimalLayout} {m n : String × Json}
    (h : ToldApart layout m.2 n.2) {r r' : List Char} (hr : IsClosed r) (hr' : IsClosed r')
    (heq : memberText layout m ++ r = memberText layout n ++ r') :
    (m.1 = n.1 ∧ m.2.Same n.2) ∧ r = r' := by
  simp only [memberText, List.append_assoc, List.cons_append] at heq
  obtain ⟨hkey, hvalue⟩ := encodeText_append_inj heq
  obtain ⟨hsame, hrest⟩ := h r r' hr hr' (List.cons.inj hvalue).2
  exact ⟨⟨hkey, hsame⟩, hrest⟩

/-- Objects are told apart if the values of their members are. -/
lemma toldApart_object {layout : DecimalLayout} {members members' : List (String × Json)}
    (hkeys : (members.map Prod.fst).Nodup) (hkeys' : (members'.map Prod.fst).Nodup)
    (h : ∀ m ∈ members, ∀ n ∈ members', ToldApart layout m.2 n.2) :
    ToldApart layout (.object members) (.object members') := by
  intro r r' hr hr' heq
  rw [encode_object, encode_object] at heq
  simp only [List.cons_append, List.append_assoc, List.nil_append, List.cons.injEq,
    true_and] at heq
  have hmember : ∀ m ∈ sortByKey members, ∀ n ∈ sortByKey members', ∀ r r', IsClosed r →
      IsClosed r' → memberText layout m ++ r = memberText layout n ++ r' →
      (m.1 = n.1 ∧ m.2.Same n.2) ∧ r = r' := by
    intro m hm n hn r r'
    have hm := (perm_sortByKey members).mem_iff.1 hm
    have hn := (perm_sortByKey members').mem_iff.1 hn
    exact memberText_append_inj (h m hm n hn)
  obtain ⟨hsame, hrest⟩ := joinComma_append_inj (by decide) (by decide) hmember
    (memberText_append_ne layout) heq
  refine ⟨.object fun key => ?_, hrest⟩
  rw [← lookup_sortByKey hkeys, ← lookup_sortByKey hkeys']
  exact rel_lookup_of_forall₂ hsame key

/-- **Unique reading.**  An encoding, followed by something that does not go on a number, determines
its value and what follows. -/
theorem toldApart_of_distinctKeys (layout : DecimalLayout) {v w : Json} (hv : v.DistinctKeys)
    (hw : w.DistinctKeys) : ToldApart layout v w := by
  induction v using ind generalizing w with
  | integer n => exact toldApart_of_number rfl
  | real x => exact toldApart_of_number rfl
  | null =>
      intro r r' hr hr' h
      have hkind := kind_eq_of_append_eq h
      cases w with
      | null => exact ⟨.null, List.append_cancel_left h⟩
      | bool b => cases b <;> simp [kind] at hkind
      | _ => simp [kind] at hkind
  | bool b =>
      intro r r' hr hr' h
      have hkind := kind_eq_of_append_eq h
      cases w with
      | bool b' =>
          obtain rfl : b = b' := by cases b <;> cases b' <;> simp [kind] at hkind ⊢
          exact ⟨.bool b, List.append_cancel_left h⟩
      | _ => cases b <;> simp [kind] at hkind
  | text s =>
      intro r r' hr hr' h
      have hkind := kind_eq_of_append_eq h
      cases w with
      | text t =>
          rw [encode, encode] at h
          obtain ⟨rfl, hrest⟩ := encodeText_append_inj h
          exact ⟨.text s, hrest⟩
      | bool b => cases b <;> simp [kind] at hkind
      | _ => simp [kind] at hkind
  | array items ih =>
      intro r r' hr hr' h
      have hkind := kind_eq_of_append_eq h
      cases w with
      | array items' =>
          cases hv with | array hitems
          cases hw with | array hitems'
          exact toldApart_array (fun v hv w hw => ih v hv (hitems v hv) (hitems' w hw))
            r r' hr hr' h
      | bool b => cases b <;> simp [kind] at hkind
      | _ => simp [kind] at hkind
  | object members ih =>
      intro r r' hr hr' h
      have hkind := kind_eq_of_append_eq h
      cases w with
      | object members' =>
          cases hv with | object hkeys hmembers
          cases hw with | object hkeys' hmembers'
          exact toldApart_object hkeys hkeys'
            (fun m hm n hn => ih m hm (hmembers m hm) (hmembers' n hn)) r r' hr hr' h
      | bool b => cases b <;> simp [kind] at hkind
      | _ => simp [kind] at hkind

/-- **One encoding for one value.**  Values that are the same are encoded alike, in whatever order
their objects list their members. -/
theorem encode_eq_of_same (layout : DecimalLayout) {v w : Json} (hv : v.DistinctKeys)
    (hw : w.DistinctKeys) (h : v.Same w) : encode layout v = encode layout w := by
  induction v using ind generalizing w with
  | array items ih =>
      cases h with | @array _ items' hsame
      cases hv with | array hitems
      cases hw with | array hitems'
      rw [encode_array, encode_array]
      obtain ⟨hlength, hzip⟩ := List.forall₂_iff_zip.1 hsame
      have hencode : List.Forall₂ (fun v w => encode layout v = encode layout w) items items' := by
        refine List.forall₂_iff_zip.2 ⟨hlength, fun {v w} hmem => ?_⟩
        obtain ⟨hv, hw⟩ := List.of_mem_zip hmem
        exact ih v hv (hitems v hv) (hitems' w hw) (hzip hmem)
      have hmap : items.map (encode layout) = items'.map (encode layout) := by
        rw [← List.forall₂_eq_eq_eq, List.forall₂_map_left_iff, List.forall₂_map_right_iff]
        exact hencode
      rw [hmap]
  | object members ih =>
      cases h with | @object _ members' hsame
      cases hv with | object hkeys hmembers
      cases hw with | object hkeys' hmembers'
      have hlookup : ∀ key, (members.map fun m => (m.1, encode layout m.2)).lookup key =
          (members'.map fun m => (m.1, encode layout m.2)).lookup key := by
        intro key
        rw [lookup_map, lookup_map]
        have hrel := hsame key
        rcases hleft : members.lookup key with _ | v <;>
          rcases hright : members'.lookup key with _ | w
        · rfl
        · rw [hleft, hright] at hrel
          cases hrel
        · rw [hleft, hright] at hrel
          cases hrel
        · rw [hleft, hright] at hrel
          cases hrel with | some hvw
          have hv := (lookup_eq_some_iff_mem hkeys).1 hleft
          have hw := (lookup_eq_some_iff_mem hkeys').1 hright
          exact congrArg some (ih _ hv (hmembers _ hv) (hmembers' _ hw) hvw)
      have hnodup := nodup_keys_map (encode layout) hkeys
      have hperm := perm_of_lookup_eq hnodup (nodup_keys_map (encode layout) hkeys') hlookup
      rw [encode, encode, sortMembers_encodeMembers, sortMembers_encodeMembers,
        sortByKey_eq_of_perm hnodup hperm]
  | _ =>
      cases h
      rfl

/-- Values that are encoded alike are the same. -/
lemma same_of_encode_eq (layout : DecimalLayout) {v w : Json} (hv : v.DistinctKeys)
    (hw : w.DistinctKeys) (h : encode layout v = encode layout w) : v.Same w := by
  have hend : IsClosed [] := by simp [IsClosed]
  exact (toldApart_of_distinctKeys layout hv hw [] [] hend hend (congrArg (· ++ []) h)).1

lemma canonicalText_inj_iff {v w : Json} :
    v.canonicalText = w.canonicalText ↔ encode .signed v = encode .signed w :=
  String.ofList_inj

/-- **A canonical form.**  Two values whose objects are finite maps have the same canonical text
exactly when they are the same; an integer never has that of a floating-point number, nor has one
zero that of the other. -/
theorem canonicalText_eq_iff (v w : Json) (hv : v.DistinctKeys) (hw : w.DistinctKeys) :
    (v.canonicalText = w.canonicalText ↔ v.Same w) ∧
    (∀ n x, (Json.integer n).canonicalText ≠ (Json.real x).canonicalText) ∧
    (Json.real (.zero false)).canonicalText ≠ (Json.real (.zero true)).canonicalText := by
  refine ⟨?_, fun n x => ?_, ?_⟩
  · rw [canonicalText_inj_iff]
    constructor
    · intro h
      have hend : IsClosed [] := by simp [IsClosed]
      exact (toldApart_of_distinctKeys .signed hv hw [] [] hend hend (congrArg (· ++ []) h)).1
    · exact encode_eq_of_same .signed hv hw
  · rw [ne_eq, canonicalText_inj_iff, encode, encode]
    exact encodeInt_ne_write n.val .signed x
  · rw [ne_eq, canonicalText_inj_iff, encode, encode]
    intro h
    have := DecimalLayout.signed.write_injective h
    exact absurd this (by decide)

/-- Two listings of one object have one text. -/
theorem canonicalText_swapped :
    (Json.object [("a", .null), ("b", .real (.zero true))]).canonicalText =
      (Json.object [("b", .real (.zero true)), ("a", .null)]).canonicalText := by
  have hleft : (Json.object [("a", .null), ("b", .real (.zero true))]).DistinctKeys :=
    .object (by decide) (by simp [DistinctKeys.null, DistinctKeys.real])
  have hright : (Json.object [("b", .real (.zero true)), ("a", .null)]).DistinctKeys :=
    .object (by decide) (by simp [DistinctKeys.null, DistinctKeys.real])
  exact (canonicalText_eq_iff _ _ hleft hright).1.2 (.of_perm (by decide) (.swap _ _ _))

end DeviceGate.Json
