import DeviceGate.Http.Handler
import DeviceGate.Proofs.Json.Reading
import DeviceGate.Proofs.Telemetry.Checkpoints
import DeviceGate.Proofs.Text.Hex
import DeviceGate.Telemetry.Integrity

/-!
A payload that is signed, sent as text and decoded.  The decoder takes up every such text.  It gives
the payload back exactly when each floating-point number in it is read as it was written, and then
the signature is valid; one number that is read as another one changes the text that the signature
covers.

* `Signature.attach`: a payload with its signature.
* `Signature.agrees_iff`: a text agrees with a signature only if it is the same, but for the case of
  letters.
* `Signature.signedText_reread_iff`: when what the signature covers is read as it was written.
* `Signature.decodePayload_attach`: what the decoder makes of the text.
-/

namespace DeviceGate

namespace Json

/-! ### Members -/

/-- What is left when the members of one name are dropped. -/
lemma lookup_dropMember (key other : String) (members : List (String × Json)) :
    (dropMember key members).lookup other = if other = key then none else members.lookup other :=
  lookup_filter_ne key other members

lemma dropMember_sublist (key : String) (members : List (String × Json)) :
    (dropMember key members).Sublist members :=
  List.filter_sublist

lemma notMem_keys_dropMember (key : String) (members : List (String × Json)) :
    key ∉ (dropMember key members).map Prod.fst := by
  simp [dropMember]

lemma dropMember_cons_self (key : String) (value : Json) (members : List (String × Json)) :
    dropMember key ((key, value) :: dropMember key members) = dropMember key members := by
  simp [dropMember]

/-- Dropping a member repeats no key. -/
lemma DistinctKeys.dropMember {members : List (String × Json)}
    (h : (Json.object members).DistinctKeys) (key : String) :
    (Json.object (dropMember key members)).DistinctKeys := by
  cases h with | object hkeys hmembers
  have hsub := dropMember_sublist key members
  exact .object ((hsub.map Prod.fst).nodup hkeys) fun m hm => hmembers m (hsub.subset hm)

end Json

namespace Signature

open Json

/-! ### Digests as text -/

variable {secret : String}

/-- A signature has no upper-case letter. -/
lemma lowerAscii_sign (v : Json) : lowerAscii (sign secret v) = sign secret v := by
  rw [lowerAscii, sign, Digest.Hmac.hexDigest, String.toList_ofList, Text.Hex.map_toLower_encode]

/-- A text agrees with a signature exactly if it is the signature, in lower case. -/
lemma agrees_iff {v : Json} {provided : String} :
    agrees (sign secret v) provided = true ↔ lowerAscii provided = sign secret v := by
  have hlowered : (lowerAscii provided).toList.map Char.toLower = (lowerAscii provided).toList := by
    rw [lowerAscii, String.toList_ofList, List.map_map]
    exact List.map_congr_left fun c _ => Text.toLower_toLower c
  have hread : ∀ bytes, Text.Hex.decode? (lowerAscii provided).toList = some bytes ↔
      (lowerAscii provided).toList = Text.Hex.encode bytes := by
    intro bytes
    rw [Text.Hex.decode?_eq_some_iff, hlowered]
  rw [agrees, sign, Digest.Hmac.hexDigest, String.toList_ofList, Text.Hex.decode?_encode,
    ← String.toList_inj, String.toList_ofList, ← hread]
  rcases Text.Hex.decode? (lowerAscii provided).toList with _ | bytes
  · simp
  · rw [Option.some.injEq]
    exact beq_iff_eq.trans eq_comm

/-- Signatures agree only if they are the same text. -/
lemma agrees_sign_iff {v w : Json} :
    agrees (sign secret v) (sign secret w) = true ↔ sign secret v = sign secret w := by
  rw [agrees_iff, lowerAscii_sign]
  exact eq_comm

end Signature

/-- The signature check passes exactly the payloads that carry their own digest. -/
lemma Device.checkSignature_eq_valid_iff {d : Device} {ctx : LogContext} {payload : Json} :
    (d.checkSignature ctx payload).value = .valid ↔ d.HasSigned payload := by
  rw [checkSignature, HasSigned]
  rcases henrolled : nonempty? d.hmacSecret with _ | secret
  · rcases nonempty?_eq_none_iff.1 henrolled with hnone | hempty
    · simp [hnone]
    · simp [hempty]
  · obtain ⟨hsecret, hne⟩ := nonempty?_eq_some_iff.1 henrolled
    rcases hprovided : (payload.member? Signature.field).bind Json.text? with _ | provided
    · have hmissing : ∀ provided, payload.member? Signature.field ≠ some (.text provided) := by
        intro provided hmember
        rw [Admission.bind_text?_eq_some_iff.2 hmember] at hprovided
        cases hprovided
      simp [hmissing]
    · have hmember := Admission.bind_text?_eq_some_iff.1 hprovided
      rcases hagrees : Signature.agrees (Signature.sign secret payload) provided with _ | _
      · simp [hsecret, hmember, hagrees]
      · simp [hsecret, hne, hmember, hagrees]

namespace Signature

open Json

/-! ### Payloads with their signatures -/

/-- The payload with these members, its signature among them. -/
def attach (secret : String) (members : List (String × Json)) : Json :=
  .object ((field, .text (sign secret (.object members))) :: dropMember field members)

variable {secret : String} {members : List (String × Json)}

/-- The signature does not cover itself. -/
lemma signedText_attach :
    signedText (attach secret members) =
      (Json.object (dropMember field members)).canonicalText := by
  rw [signedText, attach, strip, dropMember_cons_self]

lemma sign_attach : sign secret (attach secret members) = sign secret (.object members) := by
  rw [sign, sign, signedText_attach]
  rfl

lemma distinctKeys_attach (secret : String) (h : (Json.object members).DistinctKeys) :
    (attach secret members).DistinctKeys := by
  cases h.dropMember field with | object hkeys hmembers
  refine .object (List.nodup_cons.2 ⟨notMem_keys_dropMember field members, hkeys⟩) fun m hm => ?_
  rcases List.mem_cons.1 hm with rfl | hm
  · exact .text _
  · exact hmembers m hm

lemma levels_attach_le : (attach secret members).levels ≤ (Json.object members).levels := by
  rw [attach, levels, levels, Nat.add_le_add_iff_right, levelsMembers_le_iff]
  intro m hm
  rcases List.mem_cons.1 hm with rfl | hm
  · exact Nat.zero_le _
  · exact levelsMembers_le_iff.1 le_rfl m ((dropMember_sublist field members).subset hm)

/-- The floating-point numbers of a payload are all covered by its signature. -/
lemma lossless_attach_iff :
    (attach secret members).Lossless ↔ (Json.object (dropMember field members)).Lossless := by
  rw [Lossless, Lossless, attach, reals, reals, realsMembers, reals, List.nil_append]

/-- The signature is read as it was attached. -/
lemma member?_reread_attach (h : (Json.object members).DistinctKeys) :
    (attach secret members).reread.member? field =
      some (.text (sign secret (attach secret members))) := by
  cases distinctKeys_attach secret h with | object hkeys
  rw [sign_attach, attach, reread, member?, lookup_reread hkeys, lookup_cons_ite, if_pos rfl,
    Option.map_some, reread]

lemma distinctKeys_strip {v : Json} (h : v.DistinctKeys) : (strip v).DistinctKeys := by
  cases v with
  | object members => exact h.dropMember field
  | _ => exact h

/-- What the signature would cover of what is read. -/
lemma signedText_reread_attach (h : (Json.object members).DistinctKeys) :
    signedText (attach secret members).reread =
      (Json.object (dropMember field members)).reread.canonicalText := by
  have hsigned := distinctKeys_attach secret h
  refine canonicalText_inj_iff.2 (encode_eq_of_same .signed (distinctKeys_strip hsigned.reread)
    (h.dropMember field).reread ?_)
  cases hsigned with | object hkeys
  cases h.dropMember field with | object hdropped
  rw [attach, reread, reread, strip]
  refine .object fun key => ?_
  rw [lookup_dropMember, lookup_reread hkeys, lookup_reread hdropped, lookup_cons_ite,
    lookup_dropMember]
  split
  · exact .none
  · rcases members.lookup key with _ | v
    · exact .none
    · exact .some (.refl _)

/-- What the signature covers is read as it was written exactly if the payload is. -/
lemma signedText_reread_iff (h : (Json.object members).DistinctKeys) :
    signedText (attach secret members).reread = signedText (attach secret members) ↔
      (attach secret members).Lossless := by
  rw [signedText_reread_attach h, signedText_attach, lossless_attach_iff,
    ← reread_same_iff (h.dropMember field), canonicalText_inj_iff]
  exact ⟨same_of_encode_eq .signed (h.dropMember field).reread (h.dropMember field),
    encode_eq_of_same .signed (h.dropMember field).reread (h.dropMember field)⟩

/-- What is read carries its own digest exactly if it has the digest of the payload. -/
lemma hasSigned_reread_attach_iff (h : (Json.object members).DistinctKeys) {d : Device}
    (hsecret : d.hmacSecret = some secret) (hne : secret ≠ "") :
    d.HasSigned (attach secret members).reread ↔
      sign secret (attach secret members).reread = sign secret (attach secret members) := by
  rw [Device.HasSigned, hsecret, member?_reread_attach h, ← agrees_sign_iff]
  simp [hne]

/-- A device has signed what carries a signature under its secret. -/
lemma hasSigned_attach {d : Device} (hsecret : d.hmacSecret = some secret) (hne : secret ≠ "")
    (members : List (String × Json)) : d.HasSigned (attach secret members) := by
  refine ⟨secret, sign secret (attach secret members), hsecret, hne, ?_, agrees_sign_iff.2 rfl⟩
  rw [sign_attach, attach, member?, lookup_cons_ite, if_pos rfl]

/-! ### The way of a payload -/

/-- **Signed, sent and decoded.**  The decoder takes up the text of every signed payload that does
not nest too deep.  It gives the payload back exactly when every floating-point number is read as
it was written; exactly then the text that the signature covers is unchanged, and so the signature
is valid.  Otherwise it is valid only if two different texts have one digest.  Numbers whose digits
fit a mantissa, and whose powers of ten are numbers, are read as they were written. -/
theorem decodePayload_attach (complaint : String → String) (secret : String)
    (hkeys : (Json.object members).DistinctKeys)
    (hlevels : (Json.object members).levels ≤ 127) (hne : secret ≠ "") :
    let q := attach secret members
    Http.decodePayload complaint (.text q.canonicalText) = .ok q.reread ∧
    (q.reread.Same q ↔ q.Lossless) ∧
    (signedText q.reread = signedText q ↔ q.Lossless) ∧
    (∀ (d : Device) (ctx : LogContext), d.hmacSecret = some secret →
      (q.Lossless → (d.checkSignature ctx q.reread).value = .valid) ∧
      ((d.checkSignature ctx q.reread).value = .valid ↔ sign secret q.reread = sign secret q)) ∧
    ((∀ x ∈ q.reals, DecimalText.significand (DecimalLayout.signed.body x) < 2 ^ 53 ∧
      (DecimalText.power (DecimalLayout.signed.body x)).natAbs ≤ 22) → q.Lossless) := by
  intro q
  have hsigned : q.DistinctKeys := distinctKeys_attach secret hkeys
  refine ⟨?_, reread_same_iff hsigned, signedText_reread_iff hkeys, fun d ctx hsecret => ?_, ?_⟩
  · rw [Http.decodePayload, read?_canonicalText hsigned (levels_attach_le.trans hlevels)]
  · rw [Device.checkSignature_eq_valid_iff, hasSigned_reread_attach_iff hkeys hsecret hne]
    refine ⟨fun h => ?_, .rfl⟩
    rw [sign, sign, (signedText_reread_iff hkeys).2 h]
  · intro hsmall x hx
    exact Finite64.reread_eq_of_small (hsmall x hx).1 (hsmall x hx).2

namespace Sample

/-- A payload of one measured value. -/
def measured (x : Finite64) : List (String × Json) :=
  [("value", .real x)]

/-- 21.5. -/
def brief : Finite64 :=
  ⟨false, 6051711999279104, -48, by decide, by decide, by decide, by decide⟩

/-- 94.09917134158107. -/
def long : Finite64 :=
  ⟨false, 6621640515465890, -46, by decide, by decide, by decide, by decide⟩

/-- A device with a secret. -/
def device : Device where
  id := 1
  uuid := "D1"
  cpuSerial := none
  hmacSecret := some "key"
  status := .online
  lastSeenAt := none

/-- What is said of a text that cannot be read. -/
def complaint (_ : String) : String := "expected value"

lemma distinctKeys_measured (x : Finite64) : (Json.object (measured x)).DistinctKeys :=
  .object (by simp [measured]) (by simp [measured, DistinctKeys.real])

lemma reals_measured (x : Finite64) : (attach "key" (measured x)).reals = [x] := by
  rfl

lemma canonicalText_measured (x : Finite64) : (Json.object (measured x)).canonicalText =
    String.ofList ("\x7b\"value\":".toList ++ DecimalLayout.signed.write x ++ ['\x7d']) := by
  have hkey : encodeText "value" = ['"', 'v', 'a', 'l', 'u', 'e', '"'] := by decide
  rw [canonicalText, canonical, encode_object, measured, sortByKey, List.mergeSort_singleton,
    List.map_cons, List.map_nil, joinComma, memberText, encode, hkey]
  simp

lemma reread_measured (x : Finite64) :
    (Json.object (measured x)).reread = .object (measured x.reread) := by
  rw [reread, rereadMembers_eq_map, measured, List.map_cons, List.map_nil, sortByKey,
    List.mergeSort_singleton]
  rfl

/-- What is read of the long number is another one, under another signature. -/
lemma sign_reread_long : sign "key" (attach "key" (measured long)).reread ≠
    sign "key" (attach "key" (measured long)) := by
  have hdrop : dropMember field (measured long) = measured long := by rfl
  have hwritten : DecimalLayout.signed.write long = "94.09917134158107".toList := by decide +kernel
  have hread : DecimalLayout.signed.write long.reread = "94.09917134158108".toList := by
    decide +kernel
  rw [sign, sign, signedText_reread_attach (distinctKeys_measured long), signedText_attach, hdrop,
    reread_measured, canonicalText_measured, canonicalText_measured, hwritten, hread]
  decide +kernel

end Sample

/-- A number of few digits comes through, and the signature with it; one of sixteen digits is read
as its neighbour, and the signature is refused. -/
theorem decodePayload_attach_samples :
    (∃ v, Http.decodePayload Sample.complaint
          (.text (attach "key" (Sample.measured Sample.brief)).canonicalText) = .ok v ∧
        v.Same (attach "key" (Sample.measured Sample.brief)) ∧
      (Sample.device.checkSignature { request := "t" } v).value = .valid) ∧
    (∃ v, Http.decodePayload Sample.complaint
          (.text (attach "key" (Sample.measured Sample.long)).canonicalText) = .ok v ∧
        ¬ v.Same (attach "key" (Sample.measured Sample.long)) ∧
      (Sample.device.checkSignature { request := "t" } v).value ≠ .valid) := by
  constructor
  · obtain ⟨hdecoded, hsame, -, hchecked, hsmall⟩ :=
      decodePayload_attach Sample.complaint "key" (Sample.distinctKeys_measured Sample.brief)
        (by decide)
        (by decide)
    have hlossless : (attach "key" (Sample.measured Sample.brief)).Lossless := by
      refine hsmall fun x hx => ?_
      rw [Sample.reals_measured] at hx
      rw [List.mem_singleton.1 hx]
      decide +kernel
    exact ⟨_, hdecoded, hsame.2 hlossless, (hchecked Sample.device _ rfl).1 hlossless⟩
  · obtain ⟨hdecoded, hsame, -, hchecked, -⟩ :=
      decodePayload_attach Sample.complaint "key" (Sample.distinctKeys_measured Sample.long)
        (by decide)
        (by decide)
    refine ⟨_, hdecoded, fun h => ?_, fun h => ?_⟩
    · have hread := hsame.1 h Sample.long (by rw [Sample.reals_measured]; exact List.mem_cons_self)
      exact absurd hread (by decide +kernel)
    · exact Sample.sign_reread_long ((hchecked Sample.device _ rfl).2.1 h)

end Signature

end DeviceGate
