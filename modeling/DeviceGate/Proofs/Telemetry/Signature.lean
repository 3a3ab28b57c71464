import DeviceGate.Proofs.Telemetry.Transmission

/-!
A device's own digest.  The signature of an object stands among its members, and it covers all of
the others: what is left of the object without it, encoded canonically, determines every other
member, whatever names stand further down.  A signature is valid only if it is the keyed digest of
that encoding, in hexadecimal of either case; no other text will do, be it longer, shorter or no
hexadecimal at all.

* `Signature.bearing`: an object with a text as its signature.
* `Signature.signedText_eq_iff`: objects that are signed alike have the same other members.
* `Device.hasSigned_iff`: who has signed a payload, as an equation between texts.
* `Device.value_checkSignature_bearing`: the answer to each text that is put in as a signature.
* `Device.valid_iff_own_digest`: all of this together.
-/

namespace DeviceGate

namespace Json

/-! ### Setting a member -/

/-- A member that is put in its place is what is found under its key, and it changes no other. -/
lemma lookup_putMember (key other : String) (value : Json) (members : List (String × Json)) :
    (putMember key value members).lookup other =
      if other = key then some value else members.lookup other := by
  induction members with
  | nil => rw [putMember, lookup_cons_ite]
  | cons m rest ih =>
      obtain ⟨k, v⟩ := m
      by_cases hbefore : key < k
      · rw [putMember, if_pos hbefore, lookup_cons_ite]
      · by_cases hsame : key = k
        · subst hsame
          rw [putMember, if_neg hbefore, if_pos rfl, lookup_cons_ite, lookup_cons_ite]
          split_ifs
          · rfl
          · rfl
        · rw [putMember, if_neg hbefore, if_neg hsame, lookup_cons_ite, lookup_cons_ite, ih]
          by_cases hother : other = k
          · subst hother
            rw [if_pos rfl, if_neg (Ne.symm hsame), if_pos rfl]
          · rw [if_neg hother, if_neg hother]

/-- What is left without a member does not depend on what it was set to. -/
lemma dropMember_putMember (key : String) (value : Json) (members : List (String × Json)) :
    dropMember key (putMember key value members) = dropMember key members := by
  induction members with
  | nil => simp [putMember, dropMember]
  | cons m rest ih =>
      obtain ⟨k, v⟩ := m
      rw [dropMember, dropMember] at ih
      rw [putMember]
      split_ifs with hbefore hsame
      · simp [dropMember]
      · simp [dropMember, hsame]
      · simp only [dropMember, List.filter_cons, ih]

lemma same_object_iff {ms ns : List (String × Json)} :
    (Json.object ms).Same (.object ns) ↔
      ∀ key, Option.Rel Same (ms.lookup key) (ns.lookup key) := by
  constructor
  · rintro ⟨⟩
    assumption
  · exact .object

lemma same_text_iff {s t : String} : (Json.text s).Same (.text t) ↔ s = t := by
  constructor
  · rintro ⟨⟩
    rfl
  · rintro rfl
    exact .text s

end Json

namespace Signature

open Json

variable {secret s : String} {ms ns members : List (String × Json)}

/-! ### What a signature covers -/

/-- The object with a text as its signature, in the place of an earlier one. -/
def bearing (s : String) (members : List (String × Json)) : Json :=
  .object (putMember field (.text s) members)

/-- The signature of an object does not depend on the one that it bears. -/
lemma sign_bearing : sign secret (bearing s members) = sign secret (.object members) := by
  rw [sign, sign, signedText, signedText, bearing, strip, strip, dropMember_putMember]

lemma member?_bearing : (bearing s members).member? field = some (.text s) := by
  rw [bearing, member?, lookup_putMember, if_pos rfl]

/-- Objects are signed alike exactly if they have the same members but for their own signatures. -/
lemma signedText_eq_iff (h : (Json.object ms).DistinctKeys) (h' : (Json.object ns).DistinctKeys) :
    signedText (.object ms) = signedText (.object ns) ↔
      ∀ key, key ≠ field → Option.Rel Same (ms.lookup key) (ns.lookup key) := by
  have hleft := h.dropMember field
  have hright := h'.dropMember field
  rw [signedText, signedText, strip, strip, canonicalText_inj_iff]
  calc (Json.object (dropMember field ms)).canonical = (Json.object (dropMember field ns)).canonical
      ↔ (Json.object (dropMember field ms)).Same (.object (dropMember field ns)) :=
        ⟨same_of_encode_eq .signed hleft hright, encode_eq_of_same .signed hleft hright⟩
    _ ↔ ∀ key, key ≠ field → Option.Rel Same (ms.lookup key) (ns.lookup key) := by
        rw [same_object_iff]
        refine forall_congr' fun key => ?_
        rw [lookup_dropMember, lookup_dropMember]
        by_cases hkey : key = field
        · rw [if_pos hkey, if_pos hkey]
          exact ⟨fun _ hne => absurd hkey hne, fun _ => .none⟩
        · rw [if_neg hkey, if_neg hkey]
          exact ⟨fun hrel _ => hrel, fun hrel => hrel hkey⟩

end Signature

namespace Device

open Json Signature

variable {d : Device} {secret : String}

/-! ### Whose signature it is -/

/-- A device has signed a payload exactly if it has a secret, and the payload is an object whose
signature is, in lower case, its own digest. -/
lemma hasSigned_iff {payload : Json} :
    d.HasSigned payload ↔ ∃ secret members s, d.hmacSecret = some secret ∧ secret ≠ "" ∧
      payload = .object members ∧ members.lookup field = some (.text s) ∧
      lowerAscii s = sign secret (.object members) := by
  rw [HasSigned]
  constructor
  · rintro ⟨secret, s, hsecret, hne, hmember, hagrees⟩
    cases payload with
    | object members => exact ⟨secret, members, s, hsecret, hne, rfl, hmember, agrees_iff.1 hagrees⟩
    | _ => cases hmember
  · rintro ⟨secret, members, s, hsecret, hne, rfl, hmember, hdigest⟩
    exact ⟨secret, s, hsecret, hne, hmember, agrees_iff.2 hdigest⟩

/-- The answer to each text that an object bears as its signature. -/
lemma value_checkSignature_bearing (ctx : LogContext) (hsecret : d.hmacSecret = some secret)
    (hne : secret ≠ "") (members : List (String × Json)) (s : String) :
    (d.checkSignature ctx (bearing s members)).value =
      if lowerAscii s = sign secret (.object members) then .valid
      else .rejected "HMAC signature mismatch" := by
  have henrolled : nonempty? d.hmacSecret = some secret := nonempty?_eq_some_iff.2 ⟨hsecret, hne⟩
  have hprovided : ((bearing s members).member? field).bind text? = some s := by
    rw [member?_bearing]
    rfl
  have hagrees : agrees (sign secret (.object members)) s = true ↔
      lowerAscii s = sign secret (.object members) := agrees_iff
  simp only [checkSignature, henrolled, hprovided, sign_bearing, hagrees]
  split_ifs
  · rfl
  · rfl

/-- **A device's own digest.**  The signature of a payload is valid exactly if the device has a
secret that is not empty, and the payload is an object whose signature is a text that reads, in
lower case, as the keyed digest of all its other members, encoded canonically.  So whatever text
stood in the place of the signature before, the digest itself is accepted there, and every text that
is not the digest but for the case of its letters is refused.  The digest covers everything but the
signature of the object itself: two objects have the same text under it only if all their other
members are the same, signatures further down among them. -/
theorem valid_iff_own_digest (d : Device) (ctx : LogContext) :
    (∀ payload, (d.checkSignature ctx payload).value = .valid ↔
      ∃ secret members s, d.hmacSecret = some secret ∧ secret ≠ "" ∧ payload = .object members ∧
        members.lookup "signature" = some (.text s) ∧
        lowerAscii s = Digest.Hmac.hexDigest (bytesOf secret)
          (bytesOf (Json.object (dropMember "signature" members)).canonicalText)) ∧
    (∀ secret members, d.hmacSecret = some secret → secret ≠ "" →
      (d.checkSignature ctx (bearing (sign secret (.object members)) members)).value = .valid ∧
      ∀ s, (d.checkSignature ctx (bearing s members)).value =
        if lowerAscii s = lowerAscii (sign secret (.object members)) then .valid
        else .rejected "HMAC signature mismatch") ∧
    (∀ ms ns, (Json.object ms).DistinctKeys → (Json.object ns).DistinctKeys →
      (signedText (.object ms) = signedText (.object ns) ↔
        ∀ key, key ≠ "signature" → Option.Rel Same (ms.lookup key) (ns.lookup key))) := by
  refine ⟨fun payload => ?_, fun secret members hsecret hne => ?_, fun ms ns => signedText_eq_iff⟩
  · rw [checkSignature_eq_valid_iff, hasSigned_iff]
    rfl
  · have hanswer := value_checkSignature_bearing ctx hsecret hne members
    rw [lowerAscii_sign]
    refine ⟨?_, hanswer⟩
    rw [hanswer, if_pos (lowerAscii_sign _)]

/-- A digest in capitals is accepted, and one with a digit more is refused; a signature further down
is covered. -/
theorem own_digest_in_capitals :
    let bears := fun s => (Sample.device.checkSignature { request := "t" }
      (bearing s (Sample.measured Sample.brief))).value
    bears "7E7C519ED72459ADF4FE1D0EDF13B9470D5F362CDF0A9DC6C8247AD129846C2F" = .valid ∧
    bears "7e7c519ed72459adf4fe1d0edf13b9470d5f362cdf0a9dc6c8247ad129846c2f0" =
      .rejected "HMAC signature mismatch" ∧
    signedText (.object [("inner", .object [("signature", .text "a")])]) ≠
      signedText (.object [("inner", .object [("signature", .text "b")])]) := by
  intro bears
  have hdigest : sign "key" (.object (Sample.measured Sample.brief)) =
      "7e7c519ed72459adf4fe1d0edf13b9470d5f362cdf0a9dc6c8247ad129846c2f" := by
    have hdrop :
        dropMember field (Sample.measured Sample.brief) = Sample.measured Sample.brief := by
      rfl
    rw [sign, signedText, strip, hdrop, Sample.canonicalText_measured]
    decide +kernel
  have hkeys : ∀ s, (Json.object [("inner", .object [("signature", .text s)])]).DistinctKeys := by
    intro s
    have hinner : (Json.object [("signature", .text s)]).DistinctKeys :=
      .object (by simp) (by simp [DistinctKeys.text])
    exact .object (by simp) (by simpa using hinner)
  obtain ⟨-, hanswers, hcovers⟩ := valid_iff_own_digest Sample.device { request := "t" }
  obtain ⟨-, hanswer⟩ := hanswers "key" (Sample.measured Sample.brief) rfl (by decide)
  refine ⟨?_, ?_, fun hsame => ?_⟩
  · simp only [bears, hanswer, hdigest]
    decide +kernel
  · simp only [bears, hanswer, hdigest]
    decide +kernel
  · have hinner := (hcovers _ _ (hkeys "a") (hkeys "b")).1 hsame "inner" (by decide)
    cases hinner with | some hobject
    cases same_object_iff.1 hobject "signature" with | some htext
    exact absurd (same_text_iff.1 htext) (by decide)

end Device

end DeviceGate
