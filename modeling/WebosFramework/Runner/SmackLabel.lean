import Mathlib.Data.List.TakeWhile
import WebosFramework.Qt.DataStream

/-!
# SMACK labels

`GetSmackLabelFromAppId` of `tools/runner/apploader.cpp` gives an application its SMACK label. An
app id that is short enough and has none of four characters in it is kept as it is after the
prefix. Otherwise the characters are taken out, the label is cut, and the SHA-256 digest of the app
id is appended, as 64 hexadecimal digits.

* **`smackLabel_of_verbatim`** and **`smackLabel_of_not_verbatim`**: the two shapes of a label.
* **`smackLabel_wellFormed`**: every label is short enough, has none of the four characters in it,
  and shows the app id itself exactly when the app id is kept as it is.
* **`smackLabel_ne_iff`**: two applications get distinct labels unless the app id of one is what
  the app id of the other is turned into.

SHA-256 is a parameter. It cannot be injective on all app ids, so it is taken to be so on the two
that are compared.

In what a label consists of behind the prefix there is none of the four characters in either case,
as a digest has hexadecimal digits only (`HexDigest`). Two labels can be equal in two ways: an app
id that is kept looks like what another one is turned into, or two digests are equal.
-/

namespace Runner

open Qt

/-- A string literal of the source. -/
def bytes (s : String) : Bytes := s.toList.map fun c => c.toNat.toUInt8

/-- The text that a `const char *` to the string stands for. -/
def cStr (s : Bytes) : Bytes := s.takeWhile (· ≠ 0)

/-- No label is longer than this. -/
def maxSmackLabelLength : Nat := 255

/-- What is left of a longer label before the digest is not longer than this. -/
def maxAppIdLength : Nat := 128

/-- The characters that `filter_appId` takes out. -/
def isFiltered (c : UInt8) : Bool := c ∈ bytes "\\/\"'"

/-- `filter_appId`; the flag is what becomes of `filtered`. -/
def filterAppId (appId : Bytes) : Bytes × Bool :=
  let input := appId.filter fun c => !isFiltered c
  (input, input.length < appId.length)

section

variable (hash : Bytes → Bytes)

/-- `sha256`, where `hash` gives the digest of a text in hexadecimal. -/
def sha256 (input : Bytes) : Bytes := hash (cStr input)

/-- `GetSmackLabelFromAppId`, which cuts the label and not the app id. -/
def getSmackLabelFromAppId (appId labelPrefix : Bytes) : Bytes :=
  let filtered := filterAppId appId
  let label := labelPrefix ++ filtered.1
  if label.length ≤ maxSmackLabelLength ∧ !filtered.2 then label
  else
    (if label.length > maxAppIdLength then label.take maxAppIdLength else label) ++
      sha256 hash appId

/-- What all labels begin with. -/
def smackAppPrefix : Bytes := bytes "webOS::App::"

/-- The label that `setProcessSmackLabel` sets. -/
def smackLabel (appId : Bytes) : Bytes := getSmackLabelFromAppId hash appId smackAppPrefix

end

/-! ## The two shapes of a label

An app id is kept if the filter finds nothing in it and it is short enough. Any other app id loses
something, and gets a digest behind it. -/

/-- The app id is kept as it is. -/
def Verbatim (appId : Bytes) : Prop :=
  (∀ c ∈ appId, isFiltered c = false) ∧ smackAppPrefix.length + appId.length ≤ maxSmackLabelLength

instance : DecidablePred Verbatim := fun appId =>
  decidable_of_iff ((appId.all fun c => !isFiltered c) = true ∧
    smackAppPrefix.length + appId.length ≤ maxSmackLabelLength) (by simp [Verbatim])

/-- An app id without the four characters is not changed by the filter. -/
theorem filterAppId_of_forall {appId : Bytes} (h : ∀ c ∈ appId, isFiltered c = false) :
    filterAppId appId = (appId, false) := by
  have hsame : appId.filter (fun c => !isFiltered c) = appId :=
    List.filter_eq_self.mpr fun c hc => by simp [h c hc]
  simp [filterAppId, hsame]

/-- The filter says if there was one of them. -/
theorem filterAppId_of_exists {appId : Bytes} (h : ∃ c ∈ appId, isFiltered c = true) :
    (filterAppId appId).2 = true := by
  obtain ⟨c, hc, hfiltered⟩ := h
  show decide ((appId.filter fun c => !isFiltered c).length < appId.length) = true
  apply decide_eq_true
  apply List.length_filter_lt_length_iff_exists.mpr
  exact ⟨c, hc, by simp [hfiltered]⟩

/-- Without a zero byte all of the string is read. -/
theorem cStr_of_not_mem {s : Bytes} (h : 0 ∉ s) : cStr s = s := by
  unfold cStr
  rw [List.takeWhile_eq_self_iff]
  intro c hc
  have hne : c ≠ 0 := fun heq => h (heq ▸ hc)
  simpa using hne

/-- **The label of an app id that is kept** is the prefix and the app id. -/
theorem smackLabel_of_verbatim (hash : Bytes → Bytes) {appId : Bytes} (h : Verbatim appId) :
    smackLabel hash appId = smackAppPrefix ++ appId := by
  unfold smackLabel getSmackLabelFromAppId
  rw [filterAppId_of_forall h.1]
  apply if_pos
  simpa using h.2

/-- The part of the app id that a label of the second shape begins with. -/
def shortened (appId : Bytes) : Bytes :=
  (filterAppId appId).1.take (maxAppIdLength - smackAppPrefix.length)

/-- **The label of any other app id** is the prefix, what is left of the app id, and its digest.
What is left is the filtered app id, cut so that the digest has room behind it. -/
theorem smackLabel_of_not_verbatim (hash : Bytes → Bytes) {appId : Bytes} (h : ¬ Verbatim appId) :
    smackLabel hash appId = smackAppPrefix ++ (shortened appId ++ sha256 hash appId) := by
  have hcond : ¬ ((smackAppPrefix ++ (filterAppId appId).1).length ≤ maxSmackLabelLength ∧
      (!(filterAppId appId).2) = true) := by
    rintro ⟨hlength, hfiltered⟩
    -- nothing was taken out, so the app id is too long
    have hall : ∀ c ∈ appId, isFiltered c = false := by
      intro c hc
      apply Bool.eq_false_iff.mpr
      intro hc'
      rw [filterAppId_of_exists ⟨c, hc, hc'⟩] at hfiltered
      cases hfiltered
    rw [filterAppId_of_forall hall, List.length_append] at hlength
    exact h ⟨hall, hlength⟩
  have htake : (if (smackAppPrefix ++ (filterAppId appId).1).length > maxAppIdLength then
        (smackAppPrefix ++ (filterAppId appId).1).take maxAppIdLength
      else smackAppPrefix ++ (filterAppId appId).1) = smackAppPrefix ++ shortened appId := by
    have hcut : (smackAppPrefix ++ (filterAppId appId).1).take maxAppIdLength =
        smackAppPrefix ++ shortened appId := by
      rw [List.take_append, List.take_of_length_le (by decide)]
      rfl
    split
    · exact hcut
    · rw [← hcut, List.take_of_length_le (by omega)]
  unfold smackLabel getSmackLabelFromAppId
  dsimp only
  rw [if_neg hcond, htake, List.append_assoc]

/-! ## Well-formed labels

Of the digest only its form is used: 64 digits in lower case. -/

/-- What is relied on of SHA-256, whatever it computes: the digest has 64 lower-case digits. -/
structure HexDigest (hash : Bytes → Bytes) : Prop where
  /-- A digest has 64 digits. -/
  length : ∀ s, (hash s).length = 64
  /-- They are hexadecimal. -/
  digits : ∀ s, ∀ c ∈ hash s, c ∈ bytes "0123456789abcdef"

/-- The SHA-256 digests of the app ids that are looked at below, `/`, its digest and
`com.webos.app.home`. -/
def digests (s : Bytes) : Bytes :=
  if s = bytes "/" then
    bytes "8a5edab282632443219e051e4ade2d1d5bbc671c781051bf1437897cbdfea0f1"
  else if s = bytes "com.webos.app.home" then
    bytes "5cbd93271885fa59aaf3d078ccaf8089aa33bd6b75a391e973ac8f16ee50b2c7"
  else bytes "bc6ef51304f9fc83a251e73863e389dd6a0eb2f948fc0dcdf34cf0c9c4fffd4d"

/-- `digests` makes 64 hexadecimal digits of whatever it is given. -/
theorem hexDigest_digests : HexDigest digests where
  length s := by
    unfold digests
    split
    · rfl
    · split <;> rfl
  digits s := by
    have hall : ((digests s).all fun c => (bytes "0123456789abcdef").contains c) = true := by
      unfold digests
      split
      · decide
      · split <;> decide
    intro c hc
    exact List.contains_iff_mem.mp (List.all_eq_true.mp hall c hc)

/-- What stands after the prefix in a label of the second shape would be kept as it is. -/
theorem verbatim_shortened_append {hash : Bytes → Bytes} (hhash : HexDigest hash)
    (appId s : Bytes) : Verbatim (shortened appId ++ hash s) := by
  refine ⟨fun c hc => ?_, ?_⟩
  · rcases List.mem_append.mp hc with hc | hc
    · have hmem := List.mem_of_mem_take hc
      simpa using (List.mem_filter.mp hmem).2
    · have hdigits : ((bytes "0123456789abcdef").all fun d => !isFiltered d) = true := by decide
      simpa using List.all_eq_true.mp hdigits c (hhash.digits s c hc)
  · have hshort : (shortened appId).length ≤ maxAppIdLength - smackAppPrefix.length :=
      List.length_take_le _ _
    have hlen : smackAppPrefix.length = 12 := by decide
    rw [List.length_append, hhash.length s]
    unfold maxSmackLabelLength
    unfold maxAppIdLength at hshort
    omega

/-- Behind the prefix there is an app id that would be kept. -/
theorem exists_verbatim_append {hash : Bytes → Bytes} (hhash : HexDigest hash) (appId : Bytes) :
    ∃ text, Verbatim text ∧ smackLabel hash appId = smackAppPrefix ++ text := by
  by_cases hverbatim : Verbatim appId
  · exact ⟨appId, hverbatim, smackLabel_of_verbatim hash hverbatim⟩
  · exact ⟨shortened appId ++ sha256 hash appId, verbatim_shortened_append hhash appId _,
      smackLabel_of_not_verbatim hash hverbatim⟩

/-- **Well-formed labels.** A label has at most 255 bytes, none of the four characters, and the
prefix in front; it is the prefix and the app id exactly when these are such a label.

Both kinds of labels are the prefix with a text that could have been an app id, by
`exists_verbatim_append`; the four parts are read off that form. -/
theorem smackLabel_wellFormed {hash : Bytes → Bytes} (hhash : HexDigest hash) (appId : Bytes) :
    (smackLabel hash appId).length ≤ 255 ∧ (∀ c ∈ smackLabel hash appId, c ∉ bytes "\\/\"'") ∧
      smackAppPrefix <+: smackLabel hash appId ∧
      (smackLabel hash appId = smackAppPrefix ++ appId ↔
        (∀ c ∈ appId, c ∉ bytes "\\/\"'") ∧ (smackAppPrefix ++ appId).length ≤ 255) := by
  obtain ⟨text, ⟨hfiltered, hlength⟩, hlabel⟩ := exists_verbatim_append hhash appId
  have hprefix : (smackAppPrefix.all fun c => !isFiltered c) = true := by decide
  have hverbatim : Verbatim appId ↔
      (∀ c ∈ appId, c ∉ bytes "\\/\"'") ∧ (smackAppPrefix ++ appId).length ≤ 255 := by
    simp [Verbatim, isFiltered, maxSmackLabelLength]
  refine ⟨?_, fun c hc => ?_, ?_, ?_⟩
  · rw [hlabel, List.length_append]
    exact hlength
  · rw [hlabel] at hc
    have hkept : isFiltered c = false := by
      rcases List.mem_append.mp hc with hc | hc
      · simpa using List.all_eq_true.mp hprefix c hc
      · exact hfiltered c hc
    exact decide_eq_false_iff_not.mp hkept
  · rw [hlabel]
    exact List.prefix_append _ _
  · rw [← hverbatim]
    refine ⟨fun hsame => ?_, smackLabel_of_verbatim hash⟩
    rw [hlabel] at hsame
    rw [← List.append_cancel_left hsame]
    exact ⟨hfiltered, hlength⟩

/-- The app id is one of the characters that are taken out, and nothing is left of it. -/
theorem smackLabel_wellFormed_slash : (smackLabel digests (bytes "/")).length ≤ 255 ∧
    (∀ c ∈ smackLabel digests (bytes "/"), c ∉ bytes "\\/\"'") ∧
      smackAppPrefix <+: smackLabel digests (bytes "/") ∧
      (smackLabel digests (bytes "/") = smackAppPrefix ++ bytes "/" ↔
        (∀ c ∈ bytes "/", c ∉ bytes "\\/\"'") ∧ (smackAppPrefix ++ bytes "/").length ≤ 255) :=
  smackLabel_wellFormed hexDigest_digests (bytes "/")

/-! ## Distinct labels

Two labels of the same shape differ because app ids or digests do. Labels of different shape are
equal if the app id that is kept looks like the other one with its digest. -/

/-- `a` is what `b` is turned into: the short form of `b` with the digest of `b` appended. -/
def Imitates (hash : Bytes → Bytes) (a b : Bytes) : Prop :=
  ¬ Verbatim b ∧ a = shortened b ++ hash b

instance (hash : Bytes → Bytes) (a b : Bytes) : Decidable (Imitates hash a b) :=
  inferInstanceAs (Decidable (¬ Verbatim b ∧ a = shortened b ++ hash b))

/-- What another app id is turned into would itself be kept. -/
theorem Imitates.verbatim {hash : Bytes → Bytes} (hhash : HexDigest hash) {a b : Bytes}
    (h : Imitates hash a b) : Verbatim a := by
  rw [h.2]
  exact verbatim_shortened_append hhash b b

/-- The digest is that of all of the app id. -/
theorem sha256_of_not_mem (hash : Bytes → Bytes) {appId : Bytes} (h : 0 ∉ appId) :
    sha256 hash appId = hash appId := by
  rw [sha256, cStr_of_not_mem h]

/-- An app id that imitates another one has its label. -/
theorem smackLabel_eq_of_imitates {hash : Bytes → Bytes} (hhash : HexDigest hash) {a b : Bytes}
    (hb : 0 ∉ b) (h : Imitates hash a b) : smackLabel hash a = smackLabel hash b := by
  rw [smackLabel_of_verbatim hash (h.verbatim hhash), smackLabel_of_not_verbatim hash h.1,
    sha256_of_not_mem hash hb, ← h.2]

/-- **Distinct labels.** Two different app ids get distinct labels exactly when neither is what the
other is turned into.

An id is taken over as it is or turned into a prefix with a digest, so there are four cases; two ids
that are both turned are told apart by their digests. -/
theorem smackLabel_ne_iff {hash : Bytes → Bytes} (hhash : HexDigest hash) {a b : Bytes}
    (ha : 0 ∉ a) (hb : 0 ∉ b) (hinj : hash a = hash b → a = b) (hne : a ≠ b) :
    smackLabel hash a ≠ smackLabel hash b ↔ ¬ Imitates hash a b ∧ ¬ Imitates hash b a := by
  constructor
  · intro hlabel
    exact ⟨fun h => hlabel (smackLabel_eq_of_imitates hhash hb h),
      fun h => hlabel (smackLabel_eq_of_imitates hhash ha h).symm⟩
  · rintro ⟨hab, hba⟩ hlabel
    by_cases hva : Verbatim a <;> by_cases hvb : Verbatim b
    · rw [smackLabel_of_verbatim hash hva, smackLabel_of_verbatim hash hvb] at hlabel
      exact hne (List.append_cancel_left hlabel)
    · rw [smackLabel_of_verbatim hash hva, smackLabel_of_not_verbatim hash hvb,
        sha256_of_not_mem hash hb] at hlabel
      exact hab ⟨hvb, List.append_cancel_left hlabel⟩
    · rw [smackLabel_of_not_verbatim hash hva, smackLabel_of_verbatim hash hvb,
        sha256_of_not_mem hash ha] at hlabel
      exact hba ⟨hva, (List.append_cancel_left hlabel).symm⟩
    · -- two digests of the same length at the end
      rw [smackLabel_of_not_verbatim hash hva, smackLabel_of_not_verbatim hash hvb,
        sha256_of_not_mem hash ha, sha256_of_not_mem hash hb] at hlabel
      have hdigest := List.append_inj_right' (List.append_cancel_left hlabel)
        ((hhash.length a).trans (hhash.length b).symm)
      exact hne (hinj hdigest)

/-- An app id that is kept and one that is not. -/
theorem smackLabel_ne_home : smackLabel digests (bytes "com.webos.app.home") ≠
    smackLabel digests (bytes "/") :=
  (smackLabel_ne_iff hexDigest_digests (by decide) (by decide) (by decide) (by decide)).mpr
    ⟨by decide, by decide⟩

/-- The application whose app id is the digest of `/` gets the label of the application `/`. -/
theorem not_smackLabel_ne_digest :
    HexDigest digests ∧ 0 ∉ bytes "/" ∧ 0 ∉ digests (bytes "/") ∧
      bytes "/" ≠ digests (bytes "/") ∧
      digests (bytes "/") ≠ digests (digests (bytes "/")) ∧
      smackLabel digests (bytes "/") = smackLabel digests (digests (bytes "/")) :=
  ⟨hexDigest_digests, by decide, by decide, by decide, by decide, by decide⟩

end Runner
