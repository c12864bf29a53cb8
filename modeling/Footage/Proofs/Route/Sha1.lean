import Footage.Proofs.Error
import Footage.Proofs.Hex
import Footage.Proofs.Text
import Footage.Proofs.Text.Bytes
import Footage.Route

namespace Footage

-- A digit as it is looked for in the bytes of a text.
def Hex.IsDigitByte (b : UInt8) : Prop :=
  48 ≤ b ∧ b ≤ 57 ∨ 97 ≤ b ∧ b ≤ 102 ∨ 65 ≤ b ∧ b ≤ 70

theorem Hex.isDigitByte_iff_toNat {b : UInt8} :
    IsDigitByte b ↔ 48 ≤ b.toNat ∧ b.toNat ≤ 57 ∨ 97 ≤ b.toNat ∧ b.toNat ≤ 102 ∨
      65 ≤ b.toNat ∧ b.toNat ≤ 70 := Iff.rfl

theorem Hex.IsDigitByte.toNat_lt {b : UInt8} (h : IsDigitByte b) : b.toNat < 128 := by
  rw [isDigitByte_iff_toNat] at h
  omega

theorem Hex.isDigitByte_ofNat_iff {c : Char} (h : c.toNat < 128) :
    IsDigitByte (UInt8.ofNat c.toNat) ↔ IsDigit c := by
  rw [isDigitByte_iff_toNat, isDigit_iff_toNat, Text.toNat_byte h, or_assoc]

namespace Sha1

-- The texts of 40 digits in either case, and nothing else.
def Spelled (s : String) : Prop := s.toList.length = 40 ∧ ∀ c ∈ s.toList, Hex.IsDigit c

def SpelledBytes (s : String) : Prop :=
  (Text.bytes s).length = 40 ∧ ∀ b ∈ Text.bytes s, Hex.IsDigitByte b

-- In UTF-8 no byte of a longer character looks like a digit, so there are as many
-- characters as bytes.
theorem spelledBytes_iff_spelled {s : String} : SpelledBytes s ↔ Spelled s := by
  have hdigits : (∀ b ∈ Text.bytes s, Hex.IsDigitByte b) ↔ ∀ c ∈ s.toList, Hex.IsDigit c :=
    Text.forall_mem_bytes_iff (fun _ hb => hb.toNat_lt) (fun _ hc => hc.toNat_lt)
      fun _ hc => Hex.isDigitByte_ofNat_iff hc
  unfold SpelledBytes Spelled
  rw [hdigits]
  refine and_congr_left fun h => ?_
  rw [Text.length_bytes_of_lt fun c hc => (h c hc).toNat_lt]

theorem toList_text (d : Sha1) : d.text.toList = Hex.write d.digits := String.toList_ofList

theorem length_text (d : Sha1) : d.text.toList.length = 40 := by
  rw [toList_text, Hex.length_write, d.length_eq]

theorem isSmall_of_mem_text {d : Sha1} {c : Char} (h : c ∈ d.text.toList) : Hex.IsSmall c := by
  rw [toList_text] at h
  exact Hex.isSmall_of_mem_write h

theorem parse?_eq_some_iff_read? {s : String} {d : Sha1} :
    parse? s = some d ↔ Hex.read? s.toList = some d.digits := by
  unfold parse?
  constructor
  · intro h
    split at h
    · rename_i ds hds
      split at h
      · cases h
        exact hds
      · contradiction
    · contradiction
  · intro h
    rw [h]
    exact dif_pos d.length_eq

-- A text is read as the digest that has the same text in lower case.
theorem parse?_eq_some_iff {s : String} {d : Sha1} :
    parse? s = some d ↔ Spelled s ∧ d.text = s.toLower := by
  rw [parse?_eq_some_iff_read?, Hex.read?_eq_some_iff, eq_comm (a := d.text),
    Text.toLower_eq_iff, ← toList_text, eq_comm (a := d.text.toList)]
  constructor
  · rintro ⟨hdigits, h⟩
    have hlength := congrArg List.length h
    rw [List.length_map, d.length_text] at hlength
    exact ⟨⟨hlength, hdigits⟩, h⟩
  · rintro ⟨⟨-, hdigits⟩, h⟩
    exact ⟨hdigits, h⟩

theorem exists_parse?_eq_some_iff {s : String} : (∃ d, parse? s = some d) ↔ Spelled s := by
  constructor
  · rintro ⟨d, hd⟩
    exact (parse?_eq_some_iff.mp hd).1
  · rintro ⟨hlength, hdigits⟩
    obtain ⟨ds, hds⟩ := Hex.exists_read?_eq_some hdigits
    have hds40 : ds.length = 40 := by
      rw [← Hex.length_write, (Hex.read?_eq_some_iff.mp hds).2, List.length_map, hlength]
    exact ⟨⟨ds, hds40⟩, parse?_eq_some_iff_read?.mpr hds⟩

instance (s : String) : Decidable (Spelled s) :=
  decidable_of_iff ((parse? s).isSome = true)
    (Option.isSome_iff_exists.trans exists_parse?_eq_some_iff)

-- The text of a digest is one of its own spellings.
theorem parse?_text (d : Sha1) : parse? d.text = some d := by
  rw [parse?_eq_some_iff_read?, toList_text, Hex.read?_write]

end Sha1

namespace Route

theorem ofSha1_eq_ok_iff {s : String} {r : Route} :
    ofSha1 s = .ok r ↔ ∃ d, Sha1.parse? s = some d ∧ .initSegment d = r := by
  unfold ofSha1
  cases Sha1.parse? s <;> simp

theorem ofSha1_eq_error {s : String} (h : ¬Sha1.Spelled s) :
    ofSha1 s = .error (.request (.notSha1 s)) := by
  rw [← Sha1.exists_parse?_eq_some_iff, ← Option.isSome_iff_exists,
    Option.not_isSome_iff_eq_none] at h
  rw [ofSha1, h]

theorem exists_ofSha1_eq_ok_iff {s : String} : (∃ r, ofSha1 s = .ok r) ↔ Sha1.Spelled s := by
  rw [← Sha1.exists_parse?_eq_some_iff]
  constructor
  · rintro ⟨r, hr⟩
    obtain ⟨d, hd, -⟩ := ofSha1_eq_ok_iff.mp hr
    exact ⟨d, hd⟩
  · rintro ⟨d, hd⟩
    exact ⟨_, ofSha1_eq_ok_iff.mpr ⟨d, hd, rfl⟩⟩

theorem initSegment_path_eq_iff {d : Sha1} {digits : String} :
    (initSegment d).path = "/api/init/" ++ digits ++ ".mp4" ↔ d.text = digits := by
  rw [path, String.append_left_inj, String.append_right_inj]

-- The digits put nothing but themselves into the address.
theorem count_initSegment_path (d : Sha1) {c : Char} (h : ¬Hex.IsSmall c) :
    (initSegment d).path.toList.count c = "/api/init/.mp4".toList.count c := by
  have hnone : d.text.toList.count c = 0 :=
    List.count_eq_zero.mpr fun hc => h (Sha1.isSmall_of_mem_text hc)
  have hfixed : "/api/init/.mp4" = "/api/init/" ++ ".mp4" := by decide
  rw [path, hfixed]
  simp only [String.toList_append, List.count_append, hnone, Nat.add_zero]

-- The start of a file is asked for with any text of 40 digits, counted as bytes or as
-- characters, and any other text is refused. The address has the digits in lower case, and
-- all of its other characters are those of a fixed text around them. Its digits give the
-- same address again, and two texts give the same address exactly when they differ in the
-- case of letters alone.
theorem ofSha1_takes_forty_digits_in_either_case :
    (∀ s, ((∃ r, ofSha1 s = .ok r) ↔ Sha1.Spelled s) ∧
      (Sha1.SpelledBytes s ↔ Sha1.Spelled s)) ∧
    (∀ s r, ofSha1 s = .ok r →
      r.path = "/api/init/" ++ s.toLower ++ ".mp4" ∧
      s.toLower.toList.length = 40 ∧ (∀ c ∈ s.toLower.toList, Hex.IsSmall c) ∧
      (∀ c, ¬Hex.IsSmall c → r.path.toList.count c = "/api/init/.mp4".toList.count c) ∧
      ∀ digits, r.path = "/api/init/" ++ digits ++ ".mp4" → ofSha1 digits = .ok r) ∧
    (∀ s t p q, ofSha1 s = .ok p → ofSha1 t = .ok q →
      (p.path = q.path ↔ s.toLower = t.toLower)) ∧
    ∀ s, ¬Sha1.Spelled s → ∃ e, ofSha1 s = .error e ∧ e.isValidation = true ∧
      e.message = "Validation error: " ++ (Text.quoted s ++ " is not a 40-digit hex SHA-1") := by
  refine ⟨fun s => ⟨exists_ofSha1_eq_ok_iff, Sha1.spelledBytes_iff_spelled⟩, ?_, ?_, ?_⟩
  · intro s r hr
    obtain ⟨d, hd, rfl⟩ := ofSha1_eq_ok_iff.mp hr
    obtain ⟨-, htext⟩ := Sha1.parse?_eq_some_iff.mp hd
    rw [← htext]
    refine ⟨rfl, d.length_text, fun c => Sha1.isSmall_of_mem_text,
      fun c => count_initSegment_path d, ?_⟩
    intro digits h
    obtain rfl := initSegment_path_eq_iff.mp h
    exact ofSha1_eq_ok_iff.mpr ⟨d, d.parse?_text, rfl⟩
  · intro s t p q hp hq
    obtain ⟨d, hd, rfl⟩ := ofSha1_eq_ok_iff.mp hp
    obtain ⟨e, he, rfl⟩ := ofSha1_eq_ok_iff.mp hq
    obtain ⟨-, hs⟩ := Sha1.parse?_eq_some_iff.mp hd
    obtain ⟨-, ht⟩ := Sha1.parse?_eq_some_iff.mp he
    rw [← hs, ← ht]
    exact initSegment_path_eq_iff
  · intro s hs
    exact ⟨_, ofSha1_eq_error hs, rfl, ViewError.message_of_isValidation rfl⟩

-- Capital letters ask for the same as small ones, and no path leads elsewhere.
theorem ofSha1_takes_capitals :
    let capitals := "4A2CDD3B6C5F9A6E0F1B2C3D4E5F60718293A4B5"
    let digits := "4a2cdd3b6c5f9a6e0f1b2c3d4e5f60718293a4b5"
    let elsewhere := "../../etc/passwd/00000000000000000000000"
    (∃ p q, ofSha1 capitals = .ok p ∧ ofSha1 digits = .ok q ∧ p.path = q.path ∧
      p.path = "/api/init/" ++ digits ++ ".mp4") ∧
    ∃ e, ofSha1 elsewhere = .error e ∧ e.isValidation = true := by
  intro capitals digits elsewhere
  obtain ⟨haccept, hpath, hsame, hrefuse⟩ := ofSha1_takes_forty_digits_in_either_case
  obtain ⟨p, hp⟩ := (haccept capitals).1.mpr (by decide)
  obtain ⟨q, hq⟩ := (haccept digits).1.mpr (by decide)
  obtain ⟨e, he, hv, -⟩ := hrefuse elsewhere (by decide)
  have hcapitals : capitals.toLower = digits := Text.toLower_eq_iff.mpr (by decide)
  have hdigits : digits.toLower = digits := Text.toLower_eq_iff.mpr (by decide)
  refine ⟨⟨p, q, hp, hq, (hsame _ _ p q hp hq).mpr (hcapitals.trans hdigits.symm), ?_⟩, e, he, hv⟩
  rw [← hcapitals]
  exact (hpath capitals p hp).1

end Route

end Footage
