import Mathlib.Data.List.Basic

namespace Footage.Text

-- The bytes of a text in UTF-8.
def bytes (s : String) : List UInt8 := s.toUTF8.data.toList

theorem bytes_eq (s : String) : bytes s = s.toList.flatMap String.utf8EncodeChar := by
  have h : s.toUTF8 = (s.toList.flatMap String.utf8EncodeChar).toByteArray :=
    String.utf8Encode_toList.symm
  rw [bytes, h, List.toList_data_toByteArray]

-- One of the first 128 characters is a byte of its own, and any other one starts with a
-- byte past them.
theorem utf8EncodeChar_of_lt {c : Char} (h : c.toNat < 128) :
    String.utf8EncodeChar c = [UInt8.ofNat c.toNat] := by
  have hle : c.val.toNat ≤ 127 := by
    have hval : c.val.toNat = c.toNat := rfl
    omega
  exact if_pos hle

theorem exists_mem_utf8EncodeChar {c : Char} (h : 128 ≤ c.toNat) :
    ∃ b ∈ String.utf8EncodeChar c, 128 ≤ b.toNat := by
  have hgt : ¬c.val.toNat ≤ 127 := by
    have hval : c.val.toNat = c.toNat := rfl
    omega
  unfold String.utf8EncodeChar
  simp only [if_neg hgt]
  split
  · refine ⟨_, List.mem_cons_self, ?_⟩
    rw [UInt8.toNat_ofNat']
    omega
  · split
    · refine ⟨_, List.mem_cons_self, ?_⟩
      rw [UInt8.toNat_ofNat']
      omega
    · refine ⟨_, List.mem_cons_self, ?_⟩
      rw [UInt8.toNat_ofNat']
      omega

theorem bytes_of_lt {s : String} (h : ∀ c ∈ s.toList, c.toNat < 128) :
    bytes s = s.toList.map fun c => UInt8.ofNat c.toNat := by
  rw [bytes_eq]
  generalize s.toList = cs at h ⊢
  induction cs with
  | nil => rfl
  | cons c cs ih =>
      rw [List.forall_mem_cons] at h
      rw [List.flatMap_cons, utf8EncodeChar_of_lt h.1, ih h.2]
      rfl

theorem lt_of_bytes_lt {s : String} (h : ∀ b ∈ bytes s, b.toNat < 128) :
    ∀ c ∈ s.toList, c.toNat < 128 := by
  intro c hc
  by_contra hge
  obtain ⟨b, hb, hle⟩ := exists_mem_utf8EncodeChar (by omega : 128 ≤ c.toNat)
  have hlt := h b (bytes_eq s ▸ List.mem_flatMap.mpr ⟨c, hc, hb⟩)
  omega

theorem length_bytes_of_lt {s : String} (h : ∀ c ∈ s.toList, c.toNat < 128) :
    (bytes s).length = s.toList.length := by
  rw [bytes_of_lt h, List.length_map]

-- What none but the first 128 characters can be is the same of bytes as of characters.
theorem forall_mem_bytes_iff {p : UInt8 → Prop} {q : Char → Prop} {s : String}
    (hp : ∀ b, p b → b.toNat < 128) (hq : ∀ c, q c → c.toNat < 128)
    (hpq : ∀ c : Char, c.toNat < 128 → (p (UInt8.ofNat c.toNat) ↔ q c)) :
    (∀ b ∈ bytes s, p b) ↔ ∀ c ∈ s.toList, q c := by
  have hiff (hlt : ∀ c ∈ s.toList, c.toNat < 128) :
      (∀ b ∈ bytes s, p b) ↔ ∀ c ∈ s.toList, q c := by
    rw [bytes_of_lt hlt, List.forall_mem_map]
    exact forall₂_congr fun c hc => hpq c (hlt c hc)
  constructor
  · intro h
    exact (hiff (lt_of_bytes_lt fun b hb => hp b (h b hb))).mp h
  · intro h
    exact (hiff fun c hc => hq c (h c hc)).mpr h

theorem toNat_byte {c : Char} (h : c.toNat < 128) : (UInt8.ofNat c.toNat).toNat = c.toNat := by
  rw [UInt8.toNat_ofNat']
  omega

theorem byte_inj {c d : Char} (hc : c.toNat < 128) (hd : d.toNat < 128) :
    UInt8.ofNat c.toNat = UInt8.ofNat d.toNat ↔ c = d := by
  rw [← UInt8.toNat_inj, toNat_byte hc, toNat_byte hd, Char.toNat_inj]

theorem byte_lt_byte_iff {c d : Char} (hc : c.toNat < 128) (hd : d.toNat < 128) :
    UInt8.ofNat c.toNat < UInt8.ofNat d.toNat ↔ c < d := by
  rw [UInt8.lt_iff_toNat_lt, toNat_byte hc, toNat_byte hd]
  exact UInt32.lt_iff_toNat_lt.symm

-- Of the first 128 characters the bytes are in the order of the characters.
theorem bytes_lt_bytes_iff {s t : String} (hs : ∀ c ∈ s.toList, c.toNat < 128)
    (ht : ∀ c ∈ t.toList, c.toNat < 128) : bytes s < bytes t ↔ s.toList < t.toList := by
  rw [bytes_of_lt hs, bytes_of_lt ht]
  generalize s.toList = cs at hs ⊢
  generalize t.toList = ds at ht ⊢
  induction cs generalizing ds with
  | nil => cases ds <;> simp
  | cons c cs ih =>
      cases ds with
      | nil => simp
      | cons d ds =>
          rw [List.forall_mem_cons] at hs ht
          rw [List.map_cons, List.map_cons, List.cons_lt_cons_iff, List.cons_lt_cons_iff,
            byte_lt_byte_iff hs.1 ht.1, byte_inj hs.1 ht.1, ih hs.2 ds ht.2]

end Footage.Text
