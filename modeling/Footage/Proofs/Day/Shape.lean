import Footage.Proofs.Calendar.Date
import Footage.Proofs.Day.Key
import Footage.Proofs.Payload.Check
import Footage.Proofs.Text.Bytes

namespace Footage

namespace DayKey

-- Ten places, of which the fifth and the eighth are hyphens and the others digits.
def Shaped {α : Type} (hyphen digit : α → Prop) (row : List α) : Prop :=
  row.length = 10 ∧ ∀ i x, row[i]? = some x → if i = 4 ∨ i = 7 then hyphen x else digit x

-- The shape as it is looked for in the bytes of a text.
def ShapedBytes (s : String) : Prop :=
  Shaped (fun b : UInt8 => b = 45) (fun b => 48 ≤ b ∧ b ≤ 57) (Text.bytes s)

def ShapedChars (s : String) : Prop :=
  Shaped (fun c : Char => c = '-') (fun c => c.isDigit = true) s.toList

theorem Shaped.forall_mem {α : Type} {hyphen digit p : α → Prop} {row : List α}
    (h : Shaped hyphen digit row) (hh : ∀ x, hyphen x → p x) (hd : ∀ x, digit x → p x) :
    ∀ x ∈ row, p x := by
  intro x hx
  obtain ⟨i, hi⟩ := List.mem_iff_getElem?.mp hx
  have hx := h.2 i x hi
  split at hx
  · exact hh x hx
  · exact hd x hx

theorem shaped_map_iff {α β : Type} {hyphen digit : α → Prop} {hyphen' digit' : β → Prop}
    {f : α → β} {row : List α} (hh : ∀ x ∈ row, hyphen' (f x) ↔ hyphen x)
    (hd : ∀ x ∈ row, digit' (f x) ↔ digit x) :
    Shaped hyphen' digit' (row.map f) ↔ Shaped hyphen digit row := by
  unfold Shaped
  rw [List.length_map]
  refine and_congr_right fun _ => ⟨?_, ?_⟩
  · intro h i x hx
    have hmem := List.mem_of_getElem? hx
    have hfx := h i (f x) (by rw [List.getElem?_map, hx]; rfl)
    rw [hh x hmem, hd x hmem] at hfx
    exact hfx
  · intro h i y hy
    rw [List.getElem?_map] at hy
    obtain ⟨x, hx, rfl⟩ := Option.map_eq_some_iff.mp hy
    have hmem := List.mem_of_getElem? hx
    rw [hh x hmem, hd x hmem]
    exact h i x hx

theorem ShapedChars.toNat_lt {s : String} (h : ShapedChars s) :
    ∀ c ∈ s.toList, c.toNat < 128 := by
  refine Shaped.forall_mem h ?_ ?_
  · rintro c rfl
    decide
  · intro c hc
    rw [Char.isDigit_iff_toNat] at hc
    exact Nat.lt_of_le_of_lt hc.2 (by decide)

-- In UTF-8 no byte of a longer character looks like a hyphen or a digit.
theorem ShapedBytes.toNat_lt {s : String} (h : ShapedBytes s) :
    ∀ c ∈ s.toList, c.toNat < 128 := by
  refine Text.lt_of_bytes_lt (Shaped.forall_mem h ?_ ?_)
  · rintro b rfl
    decide
  · rintro b ⟨-, hle⟩
    exact Nat.lt_of_le_of_lt (UInt8.le_iff_toNat_le.mp hle) (by decide)

theorem shapedBytes_iff_of_lt {s : String} (h : ∀ c ∈ s.toList, c.toNat < 128) :
    ShapedBytes s ↔ ShapedChars s := by
  unfold ShapedBytes ShapedChars
  rw [Text.bytes_of_lt h]
  apply shaped_map_iff
  · intro c hc
    rw [← UInt8.toNat_inj, Text.toNat_byte (h c hc)]
    exact @Char.toNat_inj c '-'
  · intro c hc
    rw [UInt8.le_iff_toNat_le, UInt8.le_iff_toNat_le, Text.toNat_byte (h c hc),
      Char.isDigit_iff_toNat]
    rfl

theorem shapedBytes_iff_shapedChars {s : String} : ShapedBytes s ↔ ShapedChars s :=
  ⟨fun h => (shapedBytes_iff_of_lt h.toNat_lt).mp h,
    fun h => (shapedBytes_iff_of_lt h.toNat_lt).mpr h⟩

-- A text of four, two and two digits between hyphens, and the numbers they stand for.
inductive Spells : List Char → Nat → Nat → Nat → Prop
  | intro {ys ms ds : List Char} {year month day : Nat} : Decimal.Numeral 4 ys year →
      Decimal.Numeral 2 ms month → Decimal.Numeral 2 ds day →
      Spells (ys ++ '-' :: ms ++ '-' :: ds) year month day

theorem numbers?_eq_some_iff {cs : List Char} {year month day : Nat} :
    numbers? cs = some (year, month, day) ↔ Spells cs year month day := by
  constructor
  · intro h
    unfold numbers? at h
    split at h
    · rename_i y1 y2 y3 y4 m1 m2 d1 d2
      split at h
      · rename_i hy hm hd
        cases h
        exact @Spells.intro [y1, y2, y3, y4] [m1, m2] [d1, d2] _ _ _
          (Decimal.numeral_of_read? hy) (Decimal.numeral_of_read? hm)
          (Decimal.numeral_of_read? hd)
      · contradiction
    · contradiction
  · intro h
    cases h with
    | @intro ys ms ds _ _ _ hy hm hd =>
        have ry := hy.read?_eq
        have rm := hm.read?_eq
        have rd := hd.read?_eq
        match ys, ms, ds, hy.length, hm.length, hd.length with
        | [y1, y2, y3, y4], [m1, m2], [d1, d2], _, _, _ => simp [numbers?, ry, rm, rd]

theorem shapedChars_iff {s : String} :
    ShapedChars s ↔ ∃ year month day, Spells s.toList year month day := by
  unfold ShapedChars
  constructor
  · rintro ⟨hl, h⟩
    generalize s.toList = cs at hl h ⊢
    match cs, hl with
    | [y1, y2, y3, y4, h1, m1, m2, h2, d1, d2], _ =>
        obtain rfl : h1 = '-' := h 4 h1 rfl
        obtain rfl : h2 = '-' := h 7 h2 rfl
        refine ⟨_, _, _, @Spells.intro [y1, y2, y3, y4] [m1, m2] [d1, d2] _ _ _
          ⟨rfl, ?_, rfl⟩ ⟨rfl, ?_, rfl⟩ ⟨rfl, ?_, rfl⟩⟩
        · simp only [List.forall_mem_cons]
          exact ⟨h 0 y1 rfl, h 1 y2 rfl, h 2 y3 rfl, h 3 y4 rfl, nofun⟩
        · simp only [List.forall_mem_cons]
          exact ⟨h 5 m1 rfl, h 6 m2 rfl, nofun⟩
        · simp only [List.forall_mem_cons]
          exact ⟨h 8 d1 rfl, h 9 d2 rfl, nofun⟩
  · rintro ⟨year, month, day, h⟩
    generalize s.toList = cs at h ⊢
    cases h with
    | @intro ys ms ds _ _ _ hy hm hd =>
        obtain ⟨ly, dy, -⟩ := hy
        obtain ⟨lm, dm, -⟩ := hm
        obtain ⟨ld, dd, -⟩ := hd
        match ys, ms, ds, ly, lm, ld with
        | [y1, y2, y3, y4], [m1, m2], [d1, d2], _, _, _ =>
            refine ⟨rfl, ?_⟩
            intro i x hx
            grind

theorem shapedBytes_iff {s : String} :
    ShapedBytes s ↔ ∃ year month day, Spells s.toList year month day :=
  shapedBytes_iff_shapedChars.trans shapedChars_iff

-- The shape is at fault just where the bytes do not have it.
theorem parse_eq_shape_iff_not_shapedBytes {s : String} :
    parse s = .error .shape ↔ ¬ShapedBytes s := by
  have hnone : numbers? s.toList = none ↔ ¬∃ year month day, Spells s.toList year month day := by
    simp only [Option.eq_none_iff_forall_ne_some, Prod.forall, ne_eq, numbers?_eq_some_iff,
      not_exists]
  rw [parse_eq_shape_iff, shapedBytes_iff, ← hnone]
  exact Option.isNone_iff_eq_none

theorem spells_text (k : DayKey) :
    Spells k.text.toList k.date.year.toNat k.date.month k.date.day :=
  numbers?_eq_some_iff.mp k.numbers?_text

theorem real_date (k : DayKey) : Calendar.Real k.date.year.toNat k.date.month k.date.day := by
  rw [year_toNat]
  exact Calendar.real_iff.mpr ⟨k.date.month_pos, k.date.month_le, k.date.day_pos, k.date.day_le⟩

theorem exists_text_eq {s : String} {year month day : Nat} (h : Spells s.toList year month day)
    (hr : Calendar.Real year month day) : ∃ k : DayKey, k.text = s := by
  have hn := numbers?_eq_some_iff.mpr h
  have hlt := year_lt_of_numbers? hn
  obtain ⟨h1, h12, hd1, hle⟩ := Calendar.real_iff.mp hr
  refine ⟨⟨⟨year, month, day, h1, h12, hd1, hle⟩, by simp only; omega, by simp only; omega⟩, ?_⟩
  apply String.toList_injective
  rw [eq_of_numbers? hn]
  exact Date.toList_text _

theorem exists_parse_eq_ok_iff {s : String} :
    (∃ k, parse s = .ok k) ↔
      ∃ year month day, Spells s.toList year month day ∧ Calendar.Real year month day := by
  simp only [parse_eq_ok_iff]
  constructor
  · rintro ⟨k, rfl⟩
    exact ⟨_, _, _, k.spells_text, k.real_date⟩
  · rintro ⟨year, month, day, h, hr⟩
    exact exists_text_eq h hr

theorem Fault.reason_iff {s : String} {fault : Fault} (h : parse s = .error fault) :
    (fault.reason = "expected YYYY-MM-DD" ↔ ¬ShapedBytes s) ∧
      (fault.reason = "not a calendar date" ↔ ShapedBytes s) := by
  cases fault with
  | shape =>
      have hs := parse_eq_shape_iff_not_shapedBytes.mp h
      exact ⟨iff_of_true rfl hs, iff_of_false (by decide) hs⟩
  | calendar =>
      have hs : ShapedBytes s := by
        by_contra hnot
        rw [parse_eq_shape_iff_not_shapedBytes.mpr hnot] at h
        contradiction
      exact ⟨iff_of_false (by decide) (not_not_intro hs), iff_of_true rfl hs⟩

-- The texts that are keys are those that spell a day of the calendar, one for each day of
-- the years of four digits. Any other text is refused for its shape, if its bytes do not
-- have the one of a key, and else for the calendar.
theorem parse_accepts_real_days_and_names_fault :
    (∀ s, (∃ k, parse s = .ok k) ↔
      ∃ year month day, Spells s.toList year month day ∧ Calendar.Real year month day) ∧
    (∀ s k, parse s = .ok k → k.text = s ∧ 0 ≤ k.date.year ∧ k.date.year ≤ 9999 ∧
      Spells s.toList k.date.year.toNat k.date.month k.date.day ∧
      Decimal.zeros 4 k.date.year.toNat ++ "-" ++ Decimal.zeros 2 k.date.month ++ "-" ++
        Decimal.zeros 2 k.date.day = s) ∧
    (∀ d : Date, 0 ≤ d.year → d.year ≤ 9999 → ∃! s, ∃ k, parse s = .ok k ∧ k.date = d) ∧
    (∀ s, (¬∃ k, parse s = .ok k) → ∃ fault, parse s = .error fault ∧
      (∀ place value, Days.readEntry place (s, value) = .error (.malformedDay place s fault)) ∧
      (fault.reason = "expected YYYY-MM-DD" ↔ ¬ShapedBytes s) ∧
      (fault.reason = "not a calendar date" ↔ ShapedBytes s)) ∧
    ∀ s, ShapedBytes s ↔ ∃ year month day, Spells s.toList year month day := by
  refine ⟨fun s => exists_parse_eq_ok_iff, ?_, ?_, ?_, fun s => shapedBytes_iff⟩
  · intro s k h
    obtain rfl := parse_eq_ok_iff.mp h
    exact ⟨rfl, k.year_nonneg, Int.le_of_lt_add_one k.year_lt, k.spells_text, rfl⟩
  · intro d h0 hl
    refine ⟨d.text, ⟨⟨d, h0, by omega⟩, parse_eq_ok_iff.mpr rfl, rfl⟩, ?_⟩
    rintro s ⟨k, hk, rfl⟩
    exact (parse_eq_ok_iff.mp hk).symm
  · intro s h
    cases hp : parse s with
    | ok k => exact absurd ⟨k, hp⟩ h
    | error fault =>
        refine ⟨fault, rfl, ?_, Fault.reason_iff hp⟩
        intro place value
        unfold Days.readEntry
        rw [hp]
        rfl

-- The year 0 has a 29th of February and the year 1900 has none, and the digits of other
-- scripts are no digits of a key.
theorem parse_leap_days_and_other_digits :
    (∃ k, parse "0000-02-29" = .ok k ∧ k.text = "0000-02-29") ∧
      (∃ fault, parse "1900-02-29" = .error fault ∧ fault.reason = "not a calendar date") ∧
      (∃ fault, parse "２０２４-０１-０１" = .error fault ∧ fault.reason = "expected YYYY-MM-DD") ∧
      ∃! s, ∃ k, parse s = .ok k ∧ k.date = Date.epoch := by
  obtain ⟨haccept, hdate, hunique, hrefuse, hshape⟩ := parse_accepts_real_days_and_names_fault
  have hspells : ∀ {cs year month day}, numbers? cs = some (year, month, day) →
      Spells cs year month day := numbers?_eq_some_iff.mp
  have hleap : ∃ k, parse "0000-02-29" = .ok k :=
    (haccept _).mpr ⟨0, 2, 29, hspells rfl, Calendar.real_iff.mpr (by decide)⟩
  obtain ⟨k, hk⟩ := hleap
  have hrefused : ∀ {s fault}, parse s = .error fault → ¬∃ k, parse s = .ok k := by
    rintro s fault h ⟨k, hk⟩
    rw [h] at hk
    contradiction
  refine ⟨⟨k, hk, (hdate _ k hk).1⟩, ?_, ?_, hunique Date.epoch (by decide) (by decide)⟩
  · have h : parse "1900-02-29" = .error .calendar := parse_eq_error_iff.mpr rfl
    obtain ⟨fault, hf, -, -, hreason⟩ := hrefuse _ (hrefused h)
    exact ⟨fault, hf, hreason.mpr ((hshape _).mpr ⟨1900, 2, 29, hspells rfl⟩)⟩
  · have h : parse "２０２４-０１-０１" = .error .shape := parse_eq_error_iff.mpr rfl
    obtain ⟨fault, hf, -, hreason, -⟩ := hrefuse _ (hrefused h)
    exact ⟨fault, hf, hreason.mpr (parse_eq_shape_iff_not_shapedBytes.mp h)⟩

end DayKey

end Footage
