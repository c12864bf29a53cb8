import Footage.Config
import Footage.Proofs.Calendar.Instant
import Footage.Proofs.Day.Order
import Footage.Proofs.TimeFormatter

namespace Footage

namespace ClockTime

-- Hours, minutes and seconds of a day, each in two digits.
def digits (second : Nat) : List Char :=
  Decimal.padded 2 '0' (second / 3600) ++ ':' :: Decimal.padded 2 '0' (second / 60 % 60)
    ++ ':' :: Decimal.padded 2 '0' (second % 60)

theorem digits_lt_digits_iff {m n : Nat} (hm : m < 86400) (hn : n < 86400) :
    digits m < digits n ↔ m < n := by
  have htwo : Decimal.tenTo 2 = 100 := rfl
  unfold digits
  simp only [List.append_assoc, List.cons_append]
  rw [Decimal.padded_append_lt_iff (by omega) (by omega) (by omega), Text.cons_lt_cons_self,
    Decimal.padded_append_lt_iff (by omega) (by omega) (by omega), Text.cons_lt_cons_self,
    Decimal.padded_lt_padded_iff (by omega) (by omega) (by omega)]
  omega

theorem length_digits {second : Nat} (h : second < 86400) : (digits second).length = 8 := by
  have htwo : Decimal.tenTo 2 = 100 := rfl
  have hlen : ∀ n < 100, (Decimal.padded 2 '0' n).length = 2 :=
    fun n hn => Decimal.length_padded (by omega) hn '0'
  simp only [digits, List.length_append, List.length_cons, hlen (second / 3600) (by omega),
    hlen (second / 60 % 60) (by omega), hlen (second % 60) (by omega)]

end ClockTime

namespace Pattern

-- The items of the standard format.
def standard : Pattern := hyphenDate ++ .literal ' ' :: clock

theorem parse?_standard : parse? Config.standard.timeFormat = some standard := by
  cbv

theorem toList_twoDigits {n : Nat} (h : n < 100) :
    (twoDigits .zeros n).toList = Decimal.padded 2 '0' n := by
  have htens : ∀ d < 10, Char.ofNat ('0'.toNat + d) = Nat.digitChar d := by decide
  unfold twoDigits
  rw [String.toList_ofList, Decimal.padded_eq, Decimal.digits]
  by_cases hn : n < 10
  · rw [if_pos (by omega), Nat.toDigits_of_lt_base hn, Nat.mod_eq_of_lt hn]
    rfl
  · rw [if_neg (by omega), htens _ (by omega), Nat.toDigits_of_base_le (by decide) (by omega),
      Nat.toDigits_of_lt_base (by omega)]
    rfl

theorem toList_year {y : Int} (h0 : 0 ≤ y) (hl : y ≤ 9999) :
    (year .zeros y).toList = Decimal.padded 4 '0' y.toNat := by
  have habs : y.natAbs = y.toNat := by omega
  rw [year, if_pos ⟨h0, hl⟩, plain, signed, minusOf, if_neg (by omega), habs]
  exact String.toList_ofList

theorem toList_render?_standard (t : ZonedTime) :
    (render? t standard).map String.toList =
      some ((year .zeros t.date.year).toList ++ '-' :: (twoDigits .zeros t.date.month).toList
        ++ '-' :: (twoDigits .zeros t.date.day).toList
        ++ ' ' :: ((twoDigits .zeros t.clock.hour).toList
        ++ ':' :: (twoDigits .zeros t.clock.minute).toList
        ++ ':' :: (twoDigits .zeros t.clock.secondOfMinute).toList)) := by
  simp [standard, hyphenDate, clock, hourMinute, zeroed, render?, item, numeric,
    String.toList_append]

-- Of the years 0 to 9999 the standard format shows the key of the day and then the time.
theorem exists_render?_standard {t : ZonedTime} {k : DayKey} (hk : t.date = k.date)
    (hs : t.clock.second < 86400) (hn : t.clock.nanos < 1000000000) :
    ∃ shown, render? t standard = some shown ∧
      shown.toList = k.text.toList ++ ' ' :: ClockTime.digits t.clock.second := by
  have hy := k.year_lt
  have hyear := toList_year k.year_nonneg (by omega)
  have htwo : Decimal.tenTo 2 = 100 := rfl
  obtain ⟨-, hm, hd⟩ := k.numbers_lt
  -- without leap seconds a minute has no second past the last one
  have hsecond : t.clock.secondOfMinute = t.clock.second % 60 := by
    unfold ClockTime.secondOfMinute
    omega
  obtain ⟨shown, hshown, hlist⟩ := Option.map_eq_some_iff.mp (toList_render?_standard t)
  refine ⟨shown, hshown, ?_⟩
  rw [hlist, hk, hyear, toList_twoDigits (by omega), toList_twoDigits (by omega), hsecond,
    toList_twoDigits (by unfold ClockTime.hour; omega),
    toList_twoDigits (by unfold ClockTime.minute; omega), toList_twoDigits (by omega),
    DayKey.text, Date.toList_text]
  rfl

end Pattern

namespace TimeFormatter

-- Shows moments in UTC in the standard format.
def standardUtc : TimeFormatter := ⟨.utc, Pattern.standard⟩

theorem make_standardUtc {zones : Zone.Directory} (h : zones "UTC" = some .utc) :
    make zones "UTC" Config.standard.timeFormat = .ok standardUtc :=
  make_eq_ok_iff.mpr ⟨h, Pattern.parse?_standard⟩

-- The characters of a second since 1970: the key of its day and the time of the day.
def Shows (cs : List Char) (second : Int) : Prop :=
  ∃ k : DayKey, k.date = Date.ofDayNumber (second / 86400) ∧
    cs = k.text.toList ++ ' ' :: ClockTime.digits (second % 86400).toNat

theorem lt_iff_day_lt_or {a b : Int} :
    a < b ↔ a / 86400 < b / 86400 ∨
      (a / 86400 = b / 86400 ∧ (a % 86400).toNat < (b % 86400).toNat) := by
  omega

theorem Shows.lt_iff {cs ds : List Char} {a b : Int} (ha : Shows cs a) (hb : Shows ds b) :
    cs < ds ↔ a < b := by
  obtain ⟨j, hj, hcs⟩ := ha
  obtain ⟨k, hk, hds⟩ := hb
  have hearlier : j.date.Earlier k.date ↔ a / 86400 < b / 86400 := by
    rw [← Date.dayNumber_lt_iff, hj, hk, Date.dayNumber_ofDayNumber, Date.dayNumber_ofDayNumber]
  have heq : j.date = k.date ↔ a / 86400 = b / 86400 := by
    rw [hj, hk, Date.ofDayNumber_inj]
  rw [hcs, hds, DayKey.text_append_lt_iff, hearlier, heq, Text.cons_lt_cons_self,
    ClockTime.digits_lt_digits_iff (by omega) (by omega)]
  exact lt_iff_day_lt_or.symm

theorem Shows.eq_iff {cs ds : List Char} {a b : Int} (ha : Shows cs a) (hb : Shows ds b) :
    cs = ds ↔ a = b := by
  constructor
  · rintro rfl
    have hab := mt (ha.lt_iff hb).mpr (List.lt_irrefl cs)
    have hba := mt (hb.lt_iff ha).mpr (List.lt_irrefl cs)
    omega
  · rintro rfl
    obtain ⟨j, hj, hcs⟩ := ha
    obtain ⟨k, hk, hds⟩ := hb
    rw [hcs, hds, DayKey.ext (hj.trans hk.symm)]

-- The days up to the last tick are in years of four digits.
theorem exists_dayKey {day : Int} (h0 : 0 ≤ day) (hl : day < 2932897) :
    ∃ k : DayKey, k.date = Date.ofDayNumber day := by
  have hnumber := Date.dayNumber_ofDayNumber day
  have hlow : 0 ≤ (Date.ofDayNumber day).year := by
    apply Date.le_year_of_le_dayNumber
    rw [hnumber]
    exact Int.le_trans (by decide) h0
  have hhigh : (Date.ofDayNumber day).year ≤ 9999 := by
    apply Date.year_le_of_dayNumber_lt
    rw [hnumber]
    exact Int.lt_of_lt_of_le hl (by decide)
  exact ⟨⟨Date.ofDayNumber day, hlow, by omega⟩, rfl⟩

theorem date_inZone_utc (i : Instant) :
    (i.inZone .utc).date = Date.ofDayNumber (i.seconds / 86400) := by
  show Date.ofDayNumber ((i.seconds + 0) / 86400) = Date.ofDayNumber (i.seconds / 86400)
  rw [Int.add_zero]

theorem second_inZone_utc (i : Instant) :
    (i.inZone .utc).clock.second = (i.seconds % 86400).toNat := by
  show ((i.seconds + 0) % 86400).toNat = (i.seconds % 86400).toNat
  rw [Int.add_zero]

theorem exists_tick?_standardUtc {tick : Int} (h0 : 0 ≤ tick) (hl : tick ≤ Tick.last) :
    ∃ shown, standardUtc.tick? tick = .ok (some shown) ∧ Shows shown.toList (tick / 90000) := by
  have hday : 0 ≤ tick / 90000 / 86400 ∧ tick / 90000 / 86400 < 2932897 := by
    unfold Tick.last Tick.perSecond at hl
    omega
  obtain ⟨k, hk⟩ := exists_dayKey hday.1 hday.2
  have hseconds : (Instant.ofTick tick).seconds = tick / 90000 := by
    rw [Instant.ofTick_eq h0 hl]
    rfl
  have hdate := date_inZone_utc (Instant.ofTick tick)
  have hsecond := second_inZone_utc (Instant.ofTick tick)
  rw [hseconds] at hdate hsecond
  obtain ⟨shown, hshown, hlist⟩ := Pattern.exists_render?_standard (hdate.trans hk.symm)
    (by rw [hsecond]; omega) (Instant.nanos_ofTick_lt h0 hl)
  refine ⟨shown, ?_, k, hk, ?_⟩
  · rw [tick?_eq_ok h0 hl]
    exact congrArg Except.ok hshown
  · rw [hlist, hsecond]

theorem tick?_eq_error {f : TimeFormatter} {tick : Int} (h : tick < 0 ∨ Tick.last < tick) :
    f.tick? tick = .error (.request (.tickOutside tick)) := if_neg (by omega)

-- Hours, minutes and seconds, each in two digits, that make up a second of a day.
def IsTime (text : String) (second : Int) : Prop :=
  ∃ h m s : Nat, h < 24 ∧ m < 60 ∧ s < 60 ∧ 3600 * h + 60 * m + s = second ∧
    text = Decimal.zeros 2 h ++ ":" ++ Decimal.zeros 2 m ++ ":" ++ Decimal.zeros 2 s

theorem isTime_digits {second : Int} (h0 : 0 ≤ second) (hl : second < 86400) :
    IsTime (String.ofList (ClockTime.digits second.toNat)) second := by
  refine ⟨second.toNat / 3600, second.toNat / 60 % 60, second.toNat % 60, by omega, by omega,
    by omega, by omega, ?_⟩
  apply String.toList_injective
  simp [ClockTime.digits, Decimal.zeros, String.toList_append]

-- The key of the day that a tick falls on, so many days after the first of 1970, and the
-- time of its second of that day.
def DayAndTime (shown : String) (tick : Int) : Prop :=
  ∃ (day time : String) (k : DayKey), shown = day ++ " " ++ time ∧ day.length = 10 ∧
    DayKey.parse day = .ok k ∧
    k.date = Date.next^[(tick / (90000 * 86400)).toNat] Date.epoch ∧
    IsTime time (tick / 90000 % 86400)

theorem Shows.dayAndTime {shown : String} {tick : Int} (h0 : 0 ≤ tick)
    (h : Shows shown.toList (tick / 90000)) : DayAndTime shown tick := by
  obtain ⟨k, hk, hlist⟩ := h
  have hday : tick / 90000 / 86400 = (tick / (90000 * 86400)).toNat := by omega
  refine ⟨k.text, String.ofList (ClockTime.digits (tick / 90000 % 86400).toNat), k, ?_, ?_,
    DayKey.parse_eq_ok_iff.mpr rfl, ?_, isTime_digits (by omega) (by omega)⟩
  · apply String.toList_injective
    rw [hlist]
    simp [String.toList_append]
  · rw [← String.length_toList, k.length_text]
  · rw [hk, hday, Date.ofDayNumber_eq_iterate_next]

theorem Shows.length {shown : String} {second : Int} (h : Shows shown.toList second) :
    shown.length = 19 := by
  obtain ⟨k, hk, hlist⟩ := h
  have htime := @ClockTime.length_digits (second % 86400).toNat (by omega)
  rw [← String.length_toList, hlist, List.length_append, List.length_cons, k.length_text, htime]

-- In UTC and the standard format every tick up to the last one is shown as the day and the
-- time that it falls on, in texts that are in order of time. Any other tick is refused. Of
-- the directory nothing else counts.
theorem standard_shows_day_and_time_in_order {zones : Zone.Directory}
    (h : zones "UTC" = some .utc) :
    ∃ f, make zones "UTC" "%Y-%m-%d %H:%M:%S" = .ok f ∧
      Config.standard.timeFormat = "%Y-%m-%d %H:%M:%S" ∧
      (∀ tick, 0 ≤ tick → tick ≤ Tick.last → ∃ shown, f.tick? tick = .ok (some shown) ∧
        shown.length = 19 ∧ DayAndTime shown tick) ∧
      (∀ a b shownA shownB, 0 ≤ a → a ≤ Tick.last → 0 ≤ b → b ≤ Tick.last →
        f.tick? a = .ok (some shownA) → f.tick? b = .ok (some shownB) →
        (shownA = shownB ↔ a / 90000 = b / 90000) ∧ (shownA < shownB ↔ a / 90000 < b / 90000)) ∧
      ∀ tick, tick < 0 ∨ Tick.last < tick → ∃ e, f.tick? tick = .error e ∧
        e.isValidation = true := by
  have hshows : ∀ {tick shown}, 0 ≤ tick → tick ≤ Tick.last →
      standardUtc.tick? tick = .ok (some shown) → Shows shown.toList (tick / 90000) := by
    intro tick shown h0 hl h
    obtain ⟨found, hfound, hshows⟩ := exists_tick?_standardUtc h0 hl
    rw [h] at hfound
    cases hfound
    exact hshows
  refine ⟨standardUtc, make_standardUtc h, rfl, ?_, ?_, ?_⟩
  · intro tick h0 hl
    obtain ⟨shown, hshown, hs⟩ := exists_tick?_standardUtc h0 hl
    exact ⟨shown, hshown, hs.length, hs.dayAndTime h0⟩
  · intro a b shownA shownB ha0 hal hb0 hbl ha hb
    have hsa := hshows ha0 hal ha
    have hsb := hshows hb0 hbl hb
    refine ⟨?_, hsa.lt_iff hsb⟩
    rw [← String.toList_inj]
    exact hsa.eq_iff hsb
  · intro tick h
    exact ⟨_, tick?_eq_error h, rfl⟩

theorem standard_shows_first_and_last :
    ∃ f, make .samples "UTC" "%Y-%m-%d %H:%M:%S" = .ok f ∧ DayAndTime "1970-01-01 00:00:00" 0 ∧
      DayAndTime "9999-12-31 23:59:59" Tick.last ∧
      "1970-01-01 00:00:00" < "9999-12-31 23:59:59" ∧
      ∃ e, f.tick? (Tick.last + 1) = .error e ∧ e.isValidation = true := by
  have hutc : Zone.Directory.samples "UTC" = some .utc := by decide
  obtain ⟨f, hmake, -, hshown, horder, hrefused⟩ := standard_shows_day_and_time_in_order hutc
  obtain rfl : standardUtc = f := Except.ok.inj ((make_standardUtc hutc).symm.trans hmake)
  have hfirst : standardUtc.tick? 0 = .ok (some "1970-01-01 00:00:00") := rfl
  have hlast : standardUtc.tick? Tick.last = .ok (some "9999-12-31 23:59:59") := rfl
  refine ⟨standardUtc, hmake, ?_, ?_, ?_, hrefused (Tick.last + 1) (by decide)⟩
  · obtain ⟨shown, hs, -, hday⟩ := hshown 0 (by decide) (by decide)
    cases hfirst.symm.trans hs
    exact hday
  · obtain ⟨shown, hs, -, hday⟩ := hshown Tick.last (by decide) (by decide)
    cases hlast.symm.trans hs
    exact hday
  · obtain ⟨-, hlt⟩ := horder 0 Tick.last _ _ (by decide) (by decide) (by decide) (by decide)
      hfirst hlast
    exact hlt.mpr (by decide)

end TimeFormatter

end Footage
