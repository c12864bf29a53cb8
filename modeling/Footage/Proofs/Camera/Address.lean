import Footage.Camera
import Footage.Proofs.Day.Total
import Footage.Proofs.Payload
import Footage.Proofs.Recording.Segment
import Footage.Proofs.Route

namespace Footage.Camera

open Payload

-- What is asked for of a camera.
inductive Asked
  | recordings (stream : StreamType) (limits : Option TimeRange) (split : Option Int)
  | viewMp4 (stream : StreamType) (segment : String)
  | viewM4s (stream : StreamType) (segment : String)

namespace Asked

-- The address where a camera has it, or why there is none.
def path (c : Camera) : Asked → Except ViewError String
  | recordings stream limits split => (c.recordings stream limits split).map Route.path
  | viewMp4 stream segment => (c.viewMp4 stream segment).map Route.path
  | viewM4s stream segment => (c.viewM4s stream segment).map Route.path

-- Parts of a listing have some length.
def SplitPositive : Asked → Prop
  | recordings _ _ split => ∀ n, split = some n → 0 < n
  | viewMp4 _ _ => True
  | viewM4s _ _ => True

-- The same is asked for. Of the limits of a listing the two ends count.
inductive Same : Asked → Asked → Prop
  | recordings {stream : StreamType} {limits limits' : Option TimeRange} {split : Option Int} :
      limits.map (fun r => (r.start, r.stop)) = limits'.map (fun r => (r.start, r.stop)) →
      Same (.recordings stream limits split) (.recordings stream limits' split)
  | viewMp4 {stream : StreamType} {segment : String} :
      Same (.viewMp4 stream segment) (.viewMp4 stream segment)
  | viewM4s {stream : StreamType} {segment : String} :
      Same (.viewM4s stream segment) (.viewM4s stream segment)

def stream : Asked → StreamType
  | recordings stream _ _ => stream
  | viewMp4 stream _ => stream
  | viewM4s stream _ => stream

-- What comes after the stream in an address.
def rest : Asked → String
  | recordings _ limits split =>
    "/recordings" ++ Route.query (Route.terms (limits.map fun r => (r.start, r.stop)) split)
  | viewMp4 _ segment => "/view.mp4?s=" ++ segment
  | viewM4s _ segment => "/view.m4s?s=" ++ segment

end Asked

theorem uuid_eq_ok_iff {c : Camera} {u : Uuid} : c.uuid = .ok u ↔ Uuid.parse? c.id = some u := by
  unfold uuid
  cases Uuid.parse? c.id <;> simp

theorem exists_uuid_eq_error_iff {c : Camera} :
    (∃ e, c.uuid = .error e) ↔ Uuid.parse? c.id = none := by
  unfold uuid
  cases Uuid.parse? c.id <;> simp

theorem checkSplit_eq_ok_iff {split : Option Int} {u : Unit} :
    checkSplit split = .ok u ↔ ∀ n, split = some n → 0 < n := by
  cases split with
  | none => simp [checkSplit]
  | some n =>
      simp only [checkSplit, Option.some.injEq, forall_eq']
      by_cases hn : n ≤ 0
      · rw [if_pos hn]
        simpa using hn
      · rw [if_neg hn]
        simpa using hn

theorem checkSplit_eq_error {n : Int} (h : n ≤ 0) :
    checkSplit (some n) = .error (.request (.splitNotPositive n)) := if_pos h

-- A split without any length is refused before the identifier is looked at.
theorem recordings_eq_error_of_split {c : Camera} {stream : StreamType}
    {limits : Option TimeRange} {n : Int} (h : n ≤ 0) :
    c.recordings stream limits (some n) = .error (.request (.splitNotPositive n)) := by
  rw [recordings, checkSplit_eq_error h]
  rfl

theorem exists_recordings_eq_error_iff {c : Camera} {stream : StreamType}
    {limits : Option TimeRange} {split : Option Int} :
    (∃ e, c.recordings stream limits split = .error e) ↔
      (∃ n, split = some n ∧ n ≤ 0) ∨ Uuid.parse? c.id = none := by
  rw [← exists_uuid_eq_error_iff]
  by_cases hsplit : ∃ n, split = some n ∧ n ≤ 0
  · obtain ⟨n, rfl, hn⟩ := hsplit
    exact iff_of_true ⟨_, recordings_eq_error_of_split hn⟩ (Or.inl ⟨n, rfl, hn⟩)
  · have hok : checkSplit split = .ok () := by
      rw [checkSplit_eq_ok_iff]
      intro n hn
      by_contra hle
      exact hsplit ⟨n, hn, by omega⟩
    rw [or_iff_right hsplit]
    simp only [recordings, bind_eq_error_iff, hok, reduceCtorEq, pure_ne_error, and_false,
      exists_false, or_false, false_or, exists_const, true_and]

theorem exists_map_uuid_eq_error_iff {c : Camera} {f : Uuid → Route} :
    (∃ e, c.uuid.map f = .error e) ↔ Uuid.parse? c.id = none := by
  simp only [map_eq_error_iff, exists_uuid_eq_error_iff]

namespace Asked

-- Every address is the one of the camera, with a stream and the rest behind it.
theorem path_eq_ok {c : Camera} {u : Uuid} (hc : Uuid.parse? c.id = some u) {x : Asked}
    (hx : x.SplitPositive) :
    x.path c = .ok (Route.cameraPath u ++ (x.stream.name ++ x.rest)) := by
  have hu := uuid_eq_ok_iff.mpr hc
  cases x with
  | recordings stream limits split =>
      have hs : checkSplit split = .ok () := checkSplit_eq_ok_iff.mpr hx
      have hr : c.recordings stream limits split =
          .ok (.recordings u stream (limits.map fun r => (r.start, r.stop)) split) := by
        rw [Camera.recordings, hs, hu]
        rfl
      rw [path, hr, Except.map, Route.path, String.append_assoc, String.append_assoc]
      rfl
  | viewMp4 stream segment =>
      have hr : c.viewMp4 stream segment = .ok (.viewMp4 u stream segment) := by
        rw [Camera.viewMp4, hu]
        rfl
      rw [path, hr, Except.map, Route.path, String.append_assoc, String.append_assoc]
      rfl
  | viewM4s stream segment =>
      have hr : c.viewM4s stream segment = .ok (.viewM4s u stream segment) := by
        rw [Camera.viewM4s, hu]
        rfl
      rw [path, hr, Except.map, Route.path, String.append_assoc, String.append_assoc]
      rfl

theorem recordings_ne_viewMp4 (s t : String) : "/recordings" ++ s ≠ "/view.mp4?s=" ++ t :=
  Text.ne_of_getElem? 1 (by simp [String.toList_append])

theorem recordings_ne_viewM4s (s t : String) : "/recordings" ++ s ≠ "/view.m4s?s=" ++ t :=
  Text.ne_of_getElem? 1 (by simp [String.toList_append])

theorem viewMp4_ne_viewM4s (s t : String) : "/view.mp4?s=" ++ s ≠ "/view.m4s?s=" ++ t :=
  Text.ne_of_getElem? 7 (by simp [String.toList_append])

theorem same_iff {x y : Asked} : x.Same y ↔ x.stream = y.stream ∧ x.rest = y.rest := by
  constructor
  · intro h
    cases h with
    | recordings hl => simp [stream, rest, hl]
    | viewMp4 => exact ⟨rfl, rfl⟩
    | viewM4s => exact ⟨rfl, rfl⟩
  · rintro ⟨hs, hr⟩
    cases x with
    | recordings a limits split =>
        cases y with
        | recordings b limits' split' =>
            obtain rfl : a = b := hs
            rw [rest, rest, String.append_right_inj,
              Route.query_inj (fun _ => Route.notMem_of_mem_terms)
                (fun _ => Route.notMem_of_mem_terms), Route.terms_inj] at hr
            obtain ⟨hl, rfl⟩ := hr
            exact .recordings hl
        | viewMp4 => exact absurd hr (recordings_ne_viewMp4 _ _)
        | viewM4s => exact absurd hr (recordings_ne_viewM4s _ _)
    | viewMp4 a segment =>
        cases y with
        | recordings => exact absurd hr.symm (recordings_ne_viewMp4 _ _)
        | viewMp4 b segment' =>
            obtain rfl : a = b := hs
            obtain rfl := (String.append_right_inj _).mp hr
            exact .viewMp4
        | viewM4s => exact absurd hr (viewMp4_ne_viewM4s _ _)
    | viewM4s a segment =>
        cases y with
        | recordings => exact absurd hr.symm (recordings_ne_viewM4s _ _)
        | viewMp4 => exact absurd hr.symm (viewMp4_ne_viewM4s _ _)
        | viewM4s b segment' =>
            obtain rfl : a = b := hs
            obtain rfl := (String.append_right_inj _).mp hr
            exact .viewM4s

end Asked

-- A listing is refused exactly when it is to be split into parts without any length,
-- which is found first, or when the camera has no identifier of the right form; a view
-- only for the latter. All other addresses are told apart: they are the same exactly when
-- the identifiers have the same value and the same is asked for. A segment that was cut
-- out of a recording is known by its text.
theorem path_eq_iff_same :
    (∀ (c : Camera) stream limits split,
      ((∃ e, c.recordings stream limits split = .error e) ↔
        (∃ n, split = some n ∧ n ≤ 0) ∨ Uuid.parse? c.id = none) ∧
      ∀ n, split = some n → n ≤ 0 →
        c.recordings stream limits split = .error (.request (.splitNotPositive n))) ∧
    (∀ (c : Camera) stream segment,
      ((∃ e, c.viewMp4 stream segment = .error e) ↔ Uuid.parse? c.id = none) ∧
      ((∃ e, c.viewM4s stream segment = .error e) ↔ Uuid.parse? c.id = none)) ∧
    (∀ (c d : Camera) (u v : Uuid), Uuid.parse? c.id = some u → Uuid.parse? d.id = some v →
      ∀ x y : Asked, x.SplitPositive → y.SplitPositive →
        ∃ p q, x.path c = .ok p ∧ y.path d = .ok q ∧ (p = q ↔ u = v ∧ x.Same y)) ∧
    ∀ g k : Segment, RecordingList.Cuts g → RecordingList.Cuts k → (g.text = k.text ↔ g = k) := by
  refine ⟨fun c stream limits split => ⟨exists_recordings_eq_error_iff, ?_⟩,
    fun c stream segment => ⟨exists_map_uuid_eq_error_iff, exists_map_uuid_eq_error_iff⟩, ?_,
    fun g k hg hk => hg.counted.text_inj hk.counted⟩
  · rintro n rfl hn
    exact recordings_eq_error_of_split hn
  · intro c d u v hc hd x y hx hy
    refine ⟨_, _, Asked.path_eq_ok hc hx, Asked.path_eq_ok hd hy, ?_⟩
    rw [Route.cameraPath_append_inj, StreamType.name_append_inj, Asked.same_iff]

-- A camera without any days, by its identifier.
def named (id : String) : Camera :=
  ⟨id, "", "", 0, 0, .whole, .empty⟩

-- One identifier in two spellings has one listing of a range, which is not the one of all.
theorem path_eq_of_spellings :
    let c := named "7f8d1c223a8e4a8e9f0b5d5bbd3b2c11"
    let d := named "URN:UUID:7F8D1C22-3A8E-4A8E-9F0B-5D5BBD3B2C11"
    let range : TimeRange := ⟨0, 90000, 7, by decide, by decide, by decide, by decide, by decide⟩
    (∃ p, (Asked.recordings .main (some range) (some 1)).path c = .ok p ∧
      (Asked.recordings .main (some range) (some 1)).path d = .ok p) ∧
    ∃ p q, (Asked.recordings .main (some range) (some 1)).path c = .ok p ∧
      (Asked.recordings .main none (some 1)).path d = .ok q ∧ p ≠ q := by
  intro c d range
  let u : Uuid := ⟨[7, 15, 8, 13, 1, 12, 2, 2, 3, 10, 8, 14, 4, 10, 8, 14, 9, 15, 0, 11, 5, 13, 5,
    11, 11, 13, 3, 11, 2, 12, 1, 1], rfl⟩
  have hc : Uuid.parse? c.id = some u := by decide
  have hd : Uuid.parse? d.id = some u := by decide
  have hsplit : ∀ n, some (1 : Int) = some n → 0 < n := by
    intro n hn
    cases hn
    decide
  have hpaths := path_eq_iff_same.2.2.1 c d u u hc hd
  constructor
  · obtain ⟨p, q, hp, hq, hpq⟩ := hpaths (.recordings .main (some range) (some 1))
      (.recordings .main (some range) (some 1)) hsplit hsplit
    obtain rfl := hpq.mpr ⟨rfl, .recordings rfl⟩
    exact ⟨p, hp, hq⟩
  · obtain ⟨p, q, hp, hq, hpq⟩ := hpaths (.recordings .main (some range) (some 1))
      (.recordings .main none (some 1)) hsplit hsplit
    refine ⟨p, q, hp, hq, fun he => ?_⟩
    obtain ⟨-, hsame⟩ := hpq.mp he
    cases hsame with
    | recordings hl => contradiction

end Footage.Camera
