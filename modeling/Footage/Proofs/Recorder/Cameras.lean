import Footage.Proofs.Camera.Loading
import Footage.Proofs.Json.Pointer
import Footage.Recorder

namespace Footage.Recorder

open Payload

-- What stands in a document around its cameras, when certain zones are known.
def HeadAt (zones : Zone.Directory) (config : Config) (v : Json) (zoneName : String)
    (f : TimeFormatter) (items : List Json) : Prop :=
  ∃ ms, v = .object ms ∧ ms.lookup "timeZoneName" = some (.string zoneName) ∧
    TimeFormatter.make zones zoneName config.timeFormat = .ok f ∧
    ms.lookup "cameras" = some (.array items)

variable {zones : Zone.Directory} {config : Config} {v : Json} {zoneName : String}
  {f : TimeFormatter} {items : List Json}

theorem readHead_eq_ok_iff :
    readHead zones config v = .ok (zoneName, f, items) ↔ HeadAt zones config v zoneName f items := by
  simp only [readHead, bind_eq_ok_iff, members_eq_ok_iff, string_eq_ok_iff, array_eq_ok_iff,
    pure_eq_ok_iff, Prod.mk.injEq]
  constructor
  · rintro ⟨ms, rfl, _, hz, _, hf, _, hi, rfl, rfl, rfl⟩
    exact ⟨ms, rfl, hz, hf, hi⟩
  · rintro ⟨ms, rfl, hz, hf, hi⟩
    exact ⟨ms, rfl, _, hz, _, hf, _, hi, rfl, rfl, rfl⟩

-- The place of a camera, as it is kept in its view.
def place (document : Json.View) (i : Nat) : Json.View :=
  ⟨document.root, document.pointer ++ ("/cameras/" ++ Decimal.ofNat i)⟩

theorem resolve_place {ms : Members}
    (hc : ms.lookup "cameras" = some (.array items)) (i : Nat) :
    (Json.object ms).resolve (place (.ofJson (.object ms)) i).pointer.toList = items[i]? := by
  have hp : (place (.ofJson (.object ms)) i).pointer.toList =
      '/' :: ("cameras".toList ++ '/' :: Decimal.digits i) := by
    simp [place, Json.View.ofJson, Decimal.ofNat, String.toList_append]
  rw [hp]
  exact Json.resolve_item (by decide) (by decide) (by simpa using hc) i

-- A document shows all items of its array, each under its number.
theorem cameraAt?_eq_some (h : HeadAt zones config v zoneName f items) {i : Nat} {item : Json}
    (hi : items[i]? = some item) :
    cameraAt? (.ofJson v) i = some (place (.ofJson v) i) ∧
      (place (.ofJson v) i).json = item := by
  obtain ⟨ms, rfl, -, -, hc⟩ := h
  have hr := resolve_place hc i
  rw [hi] at hr
  constructor
  · have hs : ((Json.object ms).resolve (place (.ofJson (.object ms)) i).pointer.toList).isSome := by
      rw [hr]
      rfl
    exact if_pos hs
  · unfold Json.View.json
    exact congrArg (Option.getD · .null) hr

-- The rest of an array stands in a document from a number on.
def Shows (document : Json.View) (first : Nat) (rest : List Json) : Prop :=
  ∀ k item, rest[k]? = some item →
    cameraAt? document (first + k) = some (place document (first + k)) ∧
      (place document (first + k)).json = item

theorem HeadAt.shows (h : HeadAt zones config v zoneName f items) : Shows (.ofJson v) 0 items := by
  intro k item hk
  rw [Nat.zero_add]
  exact cameraAt?_eq_some h hk

theorem Shows.head {document : Json.View} {first : Nat} {item : Json} {rest : List Json}
    (h : Shows document first (item :: rest)) :
    cameraAt? document first = some (place document first) ∧ (place document first).json = item :=
  h 0 item rfl

theorem Shows.tail {document : Json.View} {first : Nat} {item : Json} {rest : List Json}
    (h : Shows document first (item :: rest)) : Shows document (first + 1) rest := by
  intro k other hk
  have hs := h (k + 1) other hk
  rwa [Nat.add_assoc, Nat.add_comm 1 k]

-- An item is read as a camera, which keeps the place of the item.
def ReadAs (config : Config) (document : Json.View) (item : Json × Nat) (view : CameraView) : Prop :=
  Camera.accept config.strictDays [] item.1 = .ok view.camera ∧
    view.source = place document item.2 ∧ view.json = item.1

theorem loadCamera_eq_load {document source : Json.View} {i : Nat}
    (h : cameraAt? document i = some source) :
    loadCamera config document i = CameraView.load config [.field "cameras", .index i] source := by
  unfold loadCamera
  rw [h]

theorem outcome_loadCameras_succ (config : Config) (document : Json.View) (i count : Nat) :
    (loadCameras config document i (count + 1)).outcome =
      (do
        let camera ← (loadCamera config document i).outcome
        let cameras ← (loadCameras config document (i + 1) count).outcome
        return camera :: cameras) := by
  rw [loadCameras]
  simp only [Logged.outcome_bind]
  rfl

-- Cameras are read one by one, each from its own item. The induction is on the rest
-- of the array, which starts anywhere in the document.
theorem loadCameras_eq_ok_iff {document : Json.View} {first : Nat}
    {rest : List Json} (h : Shows document first rest) {views : List CameraView} :
    (loadCameras config document first rest.length).outcome = .ok views ↔
      List.Forall₂ (ReadAs config document) (rest.zipIdx first) views := by
  induction rest generalizing first views with
  | nil =>
      have hnone : (loadCameras config document first 0).outcome = .ok [] := rfl
      simp only [List.length_nil, hnone, Except.ok.injEq, List.zipIdx_nil,
        List.forall₂_nil_left_iff]
      exact eq_comm
  | cons item rest ih =>
      obtain ⟨hat, hjson⟩ := h.head
      simp only [List.length_cons, outcome_loadCameras_succ, loadCamera_eq_load hat,
        bind_eq_ok_iff, ih h.tail, CameraView.load_eq_ok_iff, pure_eq_ok_iff, List.zipIdx_cons,
        List.forall₂_cons_left_iff, hjson]
      constructor
      · rintro ⟨view, ⟨hc, hs⟩, more, hm, rfl⟩
        exact ⟨view, more, ⟨hc, hs, by rw [CameraView.json, hs, hjson]⟩, hm, rfl⟩
      · rintro ⟨view, more, ⟨hc, hs, -⟩, hm, rfl⟩
        exact ⟨view, ⟨hc, hs⟩, more, hm, rfl⟩

-- The first item that is refused gives the error, which is placed at that item.
theorem exists_refused_of_loadCameras_eq_error {document : Json.View}
    {first : Nat} {rest : List Json} (h : Shows document first rest) {e : ViewError}
    (he : (loadCameras config document first rest.length).outcome = .error e) :
    ∃ k inner, FirstFails (Camera.accept config.strictDays []) rest k inner ∧
      (inner.under (.index (first + k))).under (.field "cameras") = e := by
  induction rest generalizing first with
  | nil => contradiction
  | cons item rest ih =>
      obtain ⟨hat, hjson⟩ := h.head
      simp only [List.length_cons, outcome_loadCameras_succ, loadCamera_eq_load hat,
        bind_eq_error_iff, CameraView.load_eq_error_iff, CameraView.load_eq_ok_iff, hjson,
        pure_ne_error, and_false, exists_false, or_false] at he
      rcases he with ⟨inner, hr, he⟩ | ⟨view, ⟨hc, -⟩, he⟩
      · exact ⟨0, inner, .here hr rest, he⟩
      · obtain ⟨k, inner, hfirst, he⟩ := ih h.tail he
        exact ⟨k + 1, inner, hfirst.later hc, by rwa [Nat.add_comm k 1, ← Nat.add_assoc]⟩

end Footage.Recorder
