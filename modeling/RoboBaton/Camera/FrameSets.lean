import RoboBaton.Camera.Lifecycle
import Mathlib.Data.List.Perm.Subperm

/-! What a frame set holds, and what the loop of `HandleFrameSet` over its items has found out
about it. -/

namespace RoboBaton.Camera
open Transition
variable {D : Type} {s s' : Core D} {config : CameraCoreConfig}

def FrameSetItem.content (config : CameraCoreConfig) (item : FrameSetItem) :
    Option (CameraId × Frame) := do
  let c ← config.enabledCamera item.cameraId
  let frame ← item.frame
  some (c, frame)

namespace FrameSet

def listed (set : FrameSet) : List FrameSetItem :=
  (List.ofFn set.items).take set.cameraCount.toNat

def frames (config : CameraCoreConfig) (set : FrameSet) : List (CameraId × Frame) :=
  set.listed.filterMap (FrameSetItem.content config)

def frameOf (config : CameraCoreConfig) (c : CameraId) (set : FrameSet) : Option Frame :=
  (set.frames config).lookup c

end FrameSet

/-- One frame of each enabled camera, and none of any other camera. -/
def CompleteSet (config : CameraCoreConfig) (frames : List (CameraId × Frame)) : Prop :=
  (frames.map Prod.fst).Perm (cameras.filter config.cameraEnabled)

theorem FrameSetItem.content_eq_some {item : FrameSetItem} {c : CameraId} {frame : Frame} :
    item.content config = some (c, frame) ↔
      config.enabledCamera item.cameraId = some c ∧ item.frame = some frame := by
  unfold content
  cases config.enabledCamera item.cameraId <;> cases item.frame <;> simp

theorem enabledCamera_enabled {cameraId : UInt32} {c : CameraId}
    (h : config.enabledCamera cameraId = some c) : config.cameraEnabled c = true := by
  unfold CameraCoreConfig.enabledCamera at h
  split at h
  · split at h <;> cases h
    assumption
  · cases h

theorem frames_enabled {items : List FrameSetItem} {c : CameraId}
    (h : c ∈ (items.filterMap (FrameSetItem.content config)).map Prod.fst) :
    config.cameraEnabled c = true := by
  obtain ⟨⟨c', frame⟩, hmem, rfl⟩ := List.mem_map.mp h
  obtain ⟨item, -, hitem⟩ := List.mem_filterMap.mp hmem
  exact enabledCamera_enabled (FrameSetItem.content_eq_some.mp hitem).1

theorem check_eq_some {scan : Scan} {c : CameraId} {frame : Frame}
    (h : scan.check config = some (c, frame)) : scan.seen c = false ∧
      ∃ item, scan.item = some item ∧ item.content config = some (c, frame) := by
  obtain ⟨item, hitem, h⟩ := Option.bind_eq_some_iff.mp h
  obtain ⟨c', hcamera, h⟩ := Option.bind_eq_some_iff.mp h
  obtain ⟨frame', hframe, h⟩ := Option.bind_eq_some_iff.mp h
  cases hseen : scan.seen c' with
  | true => simp [hseen] at h
  | false =>
    simp only [hseen, Bool.false_eq_true, if_false, Option.some.injEq, Prod.mk.injEq] at h
    obtain ⟨rfl, rfl⟩ := h
    exact ⟨hseen, item, hitem, FrameSetItem.content_eq_some.mpr ⟨hcamera, hframe⟩⟩

/-! ### The loop -/

structure ScanOk (config : CameraCoreConfig) (scan : Scan) : Prop where
  header : headerOk config scan.set = true
  retained : scan.retained =
    (scan.set.listed.take scan.index).filterMap (FrameSetItem.content config)
  length : scan.retained.length = scan.index
  nodup : (scan.retained.map Prod.fst).Nodup
  seen : ∀ c, scan.seen c = true ↔ c ∈ scan.retained.map Prod.fst

namespace ScanOk
variable {scan : Scan} {c : CameraId} {frame : Frame} {set : FrameSet}

theorem start (h : headerOk config set = true) : ScanOk config (.start set) where
  header := h
  retained := rfl
  length := rfl
  nodup := List.nodup_nil
  seen := by simp [Scan.start]

theorem next (h : ScanOk config scan) (hindex : scan.index < scan.set.cameraCount.toNat)
    (hcheck : scan.check config = some (c, frame)) :
    ScanOk config ((scan.see c).take c frame).next := by
  obtain ⟨hseen, item, hitem, hcontent⟩ := check_eq_some hcheck
  have hfresh : c ∉ scan.retained.map Prod.fst := fun hmem =>
    absurd (((h.seen c).mpr hmem).symm.trans hseen) (by decide)
  have hlisted : scan.set.listed[scan.index]? = some item := by
    unfold Scan.item at hitem
    split at hitem
    · rename_i hmax
      rw [FrameSet.listed, List.getElem?_take_of_lt hindex, List.getElem?_ofFn, dif_pos hmax]
      exact hitem
    · cases hitem
  constructor
  case header => exact h.header
  case retained =>
    show scan.retained ++ [(c, frame)] =
      (scan.set.listed.take (scan.index + 1)).filterMap (FrameSetItem.content config)
    rw [List.take_add_one, hlisted, List.filterMap_append, ← h.retained, Option.toList_some,
      List.filterMap_cons_some hcontent, List.filterMap_nil]
  case length =>
    show (scan.retained ++ [(c, frame)]).length = scan.index + 1
    rw [List.length_append, h.length, List.length_singleton]
  case nodup =>
    show ((scan.retained ++ [(c, frame)]).map Prod.fst).Nodup
    rw [List.map_append]
    exact List.Nodup.append h.nodup (List.nodup_singleton c) (by simpa using hfresh)
  case seen =>
    intro c'
    show Function.update scan.seen c true c' = true ↔
      c' ∈ (scan.retained ++ [(c, frame)]).map Prod.fst
    by_cases hc : c' = c
    · subst hc
      simp
    · rw [Function.update_of_ne hc, h.seen c']
      simp [hc]

theorem frameOf (h : ScanOk config scan) (hmem : (c, frame) ∈ scan.retained) :
    scan.set.frameOf config c = some frame := by
  have hsplit : scan.set.frames config = scan.retained ++
      (scan.set.listed.drop scan.index).filterMap (FrameSetItem.content config) := by
    rw [h.retained, ← List.filterMap_append, List.take_append_drop]
    rfl
  obtain ⟨before, after, heq⟩ := List.append_of_mem hmem
  have hlookup : scan.retained.lookup c = some frame := by
    refine List.lookup_eq_some_iff.mpr ⟨before, after, heq, fun p hp => ?_⟩
    have hnodup := h.nodup
    rw [heq, List.map_append, List.map_cons] at hnodup
    have hne := (List.nodup_append.mp hnodup).2.2 p.1 (List.mem_map_of_mem hp) c List.mem_cons_self
    simpa using hne.symm
  rw [FrameSet.frameOf, hsplit, List.lookup_append, hlookup, Option.some_or]

/-- At the end of the loop: as many items as there are enabled cameras, all of different ones. -/
theorem complete (h : ScanOk config scan) (hend : scan.set.cameraCount.toNat ≤ scan.index) :
    scan.retained = scan.set.frames config ∧ CompleteSet config scan.retained := by
  have hlisted : scan.set.listed.length ≤ scan.index :=
    (List.length_take_le _ _).trans hend
  have hretained : scan.retained = scan.set.frames config := by
    rw [h.retained, List.take_of_length_le hlisted]
    rfl
  have hcount : scan.set.cameraCount.toNat = config.enabledCameraCount := by
    have hheader := h.header
    simp only [headerOk, Bool.and_eq_true, beq_iff_eq] at hheader
    exact hheader.1.1.2
  refine ⟨hretained, (List.subperm_of_subset h.nodup ?_).perm_of_length_le ?_⟩
  · intro c hc
    rw [h.retained] at hc
    exact List.mem_filter.mpr ⟨List.mem_finRange c, frames_enabled hc⟩
  · rw [List.length_map, h.length]
    exact hcount.symm.le.trans hend

theorem seen_of_complete (h : ScanOk config scan)
    (hend : scan.set.cameraCount.toNat ≤ scan.index) (henabled : config.cameraEnabled c = true) :
    scan.seen c = true :=
  (h.seen c).mpr ((h.complete hend).2.mem_iff.mpr
    (List.mem_filter.mpr ⟨List.mem_finRange c, henabled⟩))

end ScanOk
end RoboBaton.Camera
