import RoboBaton.Nv12.CodecSizes
import RoboBaton.Nv12.JpegEnd
import RoboBaton.Nv12.Layouts

/-! Which picture an `Encode` returns. The codec takes pictures and gives them back later, in
order; whatever failed before, an encoder gets back the picture that it has just put in. -/

namespace RoboBaton.Nv12
open Camera Strided Throwing

/-! ### The pictures in the codec -/

/-- The pictures taken and not given back, the oldest first. After a call that failed it is not
known whether the codec has taken or given back one. -/
def backlogAfter (b : Option (List FilledInput)) (r : CallResult) : Option (List FilledInput) :=
  match r.call with
  | .mcInitialize _ => if r.status = 0 then some [] else b
  | .mcQueueInputBuffer input => if r.status = 0 then b.map (· ++ [input]) else none
  | .mcDequeueOutputBuffer => if r.status = 0 then b.map List.tail else none
  | .mcRelease => some []
  | _ => b

def backlog (calls : List CallResult) : Option (List FilledInput) :=
  calls.foldl backlogAfter (some [])

@[simp] theorem backlog_append_singleton (calls : List CallResult) (r : CallResult) :
    backlog (calls ++ [r]) = backlogAfter (backlog calls) r := by
  rw [backlog, List.foldl_append]
  rfl

structure Shows (image : Image) (planes : Nv12Planes) (dequeued : CodecInput) (input : FilledInput) :
    Prop where
  copied : copyIntoCodecInput planes image.data dequeued = .ok input
  luma : ∀ r c, r < image.height.toNat → c < image.width.toNat →
    input.luma[r * dequeued.stride.toInt.toNat + c]? = image.data[r * image.step.toNat + c]?
  chroma : ∀ r c, r < image.height.toNat / 2 → c < image.width.toNat →
    input.chroma[r * (uvStride dequeued).toInt.toNat + c]? =
      image.data[planes.uvData.toNat + r * image.step.toNat + c]?

structure Since (quality : Int32) (earlier : List CallResult)
    (K : Setup → Option (List FilledInput) → Encoder → Prop) (s : Session) : Prop where
  quality : s.encoder.jpegQuality = quality
  later : earlier <+: s.calls
  holds : K (setup s.calls) (backlog s.calls) s.encoder

/-- Between two calls of the methods: a context that runs has no picture in it. -/
def Vacant (t : Setup) (b : Option (List FilledInput)) (e : Encoder) : Prop :=
  e.started = true → b = some [] ∧ t = .started (contextFor e.jpegQuality e.width e.height)

section
variable {hb : Codec} {quality : Int32} {earlier : List CallResult}
  {K K' : Setup → Option (List FilledInput) → Encoder → Prop} {P : Session → Prop}
  {E : Error → Session → Prop} {planes : Nv12Planes}

theorem Since.mono {s : Session} (hs : Since quality earlier K s)
    (h : ∀ t b e, e.jpegQuality = quality → K t b e → K' t b e) : Since quality earlier K' s :=
  ⟨hs.quality, hs.later, h _ _ _ hs.quality hs.holds⟩

theorem Since.call {s : Session} (hs : Since quality earlier K s) (r : CallResult)
    (h : ∀ t b e, K t b e → K' (t.after r) (backlogAfter b r) e) :
    Since quality earlier K' ⟨s.encoder, s.calls ++ [r]⟩ := by
  refine ⟨hs.quality, hs.later.trans (List.prefix_append _ _), ?_⟩
  rw [setup_append_singleton, backlog_append_singleton]
  exact h _ _ _ hs.holds

/-- The bytes are cut out of a buffer that holds `picture` and, behind it, `t`. -/
structure Cut (picture t jpeg : List UInt8) : Prop where
  starts : picture <+: jpeg
  inside : jpeg <+: picture ++ t
  exactly : ¬ HasEoi t → jpeg = picture

/-- The bytes start with what the codec makes of the rows of `image`, which were put into it in
this call, and are from the buffer that it gave back for them. -/
def Own (hb : Codec) (compress : MediaCodecContext → FilledInput → List UInt8) (quality : Int32)
    (earlier : List CallResult) (image : Image) (planes : Nv12Planes) (jpeg : List UInt8) : Prop :=
  ∃ calls answered input t, earlier <+: calls ∧ earlier <+: answered ∧
    Shows image planes (hb calls .mcDequeueInputBuffer).input input ∧
    (hb answered .mcDequeueOutputBuffer).output.virPtr =
      some (compress (contextFor quality planes.width planes.height) input ++ t) ∧
    Cut (compress (contextFor quality planes.width planes.height) input) t jpeg

variable {compress : MediaCodecContext → FilledInput → List UInt8} {image : Image}

end

end RoboBaton.Nv12
