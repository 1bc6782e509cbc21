import Mathlib.Data.List.Induction
import RoboBaton.Nv12.Pairing

/-! `Nv12CompressedPublisher`, the plugin that owns the encoder. It gets its requests one after
the other: `publish` holds the lock of the encoder while it encodes. -/

namespace RoboBaton.Nv12
open Camera Throwing

structure CompressedImage where
  stamp : Timestamp.RosStampParts
  frameId : String
  format : String
  data : List UInt8
  deriving DecidableEq, Repr

structure Nv12CompressedPublisher where
  encoder : Option Session
  published : List CompressedImage
  deriving DecidableEq, Repr

abbrev PublisherM := EStateM Error Nv12CompressedPublisher

inductive Request
  | advertise (jpegQuality : Int32)
  | publish (message : Image)
  deriving DecidableEq, Repr

section Plugin
variable (hb : Codec)

/-- `advertiseImpl`: the new encoder is made before the old one is destroyed. -/
def advertiseImpl (jpegQuality : Int32) : PublisherM Unit := do
  let encoder ← MonadExcept.ofExcept (x5Nv12JpegEncoder jpegQuality)
  modify fun p =>
    { p with encoder := some ⟨encoder, (p.encoder.map fun s => (destroy hb s).calls).getD []⟩ }

def compressedImage (message : Image) (jpeg : List UInt8) : CompressedImage where
  stamp := message.stamp
  frameId := message.frameId
  format := "nv12; jpeg compressed bgr8"
  data := jpeg

def publish (message : Image) : PublisherM Unit := fun p =>
  match p.encoder with
  | none => .error (.runtimeError "NV12 compressed publisher used before advertise") p
  | some s =>
    match encode hb message s with
    | .ok jpeg s => .ok () ⟨some s, p.published ++ [compressedImage message jpeg]⟩
    | .error e s => .error e { p with encoder := some s }

def Request.run : Request → PublisherM Unit
  | .advertise jpegQuality => advertiseImpl hb jpegQuality
  | .publish message => Nv12.publish hb message

/-- What one request throws goes to its caller; the next one comes all the same. -/
def serve (requests : List Request) : Nv12CompressedPublisher :=
  requests.foldl (fun p r => final (r.run hb p)) ⟨none, []⟩

end Plugin

def Request.message : Request → Option Image
  | .advertise _ => none
  | .publish message => some message

def messages (requests : List Request) : List Image := requests.filterMap Request.message

/-- The picture of `message`, made by an encoder that was asked for, and what the codec may have
left behind it. -/
structure IsCompressed (hb : Codec) (compress : MediaCodecContext → FilledInput → List UInt8)
    (requests : List Request) (message : Image) (c : CompressedImage) : Prop where
  stamp : c.stamp = message.stamp
  frameId : c.frameId = message.frameId
  format : c.format = "nv12; jpeg compressed bgr8"
  data : ∃ quality planes, .advertise quality ∈ requests ∧ 1 ≤ quality ∧ quality ≤ 100 ∧
    validateAndLocatePlanes message = .ok planes ∧
    Own hb compress quality [] message planes c.data

structure Served (hb : Codec) (compress : MediaCodecContext → FilledInput → List UInt8)
    (requests : List Request) (p : Nv12CompressedPublisher) : Prop where
  published : ∃ sent, sent.Sublist (messages requests) ∧
    List.Forall₂ (IsCompressed hb compress requests) sent p.published
  encoder : ∀ s, p.encoder = some s → ∃ quality, .advertise quality ∈ requests ∧ 1 ≤ quality ∧
    quality ≤ 100 ∧ Since quality [] Vacant s

section
variable {hb : Codec} {compress : MediaCodecContext → FilledInput → List UInt8}
  {requests : List Request} {p : Nv12CompressedPublisher}

theorem IsCompressed.mono {message : Image} {c : CompressedImage} {r : Request}
    (h : IsCompressed hb compress requests message c) :
    IsCompressed hb compress (requests ++ [r]) message c := by
  obtain ⟨quality, planes, hmem, hdata⟩ := h.data
  exact ⟨h.stamp, h.frameId, h.format, quality, planes, List.mem_append_left _ hmem, hdata⟩

theorem Served.silent {p' : Nv12CompressedPublisher} {r : Request}
    (h : Served hb compress requests p) (hpublished : p'.published = p.published)
    (hencoder : ∀ s, p'.encoder = some s → ∃ quality, .advertise quality ∈ requests ++ [r] ∧
      1 ≤ quality ∧ quality ≤ 100 ∧ Since quality [] Vacant s) :
    Served hb compress (requests ++ [r]) p' := by
  obtain ⟨sent, hsent, hall⟩ := h.published
  refine ⟨⟨sent, ?_, ?_⟩, hencoder⟩
  · rw [messages, List.filterMap_append]
    exact hsent.trans (List.sublist_append_left _ _)
  · rw [hpublished]
    exact hall.imp fun _ _ hc => hc.mono

end

def firstByte (_ : MediaCodecContext) (input : FilledInput) : List UInt8 :=
  [0xFF, 0xD8, input.luma.headD 0 &&& 0x7F, 0xFF, 0xD9]

def late : Codec := fun calls c => {
  status := if c = .mcDequeueOutputBuffer ∧ calls.all (fun r => r.call != c) then -1 else 0
  input := (willing calls c).input
  output :=
    match setup calls, backlog calls with
    | .started context, some (input :: _) =>
      ⟨some (firstByte context input), 5, by rintro _ ⟨⟩; rfl⟩
    | _, _ => ⟨none, 0, nofun⟩ }

end RoboBaton.Nv12
