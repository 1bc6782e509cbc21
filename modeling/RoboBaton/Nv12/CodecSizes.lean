import RoboBaton.Nv12.CodecProtocol

/-! The size of the running codec context and of its buffers, whatever pictures came before and
whatever the codec answered. -/

namespace RoboBaton.Nv12
open Camera Throwing

/-! ### Arithmetic of the capacity -/

theorem toNat_and_not_mask (x m : UInt64) (k : ℕ) (hm : m.toNat = 2 ^ k - 1) :
    (x &&& ~~~m).toNat = x.toNat / 2 ^ k * 2 ^ k := by
  apply Nat.eq_of_testBit_eq
  intro i
  have hnot : (~~~m).toNat.testBit i = (decide (i < 64) && !decide (i < k)) := by
    have hsize : UInt64.size - 1 - m.toNat = 2 ^ 64 - (m.toNat + 1) := by
      rw [Nat.sub_sub, Nat.add_comm]
      rfl
    rw [UInt64.toNat_not, hsize, Nat.testBit_two_pow_sub_succ m.toNat_lt, hm,
      Nat.testBit_two_pow_sub_one]
  rw [UInt64.toNat_and, Nat.testBit_and, hnot, Nat.testBit_mul_two_pow, Nat.testBit_div_two_pow]
  by_cases hk : k ≤ i
  · rw [Nat.sub_add_cancel hk]
    rcases Nat.lt_or_ge i 64 with hi | hi
    · simp [hi, hk, not_lt.mpr hk]
    · have hhigh : x.toNat.testBit i = false :=
        Nat.testBit_lt_two_pow (x.toNat_lt.trans_le (Nat.pow_le_pow_right (by decide) hi))
      simp [hhigh]
  · simp [hk, not_le.mp hk]

theorem toNat_bitstreamSize {width height : Int32} (hw : 0 ≤ width.toInt) (hh : 0 ≤ height.toInt) :
    width.toInt.toNat * height.toInt.toNat * 3 + 4095 < 2 ^ 64 ∧
    (bitstreamSize width height).toNat =
      (width.toInt.toNat * height.toInt.toNat * 3 / 2 + 4095) / 4096 * 4096 := by
  have hw' := width.toInt_lt
  have hh' := height.toInt_lt
  have hlt : width.toInt.toNat * height.toInt.toNat < 2 ^ 31 * 2 ^ 31 :=
    Nat.mul_lt_mul_of_le_of_lt (by omega) (by omega) (by decide)
  have hsmall : width.toInt.toNat * height.toInt.toNat * 3 + 4095 < 2 ^ 64 := by omega
  refine ⟨hsmall, ?_⟩
  have hpixels := toNat_ofInt_mul hw hh hw' hh'
  dsimp only [bitstreamSize]
  rw [toNat_and_not_mask _ _ 12 rfl, UInt64.toNat_add, UInt64.toNat_div, UInt64.toNat_mul, hpixels]
  generalize width.toInt.toNat * height.toInt.toNat = pixels at hsmall
  show ((pixels * 3 % 2 ^ 64 / 2 + 4095) % 2 ^ 64) / 4096 * 4096 = _
  rw [Nat.mod_eq_of_lt (a := pixels * 3) (by omega), Nat.mod_eq_of_lt (by omega)]

/-- A context for pictures of its size: the capacity of its bitstream buffers is a whole number
of pages with room for the picture, and no step of its computation leaves its type. -/
structure Fits (context : MediaCodecContext) : Prop where
  width_pos : 0 < context.width.toInt
  height_pos : 0 < context.height.toInt
  noWrap : context.width.toInt.toNat * context.height.toInt.toNat * 3 + 4095 < 2 ^ 64
  exact : context.bitstreamBufSize.toNat =
    (context.width.toInt.toNat * context.height.toInt.toNat * 3 / 2 + 4095) / 4096 * 4096
  aligned : 4096 ∣ context.bitstreamBufSize.toNat
  room : context.width.toInt.toNat * context.height.toInt.toNat * 3 / 2 ≤
    context.bitstreamBufSize.toNat
  lt : context.bitstreamBufSize.toNat < 2 ^ 32

theorem fits_contextFor {jpegQuality width height : Int32} (hw : 0 < width.toInt)
    (hh : 0 < height.toInt) (hrange : ¬ (bitstreamSize width height = 0 ∨
      bitstreamSize width height > 0xFFFFFFFF)) : Fits (contextFor jpegQuality width height) := by
  obtain ⟨hwrap, hsize⟩ := toNat_bitstreamSize hw.le hh.le
  have hle : (bitstreamSize width height).toNat < 2 ^ 32 := by
    have hle := (not_or.mp hrange).2
    rw [gt_iff_lt, UInt64.lt_iff_toNat_lt, not_lt] at hle
    exact Nat.lt_succ_of_le hle
  have hexact : (contextFor jpegQuality width height).bitstreamBufSize.toNat =
      (width.toInt.toNat * height.toInt.toNat * 3 / 2 + 4095) / 4096 * 4096 := by
    show (bitstreamSize width height).toUInt32.toNat = _
    rw [UInt64.toNat_toUInt32, Nat.mod_eq_of_lt hle, hsize]
  refine ⟨hw, hh, hwrap, hexact, ?_, ?_, UInt32.toNat_lt _⟩
  · exact hexact ▸ Nat.dvd_mul_left _ _
  · rw [hexact]
    show width.toInt.toNat * height.toInt.toNat * 3 / 2 ≤ _
    omega

/-! ### The context that runs -/

inductive Setup
  | none
  | initialized (context : MediaCodecContext)
  | configured (context : MediaCodecContext)
  | started (context : MediaCodecContext)
  deriving DecidableEq, Repr

def Setup.after (t : Setup) (r : CallResult) : Setup :=
  match r.call with
  | .mcInitialize context => if r.status = 0 then .initialized context else t
  | .mcConfigure context =>
    if r.status = 0 ∧ t = .initialized context then .configured context else t
  | .mcStart context => if r.status = 0 ∧ t = .configured context then .started context else t
  | .mcDequeueInputBuffer => t
  | .mcQueueInputBuffer _ => t
  | .mcDequeueOutputBuffer => t
  | .mcQueueOutputBuffer => t
  | .mcPause => .none
  | .mcRelease => .none

def setup (calls : List CallResult) : Setup := calls.foldl Setup.after .none

@[simp] theorem setup_append_singleton (calls : List CallResult) (r : CallResult) :
    setup (calls ++ [r]) = (setup calls).after r := by
  rw [setup, List.foldl_append]
  rfl

/-- The sizes in a call: a new context fits its size, and a picture that is queued has the
size of the running context and its exact number of bytes. -/
def Proper (t : Setup) (r : CallResult) : Prop :=
  match r.call with
  | .mcInitialize context => Fits context
  | .mcQueueInputBuffer input => ∃ context, t = .started context ∧
      context.width = input.width ∧ context.height = input.height ∧
      input.size.toNat = input.width.toInt.toNat * input.height.toInt.toNat * 3 / 2
  | _ => True

def AllProper (calls : List CallResult) : Prop :=
  ∀ before r after, calls = before ++ r :: after → Proper (setup before) r

theorem AllProper.append {calls : List CallResult} {r : CallResult} (h : AllProper calls)
    (hr : Proper (setup calls) r) : AllProper (calls ++ [r]) := by
  intro before r' after hsplit
  rcases List.eq_nil_or_concat after with rfl | ⟨after, last, rfl⟩
  · obtain ⟨rfl, hlast⟩ := List.append_inj' hsplit rfl
    obtain rfl : r = r' := by simpa using hlast
    exact hr
  · rw [List.concat_eq_append, ← List.cons_append, ← List.append_assoc] at hsplit
    obtain ⟨rfl, -⟩ := List.append_inj' hsplit rfl
    exact h before r' after rfl

structure At (K : Setup → Encoder → Prop) (s : Session) : Prop where
  proper : AllProper s.calls
  holds : K (setup s.calls) s.encoder

def Ready (width height : Int32) (t : Setup) (e : Encoder) : Prop :=
  e.width = width ∧ e.height = height ∧ ∃ context, t = .started context ∧ Fits context ∧
    context.width = width ∧ context.height = height

def Idle (_ : Setup) (e : Encoder) : Prop := e.started = false

def Sized (t : Setup) (e : Encoder) : Prop := e.started = true → Ready e.width e.height t e

theorem Idle.sized {t : Setup} {e : Encoder} (h : Idle t e) : Sized t e := fun hstarted =>
  absurd (h.symm.trans hstarted) Bool.false_ne_true

theorem Ready.sized {width height : Int32} {t : Setup} {e : Encoder}
    (h : Ready width height t e) : Sized t e := by
  obtain ⟨rfl, rfl, hcontext⟩ := h
  exact fun _ => ⟨rfl, rfl, hcontext⟩

section
variable {hb : Codec} {K K' F : Setup → Encoder → Prop} {E : Error → Session → Prop}

theorem sized_call {c : Call} (K' : Int32 → Setup → Encoder → Prop)
    (hc : ∀ t e status, K t e → Proper t ⟨c, status⟩)
    (h : ∀ t e status, K t e → K' status (t.after ⟨c, status⟩) e) :
    Triple (At K) (call hb c) (fun reply => At (K' reply.status)) E := by
  rintro s ⟨hproper, hK⟩
  refine ⟨hproper.append (hc _ _ _ hK), ?_⟩
  show K' _ (setup (s.calls ++ [_])) s.encoder
  rw [setup_append_singleton]
  exact h _ _ _ hK

theorem sized_checkedCall {c : Call} {operation : String}
    (hc : ∀ t e status, K t e → Proper t ⟨c, status⟩)
    (h : ∀ t e, K t e → K' (t.after ⟨c, 0⟩) e)
    (hfail : ∀ t e status, status ≠ 0 → K t e → F (t.after ⟨c, status⟩) e) :
    Triple (At K) (checkedCall hb c operation) (fun _ => At K') (fun _ => At F) := by
  apply Triple.bind (sized_call
    (fun status t e => if status = 0 then K' t e else F t e) hc fun t e status hK => ?_)
  · intro reply
    apply Triple.bind (R := fun _ => At K')
    · apply Triple.ite
      · intro hstatus
        apply triple_throw
        intro s hs
        simpa only [if_neg hstatus] using hs
      · intro hstatus
        apply triple_pure
        intro s hs
        simpa only [if_pos (not_not.mp hstatus)] using hs
    · exact fun _ => triple_pure fun s hs => hs
  · split
    · rename_i hstatus
      exact hstatus ▸ h t e hK
    · rename_i hstatus
      exact hfail t e status hstatus hK

theorem sized_transfers {c : Call} {operation : String}
    (hc : ∀ t e status, K t e → Proper t ⟨c, status⟩)
    (h : ∀ (t : Setup) status, t.after ⟨c, status⟩ = t) :
    Triple (At K) (checkedCall hb c operation) (fun _ => At K) (fun _ => At K) :=
  sized_checkedCall hc (fun t e hK => by rwa [h]) fun t e status _ hK => by rwa [h]

theorem sized_setEncoder {f : Encoder → Encoder} (h : ∀ t e, K t e → K' t (f e)) :
    Triple (At K) (setEncoder f) (fun _ => At K') E := by
  apply triple_modify
  exact fun s hs => ⟨hs.proper, h _ _ hs.holds⟩

/-! ### The methods -/

theorem sized_reset : Triple (At Sized) (reset hb) (fun _ => At Idle) E := by
  apply Triple.bind (R := fun _ => At Idle)
  · apply Triple.bind (R := fun s t => s = t ∧ At Sized t)
    · exact triple_get fun s hs => ⟨rfl, hs⟩
    intro s
    apply Triple.ite
    · intro _
      apply Triple.bind (R := fun _ => At fun _ _ => True)
      · refine (sized_call (K := Sized) (fun _ _ _ => True) ?_ ?_).pre fun t ht => ht.2
        · exact fun _ _ _ _ => trivial
        · exact fun _ _ _ _ => trivial
      · exact fun _ => sized_setEncoder fun _ _ _ => rfl
    · intro hstarted
      apply triple_pure
      rintro _ ⟨rfl, hs⟩
      exact ⟨hs.proper, Bool.eq_false_iff.mpr hstarted⟩
  intro _
  apply Triple.bind (R := fun _ => At Idle)
  · apply Triple.bind (R := fun _ => At Idle)
    · exact triple_get fun s hs => hs
    intro s
    apply Triple.ite
    · intro _
      apply Triple.bind (R := fun _ => At Idle)
      · exact sized_call (fun _ => Idle) (fun _ _ _ _ => trivial) fun _ _ _ h => h
      · exact fun _ => sized_setEncoder fun _ _ h => h
    · exact fun _ => triple_pure fun s hs => hs
  intro _
  exact sized_setEncoder fun _ _ h => h

theorem sized_openContext {width height : Int32} (hw : 0 < width.toInt) (hh : 0 < height.toInt) :
    Triple (At Sized) (openContext hb width height) (fun _ => At (Ready width height))
      (fun _ => At Idle) := by
  apply sized_reset.bind
  intro _
  apply Triple.ite
  · intro _
    exact triple_throw fun s hs => hs
  intro hrange
  apply Triple.bind (R := fun _ => At Idle)
  · exact triple_get fun s hs => hs
  intro s
  have hfits : Fits (contextFor s.encoder.jpegQuality width height) := fits_contextFor hw hh hrange
  generalize hcontext : contextFor s.encoder.jpegQuality width height = context at hfits
  have hwidth : context.width = width := hcontext ▸ rfl
  have hheight : context.height = height := hcontext ▸ rfl
  apply Triple.bind (R := fun _ => At Idle)
  · exact sized_setEncoder fun _ _ h => h
  intro _
  apply Triple.bind (R := fun _ => At fun t e => t = .initialized context ∧ Idle t e)
  · refine sized_checkedCall ?_ ?_ ?_
    · exact fun _ _ _ _ => hfits
    · exact fun _ _ h => ⟨rfl, h⟩
    · exact fun _ _ _ _ h => h
  intro _
  apply Triple.bind (R := fun _ => At fun t e => t = .initialized context ∧ Idle t e)
  · exact sized_setEncoder fun _ _ h => h
  intro _
  apply Triple.bind (R := fun _ => At fun t e => t = .configured context ∧ Idle t e)
  · refine sized_checkedCall ?_ ?_ ?_
    · exact fun _ _ _ _ => trivial
    · exact fun _ _ h => ⟨if_pos ⟨rfl, h.1⟩, h.2⟩
    · exact fun _ _ _ _ h => h.2
  intro _
  apply Triple.bind (R := fun _ => At fun t _ => t = .started context)
  · refine sized_checkedCall ?_ ?_ ?_
    · exact fun _ _ _ _ => trivial
    · exact fun _ _ h => if_pos ⟨rfl, h.1⟩
    · exact fun _ _ _ _ h => h.2
  intro _
  exact sized_setEncoder fun t e h => ⟨rfl, rfl, context, h, hfits, hwidth, hheight⟩

theorem sized_ensureContext {width height : Int32} (hw : 0 < width.toInt)
    (hh : 0 < height.toInt) : Triple (At Sized) (ensureContext hb width height)
      (fun _ => At (Ready width height)) (fun _ => At Sized) := by
  apply Triple.bind (R := fun s t => s = t ∧ At Sized t)
  · exact triple_get fun s hs => ⟨rfl, hs⟩
  intro s
  apply Triple.ite
  · -- the sizes are compared with those of the context that runs
    rintro ⟨hstarted, rfl, rfl⟩
    apply triple_pure
    rintro _ ⟨rfl, hs⟩
    exact ⟨hs.proper, hs.holds hstarted⟩
  · intro _
    refine ((sized_openContext hw hh).pre fun t ht => ht.2).post (fun _ _ h => h) ?_
    exact fun _ t ht => ⟨ht.proper, ht.holds.sized⟩

theorem toNat_size_filled {planes : Nv12Planes} {context : MediaCodecContext} (hfits : Fits context)
    (hw : context.width = planes.width) (hh : context.height = planes.height)
    (luma chroma : List UInt8) : (filled planes luma chroma).size.toNat =
      planes.width.toInt.toNat * planes.height.toInt.toNat * 3 / 2 := by
  obtain ⟨hwpos, hhpos, hwrap, -, -, hroom, hlt⟩ := hfits
  rw [hw] at hwpos hwrap hroom
  rw [hh] at hhpos hwrap hroom
  have hpixels := toNat_ofInt_mul hwpos.le hhpos.le planes.width.toInt_lt planes.height.toInt_lt
  show (compactSize planes).toUInt32.toNat = _
  rw [UInt64.toNat_toUInt32, compactSize, UInt64.toNat_div, UInt64.toNat_mul, hpixels]
  generalize planes.width.toInt.toNat * planes.height.toInt.toNat = pixels at hwrap hroom
  show pixels * 3 % 2 ^ 64 / 2 % 2 ^ 32 = _
  rw [Nat.mod_eq_of_lt (a := pixels * 3) (by omega), Nat.mod_eq_of_lt (by omega)]

theorem Ready.size {planes : Nv12Planes} {data : List UInt8} {dequeued : CodecInput}
    {input : FilledInput} {t : Setup} {e : Encoder} (h : Ready planes.width planes.height t e)
    (hcopy : copyIntoCodecInput planes data dequeued = .ok input) :
    input.width = planes.width ∧ input.height = planes.height ∧
      input.size.toNat = planes.width.toInt.toNat * planes.height.toInt.toNat * 3 / 2 := by
  obtain ⟨-, luma, chroma, -, -, rfl⟩ := copyIntoCodecInput_eq_ok.mp hcopy
  obtain ⟨-, -, context, -, hfits, hw, hh⟩ := h
  exact ⟨rfl, rfl, toNat_size_filled hfits hw hh luma chroma⟩

theorem sized_transfer {planes : Nv12Planes} {data : List UInt8} :
    Triple (At (Ready planes.width planes.height)) (transfer hb planes data)
      (fun _ => At Sized) (fun _ => At Sized) := by
  have hready : ∀ s, At (Ready planes.width planes.height) s → At Sized s := fun s hs =>
    ⟨hs.proper, hs.holds.sized⟩
  apply Triple.bind (R := fun _ => At (Ready planes.width planes.height))
  · refine (sized_transfers ?_ ?_).post (fun _ _ h => h) fun _ s hs => hready s hs
    · exact fun _ _ _ _ => trivial
    · exact fun _ _ => rfl
  intro dequeued
  apply Triple.bind (R := fun input s => At (Ready planes.width planes.height) s ∧
    copyIntoCodecInput planes data dequeued.input = .ok input)
  · exact triple_liftExcept (fun input hcopy s hs => ⟨hs, hcopy⟩) fun _ _ s hs => hready s hs
  intro input
  apply Triple.bind (R := fun _ => At (Ready planes.width planes.height))
  · rintro s ⟨hs, hcopy⟩
    refine ((sized_transfers ?_ ?_).post (fun _ _ h => h) fun _ s hs => hready s hs) s hs
    · intro t e status ht
      obtain ⟨hw, hh, hsize⟩ := ht.size hcopy
      obtain ⟨-, -, context, hstarted, -, hcw, hch⟩ := ht
      refine ⟨context, hstarted, hcw.trans hw.symm, hch.trans hh.symm, ?_⟩
      rw [hsize, hw, hh]
    · exact fun _ _ => rfl
  intro _
  apply Triple.bind (R := fun _ => At (Ready planes.width planes.height))
  · refine (sized_transfers ?_ ?_).post (fun _ _ h => h) fun _ s hs => hready s hs
    · exact fun _ _ _ _ => trivial
    · exact fun _ _ => rfl
  intro encoded
  apply Triple.bind (R := fun _ => At (Ready planes.width planes.height))
  · exact triple_liftExcept (fun _ _ s hs => hs) fun _ _ s hs => hready s hs
  intro jpegSize
  apply Triple.bind (R := fun _ => At (Ready planes.width planes.height))
  · refine (sized_transfers ?_ ?_).post (fun _ _ h => h) fun _ s hs => hready s hs
    · exact fun _ _ _ _ => trivial
    · exact fun _ _ => rfl
  intro _
  exact triple_pure hready

end

theorem toInt_size_of_validateAndLocatePlanes {image : Image} {planes : Nv12Planes}
    (h : validateAndLocatePlanes image = .ok planes) :
    planes.width.toInt = image.width.toNat ∧ planes.height.toInt = image.height.toNat ∧
      0 < planes.width.toInt ∧ 0 < planes.height.toInt := by
  obtain ⟨hm, span, rfl⟩ := metadata_of_validateAndLocatePlanes h
  have hwidth : (planesAt image span).width.toInt = image.width.toNat :=
    toInt_toInt32 (hm.width_le.trans_lt hm.step_lt)
  have hheight : (planesAt image span).height.toInt = image.height.toNat :=
    toInt_toInt32 hm.height_lt
  have hwpos := hm.width_pos
  have hhpos := hm.height_pos
  exact ⟨hwidth, hheight, by omega, by omega⟩

theorem sized_encode {hb : Codec} {image : Image} :
    Triple (At Sized) (encode hb image) (fun _ => At Sized) (fun _ => At Sized) := by
  apply Triple.bind (R := fun planes s => At Sized s ∧ validateAndLocatePlanes image = .ok planes)
  · exact triple_liftExcept (fun _ hplanes s hs => ⟨hs, hplanes⟩) fun _ _ s hs => hs
  rintro planes s ⟨hs, hplanes⟩
  obtain ⟨-, -, hwpos, hhpos⟩ := toInt_size_of_validateAndLocatePlanes hplanes
  refine Triple.bind (sized_ensureContext hwpos hhpos) (fun _ => ?_) s hs
  apply Triple.tryCatch sized_transfer
  intro e
  apply sized_reset.bind
  exact fun _ => triple_throw fun t ht => ⟨ht.proper, ht.holds.sized⟩

theorem sized_encodeAll (hb : Codec) (images : List Image) {s : Session} (hs : At Sized s) :
    At Sized (encodeAll hb images s) := by
  induction images generalizing s with
  | nil => exact hs
  | cons image images ih => exact ih (sized_encode.final hs)

theorem sized_fresh (jpegQuality : Int32) : At Sized (.fresh jpegQuality) :=
  ⟨fun before r after h => absurd h (by simp [Session.fresh]), Idle.sized rfl⟩

/-- What holds of the sizes in every sequence of `Encode` calls on one encoder. -/
structure EncoderSizes (hb : Codec) (jpegQuality : Int32) (images : List Image) : Prop where
  proper : AllProper (encodeAll hb images (.fresh jpegQuality)).calls
  initialized : ∀ context status,
    ⟨.mcInitialize context, status⟩ ∈ (encodeAll hb images (.fresh jpegQuality)).calls →
    Fits context
  /-- `image` is the next picture, and `s'` the state in which `CopyIntoCodecInput` runs. -/
  copied : ∀ image planes dequeued s s', validateAndLocatePlanes image = .ok planes →
    ensureContext hb planes.width planes.height (encodeAll hb images (.fresh jpegQuality)) =
      .ok () s →
    checkedCall hb .mcDequeueInputBuffer "dequeue JPEG input buffer" s = .ok dequeued s' →
    (∃ context, setup s'.calls = .started context ∧ context.width.toInt = image.width.toNat ∧
      context.height.toInt = image.height.toNat) ∧
    ∀ input, copyIntoCodecInput planes image.data dequeued.input = .ok input →
      input.size.toNat = image.width.toNat * image.height.toNat * 3 / 2

theorem encoder_sizes (hb : Codec) (jpegQuality : Int32) (images : List Image) :
    EncoderSizes hb jpegQuality images := by
  have hsized := sized_encodeAll hb images (sized_fresh jpegQuality)
  refine ⟨hsized.proper, ?_, ?_⟩
  · intro context status hmem
    obtain ⟨before, after, hsplit⟩ := List.append_of_mem hmem
    exact hsized.proper before _ after hsplit
  · intro image planes dequeued s s' hplanes hensure hdequeue
    obtain ⟨hwidth, hheight, hwpos, hhpos⟩ := toInt_size_of_validateAndLocatePlanes hplanes
    have hs : Ends (fun _ => At (Ready planes.width planes.height)) (fun _ => At Sized)
        (ensureContext hb planes.width planes.height _) := sized_ensureContext hwpos hhpos _ hsized
    rw [hensure] at hs
    have hs' : Ends (fun _ => At (Ready planes.width planes.height))
        (fun _ => At (Ready planes.width planes.height))
        (checkedCall hb .mcDequeueInputBuffer "dequeue JPEG input buffer" s) :=
      sized_transfers (c := .mcDequeueInputBuffer) (fun _ _ _ _ => trivial) (fun _ _ => rfl) s hs
    rw [hdequeue] at hs'
    have hready : Ready planes.width planes.height (setup s'.calls) s'.encoder := hs'.holds
    constructor
    · obtain ⟨-, -, context, hstarted, -, hcw, hch⟩ := hready
      exact ⟨context, hstarted, hcw ▸ hwidth, hch ▸ hheight⟩
    · intro input hcopy
      obtain ⟨-, -, hsize⟩ := hready.size hcopy
      rw [hsize, hwidth, hheight, Int.toNat_natCast, Int.toNat_natCast]

/-! ### A run -/

def smallImage : Image where
  stamp := ⟨0, 5⟩
  frameId := ""
  height := 2
  width := 2
  encoding := "nv12"
  isBigendian := false
  step := 2
  data := [1, 2, 3, 4, 5, 6]

def willing : Codec := fun _ _ => {
  status := 0
  input := {
    type := .other 0
    luma := ⟨some [0, 0, 0, 0], 4, by rintro _ ⟨⟩; rfl⟩
    chroma := ⟨some [0, 0], 2, by rintro _ ⟨⟩; rfl⟩
    stride := 2
    vstride := 0
    width := 0
    height := 0
    pixFmt := .other 0
    size := 0 }
  output := ⟨some [0xFF, 0xD8, 0xFF, 0xD9], 4, by rintro _ ⟨⟩; rfl⟩ }

theorem encoder_sizes_willing :
    setup (encodeAll willing [smallImage, smallImage] (.fresh 80)).calls =
      .started (contextFor 80 2 2) ∧
    EncoderSizes willing 80 [smallImage, smallImage] :=
  ⟨by decide, encoder_sizes willing 80 [smallImage, smallImage]⟩

end RoboBaton.Nv12
