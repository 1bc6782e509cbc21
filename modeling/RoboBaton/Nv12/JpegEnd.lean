import RoboBaton.Nv12.Encoder

/-! `FindJpegEnd` on a bitstream buffer that is used again and again: behind the picture it
holds whatever was there before. -/

namespace RoboBaton.Nv12

def EoiAt (data : List UInt8) (index : ℕ) : Prop :=
  data[index]? = some 0xFF ∧ data[index + 1]? = some 0xD9

instance (data : List UInt8) (index : ℕ) : Decidable (EoiAt data index) :=
  inferInstanceAs (Decidable (_ ∧ _))

def HasEoi (data : List UInt8) : Prop := ∃ index, EoiAt data index

def HasSoi (data : List UInt8) : Prop := data[0]? = some 0xFF ∧ data[1]? = some 0xD8

instance (data : List UInt8) : Decidable (HasSoi data) := inferInstanceAs (Decidable (_ ∧ _))

/-- A picture: its only end marker is at its end. -/
structure Picture (j : List UInt8) : Prop where
  length : 4 ≤ j.length
  soi : HasSoi j
  eoi : ∀ index, EoiAt j index ↔ index + 2 = j.length

theorem EoiAt.lt {data : List UInt8} {index : ℕ} (h : EoiAt data index) :
    index + 1 < data.length := (List.getElem?_eq_some_iff.mp h.2).1

theorem picture_of_forall_lt {j : List UInt8} (hlength : 4 ≤ j.length) (hsoi : HasSoi j)
    (heoi : ∀ index < j.length, EoiAt j index ↔ index + 2 = j.length) : Picture j := by
  refine ⟨hlength, hsoi, fun index => ?_⟩
  by_cases hindex : index < j.length
  · exact heoi index hindex
  · constructor
    · intro h
      have := h.lt
      omega
    · intro h
      omega

section Search
variable {data : List UInt8} {index : ℕ}

theorem findEoi_add_two (h : index + 2 ≤ data.length) : findEoi data (index + 2) =
    if EoiAt data index then .ok (index + 2) else findEoi data (index + 1) := by
  obtain ⟨first, hfirst⟩ : ∃ b, data[index]? = some b := ⟨_, List.getElem?_eq_getElem (by omega)⟩
  obtain ⟨second, hsecond⟩ : ∃ b, data[index + 1]? = some b :=
    ⟨_, List.getElem?_eq_getElem (by omega)⟩
  have hat : EoiAt data index ↔ first = 0xFF ∧ second = 0xD9 := by
    unfold EoiAt
    rw [hfirst, hsecond, Option.some.injEq, Option.some.injEq]
  rw [findEoi, hfirst, hsecond]
  by_cases hff : first = 0xFF
  · by_cases hd9 : second = 0xD9
    · rw [if_pos (hat.mpr ⟨hff, hd9⟩), hff, hd9]
      rfl
    · rw [if_neg fun h => hd9 (hat.mp h).2, hff]
      exact if_neg hd9
  · rw [if_neg fun h => hff (hat.mp h).1]
    exact if_neg hff

theorem findEoi_spec (data : List UInt8) {n : ℕ} (h : n ≤ data.length) :
    (∃ index, index + 2 ≤ n ∧ EoiAt data index ∧
      (∀ later, index < later → later + 2 ≤ n → ¬ EoiAt data later) ∧
      findEoi data n = .ok (index + 2)) ∨
    ((∀ index, index + 2 ≤ n → ¬ EoiAt data index) ∧
      findEoi data n = .error (.runtimeError "X5 JPEG output is missing EOI marker")) := by
  induction n with
  | zero => exact .inr ⟨fun index hi => by omega, rfl⟩
  | succ n ih =>
    cases n with
    | zero => exact .inr ⟨fun index hi => by omega, rfl⟩
    | succ index =>
      rw [findEoi_add_two h]
      by_cases heoi : EoiAt data index
      · exact .inl ⟨index, le_rfl, heoi, fun later hl hb => by omega, if_pos heoi⟩
      · rw [if_neg heoi]
        have hlast : ∀ i, i + 2 ≤ index + 1 + 1 → EoiAt data i → i + 2 ≤ index + 1 := by
          intro i hi he
          have : i ≠ index := fun hii => heoi (hii ▸ he)
          omega
        rcases ih (by omega) with ⟨i, hi, he, hlater, hfound⟩ | ⟨hnone, hfound⟩
        · refine .inl ⟨i, by omega, he, ?_, hfound⟩
          exact fun later hl hb hl' => hlater later hl (hlast later hb hl') hl'
        · exact .inr ⟨fun i hi he => hnone i (hlast i hi he) he, hfound⟩

end Search

theorem findJpegEnd_some (data : List UInt8) : findJpegEnd (some data) data.length =
    if 4 ≤ data.length ∧ HasSoi data then findEoi data data.length
    else .error (.runtimeError "X5 JPEG output is missing SOI marker") := by
  by_cases hlength : 4 ≤ data.length
  · obtain ⟨first, hfirst⟩ : ∃ b, data[0]? = some b := ⟨_, List.getElem?_eq_getElem (by omega)⟩
    obtain ⟨second, hsecond⟩ : ∃ b, data[1]? = some b := ⟨_, List.getElem?_eq_getElem (by omega)⟩
    have hsoi : HasSoi data ↔ first = 0xFF ∧ second = 0xD8 := by
      unfold HasSoi
      rw [hfirst, hsecond, Option.some.injEq, Option.some.injEq]
    simp only [findJpegEnd, if_neg (not_lt.mpr hlength), hfirst, hsecond]
    by_cases hff : first = 0xFF
    · by_cases hd8 : second = 0xD8
      · rw [if_pos ⟨hlength, hsoi.mpr ⟨hff, hd8⟩⟩, hff, hd8]
        rfl
      · rw [if_neg fun h => hd8 (hsoi.mp h.2).2, hff]
        exact if_pos hd8
    · rw [if_neg fun h => hff (hsoi.mp h.2).1]
      exact if_pos hff
  · rw [if_neg fun h => hlength h.1]
    exact if_pos (not_le.mp hlength)

section Tail
variable {j t : List UInt8}

theorem Picture.eoiAt_append (hj : Picture j) (index : ℕ) :
    EoiAt (j ++ t) index ↔ index + 2 = j.length ∨ ∃ i, index = j.length + i ∧ EoiAt t i := by
  have hlength := hj.length
  have hinside : ∀ i, i < j.length → (j ++ t)[i]? = j[i]? := fun i hi =>
    List.getElem?_append_left hi
  have hbehind : ∀ i, (j ++ t)[j.length + i]? = t[i]? := by
    intro i
    rw [List.getElem?_append_right (Nat.le_add_right _ _), Nat.add_sub_cancel_left]
  have htail : ∀ i, EoiAt (j ++ t) (j.length + i) ↔ EoiAt t i := fun i =>
    and_congr (by rw [hbehind]) (by rw [Nat.add_assoc, hbehind])
  have hlast : j[j.length - 1]? = some 0xD9 := by
    have := ((hj.eoi (j.length - 2)).mpr (by omega)).2
    rwa [show j.length - 2 + 1 = j.length - 1 by omega] at this
  rcases lt_trichotomy (index + 1) j.length with hlt | heq | hgt
  · have hsame : EoiAt (j ++ t) index ↔ EoiAt j index :=
      and_congr (by rw [hinside index (by omega)]) (by rw [hinside (index + 1) hlt])
    rw [hsame, hj.eoi, or_iff_left]
    rintro ⟨i, rfl, -⟩
    omega
  · constructor
    · intro h
      have hff := h.1
      rw [hinside index (by omega), show index = j.length - 1 by omega, hlast] at hff
      exact absurd hff (by decide)
    · rintro (h | ⟨i, rfl, -⟩) <;> omega
  · obtain ⟨i, rfl⟩ : ∃ i, index = j.length + i := ⟨index - j.length, by omega⟩
    rw [htail]
    constructor
    · exact fun h => .inr ⟨i, rfl, h⟩
    · rintro (h | ⟨i', h, he⟩)
      · omega
      · rwa [Nat.add_left_cancel h]

theorem Picture.search (hj : Picture j) : findJpegEnd (some (j ++ t)) (j.length + t.length) =
    findEoi (j ++ t) (j.length + t.length) := by
  have hlength := hj.length
  have hsoi : HasSoi (j ++ t) := by
    refine ⟨?_, ?_⟩ <;> rw [List.getElem?_append_left (by omega)]
    · exact hj.soi.1
    · exact hj.soi.2
  have hfour : 4 ≤ (j ++ t).length := by
    rw [List.length_append]
    omega
  rw [← List.length_append, findJpegEnd_some, if_pos ⟨hfour, hsoi⟩]

theorem Picture.findJpegEnd_stale (hj : Picture j) {i : ℕ} (ht : EoiAt t i)
    (hlast : ∀ later, i < later → ¬ EoiAt t later) :
    findJpegEnd (some (j ++ t)) (j.length + t.length) = .ok (j.length + i + 2) := by
  rw [hj.search]
  have hfits := ht.lt
  have hat : EoiAt (j ++ t) (j.length + i) := (hj.eoiAt_append _).mpr (.inr ⟨i, rfl, ht⟩)
  rcases findEoi_spec (j ++ t) List.length_append.ge with
    ⟨index, hn, he, hlater, hfound⟩ | ⟨hnone, -⟩
  · rw [hfound]
    have hge : ¬ index < j.length + i := fun hlt => hlater _ hlt (by omega) hat
    rcases (hj.eoiAt_append index).mp he with hindex | ⟨i', rfl, he'⟩
    · omega
    · have : ¬ i < i' := fun hlt => hlast i' hlt he'
      rw [show i' = i by omega]
  · exact absurd hat (hnone _ (by omega))

theorem Picture.findJpegEnd_iff (hj : Picture j) :
    findJpegEnd (some (j ++ t)) (j.length + t.length) = .ok j.length ↔ ¬ HasEoi t := by
  have hlength := hj.length
  rw [hj.search]
  rcases findEoi_spec (j ++ t) List.length_append.ge with
    ⟨index, hn, he, hlater, hfound⟩ | ⟨hnone, -⟩
  · rw [hfound, Except.ok.injEq]
    constructor
    · rintro hindex ⟨i, hi⟩
      have hfits := hi.lt
      exact hlater (j.length + i) (by omega) (by omega)
        ((hj.eoiAt_append _).mpr (.inr ⟨i, rfl, hi⟩))
    · intro hclean
      rcases (hj.eoiAt_append index).mp he with hindex | ⟨i, -, hi⟩
      · exact hindex
      · exact absurd ⟨i, hi⟩ hclean
  · exact absurd ((hj.eoiAt_append (j.length - 2)).mpr (.inl (by omega)))
      (hnone _ (by omega))

/-- The picture `j` written over an older picture `old`, of which at least two bytes stay:
the end found is that of the old picture. -/
theorem Picture.findJpegEnd_recycled {old : List UInt8} (hj : Picture j) (hold : Picture old)
    (hle : j.length + 2 ≤ old.length) :
    findJpegEnd (some (j ++ old.drop j.length)) old.length = .ok old.length := by
  have hshift : ∀ i, EoiAt (old.drop j.length) i ↔ EoiAt old (j.length + i) := fun i =>
    and_congr (by rw [List.getElem?_drop]) (by rw [List.getElem?_drop, Nat.add_assoc])
  have hend : EoiAt (old.drop j.length) (old.length - j.length - 2) := by
    rw [hshift, hold.eoi]
    omega
  have hfound := hj.findJpegEnd_stale hend fun later hlt he => by
    have := (hold.eoi _).mp ((hshift later).mp he)
    omega
  rw [List.length_drop, show j.length + (old.length - j.length) = old.length by omega] at hfound
  rw [hfound]
  congr 1
  omega

end Tail

def FindsEnd (j t : List UInt8) : Prop :=
  findJpegEnd (some (j ++ t)) (j.length + t.length) = .ok j.length

/-- `FindJpegEnd` gets the end of the picture when no end marker is left behind it, and it
throws when the buffer has no markers. It reads only bytes of the buffer. -/
theorem find_jpeg_end {j : List UInt8} (hj : Picture j) (t : List UInt8)
    {data : Option (List UInt8)} {capacity : ℕ}
    (hdata : ∀ bytes, data = some bytes → bytes.length = capacity) :
    (FindsEnd j t ↔ ¬ HasEoi t) ∧
    ((∃ e, findJpegEnd data capacity = .error e) ↔ data = none ∨ capacity < 4 ∨
      ∃ bytes, data = some bytes ∧ (¬ HasSoi bytes ∨ ¬ HasEoi bytes)) ∧
    findJpegEnd data capacity ≠ .error .outOfBounds := by
  refine ⟨hj.findJpegEnd_iff, ?_⟩
  rcases data with _ | bytes
  · exact ⟨⟨fun _ => .inl rfl, fun _ => ⟨_, rfl⟩⟩, nofun⟩
  obtain rfl := hdata bytes rfl
  rw [findJpegEnd_some]
  by_cases hstart : 4 ≤ bytes.length ∧ HasSoi bytes
  swap
  · rw [if_neg hstart]
    refine ⟨⟨fun _ => ?_, fun _ => ⟨_, rfl⟩⟩, nofun⟩
    by_cases hlength : bytes.length < 4
    · exact .inr (.inl hlength)
    · exact .inr (.inr ⟨bytes, rfl, .inl fun hsoi => hstart ⟨not_lt.mp hlength, hsoi⟩⟩)
  rw [if_pos hstart]
  rcases findEoi_spec bytes le_rfl with ⟨index, -, he, -, hfound⟩ | ⟨hnone, hfound⟩
  · rw [hfound]
    refine ⟨⟨nofun, ?_⟩, nofun⟩
    rintro (h | h | ⟨_, hbytes, hnone⟩)
    · cases h
    · omega
    · obtain rfl := Option.some.inj hbytes
      rcases hnone with hsoi | heoi
      · exact absurd hstart.2 hsoi
      · exact absurd ⟨index, he⟩ heoi
  · rw [hfound]
    refine ⟨⟨fun _ => ?_, fun _ => ⟨_, rfl⟩⟩, nofun⟩
    exact .inr (.inr ⟨bytes, rfl, .inr fun ⟨index, he⟩ => hnone index he.lt he⟩)

/-! ### A buffer that is used again -/

def olderPicture : List UInt8 := [0xFF, 0xD8, 1, 2, 3, 0xFF, 0xD9]

def shortPicture : List UInt8 := [0xFF, 0xD8, 0xFF, 0xD9]

theorem olderPicture_ok : Picture olderPicture :=
  picture_of_forall_lt (by decide) (by decide) (by decide)

theorem shortPicture_ok : Picture shortPicture :=
  picture_of_forall_lt (by decide) (by decide) (by decide)

theorem find_jpeg_end_short : FindsEnd shortPicture [3, 0xFF, 0xFF] ∧
    ∃ e, findJpegEnd (some [0xFF, 0xD8, 0xFF]) 3 = .error e := by
  have hlength : ∀ bytes : List UInt8, some [0xFF, 0xD8, 0xFF] = some bytes → bytes.length = 3 := by
    rintro _ ⟨⟩
    rfl
  obtain ⟨hfinds, hthrows, -⟩ := find_jpeg_end shortPicture_ok [3, 0xFF, 0xFF] hlength
  refine ⟨hfinds.mpr ?_, hthrows.mpr (.inr (.inl (by decide)))⟩
  rintro ⟨index, h⟩
  match index with
  | 0 => exact absurd h (by decide)
  | 1 => exact absurd h (by decide)
  | index + 2 => exact absurd h.lt (by simp)

theorem stale_end :
    findJpegEnd (some (shortPicture ++ olderPicture.drop shortPicture.length))
      olderPicture.length = .ok olderPicture.length ∧
    ¬ ∀ j t, Picture j → FindsEnd j t := by
  have hstale := shortPicture_ok.findJpegEnd_recycled olderPicture_ok (by decide)
  refine ⟨hstale, fun h => ?_⟩
  have hfound := h shortPicture (olderPicture.drop shortPicture.length) shortPicture_ok
  exact absurd (hstale.symm.trans hfound) (by decide)

end RoboBaton.Nv12
