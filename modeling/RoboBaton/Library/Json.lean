import RoboBaton.Library.Format

/-! Flat JSON objects as texts of bytes: the values of their members are strings of printable
ASCII characters without escapes, or natural numbers, and there is no white space. Each object
of this part of JSON is written in one way only. -/

namespace Json
open Format

inductive Value
  | string (text : List UInt8)
  | number (n : ℕ)
  deriving DecidableEq, Repr

abbrev Member := List UInt8 × Value

def plain (b : UInt8) : Bool := 0x20 ≤ b && b < 0x7F && b != 0x22 && b != 0x5C

def Plain (text : List UInt8) : Prop := ∀ b ∈ text, plain b = true

instance (text : List UInt8) : Decidable (Plain text) :=
  inferInstanceAs (Decidable (∀ b ∈ text, plain b = true))

def Member.Ok (m : Member) : Prop :=
  Plain m.1 ∧ ∀ text, m.2 = .string text → Plain text

/-! ### Writing

Each function writes its text in front of `rest`. -/

def writeString (text rest : List UInt8) : List UInt8 := 0x22 :: (text ++ 0x22 :: rest)

def Value.write (rest : List UInt8) : Value → List UInt8
  | .string text => writeString text rest
  | .number n => decimal n ++ rest

def writeMember (m : Member) (rest : List UInt8) : List UInt8 :=
  writeString m.1 (0x3A :: m.2.write rest)

def writeMembers (rest : List UInt8) : List Member → List UInt8
  | [] => 0x7D :: rest
  | [m] => writeMember m (0x7D :: rest)
  | m :: m' :: ms => writeMember m (0x2C :: writeMembers rest (m' :: ms))

def write (ms : List Member) : List UInt8 := 0x7B :: writeMembers [] ms

/-! ### Reading

Each function reads from the front of a text and returns the rest of it. -/

def expect (b : UInt8) : List UInt8 → Option (List UInt8)
  | [] => none
  | b' :: rest => if b' = b then some rest else none

def readString (text : List UInt8) : Option (List UInt8 × List UInt8) := do
  let content ← expect 0x22 text
  let rest ← expect 0x22 (content.dropWhile plain)
  some (content.takeWhile plain, rest)

def readNumber (text : List UInt8) : Option (ℕ × List UInt8) :=
  let digits := text.takeWhile isDigit
  if digits = [] ∨ (digits.head? = some 0x30 ∧ digits ≠ [0x30]) then none
  else some (value digits, text.dropWhile isDigit)

def readValue (text : List UInt8) : Option (Value × List UInt8) :=
  if text.head? = some 0x22 then (readString text).map fun x => (.string x.1, x.2)
  else (readNumber text).map fun x => (.number x.1, x.2)

def readMember (text : List UInt8) : Option (Member × List UInt8) := do
  let (name, rest) ← readString text
  let rest ← expect 0x3A rest
  let (v, rest) ← readValue rest
  some ((name, v), rest)

def readMembers : ℕ → List UInt8 → Option (List Member × List UInt8)
  | 0, _ => none
  | fuel + 1, text => do
    let (m, rest) ← readMember text
    match rest with
    | 0x2C :: rest => do
      let (ms, rest) ← readMembers fuel rest
      some (m :: ms, rest)
    | 0x7D :: rest => some ([m], rest)
    | _ => none

def read (text : List UInt8) : Option (List Member) := do
  let members ← expect 0x7B text
  if members = [0x7D] then some []
  else do
    let (ms, rest) ← readMembers members.length members
    if rest = [] then some ms else none

/-! ### What is written is read back -/

section RoundTrip
variable {p : UInt8 → Bool} {text rest : List UInt8} {b : UInt8}

theorem takeWhile_append_cons (h : ∀ x ∈ text, p x = true) (hb : p b = false) :
    (text ++ b :: rest).takeWhile p = text := by
  rw [List.takeWhile_append_of_pos h, List.takeWhile_cons_of_neg (Bool.eq_false_iff.mp hb),
    List.append_nil]

theorem dropWhile_append_cons (h : ∀ x ∈ text, p x = true) (hb : p b = false) :
    (text ++ b :: rest).dropWhile p = b :: rest := by
  rw [List.dropWhile_append_of_pos h, List.dropWhile_cons_of_neg (Bool.eq_false_iff.mp hb)]

@[simp] theorem expect_cons : expect b (b :: rest) = some rest := if_pos rfl

theorem readString_writeString (h : Plain text) :
    readString (writeString text rest) = some (text, rest) := by
  have htake : (text ++ 0x22 :: rest).takeWhile plain = text := takeWhile_append_cons h rfl
  have hdrop : (text ++ 0x22 :: rest).dropWhile plain = 0x22 :: rest := dropWhile_append_cons h rfl
  simp only [readString, writeString, expect_cons, Option.bind_eq_bind, Option.bind_some, htake,
    hdrop]

theorem readNumber_decimal (n : ℕ) (hb : isDigit b = false) :
    readNumber (decimal n ++ b :: rest) = some (n, b :: rest) := by
  have hdigits : ∀ x ∈ decimal n, isDigit x = true := fun x hx => isDigit_of_mem_decimal hx
  have htake : (decimal n ++ b :: rest).takeWhile isDigit = decimal n :=
    takeWhile_append_cons hdigits hb
  have hdrop : (decimal n ++ b :: rest).dropWhile isDigit = b :: rest :=
    dropWhile_append_cons hdigits hb
  dsimp only [readNumber]
  rw [htake, hdrop, value_decimal, if_neg]
  rintro (hnil | ⟨hzero, hne⟩)
  · exact decimal_ne_nil n hnil
  · exact hne (decimal_of_head hzero)

theorem head?_decimal_append (n : ℕ) : (decimal n ++ rest).head? ≠ some 0x22 := by
  intro h
  cases hd : decimal n with
  | nil => exact decimal_ne_nil n hd
  | cons d ds =>
    rw [hd] at h
    have hmem : d ∈ decimal n := hd ▸ List.mem_cons_self
    obtain rfl : d = 0x22 := Option.some.inj h
    exact absurd (isDigit_of_mem_decimal hmem) (by decide)

theorem readValue_write {v : Value} (hv : ∀ text, v = .string text → Plain text)
    (hb : isDigit b = false) : readValue (v.write (b :: rest)) = some (v, b :: rest) := by
  cases v with
  | string text =>
    show readValue (writeString text (b :: rest)) = _
    have hquote : (writeString text (b :: rest)).head? = some 0x22 := rfl
    rw [readValue, if_pos hquote, readString_writeString (hv text rfl)]
    rfl
  | number n =>
    show readValue (decimal n ++ b :: rest) = _
    rw [readValue, if_neg (head?_decimal_append n), readNumber_decimal n hb]
    rfl

theorem readMember_writeMember {m : Member} (hm : m.Ok) (hb : isDigit b = false) :
    readMember (writeMember m (b :: rest)) = some (m, b :: rest) := by
  simp only [readMember, writeMember, readString_writeString hm.1, Option.bind_eq_bind,
    Option.bind_some, expect_cons, readValue_write hm.2 hb]

theorem readMembers_writeMembers (ms : List Member) {m : Member} {fuel : ℕ}
    (hfuel : ms.length < fuel) (hms : ∀ m' ∈ m :: ms, m'.Ok) :
    readMembers fuel (writeMembers rest (m :: ms)) = some (m :: ms, rest) := by
  induction ms generalizing m fuel with
  | nil =>
    obtain ⟨fuel, rfl⟩ := Nat.exists_eq_add_one_of_ne_zero (Nat.ne_zero_of_lt hfuel)
    have hm := hms m List.mem_cons_self
    simp only [readMembers, writeMembers, readMember_writeMember (b := 0x7D) hm rfl,
      Option.bind_eq_bind, Option.bind_some]
  | cons m' ms ih =>
    obtain ⟨fuel, rfl⟩ := Nat.exists_eq_add_one_of_ne_zero (Nat.ne_zero_of_lt hfuel)
    have hm := hms m List.mem_cons_self
    have hrest := ih (Nat.lt_of_succ_lt_succ hfuel) fun x hx => hms x (List.mem_cons_of_mem _ hx)
    simp only [readMembers, writeMembers, readMember_writeMember (b := 0x2C) hm rfl,
      Option.bind_eq_bind, Option.bind_some, hrest]

theorem length_lt_writeMembers (ms : List Member) :
    ms.length < (writeMembers rest ms).length := by
  induction ms with
  | nil => exact Nat.succ_pos _
  | cons m ms ih =>
    have hmember : ∀ rest, rest.length < (writeMember m rest).length := by
      intro rest
      obtain ⟨name, v⟩ := m
      cases v <;> simp only [writeMember, writeString, Value.write, List.length_cons,
        List.length_append] <;> omega
    cases ms with
    | nil =>
      have := hmember (0x7D :: rest)
      rw [List.length_cons] at this
      show 1 < (writeMember m (0x7D :: rest)).length
      omega
    | cons m' ms =>
      have := hmember (0x2C :: writeMembers rest (m' :: ms))
      rw [List.length_cons] at this
      show ms.length + 1 + 1 < (writeMember m (0x2C :: writeMembers rest (m' :: ms))).length
      rw [List.length_cons] at ih
      omega

end RoundTrip

theorem read_write {ms : List Member} (h : ∀ m ∈ ms, m.Ok) : read (write ms) = some ms := by
  cases ms with
  | nil => rfl
  | cons m ms =>
    have hne : writeMembers [] (m :: ms) ≠ [0x7D] := by
      cases ms <;> simp [writeMembers, writeMember, writeString]
    have hfuel : ms.length < (writeMembers [] (m :: ms)).length :=
      (Nat.lt_succ_self _).trans (length_lt_writeMembers (m :: ms))
    rw [read, write, expect_cons]
    simp only [Option.bind_eq_bind, Option.bind_some, if_neg hne,
      readMembers_writeMembers ms hfuel h, if_true]

/-! ### An object is one line -/

/-- Printable ASCII, so without line breaks, control characters and bytes of other encodings. -/
def Printable (text : List UInt8) : Prop := ∀ b ∈ text, 0x20 ≤ b ∧ b < 0x7F

theorem Printable.cons {b : UInt8} {text : List UInt8} (hb : 0x20 ≤ b ∧ b < 0x7F)
    (h : Printable text) : Printable (b :: text) := List.forall_mem_cons.mpr ⟨hb, h⟩

theorem Printable.append {text rest : List UInt8} (h : Printable text) (hrest : Printable rest) :
    Printable (text ++ rest) := List.forall_mem_append.mpr ⟨h, hrest⟩

theorem Plain.printable {text : List UInt8} (h : Plain text) : Printable text := by
  intro b hb
  have := h b hb
  simp only [plain, Bool.and_eq_true, decide_eq_true_eq] at this
  exact this.1.1

theorem printable_decimal (n : ℕ) : Printable (decimal n) := by
  intro b hb
  have hdigit := isDigit_iff.mp (isDigit_of_mem_decimal hb)
  rw [UInt8.le_iff_toNat_le, UInt8.lt_iff_toNat_lt]
  exact ⟨(by decide : 0x20 ≤ 0x30).trans hdigit.1, hdigit.2.trans_lt (by decide)⟩

section
variable {rest : List UInt8} (hrest : Printable rest)
include hrest

theorem printable_writeString {text : List UInt8} (h : Plain text) :
    Printable (writeString text rest) :=
  .cons (by decide) (h.printable.append (.cons (by decide) hrest))

theorem printable_writeMember {m : Member} (hm : m.Ok) : Printable (writeMember m rest) := by
  obtain ⟨name, v⟩ := m
  apply printable_writeString _ hm.1
  apply Printable.cons (by decide)
  cases v with
  | string text => exact printable_writeString hrest (hm.2 text rfl)
  | number n => exact (printable_decimal n).append hrest

theorem printable_writeMembers {ms : List Member} (h : ∀ m ∈ ms, m.Ok) :
    Printable (writeMembers rest ms) := by
  induction ms with
  | nil => exact .cons (by decide) hrest
  | cons m ms ih =>
    obtain ⟨hm, hms⟩ := List.forall_mem_cons.mp h
    cases ms with
    | nil => exact printable_writeMember (.cons (by decide) hrest) hm
    | cons m' ms => exact printable_writeMember (.cons (by decide) (ih hms)) hm

end

theorem printable_write {ms : List Member} (h : ∀ m ∈ ms, m.Ok) : Printable (write ms) :=
  .cons (by decide) (printable_writeMembers (fun _ hb => absurd hb List.not_mem_nil) h)

end Json
