import Mathlib.Data.List.Basic
import Mathlib.Data.Nat.ModEq
import Mathlib.Logic.Function.Basic
import Mathlib.Tactic.Common

/-! A bounded queue in a fixed array of slots, with free-running write and read indices of
`w` bits that wrap. `Holds` ties it to the list of everything ever put in: the indices are
the numbers of puts and of takes modulo `2 ^ w`. The capacity has to divide the index range,
or the slot of an index would jump when the index wraps. -/

namespace WrapRing

structure Ring (α : Type*) (w cap : Nat) where
  slots : Fin cap → α
  write : BitVec w
  read : BitVec w

variable {α : Type*} {w cap : Nat} [NeZero cap]

def slotOf (cap : Nat) [NeZero cap] (i : BitVec w) : Fin cap := Fin.ofNat cap i.toNat

namespace Ring

def putSlot (r : Ring α w cap) (i : BitVec w) (x : α) : Ring α w cap :=
  { r with slots := Function.update r.slots (slotOf cap i) x }

def advanceWrite (r : Ring α w cap) (i : BitVec w) : Ring α w cap := { r with write := i + 1#w }

def advanceRead (r : Ring α w cap) (i : BitVec w) : Ring α w cap := { r with read := i + 1#w }

def front (r : Ring α w cap) (i : BitVec w) : α := r.slots (slotOf cap i)

/-- `r` holds the entries of `log` from number `taken` on, oldest first. -/
structure Holds (r : Ring α w cap) (log : List α) (taken : Nat) : Prop where
  write_eq : r.write = BitVec.ofNat w log.length
  read_eq : r.read = BitVec.ofNat w taken
  taken_le : taken ≤ log.length
  room : log.length ≤ taken + cap
  slot : ∀ (i : Nat) (hi : i < log.length), taken ≤ i → r.slots (Fin.ofNat cap i) = log[i]

end Ring

theorem slotOf_ofNat (hdvd : cap ∣ 2 ^ w) (n : Nat) :
    slotOf cap (BitVec.ofNat w n) = Fin.ofNat cap n := by
  apply Fin.ext
  simp only [slotOf, Fin.ofNat, BitVec.toNat_ofNat, Nat.mod_mod_of_dvd n hdvd]

theorem ofNat_slot_ne {i j : Nat} (hij : i < j) (hj : j < i + cap) :
    Fin.ofNat cap i ≠ Fin.ofNat cap j := by
  intro h
  have hmod : i % cap = j % cap := congrArg Fin.val h
  have hle : cap ∣ j - i := (Nat.modEq_iff_dvd' hij.le).mp hmod
  have := Nat.le_of_dvd (by omega) hle
  omega

namespace Ring.Holds
variable {r : Ring α w cap} {log : List α} {taken : Nat}

theorem occupancy (h : r.Holds log taken) (hlt : cap < 2 ^ w) :
    (r.write - r.read).toNat = log.length - taken := by
  have hsplit : log.length = taken + (log.length - taken) := by have := h.taken_le; omega
  have hroom := h.room
  rw [h.write_eq, h.read_eq]
  conv_lhs => rw [hsplit, BitVec.ofNat_add, BitVec.add_comm, BitVec.add_sub_cancel]
  rw [BitVec.toNat_ofNat, Nat.mod_eq_of_lt (by omega)]

theorem occupancy_le (h : r.Holds log taken) (hlt : cap < 2 ^ w) :
    (r.write - r.read).toNat ≤ cap := by
  have := h.room
  rw [h.occupancy hlt]
  omega

theorem full_iff (h : r.Holds log taken) (hlt : cap < 2 ^ w) :
    r.write - r.read = BitVec.ofNat w cap ↔ log.length = taken + cap := by
  have hle := h.taken_le
  rw [← BitVec.toNat_inj, h.occupancy hlt, BitVec.toNat_ofNat, Nat.mod_eq_of_lt hlt]
  omega

theorem empty_iff (h : r.Holds log taken) (hlt : cap < 2 ^ w) :
    r.read = r.write ↔ taken = log.length := by
  have hocc := h.occupancy hlt
  have hle := h.taken_le
  constructor
  · intro he
    rw [he, BitVec.sub_self, BitVec.toNat_zero] at hocc
    omega
  · intro he
    rw [h.read_eq, h.write_eq, he]

theorem putSlot (h : r.Holds log taken) (hdvd : cap ∣ 2 ^ w) (hroom : log.length < taken + cap)
    (x : α) : (r.putSlot r.write x).Holds log taken := by
  refine ⟨h.write_eq, h.read_eq, h.taken_le, h.room, fun i hi hti => ?_⟩
  have hne : Fin.ofNat cap i ≠ slotOf cap r.write := by
    rw [h.write_eq, slotOf_ofNat hdvd]
    exact ofNat_slot_ne hi (by omega)
  simp only [Ring.putSlot, Function.update_of_ne hne]
  exact h.slot i hi hti

theorem advanceWrite (h : r.Holds log taken) (hdvd : cap ∣ 2 ^ w)
    (hroom : log.length < taken + cap) {x : α} (hx : r.slots (slotOf cap r.write) = x) :
    (r.advanceWrite r.write).Holds (log ++ [x]) taken := by
  have hlen : (log ++ [x]).length = log.length + 1 := by simp
  have hle := h.taken_le
  refine ⟨?_, h.read_eq, by omega, by omega, fun i hi hti => ?_⟩
  · simp only [Ring.advanceWrite, h.write_eq, hlen, BitVec.ofNat_add]
  · by_cases hlast : i < log.length
    · rw [List.getElem_append_left hlast]
      exact h.slot i hlast hti
    · obtain rfl : i = log.length := by omega
      rw [h.write_eq, slotOf_ofNat hdvd] at hx
      simpa [Ring.advanceWrite] using hx

theorem front_eq (h : r.Holds log taken) (hdvd : cap ∣ 2 ^ w) (hne : taken < log.length) :
    r.front r.read = log[taken] := by
  rw [Ring.front, h.read_eq, slotOf_ofNat hdvd]
  exact h.slot taken hne le_rfl

theorem advanceRead (h : r.Holds log taken) (hne : taken < log.length) :
    (r.advanceRead r.read).Holds log (taken + 1) := by
  refine ⟨h.write_eq, ?_, hne, by have := h.room; omega, fun i hi hti => h.slot i hi (by omega)⟩
  simp only [Ring.advanceRead, h.read_eq, BitVec.ofNat_add]

end Ring.Holds
end WrapRing
