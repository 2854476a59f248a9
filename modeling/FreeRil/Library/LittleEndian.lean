import Mathlib.Data.Nat.Digits.Lemmas
import Mathlib.Tactic

/-! Little-endian representation of natural numbers in a fixed number of bytes. -/
namespace LittleEndian

/-- The lowest `width` bytes of a number, the least significant one first. -/
def toBytes : (width : ℕ) → ℕ → List UInt8
  | 0, _ => []
  | width + 1, n => UInt8.ofNat n :: toBytes width (n / 256)

/-- The number a sequence of bytes stands for. -/
def value (bs : List UInt8) : ℕ := Nat.ofDigits 256 (bs.map UInt8.toNat)

@[simp] theorem value_nil : value [] = 0 := rfl

@[simp] theorem value_cons (b : UInt8) (bs : List UInt8) :
    value (b :: bs) = b.toNat + 256 * value bs := by simp [value, Nat.ofDigits_cons]

@[simp] theorem toBytes_length (width n : ℕ) : (toBytes width n).length = width := by
  induction width generalizing n with
  | zero => rfl
  | succ width ih => simp [toBytes, ih]

theorem value_lt (bs : List UInt8) : value bs < 256 ^ bs.length := by
  have h := Nat.ofDigits_lt_base_pow_length (b := 256) (l := bs.map UInt8.toNat) (by norm_num)
    (by intro d hd; obtain ⟨b, -, rfl⟩ := List.mem_map.mp hd; exact b.toNat_lt)
  simpa [value] using h

theorem value_toBytes (width n : ℕ) : value (toBytes width n) = n % 256 ^ width := by
  induction width generalizing n with
  | zero => simp [toBytes, Nat.mod_one]
  | succ width ih =>
    have hb : (UInt8.ofNat n).toNat = n % 256 := rfl
    rw [toBytes, value_cons, ih, hb, pow_succ, Nat.mul_comm (256 ^ width), Nat.mod_mul]

theorem toBytes_value (bs : List UInt8) : toBytes bs.length (value bs) = bs := by
  induction bs with
  | nil => rfl
  | cons b bs ih =>
    have hb : b.toNat < 256 := b.toNat_lt
    have hhead : UInt8.ofNat (b.toNat + 256 * value bs) = b := by
      apply UInt8.toNat_inj.mp
      rw [UInt8.toNat_ofNat', Nat.add_mul_mod_self_left, Nat.mod_eq_of_lt hb]
    have htail : (b.toNat + 256 * value bs) / 256 = value bs := by omega
    simp [toBytes, hhead, htail, ih]

end LittleEndian
