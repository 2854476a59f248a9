import FreeRil.RequestHandler.Security

/-! The file contents of a SIM, in hexadecimal on the side of the framework. -/
namespace FreeRil
namespace RequestHandler

/-- A character that stands for a nibble, in either case. -/
def IsHexDigit (ch : UInt8) : Prop :=
  (48 ≤ ch ∧ ch ≤ 57) ∨ (97 ≤ ch ∧ ch ≤ 102) ∨ (65 ≤ ch ∧ ch ≤ 70)

instance (ch : UInt8) : Decidable (IsHexDigit ch) := inferInstanceAs (Decidable (_ ∨ _))

/-- `a` to `f` in upper case. -/
def upperCase (ch : UInt8) : UInt8 := if 97 ≤ ch ∧ ch ≤ 102 then ch - 32 else ch

theorem hex2val_isSome (ch : UInt8) : (hex2val ch).isSome ↔ IsHexDigit ch := by
  unfold hex2val IsHexDigit
  split_ifs with hdigit hlower hupper <;> simp [*]

theorem hex2val_val2hex {value : UInt8} (h : value < 16) :
    hex2val (val2hex value) = some value := by
  have hall : ∀ n < 16, hex2val (val2hex (.ofNat n)) = some (.ofNat n) := by decide
  simpa using hall value.toNat (UInt8.lt_iff_toNat_lt.mp h)

/-- Of the two digits of a value the encoder writes the one in upper case. -/
theorem val2hex_hex2val {ch value : UInt8} (h : hex2val ch = some value) :
    value < 16 ∧ val2hex value = upperCase ch := by
  simp only [hex2val, UInt8.le_iff_toNat_le, UInt8.reduceToNat] at h
  simp only [val2hex, upperCase, UInt8.le_iff_toNat_le, UInt8.lt_iff_toNat_lt, UInt8.reduceToNat,
    ← UInt8.toNat_inj]
  split_ifs at h <;> cases h <;>
    simp only [apply_ite UInt8.toNat, UInt8.toNat_add, UInt8.toNat_sub, UInt8.reduceToNat] <;>
    split_ifs <;> omega

/-- A byte is its two nibbles. -/
theorem join_nibbles (byte : UInt8) :
    ((byte &&& 0xF0) >>> 4) <<< 4 ||| (byte &&& 0x0F) = byte := by
  apply UInt8.toBitVec_inj.mp
  ext i hi
  interval_cases i <;> simp

theorem nibble_lt (byte : UInt8) : (byte &&& 0xF0) >>> 4 < 16 ∧ byte &&& 0x0F < 16 := by
  have hlow : byte.toNat &&& 15 ≤ 15 := Nat.and_le_right
  have hhigh : byte.toNat &&& 240 ≤ 240 := Nat.and_le_right
  simp [UInt8.lt_iff_toNat_lt, Nat.shiftRight_eq_div_pow]
  omega

theorem split_nibbles {upper lower : UInt8} (hupper : upper < 16) (hlower : lower < 16) :
    ((upper <<< 4 ||| lower) &&& 0xF0) >>> 4 = upper
      ∧ (upper <<< 4 ||| lower) &&& 0x0F = lower := by
  have hall : ∀ m < 16, ∀ n < 16,
      ((UInt8.ofNat m <<< 4 ||| UInt8.ofNat n) &&& 0xF0) >>> 4 = UInt8.ofNat m
        ∧ (UInt8.ofNat m <<< 4 ||| UInt8.ofNat n) &&& 0x0F = UInt8.ofNat n := by decide
  simpa using hall upper.toNat (UInt8.lt_iff_toNat_lt.mp hupper) lower.toNat
    (UInt8.lt_iff_toNat_lt.mp hlower)

@[simp] theorem bin2hex_nil : bin2hex [] = [] := rfl

@[simp] theorem bin2hex_cons (byte : UInt8) (bin : Bytes) :
    bin2hex (byte :: bin)
      = val2hex ((byte &&& 0xF0) >>> 4) :: val2hex (byte &&& 0x0F) :: bin2hex bin := rfl

@[simp] theorem hex2bin_nil : hex2bin [] = some [] := by simp [hex2bin]

@[simp] theorem hex2bin_singleton (ch : UInt8) : hex2bin [ch] = none := by simp [hex2bin]

/-- Both digits of a pair and the pairs after it have to be accepted. -/
theorem hex2bin_cons_cons (high low : UInt8) (hex : Bytes) :
    hex2bin (high :: low :: hex) = (hex2val high).bind fun upper => (hex2val low).bind fun lower =>
      (hex2bin hex).map ((upper <<< 4 ||| lower) :: ·) := by
  simp [hex2bin, Option.map_eq_bind]

theorem hex2bin_bin2hex (bin : Bytes) : hex2bin (bin2hex bin) = some bin := by
  induction bin with
  | nil => rw [bin2hex_nil, hex2bin_nil]
  | cons byte bin ih =>
    obtain ⟨hhigh, hlow⟩ := nibble_lt byte
    rw [bin2hex_cons, hex2bin_cons_cons, hex2val_val2hex hhigh, hex2val_val2hex hlow, ih]
    simp only [Option.bind_some, Option.map_some, join_nibbles]

theorem hex2bin_isSome (hex : Bytes) :
    (hex2bin hex).isSome ↔ Even hex.length ∧ ∀ ch ∈ hex, IsHexDigit ch := by
  induction hex using hex2bin.induct with
  | case1 => simp
  | case2 ch => simp
  | case3 high low hex ih =>
    have heven : Even (high :: low :: hex).length ↔ Even hex.length := by
      simp [Nat.even_add_one]
    rw [heven, List.forall_mem_cons, List.forall_mem_cons, hex2bin_cons_cons,
      ← hex2val_isSome high, ← hex2val_isSome low]
    cases hex2val high <;> cases hex2val low <;> simp [ih]

theorem bin2hex_of_hex2bin {hex bin : Bytes} (h : hex2bin hex = some bin) :
    bin2hex bin = hex.map upperCase := by
  induction hex using hex2bin.induct generalizing bin with
  | case1 =>
    obtain rfl := Option.some_inj.mp (hex2bin_nil.symm.trans h)
    rfl
  | case2 ch =>
    rw [hex2bin_singleton] at h
    cases h
  | case3 high low hex ih =>
    rw [hex2bin_cons_cons] at h
    obtain ⟨upper, hhigh, h⟩ := Option.bind_eq_some_iff.mp h
    obtain ⟨lower, hlow, h⟩ := Option.bind_eq_some_iff.mp h
    obtain ⟨rest, hrest, rfl⟩ := Option.map_eq_some_iff.mp h
    obtain ⟨hupper, hhigh⟩ := val2hex_hex2val hhigh
    obtain ⟨hlower, hlow⟩ := val2hex_hex2val hlow
    obtain ⟨hleft, hright⟩ := split_nibbles hupper hlower
    rw [bin2hex_cons, hleft, hright, hhigh, hlow, ih hrest, List.map_cons, List.map_cons]

/-- The two directions of the SIM file traffic are inverse to each other, up to the case. -/
theorem hex_round_trip (bin hex : Bytes) :
    hex2bin (bin2hex bin) = some bin
      ∧ ((hex2bin hex).isSome ↔ Even hex.length ∧ ∀ ch ∈ hex, IsHexDigit ch)
      ∧ ∀ result, hex2bin hex = some result → bin2hex result = hex.map upperCase :=
  ⟨hex2bin_bin2hex bin, hex2bin_isSome hex, fun _ => bin2hex_of_hex2bin⟩

theorem hex_round_trip_mixed_case :
    hex2bin (bin2hex [0x3F, 0]) = some [0x3F, 0]
      ∧ bin2hex [0x6f, 0xAd] = (str "6fAd").map upperCase :=
  ⟨(hex_round_trip [0x3F, 0] []).1, (hex_round_trip [] (str "6fAd")).2.2 [0x6f, 0xAd] (by decide)⟩

end RequestHandler
end FreeRil
