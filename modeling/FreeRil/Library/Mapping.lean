import FreeRil.Library.LittleEndian
import Mathlib.Order.CompletePartialOrder

/-! A mapping in an address space of 32 bits, whose bytes are known by their offsets. What is outside of
it is neither read nor written. -/

structure Mapping where
  base : UInt32
  size : ℕ
  byte : ℕ → UInt8

namespace Mapping
open LittleEndian

variable (m : Mapping)

/-- Where an address is, or would be. -/
def offset (address : UInt32) : ℕ := (address - m.base).toNat

def Inside (address : UInt32) (n : ℕ) : Prop := m.offset address + n ≤ m.size

instance (address : UInt32) (n : ℕ) : Decidable (m.Inside address n) :=
  inferInstanceAs (Decidable (_ ≤ _))

/-- The bytes from an offset on. -/
def bytes (offset n : ℕ) : List UInt8 := (List.range n).map fun i => m.byte (offset + i)

def read (address : UInt32) (n : ℕ) : Option (List UInt8) :=
  if m.Inside address n then some (m.bytes (m.offset address) n) else none

/-- With other bytes from an offset on. -/
def overwritten (offset : ℕ) (data : List UInt8) : Mapping :=
  { m with
    byte := fun i =>
      if offset ≤ i ∧ i < offset + data.length then data.getD (i - offset) 0 else m.byte i }

def write (address : UInt32) (data : List UInt8) : Option Mapping :=
  if m.Inside address data.length then some (m.overwritten (m.offset address) data) else none

def read32 (address : UInt32) : Option UInt32 := (m.read address 4).map fun data => .ofNat (value data)

def write32 (address value : UInt32) : Option Mapping := m.write address (toBytes 4 value.toNat)

variable {m} {m' : Mapping} {address address' : UInt32} {data : List UInt8} {n : ℕ}

@[simp] theorem bytes_length (offset n : ℕ) : (m.bytes offset n).length = n := by
  simp [bytes]

theorem write_eq_some : m.write address data = some m' ↔
    m.Inside address data.length ∧ m' = m.overwritten (m.offset address) data := by
  unfold write
  split_ifs with h
  · simp [h, eq_comm]
  · simp [h]

theorem inside_of_read32 {value : UInt32} (h : m.read32 address = some value) :
    m.Inside address 4 := by
  by_contra hout
  rw [read32, read, if_neg hout] at h
  contradiction

theorem offset_inj (h : m.offset address = m.offset address') : address = address' := by
  have hsub : address - m.base = address' - m.base := UInt32.toNat_inj.mp h
  have hadd := congrArg (· + m.base) hsub
  simpa only [UInt32.sub_add_cancel] using hadd

theorem overwritten_bytes_self (m : Mapping) (offset : ℕ) (data : List UInt8) :
    (m.overwritten offset data).bytes offset data.length = data := by
  refine List.ext_getElem (bytes_length _ _) fun i hi hi' => ?_
  simp [bytes, overwritten, hi']

/-- Two mappings that differ in these bytes at most. -/
structure AgreeOff (T : Set ℕ) (m m' : Mapping) : Prop where
  base : m'.base = m.base
  size : m'.size = m.size
  byte : ∀ i, i ∉ T → m'.byte i = m.byte i

/-- The bytes of an access. -/
def span (m : Mapping) (address : UInt32) (n : ℕ) : Set ℕ :=
  {i | m.offset address ≤ i ∧ i < m.offset address + n}

variable {T T' : Set ℕ} {m'' : Mapping}

theorem AgreeOff.refl : AgreeOff T m m := ⟨rfl, rfl, fun _ _ => rfl⟩

theorem AgreeOff.trans (h : AgreeOff T m m') (h' : AgreeOff T' m' m'') : AgreeOff (T ∪ T') m m'' where
  base := h'.base.trans h.base
  size := h'.size.trans h.size
  byte i hi := by
    obtain ⟨hT, hT'⟩ := not_or.mp hi
    rw [h'.byte i hT', h.byte i hT]

theorem AgreeOff.mono (h : AgreeOff T m m') (hT : T ⊆ T') : AgreeOff T' m m' :=
  ⟨h.base, h.size, fun i hi => h.byte i fun hmem => hi (hT hmem)⟩

theorem AgreeOff.span_eq (h : AgreeOff T m m') : m'.span address n = m.span address n := by
  simp only [span, offset, h.base]

/-- What is not among the bytes that differ is read the same. -/
theorem AgreeOff.read_eq (h : AgreeOff T m m') (hT : Disjoint T (m.span address n)) :
    m'.read address n = m.read address n := by
  have hoffset : m'.offset address = m.offset address := by simp only [offset, h.base]
  have hinside : m'.Inside address n ↔ m.Inside address n := by simp only [Inside, hoffset, h.size]
  have hbytes : m'.bytes (m.offset address) n = m.bytes (m.offset address) n := by
    refine List.map_congr_left fun i hi => h.byte _ fun hmem => ?_
    have hlt := List.mem_range.mp hi
    exact Set.disjoint_left.mp hT hmem ⟨Nat.le_add_right _ _, by omega⟩
  simp only [read, hinside, hoffset, hbytes]

theorem AgreeOff.read32_eq (h : AgreeOff T m m') (hT : Disjoint T (m.span address 4)) :
    m'.read32 address = m.read32 address := by
  rw [read32, h.read_eq hT, read32]

theorem write_agreeOff (h : m.write address data = some m') :
    AgreeOff (m.span address data.length) m m' := by
  obtain ⟨-, rfl⟩ := write_eq_some.mp h
  exact ⟨rfl, rfl, fun i hi => if_neg hi⟩

theorem write32_agreeOff {value : UInt32} (h : m.write32 address value = some m') :
    AgreeOff (m.span address 4) m m' := by
  simpa using write_agreeOff h

theorem write32_of_inside (h : m.Inside address 4) (value : UInt32) :
    ∃ m', m.write32 address value = some m' := by
  refine ⟨_, write_eq_some.mpr ⟨?_, rfl⟩⟩
  rwa [toBytes_length]

theorem read32_write32 {value : UInt32} (h : m.write32 address value = some m') :
    m'.read32 address = some value := by
  obtain ⟨hinside, rfl⟩ := write_eq_some.mp h
  have hread : (m.overwritten (m.offset address) (toBytes 4 value.toNat)).read address 4 =
      some (toBytes 4 value.toNat) := by
    rw [toBytes_length] at hinside
    have hself := overwritten_bytes_self m (m.offset address) (toBytes 4 value.toNat)
    rw [toBytes_length] at hself
    exact (if_pos hinside).trans (congrArg some hself)
  rw [read32, hread, Option.map_some, value_toBytes]
  congr 1
  apply UInt32.toNat_inj.mp
  have hlt := value.toNat_lt
  simp only [UInt32.toNat_ofNat']
  omega

end Mapping
