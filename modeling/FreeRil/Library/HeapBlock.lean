import Mathlib.Data.List.Basic
import Mathlib.Tactic

/-! Blocks of allocated memory, the string functions of C on them, and what lies at the addresses of
one. Nothing can be read or written outside of a block. -/

structure HeapBlock where
  base : ℕ
  data : List UInt8

/-- Where blocks of a size are placed, and what their bytes hold before they are written. -/
structure Allocator where
  place : ℕ → ℕ
  fill : ℕ → UInt8

namespace HeapBlock

def malloc (A : Allocator) (size : ℕ) : HeapBlock := ⟨A.place size, (List.range size).map A.fill⟩

/-- A block of another size with the bytes that fit into it; it may be placed elsewhere. -/
def realloc (A : Allocator) (block : HeapBlock) (size : ℕ) : HeapBlock :=
  ⟨A.place size, (block.data ++ ((List.range size).drop block.data.length).map A.fill).take size⟩

/-- The bytes at an address are inside of the block. -/
def Valid (block : HeapBlock) (address size : ℕ) : Prop :=
  block.base ≤ address ∧ address + size ≤ block.base + block.data.length

instance (block : HeapBlock) (address size : ℕ) : Decidable (block.Valid address size) :=
  inferInstanceAs (Decidable (_ ∧ _))

/-- What lies at an address, to the end of the block. -/
def bytesAt (block : HeapBlock) (address : ℕ) : List UInt8 := block.data.drop (address - block.base)

def write (block : HeapBlock) (address : ℕ) (bytes : List UInt8) : Option HeapBlock :=
  if block.Valid address bytes.length then
    some ⟨block.base, block.data.take (address - block.base) ++ bytes
      ++ block.bytesAt (address + bytes.length)⟩
  else none

def memmove (block : HeapBlock) (destination source size : ℕ) : Option HeapBlock :=
  if block.Valid source size then block.write destination ((block.bytesAt source).take size) else none

/-- The distance to the first `c` before the end of a string; there is no result where the end is not
found either. -/
def scan (c : UInt8) : List UInt8 → Option (Option ℕ)
  | [] => none
  | b :: bytes =>
    if b = c then some (some 0)
    else if b = 0 then some none
    else (scan c bytes).map (Option.map (· + 1))

def strchr (block : HeapBlock) (address : ℕ) (c : UInt8) : Option (Option ℕ) :=
  if block.Valid address 0 then (scan c (block.bytesAt address)).map (Option.map (address + ·)) else none

section
variable {c : UInt8} {bytes : List UInt8}

theorem scan_of_notMem (h0 : 0 ∉ bytes) (hc : c ∉ bytes) (hne : c ≠ 0) (after : List UInt8) :
    scan c (bytes ++ 0 :: after) = some none := by
  induction bytes with
  | nil => simp [scan, hne.symm]
  | cons b bytes ih =>
    obtain ⟨hb0, h0⟩ := not_or.mp (mt List.mem_cons.mpr h0)
    obtain ⟨hbc, hc⟩ := not_or.mp (mt List.mem_cons.mpr hc)
    rw [List.cons_append, scan, if_neg (Ne.symm hbc), if_neg (Ne.symm hb0), ih h0 hc]
    rfl

theorem scan_of_mem (h0 : 0 ∉ bytes) (hc : c ∉ bytes) (after : List UInt8) :
    scan c (bytes ++ c :: after) = some (some bytes.length) := by
  induction bytes with
  | nil => simp [scan]
  | cons b bytes ih =>
    obtain ⟨hb0, h0⟩ := not_or.mp (mt List.mem_cons.mpr h0)
    obtain ⟨hbc, hc⟩ := not_or.mp (mt List.mem_cons.mpr hc)
    rw [List.cons_append, scan, if_neg (Ne.symm hbc), if_neg (Ne.symm hb0), ih h0 hc]
    rfl

end

section
variable {base : ℕ} {before bytes : List UInt8} {c : UInt8}

theorem valid_iff {data : List UInt8} {offset size : ℕ} :
    (⟨base, data⟩ : HeapBlock).Valid (base + offset) size ↔ offset + size ≤ data.length := by
  simp only [Valid]
  omega

@[simp] theorem bytesAt_append (after : List UInt8) :
    (⟨base, before ++ after⟩ : HeapBlock).bytesAt (base + before.length) = after := by
  simp [bytesAt]

theorem strchr_of_notMem (h0 : 0 ∉ bytes) (hc : c ∉ bytes) (hne : c ≠ 0) (after : List UInt8) :
    (⟨base, before ++ (bytes ++ 0 :: after)⟩ : HeapBlock).strchr (base + before.length) c
      = some none := by
  have hvalid : (⟨base, before ++ (bytes ++ 0 :: after)⟩ : HeapBlock).Valid (base + before.length) 0 :=
    valid_iff.mpr (by simp)
  rw [strchr, if_pos hvalid, bytesAt_append, scan_of_notMem h0 hc hne]
  rfl

theorem strchr_of_mem (h0 : 0 ∉ bytes) (hc : c ∉ bytes) (after : List UInt8) :
    (⟨base, before ++ (bytes ++ c :: after)⟩ : HeapBlock).strchr (base + before.length) c
      = some (some (base + before.length + bytes.length)) := by
  have hvalid : (⟨base, before ++ (bytes ++ c :: after)⟩ : HeapBlock).Valid (base + before.length) 0 :=
    valid_iff.mpr (by simp)
  rw [strchr, if_pos hvalid, bytesAt_append, scan_of_mem h0 hc]
  rfl

/-- A block that grows keeps what it holds. -/
theorem realloc_succ (A : Allocator) (block : HeapBlock) : block.realloc A (block.data.length + 1)
    = ⟨A.place (block.data.length + 1), block.data ++ [A.fill block.data.length]⟩ := by
  simp [realloc, List.range_succ, List.take_of_length_le]

theorem write_append {old : List UInt8} (h : old.length = bytes.length) (after : List UInt8) :
    (⟨base, before ++ (old ++ after)⟩ : HeapBlock).write (base + before.length) bytes
      = some ⟨base, before ++ (bytes ++ after)⟩ := by
  have hvalid : (⟨base, before ++ (old ++ after)⟩ : HeapBlock).Valid (base + before.length)
      bytes.length := valid_iff.mpr (by simp [h])
  have hafter : (⟨base, before ++ (old ++ after)⟩ : HeapBlock).bytesAt
      (base + before.length + bytes.length) = after := by
    have hlength : base + before.length + bytes.length = base + (before ++ old).length := by
      rw [List.length_append, h, add_assoc]
    rw [hlength, ← List.append_assoc, bytesAt_append]
  rw [write, if_pos hvalid, hafter]
  simp

/-- The last byte of a block makes room for a second copy of the first byte that is moved. -/
theorem memmove_succ (moved : List UInt8) (last : UInt8) :
    (⟨base, before ++ (c :: moved ++ [last])⟩ : HeapBlock).memmove (base + before.length + 1)
        (base + before.length) (moved.length + 1)
      = some ⟨base, before ++ c :: c :: moved⟩ := by
  have hsource : (⟨base, before ++ (c :: moved ++ [last])⟩ : HeapBlock).Valid
      (base + before.length) (moved.length + 1) := valid_iff.mpr (by simp)
  have hmoved : (c :: moved ++ [last]).take (moved.length + 1) = c :: moved := by simp
  have hwrite : (⟨base, (before ++ [c]) ++ ((moved ++ [last]) ++ [])⟩ : HeapBlock).write
      (base + (before ++ [c]).length) (c :: moved)
        = some ⟨base, (before ++ [c]) ++ (c :: moved ++ [])⟩ := write_append (by simp) []
  rw [memmove, if_pos hsource, bytesAt_append, hmoved]
  simpa [add_assoc] using hwrite

end
end HeapBlock
