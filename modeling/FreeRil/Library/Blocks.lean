import Mathlib.Data.List.Basic
import Mathlib.Tactic

/-! Lists cut into blocks of one size, the last of which may be shorter. -/
namespace Blocks

variable {α : Type} {n : ℕ}

def blocks (n : ℕ) (data : List α) : List (List α) :=
  if data = [] ∨ n = 0 then [] else data.take n :: blocks n (data.drop n)
termination_by data.length
decreasing_by
  rename_i h
  obtain ⟨hdata, hn⟩ := not_or.mp h
  have hlength := List.length_pos_iff.mpr hdata
  rw [List.length_drop]
  omega

@[simp] theorem blocks_nil : blocks n ([] : List α) = [] := by
  rw [blocks, if_pos (.inl rfl)]

theorem blocks_of_ne_nil {data : List α} (hn : 0 < n) (hdata : data ≠ []) :
    blocks n data = data.take n :: blocks n (data.drop n) := by
  rw [blocks, if_neg (not_or.mpr ⟨hdata, by omega⟩)]

theorem flatten_blocks (hn : 0 < n) (data : List α) : (blocks n data).flatten = data := by
  fun_induction blocks n data with
  | case1 data h =>
    obtain rfl : data = [] := h.resolve_right (by omega)
    rfl
  | case2 data h ih =>
    rw [List.flatten_cons, ih, List.take_append_drop]

theorem length_of_mem_blocks {data block : List α} (h : block ∈ blocks n data) :
    1 ≤ block.length ∧ block.length ≤ n := by
  fun_induction blocks n data with
  | case1 data hstop => cases h
  | case2 data hstop ih =>
    obtain ⟨hdata, hn⟩ := not_or.mp hstop
    obtain rfl | h := List.mem_cons.mp h
    · have hlength := List.length_pos_iff.mpr hdata
      rw [List.length_take]
      omega
    · exact ih h

/-- Only the last block is shorter. -/
theorem length_of_mem_dropLast {data block : List α} (h : block ∈ (blocks n data).dropLast) :
    block.length = n := by
  fun_induction blocks n data with
  | case1 data hstop => cases h
  | case2 data hstop ih =>
    by_cases hrest : blocks n (data.drop n) = []
    · rw [hrest] at h
      cases h
    · rw [List.dropLast_cons_of_ne_nil hrest] at h
      obtain rfl | h := List.mem_cons.mp h
      · have hdrop : data.drop n ≠ [] := by
          intro hnil
          rw [hnil] at hrest
          exact hrest blocks_nil
        have hlt := List.length_pos_iff.mpr hdrop
        rw [List.length_drop] at hlt
        rw [List.length_take]
        omega
      · exact ih h

end Blocks
