import Mathlib.Data.List.TakeWhile
import Mathlib.Tactic

/-! Byte sequences: buffers and the contents of `std::string`. -/
namespace FreeRil

abbrev Bytes := List UInt8

/-- A string literal of the source. -/
def str (s : String) : Bytes := s.toByteArray.data.toList

theorem str_append (s t : String) : str (s ++ t) = str s ++ str t := by
  simp [str, String.toByteArray_append]

theorem str_inj {s t : String} : str s = str t ↔ s = t := by
  constructor
  · intro h
    exact String.toByteArray_inj.mp (ByteArray.ext (Array.toList_inj.mp h))
  · rintro rfl
    rfl

/-- `c_str()` as a system call reads it. -/
def cstr (s : Bytes) : Bytes := s.takeWhile (· ≠ 0)

theorem zero_notMem_cstr (s : Bytes) : 0 ∉ cstr s := fun hmem => by
  simpa using List.mem_takeWhile_imp hmem

/-- `std::string::find`; `npos` is `none`. -/
def find (s : Bytes) (c : UInt8) (pos : ℕ) : Option ℕ :=
  ((s.drop pos).findIdx? (· = c)).map (pos + ·)

/-- `std::string::substr`. -/
def substr (s : Bytes) (pos : ℕ) : Option ℕ → Bytes
  | none => s.drop pos
  | some n => (s.drop pos).take n

/-- What `find` says of the characters from `pos` on. -/
theorem find_eq_none {s : Bytes} {c : UInt8} {pos : ℕ} (h : find s c pos = none) :
    c ∉ s.drop pos := by
  intro hmem
  have hnone := List.findIdx?_eq_none_iff.mp (Option.map_eq_none_iff.mp h) c hmem
  simp at hnone

theorem find_eq_some {s : Bytes} {c : UInt8} {pos i : ℕ} (h : find s c pos = some i) :
    ∃ before after, s.drop pos = before ++ c :: after ∧ c ∉ before ∧ i = pos + before.length := by
  obtain ⟨n, hn, rfl⟩ := Option.map_eq_some_iff.mp h
  obtain ⟨hlt, hc, hbefore⟩ := List.findIdx?_eq_some_iff_getElem.mp hn
  refine ⟨(s.drop pos).take n, (s.drop pos).drop (n + 1), ?_, ?_, ?_⟩
  · have hget : (s.drop pos)[n] = c := by simpa using hc
    rw [← hget, List.getElem_cons_drop, List.take_append_drop]
  · intro hmem
    obtain ⟨j, hj, he⟩ := List.mem_iff_getElem.mp hmem
    have hlen : j < n ∧ j < (s.drop pos).length := by simpa using hj
    have := hbefore j hlen.1
    simp only [List.getElem_take] at he
    simp [he] at this
  · simp only [List.length_take]
    omega

theorem find_lt {s : Bytes} {c : UInt8} {pos i : ℕ} (h : find s c pos = some i) :
    pos ≤ i ∧ i < s.length := by
  obtain ⟨before, after, hs, -, rfl⟩ := find_eq_some h
  have hlen := congrArg List.length hs
  simp only [List.length_drop, List.length_append, List.length_cons] at hlen
  omega

end FreeRil
