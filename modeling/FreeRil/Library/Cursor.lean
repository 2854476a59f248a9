import Mathlib.Data.Finset.Max
import Mathlib.Tactic

/-! Iterators of an ordered set.
An iterator stands at an element, past the end, or, once the element it stood at has been erased,
nowhere: such an iterator compares unequal to the end and must not be used otherwise. -/
inductive Cursor (α : Type)
  | elem (a : α)
  | past
  | dangling
  deriving DecidableEq

namespace Cursor

variable {α : Type} {s : Finset α} {a b : α}

/-- The iterator can be dereferenced and advanced. -/
def Designates (c : Cursor α) (s : Finset α) : Prop := ∃ a ∈ s, c = elem a

theorem Designates.mono {c : Cursor α} {t : Finset α} (h : c.Designates s) (hst : s ⊆ t) :
    c.Designates t := by
  obtain ⟨a, ha, rfl⟩ := h
  exact ⟨a, hst ha, rfl⟩

theorem Designates.ne_past {c : Cursor α} (h : c.Designates s) : c ≠ past := by
  obtain ⟨a, -, rfl⟩ := h
  simp

theorem Designates.ne_dangling {c : Cursor α} (h : c.Designates s) : c ≠ dangling := by
  obtain ⟨a, -, rfl⟩ := h
  simp

variable [LinearOrder α]

/-- `begin()`. -/
def first (s : Finset α) : Cursor α := if h : s.Nonempty then elem (s.min' h) else past

/-- The iterator after the one at `a`. -/
def next (s : Finset α) (a : α) : Cursor α := first (s.filter (a < ·))

/-- The iterator after the one at `a`, starting over at the end. -/
def cycle (s : Finset α) (a : α) : Cursor α :=
  if next s a = past then first s else next s a

/-- What becomes of an iterator when `a` is erased. -/
def erased (c : Cursor α) (a : α) : Cursor α := if c = elem a then dangling else c

theorem first_designates (h : s.Nonempty) : (first s).Designates s :=
  ⟨s.min' h, s.min'_mem h, by simp [first, h]⟩

theorem first_eq_elem (h : first s = elem a) : a ∈ s ∧ ∀ b ∈ s, a ≤ b := by
  unfold first at h
  split_ifs at h with hs
  obtain rfl := by simpa using h
  exact ⟨s.min'_mem hs, fun b hb => s.min'_le b hb⟩

theorem first_of_least (ha : a ∈ s) (hle : ∀ b ∈ s, a ≤ b) : first s = elem a := by
  obtain ⟨b, hb, he⟩ := first_designates ⟨a, ha⟩
  rw [he, le_antisymm (hle b hb) ((first_eq_elem he).2 a ha)]

theorem first_eq_past : first s = past ↔ s = ∅ := by
  unfold first
  split_ifs with h
  · simp [h.ne_empty]
  · simpa using h

theorem cycle_designates (h : s.Nonempty) : (cycle s a).Designates s := by
  unfold cycle
  split_ifs with hp
  · exact first_designates h
  · have hne : (s.filter (a < ·)).Nonempty :=
      Finset.nonempty_iff_ne_empty.mpr fun he => hp (first_eq_past.mpr he)
    exact (first_designates hne).mono (Finset.filter_subset _ _)

/-- Where the set has a second element, the iterator moves off the first one. -/
theorem cycle_ne (hb : b ∈ s) (hba : b ≠ a) : cycle s a ≠ elem a := by
  unfold cycle
  split_ifs with hp
  · intro h
    have hle := (first_eq_elem h).2 b hb
    have hmem : b ∈ s.filter (a < ·) := Finset.mem_filter.mpr ⟨hb, lt_of_le_of_ne hle hba.symm⟩
    rw [next, first_eq_past] at hp
    simp [hp] at hmem
  · intro h
    exact lt_irrefl a (Finset.mem_filter.mp (first_eq_elem h).1).2

theorem cycle_singleton : cycle {a} a = elem a := by
  obtain ⟨b, hb, he⟩ := cycle_designates (a := a) (Finset.singleton_nonempty a)
  rw [he, Finset.mem_singleton.mp hb]

theorem erased_of_ne {c : Cursor α} (h : c ≠ elem a) : c.erased a = c := by simp [erased, h]

@[simp] theorem erased_elem : (elem a).erased a = dangling := by simp [erased]

/-- Erasing the element the iterator has moved off leaves it valid, unless nothing is left. -/
theorem cycle_erased (ha : a ∈ s) :
    ((s.erase a).Nonempty → ((cycle s a).erased a).Designates (s.erase a)) ∧
      (s.erase a = ∅ → (cycle s a).erased a = dangling) := by
  constructor
  · rintro ⟨b, hb⟩
    have hb' := Finset.mem_erase.mp hb
    have hne := cycle_ne hb'.2 hb'.1
    rw [erased_of_ne hne]
    obtain ⟨c, hc, he⟩ := cycle_designates (a := a) ⟨b, hb'.2⟩
    refine ⟨c, Finset.mem_erase.mpr ⟨?_, hc⟩, he⟩
    rintro rfl
    exact hne he
  · intro he
    have hs : s = {a} := by
      refine Finset.eq_singleton_iff_unique_mem.mpr ⟨ha, fun b hb => ?_⟩
      by_contra hba
      have := Finset.mem_erase.mpr ⟨hba, hb⟩
      simp [he] at this
    rw [hs, cycle_singleton, erased_elem]

end Cursor
