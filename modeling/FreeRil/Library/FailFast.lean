import FreeRil.Library.Loop

/-! Lists with iterators that fail once the list has been modified behind their back. -/
namespace FailFast

variable {α : Type}

/-- `modCount` counts the modifications. -/
structure ArrayList (α : Type) where
  elements : List α
  modCount : ℕ

structure Iterator where
  cursor : ℕ
  expectedModCount : ℕ

namespace ArrayList

def add (list : ArrayList α) (a : α) : ArrayList α := ⟨list.elements ++ [a], list.modCount + 1⟩

/-- The first occurrence is removed, if there is one. -/
def remove [DecidableEq α] (list : ArrayList α) (a : α) : ArrayList α :=
  if a ∈ list.elements then ⟨list.elements.erase a, list.modCount + 1⟩ else list

def iterator (list : ArrayList α) : Iterator := ⟨0, list.modCount⟩

end ArrayList

namespace Iterator

/-- Only the position decides. -/
def hasNext (it : Iterator) (list : ArrayList α) : Bool := it.cursor ≠ list.elements.length

/-- There is no result where an exception is thrown. -/
def next (it : Iterator) (list : ArrayList α) : Option (α × Iterator) :=
  if list.modCount = it.expectedModCount then
    list.elements[it.cursor]?.map fun a => (a, { it with cursor := it.cursor + 1 })
  else none

end Iterator

/-- An iteration that has visited some elements; there is no iterator left after an exception. -/
structure Walk (α : Type) where
  list : ArrayList α
  iterator : Option Iterator
  visited : List α

/-- `while(it.hasNext())`, with a body that may modify the list. -/
def step (body : α → ArrayList α → ArrayList α) (w : Walk α) : Option (Unit × Walk α) :=
  match w.iterator with
  | none => none
  | some it =>
    if it.hasNext w.list then
      match it.next w.list with
      | none => some ((), { w with iterator := none })
      | some (a, it) => some ((), ⟨body a w.list, some it, w.visited ++ [a]⟩)
    else none

def start (list : ArrayList α) : Walk α := ⟨list, some list.iterator, []⟩

/-- The walk through the list, if it ends within `n` iterations. -/
def forEach (body : α → ArrayList α → ArrayList α) (list : ArrayList α) (n : ℕ) : Option (Walk α) :=
  (Loop.run (step body) n (start list)).map Prod.snd

/-- The walk comes to its end like this. -/
def Walks (body : α → ArrayList α → ArrayList α) (list : ArrayList α) (w : Walk α) : Prop :=
  ∃ n, forEach body list n = some w

section
variable {body : α → ArrayList α → ArrayList α} {list : ArrayList α} {w w' : Walk α}

theorem walks_iff : Walks body list w ↔ Loop.Ends (step body) (start list) w := by
  simp [Walks, forEach, Loop.Ends]

theorem Walks.unique (h : Walks body list w) (h' : Walks body list w') : w = w' :=
  Loop.Ends.unique (walks_iff.mp h) (walks_iff.mp h')

end

variable {p : α → Bool} {before after visited : List α} {a : α} {m : ℕ}

theorem notMem_of_nodup (h : (before ++ a :: after).Nodup) : a ∉ before := by
  intro hmem
  exact List.disjoint_of_nodup_append h hmem List.mem_cons_self

theorem filter_kept {list : List α} (h : ∀ a ∈ list, p a = false) : list.filter (!p ·) = list :=
  List.filter_eq_self.mpr fun a ha => by rw [h a ha, Bool.not_false]

/-- Either nothing is removed, or there is a first element that is. -/
theorem kept_or_first (p : α → Bool) (list : List α) : (∀ a ∈ list, p a = false) ∨
    ∃ before a after, list = before ++ a :: after ∧ (∀ b ∈ before, p b = false) ∧ p a = true := by
  cases hfind : list.find? p with
  | none =>
    left
    simpa using List.find?_eq_none.mp hfind
  | some a =>
    obtain ⟨ha, before, after, hlist, hbefore⟩ := List.find?_eq_some_iff_append.mp hfind
    exact .inr ⟨before, a, after, hlist, by simpa using hbefore, ha⟩

section
variable [DecidableEq α]

/-- The body that removes the element it is given, past the iterator. -/
def removing (p : α → Bool) (a : α) (list : ArrayList α) : ArrayList α :=
  if p a then list.remove a else list

/-- The iterator is behind `done`, and the list is as it was when the iterator was made. -/
def walking (done rest : List α) (m : ℕ) (visited : List α) : Walk α :=
  ⟨⟨done ++ rest, m⟩, some ⟨done.length, m⟩, visited⟩

theorem step_kept (ha : p a = false) : step (removing p) (walking before (a :: after) m visited)
    = some ((), walking (before ++ [a]) after m (visited ++ [a])) := by
  simp [step, walking, Iterator.hasNext, Iterator.next, removing, ha]

theorem step_removed (ha : p a = true) (hmem : a ∉ before) :
    step (removing p) (walking before (a :: after) m visited)
      = some ((), ⟨⟨before ++ after, m + 1⟩, some ⟨before.length + 1, m⟩, visited ++ [a]⟩) := by
  have hremove : (before ++ a :: after).erase a = before ++ after := by
    rw [List.erase_append_right _ hmem, List.erase_cons_head]
  simp [step, walking, Iterator.hasNext, Iterator.next, removing, ha, ArrayList.remove, hremove]

theorem step_end : step (removing p) (walking before [] m visited) = none := by
  simp [step, walking, Iterator.hasNext]

/-- Elements that are kept are visited one after the other. -/
theorem ends_kept (done visited : List α) (hbefore : ∀ b ∈ before, p b = false) {w : Walk α}
    (h : Loop.Ends (step (removing p)) (walking (done ++ before) after m (visited ++ before)) w) :
    Loop.Ends (step (removing p)) (walking done (before ++ after) m visited) w := by
  induction before generalizing done visited with
  | nil => simpa using h
  | cons b before ih =>
    obtain ⟨hb, hbefore⟩ := List.forall_mem_cons.mp hbefore
    refine .of_some (step_kept hb) (ih _ _ hbefore ?_)
    simpa using h

/-- Where nothing is removed, the walk visits every element. -/
theorem walks_of_kept {list : ArrayList α} (h : ∀ a ∈ list.elements, p a = false) :
    Walks (removing p) list
      ⟨list, some ⟨list.elements.length, list.modCount⟩, list.elements⟩ := by
  have hends : Loop.Ends (step (removing p)) (walking ([] ++ list.elements) [] list.modCount
      ([] ++ list.elements)) _ := .of_none step_end
  rw [walks_iff]
  simpa [walking, start, ArrayList.iterator] using ends_kept [] [] h hends

/-- The walk ends at the first element that is removed, and without an exception exactly where one
element is left behind it, which is not visited. -/
theorem walks_of_first (hbefore : ∀ b ∈ before, p b = false) (ha : p a = true) (hmem : a ∉ before) :
    Walks (removing p) ⟨before ++ a :: after, m⟩
      ⟨⟨before ++ after, m + 1⟩, if after.length = 1 then some ⟨before.length + 1, m⟩ else none,
        before ++ [a]⟩ := by
  refine walks_iff.mpr (ends_kept [] [] hbefore (.of_some (step_removed ha hmem) ?_))
  split_ifs with hlength
  · refine .of_none ?_
    simp [step, Iterator.hasNext, hlength]
  · have hthrows : step (removing p)
        ⟨⟨before ++ after, m + 1⟩, some ⟨before.length + 1, m⟩, before ++ [a]⟩
          = some ((), ⟨⟨before ++ after, m + 1⟩, none, before ++ [a]⟩) := by
      have hnext : ¬ 1 = after.length := Ne.symm hlength
      simp [step, Iterator.hasNext, Iterator.next, hnext]
    exact .of_some hthrows (.of_none rfl)

/-- Exactly the chosen elements are removed and nothing is thrown only where nothing is chosen, or the
last element but one alone. -/
theorem removes_iff {list : ArrayList α} (hnodup : list.elements.Nodup) :
    (∃ w, Walks (removing p) list w ∧ w.list.elements = list.elements.filter (!p ·)
        ∧ w.iterator.isSome)
      ↔ (∀ a ∈ list.elements, p a = false) ∨ ∃ before a b, list.elements = before ++ [a, b]
        ∧ (∀ b ∈ before, p b = false) ∧ p a = true ∧ p b = false := by
  obtain ⟨elements, m⟩ := list
  constructor
  · rintro ⟨w, hw, hremoved, hreturned⟩
    obtain hkept | ⟨before, a, after, rfl, hbefore, ha⟩ := kept_or_first p elements
    · exact .inl hkept
    · obtain rfl := hw.unique (walks_of_first hbefore ha (notMem_of_nodup hnodup))
      obtain ⟨b, rfl⟩ : ∃ b, after = [b] := by
        apply List.length_eq_one_iff.mp
        by_contra hlength
        simp [hlength] at hreturned
      refine .inr ⟨before, a, b, rfl, hbefore, ha, ?_⟩
      by_contra hb
      have hshorter := congrArg List.length hremoved
      simp [List.filter_append, filter_kept hbefore, ha, hb] at hshorter
  · rintro (hkept | ⟨before, a, b, rfl, hbefore, ha, hb⟩)
    · exact ⟨_, walks_of_kept hkept, (filter_kept hkept).symm, rfl⟩
    · refine ⟨_, walks_of_first hbefore ha (notMem_of_nodup hnodup), ?_, rfl⟩
      simp [List.filter_append, filter_kept hbefore, ha, hb]

/-- Every element is visited as well only where nothing is chosen. -/
theorem visits_iff {list : ArrayList α} (hnodup : list.elements.Nodup) :
    (∃ w, Walks (removing p) list w ∧ w.visited.Perm list.elements
        ∧ w.list.elements = list.elements.filter (!p ·) ∧ w.iterator.isSome)
      ↔ ∀ a ∈ list.elements, p a = false := by
  constructor
  · rintro ⟨w, hw, hvisited, hremoved, hreturned⟩
    obtain hkept | ⟨before, a, b, hlist, hbefore, ha, -⟩ :=
      (removes_iff hnodup).mp ⟨w, hw, hremoved, hreturned⟩
    · exact hkept
    · obtain ⟨elements, m⟩ := list
      obtain rfl : elements = before ++ [a, b] := hlist
      obtain rfl := hw.unique (walks_of_first hbefore ha (notMem_of_nodup hnodup))
      have hlength := hvisited.length_eq
      simp at hlength
  · intro hkept
    exact ⟨_, walks_of_kept hkept, .refl _, (filter_kept hkept).symm, rfl⟩

end
end FailFast
