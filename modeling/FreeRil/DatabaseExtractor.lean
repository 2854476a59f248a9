import FreeRil.Bytes
import FreeRil.Library.HeapBlock
import FreeRil.Library.Loop

/-! The names of the operators on their way into a script that fills the database: each is copied with
its quotes doubled. -/
namespace FreeRil
namespace DatabaseExtractor

/-- The variables of the loop of `escape`. -/
structure Escape where
  dup : HeapBlock
  len : ℕ
  searchptr : ℕ

/-- The copy that the loop starts with; there is none where it does not fit. -/
def duplicate (A : Allocator) (string : Bytes) : Option Escape :=
  let len := string.length + 1
  let dup := HeapBlock.malloc A len
  (dup.write dup.base (string ++ [0])).map fun dup => ⟨dup, len, dup.base⟩

/-- The quote at `badchr` is doubled, in a block with one byte more. -/
def doubleQuote (A : Allocator) (s : Escape) (badchr : ℕ) : Option Escape :=
  let pos := badchr - s.dup.base
  let len := s.len + 1
  let dup := s.dup.realloc A len
  let badchr := dup.base + pos
  (dup.memmove (badchr + 1) badchr (len - pos - 1)).map fun dup => ⟨dup, len, badchr + 2⟩

/-- An iteration; after an access outside of the block there is no state left. -/
def iteration (A : Allocator) : Option Escape → Option (Unit × Option Escape)
  | none => none
  | some s =>
    match s.dup.strchr s.searchptr 39 with
    | none => some ((), none)
    | some none => none
    | some (some badchr) => some ((), doubleQuote A s badchr)

/-- The block that is returned after at most `n` iterations, unless something outside of it has been
accessed. -/
def escape (A : Allocator) (string : Bytes) (n : ℕ) : Option (Option HeapBlock) :=
  (Loop.run (iteration A) n (duplicate A string)).map fun r => r.2.map Escape.dup

/-- A string with every quote doubled and nothing else changed. -/
def doubled (string : Bytes) : Bytes := string.flatMap fun c => if c = 39 then [39, 39] else [c]

/-- A literal of SQL after its first quote: the string that it denotes, and what comes after the quote
that closes it. -/
def literal : Bytes → Option (Bytes × Bytes)
  | [] => none
  | c :: sql =>
    if c = 39 then
      match sql with
      | [] => some ([], [])
      | c' :: sql' =>
        if c' = 39 then (literal sql').map fun r => (39 :: r.1, r.2) else some ([], c' :: sql')
    else (literal sql).map fun r => (c :: r.1, r.2)

section
variable {string : Bytes}

@[simp] theorem doubled_nil : doubled [] = [] := rfl

@[simp] theorem doubled_cons (c : UInt8) (string : Bytes) :
    doubled (c :: string) = (if c = 39 then [39, 39] else [c]) ++ doubled string := rfl

@[simp] theorem doubled_append (s t : Bytes) : doubled (s ++ t) = doubled s ++ doubled t :=
  List.flatMap_append

theorem doubled_of_notMem (h : 39 ∉ string) : doubled string = string := by
  induction string with
  | nil => rfl
  | cons c string ih =>
    obtain ⟨hc, hstring⟩ := not_or.mp (mt List.mem_cons.mpr h)
    rw [doubled_cons, if_neg (Ne.symm hc), ih hstring]
    rfl

/-- A literal of a doubled string is closed by the quote after the string, and denotes the string. -/
theorem literal_doubled (string : Bytes) {sql : Bytes} (h : sql.head? ≠ some 39) :
    literal (doubled string ++ 39 :: sql) = some (string, sql) := by
  induction string with
  | nil =>
    cases sql with
    | nil => simp [literal]
    | cons c sql =>
      have hc : c ≠ 39 := by simpa using h
      simp [literal, hc]
  | cons c string ih =>
    rw [doubled_cons]
    split_ifs with hc
    · subst hc
      simp [literal, ih]
    · rw [literal.eq_def]
      simp [hc, ih]

end

section
variable {A : Allocator}

/-- The state of the loop: `before` has been searched, and its quotes are doubled. -/
def searched (base : ℕ) (before after : Bytes) : Escape :=
  ⟨⟨base, doubled before ++ (after ++ [0])⟩, (doubled before ++ (after ++ [0])).length,
    base + (doubled before).length⟩

theorem duplicate_eq (string : Bytes) :
    duplicate A string = some (searched (A.place (string.length + 1)) [] string) := by
  have hwrite : (⟨A.place (string.length + 1),
      [] ++ ((List.range (string.length + 1)).map A.fill ++ [])⟩ : HeapBlock).write
        (A.place (string.length + 1) + ([] : Bytes).length) (string ++ [0])
          = some ⟨_, [] ++ ((string ++ [0]) ++ [])⟩ := HeapBlock.write_append (by simp) []
  simp only [List.nil_append, List.append_nil, List.length_nil, add_zero] at hwrite
  rw [duplicate, HeapBlock.malloc, hwrite, Option.map_some, searched]
  simp

theorem iteration_of_notMem {base : ℕ} {before after : Bytes} (h0 : 0 ∉ after) (h : 39 ∉ after) :
    iteration A (some (searched base before after)) = none := by
  have hend : (searched base before after).dup.strchr (searched base before after).searchptr 39
      = some none := HeapBlock.strchr_of_notMem h0 h (by decide) []
  simp only [iteration, hend]

theorem doubleQuote_eq {n : ℕ} {before moved : Bytes} (base searchptr : ℕ)
    (hn : n = (before ++ 39 :: moved).length) :
    doubleQuote A ⟨⟨base, before ++ 39 :: moved⟩, n, searchptr⟩ (base + before.length)
      = some ⟨⟨A.place (n + 1), before ++ 39 :: 39 :: moved⟩, n + 1,
          A.place (n + 1) + before.length + 2⟩ := by
  have hsize : n + 1 - before.length - 1 = moved.length + 1 := by
    rw [hn, List.length_append, List.length_cons]
    omega
  have hmoved : (⟨A.place (n + 1), before ++ (39 :: moved ++ [A.fill n])⟩ : HeapBlock).memmove
      (A.place (n + 1) + before.length + 1) (A.place (n + 1) + before.length) (moved.length + 1)
        = some ⟨A.place (n + 1), before ++ 39 :: 39 :: moved⟩ := HeapBlock.memmove_succ moved _
  have hgrown : (⟨base, before ++ 39 :: moved⟩ : HeapBlock).realloc A (n + 1)
      = ⟨A.place (n + 1), before ++ (39 :: moved ++ [A.fill n])⟩ := by
    rw [hn, HeapBlock.realloc_succ, List.append_assoc]
  simp only [doubleQuote, hgrown, Nat.add_sub_cancel_left, hsize, hmoved, Option.map_some]

/-- The search goes on after the second of the two quotes. -/
theorem iteration_of_mem (base : ℕ) (before after : Bytes) {unquoted : Bytes} (h0 : 0 ∉ unquoted)
    (h : 39 ∉ unquoted) : ∃ base',
      iteration A (some (searched base before (unquoted ++ 39 :: after)))
        = some ((), some (searched base' (before ++ unquoted ++ [39]) after)) := by
  obtain ⟨n, hn⟩ : ∃ n, n = ((doubled before ++ unquoted) ++ 39 :: (after ++ [0])).length := ⟨_, rfl⟩
  have hcurrent : searched base before (unquoted ++ 39 :: after)
      = ⟨⟨base, (doubled before ++ unquoted) ++ 39 :: (after ++ [0])⟩, n,
        base + (doubled before).length⟩ := by
    simp [searched, hn]
  have hnext : searched (A.place (n + 1)) (before ++ unquoted ++ [39]) after
      = ⟨⟨A.place (n + 1), (doubled before ++ unquoted) ++ 39 :: 39 :: (after ++ [0])⟩, n + 1,
        A.place (n + 1) + (doubled before ++ unquoted).length + 2⟩ := by
    simp [searched, doubled_of_notMem h, hn]
    omega
  have hfound : (⟨base, (doubled before ++ unquoted) ++ 39 :: (after ++ [0])⟩ : HeapBlock).strchr
      (base + (doubled before).length) 39
        = some (some (base + (doubled before ++ unquoted).length)) := by
    rw [List.append_assoc, HeapBlock.strchr_of_mem h0 h, List.length_append, add_assoc]
  refine ⟨A.place (n + 1), ?_⟩
  rw [hcurrent, hnext, ← doubleQuote_eq base (base + (doubled before).length) hn]
  simp only [iteration, hfound]

/-- Every quote takes one iteration. -/
theorem run_searched {string : Bytes} (h0 : 0 ∉ string) (base : ℕ) (before : Bytes) : ∃ os s,
    Loop.run (iteration A) (string.count 39) (some (searched base before string)) = some (os, some s)
      ∧ s.dup.data = doubled (before ++ string) ++ [0] := by
  induction hn : string.count 39 generalizing string base before with
  | zero =>
    have h := List.count_eq_zero.mp hn
    refine ⟨[], searched base before string, Loop.run_of_none (iteration_of_notMem h0 h) 0, ?_⟩
    simp [searched, doubled_of_notMem h]
  | succ n ih =>
    have hmem : 39 ∈ string := List.count_pos_iff.mp (by omega)
    obtain ⟨unquoted, after, rfl, hunquoted⟩ := List.eq_append_cons_of_mem hmem
    have hcount : after.count 39 = n := by
      simpa [List.count_eq_zero.mpr hunquoted] using hn
    obtain ⟨h0unquoted, h0after⟩ := not_or.mp (mt List.mem_append.mpr h0)
    obtain ⟨base', hstep⟩ := iteration_of_mem (A := A) base before after h0unquoted hunquoted
    obtain ⟨os, s, hrun, hdata⟩ := ih (List.not_mem_of_not_mem_cons h0after) base'
      (before ++ unquoted ++ [39]) hcount
    refine ⟨() :: os, s, ?_, ?_⟩
    · rw [Loop.run_of_some hstep, hrun, Option.map_some]
    · rw [hdata]
      simp

end

/-- The loop ends without an access outside of the block, which then holds the string with its quotes
doubled; read as a literal of SQL, that is the string. -/
theorem escape_doubles (A : Allocator) (string : Bytes) (h0 : 0 ∉ string) :
    (∃ n base, escape A string n = some (some ⟨base, doubled string ++ [0]⟩))
      ∧ ∀ sql : Bytes, sql.head? ≠ some 39 →
        literal (doubled string ++ 39 :: sql) = some (string, sql) := by
  obtain ⟨os, s, hrun, hdata⟩ := run_searched (A := A) h0 (A.place (string.length + 1)) []
  refine ⟨⟨string.count 39, s.dup.base, ?_⟩, fun sql => literal_doubled string⟩
  rw [List.nil_append] at hdata
  rw [escape, duplicate_eq, hrun, ← hdata]
  rfl

theorem escape_doubles_adjacent :
    (∃ n base, escape ⟨fun size => 16 * size, fun _ => 0xA5⟩ (str "O''Neil'") n
        = some (some ⟨base, str "O''''Neil''" ++ [0]⟩))
      ∧ literal (str "O''''Neil'''" ++ str ");") = some (str "O''Neil'", str ");") := by
  have h := escape_doubles ⟨fun size => 16 * size, fun _ => 0xA5⟩ (str "O''Neil'") (by decide)
  exact ⟨h.1, h.2 (str ");") (by decide)⟩

end DatabaseExtractor
end FreeRil
