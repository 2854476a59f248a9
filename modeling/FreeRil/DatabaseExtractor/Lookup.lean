import FreeRil.DatabaseExtractor.Script

/-! What the names of operators are that come out of the library of the vendor: the script that is
written for its table fills the database that the operators are looked up in. -/
namespace FreeRil
namespace DatabaseExtractor
open ArmDl RILDatabase

/-! What a script does, in the words of SQL. -/

/-- What comes after a text. -/
def after (text sql : Bytes) : Option Bytes :=
  if text <+: sql then some (sql.drop text.length) else none

/-- The row of a statement, and what comes after the statement. -/
def readInsertion (sql : Bytes) : Option (OperatorName × Bytes) := do
  let (mccmnc, sql) ← literal (← after insertText sql)
  let (long_name, sql) ← literal (← after (str ", '") sql)
  let (short_name, sql) ← literal (← after (str ", '") sql)
  return (⟨mccmnc, long_name, short_name⟩, ← after (str ");\n") sql)

/-- `INSERT OR REPLACE`: a row takes the place of that with its key. -/
def insertOrReplace (operators : Operators) (row : OperatorName) : Operators :=
  Function.update operators row.mccmnc (some (row.long_name, row.short_name))

/-- Statements up to the end of the transaction. -/
inductive Executes : Operators → Bytes → Operators → Prop
  | commit {operators : Operators} : Executes operators commit operators
  | insertion {operators operators' : Operators} {sql rest : Bytes} {row : OperatorName}
    (hread : readInsertion sql = some (row, rest))
    (hrest : Executes (insertOrReplace operators row) rest operators') :
    Executes operators sql operators'

/-- A script that makes a new table. -/
def Fills (script : Bytes) (operators : Operators) : Prop :=
  ∃ sql, after header script = some sql ∧ Executes (fun _ => none) sql operators

section
variable {A : Allocator} {image : Mapping}

theorem after_append (text sql : Bytes) : after text (text ++ sql) = some sql := by
  rw [after, if_pos (List.prefix_append text sql), List.drop_left]

theorem readInsertion_commit : readInsertion commit = none := by
  have hafter : after insertText commit = none := by
    rw [after, if_neg]
    decide
  rw [readInsertion, hafter]
  rfl

/-- A script has one effect. -/
theorem Executes.unique {operators o o' : Operators} {sql : Bytes} (h : Executes operators sql o)
    (h' : Executes operators sql o') : o = o' := by
  induction h with
  | commit =>
    cases h' with
    | commit => rfl
    | insertion hread => simp [readInsertion_commit] at hread
  | insertion hread _ ih =>
    cases h' with
    | commit => simp [readInsertion_commit] at hread
    | insertion hread' hrest' =>
      obtain ⟨rfl, rfl⟩ := Prod.mk.inj (Option.some.inj (hread.symm.trans hread'))
      exact ih hrest'

theorem Fills.unique {o o' : Operators} {script : Bytes} (h : Fills script o)
    (h' : Fills script o') : o = o' := by
  obtain ⟨sql, hsql, h⟩ := h
  obtain ⟨sql', hsql', h'⟩ := h'
  obtain rfl := Option.some.inj (hsql.symm.trans hsql')
  exact h.unique h'

/-- A literal in the midst of a statement. -/
theorem literal_comma (string : Bytes) (sql : Bytes) :
    literal (doubled string ++ str "', '" ++ sql) = some (string, str ", '" ++ sql) := by
  have hquote : str "', '" = 39 :: str ", '" := by decide
  rw [hquote, List.append_assoc, List.cons_append]
  refine literal_doubled string ?_
  have hcomma : str ", '" = 44 :: str " '" := by decide
  simp [hcomma]

theorem literal_last (string : Bytes) (sql : Bytes) :
    literal (doubled string ++ str "');\n" ++ sql) = some (string, str ");\n" ++ sql) := by
  have hquote : str "');\n" = 39 :: str ");\n" := by decide
  rw [hquote, List.append_assoc, List.cons_append]
  refine literal_doubled string ?_
  have hparenthesis : str ");\n" = 41 :: str ";\n" := by decide
  simp [hparenthesis]

/-- A statement is read as the row that it is written for. -/
theorem readInsertion_insertion (row : OperatorName) (hquote : 39 ∉ row.mccmnc) (sql : Bytes) :
    readInsertion (insertion row.mccmnc (doubled row.long_name) (doubled row.short_name) ++ sql) =
      some (row, sql) := by
  have hkey := literal_comma row.mccmnc
  rw [doubled_of_notMem hquote] at hkey
  simp only [insertion, List.append_assoc] at hkey ⊢
  have hlong := literal_comma row.long_name
  have hshort := literal_last row.short_name
  simp only [List.append_assoc] at hlong hshort
  simp only [readInsertion, after_append, hkey, hlong, hshort, Option.bind_eq_bind,
    Option.bind_some]
  rfl

/-! What is written. -/

theorem zero_notMem_doubled {string : Bytes} (h : 0 ∉ string) : 0 ∉ doubled string := by
  intro hmem
  obtain ⟨c, hc, hzero⟩ := List.mem_flatMap.mp hmem
  split_ifs at hzero
  · simp at hzero
  · obtain rfl := List.mem_singleton.mp hzero
    exact h hc

theorem cstr_append_zero {string : Bytes} (h : 0 ∉ string) : cstr (string ++ [0]) = string := by
  have hall : ∀ c ∈ string, decide (c ≠ 0) = true :=
    fun c hc => decide_eq_true fun hzero => h (hzero ▸ hc)
  rw [cstr, List.takeWhile_append_of_pos hall]
  simp

theorem cstr_eq_self {string : Bytes} (h : 0 ∉ string) : cstr string = string :=
  List.takeWhile_eq_self_iff.mpr fun _ hc => decide_eq_true fun hzero => h (hzero ▸ hc)

theorem escaped_eq {string : Bytes} (h : 0 ∉ string) :
    escaped A string = some (doubled string) := by
  obtain ⟨os, s, hrun, hdata⟩ := run_searched (A := A) h (A.place (string.length + 1)) []
  have hescape : escape A string string.length = some (some s.dup) := by
    rw [escape, duplicate_eq, Loop.run_mono hrun List.count_le_length]
    rfl
  rw [List.nil_append] at hdata
  simp only [escaped, hescape, hdata, cstr_append_zero (zero_notMem_doubled h)]

theorem stringAt_zero_notMem {n : ℕ} {address : UInt32} {string : Bytes}
    (h : stringAt image address n = some string) : 0 ∉ string := by
  induction n generalizing address string with
  | zero => contradiction
  | succ n ih =>
    unfold stringAt at h
    split at h
    next c _ =>
      split_ifs at h with hc
      · obtain rfl := Option.some.inj h
        exact List.not_mem_nil
      · obtain ⟨rest, hrest, rfl⟩ := Option.map_eq_some_iff.mp h
        exact fun hmem => (List.mem_cons.mp hmem).elim (fun hzero => hc hzero.symm) (ih hrest)
    next => contradiction

theorem nameAt_zero_notMem {pointer : UInt32} {string : Bytes}
    (h : nameAt image pointer = some string) :
    0 ∉ string := by
  unfold nameAt at h
  split_ifs at h
  · obtain rfl := Option.some.inj h
    exact List.not_mem_nil
  · exact stringAt_zero_notMem h

/-- Strings as the table has them. -/
structure OperatorName.Ended (entry : OperatorName) : Prop where
  mccmnc : 0 ∉ entry.mccmnc
  long_name : 0 ∉ entry.long_name
  short_name : 0 ∉ entry.short_name

theorem entryAt_ended {p : UInt32} {entry : OperatorName} (h : entryAt image p = some entry) :
    entry.Ended := by
  simp only [entryAt, Option.bind_eq_bind, Option.bind_eq_some_iff] at h
  obtain ⟨mccmnc, -, long, -, long_name, hlong, short, -, short_name, hshort, h⟩ := h
  obtain rfl := Option.some.inj h
  exact ⟨zero_notMem_cstr _, nameAt_zero_notMem hlong, nameAt_zero_notMem hshort⟩

/-- The names that are written for an entry. -/
def OperatorName.names (entry : OperatorName) : Option (Bytes × Bytes) :=
  bothNames entry.long_name entry.short_name

theorem names_ended {entry : OperatorName} (h : entry.Ended) {long_name short_name : Bytes}
    (hnames : entry.names = some (long_name, short_name)) : 0 ∉ long_name ∧ 0 ∉ short_name := by
  have hlong := h.long_name
  have hshort := h.short_name
  unfold OperatorName.names bothNames at hnames
  split_ifs at hnames
  all_goals
    obtain ⟨rfl, rfl⟩ := Prod.mk.inj (Option.some.inj hnames)
    exact ⟨by assumption, by assumption⟩

/-- The statement of an entry, if it has a name. -/
def OperatorName.text (entry : OperatorName) : Bytes :=
  match entry.names with
  | none => []
  | some (long_name, short_name) => insertion entry.mccmnc (doubled long_name) (doubled short_name)

theorem statement_eq {entry : OperatorName} (h : entry.Ended) :
    entry.statement A = some entry.text := by
  have hnames : bothNames entry.long_name entry.short_name = entry.names := rfl
  unfold OperatorName.statement OperatorName.text
  rw [hnames]
  cases hentry : entry.names with
  | none => rfl
  | some names =>
    obtain ⟨hlong, hshort⟩ := names_ended h hentry
    simp only [escaped_eq hlong, escaped_eq hshort, Option.bind_eq_bind, Option.bind_some]
    rfl

/-- The entries from `p` to the end of the table. -/
inductive Entries (image : Mapping) (table_end : UInt32) : UInt32 → List OperatorName → Prop
  | nil {p : UInt32} (h : ¬ p < table_end) : Entries image table_end p []
  | cons {p : UInt32} {entry : OperatorName} {entries : List OperatorName} (h : p < table_end)
    (hentry : entryAt image p = some entry)
    (hrest : Entries image table_end (p + entrySize) entries) :
    Entries image table_end p (entry :: entries)

/-- The loop goes through the table. -/
theorem run_writeEntry {table_end p : UInt32} {entries : List OperatorName}
    (h : Entries image table_end p entries) :
    ∃ p', Loop.run (writeEntry A image table_end) entries.length
      (some p) = some (entries.map OperatorName.text, some p') := by
  induction h with
  | @nil p hend =>
    refine ⟨p, Loop.run_of_none ?_ _⟩
    simp only [writeEntry, if_neg hend]
  | @cons p entry entries hlt hentry _ ih =>
    obtain ⟨p', hrun⟩ := ih
    have hstep : writeEntry A image table_end (some p) =
      some (entry.text, some (p + entrySize)) := by
      simp only [writeEntry, if_pos hlt, hentry, Option.bind_eq_bind, Option.bind_some,
        statement_eq (entryAt_ended hentry)]
    refine ⟨p', ?_⟩
    rw [List.length_cons, Loop.run_of_some hstep, hrun]
    rfl

theorem entries_ended {table_end p : UInt32} {entries : List OperatorName}
    (h : Entries image table_end p entries) : ∀ entry ∈ entries, entry.Ended := by
  induction h with
  | nil => simp
  | cons _ hentry _ ih => exact List.forall_mem_cons.mpr ⟨entryAt_ended hentry, ih⟩

/-! What the operators are called. -/

/-- The operators after one more entry. -/
def OperatorName.put (operators : Operators) (entry : OperatorName) : Operators :=
  match entry.names with
  | none => operators
  | some names => Function.update operators entry.mccmnc (some names)

/-- The names of the last entry for a key that has any. -/
def lastNames (entries : List OperatorName) (mccmnc : Bytes) : Option (Bytes × Bytes) :=
  entries.reverse.findSome? fun entry => if entry.mccmnc = mccmnc then entry.names else none

theorem foldl_put (operators : Operators) (entries : List OperatorName) (mccmnc : Bytes) :
    entries.foldl OperatorName.put operators mccmnc =
      (lastNames entries mccmnc).or (operators mccmnc) := by
  induction entries generalizing operators with
  | nil => rfl
  | cons entry entries ih =>
    rw [List.foldl_cons, ih, lastNames, lastNames, List.reverse_cons, List.findSome?_append,
      Option.or_assoc]
    congr 1
    rw [List.findSome?_singleton, OperatorName.put]
    cases entry.names with
    | none => simp
    | some names =>
      by_cases hkey : entry.mccmnc = mccmnc
      · simp [hkey]
      · simp [hkey, Function.update_of_ne (Ne.symm hkey)]

/-- The statements do what the entries say. -/
theorem executes_entries (operators : Operators) {entries : List OperatorName}
    (hquote : ∀ entry ∈ entries, 39 ∉ entry.mccmnc) :
    Executes operators ((entries.map OperatorName.text).flatten ++ commit)
      (entries.foldl OperatorName.put operators) := by
  induction entries generalizing operators with
  | nil => exact .commit
  | cons entry entries ih =>
    obtain ⟨hentry, hrest⟩ := List.forall_mem_cons.mp hquote
    have hlater := ih (OperatorName.put operators entry) hrest
    rw [List.map_cons, List.flatten_cons, List.append_assoc, List.foldl_cons]
    unfold OperatorName.text
    unfold OperatorName.put at hlater ⊢
    cases hnames : entry.names with
    | none =>
      rw [hnames] at hlater
      exact hlater
    | some names =>
      rw [hnames] at hlater
      exact .insertion (readInsertion_insertion ⟨entry.mccmnc, names.1, names.2⟩ hentry _) hlater

/-- Where no key of the table has a quote in it, the script fills the database so that an operator
is called what the last of its entries with a name says, and `<` its key `>` where there is none. -/
theorem operators_looked_up (A : Allocator) {handle : ArmDlHandle} {n : ℕ}
    {table table_end : UInt32}
    (htable : arm_dlsym handle (str "opname_list") n = some (.ok (some table)))
    (hend : arm_dlsym handle (str "TimezoneIdList") n = some (.ok (some table_end)))
    {entries : List OperatorName} (h : Entries handle.image table_end table entries)
    (hn : entries.length ≤ n) (hquote : ∀ entry ∈ entries, 39 ∉ entry.mccmnc) :
    ∃ script operators, main A handle n = some (.ok script) ∧
      (∀ o, Fills script o ↔ o = operators) ∧
      ∀ mccmnc, lookupOperator operators mccmnc =
        (lastNames entries (cstr mccmnc)).getD
          (str "<" ++ mccmnc ++ str ">", str "<" ++ mccmnc ++ str ">") := by
  obtain ⟨p', hrun⟩ := run_writeEntry (A := A) h
  have hfills : Fills (header ++ (entries.map OperatorName.text).flatten ++ commit)
      (entries.foldl OperatorName.put fun _ => none) := by
    rw [List.append_assoc]
    exact ⟨_, after_append _ _, executes_entries _ hquote⟩
  refine ⟨header ++ (entries.map OperatorName.text).flatten ++ commit, _, ?_,
    fun o => ⟨fun ho => ho.unique hfills, fun ho => ho ▸ hfills⟩, fun mccmnc => ?_⟩
  · simp only [main, htable, hend, Loop.run_mono hrun hn, Option.map_some]
  · rw [lookupOperator, foldl_put, Option.or_none]
    cases hnames : lastNames entries (cstr mccmnc) with
    | none => rfl
    | some names =>
      obtain ⟨entry, hmem, hentry⟩ := List.exists_of_findSome?_eq_some hnames
      split_ifs at hentry
      obtain ⟨hlong, hshort⟩ :=
        names_ended (entries_ended h entry (List.mem_reverse.mp hmem)) hentry
      simp only [Option.getD_some, cstr_eq_self hlong, cstr_eq_self hshort]

end

/-- A library with a table of three entries for two operators. -/
def threeOperators : ArmDlHandle where
  image :=
    { base := 0x1000
      size := 172
      byte := fun i => (([1, 0, 0, 0, 3, 0, 0, 0, 1, 0, 0, 0, 0, 0, 0, 0, 2, 0, 0, 0, 0, 0, 0, 0] ++
        List.replicate 16 0 ++ [1, 0, 0, 0, 100, 0, 0, 0] ++ List.replicate 8 0 ++
        [13, 0, 0, 0, 148, 0, 0, 0] ++ List.replicate 8 0 ++
        [0] ++ str "opname_list" ++ [0] ++ str "TimezoneIdList" ++ [0] ++
        str "25001" ++ [0, 0, 0, 148, 16, 0, 0, 0, 0, 0, 0] ++
        str "25099" ++ [0, 0, 0, 155, 16, 0, 0, 164, 16, 0, 0] ++
        str "25001" ++ [0, 0, 0, 168, 16, 0, 0, 0, 0, 0, 0] ++
        str "O'Hara" ++ [0] ++ str "Bee Line" ++ [0] ++ str "Bee" ++ [0] ++ str "MTS" ++ [0] :
          Bytes)).getD i 0 }
  dyn_data tag := if tag = DT_HASH then 0x1000 else if tag = DT_SYMTAB then 0x1018 else 0x1048

/-- Every block is placed elsewhere when it grows. -/
def moving : Allocator := ⟨fun size => 0x8000 + 64 * size, fun _ => 0xA5⟩

/-- The last entry of `25001` is the one that counts, and `25002` has none. -/
theorem threeOperators_looked_up : ∃ script operators,
    main moving threeOperators 3 = some (.ok script) ∧ Fills script operators ∧
      lookupOperator operators (str "25001") = (str "MTS", str "MTS") ∧
      lookupOperator operators (str "25099") = (str "Bee Line", str "Bee") ∧
      lookupOperator operators (str "25002") = (str "<25002>", str "<25002>") := by
  have htable : arm_dlsym threeOperators (str "opname_list") 3 = some (.ok (some 0x1064)) := by
    decide +kernel
  have hend : arm_dlsym threeOperators (str "TimezoneIdList") 3 = some (.ok (some 0x1094)) := by
    decide +kernel
  have hfirst : entryAt threeOperators.image 0x1064 = some ⟨str "25001", str "O'Hara", []⟩ := by
    decide +kernel
  have hsecond : entryAt threeOperators.image 0x1074 =
      some ⟨str "25099", str "Bee Line", str "Bee"⟩ := by decide +kernel
  have hthird : entryAt threeOperators.image 0x1084 = some ⟨str "25001", str "MTS", []⟩ := by
    decide +kernel
  have hentries : Entries threeOperators.image 0x1094 0x1064 _ :=
    .cons (by decide) hfirst (.cons (by decide) hsecond
      (.cons (by decide) hthird (.nil (by decide))))
  obtain ⟨script, operators, hmain, hfills, hlookup⟩ :=
    operators_looked_up moving htable hend hentries (by decide) (by decide)
  refine ⟨script, operators, hmain, (hfills operators).mpr rfl, ?_, ?_, ?_⟩
  · rw [hlookup]
    decide
  · rw [hlookup]
    decide
  · rw [hlookup]
    decide

end DatabaseExtractor
end FreeRil
