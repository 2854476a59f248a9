import FreeRil.AndroidFileSystem
import FreeRil.Library.LexicalPath

/-! Where the paths handed to the kernel on behalf of the modem lead. -/
namespace FreeRil.AndroidFileSystem

/-- The components of a path; an absolute one starts with an empty component. -/
def components (path : Bytes) : List Bytes := path.splitOn slash

/-- The components that resolution passes over. -/
def isDot (component : Bytes) : Bool := component = [] ∨ component = str "."

/-- The path starts at `/efs` and has no component `..`, and resolving it never leaves `/efs`. -/
def Confined (path : Bytes) : Prop :=
  ∃ rest, components path = [[], str "efs"] ++ rest ∧ str ".." ∉ rest ∧
    ∀ cs, cs <+: rest →
      [str "efs"] <+: LexicalPath.resolve isDot (str "..") ([[], str "efs"] ++ cs)

/-- An absolute name whose first component is not `efs`. -/
def Refused (filename : Bytes) : Prop :=
  filename.head? = some slash ∧ (components filename)[1]? ≠ some (str "efs")

theorem confined_iff {path : Bytes} :
    Confined path ↔ ∃ rest, components path = [[], str "efs"] ++ rest ∧ str ".." ∉ rest := by
  constructor
  · rintro ⟨rest, hpath, hup, -⟩
    exact ⟨rest, hpath, hup⟩
  · rintro ⟨rest, hpath, hup⟩
    refine ⟨rest, hpath, hup, fun cs hcs => ?_⟩
    have hbase : LexicalPath.resolve isDot (str "..") [[], str "efs"] = [str "efs"] := by decide
    rw [← hbase]
    exact LexicalPath.resolve_below fun hmem => hup (hcs.subset hmem)

section
variable {expanded a b : Bytes}

theorem components_append (a b : Bytes) :
    components (a ++ slash :: b) = components a ++ components b :=
  List.splitOn_append_cons_self a b

theorem components_slash (b : Bytes) : components (slash :: b) = [] :: components b :=
  components_append [] b

theorem cstr_of_mem (h : 0 ∈ a) (b : Bytes) : cstr (a ++ b) = cstr a := by
  induction a with
  | nil => simp at h
  | cons c a ih =>
    by_cases hc : c = 0
    · simp [cstr, hc]
    · have hmem : 0 ∈ a := by simpa [Ne.symm hc] using h
      simpa [cstr, hc] using ih hmem

theorem cstr_of_notMem (h : 0 ∉ a) (b : Bytes) : cstr (a ++ b) = a ++ cstr b := by
  refine List.takeWhile_append_of_pos fun c hc => ?_
  have hne : c ≠ 0 := fun he => h (he ▸ hc)
  simpa using hne

/-- A path is its first component, or goes on with a slash. -/
theorem components_eq_cons {c : Bytes} {cs : List Bytes} (h : components a = c :: cs) :
    (a = c ∧ cs = []) ∨ ∃ b, a = c ++ slash :: b ∧ components b = cs := by
  by_cases hmem : slash ∈ a
  · obtain ⟨d, b, rfl, hd⟩ := List.eq_append_cons_of_mem hmem
    have hsplit : components (d ++ slash :: b) = d :: components b :=
      List.splitOn_append_cons_self_of_not_mem hd b
    obtain ⟨rfl, rfl⟩ := List.cons.inj (hsplit.symm.trans h)
    exact .inr ⟨b, rfl, rfl⟩
  · have hsingle : components a = [a] := List.splitOn_eq_singleton hmem
    obtain ⟨rfl, rfl⟩ := List.cons.inj (hsingle.symm.trans h)
    exact .inl ⟨rfl, rfl⟩

theorem exists_components (a : Bytes) : ∃ c cs, components a = c :: cs :=
  List.exists_cons_of_ne_nil (List.splitOn_ne_nil _ _)

/-- The directories above a path that is confined are confined. -/
theorem Confined.of_append (h : Confined (cstr (a ++ slash :: b))) (ha : a ≠ []) :
    Confined (cstr a) := by
  by_cases hzero : 0 ∈ a
  · rwa [cstr_of_mem hzero] at h
  · obtain ⟨rest, hrest, hup⟩ := confined_iff.mp h
    have hcut : cstr (slash :: b) = slash :: cstr b := by simp [cstr, slash]
    have hself : cstr a = a := by simpa [cstr] using cstr_of_notMem hzero []
    rw [cstr_of_notMem hzero, hcut, components_append] at hrest
    obtain ⟨c, cs, hc⟩ := exists_components a
    rw [hc, List.cons_append, List.cons_append, List.cons.injEq] at hrest
    obtain ⟨rfl, hrest⟩ := hrest
    obtain ⟨d, -, rfl⟩ := (components_eq_cons hc).resolve_left fun hnil => ha hnil.1
    obtain ⟨d₁, ds, hd⟩ := exists_components d
    rw [hd] at hrest hc
    simp only [List.cons_append, List.nil_append, List.cons.injEq] at hrest
    obtain ⟨rfl, rfl⟩ := hrest
    rw [hself]
    exact confined_iff.mpr ⟨ds, hc, fun hmem => hup (List.mem_append_left _ hmem)⟩

/-- No component the loop looks at is `/..`, as none starts with a slash that is not its last
character. -/
theorem component_ne (offset : ℕ) :
    substr expanded (offset + 1) ((find expanded slash (offset + 1)).map (· - offset)) ≠
      str "/.." := by
  have hup : str "/.." = [slash, 46, 46] := by decide
  rw [hup]
  intro he
  cases hfind : find expanded slash (offset + 1) with
  | none =>
    have hno := find_eq_none hfind
    rw [hfind] at he
    simp only [Option.map_none, substr] at he
    simp [he] at hno
  | some next =>
    obtain ⟨before, after, hdrop, hno, rfl⟩ := find_eq_some hfind
    rw [hfind] at he
    simp only [Option.map_some, substr, hdrop] at he
    cases before with
    | nil => simp at he
    | cons c before =>
      have hlen : offset + 1 + (c :: before).length - offset = before.length + 2 := by
        simp only [List.length_cons]
        omega
      rw [hlen] at he
      simp only [List.cons_append, List.take_succ_cons, List.cons.injEq] at he
      exact hno (by simp [he.1])

/-- Induction along the slashes of a string, as the loops go. -/
theorem slash_induction {motive : ℕ → Prop} (expanded : Bytes)
    (h : ∀ offset, (∀ next, find expanded slash (offset + 1) = some next → motive next) →
      motive offset) (offset : ℕ) : motive offset := by
  induction offset using makePathFrom.induct expanded with
  | case1 offset ih => exact h offset ih

theorem validate_of_ne_zero (m_efs expanded : Bytes) {offset : ℕ} (h : offset ≠ 0) :
    validate m_efs expanded offset = 0 := by
  induction offset using slash_induction expanded with
  | h offset ih =>
    rw [validate, if_neg fun hcond => h hcond.1, if_neg (component_ne offset)]
    split
    · rfl
    · rename_i next hfind
      have hlt := (find_lt hfind).1
      exact ih next hfind (by omega)

/-- The loop only ever checks the first component. -/
theorem validate_zero (m_efs expanded : Bytes) :
    validate m_efs expanded 0 =
      if substr expanded 0 (find expanded slash 1) ≠ m_efs then (-EACCES : ℤ) else 0 := by
  rw [validate]
  by_cases hfirst : substr expanded 0 (find expanded slash 1) = m_efs
  · rw [if_neg fun hcond => hcond.2 hfirst, if_neg (component_ne 0), if_neg (not_not.mpr hfirst)]
    split
    · rfl
    · rename_i next hfind
      have hlt := (find_lt hfind).1
      exact validate_of_ne_zero m_efs expanded (by omega)
  · rw [if_pos ⟨rfl, hfirst⟩, if_pos hfirst]

/-- The string up to its second slash. -/
theorem substr_find_slash {c : Bytes} {cs : List Bytes} (h : components a = c :: cs) :
    substr (slash :: a) 0 (find (slash :: a) slash 1) = slash :: c := by
  cases hfind : find (slash :: a) slash 1 with
  | none =>
    have hno : slash ∉ a := by simpa using find_eq_none hfind
    have hsingle : components a = [a] := List.splitOn_eq_singleton hno
    obtain ⟨rfl, -⟩ := List.cons.inj (hsingle.symm.trans h)
    rfl
  | some next =>
    obtain ⟨before, after, hdrop, hno, rfl⟩ := find_eq_some hfind
    obtain rfl : a = before ++ slash :: after := by simpa using hdrop
    have hsplit : components (before ++ slash :: after) = before :: components after :=
      List.splitOn_append_cons_self_of_not_mem hno after
    obtain ⟨rfl, -⟩ := List.cons.inj (hsplit.symm.trans h)
    simp [substr, Nat.add_comm 1]

theorem validate_slash (a : Bytes) :
    validate (str "/efs") (slash :: a) 0 = 0 ↔ (components (slash :: a))[1]? = some (str "efs") := by
  obtain ⟨c, cs, hc⟩ := exists_components a
  have hefs : str "/efs" = slash :: str "efs" := by decide
  rw [validate_zero, substr_find_slash hc, components_slash, hc, hefs]
  by_cases hcomp : c = str "efs"
  · simp [hcomp]
  · simp [hcomp, EACCES]

theorem confined_of_components {path : Bytes} {rest : List Bytes}
    (h : components path = [[], str "efs"] ++ rest) : Confined path ↔ str ".." ∉ rest := by
  rw [confined_iff, h]
  constructor
  · rintro ⟨rest', hrest, hup⟩
    rwa [List.append_cancel_left hrest]
  · exact fun hup => ⟨rest, rfl, hup⟩

/-- The components of the C string of a name below `/efs`. -/
theorem components_below (filename : Bytes) :
    components (cstr (str "/efs/" ++ filename)) =
      [[], str "efs"] ++ components (cstr filename) := by
  have hzero : 0 ∉ str "/efs/" := by decide
  rw [cstr_of_notMem hzero]
  exact components_append (str "/efs") _

end

section
variable {fs : AndroidFileSystem} (hefs : fs.m_efs = str "/efs")
include hefs

/-- A name is refused for its first component only, and what it is expanded to is confined unless
it leads up. -/
theorem expandAndValidateFilename_spec (filename : Bytes) :
    ((fs.expandAndValidateFilename filename).1 = 0 ↔ ¬ Refused filename) ∧
      (¬ Refused filename → (Confined (cstr (fs.expandAndValidateFilename filename).2) ↔
        str ".." ∉ components (cstr filename))) := by
  unfold expandAndValidateFilename
  rw [hefs]
  by_cases hhead : filename.head? = some slash
  · simp only [if_pos hhead]
    obtain ⟨a, rfl⟩ : ∃ a, filename = slash :: a := by
      cases filename with
      | nil => simp at hhead
      | cons c a => exact ⟨a, by simpa using hhead⟩
    have href : ¬ Refused (slash :: a) ↔ (components (slash :: a))[1]? = some (str "efs") := by
      simp [Refused]
    refine ⟨(validate_slash a).trans href.symm, fun hno => ?_⟩
    have hcomp := href.mp hno
    obtain ⟨c, cs, hc⟩ := exists_components a
    obtain rfl : c = str "efs" := by simpa [components_slash, hc] using hcomp
    have hcut : ∃ rest, components (cstr (slash :: a)) = [[], str "efs"] ++ rest := by
      rcases components_eq_cons hc with ⟨rfl, -⟩ | ⟨b, rfl, -⟩
      · exact ⟨[], by decide⟩
      · exact ⟨_, components_below b⟩
    obtain ⟨rest, hrest⟩ := hcut
    have hroot : str ".." ∉ [[], str "efs"] := by decide
    rw [confined_of_components hrest, hrest]
    simp only [List.mem_append, hroot, false_or]
  · simp only [if_neg hhead]
    have href : ¬ Refused filename := fun h => hhead h.1
    have hcomp : (components (str "/efs/" ++ filename))[1]? = some (str "efs") := by
      rw [show components (str "/efs/" ++ filename) = [[], str "efs"] ++ components filename from
        components_append (str "/efs") filename]
      rfl
    exact ⟨iff_of_true ((validate_slash _).mpr hcomp) href,
      fun _ => confined_of_components (components_below filename)⟩

/-- Every path a call is given is confined. -/
def Confines (c : Syscall) : Prop := ∀ path ∈ c.paths, Confined path

end

theorem makePathStep_returns (expanded : Bytes) (offset : ℕ) :
    (makePathStep expanded offset).Returns none := by
  unfold makePathStep
  split_ifs
  · exact Program.returns_bind.mpr ⟨.ok (), Program.request_returns _ _, rfl⟩
  · rfl

theorem makePathFrom_returns (expanded : Bytes) (offset : ℕ) :
    (makePathFrom expanded offset).Returns 0 := by
  induction offset using slash_induction expanded with
  | h offset ih =>
    rw [makePathFrom, Program.returns_bind]
    refine ⟨none, makePathStep_returns expanded offset, ?_⟩
    simp only
    split
    · rfl
    · rename_i next hfind
      exact ih next hfind

/-- A directory made on the way to a confined path is confined. -/
theorem makePathStep_all {expanded : Bytes} (h : Confined (cstr expanded)) {offset : ℕ}
    (hslash : offset ≠ 0 → ∃ a b, expanded = a ++ slash :: b ∧ a.length = offset) :
    (makePathStep expanded offset).All Confines := by
  unfold makePathStep
  split_ifs with hne
  · obtain ⟨a, b, rfl, rfl⟩ := hslash hne
    have hdir : Confined (cstr a) := h.of_append (List.ne_nil_of_length_pos (by omega))
    refine Program.all_bind.mpr ⟨?_, ?_⟩
    · simpa [syscall, Confines, Syscall.paths, substr] using hdir
    · rintro ret -
      cases ret <;> trivial
  · trivial

theorem makePathFrom_all {expanded : Bytes} (h : Confined (cstr expanded)) (offset : ℕ)
    (hslash : offset ≠ 0 → ∃ a b, expanded = a ++ slash :: b ∧ a.length = offset) :
    (makePathFrom expanded offset).All Confines := by
  induction offset using slash_induction expanded with
  | h offset ih =>
    rw [makePathFrom, Program.all_bind]
    refine ⟨makePathStep_all h hslash, ?_⟩
    rintro ret -
    split
    · trivial
    · split
      · trivial
      · rename_i next hfind
        obtain ⟨before, after, hdrop, -, rfl⟩ := find_eq_some hfind
        refine ih _ hfind fun _ => ⟨expanded.take (offset + 1) ++ before, after, ?_, ?_⟩
        · rw [List.append_assoc, ← hdrop, List.take_append_drop]
        · have hlt := (find_lt hfind).2
          rw [List.length_append, List.length_take]
          omega

section
variable {fs : AndroidFileSystem} {filename : Bytes} {allowed : Syscall → Prop} {α : Type}

theorem syscall_all {c : Syscall} {k : c.Ret → Sys α} (hk : ∀ r, (k r).All allowed) :
    (syscall c >>= k).All allowed ↔ allowed c := by
  rw [Program.all_bind, syscall, Program.all_request]
  exact ⟨And.left, fun hc => ⟨hc, fun r _ => hk r⟩⟩

theorem withPath_all {expanded : Bytes} {k : Sys (AndroidFileSystem × ℤ)}
    (h : k.All Confines → Confined (cstr expanded)) :
    (fs.withPath expanded k).All Confines ↔ k.All Confines := by
  rw [withPath, Program.all_bind]
  constructor
  · rintro ⟨-, hk⟩
    exact hk 0 (makePathFrom_returns expanded 0)
  · intro hk
    refine ⟨makePathFrom_all (h hk) 0 fun hne => absurd rfl hne, ?_⟩
    rintro ret -
    split_ifs
    · trivial
    · exact hk

/-- An operation that makes the path and ends with one call. -/
theorem withPath_syscall_all {expanded : Bytes} {c : Syscall}
    {k : c.Ret → Sys (AndroidFileSystem × ℤ)} (hk : ∀ r, (k r).All Confines)
    (hc : cstr expanded ∈ c.paths) :
    (fs.withPath expanded (syscall c >>= k)).All Confines ↔ Confines c := by
  rw [withPath_all, syscall_all hk]
  rw [syscall_all hk]
  exact fun h => h _ hc

theorem withFilename_all (hefs : fs.m_efs = str "/efs") {k : Bytes → Sys (AndroidFileSystem × ℤ)} :
    (fs.withFilename filename k).All allowed ↔
      Refused filename ∨ (k (fs.expandAndValidateFilename filename).2).All allowed := by
  have hret := (expandAndValidateFilename_spec hefs filename).1
  unfold withFilename
  by_cases href : Refused filename
  · have hne : (fs.expandAndValidateFilename filename).1 ≠ 0 := fun he => hret.mp he href
    simp [hne, href]
  · simp [hret.mpr href, href]

/-- The calls of an operation are confined exactly when a name is refused, or no name expands to
a path that is not confined. -/
theorem perform_all (hefs : fs.m_efs = str "/efs") (r : NamedRequest) :
    (fs.perform r).All Confines ↔ (∃ name ∈ r.names, Refused name) ∨
      ∀ name ∈ r.names, Confined (cstr (fs.expandAndValidateFilename name).2) := by
  cases r with
  | openFile filename flags =>
    rw [perform, openFile, withFilename_all hefs, withPath_syscall_all]
    · simp [NamedRequest.names, Confines, Syscall.paths]
    · rintro (e | fd) <;> trivial
    · simp [Syscall.paths]
  | deleteFile filename =>
    rw [perform, deleteFile, withFilename_all hefs, syscall_all]
    · simp [NamedRequest.names, Confines, Syscall.paths]
    · intro r; trivial
  | renameFile oldName newName =>
    rw [perform, renameFile, withFilename_all hefs, withFilename_all hefs, withPath_syscall_all]
    · simp [NamedRequest.names, Confines, Syscall.paths, or_assoc]
    · intro r; trivial
    · simp [Syscall.paths]
  | makeDirectory filename =>
    rw [perform, makeDirectory, withFilename_all hefs, withPath_syscall_all]
    · simp [NamedRequest.names, Confines, Syscall.paths]
    · intro r; trivial
    · simp [Syscall.paths]
  | deleteDirectory filename =>
    rw [perform, deleteDirectory, withFilename_all hefs, withPath_syscall_all]
    · simp [NamedRequest.names, Confines, Syscall.paths]
    · intro r; trivial
    · simp [Syscall.paths]
  | openDirectory filename =>
    rw [perform, openDirectory, withFilename_all hefs, withPath_syscall_all]
    · simp [NamedRequest.names, Confines, Syscall.paths]
    · rintro (e | dir) <;> trivial
    · simp [Syscall.paths]

end

/-- Every path the kernel is given is confined to `/efs` exactly when a name is refused for its
first component, or no name, cut at its first null character, has a component `..`. -/
theorem paths_confined_iff {fs : AndroidFileSystem} (hefs : fs.m_efs = str "/efs")
    (r : NamedRequest) :
    (fs.perform r).All Confines ↔ (∃ name ∈ r.names, Refused name) ∨
      ∀ name ∈ r.names, str ".." ∉ components (cstr name) := by
  rw [perform_all hefs]
  by_cases href : ∃ name ∈ r.names, Refused name
  · simp [href]
  · have hname : ∀ name ∈ r.names, ¬ Refused name := fun name hmem h => href ⟨name, hmem, h⟩
    refine or_congr_right (forall₂_congr fun name hmem => ?_)
    exact (expandAndValidateFilename_spec hefs name).2 (hname name hmem)

/-- A file system rooted at `/efs`. -/
def efsFiles : AndroidFileSystem := ⟨str "/dev/block/mmcblk0p8", str "/efs", 3, true, ∅, ∅⟩

theorem rename_confined :
    (efsFiles.perform (.renameFile (str "nv/a..b") (str "/efs//nv/./c"))).All Confines :=
  (paths_confined_iff rfl _).mpr (.inr (by decide))

/-- A name that leads up takes the modem anywhere. -/
theorem name_leads_up : ¬ (efsFiles.perform (.openFile (str "../data/x") O_RDWR)).All Confines ∧
    LexicalPath.resolve isDot (str "..") (components (str "/efs/../data/x")) =
      [str "data", str "x"] := by
  refine ⟨fun hall => ?_, by decide⟩
  have href : ¬ Refused (str "../data/x") := fun h => absurd h.1 (by decide)
  rcases (perform_all rfl _).mp hall with ⟨name, hmem, hname⟩ | hconf
  · obtain rfl : name = str "../data/x" := by simpa [NamedRequest.names] using hmem
    exact href hname
  · have hup := ((expandAndValidateFilename_spec rfl _).2 href).mp
      (hconf _ (by simp [NamedRequest.names]))
    exact absurd hup (by decide)

end FreeRil.AndroidFileSystem
