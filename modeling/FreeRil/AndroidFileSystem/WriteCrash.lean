import FreeRil.AndroidFileSystem.CrashRecovery
import FreeRil.AndroidFileSystem.Session

/-! What the next start serves when a write is cut off: `nv_data.bin` is written in place, and its
digest after it. -/
namespace FreeRil.AndroidFileSystem
open Disk

/-- What a start comes up with where `nv_data.bin` is not accepted. -/
def fallback (md5 : Bytes → Vector UInt8 16) (firmware efs : Bytes) (files : Bytes → Option Bytes) :
    Option Bytes :=
  (accepted md5 files (efs ++ str "/.nv_data.bak") (enabledIn files efs) NVDATA_SIZE).or
    (((accepted md5 files (efs ++ str "/.nv_core.bak") (enabledIn files efs) CORE_SIZE).map padCore).or
      (blank files firmware efs))

/-- The NV data that a start serves; there is none if it panics. -/
def served (md5 : Bytes → Vector UInt8 16) (firmware efs : Bytes) (files : Bytes → Option Bytes) :
    Option Bytes :=
  ((construct md5 firmware efs).exec kernel (boot files)).bind fun r => r.1.openContent r.2.m_nvdata

variable {md5 : Bytes → Vector UInt8 16} {firmware efs : Bytes} {files f : Bytes → Option Bytes}
  {F : Prop} {d : Disk} {fs : AndroidFileSystem} {content before after : Bytes}

theorem Serves.openContent_eq (h : Serves d fs efs content) :
    d.openContent fs.m_nvdata = some content := by
  obtain ⟨flags, -, -, hopen⟩ := h.opened
  exact hopen.openContent_eq

theorem recovered_or_blank : (recovered md5 files efs).or (blank files firmware efs) =
    (accepted md5 files (efs ++ str "/nv_data.bin") (enabledIn files efs) NVDATA_SIZE).or
      (fallback md5 firmware efs files) := by
  rw [recovered, fallback, Option.or_assoc, Option.or_assoc]

/-- A start serves what it recovers, or the blank NV data. -/
theorem wp_construct_served : Disk.wp ((recovered md5 d.files efs).or (blank d.files firmware efs) = none)
    (fun _ => True) (fun fs d' => d'.openContent fs.m_nvdata =
      (recovered md5 d.files efs).or (blank d.files firmware efs)) (construct md5 firmware efs) d := by
  have hefs : (starting firmware efs (enabledIn d.files efs)).m_efs = efs := rfl
  have henabled : (starting firmware efs (enabledIn d.files efs)).m_md5_enabled =
      enabledIn d.files efs := rfl
  apply wp_construct trivial
  · intro content hbin d₁ fd hfiles₁ hopen₁
    rw [hopen₁.openContent_eq, recovered_bin hbin, Option.some_or]
  · intro content hbin hbak d₁ fd hfiles₁ hopen₁
    have hrecovered : recovered md5 d.files efs = some content := by simp [recovered, hbin, hbak]
    have hlen := (accepted_eq_some.mp hbak).2.1
    refine Program.wp_mono (wp_recoverBackup_serves hefs (by rw [hfiles₁, henabled]) hopen₁ hlen) id
      (fun _ => id) fun fs' d' hend => ?_
    rw [hend.1.openContent_eq, hrecovered, Option.some_or]
  · intro core hbin hbak hcore d₁ fd hfiles₁ hopen₁
    have hrecovered : recovered md5 d.files efs = some (padCore core) := by
      simp [recovered, hbin, hbak, hcore]
    have hlen := (accepted_eq_some.mp hcore).2.1
    refine Program.wp_mono (wp_recoverCore_serves hefs (by rw [hfiles₁, henabled]) hopen₁ hlen) id
      (fun _ => id) fun fs' d' hend => ?_
    rw [hend.1.openContent_eq, hrecovered, Option.some_or]
  · intro hnone d₁ hfiles₁
    have hstart : (recovered md5 d.files efs).or (blank d.files firmware efs) =
        blank d₁.files firmware efs := by rw [hnone, Option.none_or, hfiles₁]
    rw [hstart]
    have hmissing : blank d₁.files (starting firmware efs (enabledIn d.files efs)).m_firmware efs =
        none → blank d₁.files firmware efs = none := fun h => h
    refine wp_loadDefault hefs (by rw [hfiles₁, henabled]) hmissing
      fun fs₂ d₂ content hblank hserves₂ _ => ?_
    exact hserves₂.openContent_eq.trans hblank.symm

theorem served_eq (md5 : Bytes → Vector UInt8 16) (firmware efs : Bytes)
    (files : Bytes → Option Bytes) : served md5 firmware efs files =
      (accepted md5 files (efs ++ str "/nv_data.bin") (enabledIn files efs) NVDATA_SIZE).or
        (fallback md5 firmware efs files) := by
  rw [← recovered_or_blank]
  have hwp : Disk.wp ((recovered md5 files efs).or (blank files firmware efs) = none)
      (fun _ => True) (fun fs d' => d'.openContent fs.m_nvdata =
        (recovered md5 files efs).or (blank files firmware efs)) (construct md5 firmware efs)
      (boot files) := wp_construct_served
  cases hexec : (construct md5 firmware efs).exec kernel (boot files) with
  | some r =>
    obtain ⟨d, fs⟩ := r
    rw [served, hexec]
    have hserved := Program.wp_exec hwp hexec
    exact hserved
  | none =>
    rw [served, hexec]
    symm
    by_contra hstart
    obtain ⟨d, fs, hsome, -⟩ :=
      Program.wp_total (Program.wp_mono hwp hstart (fun _ => id) fun _ _ => id)
    rw [hexec] at hsome
    contradiction

/-- The files that a write may leave behind: the NV data before it or after it, and what its digest
and the marker are then. -/
inductive Cut (md5 : Bytes → Vector UInt8 16) (efs : Bytes) (files : Bytes → Option Bytes)
    (after : Bytes) (c : Bytes → Option Bytes) : Prop
  | unwritten (h : c = files)
  | undigested (henabled : enabledIn c efs = enabledIn files efs)
      (h : c (efs ++ str "/nv_data.bin") = some after)
  | digested (h : c (efs ++ str "/nv_data.bin") = some after)
      (hdigest : c (efs ++ str "/nv_data.bin.md5") = some (calculateMD5 md5 after))

/-- The write changes no other files. -/
def Others (efs : Bytes) (files c : Bytes → Option Bytes) : Prop :=
  ∀ path, path ∉ ["/nv_data.bin", "/nv_data.bin.md5", "/.nv_state"].map (efs ++ str ·) →
    c path = files path

theorem Others.refl (efs : Bytes) (files : Bytes → Option Bytes) : Others efs files files :=
  fun _ _ => rfl

theorem Others.update {c : Bytes → Option Bytes} (h : Others efs files c) {name : String}
    (hname : name ∈ ["/nv_data.bin", "/nv_data.bin.md5", "/.nv_state"]) (content : Option Bytes) :
    Others efs files (Function.update c (efs ++ str name) content) := by
  intro path hpath
  have hne : path ≠ efs ++ str name := by
    intro heq
    exact hpath (heq ▸ List.mem_map_of_mem hname)
  rw [Function.update_of_ne hne]
  exact h path hpath

/-- Wherever it is cut off, a write leaves such files. -/
theorem Serves.wp_writeNVData_cut (h : Serves d fs efs before) {offset : Int32} {data : Bytes}
    (hrange : InRange offset data.length) : Disk.wp F
      (fun c => Others efs d.files c ∧
        Cut md5 efs d.files (overwrite before offset.toInt.toNat data) c)
      (fun _ _ => True) (fs.writeNVData md5 offset data) d := by
  obtain ⟨flags, hread, hwrite, hopen⟩ := h.opened
  obtain ⟨hout, hpos, hmax⟩ := inRange_iff.mp hrange
  unfold writeNVData
  rw [hout, if_neg Bool.false_ne_true]
  refine wp_pwrite hopen hwrite hpos hmax ⟨Others.refl _ _, .unwritten rfl⟩
    fun d₁ hfiles₁ hframe₁ => ?_
  have hserves₁ := h.written hrange hfiles₁ hframe₁
  obtain ⟨flags₁, hread₁, -, hopen₁⟩ := hserves₁.opened
  have hothers₁ : Others efs d.files d₁.files := by
    rw [hfiles₁]
    exact (Others.refl _ _).update (by simp) _
  have hothers₂ : ∀ digest, Others efs d.files (Function.update d₁.files
      (efs ++ str "/nv_data.bin.md5") digest) := hothers₁.update (by simp)
  have henabled₁ : enabledIn d₁.files efs = enabledIn d.files efs :=
    h.enabled_eq ▸ hserves₁.enabled_eq
  have hdigest : Growing (fun c => Others efs d.files c ∧
      Cut md5 efs d.files (overwrite before offset.toInt.toNat data) c) d₁.files
      (efs ++ str "/nv_data.bin.md5") []
      (calculateMD5 md5 (overwrite before offset.toInt.toNat data)) := by
    intro n
    refine ⟨hothers₂ _, .undigested ?_ ?_⟩
    · rw [enabledIn_congr (update_other (by decide)), henabled₁]
    · rw [update_other (by decide), hopen₁.file]
  -- The digest is complete before the marker that enables it is written.
  have hmarker : Growing (fun c => Others efs d.files c ∧
      Cut md5 efs d.files (overwrite before offset.toInt.toNat data) c)
      (digested md5 efs (overwrite before offset.toInt.toNat data) d₁.files)
      (efs ++ str "/.nv_state") [] (str "1") := by
    intro n
    refine ⟨(hothers₂ _).update (by simp) _, .digested ?_ ?_⟩
    · rw [update_other (by decide), digested_name _ _ _ _ (by decide), hopen₁.file]
    · rw [update_other (by decide), digested, Function.update_self]
  refine wp_seq (FreeRil.AndroidFileSystem.wp_updateMD5 h.efs_eq hopen₁ hread₁ hserves₁.length_eq
    ⟨hothers₁, .undigested henabled₁ hopen₁.file⟩ hdigest (fun _ => hmarker)
    fun d₂ hfiles₂ _ => wp_return ?_ trivial)
  rw [hfiles₂]
  cases fs.m_md5_enabled with
  | true => exact hdigest.last
  | false => exact hmarker.last

section
variable {c : Bytes → Option Bytes}

/-- What a start serves from files that are left behind. -/
theorem Cut.served_eq (hcut : Cut md5 efs files after c) (hlen : after.length = NVDATA_SIZE)
    (hbefore : accepted md5 files (efs ++ str "/nv_data.bin") (enabledIn files efs) NVDATA_SIZE =
      some before) :
    served md5 firmware efs c = some before ∨ served md5 firmware efs c = some after ∨
      enabledIn files efs = true ∧ c (efs ++ str "/nv_data.bin") = some after ∧
        c (efs ++ str "/nv_data.bin.md5") ≠ some (calculateMD5 md5 after) ∧
        served md5 firmware efs c = fallback md5 firmware efs c := by
  have hname : efs ++ str "/nv_data.bin" ++ str ".md5" = efs ++ str "/nv_data.bin.md5" :=
    name_append ..
  rw [FreeRil.AndroidFileSystem.served_eq, ← hname]
  cases hcut with
  | unwritten h =>
    left
    rw [h, hbefore, Option.some_or]
  | digested h hdigest =>
    right
    left
    rw [accepted_eq_some.mpr ⟨h, hlen, fun _ => by rwa [hname]⟩, Option.some_or]
  | undigested henabled h =>
    right
    by_cases hmatch : enabledIn c efs = true →
        c (efs ++ str "/nv_data.bin" ++ str ".md5") = some (calculateMD5 md5 after)
    · left
      rw [accepted_eq_some.mpr ⟨h, hlen, hmatch⟩, Option.some_or]
    · right
      obtain ⟨hon, hmissed⟩ := Classical.not_imp.mp hmatch
      refine ⟨henabled ▸ hon, h, hmissed, ?_⟩
      rw [(accepted_eq_none h).mpr fun hboth => hmatch hboth.2, Option.none_or]

end

/-- A start after a write that has been cut off serves the NV data before it or after it, unless the
digests are enabled and the one of the new NV data is missing: then it falls back. -/
theorem write_cut_serves (md5 : Bytes → Vector UInt8 16) (firmware efs : Bytes)
    (files : Bytes → Option Bytes) (calls : List NVCall) (d : Disk) (fs : AndroidFileSystem)
    (before : Bytes) (offset : Int32) (data : Bytes)
    (hexec : (session md5 firmware efs calls).exec kernel (boot files) = some (d, fs))
    (hloads : Loads md5 d.files efs (efs ++ str "/nv_data.bin") NVDATA_SIZE before)
    (hrange : InRange offset data.length) :
    ∀ c ∈ (fs.writeNVData md5 offset data).crashes betweenCalls d,
      (∀ path, path ∉ ["/nv_data.bin", "/nv_data.bin.md5", "/.nv_state"].map (efs ++ str ·) →
        c.files path = d.files path) ∧
      (served md5 firmware efs c.files = some before ∨
        served md5 firmware efs c.files = some (overwrite before offset.toInt.toNat data) ∨
        enabledIn d.files efs = true ∧
          c.files (efs ++ str "/nv_data.bin") = some (overwrite before offset.toInt.toNat data) ∧
          c.files (efs ++ str "/nv_data.bin.md5") ≠
            some (calculateMD5 md5 (overwrite before offset.toInt.toNat data)) ∧
          served md5 firmware efs c.files = fallback md5 firmware efs c.files) := by
  have hsession : Disk.wp True (fun _ => True)
      (fun fs d => ∃ content, Serves d fs efs content ∧ (Digested md5 d fs efs content ↔
        ¬ (DigestMissed md5 files efs ∧ ∀ call ∈ calls, ¬ call.Writes)))
      (session md5 firmware efs calls) (boot files) :=
    wp_session md5 firmware efs files calls (fun _ => trivial) fun _ => trivial
  obtain ⟨content, hserves, -⟩ := Program.wp_exec hsession hexec
  have hbefore := (loads_iff chunks_NVDATA).mp hloads
  obtain ⟨flags, -, -, hopen⟩ := hserves.opened
  obtain rfl : content = before :=
    Option.some.inj (hopen.file.symm.trans (accepted_eq_some.mp hbefore).1)
  have hwp : Disk.wp True (fun c => Others efs d.files c ∧
      Cut md5 efs d.files (overwrite content offset.toInt.toNat data) c)
      (fun _ _ => True) (fs.writeNVData md5 offset data) d := hserves.wp_writeNVData_cut hrange
  have hlen : (overwrite content offset.toInt.toNat data).length = NVDATA_SIZE := by
    have hlen := hserves.length_eq
    obtain ⟨hpos, hle⟩ := hrange
    rw [overwrite_length (by omega), hlen]
  intro c hc
  obtain ⟨hothers, hcut⟩ := Program.wp_crashes hwp c (crashes_betweenCalls _ d hc)
  exact ⟨hothers, hcut.served_eq hlen hbefore⟩

/-- A write may be cut off when the old digest has been removed and the new one is not there yet. -/
theorem Serves.undigested_cut (md5 : Bytes → Vector UInt8 16) (offset : Int32) (data : Bytes)
    (h : Serves d fs efs before) (hrange : InRange offset data.length) :
    ∃ c ∈ (fs.writeNVData md5 offset data).crashes betweenCalls d,
      c.files = Function.update (Function.update d.files (efs ++ str "/nv_data.bin")
        (some (overwrite before offset.toInt.toNat data))) (efs ++ str "/nv_data.bin.md5")
        (some []) := by
  obtain ⟨flags, hread, hwrite, hopen⟩ := h.opened
  obtain ⟨hout, hpos, hmax⟩ := inRange_iff.mp hrange
  have hpwrite : Disk.wp False (fun _ => True)
      (fun r d' => r = .ok data.length ∧ d'.files = Function.update d.files
        (efs ++ str "/nv_data.bin") (some (overwrite before offset.toInt.toNat data)) ∧
        Frame (fun _ => True) d d')
      (syscall (.pwrite fs.m_nvdata data offset.toInt) >>= pure) d :=
    wp_pwrite hopen hwrite hpos hmax trivial fun d₁ hfiles₁ hframe₁ =>
      wp_return trivial ⟨rfl, hfiles₁, hframe₁⟩
  obtain ⟨d₁, r, hexec₁, rfl, hfiles₁, hframe₁⟩ := Program.wp_total hpwrite
  have hserves₁ := h.written hrange hfiles₁ hframe₁
  obtain ⟨flags₁, hread₁, -, hopen₁⟩ := hserves₁.opened
  have hdigest : Disk.wp False (fun _ => True) (fun _ d' => d' = d₁)
      (digestOrPanic md5 fs.m_nvdata NVDATA_SIZE) d₁ :=
    wp_digestOrPanic hopen₁ hread₁ trivial chunks_NVDATA hserves₁.length_eq rfl
  obtain ⟨d₂, digest, hexec₂, rfl⟩ := Program.wp_total hdigest
  have hcreate : Disk.wp False (fun _ => True)
      (fun _ d' => d'.files = Function.update d₂.files (efs ++ str "/nv_data.bin.md5") (some []))
      (openOrPanic (fs.m_efs ++ str "/nv_data.bin.md5") (O_WRONLY ||| O_TRUNC ||| O_CREAT) 0o600)
      d₂ := by
    rw [h.efs_eq]
    exact wp_createOrPanic (by decide) (by decide) trivial trivial fun _ _ hfiles₃ _ _ _ => hfiles₃
  obtain ⟨d₃, fd, hexec₃, hfiles₃⟩ := Program.wp_total hcreate
  refine ⟨d₃, ?_, by rw [hfiles₃, hfiles₁]⟩
  unfold writeNVData
  rw [hout, if_neg Bool.false_ne_true]
  change (syscall _).exec kernel d = _ at hexec₁
  refine Program.mem_crashes_bind ((exec_betweenCalls _ _).trans hexec₁) ?_
  refine Program.crashes_subset_bind _ _ _ ?_
  unfold updateMD5
  refine Program.mem_crashes_bind ((exec_betweenCalls _ _).trans hexec₂) ?_
  refine Program.mem_crashes_bind ((exec_betweenCalls _ _).trans hexec₃) ?_
  exact Program.mem_crashes_start _ _

/-- A directory with NV data that has its digest, and a backup of other NV data. -/
def overBackup (md5 : Bytes → Vector UInt8 16) (efs : Bytes) : Bytes → Option Bytes :=
  Function.update (digested md5 efs (List.replicate NVDATA_SIZE 0)
    (marked efs false (Function.update (Function.update (fun _ => none)
      (efs ++ str "/.nv_data.bak") (some (List.replicate NVDATA_SIZE 1)))
      (efs ++ str "/.nv_data.bak.md5") (some (calculateMD5 md5 (List.replicate NVDATA_SIZE 1))))))
    (efs ++ str "/nv_data.bin") (some (List.replicate NVDATA_SIZE 0))

section
variable (md5 : Bytes → Vector UInt8 16) (efs : Bytes)

theorem overBackup_enabled : enabledIn (overBackup md5 efs) efs = true := by
  have hstate : overBackup md5 efs (efs ++ str "/.nv_state") = some (str "1") := by
    simp [overBackup, marked, update_name, digested_name]
  rw [enabledIn, hstate]
  decide

theorem overBackup_accepted (md5_enabled : Bool) :
    accepted md5 (overBackup md5 efs) (efs ++ str "/nv_data.bin") md5_enabled NVDATA_SIZE =
      some (List.replicate NVDATA_SIZE 0) := by
  refine accepted_eq_some.mpr ⟨Function.update_self .., List.length_replicate, fun _ => ?_⟩
  rw [name_append, overBackup, update_other (by decide)]
  exact Function.update_self ..

theorem overBackup_backup {c : Bytes → Option Bytes} (h : Others efs (overBackup md5 efs) c)
    (md5_enabled : Bool) :
    accepted md5 c (efs ++ str "/.nv_data.bak") md5_enabled NVDATA_SIZE =
      some (List.replicate NVDATA_SIZE 1) := by
  have hname : efs ++ str "/.nv_data.bak" ++ str ".md5" = efs ++ str "/.nv_data.bak.md5" :=
    name_append ..
  refine accepted_eq_some.mpr ⟨?_, List.length_replicate, fun _ => ?_⟩
  · rw [h _ (by simp [str_inj])]
    simp [overBackup, marked, update_name, digested_name]
  · rw [hname, h _ (by simp [str_inj])]
    simp [overBackup, marked, update_name, digested_name]

/-- A start on this directory serves its NV data. -/
theorem overBackup_session (firmware : Bytes) : ∃ d fs,
    (session md5 firmware efs []).exec kernel (boot (overBackup md5 efs)) = some (d, fs) ∧
      d.files = overBackup md5 efs ∧ Serves d fs efs (List.replicate NVDATA_SIZE 0) := by
  have hacc := overBackup_accepted md5 efs (enabledIn (overBackup md5 efs) efs)
  have hwp : Disk.wp False (fun _ => True) (fun fs d => d.files = overBackup md5 efs ∧
      Serves d fs efs (List.replicate NVDATA_SIZE 0)) (session md5 firmware efs [])
      (boot (overBackup md5 efs)) := by
    refine wp_seq (wp_construct trivial ?_ ?_ ?_ ?_)
    · intro content hbin d fd hfiles hopen
      obtain rfl : List.replicate NVDATA_SIZE 0 = content := Option.some.inj (hacc.symm.trans hbin)
      refine wp_return trivial ⟨hfiles, rfl, ⟨_, by decide, by decide, hopen⟩,
        List.length_replicate, ?_⟩
      rw [hfiles]
      rfl
    · intro content hbin
      exact absurd (hacc.symm.trans hbin) (Option.some_ne_none _)
    · intro core hbin
      exact absurd (hacc.symm.trans hbin) (Option.some_ne_none _)
    · intro hnone
      exact absurd ((recovered_bin hacc).symm.trans hnone) (Option.some_ne_none _)
  exact Program.wp_total hwp

end

/-- The first byte is changed there, wherever that is cut off. -/
theorem overBackup_cut_serves : ∃ d fs,
    (session (fun _ => Vector.replicate 16 0) (str "/fw") (str "/efs") []).exec kernel
      (boot (overBackup (fun _ => Vector.replicate 16 0) (str "/efs"))) = some (d, fs) ∧
    ∀ c ∈ (fs.writeNVData (fun _ => Vector.replicate 16 0) 0 [2]).crashes betweenCalls d,
      (∀ path, path ∉ ["/nv_data.bin", "/nv_data.bin.md5", "/.nv_state"].map (str "/efs" ++ str ·) →
        c.files path = d.files path) ∧
      (served (fun _ => Vector.replicate 16 0) (str "/fw") (str "/efs") c.files =
          some (List.replicate NVDATA_SIZE 0) ∨
        served (fun _ => Vector.replicate 16 0) (str "/fw") (str "/efs") c.files =
          some (overwrite (List.replicate NVDATA_SIZE 0) 0 [2]) ∨
        enabledIn d.files (str "/efs") = true ∧
          c.files (str "/efs" ++ str "/nv_data.bin") =
            some (overwrite (List.replicate NVDATA_SIZE 0) 0 [2]) ∧
          c.files (str "/efs" ++ str "/nv_data.bin.md5") ≠ some (calculateMD5
            (fun _ => Vector.replicate 16 0) (overwrite (List.replicate NVDATA_SIZE 0) 0 [2])) ∧
          served (fun _ => Vector.replicate 16 0) (str "/fw") (str "/efs") c.files =
            fallback (fun _ => Vector.replicate 16 0) (str "/fw") (str "/efs") c.files) := by
  obtain ⟨d, fs, hexec, hfiles, hserves⟩ :=
    overBackup_session (fun _ => Vector.replicate 16 0) (str "/efs") (str "/fw")
  refine ⟨d, fs, hexec, write_cut_serves _ _ _ _ [] d fs (List.replicate NVDATA_SIZE 0) 0 [2] hexec
    ?_ (by decide)⟩
  rw [hfiles]
  exact (loads_iff chunks_NVDATA).mpr (overBackup_accepted _ _ _)

theorem overwrite_head? (content : Bytes) (b : UInt8) (data : Bytes) :
    (overwrite content 0 (b :: data)).head? = some b := by
  simp [overwrite]

/-- Between the write and its digest, the next start serves the backup. -/
theorem cut_write_serves_backup : ¬ ∀ (md5 : Bytes → Vector UInt8 16) (firmware efs : Bytes)
    (files : Bytes → Option Bytes) (calls : List NVCall) (d : Disk) (fs : AndroidFileSystem)
    (before : Bytes) (offset : Int32) (data : Bytes),
    (session md5 firmware efs calls).exec kernel (boot files) = some (d, fs) →
    Loads md5 d.files efs (efs ++ str "/nv_data.bin") NVDATA_SIZE before →
    InRange offset data.length →
    ∀ c ∈ (fs.writeNVData md5 offset data).crashes betweenCalls d,
      served md5 firmware efs c.files = some before ∨
        served md5 firmware efs c.files = some (overwrite before offset.toInt.toNat data) := by
  intro hclaim
  obtain ⟨d, fs, hexec, hfiles, hserves⟩ :=
    overBackup_session (fun _ => Vector.replicate 16 0) (str "/efs") (str "/fw")
  obtain ⟨c, hc, hcut⟩ := hserves.undigested_cut (fun _ => Vector.replicate 16 0) 0 [2]
    (by decide)
  have hothers : Others (str "/efs") (overBackup (fun _ => Vector.replicate 16 0) (str "/efs"))
      c.files := by
    rw [hcut, hfiles]
    exact ((Others.refl _ _).update (by simp) _).update (by simp) _
  have henabled : enabledIn c.files (str "/efs") = true := by
    rw [hcut, enabledIn_congr (update_other (by decide)), enabledIn_congr (update_other (by decide)),
      hfiles, overBackup_enabled]
  have hbin : c.files (str "/efs" ++ str "/nv_data.bin") =
      some (overwrite (List.replicate NVDATA_SIZE 0) (0 : Int32).toInt.toNat [2]) := by
    rw [hcut, update_other (by decide), Function.update_self]
  have hmissed : accepted (fun _ => Vector.replicate 16 0) c.files (str "/efs" ++ str "/nv_data.bin")
      true NVDATA_SIZE = none := by
    rw [accepted_eq_none hbin, name_append, hcut]
    rintro ⟨-, hdigest⟩
    have hempty := (Function.update_self ..).symm.trans (hdigest rfl)
    have hlen := congrArg List.length (Option.some.inj hempty)
    rw [calculateMD5_length, List.length_nil] at hlen
    omega
  have hserved : served (fun _ => Vector.replicate 16 0) (str "/fw") (str "/efs") c.files =
      some (List.replicate NVDATA_SIZE 1) := by
    rw [served_eq, henabled, hmissed, Option.none_or, fallback, overBackup_backup _ _ hothers,
      Option.some_or]
  have hloads : Loads (fun _ => Vector.replicate 16 0) d.files (str "/efs")
      (str "/efs" ++ str "/nv_data.bin") NVDATA_SIZE (List.replicate NVDATA_SIZE 0) := by
    rw [hfiles]
    exact (loads_iff chunks_NVDATA).mpr (overBackup_accepted _ _ _)
  have hwrong := hclaim _ _ _ _ _ d fs _ 0 [2] hexec hloads (by decide) c hc
  rw [hserved] at hwrong
  have hpos : NVDATA_SIZE ≠ 0 := by decide
  have hbackup : (List.replicate NVDATA_SIZE (1 : UInt8)).head? = some 1 := by
    rw [List.head?_replicate, if_neg hpos]
  obtain hwrong | hwrong := hwrong
  · rw [Option.some.inj hwrong, List.head?_replicate, if_neg hpos] at hbackup
    simp at hbackup
  · rw [Option.some.inj hwrong, show (0 : Int32).toInt.toNat = 0 from rfl, overwrite_head?] at hbackup
    simp at hbackup

end FreeRil.AndroidFileSystem
