import FreeRil.AndroidFileSystem.NVRules

/-! A start that is cut off leaves files from which the next start recovers the same NV data. -/
namespace FreeRil.AndroidFileSystem
open Disk

variable {md5 : Bytes → Vector UInt8 16} {files files' : Bytes → Option Bytes}
  {efs filename content core : Bytes} {md5_enabled : Bool} {size : ℕ}

theorem accepted_congr (hfile : files' filename = files filename)
    (hdigest : files' (filename ++ str ".md5") = files (filename ++ str ".md5")) :
    accepted md5 files' filename md5_enabled size =
      accepted md5 files filename md5_enabled size := by
  rw [accepted, accepted, hfile, hdigest]

theorem enabledIn_congr (h : files' (efs ++ str "/.nv_state") = files (efs ++ str "/.nv_state")) :
    enabledIn files' efs = enabledIn files efs := by
  rw [enabledIn, enabledIn, h]

/-- A beginning of the NV data is accepted only if it is all of it. -/
theorem accepted_beginning {data : Bytes} (hfile : files filename = some data)
    (hbegins : data <+: content) (hlen : content.length = size) :
    ∀ c, accepted md5 files filename md5_enabled size = some c → c = content := by
  intro c hacc
  obtain ⟨hc, hsize, -⟩ := accepted_eq_some.mp hacc
  obtain rfl := Option.some.inj (hfile.symm.trans hc)
  exact hbegins.eq_of_length (hsize.trans hlen.symm)

/-- What is recovered, where no file is accepted with any other content. -/
theorem recovered_backup
    (hbin : ∀ c, accepted md5 files (efs ++ str "/nv_data.bin") (enabledIn files efs) NVDATA_SIZE =
      some c → c = content)
    (hbak : accepted md5 files (efs ++ str "/.nv_data.bak") (enabledIn files efs) NVDATA_SIZE =
      some content) :
    recovered md5 files efs = some content := by
  cases hacc : accepted md5 files (efs ++ str "/nv_data.bin") (enabledIn files efs) NVDATA_SIZE with
  | none => simp [recovered, hacc, hbak]
  | some c => simp [recovered, hacc, hbin c hacc]

theorem recovered_core
    (hbin : ∀ c, accepted md5 files (efs ++ str "/nv_data.bin") (enabledIn files efs) NVDATA_SIZE =
      some c → c = padCore core)
    (hbak : ∀ c, accepted md5 files (efs ++ str "/.nv_data.bak") (enabledIn files efs) NVDATA_SIZE =
      some c → c = padCore core)
    (hcore : accepted md5 files (efs ++ str "/.nv_core.bak") (enabledIn files efs) CORE_SIZE =
      some core) :
    recovered md5 files efs = some (padCore core) := by
  cases hacc : accepted md5 files (efs ++ str "/.nv_data.bak")
    (enabledIn files efs) NVDATA_SIZE with
  | some c => exact recovered_backup hbin (by rw [hacc, hbak c hacc])
  | none =>
    cases hacc' : accepted md5 files (efs ++ str "/nv_data.bin")
      (enabledIn files efs) NVDATA_SIZE with
    | none => simp [recovered, hacc, hacc', hcore]
    | some c => simp [recovered, hacc', hbin c hacc']

theorem recovered_bin
    (hbin : accepted md5 files (efs ++ str "/nv_data.bin") (enabledIn files efs) NVDATA_SIZE =
      some content) :
    recovered md5 files efs = some content := by
  simp [recovered, hbin]

section
variable (hbak : accepted md5 files (efs ++ str "/.nv_data.bak") (enabledIn files efs) NVDATA_SIZE =
    some content)
include hbak

/-- While `nv_data.bin` is copied from its backup. -/
theorem copying_recovers :
    Growing (fun f => recovered md5 f efs = some content) files (efs ++ str "/nv_data.bin") []
      content := by
  intro n
  obtain ⟨hfile, hlen, -⟩ := accepted_eq_some.mp hbak
  have henabled : enabledIn (Function.update files (efs ++ str "/nv_data.bin")
      (some ([] ++ content.take n))) efs = enabledIn files efs :=
    enabledIn_congr (by rw [update_other (by decide)])
  refine recovered_backup ?_ ?_
  · exact accepted_beginning (Function.update_self ..) (List.take_prefix n content) hlen
  · rw [henabled, accepted_congr, hbak]
    · rw [update_other (by decide)]
    · rw [name_append, update_other (by decide)]

/-- While its digest is written. -/
theorem digesting_recovers (digest : Bytes) :
    Growing (fun f => recovered md5 f efs = some content)
      (Function.update files (efs ++ str "/nv_data.bin") (some content))
      (efs ++ str "/nv_data.bin.md5") [] digest := by
  intro n
  obtain ⟨hfile, hlen, -⟩ := accepted_eq_some.mp hbak
  have hname : ∀ name : String, name ≠ "/nv_data.bin" → name ≠ "/nv_data.bin.md5" →
      Function.update (Function.update files (efs ++ str "/nv_data.bin") (some content))
        (efs ++ str "/nv_data.bin.md5") (some ([] ++ digest.take n)) (efs ++ str name) =
      files (efs ++ str name) := by
    intro name hne hne'
    rw [update_other hne', update_other hne]
  refine recovered_backup (accepted_beginning ?_ List.prefix_rfl hlen) ?_
  · rw [update_other (by decide), Function.update_self]
  · rw [enabledIn_congr (hname _ (by decide) (by decide)), accepted_congr, hbak]
    · exact hname _ (by decide) (by decide)
    · rw [name_append]
      exact hname _ (by decide) (by decide)

/-- While the marker is written: even an empty one enables the digests. -/
theorem marking_recovers :
    Growing (fun f => recovered md5 f efs = some content)
      (digested md5 efs content (Function.update files (efs ++ str "/nv_data.bin") (some content)))
      (efs ++ str "/.nv_state") [] (str "1") := by
  intro n
  obtain ⟨hfile, hlen, -⟩ := accepted_eq_some.mp hbak
  refine recovered_bin (accepted_eq_some.mpr ⟨?_, hlen, fun _ => ?_⟩)
  · rw [update_other (by decide), digested_name _ _ _ _ (by decide), Function.update_self]
  · rw [name_append, update_other (by decide)]
    exact Function.update_self ..

end

section
variable (hcore : accepted md5 files (efs ++ str "/.nv_core.bak") (enabledIn files efs) CORE_SIZE =
    some core)
include hcore

/-- The secondary backup is used as long as nothing else is accepted. -/
theorem recovered_of_core
    (hname : ∀ name ∈ ["/.nv_state", "/.nv_core.bak", "/.nv_core.bak.md5"],
      files' (efs ++ str name) = files (efs ++ str name))
    (hbin : ∀ c, accepted md5 files' (efs ++ str "/nv_data.bin") (enabledIn files efs) NVDATA_SIZE =
      some c → c = padCore core)
    (hbak : ∀ c, accepted md5 files' (efs ++ str "/.nv_data.bak")
      (enabledIn files efs) NVDATA_SIZE =
      some c → c = padCore core) :
    recovered md5 files' efs = some (padCore core) := by
  have henabled : enabledIn files' efs = enabledIn files efs :=
    enabledIn_congr (hname _ (by simp))
  refine recovered_core (by rwa [henabled]) (by rwa [henabled]) ?_
  rw [henabled, accepted_congr (hname _ (by simp)), hcore]
  rw [name_append]
  exact hname _ (by simp)

/-- While `nv_data.bin` and its backup are rebuilt. -/
theorem rebuilding_recovers {a b : Bytes} (ha : a <+: padCore core) (hb : b <+: padCore core) :
    recovered md5 (rebuilding efs files a b) efs = some (padCore core) := by
  have hlen := padCore_length (accepted_eq_some.mp hcore).2.1
  refine recovered_of_core hcore (fun name hmem => ?_)
    (accepted_beginning (rebuilding_data ..) ha hlen)
      (accepted_beginning (rebuilding_backup ..) hb hlen)
  refine rebuilding_name _ _ _ _ ?_ ?_
  all_goals
    rintro rfl
    exact absurd hmem (by decide)

/-- Once both are rebuilt, what else is written but the secondary backup and the marker does not
matter. -/
theorem rebuilt_recovers
    (hname : ∀ name ∈ ["/.nv_state", "/.nv_core.bak", "/.nv_core.bak.md5"],
      files' (efs ++ str name) = files (efs ++ str name))
    (hbin : files' (efs ++ str "/nv_data.bin") = some (padCore core))
    (hbak : files' (efs ++ str "/.nv_data.bak") = some (padCore core)) :
    recovered md5 files' efs = some (padCore core) := by
  have hlen := padCore_length (accepted_eq_some.mp hcore).2.1
  exact recovered_of_core hcore hname (accepted_beginning hbin List.prefix_rfl hlen)
    (accepted_beginning hbak List.prefix_rfl hlen)

end

section
variable {F : Prop} {d : Disk} {fs : AndroidFileSystem} {fd : ℕ}

/-- The first recovery can be started over wherever it is cut off. -/
theorem wp_recoverBackup_recovers (hefs : fs.m_efs = efs)
    (hbin : ∀ c, accepted md5 d.files (efs ++ str "/nv_data.bin") (enabledIn d.files efs)
      NVDATA_SIZE = some c → c = content)
    (hbak : accepted md5 d.files (efs ++ str "/.nv_data.bak") (enabledIn d.files efs) NVDATA_SIZE =
      some content) (hopen : d.Opened fd (efs ++ str "/.nv_data.bak") O_RDWR content) :
    Disk.wp F (fun f => recovered md5 f efs = some content)
      (fun fs d' => d'.openContent fs.m_nvdata = some content) (fs.recoverBackup md5 fd) d := by
  have hlen := (accepted_eq_some.mp hbak).2.1
  apply wp_recoverBackup hefs hopen hlen (recovered_backup hbin hbak)
  · exact copying_recovers hbak
  · exact digesting_recovers hbak _
  · intro _
    exact marking_recovers hbak
  · intro d' nvdata _ hopen'
    exact hopen'.openContent_eq

/-- So can the second. -/
theorem wp_recoverCore_recovers (hefs : fs.m_efs = efs)
    (hbin : ∀ c, accepted md5 d.files (efs ++ str "/nv_data.bin") (enabledIn d.files efs)
      NVDATA_SIZE = some c → c = padCore core)
    (hbak : ∀ c, accepted md5 d.files (efs ++ str "/.nv_data.bak") (enabledIn d.files efs)
      NVDATA_SIZE = some c → c = padCore core)
    (hcore : accepted md5 d.files (efs ++ str "/.nv_core.bak") (enabledIn d.files efs) CORE_SIZE =
      some core) (hopen : d.Opened fd (efs ++ str "/.nv_core.bak") O_RDWR core) :
    Disk.wp F (fun f => recovered md5 f efs = some (padCore core))
      (fun fs d' => d'.openContent fs.m_nvdata = some (padCore core)) (fs.recoverCore md5 fd)
      d := by
  have hlen := (accepted_eq_some.mp hcore).2.1
  have hname : ∀ name ∈ ["/.nv_state", "/.nv_core.bak", "/.nv_core.bak.md5"],
      name ≠ "/nv_data.bin" ∧ name ≠ "/.nv_data.bak" ∧ name ≠ "/.nv_data.bak.md5" ∧
        name ≠ "/.nv_data.md5" := by decide
  apply wp_recoverCore hefs hopen hlen (recovered_core hbin hbak hcore)
  · refine recovered_of_core hcore (fun name hmem => update_other (hname name hmem).1) ?_ ?_
    · exact accepted_beginning (Function.update_self ..) List.nil_prefix (padCore_length hlen)
    · rw [accepted_congr (update_other (by decide))]
      · exact hbak
      · rw [name_append]
        exact update_other (by decide)
  · intro a b ha hb
    exact rebuilding_recovers hcore ha hb
  · intro n
    refine rebuilt_recovers hcore (fun name hmem => ?_) ?_ ?_
    · rw [update_other (hname name hmem).2.2.1,
        rebuilding_name _ _ _ _ (hname name hmem).1 (hname name hmem).2.1]
    · rw [update_other (by decide), rebuilding_data]
    · rw [update_other (by decide), rebuilding_backup]
  · intro n
    refine rebuilt_recovers hcore (fun name hmem => ?_) ?_ ?_
    · rw [update_other (hname name hmem).2.2.2, update_other (hname name hmem).2.2.1,
        rebuilding_name _ _ _ _ (hname name hmem).1 (hname name hmem).2.1]
    · rw [update_other (by decide), update_other (by decide), rebuilding_data]
    · rw [update_other (by decide), update_other (by decide), rebuilding_backup]
  · intro d' nvdata _ hopen'
    exact hopen'.openContent_eq

/-- The constructor recovers the same NV data wherever it is cut off. -/
theorem wp_construct_recovers {firmware : Bytes} (hrec : recovered md5 d.files efs = some content) :
    Disk.wp F (fun f => recovered md5 f efs = some content)
      (fun fs d' => d'.openContent fs.m_nvdata = some content) (construct md5 firmware efs) d := by
  have hefs : (starting firmware efs (enabledIn d.files efs)).m_efs = efs := rfl
  apply wp_construct hrec
  · intro c hacc d₁ fd _ hopen
    obtain rfl : c = content := Option.some.inj ((recovered_bin hacc).symm.trans hrec)
    exact hopen.openContent_eq
  · intro c hbin hbak d₁ fd hfiles hopen
    rw [← hfiles] at hbin hbak hrec
    have hnone : ∀ c', accepted md5 d₁.files (efs ++ str "/nv_data.bin") (enabledIn d₁.files efs)
        NVDATA_SIZE = some c' → c' = c := by simp [hbin]
    obtain rfl : c = content :=
      Option.some.inj ((recovered_backup hnone hbak).symm.trans hrec)
    exact wp_recoverBackup_recovers hefs hnone hbak hopen
  · intro core hbin hbak hcore d₁ fd hfiles hopen
    rw [← hfiles] at hbin hbak hcore hrec
    have hnone : ∀ name ∈ ["/nv_data.bin", "/.nv_data.bak"], ∀ c', accepted md5 d₁.files
        (efs ++ str name) (enabledIn d₁.files efs) NVDATA_SIZE = some c' → c' = padCore core := by
      simp [hbin, hbak]
    obtain rfl : padCore core = content := by
      refine Option.some.inj ((recovered_core ?_ ?_ hcore).symm.trans hrec)
      · exact hnone _ (by simp)
      · exact hnone _ (by simp)
    exact wp_recoverCore_recovers hefs (hnone _ (by simp)) (hnone _ (by simp)) hcore hopen
  · intro hnone
    rw [hrec] at hnone
    contradiction

end

/-- The NV data that the files hold: those of `nv_data.bin` if they can be loaded, else those of its
backup, and else those of the secondary backup with padding. -/
inductive HoldsNV (md5 : Bytes → Vector UInt8 16) (files : Bytes → Option Bytes) (efs : Bytes) :
    Bytes → Prop
  | data {content : Bytes}
    (hdata : Loads md5 files efs (efs ++ str "/nv_data.bin") NVDATA_SIZE content) :
    HoldsNV md5 files efs content
  | backup {content : Bytes}
    (hdata : ∀ c, ¬ Loads md5 files efs (efs ++ str "/nv_data.bin") NVDATA_SIZE c)
    (hbackup : Loads md5 files efs (efs ++ str "/.nv_data.bak") NVDATA_SIZE content) :
    HoldsNV md5 files efs content
  | core {core : Bytes}
    (hdata : ∀ c, ¬ Loads md5 files efs (efs ++ str "/nv_data.bin") NVDATA_SIZE c)
    (hbackup : ∀ c, ¬ Loads md5 files efs (efs ++ str "/.nv_data.bak") NVDATA_SIZE c)
    (hcore : Loads md5 files efs (efs ++ str "/.nv_core.bak") CORE_SIZE core) :
    HoldsNV md5 files efs (core ++ List.replicate (NVDATA_SIZE - CORE_SIZE) 0xFF)

theorem not_loads_iff (hsize : 16384 ∣ size) : (∀ c, ¬ Loads md5 files efs filename size c) ↔
    accepted md5 files filename (enabledIn files efs) size = none := by
  simp only [loads_iff hsize, Option.eq_none_iff_forall_ne_some]

/-- They are what is recovered. -/
theorem holdsNV_iff : HoldsNV md5 files efs content ↔ recovered md5 files efs = some content := by
  constructor
  · intro h
    cases h with
    | data hdata => exact recovered_bin ((loads_iff chunks_NVDATA).mp hdata)
    | backup hdata hbackup =>
      have hbin := (not_loads_iff chunks_NVDATA).mp hdata
      exact recovered_backup (by simp [hbin]) ((loads_iff chunks_NVDATA).mp hbackup)
    | core hdata hbackup hcore =>
      have hbin := (not_loads_iff chunks_NVDATA).mp hdata
      have hbak := (not_loads_iff chunks_NVDATA).mp hbackup
      exact recovered_core (by simp [hbin]) (by simp [hbak]) ((loads_iff chunks_CORE).mp hcore)
  · intro h
    obtain hbin | ⟨hbin, h⟩ := Option.or_eq_some_iff.mp h
    · exact .data ((loads_iff chunks_NVDATA).mpr hbin)
    · have hdata := (not_loads_iff chunks_NVDATA).mpr hbin
      obtain hbak | ⟨hbak, h⟩ := Option.or_eq_some_iff.mp h
      · exact .backup hdata ((loads_iff chunks_NVDATA).mpr hbak)
      · obtain ⟨core, hcore, rfl⟩ := Option.map_eq_some_iff.mp h
        exact .core hdata ((not_loads_iff chunks_NVDATA).mpr hbak)
          ((loads_iff chunks_CORE).mpr hcore)

theorem HoldsNV.unique {content' : Bytes} (h : HoldsNV md5 files efs content)
    (h' : HoldsNV md5 files efs content') :
    content' = content :=
  Option.some.inj ((holdsNV_iff.mp h').symm.trans (holdsNV_iff.mp h))

/-- NV data are held exactly when one of the files can be loaded. -/
theorem exists_holdsNV_iff : (∃ content, HoldsNV md5 files efs content) ↔
    (∃ content, Loads md5 files efs (efs ++ str "/nv_data.bin") NVDATA_SIZE content) ∨
      (∃ content, Loads md5 files efs (efs ++ str "/.nv_data.bak") NVDATA_SIZE content) ∨
        ∃ content, Loads md5 files efs (efs ++ str "/.nv_core.bak") CORE_SIZE content := by
  simp only [holdsNV_iff, loads_iff chunks_NVDATA, loads_iff chunks_CORE,
    ← Option.isSome_iff_exists]
  simp [recovered, Option.isSome_or]

/-- If one of the three files can be loaded, the constructor serves the NV data that are held by
them. They are still held when it has ended and wherever it is cut off, and there the next
constructor serves them. -/
theorem construct_survives_crashes (md5 : Bytes → Vector UInt8 16) (firmware efs : Bytes)
    {files : Bytes → Option Bytes}
    (h : (∃ content, Loads md5 files efs (efs ++ str "/nv_data.bin") NVDATA_SIZE content) ∨
      (∃ content, Loads md5 files efs (efs ++ str "/.nv_data.bak") NVDATA_SIZE content) ∨
        ∃ content, Loads md5 files efs (efs ++ str "/.nv_core.bak") CORE_SIZE content) :
    ∃ content, HoldsNV md5 files efs content ∧
      (∃ d fs, (construct md5 firmware efs).exec kernel (boot files) = some (d, fs) ∧
        d.openContent fs.m_nvdata = some content ∧ HoldsNV md5 d.files efs content) ∧
      ∀ c ∈ (construct md5 firmware efs).crashes kernel (boot files),
        HoldsNV md5 c.files efs content ∧
          ∃ d' fs', (construct md5 firmware efs).exec kernel (boot c.files) = some (d', fs') ∧
            d'.openContent fs'.m_nvdata = some content := by
  obtain ⟨content, hholds⟩ := exists_holdsNV_iff.mpr h
  have hwp : ∀ f, recovered md5 f efs = some content →
      Disk.wp False (fun f => recovered md5 f efs = some content)
        (fun fs d' => d'.openContent fs.m_nvdata = some content) (construct md5 firmware efs)
        (boot f) :=
    fun f hf => wp_construct_recovers hf
  have hrec := holdsNV_iff.mp hholds
  have hcrashes := Program.wp_crashes (hwp files hrec)
  obtain ⟨d, fs, hexec, hserved⟩ := Program.wp_total (hwp files hrec)
  refine ⟨content, hholds, ⟨d, fs, hexec, hserved, ?_⟩, fun c hc => ⟨?_, ?_⟩⟩
  · exact holdsNV_iff.mpr (hcrashes d (Program.exec_mem_crashes hexec))
  · exact holdsNV_iff.mpr (hcrashes c hc)
  · exact Program.wp_total (hwp c.files (hcrashes c hc))

/-- Only the secondary backup is there, and no marker. -/
theorem coreAlone_survives_crashes :
    let md5 : Bytes → Vector UInt8 16 := fun _ => Vector.replicate 16 0
    let files := coreAlone md5 (str "/efs") none
    let content := List.replicate CORE_SIZE 0 ++ List.replicate (NVDATA_SIZE - CORE_SIZE) 0xFF
    (∃ d fs, (construct md5 (str "/fw") (str "/efs")).exec kernel (boot files) = some (d, fs) ∧
      d.openContent fs.m_nvdata = some content ∧ HoldsNV md5 d.files (str "/efs") content) ∧
    ∀ c ∈ (construct md5 (str "/fw") (str "/efs")).crashes kernel (boot files),
      HoldsNV md5 c.files (str "/efs") content ∧
        ∃ d' fs', (construct md5 (str "/fw") (str "/efs")).exec kernel (boot c.files) =
          some (d', fs') ∧
          d'.openContent fs'.m_nvdata = some content := by
  intro md5 files content
  have hmissing : ∀ name, name ≠ "/.nv_core.bak" → name ≠ "/.nv_core.bak.md5" →
    name ≠ "/.nv_state" →
      accepted md5 files (str "/efs" ++ str name) (enabledIn files (str "/efs")) NVDATA_SIZE =
        none := by
    intro name hne hne' hne''
    have hfile : files (str "/efs" ++ str name) = none := coreAlone_missing _ _ _ hne hne' hne''
    rw [accepted, hfile, Option.filter_none]
  have hcore : Loads md5 files (str "/efs") (str "/efs" ++ str "/.nv_core.bak") CORE_SIZE
      (List.replicate CORE_SIZE 0) := (loads_iff chunks_CORE).mpr (coreAlone_accepted _ _ _ _)
  obtain ⟨content', hholds, hserved, hcrashes⟩ :=
    construct_survives_crashes md5 (str "/fw") (str "/efs") (.inr (.inr ⟨_, hcore⟩))
  obtain rfl : content' = content := by
    refine (HoldsNV.core ?_ ?_ hcore).unique hholds
    · exact (not_loads_iff chunks_NVDATA).mpr (hmissing _ (by decide) (by decide) (by decide))
    · exact (not_loads_iff chunks_NVDATA).mpr (hmissing _ (by decide) (by decide) (by decide))
  exact ⟨hserved, hcrashes⟩

end FreeRil.AndroidFileSystem
