import FreeRil.AndroidFileSystem.WriteCrash

/-! What a full backup is good for: a start that finds the NV data damaged comes up with the backup,
and one that finds the backup damaged as well with its first half. -/
namespace FreeRil.AndroidFileSystem
open Disk

/-- Files that are the same but for those of some names. -/
def DamagedIn (efs : Bytes) (names : List String) (files damaged : Bytes → Option Bytes) : Prop :=
  ∀ path, path ∉ names.map (efs ++ str ·) → damaged path = files path

/-- A start on these files ends, and serves these NV data. -/
def Starts (md5 : Bytes → Vector UInt8 16) (firmware efs : Bytes) (files : Bytes → Option Bytes)
    (content : Bytes) : Prop :=
  ∃ d fs, (construct md5 firmware efs).exec kernel (boot files) = some (d, fs) ∧
    d.openContent fs.m_nvdata = some content

/-- Both backups are there with their digests, and the digests are checked. -/
structure BackedUp (md5 : Bytes → Vector UInt8 16) (efs content : Bytes)
    (files : Bytes → Option Bytes) : Prop where
  enabled : enabledIn files efs = true
  backup : files (efs ++ str "/.nv_data.bak") = some content
  backup_digest : files (efs ++ str "/.nv_data.bak.md5") = some (calculateMD5 md5 content)
  core : files (efs ++ str "/.nv_core.bak") = some (content.take CORE_SIZE)
  core_digest : files (efs ++ str "/.nv_core.bak.md5") =
    some (calculateMD5 md5 (content.take CORE_SIZE))

variable {md5 : Bytes → Vector UInt8 16} {firmware efs content : Bytes}
  {files damaged : Bytes → Option Bytes} {F : Prop} {d : Disk} {fs : AndroidFileSystem}
  {names : List String}

theorem DamagedIn.name (h : DamagedIn efs names files damaged) {name : String} (hname : name ∉ names) :
    damaged (efs ++ str name) = files (efs ++ str name) := by
  apply h
  intro hmem
  obtain ⟨name', hname', heq⟩ := List.mem_map.mp hmem
  obtain rfl : name' = name := str_inj.mp (List.append_cancel_left heq)
  exact hname hname'

theorem backedUp_of_enabled (henabled : enabledIn files efs = true) :
    BackedUp md5 efs content (backedUp md5 efs content (calculateMD5 md5 content) true files) := by
  refine ⟨?_, ?_, ?_, ?_, ?_⟩
  · rw [← henabled]
    exact enabledIn_congr (backedUp_name _ _ _ (by decide))
  all_goals simp [backedUp, update_name]

/-- A full backup of NV data that have their digest. -/
theorem Serves.wp_backup_full (h : Serves d fs efs content) (hdigest : Digested md5 d fs efs content) :
    Disk.wp F (fun _ => True) (fun _ d' => BackedUp md5 efs content d'.files)
      (fs.backupNVData md5 true) d := by
  have henabled : ∀ {d : Disk} {fs : AndroidFileSystem}, fs.m_md5_enabled = true →
      Serves d fs efs content → Digested md5 d fs efs content →
      Disk.wp F (fun _ => True) (fun _ d' => BackedUp md5 efs content d'.files)
        (fs.backupNVData md5 true) d := by
    intro d fs henabled h hdigest
    refine h.wp_backupNVData henabled (hdigest henabled) fun d' hfiles _ => ?_
    rw [hfiles]
    exact backedUp_of_enabled (h.enabled_eq.trans henabled)
  cases hcase : fs.m_md5_enabled with
  | true => exact henabled hcase h hdigest
  | false =>
    exact h.wp_backupNVData_disabled hcase fun d₁ hserves₁ hdigest₁ => henabled rfl hserves₁ hdigest₁

theorem starts_of_recovered (h : recovered md5 files efs = some content) :
    Starts md5 firmware efs files content := by
  have hwp : Disk.wp False (fun f => recovered md5 f efs = some content)
      (fun fs d' => d'.openContent fs.m_nvdata = some content) (construct md5 firmware efs)
      (boot files) := wp_construct_recovers h
  exact Program.wp_total hwp

namespace BackedUp

/-- Where `nv_data.bin` is not accepted, the backup is. -/
theorem starts_backup (h : BackedUp md5 efs content files) (hlen : content.length = NVDATA_SIZE)
    (hdamaged : DamagedIn efs ["/nv_data.bin", "/nv_data.bin.md5"] files damaged)
    (hbin : accepted md5 damaged (efs ++ str "/nv_data.bin") (enabledIn damaged efs) NVDATA_SIZE =
      none) : Starts md5 firmware efs damaged content := by
  refine starts_of_recovered (recovered_backup (by simp [hbin]) (accepted_eq_some.mpr ⟨?_, hlen, ?_⟩))
  · rw [hdamaged.name (by decide), h.backup]
  · intro _
    rw [name_append]
    exact (hdamaged.name (by decide)).trans h.backup_digest

/-- Where the backup is not accepted either, its first half is. -/
theorem starts_core (h : BackedUp md5 efs content files) (hlen : content.length = NVDATA_SIZE)
    (hdamaged : DamagedIn efs ["/nv_data.bin", "/nv_data.bin.md5", "/.nv_data.bak",
      "/.nv_data.bak.md5"] files damaged)
    (hbin : accepted md5 damaged (efs ++ str "/nv_data.bin") (enabledIn damaged efs) NVDATA_SIZE =
      none)
    (hbak : accepted md5 damaged (efs ++ str "/.nv_data.bak") (enabledIn damaged efs) NVDATA_SIZE =
      none) : Starts md5 firmware efs damaged (padCore (content.take CORE_SIZE)) := by
  have hcore : (content.take CORE_SIZE).length = CORE_SIZE := by
    rw [List.length_take, hlen]
    exact min_eq_left CORE_le_NVDATA
  refine starts_of_recovered (recovered_core (by simp [hbin]) (by simp [hbak])
    (accepted_eq_some.mpr ⟨?_, hcore, ?_⟩))
  · rw [hdamaged.name (by decide), h.core]
  · intro _
    rw [name_append]
    exact (hdamaged.name (by decide)).trans h.core_digest

end BackedUp

/-- After a full backup, a start that rejects `nv_data.bin` serves the same NV data from the backup,
and one that rejects the backup as well their first half, padded. -/
theorem full_backup_recovers (md5 : Bytes → Vector UInt8 16) (firmware efs : Bytes) (d d' : Disk)
    (fs fs' : AndroidFileSystem) (content : Bytes) (hserves : Serves d fs efs content)
    (hdigest : fs.m_md5_enabled = false ∨
      d.files (efs ++ str "/nv_data.bin.md5") = some (calculateMD5 md5 content))
    (hexec : (fs.backupNVData md5 true).exec kernel d = some (d', fs')) :
    (∀ damaged, DamagedIn efs ["/nv_data.bin", "/nv_data.bin.md5"] d'.files damaged →
      (∀ c, ¬ Loads md5 damaged efs (efs ++ str "/nv_data.bin") NVDATA_SIZE c) →
        Starts md5 firmware efs damaged content) ∧
    ∀ damaged, DamagedIn efs ["/nv_data.bin", "/nv_data.bin.md5", "/.nv_data.bak",
        "/.nv_data.bak.md5"] d'.files damaged →
      (∀ c, ¬ Loads md5 damaged efs (efs ++ str "/nv_data.bin") NVDATA_SIZE c) →
      (∀ c, ¬ Loads md5 damaged efs (efs ++ str "/.nv_data.bak") NVDATA_SIZE c) →
        Starts md5 firmware efs damaged
          (content.take CORE_SIZE ++ List.replicate (NVDATA_SIZE - CORE_SIZE) 0xFF) := by
  have hdigested : Digested md5 d fs efs content := by
    intro henabled
    rcases hdigest with hdisabled | hdigest
    · rw [henabled] at hdisabled
      contradiction
    · exact hdigest
  have hwp : Disk.wp True (fun _ => True) (fun _ d' => BackedUp md5 efs content d'.files)
      (fs.backupNVData md5 true) d := hserves.wp_backup_full hdigested
  have hbacked := Program.wp_exec hwp hexec
  constructor
  · intro damaged hdamaged hbin
    exact hbacked.starts_backup hserves.length_eq hdamaged ((not_loads_iff chunks_NVDATA).mp hbin)
  · intro damaged hdamaged hbin hbak
    exact hbacked.starts_core hserves.length_eq hdamaged ((not_loads_iff chunks_NVDATA).mp hbin)
      ((not_loads_iff chunks_NVDATA).mp hbak)

/-- A backup of NV data that are there with their digest, beside an older backup. -/
theorem overBackup_backup_recovers : ∃ d d' fs fs',
    (session (fun _ => Vector.replicate 16 0) (str "/fw") (str "/efs") []).exec kernel
      (boot (overBackup (fun _ => Vector.replicate 16 0) (str "/efs"))) = some (d, fs) ∧
    (fs.backupNVData (fun _ => Vector.replicate 16 0) true).exec kernel d = some (d', fs') ∧
    (∀ damaged, DamagedIn (str "/efs") ["/nv_data.bin", "/nv_data.bin.md5"] d'.files damaged →
      (∀ c, ¬ Loads (fun _ => Vector.replicate 16 0) damaged (str "/efs")
        (str "/efs" ++ str "/nv_data.bin") NVDATA_SIZE c) →
        Starts (fun _ => Vector.replicate 16 0) (str "/fw") (str "/efs") damaged
          (List.replicate NVDATA_SIZE 0)) ∧
    ∀ damaged, DamagedIn (str "/efs") ["/nv_data.bin", "/nv_data.bin.md5", "/.nv_data.bak",
        "/.nv_data.bak.md5"] d'.files damaged →
      (∀ c, ¬ Loads (fun _ => Vector.replicate 16 0) damaged (str "/efs")
        (str "/efs" ++ str "/nv_data.bin") NVDATA_SIZE c) →
      (∀ c, ¬ Loads (fun _ => Vector.replicate 16 0) damaged (str "/efs")
        (str "/efs" ++ str "/.nv_data.bak") NVDATA_SIZE c) →
        Starts (fun _ => Vector.replicate 16 0) (str "/fw") (str "/efs") damaged
          ((List.replicate NVDATA_SIZE 0).take CORE_SIZE ++
            List.replicate (NVDATA_SIZE - CORE_SIZE) 0xFF) := by
  obtain ⟨d, fs, hexec, hfiles, hserves⟩ :=
    overBackup_session (fun _ => Vector.replicate 16 0) (str "/efs") (str "/fw")
  have hacc := overBackup_accepted (fun _ => Vector.replicate 16 0) (str "/efs") true
  have hdigest : d.files (str "/efs" ++ str "/nv_data.bin.md5") =
      some (calculateMD5 (fun _ => Vector.replicate 16 0) (List.replicate NVDATA_SIZE 0)) := by
    rw [hfiles]
    exact name_append (str "/efs") "/nv_data.bin" ".md5" ▸ (accepted_eq_some.mp hacc).2.2 rfl
  have hwp : Disk.wp False (fun _ => True) (fun _ d' => BackedUp (fun _ => Vector.replicate 16 0)
      (str "/efs") (List.replicate NVDATA_SIZE 0) d'.files)
      (fs.backupNVData (fun _ => Vector.replicate 16 0) true) d :=
    hserves.wp_backup_full fun _ => hdigest
  obtain ⟨d', fs', hbackup, -⟩ := Program.wp_total hwp
  exact ⟨d, d', fs, fs', hexec, hbackup, full_backup_recovers _ _ _ d d' fs fs' _ hserves (.inr hdigest)
    hbackup⟩

end FreeRil.AndroidFileSystem
