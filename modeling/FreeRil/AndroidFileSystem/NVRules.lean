import FreeRil.AndroidFileSystem.Recovery

/-! Rules for the operations that change NV files. -/
namespace FreeRil.AndroidFileSystem
open Disk

/-- Two names of the same directory. -/
theorem update_name (files : Bytes → Option Bytes) (efs : Bytes) (a b : String)
    (content : Option Bytes) :
    Function.update files (efs ++ str a) content (efs ++ str b) =
      if b = a then content else files (efs ++ str b) := by
  simp [Function.update_apply, str_inj]

theorem update_other {files : Bytes → Option Bytes} {efs : Bytes} {a b : String}
    {content : Option Bytes} (h : b ≠ a) :
    Function.update files (efs ++ str a) content (efs ++ str b) = files (efs ++ str b) := by
  rw [update_name, if_neg h]

theorem name_append (efs : Bytes) (a b : String) :
    efs ++ str a ++ str b = efs ++ str (a ++ b) := by
  rw [List.append_assoc, str_append]

/-- `.nv_state` after the marker has been written, unless it was on already. -/
def marked (efs : Bytes) (md5_enabled : Bool) (files : Bytes → Option Bytes) :
    Bytes → Option Bytes :=
  if md5_enabled then files else Function.update files (efs ++ str "/.nv_state") (some (str "1"))

/-- The files with the digest of NV data in place. -/
def digested (md5 : Bytes → Vector UInt8 16) (efs content : Bytes) (files : Bytes → Option Bytes) :
    Bytes → Option Bytes :=
  Function.update files (efs ++ str "/nv_data.bin.md5") (some (calculateMD5 md5 content))

theorem chunks_NVDATA : 16384 ∣ NVDATA_SIZE := ⟨128, rfl⟩

theorem chunks_CORE : 16384 ∣ CORE_SIZE := ⟨64, rfl⟩

theorem CORE_le_NVDATA : CORE_SIZE ≤ NVDATA_SIZE := by decide

section
variable (md5 : Bytes → Vector UInt8 16) (efs : Bytes) (marker : Option Bytes)

theorem coreAlone_state : coreAlone md5 efs marker (efs ++ str "/.nv_state") = marker :=
  Function.update_self ..

theorem coreAlone_missing {name : String} (h : name ≠ "/.nv_core.bak")
    (h' : name ≠ "/.nv_core.bak.md5") (hstate : name ≠ "/.nv_state") :
    coreAlone md5 efs marker (efs ++ str name) = none := by
  simp [coreAlone, update_name, h, h', hstate]

theorem coreAlone_accepted (md5_enabled : Bool) :
    accepted md5 (coreAlone md5 efs marker) (efs ++ str "/.nv_core.bak") md5_enabled CORE_SIZE =
      some (List.replicate CORE_SIZE 0) := by
  refine accepted_eq_some.mpr ⟨?_, List.length_replicate, fun _ => ?_⟩
  · simp [coreAlone, update_name]
  · rw [name_append]
    simp [coreAlone, update_name]

end

variable {md5 : Bytes → Vector UInt8 16} {F : Prop} {C : (Bytes → Option Bytes) → Prop} {d : Disk}
  {fs : AndroidFileSystem} {efs path content : Bytes} {flags : UInt32}

theorem wp_writeMarker (hC : C d.files)
    (hgrow : Growing C d.files (efs ++ str "/.nv_state") [] (str "1")) {Q : Unit → Disk → Prop}
    (hQ : ∀ d' : Disk, d'.files = Function.update d.files (efs ++ str "/.nv_state") (some (str "1")) →
      Frame (· < d.next) d d' → Q () d') :
    Disk.wp F C Q (writeMarker efs) d := by
  unfold writeMarker
  refine wp_rewrite (by decide) (by decide) (by decide) hC hgrow
    fun d₁ fd hfiles₁ hframe₁ hle hC₁ hopen₁ => ?_
  refine wp_fsync hopen₁ (wp_close hopen₁ hC₁ fun d₂ hfiles₂ hframe₂ => ?_)
  exact wp_return (by rwa [hfiles₂]) (hQ d₂ (hfiles₂.trans hfiles₁)
    (hframe₁.trans (hframe₂.mono fun n hn => (hn.trans_le hle).ne)))

/-- `updateMD5` puts the digest of the NV data in place and makes sure that it is checked. -/
theorem wp_updateMD5 (hefs : fs.m_efs = efs) (h : d.Opened fs.m_nvdata path flags content)
    (hflags : flags &&& 3 ≠ O_WRONLY) (hlen : content.length = NVDATA_SIZE) (hC : C d.files)
    (hdigest : Growing C d.files (efs ++ str "/nv_data.bin.md5") [] (calculateMD5 md5 content))
    (hmarker : fs.m_md5_enabled = false →
      Growing C (digested md5 efs content d.files) (efs ++ str "/.nv_state") [] (str "1"))
    {Q : AndroidFileSystem → Disk → Prop}
    (hQ : ∀ d' : Disk, d'.files = marked efs fs.m_md5_enabled (digested md5 efs content d.files) →
      Frame (· < d.next) d d' → Q { fs with m_md5_enabled := true } d') :
    Disk.wp F C Q (fs.updateMD5 md5) d := by
  subst hefs
  refine wp_seq (wp_digestOrPanic h hflags hC chunks_NVDATA hlen ?_)
  refine wp_rewrite (by decide) (by decide) (by decide) hC hdigest
    fun d₁ fd hfiles₁ hframe₁ hle hC₁ hopen₁ => ?_
  refine wp_close hopen₁ hC₁ fun d₂ hfiles₂ hframe₂ => ?_
  have hfiles : d₂.files = digested md5 fs.m_efs content d.files := hfiles₂.trans hfiles₁
  have hframe : Frame (· < d.next) d d₂ :=
    hframe₁.trans (hframe₂.mono fun n hn => (hn.trans_le hle).ne)
  have hC₂ : C d₂.files := by rwa [hfiles₂]
  cases henabled : fs.m_md5_enabled with
  | true =>
    have hfs : { fs with m_md5_enabled := true } = fs := by rw [← henabled]
    rw [hfs, henabled] at hQ
    exact wp_return hC₂ (hQ d₂ hfiles hframe)
  | false =>
    have hgrow := hmarker henabled
    rw [← hfiles] at hgrow
    refine wp_seq (wp_writeMarker hC₂ hgrow fun d₃ hfiles₃ hframe₃ => ?_)
    have hmarked : d₃.files =
        marked fs.m_efs fs.m_md5_enabled (digested md5 fs.m_efs content d.files) := by
      rw [hfiles₃, hfiles, henabled]
      rfl
    have hC₃ : C d₃.files := by
      rw [hfiles₃]
      exact hgrow.last
    exact wp_return hC₃ (hQ d₃ hmarked
      (hframe.trans (hframe₃.mono fun n hn => hn.trans_le hframe.next_le)))

theorem marked_name (files : Bytes → Option Bytes) (efs : Bytes) (md5_enabled : Bool) {name : String}
    (h : name ≠ "/.nv_state") :
    marked efs md5_enabled files (efs ++ str name) = files (efs ++ str name) := by
  cases md5_enabled <;> simp [marked, update_name, h]

theorem digested_name (md5 : Bytes → Vector UInt8 16) (efs content : Bytes)
    (files : Bytes → Option Bytes) {name : String} (h : name ≠ "/nv_data.bin.md5") :
    digested md5 efs content files (efs ++ str name) = files (efs ++ str name) := by
  simp [digested, update_name, h]

/-- The flags `nv_data.bin` is made anew with. -/
def REWRITE : UInt32 := O_RDWR ||| O_CREAT ||| O_TRUNC

/-- The rule of the first recovery: `nv_data.bin` is copied from its backup, and its digest and
the marker are brought up to date. -/
theorem wp_recoverBackup {backup : ℕ} (hefs : fs.m_efs = efs)
    (h : d.Opened backup (efs ++ str "/.nv_data.bak") O_RDWR content)
    (hlen : content.length = NVDATA_SIZE) (hC : C d.files)
    (hdata : Growing C d.files (efs ++ str "/nv_data.bin") [] content)
    (hdigest : Growing C (Function.update d.files (efs ++ str "/nv_data.bin") (some content))
      (efs ++ str "/nv_data.bin.md5") [] (calculateMD5 md5 content))
    (hmarker : fs.m_md5_enabled = false → Growing C
      (digested md5 efs content
        (Function.update d.files (efs ++ str "/nv_data.bin") (some content)))
      (efs ++ str "/.nv_state") [] (str "1"))
    {Q : AndroidFileSystem → Disk → Prop}
    (hQ : ∀ (d' : Disk) (nvdata : ℕ), d'.files = marked efs fs.m_md5_enabled
        (digested md5 efs content
          (Function.update d.files (efs ++ str "/nv_data.bin") (some content))) →
      d'.Opened nvdata (efs ++ str "/nv_data.bin") REWRITE content →
        Q { fs with m_nvdata := nvdata, m_md5_enabled := true } d') :
    Disk.wp F C Q (fs.recoverBackup md5 backup) d := by
  subst hefs
  unfold recoverBackup
  have hempty : C (Function.update d.files (fs.m_efs ++ str "/nv_data.bin") (some [])) := by
    simpa using hdata 0
  refine wp_seq (wp_createOrPanic (by decide) (by decide) hC hempty
    fun d₁ nvdata hfiles₁ hframe₁ hle hend₁ => ?_)
  have hbackup₁ := h.frame hframe₁ h.lt (by rw [hfiles₁, update_other (by decide)]; exact h.file)
  have hgrow₁ : Growing C d₁.files (fs.m_efs ++ str "/nv_data.bin") [] (content.take NVDATA_SIZE) := by
    rw [hfiles₁, List.take_of_length_le hlen.le]
    exact hdata.again
  refine wp_seq (wp_sendfileOrPanic hbackup₁ (by decide) hend₁ (by decide) hlen.ge
    (by rwa [hfiles₁]) hgrow₁ fun d₂ hfiles₂ hframe₂ hend₂ => ?_)
  have hC₂ : C d₂.files := by
    rw [hfiles₂]
    exact hgrow₁.last
  rw [hfiles₁, Function.update_idem, List.take_of_length_le hlen.le, List.nil_append] at hfiles₂
  rw [List.take_of_length_le hlen.le, List.nil_append] at hend₂
  have hbackup₂ := hbackup₁.frame hframe₂ (h.lt.trans_le hle).ne
    (by rw [hfiles₂, update_other (by decide)]; exact h.file)
  refine wp_close hbackup₂ hC₂ fun d₃ hfiles₃ hframe₃ => ?_
  have hopen₃ := hend₂.opened.frame hframe₃ (h.lt.trans_le hle).ne' (by rw [hfiles₃]; exact hend₂.file)
  rw [hfiles₂] at hfiles₃
  rw [← hfiles₃] at hdigest hmarker
  have hefs : ({ fs with m_nvdata := nvdata } : AndroidFileSystem).m_efs = fs.m_efs := rfl
  refine wp_updateMD5 hefs hopen₃ (by decide) hlen (by rwa [hfiles₃, ← hfiles₂]) hdigest hmarker
    fun d₄ hfiles₄ hframe₄ => ?_
  refine hQ d₄ nvdata (by rw [hfiles₄, hfiles₃]) (hopen₃.frame hframe₄ hopen₃.lt ?_)
  rw [hfiles₄, marked_name _ _ _ (by decide), digested_name _ _ _ _ (by decide)]
  exact hopen₃.file

/-- The files while `nv_data.bin` and its backup are being rebuilt. -/
def rebuilding (efs : Bytes) (files : Bytes → Option Bytes) (data backup : Bytes) :
    Bytes → Option Bytes :=
  Function.update (Function.update files (efs ++ str "/nv_data.bin") (some data))
    (efs ++ str "/.nv_data.bak") (some backup)

section
variable (efs : Bytes) (files : Bytes → Option Bytes) (data backup data' : Bytes)

@[simp] theorem rebuilding_data :
    rebuilding efs files data backup (efs ++ str "/nv_data.bin") = some data := by
  simp [rebuilding, update_name]

@[simp] theorem rebuilding_backup :
    rebuilding efs files data backup (efs ++ str "/.nv_data.bak") = some backup := by
  simp [rebuilding]

theorem rebuilding_name {name : String} (h : name ≠ "/nv_data.bin") (h' : name ≠ "/.nv_data.bak") :
    rebuilding efs files data backup (efs ++ str name) = files (efs ++ str name) := by
  simp [rebuilding, update_name, h, h']

theorem rebuilding_update_data :
    Function.update (rebuilding efs files data backup) (efs ++ str "/nv_data.bin") (some data') =
      rebuilding efs files data' backup := by
  have hne : efs ++ str "/.nv_data.bak" ≠ efs ++ str "/nv_data.bin" := by simp [str_inj]
  rw [rebuilding, Function.update_comm hne, Function.update_idem]
  rfl

theorem rebuilding_update_backup :
    Function.update (rebuilding efs files data backup) (efs ++ str "/.nv_data.bak") (some data') =
      rebuilding efs files data data' := by
  rw [rebuilding, Function.update_idem]
  rfl

end

theorem padCore_length {core : Bytes} (h : core.length = CORE_SIZE) :
    (padCore core).length = NVDATA_SIZE := by
  have hle := CORE_le_NVDATA
  rw [padCore, List.length_append, List.length_replicate, h]
  omega

/-- The second recovery at work: both files are open at their ends. -/
structure Rebuilding (efs : Bytes) (files : Bytes → Option Bytes) (source nvdata backup : ℕ)
    (core : Bytes) (d : Disk) (a b : Bytes) : Prop where
  files_eq : d.files = rebuilding efs files a b
  data_end : d.AtEnd nvdata (efs ++ str "/nv_data.bin") REWRITE a
  backup_end : d.AtEnd backup (efs ++ str "/.nv_data.bak") REWRITE b
  source_opened : d.Opened source (efs ++ str "/.nv_core.bak") O_RDWR core
  core_eq : files (efs ++ str "/.nv_core.bak") = some core
  source_lt : source < nvdata
  data_lt : nvdata < backup

namespace Rebuilding
variable {files : Bytes → Option Bytes} {source nvdata backup : ℕ} {core a b a' b' : Bytes}
  {d' : Disk}

theorem source_of_files (h : Rebuilding efs files source nvdata backup core d a b)
    (hfiles : d'.files = rebuilding efs files a' b') {kept : ℕ → Prop} (hframe : Frame kept d d')
    (hk : kept source) : d'.Opened source (efs ++ str "/.nv_core.bak") O_RDWR core := by
  refine h.source_opened.frame hframe hk ?_
  rw [hfiles, rebuilding_name _ _ _ _ (by decide) (by decide)]
  exact h.core_eq

theorem data_grown (h : Rebuilding efs files source nvdata backup core d a b)
    (hfiles : d'.files = Function.update d.files (efs ++ str "/nv_data.bin") (some a'))
    (hframe : Frame (· ≠ nvdata) d d')
    (hend : d'.AtEnd nvdata (efs ++ str "/nv_data.bin") REWRITE a') :
    Rebuilding efs files source nvdata backup core d' a' b := by
  rw [h.files_eq, rebuilding_update_data] at hfiles
  refine ⟨hfiles, hend, ?_, h.source_of_files hfiles hframe h.source_lt.ne, h.core_eq,
    h.source_lt, h.data_lt⟩
  exact h.backup_end.frame hframe h.data_lt.ne' (by rw [hfiles, rebuilding_backup])

theorem backup_grown (h : Rebuilding efs files source nvdata backup core d a b)
    (hfiles : d'.files = Function.update d.files (efs ++ str "/.nv_data.bak") (some b'))
    (hframe : Frame (· ≠ backup) d d')
    (hend : d'.AtEnd backup (efs ++ str "/.nv_data.bak") REWRITE b') :
    Rebuilding efs files source nvdata backup core d' a b' := by
  rw [h.files_eq, rebuilding_update_backup] at hfiles
  refine ⟨hfiles, ?_, hend,
    h.source_of_files hfiles hframe (h.source_lt.trans h.data_lt).ne, h.core_eq,
    h.source_lt, h.data_lt⟩
  exact h.data_end.frame hframe h.data_lt.ne (by rw [hfiles, rebuilding_data])

theorem passes (h : Rebuilding efs files source nvdata backup core d a b)
    (hgrow : ∀ a b, a <+: padCore core → b <+: padCore core → C (rebuilding efs files a b))
    (ha : a <+: padCore core) (hb : b <+: padCore core) : C d.files := by
  rw [h.files_eq]
  exact hgrow a b ha hb

/-- Whatever grows towards the padded core passes only files that are allowed. -/
theorem data_growing (h : Rebuilding efs files source nvdata backup core d a b)
    (hgrow : ∀ a b, a <+: padCore core → b <+: padCore core → C (rebuilding efs files a b))
    (hb : b <+: padCore core) {data : Bytes} (ha : a ++ data <+: padCore core) :
    Growing C d.files (efs ++ str "/nv_data.bin") a data := by
  intro n
  rw [h.files_eq, rebuilding_update_data]
  exact hgrow _ _ (((List.prefix_append_right_inj a).mpr (List.take_prefix n data)).trans ha) hb

theorem backup_growing (h : Rebuilding efs files source nvdata backup core d a b)
    (hgrow : ∀ a b, a <+: padCore core → b <+: padCore core → C (rebuilding efs files a b))
    (ha : a <+: padCore core) {data : Bytes} (hb : b ++ data <+: padCore core) :
    Growing C d.files (efs ++ str "/.nv_data.bak") b data := by
  intro n
  rw [h.files_eq, rebuilding_update_backup]
  exact hgrow _ _ ha (((List.prefix_append_right_inj b).mpr (List.take_prefix n data)).trans hb)

end Rebuilding

/-- The secondary backup is copied to both files, and padded. -/
theorem wp_copyCore {source : ℕ} {core : Bytes}
    (h : d.Opened source (efs ++ str "/.nv_core.bak") O_RDWR core) (hlen : core.length = CORE_SIZE)
    (hC : C d.files) (hempty : C (Function.update d.files (efs ++ str "/nv_data.bin") (some [])))
    (hgrow : ∀ a b, a <+: padCore core → b <+: padCore core → C (rebuilding efs d.files a b))
    {Q : ℕ → Disk → Prop}
    (hQ : ∀ (d' : Disk) (nvdata : ℕ),
      d'.files = rebuilding efs d.files (padCore core) (padCore core) →
      d'.Opened nvdata (efs ++ str "/nv_data.bin") REWRITE (padCore core) → Q nvdata d') :
    Disk.wp F C Q (copyCore efs source) d := by
  unfold copyCore
  have hcore : core.take CORE_SIZE = core := List.take_of_length_le hlen.le
  have hnil : ([] : Bytes) <+: padCore core := List.nil_prefix
  have hbegins : core <+: padCore core := List.prefix_append _ _
  refine wp_seq (wp_createOrPanic (by decide) (by decide) hC hempty
    fun d₁ nvdata hfiles₁ hframe₁ hle₁ hdata₁ => ?_)
  have hcreate : Function.update d₁.files (efs ++ str "/.nv_data.bak") (some []) =
      rebuilding efs d.files [] [] := by rw [hfiles₁]; rfl
  refine wp_seq (wp_createOrPanic (by decide) (by decide) (by rwa [hfiles₁])
    (by rw [hcreate]; exact hgrow _ _ hnil hnil) fun d₂ backup hfiles₂ hframe₂ hle₂ hbackup₂ => ?_)
  rw [hcreate] at hfiles₂
  have hdata₂ := hdata₁.frame hframe₂ hdata₁.lt (by rw [hfiles₂, rebuilding_data])
  have hsource₂ : d₂.Opened source (efs ++ str "/.nv_core.bak") O_RDWR core := by
    refine h.frame (hframe₁.trans (hframe₂.mono fun n hn => hn.trans_le hframe₁.next_le)) h.lt ?_
    rw [hfiles₂, rebuilding_name _ _ _ _ (by decide) (by decide)]
    exact h.file
  have hr₂ : Rebuilding efs d.files source nvdata backup core d₂ [] [] :=
    ⟨hfiles₂, hdata₂, hbackup₂, hsource₂, h.file, h.lt.trans_le hle₁, hdata₁.lt.trans_le hle₂⟩
  refine wp_seq (wp_sendfileOrPanic hr₂.source_opened (by decide) hr₂.data_end (by decide) hlen.ge
    (hr₂.passes hgrow hnil hnil) (hr₂.data_growing hgrow hnil (by rwa [hcore, List.nil_append]))
    fun d₃ hfiles₃ hframe₃ hend₃ => ?_)
  rw [hcore, List.nil_append] at hfiles₃ hend₃
  have hr₃ := hr₂.data_grown hfiles₃ hframe₃ hend₃
  refine wp_seq (wp_sendfileOrPanic hr₃.source_opened (by decide) hr₃.backup_end (by decide) hlen.ge
    (hr₃.passes hgrow hbegins hnil)
    (hr₃.backup_growing hgrow hbegins (by rwa [hcore, List.nil_append]))
    fun d₄ hfiles₄ hframe₄ hend₄ => ?_)
  rw [hcore, List.nil_append] at hfiles₄ hend₄
  have hr₄ := hr₃.backup_grown hfiles₄ hframe₄ hend₄
  refine wp_seq (wp_writeOrPanic hr₄.data_end (by decide) (hr₄.passes hgrow hbegins hbegins)
    (hr₄.data_growing hgrow hbegins List.prefix_rfl) fun d₅ hfiles₅ hframe₅ hend₅ => ?_)
  have hr₅ : Rebuilding efs d.files source nvdata backup core d₅ (padCore core) core :=
    hr₄.data_grown hfiles₅ hframe₅ hend₅
  refine wp_seq (wp_writeOrPanic hr₅.backup_end (by decide)
    (hr₅.passes hgrow List.prefix_rfl hbegins)
    (hr₅.backup_growing hgrow List.prefix_rfl List.prefix_rfl) fun d₆ hfiles₆ hframe₆ hend₆ => ?_)
  have hr₆ : Rebuilding efs d.files source nvdata backup core d₆ (padCore core) (padCore core) :=
    hr₅.backup_grown hfiles₆ hframe₆ hend₆
  have hC₆ : C d₆.files := hr₆.passes hgrow List.prefix_rfl List.prefix_rfl
  refine wp_fsync hr₆.backup_end.opened (wp_close hr₆.source_opened hC₆
    fun d₇ hfiles₇ hframe₇ => ?_)
  have hdata₇ := hr₆.data_end.opened.frame hframe₇ hr₆.source_lt.ne'
    (by rw [hfiles₇]; exact hr₆.data_end.file)
  have hbackup₇ := hr₆.backup_end.opened.frame hframe₇ (hr₆.source_lt.trans hr₆.data_lt).ne'
    (by rw [hfiles₇]; exact hr₆.backup_end.file)
  refine wp_fsync hdata₇ (wp_close hbackup₇ (by rwa [hfiles₇]) fun d₈ hfiles₈ hframe₈ => ?_)
  have hdata₈ := hdata₇.frame hframe₈ hr₆.data_lt.ne (by rw [hfiles₈]; exact hdata₇.file)
  refine wp_return (by rwa [hfiles₈, hfiles₇]) (hQ d₈ nvdata ?_ hdata₈)
  rw [hfiles₈, hfiles₇, hr₆.files_eq]

/-- The files the second recovery leaves: `nv_data.bin` and its backup are the padded core, and
the digest of the backup is up to date. -/
def rebuilt (md5 : Bytes → Vector UInt8 16) (efs : Bytes) (files : Bytes → Option Bytes)
    (data : Bytes) : Bytes → Option Bytes :=
  Function.update (Function.update (rebuilding efs files data data)
    (efs ++ str "/.nv_data.bak.md5") (some (calculateMD5 md5 data)))
    (efs ++ str "/.nv_data.md5") (some (calculateMD5 md5 data))

theorem rebuilt_name (md5 : Bytes → Vector UInt8 16) (efs : Bytes) (files : Bytes → Option Bytes)
    (data : Bytes) {name : String}
    (h : name ∉ ["/nv_data.bin", "/.nv_data.bak", "/.nv_data.bak.md5", "/.nv_data.md5"]) :
    rebuilt md5 efs files data (efs ++ str name) = files (efs ++ str name) := by
  simp only [List.mem_cons, List.not_mem_nil, or_false, not_or] at h
  simp [rebuilt, update_name, rebuilding_name, h]

/-- The rule of the second recovery, from the secondary backup. -/
theorem wp_recoverCore {source : ℕ} {core : Bytes} (hefs : fs.m_efs = efs)
    (h : d.Opened source (efs ++ str "/.nv_core.bak") O_RDWR core) (hlen : core.length = CORE_SIZE)
    (hC : C d.files) (hempty : C (Function.update d.files (efs ++ str "/nv_data.bin") (some [])))
    (hgrow : ∀ a b, a <+: padCore core → b <+: padCore core → C (rebuilding efs d.files a b))
    (hdigest : Growing C (rebuilding efs d.files (padCore core) (padCore core))
      (efs ++ str "/.nv_data.bak.md5") [] (calculateMD5 md5 (padCore core)))
    (hcopy : Growing C (Function.update (rebuilding efs d.files (padCore core) (padCore core))
      (efs ++ str "/.nv_data.bak.md5") (some (calculateMD5 md5 (padCore core))))
      (efs ++ str "/.nv_data.md5") [] (calculateMD5 md5 (padCore core)))
    {Q : AndroidFileSystem → Disk → Prop}
    (hQ : ∀ (d' : Disk) (nvdata : ℕ), d'.files = rebuilt md5 efs d.files (padCore core) →
      d'.Opened nvdata (efs ++ str "/nv_data.bin") REWRITE (padCore core) →
        Q { fs with m_nvdata := nvdata } d') :
    Disk.wp F C Q (fs.recoverCore md5 source) d := by
  subst hefs
  unfold recoverCore
  have hrebuilt := hgrow _ _ List.prefix_rfl List.prefix_rfl
  refine wp_seq (wp_copyCore h hlen hC hempty hgrow fun d₁ nvdata hfiles₁ hopen₁ => ?_)
  rw [← hfiles₁] at hrebuilt hdigest hcopy
  refine wp_seq (wp_digestOrPanic hopen₁ (by decide) hrebuilt chunks_NVDATA (padCore_length hlen) ?_)
  refine wp_seq (wp_put hrebuilt hdigest fun d₂ hfiles₂ hframe₂ => ?_)
  rw [← hfiles₂] at hcopy
  refine wp_seq (wp_put (by rw [hfiles₂]; exact hdigest.last) hcopy fun d₃ hfiles₃ hframe₃ => ?_)
  refine wp_return (by rw [hfiles₃]; exact hcopy.last) (hQ d₃ nvdata ?_ ?_)
  · rw [hfiles₃, hfiles₂, hfiles₁]
    rfl
  · refine hopen₁.frame (hframe₂.trans (hframe₃.mono fun n hn => hn.trans_le hframe₂.next_le))
      hopen₁.lt ?_
    rw [hfiles₃, hfiles₂, update_other (by decide), update_other (by decide)]
    exact hopen₁.file

/-- The instance before its descriptor is set. -/
def starting (firmware efs : Bytes) (md5_enabled : Bool) : AndroidFileSystem :=
  ⟨firmware, efs, 0, md5_enabled, ∅, ∅⟩

/-- The constructor takes the first of the three files that is accepted, or the blank NV data. -/
theorem wp_construct {firmware : Bytes} (hC : C d.files) {Q : AndroidFileSystem → Disk → Prop}
    (hloaded : ∀ content,
      accepted md5 d.files (efs ++ str "/nv_data.bin") (enabledIn d.files efs) NVDATA_SIZE =
        some content →
      ∀ (d' : Disk) (fd : ℕ), d'.files = d.files →
        d'.Opened fd (efs ++ str "/nv_data.bin") O_RDWR content →
          Q { starting firmware efs (enabledIn d.files efs) with m_nvdata := fd } d')
    (hbackup : ∀ content,
      accepted md5 d.files (efs ++ str "/nv_data.bin") (enabledIn d.files efs) NVDATA_SIZE = none →
      accepted md5 d.files (efs ++ str "/.nv_data.bak") (enabledIn d.files efs) NVDATA_SIZE =
        some content →
      ∀ (d' : Disk) (fd : ℕ), d'.files = d.files →
        d'.Opened fd (efs ++ str "/.nv_data.bak") O_RDWR content →
          Disk.wp F C Q ((starting firmware efs (enabledIn d.files efs)).recoverBackup md5 fd) d')
    (hcore : ∀ core,
      accepted md5 d.files (efs ++ str "/nv_data.bin") (enabledIn d.files efs) NVDATA_SIZE = none →
      accepted md5 d.files (efs ++ str "/.nv_data.bak") (enabledIn d.files efs) NVDATA_SIZE = none →
      accepted md5 d.files (efs ++ str "/.nv_core.bak") (enabledIn d.files efs) CORE_SIZE =
        some core →
      ∀ (d' : Disk) (fd : ℕ), d'.files = d.files →
        d'.Opened fd (efs ++ str "/.nv_core.bak") O_RDWR core →
          Disk.wp F C Q ((starting firmware efs (enabledIn d.files efs)).recoverCore md5 fd) d')
    (hdefault : recovered md5 d.files efs = none → ∀ d' : Disk, d'.files = d.files →
      Disk.wp F C Q ((starting firmware efs (enabledIn d.files efs)).loadDefault md5) d') :
    Disk.wp F C Q (construct md5 firmware efs) d := by
  unfold construct
  refine wp_seq (wp_readMarker hC fun d₁ hfiles₁ hframe₁ => ?_)
  have hC₁ : C d₁.files := by rwa [hfiles₁]
  refine wp_seq (wp_tryLoadNV hC₁ chunks_NVDATA ?_ ?_)
  · intro content hacc d₂ fd hfiles₂ _ _ hopen
    rw [hfiles₁] at hacc hfiles₂
    exact wp_return (by rwa [hfiles₂]) (hloaded content hacc d₂ fd hfiles₂ hopen)
  intro hbin d₂ hfiles₂ _
  rw [hfiles₁] at hbin hfiles₂
  have hC₂ : C d₂.files := by rwa [hfiles₂]
  refine wp_seq (wp_tryLoadNV hC₂ chunks_NVDATA ?_ ?_)
  · intro content hacc d₃ fd hfiles₃ _ _ hopen
    rw [hfiles₂] at hacc hfiles₃
    exact hbackup content hbin hacc d₃ fd hfiles₃ hopen
  intro hbak d₃ hfiles₃ _
  rw [hfiles₂] at hbak hfiles₃
  have hC₃ : C d₃.files := by rwa [hfiles₃]
  refine wp_seq (wp_tryLoadNV hC₃ chunks_CORE ?_ ?_)
  · intro core hacc d₄ fd hfiles₄ _ _ hopen
    rw [hfiles₃] at hacc hfiles₄
    exact hcore core hbin hbak hacc d₄ fd hfiles₄ hopen
  intro hnone d₄ hfiles₄ _
  rw [hfiles₃] at hnone hfiles₄
  exact hdefault (by simp [recovered, hbin, hbak, hnone]) d₄ hfiles₄

end FreeRil.AndroidFileSystem
