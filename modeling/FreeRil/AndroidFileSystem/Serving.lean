import FreeRil.AndroidFileSystem.NVRules

/-! An instance at work on its NV data, and what each of its calls does to it. -/
namespace FreeRil.AndroidFileSystem
open Disk

/-- The bytes named lie within the NV data. -/
def InRange (offset : Int32) (size : ℕ) : Prop :=
  0 ≤ offset.toInt ∧ offset.toInt + size ≤ NVDATA_SIZE

instance (offset : Int32) (size : ℕ) : Decidable (InRange offset size) :=
  inferInstanceAs (Decidable (_ ∧ _))

theorem toUInt32_toNat {offset : Int32} (h : 0 ≤ offset.toInt) :
    (offset.toUInt32.toNat : ℤ) = offset.toInt := by
  rw [← Int32.toNat_toBitVec, ← Int32.toInt_toBitVec] at *
  rw [BitVec.toInt_eq_toNat_cond] at *
  split_ifs at * <;> omega

theorem outOfRange_eq_false {offset : Int32} {size : ℕ} : outOfRange offset size = false ↔
    (offset.toUInt32.toNat + size) % 2 ^ 32 ≤ NVDATA_SIZE := by
  rw [outOfRange, decide_eq_false_iff_not, not_lt]

/-- The unsigned sum wraps only for offsets and sizes that the kernel refuses. -/
theorem inRange_iff {offset : Int32} {size : ℕ} :
    InRange offset size ↔
      outOfRange offset size = false ∧ 0 ≤ offset.toInt ∧ size ≤ TRANSFER_MAX := by
  have hlt : offset.toInt < 2 ^ 31 := Int32.toInt_lt offset
  simp only [InRange, outOfRange_eq_false, NVDATA_SIZE, TRANSFER_MAX]
  constructor
  · rintro ⟨hpos, hle⟩
    have heq := toUInt32_toNat hpos
    omega
  · rintro ⟨hle, hpos, hmax⟩
    have heq := toUInt32_toNat hpos
    omega

theorem overwrite_length {content data : Bytes} {position : ℕ}
    (h : position + data.length ≤ content.length) :
    (overwrite content position data).length = content.length := by
  simp only [overwrite, List.length_append, List.length_take, List.length_replicate,
    List.length_drop]
  omega

/-- The instance works on an open `nv_data.bin` of the right size, and agrees with the marker. -/
structure Serves (d : Disk) (fs : AndroidFileSystem) (efs content : Bytes) : Prop where
  efs_eq : fs.m_efs = efs
  opened : ∃ flags, flags &&& 3 ≠ O_WRONLY ∧ flags &&& 3 ≠ O_RDONLY ∧
    d.Opened fs.m_nvdata (efs ++ str "/nv_data.bin") flags content
  length_eq : content.length = NVDATA_SIZE
  enabled_eq : enabledIn d.files efs = fs.m_md5_enabled

/-- The digest that a start checks is the one of the NV data. -/
def Digested (md5 : Bytes → Vector UInt8 16) (d : Disk) (fs : AndroidFileSystem)
    (efs content : Bytes) : Prop :=
  fs.m_md5_enabled → d.files (efs ++ str "/nv_data.bin.md5") = some (calculateMD5 md5 content)

variable {md5 : Bytes → Vector UInt8 16} {F : Prop} {d d' : Disk} {fs : AndroidFileSystem}
  {efs content : Bytes}

/-- The next start loads what the instance serves if the digest is the right one. -/
theorem Serves.loads_iff (h : Serves d fs efs content) :
    Loads md5 d.files efs (efs ++ str "/nv_data.bin") NVDATA_SIZE content ↔
      Digested md5 d fs efs content := by
  obtain ⟨flags, -, -, hopen⟩ := h.opened
  rw [FreeRil.AndroidFileSystem.loads_iff chunks_NVDATA, accepted_eq_some, h.enabled_eq, name_append]
  exact ⟨fun hacc => hacc.2.2, fun hdigest => ⟨hopen.file, h.length_eq, hdigest⟩⟩

theorem Serves.found_iff (h : Serves d fs efs content) :
    (∃ content, d.openContent fs.m_nvdata = some content ∧ content.length = NVDATA_SIZE ∧
      Loads md5 d.files efs (efs ++ str "/nv_data.bin") NVDATA_SIZE content) ↔
        Digested md5 d fs efs content := by
  obtain ⟨flags, -, -, hopen⟩ := h.opened
  constructor
  · rintro ⟨served, hserved, -, hloads⟩
    obtain rfl : content = served := Option.some.inj (hopen.openContent_eq.symm.trans hserved)
    exact h.loads_iff.mp hloads
  · intro hdigest
    exact ⟨content, hopen.openContent_eq, h.length_eq, h.loads_iff.mpr hdigest⟩

theorem Serves.frame (h : Serves d fs efs content) (hframe : Frame (· < d.next) d d')
    (hdata : d'.files (efs ++ str "/nv_data.bin") = d.files (efs ++ str "/nv_data.bin"))
    (hstate : d'.files (efs ++ str "/.nv_state") = d.files (efs ++ str "/.nv_state")) :
    Serves d' fs efs content := by
  obtain ⟨flags, hread, hwrite, hopen⟩ := h.opened
  refine ⟨h.efs_eq, ⟨flags, hread, hwrite, ?_⟩, h.length_eq, ?_⟩
  · exact hopen.frame hframe hopen.lt (hdata.trans hopen.file)
  · rw [← h.enabled_eq, enabledIn, enabledIn, hstate]

/-- Writing the marker enables the digests. -/
theorem marked_enabled {files : Bytes → Option Bytes} {md5_enabled : Bool}
    (h : enabledIn files efs = md5_enabled) :
    enabledIn (marked efs md5_enabled (digested md5 efs content files)) efs = true := by
  cases md5_enabled with
  | false =>
    rw [enabledIn, marked, if_neg Bool.false_ne_true, Function.update_self]
    decide
  | true =>
    rw [marked, if_pos rfl]
    rw [enabledIn] at h ⊢
    rwa [digested_name _ _ _ _ (by decide)]

theorem marked_digest (files : Bytes → Option Bytes) (md5_enabled : Bool) :
    marked efs md5_enabled (digested md5 efs content files) (efs ++ str "/nv_data.bin.md5") =
      some (calculateMD5 md5 content) := by
  rw [marked_name _ _ _ (by decide), digested, Function.update_self]

theorem Serves.wp_updateMD5 (h : Serves d fs efs content) {Q : AndroidFileSystem → Disk → Prop}
    (hQ : ∀ d' : Disk, Serves d' { fs with m_md5_enabled := true } efs content →
      Digested md5 d' { fs with m_md5_enabled := true } efs content →
        Q { fs with m_md5_enabled := true } d') :
    Disk.wp F (fun _ => True) Q (fs.updateMD5 md5) d := by
  obtain ⟨flags, hread, hwrite, hopen⟩ := h.opened
  refine FreeRil.AndroidFileSystem.wp_updateMD5 h.efs_eq hopen hread h.length_eq trivial
    (fun _ => trivial) (fun _ _ => trivial) fun d₁ hfiles₁ hframe₁ => hQ d₁ ?_ fun _ => ?_
  · refine ⟨h.efs_eq, ⟨flags, hread, hwrite, hopen.frame hframe₁ hopen.lt ?_⟩, h.length_eq, ?_⟩
    · rw [hfiles₁, marked_name _ _ _ (by decide), digested_name _ _ _ _ (by decide)]
      exact hopen.file
    · rw [hfiles₁, marked_enabled h.enabled_eq]
  · rw [hfiles₁, marked_digest]

/-- The files of a full or partial backup. -/
def backedUp (md5 : Bytes → Vector UInt8 16) (efs content digest : Bytes) (full : Bool)
    (files : Bytes → Option Bytes) : Bytes → Option Bytes :=
  let files := Function.update (Function.update files (efs ++ str "/.nv_data.bak") (some content))
    (efs ++ str "/.nv_data.bak.md5") (some digest)
  if full then
    Function.update (Function.update files (efs ++ str "/.nv_core.bak")
      (some (content.take CORE_SIZE)))
      (efs ++ str "/.nv_core.bak.md5") (some (calculateMD5 md5 (content.take CORE_SIZE)))
  else files

theorem backedUp_name (digest : Bytes) (full : Bool) (files : Bytes → Option Bytes) {name : String}
    (h : name ∉ ["/.nv_data.bak", "/.nv_data.bak.md5", "/.nv_core.bak", "/.nv_core.bak.md5"]) :
    backedUp md5 efs content digest full files (efs ++ str name) = files (efs ++ str name) := by
  simp only [List.mem_cons, List.not_mem_nil, or_false, not_or] at h
  cases full <;> simp [backedUp, update_name, h]

namespace Serves

theorem wp_readNVData (h : Serves d fs efs content) {offset : Int32} {data : Bytes}
    {Q : ℤ × Bytes → Disk → Prop} (hQ : ∀ result, Q result d) :
    Disk.wp F (fun _ => True) Q (fs.readNVData offset data) d := by
  obtain ⟨flags, hread, hwrite, hopen⟩ := h.opened
  unfold readNVData
  split_ifs
  · exact wp_return trivial (hQ _)
  · by_cases hneg : offset.toInt < 0
    · exact wp_pread_rejected hopen hread hneg (wp_return trivial (hQ _))
    · obtain ⟨position, hposition⟩ := Int.eq_ofNat_of_zero_le (not_lt.mp hneg)
      rw [hposition]
      exact wp_pread hopen hread (wp_return trivial (hQ _))

/-- A read that is not too long for a transfer finds what is served, or is refused. -/
theorem wp_readNVData_exact (h : Serves d fs efs content) {offset : Int32} {data : Bytes}
    {Q : ℤ × Bytes → Disk → Prop} (hmax : data.length ≤ TRANSFER_MAX)
    (hread : InRange offset data.length →
      Q (0, (content.drop offset.toInt.toNat).take data.length) d)
    (hrefused : ¬ InRange offset data.length → ∀ errno : ℕ, errno ≠ 0 → Q (-errno, data) d) :
    Disk.wp F (fun _ => True) Q (fs.readNVData offset data) d := by
  obtain ⟨flags, hreadable, hwrite, hopen⟩ := h.opened
  unfold readNVData
  by_cases hout : outOfRange offset data.length
  · rw [if_pos hout]
    refine wp_return trivial (hrefused (fun hrange => ?_) ERANGE (by decide))
    simp [(inRange_iff.mp hrange).1] at hout
  · rw [if_neg hout]
    by_cases hneg : offset.toInt < 0
    · exact wp_pread_rejected hopen hreadable hneg
        (wp_return trivial (hrefused (fun hrange => hneg.not_ge hrange.1) EINVAL (by decide)))
    · have hrange : InRange offset data.length :=
        inRange_iff.mpr ⟨by simpa using hout, not_lt.mp hneg, hmax⟩
      obtain ⟨position, hposition⟩ := Int.eq_ofNat_of_zero_le (not_lt.mp hneg)
      have hlen : ((content.drop position).take data.length).length = data.length := by
        have hlen := h.length_eq
        have hle := hrange.2
        rw [List.length_take, List.length_drop]
        omega
      have hfound := hread hrange
      rw [hposition] at hfound ⊢
      refine wp_pread hopen hreadable (wp_return trivial ?_)
      rw [hlen, List.drop_length, List.append_nil]
      exact hfound

/-- The instance serves what has been written to `nv_data.bin`. -/
theorem written (h : Serves d fs efs content) {offset : Int32} {data : Bytes}
    (hrange : InRange offset data.length)
    (hfiles : d'.files = Function.update d.files (efs ++ str "/nv_data.bin")
      (some (overwrite content offset.toInt.toNat data)))
    (hframe : Frame (fun _ => True) d d') :
    Serves d' fs efs (overwrite content offset.toInt.toNat data) := by
  obtain ⟨flags, hread, hwrite, hopen⟩ := h.opened
  refine ⟨h.efs_eq, ⟨flags, hread, hwrite, ?_⟩, ?_, ?_⟩
  · obtain ⟨position, hhandle⟩ := hopen.handle
    exact ⟨⟨position, (hframe.handles _ trivial).trans hhandle⟩,
      by rw [hfiles, Function.update_self], hopen.lt.trans_le hframe.next_le⟩
  · have hlen := h.length_eq
    obtain ⟨hpos, hle⟩ := hrange
    rw [overwrite_length (by omega), hlen]
  · rw [← h.enabled_eq, enabledIn, enabledIn, hfiles, update_other (by decide)]

/-- A write takes effect and brings the digest up to date, or changes nothing. -/
theorem wp_writeNVData (h : Serves d fs efs content) {offset : Int32} {data : Bytes}
    {Q : AndroidFileSystem × ℤ → Disk → Prop}
    (hwritten : InRange offset data.length → ∀ d' : Disk,
      Serves d' { fs with m_md5_enabled := true } efs
        (overwrite content offset.toInt.toNat data) →
      Digested md5 d' { fs with m_md5_enabled := true } efs
        (overwrite content offset.toInt.toNat data) →
        Q ({ fs with m_md5_enabled := true }, 0) d')
    (hrefused : ¬ InRange offset data.length → ∀ errno : ℕ, errno ≠ 0 → Q (fs, -errno) d) :
    Disk.wp F (fun _ => True) Q (fs.writeNVData md5 offset data) d := by
  obtain ⟨flags, hread, hwrite, hopen⟩ := h.opened
  unfold writeNVData
  by_cases hout : outOfRange offset data.length
  · rw [if_pos hout]
    refine wp_return trivial (hrefused (fun hrange => ?_) ERANGE (by decide))
    simp [(inRange_iff.mp hrange).1] at hout
  · rw [if_neg hout]
    by_cases hrange : InRange offset data.length
    · obtain ⟨-, hpos, hmax⟩ := inRange_iff.mp hrange
      refine wp_pwrite hopen hwrite hpos hmax trivial fun d₁ hfiles₁ hframe₁ => ?_
      have hserves₁ := h.written hrange hfiles₁ hframe₁
      refine wp_seq (hserves₁.wp_updateMD5 fun d₂ hserves₂ hdigest₂ => ?_)
      exact wp_return trivial (hwritten hrange d₂ hserves₂ hdigest₂)
    · have hinvalid : offset.toInt < 0 ∨ TRANSFER_MAX < data.length := by
        by_contra hvalid
        rw [not_or, not_lt, not_lt] at hvalid
        exact hrange (inRange_iff.mpr ⟨by simpa using hout, hvalid⟩)
      exact wp_pwrite_rejected hopen hwrite hinvalid
        (wp_return trivial (hrefused hrange EINVAL (by decide)))

/-- The tail of `backupNVData`, for the first megabyte. -/
theorem wp_backupCore (h : Serves d fs efs content) {Q : Unit → Disk → Prop}
    (hQ : ∀ d' : Disk, d'.files = Function.update (Function.update d.files
        (efs ++ str "/.nv_core.bak") (some (content.take CORE_SIZE)))
        (efs ++ str "/.nv_core.bak.md5") (some (calculateMD5 md5 (content.take CORE_SIZE))) →
      Frame (· < d.next) d d' → Q () d') :
    Disk.wp F (fun _ => True) Q (fs.backupCore md5) d := by
  obtain ⟨flags, hread, hwrite, hopen⟩ := h.opened
  have hefs := h.efs_eq
  subst hefs
  have hlen : CORE_SIZE ≤ content.length := h.length_eq ▸ CORE_le_NVDATA
  unfold backupCore
  refine wp_seq (wp_createOrPanic (by decide) (by decide) trivial trivial
    fun d₁ backup hfiles₁ hframe₁ hle hend₁ => ?_)
  have hopen₁ := hopen.frame hframe₁ hopen.lt
    (by rw [hfiles₁, update_other (by decide)]; exact hopen.file)
  refine wp_seq (wp_sendfileOrPanic hopen₁ hread hend₁ (by decide) hlen trivial (fun _ => trivial)
    fun d₂ hfiles₂ hframe₂ hend₂ => ?_)
  rw [List.nil_append, hfiles₁, Function.update_idem] at hfiles₂
  rw [List.nil_append] at hend₂
  refine wp_seq (wp_digestOrPanic hend₂.opened (by decide) trivial chunks_CORE
    (by simpa using hlen) ?_)
  refine wp_fsync hend₂.opened (wp_close hend₂.opened trivial fun d₃ hfiles₃ hframe₃ => ?_)
  have hother : ∀ n, n < d.next → n ≠ backup := fun n hn => (hn.trans_le hle).ne
  have hframe : Frame (· < d.next) d d₃ :=
    (hframe₁.trans (hframe₂.mono hother)).trans (hframe₃.mono hother)
  refine wp_put trivial (fun _ => trivial) fun d₄ hfiles₄ hframe₄ => hQ d₄ ?_ ?_
  · rw [hfiles₄, hfiles₃, hfiles₂]
  · exact hframe.trans (hframe₄.mono fun n hn => hn.trans_le hframe.next_le)

/-- A backup with its digest at hand. -/
theorem wp_backupNVData (h : Serves d fs efs content) {full : Bool} {digest : Bytes}
    (henabled : fs.m_md5_enabled = true)
    (hdigest : d.files (efs ++ str "/nv_data.bin.md5") = some digest)
    {Q : AndroidFileSystem → Disk → Prop}
    (hQ : ∀ d' : Disk, d'.files = backedUp md5 efs content digest full d.files →
      Frame (· < d.next) d d' → Q fs d') :
    Disk.wp F (fun _ => True) Q (fs.backupNVData md5 full) d := by
  have hefs := h.efs_eq
  subst hefs
  unfold backupNVData
  rw [if_pos henabled]
  refine wp_seq (wp_return trivial (wp_seq (wp_get hdigest trivial fun d₁ hfiles₁ hframe₁ => ?_)))
  have hserves₁ := h.frame hframe₁ (by rw [hfiles₁]) (by rw [hfiles₁])
  refine wp_seq (wp_createOrPanic (by decide) (by decide) trivial trivial
    fun d₂ backup hfiles₂ hframe₂ hle hend₂ => ?_)
  have hserves₂ := hserves₁.frame hframe₂ (by rw [hfiles₂, update_other (by decide)])
    (by rw [hfiles₂, update_other (by decide)])
  obtain ⟨flags, hread, -, hopen₂⟩ := hserves₂.opened
  refine wp_seq (wp_sendfileOrPanic hopen₂ hread hend₂ (by decide) h.length_eq.ge trivial
    (fun _ => trivial) fun d₃ hfiles₃ hframe₃ hend₃ => ?_)
  rw [List.take_of_length_le h.length_eq.le, List.nil_append, hfiles₂, Function.update_idem,
    hfiles₁] at hfiles₃
  refine wp_fsync hend₃.opened (wp_close hend₃.opened trivial fun d₄ hfiles₄ hframe₄ => ?_)
  have hother : ∀ n, n < d₁.next → n ≠ backup := fun n hn => (hn.trans_le hle).ne
  have hframe : Frame (· < d.next) d d₄ := by
    refine hframe₁.trans (Frame.mono ?_ fun n hn => hn.trans_le hframe₁.next_le)
    exact (hframe₂.trans (hframe₃.mono hother)).trans (hframe₄.mono hother)
  refine wp_seq (wp_put trivial (fun _ => trivial) fun d₅ hfiles₅ hframe₅ => ?_)
  rw [hfiles₄, hfiles₃] at hfiles₅
  have hframe' : Frame (· < d.next) d d₅ :=
    hframe.trans (hframe₅.mono fun n hn => hn.trans_le hframe.next_le)
  cases full with
  | false => exact wp_return trivial (hQ d₅ hfiles₅ hframe')
  | true =>
    have hserves₅ : Serves d₅ fs fs.m_efs content := by
      refine h.frame hframe' ?_ ?_
      · rw [hfiles₅, update_other (by decide), update_other (by decide)]
      · rw [hfiles₅, update_other (by decide), update_other (by decide)]
    refine wp_seq (hserves₅.wp_backupCore fun d₆ hfiles₆ hframe₆ => wp_return trivial (hQ d₆ ?_ ?_))
    · rw [hfiles₆, hfiles₅]
      rfl
    · exact hframe'.trans (hframe₆.mono fun n hn => hn.trans_le hframe'.next_le)

/-- A backup without digests makes one first. -/
theorem wp_backupNVData_disabled (h : Serves d fs efs content) {full : Bool}
    (hdisabled : fs.m_md5_enabled = false) {Q : AndroidFileSystem → Disk → Prop}
    (hQ : ∀ d' : Disk, Serves d' { fs with m_md5_enabled := true } efs content →
      Digested md5 d' { fs with m_md5_enabled := true } efs content →
      Disk.wp F (fun _ => True) Q
        (backupNVData md5 { fs with m_md5_enabled := true } full) d') :
    Disk.wp F (fun _ => True) Q (fs.backupNVData md5 full) d := by
  unfold backupNVData at hQ ⊢
  rw [if_neg (by simp [hdisabled])]
  refine wp_seq (h.wp_updateMD5 fun d₁ hserves₁ hdigest₁ => ?_)
  have hnext := hQ d₁ hserves₁ hdigest₁
  rw [if_pos rfl] at hnext
  exact hnext

/-- A backup with digests keeps what is served and its digest, or finds no digest. -/
theorem wp_backupNVData_enabled (h : Serves d fs efs content) {full : Bool}
    (henabled : fs.m_md5_enabled = true) (hF : ¬ Digested md5 d fs efs content → F)
    {Q : AndroidFileSystem → Disk → Prop}
    (hQ : ∀ d' : Disk, Serves d' fs efs content →
      (Digested md5 d' fs efs content ↔ Digested md5 d fs efs content) → Q fs d') :
    Disk.wp F (fun _ => True) Q (fs.backupNVData md5 full) d := by
  cases hdigest : d.files (efs ++ str "/nv_data.bin.md5") with
  | none =>
    have hmissing : ¬ Digested md5 d fs efs content := by simp [Digested, henabled, hdigest]
    rw [← h.efs_eq] at hdigest
    unfold backupNVData
    rw [if_pos henabled]
    exact wp_seq (wp_return trivial (wp_seq (wp_get_missing hdigest (hF hmissing) trivial)))
  | some digest =>
    refine h.wp_backupNVData henabled hdigest fun d₁ hfiles₁ hframe₁ => hQ d₁ ?_ ?_
    · exact h.frame hframe₁ (by rw [hfiles₁, backedUp_name _ _ _ (by decide)])
        (by rw [hfiles₁, backedUp_name _ _ _ (by decide)])
    · rw [Digested, Digested, hfiles₁, backedUp_name _ _ _ (by decide)]

end Serves

/-- An image of the firmware partition, if it is there in full. -/
def image (files : Bytes → Option Bytes) (firmware : Bytes) (type : FirmwareType) : Option Bytes :=
  ((files firmware).map fun partition => (partition.drop type.location.1).take type.location.2).filter
    fun data => data.length = type.location.2

theorem wp_getFirmware {type : FirmwareType} (hF : image d.files fs.m_firmware type = none → F)
    {Q : Bytes → Disk → Prop}
    (hQ : ∀ (d' : Disk) (data : Bytes), image d.files fs.m_firmware type = some data →
      d'.files = d.files → Frame (· < d.next) d d' → Q data d') :
    Disk.wp F (fun _ => True) Q (fs.getFirmware type) d := by
  unfold getFirmware
  unfold image at hF hQ
  cases hfile : d.files fs.m_firmware with
  | none => exact wp_seq (wp_openOrPanic_missing hfile (by decide) (hF (by simp [hfile])) trivial)
  | some partition =>
    rw [hfile, Option.map_some] at hF hQ
    refine wp_seq (wp_openOrPanic hfile (by decide) trivial
      fun d₁ fd hfiles₁ hframe₁ hle hopen₁ => ?_)
    refine wp_seq (wp_pread hopen₁ (by decide) (wp_return trivial ?_))
    split_ifs with hshort
    · exact wp_panic (hF (Option.filter_eq_none_iff.mpr (by simpa using hshort))) trivial "Short read"
    · refine wp_seq (wp_close hopen₁ trivial fun d₂ hfiles₂ hframe₂ => wp_return trivial ?_)
      refine wp_return trivial (hQ d₂ _ ?_ (hfiles₂.trans hfiles₁) ?_)
      · exact Option.filter_eq_some_iff.mpr ⟨rfl, by simpa using hshort⟩
      · exact hframe₁.trans (hframe₂.mono fun n hn => (hn.trans_le hle).ne)

/-- The blank NV data, which is read once `nv_data.bin` has been emptied. -/
def blank (files : Bytes → Option Bytes) (firmware efs : Bytes) : Option Bytes :=
  image (Function.update files (efs ++ str "/nv_data.bin") (some [])) firmware .DefaultNVData

/-- The blank NV data is served with its digest. -/
theorem wp_loadDefault (hefs : fs.m_efs = efs)
    (henabled : enabledIn d.files efs = fs.m_md5_enabled)
    (hF : blank d.files fs.m_firmware efs = none → F) {Q : AndroidFileSystem → Disk → Prop}
    (hQ : ∀ (fs' : AndroidFileSystem) (d' : Disk) (content : Bytes),
      blank d.files fs.m_firmware efs = some content → Serves d' fs' efs content →
      Digested md5 d' fs' efs content → Q fs' d') :
    Disk.wp F (fun _ => True) Q (fs.loadDefault md5) d := by
  subst hefs
  unfold loadDefault
  refine wp_seq (wp_createOrPanic (by decide) (by decide) trivial trivial
    fun d₁ nvdata hfiles₁ hframe₁ hle hend₁ => ?_)
  unfold blank at hF hQ
  rw [← hfiles₁] at hF hQ
  refine wp_seq (wp_getFirmware hF fun d₂ data himage hfiles₂ hframe₂ => ?_)
  have hend₂ := hend₁.frame hframe₂ hend₁.lt (by rw [hfiles₂]; exact hend₁.file)
  refine wp_write hend₂ (by decide) trivial (fun _ => trivial) fun d₃ hfiles₃ hframe₃ hend₃ => ?_
  have hsize : data.length = NVDATA_SIZE :=
    of_decide_eq_true (Option.filter_eq_some_iff.mp himage).2
  rw [expectOrPanic, if_neg (by simp [hsize])]
  have hserves₃ : Serves d₃ { fs with m_nvdata := nvdata } fs.m_efs data := by
    refine ⟨rfl, ⟨REWRITE, by decide, by decide, hend₃.opened⟩, hsize, ?_⟩
    rw [← henabled, enabledIn, enabledIn, hfiles₃, hfiles₂, hfiles₁, update_name,
      if_neg (by decide), update_other (by decide)]
  refine wp_seq (wp_return trivial (wp_seq (hserves₃.wp_updateMD5
    fun d₄ hserves₄ hdigest₄ => ?_)))
  refine hserves₄.wp_backupNVData_enabled rfl (absurd hdigest₄) fun d₅ hserves₅ hdigest₅ => ?_
  exact hQ _ d₅ data himage hserves₅ (hdigest₅.mpr hdigest₄)

/-- The first recovery replaces the digest. -/
theorem wp_recoverBackup_serves {backup : ℕ} (hefs : fs.m_efs = efs)
    (henabled : enabledIn d.files efs = fs.m_md5_enabled)
    (h : d.Opened backup (efs ++ str "/.nv_data.bak") O_RDWR content)
    (hlen : content.length = NVDATA_SIZE) :
    Disk.wp F (fun _ => True)
      (fun fs' d' => Serves d' fs' efs content ∧ Digested md5 d' fs' efs content)
      (fs.recoverBackup md5 backup) d := by
  refine wp_recoverBackup hefs h hlen trivial (fun _ => trivial) (fun _ => trivial)
    (fun _ _ => trivial) fun d₁ nvdata hfiles₁ hopen₁ => ⟨?_, fun _ => ?_⟩
  · refine ⟨hefs, ⟨_, by decide, by decide, hopen₁⟩, hlen, ?_⟩
    rw [hfiles₁]
    apply marked_enabled
    rw [← henabled, enabledIn, enabledIn, update_other (by decide)]
  · rw [hfiles₁, marked_digest]

/-- The second does not. -/
theorem wp_recoverCore_serves {source : ℕ} {core : Bytes} (hefs : fs.m_efs = efs)
    (henabled : enabledIn d.files efs = fs.m_md5_enabled)
    (h : d.Opened source (efs ++ str "/.nv_core.bak") O_RDWR core)
    (hlen : core.length = CORE_SIZE) :
    Disk.wp F (fun _ => True)
      (fun fs' d' => Serves d' fs' efs (padCore core) ∧ (Digested md5 d' fs' efs (padCore core) ↔
        Digested md5 d fs efs (padCore core)))
      (fs.recoverCore md5 source) d := by
  refine wp_recoverCore hefs h hlen trivial trivial (fun _ _ _ _ => trivial) (fun _ => trivial)
    (fun _ => trivial) fun d₁ nvdata hfiles₁ hopen₁ => ⟨?_, ?_⟩
  · refine ⟨hefs, ⟨_, by decide, by decide, hopen₁⟩, padCore_length hlen, ?_⟩
    rw [← henabled, enabledIn, enabledIn, hfiles₁, rebuilt_name _ _ _ _ (by decide)]
  · rw [Digested, Digested, hfiles₁, rebuilt_name _ _ _ _ (by decide)]

/-- The constructor falls back to the secondary backup, and the digest of `nv_data.bin` that it
finds there, and does not replace, is not the one of what it recovers. -/
def DigestMissed (md5 : Bytes → Vector UInt8 16) (files : Bytes → Option Bytes) (efs : Bytes) :
    Prop :=
  enabledIn files efs = true ∧
  accepted md5 files (efs ++ str "/nv_data.bin") (enabledIn files efs) NVDATA_SIZE = none ∧
  accepted md5 files (efs ++ str "/.nv_data.bak") (enabledIn files efs) NVDATA_SIZE = none ∧
  ∃ core, accepted md5 files (efs ++ str "/.nv_core.bak") (enabledIn files efs) CORE_SIZE =
      some core ∧
    files (efs ++ str "/nv_data.bin.md5") ≠ some (calculateMD5 md5 (padCore core))

/-- What a start serves has its digest, save in one case. -/
theorem wp_construct_serves {firmware : Bytes} (hF : recovered md5 d.files efs = none → F) :
    Disk.wp F (fun _ => True)
      (fun fs d' => ∃ content, Serves d' fs efs content ∧
        (Digested md5 d' fs efs content ↔ ¬ DigestMissed md5 d.files efs))
      (construct md5 firmware efs) d := by
  have hefs : (starting firmware efs (enabledIn d.files efs)).m_efs = efs := rfl
  have henabled : (starting firmware efs (enabledIn d.files efs)).m_md5_enabled =
      enabledIn d.files efs := rfl
  apply wp_construct trivial
  · intro content hbin d₁ fd hfiles₁ hopen₁
    obtain ⟨-, hlen, hdigest⟩ := accepted_eq_some.mp hbin
    rw [name_append] at hdigest
    refine ⟨content, ⟨hefs, ⟨_, by decide, by decide, hopen₁⟩, hlen, ?_⟩, iff_of_true ?_ ?_⟩
    · rw [hfiles₁]
      rfl
    · intro henabled
      rw [hfiles₁]
      exact hdigest henabled
    · rintro ⟨-, hnone, -⟩
      rw [hbin] at hnone
      contradiction
  · intro content hbin hbak d₁ fd hfiles₁ hopen₁
    have hlen := (accepted_eq_some.mp hbak).2.1
    refine Program.wp_mono (wp_recoverBackup_serves hefs (by rw [hfiles₁, henabled]) hopen₁ hlen) id
      (fun _ => id) fun fs' d' hend => ⟨content, hend.1, iff_of_true hend.2 ?_⟩
    rintro ⟨-, -, hnone, -⟩
    rw [hbak] at hnone
    contradiction
  · intro core hbin hbak hcore d₁ fd hfiles₁ hopen₁
    have hlen := (accepted_eq_some.mp hcore).2.1
    refine Program.wp_mono (wp_recoverCore_serves hefs (by rw [hfiles₁, henabled]) hopen₁ hlen) id
      (fun _ => id) fun fs' d' hend => ⟨padCore core, hend.1, hend.2.trans ?_⟩
    rw [Digested, henabled, hfiles₁]
    constructor
    · rintro hdigest ⟨henabled, -, -, core', hcore', hmissed⟩
      obtain rfl : core = core' := Option.some.inj (hcore.symm.trans hcore')
      exact hmissed (hdigest henabled)
    · intro hfound henabled
      by_contra hmissed
      exact hfound ⟨henabled, hbin, hbak, core, hcore, hmissed⟩
  · intro hnone d₁ hfiles₁
    refine wp_loadDefault hefs (by rw [hfiles₁, henabled]) (fun _ => hF hnone)
      fun fs₂ d₂ content _ hserves₂ hdigest₂ => ⟨content, hserves₂, iff_of_true hdigest₂ ?_⟩
    rintro ⟨-, hbin, hbak, core, hcore, -⟩
    simp [recovered, hbin, hbak, hcore] at hnone

end FreeRil.AndroidFileSystem
