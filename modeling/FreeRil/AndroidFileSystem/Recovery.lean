import FreeRil.AndroidFileSystem.NVData
import FreeRil.Disk.Rules

/-! What a start makes of the files it finds, and the rules for the operations that load and
check NV data. -/
namespace FreeRil.AndroidFileSystem

variable (md5 : Bytes → Vector UInt8 16) (files : Bytes → Option Bytes)

/-- Whether the marker found enables the digests. -/
def enabledIn (efs : Bytes) : Bool :=
  match files (efs ++ str "/.nv_state") with
  | none => false
  | some content => content.length ≠ 1 ∨ content.head? ≠ some 48

/-- The content of a file that `tryLoadNV` accepts. -/
def accepted (filename : Bytes) (md5_enabled : Bool) (size : ℕ) : Option Bytes :=
  (files filename).filter fun content => content.length = size ∧
    (md5_enabled → files (filename ++ str ".md5") = some (calculateMD5 md5 content))

/-- The secondary backup, padded to the size of the NV data. -/
def padCore (core : Bytes) : Bytes := core ++ List.replicate (NVDATA_SIZE - CORE_SIZE) 0xFF

/-- The NV data a start comes up with, unless it falls back to the blank one. -/
def recovered (efs : Bytes) : Option Bytes :=
  let enabled := enabledIn files efs
  (accepted md5 files (efs ++ str "/nv_data.bin") enabled NVDATA_SIZE).or
    ((accepted md5 files (efs ++ str "/.nv_data.bak") enabled NVDATA_SIZE).or
      ((accepted md5 files (efs ++ str "/.nv_core.bak") enabled CORE_SIZE).map padCore))

variable {md5 files} {efs filename content : Bytes} {md5_enabled : Bool} {size : ℕ}

theorem accepted_eq_some : accepted md5 files filename md5_enabled size = some content ↔
    files filename = some content ∧ content.length = size ∧
      (md5_enabled → files (filename ++ str ".md5") = some (calculateMD5 md5 content)) := by
  cases md5_enabled <;> simp [accepted, Option.filter_eq_some_iff]

/-- A file that is there but not accepted is of another size or has not its digest. -/
theorem accepted_eq_none (hfile : files filename = some content) :
    accepted md5 files filename md5_enabled size = none ↔ ¬ (content.length = size ∧
      (md5_enabled → files (filename ++ str ".md5") = some (calculateMD5 md5 content))) := by
  rw [accepted, hfile]
  simp [Option.filter]

theorem binaryToHex_length (data : Bytes) : (binaryToHex data).length = 2 * data.length := by
  induction data with
  | nil => rfl
  | cons b data ih =>
    rw [binaryToHex] at ih ⊢
    simp only [List.flatMap_cons, List.length_append, ih, List.length_cons, List.length_nil]
    omega

@[simp] theorem calculateMD5_length (md5 : Bytes → Vector UInt8 16) (data : Bytes) :
    (calculateMD5 md5 data).length = 32 := by
  simp [calculateMD5, binaryToHex_length]

section
open Disk
variable {F : Prop} {C : (Bytes → Option Bytes) → Prop} {d : Disk} {fd : ℕ} {path : Bytes}
  {flags : UInt32}

/-- The chunks read are the bytes of the file, one after the other. -/
theorem wp_updateFileMD5 (h : d.Opened fd path flags content) (hflags : flags &&& 3 ≠ O_WRONLY)
    (hC : C d.files) {chunks i : ℕ} {ctx : Bytes} {Q : Option Bytes → Disk → Prop}
    (hQ : Q (some (ctx ++ (content.drop i).take (chunks * 16384))) d) :
    Disk.wp F C Q (updateFileMD5 fd chunks i ctx) d := by
  induction chunks generalizing i ctx with
  | zero => exact wp_return hC (by simpa using hQ)
  | succ chunks ih =>
    refine wp_pread h hflags (ih ?_)
    have hsplit : (content.drop i).take ((chunks + 1) * 16384) =
        (content.drop i).take 16384 ++ (content.drop (i + 16384)).take (chunks * 16384) := by
      rw [show (chunks + 1) * 16384 = 16384 + chunks * 16384 by ring, List.take_add, List.drop_drop]
    rwa [hsplit, ← List.append_assoc] at hQ

theorem wp_calculateFileMD5 (h : d.Opened fd path flags content) (hflags : flags &&& 3 ≠ O_WRONLY)
    (hC : C d.files) (hsize : 16384 ∣ size) {Q : Option Bytes → Disk → Prop}
    (hQ : Q (some (calculateMD5 md5 (content.take size))) d) :
    Disk.wp F C Q (calculateFileMD5 md5 fd 0 size) d := by
  obtain ⟨chunks, rfl⟩ := hsize
  refine wp_seq (wp_updateFileMD5 h hflags hC (wp_return hC ?_))
  have hchunks : (16384 * chunks + 16383) / 16384 * 16384 = 16384 * chunks := by omega
  rw [hchunks]
  exact hQ

theorem wp_digestOrPanic (h : d.Opened fd path flags content) (hflags : flags &&& 3 ≠ O_WRONLY)
    (hC : C d.files) (hsize : 16384 ∣ size) (hlen : content.length = size)
    {Q : Bytes → Disk → Prop} (hQ : Q (calculateMD5 md5 content) d) :
    Disk.wp F C Q (digestOrPanic md5 fd size) d := by
  refine wp_seq (wp_calculateFileMD5 h hflags hC hsize (wp_return hC ?_))
  rwa [List.take_of_length_le hlen.le]

theorem wp_closeRejected (h : d.Opened fd path flags content) (hC : C d.files)
    {Q : Option ℕ → Disk → Prop}
    (hQ : ∀ d' : Disk, d'.files = d.files → Frame (· ≠ fd) d d' → Q none d') :
    Disk.wp F C Q (closeRejected fd) d :=
  wp_close h hC fun d' hfiles hframe => wp_return (by rwa [hfiles]) (hQ d' hfiles hframe)

theorem wp_checkDigest (h : d.Opened fd filename O_RDWR content) (hC : C d.files)
    (hsize : 16384 ∣ size) (hlen : content.length = size) {Q : Option ℕ → Disk → Prop}
    (hsome : d.files (filename ++ str ".md5") = some (calculateMD5 md5 content) →
      ∀ d' : Disk, d'.files = d.files → Frame (· < d.next) d d' → Q (some fd) d')
    (hnone : d.files (filename ++ str ".md5") ≠ some (calculateMD5 md5 content) →
      ∀ d' : Disk, d'.files = d.files → Frame (· < fd) d d' → Q none d') :
    Disk.wp F C Q (checkDigest md5 filename fd size) d := by
  have hbelow : ∀ n, n < fd → n ≠ fd := fun n hn => hn.ne
  unfold checkDigest
  cases hdigest : d.files (filename ++ str ".md5") with
  | none =>
    refine wp_access_missing hdigest (wp_closeRejected h hC fun d₁ hfiles₁ hframe₁ => ?_)
    exact hnone (by simp [hdigest]) d₁ hfiles₁ (hframe₁.mono hbelow)
  | some digest =>
    refine wp_access hdigest (wp_seq (wp_get hdigest hC fun d₁ hfiles₁ hframe₁ => ?_))
    have hC₁ : C d₁.files := by rwa [hfiles₁]
    have hopen₁ := h.frame hframe₁ h.lt (by rw [hfiles₁]; exact h.file)
    refine wp_seq (wp_calculateFileMD5 hopen₁ (by decide) hC₁ hsize ?_)
    rw [List.take_of_length_le hlen.le]
    by_cases hmatch : digest = calculateMD5 md5 content
    · have hlen₁ : digest.length = 32 := by rw [hmatch, calculateMD5_length]
      have hkeep : ¬ (digest.length ≠ 32 ∨ digest.take 32 ≠ calculateMD5 md5 content) := by
        rw [List.take_of_length_le hlen₁.le]
        simp [hmatch]
      simp only [if_neg hkeep]
      exact wp_return hC₁ (hsome (by rw [hdigest, hmatch]) d₁ hfiles₁ hframe₁)
    · have hreject : digest.length ≠ 32 ∨ digest.take 32 ≠ calculateMD5 md5 content := by
        by_contra hboth
        rw [not_or, not_not, not_not] at hboth
        rw [List.take_of_length_le hboth.1.le] at hboth
        exact hmatch hboth.2
      simp only [if_pos hreject]
      refine wp_closeRejected hopen₁ hC₁ fun d₂ hfiles₂ hframe₂ => ?_
      refine hnone (by simpa [hdigest] using hmatch) d₂ (hfiles₂.trans hfiles₁) ?_
      exact (hframe₁.mono fun n hn => hn.trans h.lt).trans (hframe₂.mono hbelow)

/-- `tryLoadNV` opens what it accepts and changes no file. -/
theorem wp_tryLoadNV (hC : C d.files) (hsize : 16384 ∣ size) {Q : Option ℕ → Disk → Prop}
    (hsome : ∀ content, accepted md5 d.files filename md5_enabled size = some content →
      ∀ (d' : Disk) (fd : ℕ), d'.files = d.files → Frame (· < d.next) d d' → d.next ≤ fd →
        d'.Opened fd filename O_RDWR content → Q (some fd) d')
    (hnone : accepted md5 d.files filename md5_enabled size = none →
      ∀ d' : Disk, d'.files = d.files → Frame (· < d.next) d d' → Q none d') :
    Disk.wp F C Q (tryLoadNV md5 filename md5_enabled size) d := by
  unfold tryLoadNV
  cases hfile : d.files filename with
  | none =>
    refine wp_open_missing hfile (by decide) (wp_return hC (hnone ?_ d rfl (Frame.refl _ d)))
    rw [accepted, hfile]
    rfl
  | some content =>
    refine wp_open hfile (by decide) hC fun d₁ fd hfiles₁ hframe₁ hle hopen₁ => ?_
    have hC₁ : C d₁.files := by rwa [hfiles₁]
    have hbelow : ∀ n, n < d.next → n < fd := fun n hn => hn.trans_le hle
    refine wp_fstat hopen₁ fun stat hstat => ?_
    simp only [hstat]
    by_cases hlen : content.length = size
    · simp only [if_neg (not_not.mpr hlen)]
      cases md5_enabled with
      | false =>
        refine wp_return hC₁ (hsome content ?_ d₁ fd hfiles₁ hframe₁ hle hopen₁)
        exact accepted_eq_some.mpr ⟨hfile, hlen, by simp⟩
      | true =>
        refine wp_checkDigest hopen₁ hC₁ hsize hlen (fun hmatch d₂ hfiles₂ hframe₂ => ?_)
          fun hmatch d₂ hfiles₂ hframe₂ => ?_
        · rw [hfiles₁] at hmatch
          refine hsome content (accepted_eq_some.mpr ⟨hfile, hlen, fun _ => hmatch⟩) d₂ fd
            (hfiles₂.trans hfiles₁)
            (hframe₁.trans (hframe₂.mono fun n hn => (hbelow n hn).trans hopen₁.lt)) hle ?_
          exact hopen₁.frame hframe₂ hopen₁.lt (by rw [hfiles₂, hfiles₁]; exact hfile)
        · rw [hfiles₁] at hmatch
          refine hnone ((accepted_eq_none hfile).mpr fun hboth => hmatch (hboth.2 rfl)) d₂
            (hfiles₂.trans hfiles₁) (hframe₁.trans (hframe₂.mono hbelow))
    · simp only [if_pos hlen]
      refine wp_closeRejected hopen₁ hC₁ fun d₂ hfiles₂ hframe₂ => ?_
      exact hnone ((accepted_eq_none hfile).mpr fun hboth => hlen hboth.1) d₂
        (hfiles₂.trans hfiles₁)
        (hframe₁.trans (hframe₂.mono fun n hn => (hbelow n hn).ne))

theorem wp_readMarker (hC : C d.files) {Q : Bool → Disk → Prop}
    (hQ : ∀ d' : Disk, d'.files = d.files → Frame (· < d.next) d d' →
      Q (enabledIn d.files efs) d') :
    Disk.wp F C Q (readMarker efs) d := by
  unfold readMarker
  cases hfile : d.files (efs ++ str "/.nv_state") with
  | none =>
    refine wp_access_missing hfile (wp_return hC ?_)
    have hresult := hQ d rfl (Frame.refl _ d)
    rwa [enabledIn, hfile] at hresult
  | some content =>
    refine wp_access hfile (wp_seq (wp_get hfile hC fun d₁ hfiles₁ hframe₁ => ?_))
    refine wp_return (by rwa [hfiles₁]) ?_
    have hresult := hQ d₁ hfiles₁ hframe₁
    rwa [enabledIn, hfile] at hresult

end

/-- A start reads the marker, and `tryLoadNV` opens the file with this content. -/
def Loads (md5 : Bytes → Vector UInt8 16) (files : Bytes → Option Bytes) (efs filename : Bytes)
    (size : ℕ) (content : Bytes) : Prop :=
  ∃ d fd, (readMarker efs >>= fun md5_enabled => tryLoadNV md5 filename md5_enabled size).exec
    Disk.kernel (Disk.boot files) = some (d, some fd) ∧ d.openContent fd = some content

/-- What is loaded is what is accepted. -/
theorem loads_iff (hsize : 16384 ∣ size) : Loads md5 files efs filename size content ↔
    accepted md5 files filename (enabledIn files efs) size = some content := by
  have hwp : Disk.wp False (fun _ => True)
      (fun fd d => fd.bind d.openContent = accepted md5 files filename (enabledIn files efs) size)
      (readMarker efs >>= fun md5_enabled => tryLoadNV md5 filename md5_enabled size)
      (Disk.boot files) := by
    refine Disk.wp_seq (wp_readMarker trivial fun d hfiles _ => ?_)
    change d.files = files at hfiles
    rw [← hfiles]
    refine wp_tryLoadNV trivial hsize (fun c hacc d' fd _ _ _ hopen => ?_) fun hacc d' _ _ => ?_
    · exact hopen.openContent_eq.trans hacc.symm
    · exact hacc.symm
  constructor
  · rintro ⟨d, fd, hexec, hcontent⟩
    exact (Program.wp_exec hwp hexec).symm.trans hcontent
  · intro hacc
    obtain ⟨d, result, hexec, hresult⟩ := Program.wp_total hwp
    obtain ⟨fd, rfl, hcontent⟩ := Option.bind_eq_some_iff.mp (hresult.trans hacc)
    exact ⟨d, fd, hexec, hcontent⟩

/-- A directory that holds a valid secondary backup, and a marker or none. -/
def coreAlone (md5 : Bytes → Vector UInt8 16) (efs : Bytes) (marker : Option Bytes) :
    Bytes → Option Bytes :=
  let core := List.replicate CORE_SIZE 0
  Function.update (Function.update (Function.update (fun _ => none)
    (efs ++ str "/.nv_core.bak") (some core))
    (efs ++ str "/.nv_core.bak.md5") (some (calculateMD5 md5 core)))
    (efs ++ str "/.nv_state") marker

end FreeRil.AndroidFileSystem
