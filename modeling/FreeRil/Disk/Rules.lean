import FreeRil.Disk
import FreeRil.NativeFile

/-! Rules for programs that work on the files of a disk. A rule is given what holds of the files
wherever the program can be cut off, and what follows from what it leaves at its end. -/
namespace FreeRil

namespace Disk

/-- `fd` is a descriptor of the file at `path`. -/
structure Opened (d : Disk) (fd : ℕ) (path : Bytes) (flags : UInt32) (content : Bytes) :
    Prop where
  handle : ∃ position, d.handles fd = some ⟨path, position, flags⟩
  file : d.files path = some content
  lt : fd < d.next

/-- `fd` is a descriptor at the end of the file at `path`. -/
structure AtEnd (d : Disk) (fd : ℕ) (path : Bytes) (flags : UInt32) (content : Bytes) :
    Prop where
  handle : d.handles fd = some ⟨path, content.length, flags⟩
  file : d.files path = some content
  lt : fd < d.next

/-- The descriptors `kept` stay as they are. -/
structure Frame (kept : ℕ → Prop) (d d' : Disk) : Prop where
  next_le : d.next ≤ d'.next
  handles : ∀ fd, kept fd → d'.handles fd = d.handles fd

section
variable {d d' d'' : Disk} {fd : ℕ} {path content : Bytes} {flags : UInt32} {kept : ℕ → Prop}

theorem AtEnd.opened (h : d.AtEnd fd path flags content) : d.Opened fd path flags content :=
  ⟨⟨_, h.handle⟩, h.file, h.lt⟩

theorem Frame.refl (kept : ℕ → Prop) (d : Disk) : Frame kept d d := ⟨le_rfl, fun _ _ => rfl⟩

theorem Frame.trans (h : Frame kept d d') (h' : Frame kept d' d'') : Frame kept d d'' :=
  ⟨h.next_le.trans h'.next_le, fun fd hk => (h'.handles fd hk).trans (h.handles fd hk)⟩

theorem Frame.mono {kept' : ℕ → Prop} (h : Frame kept d d') (hk : ∀ fd, kept' fd → kept fd) :
    Frame kept' d d' :=
  ⟨h.next_le, fun fd hfd => h.handles fd (hk fd hfd)⟩

theorem Opened.frame (h : d.Opened fd path flags content) (hf : Frame kept d d') (hk : kept fd)
    (hfile : d'.files path = some content) : d'.Opened fd path flags content := by
  obtain ⟨position, hhandle⟩ := h.handle
  exact ⟨⟨position, (hf.handles fd hk).trans hhandle⟩, hfile, h.lt.trans_le hf.next_le⟩

theorem AtEnd.frame (h : d.AtEnd fd path flags content) (hf : Frame kept d d') (hk : kept fd)
    (hfile : d'.files path = some content) : d'.AtEnd fd path flags content :=
  ⟨(hf.handles fd hk).trans h.handle, hfile, h.lt.trans_le hf.next_le⟩

theorem Opened.content_eq (h : d.Opened fd path flags content) : d.content path = content := by
  simp [Disk.content, h.file]

theorem Opened.openContent_eq (h : d.Opened fd path flags content) :
    d.openContent fd = some content := by
  obtain ⟨position, hhandle⟩ := h.handle
  simp [openContent, hhandle, h.file]

theorem overwrite_end (content data : Bytes) :
    overwrite content content.length data = content ++ data := by
  simp [overwrite]

end

/-- What is left of a file that data is being added to. -/
def Growing (C : (Bytes → Option Bytes) → Prop) (files : Bytes → Option Bytes)
    (path content data : Bytes) : Prop :=
  ∀ n, C (Function.update files path (some (content ++ data.take n)))

theorem Growing.last {C : (Bytes → Option Bytes) → Prop} {files : Bytes → Option Bytes}
    {path content data : Bytes} (h : Growing C files path content data) :
    C (Function.update files path (some (content ++ data))) := by
  simpa using h data.length

theorem Growing.again {C : (Bytes → Option Bytes) → Prop} {files : Bytes → Option Bytes}
    {path content data : Bytes} {before : Option Bytes} (h : Growing C files path content data) :
    Growing C (Function.update files path before) path content data := by
  intro n
  rw [Function.update_idem]
  exact h n

/-- A program passes only files of `C`, and ends with `Q` unless `F` lets it panic. -/
abbrev wp {α : Type} (F : Prop) (C : (Bytes → Option Bytes) → Prop) (Q : α → Disk → Prop)
    (p : Sys α) (d : Disk) : Prop :=
  p.wp kernel F (fun d => C d.files) Q d

section
variable {α β : Type} {F : Prop} {C : (Bytes → Option Bytes) → Prop} {Q : α → Disk → Prop}
  {d : Disk} {fd : ℕ} {path content data : Bytes} {flags : UInt32}

theorem wp_here {p : Sys α} (h : wp F C Q p d) : C d.files :=
  Program.wp_here (C := fun d : Disk => C d.files) h

/-- A program followed by another. -/
theorem wp_seq {p : Sys β} {k : β → Sys α} (h : wp F C (fun b => wp F C Q (k b)) p d) :
    wp F C Q (p >>= k) d :=
  Program.wp_bind.mpr h

theorem wp_return {a : α} (hC : C d.files) (hQ : Q a d) : wp F C Q (pure a) d := ⟨hC, hQ⟩

/-- A call, and what is done with its answer. -/
theorem wp_syscall {c : Syscall} {k : c.Ret → Sys α} {d' : Disk} {r : c.Ret}
    (hstep : d.step c = some (d', r)) (hC : C d.files) (hpart : ∀ x ∈ d.partway c, C x.files)
    (hk : wp F C Q (k r) d') : wp F C Q (syscall c >>= k) d :=
  Program.wp_call hC hpart hstep hk

theorem wp_panic (hF : F) (hC : C d.files) (message : String) : wp F C Q (panic message) d :=
  ⟨hC, fun _ h => h.elim, hF⟩

/-- Opening a file that is there. -/
theorem wp_open (hfile : d.files path = some content) (htrunc : flags &&& O_TRUNC = 0) {mode : ℕ}
    {k : Except ℕ ℕ → Sys α} (hC : C d.files)
    (hk : ∀ (d' : Disk) (fd : ℕ), d'.files = d.files → Frame (· < d.next) d d' → d.next ≤ fd →
      d'.Opened fd path flags content → wp F C Q (k (.ok fd)) d') :
    wp F C Q (syscall (.open_ path flags mode) >>= k) d := by
  have hsame : Function.update d.files path (some content) = d.files :=
    Function.update_eq_self_iff.mpr hfile.symm
  have hstep : d.step (.open_ path flags mode) =
      some ({ (d.setFile path content).setHandle d.next (some ⟨path, 0, flags⟩) with
        next := d.next + 1 }, .ok d.next) := by
    simp [step, openFile, hfile, htrunc, Disk.content]
  refine wp_syscall hstep hC (fun _ h => h.elim) (hk _ d.next ?_ ⟨Nat.le_succ _, ?_⟩ le_rfl ?_)
  · exact hsame
  · intro n hn
    simp [setHandle, setFile, hn.ne]
  · exact ⟨⟨0, by simp [setHandle]⟩, by simp [setHandle, setFile], Nat.lt_succ_self _⟩

/-- Opening a file that is not there, without making it. -/
theorem wp_open_missing (hfile : d.files path = none) (hcreat : flags &&& O_CREAT = 0) {mode : ℕ}
    {k : Except ℕ ℕ → Sys α} (hk : wp F C Q (k (.error ENOENT)) d) :
    wp F C Q (syscall (.open_ path flags mode) >>= k) d := by
  have hstep : d.step (.open_ path flags mode) = some (d, .error ENOENT) := by
    simp [step, openFile, hfile, hcreat]
  exact wp_syscall hstep (wp_here hk) (fun _ h => h.elim) hk

/-- Making a file, or emptying the one that is there. -/
theorem wp_create (hcreat : flags &&& O_CREAT ≠ 0) (htrunc : flags &&& O_TRUNC ≠ 0) {mode : ℕ}
    {k : Except ℕ ℕ → Sys α} (hC : C d.files)
    (hk : ∀ (d' : Disk) (fd : ℕ), d'.files = Function.update d.files path (some []) →
      Frame (· < d.next) d d' → d.next ≤ fd → d'.AtEnd fd path flags [] →
        wp F C Q (k (.ok fd)) d') :
    wp F C Q (syscall (.open_ path flags mode) >>= k) d := by
  have hstep : d.step (.open_ path flags mode) =
      some ({ (d.setFile path []).setHandle d.next (some ⟨path, 0, flags⟩) with
        next := d.next + 1 }, .ok d.next) := by
    simp [step, openFile, hcreat, htrunc]
  refine wp_syscall hstep hC (fun _ h => h.elim) (hk _ d.next rfl ⟨Nat.le_succ _, ?_⟩ le_rfl ?_)
  · intro n hn
    simp [setHandle, setFile, hn.ne]
  · exact ⟨by simp [setHandle], by simp [setHandle, setFile], Nat.lt_succ_self _⟩

theorem wp_fsync (h : d.Opened fd path flags content) {k : Except ℕ Unit → Sys α}
    (hk : wp F C Q (k (.ok ())) d) : wp F C Q (syscall (.fsync fd) >>= k) d := by
  obtain ⟨position, hhandle⟩ := h.handle
  have hstep : d.step (.fsync fd) = some (d, .ok ()) := by
    simp [step, onHandle, hhandle, anyHandle]
  exact wp_syscall hstep (wp_here hk) (fun _ h => h.elim) hk

theorem wp_close (h : d.Opened fd path flags content) {k : Except ℕ Unit → Sys α} (hC : C d.files)
    (hk : ∀ d' : Disk, d'.files = d.files → Frame (· ≠ fd) d d' → wp F C Q (k (.ok ())) d') :
    wp F C Q (syscall (.close fd) >>= k) d := by
  obtain ⟨position, hhandle⟩ := h.handle
  have hstep : d.step (.close fd) = some (d.setHandle fd none, .ok ()) := by
    simp [step, onHandle, hhandle, anyHandle]
  refine wp_syscall hstep hC (fun _ h => h.elim) (hk _ rfl ⟨le_rfl, fun n hn => ?_⟩)
  simp [setHandle, hn]

theorem wp_fstat (h : d.Opened fd path flags content) {k : Except ℕ Stat → Sys α}
    (hk : ∀ stat : Stat, stat.st_size = content.length → wp F C Q (k (.ok stat)) d) :
    wp F C Q (syscall (.fstat fd) >>= k) d := by
  obtain ⟨position, hhandle⟩ := h.handle
  have hstep : d.step (.fstat fd) = some (d, .ok ⟨0o100600, content.length, 0, 0⟩) := by
    simp [step, onHandle, hhandle, anyHandle, h.content_eq]
  have hnext := hk ⟨0o100600, content.length, 0, 0⟩ rfl
  exact wp_syscall hstep (wp_here hnext) (fun _ h => h.elim) hnext

theorem wp_access (hfile : d.files path = some content) {k : Except ℕ Unit → Sys α}
    (hk : wp F C Q (k (.ok ())) d) : wp F C Q (syscall (.access path) >>= k) d := by
  have hstep : d.step (.access path) = some (d, .ok ()) := by simp [step, hfile]
  exact wp_syscall hstep (wp_here hk) (fun _ h => h.elim) hk

theorem wp_access_missing (hfile : d.files path = none) {k : Except ℕ Unit → Sys α}
    (hk : wp F C Q (k (.error ENOENT)) d) : wp F C Q (syscall (.access path) >>= k) d := by
  have hstep : d.step (.access path) = some (d, .error ENOENT) := by simp [step, hfile]
  exact wp_syscall hstep (wp_here hk) (fun _ h => h.elim) hk

/-- Reading at an offset. -/
theorem wp_pread (h : d.Opened fd path flags content) (hflags : flags &&& 3 ≠ O_WRONLY)
    {size offset : ℕ} {k : Except ℕ Bytes → Sys α}
    (hk : wp F C Q (k (.ok ((content.drop offset).take size))) d) :
    wp F C Q (syscall (.pread fd size offset) >>= k) d := by
  obtain ⟨position, hhandle⟩ := h.handle
  have hstep : d.step (.pread fd size offset) =
      some (d, .ok ((content.drop offset).take size)) := by
    simp [step, onHandle, hhandle, Handle.readable, hflags, slice, h.content_eq]
  exact wp_syscall hstep (wp_here hk) (fun _ h => h.elim) hk

theorem wp_pread_rejected (h : d.Opened fd path flags content) (hflags : flags &&& 3 ≠ O_WRONLY)
    {size : ℕ} {offset : ℤ} (hinvalid : offset < 0) {k : Except ℕ Bytes → Sys α}
    (hk : wp F C Q (k (.error EINVAL)) d) :
    wp F C Q (syscall (.pread fd size offset) >>= k) d := by
  obtain ⟨position, hhandle⟩ := h.handle
  have hstep : d.step (.pread fd size offset) = some (d, .error EINVAL) := by
    simp [step, onHandle, hhandle, Handle.readable, hflags, hinvalid]
  exact wp_syscall hstep (wp_here hk) (fun _ h => h.elim) hk

/-- Writing at an offset, which is done at once. -/
theorem wp_pwrite (h : d.Opened fd path flags content) (hflags : flags &&& 3 ≠ O_RDONLY)
    {offset : ℤ} (hoffset : 0 ≤ offset) (hlen : data.length ≤ TRANSFER_MAX)
    {k : Except ℕ ℕ → Sys α} (hC : C d.files)
    (hk : ∀ d' : Disk,
      d'.files = Function.update d.files path (some (overwrite content offset.toNat data)) →
      Frame (fun _ => True) d d' → wp F C Q (k (.ok data.length)) d') :
    wp F C Q (syscall (.pwrite fd data offset) >>= k) d := by
  obtain ⟨position, hhandle⟩ := h.handle
  have hvalid : ¬ (offset < 0 ∨ TRANSFER_MAX < data.length) := by omega
  have hstep : d.step (.pwrite fd data offset) =
      some (d.setFile path (overwrite content offset.toNat data), .ok data.length) := by
    simp [step, onHandle, hhandle, Handle.writable, hflags, h.content_eq, hvalid]
  exact wp_syscall hstep hC (fun _ h => h.elim) (hk _ rfl ⟨le_rfl, fun _ _ => rfl⟩)

theorem wp_pwrite_rejected (h : d.Opened fd path flags content) (hflags : flags &&& 3 ≠ O_RDONLY)
    {offset : ℤ} (hinvalid : offset < 0 ∨ TRANSFER_MAX < data.length)
    {k : Except ℕ ℕ → Sys α} (hk : wp F C Q (k (.error EINVAL)) d) :
    wp F C Q (syscall (.pwrite fd data offset) >>= k) d := by
  obtain ⟨position, hhandle⟩ := h.handle
  have hstep : d.step (.pwrite fd data offset) = some (d, .error EINVAL) := by
    simp [step, onHandle, hhandle, Handle.writable, hflags, hinvalid]
  exact wp_syscall hstep (wp_here hk) (fun _ h => h.elim) hk

theorem append_atEnd (h : d.AtEnd fd path flags content) (data : Bytes) :
    (d.append fd ⟨path, content.length, flags⟩ data).files =
        Function.update d.files path (some (content ++ data)) ∧
      Frame (· ≠ fd) d (d.append fd ⟨path, content.length, flags⟩ data) ∧
      (d.append fd ⟨path, content.length, flags⟩ data).AtEnd fd path flags (content ++ data) := by
  have hfiles : (d.append fd ⟨path, content.length, flags⟩ data).files =
      Function.update d.files path (some (content ++ data)) := by
    simp [append, setHandle, setFile, h.opened.content_eq, overwrite_end]
  refine ⟨hfiles, ⟨le_rfl, fun n hn => ?_⟩, ?_, ?_, h.lt⟩
  · simp [append, setHandle, setFile, hn]
  · simp [append, setHandle]
  · rw [hfiles, Function.update_self]

/-- A file that is not there cannot be opened. -/
theorem wp_openOrPanic_missing (hfile : d.files path = none) (hcreat : flags &&& O_CREAT = 0)
    {mode : ℕ} {Q : ℕ → Disk → Prop} (hF : F) (hC : C d.files) :
    wp F C Q (openOrPanic path flags mode) d :=
  wp_open_missing hfile hcreat (wp_panic hF hC "open")

/-- Writing at the end of a file. -/
theorem wp_write (h : d.AtEnd fd path flags content) (hflags : flags &&& 3 ≠ O_RDONLY)
    {k : Except ℕ ℕ → Sys α} (hC : C d.files) (hgrow : Growing C d.files path content data)
    (hk : ∀ d' : Disk, d'.files = Function.update d.files path (some (content ++ data)) →
      Frame (· ≠ fd) d d' → d'.AtEnd fd path flags (content ++ data) →
        wp F C Q (k (.ok data.length)) d') :
    wp F C Q (syscall (.write fd data) >>= k) d := by
  have hstep : d.step (.write fd data) =
      some (d.append fd ⟨path, content.length, flags⟩ data, .ok data.length) := by
    simp [step, onHandle, h.handle, Handle.writable, hflags]
  obtain ⟨hfiles, hframe, hend⟩ := append_atEnd h data
  refine wp_syscall hstep hC ?_ (hk _ hfiles hframe hend)
  rintro x ⟨handle, n, hhandle, rfl⟩
  obtain rfl : _ = handle := Option.some.inj (h.handle.symm.trans hhandle)
  rw [(append_atEnd h (data.take n)).1]
  exact hgrow n

/-- Sending the start of one file to the end of another. -/
theorem wp_sendfile {source : ℕ} {from_path from_content : Bytes} {from_flags : UInt32} {count : ℕ}
    (hfrom : d.Opened source from_path from_flags from_content)
    (hread : from_flags &&& 3 ≠ O_WRONLY) (h : d.AtEnd fd path flags content)
    (hflags : flags &&& 3 ≠ O_RDONLY) (hcount : count ≤ from_content.length)
    {k : Except ℕ ℕ → Sys α} (hC : C d.files)
    (hgrow : Growing C d.files path content (from_content.take count))
    (hk : ∀ d' : Disk,
      d'.files = Function.update d.files path (some (content ++ from_content.take count)) →
      Frame (· ≠ fd) d d' → d'.AtEnd fd path flags (content ++ from_content.take count) →
        wp F C Q (k (.ok count)) d') :
    wp F C Q (syscall (.sendfile fd source 0 count) >>= k) d := by
  obtain ⟨position, hsource⟩ := hfrom.handle
  have hslice : d.slice from_path 0 count = from_content.take count := by
    simp [slice, hfrom.content_eq]
  have hlen : (from_content.take count).length = count := by simpa using hcount
  have hstep : d.step (.sendfile fd source 0 count) =
      some (d.append fd ⟨path, content.length, flags⟩ (from_content.take count), .ok count) := by
    simp [step, onHandle, hsource, h.handle, Handle.readable, Handle.writable, hread, hflags,
      hslice, hcount]
  obtain ⟨hfiles, hframe, hend⟩ := append_atEnd h (from_content.take count)
  refine wp_syscall hstep hC ?_ (hk _ hfiles hframe hend)
  rintro x ⟨from_handle, handle, n, hfrom_handle, hhandle, rfl⟩
  obtain rfl : _ = from_handle := Option.some.inj (hsource.symm.trans hfrom_handle)
  obtain rfl : _ = handle := Option.some.inj (h.handle.symm.trans hhandle)
  rw [hslice, (append_atEnd h _).1]
  exact hgrow n

theorem wp_seek_end (h : d.Opened fd path flags content) {k : Except ℕ ℤ → Sys α}
    (hC : C d.files)
    (hk : ∀ d' : Disk, d'.files = d.files → Frame (· ≠ fd) d d' →
      d'.Opened fd path flags content → wp F C Q (k (.ok content.length)) d') :
    wp F C Q (syscall (.lseek fd 0 .SEEK_END) >>= k) d := by
  obtain ⟨position, hhandle⟩ := h.handle
  have hstep : d.step (.lseek fd 0 .SEEK_END) =
      some (d.setHandle fd (some ⟨path, content.length, flags⟩), .ok content.length) := by
    simp [step, onHandle, hhandle, anyHandle, seek, h.content_eq]
  refine wp_syscall hstep hC (fun _ h => h.elim) (hk _ rfl ⟨le_rfl, fun n hn => ?_⟩ ?_)
  · simp [setHandle, hn]
  · exact ⟨⟨content.length, by simp [setHandle]⟩, h.file, h.lt⟩

theorem wp_openOrPanic (hfile : d.files path = some content) (htrunc : flags &&& O_TRUNC = 0)
    {mode : ℕ} {Q : ℕ → Disk → Prop} (hC : C d.files)
    (hQ : ∀ (d' : Disk) (fd : ℕ), d'.files = d.files → Frame (· < d.next) d d' → d.next ≤ fd →
      d'.Opened fd path flags content → Q fd d') :
    wp F C Q (openOrPanic path flags mode) d := by
  refine wp_open hfile htrunc hC fun d' fd hfiles hframe hle hopen => ?_
  exact wp_return (by rwa [hfiles]) (hQ d' fd hfiles hframe hle hopen)

/-- A file read whole. -/
theorem wp_get (hfile : d.files path = some content) (hC : C d.files) {Q : Bytes → Disk → Prop}
    (hQ : ∀ d' : Disk, d'.files = d.files → Frame (· < d.next) d d' → Q content d') :
    wp F C Q (NativeFile.get path) d := by
  unfold NativeFile.get
  refine wp_seq (wp_openOrPanic hfile (by decide) hC fun d₁ fd hfiles₁ hframe₁ hle hopen₁ => ?_)
  have hC₁ : C d₁.files := by rwa [hfiles₁]
  refine wp_seq (wp_seek_end hopen₁ hC₁ fun d₂ hfiles₂ hframe₂ hopen₂ => ?_)
  have hC₂ : C d₂.files := by rwa [hfiles₂]
  refine wp_return hC₂ (wp_seq (wp_pread hopen₂ (by decide) (wp_return hC₂ ?_)))
  refine wp_seq (wp_close hopen₂ hC₂ fun d₃ hfiles₃ hframe₃ => wp_return (by rwa [hfiles₃]) ?_)
  refine wp_return (by rwa [hfiles₃]) ?_
  have hdata : (content.drop 0).take (content.length : ℤ).toNat = content := by simp
  have hother : ∀ n, n < d.next → n ≠ fd := fun n hn => (hn.trans_le hle).ne
  rw [hdata]
  exact hQ d₃ (by rw [hfiles₃, hfiles₂, hfiles₁])
    ((hframe₁.trans (hframe₂.mono hother)).trans (hframe₃.mono hother))

theorem wp_get_missing (hfile : d.files path = none) {Q : Bytes → Disk → Prop} (hF : F)
    (hC : C d.files) : wp F C Q (NativeFile.get path) d :=
  wp_seq (wp_openOrPanic_missing hfile (by decide) hF hC)

/-- A file emptied or made, to be written. -/
theorem wp_createOrPanic (hcreat : flags &&& O_CREAT ≠ 0) (htrunc : flags &&& O_TRUNC ≠ 0)
    {mode : ℕ} {Q : ℕ → Disk → Prop} (hC : C d.files)
    (hempty : C (Function.update d.files path (some [])))
    (hQ : ∀ (d' : Disk) (fd : ℕ), d'.files = Function.update d.files path (some []) →
      Frame (· < d.next) d d' → d.next ≤ fd → d'.AtEnd fd path flags [] → Q fd d') :
    wp F C Q (openOrPanic path flags mode) d := by
  refine wp_create hcreat htrunc hC fun d' fd hfiles hframe hle hend => ?_
  exact wp_return (by rwa [hfiles]) (hQ d' fd hfiles hframe hle hend)

theorem wp_writeOrPanic (h : d.AtEnd fd path flags content) (hflags : flags &&& 3 ≠ O_RDONLY)
    {Q : Unit → Disk → Prop} (hC : C d.files) (hgrow : Growing C d.files path content data)
    (hQ : ∀ d' : Disk, d'.files = Function.update d.files path (some (content ++ data)) →
      Frame (· ≠ fd) d d' → d'.AtEnd fd path flags (content ++ data) → Q () d') :
    wp F C Q (writeOrPanic fd data) d := by
  refine wp_write h hflags hC hgrow fun d' hfiles hframe hend => ?_
  rw [expectOrPanic, if_neg (by simp)]
  exact wp_return (by rw [hfiles]; exact hgrow.last) (hQ d' hfiles hframe hend)

/-- A file made anew and written in one call. -/
theorem wp_rewrite (hcreat : flags &&& O_CREAT ≠ 0) (htrunc : flags &&& O_TRUNC ≠ 0)
    (hflags : flags &&& 3 ≠ O_RDONLY) {mode : ℕ} (hC : C d.files)
    (hgrow : Growing C d.files path [] data) {k : ℕ → Sys α}
    (hk : ∀ (d' : Disk) (fd : ℕ), d'.files = Function.update d.files path (some data) →
      Frame (· < d.next) d d' → d.next ≤ fd → C d'.files → d'.Opened fd path flags data →
        wp F C Q (k fd) d') :
    wp F C Q (openOrPanic path flags mode >>= fun fd => writeOrPanic fd data >>= fun _ => k fd)
      d := by
  have hempty : C (Function.update d.files path (some [])) := by simpa using hgrow 0
  refine wp_seq (wp_createOrPanic hcreat htrunc hC hempty fun d₁ fd hfiles₁ hframe₁ hle hend₁ => ?_)
  have hgrow₁ : Growing C d₁.files path [] data := by
    rw [hfiles₁]
    exact hgrow.again
  refine wp_seq (wp_writeOrPanic hend₁ hflags (by rwa [hfiles₁]) hgrow₁
    fun d₂ hfiles₂ hframe₂ hend₂ => ?_)
  have hwritten : d₂.files = Function.update d.files path (some data) := by
    rw [hfiles₂, hfiles₁, Function.update_idem]
    rfl
  have hC₂ : C d₂.files := by
    rw [hwritten]
    exact hgrow.last
  exact hk d₂ fd hwritten (hframe₁.trans (hframe₂.mono fun n hn => (hn.trans_le hle).ne)) hle hC₂
    hend₂.opened

theorem wp_sendfileOrPanic {source : ℕ} {from_path from_content : Bytes} {from_flags : UInt32}
    {count : ℕ} (hfrom : d.Opened source from_path from_flags from_content)
    (hread : from_flags &&& 3 ≠ O_WRONLY) (h : d.AtEnd fd path flags content)
    (hflags : flags &&& 3 ≠ O_RDONLY) (hcount : count ≤ from_content.length)
    {Q : Unit → Disk → Prop} (hC : C d.files)
    (hgrow : Growing C d.files path content (from_content.take count))
    (hQ : ∀ d' : Disk,
      d'.files = Function.update d.files path (some (content ++ from_content.take count)) →
      Frame (· ≠ fd) d d' → d'.AtEnd fd path flags (content ++ from_content.take count) →
        Q () d') :
    wp F C Q (sendfileOrPanic fd source count) d := by
  refine wp_sendfile hfrom hread h hflags hcount hC hgrow fun d' hfiles hframe hend => ?_
  rw [expectOrPanic, if_neg (by simp)]
  exact wp_return (by rw [hfiles]; exact hgrow.last) (hQ d' hfiles hframe hend)

/-- A file written whole. -/
theorem wp_put {sync : Bool} {Q : Unit → Disk → Prop} (hC : C d.files)
    (hgrow : Growing C d.files path [] data)
    (hQ : ∀ d' : Disk, d'.files = Function.update d.files path (some data) →
      Frame (· < d.next) d d' → Q () d') :
    wp F C Q (NativeFile.put path data sync) d := by
  unfold NativeFile.put
  have hempty : C (Function.update d.files path (some [])) := by simpa using hgrow 0
  refine wp_seq (wp_createOrPanic (by decide) (by decide) hC hempty
    fun d₁ fd hfiles₁ hframe₁ hle hend₁ => ?_)
  have hother : ∀ n, n < d.next → n ≠ fd := fun n hn => (hn.trans_le hle).ne
  have hgrow₁ : Growing C d₁.files path [] data := by
    rw [hfiles₁]
    exact hgrow.again
  refine wp_seq (wp_write hend₁ (by decide) (by rwa [hfiles₁]) hgrow₁
    fun d₂ hfiles₂ hframe₂ hend₂ => ?_)
  have hwritten : d₂.files = Function.update d.files path (some data) := by
    rw [hfiles₂, hfiles₁, Function.update_idem]
    rfl
  have hC₂ : C d₂.files := by
    rw [hwritten]
    exact hgrow.last
  refine wp_return hC₂ ?_
  have hclose : wp F C Q (NativeFile.close fd) d₂ := by
    refine wp_close hend₂.opened hC₂ fun d₃ hfiles₃ hframe₃ => wp_return (by rwa [hfiles₃]) ?_
    exact hQ d₃ (hfiles₃.trans hwritten)
      ((hframe₁.trans (hframe₂.mono hother)).trans (hframe₃.mono hother))
  cases sync with
  | false => exact hclose
  | true => exact wp_seq (wp_fsync hend₂.opened (wp_return hC₂ hclose))

end
end Disk
end FreeRil
