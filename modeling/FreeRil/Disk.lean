import FreeRil.Syscall

/-! What the calls on files do to a disk of regular files, on which every call that is well formed
succeeds and transfers all it is asked for. Calls on directories are not answered here. -/
namespace FreeRil

/-- An open file. -/
structure Handle where
  path : Bytes
  position : ℕ
  flags : UInt32

def Handle.readable (h : Handle) : Bool := h.flags &&& 3 ≠ O_WRONLY

def Handle.writable (h : Handle) : Bool := h.flags &&& 3 ≠ O_RDONLY

/-- The files, the open files, and a bound on the descriptors given out. -/
structure Disk where
  files : Bytes → Option Bytes
  handles : ℕ → Option Handle
  next : ℕ

/-- The bytes from `position` on replaced by `data`, with zeros where there were none before. -/
def overwrite (content : Bytes) (position : ℕ) (data : Bytes) : Bytes :=
  content.take position ++ List.replicate (position - content.length) 0 ++ data ++
    content.drop (position + data.length)

namespace Disk

/-- The disk as it is found when the system starts. -/
def boot (files : Bytes → Option Bytes) : Disk := ⟨files, fun _ => none, 0⟩

variable (d : Disk)

def content (path : Bytes) : Bytes := (d.files path).getD []

/-- The contents of the file behind a descriptor. -/
def openContent (fd : ℕ) : Option Bytes := (d.handles fd).bind fun h => d.files h.path

def setHandle (fd : ℕ) (h : Option Handle) : Disk :=
  { d with handles := Function.update d.handles fd h }

def setFile (path content : Bytes) : Disk :=
  { d with files := Function.update d.files path (some content) }

/-- Write at the position of an open file. -/
def append (fd : ℕ) (h : Handle) (data : Bytes) : Disk :=
  (d.setFile h.path (overwrite (d.content h.path) h.position data)).setHandle fd
    (some { h with position := h.position + data.length })

/-- The bytes of a file that a transfer finds. -/
def slice (path : Bytes) (offset size : ℕ) : Bytes := ((d.content path).drop offset).take size

def openFile (path : Bytes) (flags : UInt32) : Disk × Except ℕ ℕ :=
  if (d.files path).isNone ∧ flags &&& O_CREAT = 0 then (d, .error ENOENT)
  else
    let kept := if flags &&& O_TRUNC = 0 then d.content path else []
    ({ (d.setFile path kept).setHandle d.next (some ⟨path, 0, flags⟩) with next := d.next + 1 },
      .ok d.next)

/-- A call on a descriptor that must be open. -/
def onHandle {α : Type} (fd : ℕ) (allowed : Handle → Bool) (k : Handle → Disk × Except ℕ α) :
    Disk × Except ℕ α :=
  match d.handles fd with
  | none => (d, .error EBADF)
  | some h => if allowed h then k h else (d, .error EBADF)

def anyHandle : Handle → Bool := fun _ => true

/-- The position a seek leads to, negative where it is refused. -/
def seek (h : Handle) (offset : ℤ) : Whence → ℤ
  | .SEEK_SET => offset
  | .SEEK_CUR => h.position + offset
  | .SEEK_END => (d.content h.path).length + offset
  | .other _ => -1

/-- The most that is written at an offset. -/
def TRANSFER_MAX : ℕ := 2 ^ 31 - 1

/-- The answer of the kernel. -/
def step (d : Disk) : (c : Syscall) → Option (Disk × c.Ret)
  | .access path => some (d, if (d.files path).isSome then .ok () else .error ENOENT)
  | .open_ path flags _ => some (d.openFile path flags)
  | .close fd => some (d.onHandle fd anyHandle fun _ => (d.setHandle fd none, .ok ()))
  | .fstat fd => some (d.onHandle fd anyHandle fun h =>
      (d, .ok ⟨0o100600, (d.content h.path).length, 0, 0⟩))
  | .lseek fd offset whence => some (d.onHandle fd anyHandle fun h =>
      let position := d.seek h offset whence
      if position < 0 then (d, .error EINVAL)
      else (d.setHandle fd (some { h with position := position.toNat }), .ok position))
  | .read fd size => some (d.onHandle fd Handle.readable fun h =>
      let data := d.slice h.path h.position size
      (d.setHandle fd (some { h with position := h.position + data.length }), .ok data))
  | .write fd data => some (d.onHandle fd Handle.writable fun h =>
      (d.append fd h data, .ok data.length))
  | .pread fd size offset => some (d.onHandle fd Handle.readable fun h =>
      if offset < 0 then (d, .error EINVAL)
      else (d, .ok (d.slice h.path offset.toNat size)))
  | .pwrite fd data offset => some (d.onHandle fd Handle.writable fun h =>
      if offset < 0 ∨ TRANSFER_MAX < data.length then (d, .error EINVAL)
      else
        (d.setFile h.path (overwrite (d.content h.path) offset.toNat data), .ok data.length))
  | .sendfile out_fd in_fd offset count => some (d.onHandle in_fd Handle.readable fun source =>
      d.onHandle out_fd Handle.writable fun h =>
        let data := d.slice source.path offset count
        (d.append out_fd h data, .ok data.length))
  | .fsync fd => some (d.onHandle fd anyHandle fun _ => (d, .ok ()))
  | .ftruncate fd size => some (d.onHandle fd Handle.writable fun h =>
      if size < 0 then (d, .error EINVAL)
      else
        let content := (d.content h.path).take size.toNat
        (d.setFile h.path (content ++ List.replicate (size.toNat - content.length) 0), .ok ()))
  | .unlink .. | .rename .. | .mkdir .. | .rmdir .. | .opendir .. | .readdir .. | .closedir .. => none
  | .panic _ => none

/-- A `write` or `sendfile` that is cut off has transferred some of the bytes. -/
def partway (d : Disk) : Syscall → Set Disk
  | .write fd data => {c | ∃ h n, d.handles fd = some h ∧ c = d.append fd h (data.take n)}
  | .sendfile out_fd in_fd offset count => {c | ∃ source h n, d.handles in_fd = some source ∧
      d.handles out_fd = some h ∧
      c = d.append out_fd h ((d.slice source.path offset count).take n)}
  | _ => ∅

/-- The kernel, as far as the files go. -/
def kernel : Program.Environment Syscall.Ret Disk := ⟨step, partway⟩

/-- The same where programs are cut off between two calls only. -/
def betweenCalls : Program.Environment Syscall.Ret Disk := ⟨step, fun _ _ => ∅⟩

theorem exec_betweenCalls {α : Type} (p : Sys α) (d : Disk) :
    p.exec betweenCalls d = p.exec kernel d := by
  apply Program.exec_congr
  rfl

theorem crashes_betweenCalls {α : Type} (p : Sys α) (d : Disk) :
    p.crashes betweenCalls d ⊆ p.crashes kernel d := by
  apply Program.crashes_subset
  · rfl
  · intro d op
    exact Set.empty_subset _

end Disk
end FreeRil
