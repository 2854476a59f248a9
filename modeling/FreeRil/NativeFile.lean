import FreeRil.Syscall

/-! Files that are read or written whole, and panic where a call fails. -/
namespace FreeRil

/-- `open` followed by `panicErrno` on `-1`. -/
def openOrPanic (path : Bytes) (flags : UInt32) (mode : ℕ) : Sys ℕ := do
  match ← syscall (.open_ path flags mode) with
  | .ok fd => return fd
  | .error _ => panic "open"

/-- Panic unless a call has transferred `size` bytes. -/
def expectOrPanic (ret : Except ℕ ℕ) (size : ℕ) (message : String) : Sys Unit :=
  match ret with
  | .ok n => if n ≠ size then panic message else pure ()
  | .error _ => panic message

/-- `write` of a whole buffer. -/
def writeOrPanic (fd : ℕ) (data : Bytes) : Sys Unit := do
  expectOrPanic (← syscall (.write fd data)) data.length "write"

/-- `sendfile` of `count` bytes from the start of a file. -/
def sendfileOrPanic (out_fd in_fd count : ℕ) : Sys Unit := do
  expectOrPanic (← syscall (.sendfile out_fd in_fd 0 count)) count "sendfile"

namespace NativeFile

/-- `deref` of the last reference. -/
def close (fd : ℕ) : Sys Unit := do
  let _ ← syscall (.close fd)
  return ()

def seek (fd : ℕ) (offset : ℤ) (whence : Whence) : Sys ℤ := do
  match ← syscall (.lseek fd offset whence) with
  | .ok ret => return ret
  | .error _ => panic "lseek"

def pread (fd : ℕ) (size : ℕ) (offset : ℤ) : Sys Bytes := do
  match ← syscall (.pread fd size offset) with
  | .ok data => return data
  | .error _ => panic "pread"

/-- The number of bytes written is not looked at. -/
def write (fd : ℕ) (data : Bytes) : Sys Unit := do
  match ← syscall (.write fd data) with
  | .ok _ => return ()
  | .error _ => panic "write"

def sync (fd : ℕ) : Sys Unit := do
  match ← syscall (.fsync fd) with
  | .ok _ => return ()
  | .error _ => panic "fdatasync"

def get (filename : Bytes) : Sys Bytes := do
  let fd ← openOrPanic filename O_RDONLY 0o644
  let size ← seek fd 0 .SEEK_END
  let data ← pread fd size.toNat 0
  close fd
  return data

def put (filename data : Bytes) (sync : Bool) : Sys Unit := do
  let fd ← openOrPanic filename (O_WRONLY ||| O_TRUNC ||| O_CREAT) 0o644
  write fd data
  if sync then NativeFile.sync fd
  close fd

end NativeFile
end FreeRil
