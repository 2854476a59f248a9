import FreeRil.Bytes
import FreeRil.Library.Program

/-! The system calls the file system module makes, with what they are given and what they return.
A call that returns `-1` answers with its `errno`. -/
namespace FreeRil

/-- Values of `errno`. -/
def EBADF : ℕ := 9
def EACCES : ℕ := 13
def EEXIST : ℕ := 17
def EINVAL : ℕ := 22
def ERANGE : ℕ := 34
def ENOENT : ℕ := 2

/-- Flags of `open`. -/
def O_RDONLY : UInt32 := 0
def O_WRONLY : UInt32 := 1
def O_RDWR : UInt32 := 2
def O_CREAT : UInt32 := 0x40
def O_TRUNC : UInt32 := 0x200

inductive Whence
  | SEEK_SET
  | SEEK_CUR
  | SEEK_END
  /-- A value the kernel refuses. -/
  | other (whence : ℤ)
  deriving DecidableEq, Repr

/-- The fields of `struct stat` that are used. -/
structure Stat where
  st_mode : ℕ
  st_size : ℕ
  st_ctime : ℤ
  st_mtime : ℤ
  deriving DecidableEq, Repr

/-- Descriptors are numbers, directory streams 32-bit pointers. -/
inductive Syscall
  | access (path : Bytes)
  | open_ (path : Bytes) (flags : UInt32) (mode : ℕ)
  | close (fd : ℕ)
  | fstat (fd : ℕ)
  | lseek (fd : ℕ) (offset : ℤ) (whence : Whence)
  | read (fd : ℕ) (size : ℕ)
  | write (fd : ℕ) (data : Bytes)
  | pread (fd : ℕ) (size : ℕ) (offset : ℤ)
  | pwrite (fd : ℕ) (data : Bytes) (offset : ℤ)
  | sendfile (out_fd in_fd : ℕ) (offset : ℕ) (count : ℕ)
  | fsync (fd : ℕ)
  | ftruncate (fd : ℕ) (size : ℤ)
  | unlink (path : Bytes)
  | rename (old_path new_path : Bytes)
  | mkdir (path : Bytes) (mode : ℕ)
  | rmdir (path : Bytes)
  | opendir (path : Bytes)
  | readdir (dir : UInt32)
  | closedir (dir : UInt32)
  /-- `Log::panic`, from which nothing returns. -/
  | panic (message : String)

namespace Syscall

/-- What a call returns. -/
abbrev Ret : Syscall → Type
  | open_ .. | write .. | pwrite .. | sendfile .. => Except ℕ ℕ
  | access .. | close .. | fsync .. | ftruncate .. => Except ℕ Unit
  | unlink .. | rename .. | mkdir .. | rmdir .. | closedir .. => Except ℕ Unit
  | fstat .. => Except ℕ Stat
  | lseek .. => Except ℕ ℤ
  | read .. | pread .. => Except ℕ Bytes
  | opendir .. => Except ℕ UInt32
  | readdir .. => Except ℕ (Option Bytes)
  | panic .. => Empty

/-- The paths a call is given. -/
def paths : Syscall → List Bytes
  | access path | open_ path _ _ | unlink path | mkdir path _ | rmdir path | opendir path => [path]
  | rename old_path new_path => [old_path, new_path]
  | _ => []

end Syscall

abbrev Sys := Program Syscall.Ret

/-- A system call. -/
def syscall (c : Syscall) : Sys c.Ret := Program.request c

/-- `Log::panicErrno` and `Log::panic`. -/
def panic {α : Type} (message : String) : Sys α := .call (.panic message) Empty.elim

end FreeRil
