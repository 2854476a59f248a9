import FreeRil.AndroidFileSystem.NVData
import FreeRil.RFSSocketHandler

/-! The operations on open files and directories, and the file system as an `IFileSystem`. -/
namespace FreeRil.AndroidFileSystem
variable (fs : AndroidFileSystem)

def isSafeDescriptor (fd : ℤ) : Bool := 0 ≤ fd ∧ fd.toNat ∈ fs.m_rfsDescriptors

/-- The value returned for a call that answers with a number of bytes or a position. -/
def translateInt : Except ℕ ℤ → ℤ
  | .ok ret => ret
  | .error errno => -errno

/-- A buffer whose front a call has filled. -/
def filled (data bytes : Bytes) : Bytes := bytes ++ data.drop bytes.length

def readFile (fd : ℤ) (data : Bytes) : Sys (ℤ × Bytes) :=
  if ¬ fs.isSafeDescriptor fd then return (-EBADF, data)
  else do
    match ← syscall (.read fd.toNat data.length) with
    | .ok bytes => return (bytes.length, filled data bytes)
    | .error errno => return (-errno, data)

def writeFile (fd : ℤ) (data : Bytes) : Sys ℤ :=
  if ¬ fs.isSafeDescriptor fd then return -EBADF
  else do return translateReturn (← syscall (.write fd.toNat data))

/-- The values of `whence`. -/
def whenceOf (whence : ℤ) : Whence :=
  if whence = 0 then .SEEK_SET
  else if whence = 1 then .SEEK_CUR
  else if whence = 2 then .SEEK_END
  else .other whence

def lseekFile (fd offset whence : ℤ) : Sys ℤ :=
  if ¬ fs.isSafeDescriptor fd then return -EBADF
  else do return translateInt (← syscall (.lseek fd.toNat offset (whenceOf whence)))

def closeFile (fd : ℤ) : Sys (AndroidFileSystem × ℤ) :=
  if ¬ fs.isSafeDescriptor fd then return (fs, -EBADF)
  else do
    match ← syscall (.close fd.toNat) with
    | .ok () => return ({ fs with m_rfsDescriptors := fs.m_rfsDescriptors.erase fd.toNat }, 0)
    | .error errno => return (fs, -errno)

def getFileInfoByHandle (fd : ℤ) : Sys (ℤ × Option Stat) :=
  if ¬ fs.isSafeDescriptor fd then return (-EBADF, none)
  else do
    match ← syscall (.fstat fd.toNat) with
    | .ok statbuf => return (0, some statbuf)
    | .error errno => return (-errno, none)

/-- An `off_t` has 32 bits. -/
def ftruncateFile (fd : ℤ) (size : UInt32) : Sys ℤ :=
  if ¬ fs.isSafeDescriptor fd then return -EBADF
  else do return translateUnit (← syscall (.ftruncate fd.toNat size.toInt32.toInt))

/-- The pointer an `int` converts to. -/
def directory (fd : ℤ) : UInt32 := .ofInt fd

def readDirectory (fd : ℤ) (filename : Bytes) : Sys (ℤ × Bytes) :=
  if directory fd ∉ fs.m_rfsDirectories then return (-EBADF, filename)
  else do
    match ← syscall (.readdir (directory fd)) with
    | .error ret => return (-ret, filename)
    | .ok none => return (0, filename)
    | .ok (some d_name) => return (1, cstr d_name)

def closeDirectory (fd : ℤ) : Sys (AndroidFileSystem × ℤ) :=
  if directory fd ∉ fs.m_rfsDirectories then return (fs, -EBADF)
  else do
    match ← syscall (.closedir (directory fd)) with
    | .ok () => return ({ fs with m_rfsDirectories := fs.m_rfsDirectories.erase (directory fd) }, 0)
    | .error errno => return (fs, -errno)

/-- A call that leaves the object as it is. -/
def unchanged {α : Type} (p : Sys α) : Sys (AndroidFileSystem × α) := do return (fs, ← p)

/-- The implementation of `IFileSystem`. -/
def answer (md5 : Bytes → Vector UInt8 16) (fs : AndroidFileSystem) :
    (c : IFileSystem) → Sys (AndroidFileSystem × c.Ret)
  | .readNVData offset data => fs.unchanged (fs.readNVData offset data)
  | .writeNVData offset data => fs.writeNVData md5 offset data
  | .readFile fd data => fs.unchanged (fs.readFile fd data)
  | .writeFile fd data => fs.unchanged (fs.writeFile fd data)
  | .lseekFile fd offset whence => fs.unchanged (fs.lseekFile fd offset whence)
  | .closeFile fd => fs.closeFile fd
  | .renameFile oldName newName => fs.renameFile oldName newName
  | .getFileInfoByHandle fd => fs.unchanged (fs.getFileInfoByHandle fd)
  | .deleteFile filename => fs.deleteFile filename
  | .makeDirectory filename => fs.makeDirectory filename
  | .deleteDirectory filename => fs.deleteDirectory filename
  | .openDirectory filename => fs.openDirectory filename
  | .readDirectory fd filename => fs.unchanged (fs.readDirectory fd filename)
  | .closeDirectory fd => fs.closeDirectory fd
  | .openFile filename flags => fs.openFile filename (.ofInt flags)
  | .ftruncateFile fd size => fs.unchanged (fs.ftruncateFile fd size)

section
open Program
variable {md5 : Bytes → Vector UInt8 16} {fs fs' : AndroidFileSystem}

/-- What the modem has opened is what it was. -/
def SameSets (fs fs' : AndroidFileSystem) : Prop :=
  fs'.m_rfsDescriptors = fs.m_rfsDescriptors ∧ fs'.m_rfsDirectories = fs.m_rfsDirectories

theorem updateMD5_sets (h : (fs.updateMD5 md5).Returns fs') : SameSets fs fs' := by
  unfold updateMD5 at h
  obtain ⟨digest, -, h⟩ := returns_bind.mp h
  obtain ⟨fd, -, h⟩ := returns_bind.mp h
  obtain ⟨_, -, h⟩ := returns_bind.mp h
  obtain ⟨_, -, h⟩ := returns_bind.mp h
  split_ifs at h
  · obtain rfl : fs = fs' := h
    exact ⟨rfl, rfl⟩
  · obtain ⟨_, -, h⟩ := returns_bind.mp h
    obtain rfl : { fs with m_md5_enabled := true } = fs' := h
    exact ⟨rfl, rfl⟩

theorem backupNVData_sets {full : Bool} (h : (fs.backupNVData md5 full).Returns fs') :
    SameSets fs fs' := by
  unfold backupNVData at h
  extract_lets copy at h
  have hcopy : ∀ fs₁, (copy fs₁).Returns fs' → fs₁ = fs' := by
    intro fs₁ h
    obtain ⟨digest, -, h⟩ := returns_bind.mp h
    obtain ⟨backup, -, h⟩ := returns_bind.mp h
    obtain ⟨_, -, h⟩ := returns_bind.mp h
    obtain ⟨_, -, h⟩ := returns_bind.mp h
    obtain ⟨_, -, h⟩ := returns_bind.mp h
    obtain ⟨_, -, h⟩ := returns_bind.mp h
    split_ifs at h
    · obtain ⟨_, -, h⟩ := returns_bind.mp h
      exact h
    · exact h
  split_ifs at h
  · obtain rfl := hcopy fs h
    exact ⟨rfl, rfl⟩
  · obtain ⟨fs₁, hupdate, h⟩ := returns_bind.mp h
    obtain rfl := hcopy fs₁ h
    exact updateMD5_sets hupdate

theorem construct_sets {firmware efs : Bytes} (h : (construct md5 firmware efs).Returns fs) :
    fs.m_rfsDescriptors = ∅ ∧ fs.m_rfsDirectories = ∅ := by
  unfold construct at h
  obtain ⟨enabled, -, h⟩ := returns_bind.mp h
  obtain ⟨nvdata, -, h⟩ := returns_bind.mp h
  cases nvdata with
  | some nvdata =>
    obtain rfl : (⟨firmware, efs, nvdata, enabled, ∅, ∅⟩ : AndroidFileSystem) = fs := h
    exact ⟨rfl, rfl⟩
  | none =>
    obtain ⟨backup, -, h⟩ := returns_bind.mp h
    cases backup with
    | some backup =>
      obtain ⟨nvdata, -, h⟩ := returns_bind.mp h
      obtain ⟨_, -, h⟩ := returns_bind.mp h
      obtain ⟨_, -, h⟩ := returns_bind.mp h
      exact updateMD5_sets h
    | none =>
      obtain ⟨core, -, h⟩ := returns_bind.mp h
      cases core with
      | some core =>
        obtain ⟨nvdata, -, h⟩ := returns_bind.mp h
        obtain ⟨digest, -, h⟩ := returns_bind.mp h
        obtain ⟨_, -, h⟩ := returns_bind.mp h
        obtain ⟨_, -, h⟩ := returns_bind.mp h
        obtain rfl : (⟨firmware, efs, nvdata, enabled, ∅, ∅⟩ : AndroidFileSystem) = fs := h
        exact ⟨rfl, rfl⟩
      | none =>
        obtain ⟨nvdata, -, h⟩ := returns_bind.mp h
        obtain ⟨data, -, h⟩ := returns_bind.mp h
        obtain ⟨_, -, h⟩ := returns_bind.mp h
        obtain ⟨_, -, h⟩ := returns_bind.mp h
        obtain ⟨fs₁, hupdate, h⟩ := returns_bind.mp h
        obtain ⟨hfiles, hdirectories⟩ := updateMD5_sets hupdate
        obtain ⟨hfiles', hdirectories'⟩ := backupNVData_sets h
        exact ⟨hfiles'.trans hfiles, hdirectories'.trans hdirectories⟩

end
end FreeRil.AndroidFileSystem
