import FreeRil.AndroidFileSystem
import FreeRil.NativeFile

/-! The NV data of the modem: its file, its two backups, their digests and the marker that says
whether digests are checked. `m_efs` and the names of these files hold no null character. -/
namespace FreeRil.AndroidFileSystem

def NVDATA_SIZE : ℕ := 2 * 1024 * 1024

def CORE_SIZE : ℕ := 1 * 1024 * 1024

def samsung_magic_words : Bytes := str "Samsung_Android_RIL"

/-- A digit as `%02hhx` prints it. -/
def hexDigit (n : UInt8) : UInt8 := if n < 10 then 48 + n else 87 + n

def binaryToHex (data : Bytes) : Bytes := data.flatMap fun b => [hexDigit (b / 16), hexDigit (b % 16)]

inductive FirmwareType
  | PSI
  | EBL
  | SecureImage
  | Firmware
  | DefaultNVData
  deriving DecidableEq, Repr

/-- Offset and length of an image in the firmware partition. -/
def FirmwareType.location : FirmwareType → ℕ × ℕ
  | PSI => (0, 61440)
  | EBL => (61440, 102400)
  | SecureImage => (10483712, 2048)
  | Firmware => (163840, 10321920)
  | DefaultNVData => (10485760, NVDATA_SIZE)

section
variable (md5 : Bytes → Vector UInt8 16)

def calculateMD5 (data : Bytes) : Bytes := binaryToHex (md5 (data ++ samsung_magic_words)).toList

/-- The loop of `calculateFileMD5`, with the number of chunks left to read and the bytes handed
to `MD5_Update` so far. -/
def updateFileMD5 (fd : ℕ) : (chunks : ℕ) → (i : ℕ) → (ctx : Bytes) → Sys (Option Bytes)
  | 0, _, ctx => return some ctx
  | chunks + 1, i, ctx => do
    match ← syscall (.pread fd 16384 i) with
    | .error _ => return none
    | .ok buf => updateFileMD5 fd chunks (i + 16384) (ctx ++ buf)

def calculateFileMD5 (fd offset size : ℕ) : Sys (Option Bytes) := do
  match ← updateFileMD5 fd ((size + 16383) / 16384) offset [] with
  | none => return none
  | some ctx => return some (binaryToHex (md5 (ctx ++ samsung_magic_words)).toList)

/-- Give up on a file. -/
def closeRejected (fd : ℕ) : Sys (Option ℕ) := do
  let _ ← syscall (.close fd)
  return none

/-- The check of the digest in `tryLoadNV`. -/
def checkDigest (filename : Bytes) (fd expected_size : ℕ) : Sys (Option ℕ) := do
  let digest := filename ++ str ".md5"
  match ← syscall (.access digest) with
  | .error _ => closeRejected fd
  | .ok () =>
    let content ← NativeFile.get digest
    match ← calculateFileMD5 md5 fd 0 expected_size with
    | none => closeRejected fd
    | some calculated_md5 =>
      if content.length ≠ 32 ∨ content.take 32 ≠ calculated_md5 then closeRejected fd
      else return some fd

def tryLoadNV (filename : Bytes) (md5_enabled : Bool) (expected_size : ℕ) : Sys (Option ℕ) := do
  match ← syscall (.open_ filename O_RDWR 0) with
  | .error _ => return none
  | .ok fd =>
    match ← syscall (.fstat fd) with
    | .error _ => closeRejected fd
    | .ok statbuf =>
      if statbuf.st_size ≠ expected_size then closeRejected fd
      else if md5_enabled then checkDigest md5 filename fd expected_size
      else return some fd

/-- `calculateFileMD5` of the NV data, or a panic. -/
def digestOrPanic (fd size : ℕ) : Sys Bytes := do
  match ← calculateFileMD5 md5 fd 0 size with
  | none => panic "calculateFileMD5"
  | some digest => return digest

/-- Write the marker that makes `.nv_state` enable the digests. -/
def writeMarker (m_efs : Bytes) : Sys Unit := do
  let marker ← openOrPanic (m_efs ++ str "/.nv_state") (O_WRONLY ||| O_TRUNC ||| O_CREAT) 0o600
  writeOrPanic marker (str "1")
  let _ ← syscall (.fsync marker)
  let _ ← syscall (.close marker)
  return ()

variable (fs : AndroidFileSystem)

def updateMD5 : Sys AndroidFileSystem := do
  let digest ← digestOrPanic md5 fs.m_nvdata NVDATA_SIZE
  let fd ← openOrPanic (fs.m_efs ++ str "/nv_data.bin.md5") (O_WRONLY ||| O_TRUNC ||| O_CREAT) 0o600
  writeOrPanic fd digest
  let _ ← syscall (.close fd)
  if fs.m_md5_enabled then return fs
  else do
    writeMarker fs.m_efs
    return { fs with m_md5_enabled := true }

def getFirmware (type : FirmwareType) : Sys Bytes := do
  let fd ← openOrPanic fs.m_firmware O_RDONLY 0o644
  let data ← NativeFile.pread fd type.location.2 type.location.1
  if data.length ≠ type.location.2 then panic "Short read"
  else do
    NativeFile.close fd
    return data

/-- The first megabyte, written when the backup is a full one. -/
def backupCore : Sys Unit := do
  let backup ← openOrPanic (fs.m_efs ++ str "/.nv_core.bak") (O_RDWR ||| O_CREAT ||| O_TRUNC) 0o600
  sendfileOrPanic backup fs.m_nvdata CORE_SIZE
  let core_digest ← digestOrPanic md5 backup CORE_SIZE
  let _ ← syscall (.fsync backup)
  let _ ← syscall (.close backup)
  NativeFile.put (fs.m_efs ++ str "/.nv_core.bak.md5") core_digest false

def backupNVData (full : Bool) : Sys AndroidFileSystem := do
  let fs ← if fs.m_md5_enabled then pure fs else fs.updateMD5 md5
  let digest ← NativeFile.get (fs.m_efs ++ str "/nv_data.bin.md5")
  let backup ← openOrPanic (fs.m_efs ++ str "/.nv_data.bak") (O_WRONLY ||| O_CREAT ||| O_TRUNC) 0o600
  sendfileOrPanic backup fs.m_nvdata NVDATA_SIZE
  let _ ← syscall (.fsync backup)
  let _ ← syscall (.close backup)
  NativeFile.put (fs.m_efs ++ str "/.nv_data.bak.md5") digest true
  if full then do
    fs.backupCore md5
    return fs
  else return fs

/-- The bounds check of the NV calls: `off_t` plus `size_t`, both of 32 bits, is unsigned. -/
def outOfRange (offset : Int32) (size : ℕ) : Bool :=
  NVDATA_SIZE < (offset.toUInt32.toNat + size) % 2 ^ 32

def readNVData (offset : Int32) (data : Bytes) : Sys (ℤ × Bytes) := do
  if outOfRange offset data.length then return (-ERANGE, data)
  else do
    match ← syscall (.pread fs.m_nvdata data.length offset.toInt) with
    | .error errno => return (-errno, data)
    | .ok bytes => return (0, bytes ++ data.drop bytes.length)

def writeNVData (offset : Int32) (data : Bytes) : Sys (AndroidFileSystem × ℤ) := do
  if outOfRange offset data.length then return (fs, -ERANGE)
  else do
    match ← syscall (.pwrite fs.m_nvdata data offset.toInt) with
    | .error errno => return (fs, -errno)
    | .ok _ => return (← fs.updateMD5 md5, 0)

/-- The first branch of the constructor that changes files: `nv_data.bin` from its backup. -/
def recoverBackup (backup : ℕ) : Sys AndroidFileSystem := do
  let nvdata ← openOrPanic (fs.m_efs ++ str "/nv_data.bin") (O_RDWR ||| O_CREAT ||| O_TRUNC) 0o600
  sendfileOrPanic nvdata backup NVDATA_SIZE
  let _ ← syscall (.close backup)
  updateMD5 md5 { fs with m_nvdata := nvdata }

/-- `nv_data.bin` and its backup from the secondary backup, padded with `0xFF`. -/
def copyCore (m_efs : Bytes) (core : ℕ) : Sys ℕ := do
  let padding : Bytes := List.replicate (NVDATA_SIZE - CORE_SIZE) 0xFF
  let nvdata ← openOrPanic (m_efs ++ str "/nv_data.bin") (O_RDWR ||| O_CREAT ||| O_TRUNC) 0o600
  let backup ← openOrPanic (m_efs ++ str "/.nv_data.bak") (O_RDWR ||| O_CREAT ||| O_TRUNC) 0o600
  sendfileOrPanic nvdata core CORE_SIZE
  sendfileOrPanic backup core CORE_SIZE
  writeOrPanic nvdata padding
  writeOrPanic backup padding
  let _ ← syscall (.fsync backup)
  let _ ← syscall (.close core)
  let _ ← syscall (.fsync nvdata)
  let _ ← syscall (.close backup)
  return nvdata

/-- The second branch that changes files. -/
def recoverCore (core : ℕ) : Sys AndroidFileSystem := do
  let nvdata ← copyCore fs.m_efs core
  let digest ← digestOrPanic md5 nvdata NVDATA_SIZE
  NativeFile.put (fs.m_efs ++ str "/.nv_data.bak.md5") digest true
  NativeFile.put (fs.m_efs ++ str "/.nv_data.md5") digest true
  return { fs with m_nvdata := nvdata }

/-- The last resort of the constructor: the blank NV data of the firmware. -/
def loadDefault : Sys AndroidFileSystem := do
  let nvdata ← openOrPanic (fs.m_efs ++ str "/nv_data.bin") (O_RDWR ||| O_CREAT ||| O_TRUNC) 0o600
  let fs := { fs with m_nvdata := nvdata }
  let data ← fs.getFirmware .DefaultNVData
  expectOrPanic (← syscall (.write nvdata data)) NVDATA_SIZE "write"
  let fs ← fs.updateMD5 md5
  fs.backupNVData md5 true

/-- Whether `.nv_state` enables the digests. -/
def readMarker (m_efs : Bytes) : Sys Bool := do
  let md5_marker_filename := m_efs ++ str "/.nv_state"
  match ← syscall (.access md5_marker_filename) with
  | .error _ => return false
  | .ok () =>
    let content ← NativeFile.get md5_marker_filename
    return content.length ≠ 1 ∨ content.head? ≠ some 48

/-- The constructor. No branch uses the 0 that stands for `m_nvdata` before it is set. -/
def construct (firmware efs : Bytes) : Sys AndroidFileSystem := do
  let m_md5_enabled ← readMarker efs
  let fs : AndroidFileSystem := ⟨firmware, efs, 0, m_md5_enabled, ∅, ∅⟩
  match ← tryLoadNV md5 (efs ++ str "/nv_data.bin") m_md5_enabled NVDATA_SIZE with
  | some nvdata => return { fs with m_nvdata := nvdata }
  | none =>
    match ← tryLoadNV md5 (efs ++ str "/.nv_data.bak") m_md5_enabled NVDATA_SIZE with
    | some backup => fs.recoverBackup md5 backup
    | none =>
      match ← tryLoadNV md5 (efs ++ str "/.nv_core.bak") m_md5_enabled CORE_SIZE with
      | some core => fs.recoverCore md5 core
      | none => fs.loadDefault md5

end
end FreeRil.AndroidFileSystem
