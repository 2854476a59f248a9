import FreeRil.Syscall

/-! The file system the modem works on, and the operations it names files with. -/
namespace FreeRil

/-- The character between the components of a path. -/
def slash : UInt8 := 47

structure AndroidFileSystem where
  m_firmware : Bytes
  m_efs : Bytes
  m_nvdata : ℕ
  m_md5_enabled : Bool
  m_rfsDescriptors : Finset ℕ
  m_rfsDirectories : Finset UInt32

namespace AndroidFileSystem

/-- The value of `translateReturn` for a call that returned or failed. -/
def translateReturn : Except ℕ ℕ → ℤ
  | .ok ret => ret
  | .error errno => -errno

/-- The loop of `expandAndValidateFilename`, which goes from slash to slash. -/
def validate (m_efs expanded : Bytes) (offset : ℕ) : ℤ :=
  let next_offset := find expanded slash (offset + 1)
  if offset = 0 ∧ substr expanded 0 next_offset ≠ m_efs then -EACCES
  else if substr expanded (offset + 1) (next_offset.map (· - offset)) = str "/.." then -EACCES
  else
    match _ : find expanded slash (offset + 1) with
    | none => 0
    | some next => validate m_efs expanded next
termination_by expanded.length - offset
decreasing_by
  have hlt := find_lt ‹_›
  omega

variable (fs : AndroidFileSystem)

/-- The value returned and the string left in `expanded`. -/
def expandAndValidateFilename (filename : Bytes) : ℤ × Bytes :=
  let expanded :=
    if filename.head? = some slash then filename else fs.m_efs ++ str "/" ++ filename
  (validate fs.m_efs expanded 0, expanded)

/-- The body of the loop of `makePath`: the `errno` it returns with, unless it goes on. -/
def makePathStep (expanded : Bytes) (offset : ℕ) : Sys (Option ℕ) :=
  if offset ≠ 0 then do
    match ← syscall (.mkdir (cstr (substr expanded 0 (some offset))) 0o700) with
    | .error errno => return if errno ≠ EEXIST then some errno else none
    | .ok () => return none
  else return none

/-- The loop of `makePath`. -/
def makePathFrom (expanded : Bytes) (offset : ℕ) : Sys ℤ := do
  match ← makePathStep expanded offset with
  | some errno => return -errno
  | none =>
    match _ : find expanded slash (offset + 1) with
    | none => return 0
    | some next => makePathFrom expanded next
termination_by expanded.length - offset
decreasing_by
  have hlt := find_lt ‹_›
  omega

def makePath (expanded : Bytes) : Sys ℤ := makePathFrom expanded 0

/-- What every operation on a file name does first. -/
def withFilename (filename : Bytes) (k : Bytes → Sys (AndroidFileSystem × ℤ)) :
    Sys (AndroidFileSystem × ℤ) :=
  let (ret, expanded) := fs.expandAndValidateFilename filename
  if ret ≠ 0 then pure (fs, ret) else k expanded

/-- What most of them do next. -/
def withPath (expanded : Bytes) (k : Sys (AndroidFileSystem × ℤ)) :
    Sys (AndroidFileSystem × ℤ) := do
  let ret ← makePath expanded
  if ret ≠ 0 then return (fs, ret) else k

/-- The value of `translateReturn` for a call that only succeeds or fails. -/
def translateUnit (result : Except ℕ Unit) : ℤ := translateReturn (result.map fun _ => 0)

def openFile (filename : Bytes) (flags : UInt32) : Sys (AndroidFileSystem × ℤ) :=
  fs.withFilename filename fun expanded => fs.withPath expanded do
    match ← syscall (.open_ (cstr expanded) flags 0o600) with
    | .ok fd =>
      return ({ fs with m_rfsDescriptors := insert fd fs.m_rfsDescriptors }, fd)
    | .error errno => return (fs, -errno)

def deleteFile (filename : Bytes) : Sys (AndroidFileSystem × ℤ) :=
  fs.withFilename filename fun expanded => do
    return (fs, translateUnit (← syscall (.unlink (cstr expanded))))

def renameFile (oldName newName : Bytes) : Sys (AndroidFileSystem × ℤ) :=
  fs.withFilename oldName fun oldExpanded => fs.withFilename newName fun newExpanded =>
    fs.withPath newExpanded do
      return (fs, translateUnit (← syscall (.rename (cstr oldExpanded) (cstr newExpanded))))

def makeDirectory (filename : Bytes) : Sys (AndroidFileSystem × ℤ) :=
  fs.withFilename filename fun expanded => fs.withPath expanded do
    return (fs, translateUnit (← syscall (.mkdir (cstr expanded) 0o700)))

def deleteDirectory (filename : Bytes) : Sys (AndroidFileSystem × ℤ) :=
  fs.withFilename filename fun expanded => fs.withPath expanded do
    return (fs, translateUnit (← syscall (.rmdir (cstr expanded))))

/-- The stream is handed out as the `int` its pointer converts to. -/
def openDirectory (filename : Bytes) : Sys (AndroidFileSystem × ℤ) :=
  fs.withFilename filename fun expanded => fs.withPath expanded do
    match ← syscall (.opendir (cstr expanded)) with
    | .ok dir =>
      return ({ fs with m_rfsDirectories := insert dir fs.m_rfsDirectories }, dir.toInt32.toInt)
    | .error errno => return (fs, -errno)

/-- The operations that take file names from the modem. -/
inductive NamedRequest
  | openFile (filename : Bytes) (flags : UInt32)
  | deleteFile (filename : Bytes)
  | renameFile (oldName newName : Bytes)
  | makeDirectory (filename : Bytes)
  | deleteDirectory (filename : Bytes)
  | openDirectory (filename : Bytes)

def NamedRequest.names : NamedRequest → List Bytes
  | .openFile filename _ | .deleteFile filename | .makeDirectory filename
  | .deleteDirectory filename | .openDirectory filename => [filename]
  | .renameFile oldName newName => [oldName, newName]

def perform : NamedRequest → Sys (AndroidFileSystem × ℤ)
  | .openFile filename flags => fs.openFile filename flags
  | .deleteFile filename => fs.deleteFile filename
  | .renameFile oldName newName => fs.renameFile oldName newName
  | .makeDirectory filename => fs.makeDirectory filename
  | .deleteDirectory filename => fs.deleteDirectory filename
  | .openDirectory filename => fs.openDirectory filename

end AndroidFileSystem
end FreeRil
