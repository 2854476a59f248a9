import FreeRil.Compiler.Cast
import FreeRil.Message
import FreeRil.Protocol
import FreeRil.Syscall

/-! The handler of the RFS channel: the modem's requests for files and NV data, over any
implementation of `IFileSystem`. Values of type `int` are integers. -/
namespace FreeRil
open Messages

/-- The calls of `IFileSystem` that the handler makes. Arguments taken by reference are given with
what they hold, and come back with what the call leaves in them. A `statbuf` is written or left alone. -/
inductive IFileSystem
  | readNVData (offset : Int32) (data : Bytes)
  | writeNVData (offset : Int32) (data : Bytes)
  | readFile (fd : ℤ) (data : Bytes)
  | writeFile (fd : ℤ) (data : Bytes)
  | lseekFile (fd offset whence : ℤ)
  | closeFile (fd : ℤ)
  | renameFile (oldName newName : Bytes)
  | getFileInfoByHandle (fd : ℤ)
  | deleteFile (filename : Bytes)
  | makeDirectory (filename : Bytes)
  | deleteDirectory (filename : Bytes)
  | openDirectory (filename : Bytes)
  | readDirectory (fd : ℤ) (filename : Bytes)
  | closeDirectory (fd : ℤ)
  | openFile (filename : Bytes) (flags : ℤ)
  | ftruncateFile (fd : ℤ) (size : UInt32)

/-- What a call returns. -/
abbrev IFileSystem.Ret : IFileSystem → Type
  | readNVData .. | readFile .. | readDirectory .. => ℤ × Bytes
  | getFileInfoByHandle .. => ℤ × Option Stat
  | _ => ℤ

/-- The fields of `struct tm` that are used. -/
structure BrokenDownTime where
  tm_year : ℤ
  tm_mon : ℤ
  tm_mday : ℤ
  tm_hour : ℤ
  tm_min : ℤ
  tm_sec : ℤ

namespace RFSSocketHandler

/-- What the handler must never do. -/
inductive Fault
  /-- Use a message as an object of a class that it is not of. -/
  | badCast
  /-- Copy `header.length - sizeof(Message::RFSHeader)` bytes where the difference underflows. -/
  | copySize
  /-- Read a payload outside the bytes received. -/
  | payloadRange
  /-- Ask for more memory than there is, which ends the process. -/
  | memory
  deriving DecidableEq, Repr

/-- What a handler does with the file system before it has its response. -/
abbrev Handling := Program IFileSystem.Ret Message

def call (c : IFileSystem) : Program IFileSystem.Ret c.Ret := Program.request c

/-- `std::vector::resize`. -/
def resize (data : Bytes) (n : ℕ) : Bytes := data.take n ++ List.replicate (n - data.length) 0

/-- The name in a buffer of fixed size. -/
def assign (name : Bytes) (nameSize : UInt32) : Bytes := name.take (min name.length nameSize.toNat)

/-- An unsigned field passed on as an `int`. -/
def toInt (n : UInt32) : ℤ := n.toInt32.toInt

/-- The fields `ret` and `errno` of a reply, which most replies consist of. -/
def buildReply (ret : ℤ) : UInt32 × UInt32 × Unit :=
  if ret < 0 then (.ofInt (-1), .ofInt (-ret), ()) else (.ofInt ret, 0, ())

def S_ISDIR (mode : ℕ) : Bool := mode &&& 0o170000 = 0o40000

def handleNvRead : Struct RfsNvRead.fields → Handling
  | (offset, size, ()) => do
    let len := min 512 size.toNat
    let (ret, data) ← call (.readNVData offset.toInt32 (resize [] len))
    let data := resize data 512
    return ⟨CMD_RFS, RfsNvReadReply, (if ret = 0 then 1 else 0 : UInt8), offset, size, data, ()⟩

def handleNvWrite : Struct RfsNvWrite.fields → Handling
  | (offset, size, data, ()) => do
    let ret ← call (.writeNVData offset.toInt32 data)
    return ⟨CMD_RFS, RfsNvWriteReply, (if ret = 0 then 1 else 0 : UInt8), offset, size, ()⟩

def handleReadFile : Struct RfsReadFile.fields → Handling
  | (fd, bytes, ()) => do
    let (ret, data) ← call (.readFile (toInt fd) (resize [] (min 4096 bytes.toNat)))
    let data := resize data 4096
    let (ret, errno, _) := buildReply ret
    return ⟨CMD_RFS, RfsReadFileReply, ret, errno, data, ()⟩

def handleWriteFile : Struct RfsWriteFile.fields → Handling
  | (fd, _, data, ()) => do
    let ret ← call (.writeFile (toInt fd) data)
    return ⟨CMD_RFS, RfsWriteFileReply, buildReply ret⟩

def handleLseekFile : Struct RfsLseekFile.fields → Handling
  | (fd, offset, whence, ()) => do
    let ret ← call (.lseekFile (toInt fd) (toInt offset) (toInt whence))
    return ⟨CMD_RFS, RfsLseekFileReply, buildReply ret⟩

def handleCloseFile : Struct RfsCloseFile.fields → Handling
  | (fd, ()) => do
    let ret ← call (.closeFile (toInt fd))
    return ⟨CMD_RFS, RfsCloseFileReply, buildReply ret⟩

/-- Open a file and close it after one operation, which returns something besides its status. -/
def withFile {α : Type} (filename : Bytes) (flags : ℤ) (otherwise : α)
    (operation : ℤ → Program IFileSystem.Ret (ℤ × α)) : Program IFileSystem.Ret (ℤ × α) := do
  let fd ← call (.openFile filename flags)
  if 0 ≤ fd then do
    let result ← operation fd
    let _ ← call (.closeFile fd)
    return result
  else return (fd, otherwise)

def handlePutFile : Struct RfsPutFile.fields → Handling
  | (flags, nameSize, name, _, data, ()) => do
    let (ret, _) ← withFile (assign name nameSize) (toInt flags) () fun fd => do
      return (← call (.writeFile fd data), ())
    return ⟨CMD_RFS, RfsPutFileReply, buildReply ret⟩

def handleGetFile : Struct RfsGetFile.fields → Handling
  | (nameSize, name, size, ()) => do
    let data := resize [] (min 4096 size.toNat)
    let (ret, data) ← withFile (assign name nameSize) (toInt O_RDONLY) data fun fd =>
      call (.readFile fd data)
    let data := resize data 4096
    let (ret, errno, _) := buildReply ret
    return ⟨CMD_RFS, RfsGetFileReply, ret, errno, data, ()⟩

def handleRenameFile : Struct RfsRenameFile.fields → Handling
  | (oldNameSize, oldName, newNameSize, newName, ()) => do
    let ret ← call (.renameFile (assign oldName oldNameSize) (assign newName newNameSize))
    return ⟨CMD_RFS, RfsRenameFileReply, buildReply ret⟩

def handleDeleteFile : Struct RfsDeleteFile.fields → Handling
  | (nameSize, name, ()) => do
    let ret ← call (.deleteFile (assign name nameSize))
    return ⟨CMD_RFS, RfsDeleteFileReply, buildReply ret⟩

def handleMakeDirectory : Struct RfsMakeDirectory.fields → Handling
  | (nameSize, name, ()) => do
    let ret ← call (.makeDirectory (assign name nameSize))
    return ⟨CMD_RFS, RfsMakeDirectoryReply, buildReply ret⟩

def handleDeleteDirectory : Struct RfsDeleteDirectory.fields → Handling
  | (nameSize, name, ()) => do
    let ret ← call (.deleteDirectory (assign name nameSize))
    return ⟨CMD_RFS, RfsDeleteDirectoryReply, buildReply ret⟩

def handleOpenDirectory : Struct RfsOpenDirectory.fields → Handling
  | (nameSize, name, ()) => do
    let ret ← call (.openDirectory (assign name nameSize))
    return ⟨CMD_RFS, RfsOpenDirectoryReply, buildReply ret⟩

/-- The end of a directory is answered as an error without an `errno`. -/
def handleReadDirectory : Struct RfsReadDirectory.fields → Handling
  | (fd, ()) => do
    let (ret, name) ← call (.readDirectory (toInt fd) [])
    if ret = 1 then
      let len := min 1024 name.length
      let data := resize (name.take len) 1024
      return ⟨CMD_RFS, RfsReadDirectoryReply, (0 : UInt32), .ofNat len, data, (0 : UInt32), ()⟩
    else
      let data := resize [] 1024
      return ⟨CMD_RFS, RfsReadDirectoryReply, .ofInt (-1), (0 : UInt32), data, .ofInt (-ret), ()⟩

def handleCloseDirectory : Struct RfsCloseDirectory.fields → Handling
  | (fd, ()) => do
    let ret ← call (.closeDirectory (toInt fd))
    return ⟨CMD_RFS, RfsCloseDirectoryReply, buildReply ret⟩

def handleOpenFile : Struct RfsOpenFile.fields → Handling
  | (flags, nameSize, name, ()) => do
    let ret ← call (.openFile (assign name nameSize) (toInt flags))
    return ⟨CMD_RFS, RfsOpenFileReply, buildReply ret⟩

def handleFtruncateFile : Struct RfsFtruncateFile.fields → Handling
  | (fd, size, ()) => do
    let ret ← call (.ftruncateFile (toInt fd) size)
    return ⟨CMD_RFS, RfsFtruncateFileReply, buildReply ret⟩

def handleNvWriteAll : Struct RfsNvWriteAll.fields → Handling
  | (offset, size, data, ()) => do
    let ret ← call (.writeNVData offset.toInt32 data)
    return ⟨CMD_RFS, RfsNvWriteAllReply, (if ret = 0 then 1 else 0 : UInt8), offset, size, ()⟩

section
variable (localtime_r : ℤ → BrokenDownTime) (statbuf : Stat)

/-- The fields of a broken-down time in a reply, followed by others. -/
def buildTime {α : Type} (stamp : ℤ) (rest : α) :
    UInt8 × UInt8 × UInt8 × UInt8 × UInt8 × UInt8 × α :=
  let broken := localtime_r stamp
  (.ofInt (broken.tm_year - 100), .ofInt (broken.tm_mon + 1), .ofInt broken.tm_mday,
    .ofInt broken.tm_hour, .ofInt broken.tm_min, .ofInt broken.tm_sec, rest)

/-- The fields of `buildReply` and `buildFileInfo`. -/
def buildFileInfo (ret : ℤ) (statbuf : Stat) : Struct RfsGetFileInfoReply.fields :=
  let (ret, errno, _) := buildReply ret
  (ret, (if S_ISDIR statbuf.st_mode then 1 else 2 : UInt16), .ofNat statbuf.st_size,
    buildTime localtime_r statbuf.st_ctime
      (buildTime localtime_r statbuf.st_mtime ((errno, ()) : UInt32 × Unit)))

/-- `statbuf` holds what its memory held unless the file system has written it. -/
def handleGetFileInfo : Struct RfsGetFileInfo.fields → Handling
  | (nameSize, name, ()) => do
    let (ret, info) ← withFile (cstr (assign name nameSize)) (toInt O_RDONLY) none fun fd =>
      call (.getFileInfoByHandle fd)
    return ⟨CMD_RFS, RfsGetFileInfoReply, buildFileInfo localtime_r ret (info.getD statbuf)⟩

def handleGetFileInfoByHandle : Struct RfsGetFileInfoByHandle.fields → Handling
  | (fd, ()) => do
    let (ret, info) ← call (.getFileInfoByHandle (toInt fd))
    return ⟨CMD_RFS, RfsGetFileInfoByHandleReply, buildFileInfo localtime_r ret (info.getD statbuf)⟩

/-- An element of `m_handlers`, which begins with a `static_cast` of the message it is given. -/
structure Handler where
  definition : MessageDefinition
  handle : Struct definition.fields → Handling

/-- `m_handlers`; `NULL` is `none`. -/
def m_handlers : List (Option Handler) :=
  [some ⟨RfsNvRead, handleNvRead⟩,
   some ⟨RfsNvWrite, handleNvWrite⟩,
   some ⟨RfsReadFile, handleReadFile⟩,
   some ⟨RfsWriteFile, handleWriteFile⟩,
   some ⟨RfsLseekFile, handleLseekFile⟩,
   some ⟨RfsCloseFile, handleCloseFile⟩,
   some ⟨RfsPutFile, handlePutFile⟩,
   some ⟨RfsGetFile, handleGetFile⟩,
   some ⟨RfsRenameFile, handleRenameFile⟩,
   some ⟨RfsGetFileInfo, handleGetFileInfo localtime_r statbuf⟩,
   some ⟨RfsDeleteFile, handleDeleteFile⟩,
   some ⟨RfsMakeDirectory, handleMakeDirectory⟩,
   some ⟨RfsDeleteDirectory, handleDeleteDirectory⟩,
   some ⟨RfsOpenDirectory, handleOpenDirectory⟩,
   some ⟨RfsReadDirectory, handleReadDirectory⟩,
   some ⟨RfsCloseDirectory, handleCloseDirectory⟩,
   some ⟨RfsOpenFile, handleOpenFile⟩,
   some ⟨RfsFtruncateFile, handleFtruncateFile⟩,
   some ⟨RfsGetFileInfoByHandle, handleGetFileInfoByHandle localtime_r statbuf⟩,
   none,
   some ⟨RfsNvWriteAll, handleNvWriteAll⟩]

def FirstType : UInt8 := RfsNvRead.type

def LastType : UInt8 := RfsNvWriteAll.type

/-- The handler of a type, if there is one. -/
def handlerOf (type : UInt8) : Option Handler :=
  if type < FirstType ∨ LastType < type then none
  else (m_handlers localtime_r statbuf).getD (type - FirstType).toNat none

/-- The frame handed to `sendData`: a buffer of `header.length` bytes. -/
def sendMessage (header : RFSHeader) (data : Bytes) : Except Fault (List Bytes) :=
  if header.length.toNat < RFSHeader.size then .error .copySize
  else .ok [header.toBytes ++ data.take header.payloadLength]

/-- The end of `handleMessage`. -/
def respond (header : RFSHeader) (response : Message) : Except Fault (List Bytes) :=
  match response.marshal with
  | none => .ok []
  | some data =>
    sendMessage ⟨.ofNat (RFSHeader.size + data.length), response.subcommand, header.sequence⟩ data

end

/-- What the memory has held that a frame is handled in. -/
structure Leftover where
  message : Memory
  statbuf : Stat

section
variable (localtime_r : ℤ → BrokenDownTime) (leftover : Leftover)

/-- The frames sent. -/
def handleMessage (header : RFSHeader) (data : Bytes) :
    Program IFileSystem.Ret (Except Fault (List Bytes)) :=
  match handlerOf localtime_r leftover.statbuf header.type with
  | none => return if data.length < header.payloadLength then .error .payloadRange else .ok []
  | some handler =>
    match Factory.create protocol CMD_RFS.type header.type with
    | none => return .ok []
    | some (group, definition) =>
      if data.length < header.payloadLength then return .error .payloadRange
      else
        match definition.readFromStream leftover.message (.init (data.take header.payloadLength) .Read) with
        | none => return .error .memory
        | some (read, value, stream) =>
          if read ∧ stream.atEnd then
            match Message.static_cast ⟨group, definition, value⟩ handler.definition with
            | none => return .error .badCast
            | some message => do return respond header (← handler.handle message)
          else return .ok []

def handleReassembledMessage (data : Bytes) : Program IFileSystem.Ret (Except Fault (List Bytes)) :=
  handleMessage localtime_r leftover (RFSHeader.ofBytes data) (data.drop RFSHeader.size)

end

/-- Frames handled one after the other: what is sent, and how it has ended if it has before the last. -/
def session (localtime_r : ℤ → BrokenDownTime) :
    List (Bytes × Leftover) → Program IFileSystem.Ret (List Bytes × Option Fault)
  | [] => return ([], none)
  | (data, leftover) :: frames => do
    match ← handleReassembledMessage localtime_r leftover data with
    | .error fault => return ([], some fault)
    | .ok sent =>
      let (others, fault) ← session localtime_r frames
      return (sent ++ others, fault)

end RFSSocketHandler
end FreeRil
