import FreeRil.AndroidFileSystem.Files
import FreeRil.Library.LittleEndian

/-! The boot of the modem: its loader, its images and the commands to its boot loader. Sizes and
offsets are natural numbers: a vector is shorter than `2 ^ 32` bytes, so that none of them wraps. -/
namespace FreeRil
open AndroidFileSystem

namespace SamsungModem

/-- The commands of the boot loader. -/
def SetPortConf : UInt16 := 0x86
def ReqSecStart : UInt16 := 0x204
def ReqSecEnd : UInt16 := 0x205
def ReqForceHwReset : UInt16 := 0x208
def ReqFlashSetAddress : UInt16 := 0x802
def ReqFlashWriteBlock : UInt16 := 0x804

/-- Which of the calls of `send` it is. -/
inductive Part
  | greeting
  | psiHeader
  | eblLength
  | image
  | crc
  | packet
  deriving DecidableEq, Repr

/-- The calls of `IIPCTransport`, `IIPCSocket` and `IFileSystem` that the boot makes. A `send` or
`recv` that fails panics, and has no answer. -/
inductive BootCall
  | createSocket
  | connect
  | redetect
  | close
  | send (part : Part) (data : Bytes)
  | recv (size : ℕ)
  | getFirmware (type : FirmwareType)
  | readNVData (offset : Int32) (data : Bytes)
  /-- A copy past the end of its buffer. -/
  | overrun
  /-- A loop that is still running. -/
  | running

/-- What a call returns: of `send` and `recv`, the bytes that went through. -/
abbrev BootCall.Ret : BootCall → Type
  | createSocket | close => Unit
  | connect | redetect => Bool
  | send .. => ℕ
  | recv size => { data : Bytes // data.length ≤ size }
  | getFirmware _ => Option Bytes
  | readNVData .. => ℤ × Bytes
  | overrun | running => Empty

abbrev Boot := Program BootCall.Ret

def call (c : BootCall) : Boot c.Ret := Program.request c

def overrun {α : Type} : Boot α := Program.call .overrun Empty.elim

def running {α : Type} : Boot α := Program.call .running Empty.elim

/-- A `send` whose result is not looked at. -/
def send (part : Part) (data : Bytes) : Boot Unit := do
  let _ ← call (.send part data)
  return ()

def recv (size : ℕ) : Boot Bytes := do return (← call (.recv size)).val

/-- `memcpy(&buf[offset], data, data_size)`. -/
def memcpy (buf : Bytes) (offset : ℕ) (data : Bytes) : Boot Bytes :=
  if buf.length < offset + data.length then overrun
  else return buf.take offset ++ data ++ buf.drop (offset + data.length)

def calculateCRC (data : Bytes) : UInt8 := data.foldl (· ^^^ ·) 0

def expectAck (data : Bytes) : Boot Bool := do
  let buf ← recv data.length
  if buf.length < data.length then return false
  else return buf = data

/-- The loops over an image: `chunk` is how much is handed over of what is left. -/
def sendImage (chunk : ℕ → ℕ) (image : Bytes) : (fuel offset : ℕ) → Boot Unit
  | 0, offset => if offset < image.length then running else return ()
  | fuel + 1, offset =>
    if offset < image.length then do
      let bytes ← call (.send .image ((image.drop offset).take (chunk (image.length - offset))))
      sendImage chunk image fuel (offset + bytes)
    else return ()

/-- The loop over the acknowledgements of the PSI. -/
def recvAcks : ℕ → Boot Bool
  | 0 => return true
  | n + 1 => do
    if (← recv 1).length = 0 then return false
    else recvAcks n

def psi_header (image : Bytes) : Bytes := [0x30] ++ LittleEndian.toBytes 2 image.length ++ [0xFF]

def sendPSI (fuel : ℕ) : Boot Bool := do
  match ← call (.getFirmware .PSI) with
  | none => return false
  | some image =>
    send .greeting (str "ATAT")
    if (← recv 1).length = 0 then return false
    else if (← recv 1).length = 0 then return false
    else do
      send .psiHeader (psi_header image)
      sendImage id image fuel 0
      send .crc [calculateCRC image]
      if !(← recvAcks 22) then return false
      else if !(← expectAck [0x01]) then return false
      else if !(← expectAck [0x01]) then return false
      else if !(← expectAck [0x00, 0xAA]) then return false
      else return true

def sendEBL (fuel : ℕ) : Boot Bool := do
  match ← call (.getFirmware .EBL) with
  | none => return false
  | some image =>
    send .eblLength (LittleEndian.toBytes 4 image.length)
    if !(← expectAck [0xCC, 0xCC]) then return false
    else do
      sendImage (min · 32768) image fuel 0
      send .crc [calculateCRC image]
      if !(← expectAck [0x51, 0xA5]) then return false
      else return true

structure bootloader_cmd_t where
  check : UInt16
  cmd : UInt16
  data_size : UInt32
  deriving DecidableEq, Repr

namespace bootloader_cmd_t

/-- `sizeof(bootloader_cmd_t)`. -/
def size : ℕ := 8

def toBytes (h : bootloader_cmd_t) : Bytes :=
  LittleEndian.toBytes 2 h.check.toNat ++ LittleEndian.toBytes 2 h.cmd.toNat ++
    LittleEndian.toBytes 4 h.data_size.toNat

def ofBytes (data : Bytes) : bootloader_cmd_t where
  check := .ofNat (LittleEndian.value (data.take 2))
  cmd := .ofNat (LittleEndian.value ((data.drop 2).take 2))
  data_size := .ofNat (LittleEndian.value ((data.drop 4).take 4))

end bootloader_cmd_t

/-- `acc`, which wraps at 16 bits. -/
def checksum (cmd : UInt16) (data : Bytes) : UInt16 :=
  data.foldl (fun acc byte => acc + byte.toUInt16) (.ofNat ((data.length &&& 0xFFFF) + cmd.toNat))

/-- What the packet of a command has room for after its header. -/
def capacity (cmd : UInt16) : ℕ := if cmd = SetPortConf then 0x800 else 0x4000

/-- The reply to a command, with as much data as the packet. -/
def recvReply (cmd : UInt16) (size : ℕ) : Boot Bool := do
  let reply ← recv bootloader_cmd_t.size
  if reply.length ≠ bootloader_cmd_t.size then return false
  else if (bootloader_cmd_t.ofBytes reply).cmd ≠ cmd then return false
  else do
    let reply_buf ← recv size
    if reply_buf.length ≠ size then return false
    else return true

def bootloaderCommand (cmd : UInt16) (data : Bytes) : Boot Bool := do
  let header : bootloader_cmd_t := ⟨checksum cmd data, cmd, .ofNat data.length⟩
  let buf ← memcpy (List.replicate (capacity cmd + bootloader_cmd_t.size) 0) 0 header.toBytes
  let buf ← memcpy buf 8 data
  send .packet buf
  if cmd ≠ ReqForceHwReset ∧ cmd ≠ ReqFlashWriteBlock then recvReply cmd (capacity cmd)
  else return true

/-- `readBootInfo`, `boot_info_t` being 76 bytes long. -/
def readBootInfo : Boot Bool := do
  let info ← recv 76
  if info.length ≠ 76 then return false
  else bootloaderCommand SetPortConf info

/-- The loop of `loadFlashImage`. -/
def writeBlocks (image : Bytes) (offset : ℕ) : Boot Bool :=
  if offset < image.length then do
    let chunk := min (image.length - offset) 16384
    if !(← bootloaderCommand ReqFlashWriteBlock ((image.drop offset).take chunk)) then return false
    else writeBlocks image (offset + chunk)
  else return true
termination_by image.length - offset

def loadFlashImage (address : UInt32) (image : Bytes) : Boot Bool := do
  if !(← bootloaderCommand ReqFlashSetAddress (LittleEndian.toBytes 4 address.toNat)) then return false
  else writeBlocks image 0

def sendSecureImage : Boot Bool := do
  match ← call (.getFirmware .SecureImage) with
  | none => return false
  | some secure =>
    match ← call (.getFirmware .Firmware) with
    | none => return false
    | some firmware =>
      let (ret, nvdata) ← call (.readNVData 0 (List.replicate 2097152 0))
      if ret < 0 then return false
      else if !(← bootloaderCommand ReqSecStart secure) then return false
      else if !(← loadFlashImage 0x60300000 firmware) then return false
      else if !(← loadFlashImage 0x60e80000 nvdata) then return false
      else bootloaderCommand ReqSecEnd (LittleEndian.toBytes 2 0x0000)

def boot (fuel : ℕ) : Boot Bool := do
  let _ ← call .createSocket
  if !(← call .connect) then return false
  else if !(← sendPSI fuel) then return false
  else if !(← sendEBL fuel) then return false
  else if !(← readBootInfo) then return false
  else if !(← sendSecureImage) then return false
  else if !(← bootloaderCommand ReqForceHwReset (LittleEndian.toBytes 4 0x00111001)) then return false
  else do
    let _ ← call .close
    if !(← call .redetect) then return false
    else return true

end SamsungModem
end FreeRil
