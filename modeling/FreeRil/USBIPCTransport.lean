import FreeRil.Library.Monitor
import FreeRil.SamsungModem.Dump

/-! The link to the modem over USB: its sockets, the power of the modem and of the host controller,
and what is asked of the driver for them. -/
namespace FreeRil
open SamsungModem

/-- The requests of `ioctl`, with what their arguments point to. -/
inductive Ioctl
  | MODEM_ON
  | MODEM_OFF
  | LINK_CONTROL_ENABLE (active : Bool)
  | LINK_CONTROL_ACTIVE (active : Bool)
  | LINK_CONNECTED
  | LINK_GET_HOSTWAKE
  deriving DecidableEq, Repr

/-- The calls of the kernel. Calls of a boot or of a dump that have nothing to do with the link are
passed on. -/
inductive LinkCall
  | open_ (file : Bytes) (flags : UInt32)
  | close (fd : ℕ)
  | read (fd size : ℕ)
  | write (fd : ℕ) (data : Bytes)
  /-- Whether there is something to read before the time-out, in milliseconds. -/
  | select (fd timeout : ℕ)
  | ioctl (fd : ℕ) (request : Ioctl)
  | usleep (microseconds : ℕ)
  | panic (message : String)
  | panicErrno (message : String)
  /-- A socket is used that has been deleted. -/
  | dangling
  | other (c : DumpCall)

abbrev LinkCall.Ret : LinkCall → Type
  | open_ .. | write .. => Except ℕ ℕ
  | close _ | usleep _ => Unit
  | read _ size => Except ℕ { data : Bytes // data.length ≤ size }
  | select .. => Except ℕ Bool
  | ioctl .. => Except ℕ ℤ
  | panic _ | panicErrno _ | dangling => Empty
  | other c => c.Ret

abbrev Link := Program LinkCall.Ret

def linkCall (c : LinkCall) : Link c.Ret := Program.request c

def linkPanic {α : Type} (message : String) : Link α := .call (.panic message) Empty.elim

/-- The value of a call, or `panicErrno`. -/
def orPanic {α : Type} (message : String) : Except ℕ α → Link α
  | .ok a => .done a
  | .error _ => .call (.panicErrno message) Empty.elim

/-- `m_file` of a socket that is closed is `NULL`. -/
structure USBIPCSocket where
  m_file : Option ℕ

/-- The transport, with the sockets that there are. -/
structure USBIPCTransport where
  m_directory : Bytes
  /-- The directory of the host controller. -/
  m_path : Bytes
  m_controlFile : ℕ
  m_bootSocket : Option ℕ
  sockets : ℕ → Option USBIPCSocket
  /-- Where the next socket is allocated. -/
  next : ℕ

namespace SysfsControlledDevice

def write (m_path filename value : Bytes) : Link Unit := do
  let fd ← orPanic "open" (← linkCall (.open_ (m_path ++ str "/" ++ filename) O_WRONLY))
  let _ ← orPanic "write" (← linkCall (.write fd value))
  linkCall (.close fd)

end SysfsControlledDevice

namespace USBIPCTransport
variable (t : USBIPCTransport)

/-- The names of the devices of channels. -/
inductive Channel
  | Boot
  | IPC
  | Loopback
  | RamDump
  | RFS

def deviceName : Channel → Bytes
  | .Boot => str "umts_boot0"
  | .IPC => str "umts_ipc0"
  | .Loopback => str "umts_loopback0"
  | .RamDump => str "umts_ramdump0"
  | .RFS => str "umts_rfs0"

def ehci_power : Bytes := str "ehci_power"

/-- A transport with the control file open. -/
def construct (directory ehci_directory : Bytes) : Link USBIPCTransport := do
  let fd ← orPanic "open" (← linkCall (.open_ (directory ++ str "link_pm") O_RDWR))
  return ⟨directory, ehci_directory, fd, none, fun _ => none, 0⟩

/-- The socket is at the address that is returned. -/
def createSocket (channel : Channel) : Link (USBIPCTransport × ℕ) := do
  let fd ← orPanic "open" (← linkCall (.open_ (t.m_directory ++ deviceName channel) O_RDWR))
  let bootSocket := match channel, t.m_bootSocket with
    | .Boot, none => some t.next
    | _, m_bootSocket => m_bootSocket
  return ({ t with m_bootSocket := bootSocket, next := t.next + 1,
                   sockets := Function.update t.sockets t.next (some ⟨some fd⟩) }, t.next)

/-! The methods of a socket. -/

/-- `fd`, and the check at the start of the other methods. -/
def fd (socket : ℕ) : Link ℕ :=
  match t.sockets socket with
  | none => .call .dangling Empty.elim
  | some ⟨none⟩ => linkPanic "Socket isn't open"
  | some ⟨some fd⟩ => return fd

def send (socket : ℕ) (buf : Bytes) : Link ℕ := do
  orPanic "write" (← linkCall (.write (← t.fd socket) buf))

/-- With the time-out of one second. -/
def recv (socket size : ℕ) : Link { data : Bytes // data.length ≤ size } := do
  let fd ← t.fd socket
  if ← orPanic "select" (← linkCall (.select fd 1000)) then
    orPanic "read" (← linkCall (.read fd size))
  else return ⟨[], Nat.zero_le _⟩

def close (socket : ℕ) : Link USBIPCTransport := do
  linkCall (.close (← t.fd socket))
  return { t with sockets := Function.update t.sockets socket (some ⟨none⟩) }

/-- The destructor, with `socketDestroyed`. -/
def delete (socket : ℕ) : Link USBIPCTransport := do
  match t.sockets socket with
  | some ⟨some fd⟩ => linkCall (.close fd)
  | _ => pure ()
  return { t with
    m_bootSocket := if t.m_bootSocket = some socket then none else t.m_bootSocket
    sockets := Function.update t.sockets socket none }

/-! Power and connection. -/

def setLink (up keepModem : Bool) : Link Unit := do
  if !keepModem then
    match t.m_bootSocket with
    | none => linkPanic ("Open boot socket is required for modem power switching " ++
        "due to limitations of kernel mode driver interface.")
    | some socket =>
      let _ ← orPanic "ioctl(IOCTL_MODEM_ON/OFF)"
        (← linkCall (.ioctl (← t.fd socket) (if up then .MODEM_ON else .MODEM_OFF)))
  let _ ← orPanic "ioctl(IOCTL_LINK_CONTROL_ENABLE)"
    (← linkCall (.ioctl t.m_controlFile (.LINK_CONTROL_ENABLE up)))
  SysfsControlledDevice.write t.m_path ehci_power (if up then str "1" else str "0")
  let _ ← orPanic "ioctl(IOCTL_LINK_CONTROL_ACTIVE)"
    (← linkCall (.ioctl t.m_controlFile (.LINK_CONTROL_ACTIVE up)))
  return ()

def isLinkUp : Link Bool := do
  let ret ← orPanic "ioctl(IOCTL_LINK_CONNECTED)"
    (← linkCall (.ioctl t.m_controlFile .LINK_CONNECTED))
  return ret ≠ 0

def isWokenUp : Link Bool := do
  let ret ← orPanic "ioctl(IOCTL_LINK_GET_HOSTWAKE)"
    (← linkCall (.ioctl t.m_controlFile .LINK_GET_HOSTWAKE))
  return ret = 0

/-- The loops that wait for `status`, half a second between two tries. There is a try at first. -/
def waitFor (check : Link Bool) (status : Bool) : (tries : ℕ) → Link Bool
  | 0 => return true
  | tries + 1 => do
    if (← check) ≠ status then
      if tries = 0 then return false
      else do
        linkCall (.usleep 500000)
        waitFor check status tries
    else return true

def waitForWakeup (status : Bool) : Link Bool := waitFor t.isWokenUp status 10

def toggleTransport (keep_modem : Bool) : Link Bool := do
  let awake ← if keep_modem then t.waitForWakeup true else pure true
  if !awake then return false
  else do
    t.setLink false keep_modem
    let asleep ← if keep_modem then t.waitForWakeup false else pure true
    if !asleep then do
      t.setLink true true
      return false
    else do
      t.setLink true keep_modem
      waitFor t.isLinkUp true 4

def connect : Link Bool := t.toggleTransport false

def redetect : Link Bool := t.toggleTransport true

end USBIPCTransport

/-! The modem over this transport. -/

/-- The transport and `bootSocket`, as far as there is one. -/
structure BootingModem where
  m_ipctransport : USBIPCTransport
  bootSocket : Option ℕ

namespace BootingModem
variable (m : BootingModem)

/-- A method of the socket. -/
def onSocket {α : Type} (method : ℕ → Link α) : Link α :=
  match m.bootSocket with
  | none => .call .dangling Empty.elim
  | some socket => method socket

/-- The calls of `boot` and `dump`. -/
def answer (m : BootingModem) : (c : DumpCall) → Link (BootingModem × c.Ret)
  | .boot .createSocket => do
    let (t, socket) ← m.m_ipctransport.createSocket .Boot
    return (⟨t, some socket⟩, ())
  | .boot .connect => do return (m, ← m.m_ipctransport.connect)
  | .boot .redetect => do return (m, ← m.m_ipctransport.redetect)
  | .boot .close => do return (⟨← m.onSocket m.m_ipctransport.close, m.bootSocket⟩, ())
  | .boot (.send _ data) =>
    do return (m, ← m.onSocket fun socket => m.m_ipctransport.send socket data)
  | .boot (.recv size) =>
    do return (m, ← m.onSocket fun socket => m.m_ipctransport.recv socket size)
  | .boot (.getFirmware type) => do return (m, ← linkCall (.other (.boot (.getFirmware type))))
  | .boot (.readNVData offset data) =>
    do return (m, ← linkCall (.other (.boot (.readNVData offset data))))
  | .boot .overrun => .call (.other (.boot .overrun)) Empty.elim
  | .boot .running => .call (.other (.boot .running)) Empty.elim
  | .send data => do return (m, ← m.onSocket fun socket => m.m_ipctransport.send socket data)
  | .write data => do return (m, ← linkCall (.other (.write data)))
  | .progress value max => do return (m, ← linkCall (.other (.progress value max)))

/-- What is done with the modem. -/
inductive Operation
  | boot
  | dump

def Operation.program (fuel : ℕ) : Operation → Dump Bool
  | .boot => ofBoot (SamsungModem.boot fuel)
  | .dump => SamsungModem.dump fuel

/-- The socket is deleted at the end, whatever comes of it. -/
def perform (fuel : ℕ) (t : USBIPCTransport) (operation : Operation) :
    Link (USBIPCTransport × Bool) := do
  let (m, ret) ← (operation.program fuel).interpret answer ⟨t, none⟩
  match m.bootSocket with
  | none => return (m.m_ipctransport, ret)
  | some socket => return (← m.m_ipctransport.delete socket, ret)

/-- One operation after the other. -/
def performAll (fuel : ℕ) (t : USBIPCTransport) : List Operation → Link USBIPCTransport
  | [] => return t
  | operation :: operations => do
    let (t, _) ← perform fuel t operation
    performAll fuel t operations

end BootingModem
end FreeRil
