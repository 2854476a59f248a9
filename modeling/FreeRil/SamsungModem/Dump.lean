import FreeRil.Library.Monitor
import FreeRil.SamsungModem

/-! The memory of the modem on its way into a file: the upload of `SamsungModem::dump`, and the tool
that makes it. -/
namespace FreeRil
open Program

namespace SamsungModem

/-- The calls of the tool: those of a boot, and of the upload those to the socket, to the stream and
to the indicator of progress. A `write` that fails panics, and has no answer. -/
inductive DumpCall
  | boot (c : BootCall)
  | send (data : Bytes)
  | write (data : Bytes)
  | progress (value max : UInt32)

abbrev DumpCall.Ret : DumpCall → Type
  | boot c => c.Ret
  | send _ => ℕ
  | write _ | progress .. => Unit

abbrev Dump := Program DumpCall.Ret

def dumpCall (c : DumpCall) : Dump c.Ret := Program.request c

/-- A part of the boot. -/
def ofBoot {α : Type} : Boot α → Dump α
  | .done a => .done a
  | .call c next => .call (.boot c) fun r => ofBoot (next r)

/-- `expected_total`. -/
def expected_total : UInt32 := 50 * 1024 * 1024

def upload_key : Bytes := LittleEndian.toBytes 4 0xDEADDEAD

def error_ack : Bytes := str "PASS"

/-- The loop of the upload, where `total` bytes have been received before. -/
def receiveUpload : (fuel : ℕ) → (total : UInt32) → Dump Unit
  | 0, _ => ofBoot running
  | fuel + 1, total => do
    let data ← ofBoot (recv 16384)
    dumpCall (.write data)
    let total := total + .ofNat data.length
    dumpCall (.progress (total / 16384) (expected_total / 16384))
    if data.length ≠ 0 then receiveUpload fuel total else return ()

/-- What the modem answers to the key, with an indicator of progress. -/
def receiveDump (fuel : ℕ) : Dump Bool := do
  let _ ← dumpCall (.send upload_key)
  let message ← ofBoot (recv 150)
  if message.length ≠ 150 then return false
  else do
    dumpCall (.write message)
    let _ ← dumpCall (.send error_ack)
    dumpCall (.progress 0 expected_total)
    receiveUpload fuel 0
    let _ ← ofBoot (call .close)
    return true

/-- Whether there is a connection is not looked at. -/
def dump (fuel : ℕ) : Dump Bool := do
  let _ ← ofBoot (call .createSocket)
  let _ ← ofBoot (call .connect)
  if !(← ofBoot (sendPSI fuel)) then return false
  else receiveDump fuel

/-! `dumpmodem`. -/

/-- The calls of the tool. Where the constructors of `AndroidHAL` and `SamsungModem` panic, there is
no answer. -/
inductive ToolCall
  | usage
  | construct
  | open_ (output : Bytes)
  | dump (c : DumpCall)
  | close
  /-- Whether `m_worker`, which no constructor sets, holds a null pointer. -/
  | m_worker

abbrev ToolCall.Ret : ToolCall → Type
  | usage | construct | close => Unit
  | open_ _ | m_worker => Bool
  | dump c => c.Ret

/-- The bytes of the file. -/
def written (t : List (Event DumpCall.Ret)) : Bytes := t.flatMap fun
  | ⟨.write data, _⟩ => data
  | _ => []

section
variable {t t' : List (Event DumpCall.Ret)}

theorem recvAcks_runs (n : ℕ) :
    Trace (recvAcks n) (List.replicate n ⟨.recv 1, ⟨[0], by decide⟩⟩) (.done true) := by
  induction n with
  | zero => exact .nil _
  | succ n ih => exact .cons ih

/-- An image without a byte is acknowledged. -/
theorem sendPSI_runs : ∃ t, Trace (sendPSI 2) t (.done true) := by
  refine ⟨[⟨.getFirmware .PSI, some []⟩, ⟨.send .greeting (str "ATAT"), 4⟩,
    ⟨.recv 1, ⟨[0], by decide⟩⟩,
    ⟨.recv 1, ⟨[0], by decide⟩⟩, ⟨.send .psiHeader (psi_header []), 4⟩, ⟨.send .crc [0], 1⟩] ++
    (List.replicate 22 ⟨.recv 1, ⟨[0], by decide⟩⟩ ++
      [⟨.recv 1, ⟨[0x01], by decide⟩⟩, ⟨.recv 1, ⟨[0x01], by decide⟩⟩,
        ⟨.recv 2, ⟨[0x00, 0xAA], by decide⟩⟩]), ?_⟩
  apply Trace.append (q := recvAcks 22 >>= _)
  · exact .cons (.cons (.cons (.cons (.cons (.cons (.nil _))))))
  · apply ((recvAcks_runs 22).bind _).append
    exact .cons (.cons (.cons (.nil _)))

end
end SamsungModem
end FreeRil
