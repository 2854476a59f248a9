import FreeRil.AndroidFileSystem.Files
import FreeRil.IPCSocketHandler.Step
import FreeRil.Library.Monitor
import FreeRil.Library.Transitions
import FreeRil.SocketHandler

/-! The thread that serves the two channels, and takes the messages that any thread submits from a
pipe. `SamsungModem::initialize` gives it the handler of the IPC channel first. -/
namespace FreeRil
open AndroidFileSystem Program

/-- What `select` leaves in the sets, for the channels and the pipe. The sets are never cleared before
it, so that `write_set` holds what its memory held. -/
structure Selected where
  read_set : Channel → Bool
  write_set : Channel → Bool
  control : Bool

/-- Where the thread is in an iteration of `dispatchEvents`. -/
inductive Dispatching
  | selecting
  /-- These handlers are still to be looked at. -/
  | handling (sets : Selected) (handlers : List Channel)
  | stopped

/-- The buffers of the handlers are those of the class that both inherit. -/
structure IPCWorkerThread where
  dispatching : Dispatching
  ipcBuffer : SocketHandler
  ipc : IPCSocketHandler
  rfsBuffer : SocketHandler
  m_filesystem : AndroidFileSystem
  /-- What has been written to `m_controlPipe` and not read yet; `NULL` is `none`. -/
  m_controlPipe : List (Option Message)

namespace IPCWorkerThread

/-- Handlers of the list the thread is given, in its order. -/
def m_handlers : List Channel := [.IPC, .RFS]

/-- The frame that `handleReassembledMessage` is called with, and the memory that its message gets. -/
def ipcFrame (x : Bytes × Memory) : IPCSocketHandler.Event :=
  .frame (Header.ofBytes x.1) (x.1.drop Header.size) x.2

/-- The calls of `handleReassembledMessage` in one call of `readable`. -/
def handleFrames (p : Protocol) : IPCSocketHandler → List (Bytes × Memory) →
    Except Fault (IPCSocketHandler × List (IPCSocketHandler.Event × List Action))
  | s, [] => .ok (s, [])
  | s, (data, memory) :: handed => do
    let (s, actions) ← s.handleReassembledMessage p data memory
    let (s, history) ← handleFrames p s handed
    return (s, (ipcFrame (data, memory), actions) :: history)

/-- What happens: the pipe is written by any thread, all else is done by this one. -/
inductive Event
  | submitted (message : Option Message)
  | selected (sets : Selected)
  | passed
  | ipcReceived (chunk : Bytes) (handed : List (Bytes × Memory))
    (history : List (IPCSocketHandler.Event × List Action))
  | rfsReceived (chunk : Bytes) (frames : List (Bytes × RFSSocketHandler.Leftover)) (sent : List Bytes)
  | taken (message : Message) (actions : List Action)
  | stopped

section
variable (p : Protocol) (localtime_r : ℤ → BrokenDownTime) (md5 : Bytes → Vector UInt8 16)

/-- `writable` does nothing. Neither a panic, nor a loop that runs on, nor a frame that ends the
process makes a step. The descriptor of the pipe does not count for the first argument of `select`, so that what that leaves of it says nothing
of the pipe; a `read` waits for what is written. -/
inductive Step (s : IPCWorkerThread) : Event → IPCWorkerThread → Prop
  | submitted (message : Option Message) :
    Step s (.submitted message) { s with m_controlPipe := s.m_controlPipe ++ [message] }
  | selected (sets : Selected) (hs : s.dispatching = .selecting) :
    Step s (.selected sets) { s with dispatching := .handling sets m_handlers }
  | passed {sets : Selected} {channel : Channel} {handlers : List Channel}
    (hs : s.dispatching = .handling sets (channel :: handlers)) (hset : sets.read_set channel = false) :
    Step s .passed { s with dispatching := .handling sets handlers }
  | ipcReceived {sets : Selected} {handlers : List Channel} {n : ℕ} {chunk : Bytes}
    {handed : List (Bytes × Memory)} {buffer : SocketHandler} {ipc : IPCSocketHandler}
    {history : List (IPCSocketHandler.Event × List Action)}
    (hs : s.dispatching = .handling sets (.IPC :: handlers)) (hset : sets.read_set .IPC = true)
    (hspace : chunk.length ≤ s.ipcBuffer.space)
    (hread : s.ipcBuffer.readable Channel.IPC.format n chunk = .ok (handed.map Prod.fst, buffer))
    (hhandled : handleFrames p s.ipc handed = .ok (ipc, history)) :
    Step s (.ipcReceived chunk handed history)
      { s with dispatching := .handling sets handlers, ipcBuffer := buffer, ipc := ipc }
  | rfsReceived {sets : Selected} {handlers : List Channel} {n : ℕ} {chunk : Bytes}
    {frames : List (Bytes × RFSSocketHandler.Leftover)} {buffer : SocketHandler}
    {t : List (Program.Event Syscall.Ret)} {fs : AndroidFileSystem} {sent : List Bytes}
    (hs : s.dispatching = .handling sets (.RFS :: handlers)) (hset : sets.read_set .RFS = true)
    (hspace : chunk.length ≤ s.rfsBuffer.space)
    (hread : s.rfsBuffer.readable Channel.RFS.format n chunk = .ok (frames.map Prod.fst, buffer))
    (hhandled : Trace
      ((RFSSocketHandler.session localtime_r frames).interpret (answer md5) s.m_filesystem) t
      (.done (fs, sent, none))) :
    Step s (.rfsReceived chunk frames sent)
      { s with dispatching := .handling sets handlers, rfsBuffer := buffer, m_filesystem := fs }
  | idle {sets : Selected} (hs : s.dispatching = .handling sets []) (hset : sets.control = false) :
    Step s .passed { s with dispatching := .selecting }
  | taken {sets : Selected} {message : Message} {pipe : List (Option Message)} {ipc : IPCSocketHandler}
    {actions : List Action} (hs : s.dispatching = .handling sets []) (hset : sets.control = true)
    (hpipe : s.m_controlPipe = some message :: pipe)
    (hsubmit : s.ipc.submit message = .ok (ipc, actions)) :
    Step s (.taken message actions)
      { s with dispatching := .selecting, ipc := ipc, m_controlPipe := pipe }
  | stopped {sets : Selected} {pipe : List (Option Message)} (hs : s.dispatching = .handling sets [])
    (hset : sets.control = true) (hpipe : s.m_controlPipe = none :: pipe) :
    Step s .stopped { s with dispatching := .stopped, m_controlPipe := pipe }

/-- The thread with new handlers. -/
def initial (fs : AndroidFileSystem) : IPCWorkerThread where
  dispatching := .selecting
  ipcBuffer := .init
  ipc := .init
  rfsBuffer := .init
  m_filesystem := fs
  m_controlPipe := []

def worker (fs : AndroidFileSystem) : Transitions IPCWorkerThread Event where
  init s := s = initial fs
  step := Step p localtime_r md5

/-- All its runs. -/
abbrev Runs (fs : AndroidFileSystem) (t : List Event) (s : IPCWorkerThread) : Prop :=
  (worker p localtime_r md5 fs).Run (fun _ _ _ => True) t s

end

/-! What a run has come to. -/
section
variable (t : List Event)

/-- All that has been written to the pipe. -/
def submissions : List (Option Message) := t.filterMap fun
  | .submitted message => some message
  | _ => none

/-- What has been read from it. -/
def takings : List (Option Message) := t.filterMap fun
  | .taken message _ => some (some message)
  | .stopped => some none
  | _ => none

/-- The bytes that have arrived on a channel. -/
def received (channel : Channel) : Bytes := t.flatMap fun
  | .ipcReceived chunk _ _ => if channel = .IPC then chunk else []
  | .rfsReceived chunk _ _ => if channel = .RFS then chunk else []
  | _ => []

/-- The buffers that the handler of the IPC channel has been called with. -/
def ipcHanded : List (Bytes × Memory) := t.flatMap fun
  | .ipcReceived _ handed _ => handed
  | _ => []

/-- What the handler of the IPC channel has gone through. -/
def ipcHistory : List (IPCSocketHandler.Event × List Action) := t.flatMap fun
  | .ipcReceived _ _ history => history
  | .taken message actions => [(.submit message, actions)]
  | _ => []

/-- The requests of the RFS channel, with what memory held for each. -/
def rfsFrames : List (Bytes × RFSSocketHandler.Leftover) := t.flatMap fun
  | .rfsReceived _ frames _ => frames
  | _ => []

/-- What has been sent there. -/
def rfsSent : List Bytes := t.flatMap fun
  | .rfsReceived _ _ sent => sent
  | _ => []

end
end IPCWorkerThread
end FreeRil
