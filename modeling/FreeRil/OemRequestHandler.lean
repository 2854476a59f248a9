import FreeRil.Parcel
import FreeRil.RIL

/-! The requests of the vendor's service. -/
namespace FreeRil
open Messages RIL

/-- The calls of the methods of `OemRequestHandler`. -/
inductive OemCall (Parcel : Type)
  | attachService (attach : Bool)
  | setLoopbackTest (path loopback : Int32)
  | setDhaSolution (mode select : Int32) (extra : Bytes)
  | setTwoMicControl (param1 param2 : Int32)
  | getMute
  | setMute (muted : Bool)
  | setCallRecord (record : Int32)
  | setCallClockSync (sync : Int32)
  | setVideoCallClockSync (sync : Int32)
  | setCallAudioPath (path extraVolume : Int32)
  | setCallVolume (device volume : Int32)
  | samsungOemRequest (request : Parcel)
  | enterServiceMode (modeType subType : Int32)
  | exitServiceMode (modeType : Int32)
  | sendServiceKeyCode (keyCode : Int32)

namespace OemRequestHandler
open RequestHandler (completeGenCommand)

/-- Send a message, and return whether its command has succeeded. -/
def executeCommand (message : Message) : Ril Bool := do
  let reply ← execute message
  completeGenCommand reply none

def handleAttachService (_attach : Bool) : Ril Bool := return true

def handleSetLoopbackTest (path _loopback : Int32) : Ril Bool :=
  executeCommand ⟨CMD_SND, SndSetLoopbackCtrl, toU8 path, ()⟩

def handleSetDhaSolution (mode select : Int32) (extra : Bytes) : Ril Bool :=
  executeCommand ⟨CMD_SND, SndSetDhaCtrl, toU8 mode, toU8 select, padded 24 0 extra, ()⟩

def handleSetTwoMicControl (param1 param2 : Int32) : Ril Bool :=
  executeCommand ⟨CMD_SND, SndSetTwoMicCtrl, toU8 param1, toU8 param2, ()⟩

/-- Whether the microphone is muted; `none` stands for the return value false. -/
def handleGetMute : Ril (Option Bool) := do
  let reply ← execute ⟨CMD_SND, SndGetMicMute, ()⟩
  match ← message_cast CMD_SND SndGetMicMuteReply reply with
  | none => return none
  | some (mute, ()) => return some (UInt8.toNat mute ≠ 0)

def handleSetMute (muted : Bool) : Ril Bool :=
  executeCommand ⟨CMD_SND, SndSetMicMute, (if muted then 1 else 0 : UInt8), ()⟩

def handleSetCallRecord (record : Int32) : Ril Bool :=
  executeCommand ⟨CMD_SND, SndSetVoiceRecordingCtrl, toU8 record, ()⟩

def handleSetCallClockSync (sync : Int32) : Ril Bool :=
  executeCommand ⟨CMD_SND, SndExecClockCtrl, toU8 sync, ()⟩

def handleSetVideoCallClockSync (sync : Int32) : Ril Bool :=
  executeCommand ⟨CMD_SND, SndSetVideoCallCtrl, toU8 sync, ()⟩

def path_map : List UInt8 := [1, 2, 6, 4, 5, 7, 8, 0]

def device_map : List UInt8 := [1, 17, 49, 65]

/-- An element of a static table, with an index that has been found not to be negative. -/
def tableAt (table : List UInt8) (i : Int32) : Ril UInt8 :=
  match table[i.toInt.toNat]? with
  | some n => return n
  | none => do
    let bytes ← memory .outside 1
    return bytes.val.headD 0

def handleSetCallAudioPath (path _extraVolume : Int32) : Ril Bool :=
  if path.toInt < 0 ∨ path_map.length ≤ path.toInt then return false
  else do
    let path ← tableAt path_map path
    executeCommand ⟨CMD_SND, SndSetAudioPath, path, ()⟩

/-- The device one past the end of the table is let through. -/
def handleSetCallVolume (device volume : Int32) : Ril Bool :=
  if device.toInt < 0 ∨ device_map.length < device.toInt then return false
  else do
    let device ← tableAt device_map device
    executeCommand ⟨CMD_SND, SndSetVolumeCtrl, device, toU8 volume, ()⟩

def handleSamsungOemRequest : Ril Bool := return false

/-- `subType + 0x1000` in the one mode that has subtypes. -/
def handleEnterServiceMode (modeType subType : Int32) : Ril Bool :=
  executeCommand ⟨CMD_SVC, SvcEnterServiceMode, toU8 modeType,
    (if modeType = 1 then (subType + 0x1000).toUInt32.toUInt16 else 0 : UInt16), ()⟩

def handleExitServiceMode (modeType : Int32) : Ril Bool :=
  executeCommand ⟨CMD_SVC, SvcExitServiceMode, toU8 modeType, ()⟩

def handleSendServiceKeyCode (keyCode : Int32) : Ril Bool :=
  executeCommand ⟨CMD_SVC, SvcProcessKeyCode, toU8 keyCode, ()⟩

end OemRequestHandler
end FreeRil
