import FreeRil.RIL

/-! Requests and notifications about the equipment, the display and the microphone. -/
namespace FreeRil
namespace Messages

def DispGetIconInformation.SignalStrength : UInt8 := 1

end Messages

namespace RequestHandler
open Messages RIL

def handleBasebandVersion (request : Request) : Ril Unit :=
  fromCache .basebandVersion CMD_MISC MiscGetMobileEquipVersionReply
    ⟨CMD_MISC, MiscGetMobileEquipVersion, (0xFF : UInt8), ()⟩ request
    fun (_, softwareVersion, _) => complete request .SUCCESS (.string (cstr softwareVersion))

def handleIMEI (request : Request) : Ril Unit :=
  fromCache .imei CMD_MISC MiscGetMobileEquipSerialNumberReply
    ⟨CMD_MISC, MiscGetMobileEquipSerialNumber, (0x01 : UInt8), ()⟩ request
    fun (_, stringLength, serial, ()) => completeSerial stringLength serial
where
  /-- A serial number that is not too long. -/
  completeSerial (stringLength : UInt8) (serial : Bytes) : Ril Unit :=
    if 32 ≤ stringLength then complete request .GENERIC_FAILURE .null
    else complete request .SUCCESS (.string (cstr serial))

def handleIMEISV (request : Request) : Ril Unit := complete request .SUCCESS (.string (str "01"))

def handleIMSI (request : Request) : Ril Unit := do
  if (← get).m_radioState ≠ .SIM_READY then complete request .GENERIC_FAILURE .null
  else
    fromCache .imsi CMD_MISC MiscGetMobileEquipImsiReply ⟨CMD_MISC, MiscGetMobileEquipImsi, ()⟩
      request fun (_, imsi, ()) => complete request .SUCCESS (.string (cstr imsi))

def handleMiscGetMobileEquipImsiReply (message : Message) : Ril Unit :=
  modifyCache (·.put .imsi message)

def handleScreenState (request : Request) : Ril Unit := complete request .SUCCESS .null

def INT_MAX : ℤ := 0x7FFFFFFF

def buildSignalStrength (rssi : ℤ) : RIL_SignalStrength where
  signalStrength := rssi
  bitErrorRate := 99
  lteSignalStrength := -1
  rsrp := -1
  rsrq := -1
  rssnr := INT_MAX
  cqi := -1

def translateBars (bars : ℤ) : ℤ := min 4 (max 0 bars) * 31 / 5

def handleSignalStrength (request : Request) : Ril Unit := do
  let reply ← execute ⟨CMD_DISP, DispGetIconInformation, DispGetIconInformation.SignalStrength, ()⟩
  match ← message_cast CMD_DISP DispGetIconInformationReply reply with
  | none => complete request .GENERIC_FAILURE .null
  | some (_, value, _, ()) =>
    complete request .SUCCESS
      (.signalStrength (buildSignalStrength (translateBars (UInt8.toNat value))))

def handleDispGetIconInformationReply : Struct DispGetIconInformationReply.fields → Ril Unit
  | (icon, value, _, ()) => notifyIcon icon value
where
  /-- Only the icon of the signal strength matters. -/
  notifyIcon (icon value : UInt8) : Ril Unit :=
    if icon &&& 0x1 ≠ 0 then do
      modify fun handler => { handler with m_coarseRSSI := translateBars value.toNat }
      unsolicited .SIGNAL_STRENGTH (.signalStrength (buildSignalStrength (translateBars value.toNat)))
    else return ()

def handleDispRssiInformation : Ril Unit := do
  let rssi := (← get).m_coarseRSSI
  if rssi ≠ -1 then unsolicited .SIGNAL_STRENGTH (.signalStrength (buildSignalStrength rssi))
  else return ()

def handleSetMute (request : Request) : Ril Unit := do
  let mute ← intAt request.data 0
  executeGenCommand ⟨CMD_SND, SndSetMicMute, (if mute ≠ 0 then 1 else 0 : UInt8), ()⟩ request

def handleGetMute (request : Request) : Ril Unit := do
  let reply ← execute ⟨CMD_SND, SndGetMicMute, ()⟩
  match ← message_cast CMD_SND SndGetMicMuteReply reply with
  | none => complete request .GENERIC_FAILURE .null
  | some (mute, ()) =>
    complete request .SUCCESS (.ints [if UInt8.toNat mute ≠ 0 then 1 else 0])

end RequestHandler
end FreeRil
