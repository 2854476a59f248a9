import FreeRil.RIL

/-! Requests and notifications about the SIM card and the power of the phone. -/
namespace FreeRil
namespace Messages

def SecGetPinStatusReply.Ready : UInt8 := 0x00
def SecGetPinStatusReply.PINLock : UInt8 := 0x03
def SecGetPinStatusReply.NoSimPresent : UInt8 := 0x80
def SecGetPinStatusReply.SimUnavailable : UInt8 := 0x81
def SecSetPinStatus.Pin : UInt8 := 0x03
def SecSetPinStatus.Pin2 : UInt8 := 0x09
def SecChangeLockPwd.Pin : UInt8 := 0x03
def SecChangeLockPwd.Pin2 : UInt8 := 0x09
def PwrPhoneModeChanged.LPM : UInt8 := 1
def PwrPhoneModeChanged.Normal : UInt8 := 2
def PwrPhoneSetMode.LPM : UInt8 := 1
def PwrPhoneSetMode.Normal : UInt8 := 2

end Messages

namespace RequestHandler
open Messages RIL

/-- The value of a digit; `none` is `-1`. -/
def hex2val (ch : UInt8) : Option UInt8 :=
  if 48 ≤ ch ∧ ch ≤ 57 then some (ch - 48)
  else if 97 ≤ ch ∧ ch ≤ 102 then some (ch - 97 + 10)
  else if 65 ≤ ch ∧ ch ≤ 70 then some (ch - 65 + 10)
  else none

def val2hex (value : UInt8) : UInt8 := if 0x0A ≤ value then value + 65 - 10 else value + 48

/-- It returns false exactly when this is `none`. -/
def hex2bin : Bytes → Option Bytes
  | [] => some []
  | [_] => none
  | high :: low :: hex => do
    let upper ← hex2val high
    let lower ← hex2val low
    return (upper <<< 4 ||| lower) :: (← hex2bin hex)

def bin2hex (bin : Bytes) : Bytes :=
  bin.flatMap fun (byte : UInt8) => [val2hex ((byte &&& 0xF0) >>> 4), val2hex (byte &&& 0x0F)]

def handleSecGetPinStatusReply : Struct SecGetPinStatusReply.fields → Ril Unit
  | (state, _, ()) => setRadioState (pinState state)
where
  /-- The state of the radio for a state of the PIN. -/
  pinState (state : UInt8) : RIL_RadioState :=
    if state = SecGetPinStatusReply.Ready then .SIM_READY
    else if state = SecGetPinStatusReply.SimUnavailable then .SIM_NOT_READY
    else .SIM_LOCKED_OR_ABSENT

/-- The state of the only application. -/
def applicationStatus (state xstate : UInt8) : RIL_AppState × RIL_PinState :=
  if state = SecGetPinStatusReply.Ready then (.READY, .UNKNOWN)
  else if state = SecGetPinStatusReply.PINLock then
    if xstate = 0x01 then (.PIN, .ENABLED_NOT_VERIFIED) else (.PUK, .ENABLED_BLOCKED)
  else (.DETECTED, .UNKNOWN)

def translateSimStatus (state xstate : UInt8) (request : Request) : Ril Unit :=
  let status : RIL_CardStatus :=
    if state = SecGetPinStatusReply.NoSimPresent then
      ⟨.ABSENT, .UNKNOWN, RIL_CARD_MAX_APPS, RIL_CARD_MAX_APPS, RIL_CARD_MAX_APPS, []⟩
    else
      let (app_state, pin1) := applicationStatus state xstate
      ⟨.PRESENT, .UNKNOWN, 0, RIL_CARD_MAX_APPS, RIL_CARD_MAX_APPS, [⟨app_state, 0, pin1, .UNKNOWN⟩]⟩
  complete request .SUCCESS (.cardStatus status)

def handleSIMStatus (request : Request) : Ril Unit := do
  let state := (← get).m_radioState
  if state = .UNAVAILABLE ∨ state = .OFF then
    translateSimStatus SecGetPinStatusReply.SimUnavailable 0 request
  else do
    let reply ← execute ⟨CMD_SEC, SecGetPinStatus, ()⟩
    match ← message_cast CMD_SEC SecGetPinStatusReply reply with
    | none => translateSimStatus SecGetPinStatusReply.SimUnavailable 0 request
    | some (state, xstate, ()) => do
      translateSimStatus state xstate request
      handleSecGetPinStatusReply (state, xstate, ())

def handlePinStatusRefreshComplete (reply : Message) : Ril Unit := do
  match ← message_cast CMD_SEC SecGetPinStatusReply reply with
  | none => return ()
  | some value => handleSecGetPinStatusReply value

/-- `strlen`, of a null pointer too. -/
def length (s : Option CString) : ℕ := (s.map fun s => s.val.length).getD 0

/-- The characters of a string; those of a null pointer are never copied. -/
def characters (s : Option CString) : Bytes := (s.map Subtype.val).getD []

def setPinStatus (request : Request) (pin puk : Option CString) (op : UInt8) : Ril Unit :=
  if 8 < length pin ∨ 8 < length puk then complete request .GENERIC_FAILURE .null
  else executeGenCommand ⟨CMD_SEC, SecSetPinStatus, op, .ofNat (length pin), .ofNat (length puk),
    padded 8 0 (characters pin), padded 8 0 (characters puk), ()⟩ request

/-- The requests that set a PIN, with a PUK where there is one. -/
def enterPin (op : UInt8) (request : Request) : Ril Unit := do
  setPinStatus request (← stringAt request.data 0) none op

def enterPuk (op : UInt8) (request : Request) : Ril Unit := do
  setPinStatus request (← stringAt request.data 0) (← stringAt request.data 1) op

def handleEnterSIMPin : Request → Ril Unit := enterPin SecSetPinStatus.Pin
def handleEnterSIMPuk : Request → Ril Unit := enterPuk SecSetPinStatus.Pin
def handleEnterSIMPin2 : Request → Ril Unit := enterPin SecSetPinStatus.Pin2
def handleEnterSIMPuk2 : Request → Ril Unit := enterPuk SecSetPinStatus.Pin2

/-- A null pointer is not expected here. -/
def changeLockPwd (request : Request) (currentPwd newPwd : Option CString) (op : UInt8) : Ril Unit :=
  match currentPwd, newPwd with
  | some currentPwd, some newPwd =>
    if 39 < currentPwd.val.length ∨ 39 < newPwd.val.length then
      complete request .GENERIC_FAILURE .null
    else executeGenCommand ⟨CMD_SEC, SecChangeLockPwd, op, .ofNat currentPwd.val.length,
      .ofNat newPwd.val.length, padded 39 0 currentPwd.val, padded 39 0 newPwd.val, ()⟩ request
  | _, _ => fault .pointer

/-- The requests that change a PIN. -/
def changePin (op : UInt8) (request : Request) : Ril Unit := do
  changeLockPwd request (← stringAt request.data 0) (← stringAt request.data 1) op

def handleChangeSIMPin : Request → Ril Unit := changePin SecChangeLockPwd.Pin
def handleChangeSIMPin2 : Request → Ril Unit := changePin SecChangeLockPwd.Pin2

/-- The bytes that go to the SIM, unless they are not in hexadecimal. -/
def simData (io : RIL_SIM_IO) : Option Bytes :=
  match io.data with
  | some data => hex2bin data.val
  | none => some []

/-- The writes that `handleSIM_IO` keeps from the modem. -/
def withheld (io : RIL_SIM_IO) : Prop := (io.command = 0xD6 ∨ io.command = 0xDC) ∧ io.fileid = 0x6F3B

instance (io : RIL_SIM_IO) : Decidable (withheld io) := by unfold withheld; infer_instance

/-- The other accesses. -/
def accessSIM (io : RIL_SIM_IO) (request : Request) : Ril Unit :=
  match simData io with
  | none => complete request .GENERIC_FAILURE .null
  | some data => do
    let reply ← execute ⟨CMD_SEC, SecRsimAccess, toU8 io.command, io.fileid.toUInt32.toUInt16,
      toU8 io.p1, toU8 io.p2, toU8 io.p3, data, ()⟩
    match ← message_cast CMD_SEC SecRsimAccessReply reply with
    | none => complete request .GENERIC_FAILURE .null
    | some (sw1, sw2, _, data, ()) =>
      complete request .SUCCESS
        (.sim_io ⟨sw1, sw2, if List.isEmpty data then none else some (bin2hex data)⟩)

def handleSIM_IO (request : Request) : Ril Unit :=
  match request.data with
  | .sim_io io => if withheld io then return () else accessSIM io request
  | .null _ => fault .pointer
  | _ => fault .payload

def handlePwrPhoneBootComplete : Ril Unit := do
  submit ⟨CMD_MISC, MiscSetDebugLevel, (2 : UInt8), ()⟩
  setRadioState .OFF

def handlePwrPhoneReset : Ril Unit := fun _ => Program.call .exit Empty.elim

def handlePwrPhoneModeChanged : Struct PwrPhoneModeChanged.fields → Ril Unit
  | (mode, ()) => changeMode mode
where
  /-- The branches for the two modes. -/
  changeMode (mode : UInt8) : Ril Unit :=
    if mode = PwrPhoneModeChanged.Normal then
      submitSubscribed ⟨CMD_SEC, SecGetPinStatus, ()⟩ .handlePinStatusRefreshComplete
    else if mode = PwrPhoneModeChanged.LPM then do
      setRadioState .OFF
      modifyCache (·.flush)
    else return ()

def handleRadioPowerSetModeComplete (reply : Message) (request : Request) : Ril Unit :=
  completeWith reply request

/-- Switch the radio on, or to low power, or off altogether. -/
def setPower (on shutdown : Bool) (request : Request) : Ril Unit :=
  if on ∨ ¬ shutdown then
    submitSubscribed (if on then ⟨CMD_PWR, PwrPhoneSetMode, PwrPhoneSetMode.Normal, (0x02 : UInt8), ()⟩
      else ⟨CMD_PWR, PwrPhoneSetMode, PwrPhoneSetMode.LPM, (0x00 : UInt8), ()⟩)
      (.handleRadioPowerSetModeComplete request)
  else do
    let reply ← execute ⟨CMD_PWR, PwrPhonePowerOff, ()⟩
    if ← completeGenCommand reply (some request) then setRadioState .UNAVAILABLE

def handleRadioPower (request : Request) : Ril Unit :=
  if request.data.data_size ≠ 4 then complete request .GENERIC_FAILURE .null
  else do
    let on : Bool := (← intAt request.data 0) ≠ 0
    let state := (← get).m_radioState
    if (on ∧ state ≠ .OFF) ∨ (¬ on ∧ state = .OFF) then complete request .SUCCESS .null
    else do
      let value ← call (.property_get "sys.deviceOffReq" "0")
      setPower on (atoi value ≠ 0) request

end RequestHandler
end FreeRil
