import FreeRil.OemRequestHandler

/-! Raw requests of the vendor's service, and what it is notified of. -/
namespace FreeRil

def OEM_SIGNATURE_LOW : UInt32 := 0x65657246
def OEM_SIGNATURE_HIGH : UInt32 := 0x214c4952

def OEM_REQUEST_ATTACH_SERVICE : UInt32 := 1
def OEM_REQUEST_SET_LOOPBACK_TEST : UInt32 := 2
def OEM_REQUEST_SET_DHA_SOLUTION : UInt32 := 3
def OEM_REQUEST_SET_TWO_MIC_CONTROL : UInt32 := 4
def OEM_REQUEST_GET_MUTE : UInt32 := 5
def OEM_REQUEST_SET_MUTE : UInt32 := 6
def OEM_REQUEST_SET_CALL_RECORD : UInt32 := 7
def OEM_REQUEST_SET_CALL_CLOCK_SYNC : UInt32 := 8
def OEM_REQUEST_SET_VIDEO_CALL_CLOCK_SYNC : UInt32 := 9
def OEM_REQUEST_SET_CALL_AUDIO_PATH : UInt32 := 10
def OEM_REQUEST_SET_CALL_VOLUME : UInt32 := 11
def OEM_REQUEST_SAMSUNG_OEM_REQUEST : UInt32 := 12
def OEM_REQUEST_ENTER_SERVICE_MODE : UInt32 := 13
def OEM_REQUEST_EXIT_SERVICE_MODE : UInt32 := 14
def OEM_REQUEST_SEND_SERVICE_KEY_CODE : UInt32 := 15

def OEM_UNSOLICITED_SERVICE_COMPLETED : Int32 := 1
def OEM_UNSOLICITED_SERVICE_DISPLAY : Int32 := 2

/-- `OemHeader`. -/
structure OemHeader where
  signature : UInt32 × UInt32
  request : UInt32
  deriving DecidableEq, Repr

namespace OemHeader

/-- `sizeof(OemHeader)`. -/
def size : ℕ := 12

def ofBytes (data : Bytes) : OemHeader where
  signature := (word data, word (data.drop 4))
  request := word (data.drop 8)
where
  /-- A member of the header. -/
  word (data : Bytes) : UInt32 := .ofNat (LittleEndian.value (data.take 4))

end OemHeader

namespace RequestHandler
open Messages RIL OemRequestHandler

section
variable (L : ParcelLibrary)

/-- What the branch for a request code reads from the parcel: the call that it makes, unless the
parcel fails. -/
def readCall (code : UInt32) (parcel : L.Parcel) : Option (Except RIL_Errno (OemCall L.Parcel)) :=
  if code = OEM_REQUEST_ATTACH_SERVICE then oneInt fun attach => .attachService (attach ≠ 0)
  else if code = OEM_REQUEST_SET_LOOPBACK_TEST then twoInts .setLoopbackTest
  else if code = OEM_REQUEST_SET_DHA_SOLUTION then
    let (mode, parcel) := L.readInt32 parcel
    let (select, parcel) := L.readInt32 parcel
    let (extra, parcel) := L.readString16 parcel
    checked parcel (.setDhaSolution mode select (cstr (L.string8 extra)))
  else if code = OEM_REQUEST_SET_TWO_MIC_CONTROL then twoInts .setTwoMicControl
  else if code = OEM_REQUEST_GET_MUTE then some (.ok .getMute)
  else if code = OEM_REQUEST_SET_MUTE then oneInt fun mute => .setMute (mute ≠ 0)
  else if code = OEM_REQUEST_SET_CALL_RECORD then oneInt .setCallRecord
  else if code = OEM_REQUEST_SET_CALL_CLOCK_SYNC then oneInt .setCallClockSync
  else if code = OEM_REQUEST_SET_VIDEO_CALL_CLOCK_SYNC then oneInt .setVideoCallClockSync
  else if code = OEM_REQUEST_SET_CALL_AUDIO_PATH then twoInts .setCallAudioPath
  else if code = OEM_REQUEST_SET_CALL_VOLUME then twoInts .setCallVolume
  else if code = OEM_REQUEST_SAMSUNG_OEM_REQUEST then some (.ok (.samsungOemRequest parcel))
  else if code = OEM_REQUEST_ENTER_SERVICE_MODE then twoInts .enterServiceMode
  else if code = OEM_REQUEST_EXIT_SERVICE_MODE then oneInt .exitServiceMode
  else if code = OEM_REQUEST_SEND_SERVICE_KEY_CODE then oneInt .sendServiceKeyCode
  else none
where
  /-- The test of `errorCheck`. -/
  checked (parcel : L.Parcel) (call : OemCall L.Parcel) :
      Option (Except RIL_Errno (OemCall L.Parcel)) :=
    some (if L.failed parcel then .error .GENERIC_FAILURE else .ok call)
  /-- The branches that read one integer. -/
  oneInt (call : Int32 → OemCall L.Parcel) : Option (Except RIL_Errno (OemCall L.Parcel)) :=
    let (n, parcel) := L.readInt32 parcel
    checked parcel (call n)
  /-- The branches that read two integers. -/
  twoInts (call : Int32 → Int32 → OemCall L.Parcel) : Option (Except RIL_Errno (OemCall L.Parcel)) :=
    let (m, parcel) := L.readInt32 parcel
    let (n, parcel) := L.readInt32 parcel
    checked parcel (call m n)

/-- The call that a raw request is for, or what it is refused with. -/
def oemCall (state : RIL_RadioState) (data : Bytes) : Except RIL_Errno (OemCall L.Parcel) :=
  let header := OemHeader.ofBytes data
  if data.length < OemHeader.size ∨ header.signature ≠ (OEM_SIGNATURE_LOW, OEM_SIGNATURE_HIGH) then
    .error .GENERIC_FAILURE
  else if header.request ≠ OEM_REQUEST_ATTACH_SERVICE ∧ (state = .UNAVAILABLE ∨ state = .OFF) then
    .error .RADIO_NOT_AVAILABLE
  else (readCall L header.request (L.setData (data.drop OemHeader.size))).getD
    (.error .REQUEST_NOT_SUPPORTED)

/-- The response of a method that only succeeds or fails. -/
def onSuccess (method : Ril Bool) (response : Response) : Ril (Option Response) := do
  return if ← method then some response else none

/-- The method that a call is of, and the response when it succeeds. -/
def perform : OemCall L.Parcel → Ril (Option Response)
  | .attachService attach => onSuccess (handleAttachService attach) .null
  | .setLoopbackTest path loopback => onSuccess (handleSetLoopbackTest path loopback) .null
  | .setDhaSolution mode select extra => onSuccess (handleSetDhaSolution mode select extra) .null
  | .setTwoMicControl param1 param2 => onSuccess (handleSetTwoMicControl param1 param2) .null
  | .getMute => do
    return (← OemRequestHandler.handleGetMute).map fun muted =>
      .raw (L.marshall [.int (if muted then 1 else 0)])
  | .setMute muted => onSuccess (OemRequestHandler.handleSetMute muted) .null
  | .setCallRecord record => onSuccess (handleSetCallRecord record) .null
  | .setCallClockSync sync => onSuccess (handleSetCallClockSync sync) .null
  | .setVideoCallClockSync sync => onSuccess (handleSetVideoCallClockSync sync) .null
  | .setCallAudioPath path extraVolume => onSuccess (handleSetCallAudioPath path extraVolume) .null
  | .setCallVolume device volume => onSuccess (handleSetCallVolume device volume) .null
  | .samsungOemRequest _ => onSuccess handleSamsungOemRequest (.raw (L.marshall []))
  | .enterServiceMode modeType subType => onSuccess (handleEnterServiceMode modeType subType) .null
  | .exitServiceMode modeType => onSuccess (handleExitServiceMode modeType) .null
  | .sendServiceKeyCode keyCode => onSuccess (handleSendServiceKeyCode keyCode) .null

/-- Make the call, and complete the request with its result. -/
def performOem (call : OemCall L.Parcel) (request : Request) : Ril Unit := do
  match ← perform L call with
  | some response => complete request .SUCCESS response
  | none => complete request .GENERIC_FAILURE .null

/-- A request that is too short for a header is refused before anything is read of it. -/
def handleOemHookRaw (request : Request) : Ril Unit := do
  if request.data.data_size < OemHeader.size then complete request .GENERIC_FAILURE .null
  else match request.data with
  | .raw data =>
    match oemCall L (← get).m_radioState data with
    | .error e => complete request e .null
    | .ok call => performOem L call request
  | .null _ => fault .pointer
  | _ => fault .payload

section
variable {L} {request : Request} {handler : RequestHandler} {data : Bytes}
  (hdata : request.data = .raw data)
include hdata

theorem handleOemHookRaw_ok {call : OemCall L.Parcel}
    (h : oemCall L handler.m_radioState data = .ok call) :
    handleOemHookRaw L request handler = performOem L call request handler := by
  have hsize : ¬ request.data.data_size < OemHeader.size := by
    intro hlt
    rw [hdata] at hlt
    rw [oemCall, if_pos (.inl hlt)] at h
    contradiction
  have hget : ∀ k : RequestHandler → Ril Unit, (get >>= k) handler = k handler handler :=
    fun _ => rfl
  unfold handleOemHookRaw
  rw [if_neg hsize, hdata]
  dsimp only
  rw [hget, h]

theorem handleOemHookRaw_error {e : RIL_Errno} (h : oemCall L handler.m_radioState data = .error e) :
    ∃ e', handleOemHookRaw L request handler = complete request e' .null handler := by
  have hget : ∀ k : RequestHandler → Ril Unit, (get >>= k) handler = k handler handler :=
    fun _ => rfl
  unfold handleOemHookRaw
  split_ifs with hsize
  · exact ⟨_, rfl⟩
  · rw [hdata]
    dsimp only
    rw [hget, h]
    exact ⟨_, rfl⟩

end

/-- `beginUnsolicited`, what is written to the parcel, and `endUnsolicited`. -/
def notifyOem (type : Int32) (items : List ParcelItem) : Ril Unit :=
  unsolicited .OEM_HOOK_RAW (.raw (L.marshall (.int OEM_SIGNATURE_LOW.toInt32 ::
    .int OEM_SIGNATURE_HIGH.toInt32 :: .int type :: items)))

def notifyServiceCompleted : Ril Unit := notifyOem L OEM_UNSOLICITED_SERVICE_COMPLETED []

def notifyServiceDisplay (display : List Bytes) : Ril Unit :=
  notifyOem L OEM_UNSOLICITED_SERVICE_DISPLAY (.int (.ofNat display.length) ::
    display.map fun line => .string (some (L.string16 (cstr line))))

/-- The members of `LinesItem`. -/
abbrev LinesItem := UInt8 × UInt8 × Bytes × Unit

/-- The loop over the lines, with the number of lines left and the index of the next one. -/
def loadLines (lines : List LinesItem) : (count : ℕ) → (i : ℕ) → Ril (List Bytes)
  | 0, _ => return []
  | count + 1, i => do
    let (_, _, line, ()) ← readItem lines i
    return cstr line :: (← loadLines lines count (i + 1))

/-- A single line may be marked as not for display. -/
def unmarked (lines : List LinesItem) (lineCount : ℕ) : Ril Bool := do
  if lineCount = 1 then do
    let (unknown1, unknown2, _) ← readItem lines 0
    return ¬ (unknown1 = 0 ∧ unknown2 = 1)
  else return true

def displayLines (lineCount : ℕ) (lines : List LinesItem) : Ril Unit := do
  if lineCount = 0 then notifyServiceCompleted L
  else if ← unmarked lines lineCount then do
    let display ← loadLines lines lineCount 0
    notifyServiceDisplay L display

def handleSvcDisplayScreen : Struct SvcDisplayScreen.fields → Ril Unit
  | (lineCount, lines, ()) => displayLines L (UInt8.toNat lineCount) lines

end
end RequestHandler
end FreeRil
