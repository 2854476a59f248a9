import FreeRil.RIL

/-! Requests and notifications about calls. -/
namespace FreeRil
namespace Messages

def CallOriginate.Normal : UInt16 := 0x100
def CallOriginate.International : UInt8 := 0x11
def CallOriginate.Unknown : UInt8 := 0x21
def CallContinuousDtmf.Start : UInt8 := 1
def CallContinuousDtmf.Stop : UInt8 := 0
def SsManageCall.HangupWaitingOrBackground : UInt8 := 1
def SsManageCall.HangupForegroundResumeBackground : UInt8 := 2
def SsManageCall.HangupSpecificCall : UInt8 := 3
def SsManageCall.SwitchWaitingOrHoldingAndActive : UInt8 := 4
def SsManageCall.SeparateConnection : UInt8 := 5
def SsManageCall.Conference : UInt8 := 6
def SsManageCall.ExplicitCallTransfer : UInt8 := 7

end Messages

namespace RequestHandler
open Messages RIL

/-- The members of `CallListItem`. -/
abbrev CallListItem := UInt16 × UInt8 × UInt8 × UInt8 × UInt8 × UInt8 × UInt8 × Bytes × Unit

/-- `MT`, the direction of a call that the other side has begun. -/
def CallListItem.MT : UInt8 := 2

/-- The `RIL_Call` of an item. -/
def buildCall : CallListItem → Ril RIL_Call
  | (callType, callId, direction, callState, isMultiParty, numberLength, _, itemNumber, ()) => do
    let number ← readVector itemNumber numberLength.toNat
    return {
      state := max 0 (callState.toNat - 1 : ℤ)
      index := callId.toNat
      toa := if number.head? = some 43 then 145 else 129
      isMpty := isMultiParty
      isMT := direction = CallListItem.MT
      als := 0
      isVoice := callType < 0x102 ∨ callType = 0x700
      isVoicePrivacy := 0
      number := if numberLength = 0 then none else some number
      numberPresentation := 0
      namePresentation := 2 }

/-- The loop over the list, with the number of items left and the index of the next one. -/
def loadCalls (callList : List CallListItem) : (count : ℕ) → (i : ℕ) → Ril (List RIL_Call)
  | 0, _ => return []
  | count + 1, i => do
    let item ← readItem callList i
    let call ← buildCall item
    modify fun handler => { handler with m_callIds := handler.m_callIds ++ [.ofInt call.index] }
    return call :: (← loadCalls callList count (i + 1))

def handleCurrentCalls (request : Request) : Ril Unit := do
  let reply ← execute ⟨CMD_CALL, CallGetCallList, ()⟩
  match ← message_cast CMD_CALL CallGetCallListReply reply with
  | none => complete request .GENERIC_FAILURE .null
  | some (count, callList, _, ()) => do
    modify fun handler => { handler with m_callIds := [] }
    let calls ← loadCalls callList (UInt8.toNat count) 0
    complete request .SUCCESS (.calls calls)

def handleLastCallFailCause (request : Request) : Ril Unit := do
  complete request .SUCCESS (.ints [(← get).m_lastCallFailCause])

/-- The message that `handleDial` sends; an extension follows a slash. -/
def originate (address : CString) (clir : Int32) : Message :=
  let dup := address.val.takeWhile (· ≠ 47)
  let extension := (address.val.dropWhile (· ≠ 47)).tail
  let numberType := if dup.head? = some 43 then CallOriginate.International else CallOriginate.Unknown
  ⟨CMD_CALL, CallOriginate, CallOriginate.Normal, toU8 clir, .ofNat (min 82 dup.length), numberType,
    padded 82 0 dup, (0 : UInt32), .ofInt (atoi extension), ()⟩

def handleDial (request : Request) : Ril Unit :=
  match request.data with
  | .dial ⟨some address, clir⟩ => executeGenCommand (originate address clir) request
  | .dial ⟨none, _⟩ | .null _ => fault .pointer
  | _ => fault .payload

def handleCallIncoming : Ril Unit := do
  unsolicited .CALL_RING .null
  unsolicited .RESPONSE_CALL_STATE_CHANGED .null

def CALL_FAIL_UNOBTAINABLE_NUMBER : ℤ := 1
def CALL_FAIL_NORMAL : ℤ := 16
def CALL_FAIL_BUSY : ℤ := 17
def CALL_FAIL_CONGESTION : ℤ := 34
def CALL_FAIL_ACM_LIMIT_EXCEEDED : ℤ := 68
def CALL_FAIL_CALL_BARRED : ℤ := 240
def CALL_FAIL_ERROR_UNSPECIFIED : ℤ := 0xffff

def mapCallFail (cause1 cause2 : UInt8) : ℤ :=
  match cause1.toNat with
  | 2 | 4 | 5 | 8 => CALL_FAIL_ERROR_UNSPECIFIED
  | 3 => CALL_FAIL_CONGESTION
  | 6 => CALL_FAIL_ACM_LIMIT_EXCEEDED
  | 10 => CALL_FAIL_CALL_BARRED
  | _ =>
    match cause2.toNat with
    | 1 => CALL_FAIL_UNOBTAINABLE_NUMBER
    | 4 => CALL_FAIL_CALL_BARRED
    | 6 => CALL_FAIL_BUSY
    | 7 => 18
    | 8 => 19
    | 9 | 16 => CALL_FAIL_ERROR_UNSPECIFIED
    | 20 => CALL_FAIL_CONGESTION
    | 27 => 57
    | 31 => CALL_FAIL_ACM_LIMIT_EXCEEDED
    | 32 => 69
    | 37 => 88
    | _ => CALL_FAIL_NORMAL

def handleCallStateChanged : Struct CallStateChanged.fields → Ril Unit
  | (_, _, _, releaseCause1, releaseCause2, ()) => do
    modify fun handler =>
      { handler with m_lastCallFailCause := mapCallFail releaseCause1 releaseCause2 }
    unsolicited .RESPONSE_CALL_STATE_CHANGED .null

/-- The reserved member of the message is never set. -/
def manageCall (callCommand callId : UInt8) (request : Request) : Ril Unit := do
  let reserved ← memory .uninitialised 83
  executeGenCommand ⟨CMD_SS, SsManageCall, callCommand, callId, reserved, ()⟩ request

/-- `m_callIds[lineIndex]`; nothing keeps the index from being negative. -/
def callIdAt (callIds : List UInt8) (lineIndex : ℤ) : Ril UInt8 :=
  if lineIndex < 0 then do
    let bytes ← memory .outside 1
    return bytes.val.headD 0
  else readItem callIds lineIndex.toNat

/-- Send a command about the call on a line, if there is one. -/
def manageLine (callCommand : UInt8) (callIds : List UInt8) (request : Request) : Ril Unit := do
  let lineIndex := ((← intAt request.data 0) - 1).toInt
  if callIds.length ≤ lineIndex then complete request .GENERIC_FAILURE .null
  else do
    let callId ← callIdAt callIds lineIndex
    manageCall callCommand callId request

def genericHangup (request : Request) (manageCommand : UInt8) (useValidCallId : Bool) : Ril Unit := do
  let callIds := (← get).m_callIds
  if callIds.length = 0 then complete request .GENERIC_FAILURE .null
  else if callIds.length = 1 then executeGenCommand ⟨CMD_CALL, CallRelease, ()⟩ request
  else if useValidCallId then manageLine manageCommand callIds request
  else manageCall manageCommand 0 request

def handleHangup (request : Request) : Ril Unit :=
  genericHangup request SsManageCall.HangupSpecificCall true

def handleAnswer (request : Request) : Ril Unit := do
  if (← get).m_callIds ≠ [] then executeGenCommand ⟨CMD_CALL, CallAnswer, ()⟩ request
  else complete request .GENERIC_FAILURE .null

def handleHangupWaitingOrBackground (request : Request) : Ril Unit :=
  genericHangup request SsManageCall.HangupWaitingOrBackground false

def handleHangupForegroundResumeBackground (request : Request) : Ril Unit :=
  genericHangup request SsManageCall.HangupForegroundResumeBackground false

def handleSwitchWaitingOrHoldingAndActive (request : Request) : Ril Unit :=
  manageCall SsManageCall.SwitchWaitingOrHoldingAndActive 0 request

def handleConference (request : Request) : Ril Unit := manageCall SsManageCall.Conference 0 request

def handleUDUB (request : Request) : Ril Unit :=
  manageCall SsManageCall.HangupWaitingOrBackground 0 request

def handleSeparateConnection (request : Request) : Ril Unit := do
  manageLine SsManageCall.SeparateConnection (← get).m_callIds request

def handleExplicitCallTransfer (request : Request) : Ril Unit :=
  manageCall SsManageCall.ExplicitCallTransfer 0 request

/-- The message that `handleDTMF` sends: its vector always has 82 bytes. -/
def sendBurstDtmf (str : CString) : Message :=
  ⟨CMD_CALL, CallSendBurstDtmf, (0x01 : UInt8), .ofNat (min 82 str.val.length), padded 82 0 str.val, ()⟩

def handleDTMF (request : Request) : Ril Unit := do
  let str ← cstring request.data
  executeGenCommand (sendBurstDtmf str) request

def continuousDTMF (request : Request) (tone : UInt8) : Ril Unit :=
  if tone ≠ 0 then
    executeGenCommand ⟨CMD_CALL, CallContinuousDtmf, CallContinuousDtmf.Start, tone, ()⟩ request
  else
    executeGenCommand ⟨CMD_CALL, CallContinuousDtmf, CallContinuousDtmf.Stop, (0 : UInt8), ()⟩ request

def handleDTMFStart (request : Request) : Ril Unit := do
  let str ← cstring request.data
  continuousDTMF request (str.val.headD 0)

def handleDTMFStop (request : Request) : Ril Unit := continuousDTMF request 0

end RequestHandler
end FreeRil
