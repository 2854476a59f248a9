import FreeRil.Bytes

/-! Requests of the telephony framework, with the data they carry, and what they are completed with.
Fields that no handler reads are left out. -/
namespace FreeRil

/-- A string of C code: the characters before its null character. -/
abbrev CString := { s : Bytes // 0 ∉ s }

inductive RIL_RadioState
  | OFF
  | UNAVAILABLE
  | SIM_NOT_READY
  | SIM_LOCKED_OR_ABSENT
  | SIM_READY
  deriving DecidableEq, Repr

inductive RIL_Errno
  | SUCCESS
  | RADIO_NOT_AVAILABLE
  | GENERIC_FAILURE
  | PASSWORD_INCORRECT
  | REQUEST_NOT_SUPPORTED
  deriving DecidableEq, Repr

/-- `RIL_Dial`; a null pointer is `none`. -/
structure RIL_Dial where
  address : Option CString
  clir : Int32

/-- `RIL_SIM_IO_v6`. -/
structure RIL_SIM_IO where
  command : Int32
  fileid : Int32
  p1 : Int32
  p2 : Int32
  p3 : Int32
  data : Option CString

/-- What the `data` of a request points to. -/
inductive Payload
  | null (size : ℕ)
  | ints (values : List Int32)
  | string (s : CString)
  | strings (values : List (Option CString))
  | dial (dial : RIL_Dial)
  | sim_io (io : RIL_SIM_IO)
  | raw (data : Bytes)

namespace Payload

/-- `data_size`, where pointers have four bytes. -/
def data_size : Payload → ℕ
  | null size => size
  | ints values => 4 * values.length
  | string _ => 4
  | strings values => 4 * values.length
  | dial _ => 12
  | sim_io _ => 36
  | raw data => data.length

end Payload

structure Request where
  code : ℤ
  data : Payload
  token : ℕ

/-- The request codes of the handlers, and the first and the last of all. -/
def RIL_REQUEST_GET_SIM_STATUS : ℕ := 1
def RIL_REQUEST_GET_CURRENT_CALLS : ℕ := 9
def RIL_REQUEST_HANGUP : ℕ := 12
def RIL_REQUEST_HANGUP_WAITING_OR_BACKGROUND : ℕ := 13
def RIL_REQUEST_HANGUP_FOREGROUND_RESUME_BACKGROUND : ℕ := 14
def RIL_REQUEST_SWITCH_WAITING_OR_HOLDING_AND_ACTIVE : ℕ := 15
def RIL_REQUEST_CONFERENCE : ℕ := 16
def RIL_REQUEST_UDUB : ℕ := 17
def RIL_REQUEST_VOICE_REGISTRATION_STATE : ℕ := 20
def RIL_REQUEST_OPERATOR : ℕ := 22
def RIL_REQUEST_RADIO_POWER : ℕ := 23
def RIL_REQUEST_DTMF : ℕ := 24
def RIL_REQUEST_SIM_IO : ℕ := 28
def RIL_REQUEST_GET_IMEI : ℕ := 38
def RIL_REQUEST_GET_IMEISV : ℕ := 39
def RIL_REQUEST_ANSWER : ℕ := 40
def RIL_REQUEST_QUERY_NETWORK_SELECTION_MODE : ℕ := 45
def RIL_REQUEST_SET_NETWORK_SELECTION_AUTOMATIC : ℕ := 46
def RIL_REQUEST_SET_NETWORK_SELECTION_MANUAL : ℕ := 47
def RIL_REQUEST_QUERY_AVAILABLE_NETWORKS : ℕ := 48
def RIL_REQUEST_DTMF_START : ℕ := 49
def RIL_REQUEST_DTMF_STOP : ℕ := 50
def RIL_REQUEST_BASEBAND_VERSION : ℕ := 51
def RIL_REQUEST_SEPARATE_CONNECTION : ℕ := 52
def RIL_REQUEST_SET_MUTE : ℕ := 53
def RIL_REQUEST_GET_MUTE : ℕ := 54
def RIL_REQUEST_OEM_HOOK_RAW : ℕ := 59
def RIL_REQUEST_SCREEN_STATE : ℕ := 61
def RIL_REQUEST_SET_BAND_MODE : ℕ := 65
def RIL_REQUEST_QUERY_AVAILABLE_BAND_MODE : ℕ := 66
def RIL_REQUEST_EXPLICIT_CALL_TRANSFER : ℕ := 72
def RIL_REQUEST_SET_PREFERRED_NETWORK_TYPE : ℕ := 73
def RIL_REQUEST_GET_PREFERRED_NETWORK_TYPE : ℕ := 74
def RIL_REQUEST_STK_SEND_ENVELOPE_WITH_STATUS : ℕ := 107

/-- `RIL_Call`; `name` and `uusInfo` are always null. -/
structure RIL_Call where
  state : ℤ
  index : ℤ
  toa : ℤ
  isMpty : UInt8
  isMT : Bool
  als : UInt8
  isVoice : Bool
  isVoicePrivacy : UInt8
  number : Option Bytes
  numberPresentation : ℤ
  namePresentation : ℤ
  deriving DecidableEq, Repr

inductive RIL_CardState
  | ABSENT
  | PRESENT
  deriving DecidableEq, Repr

inductive RIL_AppState
  | DETECTED
  | PIN
  | PUK
  | READY
  deriving DecidableEq, Repr

inductive RIL_PinState
  | UNKNOWN
  | ENABLED_NOT_VERIFIED
  | ENABLED_BLOCKED
  deriving DecidableEq, Repr

/-- The only application that is reported is a SIM without names. -/
structure RIL_AppStatus where
  app_state : RIL_AppState
  pin1_replaced : ℤ
  pin1 : RIL_PinState
  pin2 : RIL_PinState
  deriving DecidableEq, Repr

structure RIL_CardStatus where
  card_state : RIL_CardState
  universal_pin_state : RIL_PinState
  gsm_umts_subscription_app_index : ℤ
  cdma_subscription_app_index : ℤ
  ims_subscription_app_index : ℤ
  applications : List RIL_AppStatus
  deriving DecidableEq, Repr

def RIL_CARD_MAX_APPS : ℤ := 8

structure RIL_SIM_IO_Response where
  sw1 : UInt8
  sw2 : UInt8
  simResponse : Option Bytes
  deriving DecidableEq, Repr

structure RIL_SignalStrength where
  signalStrength : ℤ
  bitErrorRate : ℤ
  lteSignalStrength : ℤ
  rsrp : ℤ
  rsrq : ℤ
  rssnr : ℤ
  cqi : ℤ
  deriving DecidableEq, Repr

/-- What a request is completed with, and what an unsolicited response carries. -/
inductive Response
  | null
  | ints (values : List ℤ)
  | string (s : Bytes)
  | strings (values : List Bytes)
  | calls (calls : List RIL_Call)
  | cardStatus (status : RIL_CardStatus)
  | sim_io (response : RIL_SIM_IO_Response)
  | signalStrength (strength : RIL_SignalStrength)
  | raw (data : Bytes)

/-- The unsolicited responses that are sent. -/
inductive RIL_Unsol
  | RESPONSE_RADIO_STATE_CHANGED
  | RESPONSE_CALL_STATE_CHANGED
  | RESPONSE_VOICE_NETWORK_STATE_CHANGED
  | SIGNAL_STRENGTH
  | CALL_RING
  | OEM_HOOK_RAW
  deriving DecidableEq, Repr

end FreeRil
