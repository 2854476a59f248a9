import FreeRil.RIL

/-! Requests and notifications about the network. -/
namespace FreeRil
namespace Messages

def NetSetPlmnSelection.Automatic : UInt8 := 2
def NetSetPlmnSelection.Manual : UInt8 := 3
def NetGetPlmnListReply.Available : UInt8 := 2
def NetGetPlmnListReply.Current : UInt8 := 3
def NetGetPlmnListReply.Forbidden : UInt8 := 4
def NetGetNetworkRegistration.Voice : UInt8 := 0x02
def NetGetNetworkRegistration.Data : UInt8 := 0x03
def NetGetNetworkRegistrationReply.Voice : UInt8 := 0x02
def NetGetNetworkRegistrationReply.Data : UInt8 := 0x03
def NetSetBandSelection.Automatic : UInt32 := 0x40000000
def NetSetBandSelection.EURO : UInt32 := 0x16
def NetSetBandSelection.US : UInt32 := 0x129
def NetSetBandSelection.JPN : UInt32 := 0x210
def NetSetBandSelection.AUS : UInt32 := 0x116
def NetSetBandSelection.AUS2 : UInt32 := 0x106

end Messages

namespace RequestHandler
open Messages RIL

def handleQueryNetworkSelectionMode (request : Request) : Ril Unit :=
  fromCache .plmnSelection CMD_NET NetGetPlmnSelectionReply ⟨CMD_NET, NetGetPlmnSelection, ()⟩ request
    fun (selection, ()) => completeMode selection
where
  /-- The modes of the framework are 0 for automatic and 1 for manual selection. -/
  completeMode (mode : UInt8) : Ril Unit :=
    if 2 ≤ mode ∧ mode ≤ 5 then complete request .SUCCESS (.ints [0])
    else if mode = 6 then complete request .SUCCESS (.ints [1])
    else complete request .GENERIC_FAILURE .null

/-- The message that `setPLMNSelection` sends. -/
def plmnSelection (plmn : Option CString) : Message :=
  ⟨CMD_NET, NetSetPlmnSelection,
    if plmn.isSome then NetSetPlmnSelection.Manual else NetSetPlmnSelection.Automatic,
    padded 6 35 ((plmn.map Subtype.val).getD []), (0xFF : UInt8), ()⟩

def setPLMNSelection (request : Request) (plmn : Option CString) : Ril Unit :=
  if 6 < ((plmn.map Subtype.val).getD []).length then complete request .GENERIC_FAILURE .null
  else submitSubscribed (plmnSelection plmn) (.setPLMNSelectionComplete request)

def setPLMNSelectionComplete (reply : Message) (request : Request) : Ril Unit := do
  modifyCache (·.invalidate .plmnSelection)
  completeWith reply request

def handleSetNetworkSelectionAutomatic (request : Request) : Ril Unit := setPLMNSelection request none

def handleSetNetworkSelectionManual (request : Request) : Ril Unit :=
  match request.data with
  | .string plmn => setPLMNSelection request (some plmn)
  | .null _ => setPLMNSelection request none
  | _ => fault .payload

/-- The code in six bytes, up to their last `#`. -/
def getCleanMCCMNC (data : Bytes) : Ril Bytes := do
  let digits ← readVector data 6
  return if digits.contains 35 then (digits.reverse.dropWhile (· ≠ 35)).tail.reverse else digits

/-- The names of an operator, or its code where the lookup fails. -/
def operatorNames (mccmnc : Bytes) : Ril (List Bytes) := do
  match ← call (.lookupOperator (cstr mccmnc)) with
  | some (longName, shortName) => return [cstr longName, cstr shortName, cstr mccmnc]
  | none => return [cstr mccmnc, cstr mccmnc, cstr mccmnc]

/-- The members of `PlmnListItem`. -/
abbrev PlmnListItem := UInt8 × Bytes × { data : Bytes // data.length = 3 } × Unit

def plmnStatus (status : UInt8) : Bytes :=
  if status = NetGetPlmnListReply.Available then str "available"
  else if status = NetGetPlmnListReply.Current then str "current"
  else if status = NetGetPlmnListReply.Forbidden then str "forbidden"
  else str "unknown"

/-- The loop over the list, with the number of entries left to fill: each is filled from the first
item. -/
def listNetworks (plmnList : List PlmnListItem) : (count : ℕ) → Ril (List Bytes)
  | 0 => return []
  | count + 1 => do
    let (status, plmn, _, ()) ← readItem plmnList 0
    let mccmnc ← getCleanMCCMNC plmn
    let names ← operatorNames mccmnc
    return names ++ plmnStatus status :: (← listNetworks plmnList count)

/-- The loop that releases the names and the code of each network, with the number left and the index
of the next one. -/
def freeNames (response : List Bytes) : (count : ℕ) → (i : ℕ) → Ril Unit
  | 0, _ => return ()
  | count + 1, i => do
    let _ ← readItem response (i * 4 + 0)
    let _ ← readItem response (i * 4 + 1)
    let _ ← readItem response (i * 4 + 2)
    freeNames response count (i + 1)

def handleQueryAvailableNetworksComplete (reply : Message) (request : Request) : Ril Unit := do
  match ← message_cast CMD_NET NetGetPlmnListReply reply with
  | none => complete request .GENERIC_FAILURE .null
  | some (count, plmnList, ()) => do
    let response ← listNetworks plmnList (List.length plmnList)
    complete request .SUCCESS (.strings response)
    freeNames response (UInt8.toNat count) 0

def handleQueryAvailableNetworks (request : Request) : Ril Unit :=
  submitSubscribed ⟨CMD_NET, NetGetPlmnList, ()⟩ (.handleQueryAvailableNetworksComplete request)

def handleOperator (request : Request) : Ril Unit :=
  fromCache .currentPlmn CMD_NET NetGetCurrentPlmnReply ⟨CMD_NET, NetGetCurrentPlmn, ()⟩ request
    fun (_, _, plmn, _, ()) => do
      let mccmnc ← getCleanMCCMNC plmn
      complete request .SUCCESS (.strings (← operatorNames mccmnc))

def handleNetGetCurrentPlmnReply (message : Message) : Ril Unit := do
  modifyCache (·.put .currentPlmn message)
  unsolicited .RESPONSE_VOICE_NETWORK_STATE_CHANGED .null

/-- The band for a value of the framework. -/
def bandOf (n : Int32) : UInt32 :=
  if n = 1 then NetSetBandSelection.EURO
  else if n = 2 then NetSetBandSelection.US
  else if n = 3 then NetSetBandSelection.JPN
  else if n = 4 then NetSetBandSelection.AUS
  else if n = 5 then NetSetBandSelection.AUS2
  else NetSetBandSelection.Automatic

def handleSetBandMode (request : Request) : Ril Unit := do
  let band := bandOf (← intAt request.data 0)
  submitSubscribed ⟨CMD_NET, NetSetBandSelection, (0x02 : UInt8), band, ()⟩
    (.handleSetBandModeComplete request)

def handleSetBandModeComplete (reply : Message) (request : Request) : Ril Unit :=
  completeWith reply request

def handleQueryAvailableBandMode (request : Request) : Ril Unit :=
  complete request .SUCCESS (.ints [6, 0, 1, 2, 3, 4, 5])

def PREF_NET_TYPE_GSM_WCDMA : Int32 := 0
def PREF_NET_TYPE_GSM_ONLY : Int32 := 1
def PREF_NET_TYPE_WCDMA : Int32 := 2
def PREF_NET_TYPE_GSM_WCDMA_AUTO : Int32 := 3
def PREF_NET_TYPE_CDMA_EVDO_AUTO : Int32 := 4
def PREF_NET_TYPE_CDMA_ONLY : Int32 := 5
def PREF_NET_TYPE_EVDO_ONLY : Int32 := 6
def PREF_NET_TYPE_LTE_GSM_WCDMA : Int32 := 9
def PREF_NET_TYPE_LTE_CMDA_EVDO_GSM_WCDMA : Int32 := 10
def PREF_NET_TYPE_LTE_ONLY : Int32 := 11

/-- The mode of the modem for a network type of the framework. -/
def ipcMode (mode : Int32) : UInt8 :=
  if mode = PREF_NET_TYPE_LTE_GSM_WCDMA ∨ mode = PREF_NET_TYPE_GSM_WCDMA_AUTO ∨
      mode = PREF_NET_TYPE_CDMA_EVDO_AUTO ∨ mode = PREF_NET_TYPE_CDMA_ONLY ∨
      mode = PREF_NET_TYPE_EVDO_ONLY ∨ mode = PREF_NET_TYPE_GSM_WCDMA then 1
  else if mode = PREF_NET_TYPE_GSM_ONLY then 2
  else if mode = PREF_NET_TYPE_WCDMA then 3
  else if mode = PREF_NET_TYPE_LTE_CMDA_EVDO_GSM_WCDMA then 4
  else if mode = PREF_NET_TYPE_LTE_ONLY then 6
  else 7

def handleSetPreferredNetworkType (request : Request) : Ril Unit := do
  let mode := ipcMode (← intAt request.data 0)
  submitSubscribed ⟨CMD_NET, NetSetModeSelect, mode, ()⟩
    (.handleSetPreferredNetworkTypeComplete request)

def handleSetPreferredNetworkTypeComplete (reply : Message) (request : Request) : Ril Unit := do
  modifyCache (·.invalidate .netMode)
  completeWith reply request

/-- The network type of the framework for a mode of the modem. -/
def preferredType (mode : UInt8) : Int32 :=
  if mode = 1 ∨ mode = 3 then PREF_NET_TYPE_GSM_ONLY
  else if mode = 2 then PREF_NET_TYPE_GSM_WCDMA
  else if mode = 4 then PREF_NET_TYPE_WCDMA
  else if mode = 5 then PREF_NET_TYPE_LTE_ONLY
  else if mode = 6 then PREF_NET_TYPE_CDMA_ONLY
  else -1

def handleGetPreferredNetworkType (request : Request) : Ril Unit :=
  fromCache .netMode CMD_NET NetGetModeSelectReply ⟨CMD_NET, NetGetModeSelect, ()⟩ request
    fun (mode, ()) => complete request .SUCCESS (.ints [(preferredType mode).toInt])

def handleNetGetNetworkRegistrationReply (message : Message) :
    Struct NetGetNetworkRegistrationReply.fields → Ril Unit
  | (_, serviceDomain, _) => putRegistration serviceDomain
where
  /-- The branches for the two service domains. -/
  putRegistration (serviceDomain : UInt8) : Ril Unit :=
    if serviceDomain = NetGetNetworkRegistrationReply.Voice then do
      modifyCache (·.put .voiceRegistration message)
      unsolicited .RESPONSE_VOICE_NETWORK_STATE_CHANGED .null
    else if serviceDomain = NetGetNetworkRegistrationReply.Data then
      modifyCache (·.put .dataRegistration message)
    else return ()

/-- The registration state of the framework; `-1` is printed as an unsigned number. -/
def toRilStatus (status : UInt8) : UInt32 :=
  match status.toNat with
  | 1 => 0
  | 2 => 1
  | 3 => 12
  | 4 => 13
  | 5 => 14
  | 6 => 5
  | 7 => 6
  | 8 => 7
  | _ => 0xFFFFFFFF

/-- The digits that `%x` prints, at least `width` of them. -/
def hexDigits (width n : ℕ) : Bytes :=
  let digits := Nat.toDigits 16 n
  str (String.ofList (List.replicate (width - digits.length) '0' ++ digits))

def registrationKey (op : UInt8) : CacheKey :=
  if op = NetGetNetworkRegistration.Voice then .voiceRegistration else .dataRegistration

def getNetworkRegistration (request : Request) (op : UInt8) : Ril Unit :=
  fromCache (registrationKey op) CMD_NET NetGetNetworkRegistrationReply
    ⟨CMD_NET, NetGetNetworkRegistration, (0xFF : UInt8), op, ()⟩ request
    fun (_, _, registrationStatus, _, lac, cid, _, ()) =>
      complete request .SUCCESS (.strings [str (toString (toRilStatus registrationStatus)),
        hexDigits 4 (UInt16.toNat lac), hexDigits 8 (UInt32.toNat cid)])

def handleVoiceRegistrationState (request : Request) : Ril Unit :=
  getNetworkRegistration request NetGetNetworkRegistration.Voice

def handleDataRegistrationState (request : Request) : Ril Unit :=
  getNetworkRegistration request NetGetNetworkRegistration.Data

end RequestHandler
end FreeRil
