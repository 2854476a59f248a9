import FreeRil.CrossClient
import FreeRil.RilClient

/-! The service for native clients: what they may ask it for, the transactions that carry their
calls, and the requests that come of them. -/
namespace FreeRil
open OEMRequestBuilder

/-- The user ids of the platform. -/
structure Process where
  PHONE_UID : Int32
  SYSTEM_UID : Int32
  getUidForName : String → Int32

/-- The methods of the interface. -/
inductive CrossClientMethod
  | setLoopbackTest
  | setDhaSolution
  | setTwoMicControl
  | getMute
  | setMute
  | setCallRecord
  | setCallClockSync
  | setVideoCallClockSync
  | setCallAudioPath
  | setCallVolume
  | samsungOemRequest
  deriving DecidableEq, Repr

/-- Calls of the methods on the Java side. -/
inductive CrossClientCall
  | setLoopbackTest (loopback path : Int32)
  | setDhaSolution (mode select : Int32) (extra : JavaString)
  | setTwoMicControl (device report : Int32)
  | getMute (muted : Option (List Bool))
  | setMute (mute : Int32)
  | setCallRecord (record : Int32)
  | setCallClockSync (sync : Int32)
  | setVideoCallClockSync (sync : Int32)
  | setCallAudioPath (path extraVolume : Int32)
  | setCallVolume (device volume : Int32)
  | samsungOemRequest (data : JavaBytes)

namespace CrossClientService

def CALL_AUDIO : Int32 := 1
def CALL_GPS : Int32 := 2
def DO_EVERYTHING : Int32 := CALL_AUDIO ||| CALL_GPS

section
variable (P : Process) (uid : Int32)

def callerPermissions : Int32 :=
  if uid = 0 ∨ uid = P.PHONE_UID then DO_EVERYTHING
  else if uid = P.SYSTEM_UID then CALL_GPS
  else if uid = P.getUidForName "media" then CALL_AUDIO
  else 0

def hasPermission (permissions : Int32) : Bool :=
  callerPermissions P uid &&& permissions = permissions

/-- A method hands its request to `RilInterface`, if the caller may make it. -/
def guarded (permissions : Int32) (request : Build) : Option Build :=
  if !hasPermission P uid permissions then none else some request

def setLoopbackTest (loopback path : Int32) : Option Build :=
  guarded P uid CALL_AUDIO (.setLoopbackTest loopback path)

def setDhaSolution (mode select : Int32) (extra : JavaString) : Option Build :=
  guarded P uid CALL_AUDIO (.setDhaSolution mode select extra)

def setTwoMicControl (device report : Int32) : Option Build :=
  guarded P uid CALL_AUDIO (.setTwoMicControl device report)

def getMute : Option Build := guarded P uid CALL_AUDIO .getMute

def setMute (mute : Int32) : Option Build := guarded P uid CALL_AUDIO (.setMute mute)

def setCallRecord (record : Int32) : Option Build :=
  guarded P uid CALL_AUDIO (.setCallRecord record)

def setCallClockSync (sync : Int32) : Option Build :=
  guarded P uid CALL_AUDIO (.setCallClockSync sync)

def setVideoCallClockSync (sync : Int32) : Option Build :=
  guarded P uid CALL_AUDIO (.setVideoCallClockSync sync)

def setCallAudioPath (path extraVolume : Int32) : Option Build :=
  guarded P uid CALL_AUDIO (.setCallAudioPath path extraVolume)

def setCallVolume (device volume : Int32) : Option Build :=
  guarded P uid CALL_AUDIO (.setCallVolume device volume)

def samsungOemRequest (data : JavaBytes) : Option Build :=
  guarded P uid CALL_GPS (.samsungOemRequest data)

/-- The request that is made for a call. -/
def request : CrossClientCall → Option Build
  | .setLoopbackTest loopback path => setLoopbackTest P uid loopback path
  | .setDhaSolution mode select extra => setDhaSolution P uid mode select extra
  | .setTwoMicControl device report => setTwoMicControl P uid device report
  | .getMute _ => getMute P uid
  | .setMute mute => setMute P uid mute
  | .setCallRecord record => setCallRecord P uid record
  | .setCallClockSync sync => setCallClockSync P uid sync
  | .setVideoCallClockSync sync => setVideoCallClockSync P uid sync
  | .setCallAudioPath path extraVolume => setCallAudioPath P uid path extraVolume
  | .setCallVolume device volume => setCallVolume P uid device volume
  | .samsungOemRequest data => samsungOemRequest P uid data

end
end CrossClientService

/-- What the Java side reads of a parcel besides integers. -/
structure ParcelLibrary.Java {L : ParcelLibrary} (hL : L.ReadsBack) where
  readString : L.Parcel → JavaString
  createByteArray : L.Parcel → JavaBytes
  createBooleanArray : L.Parcel → Option (List Bool)
  readString_eq : ∀ {p s items}, hL.holds p (.string (some s) :: items) →
    (readString p).map Subtype.val = some s
  createByteArray_eq : ∀ {p data items}, hL.holds p (.byteArray (some data) :: items) →
    (createByteArray p).map Subtype.val = some data
  createBooleanArray_eq : ∀ {p} (elements : List Int32), elements.length < 2 ^ 31 →
    hL.holds p (.int (.ofNat elements.length) :: elements.map .int) →
      createBooleanArray p = some (elements.map (decide <| · ≠ 0))

namespace ParcelLibrary.Android

def javaString (p : Bytes) : JavaString :=
  if (readInt32 p).1 < 0 then none
  else if h : (readString16 p).1.length < 2 ^ 31 then some ⟨(readString16 p).1, h⟩ else none

def createByteArray (p : Bytes) : JavaBytes :=
  let length := (readInt32 p).1
  if length < 0 then none
  else some ⟨(readInt32 p).2.take length.toInt.toNat, by
    have hlt := length.toInt_lt
    rw [List.length_take]
    omega⟩

/-- The elements are stored as integers. -/
def booleans : (count : ℕ) → Bytes → List Bool
  | 0, _ => []
  | count + 1, p => decide ((readInt32 p).1 ≠ 0) :: booleans count (readInt32 p).2

def createBooleanArray (p : Bytes) : Option (List Bool) :=
  let length := (readInt32 p).1
  if length < 0 then none else some (booleans length.toInt.toNat (readInt32 p).2)

theorem not_neg_ofNat {n : ℕ} (h : n < 2 ^ 31) :
    (Int32.ofNat n).toInt = n ∧ ¬ Int32.ofNat n < 0 := by
  have htoInt : (Int32.ofNat n).toInt = n := Int32.toInt_ofNat_of_lt h
  refine ⟨htoInt, ?_⟩
  rw [Int32.lt_iff_toInt_lt, htoInt, Int32.toInt_zero]
  omega

theorem booleans_append (elements : List Int32) :
    booleans elements.length ((elements.map ParcelItem.int).flatMap write) =
      elements.map (decide <| · ≠ 0) := by
  induction elements with
  | nil => rfl
  | cons n elements ih =>
    have hread : readInt32 ((List.map ParcelItem.int (n :: elements)).flatMap write) =
        (n, (elements.map ParcelItem.int).flatMap write) := readInt32_append _ _
    rw [List.length_cons, booleans, hread, List.map_cons]
    exact congrArg _ ih

theorem javaString_eq {p : Bytes} {s : String16} {rest : List ParcelItem}
    (hp : p = (.string (some s) :: rest).flatMap write) (hlt : s.length < 2 ^ 31) :
    (javaString p).map Subtype.val = some s := by
  subst hp
  have hlength : (readInt32 ((ParcelItem.string (some s) :: rest).flatMap write)).1 =
      .ofNat s.length := by
    have hwrite : write (.string (some s)) =
        LittleEndian.toBytes 4 s.length ++ (unitBytes s ++ padding (unitBytes s).length) := rfl
    rw [List.flatMap_cons, hwrite, List.append_assoc, readInt32_length hlt]
  have hstring : (readString16 ((ParcelItem.string (some s) :: rest).flatMap write)).1 = s := by
    rw [List.flatMap_cons, readString16_append (s := some s) hlt]
    rfl
  unfold javaString
  rw [if_neg (hlength ▸ (not_neg_ofNat hlt).2), dif_pos (hstring.symm ▸ hlt)]
  exact congrArg some hstring

theorem createByteArray_eq {p data : Bytes} {rest : List ParcelItem}
    (hp : p = (.byteArray (some data) :: rest).flatMap write) (hlt : data.length < 2 ^ 31) :
    (createByteArray p).map Subtype.val = some data := by
  have hlength : readInt32 p =
      (.ofNat data.length, data ++ (padding data.length ++ rest.flatMap write)) := by
    have hwrite : write (.byteArray (some data)) =
        LittleEndian.toBytes 4 data.length ++ (data ++ padding data.length) := rfl
    rw [hp, List.flatMap_cons, hwrite, List.append_assoc, List.append_assoc,
      readInt32_length hlt]
  obtain ⟨htoInt, hneg⟩ := not_neg_ofNat hlt
  unfold createByteArray
  simp only [hlength, if_neg hneg, Option.map_some, htoInt, Int.toNat_natCast, List.take_left]

theorem createBooleanArray_eq {p : Bytes} {elements : List Int32}
    (hp : p = (.int (.ofNat elements.length) :: elements.map .int).flatMap write)
    (hlt : elements.length < 2 ^ 31) :
    createBooleanArray p = some (elements.map (decide <| · ≠ 0)) := by
  have hlength : readInt32 p =
      (.ofNat elements.length, (elements.map ParcelItem.int).flatMap write) := by
    rw [hp, List.flatMap_cons, write, readInt32_append]
  obtain ⟨htoInt, hneg⟩ := not_neg_ofNat hlt
  unfold createBooleanArray
  simp only [hlength, if_neg hneg, htoInt, Int.toNat_natCast, booleans_append]

end ParcelLibrary.Android

def ParcelLibrary.android_java : ParcelLibrary.Java android_readsBack where
  readString := Android.javaString
  createByteArray := Android.createByteArray
  createBooleanArray := Android.createBooleanArray
  readString_eq h := Android.javaString_eq h.1 (h.2 _ List.mem_cons_self)
  createByteArray_eq h := Android.createByteArray_eq h.1 (h.2 _ List.mem_cons_self)
  createBooleanArray_eq _ hlt h := Android.createBooleanArray_eq h.1 hlt

/-- A call on its way between two processes. -/
structure Transaction (L : ParcelLibrary) where
  code : ℕ
  interfaceToken : String
  data : L.Parcel

def FIRST_CALL_TRANSACTION : ℕ := 1

namespace ICrossClientService

def DESCRIPTOR : String := "org.freeril.i9100oemservice.ICrossClientService"

/-- The methods in the order of their declaration. -/
def methods : List CrossClientMethod :=
  [.setLoopbackTest, .setDhaSolution, .setTwoMicControl, .getMute, .setMute, .setCallRecord,
    .setCallClockSync, .setVideoCallClockSync, .setCallAudioPath, .setCallVolume,
      .samsungOemRequest]

section
variable {L : ParcelLibrary} {hL : L.ReadsBack} (J : ParcelLibrary.Java hL)

/-- What the stub reads for a method. -/
def readArguments (parcel : L.Parcel) : CrossClientMethod → CrossClientCall
  | .setLoopbackTest => twoInts .setLoopbackTest
  | .setDhaSolution =>
    let (mode, parcel) := L.readInt32 parcel
    let (select, parcel) := L.readInt32 parcel
    .setDhaSolution mode select (J.readString parcel)
  | .setTwoMicControl => twoInts .setTwoMicControl
  | .getMute => .getMute (J.createBooleanArray parcel)
  | .setMute => .setMute (L.readInt32 parcel).1
  | .setCallRecord => .setCallRecord (L.readInt32 parcel).1
  | .setCallClockSync => .setCallClockSync (L.readInt32 parcel).1
  | .setVideoCallClockSync => .setVideoCallClockSync (L.readInt32 parcel).1
  | .setCallAudioPath => twoInts .setCallAudioPath
  | .setCallVolume => twoInts .setCallVolume
  | .samsungOemRequest => .samsungOemRequest (J.createByteArray parcel)
where
  /-- The methods with two integers. -/
  twoInts (call : Int32 → Int32 → CrossClientCall) : CrossClientCall :=
    let (m, parcel) := L.readInt32 parcel
    call m (L.readInt32 parcel).1

/-- The call that a transaction is taken for, unless it is one of another interface. -/
def onTransact (t : Transaction L) : Option CrossClientCall :=
  if t.interfaceToken ≠ DESCRIPTOR ∨ t.code < FIRST_CALL_TRANSACTION then none
  else methods[t.code - FIRST_CALL_TRANSACTION]?.map (readArguments J t.data)

end

/-- The reply to a method that returns a boolean value, and nothing else. -/
def booleanReply (result : Bool) : List ParcelItem := [.int 0, .int (if result then 1 else 0)]

end ICrossClientService

/-! The calls of the native library, as the transactions of its proxy. -/

/-- The string that is handed over for a pointer to characters, which may be null. -/
def ParcelLibrary.extraString (L : ParcelLibrary) (extra : Option Bytes) : String16 :=
  L.string16 (cstr (extra.getD []))

/-- The functions of the library that call the service. -/
inductive ClientCall (L : ParcelLibrary) (Callback : Type)
  | SetLoopbackTest (loopback path : Int32)
  | SetDhaSolution (mode select : Int32)
    (extra : { extra : Option Bytes // (L.extraString extra).length < 2 ^ 31 })
  | SetTwoMicControl (param1 param2 : Int32)
  | GetMute (callback : Callback)
  | SetMute (mute : Int32)
  | SetCallRecord (record : Int32)
  | SetCallClockSync (sync : Int32)
  | SetVideoCallClockSync (sync : Int32)
  | SetCallAudioPath (path extraVolume : Int32)
  | SetCallVolume (device volume : Int32)
  | InvokeOemRequestHookRaw (data : { data : Bytes // data.length < 2 ^ 31 })

namespace BpCrossClientService

/-- The methods in the order of the codes of the native side. -/
def transactions : List CrossClientMethod :=
  [.setLoopbackTest, .setDhaSolution, .setTwoMicControl, .getMute, .setMute, .setCallRecord,
    .setCallClockSync, .setVideoCallClockSync, .setCallAudioPath, .setCallVolume,
      .samsungOemRequest]

/-- A method with what is written for it. -/
abbrev Written := CrossClientMethod × List ParcelItem

def setLoopbackTest (loopback path : Int32) : Written :=
  (.setLoopbackTest, [.int loopback, .int path])

def setDhaSolution (mode select : Int32) (extra : String16) : Written :=
  (.setDhaSolution, [.int mode, .int select, .string (some extra)])

def setTwoMicControl (device report : Int32) : Written :=
  (.setTwoMicControl, [.int device, .int report])

/-- An array of one element. -/
def askMute : Written := (.getMute, [.int 1, .int 0])

def setMute (muted : Bool) : Written := (.setMute, [.int (if muted then 1 else 0)])

def setCallRecord (record : Int32) : Written := (.setCallRecord, [.int record])

def setCallClockSync (sync : Int32) : Written := (.setCallClockSync, [.int sync])

def setVideoCallClockSync (sync : Int32) : Written := (.setVideoCallClockSync, [.int sync])

def setCallAudioPath (path extraVolume : Int32) : Written :=
  (.setCallAudioPath, [.int path, .int extraVolume])

def setCallVolume (device volume : Int32) : Written := (.setCallVolume, [.int device, .int volume])

/-- The length and the bytes, which is how an array is stored. -/
def sendOemRequest (data : Bytes) : Written := (.samsungOemRequest, [.byteArray (some data)])

section
variable {L : ParcelLibrary} {Callback : Type}

/-- What is written for a call. -/
def written : ClientCall L Callback → Written
  | .SetLoopbackTest loopback path => setLoopbackTest loopback path
  | .SetDhaSolution mode select extra => setDhaSolution mode select (L.extraString extra.val)
  | .SetTwoMicControl param1 param2 => setTwoMicControl param1 param2
  | .GetMute _ => askMute
  | .SetMute mute => setMute (mute ≠ 0)
  | .SetCallRecord record => setCallRecord record
  | .SetCallClockSync sync => setCallClockSync sync
  | .SetVideoCallClockSync sync => setVideoCallClockSync sync
  | .SetCallAudioPath path extraVolume => setCallAudioPath path extraVolume
  | .SetCallVolume device volume => setCallVolume device volume
  | .InvokeOemRequestHookRaw data => sendOemRequest data.val

def transaction (call : ClientCall L Callback) : Transaction L where
  code := FIRST_CALL_TRANSACTION + transactions.idxOf (written call).1
  interfaceToken := "org.freeril.i9100oemservice.ICrossClientService"
  data := L.setData (L.marshall (written call).2)

/-- The value of a method that returns one. -/
def booleanResult (reply : L.Parcel) : Bool :=
  let (exception, reply) := L.readInt32 reply
  if exception ≠ 0 then false else (L.readInt32 reply).1 ≠ 0

end
end BpCrossClientService

/-! A call from the library to the reply of the service. -/

/-- All that the two processes are given: the platform, the parcels, and the memory they
allocate. -/
structure CrossClientPlatform where
  process : Process
  L : ParcelLibrary
  hL : L.ReadsBack
  R : ParcelLibrary.ByteArrays hL
  J : ParcelLibrary.Java hL
  growth : Growth
  malloc : ℕ → Bytes
  /-- `readInt32` returns 0 where there is nothing to be read. -/
  readInt32_nil : L.readInt32 (L.setData []) = (0, L.setData [])

/-- How a transaction goes: it may be replied to, its reply may be lost, or it may not reach the
service. -/
inductive Delivery
  | replied
  | lost
  | failed
  deriving DecidableEq

namespace CrossClientPlatform
variable (C : CrossClientPlatform)

/-- The reply to a call, where the RIL has completed its request with `result`. The array for
`getMute` has one element. -/
def reply (made : Bool) (result : Option Bytes) : CrossClientCall → List ParcelItem
  | .getMute _ =>
    ICrossClientService.getMuteReply
    (if made then RilInterface.getMute C.L C.growth result else none)
  | .samsungOemRequest _ =>
    match if made then RilInterface.synchronousOemCall C.growth result .new else none with
    | some reply => ICrossClientService.samsungOemRequestReply true reply
    | none => ICrossClientService.samsungOemRequestReply false .new
  | _ => ICrossClientService.booleanReply (made && result.isSome)

/-- What the service does for a transaction: the request it makes, and the bytes of its reply. -/
def serve (uid : Int32) (t : Transaction C.L) (result : Option Bytes) : Option Build × Bytes :=
  match ICrossClientService.onTransact C.J t with
  | none => (none, [])
  | some call =>
    let request := CrossClientService.request C.process uid call
    (request, C.L.marshall (C.reply request.isSome result call))

/-- The status of a transaction is ignored. The parcel for the reply stays empty where none is
received. -/
def transact (uid : Int32) (t : Transaction C.L) (result : Option Bytes) :
    Delivery → Option Build × C.L.Parcel
  | .replied => ((C.serve uid t result).1, C.L.setData (C.serve uid t result).2)
  | .lost => ((C.serve uid t result).1, C.L.setData [])
  | .failed => (none, C.L.setData [])

/-- What a function of the library comes to: its status, what it calls, and the request at the
RIL. -/
structure Outcome (Callback : Type) where
  status : ril_client_status
  called : Option (Callback × Bytes)
  request : Option Build

section
variable {Callback : Type} (uid : Int32) (delivery : Delivery) (result : Option Bytes)

/-- The functions after their checks. -/
def invoke (call : ClientCall C.L Callback)
    (returned : C.L.Parcel → Option (Option (Callback × Bytes))) : Outcome Callback :=
  let (request, reply) := C.transact uid (BpCrossClientService.transaction call) result delivery
  match returned reply with
  | none => ⟨.IO_ERROR, none, request⟩
  | some called => ⟨.SUCCESS, called, request⟩

def perform (client : ril_client Callback) (call : ClientCall C.L Callback) : Outcome Callback :=
  if client.interface.isNone then ⟨.REFUSED, none, none⟩
  else match call with
    | .InvokeOemRequestHookRaw data =>
      match client.callbacks.lookup (.ofNat RIL_REQUEST_OEM_HOOK_RAW) with
      | none => ⟨.UNKNOWN, none, none⟩
      | some callback => C.invoke uid delivery result (.InvokeOemRequestHookRaw data) fun reply =>
        (BpCrossClientService.samsungOemRequest reply C.R C.malloc).map fun r =>
          some (callback, r.2)
    | .GetMute callback => C.invoke uid delivery result (.GetMute callback) fun reply =>
      (GetMute reply).map fun byte => some (callback, [byte])
    | call => C.invoke uid delivery result call fun reply =>
      if BpCrossClientService.booleanResult reply then some none else none

end
end CrossClientPlatform
end FreeRil
