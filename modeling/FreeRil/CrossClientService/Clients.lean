import FreeRil.CrossClientService
import FreeRil.Library.Machine
import FreeRil.Library.Transitions

/-! Native clients in any order: which of their calls come to the RIL as requests, and as which. -/
namespace FreeRil
open OEMRequestBuilder

namespace RilClient
variable {Callback : Type}

def CloseClient_RILD (client : ril_client Callback) : ril_client Callback :=
  if client.interface.isSome then { client with interface := none } else client

/-- The value that is returned; the service that is lost is forgotten. -/
def isConnected_RILD (alive : Bool) (client : ril_client Callback) : ℕ × ril_client Callback :=
  if client.interface.isNone then (0, client)
  else if !alive then (0, { client with interface := none })
  else (1, client)

end RilClient

namespace ClientCall
variable {L : ParcelLibrary} {Callback : Type}

/-- The request that is meant by a call. -/
def request : ClientCall L Callback → Build
  | SetLoopbackTest loopback path => .setLoopbackTest loopback path
  | SetDhaSolution mode select extra =>
    .setDhaSolution mode select (some ⟨L.extraString extra.val, extra.property⟩)
  | SetTwoMicControl param1 param2 => .setTwoMicControl param1 param2
  | GetMute _ => .getMute
  | SetMute mute => .setMute (if mute ≠ 0 then 1 else 0)
  | SetCallRecord record => .setCallRecord record
  | SetCallClockSync sync => .setCallClockSync sync
  | SetVideoCallClockSync sync => .setVideoCallClockSync sync
  | SetCallAudioPath path extraVolume => .setCallAudioPath path extraVolume
  | SetCallVolume device volume => .setCallVolume device volume
  | InvokeOemRequestHookRaw data => .samsungOemRequest (some data)

/-- What the caller must be allowed to do. -/
def permission : ClientCall L Callback → Int32
  | InvokeOemRequestHookRaw _ => CrossClientService.CALL_GPS
  | _ => CrossClientService.CALL_AUDIO

/-- The user `uid` may make the call. -/
def permitted (P : Process) (uid : Int32) (call : ClientCall L Callback) : Bool :=
  CrossClientService.hasPermission P uid call.permission

/-- The call needs a function for the completion of raw requests. -/
def hooked : ClientCall L Callback → Bool
  | InvokeOemRequestHookRaw _ => true
  | _ => false

/-- The call as it is received on the Java side. -/
def received : ClientCall L Callback → CrossClientCall
  | SetLoopbackTest loopback path => .setLoopbackTest loopback path
  | SetDhaSolution mode select extra =>
    .setDhaSolution mode select (some ⟨L.extraString extra.val, extra.property⟩)
  | SetTwoMicControl param1 param2 => .setTwoMicControl param1 param2
  | GetMute _ => .getMute (some [false])
  | SetMute mute => .setMute (if mute ≠ 0 then 1 else 0)
  | SetCallRecord record => .setCallRecord record
  | SetCallClockSync sync => .setCallClockSync sync
  | SetVideoCallClockSync sync => .setVideoCallClockSync sync
  | SetCallAudioPath path extraVolume => .setCallAudioPath path extraVolume
  | SetCallVolume device volume => .setCallVolume device volume
  | InvokeOemRequestHookRaw data => .samsungOemRequest (some data)

end ClientCall

section
variable {C : CrossClientPlatform} {Callback : Type}

end

namespace CrossClientPlatform
variable {C : CrossClientPlatform} {Callback : Type}

/-- The RIL completes the request of a call, and there is memory for what it returns. -/
def completes (C : CrossClientPlatform) (result : Option Bytes) : ClientCall C.L Callback → Bool
  | .GetMute _ => (RilInterface.getMute C.L C.growth result).isSome
  | .InvokeOemRequestHookRaw _ => (RilInterface.synchronousOemCall C.growth result .new).isSome
  | _ => result.isSome

/-- What the caller is told, for what has come of its call. -/
structure Reported (C : CrossClientPlatform) (uid : Int32) (delivery : Delivery)
    (result : Option Bytes)
    (call : ClientCall C.L Callback) (outcome : Outcome Callback) : Prop where
  request : outcome.request =
    if delivery ≠ .failed ∧ call.permitted C.process uid then some call.request else none
  status : outcome.status =
    if delivery = .replied ∧ call.permitted C.process uid ∧ C.completes result call then .SUCCESS
    else .IO_ERROR

/-- What is done with a context that has been opened. -/
inductive Operation (L : ParcelLibrary) (Callback : Type)
  | CloseClient_RILD
  | Connect_RILD (service : Option CrossClientInterface)
  | Disconnect_RILD
  | isConnected_RILD (alive : Bool)
  | RegisterRequestCompleteHandler (code : Int32) (callback : Option Callback)
  /-- The request is completed with `result`, if there is one. -/
  | call (call : ClientCall L Callback) (delivery : Delivery) (result : Option Bytes)

/-- The context after an operation. -/
def after (client : ril_client Callback) : Operation C.L Callback → ril_client Callback
  | .CloseClient_RILD => RilClient.CloseClient_RILD client
  | .Connect_RILD service => ((RilClient.Connect_RILD service (some client)).2).getD client
  | .Disconnect_RILD => ((RilClient.Disconnect_RILD (some client)).2).getD client
  | .isConnected_RILD alive => (RilClient.isConnected_RILD alive client).2
  | .RegisterRequestCompleteHandler code callback =>
    ((RilClient.RegisterRequestCompleteHandler code callback (some client)).2).getD client
  | .call .. => client

/-- The contexts of all clients, each of which belongs to a process of the user `uid`. -/
def machine (C : CrossClientPlatform) (Callback : Type) (uid : ℕ → Int32) :
    Machine (ℕ → ril_client Callback) (ℕ × Operation C.L Callback)
    (Option (Outcome Callback)) Empty where
  init _ := RilClient.OpenClient_RILD
  step clients e := .ok (Function.update clients e.1 (after (clients e.1) e.2), match e.2 with
    | .call call delivery result => some (C.perform (uid e.1) delivery result (clients e.1) call)
    | _ => none)

/-- The operations after which a client is connected, and those after which it is not. -/
def connects : Operation C.L Callback → Bool
  | .Connect_RILD service => service.isSome
  | _ => false

def disconnects : Operation C.L Callback → Bool
  | .Connect_RILD service => service.isNone
  | .CloseClient_RILD | .Disconnect_RILD => true
  | .isConnected_RILD alive => !alive
  | _ => false

/-- The same for the function that completes raw requests. -/
def hooks : Operation C.L Callback → Bool
  | .RegisterRequestCompleteHandler code callback =>
    code = .ofNat RIL_REQUEST_OEM_HOOK_RAW && callback.isSome
  | _ => false

def unhooks : Operation C.L Callback → Bool
  | .RegisterRequestCompleteHandler code callback =>
    code = .ofNat RIL_REQUEST_OEM_HOOK_RAW && callback.isNone
  | _ => false

abbrev History (C : CrossClientPlatform) (Callback : Type) :=
  List ((ℕ × Operation C.L Callback) × Option (Outcome Callback))

def Connected (t : History C Callback) (k : ℕ) : Prop :=
  Transitions.Since (fun e => e.1.1 = k ∧ connects e.1.2) (fun e => e.1.1 = k ∧ disconnects e.1.2) t

def Hooked (t : History C Callback) (k : ℕ) : Prop :=
  Transitions.Since (fun e => e.1.1 = k ∧ hooks e.1.2) (fun e => e.1.1 = k ∧ unhooks e.1.2) t

/-- What has come of a call, where the history of its client is as it is. -/
structure Accounted (uid : ℕ → Int32) (t : History C Callback) (k : ℕ)
    (call : ClientCall C.L Callback)
    (delivery : Delivery) (result : Option Bytes) (outcome : Outcome Callback) : Prop where
  request : ∀ b, outcome.request = some b ↔ b = call.request ∧ Connected t k ∧
    (call.hooked → Hooked t k) ∧ call.permitted C.process (uid k) ∧ delivery ≠ .failed
  refused : outcome.status = .REFUSED ↔ ¬ Connected t k
  unknown : outcome.status = .UNKNOWN ↔ Connected t k ∧ call.hooked ∧ ¬ Hooked t k
  succeeded : outcome.status = .SUCCESS ↔
    outcome.request.isSome ∧ C.completes result call ∧ delivery = .replied

def android : CrossClientPlatform where
  process := ⟨1001, 1000, fun _ => 1013⟩
  L := .android
  hL := ParcelLibrary.android_readsBack
  R := ParcelLibrary.android_byteArrays
  J := ParcelLibrary.android_java
  growth := ⟨fun _ => none, nofun⟩
  malloc _ := []
  readInt32_nil := rfl

end CrossClientPlatform
end FreeRil
