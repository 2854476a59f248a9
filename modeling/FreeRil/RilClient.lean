import FreeRil.Request
import Mathlib.Data.List.AList

/-! The compatibility library through which native programs call the vendor's service: the contexts of
its connections, and the functions that complete requests. -/
namespace FreeRil

inductive ril_client_status
  | SUCCESS
  | INVALID
  | REFUSED
  | IO_ERROR
  | RES_UNAVAIL
  | UNKNOWN
deriving DecidableEq

/-- What is called of the service: a request, and the reply to it unless that fails. -/
structure CrossClientInterface where
  samsungOemRequest : Bytes → Option Bytes

/-- A context, with functions of `Callback` for the codes of requests. -/
structure ril_client (Callback : Type) where
  interface : Option CrossClientInterface
  callbacks : AList fun _ : Int32 => Callback

namespace RilClient

variable {Callback : Type}

/-- `std::map::insert`, which leaves an entry that is there as it is. -/
def insert (callbacks : AList fun _ : Int32 => Callback) (code : Int32) (callback : Callback) :
    AList fun _ : Int32 => Callback :=
  if code ∈ callbacks then callbacks else callbacks.insert code callback

/-- A null function removes the entry. -/
def register (callbacks : AList fun _ : Int32 => Callback) (code : Int32) :
    Option Callback → AList fun _ : Int32 => Callback
  | none => callbacks.erase code
  | some callback => insert callbacks code callback

def OpenClient_RILD : ril_client Callback := ⟨none, ∅⟩

def Disconnect_RILD : Option (ril_client Callback) →
    ril_client_status × Option (ril_client Callback)
  | none => (.INVALID, none)
  | some client =>
    if client.interface.isNone then (.UNKNOWN, some client)
    else (.SUCCESS, some { client with interface := none })

/-- `service` is what the service manager finds. -/
def Connect_RILD (service : Option CrossClientInterface) : Option (ril_client Callback) →
    ril_client_status × Option (ril_client Callback)
  | none => (.INVALID, none)
  | some client =>
    (if service.isSome then .SUCCESS else .REFUSED, some { client with interface := service })

def RegisterRequestCompleteHandler (code : Int32) (callback : Option Callback) :
    Option (ril_client Callback) → ril_client_status × Option (ril_client Callback)
  | none => (.INVALID, none)
  | some client => (.SUCCESS, some { client with callbacks := register client.callbacks code callback })

/-- Where the service has replied, the function that is called and what it is called with. -/
def InvokeOemRequestHookRaw (data : Bytes) :
    Option (ril_client Callback) → ril_client_status × Option (Callback × Bytes)
  | none => (.INVALID, none)
  | some client =>
    match client.interface, client.callbacks.lookup (.ofNat RIL_REQUEST_OEM_HOOK_RAW) with
    | none, _ => (.REFUSED, none)
    | some _, none => (.UNKNOWN, none)
    | some interface, some callback =>
      match interface.samsungOemRequest data with
      | none => (.IO_ERROR, none)
      | some reply => (.SUCCESS, some (callback, reply))

/-- The calls of `RegisterRequestCompleteHandler`, in order. -/
def registerAll (registrations : List (Int32 × Option Callback)) (client : Option (ril_client Callback)) :
    Option (ril_client Callback) :=
  registrations.foldl (fun client r => (RegisterRequestCompleteHandler r.1 r.2 client).2) client

/-- A context that has just been connected to a service. -/
def connected (service : CrossClientInterface) : Option (ril_client Callback) :=
  (Connect_RILD service (some OpenClient_RILD)).2

/-- The call of a function with a reply, where there is a function. -/
def answer (callback : Option Callback) (reply : Bytes) :
    ril_client_status × Option (Callback × Bytes) :=
  match callback with
  | none => (.UNKNOWN, none)
  | some callback => (.SUCCESS, some (callback, reply))

/-- What has been registered for a code. -/
def registered (code : Int32) (registrations : List (Int32 × Option Callback)) :
    List (Option Callback) :=
  (registrations.filter (·.1 = code)).map Prod.snd

/-- What has been registered after the last removal. -/
def sinceRemoval (callbacks : List (Option Callback)) : List Callback :=
  (callbacks.reverse.takeWhile Option.isSome).reverse.filterMap id

section
variable (callbacks : List (Option Callback))

@[simp] theorem sinceRemoval_concat_none : sinceRemoval (callbacks ++ [none]) = [] := by
  simp [sinceRemoval]

@[simp] theorem sinceRemoval_concat_some (callback : Callback) :
    sinceRemoval (callbacks ++ [some callback]) = sinceRemoval callbacks ++ [callback] := by
  simp [sinceRemoval]

/-- Where nothing is left after the last removal, the last call has been a removal, if any. -/
theorem getLast_sinceRemoval : (sinceRemoval callbacks).getLast? = callbacks.getLast?.join := by
  induction callbacks using List.reverseRecOn with
  | nil => rfl
  | append_singleton callbacks callback ih => cases callback <;> simp

end

section
variable (callbacks : AList fun _ : Int32 => Callback) (code key : Int32)

theorem lookup_insert (callback : Callback) : (insert callbacks code callback).lookup key
    = if code = key then (callbacks.lookup key).or (some callback) else callbacks.lookup key := by
  unfold insert
  split_ifs with hmem hkey hkey
  · subst hkey
    obtain ⟨present, hpresent⟩ := Option.isSome_iff_exists.mp (AList.lookup_isSome.mpr hmem)
    rw [hpresent, Option.some_or]
  · rfl
  · subst hkey
    rw [AList.lookup_insert, AList.lookup_eq_none.mpr hmem, Option.none_or]
  · exact AList.lookup_insert_ne (Ne.symm hkey)

theorem lookup_register (callback : Option Callback) : (register callbacks code callback).lookup key
    = if code = key then callback.bind fun c => (callbacks.lookup key).or (some c)
      else callbacks.lookup key := by
  cases callback with
  | none =>
    split_ifs with hkey
    · rw [hkey]
      exact AList.lookup_erase key callbacks
    · exact AList.lookup_erase_ne (Ne.symm hkey)
  | some callback => exact lookup_insert callbacks code key callback

end

section
variable (registrations : List (Int32 × Option Callback)) (client : Option (ril_client Callback))
  (code key : Int32) (callback : Option Callback)

theorem registerAll_concat : registerAll (registrations ++ [(code, callback)]) client
    = (RegisterRequestCompleteHandler code callback (registerAll registrations client)).2 := by
  simp [registerAll]

theorem registered_concat : registered key (registrations ++ [(code, callback)])
    = if code = key then registered key registrations ++ [callback]
      else registered key registrations := by
  unfold registered
  rw [List.filter_append, List.map_append]
  split_ifs with hkey <;> simp [hkey]

end

/-- Registrations keep the connection, and for each code the first function since the last removal. -/
theorem registerAll_connected (service : CrossClientInterface)
    (registrations : List (Int32 × Option Callback)) :
    ∃ client, registerAll registrations (connected service) = some client
      ∧ client.interface = some service
      ∧ ∀ code, client.callbacks.lookup code
        = (sinceRemoval (registered code registrations)).head? := by
  induction registrations using List.reverseRecOn with
  | nil => exact ⟨⟨some service, ∅⟩, rfl, rfl, fun code => AList.lookup_empty code⟩
  | append_singleton registrations r ih =>
    obtain ⟨client, hclient, hinterface, hlookup⟩ := ih
    obtain ⟨code, callback⟩ := r
    refine ⟨{ client with callbacks := register client.callbacks code callback }, ?_, hinterface, ?_⟩
    · rw [registerAll_concat, hclient]
      rfl
    · intro key
      rw [lookup_register, registered_concat, hlookup]
      split_ifs with hkey
      · cases callback with
        | none => rw [sinceRemoval_concat_none]; rfl
        | some callback =>
          rw [sinceRemoval_concat_some, List.head?_append]
          cases (sinceRemoval (registered key registrations)) <;> simp
      · rfl

theorem answer_injective (reply : Bytes) :
    Function.Injective (answer · reply : Option Callback → _) := by
  intro callback callback' h
  cases callback <;> cases callback' <;> simp_all [answer]

/-- What the request hook returns and calls. -/
theorem invoke_registerAll {service : CrossClientInterface} {data reply : Bytes}
    (hreply : service.samsungOemRequest data = some reply)
    (registrations : List (Int32 × Option Callback)) :
    InvokeOemRequestHookRaw data (registerAll registrations (connected service)) = answer
      (sinceRemoval (registered (.ofNat RIL_REQUEST_OEM_HOOK_RAW) registrations)).head? reply := by
  obtain ⟨client, hclient, hinterface, hlookup⟩ := registerAll_connected service registrations
  rw [hclient]
  unfold InvokeOemRequestHookRaw
  simp only [hinterface, hlookup]
  cases (sinceRemoval (registered (.ofNat RIL_REQUEST_OEM_HOOK_RAW) registrations)).head? with
  | none => rfl
  | some callback => simp only [hreply, answer]

/-- The function registered last for the request hook is the one that is called exactly where it is
also the first since the last removal, or there is none since then. -/
theorem invoke_last_registered_iff {service : CrossClientInterface} {data reply : Bytes}
    (hreply : service.samsungOemRequest data = some reply)
    (registrations : List (Int32 × Option Callback)) :
    InvokeOemRequestHookRaw data (registerAll registrations (connected service))
        = answer (registered (.ofNat RIL_REQUEST_OEM_HOOK_RAW) registrations).getLast?.join reply
      ↔ (sinceRemoval (registered (.ofNat RIL_REQUEST_OEM_HOOK_RAW) registrations)).head?
        = (sinceRemoval (registered (.ofNat RIL_REQUEST_OEM_HOOK_RAW) registrations)).getLast? := by
  rw [invoke_registerAll hreply, getLast_sinceRemoval]
  exact (answer_injective reply).eq_iff

/-- A function that has been removed before the next one is registered. -/
theorem invoke_last_registered_removed :
    InvokeOemRequestHookRaw [7] (registerAll [(59, some 1), (60, some 3), (59, none), (59, some 2)]
        (connected ⟨some⟩)) = (.SUCCESS, some (2, [7])) :=
  (@invoke_last_registered_iff ℕ ⟨some⟩ [7] [7] rfl
    [(59, some 1), (60, some 3), (59, none), (59, some 2)]).mpr rfl

/-- The second of two functions is never called, although its registration is reported as successful. -/
theorem invoke_not_last_registered :
    ¬ ∀ (service : CrossClientInterface) (data reply : Bytes)
        (registrations : List (Int32 × Option ℕ)), service.samsungOemRequest data = some reply →
      InvokeOemRequestHookRaw data (registerAll registrations (connected service))
        = answer (registered (.ofNat RIL_REQUEST_OEM_HOOK_RAW) registrations).getLast?.join reply := by
  intro h
  have hcalled := h ⟨some⟩ [7] [7] [(59, some 1), (59, some 2)] rfl
  exact absurd hcalled (by decide)

end RilClient
end FreeRil
