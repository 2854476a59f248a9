import FreeRil.RequestHandler.Call
import FreeRil.RequestHandler.Misc
import FreeRil.RequestHandler.Network
import FreeRil.RequestHandler.Oem
import FreeRil.RequestHandler.Security

/-! What the handler does for each request, for each notification of the modem, and when a message
that it has submitted is completed. -/
namespace FreeRil
namespace RequestHandler
open Messages RIL

abbrev Handler := Request → Ril Unit

def FirstRequest : ℕ := RIL_REQUEST_GET_SIM_STATUS

def LastRequest : ℕ := RIL_REQUEST_STK_SEND_ENVELOPE_WITH_STATUS

/-- The initial value of `m_requestHandlers`; `NULL` is `none`. -/
def staticHandlers : List (Option Handler) :=
  [some handleSIMStatus,
   some handleEnterSIMPin,
   some handleEnterSIMPuk,
   some handleEnterSIMPin2,
   some handleEnterSIMPuk2,
   some handleChangeSIMPin,
   some handleChangeSIMPin2,
   none,
   some handleCurrentCalls,
   some handleDial,
   some handleIMSI,
   some handleHangup,
   some handleHangupWaitingOrBackground,
   some handleHangupForegroundResumeBackground,
   some handleSwitchWaitingOrHoldingAndActive,
   some handleConference,
   some handleUDUB,
   some handleLastCallFailCause,
   some handleSignalStrength,
   some handleVoiceRegistrationState,
   some handleDataRegistrationState,
   some handleOperator,
   some handleRadioPower,
   some handleDTMF]

theorem getD_none_eq_some {α : Type} {o : Option (Option α)} {a : α} :
    o.getD none = some a ↔ o = some (some a) := by
  cases o with
  | none => simp
  | some o => simp

section
variable {α : Type} {P : ℕ → α → Prop} {first : ℕ}

/-- What holds of the entries of a table, and of all that is stored into it, holds of what is found
there; the first index of the table is `first`. -/
theorem of_getElem?_foldl_set (entries : List (ℕ × α)) (table : List (Option α))
    (hfirst : ∀ entry ∈ entries, first ≤ entry.1)
    (htable : ∀ i a, table[i]? = some (some a) → P (i + first) a)
    (hentries : ∀ entry ∈ entries, P entry.1 entry.2) {i : ℕ} {a : α}
    (h : (entries.foldl (fun table entry => table.set (entry.1 - first) (some entry.2)) table)[i]? =
      some (some a)) : P (i + first) a := by
  induction entries generalizing table with
  | nil => exact htable i a h
  | cons entry entries ih =>
    obtain ⟨hfirst, hrest⟩ := List.forall_mem_cons.mp hfirst
    obtain ⟨hentry, hentries⟩ := List.forall_mem_cons.mp hentries
    refine ih _ hrest (fun j b hj => ?_) hentries h
    rw [List.getElem?_set] at hj
    split_ifs at hj with hij
    · obtain rfl := Option.some.inj (Option.some.inj hj)
      rwa [← hij, Nat.sub_add_cancel hfirst]
    · exact htable j b hj

theorem length_foldl_set (entries : List (ℕ × α)) (table : List (Option α)) :
    (entries.foldl (fun table entry => table.set (entry.1 - first) (some entry.2)) table).length =
      table.length := by
  induction entries generalizing table with
  | nil => rfl
  | cons entry entries ih => rw [List.foldl_cons, ih, List.length_set]

/-- Where nothing is stored, a table stays as it is. -/
theorem getElem?_foldl_set_of_ne (entries : List (ℕ × α)) (table : List (Option α)) {i : ℕ}
    (h : ∀ entry ∈ entries, entry.1 - first ≠ i) :
    (entries.foldl (fun table entry => table.set (entry.1 - first) (some entry.2)) table)[i]? =
      table[i]? := by
  induction entries generalizing table with
  | nil => rfl
  | cons entry entries ih =>
    obtain ⟨hentry, hentries⟩ := List.forall_mem_cons.mp h
    rw [List.foldl_cons, ih _ hentries, List.getElem?_set_ne hentry]

/-- What is stored once is found. -/
theorem getElem?_foldl_set_of_mem (entries : List (ℕ × α)) (table : List (Option α))
    (hnodup : entries.Pairwise fun a b => b.1 - first ≠ a.1 - first) {entry : ℕ × α}
    (hentry : entry ∈ entries) (hlength : entry.1 - first < table.length) :
    (entries.foldl (fun table entry => table.set (entry.1 - first) (some entry.2))
      table)[entry.1 - first]? = some (some entry.2) := by
  induction entries generalizing table with
  | nil => contradiction
  | cons head entries ih =>
    obtain ⟨hhead, hrest⟩ := List.pairwise_cons.mp hnodup
    rw [List.foldl_cons]
    rcases List.mem_cons.mp hentry with rfl | hentry
    · rw [getElem?_foldl_set_of_ne _ _ hhead, List.getElem?_set_self hlength]
    · exact ih _ hrest hentry (by rwa [List.length_set])

end

section
variable (L : ParcelLibrary)

/-- What the constructor stores in `m_requestHandlers`. -/
def constructorHandlers : List (ℕ × Handler) :=
  [Prod.mk RIL_REQUEST_SIM_IO handleSIM_IO,
   (RIL_REQUEST_OEM_HOOK_RAW, handleOemHookRaw L),
   (RIL_REQUEST_QUERY_NETWORK_SELECTION_MODE, handleQueryNetworkSelectionMode),
   (RIL_REQUEST_SET_NETWORK_SELECTION_AUTOMATIC, handleSetNetworkSelectionAutomatic),
   (RIL_REQUEST_SET_NETWORK_SELECTION_MANUAL, handleSetNetworkSelectionManual),
   (RIL_REQUEST_QUERY_AVAILABLE_NETWORKS, handleQueryAvailableNetworks),
   (RIL_REQUEST_DTMF_START, handleDTMFStart),
   (RIL_REQUEST_DTMF_STOP, handleDTMFStop),
   (RIL_REQUEST_BASEBAND_VERSION, handleBasebandVersion),
   (RIL_REQUEST_GET_IMEI, handleIMEI),
   (RIL_REQUEST_GET_IMEISV, handleIMEISV),
   (RIL_REQUEST_ANSWER, handleAnswer),
   (RIL_REQUEST_SCREEN_STATE, handleScreenState),
   (RIL_REQUEST_SET_BAND_MODE, handleSetBandMode),
   (RIL_REQUEST_QUERY_AVAILABLE_BAND_MODE, handleQueryAvailableBandMode),
   (RIL_REQUEST_EXPLICIT_CALL_TRANSFER, handleExplicitCallTransfer),
   (RIL_REQUEST_SET_PREFERRED_NETWORK_TYPE, handleSetPreferredNetworkType),
   (RIL_REQUEST_GET_PREFERRED_NETWORK_TYPE, handleGetPreferredNetworkType),
   (RIL_REQUEST_SEPARATE_CONNECTION, handleSeparateConnection),
   (RIL_REQUEST_SET_MUTE, handleSetMute),
   (RIL_REQUEST_GET_MUTE, handleGetMute)]

/-- `m_requestHandlers` once the constructor has run. -/
def m_requestHandlers : List (Option Handler) :=
  (constructorHandlers L).foldl (fun table entry => table.set (entry.1 - FirstRequest) (some entry.2))
    (staticHandlers ++ List.replicate (LastRequest - FirstRequest + 1 - staticHandlers.length) none)

/-- An entry for each request code. -/
theorem m_requestHandlers_length : (m_requestHandlers L).length = LastRequest - FirstRequest + 1 := by
  rw [m_requestHandlers, length_foldl_set, List.length_append, List.length_replicate]
  rfl

/-- An element of `m_requestHandlers`, at any index. -/
def requestHandlerAt (index : ℤ) : Ril (Option Handler) :=
  if index < 0 then fault .table
  else
    match (m_requestHandlers L)[index.toNat]? with
    | some entry => return entry
    | none => fault .table

def supports (request : ℤ) : Ril Bool := do
  if request < FirstRequest ∨ LastRequest < request then return false
  else return (← requestHandlerAt L (request - FirstRequest)).isSome

/-- The handler that there is for a request code. -/
def handlerOf (code : ℤ) : Option Handler :=
  if code < FirstRequest ∨ LastRequest < code then none
  else (m_requestHandlers L).getD (code - FirstRequest).toNat none

section
variable {L} {P : ℤ → Handler → Prop}

theorem firstRequest_le : ∀ entry ∈ constructorHandlers L, FirstRequest ≤ entry.1 := by
  simp [constructorHandlers, FirstRequest, RIL_REQUEST_GET_SIM_STATUS]
  decide

/-- What holds of each handler of the tables holds of the one that is found for a request code. -/
theorem of_handlerOf
    (hstatic : ∀ entry ∈ staticHandlers.zipIdx FirstRequest, ∀ handler, entry.1 = some handler →
      P entry.2 handler)
    (hconstructor : ∀ entry ∈ constructorHandlers L, P entry.1 entry.2) {code : ℤ}
    {handler : Handler} (h : handlerOf L code = some handler) : P code handler := by
  unfold handlerOf at h
  split_ifs at h with hcode
  obtain ⟨i, rfl⟩ : ∃ i : ℕ, code = (i + FirstRequest : ℕ) := ⟨code.toNat - FirstRequest, by
    unfold FirstRequest RIL_REQUEST_GET_SIM_STATUS at *
    omega⟩
  rw [show ((i + FirstRequest : ℕ) - FirstRequest : ℤ).toNat = i by omega,
    List.getD_eq_getElem?_getD] at h
  refine of_getElem?_foldl_set (P := fun i => P i) _ _ firstRequest_le (fun j b hj => ?_) hconstructor
    (getD_none_eq_some.mp h)
  rcases lt_or_ge j staticHandlers.length with hlt | hge
  · rw [List.getElem?_append_left hlt] at hj
    refine hstatic (some b, j + FirstRequest) ?_ b rfl
    rw [List.mk_mem_zipIdx_iff_le_and_getElem?_sub]
    simpa using hj
  · rw [List.getElem?_append_right hge, List.getElem?_replicate] at hj
    split_ifs at hj
    simp at hj

theorem handlerOf_eq {i : ℕ} {handler : Handler} (hi : i + FirstRequest ≤ LastRequest)
    (h : (m_requestHandlers L)[i]? = some (some handler)) :
    handlerOf L (i + FirstRequest : ℕ) = some handler := by
  rw [handlerOf, if_neg (by omega),
    show ((i + FirstRequest : ℕ) - FirstRequest : ℤ).toNat = i by omega, List.getD_eq_getElem?_getD, h,
    Option.getD_some]

/-- The constructor stores its handlers at different places of the table. -/
theorem constructorHandlers_pairwise : (constructorHandlers L).Pairwise fun a b =>
    b.1 - FirstRequest ≠ a.1 - FirstRequest := by
  rw [← List.pairwise_map (f := Prod.fst) (R := fun a b => b - FirstRequest ≠ a - FirstRequest)]
  simp only [constructorHandlers, List.map_cons, List.map_nil]
  decide

theorem handlerOf_constructor {entry : ℕ × Handler} (h : entry ∈ constructorHandlers L)
    (hlast : entry.1 ≤ LastRequest) : handlerOf L entry.1 = some entry.2 := by
  have hfirst := firstRequest_le entry h
  have hlength : (staticHandlers ++
      List.replicate (LastRequest - FirstRequest + 1 - staticHandlers.length) none).length =
      LastRequest - FirstRequest + 1 := by
    rw [List.length_append, List.length_replicate]
    rfl
  have hfound := handlerOf_eq (L := L) (i := entry.1 - FirstRequest) (by omega)
    (getElem?_foldl_set_of_mem _ _ constructorHandlers_pairwise h (by omega))
  rwa [Nat.sub_add_cancel hfirst] at hfound

theorem handlerOf_static {i : ℕ} {handler : Handler} (h : staticHandlers[i]? = some (some handler))
    (hconstructor : ∀ entry ∈ constructorHandlers L, entry.1 - FirstRequest ≠ i) :
    handlerOf L (i + FirstRequest : ℕ) = some handler := by
  have hlt : i < staticHandlers.length := (List.getElem?_eq_some_iff.mp h).1
  apply handlerOf_eq
  · have hlength : staticHandlers.length + FirstRequest ≤ LastRequest := by decide
    omega
  · rw [m_requestHandlers, getElem?_foldl_set_of_ne _ _ hconstructor, List.getElem?_append_left hlt, h]

end

/-- Whether the state of the radio allows a request to be handled. -/
def admitted (state : RIL_RadioState) (code : ℤ) : Prop :=
  ¬ ((state = .UNAVAILABLE ∨ (state = .OFF ∧ code ≠ RIL_REQUEST_RADIO_POWER)) ∧
    code ≠ RIL_REQUEST_GET_SIM_STATUS ∧ code ≠ RIL_REQUEST_OEM_HOOK_RAW)

instance (state : RIL_RadioState) (code : ℤ) : Decidable (admitted state code) := by
  unfold admitted
  infer_instance

def handle (request : Request) : Ril Unit := do
  if admitted (← get).m_radioState request.code then
    if ¬ (← supports L request.code) then complete request .REQUEST_NOT_SUPPORTED .null
    else
      match ← requestHandlerAt L (request.code - FirstRequest) with
      | some handler => handler request
      | none => fault .pointer
  else complete request .RADIO_NOT_AVAILABLE .null

/-- Within the bounds of the table the handler is found. -/
theorem requestHandlerAt_eq {code : ℤ} (h : ¬ (code < FirstRequest ∨ LastRequest < code)) :
    requestHandlerAt L (code - FirstRequest) = pure (handlerOf L code) := by
  have hlength := m_requestHandlers_length L
  have hlt : (code - FirstRequest).toNat < (m_requestHandlers L).length := by omega
  rw [handlerOf, if_neg h, List.getD_eq_getElem?_getD, requestHandlerAt, if_neg (by omega),
    List.getElem?_eq_getElem hlt]
  rfl

theorem supports_eq (code : ℤ) : supports L code = pure (handlerOf L code).isSome := by
  unfold supports
  split_ifs with h
  · rw [handlerOf, if_pos h]
    rfl
  · rw [requestHandlerAt_eq L h]
    rfl

/-- No access to the table is made that does not find an entry. -/
theorem handle_eq (request : Request) : handle L request = (do
    if admitted (← get).m_radioState request.code then
      (handlerOf L request.code).elim (complete request .REQUEST_NOT_SUPPORTED .null) (· request)
    else complete request .RADIO_NOT_AVAILABLE .null) := by
  unfold handle
  refine congrArg _ (funext fun handler => ?_)
  split_ifs with hadmitted
  · rw [supports_eq]
    cases hf : handlerOf L request.code with
    | none => rfl
    | some f =>
      have hrange : ¬ (request.code < FirstRequest ∨ LastRequest < request.code) := by
        intro hout
        rw [handlerOf, if_pos hout] at hf
        contradiction
      rw [requestHandlerAt_eq L hrange, hf]
      rfl
  · rfl

theorem handle_refused {request : Request} {handler : RequestHandler}
    (h : ¬ admitted handler.m_radioState request.code) :
    handle L request handler = complete request .RADIO_NOT_AVAILABLE .null handler :=
  congrFun (if_neg h) handler

theorem handle_admitted {request : Request} {handler : RequestHandler} {f : Handler}
    (h : admitted handler.m_radioState request.code) (hf : handlerOf L request.code = some f) :
    handle L request handler = f request handler := by
  rw [handle_eq]
  refine (congrFun (if_pos h) handler).trans ?_
  rw [hf]
  rfl

theorem handle_unsupported {request : Request} {handler : RequestHandler}
    (h : admitted handler.m_radioState request.code) (hf : handlerOf L request.code = none) :
    handle L request handler = complete request .REQUEST_NOT_SUPPORTED .null handler := by
  rw [handle_eq]
  refine (congrFun (if_pos h) handler).trans ?_
  rw [hf]
  rfl

/-- An overload of `handle` for a class of messages. -/
structure Notification where
  group : MessageGroup
  definition : MessageDefinition
  handle : Message → Struct definition.fields → Ril Unit

/-- The overloads; those for messages that are only logged do nothing. -/
def notifications : List Notification :=
  [⟨CMD_PWR, PwrPhoneBootComplete, fun _ _ => handlePwrPhoneBootComplete⟩,
   ⟨CMD_PWR, PwrPhonePoweredOff, fun _ _ => return ()⟩,
   ⟨CMD_PWR, PwrPhoneReset, fun _ _ => handlePwrPhoneReset⟩,
   ⟨CMD_PWR, PwrPhoneModeChanged, fun _ => handlePwrPhoneModeChanged⟩,
   ⟨CMD_MISC, MiscGetMobileEquipImsiReply, fun message _ => handleMiscGetMobileEquipImsiReply message⟩,
   ⟨CMD_SEC, SecGetPinStatusReply, fun _ => handleSecGetPinStatusReply⟩,
   ⟨CMD_SEC, SecSimCardType, fun _ _ => return ()⟩,
   ⟨CMD_NET, NetGetCurrentPlmnReply, fun message _ => handleNetGetCurrentPlmnReply message⟩,
   ⟨CMD_NET, NetGetNetworkRegistrationReply, handleNetGetNetworkRegistrationReply⟩,
   ⟨CMD_DISP, DispGetIconInformationReply, fun _ => handleDispGetIconInformationReply⟩,
   ⟨CMD_DISP, DispRssiInformation, fun _ _ => handleDispRssiInformation⟩,
   ⟨CMD_CALL, CallIncoming, fun _ _ => handleCallIncoming⟩,
   ⟨CMD_CALL, CallStateChanged, fun _ => handleCallStateChanged⟩,
   ⟨CMD_SVC, SvcDisplayScreen, fun _ => handleSvcDisplayScreen L⟩]

/-- A message delivered to the handler. -/
def notify (message : Message) : Ril Unit :=
  match (notifications L).find? fun n =>
    n.group.id = message.group.id ∧ n.definition.id = message.definition.id with
  | none => return ()
  | some n =>
    match message.static_cast n.definition with
    | none => fault .badCast
    | some value => n.handle message value

end
end RequestHandler

namespace Completion
open RequestHandler

/-- The completion of a message with a reply. -/
def run (completion : Completion) (reply : Message) : Ril Unit :=
  match completion with
  | .handlePinStatusRefreshComplete => RequestHandler.handlePinStatusRefreshComplete reply
  | .handleRadioPowerSetModeComplete request =>
    RequestHandler.handleRadioPowerSetModeComplete reply request
  | .handleQueryAvailableNetworksComplete request =>
    RequestHandler.handleQueryAvailableNetworksComplete reply request
  | .handleSetBandModeComplete request => RequestHandler.handleSetBandModeComplete reply request
  | .handleSetPreferredNetworkTypeComplete request =>
    RequestHandler.handleSetPreferredNetworkTypeComplete reply request
  | .setPLMNSelectionComplete request => RequestHandler.setPLMNSelectionComplete reply request

end Completion
end FreeRil
