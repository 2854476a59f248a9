import FreeRil.IPCSocketHandler.Frames
import FreeRil.RequestHandler.Handlers

/-! What the handlers ask for: few of them read memory whose content is not known, and only one may
send a message that is too long for a frame. -/
namespace FreeRil
open Messages RIL Program

namespace RIL

/-- No memory of unknown content is read, but for that behind the integers of a request. -/
def Call.Plain (c : Call) : Prop :=
  ∀ source size, c = .memory source size → source = .outside ∧ size = 4

/-- All that is asked for, in any state, is like this. -/
def Asks (ok : Call → Prop) {α : Type} (p : Ril α) : Prop := ∀ handler, (p handler).All ok

section
variable {ok : Call → Prop} {α β : Type}

theorem asks_pure {a : α} : Asks ok (pure a) := fun _ => trivial

theorem asks_get : Asks ok get := fun _ => trivial

theorem asks_modify {f : RequestHandler → RequestHandler} : Asks ok (modify f) := fun _ => trivial

theorem Asks.bind {p : Ril α} {f : α → Ril β} (hp : Asks ok p) (hf : ∀ a, Asks ok (f a)) :
    Asks ok (p >>= f) := fun handler =>
  Program.all_bind.mpr ⟨hp handler, fun r _ => hf r.1 r.2⟩

theorem asks_call {c : Call} (h : ok c) : Asks ok (call c) := fun _ => ⟨h, fun _ => trivial⟩

theorem asks_fault {f : RIL.Fault} (h : ok (.fault f)) : Asks ok (fault f : Ril α) :=
  fun _ => ⟨h, fun r => r.elim⟩

end

/-- Nor is a vector or a table of functions read outside of its bounds. -/
def Call.Sound (c : Call) : Prop := c.Plain ∧ ∀ f, c = .fault f → f ≠ .range ∧ f ≠ .table

theorem Call.sound_fault {f : RIL.Fault} (h : f ≠ .range ∧ f ≠ .table) : (Call.fault f).Sound :=
  ⟨nofun, fun _ heq => Call.fault.inj heq ▸ h⟩

abbrev Soundly {α : Type} (p : Ril α) : Prop := Asks Call.Sound p

/-- Nothing is read that is not known. -/
abbrev Plainly {α : Type} (p : Ril α) : Prop := Asks Call.Plain p

/-- A message that is sent has a frame. -/
def Call.Short : Call → Prop
  | .execute message _ | .submit message _ => message.Short
  | _ => True

theorem Call.Short.sent {c : Call} {message : Message} {completion : Option Completion}
    (h : c.Short)
    (hsent : c.outward = some (.sent message completion)) : message.Short := by
  cases c with
  | execute message' handler =>
    cases hsent
    exact h
  | submit message' completion' =>
    cases hsent
    exact h
  | _ => cases hsent

end RIL

/-- The fields of a definition are of fixed size, and few enough for a frame. -/
def MessageDefinition.short (definition : MessageDefinition) : Bool :=
  (fixedSize definition.fields).any fun size => Header.size + size < 2 ^ 16

theorem Message.Short.of_sized {message : Message} (hsized : message.definition.Sized message.value)
    (h : message.definition.short = true) : message.Short := by
  obtain ⟨size, hsize, hlt⟩ := (Option.any_eq_true _ _).mp h
  have hlength : (message.definition.wire message.value).length = size :=
    wireStructure_length hsized hsize
  rw [Message.Short, hlength]
  exact of_decide_eq_true hlt

theorem Message.Short.of_fixed {group : MessageGroup} {definition : MessageDefinition}
    {value : Struct definition.fields}
    (h : (definition.fields.all Field.isFixed && definition.short) = true) :
    Message.Short ⟨group, definition, value⟩ :=
  .of_sized (sizedStructure_of_fixed (Bool.and_eq_true_iff.mp h).1 [] value 0)
    (Bool.and_eq_true_iff.mp h).2

namespace RequestHandler

theorem Plain.short {message : Message} (hmessage : Plain True message)
    (h : message.definition.short = true) : message.Short :=
  .of_sized ((Message.agrees_iff_sized message).mp (hmessage.agrees trivial)) h

end RequestHandler

namespace RIL

section
variable {ok : Call → Prop} {α : Type}

theorem asks_execute_of {message : Message} (h : ∀ handler, ok (.execute message handler)) :
    Asks ok (execute message) := fun handler => ⟨h handler, fun _ => trivial⟩

theorem asks_readVector (hrange : ok (.fault .range)) (data : Bytes) (size : ℕ) :
    Asks ok (readVector data size) := by
  unfold readVector
  split_ifs
  · exact asks_fault hrange
  · exact asks_pure

theorem asks_readItem (hrange : ok (.fault .range)) (items : List α) (i : ℕ) :
    Asks ok (readItem items i) := by
  unfold readItem
  split
  · exact asks_pure
  · exact asks_fault hrange

variable (hok : ∀ c, c.Sound → c.Short → ok c)
include hok

theorem asks_execute {message : Message} (h : message.Short) : Asks ok (execute message) :=
  asks_execute_of fun _ => hok _ ⟨nofun, nofun⟩ h

theorem asks_submitSubscribed {message : Message} (h : message.Short) (completion : Completion) :
    Asks ok (submitSubscribed message completion) := asks_call (hok _ ⟨nofun, nofun⟩ h)

theorem asks_complete (request : Request) (e : RIL_Errno) (response : Response) :
    Asks ok (complete request e response) := asks_call (hok _ ⟨nofun, nofun⟩ trivial)

theorem asks_crash {f : RIL.Fault} (h : f ≠ .range ∧ f ≠ .table) : Asks ok (fault f : Ril α) :=
  asks_fault (hok _ (Call.sound_fault h) trivial)

theorem asks_setRadioState (state : RIL_RadioState) : Asks ok (setRadioState state) := by
  apply asks_get.bind
  intro handler
  split_ifs
  · exact asks_modify.bind fun _ => asks_call (hok _ ⟨nofun, nofun⟩ trivial)
  · exact asks_pure

theorem asks_message_cast (group : MessageGroup) (definition : MessageDefinition)
    (message : Message) : Asks ok (message_cast group definition message) := by
  unfold message_cast
  split_ifs
  · split
    · exact asks_pure
    · exact asks_crash hok ⟨nofun, nofun⟩
  · exact asks_pure

theorem asks_intAt (data : Payload) (i : ℕ) : Asks ok (intAt data i) := by
  unfold intAt
  split
  · split
    · exact asks_pure
    · have hmemory : Call.Sound (.memory .outside 4) := by
        refine ⟨?_, nofun⟩
        rintro source size ⟨⟩
        exact ⟨rfl, rfl⟩
      exact (asks_call (hok _ hmemory trivial)).bind fun _ => asks_pure
  · exact asks_crash hok ⟨nofun, nofun⟩
  · exact asks_crash hok ⟨nofun, nofun⟩

theorem asks_cstring (data : Payload) : Asks ok (cstring data) := by
  unfold cstring
  split
  · exact asks_pure
  · exact asks_crash hok ⟨nofun, nofun⟩
  · exact asks_crash hok ⟨nofun, nofun⟩

theorem asks_stringAt (data : Payload) (i : ℕ) : Asks ok (stringAt data i) := by
  unfold stringAt
  split
  · split
    · exact asks_pure
    · exact asks_crash hok ⟨nofun, nofun⟩
  · exact asks_crash hok ⟨nofun, nofun⟩
  · exact asks_crash hok ⟨nofun, nofun⟩

end
end RIL

namespace RequestHandler

section
variable {ok : Call → Prop} (hok : ∀ c, c.Sound → c.Short → ok c)
include hok

theorem asks_completeGenCommand (reply : Message) (request : Option Request) :
    Asks ok (completeGenCommand reply request) := by
  have hcomplete : ∀ e, Asks ok (completeIfAny request e) := by
    intro e
    cases request with
    | none => exact asks_pure
    | some request => exact asks_complete hok request e _
  apply (asks_message_cast hok _ _ _).bind
  intro value
  split
  · exact (hcomplete _).bind fun _ => asks_pure
  · exact (hcomplete _).bind fun _ => asks_pure

theorem execute_short {message : Message} (h : message.Short) (handler : RequestHandler) :
    ok (.execute message handler) := hok _ ⟨nofun, nofun⟩ h

variable (request : Request)

theorem asks_executeGenCommand_of {message : Message}
    (h : ∀ handler, ok (.execute message handler)) :
    Asks ok (executeGenCommand message request) :=
  (asks_execute_of h).bind fun reply =>
    (asks_completeGenCommand hok reply _).bind fun _ => asks_pure

theorem asks_executeGenCommand {message : Message} (h : message.Short) :
    Asks ok (executeGenCommand message request) :=
  asks_executeGenCommand_of hok request (execute_short hok h)

theorem asks_fromCache (key : CacheKey) (group : MessageGroup) (definition : MessageDefinition)
    {message : Message} (h : message.Short) {k : Struct definition.fields → Ril Unit}
    (hk : ∀ value, Asks ok (k value)) :
    Asks ok (fromCache key group definition message request k) := by
  have hcached : Asks ok (cached key group definition) := by
    apply asks_get.bind
    intro handler
    split
    · exact asks_message_cast hok _ _ _
    · exact asks_pure
  apply hcached.bind
  intro value
  split
  · exact hk _
  · apply (asks_execute hok h).bind
    intro reply
    apply (asks_message_cast hok _ _ _).bind
    intro value
    split
    · exact asks_complete hok request _ _
    · exact asks_modify.bind fun _ => hk _

/-- A message is sent, and the answer to it is what the request is completed with. -/
theorem asks_answer {message : Message} (h : ∀ handler, ok (.execute message handler))
    (group : MessageGroup) (definition : MessageDefinition)
    {k : Option (Struct definition.fields) → Ril Unit} (hk : ∀ value, Asks ok (k value)) :
    Asks ok (execute message >>= fun reply => message_cast group definition reply >>= k) :=
  (asks_execute_of h).bind fun reply => (asks_message_cast hok group definition reply).bind hk

/-! Calls. -/

omit hok in
theorem asks_loadCalls (hrange : ok (.fault .range)) (callList : List CallListItem) (count i : ℕ) :
    Asks ok (loadCalls callList count i) := by
  induction count generalizing i with
  | zero => exact asks_pure
  | succ count ih =>
    apply (asks_readItem hrange callList i).bind
    intro item
    have hbuild : Asks ok (buildCall item) := (asks_readVector hrange _ _).bind fun _ => asks_pure
    exact hbuild.bind fun _ => asks_modify.bind fun _ => (ih _).bind fun _ => asks_pure

theorem asks_handleCurrentCalls (hrange : ok (.fault .range)) :
    Asks ok (handleCurrentCalls request) := by
  apply asks_answer hok (execute_short hok (.of_fixed rfl))
  intro value
  split
  · exact asks_complete hok request _ _
  · exact asks_modify.bind fun _ => (asks_loadCalls hrange _ _ _).bind fun _ =>
      asks_complete hok request _ _

theorem asks_handleLastCallFailCause : Asks ok (handleLastCallFailCause request) :=
  asks_get.bind fun _ => asks_complete hok request _ _

theorem asks_handleDial : Asks ok (handleDial request) := by
  unfold handleDial
  split
  · exact asks_executeGenCommand hok request ((plain_originate _ _).short rfl)
  · exact asks_crash hok ⟨nofun, nofun⟩
  · exact asks_crash hok ⟨nofun, nofun⟩
  · exact asks_crash hok ⟨nofun, nofun⟩

theorem asks_handleAnswer : Asks ok (handleAnswer request) := by
  apply asks_get.bind
  intro handler
  split_ifs
  · exact asks_executeGenCommand hok request (.of_fixed rfl)
  · exact asks_complete hok request _ _

omit hok in
/-- All tones that have a place are sent. -/
theorem short_sendBurstDtmf (s : CString) : (sendBurstDtmf s).Short := by
  have hlength : ((sendBurstDtmf s).definition.wire (sendBurstDtmf s).value).length = 84 := by
    have hpadded := padded_length 82 0 s.val
    simp [MessageDefinition.wire, sendBurstDtmf, CallSendBurstDtmf, MessageDefinition.out,
      wireStructure,
      Field.wire, IntType.size, hpadded]
  rw [Message.Short, hlength]
  decide

theorem asks_handleDTMF : Asks ok (handleDTMF request) :=
  (asks_cstring hok request.data).bind fun s =>
    asks_executeGenCommand hok request (short_sendBurstDtmf s)

theorem asks_continuousDTMF (tone : UInt8) : Asks ok (continuousDTMF request tone) := by
  unfold continuousDTMF
  split_ifs
  · exact asks_executeGenCommand hok request (.of_fixed rfl)
  · exact asks_executeGenCommand hok request (.of_fixed rfl)

theorem asks_handleDTMFStart : Asks ok (handleDTMFStart request) :=
  (asks_cstring hok request.data).bind fun _ => asks_continuousDTMF hok request _

/-! The SIM card and the power of the phone. -/

theorem asks_handleSIMStatus : Asks ok (handleSIMStatus request) := by
  have htranslate : ∀ state xstate, Asks ok (translateSimStatus state xstate request) :=
    fun _ _ => asks_complete hok request _ _
  apply asks_get.bind
  intro handler
  dsimp only
  split_ifs
  · exact htranslate _ _
  · apply asks_answer hok (execute_short hok (.of_fixed rfl))
    intro value
    split
    · exact htranslate _ _
    · exact (htranslate _ _).bind fun _ => asks_setRadioState hok _

theorem asks_setPinStatus (pin puk : Option CString) (op : UInt8) :
    Asks ok (setPinStatus request pin puk op) := by
  unfold setPinStatus
  split_ifs
  · exact asks_complete hok request _ _
  · exact asks_executeGenCommand hok request ((plain_setPinStatus pin puk op).short rfl)

theorem asks_enterPin (op : UInt8) : Asks ok (enterPin op request) :=
  (asks_stringAt hok request.data 0).bind fun _ => asks_setPinStatus hok request _ _ _

theorem asks_enterPuk (op : UInt8) : Asks ok (enterPuk op request) :=
  (asks_stringAt hok request.data 0).bind fun _ =>
    (asks_stringAt hok request.data 1).bind fun _ => asks_setPinStatus hok request _ _ _

theorem asks_changePin (op : UInt8) : Asks ok (changePin op request) := by
  apply (asks_stringAt hok request.data 0).bind
  intro currentPwd
  apply (asks_stringAt hok request.data 1).bind
  intro newPwd
  unfold changeLockPwd
  split
  · split_ifs
    · exact asks_complete hok request _ _
    · exact asks_executeGenCommand hok request ((plain_changeLockPwd _ _ op).short rfl)
  · exact asks_crash hok ⟨nofun, nofun⟩

theorem asks_handleSIM_IO (h : ∀ io, request.data = .sim_io io → ¬ withheld io → ∀ data,
    simData io = some data → ∀ handler, ok (.execute (rsimAccess io data) handler)) :
    Asks ok <| handleSIM_IO request := by
  unfold handleSIM_IO
  split
  next io hio =>
    split_ifs with hwithheld
    · exact asks_pure
    · unfold accessSIM
      split
      · exact asks_complete hok request _ _
      next data hdata =>
        apply asks_answer hok (h io hio hwithheld data hdata)
        intro value
        split
        · exact asks_complete hok request _ _
        · exact asks_complete hok request _ _
  · exact asks_crash hok ⟨nofun, nofun⟩
  · exact asks_crash hok ⟨nofun, nofun⟩

theorem asks_setPower (on shutdown : Bool) : Asks ok (setPower on shutdown request) := by
  unfold setPower
  split
  · refine asks_submitSubscribed hok ?_ _
    split_ifs
    · exact .of_fixed rfl
    · exact .of_fixed rfl
  · apply (asks_execute hok (.of_fixed rfl)).bind
    intro reply
    apply (asks_completeGenCommand hok reply _).bind
    intro success
    split_ifs
    · exact asks_setRadioState hok _
    · exact asks_pure

theorem asks_handleRadioPower : Asks ok (handleRadioPower request) := by
  unfold handleRadioPower
  split_ifs
  · exact asks_complete hok request _ _
  · apply (asks_intAt hok request.data 0).bind
    intro on
    apply asks_get.bind
    intro handler
    dsimp only
    split
    · exact asks_complete hok request _ _
    · exact (asks_call (hok (.property_get _ _) ⟨nofun, nofun⟩ trivial)).bind fun _ =>
        asks_setPower hok request _ _

/-! The network. -/

theorem asks_completeMode (mode : UInt8) :
    Asks ok (handleQueryNetworkSelectionMode.completeMode request mode) := by
  unfold handleQueryNetworkSelectionMode.completeMode
  split_ifs
  · exact asks_complete hok request _ _
  · exact asks_complete hok request _ _
  · exact asks_complete hok request _ _

theorem asks_handleQueryNetworkSelectionMode :
    Asks ok (handleQueryNetworkSelectionMode request) :=
  asks_fromCache hok request _ _ _ (.of_fixed rfl) fun _ => asks_completeMode hok request _

theorem asks_setPLMNSelection (plmn : Option CString) :
    Asks ok (setPLMNSelection request plmn) := by
  unfold setPLMNSelection
  split_ifs
  · exact asks_complete hok request _ _
  · exact asks_submitSubscribed hok ((plain_plmnSelection plmn).short rfl) _

theorem asks_handleSetNetworkSelectionManual :
    Asks ok (handleSetNetworkSelectionManual request) := by
  unfold handleSetNetworkSelectionManual
  split
  · exact asks_setPLMNSelection hok request _
  · exact asks_setPLMNSelection hok request _
  · exact asks_crash hok ⟨nofun, nofun⟩

omit hok in
theorem asks_getCleanMCCMNC (hrange : ok (.fault .range)) (data : Bytes) :
    Asks ok (getCleanMCCMNC data) :=
  (asks_readVector hrange data 6).bind fun _ => asks_pure

theorem asks_operatorNames (mccmnc : Bytes) : Asks ok (operatorNames mccmnc) := by
  apply (asks_call (hok (.lookupOperator _) ⟨nofun, nofun⟩ trivial)).bind
  intro names
  split
  · exact asks_pure
  · exact asks_pure

theorem asks_handleOperator (hrange : ok (.fault .range)) : Asks ok (handleOperator request) :=
  asks_fromCache hok request _ _ _ (.of_fixed rfl) fun _ =>
    (asks_getCleanMCCMNC hrange _).bind fun _ => (asks_operatorNames hok _).bind fun _ =>
      asks_complete hok request _ _

theorem asks_handleSetBandMode : Asks ok (handleSetBandMode request) :=
  (asks_intAt hok request.data 0).bind fun _ => asks_submitSubscribed hok (.of_fixed rfl) _

theorem asks_handleSetPreferredNetworkType : Asks ok (handleSetPreferredNetworkType request) :=
  (asks_intAt hok request.data 0).bind fun _ => asks_submitSubscribed hok (.of_fixed rfl) _

theorem asks_handleGetPreferredNetworkType : Asks ok (handleGetPreferredNetworkType request) :=
  asks_fromCache hok request _ _ _ (.of_fixed rfl) fun _ => asks_complete hok request _ _

theorem asks_getNetworkRegistration (op : UInt8) : Asks ok (getNetworkRegistration request op) :=
  asks_fromCache hok request _ _ _ (.of_fixed rfl) fun _ => asks_complete hok request _ _

/-! The equipment, the display and the microphone. -/

theorem asks_handleBasebandVersion : Asks ok (handleBasebandVersion request) :=
  asks_fromCache hok request _ _ _ (.of_fixed rfl) fun _ => asks_complete hok request _ _

theorem asks_completeSerial (stringLength : UInt8) (serial : Bytes) :
    Asks ok (handleIMEI.completeSerial request stringLength serial) := by
  unfold handleIMEI.completeSerial
  split_ifs
  · exact asks_complete hok request _ _
  · exact asks_complete hok request _ _

theorem asks_handleIMEI : Asks ok (handleIMEI request) :=
  asks_fromCache hok request _ _ _ (.of_fixed rfl) fun _ => asks_completeSerial hok request _ _

theorem asks_handleIMSI : Asks ok (handleIMSI request) := by
  apply asks_get.bind
  intro handler
  split_ifs
  · exact asks_complete hok request _ _
  · exact asks_fromCache hok request _ _ _ (.of_fixed rfl) fun _ => asks_complete hok request _ _

theorem asks_handleSignalStrength : Asks ok (handleSignalStrength request) := by
  apply asks_answer hok (execute_short hok (.of_fixed rfl))
  intro value
  split
  · exact asks_complete hok request _ _
  · exact asks_complete hok request _ _

theorem asks_handleSetMute : Asks ok (handleSetMute request) :=
  (asks_intAt hok request.data 0).bind fun _ => asks_executeGenCommand hok request (.of_fixed rfl)

theorem asks_handleGetMute : Asks ok (handleGetMute request) := by
  apply asks_answer hok (execute_short hok (.of_fixed rfl))
  intro value
  split
  · exact asks_complete hok request _ _
  · exact asks_complete hok request _ _

/-! The vendor's service: its tables are all that may be left. -/

section
open OemRequestHandler

omit hok in
/-- An index that is in the table, or one that need not be. -/
theorem asks_tableAt {table : List UInt8} {i : Int32}
    (h : ok (.memory .outside 1) ∨ i.toInt.toNat < table.length) : Asks ok (tableAt table i) := by
  unfold tableAt
  split
  · exact asks_pure
  next hnone =>
    rcases h with h | h
    · exact (asks_call h).bind fun _ => asks_pure
    · exact absurd (List.getElem?_eq_none_iff.mp hnone) (not_le.mpr h)

omit hok in
theorem asks_onSuccess {method : Ril Bool} (h : Asks ok method) (response : Response) :
    Asks ok (onSuccess method response) := h.bind fun _ => asks_pure

theorem asks_executeCommand {message : Message} (h : message.Short) :
    Asks ok (executeCommand message) :=
  (asks_execute hok h).bind fun reply => asks_completeGenCommand hok reply none

theorem asks_handleSetCallAudioPath (path extraVolume : Int32) :
    Asks ok (handleSetCallAudioPath path extraVolume) := by
  unfold handleSetCallAudioPath
  split_ifs with hpath
  · exact asks_pure
  · apply (asks_tableAt (.inr ?_)).bind fun _ => asks_executeCommand hok (.of_fixed rfl)
    omega

theorem asks_handleSetCallVolume {device : Int32} (h : ok (.memory .outside 1) ∨ device ≠ 4)
    (volume : Int32) : Asks ok (handleSetCallVolume device volume) := by
  unfold handleSetCallVolume
  split_ifs with hdevice
  · exact asks_pure
  · apply (asks_tableAt (h.imp_right fun hne => ?_)).bind fun _ =>
      asks_executeCommand hok (.of_fixed rfl)
    have hne' : device.toInt ≠ 4 := fun heq => hne (Int32.toInt.inj heq)
    have hlength : device_map.length = 4 := rfl
    omega

theorem asks_oemGetMute : Asks ok OemRequestHandler.handleGetMute := by
  apply (asks_execute hok (.of_fixed rfl)).bind
  intro reply
  apply (asks_message_cast hok _ _ _).bind
  intro value
  split
  · exact asks_pure
  · exact asks_pure

theorem asks_perform (L : ParcelLibrary) {call : OemCall L.Parcel}
    (h : ok (.memory .outside 1) ∨ ∀ device volume, call = .setCallVolume device volume →
      device ≠ 4) :
    Asks ok (perform L call) := by
  cases call with
  | attachService attach => exact asks_onSuccess asks_pure _
  | getMute => exact (asks_oemGetMute hok).bind fun _ => asks_pure
  | setCallAudioPath path extraVolume =>
    exact asks_onSuccess (asks_handleSetCallAudioPath hok _ _) _
  | setCallVolume device volume =>
    apply asks_onSuccess
    apply asks_handleSetCallVolume hok
    exact h.imp_right fun h => h device volume rfl
  | samsungOemRequest => exact asks_onSuccess asks_pure _
  | setDhaSolution mode select extra =>
    exact asks_onSuccess (asks_executeCommand hok
      ((plain_setDhaSolution mode select extra).short rfl)) _
  | _ => exact asks_onSuccess (asks_executeCommand hok (.of_fixed rfl)) _

theorem all_handleOemHookRaw (L : ParcelLibrary) {handler : RequestHandler}
    (h : ok (.memory .outside 1) ∨ ∀ data, request.data = .raw data → ∀ device volume,
      oemCall L handler.m_radioState data = .ok (.setCallVolume device volume) → device ≠ 4) :
    (handleOemHookRaw L request handler).All ok := by
  cases hdata : request.data with
  | raw data =>
    cases hcall : oemCall L handler.m_radioState data with
    | error e =>
      obtain ⟨e', heq⟩ := handleOemHookRaw_error hdata hcall
      rw [heq]
      exact asks_complete hok request e' .null handler
    | ok oem =>
      rw [handleOemHookRaw_ok hdata hcall]
      have hperform : Asks ok (perform L oem) := by
        apply asks_perform hok
        apply h.imp_right
        rintro h device volume rfl
        exact h data hdata device volume hcall
      have hperformed : Asks ok (performOem L oem request) := by
        apply hperform.bind
        intro response
        split
        · exact asks_complete hok request _ _
        · exact asks_complete hok request _ _
      exact hperformed handler
  | _ =>
    unfold handleOemHookRaw
    split_ifs
    · exact asks_complete hok request _ _ handler
    · rw [hdata]
      refine asks_crash hok ?_ handler
      exact ⟨nofun, nofun⟩

end

/-! Commands about calls: the bytes that are reserved in their message are never set, and the index
of a line may be negative. -/

/-- The first integer of a request is that of a line, if it has one. -/
def NamesLine (data : Payload) : Prop :=
  ∀ values, data = .ints values → ∃ n, values[0]? = some n ∧ 0 ≤ (n - 1).toInt

section
variable (hreserved : ok (.memory .uninitialised 83))
include hreserved

theorem asks_manageCall (callCommand callId : UInt8) :
    Asks ok (manageCall callCommand callId request) :=
  (asks_call hreserved).bind fun _ => asks_executeGenCommand hok request (.of_fixed rfl)

theorem asks_manageLine (callCommand : UInt8) (callIds : List UInt8)
    (h : ok (.memory .outside 1) ∨ NamesLine request.data) :
    Asks ok (manageLine callCommand callIds request) := by
  intro handler
  apply Program.all_bind.mpr
  constructor
  · exact asks_intAt hok request.data 0 handler
  rintro ⟨line, handler'⟩ hline
  have hnames : ok (.memory .outside 1) ∨ 0 ≤ (line - 1).toInt := by
    apply h.imp_right
    intro h
    cases hdata : request.data with
    | ints values =>
      obtain ⟨n, hn, hle⟩ := h values hdata
      obtain rfl :=
        ((inward_intAt request.data 0).returns handler line handler' hline).2 values n hdata hn
      exact hle
    | _ => exact absurd hline (by simp [hdata, intAt, fault, Returns])
  revert handler'
  suffices hrest : ∀ handler', Program.All ok ((if callIds.length ≤ (line - 1).toInt then
      complete request .GENERIC_FAILURE .null else do
        let callId ← callIdAt callIds (line - 1).toInt
        manageCall callCommand callId request : Ril Unit) handler') from
          fun handler' _ => hrest handler'
  split_ifs with hlength
  · exact asks_complete hok request _ _
  apply Asks.bind ?_ fun callId => asks_manageCall hok request hreserved callCommand callId
  unfold callIdAt
  split_ifs with hneg
  · exact (asks_call (hnames.resolve_right (not_le.mpr hneg))).bind fun _ => asks_pure
  · have hlt : (line - 1).toInt.toNat < callIds.length := by omega
    unfold readItem
    rw [List.getElem?_eq_getElem hlt]
    exact asks_pure

theorem all_genericHangup (manageCommand : UInt8) (useValidCallId : Bool) {handler : RequestHandler}
    (h : ok (.memory .outside 1) ∨
      (useValidCallId = true → 2 ≤ handler.m_callIds.length → NamesLine request.data)) :
    (genericHangup request manageCommand useValidCallId handler).All ok := by
  have hrest : ∀ callIds : List UInt8, callIds = handler.m_callIds → Program.All ok
      ((if callIds.length = 0 then complete request .GENERIC_FAILURE .null
        else if callIds.length = 1 then executeGenCommand ⟨CMD_CALL, CallRelease, ()⟩ request
        else if useValidCallId then manageLine manageCommand callIds request
        else manageCall manageCommand 0 request : Ril Unit) handler) := by
    rintro callIds rfl
    split_ifs with hzero hone huse
    · exact asks_complete hok request _ _ handler
    · exact asks_executeGenCommand hok request (.of_fixed rfl) handler
    · apply asks_manageLine hok request hreserved
      exact h.imp_right fun h => h huse (by omega)
    · exact asks_manageCall hok request hreserved _ _ handler
  exact hrest handler.m_callIds rfl

end

end

/-- The requests that send such commands. -/
def commands : List (ℕ × Handler) :=
  [(RIL_REQUEST_HANGUP, handleHangup),
   (RIL_REQUEST_HANGUP_WAITING_OR_BACKGROUND, handleHangupWaitingOrBackground),
   (RIL_REQUEST_HANGUP_FOREGROUND_RESUME_BACKGROUND, handleHangupForegroundResumeBackground),
   (RIL_REQUEST_SWITCH_WAITING_OR_HOLDING_AND_ACTIVE, handleSwitchWaitingOrHoldingAndActive),
   (RIL_REQUEST_CONFERENCE, handleConference),
   (RIL_REQUEST_UDUB, handleUDUB),
   (RIL_REQUEST_SEPARATE_CONNECTION, handleSeparateConnection),
   (RIL_REQUEST_EXPLICIT_CALL_TRANSFER, handleExplicitCallTransfer)]

section
variable (request : Request) (L : ParcelLibrary)

theorem separateConnection_mem :
    (RIL_REQUEST_SEPARATE_CONNECTION, handleSeparateConnection) ∈ commands := by
  simp [commands]

theorem handlerOf_command : ∀ entry ∈ commands, handlerOf L entry.1 = some entry.2 := by
  have hlarge : ∀ entry ∈ constructorHandlers L, staticHandlers.length ≤
    entry.1 - FirstRequest := by
    simp only [constructorHandlers, List.forall_mem_cons, List.not_mem_nil, false_imp_iff,
      implies_true, and_true]
    decide
  have hstatic : ∀ {i : ℕ} {handler : Handler}, staticHandlers[i]? = some (some handler) →
      handlerOf L (i + FirstRequest : ℕ) = some handler := by
    intro i handler h
    refine handlerOf_static h fun entry hentry hi => ?_
    have hlt := (List.getElem?_eq_some_iff.mp h).1
    have hle := hlarge entry hentry
    omega
  simp only [commands, List.forall_mem_cons, List.not_mem_nil, false_imp_iff, implies_true,
    and_true]
  refine ⟨hstatic (i := 11) rfl, hstatic (i := 12) rfl, hstatic (i := 13) rfl,
    hstatic (i := 14) rfl, hstatic (i := 15) rfl, hstatic (i := 16) rfl, ?_, ?_⟩
  · exact @handlerOf_constructor L (RIL_REQUEST_SEPARATE_CONNECTION, handleSeparateConnection)
      (by simp [constructorHandlers]) (by decide)
  · exact @handlerOf_constructor L (RIL_REQUEST_EXPLICIT_CALL_TRANSFER, handleExplicitCallTransfer)
      (by simp [constructorHandlers]) (by decide)

theorem handlerOf_oem : handlerOf L RIL_REQUEST_OEM_HOOK_RAW = some (handleOemHookRaw L) :=
  @handlerOf_constructor L (RIL_REQUEST_OEM_HOOK_RAW, handleOemHookRaw L)
    (by simp [constructorHandlers]) (show RIL_REQUEST_OEM_HOOK_RAW ≤ LastRequest by decide)

/-- All other handlers, but that of the vendor's service, read nothing that is not known, and only
the accesses to the SIM send as much as they are given. -/
theorem asks_handler {ok : Call → Prop} (hok : ∀ c, c.Sound → c.Short → ok c)
    (hrange : ok (.fault .range)) {code : ℤ}
    (hsim : code = RIL_REQUEST_SIM_IO → ∀ io, request.data = .sim_io io → ¬ withheld io →
      ∀ data, simData io = some data → ∀ handler, ok (.execute (rsimAccess io data) handler))
    {handler : Handler} (h : handlerOf L code = some handler)
    (hcommands : ∀ entry ∈ commands, code ≠ entry.1) (hoem : code ≠ RIL_REQUEST_OEM_HOOK_RAW) :
    Asks ok (handler request) := by
  refine of_handlerOf (P := fun code' handler => code = code' →
    (∀ entry ∈ commands, code' ≠ entry.1) → code' ≠ RIL_REQUEST_OEM_HOOK_RAW →
      Asks ok (handler request)) ?_ ?_ h rfl hcommands hoem
  · simp only [staticHandlers, commands, List.zipIdx_cons, List.zipIdx_nil, List.forall_mem_cons,
      List.not_mem_nil, false_imp_iff, implies_true, and_true, Option.some.injEq, forall_eq',
      reduceCtorEq, true_and]
    exact ⟨fun _ _ _ => asks_handleSIMStatus hok request,
      fun _ _ _ => asks_enterPin hok request _,
      fun _ _ _ => asks_enterPuk hok request _,
      fun _ _ _ => asks_enterPin hok request _,
      fun _ _ _ => asks_enterPuk hok request _,
      fun _ _ _ => asks_changePin hok request _,
      fun _ _ _ => asks_changePin hok request _,
      fun _ _ _ => asks_handleCurrentCalls hok request hrange,
      fun _ _ _ => asks_handleDial hok request,
      fun _ _ _ => asks_handleIMSI hok request,
      fun _ h => absurd rfl h.1,
      fun _ h => absurd rfl h.2.1,
      fun _ h => absurd rfl h.2.2.1,
      fun _ h => absurd rfl h.2.2.2.1,
      fun _ h => absurd rfl h.2.2.2.2.1,
      fun _ h => absurd rfl h.2.2.2.2.2.1,
      fun _ _ _ => asks_handleLastCallFailCause hok request,
      fun _ _ _ => asks_handleSignalStrength hok request,
      fun _ _ _ => asks_getNetworkRegistration hok request _,
      fun _ _ _ => asks_getNetworkRegistration hok request _,
      fun _ _ _ => asks_handleOperator hok request hrange,
      fun _ _ _ => asks_handleRadioPower hok request,
      fun _ _ _ => asks_handleDTMF hok request⟩
  · simp only [constructorHandlers, commands, List.forall_mem_cons, List.not_mem_nil, false_imp_iff,
      implies_true, and_true]
    exact ⟨fun hcode _ _ => asks_handleSIM_IO hok request (hsim hcode),
      fun _ _ h => absurd rfl h,
      fun _ _ _ => asks_handleQueryNetworkSelectionMode hok request,
      fun _ _ _ => asks_setPLMNSelection hok request none,
      fun _ _ _ => asks_handleSetNetworkSelectionManual hok request,
      fun _ _ _ => asks_submitSubscribed hok (.of_fixed rfl) _,
      fun _ _ _ => asks_handleDTMFStart hok request,
      fun _ _ _ => asks_continuousDTMF hok request 0,
      fun _ _ _ => asks_handleBasebandVersion hok request,
      fun _ _ _ => asks_handleIMEI hok request,
      fun _ _ _ => asks_complete hok request _ _,
      fun _ _ _ => asks_handleAnswer hok request,
      fun _ _ _ => asks_complete hok request _ _,
      fun _ _ _ => asks_handleSetBandMode hok request,
      fun _ _ _ => asks_complete hok request _ _,
      fun _ h => absurd rfl h.2.2.2.2.2.2.2,
      fun _ _ _ => asks_handleSetPreferredNetworkType hok request,
      fun _ _ _ => asks_handleGetPreferredNetworkType hok request,
      fun _ h => absurd rfl h.2.2.2.2.2.2.1,
      fun _ _ _ => asks_handleSetMute hok request,
      fun _ _ _ => asks_handleGetMute hok request⟩

/-- A handler, with the indices that it is given: they need only be well where strays are not
allowed. -/
theorem all_handler {ok : Call → Prop} (hok : ∀ c, c.Sound → c.Short → ok c)
    (hreserved : ok (.memory .uninitialised 83))
    (hrange : (∀ entry ∈ commands, request.code ≠ entry.1) → ok (.fault .range))
    (hsim : request.code = RIL_REQUEST_SIM_IO → ∀ io, request.data = .sim_io io → ¬ withheld io →
      ∀ data, simData io = some data → ∀ handler, ok (.execute (rsimAccess io data) handler))
    {handler : RequestHandler}
    (hindex : ok (.memory .outside 1) ∨
      (request.code = RIL_REQUEST_HANGUP → 2 ≤ handler.m_callIds.length → NamesLine request.data) ∧
      (request.code = RIL_REQUEST_SEPARATE_CONNECTION → NamesLine request.data) ∧
      (request.code = RIL_REQUEST_OEM_HOOK_RAW → ∀ data, request.data = .raw data → ∀ device volume,
        oemCall L handler.m_radioState data = .ok (.setCallVolume device volume) → device ≠ 4))
    {f : Handler} (hf : handlerOf L request.code = some f) : (f request handler).All ok := by
  by_cases hoem : request.code = RIL_REQUEST_OEM_HOOK_RAW
  · rw [hoem, handlerOf_oem] at hf
    obtain rfl := Option.some.inj hf
    exact all_handleOemHookRaw hok request L (hindex.imp_right fun h => h.2.2 hoem)
  by_cases hcommand : ∃ entry ∈ commands, request.code = entry.1
  · obtain ⟨entry, hentry, hcode⟩ := hcommand
    rw [hcode, handlerOf_command L entry hentry] at hf
    obtain rfl := Option.some.inj hf
    have hmanage : ∀ callCommand, (manageCall callCommand 0 request handler).All ok :=
      fun callCommand => asks_manageCall hok request hreserved _ _ handler
    have hgeneric : ∀ callCommand, (genericHangup request callCommand false handler).All ok :=
      fun callCommand => all_genericHangup hok request hreserved _ _ (.inr nofun)
    simp only [commands, List.mem_cons, List.not_mem_nil, or_false] at hentry
    obtain rfl | rfl | rfl | rfl | rfl | rfl | rfl | rfl := hentry
    · exact all_genericHangup hok request hreserved _ _ (hindex.imp_right fun h _ => h.1 hcode)
    · exact hgeneric _
    · exact hgeneric _
    · exact hmanage _
    · exact hmanage _
    · exact hmanage _
    · exact asks_manageLine hok request hreserved _ _
        (hindex.imp_right fun h => h.2.1 hcode) handler
    · exact hmanage _
  · have hcommands : ∀ entry ∈ commands, request.code ≠ entry.1 := fun entry hentry heq =>
      hcommand ⟨entry, hentry, heq⟩
    exact asks_handler request L hok (hrange hcommands) hsim hf hcommands hoem handler

/-- Requests that have no handler, and those that are refused, are completed. -/
theorem all_handle {ok : Call → Prop} (hok : ∀ c, c.Sound → c.Short → ok c)
    {handler : RequestHandler}
    (h : admitted handler.m_radioState request.code → ∀ f, handlerOf L request.code = some f →
      (f request handler).All ok) : (handle L request handler).All ok := by
  by_cases hadmitted : admitted handler.m_radioState request.code
  · cases hf : handlerOf L request.code with
    | none =>
      rw [handle_unsupported L hadmitted hf]
      exact asks_complete hok request _ _ handler
    | some f =>
      rw [handle_admitted L hadmitted hf]
      exact h hadmitted f hf
  · rw [handle_refused L hadmitted]
    exact asks_complete hok request _ _ handler

theorem plainly_handler {code : ℤ} {handler : Handler} (h : handlerOf L code = some handler)
    (hcommands : ∀ entry ∈ commands, code ≠ entry.1) (hoem : code ≠ RIL_REQUEST_OEM_HOOK_RAW) :
    Plainly (handler request) :=
  asks_handler request L (fun _ h _ => h.1) nofun (fun _ _ _ _ _ _ _ => nofun) h hcommands hoem

end
end RequestHandler
end FreeRil
