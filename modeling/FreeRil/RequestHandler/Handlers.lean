import FreeRil.RequestHandler.Conduct

/-! Each handler answers its request once, sends messages that agree with the protocol, and puts
into the cache what it has asked for. -/
namespace FreeRil
open Messages RIL Program

namespace RequestHandler
variable {C : Prop} {E : Keeping}

/-! What each of the steps that handlers share does for its request. -/
section
variable {request : Request}

theorem completes_completeGenCommand (reply : Message) :
    Completes C E request (completeGenCommand reply (some request)) := by
  apply (silent_of_inward inward_message_cast).quiet.completes
  intro value
  split
  · exact (completes_complete _ _).silently fun _ => silent_pure
  · exact (completes_complete _ _).silently fun _ => silent_pure

theorem silent_completeGenCommand (reply : Message) : Silent (completeGenCommand reply none) := by
  apply (silent_of_inward inward_message_cast).bind
  intro value
  split
  · exact silent_pure
  · exact silent_pure

theorem completes_completeWith (reply : Message) :
    Completes C E request (completeWith reply request) :=
  (completes_completeGenCommand reply).silently fun _ => silent_pure

theorem answers_executeGenCommand {message : Message} (hmessage : Plain C message) :
    Answers C request (executeGenCommand message request) :=
  (quiet_execute hmessage).answers fun reply => (completes_completeWith reply).answers

theorem silent_cached (key : CacheKey) (group : MessageGroup) (definition : MessageDefinition) :
    Silent (cached key group definition) := by
  apply silent_get.bind
  intro handler
  split
  · exact silent_of_inward inward_message_cast
  · exact silent_pure

theorem query_agrees (key : CacheKey) : key.query.Agrees := by
  apply (Message.agrees_iff_sized _).mpr
  cases key <;> exact sizedStructure_of_fixed rfl _ _ _

/-- What is not in the cache is asked for, and put there. -/
theorem answers_fromCache (key : CacheKey) {k : Struct key.reply.2.fields → Ril Unit}
    (hk : ∀ value, Answers C request (k value)) :
    Answers C request (fromCache key key.reply.1 key.reply.2 key.query request k) := by
  apply (silent_cached key _ _).quiet.answers
  intro value
  split
  · exact hk _
  intro h s hs hE
  apply Monitor.safeWith_bind.mpr
  refine execute_conduct (fun _ => query_agrees key) hE fun reply locked => ?_
  have hpending := hs.sent key.query
  by_cases haccepts : key.Accepts reply
  · have hput : effect.holds ⟨s.history ++ [.sent key.query none], locked, some (key.query, reply)⟩
        { locked with m_cache := locked.m_cache.put key reply } := by
      refine ⟨?_, fun hnone => absurd haccepts (hnone key reply rfl), .inl rfl⟩
      rintro key' reply' hasked -
      obtain ⟨hquery, rfl⟩ := Prod.mk.inj (Option.some.inj hasked)
      rw [CacheKey.query_injective hquery]
    rw [message_cast_accepted haccepts]
    cases reply.static_cast key.reply.2 with
    | none =>
      exact Monitor.safeWith_bind.mpr
        (Inward.conduct (inward_fault (R := fun _ => False)) fun _ h => h.elim)
    | some value => exact hk value _ _ hpending hput
  · have hkept : effect.holds ⟨s.history ++ [.sent key.query none], locked, some (key.query, reply)⟩
        locked := by
      refine ⟨?_, fun _ => rfl, .inl rfl⟩
      rintro key' reply' hasked haccepts'
      obtain ⟨hquery, rfl⟩ := Prod.mk.inj (Option.some.inj hasked)
      rw [← CacheKey.query_injective hquery] at haccepts'
      exact absurd haccepts' haccepts
    rw [message_cast_refused haccepts]
    exact answers_complete _ _ locked _ hpending hkept

end

/-! Calls. -/
section
variable (request : Request)

theorem silent_callIds (f : RequestHandler → List UInt8) :
    Silent (modify fun handler => { handler with m_callIds := f handler }) :=
  silent_modify (fun _ => rfl) fun _ => rfl

theorem silent_loadCalls (callList : List CallListItem) (count i : ℕ) :
    Silent (loadCalls callList count i) := by
  induction count generalizing i with
  | zero => exact silent_pure
  | succ count ih =>
    apply (silent_of_inward (inward_readItem callList i)).bind
    intro item
    have hbuild : Inward (buildCall item) fun _ => True :=
      (inward_readVector _ _).bind fun _ _ => inward_pure trivial
    apply (silent_of_inward hbuild).bind
    intro call
    exact (silent_callIds _).bind fun _ => (ih _).bind fun _ => silent_pure

theorem answers_handleCurrentCalls : Answers C request (handleCurrentCalls request) := by
  apply (quiet_execute (plain_of_ordinary rfl)).answers
  intro reply
  apply answers_inward inward_message_cast
  intro value
  split
  · exact answers_complete _ _
  · exact (silent_callIds _).quiet.answers fun _ =>
      (silent_loadCalls _ _ _).quiet.answers fun _ => answers_complete _ _

theorem answers_handleLastCallFailCause : Answers C request (handleLastCallFailCause request) :=
  silent_get.quiet.answers fun _ => answers_complete _ _

theorem plain_originate (address : CString) (clir : Int32) : Plain C (originate address clir) :=
  plain_of_sized (fun _ => ⟨trivial, trivial, trivial, trivial,
    congrArg some (padded_length 82 0 _).symm, trivial, trivial, trivial⟩) rfl

theorem answers_handleDial : Answers C request (handleDial request) := by
  unfold handleDial
  split
  · exact answers_executeGenCommand (plain_originate _ _)
  · exact answers_fault _
  · exact answers_fault _
  · exact answers_fault _

theorem answers_manageCall (callCommand callId : UInt8) :
    Answers C request (manageCall callCommand callId request) :=
  answers_inward (inward_call rfl) fun _ => answers_executeGenCommand (plain_of_ordinary rfl)

theorem answers_manageLine (callCommand : UInt8) (callIds : List UInt8) :
    Answers C request (manageLine callCommand callIds request) := by
  apply answers_inward (inward_intAt request.data 0)
  intro line
  dsimp only
  split_ifs
  · exact answers_complete _ _
  · apply Quiet.answers ?_ fun callId => answers_manageCall request callCommand callId
    unfold callIdAt
    split_ifs
    · exact (silent_of_inward (inward_call rfl)).quiet.bind fun _ => silent_pure.quiet
    · exact (silent_of_inward (inward_readItem _ _)).quiet

theorem answers_genericHangup (manageCommand : UInt8) (useValidCallId : Bool) :
    Answers C request (genericHangup request manageCommand useValidCallId) := by
  apply silent_get.quiet.answers
  intro handler
  dsimp only
  split_ifs
  · exact answers_complete _ _
  · exact answers_executeGenCommand (plain_of_ordinary rfl)
  · exact answers_manageLine request _ _
  · exact answers_manageCall request _ _

theorem answers_handleAnswer : Answers C request (handleAnswer request) := by
  apply silent_get.quiet.answers
  intro handler
  split_ifs
  · exact answers_executeGenCommand (plain_of_ordinary rfl)
  · exact answers_complete _ _

theorem answers_handleSeparateConnection : Answers C request (handleSeparateConnection request) :=
  silent_get.quiet.answers fun _ => answers_manageLine request _ _

/-- The length is that of the vector only for strings that fill it. -/
theorem sized_sendBurstDtmf_iff (s : CString) :
    (sendBurstDtmf s).definition.Sized (sendBurstDtmf s).value ↔ 82 ≤ s.val.length := by
  have hlength : (UInt8.ofNat (min 82 s.val.length)).toNat = min 82 s.val.length :=
    UInt8.toNat_ofNat_of_lt' ((min_le_left 82 _).trans_lt (by decide))
  have hvector := padded_length 82 0 s.val
  constructor
  · rintro ⟨-, -, hdata, -⟩
    have heq : (UInt8.ofNat (min 82 s.val.length)).toNat = (padded 82 0 s.val).length :=
      Option.some.inj hdata
    omega
  · intro h
    have heq : (UInt8.ofNat (min 82 s.val.length)).toNat = (padded 82 0 s.val).length := by omega
    exact ⟨trivial, trivial, congrArg some heq, trivial⟩

theorem answers_handleDTMF (h : C → ∀ s, request.data = .string s → 82 ≤ s.val.length) :
    Answers C request (handleDTMF request) := by
  apply answers_inward_of (inward_cstring request.data)
  intro s hs
  exact answers_executeGenCommand (plain_of_sized (fun hC =>
    (sized_sendBurstDtmf_iff s).mpr (h hC s hs)) rfl)

theorem answers_continuousDTMF (tone : UInt8) :
    Answers C request (continuousDTMF request tone) := by
  unfold continuousDTMF
  split_ifs
  · exact answers_executeGenCommand (plain_of_ordinary rfl)
  · exact answers_executeGenCommand (plain_of_ordinary rfl)

theorem answers_handleDTMFStart : Answers C request (handleDTMFStart request) :=
  answers_inward (inward_cstring request.data) fun _ => answers_continuousDTMF request _

end

/-! The SIM card and the power of the phone. -/
section
variable (request : Request)

theorem answers_handleSIMStatus : Answers C request (handleSIMStatus request) := by
  apply silent_get.quiet.answers
  intro handler
  dsimp only
  split_ifs
  · exact answers_complete _ _
  intro h s hs hE
  have hplain : Plain C ⟨CMD_SEC, SecGetPinStatus, ()⟩ := plain_of_ordinary rfl
  apply Monitor.safeWith_bind.mpr
  refine execute_conduct hplain.agrees hE fun reply locked => ?_
  have hpending := hs.sent ⟨CMD_SEC, SecGetPinStatus, ()⟩
  have hlocked : effect.holds ⟨s.history ++ [.sent ⟨CMD_SEC, SecGetPinStatus, ()⟩ none], locked,
      some (⟨CMD_SEC, SecGetPinStatus, ()⟩, reply)⟩ locked := effect_locked hplain.not_query
  by_cases haccepts : reply.command = CMD_SEC.type ∧ reply.subcommand = SecGetPinStatusReply.type
  · rw [message_cast_accepted haccepts]
    cases reply.static_cast SecGetPinStatusReply with
    | none =>
      exact Monitor.safeWith_bind.mpr
        (Inward.conduct (inward_fault (R := fun _ => False)) fun _ h => h.elim)
    | some value =>
      obtain ⟨state, xstate, ⟨⟩⟩ := value
      apply Monitor.safeWith_bind.mpr
      apply Monitor.safeWith_pure.mpr
      apply Monitor.safeWith_bind.mpr
      apply complete_conduct
      apply setRadioState_conduct.mono
      rintro _ h' _ ⟨rfl, hcache, -⟩
      refine ⟨⟨_, _, rfl, hpending, rfl⟩, fun key reply' hasked haccepts' => ?_, fun _ => hcache,
        .inr (.inr ⟨reply, rfl, haccepts⟩)⟩
      exact hcache.trans (hlocked.1 key reply' hasked haccepts')
  · rw [message_cast_refused haccepts]
    exact answers_complete _ _ locked _ hpending hlocked

theorem plain_setPinStatus (pin puk : Option CString) (op : UInt8) :
    Plain C ⟨CMD_SEC, SecSetPinStatus,
    op, .ofNat (length pin), .ofNat (length puk), padded 8 0 (characters pin),
    padded 8 0 (characters puk), ()⟩ :=
  plain_of_sized (fun _ => ⟨trivial, trivial, trivial, congrArg some (padded_length 8 0 _).symm,
    congrArg some (padded_length 8 0 _).symm, trivial⟩) rfl

theorem answers_setPinStatus (pin puk : Option CString) (op : UInt8) :
    Answers C request (setPinStatus request pin puk op) := by
  unfold setPinStatus
  split_ifs
  · exact answers_complete _ _
  · exact answers_executeGenCommand (plain_setPinStatus pin puk op)

theorem answers_enterPin (op : UInt8) : Answers C request (enterPin op request) :=
  answers_inward (inward_stringAt request.data 0) fun _ => answers_setPinStatus request _ _ _

theorem answers_enterPuk (op : UInt8) : Answers C request (enterPuk op request) :=
  answers_inward (inward_stringAt request.data 0) fun _ =>
    answers_inward (inward_stringAt request.data 1) fun _ => answers_setPinStatus request _ _ _

theorem plain_changeLockPwd (currentPwd newPwd : CString) (op : UInt8) : Plain C ⟨CMD_SEC,
    SecChangeLockPwd, op, .ofNat currentPwd.val.length, .ofNat newPwd.val.length,
    padded 39 0 currentPwd.val, padded 39 0 newPwd.val, ()⟩ :=
  plain_of_sized (fun _ => ⟨trivial, trivial, trivial, congrArg some (padded_length 39 0 _).symm,
    congrArg some (padded_length 39 0 _).symm, trivial⟩) rfl

theorem answers_changePin (op : UInt8) : Answers C request (changePin op request) := by
  apply answers_inward (inward_stringAt request.data 0)
  intro currentPwd
  apply answers_inward (inward_stringAt request.data 1)
  intro newPwd
  unfold changeLockPwd
  split
  · split_ifs
    · exact answers_complete _ _
    · exact answers_executeGenCommand (plain_changeLockPwd _ _ op)
  · exact answers_fault _

/-- The message that `accessSIM` sends. -/
def rsimAccess (io : RIL_SIM_IO) (data : Bytes) : Message :=
  ⟨CMD_SEC, SecRsimAccess, toU8 io.command, io.fileid.toUInt32.toUInt16, toU8 io.p1, toU8 io.p2,
    toU8 io.p3, data, ()⟩

theorem sized_rsimAccess_iff (io : RIL_SIM_IO) (data : Bytes) :
    (rsimAccess io data).definition.Sized (rsimAccess io data).value ↔ data.length = 256 := by
  constructor
  · rintro ⟨-, -, -, -, -, hdata, -⟩
    exact (Option.some.inj hdata).symm
  · intro h
    exact ⟨trivial, trivial, trivial, trivial, trivial, congrArg some h.symm, trivial⟩

theorem answers_accessSIM {io : RIL_SIM_IO}
    (h : C → ∀ data, simData io = some data → data.length = 256) :
    Answers C request (accessSIM io request) := by
  unfold accessSIM
  split
  · exact answers_complete _ _
  · rename_i data hdata
    have hmessage : Plain C (rsimAccess io data) := plain_of_sized (fun hC =>
      (sized_rsimAccess_iff io data).mpr (h hC data hdata)) rfl
    apply (quiet_execute hmessage).answers
    intro reply
    apply answers_inward inward_message_cast
    intro value
    split
    · exact answers_complete _ _
    · exact answers_complete _ _

/-- A write that is withheld is not answered. -/
theorem answers_handleSIM_IO (h : ∀ io, request.data = .sim_io io → ¬ withheld io)
    (hsized : C → ∀ io, request.data = .sim_io io → ∀ data, simData io = some data →
      data.length = 256) :
    Answers C request <| handleSIM_IO request := by
  unfold handleSIM_IO
  split
  · rename_i io hio
    rw [if_neg (h io hio)]
    exact answers_accessSIM request fun hC => hsized hC io hio
  · exact answers_fault _
  · exact answers_fault _

theorem answers_setPower (on shutdown : Bool) :
    Answers C request (setPower on shutdown request) := by
  unfold setPower
  split
  · refine answers_submitSubscribed ?_ rfl
    split_ifs
    · exact (plain_of_ordinary rfl).agrees
    · exact (plain_of_ordinary rfl).agrees
  · apply (quiet_execute (plain_of_ordinary rfl)).answers
    intro reply h s hs hE
    apply Monitor.safeWith_bind.mpr
    apply ((completes_completeGenCommand reply).answers h s hs hE).mono
    rintro success h' s' ⟨hanswered, hcache, hnone, hradio⟩
    split_ifs
    · apply setRadioState_conduct.mono
      rintro _ h'' _ ⟨rfl, hcache', hradio'⟩
      exact ⟨hanswered, fun key reply hasked haccepts =>
        hcache'.trans (hcache key reply hasked haccepts),
        fun h => hcache'.trans (hnone h), .inr (.inl hradio')⟩
    · exact ⟨hanswered, hcache, hnone, hradio⟩

theorem answers_handleRadioPower : Answers C request (handleRadioPower request) := by
  unfold handleRadioPower
  split_ifs
  · exact answers_complete _ _
  · apply answers_inward (inward_intAt request.data 0)
    intro on
    apply silent_get.quiet.answers
    intro handler
    dsimp only
    split
    · exact answers_complete _ _
    · exact answers_inward (inward_call rfl) fun _ => answers_setPower request _ _

end

/-! The network. -/
section
variable (request : Request)

theorem answers_completeMode (mode : UInt8) :
    Answers C request (handleQueryNetworkSelectionMode.completeMode request mode) := by
  unfold handleQueryNetworkSelectionMode.completeMode
  split_ifs
  · exact answers_complete _ _
  · exact answers_complete _ _
  · exact answers_complete _ _

theorem answers_handleQueryNetworkSelectionMode :
    Answers C request (handleQueryNetworkSelectionMode request) :=
  answers_fromCache .plmnSelection fun _ => answers_completeMode request _

theorem plain_plmnSelection (plmn : Option CString) : Plain C (plmnSelection plmn) :=
  plain_of_sized (fun _ => ⟨trivial, congrArg some (padded_length 6 35 _).symm, trivial, trivial⟩)
    rfl

theorem answers_setPLMNSelection (plmn : Option CString) :
    Answers C request (setPLMNSelection request plmn) := by
  unfold setPLMNSelection
  split_ifs
  · exact answers_complete _ _
  · exact answers_submitSubscribed (plain_plmnSelection plmn).agrees rfl

theorem answers_handleSetNetworkSelectionManual :
    Answers C request (handleSetNetworkSelectionManual request) := by
  unfold handleSetNetworkSelectionManual
  split
  · exact answers_setPLMNSelection request _
  · exact answers_setPLMNSelection request _
  · exact answers_fault _

theorem silent_getCleanMCCMNC (data : Bytes) : Silent (getCleanMCCMNC data) :=
  (silent_of_inward (inward_readVector data 6)).bind fun _ => silent_pure

theorem silent_operatorNames (mccmnc : Bytes) : Silent (operatorNames mccmnc) := by
  apply (silent_of_inward (inward_call rfl)).bind
  intro names
  split
  · exact silent_pure
  · exact silent_pure

theorem silent_listNetworks (plmnList : List PlmnListItem) (count : ℕ) :
    Silent (listNetworks plmnList count) := by
  induction count with
  | zero => exact silent_pure
  | succ count ih =>
    apply (silent_of_inward (inward_readItem plmnList 0)).bind
    intro item
    apply (silent_getCleanMCCMNC _).bind
    intro mccmnc
    exact (silent_operatorNames mccmnc).bind fun _ => ih.bind fun _ => silent_pure

theorem silent_freeNames (response : List Bytes) (count i : ℕ) :
    Silent (freeNames response count i) := by
  induction count generalizing i with
  | zero => exact silent_pure
  | succ count ih =>
    apply (silent_of_inward (inward_readItem _ _)).bind
    intro longName
    apply (silent_of_inward (inward_readItem _ _)).bind
    intro shortName
    exact (silent_of_inward (inward_readItem _ _)).bind fun _ => ih _

theorem answers_handleOperator : Answers C request (handleOperator request) := by
  apply answers_fromCache .currentPlmn
  intro value
  apply (silent_getCleanMCCMNC _).quiet.answers
  intro mccmnc
  exact (silent_operatorNames mccmnc).quiet.answers fun _ => answers_complete _ _

theorem answers_handleSetBandMode : Answers C request (handleSetBandMode request) :=
  answers_inward (inward_intAt request.data 0) fun _ =>
    answers_submitSubscribed (plain_of_ordinary rfl).agrees rfl

theorem answers_handleSetPreferredNetworkType :
    Answers C request (handleSetPreferredNetworkType request) :=
  answers_inward (inward_intAt request.data 0) fun _ =>
    answers_submitSubscribed (plain_of_ordinary rfl).agrees rfl

theorem answers_handleVoiceRegistrationState :
    Answers C request (handleVoiceRegistrationState request) :=
  answers_fromCache .voiceRegistration fun _ => answers_complete _ _

theorem answers_handleDataRegistrationState :
    Answers C request (handleDataRegistrationState request) :=
  answers_fromCache .dataRegistration fun _ => answers_complete _ _

theorem answers_handleGetPreferredNetworkType :
    Answers C request (handleGetPreferredNetworkType request) :=
  answers_fromCache .netMode fun _ => answers_complete _ _

end

/-! The equipment, the display and the microphone. -/
section
variable (request : Request)

theorem answers_handleBasebandVersion : Answers C request (handleBasebandVersion request) :=
  answers_fromCache .basebandVersion fun _ => answers_complete _ _

theorem answers_completeSerial (stringLength : UInt8) (serial : Bytes) :
    Answers C request (handleIMEI.completeSerial request stringLength serial) := by
  unfold handleIMEI.completeSerial
  split_ifs
  · exact answers_complete _ _
  · exact answers_complete _ _

theorem answers_handleIMEI : Answers C request (handleIMEI request) :=
  answers_fromCache .imei fun _ => answers_completeSerial request _ _

theorem answers_handleIMSI : Answers C request (handleIMSI request) := by
  apply silent_get.quiet.answers
  intro handler
  split_ifs
  · exact answers_complete _ _
  · exact answers_fromCache .imsi fun _ => answers_complete _ _

theorem answers_handleSignalStrength : Answers C request (handleSignalStrength request) := by
  apply (quiet_execute (plain_of_ordinary rfl)).answers
  intro reply
  apply answers_inward inward_message_cast
  intro value
  split
  · exact answers_complete _ _
  · exact answers_complete _ _

theorem answers_handleSetMute : Answers C request (handleSetMute request) :=
  answers_inward (inward_intAt request.data 0) fun _ =>
    answers_executeGenCommand (plain_of_ordinary rfl)

theorem answers_handleGetMute : Answers C request (handleGetMute request) := by
  apply (quiet_execute (plain_of_ordinary rfl)).answers
  intro reply
  apply answers_inward inward_message_cast
  intro value
  split
  · exact answers_complete _ _
  · exact answers_complete _ _

end

/-! The vendor's service. -/
section
variable (request : Request) (L : ParcelLibrary)
open OemRequestHandler

theorem quiet_executeCommand {message : Message} (hmessage : Plain C message) :
    Quiet C effect (executeCommand message) :=
  (quiet_execute hmessage).bind fun reply => (silent_completeGenCommand reply).quiet

theorem plain_setDhaSolution (mode select : Int32) (extra : Bytes) :
    Plain C ⟨CMD_SND, SndSetDhaCtrl,
    toU8 mode, toU8 select, padded 24 0 extra, ()⟩ :=
  plain_of_sized (fun _ => ⟨trivial, trivial, congrArg some (padded_length 24 0 _).symm, trivial⟩)
    rfl

theorem quiet_handleSetDhaSolution (mode select : Int32) (extra : Bytes) :
    Quiet C effect (handleSetDhaSolution mode select extra) :=
  quiet_executeCommand (plain_setDhaSolution mode select extra)

theorem quiet_tableAt (table : List UInt8) (i : Int32) : Quiet C effect (tableAt table i) := by
  unfold tableAt
  split
  · exact silent_pure.quiet
  · exact (silent_of_inward (inward_call rfl)).quiet.bind fun _ => silent_pure.quiet

theorem Quiet.onSuccess {method : Ril Bool} (h : Quiet C effect method) (response : Response) :
    Quiet C effect (RequestHandler.onSuccess method response) := h.bind fun _ => silent_pure.quiet

theorem quiet_handleGetMute : Quiet C effect OemRequestHandler.handleGetMute := by
  apply (quiet_execute (plain_of_ordinary rfl)).bind
  intro reply
  apply (silent_of_inward inward_message_cast).quiet.bind
  intro value
  split
  · exact silent_pure.quiet
  · exact silent_pure.quiet

theorem quiet_handleSetCallAudioPath (path extraVolume : Int32) :
    Quiet C effect (handleSetCallAudioPath path extraVolume) := by
  unfold handleSetCallAudioPath
  split_ifs
  · exact silent_pure.quiet
  · exact (quiet_tableAt _ _).bind fun _ => quiet_executeCommand (plain_of_ordinary rfl)

theorem quiet_handleSetCallVolume (device volume : Int32) :
    Quiet C effect (handleSetCallVolume device volume) := by
  unfold handleSetCallVolume
  split_ifs
  · exact silent_pure.quiet
  · exact (quiet_tableAt _ _).bind fun _ => quiet_executeCommand (plain_of_ordinary rfl)

/-- No method completes the request itself. -/
theorem quiet_perform (call : OemCall L.Parcel) : Quiet C effect (perform L call) := by
  cases call with
  | attachService attach => exact silent_pure.quiet.onSuccess _
  | getMute => exact quiet_handleGetMute.bind fun _ => silent_pure.quiet
  | setCallAudioPath path extraVolume => exact (quiet_handleSetCallAudioPath _ _).onSuccess _
  | setCallVolume device volume => exact (quiet_handleSetCallVolume _ _).onSuccess _
  | samsungOemRequest => exact silent_pure.quiet.onSuccess _
  | setDhaSolution mode select extra =>
    exact (quiet_handleSetDhaSolution mode select extra).onSuccess _
  | _ => exact (quiet_executeCommand (plain_of_ordinary rfl)).onSuccess _

theorem answers_handleOemHookRaw : Answers C request (handleOemHookRaw L request) := by
  unfold handleOemHookRaw
  split_ifs
  · exact answers_complete _ _
  · split
    · apply silent_get.quiet.answers
      intro handler
      split
      · exact answers_complete _ _
      · apply (quiet_perform L _).answers
        intro response
        split
        · exact answers_complete _ _
        · exact answers_complete _ _
    · exact answers_fault _
    · exact answers_fault _

end

/-! The completions. -/
section
variable {request : Request}

/-- The keys whose messages a completion makes invalid. -/
def touches : Completion → MessageCache → MessageCache
  | .setPLMNSelectionComplete _, cache => cache.invalidate .plmnSelection
  | .handleSetPreferredNetworkTypeComplete _, cache => cache.invalidate .netMode
  | _, cache => cache

theorem completes_handleQueryAvailableNetworksComplete (reply : Message) :
    Completes C E request (handleQueryAvailableNetworksComplete reply request) := by
  apply (silent_of_inward inward_message_cast).quiet.completes
  intro value
  split
  · exact completes_complete _ _
  · apply (silent_listNetworks _ _).quiet.completes
    intro response
    exact (completes_complete _ _).silently fun _ => silent_freeNames _ _ _

/-- A completion that is given a request completes it, and invalidates what it has changed. -/
theorem run_conduct {completion : Completion} (h : completion.request = some request)
    (reply : Message) (handler : RequestHandler) {s : Seen} (hs : Pending s.history) :
    (conduct C (fixed (touches completion handler.m_cache) handler.m_radioState)).SafeWith
      (fun _ h' s' => (∃ before e response, s'.history = before ++ [.completed request e response] ∧
        Pending before) ∧ h'.m_cache = touches completion handler.m_cache ∧
        h'.m_radioState = handler.m_radioState) (completion.run reply) handler s := by
  cases completion with
  | handlePinStatusRefreshComplete => contradiction
  | handleRadioPowerSetModeComplete _ =>
    obtain rfl := Option.some.inj h
    exact completes_completeWith reply handler s hs ⟨rfl, rfl⟩
  | handleQueryAvailableNetworksComplete _ =>
    obtain rfl := Option.some.inj h
    exact completes_handleQueryAvailableNetworksComplete reply handler s hs ⟨rfl, rfl⟩
  | handleSetBandModeComplete _ =>
    obtain rfl := Option.some.inj h
    exact completes_completeWith reply handler s hs ⟨rfl, rfl⟩
  | handleSetPreferredNetworkTypeComplete _ =>
    obtain rfl := Option.some.inj h
    exact Monitor.safeWith_bind.mpr (completes_completeWith reply _ s hs ⟨rfl, rfl⟩)
  | setPLMNSelectionComplete _ =>
    obtain rfl := Option.some.inj h
    exact Monitor.safeWith_bind.mpr (completes_completeWith reply _ s hs ⟨rfl, rfl⟩)

end

/-! Every request. -/

/-- The one kind of request that is neither completed nor handed to the modem. -/
def WithheldWrite (request : Request) : Prop :=
  request.code = RIL_REQUEST_SIM_IO ∧ ∃ io, request.data = .sim_io io ∧ withheld io

/-- The data for the SIM has the size that its message declares, and a string of tones fills its
message. -/
def WellSized (request : Request) : Prop :=
  (request.code = RIL_REQUEST_SIM_IO → ∀ io, request.data = .sim_io io → ¬ withheld io →
    ∀ data, simData io = some data → data.length = 256) ∧
  (request.code = RIL_REQUEST_DTMF → ∀ s, request.data = .string s → 82 ≤ s.val.length)

section
variable (L : ParcelLibrary) (request : Request)

theorem answers_handler {handler : Handler} (h : handlerOf L request.code = some handler)
    (hrequest : ¬ WithheldWrite request) :
    Answers (WellSized request) request (handler request) := by
  refine of_handlerOf (P := fun code handler =>
    request.code = code → Answers (WellSized request) request (handler request)) ?_ ?_ h rfl
  · simp only [staticHandlers, List.zipIdx_cons, List.zipIdx_nil, List.forall_mem_cons,
      List.not_mem_nil, false_imp_iff, implies_true, and_true, Option.some.injEq, forall_eq',
      reduceCtorEq, true_and]
    exact ⟨fun _ => answers_handleSIMStatus request,
      fun _ => answers_enterPin request _,
      fun _ => answers_enterPuk request _,
      fun _ => answers_enterPin request _,
      fun _ => answers_enterPuk request _,
      fun _ => answers_changePin request _,
      fun _ => answers_changePin request _,
      fun _ => answers_handleCurrentCalls request,
      fun _ => answers_handleDial request,
      fun _ => answers_handleIMSI request,
      fun _ => answers_genericHangup request _ _,
      fun _ => answers_genericHangup request _ _,
      fun _ => answers_genericHangup request _ _,
      fun _ => answers_manageCall request _ _,
      fun _ => answers_manageCall request _ _,
      fun _ => answers_manageCall request _ _,
      fun _ => answers_handleLastCallFailCause request,
      fun _ => answers_handleSignalStrength request,
      fun _ => answers_handleVoiceRegistrationState request,
      fun _ => answers_handleDataRegistrationState request,
      fun _ => answers_handleOperator request,
      fun _ => answers_handleRadioPower request,
      fun hcode => answers_handleDTMF request fun h => h.2 hcode⟩
  · simp only [constructorHandlers, List.forall_mem_cons, List.not_mem_nil, false_imp_iff,
      implies_true, and_true]
    exact ⟨fun hcode => answers_handleSIM_IO request
        (fun io hio hwithheld => hrequest ⟨hcode, io, hio, hwithheld⟩)
        fun h io hio => h.1 hcode io hio fun hwithheld => hrequest ⟨hcode, io, hio, hwithheld⟩,
      fun _ => answers_handleOemHookRaw request L,
      fun _ => answers_handleQueryNetworkSelectionMode request,
      fun _ => answers_setPLMNSelection request none,
      fun _ => answers_handleSetNetworkSelectionManual request,
      fun _ => answers_submitSubscribed (plain_of_ordinary rfl).agrees rfl,
      fun _ => answers_handleDTMFStart request,
      fun _ => answers_continuousDTMF request 0,
      fun _ => answers_handleBasebandVersion request,
      fun _ => answers_handleIMEI request,
      fun _ => answers_complete _ _,
      fun _ => answers_handleAnswer request,
      fun _ => answers_complete _ _,
      fun _ => answers_handleSetBandMode request,
      fun _ => answers_complete _ _,
      fun _ => answers_manageCall request _ _,
      fun _ => answers_handleSetPreferredNetworkType request,
      fun _ => answers_handleGetPreferredNetworkType request,
      fun _ => answers_handleSeparateConnection request,
      fun _ => answers_handleSetMute request,
      fun _ => answers_handleGetMute request⟩

theorem answers_handle (hrequest : ¬ WithheldWrite request) :
    Answers (WellSized request) request (handle L request) := by
  rw [handle_eq]
  apply silent_get.quiet.answers
  intro handler
  split_ifs
  · cases hhandler : handlerOf L request.code with
    | some f => exact answers_handler L request hhandler hrequest
    | none => exact answers_complete _ _
  · exact answers_complete _ _

theorem handlerOf_sim_io : handlerOf L RIL_REQUEST_SIM_IO = some handleSIM_IO :=
  @handlerOf_constructor L (.mk RIL_REQUEST_SIM_IO handleSIM_IO) (.head _) (by decide)

variable {request} {handler : RequestHandler} in
theorem handle_withheldWrite (hadmitted : admitted handler.m_radioState request.code)
    (h : WithheldWrite request) : handle L request handler = .done ((), handler) := by
  obtain ⟨hcode, io, hio, hwithheld⟩ := h
  have hhandler : handlerOf L request.code = some handleSIM_IO := by rw [hcode, handlerOf_sim_io]
  rw [handle_admitted L hadmitted hhandler]
  unfold handleSIM_IO
  rw [hio]
  exact congrFun (if_pos hwithheld) handler

/-- What is followed of any request, in any state. -/
theorem handle_conduct (handler : RequestHandler) :
    (conduct (WellSized request) effect).SafeWith (fun _ h' s' =>
      (¬ (admitted handler.m_radioState request.code ∧ WithheldWrite request) →
        Answered request s'.history) ∧ effect.holds s' h')
      (handle L request) handler ⟨[], handler, none⟩ := by
  by_cases hwithheld : WithheldWrite request
  · by_cases hadmitted : admitted handler.m_radioState request.code
    · rw [Monitor.SafeWith, handle_withheldWrite L hadmitted hwithheld]
      exact ⟨fun h => absurd ⟨hadmitted, hwithheld⟩ h, effect_start [] handler⟩
    · apply (Monitor.safeWith_congr (handle_refused L hadmitted)).mpr
      exact (answers_complete .RADIO_NOT_AVAILABLE .null handler _ pending_nil
        (effect_start [] handler)).mono fun _ _ _ h => ⟨fun _ => h.1, h.2⟩
  · exact (answers_handle L request hwithheld handler _ pending_nil
      (effect_start [] handler)).mono fun _ _ _ h => ⟨fun _ => h.1, h.2⟩

end
end RequestHandler
end FreeRil
