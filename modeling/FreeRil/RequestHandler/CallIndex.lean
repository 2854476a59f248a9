import FreeRil.Compiler.RoundTrip
import FreeRil.RequestHandler
import FreeRil.RIL.History

/-! The indices that are reported for the current calls, and the calls that they are taken for when
one of them is to be hung up or separated from the others. -/
namespace FreeRil
open Messages RIL Program

namespace RequestHandler

/-- What a program can have sent and completed when it ends. -/
def Outcome {α : Type} (p : Program Call.Ret α) (s : List Outward) : Prop :=
  ∃ t a, Trace p t (.done a) ∧ s = outward t

namespace CallListItem

def callId : CallListItem → UInt8
  | (_, callId, _) => callId

/-- The number is as long as its length is declared. -/
def NumberFits : CallListItem → Prop
  | (_, _, _, _, _, numberLength, _, number, ()) => UInt8.toNat numberLength ≤ List.length number

end CallListItem

theorem buildCall_eq {item : CallListItem} (h : item.NumberFits) (handler : RequestHandler) :
    ∃ call : RIL_Call, buildCall item handler = .done (call, handler) ∧
      call.index = item.callId.toNat := by
  obtain ⟨callType, callId, direction, callState, isMultiParty, numberLength, reserved, number, ⟨⟩⟩ :=
    item
  have hread : readVector number (UInt8.toNat numberLength) = pure (number.take numberLength.toNat) :=
    if_neg (not_lt.mpr h)
  apply Exists.intro
  constructor
  · unfold buildCall
    dsimp only
    rw [hread]
    rfl
  · rfl

theorem ofInt_toNat (n : UInt8) : UInt8.ofInt (n.toNat : ℤ) = n := by
  have hlt : (n.toNat : ℤ) < 2 ^ 8 := by exact_mod_cast n.toNat_lt
  rw [UInt8.ofInt, Int.emod_eq_of_lt (by omega) hlt, Int.toNat_natCast, UInt8.ofNat_toNat]

/-- All that is left of the list is loaded. -/
theorem loadCalls_eq {callList : List CallListItem} (hsized : ∀ item ∈ callList, item.NumberFits)
    (before rest : List CallListItem) (hlist : callList = before ++ rest) (handler : RequestHandler) :
    ∃ calls : List RIL_Call, loadCalls callList rest.length before.length handler =
        .done (calls, { handler with
          m_callIds := handler.m_callIds ++ rest.map CallListItem.callId }) ∧
      calls.map RIL_Call.index = rest.map fun item => (item.callId.toNat : ℤ) := by
  induction rest generalizing before handler with
  | nil =>
    refine ⟨[], ?_, rfl⟩
    simp only [List.map_nil, List.append_nil]
    rfl
  | cons item rest ih =>
    have hitem : readItem callList before.length = pure item := by
      unfold readItem
      rw [hlist, List.getElem?_append_right le_rfl, Nat.sub_self]
      rfl
    obtain ⟨call, hcall, hindex⟩ := buildCall_eq (hsized item (by simp [hlist])) handler
    obtain ⟨calls, hcalls, hindices⟩ := ih (before ++ [item]) (by simp [hlist])
      { handler with m_callIds := handler.m_callIds ++ [.ofInt call.index] }
    refine ⟨call :: calls, ?_, ?_⟩
    · change (readItem callList before.length >>= _) handler = _
      rw [hitem]
      change Program.bind (buildCall item handler) _ = _
      rw [hcall]
      change Program.bind (loadCalls callList rest.length (before.length + 1) _) _ = _
      rw [List.length_append, List.length_singleton] at hcalls
      rw [hcalls, hindex, ofInt_toNat, List.append_assoc]
      rfl
    · rw [List.map_cons, hindex, hindices, List.map_cons]

/-- The calls of a list. -/
def callList : Struct CallGetCallListReply.fields → List CallListItem
  | (_, callList, _, ()) => callList

/-- A list that has been received is complete. -/
theorem callList_of_sized {value : Struct CallGetCallListReply.fields}
    (h : CallGetCallListReply.Sized value) :
    (UInt8.toNat value.1 = (callList value).length) ∧ ∀ item ∈ callList value, item.NumberFits := by
  obtain ⟨count, callList, padding, ⟨⟩⟩ := value
  obtain ⟨-, ⟨hcount, hitems⟩, -⟩ := h
  refine ⟨Option.some.inj hcount, fun item hitem => ?_⟩
  obtain ⟨i, -, -, -, -, -, -, -, hnumber, -⟩ := hitems.of_mem hitem
  exact (Option.some.inj hnumber).le

/-- A list of calls has been received for a request, and these calls have been reported for it. -/
def Listed (value : Struct CallGetCallListReply.fields) (calls : List RIL_Call)
    (handler : RequestHandler) : Prop :=
  ∃ request before after t, Trace (handleCurrentCalls request before)
      (⟨.execute ⟨CMD_CALL, CallGetCallList, ()⟩ before,
        (after, ⟨CMD_CALL, CallGetCallListReply, value⟩)⟩ :: t) (.done ((), handler)) ∧
    outward t = [.completed request .SUCCESS (.calls calls)]

theorem handleCurrentCalls_eq {value : Struct CallGetCallListReply.fields}
    (h : CallGetCallListReply.Sized value) (request : Request) (handler : RequestHandler) :
    ∃ next, handleCurrentCalls request handler =
        Program.call (.execute ⟨CMD_CALL, CallGetCallList, ()⟩ handler) next ∧
      ∀ after, ∃ calls : List RIL_Call,
        next (after, ⟨CMD_CALL, CallGetCallListReply, value⟩) =
          Program.call (.complete request .SUCCESS (.calls calls)) (fun _ =>
            .done ((), { after with m_callIds := (callList value).map CallListItem.callId })) ∧
        calls.map RIL_Call.index = (callList value).map fun item => (item.callId.toNat : ℤ) := by
  refine ⟨_, rfl, fun after => ?_⟩
  obtain ⟨hcount, hitems⟩ := callList_of_sized h
  obtain ⟨calls, hcalls, hindices⟩ := loadCalls_eq hitems [] (callList value) rfl
    { after with m_callIds := [] }
  refine ⟨calls, ?_, hindices⟩
  change (message_cast CMD_CALL CallGetCallListReply ⟨CMD_CALL, CallGetCallListReply, value⟩ >>= _)
    after = _
  rw [message_cast_self]
  obtain ⟨count, list, padding, ⟨⟩⟩ := value
  change Program.bind (loadCalls (callList (count, list, padding, ())) (UInt8.toNat count) 0 _) _ = _
  rw [show UInt8.toNat count = (callList (count, list, padding, ())).length from hcount]
  exact congrArg (fun p => Program.bind p _) hcalls

/-- The calls of the list are remembered, in their order. -/
theorem Listed.callIds {value : Struct CallGetCallListReply.fields} {calls : List RIL_Call}
    {handler : RequestHandler} (h : Listed value calls handler)
    (hsized : CallGetCallListReply.Sized value) :
    handler.m_callIds = (callList value).map CallListItem.callId ∧
      calls.map RIL_Call.index = (callList value).map fun item => (item.callId.toNat : ℤ) := by
  obtain ⟨request, before, after, t, htrace, houtward⟩ := h
  obtain ⟨next, hprogram, hnext⟩ := handleCurrentCalls_eq hsized request before
  obtain ⟨calls', hcalls, hindices⟩ := hnext after
  rw [hprogram, trace_call, hcalls] at htrace
  obtain ⟨r, t, rfl, hrest⟩ := htrace.call_done
  obtain ⟨rfl, hdone⟩ := hrest.done_eq
  obtain ⟨-, rfl⟩ := Prod.mk.inj (Program.done.inj hdone)
  obtain ⟨hcompleted, -⟩ := List.cons_eq_cons.mp houtward
  injection hcompleted with _ _ hresponse
  injection hresponse with hcalls
  exact ⟨rfl, hcalls ▸ hindices⟩

section
variable (callCommand callId : UInt8) (request : Request)

/-- A command about one call has been sent, and the request is completed with its result. -/
def SendsManageCall (s : List Outward) : Prop := ∃ reserved e,
  s = [.sent ⟨CMD_SS, SsManageCall, callCommand, callId, reserved, ()⟩ none, .completed request e .null]

/-- Nothing has been sent. -/
def Refused (s : List Outward) : Prop := s = [.completed request .GENERIC_FAILURE .null]

theorem completeWith_safe (reply : Message) {handler : RequestHandler} {s : List Outward} :
    history.SafeWith (fun _ _ s' => ∃ e, s' = s ++ [.completed request e .null])
      (completeWith reply request) handler s := by
  apply Monitor.safeWith_bind.mpr
  apply Monitor.safeWith_bind.mpr
  apply inward_message_cast.safe
  rintro value -
  split
  · exact And.intro trivial fun _ _ => Exists.intro _ rfl
  · exact And.intro trivial fun _ _ => Exists.intro _ rfl

theorem manageCall_sends {handler : RequestHandler} {s : List Outward}
    (h : Outcome (manageCall callCommand callId request handler) s) :
    SendsManageCall callCommand callId request s := by
  obtain ⟨t, a, htrace, rfl⟩ := h
  have hsafe : history.SafeWith (fun _ _ => SendsManageCall callCommand callId request)
      (manageCall callCommand callId request) handler [] := by
    apply Monitor.safeWith_bind.mpr
    refine (inward_call (c := .memory .uninitialised 83) rfl).safe fun reserved _ => ?_
    apply Monitor.safeWith_bind.mpr
    apply safe_execute
    intro reply after
    apply (completeWith_safe request reply).mono
    rintro _ _ _ ⟨e, rfl⟩
    exact ⟨reserved, e, rfl⟩
  exact outward_of_safe hsafe htrace

/-- The modem may answer that the command has succeeded. -/
theorem manageCall_outcome (handler : RequestHandler) :
    ∃ s, Outcome (manageCall callCommand callId request handler) s := by
  let value : Struct GenCommandComplete.fields := ((0 : UInt8), (0 : UInt8), (0 : UInt8),
    GenCommandComplete.Success, ())
  have hreply : completeWith ⟨CMD_GEN, GenCommandComplete, value⟩ request handler =
      Program.call (.complete request .SUCCESS .null) fun _ => .done ((), handler) := by
    unfold completeWith completeGenCommand
    rw [message_cast_self]
    rfl
  have htrace : Trace (completeWith ⟨CMD_GEN, GenCommandComplete, value⟩ request handler)
      [⟨.complete request .SUCCESS .null, ()⟩] (.done ((), handler)) := by
    rw [hreply]
    exact .cons (.nil _)
  let reserved : { data : Bytes // data.length = 83 } := ⟨List.replicate 83 0, List.length_replicate⟩
  let message : Message := ⟨CMD_SS, SsManageCall, callCommand, callId, reserved, ()⟩
  exact ⟨_, [⟨.memory .uninitialised 83, reserved⟩,
    ⟨.execute message handler, (handler, ⟨CMD_GEN, GenCommandComplete, value⟩)⟩,
    ⟨.complete request .SUCCESS .null, ()⟩], _, trace_call.mpr (trace_call.mpr htrace), rfl⟩

/-- The byte in front of the vector may be any. -/
theorem manageLine_before {callIds : List UInt8} {i : Int32} (hdata : request.data = .ints [i])
    (hline : (i - 1).toInt < 0) (handler : RequestHandler) :
    ∃ s, Outcome (manageLine callCommand callIds request handler) s ∧
      SendsManageCall callCommand callId request s := by
  obtain ⟨s, t, a, htrace, rfl⟩ := manageCall_outcome callCommand callId request handler
  have hsends := manageCall_sends callCommand callId request ⟨t, a, htrace, rfl⟩
  refine ⟨outward t, ⟨⟨.memory .outside 1, ⟨[callId], rfl⟩⟩ :: t, a, ?_, rfl⟩, hsends⟩
  unfold manageLine
  rw [hdata]
  change Trace ((ite _ _ _ : Ril Unit) handler) _ _
  rw [if_neg (by omega)]
  unfold callIdAt
  rw [if_pos hline]
  exact .cons htrace

/-- A line that there is. -/
theorem manageLine_within {callIds : List UInt8} {i : Int32} (hdata : request.data = .ints [i])
    (hline : 0 ≤ (i - 1).toInt) (hcallId : callIds[(i - 1).toInt.toNat]? = some callId) :
    manageLine callCommand callIds request = manageCall callCommand callId request := by
  have hlt := (List.getElem?_eq_some_iff.mp hcallId).1
  unfold manageLine
  rw [hdata]
  change ite _ _ _ = _
  rw [if_neg (by omega)]
  unfold callIdAt readItem
  rw [if_neg (by omega), hcallId]
  rfl

theorem manageLine_beyond {callIds : List UInt8} {i : Int32} (hdata : request.data = .ints [i])
    (hline : callIds.length ≤ (i - 1).toInt) :
    manageLine callCommand callIds request = complete request .GENERIC_FAILURE .null := by
  unfold manageLine
  rw [hdata]
  exact if_pos hline

end

/-- What has to be done about the reported call with an index, and where no call has it. -/
def Expected (callCommand : UInt8) (items : List CallListItem) (calls : List RIL_Call) (i : Int32)
    (request : Request) (s : List Outward) : Prop :=
  (∀ call item, (call, item) ∈ calls.zip items → call.index = i.toInt →
    SendsManageCall callCommand item.callId request s) ∧
  ((∀ call ∈ calls, call.index ≠ i.toInt) → Refused request s)

/-- The requests about one call, with their commands. -/
def LineCommand (code : ℤ) (callCommand : UInt8) : Prop :=
  (code = RIL_REQUEST_HANGUP ∧ callCommand = SsManageCall.HangupSpecificCall) ∨
    (code = RIL_REQUEST_SEPARATE_CONNECTION ∧ callCommand = SsManageCall.SeparateConnection)

/-- An index is that of the call on its line, or no call's where there is no such line. -/
def IndexesLine (callIds : List UInt8) (i : Int32) : Prop :=
  let lineIndex := (i - 1).toInt
  (0 ≤ lineIndex ∧ ∃ callId, callIds[lineIndex.toNat]? = some callId ∧ (callId.toNat : ℤ) = i.toInt) ∨
    (callIds.length ≤ lineIndex ∧ ∀ callId ∈ callIds, (callId.toNat : ℤ) ≠ i.toInt)

section
variable {callCommand : UInt8} {items : List CallListItem} {calls : List RIL_Call} {i : Int32}
  {request : Request} {s : List Outward}

theorem SendsManageCall.callId_inj {callId callId' : UInt8}
    (h : SendsManageCall callCommand callId request s)
    (h' : SendsManageCall callCommand callId' request s) : callId = callId' := by
  obtain ⟨reserved, e, rfl⟩ := h
  obtain ⟨reserved', e', h⟩ := h'
  obtain ⟨hsent, -⟩ := List.cons_eq_cons.mp h
  injection hsent with hmessage
  injection hmessage with _ _ hvalue
  exact (Prod.mk.inj (Prod.mk.inj hvalue).2).1

theorem SendsManageCall.not_refused {callId : UInt8}
    (h : SendsManageCall callCommand callId request s) : ¬ Refused request s := by
  obtain ⟨reserved, e, rfl⟩ := h
  exact List.cons_ne_nil _ _ ∘ And.right ∘ List.cons_eq_cons.mp

theorem forall₂_index (h : calls.map RIL_Call.index = items.map fun item => (item.callId.toNat : ℤ)) :
    List.Forall₂ (fun (call : RIL_Call) (item : CallListItem) =>
      call.index = (item.callId.toNat : ℤ)) calls items := by
  rwa [← List.forall₂_eq_eq_eq, List.forall₂_map_left_iff, List.forall₂_map_right_iff] at h

/-- A call that is reported has been in the list. -/
theorem exists_item (h : calls.map RIL_Call.index = items.map fun item => (item.callId.toNat : ℤ))
    {call : RIL_Call} (hcall : call ∈ calls) :
    ∃ item : CallListItem, (call, item) ∈ calls.zip items ∧
      call.index = (item.callId.toNat : ℤ) := by
  have hforall := forall₂_index h
  rw [← List.map_fst_zip hforall.length_eq.le] at hcall
  obtain ⟨⟨call', item⟩, hmem, rfl⟩ := List.mem_map.mp hcall
  exact ⟨item, hmem, (List.forall₂_iff_zip.mp hforall).2 hmem⟩

/-- Sending a command is what has to be done exactly when it is about the call with the index. -/
theorem expected_sends_iff {callId : UInt8}
    (hindices : calls.map RIL_Call.index = items.map fun item => (item.callId.toNat : ℤ))
    (h : SendsManageCall callCommand callId request s) :
    Expected callCommand items calls i request s ↔
      (∃ call ∈ calls, call.index = i.toInt) ∧ (callId.toNat : ℤ) = i.toInt := by
  constructor
  · rintro ⟨hreported, hrefused⟩
    have hexists : ∃ call ∈ calls, call.index = i.toInt := by
      by_contra hnone
      exact h.not_refused (hrefused fun call hcall hindex => hnone ⟨call, hcall, hindex⟩)
    obtain ⟨call, hcall, hindex⟩ := hexists
    obtain ⟨item, hitem, hid⟩ := exists_item hindices hcall
    obtain rfl := h.callId_inj (hreported call item hitem hindex)
    exact ⟨⟨call, hcall, hindex⟩, hid.symm.trans hindex⟩
  · rintro ⟨⟨call, hcall, hindex⟩, hid⟩
    refine ⟨fun call' item hitem hindex' => ?_, fun hnone => absurd hindex (hnone call hcall)⟩
    have hitemId := (List.forall₂_iff_zip.mp (forall₂_index hindices)).2 hitem
    obtain rfl : callId = item.callId := by
      apply UInt8.toNat_inj.mp
      omega
    exact h

theorem expected_refused_iff
    (hindices : calls.map RIL_Call.index = items.map fun item => (item.callId.toNat : ℤ)) :
    Expected callCommand items calls i request [.completed request .GENERIC_FAILURE .null] ↔
      ∀ call ∈ calls, call.index ≠ i.toInt := by
  constructor
  · rintro ⟨hreported, -⟩ call hcall hindex
    obtain ⟨item, hitem, -⟩ := exists_item hindices hcall
    exact (hreported call item hitem hindex).not_refused rfl
  · intro hnone
    exact ⟨fun call item hitem hindex => absurd hindex (hnone call (List.of_mem_zip hitem).1),
      fun _ => rfl⟩

end

theorem outcome_complete_iff {request : Request} {e : RIL_Errno} {response : Response}
    {handler : RequestHandler} {s : List Outward} :
    Outcome (complete request e response handler) s ↔ s = [.completed request e response] := by
  constructor
  · rintro ⟨t, a, htrace, rfl⟩
    obtain ⟨r, t, rfl, hrest⟩ := htrace.call_done
    obtain ⟨rfl, -⟩ := hrest.done_eq
    rfl
  · rintro rfl
    exact ⟨[⟨.complete request e response, ()⟩], _, trace_call.mpr (.nil _), rfl⟩

/-- The handlers of both requests look for the line, when there are several calls. -/
theorem handle_line {L : ParcelLibrary} {request : Request} {handler : RequestHandler}
    {callCommand : UInt8} (hcommand : LineCommand request.code callCommand)
    (htwo : 2 ≤ handler.m_callIds.length)
    (hadmitted : admitted handler.m_radioState request.code) :
    handle L request handler = manageLine callCommand handler.m_callIds request handler := by
  rcases hcommand with ⟨hcode, rfl⟩ | ⟨hcode, rfl⟩
  · have hhandler : handlerOf L request.code = some handleHangup := by
      rw [hcode]
      refine handlerOf_static (i := 11) rfl ?_
      simp only [constructorHandlers, List.forall_mem_cons, List.not_mem_nil, false_imp_iff,
        implies_true, and_true]
      decide
    rw [handle_admitted L hadmitted hhandler]
    change (ite _ _ _ : Ril Unit) handler = _
    rw [if_neg (by omega), if_neg (by omega)]
    rfl
  · have hhandler : handlerOf L request.code = some handleSeparateConnection := by
      rw [hcode]
      have hentry : (RIL_REQUEST_SEPARATE_CONNECTION, handleSeparateConnection) ∈
          constructorHandlers L := by simp [constructorHandlers]
      have hfound := handlerOf_constructor hentry (by decide)
      exact hfound
    rw [handle_admitted L hadmitted hhandler]
    rfl

/-- What is done about the call on a line is what has to be done exactly when the index is that of
the call on its line. -/
theorem manageLine_expected_iff {items : List CallListItem} {calls : List RIL_Call}
    (hindices : calls.map RIL_Call.index = items.map fun item => (item.callId.toNat : ℤ))
    {request : Request} {i : Int32} (hdata : request.data = .ints [i]) (callCommand : UInt8)
    (handler : RequestHandler) :
    ((∃ s, Outcome (manageLine callCommand (items.map CallListItem.callId) request handler) s) ∧
      ∀ s, Outcome (manageLine callCommand (items.map CallListItem.callId) request handler) s →
        Expected callCommand items calls i request s) ↔
      IndexesLine (items.map CallListItem.callId) i := by
  rcases lt_or_ge (i - 1).toInt 0 with hneg | hpos
  · have hnot : ¬ IndexesLine (items.map CallListItem.callId) i := by
      rintro (⟨h, -⟩ | ⟨h, -⟩)
      · omega
      · omega
    refine iff_of_false ?_ hnot
    rintro ⟨-, hall⟩
    have hany : ∀ callId : UInt8, (callId.toNat : ℤ) = i.toInt := by
      intro callId
      obtain ⟨s, houtcome, hsends⟩ := manageLine_before callCommand callId request hdata hneg handler
      exact ((expected_sends_iff hindices hsends).mp (hall s houtcome)).2
    exact absurd ((hany 0).trans (hany 1).symm) (by decide)
  · have hmem : (∃ call ∈ calls, call.index = i.toInt) ↔
        ∃ callId ∈ items.map CallListItem.callId, (callId.toNat : ℤ) = i.toInt := by
      rw [← List.mem_map, hindices, ← List.mem_map, List.map_map]
      rfl
    rcases lt_or_ge (i - 1).toInt (items.map CallListItem.callId).length with hlt | hge
    · obtain ⟨callId, hcallId⟩ : ∃ callId,
          (items.map CallListItem.callId)[(i - 1).toInt.toNat]? = some callId :=
        ⟨_, List.getElem?_eq_getElem (by omega)⟩
      have hline : IndexesLine (items.map CallListItem.callId) i ↔
          (callId.toNat : ℤ) = i.toInt := by
        constructor
        · rintro (⟨-, callId', hcallId', hid⟩ | ⟨h, -⟩)
          · obtain rfl := Option.some.inj (hcallId.symm.trans hcallId')
            exact hid
          · omega
        · exact fun hid => .inl ⟨hpos, callId, hcallId, hid⟩
      rw [manageLine_within callCommand callId request hdata hpos hcallId, hline]
      constructor
      · rintro ⟨⟨s, houtcome⟩, hall⟩
        exact ((expected_sends_iff hindices (manageCall_sends _ _ _ houtcome)).mp
          (hall s houtcome)).2
      · intro hid
        have hreported := hmem.mpr ⟨callId, List.mem_of_getElem? hcallId, hid⟩
        exact ⟨manageCall_outcome _ _ _ handler, fun s houtcome =>
          (expected_sends_iff hindices (manageCall_sends _ _ _ houtcome)).mpr ⟨hreported, hid⟩⟩
    · have hline : IndexesLine (items.map CallListItem.callId) i ↔
          ∀ callId ∈ items.map CallListItem.callId, (callId.toNat : ℤ) ≠ i.toInt := by
        constructor
        · rintro (⟨-, callId, hcallId, -⟩ | ⟨-, h⟩)
          · have hlt := (List.getElem?_eq_some_iff.mp hcallId).1
            omega
          · exact h
        · exact fun h => .inr ⟨hge, h⟩
      have hnone : (∀ call ∈ calls, call.index ≠ i.toInt) ↔
          ∀ callId ∈ items.map CallListItem.callId, (callId.toNat : ℤ) ≠ i.toInt := by
        simpa only [not_exists, not_and] using not_congr hmem
      rw [manageLine_beyond callCommand request hdata hge, hline]
      simp only [outcome_complete_iff, exists_eq, true_and, forall_eq]
      rw [expected_refused_iff hindices, hnone]

/-- A list that is received is reported and remembered. -/
theorem exists_listed {value : Struct CallGetCallListReply.fields}
    (h : CallGetCallListReply.Sized value) (after : RequestHandler) :
    ∃ calls, Listed value calls
      { after with m_callIds := (callList value).map CallListItem.callId } := by
  let request : Request := ⟨RIL_REQUEST_GET_CURRENT_CALLS, .null 0, 0⟩
  obtain ⟨next, hprogram, hnext⟩ := handleCurrentCalls_eq h request after
  obtain ⟨calls, hcalls, -⟩ := hnext after
  refine ⟨calls, request, after, after, [⟨.complete request .SUCCESS (.calls calls), ()⟩], ?_, rfl⟩
  rw [hprogram, trace_call, hcalls, trace_call]
  exact .nil _

/-- A request about a call, some time after the calls have been listed, is about the call that was
reported with its index exactly when that is the place of the call in the list. -/
theorem index_designates_call_iff (L : ParcelLibrary) {value : Struct CallGetCallListReply.fields}
    (hsized : CallGetCallListReply.Sized value) {calls : List RIL_Call}
    {handler later : RequestHandler} (hlisted : Listed value calls handler)
    (hlater : later.m_callIds = handler.m_callIds) (htwo : 2 ≤ calls.length) {request : Request}
    {callCommand : UInt8} (hcommand : LineCommand request.code callCommand)
    (hadmitted : admitted later.m_radioState request.code) {i : Int32}
    (hdata : request.data = .ints [i]) :
    ((∃ s, Outcome (handle L request later) s) ∧ ∀ s, Outcome (handle L request later) s →
      Expected callCommand (callList value) calls i request s) ↔
        IndexesLine ((callList value).map CallListItem.callId) i := by
  obtain ⟨hids, hindices⟩ := hlisted.callIds hsized
  have hlength : calls.length = (callList value).length := (forall₂_index hindices).length_eq
  rw [hids] at hlater
  rw [handle_line hcommand (by rw [hlater, List.length_map]; omega) hadmitted, hlater]
  exact manageLine_expected_iff hindices hdata callCommand later

/-- Two calls of which the second is reported with the index 3, as when the call between them has
ended. -/
def callsOneAndThree : Struct CallGetCallListReply.fields :=
  ((2 : UInt8),
    [((0 : UInt16), (1 : UInt8), (2 : UInt8), (1 : UInt8), (1 : UInt8), (0 : UInt8), (0 : UInt8), [], ()),
     ((0 : UInt16), (3 : UInt8), (2 : UInt8), (1 : UInt8), (1 : UInt8), (0 : UInt8), (0 : UInt8), [], ())],
    [], ())

theorem callsOneAndThree_sized : CallGetCallListReply.Sized callsOneAndThree := by
  unfold callsOneAndThree
  exact ⟨trivial, ⟨rfl, ⟨trivial, trivial, trivial, trivial, trivial, trivial, trivial, rfl, trivial⟩,
    ⟨trivial, trivial, trivial, trivial, trivial, trivial, trivial, rfl, trivial⟩, trivial⟩, rfl, trivial⟩

/-- The first of the two calls is hung up. -/
theorem hangup_first_of_two : ∃ calls handler, Listed callsOneAndThree calls handler ∧
    (∃ s, Outcome (handle .android ⟨RIL_REQUEST_HANGUP, .ints [1], 0⟩ handler) s) ∧
    ∀ s, Outcome (handle .android ⟨RIL_REQUEST_HANGUP, .ints [1], 0⟩ handler) s →
      Expected SsManageCall.HangupSpecificCall (callList callsOneAndThree) calls 1
        ⟨RIL_REQUEST_HANGUP, .ints [1], 0⟩ s := by
  obtain ⟨calls, hlisted⟩ := exists_listed callsOneAndThree_sized
    ⟨.SIM_READY, -1, 0, [], MessageCache.empty⟩
  have hlength := (forall₂_index (hlisted.callIds callsOneAndThree_sized).2).length_eq
  exact ⟨calls, _, hlisted, (index_designates_call_iff .android callsOneAndThree_sized hlisted rfl
    hlength.ge (.inl ⟨rfl, rfl⟩) (by decide) rfl).mpr (.inl ⟨by decide, 1, rfl, by decide⟩)⟩

/-- The second of them cannot be hung up. -/
theorem hangup_call_three_refused : ¬ ∀ (L : ParcelLibrary) value calls handler request callCommand i,
    CallGetCallListReply.Sized value → ((callList value).map CallListItem.callId).Nodup →
    Listed value calls handler → 2 ≤ calls.length → LineCommand request.code callCommand →
    admitted handler.m_radioState request.code → request.data = .ints [i] →
    (∃ s, Outcome (handle L request handler) s) ∧ ∀ s, Outcome (handle L request handler) s →
      Expected callCommand (callList value) calls i request s := by
  intro hall
  obtain ⟨calls, hlisted⟩ := exists_listed callsOneAndThree_sized
    ⟨.SIM_READY, -1, 0, [], MessageCache.empty⟩
  obtain ⟨hids, hindices⟩ := hlisted.callIds callsOneAndThree_sized
  have hlength := (forall₂_index hindices).length_eq
  let request : Request := ⟨RIL_REQUEST_HANGUP, .ints [3], 0⟩
  have hcommand : LineCommand request.code SsManageCall.HangupSpecificCall := .inl ⟨rfl, rfl⟩
  have hexpected := hall .android _ calls _ request _ 3 callsOneAndThree_sized (by decide) hlisted
    hlength.ge hcommand (by decide) rfl
  rw [handle_line hcommand (by decide) (by decide)] at hexpected
  have hline := (manageLine_expected_iff hindices rfl _ _).mp hexpected
  rcases hline with ⟨-, callId, hcallId, -⟩ | ⟨-, hnone⟩
  · contradiction
  · exact hnone 3 (by decide) rfl

end RequestHandler
end FreeRil
