import FreeRil.Library.Secrecy
import FreeRil.RequestHandler.Asked

/-! Whether the messages that are sent for a request tell what memory has held before. -/
namespace FreeRil
open Messages RIL Program

/-- What is written for a message: its commands and the bytes of its fields. -/
def Message.written (m : Message) : UInt8 × UInt8 × Option Bytes :=
  (m.command, m.subcommand, m.marshal)

namespace RIL

/-- Memory is read that nothing has been stored to. -/
def Call.Secret (c : Call) : Prop := ∃ size, c = .memory .uninitialised size

/-- The message that a call hands to the modem. -/
def Call.written : Call → Option (UInt8 × UInt8 × Option Bytes)
  | .execute message _ | .submit message _ => some message.written
  | _ => none

theorem Call.Plain.not_secret {c : Call} (h : c.Plain) : ¬ c.Secret := by
  rintro ⟨size, rfl⟩
  obtain ⟨hsource, -⟩ := h _ _ rfl
  contradiction

end RIL

namespace RequestHandler

/-- A request names a line that is not behind the last one, or no line at all. -/
def FindsLine (callIds : List UInt8) (data : Payload) : Prop :=
  ∃ values, data = .ints values ∧ ∀ n : Int32, values[0]? = some n → (n - 1).toInt < callIds.length

/-- The requests for which a command about calls is sent in any case. -/
def AlwaysCommands (code : ℤ) : Prop :=
  code = RIL_REQUEST_SWITCH_WAITING_OR_HOLDING_AND_ACTIVE ∨ code = RIL_REQUEST_CONFERENCE ∨
    code = RIL_REQUEST_UDUB ∨ code = RIL_REQUEST_EXPLICIT_CALL_TRANSFER

/-- A command about calls is sent for a request. -/
def Commands (request : Request) (handler : RequestHandler) : Prop :=
  AlwaysCommands request.code ∨
  (request.code = RIL_REQUEST_HANGUP_WAITING_OR_BACKGROUND ∨
    request.code = RIL_REQUEST_HANGUP_FOREGROUND_RESUME_BACKGROUND) ∧ 2 ≤ handler.m_callIds.length ∨
  request.code = RIL_REQUEST_HANGUP ∧ 2 ≤ handler.m_callIds.length ∧
    FindsLine handler.m_callIds request.data ∨
  request.code = RIL_REQUEST_SEPARATE_CONNECTION ∧ FindsLine handler.m_callIds request.data

section
variable (request : Request) {handler : RequestHandler} (callCommand : UInt8)

theorem manageCall_discloses (callId : UInt8) :
    ¬ Oblivious Call.Secret Call.written (manageCall callCommand callId request handler) := by
  intro h
  let reserved (byte : UInt8) : { data : Bytes // data.length = 83 } :=
    ⟨List.replicate 83 byte, List.length_replicate⟩
  let message (byte : UInt8) : Message :=
    ⟨CMD_SS, SsManageCall, callCommand, callId, reserved byte, ()⟩
  let t (byte : UInt8) : List (Event Call.Ret) := [⟨.memory .uninitialised 83, reserved byte⟩,
    ⟨.execute (message byte) handler, (handler, message 0)⟩]
  have htrace : ∀ byte, ∃ q, Trace (manageCall callCommand callId request handler) (t byte) q :=
    fun byte => ⟨_, .cons (.cons (.nil _))⟩
  obtain ⟨q, hzero⟩ := htrace 0
  obtain ⟨q', hone⟩ := htrace 1
  have hsame : SameAnswers Call.Secret (t 0) (t 1) := by
    apply SameAnswers.secret ⟨83, rfl⟩ ⟨83, rfl⟩
    exact .answer (by rintro ⟨size, ⟨⟩⟩) (by rintro ⟨size, ⟨⟩⟩) HEq.rfl .nil
  have hwritten := h _ _ _ _ hzero hone hsame
  have hmarshal : (message 0).marshal = (message 1).marshal := by
    have hpair := (List.cons.inj (hwritten : [(message 0).written] = [(message 1).written])).1
    exact (Prod.mk.inj (Prod.mk.inj hpair).2).2
  have hsized : ∀ byte, SsManageCall.Sized (message byte).value := fun _ =>
    ⟨trivial, trivial, trivial, trivial⟩
  rw [Message.marshal_eq, Message.marshal_eq, Option.some.injEq] at hmarshal
  have hvalue := SsManageCall.wire_injective (hsized 0) (hsized 1) hmarshal
  have hreserved : some (0 : UInt8) = some 1 := congrArg (fun value => value.2.2.1.val.head?) hvalue
  contradiction

/-- Where a line is found, a command is sent, whatever its first integer may be taken for. -/
theorem manageLine_commands {callIds : List UInt8} (h : FindsLine callIds request.data) :
    ∃ t callId, Trace (manageLine callCommand callIds request handler) t
      (manageCall callCommand callId request handler) := by
  obtain ⟨values, hdata, hlines⟩ := h
  obtain ⟨t, n, hn, hlt⟩ : ∃ t, ∃ n : Int32,
    Trace (intAt request.data 0 handler) t (.done (n, handler)) ∧
      (n - 1).toInt < callIds.length := by
    rw [hdata]
    unfold intAt
    dsimp only
    cases hvalue : values[0]? with
    | some n => exact ⟨[], n, .nil _, hlines n hvalue⟩
    | none =>
      refine ⟨[⟨.memory .outside 4, ⟨[0, 0, 0, 0], rfl⟩⟩], 0, .cons (.nil _), ?_⟩
      have hneg : ((0 : Int32) - 1).toInt = -1 := by decide
      omega
  obtain ⟨t', callId, hcall⟩ : ∃ t' callId, Trace (callIdAt callIds (n - 1).toInt handler) t'
      (.done (callId, handler)) := by
    unfold callIdAt
    split_ifs with hneg
    · exact ⟨[⟨.memory .outside 1, ⟨[0], rfl⟩⟩], 0, .cons (.nil _)⟩
    · have hindex : (n - 1).toInt.toNat < callIds.length := by omega
      unfold readItem
      rw [List.getElem?_eq_getElem hindex]
      exact ⟨[], _, .nil _⟩
  refine ⟨t ++ t', callId, (hn.bind _).append ?_⟩
  dsimp only
  change Trace ((ite _ _ _ : Ril Unit) handler) _ _
  rw [if_neg (show ¬ (callIds.length : ℤ) ≤ (n - 1).toInt by omega)]
  exact hcall.bind _

theorem soundly_manageLine {callIds : List UInt8} (h : ¬ FindsLine callIds request.data) :
    Soundly (manageLine callCommand callIds request) := by
  have hcomplete := @asks_complete Call.Sound (fun _ h _ => h) request .GENERIC_FAILURE .null
  unfold manageLine
  cases hdata : request.data with
  | ints values =>
    obtain ⟨n, hn, hle⟩ : ∃ n : Int32, values[0]? = some n ∧ callIds.length ≤ (n - 1).toInt := by
      by_contra hnone
      refine h ⟨values, hdata, fun n hn => not_le.mp fun hle => hnone ⟨n, hn, hle⟩⟩
    have hint : intAt (.ints values) 0 = pure n := by
      unfold intAt
      dsimp only
      rw [hn]
    rw [hint]
    change Soundly (ite _ _ _)
    rw [if_pos hle]
    exact hcomplete
  | _ => exact fun _ => ⟨Call.sound_fault ⟨nofun, nofun⟩, fun r => r.elim⟩

theorem genericHangup_commands {useValidCallId : Bool} (hlength : 2 ≤ handler.m_callIds.length)
    (h : useValidCallId = true → FindsLine handler.m_callIds request.data) :
    ∃ t callId, Trace (genericHangup request callCommand useValidCallId handler) t
      (manageCall callCommand callId request handler) := by
  change ∃ t callId, Trace ((ite _ _ _ : Ril Unit) handler) t _
  rw [if_neg (by omega), if_neg (by omega)]
  cases useValidCallId with
  | true => exact manageLine_commands request callCommand (h rfl)
  | false => exact ⟨[], 0, .nil _⟩

theorem soundly_genericHangup {useValidCallId : Bool} (h : 2 ≤ handler.m_callIds.length →
    useValidCallId = true ∧ ¬ FindsLine handler.m_callIds request.data) :
    (genericHangup request callCommand useValidCallId handler).All Call.Sound := by
  change ((ite _ _ _ : Ril Unit) handler).All Call.Sound
  split_ifs with hzero hone huse
  · exact asks_complete (fun _ h _ => h) request _ _ handler
  · exact asks_executeGenCommand (fun _ h _ => h) request (.of_fixed rfl) handler
  · exact soundly_manageLine request callCommand (h (by omega)).2 handler
  · exact absurd (h (by omega)).1 huse

end
section
variable (L : ParcelLibrary) (request : Request) (handler : RequestHandler)

/-- A request for which a command is sent. -/
theorem commands_disclose (h : Commands request handler) : ∃ f, handlerOf L request.code = some f ∧
    ¬ Oblivious Call.Secret Call.written (f request handler) := by
  have hcommand : ∀ {i code : ℕ} {g : Handler}, commands[i]? = some (code, g) →
    request.code = code →
      handlerOf L request.code = some g := by
    intro i code g hg hcode
    rw [hcode]
    exact handlerOf_command L _ (List.mem_of_getElem? hg)
  have hdiscloses : ∀ {f : Handler} {callCommand : UInt8}, (∃ t callId, Trace (f request handler) t
      (manageCall callCommand callId request handler)) →
      ¬ Oblivious Call.Secret Call.written (f request handler) := by
    rintro f callCommand ⟨t, callId, ht⟩ hoblivious
    exact manageCall_discloses request callCommand callId (hoblivious.trace ht)
  rcases h with (hcode | hcode | hcode | hcode) | ⟨hcode | hcode, hlength⟩ |
    ⟨hcode, hlength, hline⟩ | ⟨hcode, hline⟩
  · exact ⟨_, hcommand (i := 3) rfl hcode, hdiscloses ⟨[], 0, .nil _⟩⟩
  · exact ⟨_, hcommand (i := 4) rfl hcode, hdiscloses ⟨[], 0, .nil _⟩⟩
  · exact ⟨_, hcommand (i := 5) rfl hcode, hdiscloses ⟨[], 0, .nil _⟩⟩
  · exact ⟨_, hcommand (i := 7) rfl hcode, hdiscloses ⟨[], 0, .nil _⟩⟩
  · exact ⟨_, hcommand (i := 1) rfl hcode,
      hdiscloses (genericHangup_commands request _ hlength nofun)⟩
  · exact ⟨_, hcommand (i := 2) rfl hcode,
      hdiscloses (genericHangup_commands request _ hlength nofun)⟩
  · exact ⟨_, hcommand (i := 0) rfl hcode,
      hdiscloses (genericHangup_commands request _ hlength fun _ => hline)⟩
  · exact ⟨_, hcommand (i := 6) rfl hcode, hdiscloses (manageLine_commands request _ hline)⟩

theorem all_of_not_commands {f : Handler} (hf : handlerOf L request.code = some f)
    (h : ¬ Commands request handler) : (f request handler).All fun c => ¬ c.Secret := by
  by_cases hoem : request.code = RIL_REQUEST_OEM_HOOK_RAW
  · rw [hoem, handlerOf_oem] at hf
    obtain rfl := Option.some.inj hf
    exact all_handleOemHookRaw (fun _ h _ => h.1.not_secret) request L (.inl (by rintro ⟨size, ⟨⟩⟩))
  by_cases hcommand : ∃ entry ∈ commands, request.code = entry.1
  · have hsound : (f request handler).All Call.Sound := by
      obtain ⟨entry, hentry, hcode⟩ := hcommand
      rw [hcode, handlerOf_command L entry hentry] at hf
      obtain rfl := Option.some.inj hf
      simp only [commands, List.mem_cons, List.not_mem_nil, or_false] at hentry
      obtain rfl | rfl | rfl | rfl | rfl | rfl | rfl | rfl := hentry
      · apply soundly_genericHangup
        exact fun hlength => ⟨rfl, fun hline => h (.inr (.inr (.inl ⟨hcode, hlength, hline⟩)))⟩
      · exact soundly_genericHangup request _ fun hlength =>
          absurd (.inr (.inl ⟨.inl hcode, hlength⟩)) h
      · exact soundly_genericHangup request _ fun hlength =>
          absurd (.inr (.inl ⟨.inr hcode, hlength⟩)) h
      · exact absurd (.inl (.inl hcode)) h
      · exact absurd (.inl (.inr (.inl hcode))) h
      · exact absurd (.inl (.inr (.inr (.inl hcode)))) h
      · exact soundly_manageLine request _
          (fun hline => h (.inr (.inr (.inr ⟨hcode, hline⟩)))) handler
      · exact absurd (.inl (.inr (.inr (.inr hcode)))) h
    exact hsound.mono fun _ hc => hc.1.not_secret
  · have hcommands : ∀ entry ∈ commands, request.code ≠ entry.1 := fun entry hentry heq =>
      hcommand ⟨entry, hentry, heq⟩
    exact (plainly_handler request L hf hcommands hoem handler).mono fun _ => Call.Plain.not_secret

/-- What is sent for a request tells what memory has held before exactly if it is a command. -/
theorem handle_oblivious_iff : Oblivious Call.Secret Call.written (handle L request handler) ↔
    ¬ (admitted handler.m_radioState request.code ∧ Commands request handler) := by
  constructor
  · rintro h ⟨hadmitted, hcommands⟩
    obtain ⟨f, hf, hdiscloses⟩ := commands_disclose L request handler hcommands
    rw [handle_admitted L hadmitted hf] at h
    exact hdiscloses h
  · intro h
    have hcomplete : ∀ e, Oblivious Call.Secret Call.written (complete request e .null handler) :=
      fun e =>
      oblivious_of_all (asks_complete (fun _ h _ => h.1.not_secret) request e .null handler)
    by_cases hadmitted : admitted handler.m_radioState request.code
    · cases hf : handlerOf L request.code with
      | some f =>
        rw [handle_admitted L hadmitted hf]
        exact oblivious_of_all (all_of_not_commands L request handler hf fun hc =>
          h ⟨hadmitted, hc⟩)
      | none =>
        rw [handle_unsupported L hadmitted hf]
        exact hcomplete _
    · rw [handle_refused L hadmitted]
      exact hcomplete _

end
end RequestHandler
end FreeRil
