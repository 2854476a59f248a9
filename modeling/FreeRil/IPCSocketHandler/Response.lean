import FreeRil.IPCSocketHandler.Step

/-! Which answers complete their request. -/
namespace FreeRil.IPCSocketHandler

/-- An answer to a request in the air completes it and frees its number exactly when the factory
knows its type and `readFromStream` accepts its payload; otherwise the request stays in the air. -/
theorem response_completes_iff (p : Protocol) {t : List (Event × List Action)}
    {s : IPCSocketHandler} (hrun : (machine p).Run t s) {header : Header} {data : Bytes}
    {memory : Memory} {request : Message} (hresp : header.responseType = IPC_CMD_RESP)
    (hreq : s.m_messagesInAir header.aseq = some request) :
    (∃ s' as reply, handleMessage p s header data memory = .ok (s', as) ∧
      Action.complete request reply ∈ as ∧ header.aseq ∈ s'.m_freeSequenceNumbers ∧
      s'.m_messagesInAir header.aseq = none) ↔
    ∃ g d, Factory.create p header.mainCommand header.subCommand = some (g, d) ∧
      header.payloadLength ≤ data.length ∧
      d.accepts memory (data.take header.payloadLength) = true := by
  have hit := (Consistent.of_run hrun).iterator_ne_past
  rw [← demarshal_some_iff]
  constructor
  · rintro ⟨s', as, reply, h, hmem, -, -⟩
    cases handleMessage_cases hit h with
    | idle _ hactions =>
      obtain ⟨message, he⟩ := hactions _ hmem
      contradiction
    | answered _ hbody _ => exact ⟨_, hbody⟩
  · rintro ⟨message, hbody⟩
    exact ⟨_, _, some message, handleMessage_answered hit hresp hbody hreq, by simp, by simp,
      by simp⟩

/-- A `GEN_COMMAND_COMPLETE` without its status completes the request it answers. -/
theorem command_complete_answers : ∃ s as,
    (machine protocol).Run [(.submit powerOff, as)] s ∧
    ∃ s' as reply, handleMessage protocol s ⟨10, 0, 0, 128, 1, IPC_CMD_RESP⟩ [1, 2, 1]
        ⟨fun _ => 204, fun _ => true⟩ = .ok (s', as) ∧
      Action.complete powerOff reply ∈ as ∧ 0 ∈ s'.m_freeSequenceNumbers ∧
      s'.m_messagesInAir 0 = none := by
  obtain ⟨s, hrun, hreq, -⟩ := submit_powerOff
  have hheader : (⟨10, 0, 0, 128, 1, IPC_CMD_RESP⟩ : Header).responseType = IPC_CMD_RESP := rfl
  exact ⟨s, _, hrun, (response_completes_iff protocol hrun hheader hreq).mpr
    ⟨CMD_GEN, Messages.GenCommandComplete, rfl, by decide, rfl⟩⟩

/-- An answer of unknown type, one with a byte of its status missing and one with a byte too many all
leave the request in the air and its number in use. -/
theorem malformed_answers_lose_number : ∃ s as,
    (machine protocol).Run [(.submit powerOff, as)] s ∧ s.m_messagesInAir 0 = some powerOff ∧
    0 ∉ s.m_freeSequenceNumbers ∧ ∀ memory,
    handleMessage protocol s ⟨7, 0, 0, 99, 1, IPC_CMD_RESP⟩ [] memory = .ok (s, []) ∧
    handleMessage protocol s ⟨11, 0, 0, 128, 1, IPC_CMD_RESP⟩ [1, 2, 1, 0] memory = .ok (s, []) ∧
    handleMessage protocol s ⟨13, 0, 0, 128, 1, IPC_CMD_RESP⟩ [1, 2, 1, 0, 128, 0] memory =
      .ok (s, []) := by
  obtain ⟨s, hrun, hreq, hfree⟩ := submit_powerOff
  have hunknown : Factory.create protocol 99 1 = none := rfl
  have hknown : Factory.create protocol 128 1 = some (CMD_GEN, Messages.GenCommandComplete) := rfl
  have hshort : (⟨11, 0, 0, 128, 1, IPC_CMD_RESP⟩ : Header).payloadLength = 4 := by decide
  have hlong : (⟨13, 0, 0, 128, 1, IPC_CMD_RESP⟩ : Header).payloadLength = 6 := by decide
  refine ⟨s, _, hrun, hreq, hfree, fun memory => ⟨handleMessage_undemarshalled ?_ s,
    handleMessage_undemarshalled ?_ s, handleMessage_undemarshalled ?_ s⟩⟩
  · simp only [demarshal, hunknown]
  · simp only [demarshal, hknown, hshort]
    rfl
  · simp only [demarshal, hknown, hlong]
    rfl

end FreeRil.IPCSocketHandler
