import FreeRil.RequestHandler.Handlers

/-! Every message that is sent for a request agrees with the protocol, but for accesses to the SIM
whose data does not fill its field, and for strings of tones that do not. -/
namespace FreeRil
open Messages RIL Program

namespace RequestHandler

/-- All that is sent from a handler on its way agrees with the protocol. -/
def SendsAgreeing (p : Program Call.Ret (Unit × RequestHandler)) : Prop :=
  ∀ t q, Trace p t q → ∀ message completion, .sent message completion ∈ outward t → message.Agrees

section
variable {p : Ril Unit} {handler : RequestHandler} {s : Seen}
  {Q : Unit → RequestHandler → Seen → Prop}

theorem sendsAgreeing_of_conduct {C : Prop} {E : Keeping} (hC : C)
    (h : (conduct C E).SafeWith Q p handler s) : SendsAgreeing (p handler) := by
  intro t q ht message completion hmem
  obtain ⟨e, he, hsent⟩ := List.mem_filterMap.mp hmem
  obtain ⟨before, rest, heq⟩ := List.append_of_mem he
  have hkept := (Monitor.Safe.trace h ht fun _ _ _ _ => trivial).1
  exact (hkept before e rest heq).1 message completion hsent hC

/-- The first message that is sent is one of those. -/
theorem SendsAgreeing.execute {f : Message → Ril Unit} {message : Message}
    (h : SendsAgreeing ((execute message >>= f) handler)) : message.Agrees :=
  h [⟨.execute message handler, handler, message⟩] _ (.cons (.nil _)) message none (.head _)

end
section
variable (L : ParcelLibrary) {request : Request} {handler : RequestHandler}
  (hadmitted : admitted handler.m_radioState request.code)
include hadmitted

theorem handle_sim_io (hcode : request.code = RIL_REQUEST_SIM_IO) {io : RIL_SIM_IO}
    (hio : request.data = .sim_io io) (hwithheld : ¬ withheld io) :
    handle L request handler = accessSIM io request handler := by
  have hhandler : handlerOf L request.code = some handleSIM_IO := by rw [hcode, handlerOf_sim_io]
  rw [handle_admitted L hadmitted hhandler]
  unfold handleSIM_IO
  rw [hio]
  exact congrFun (if_neg hwithheld) handler

theorem handle_DTMF (hcode : request.code = RIL_REQUEST_DTMF) {s : CString}
    (hs : request.data = .string s) :
    handle L request handler = executeGenCommand (sendBurstDtmf s) request handler := by
  have hhandler : handlerOf L request.code = some handleDTMF := by
    rw [hcode]
    exact handlerOf_static (i := 23) rfl (by
      simp only [constructorHandlers, List.forall_mem_cons]
      decide)
  rw [handle_admitted L hadmitted hhandler]
  unfold handleDTMF
  rw [hs]
  rfl

theorem wellSized_of_sendsAgreeing (h : SendsAgreeing (handle L request handler)) :
    WellSized request := by
  constructor
  · intro hcode io hio hwithheld data hdata
    rw [handle_sim_io L hadmitted hcode hio hwithheld] at h
    unfold accessSIM at h
    rw [hdata] at h
    exact (sized_rsimAccess_iff io data).mp ((Message.agrees_iff_sized _).mp h.execute)
  · intro hcode s hs
    rw [handle_DTMF L hadmitted hcode hs] at h
    exact (sized_sendBurstDtmf_iff s).mp ((Message.agrees_iff_sized _).mp h.execute)

end

/-- The messages that are sent for a request agree with the protocol exactly when the request is well
sized or refused. -/
theorem handle_sendsAgreeing_iff (L : ParcelLibrary) (request : Request) (handler : RequestHandler) :
    SendsAgreeing (handle L request handler) ↔
      (admitted handler.m_radioState request.code → WellSized request) := by
  constructor
  · intro h hadmitted
    exact wellSized_of_sendsAgreeing L hadmitted h
  · intro h
    by_cases hadmitted : admitted handler.m_radioState request.code
    · exact sendsAgreeing_of_conduct (h hadmitted) (handle_conduct L request handler)
    · rw [handle_refused L hadmitted]
      exact sendsAgreeing_of_conduct (C := True) (E := effect) (s := ⟨[], handler, none⟩) trivial
        (complete_conduct (Q := fun _ _ _ => True) trivial)

/-- A single tone is sent as one tone in a field for eighty-two, and cannot be read back. -/
theorem handle_single_tone_disagrees :
    ¬ ∀ L request handler, SendsAgreeing (handle L request handler) := by
  intro hall
  have h := (hall .android ⟨RIL_REQUEST_DTMF, .string ⟨[49], by decide⟩, 0⟩
    ⟨.SIM_READY, -1, 0, [], MessageCache.empty⟩)
  rw [handle_DTMF .android (by decide) rfl rfl] at h
  have hlength := (sized_sendBurstDtmf_iff _).mp ((Message.agrees_iff_sized _).mp h.execute)
  exact absurd hlength (by decide)

end RequestHandler
end FreeRil
