import FreeRil.RequestHandler.Handlers

/-! Every request is completed exactly once, by its handler or by a function that the handler has
subscribed to a message, but for the writes that are withheld from the SIM. -/
namespace FreeRil
open Messages RIL Program

namespace RequestHandler

/-- The request that is completed, and the completion that is subscribed. -/
def completedBy : Outward → Option Request
  | .completed request _ _ => some request
  | .sent _ _ => none

def subscribedBy : Outward → Option Completion
  | .completed _ _ _ => none
  | .sent _ completion => completion

/-- The requests that are completed in a history. -/
def completed (t : List (Event Call.Ret)) : List Request := (outward t).filterMap completedBy

def subscribed (t : List (Event Call.Ret)) : List Completion := (outward t).filterMap subscribedBy

/-- A completion has run with some reply, in some state, and these requests have been completed. -/
def Completed (completion : Completion) (requests : List Request) : Prop :=
  ∃ reply handler t handler', Trace (completion.run reply handler) t (.done ((), handler')) ∧
    requests = completed t

/-- A request has been handled from a state, and the completions of the messages that it has
submitted have run: these requests have been completed. -/
def Handled (L : ParcelLibrary) (request : Request) (handler : RequestHandler)
    (requests : List Request) : Prop :=
  ∃ t handler' later, Trace (handle L request handler) t (.done ((), handler')) ∧
    List.Forall₂ Completed (subscribed t) later ∧ requests = completed t ++ later.flatten

section
variable {request : Request} {s : List Outward}

theorem Pending.completedBy (h : Pending s) : s.filterMap completedBy = [] := by
  apply List.filterMap_eq_nil_iff.mpr
  intro o ho
  obtain ⟨message, rfl⟩ := h o ho
  rfl

theorem Pending.subscribedBy (h : Pending s) : s.filterMap subscribedBy = [] := by
  apply List.filterMap_eq_nil_iff.mpr
  intro o ho
  obtain ⟨message, rfl⟩ := h o ho
  rfl

/-- What a completion completes. -/
theorem Completed.eq {completion : Completion} {requests : List Request}
    (h : Completed completion requests) (hrequest : completion.request = some request) :
    requests = [request] := by
  obtain ⟨reply, handler, t, handler', htrace, rfl⟩ := h
  have hsafe := run_conduct (C := True) hrequest reply handler (s := ⟨[], handler, none⟩) pending_nil
  obtain ⟨⟨before, e, response, hs, hbefore⟩, -⟩ := ended hsafe htrace
  rw [seen_history, List.nil_append] at hs
  rw [completed, hs, List.filterMap_append, hbefore.completedBy]
  rfl

/-- Whoever is to complete a request that has been answered, it is completed once. -/
theorem Answered.completed_once (h : Answered request s) {later : List (List Request)}
    (hlater : List.Forall₂ Completed (s.filterMap RequestHandler.subscribedBy) later) :
    s.filterMap RequestHandler.completedBy ++ later.flatten = [request] := by
  obtain ⟨before, o, rfl, hbefore, ho⟩ := h
  rw [List.filterMap_append, hbefore.subscribedBy] at hlater
  rw [List.filterMap_append, hbefore.completedBy]
  cases o with
  | completed completed e response =>
    cases hlater
    obtain rfl : completed = request := ho
    rfl
  | sent message completion =>
    cases completion with
    | none => contradiction
    | some completion =>
      obtain ⟨requests, later, hrequests, hnil, rfl⟩ := List.forall₂_cons_left_iff.mp hlater
      cases hnil
      rw [hrequests.eq ho]
      rfl

end
section
variable (L : ParcelLibrary) (request : Request) (handler : RequestHandler)

/-- Every request is completed once, but for a write that is withheld from the SIM when the state of
the radio would allow it. -/
theorem handled_once_iff :
    (∀ requests, Handled L request handler requests → requests = [request]) ↔
      ¬ (admitted handler.m_radioState request.code ∧ WithheldWrite request) := by
  constructor
  · rintro hall ⟨hadmitted, hwithheld⟩
    have hnone := hall [] ⟨[], handler, [], by
      rw [handle_withheldWrite L hadmitted hwithheld]
      exact .nil _, .nil, rfl⟩
    contradiction
  · rintro hrequest requests ⟨t, handler', later, htrace, hlater, rfl⟩
    have hanswered := (ended (handle_conduct L request handler) htrace).1 hrequest
    rw [seen_history, List.nil_append] at hanswered
    exact hanswered.completed_once hlater

end

/-- A number for fixed dialling is written: the request is lost. -/
theorem fixed_dialling_write_not_completed :
    ¬ ∀ L request handler requests, Handled L request handler requests → requests = [request] := by
  intro hall
  let request : Request := .mk RIL_REQUEST_SIM_IO (.sim_io ⟨0xD6, 0x6F3B, 0, 0, 0, none⟩) 0
  have h := hall ⟨Unit, fun _ => [], fun _ => (), fun _ => (0, ()), fun _ => ([], ()), fun _ => false,
      fun _ => [], fun _ => []⟩
    request ⟨.SIM_READY, -1, 0, [], MessageCache.empty⟩ []
    ⟨[], _, [], by
      rw [handle_withheldWrite _ (by decide) ⟨rfl, _, rfl, by decide⟩]
      exact .nil _, .nil, rfl⟩
  contradiction

end RequestHandler
end FreeRil
