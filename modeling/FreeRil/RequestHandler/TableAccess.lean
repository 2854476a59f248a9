import FreeRil.RIL.Threads
import FreeRil.RequestHandler.Asked

/-! Which tables and vectors are indexed with the integers of a request, and when the index is one
of theirs. -/
namespace FreeRil
open Messages RIL Program

namespace RequestHandler

/-- A request whose handler indexes `m_callIds`. -/
def IndexesCalls (code : ℤ) : Prop :=
  code = RIL_REQUEST_HANGUP ∨ code = RIL_REQUEST_SEPARATE_CONNECTION

instance (code : ℤ) : Decidable (IndexesCalls code) := by
  unfold IndexesCalls
  infer_instance

/-- For a request nothing is read outside of `m_requestHandlers`, in front of `m_callIds` or behind
a static table, nor behind `m_callIds` if its handler indexes that. -/
def InTable (code : ℤ) (c : Call) : Prop :=
  c ≠ .fault .table ∧ c ≠ .memory .outside 1 ∧ (IndexesCalls code → c ≠ .fault .range)

/-- A line that is looked for is not negative, and a device is not the one behind the last. -/
def IndexesWell (L : ParcelLibrary) (request : Request) (handler : RequestHandler) : Prop :=
  (request.code = RIL_REQUEST_HANGUP → 2 ≤ handler.m_callIds.length → NamesLine request.data) ∧
  (request.code = RIL_REQUEST_SEPARATE_CONNECTION → NamesLine request.data) ∧
  (request.code = RIL_REQUEST_OEM_HOOK_RAW → ∀ data, request.data = .raw data → ∀ device volume,
    oemCall L handler.m_radioState data = .ok (.setCallVolume device volume) → device ≠ 4)

section
variable {code : ℤ} {c : Call}

theorem inTable_of_sound (h : c.Sound) : InTable code c := by
  refine ⟨?_, ?_, fun _ => ?_⟩
  · rintro rfl
    exact (h.2 _ rfl).2 rfl
  · rintro rfl
    exact absurd (h.1 _ _ rfl).2 (by decide)
  · rintro rfl
    exact (h.2 _ rfl).1 rfl

theorem inTable_reserved : InTable code (.memory .uninitialised 83) := ⟨nofun, nofun, nofun⟩

end
section
variable {request : Request} {handler : RequestHandler}

/-- Where no line is named, a negative one may be. -/
theorem exists_negative (h : ¬ NamesLine request.data) :
    ∃ n : Int32, (intAt request.data 0 handler).Returns (n, handler) ∧ (n - 1).toInt < 0 := by
  obtain ⟨values, h⟩ := not_forall.mp h
  obtain ⟨hdata, h⟩ := Classical.not_imp.mp h
  rw [hdata]
  unfold intAt
  dsimp only
  cases hvalue : values[0]? with
  | some n => exact ⟨n, rfl, not_le.mp fun hle => h ⟨n, hvalue, hle⟩⟩
  | none => exact ⟨0, ⟨⟨[0, 0, 0, 0], rfl⟩, rfl⟩, by decide⟩

theorem namesLine_of_manageLine {ok : Call → Prop} (hok : ¬ ok (.memory .outside 1))
    {callCommand : UInt8}
    {callIds : List UInt8} (h : (manageLine callCommand callIds request handler).All ok) :
    NamesLine request.data := by
  by_contra hline
  obtain ⟨n, hn, hneg⟩ := @exists_negative request handler hline
  have hrest := (Program.all_bind.mp h).2 _ hn
  dsimp only at hrest
  rw [if_neg (by omega)] at hrest
  unfold callIdAt at hrest
  rw [if_pos hneg] at hrest
  exact hok hrest.1

end
section
variable (L : ParcelLibrary) (request : Request) (handler : RequestHandler)

theorem indexesWell_of_all {f : Handler} (hf : handlerOf L request.code = some f)
    (h : (f request handler).All (InTable request.code)) : IndexesWell L request handler := by
  have hstray : ¬ InTable request.code (.memory .outside 1) := fun h => h.2.1 rfl
  have hcommand : ∀ {code : ℕ} {g : Handler}, (code, g) ∈ commands → request.code = code →
    f = g := by
    intro code g hg hcode
    rw [hcode, handlerOf_command L _ hg] at hf
    exact (Option.some.inj hf).symm
  refine ⟨?_, ?_, ?_⟩
  · intro hcode hlength
    obtain rfl := hcommand (.head _) hcode
    change Program.All _ ((ite _ _ _ : Ril Unit) handler) at h
    rw [if_neg (by omega), if_neg (by omega)] at h
    exact namesLine_of_manageLine hstray h
  · intro hcode
    obtain rfl := hcommand separateConnection_mem hcode
    exact namesLine_of_manageLine hstray h
  · rintro hcode data hdata device volume hcall rfl
    rw [hcode, handlerOf_oem] at hf
    obtain rfl := Option.some.inj hf
    rw [handleOemHookRaw_ok hdata hcall] at h
    exact hstray h.1

theorem all_of_indexesWell {f : Handler} (hf : handlerOf L request.code = some f)
    (h : IndexesWell L request handler) : (f request handler).All (InTable request.code) := by
  have hrange : (∀ entry ∈ commands, request.code ≠ entry.1) →
    InTable request.code (.fault .range) := by
    refine fun hcommands => ⟨nofun, nofun, fun hindexes => ?_⟩
    obtain heq | heq := hindexes
    · exact absurd heq (hcommands _ (.head _))
    · exact absurd heq (hcommands _ separateConnection_mem)
  exact all_handler request L (fun _ hc _ => inTable_of_sound hc) inTable_reserved hrange
    (fun _ _ _ _ _ _ _ => inTable_of_sound ⟨nofun, nofun⟩) (.inr h) hf

/-- A request that is not admitted, or has no handler, indexes nothing. -/
theorem handle_inTable_iff : (handle L request handler).All (InTable request.code) ↔
    (admitted handler.m_radioState request.code → IndexesWell L request handler) := by
  constructor
  · intro h hadmitted
    cases hf : handlerOf L request.code with
    | some f =>
      rw [handle_admitted L hadmitted hf] at h
      exact indexesWell_of_all L request handler hf h
    | none =>
      have hsome : ∀ {code : ℕ} {g : Handler}, request.code = code → handlerOf L code ≠ some g := by
        intro code g hcode hg
        rw [← hcode, hf] at hg
        contradiction
      refine ⟨?_, ?_, ?_⟩
      · exact fun hcode => absurd (handlerOf_command L _ (.head _)) (hsome hcode)
      · exact fun hcode => absurd (handlerOf_command L _ separateConnection_mem) (hsome hcode)
      · exact fun hcode => absurd (handlerOf_oem L) (hsome hcode)
  · exact fun h => all_handle request L (fun _ hc _ => inTable_of_sound hc) fun hadmitted f hf =>
      all_of_indexesWell L request handler hf (h hadmitted)

end
end RequestHandler

namespace RIL
open RequestHandler

/-- What is left to do for a request makes only accesses within bounds. -/
def Thread.InTable (code : ℤ) : Thread → Prop
  | .idle => True
  | .waiting _ next | .replied _ _ next => ∀ r, (next r).All (RequestHandler.InTable code)

/-- The request that the request thread has begun last. -/
def Begun (request : Request) : List Action → Prop :=
  Transitions.Since (· = .begun request) fun a => ∃ other, a = .begun other

/-- The calls that the request thread comes to in a step, also those that nothing comes back
from. -/
inductive Makes (L : ParcelLibrary) (s : Threads) : Action → Call → Prop
  | begun {request : Request} {t : List (Event Call.Ret)} {c : Call}
    {next : c.Ret → Program Call.Ret _} (hidle : s.thread = .idle) (held : Held t)
    (h : Trace (handle L request s.handler) t (.call c next)) :
    Makes L s (.begun request) c
  | resumed {message reply : Message} {rest : Rest} {t : List (Event Call.Ret)} {c : Call}
    {next : c.Ret → Program Call.Ret _} (hreplied : s.thread = .replied message reply rest)
    (held : Held t)
    (h : Trace (rest (s.handler, reply)) t (.call c next)) : Makes L s .resumed c

/-- A request that is admitted comes with indices that are well. -/
def BeginsWell (L : ParcelLibrary) (_ : List Action) (s : Threads) (a : Action) : Prop :=
  ∀ request, a = .begun request → admitted s.handler.m_radioState request.code →
    IndexesWell L request s.handler

section
variable {L : ParcelLibrary} {t : List Action} {s s' : Threads} {a : Action}

theorem Segment.inTable {p : Program Call.Ret (Unit × RequestHandler)} {t : List (Event Call.Ret)}
    {handler : RequestHandler} {thread : Thread} {code : ℤ} (h : Segment p t handler thread)
    (hp : p.All (RequestHandler.InTable code)) : thread.InTable code := by
  cases h with
  | ends held h => exact trivial
  | waits held h => exact (hp.trace h).2

theorem Begun.last {request other : Request} (h : Begun other (t ++ [.begun request])) :
    other = request := by
  rcases Transitions.since_concat.mp h with heq | ⟨-, hnot⟩
  · exact (Action.begun.inj heq).symm
  · exact absurd ⟨request, rfl⟩ hnot

theorem begun_append {request : Request} (h : Begun request (t ++ [a]))
    (ha : ∀ other, a ≠ .begun other) :
    Begun request t := by
  rcases Transitions.since_concat.mp h with heq | ⟨hbegun, -⟩
  · exact absurd heq (ha request)
  · exact hbegun

theorem inTable_step (hs : ∀ request, Begun request t → s.thread.InTable request.code)
    (ha : BeginsWell L t s a) (h : Step L s a s') :
    ∀ request, Begun request (t ++ [a]) → s'.thread.InTable request.code := by
  intro request hbegun
  cases h with
  | notified held h => exact hs request (begun_append hbegun fun _ => nofun)
  | completed held h => exact hs request (begun_append hbegun fun _ => nofun)
  | replied => exact hs request (begun_append hbegun fun _ => nofun)
  | begun h =>
    obtain rfl := hbegun.last
    exact h.inTable ((handle_inTable_iff L request _).mpr (ha request rfl))
  | resumed h => exact h.inTable (hs request (begun_append hbegun fun _ => nofun) _)

theorem inTable_run (h : (threads L).Run (BeginsWell L) t s) :
    ∀ request, Begun request t → s.thread.InTable request.code := by
  apply h.invariant
  · rintro s rfl request -
    exact trivial
  · exact fun t s a s' hs ha hstep => inTable_step hs ha hstep

/-- All that the thread comes to for a request is within bounds, before it waits and after it. -/
theorem Makes.inTable {c : Call} {request : Request} (hmakes : Makes L s a c)
    (h : (threads L).Run (BeginsWell L) t s) (ha : BeginsWell L t s a)
    (hbegun : Begun request (t ++ [a])) :
    RequestHandler.InTable request.code c := by
  cases hmakes with
  | begun hidle held htrace =>
    obtain rfl := hbegun.last
    exact (((handle_inTable_iff L request s.handler).mpr (ha request rfl)).trace htrace).1
  | resumed hreplied held htrace =>
    have hrest := inTable_run h request (begun_append hbegun fun _ => nofun)
    rw [hreplied] at hrest
    exact ((hrest _).trace htrace).1

end
end RIL

namespace RequestHandler
variable (L : ParcelLibrary)

/-- `m_requestHandlers` is only indexed within its bounds; the others are exactly as long as the
integers of the requests index them well, also over runs in which the calls that are known
change. -/
theorem requests_in_table :
    (∀ code handler, (supports L code handler).All (· ≠ .fault .table)) ∧
    (∀ request handler, (handle L request handler).All (· ≠ .fault .table)) ∧
    (∀ request handler, (handle L request handler).All (InTable request.code) ↔
      (admitted handler.m_radioState request.code → IndexesWell L request handler)) ∧
    ∀ t s, (threads L).Run (BeginsWell L) t s → ∀ a c, BeginsWell L t s a → Makes L s a c →
      ∀ request, Begun request (t ++ [a]) → InTable request.code c := by
  refine ⟨fun code handler => ?_, fun request handler => ?_, handle_inTable_iff L, ?_⟩
  · rw [supports_eq]
    exact trivial
  · have hok : ∀ c : Call, c.Sound → c.Short → c ≠ .fault .table := by
      rintro c hsound - rfl
      exact (hsound.2 _ rfl).2 rfl
    refine all_handle request L hok fun _ f hf => ?_
    exact all_handler request L hok nofun (fun _ => nofun) (fun _ _ _ _ _ _ _ => nofun)
      (.inl nofun) hf
  · exact fun t s h a c ha hmakes request hbegun => hmakes.inTable h ha hbegun

/-- The first of two calls is hung up, with the vector of the calls read at its start. -/
theorem hangup_in_table :
    let request : Request := ⟨RIL_REQUEST_HANGUP, .ints [1], 0⟩
    let handler : RequestHandler := { simReady with m_callIds := [1, 2] }
    (handle .android request handler).All (InTable request.code) := by
  intro request handler
  refine ((requests_in_table .android).2.2.1 request handler).mpr fun _ => ⟨?_, nofun, nofun⟩
  rintro - - values hvalues
  obtain rfl := Payload.ints.inj hvalues
  exact ⟨1, rfl, by decide⟩

/-- Where there are no calls, the connection on line zero is looked for in front of them. -/
theorem separate_before_calls : ¬ ∀ L t s, (threads L).Run (fun _ _ _ => True) t s →
      s.thread = .idle →
    ∀ request, (handle L request s.handler).All (InTable request.code) := by
  intro hall
  let request : Request := ⟨RIL_REQUEST_SEPARATE_CONNECTION, .ints [0], 0⟩
  have hstart : (threads .android).Run (fun _ _ _ => True) [] ⟨initial, .idle, []⟩ := .start rfl
  have hrequest := hall _ _ _ (hstart.step trivial step_pinReady) rfl request
  have hline := ((handle_inTable_iff .android request simReady).mp hrequest (by decide)).2.1 rfl
  obtain ⟨n, hn, hle⟩ := hline [0] rfl
  obtain rfl := Option.some.inj hn
  revert hle
  decide

end RequestHandler
end FreeRil
