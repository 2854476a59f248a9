import FreeRil.RIL.Threads

/-! The state of the radio between the modem's changes to low power and back to its normal mode: it
stays off unless a report of the PIN is taken in meanwhile. -/
namespace FreeRil
open Messages RIL Program RequestHandler

namespace RIL

/-- The modem announces a mode. -/
def Announces (mode : UInt8) : Action → Prop
  | .notified message => announcedMode message = some mode
  | _ => False

/-- The low power mode has been handled, and the normal mode has not been announced since. -/
def LowPower (t : List Action) : Prop :=
  Transitions.Since (Announces PwrPhoneModeChanged.LPM) (Announces PwrPhoneModeChanged.Normal) t

/-- An answer that tells the state of the PIN. -/
def PinReply (reply : Message) : Prop :=
  reply.command = CMD_SEC.type ∧ reply.subcommand = SecGetPinStatusReply.type

/-- A report of the PIN is taken in: by itself, as the answer to a refresh, or as the one that
`handleSIMStatus` has waited for. -/
def TakesPin (s : Threads) : Action → Prop
  | .notified message => message.Is CMD_SEC SecGetPinStatusReply
  | .completed .handlePinStatusRefreshComplete reply => PinReply reply
  | .resumed => ∃ reply next,
    s.thread = .replied ⟨CMD_SEC, SecGetPinStatus, ()⟩ reply next ∧ PinReply reply
  | _ => False

def Off (state : RIL_RadioState) : Prop := state = .OFF ∨ state = .UNAVAILABLE

section
variable {L : ParcelLibrary} {t : List Action} {s s' : Threads} {a : Action}

theorem off_radioAfter {message : Message} {state : RIL_RadioState}
    (h : ¬ message.Is CMD_SEC SecGetPinStatusReply) (hoff : Off state) :
    Off (radioAfter message state) := by
  unfold radioAfter
  split_ifs
  · exact .inl rfl
  · rwa [announcedPin_eq_none h]

theorem off_completedRadio {completion : Completion} {reply : Message} {state : RIL_RadioState}
    (h : ¬ TakesPin s (.completed completion reply)) (hoff : Off state) :
    Off (completedRadio completion reply state) := by
  cases completion with
  | handlePinStatusRefreshComplete =>
    have hnone : answeredPin reply = none := if_neg h
    rwa [completedRadio, hnone]
  | _ => exact hoff

theorem off_of_effect {handler handler' : RequestHandler} {asked : Option (Message × Message)}
    (heffect : effect.holds ⟨[], handler, asked⟩ handler') (hoff : Off handler.m_radioState)
    (hasked : ∀ reply, asked = some (⟨CMD_SEC, SecGetPinStatus, ()⟩, reply) → ¬ PinReply reply) :
    Off handler'.m_radioState := by
  obtain ⟨-, -, hsame | hunavailable | ⟨reply, hpin, hreply⟩⟩ := heffect
  · rwa [hsame]
  · exact .inr hunavailable
  · exact absurd hreply (hasked reply hpin)

/-- Nothing but a report of the PIN turns the radio on. -/
theorem off_step (hstep : Step L s a s') (hsound : s.thread.Sound) (hpin : ¬ TakesPin s a)
    (hoff : Off s.handler.m_radioState) : Off s'.handler.m_radioState := by
  cases hstep with
  | notified held h =>
    rw [(notified_state h).2]
    exact off_radioAfter hpin hoff
  | completed held h =>
    rw [(completed_state h).2]
    exact off_completedRadio hpin hoff
  | replied => exact hoff
  | begun h => exact off_of_effect (begun_effect h).1 hoff fun reply hasked => by contradiction
  | @resumed handler query reply next submitted events handler' thread h =>
    apply off_of_effect (resumed_effect hsound h) hoff
    intro reply' hasked hreply
    obtain ⟨rfl, rfl⟩ := Prod.mk.inj (Option.some.inj hasked)
    exact hpin ⟨reply, next, rfl, hreply⟩

theorem off_of_announces (hstep : Step L s a s') (ha : Announces PwrPhoneModeChanged.LPM a) :
    Off s'.handler.m_radioState := by
  cases hstep with
  | notified held h =>
    rw [(notified_state h).2, radioAfter_of_off (.inr ha)]
    exact .inl rfl
  | _ => contradiction

/-- As long as no report of the PIN is taken in under low power, the radio stays off under it. -/
theorem radio_stays_off (h : (threads L).Run (fun t s a => LowPower t → ¬ TakesPin s a) t s)
    (hlow : LowPower t) : s.handler.m_radioState = .OFF ∨ s.handler.m_radioState = .UNAVAILABLE := by
  have hinvariant : s.thread.Sound ∧ (LowPower t → Off s.handler.m_radioState) := by
    apply h.invariant (P := fun t s => s.thread.Sound ∧ (LowPower t → Off s.handler.m_radioState))
    · rintro s rfl
      exact ⟨trivial, fun _ => .inr rfl⟩
    · rintro t s a s' ⟨hsound, hoff⟩ hpin hstep
      refine ⟨sound_step hstep hsound, fun hlow' => ?_⟩
      rcases Transitions.since_concat.mp hlow' with hlpm | ⟨hbefore, -⟩
      · exact off_of_announces hstep hlpm
      · exact off_step hstep hsound (hpin hbefore) (hoff hbefore)
  exact hinvariant.2 hlow

end

def modeChanged (mode : UInt8) : Message := ⟨CMD_PWR, PwrPhoneModeChanged, mode, ()⟩

def lowPowered : RequestHandler := { initial with m_radioState := .OFF, m_cache := .empty }

theorem notify_lpm {handler : RequestHandler} (h : handler = initial ∨ handler = simReady) :
    Trace (notify .android (modeChanged PwrPhoneModeChanged.LPM) handler)
      [⟨.unsolicited .RESPONSE_RADIO_STATE_CHANGED .null, ()⟩] (.done ((), lowPowered)) := by
  obtain rfl | rfl := h <;> exact .cons (.nil _)

theorem notify_normal : Trace (notify .android (modeChanged PwrPhoneModeChanged.Normal) initial)
    [⟨.submit ⟨CMD_SEC, SecGetPinStatus, ()⟩ (some .handlePinStatusRefreshComplete), ()⟩]
    (.done ((), initial)) :=
  .cons (.nil _)

theorem refresh_completed {handler : RequestHandler} (h : handler = initial ∨ handler = lowPowered) :
    Trace (Completion.handlePinStatusRefreshComplete.run pinReady handler)
      [⟨.unsolicited .RESPONSE_RADIO_STATE_CHANGED .null, ()⟩]
      (.done ((), { handler with m_radioState := .SIM_READY })) := by
  obtain rfl | rfl := h <;> exact .cons (.nil _)

/-- After the refresh has been answered the modem changes to low power. Then a request is refused, and
the modem tells the IMSI. -/
theorem radio_off_after_refresh :
    let imsi : Message := ⟨CMD_MISC, MiscGetMobileEquipImsiReply, (1 : UInt8), [49], ()⟩
    let request : Request := ⟨RIL_REQUEST_OPERATOR, .null 0, 0⟩
    ∃ s, (threads .android).Run (fun t s a => LowPower t → ¬ TakesPin s a)
        [.notified (modeChanged PwrPhoneModeChanged.Normal),
          .completed .handlePinStatusRefreshComplete pinReady,
          .notified (modeChanged PwrPhoneModeChanged.LPM), .begun request, .notified imsi] s ∧
      (s.handler.m_radioState = .OFF ∨ s.handler.m_radioState = .UNAVAILABLE) := by
  intro imsi request
  have hrefused : Trace (handle .android request lowPowered)
      [⟨.complete request .RADIO_NOT_AVAILABLE .null, ()⟩] (.done ((), lowPowered)) := by
    rw [handle_refused .android (by decide)]
    exact .cons (.nil _)
  have hnews : Trace (notify .android imsi lowPowered) []
      (.done ((), { lowPowered with m_cache := lowPowered.m_cache.put .imsi imsi })) := .nil _
  have hstart : (threads .android).Run (fun t s a => LowPower t → ¬ TakesPin s a) []
      ⟨initial, .idle, []⟩ := .start rfl
  have hnormal := hstart.step (fun h => absurd h Transitions.not_since_nil)
    (.notified (by simp [Held]) notify_normal)
  -- the modem has not announced low power yet
  have hbefore : ¬ LowPower ([] ++ [.notified (modeChanged PwrPhoneModeChanged.Normal)]) := by
    have hannounced : announcedMode (modeChanged PwrPhoneModeChanged.Normal) ≠
        some PwrPhoneModeChanged.LPM := by decide
    rintro h
    rcases Transitions.since_concat.mp h with hlpm | ⟨hnone, -⟩
    · exact hannounced hlpm
    · exact Transitions.not_since_nil hnone
  have hready := hnormal.step (fun h => absurd h hbefore)
    (@Step.completed .android initial .idle [] [] _ pinReady _ _ (by simp [Held])
      (refresh_completed (.inl rfl)))
  have hmode : ¬ (modeChanged PwrPhoneModeChanged.LPM).Is CMD_SEC SecGetPinStatusReply := by
    rintro ⟨hgroup, -⟩
    revert hgroup
    decide
  have hlow := hready.step (e := Action.notified (modeChanged PwrPhoneModeChanged.LPM))
    (fun _ => hmode) (.notified (by simp [Held]) (notify_lpm (.inr rfl)))
  have hlowPower : LowPower (([] ++ [.notified (modeChanged PwrPhoneModeChanged.Normal)] ++
      [.completed .handlePinStatusRefreshComplete pinReady]) ++
      [.notified (modeChanged PwrPhoneModeChanged.LPM)]) := Transitions.since_of rfl
  have hasked := hlow.step (e := Action.begun request) (fun _ => id)
    (.begun (.ends (by simp [Held]) hrefused))
  have hother : ¬ imsi.Is CMD_SEC SecGetPinStatusReply ∧
      announcedMode imsi ≠ some PwrPhoneModeChanged.Normal := by
    refine ⟨?_, by decide⟩
    rintro ⟨hgroup, -⟩
    revert hgroup
    decide
  have htold := hasked.step (e := Action.notified imsi) (fun _ => hother.1)
    (.notified (by simp [Held]) hnews)
  exact ⟨_, htold, radio_stays_off htold ((hlowPower.append id).append hother.2)⟩

/-- The modem goes back to low power before it has answered the refresh: the late answer makes the
SIM ready. -/
theorem late_refresh_turns_on : ¬ ∀ L t s, (threads L).Run (fun _ _ _ => True) t s → LowPower t →
    s.handler.m_radioState = .OFF ∨ s.handler.m_radioState = .UNAVAILABLE := by
  intro hall
  have hstart : (threads .android).Run (fun _ _ _ => True) [] ⟨initial, .idle, []⟩ := .start rfl
  have hrequested := hstart.step trivial (.notified (by simp [Held]) notify_normal)
  have hlow := hrequested.step trivial (.notified (by simp [Held]) (notify_lpm (.inl rfl)))
  have hready := hlow.step trivial (@Step.completed .android lowPowered .idle [] [] _ pinReady _ _
    (by simp [Held]) (refresh_completed (.inr rfl)))
  have hbefore : LowPower ([.notified (modeChanged PwrPhoneModeChanged.Normal)] ++
      [.notified (modeChanged PwrPhoneModeChanged.LPM)]) := Transitions.since_of rfl
  have hlowPower : LowPower (_ ++ [.completed .handlePinStatusRefreshComplete pinReady]) :=
    Transitions.Since.append hbefore id
  have hradio := hall _ _ _ hready hlowPower
  rcases hradio with h | h <;> contradiction

end RIL
end FreeRil
