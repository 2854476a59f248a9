import FreeRil.RIL.Threads

/-! Whether the cache holds what has arrived last: the reply that the request thread waits for may have
been overtaken when it gets into the cache. -/
namespace FreeRil
open Messages RIL Program RequestHandler

namespace RIL

/-- A message arrives for a key, by itself or as the answer to the query of the key. -/
def Arrives (key : CacheKey) (message : Message) : Action → Prop
  | .notified m => m = message ∧ announcedKey m = some key
  | .replied query reply => reply = message ∧ query = key.query ∧ key.Accepts reply
  | _ => False

/-- A key is flushed or made invalid. -/
def Clears (key : CacheKey) : Action → Prop
  | .notified m => announcedMode m = some PwrPhoneModeChanged.LPM
  | .completed (.setPLMNSelectionComplete _) _ => key = .plmnSelection
  | .completed (.handleSetPreferredNetworkTypeComplete _) _ => key = .netMode
  | _ => False

/-- The message is the one that has arrived last for the key, and the key has not been cleared since. -/
def Fresh (t : List Action) (key : CacheKey) (message : Message) : Prop :=
  Transitions.Since (Arrives key message) (fun a => Clears key a ∨ ∃ m, Arrives key m a) t

/-- The reply has arrived, and the request thread has yet to put it into the cache. -/
def Due (thread : Thread) (key : CacheKey) (reply : Message) : Prop :=
  ∃ next, thread = .replied key.query reply next ∧ key.Accepts reply

/-- As long as a reply is due, no other message arrives for its key, and the key is not cleared. -/
def Undisturbed (_ : List Action) (s : Threads) (a : Action) : Prop :=
  ∀ key reply, Due s.thread key reply → ¬ Clears key a ∧ ∀ m, Arrives key m a → m = reply

/-- Where no reply is due, the cache holds what has arrived last, and a reply that is due has. -/
structure Coherent (t : List Action) (s : Threads) : Prop where
  sound : s.thread.Sound
  due : ∀ key reply, Due s.thread key reply → Fresh t key reply
  cached : ∀ key message, s.handler.m_cache key = some message →
    (∃ reply, Due s.thread key reply) ∨ Fresh t key message

section
variable {L : ParcelLibrary} {t : List Action} {s s' : Threads} {a : Action} {key : CacheKey}
  {message : Message}

theorem Fresh.keep (h : Fresh t key message) (ha : ¬ Clears key a ∧ ∀ m, ¬ Arrives key m a) :
    Fresh (t ++ [a]) key message := by
  apply Transitions.Since.append h
  rintro (hclears | ⟨m, harrives⟩)
  · exact ha.1 hclears
  · exact ha.2 m harrives

theorem fresh_of_arrives (h : Arrives key message a) : Fresh (t ++ [a]) key message :=
  Transitions.since_of h

/-- What is cached after a notification has come with it, or was there before and is not concerned. -/
theorem cached_after_notified {cache : MessageCache} {m : Message}
    (h : cacheAfter m cache key = some message) : Arrives key message (.notified m) ∨
      cache key = some message ∧ ¬ Clears key (.notified m) ∧ ∀ m', ¬ Arrives key m' (.notified m) := by
  by_cases hlpm : announcedMode m = some PwrPhoneModeChanged.LPM
  · rw [cacheAfter_of_lpm hlpm] at h
    contradiction
  rw [cacheAfter, if_neg hlpm] at h
  have hother : announcedKey m ≠ some key → cache key = some message →
      cache key = some message ∧ ¬ Clears key (.notified m) ∧ ∀ m', ¬ Arrives key m' (.notified m) :=
    fun hkey hcached => ⟨hcached, hlpm, fun m' harrives => hkey harrives.2⟩
  cases hkey : announcedKey m with
  | none =>
    rw [hkey] at h
    exact .inr (hother (by simp [hkey]) h)
  | some key' =>
    rw [hkey] at h
    dsimp only at h
    by_cases heq : key = key'
    · subst heq
      rw [MessageCache.put_self] at h
      exact .inl ⟨Option.some.inj h, hkey⟩
    · rw [MessageCache.put_of_ne cache heq] at h
      exact .inr (hother (by simp [hkey, Ne.symm heq]) h)

theorem cached_after_invalidate {cache : MessageCache} {key' : CacheKey}
    (h : cache.invalidate key' key = some message) : cache key = some message ∧ key ≠ key' := by
  by_cases heq : key = key'
  · subst heq
    rw [MessageCache.invalidate_self] at h
    contradiction
  · rw [MessageCache.invalidate_of_ne cache heq] at h
    exact ⟨h, heq⟩

theorem cached_after_completed {cache : MessageCache} {completion : Completion} {reply : Message}
    (h : touches completion cache key = some message) : cache key = some message ∧
      ¬ Clears key (.completed completion reply) ∧
      ∀ m, ¬ Arrives key m (.completed completion reply) := by
  refine and_assoc.mp ⟨?_, fun _ => id⟩
  cases completion with
  | setPLMNSelectionComplete request => exact cached_after_invalidate h
  | handleSetPreferredNetworkTypeComplete request => exact cached_after_invalidate h
  | handlePinStatusRefreshComplete => exact ⟨h, id⟩
  | handleRadioPowerSetModeComplete request => exact ⟨h, id⟩
  | handleQueryAvailableNetworksComplete request => exact ⟨h, id⟩
  | handleSetBandModeComplete request => exact ⟨h, id⟩

/-- An action of the worker thread that completes nothing the request thread waits for. -/
theorem Coherent.frame (h : Coherent t s) (ha : Undisturbed t s a) {handler : RequestHandler}
    {submitted : List Completion} (hcache : ∀ key message, handler.m_cache key = some message →
      Arrives key message a ∨
        s.handler.m_cache key = some message ∧ ¬ Clears key a ∧ ∀ m, ¬ Arrives key m a) :
    Coherent (t ++ [a]) ⟨handler, s.thread, submitted⟩ where
  sound := h.sound
  due key reply hdue := by
    obtain ⟨hclears, hsame⟩ := ha key reply hdue
    by_cases harrives : ∃ m, Arrives key m a
    · obtain ⟨m, hm⟩ := harrives
      obtain rfl := hsame m hm
      exact fresh_of_arrives hm
    · exact (h.due key reply hdue).keep ⟨hclears, not_exists.mp harrives⟩
  cached key message hcached := by
    rcases hcache key message hcached with harrives | ⟨hbefore, hkeep⟩
    · exact .inr (fresh_of_arrives harrives)
    · rcases h.cached key message hbefore with hdue | hfresh
      · exact .inl hdue
      · exact .inr (hfresh.keep hkeep)

/-- The request thread has put what was due into the cache when it gives the mutex up. -/
theorem not_due_of_segment {p : Program Call.Ret (Unit × RequestHandler)} {events : List (Event Call.Ret)}
    {handler : RequestHandler} {thread : Thread} (h : Segment p events handler thread) :
    ¬ Due thread key message := by
  rintro ⟨next, rfl, -⟩
  cases h

theorem Coherent.step (h : Coherent t s) (ha : Undisturbed t s a) (hstep : Step L s a s') :
    Coherent (t ++ [a]) s' := by
  have hsound := sound_step hstep h.sound
  cases hstep with
  | notified held htrace =>
    apply h.frame ha
    intro key message hcached
    rw [(notified_state htrace).1] at hcached
    exact cached_after_notified hcached
  | completed held htrace =>
    apply h.frame ha
    intro key message hcached
    rw [(completed_state htrace).1] at hcached
    exact .inr (cached_after_completed hcached)
  | @replied handler query reply next submitted =>
    constructor
    · exact hsound
    · rintro key reply' ⟨next', hthread, haccepts⟩
      obtain ⟨hquery, rfl, rfl⟩ := Thread.replied.inj hthread
      exact fresh_of_arrives ⟨rfl, hquery, haccepts⟩
    · intro key message hcached
      rcases h.cached key message hcached with ⟨reply', next', hthread, -⟩ | hfresh
      · contradiction
      by_cases hdue : query = key.query ∧ key.Accepts reply
      · obtain ⟨rfl, haccepts⟩ := hdue
        exact .inl ⟨reply, next, rfl, haccepts⟩
      · exact .inr (hfresh.keep ⟨id, fun m harrives => hdue harrives.2⟩)
  | begun hsegment =>
    constructor
    · exact hsound
    · exact fun key reply hdue => absurd hdue (not_due_of_segment hsegment)
    · intro key message hcached
      rw [(begun_effect hsegment).1.2.1 (by rintro key reply ⟨⟩)] at hcached
      rcases h.cached key message hcached with ⟨reply, next, hthread, -⟩ | hfresh
      · contradiction
      · exact .inr (hfresh.keep ⟨id, fun _ => id⟩)
  | @resumed handler query reply next submitted events handler' thread hsegment =>
    obtain ⟨hput, hkept, -⟩ := resumed_effect h.sound hsegment
    constructor
    · exact hsound
    · exact fun key reply hdue => absurd hdue (not_due_of_segment hsegment)
    · intro key message hcached
      right
      by_cases hdue : ∃ key, query = CacheKey.query key ∧ key.Accepts reply
      · obtain ⟨key', rfl, haccepts⟩ := hdue
        rw [hput key' reply rfl haccepts] at hcached
        by_cases heq : key = key'
        · subst heq
          rw [MessageCache.put_self, Option.some.injEq] at hcached
          subst hcached
          exact (h.due key reply ⟨next, rfl, haccepts⟩).keep ⟨id, fun _ => id⟩
        · rw [MessageCache.put_of_ne _ heq] at hcached
          rcases h.cached key message hcached with ⟨reply', next', hthread, -⟩ | hfresh
          · have hquery := (Thread.replied.inj hthread).1
            exact absurd (CacheKey.query_injective hquery).symm heq
          · exact hfresh.keep ⟨id, fun _ => id⟩
      · rw [hkept fun key reply' hasked haccepts => hdue ⟨key, by
          obtain ⟨hquery, rfl⟩ := Prod.mk.inj (Option.some.inj hasked)
          exact ⟨hquery, haccepts⟩⟩] at hcached
        rcases h.cached key message hcached with ⟨reply', next', hthread, haccepts⟩ | hfresh
        · obtain ⟨hquery, rfl, -⟩ := Thread.replied.inj hthread
          exact absurd ⟨key, hquery, haccepts⟩ hdue
        · exact hfresh.keep ⟨id, fun _ => id⟩

/-- As long as the reply to a query is not overtaken, the cache of an idle handler holds what has
arrived last. -/
theorem cached_fresh (h : (threads L).Run Undisturbed t s) (hidle : s.thread = .idle)
    (hcached : s.handler.m_cache key = some message) : Fresh t key message := by
  have hcoherent : Coherent t s := by
    apply h.invariant
    · rintro s rfl
      constructor
      · trivial
      · rintro key reply ⟨next, hthread, -⟩
        contradiction
      · rintro key message ⟨⟩
    · exact fun t s a s' hcoherent ha hstep => hcoherent.step ha hstep
  rcases hcoherent.cached key message hcached with ⟨reply, next, hthread, -⟩ | hfresh
  · rw [hidle] at hthread
    contradiction
  · exact hfresh

end

/-! A request for the registration of the voice domain, which waits for its answer. -/

/-- A registration of the voice domain with this status. -/
def voiceRegistration (status : UInt8) : Message :=
  ⟨CMD_NET, NetGetNetworkRegistrationReply, (0 : UInt8), NetGetNetworkRegistrationReply.Voice, status,
    (0 : UInt8), (0 : UInt16), (0 : UInt32), (0 : UInt8), ()⟩

def registrationRequest : Request := ⟨RIL_REQUEST_VOICE_REGISTRATION_STATE, .null 0, 0⟩

/-- The handler as it is, with a registration in its cache. -/
def informed (handler : RequestHandler) (status : UInt8) : RequestHandler :=
  { handler with m_cache := handler.m_cache.put .voiceRegistration (voiceRegistration status) }

theorem informed_voice (handler : RequestHandler) (status : UInt8) :
    (informed handler status).m_cache .voiceRegistration = some (voiceRegistration status) := by
  change handler.m_cache.put .voiceRegistration (voiceRegistration status) .voiceRegistration = _
  exact MessageCache.put_self _

/-- It waits for the answer to its query, which is put into the cache as it comes. -/
theorem registration_asked : ∃ next : Rest,
    Step .android ⟨simReady, .idle, []⟩ (.begun registrationRequest)
      ⟨simReady, .waiting (CacheKey.query .voiceRegistration) next, []⟩ ∧
    ∀ (handler : RequestHandler) (status : UInt8), Step .android
      ⟨handler, .replied (CacheKey.query .voiceRegistration) (voiceRegistration status) next, []⟩
      .resumed ⟨informed handler status, .idle, []⟩ := by
  have hhandle : handle .android registrationRequest simReady =
      handleVoiceRegistrationState registrationRequest simReady :=
    handle_admitted .android (by decide) (handlerOf_static (i := 19) rfl (by
      simp only [constructorHandlers, List.forall_mem_cons]
      decide))
  obtain ⟨next, hwaits, hresumes⟩ : ∃ next : Rest,
      Trace (handle .android registrationRequest simReady) []
        (.call (.execute (CacheKey.query .voiceRegistration) simReady) next) ∧
      ∀ (handler : RequestHandler) (status : UInt8), ∃ response,
        Trace (next (handler, voiceRegistration status))
          [⟨.complete registrationRequest .SUCCESS response, ()⟩]
          (.done ((), informed handler status)) := by
    rw [hhandle]
    exact ⟨_, .nil _, fun _ _ => ⟨_, .cons (.nil _)⟩⟩
  refine ⟨next, .begun (.waits (by simp [Held]) hwaits), fun handler status => ?_⟩
  obtain ⟨response, hresumes⟩ := hresumes handler status
  exact .resumed (.ends (by simp [Held]) hresumes)

/-- The IMSI is told while the request thread has yet to take in the answer that has arrived for it. -/
theorem cached_registration_fresh :
    let imsi : Message := ⟨CMD_MISC, MiscGetMobileEquipImsiReply, (1 : UInt8), [49], ()⟩
    let run : List Action := [.notified pinReady, .begun registrationRequest,
      .replied (CacheKey.query .voiceRegistration) (voiceRegistration 1), .notified imsi, .resumed]
    Fresh run .voiceRegistration (voiceRegistration 1) ∧ Fresh run .imsi imsi := by
  intro imsi run
  let told : RequestHandler := { simReady with m_cache := simReady.m_cache.put .imsi imsi }
  obtain ⟨next, hasked, hresumed⟩ := registration_asked
  have hnews : Trace (notify .android imsi simReady) [] (.done ((), told)) := .nil _
  have hnone : ∀ (thread : Thread) (a : Action),
      (∀ message reply next, thread ≠ .replied message reply next) →
      ∀ key reply, Due thread key reply → ¬ Clears key a ∧ ∀ m, Arrives key m a → m = reply :=
    fun thread a hthread key reply ⟨next, hdue, _⟩ => absurd hdue (hthread _ _ _)
  have hstart : (threads .android).Run Undisturbed [] ⟨initial, .idle, []⟩ := .start rfl
  have hready := hstart.step (hnone .idle _ nofun) step_pinReady
  have hwaiting := hready.step (hnone .idle _ nofun) hasked
  have hreplied := hwaiting.step (hnone (.waiting _ next) _ nofun)
    (.replied : Step .android _ (.replied _ (voiceRegistration 1)) _)
  -- the news is for another key than the reply that is due
  have hapart : ∀ key reply,
      Due (.replied (CacheKey.query .voiceRegistration) (voiceRegistration 1) next) key reply →
        ¬ Clears key (.notified imsi) ∧ ∀ m, Arrives key m (.notified imsi) → m = reply := by
    rintro key reply ⟨next', hdue, -⟩
    obtain rfl : CacheKey.voiceRegistration = key := CacheKey.query_injective (Thread.replied.inj hdue).1
    have hmode : announcedMode imsi ≠ some PwrPhoneModeChanged.LPM := by decide
    have hkey : announcedKey imsi ≠ some .voiceRegistration := by decide
    exact ⟨hmode, fun m harrives => absurd harrives.2 hkey⟩
  have hnotified := hreplied.step hapart (.notified (by simp [Held]) hnews)
  have hended := hnotified.step (e := Action.resumed)
    (fun _ _ _ => ⟨id, fun _ harrives => False.elim harrives⟩) (hresumed told 1)
  have hkept : (informed told 1).m_cache .imsi = some imsi := by
    change (simReady.m_cache.put .imsi imsi).put .voiceRegistration (voiceRegistration 1) .imsi = _
    rw [MessageCache.put_of_ne _ (by decide), MessageCache.put_self]
  exact ⟨cached_fresh hended rfl (informed_voice told 1), cached_fresh hended rfl hkept⟩

/-- An answer that there is no network is overtaken by the news that there is one, and stays in the
cache. -/
theorem cached_reply_overtaken : ¬ ∀ L t s, (threads L).Run (fun _ _ _ => True) t s →
    s.thread = .idle → ∀ key message, s.handler.m_cache key = some message → Fresh t key message := by
  intro hall
  obtain ⟨next, hasked, hresumes⟩ := registration_asked
  have hnews : Trace (notify .android (voiceRegistration 2) simReady)
      [⟨.unsolicited .RESPONSE_VOICE_NETWORK_STATE_CHANGED .null, ()⟩]
      (.done ((), informed simReady 2)) := .cons (.nil _)
  have hstart : (threads .android).Run (fun _ _ _ => True) [] ⟨initial, .idle, []⟩ := .start rfl
  have hready := hstart.step trivial step_pinReady
  have hwaiting := hready.step trivial hasked
  have hreplied := hwaiting.step trivial
    (.replied : Step .android _ (.replied _ (voiceRegistration 1)) _)
  have hnotified := hreplied.step trivial (.notified (by simp [Held]) hnews)
  have hresumed := hnotified.step trivial (hresumes (informed simReady 2) 1)
  have hfresh := hall _ _ _ hresumed rfl .voiceRegistration (voiceRegistration 1)
    (informed_voice (informed simReady 2) 1)
  rcases Transitions.since_concat.mp hfresh with harrives | ⟨hbefore, -⟩
  · exact harrives
  rcases Transitions.since_concat.mp hbefore with ⟨hsame, -⟩ | ⟨-, hnone⟩
  · have hwire := congrArg (fun m : Message => m.definition.wire m.value) hsame
    revert hwire
    decide
  · exact hnone (.inr ⟨voiceRegistration 2, rfl, rfl⟩)

end RIL
end FreeRil
