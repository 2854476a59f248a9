import FreeRil.Compiler.Reading
import FreeRil.RequestHandler
import FreeRil.RIL.History

/-! What is followed of a handler on its way through a request: what it sends and completes, that its
messages agree with the protocol, and the state it leaves to others whenever it releases the mutex. -/
namespace FreeRil
open Messages RIL Program

namespace Message

/-- What is written for a message is read back, to the end and field by field. -/
def Agrees (m : Message) : Prop :=
  ∀ memory, m.definition.Fits memory m.value → ∃ out s,
    m.definition.writeToStream m.value (.init [] .Write) = (true, out) ∧
      m.definition.readFromStream memory (.init out.m_buffer .Read) = some (true, m.value, s) ∧
      s.atEnd = true

/-- The sizes decide it. -/
theorem agrees_iff_sized (m : Message) : m.Agrees ↔ m.definition.Sized m.value := by
  constructor
  · intro h
    obtain ⟨out, s, hwrite, hread, hend⟩ := h ⟨fun _ => 0, fun _ => true⟩
      (structure_fits_of_forall (fun _ => rfl) _ _)
    obtain rfl := (Prod.mk.inj ((m.definition.writeToStream_init m.value).symm.trans hwrite)).2
    exact (MessageDefinition.Accepted.sized ⟨s, hread, hend⟩ rfl).1
  · exact fun hsize memory hfits => m.definition.written_accepted m.value hsize hfits

end Message

namespace CacheKey
open Messages

/-- The message that is sent when nothing is cached under a key. -/
def query : CacheKey → Message
  | .plmnSelection => ⟨CMD_NET, NetGetPlmnSelection, ()⟩
  | .currentPlmn => ⟨CMD_NET, NetGetCurrentPlmn, ()⟩
  | .netMode => ⟨CMD_NET, NetGetModeSelect, ()⟩
  | .voiceRegistration =>
    ⟨CMD_NET, NetGetNetworkRegistration, (0xFF : UInt8), NetGetNetworkRegistration.Voice, ()⟩
  | .dataRegistration =>
    ⟨CMD_NET, NetGetNetworkRegistration, (0xFF : UInt8), NetGetNetworkRegistration.Data, ()⟩
  | .basebandVersion => ⟨CMD_MISC, MiscGetMobileEquipVersion, (0xFF : UInt8), ()⟩
  | .imei => ⟨CMD_MISC, MiscGetMobileEquipSerialNumber, (0x01 : UInt8), ()⟩
  | .imsi => ⟨CMD_MISC, MiscGetMobileEquipImsi, ()⟩

/-- The class of the messages that are cached under a key. -/
def reply : CacheKey → MessageGroup × MessageDefinition
  | .plmnSelection => (CMD_NET, NetGetPlmnSelectionReply)
  | .currentPlmn => (CMD_NET, NetGetCurrentPlmnReply)
  | .netMode => (CMD_NET, NetGetModeSelectReply)
  | .voiceRegistration | .dataRegistration => (CMD_NET, NetGetNetworkRegistrationReply)
  | .basebandVersion => (CMD_MISC, MiscGetMobileEquipVersionReply)
  | .imei => (CMD_MISC, MiscGetMobileEquipSerialNumberReply)
  | .imsi => (CMD_MISC, MiscGetMobileEquipImsiReply)

theorem query_injective : Function.Injective query := by
  intro key key' h
  have hwire := congrArg (fun m : Message => (m.definition.id, m.definition.wire m.value)) h
  revert hwire
  cases key <;> cases key' <;> decide

/-- A message that can be cached under a key. -/
def Accepts (key : CacheKey) (message : Message) : Prop :=
  message.command = key.reply.1.type ∧ message.subcommand = key.reply.2.type

end CacheKey

/-- The request that a completion function is given. -/
def Completion.request : Completion → Option Request
  | .handlePinStatusRefreshComplete => none
  | .handleRadioPowerSetModeComplete request | .handleQueryAvailableNetworksComplete request
  | .handleSetBandModeComplete request | .handleSetPreferredNetworkTypeComplete request
  | .setPLMNSelectionComplete request => some request

/-- What has been seen of a handler: what has left it, the state in which it last got the mutex, and
the message that it has waited for the answer to, with that. -/
structure Seen where
  history : List Outward
  locked : RequestHandler
  asked : Option (Message × Message)

namespace Seen

def record (s : Seen) : Event Call.Ret → Seen
  | ⟨.execute message _, answer⟩ =>
    ⟨s.history ++ [.sent message none], answer.1, some (message, answer.2)⟩
  | e => { s with history := s.history ++ e.op.outward.toList }

end Seen

/-- A condition on the state that is left to others, which concerns the cache and the state of the
radio alone. -/
structure Keeping where
  holds : Seen → RequestHandler → Prop
  steady : ∀ {s s' h h'}, s'.locked = s.locked → s'.asked = s.asked → h'.m_cache = h.m_cache →
    h'.m_radioState = h.m_radioState → holds s h → holds s' h'

namespace RequestHandler

/-- The messages agree with the protocol, if `C` holds, and the mutex is released as `E` wants. -/
def conduct (C : Prop) (E : Keeping) : Monitor Call.Ret Seen where
  record := Seen.record
  answers _ _ := True
  allowed s op :=
    (∀ message completion, op.outward = some (.sent message completion) → C → message.Agrees) ∧
      ∀ message handler, op = .execute message handler → E.holds s handler

/-- The answer to the query of a key is put into the cache, where it is of the right class, and the
state of the radio changes only for the answer to a query of the PIN and when the phone is off. -/
def effect : Keeping where
  holds s h :=
    (∀ key reply, s.asked = some (CacheKey.query key, reply) → key.Accepts reply →
      h.m_cache = s.locked.m_cache.put key reply) ∧
    ((∀ key reply, s.asked = some (CacheKey.query key, reply) → ¬ key.Accepts reply) →
      h.m_cache = s.locked.m_cache) ∧
    (h.m_radioState = s.locked.m_radioState ∨ h.m_radioState = .UNAVAILABLE ∨
      ∃ reply : Message, s.asked = some (⟨CMD_SEC, SecGetPinStatus, ()⟩, reply) ∧
        reply.command = CMD_SEC.type ∧ reply.subcommand = SecGetPinStatusReply.type)
  steady hlocked hasked hcache hradio h := by
    rw [hlocked, hasked, hcache, hradio]
    exact h

/-- What the code of a completion leaves, which never releases the mutex before its end. -/
def fixed (cache : MessageCache) (state : RIL_RadioState) : Keeping where
  holds _ h := h.m_cache = cache ∧ h.m_radioState = state
  steady _ _ hcache hradio h := by
    rw [hcache, hradio]
    exact h

/-- Messages have been sent, but nothing has been done for a request yet. -/
def Pending (s : List Outward) : Prop := ∀ o ∈ s, ∃ message, o = .sent message none

/-- The request is completed, or its completion is subscribed to. -/
def Answering (request : Request) : Outward → Prop
  | .completed completed _ _ => completed = request
  | .sent _ completion => completion.bind Completion.request = some request

/-- It is, and that is the last that has been done. -/
def Answered (request : Request) (s : List Outward) : Prop :=
  ∃ before o, s = before ++ [o] ∧ Pending before ∧ Answering request o

section
variable {α β : Type} {C : Prop} {E : Keeping} {request : Request}

/-- Code that leaves no trace in the history, and neither touches the cache nor the radio. -/
def Silent (p : Ril α) : Prop := ∀ C E h s, (conduct C E).SafeWith (fun _ h' s' => s' = s ∧
  h'.m_cache = h.m_cache ∧ h'.m_radioState = h.m_radioState) p h s

/-- Code after which nothing has been done for a request yet. -/
def Quiet (C : Prop) (E : Keeping) (p : Ril α) : Prop := ∀ h s, Pending s.history → E.holds s h →
  (conduct C E).SafeWith (fun _ h' s' => Pending s'.history ∧ E.holds s' h') p h s

/-- Code that completes a request, once. -/
def Completes (C : Prop) (E : Keeping) (request : Request) (p : Ril α) : Prop :=
  ∀ h s, Pending s.history → E.holds s h → (conduct C E).SafeWith (fun _ h' s' =>
    (∃ before e response, s'.history = before ++ [.completed request e response] ∧ Pending before) ∧
      E.holds s' h') p h s

/-- Code that completes a request or subscribes to its completion, once. -/
def Answers (C : Prop) (request : Request) (p : Ril α) : Prop :=
  ∀ h s, Pending s.history → effect.holds s h → (conduct C effect).SafeWith (fun _ h' s' =>
    Answered request s'.history ∧ effect.holds s' h') p h s

theorem pending_nil : Pending [] := by simp [Pending]

theorem Pending.sent {s : List Outward} (h : Pending s) (message : Message) :
    Pending (s ++ [.sent message none]) := by
  intro o ho
  rcases List.mem_append.mp ho with ho | ho
  · exact h o ho
  · exact ⟨message, List.mem_singleton.mp ho⟩

theorem record_of_outward_eq_none {s : Seen} {c : Call} (h : c.outward = none) (r : c.Ret) :
    s.record ⟨c, r⟩ = s := by
  cases c with
  | execute message handler => contradiction
  | submit message completion => contradiction
  | complete request e response => contradiction
  | _ => exact congrArg (Seen.mk · s.locked s.asked) (List.append_nil s.history)

theorem conduct_allowed {s : Seen} {c : Call} (h : c.outward = none) :
    (conduct C E).allowed s c := by
  constructor
  · intro message completion hsent
    rw [h] at hsent
    contradiction
  · rintro message handler rfl
    contradiction

theorem Inward.conduct {p : Ril α} {R : α → Prop} (hp : Inward p R) {h : RequestHandler} {s : Seen}
    {Q : α → RequestHandler → Seen → Prop} (hQ : ∀ a, R a → Q a h s) :
    (conduct C E).SafeWith Q p h s := by
  refine Monitor.safe_of_all (hp.all h) (fun c hc s => conduct_allowed hc) ?_ ?_
  · intro c hc s r
    exact record_of_outward_eq_none hc r
  · rintro ⟨a, h'⟩ hreturns
    obtain ⟨rfl, hR⟩ := hp.returns h a h' hreturns
    exact hQ a hR

theorem silent_of_inward {p : Ril α} {R : α → Prop} (hp : Inward p R) : Silent p :=
  fun _ _ _ _ => Inward.conduct hp fun _ _ => ⟨rfl, rfl, rfl⟩

theorem silent_pure {a : α} : Silent (pure a) := fun _ _ _ _ => ⟨rfl, rfl, rfl⟩

theorem silent_get : Silent get := fun _ _ _ _ => ⟨rfl, rfl, rfl⟩

theorem silent_modify {f : RequestHandler → RequestHandler} (hcache : ∀ h, (f h).m_cache = h.m_cache)
    (hradio : ∀ h, (f h).m_radioState = h.m_radioState) : Silent (modify f) :=
  fun _ _ h _ => ⟨rfl, hcache h, hradio h⟩

theorem Silent.bind {p : Ril α} {f : α → Ril β} (hp : Silent p) (hf : ∀ a, Silent (f a)) :
    Silent (p >>= f) := by
  intro C E h s
  apply Monitor.safeWith_bind.mpr ((hp C E h s).mono ?_)
  rintro a h' s' ⟨rfl, hcache, hradio⟩
  apply (hf a C E h' s').mono
  rintro b h'' s'' ⟨rfl, hcache', hradio'⟩
  exact ⟨rfl, hcache'.trans hcache, hradio'.trans hradio⟩

theorem Silent.quiet {p : Ril α} (hp : Silent p) : Quiet C E p := by
  intro h s hs hE
  apply (hp C E h s).mono
  rintro a h' s' ⟨rfl, hcache, hradio⟩
  exact ⟨hs, E.steady rfl rfl hcache hradio hE⟩

theorem Quiet.bind {p : Ril α} {f : α → Ril β} (hp : Quiet C E p) (hf : ∀ a, Quiet C E (f a)) :
    Quiet C E (p >>= f) := fun h s hs hE =>
  Monitor.safeWith_bind.mpr ((hp h s hs hE).mono fun a h' s' hs' => hf a h' s' hs'.1 hs'.2)

theorem Quiet.answers {p : Ril α} {f : α → Ril β} (hp : Quiet C effect p)
    (hf : ∀ a, Answers C request (f a)) : Answers C request (p >>= f) := fun h s hs hE =>
  Monitor.safeWith_bind.mpr ((hp h s hs hE).mono fun a h' s' hs' => hf a h' s' hs'.1 hs'.2)

theorem Quiet.completes {p : Ril α} {f : α → Ril β} (hp : Quiet C E p)
    (hf : ∀ a, Completes C E request (f a)) : Completes C E request (p >>= f) := fun h s hs hE =>
  Monitor.safeWith_bind.mpr ((hp h s hs hE).mono fun a h' s' hs' => hf a h' s' hs'.1 hs'.2)

theorem Completes.silently {p : Ril α} {f : α → Ril β} (hp : Completes C E request p)
    (hf : ∀ a, Silent (f a)) : Completes C E request (p >>= f) := by
  intro h s hs hE
  apply Monitor.safeWith_bind.mpr ((hp h s hs hE).mono ?_)
  rintro a h' s' ⟨hcompleted, hE'⟩
  apply (hf a C E h' s').mono
  rintro b h'' s'' ⟨rfl, hcache, hradio⟩
  exact ⟨hcompleted, E.steady rfl rfl hcache hradio hE'⟩

/-- What completes a request answers it. -/
theorem Completes.answers {p : Ril α} (hp : Completes C effect request p) : Answers C request p := by
  intro h s hs hE
  apply (hp h s hs hE).mono
  rintro a h' s' ⟨⟨before, e, response, hhistory, hbefore⟩, hE'⟩
  exact ⟨⟨before, _, hhistory, hbefore, rfl⟩, hE'⟩

theorem answers_inward_of {p : Ril α} {R : α → Prop} {f : α → Ril β} (hp : Inward p R)
    (hf : ∀ a, R a → Answers C request (f a)) : Answers C request (p >>= f) := fun h s hs hE =>
  Monitor.safeWith_bind.mpr (Inward.conduct hp fun a ha => hf a ha h s hs hE)

theorem answers_inward {p : Ril α} {R : α → Prop} {f : α → Ril β} (hp : Inward p R)
    (hf : ∀ a, Answers C request (f a)) : Answers C request (p >>= f) :=
  (silent_of_inward hp).quiet.answers hf

theorem complete_conduct {e : RIL_Errno} {response : Response} {h : RequestHandler} {s : Seen}
    {Q : Unit → RequestHandler → Seen → Prop}
    (hQ : Q () h ⟨s.history ++ [.completed request e response], s.locked, s.asked⟩) :
    (conduct C E).SafeWith Q (complete request e response) h s := by
  refine And.intro ⟨?_, ?_⟩ fun _ _ => hQ
  · rintro message completion ⟨⟩
  · rintro message handler ⟨⟩

theorem completes_complete (e : RIL_Errno) (response : Response) :
    Completes C E request (complete request e response) := fun _ s hs hE =>
  complete_conduct ⟨⟨s.history, e, response, rfl, hs⟩, E.steady (s := s) rfl rfl rfl rfl hE⟩

theorem answers_complete (e : RIL_Errno) (response : Response) :
    Answers C request (complete request e response) := (completes_complete e response).answers

theorem answers_fault (f : RIL.Fault) : Answers C request (fault f : Ril α) :=
  fun _ _ _ _ => Inward.conduct (inward_fault (R := fun _ => False)) fun _ h => h.elim

theorem answers_submitSubscribed {message : Message} (hagrees : C → message.Agrees)
    {completion : Completion} (hcompletion : completion.request = some request) :
    Answers C request (submitSubscribed message completion) := by
  intro h s hs hE
  refine And.intro ⟨?_, ?_⟩ fun _ _ => And.intro ⟨s.history, _, rfl, hs, hcompletion⟩
    (effect.steady (s := s) (h := h) rfl rfl rfl rfl hE)
  · rintro message completion ⟨⟩
    exact hagrees
  · rintro message handler ⟨⟩

/-- A message that agrees with the protocol, and whose answer is not kept. -/
structure Plain (C : Prop) (message : Message) : Prop where
  agrees : C → message.Agrees
  not_query : ∀ key, message ≠ CacheKey.query key

theorem execute_conduct {message : Message} {h : RequestHandler} {s : Seen}
    {Q : Message → RequestHandler → Seen → Prop} (hagrees : C → message.Agrees) (hE : E.holds s h)
    (hQ : ∀ reply locked, Q reply locked
      ⟨s.history ++ [.sent message none], locked, some (message, reply)⟩) :
    (conduct C E).SafeWith Q (execute message) h s := by
  refine And.intro ⟨?_, ?_⟩ fun r _ => hQ r.2 r.1
  · rintro message completion ⟨⟩
    exact hagrees
  · rintro message handler ⟨⟩
    exact hE

theorem effect_locked {history : List Outward} {locked : RequestHandler} {message reply : Message}
    (h : ∀ key, message ≠ CacheKey.query key) :
    effect.holds ⟨history, locked, some (message, reply)⟩ locked := by
  refine ⟨?_, fun _ => rfl, .inl rfl⟩
  rintro key reply hasked -
  exact absurd (Prod.mk.inj (Option.some.inj hasked)).1 (h key)

theorem quiet_execute {message : Message} (hmessage : Plain C message) :
    Quiet C effect (execute message) := fun _ _ hs hE =>
  execute_conduct hmessage.agrees hE fun _ _ => ⟨hs.sent message, effect_locked hmessage.not_query⟩

/-- A message of a fixed size that is not the query of a key. -/
def ordinary (definition : MessageDefinition) : Bool :=
  definition.fields.all Field.isFixed && notQuery definition
where
  /-- It has another name than all queries. -/
  notQuery (definition : MessageDefinition) : Bool :=
    [CacheKey.plmnSelection, .currentPlmn, .netMode, .voiceRegistration, .dataRegistration,
      .basebandVersion, .imei, .imsi].all fun key => key.query.definition.id != definition.id

theorem plain_of_sized {group : MessageGroup} {definition : MessageDefinition}
    {value : Struct definition.fields} (hsized : C → definition.Sized value)
    (hquery : ordinary.notQuery definition = true) : Plain C ⟨group, definition, value⟩ where
  agrees hC := (Message.agrees_iff_sized _).mpr (hsized hC)
  not_query key h := by
    have hid := List.all_eq_true.mp hquery key (by cases key <;> decide)
    rw [← h] at hid
    simp at hid

theorem plain_of_ordinary {group : MessageGroup} {definition : MessageDefinition}
    {value : Struct definition.fields} (h : ordinary definition = true) :
    Plain C ⟨group, definition, value⟩ :=
  plain_of_sized (fun _ => sizedStructure_of_fixed (Bool.and_eq_true_iff.mp h).1 [] value 0)
    (Bool.and_eq_true_iff.mp h).2

/-- The history that is seen is what leaves the handler. -/
theorem seen_history (s : Seen) (t : List (Event Call.Ret)) :
    ((conduct C E).after s t).history = s.history ++ outward t := by
  induction t generalizing s with
  | nil => simp [outward]
  | cons e t ih =>
    have hrecord : (s.record e).history = s.history ++ e.op.outward.toList := by
      obtain ⟨c, r⟩ := e
      cases c with
      | execute message handler => rfl
      | _ => rfl
    rw [Monitor.after_cons, ih, conduct, hrecord, List.append_assoc, outward, outward,
      List.filterMap_cons]
    cases e.op.outward <;> simp

/-- What code is shown to end with, it ends with. -/
theorem ended {p : Ril α} {h h' : RequestHandler} {a : α} {s : Seen} {t : List (Event Call.Ret)}
    {Q : α → RequestHandler → Seen → Prop} (hsafe : (conduct C E).SafeWith Q p h s)
    (ht : Trace (p h) t (.done (a, h'))) : Q a h' ((conduct C E).after s t) :=
  (Monitor.Safe.trace hsafe ht fun _ _ _ _ => trivial).2

/-- Before anything has been asked for, the state is as it was found. -/
theorem effect_start (history : List Outward) (handler : RequestHandler) :
    effect.holds ⟨history, handler, none⟩ handler := by
  refine ⟨?_, fun _ => rfl, .inl rfl⟩
  rintro key reply ⟨⟩

/-- The state of the radio is set, and nothing leaves the handler. -/
theorem setRadioState_conduct {state : RIL_RadioState} {h : RequestHandler} {s : Seen} :
    (conduct C E).SafeWith (fun _ h' s' => s' = s ∧ h'.m_cache = h.m_cache ∧
      h'.m_radioState = state) (setRadioState state) h s := by
  apply Monitor.safeWith_bind.mpr
  apply Monitor.safeWith_get.mpr
  by_cases hstate : state ≠ h.m_radioState
  · rw [if_pos hstate]
    exact And.intro (conduct_allowed rfl) fun r _ => And.intro (record_of_outward_eq_none
      (c := .unsolicited .RESPONSE_RADIO_STATE_CHANGED .null) rfl r) ⟨rfl, rfl⟩
  · rw [if_neg hstate]
    exact ⟨rfl, rfl, (not_not.mp hstate).symm⟩

end
end RequestHandler
end FreeRil
