import FreeRil.RequestHandler.Conduct

/-! What the worker thread does to the cache and to the state of the radio: with each notification,
and with the answer to a refresh of the PIN. -/
namespace FreeRil
open Messages RIL Program

namespace Message

/-- The message is delivered as one of a class. -/
def Is (m : Message) (group : MessageGroup) (definition : MessageDefinition) : Prop :=
  group.id = m.group.id ∧ definition.id = m.definition.id

instance (m : Message) (group : MessageGroup) (definition : MessageDefinition) :
    Decidable (m.Is group definition) := by
  unfold Is
  infer_instance

/-- The members of a message that is delivered as one of a class. -/
def members (m : Message) (group : MessageGroup) (definition : MessageDefinition) :
    Option (Struct definition.fields) :=
  if m.Is group definition then m.static_cast definition else none

section
variable {m : Message} {group other : MessageGroup} {definition different : MessageDefinition}

theorem Is.not_is (h : m.Is group definition)
    (hne : (group.id, definition.id) ≠ (other.id, different.id)) : ¬ m.Is other different := fun h' =>
  hne (Prod.ext (h.1.trans h'.1.symm) (h.2.trans h'.2.symm))

theorem members_of_is (h : m.Is group definition) :
    m.members group definition = m.static_cast definition := if_pos h

theorem members_of_not_is (h : ¬ m.Is group definition) : m.members group definition = none :=
  if_neg h

end
end Message

namespace RequestHandler

/-- The mode that the modem announces. -/
def announcedMode (message : Message) : Option UInt8 :=
  (message.members CMD_PWR PwrPhoneModeChanged).map fun (mode, ()) => mode

/-- The state of the PIN that it announces. -/
def announcedPin (message : Message) : Option UInt8 :=
  (message.members CMD_SEC SecGetPinStatusReply).map fun (state, _, ()) => state

/-- The key of a service domain. -/
def domainKey (serviceDomain : UInt8) : Option CacheKey :=
  if serviceDomain = NetGetNetworkRegistrationReply.Voice then some .voiceRegistration
  else if serviceDomain = NetGetNetworkRegistrationReply.Data then some .dataRegistration
  else none

/-- The key that a notification is news for. -/
def announcedKey (message : Message) : Option CacheKey :=
  if message.Is CMD_NET NetGetCurrentPlmnReply then some .currentPlmn
  else if message.Is CMD_MISC MiscGetMobileEquipImsiReply then some .imsi
  else (message.members CMD_NET NetGetNetworkRegistrationReply).bind fun (_, serviceDomain, _) =>
    domainKey serviceDomain

/-- The cache after a notification. -/
def cacheAfter (message : Message) (cache : MessageCache) : MessageCache :=
  if announcedMode message = some PwrPhoneModeChanged.LPM then cache.flush
  else match announcedKey message with
    | some key => cache.put key message
    | none => cache

/-- The state of the radio after news of the PIN, if there are any. -/
def radioOfPin (pin : Option UInt8) (state : RIL_RadioState) : RIL_RadioState :=
  match pin with
  | some pin => handleSecGetPinStatusReply.pinState pin
  | none => state

/-- The state of the radio after a notification. -/
def radioAfter (message : Message) (state : RIL_RadioState) : RIL_RadioState :=
  if message.Is CMD_PWR PwrPhoneBootComplete ∨
      announcedMode message = some PwrPhoneModeChanged.LPM then .OFF
  else radioOfPin (announcedPin message) state

/-- The state of the PIN in the answer to a query of it. -/
def answeredPin (reply : Message) : Option UInt8 :=
  if reply.command = CMD_SEC.type ∧ reply.subcommand = SecGetPinStatusReply.type then
    (reply.static_cast SecGetPinStatusReply).map fun (state, _, ()) => state
  else none

/-- Code that does this to the cache and to the state of the radio, and does not wait. -/
def Leaves (p : Ril Unit) (cache : MessageCache → MessageCache)
    (radio : RIL_RadioState → RIL_RadioState) : Prop :=
  ∀ E h s, (conduct False E).SafeWith (fun _ h' _ => h'.m_cache = cache h.m_cache ∧
    h'.m_radioState = radio h.m_radioState) p h s

section
variable {p : Ril Unit} {cache cache' : MessageCache → MessageCache}
  {radio radio' : RIL_RadioState → RIL_RadioState}

theorem Silent.leaves (hp : Silent p) : Leaves p id id := by
  intro E h s
  apply (hp False E h s).mono
  rintro a h' s' ⟨rfl, hcache, hradio⟩
  exact ⟨hcache, hradio⟩

theorem Leaves.bind {f : Unit → Ril Unit} (hp : Leaves p cache radio)
    (hf : ∀ a, Leaves (f a) cache' radio') : Leaves (p >>= f) (cache' ∘ cache) (radio' ∘ radio) := by
  intro E h s
  apply Monitor.safeWith_bind.mpr ((hp E h s).mono ?_)
  rintro ⟨⟩ h' s' ⟨hcache, hradio⟩
  apply (hf () E h' s').mono
  rintro ⟨⟩ h'' s'' ⟨hcache', hradio'⟩
  rw [Function.comp_apply, Function.comp_apply, ← hcache, ← hradio]
  exact ⟨hcache', hradio'⟩

theorem leaves_setRadioState (state : RIL_RadioState) :
    Leaves (setRadioState state) id fun _ => state := by
  intro E h s
  apply setRadioState_conduct.mono
  rintro a h' s' ⟨rfl, hcache, hradio⟩
  exact ⟨hcache, hradio⟩

theorem leaves_modifyCache (f : MessageCache → MessageCache) : Leaves (modifyCache f) f id :=
  fun _ _ _ => ⟨rfl, rfl⟩

theorem leaves_submitting {message : Message} {completion : Option Completion} :
    Leaves (call (.submit message completion)) id id := by
  intro E h s
  refine And.intro ⟨?_, ?_⟩ fun _ _ => ⟨rfl, rfl⟩
  · rintro message completion -
    exact False.elim
  · rintro message handler ⟨⟩

theorem leaves_unsolicited (code : RIL_Unsol) (data : Response) :
    Leaves (unsolicited code data) id id := (silent_of_inward (inward_call rfl)).leaves

end
section
variable {message : Message} {group : MessageGroup} {definition : MessageDefinition}

theorem announcedMode_eq_none (h : ¬ message.Is CMD_PWR PwrPhoneModeChanged) :
    announcedMode message = none := by
  rw [announcedMode, Message.members_of_not_is h, Option.map_none]

theorem announcedPin_eq_none (h : ¬ message.Is CMD_SEC SecGetPinStatusReply) :
    announcedPin message = none := by
  rw [announcedPin, Message.members_of_not_is h, Option.map_none]

theorem cacheAfter_of_mode_none (h : announcedMode message = none) :
    cacheAfter message = fun cache => match announcedKey message with
      | some key => cache.put key message
      | none => cache := by
  funext cache
  rw [cacheAfter, h]
  rfl

theorem cacheAfter_of_lpm (h : announcedMode message = some PwrPhoneModeChanged.LPM) :
    cacheAfter message = (·.flush) := by
  funext cache
  exact if_pos h

theorem cacheAfter_of_key (hmode : ¬ message.Is CMD_PWR PwrPhoneModeChanged) {key : CacheKey}
    (hkey : announcedKey message = some key) : cacheAfter message = (·.put key message) := by
  rw [cacheAfter_of_mode_none (announcedMode_eq_none hmode), hkey]

theorem cacheAfter_eq_id (hmode : announcedMode message ≠ some PwrPhoneModeChanged.LPM)
    (hplmn : ¬ message.Is CMD_NET NetGetCurrentPlmnReply)
    (himsi : ¬ message.Is CMD_MISC MiscGetMobileEquipImsiReply)
    (hregistration : ¬ message.Is CMD_NET NetGetNetworkRegistrationReply) :
    cacheAfter message = id := by
  have hkey : announcedKey message = none := by
    rw [announcedKey, if_neg hplmn, if_neg himsi, Message.members_of_not_is hregistration,
      Option.bind_none]
  funext cache
  rw [cacheAfter, if_neg hmode, hkey]
  rfl

theorem radioAfter_of_off (h : message.Is CMD_PWR PwrPhoneBootComplete ∨
      announcedMode message = some PwrPhoneModeChanged.LPM) :
    radioAfter message = fun _ => .OFF := by
  funext state
  exact if_pos h

theorem radioAfter_of_not_off (hboot : ¬ message.Is CMD_PWR PwrPhoneBootComplete)
    (hmode : announcedMode message ≠ some PwrPhoneModeChanged.LPM) :
    radioAfter message = radioOfPin (announcedPin message) := by
  funext state
  exact if_neg (not_or.mpr ⟨hboot, hmode⟩)

theorem radioAfter_eq_id (hboot : ¬ message.Is CMD_PWR PwrPhoneBootComplete)
    (hmode : announcedMode message ≠ some PwrPhoneModeChanged.LPM)
    (hpin : ¬ message.Is CMD_SEC SecGetPinStatusReply) : radioAfter message = id := by
  rw [radioAfter_of_not_off hboot hmode, announcedPin_eq_none hpin]
  rfl

theorem not_lpm (h : ¬ message.Is CMD_PWR PwrPhoneModeChanged) :
    announcedMode message ≠ some PwrPhoneModeChanged.LPM := by
  rw [announcedMode_eq_none h]
  simp

/-- A message of none of the classes that matter to the cache or to the radio. -/
structure Unconcerned (message : Message) : Prop where
  boot : ¬ message.Is CMD_PWR PwrPhoneBootComplete
  mode : ¬ message.Is CMD_PWR PwrPhoneModeChanged
  pin : ¬ message.Is CMD_SEC SecGetPinStatusReply
  plmn : ¬ message.Is CMD_NET NetGetCurrentPlmnReply
  imsi : ¬ message.Is CMD_MISC MiscGetMobileEquipImsiReply
  registration : ¬ message.Is CMD_NET NetGetNetworkRegistrationReply

theorem Unconcerned.leaves (h : Unconcerned message) {p : Ril Unit} (hp : Silent p) :
    Leaves p (cacheAfter message) (radioAfter message) := by
  rw [cacheAfter_eq_id (not_lpm h.mode) h.plmn h.imsi h.registration,
    radioAfter_eq_id h.boot (not_lpm h.mode) h.pin]
  exact hp.leaves

theorem Silent.leaves_unconcerned {p : Ril Unit} (hp : Silent p) (h : message.Is group definition)
    (hne : [(CMD_PWR.id, PwrPhoneBootComplete.id), (CMD_PWR.id, PwrPhoneModeChanged.id),
      (CMD_SEC.id, SecGetPinStatusReply.id), (CMD_NET.id, NetGetCurrentPlmnReply.id),
      (CMD_MISC.id, MiscGetMobileEquipImsiReply.id),
      (CMD_NET.id, NetGetNetworkRegistrationReply.id)].all
        (fun other => (group.id, definition.id) != other) = true) :
    Leaves p (cacheAfter message) (radioAfter message) := by
  simp only [List.all_cons, List.all_nil, Bool.and_true, Bool.and_eq_true, bne_iff_ne] at hne
  obtain ⟨hboot, hmode, hpin, hplmn, himsi, hregistration⟩ := hne
  exact Unconcerned.leaves ⟨h.not_is hboot, h.not_is hmode, h.not_is hpin, h.not_is hplmn,
    h.not_is himsi, h.not_is hregistration⟩ hp

end

/-! The notifications. -/
section
variable {message : Message}

theorem leaves_handlePwrPhoneBootComplete (h : message.Is CMD_PWR PwrPhoneBootComplete) :
    Leaves handlePwrPhoneBootComplete (cacheAfter message) (radioAfter message) := by
  have hmode := not_lpm (h.not_is (by decide))
  rw [cacheAfter_eq_id hmode (h.not_is (by decide)) (h.not_is (by decide)) (h.not_is (by decide)),
    radioAfter_of_off (.inl h)]
  exact leaves_submitting.bind fun _ => leaves_setRadioState .OFF

theorem leaves_handlePwrPhoneModeChanged (h : message.Is CMD_PWR PwrPhoneModeChanged)
    {value : Struct PwrPhoneModeChanged.fields}
    (hvalue : message.static_cast PwrPhoneModeChanged = some value) :
    Leaves (handlePwrPhoneModeChanged value) (cacheAfter message) (radioAfter message) := by
  obtain ⟨mode, ⟨⟩⟩ := value
  have hmode : announcedMode message = some mode := by
    rw [announcedMode, Message.members_of_is h, hvalue]
    rfl
  by_cases hlpm : mode = PwrPhoneModeChanged.LPM
  · subst hlpm
    rw [cacheAfter_of_lpm hmode, radioAfter_of_off (.inr hmode)]
    exact (leaves_setRadioState .OFF).bind fun _ => leaves_modifyCache (·.flush)
  · have hnot : announcedMode message ≠ some PwrPhoneModeChanged.LPM := by
      rw [hmode]
      exact fun h => hlpm (Option.some.inj h)
    rw [cacheAfter_eq_id hnot (h.not_is (by decide)) (h.not_is (by decide)) (h.not_is (by decide)),
      radioAfter_eq_id (h.not_is (by decide)) hnot (h.not_is (by decide))]
    by_cases hnormal : mode = PwrPhoneModeChanged.Normal
    · subst hnormal
      exact leaves_submitting
    · have hnothing : handlePwrPhoneModeChanged ((mode, ()) : Struct PwrPhoneModeChanged.fields) =
          pure () := (if_neg hnormal).trans (if_neg hlpm)
      rw [hnothing]
      exact silent_pure.leaves

theorem leaves_handleMiscGetMobileEquipImsiReply
    (h : message.Is CMD_MISC MiscGetMobileEquipImsiReply) :
    Leaves (handleMiscGetMobileEquipImsiReply message) (cacheAfter message)
      (radioAfter message) := by
  have hkey : announcedKey message = some .imsi :=
    (if_neg (h.not_is (by decide))).trans (if_pos h)
  rw [cacheAfter_of_key (h.not_is (by decide)) hkey,
    radioAfter_eq_id (h.not_is (by decide)) (not_lpm (h.not_is (by decide))) (h.not_is (by decide))]
  exact leaves_modifyCache (·.put .imsi message)

theorem leaves_handleSecGetPinStatusReply (h : message.Is CMD_SEC SecGetPinStatusReply)
    {value : Struct SecGetPinStatusReply.fields}
    (hvalue : message.static_cast SecGetPinStatusReply = some value) :
    Leaves (handleSecGetPinStatusReply value) (cacheAfter message) (radioAfter message) := by
  obtain ⟨pin, xstate, ⟨⟩⟩ := value
  have hmode := not_lpm (h.not_is (by decide))
  have hpin : announcedPin message = some pin := by
    rw [announcedPin, Message.members_of_is h, hvalue]
    rfl
  rw [cacheAfter_eq_id hmode (h.not_is (by decide)) (h.not_is (by decide)) (h.not_is (by decide)),
    radioAfter_of_not_off (h.not_is (by decide)) hmode, hpin]
  exact leaves_setRadioState _

theorem leaves_handleNetGetCurrentPlmnReply (h : message.Is CMD_NET NetGetCurrentPlmnReply) :
    Leaves (handleNetGetCurrentPlmnReply message) (cacheAfter message) (radioAfter message) := by
  have hkey : announcedKey message = some .currentPlmn := if_pos h
  rw [cacheAfter_of_key (h.not_is (by decide)) hkey,
    radioAfter_eq_id (h.not_is (by decide)) (not_lpm (h.not_is (by decide))) (h.not_is (by decide))]
  exact (leaves_modifyCache (·.put .currentPlmn message)).bind fun _ => leaves_unsolicited _ _

theorem leaves_putRegistration (serviceDomain : UInt8) :
    Leaves (handleNetGetNetworkRegistrationReply.putRegistration message serviceDomain)
      (fun cache => match domainKey serviceDomain with
        | some key => cache.put key message
        | none => cache) id := by
  unfold handleNetGetNetworkRegistrationReply.putRegistration domainKey
  by_cases hvoice : serviceDomain = NetGetNetworkRegistrationReply.Voice
  · rw [if_pos hvoice, if_pos hvoice]
    exact (leaves_modifyCache (·.put .voiceRegistration message)).bind fun _ =>
      leaves_unsolicited _ _
  · rw [if_neg hvoice, if_neg hvoice]
    by_cases hdata : serviceDomain = NetGetNetworkRegistrationReply.Data
    · rw [if_pos hdata, if_pos hdata]
      exact leaves_modifyCache (·.put .dataRegistration message)
    · rw [if_neg hdata, if_neg hdata]
      exact silent_pure.leaves

theorem leaves_handleNetGetNetworkRegistrationReply
    (h : message.Is CMD_NET NetGetNetworkRegistrationReply)
    {value : Struct NetGetNetworkRegistrationReply.fields}
    (hvalue : message.static_cast NetGetNetworkRegistrationReply = some value) :
    Leaves (handleNetGetNetworkRegistrationReply message value) (cacheAfter message)
      (radioAfter message) := by
  obtain ⟨act, serviceDomain, rest⟩ := value
  have hkey : announcedKey message = domainKey serviceDomain := by
    rw [announcedKey, if_neg (h.not_is (by decide)), if_neg (h.not_is (by decide)),
      Message.members_of_is h, hvalue]
    rfl
  rw [cacheAfter_of_mode_none (announcedMode_eq_none (h.not_is (by decide))), hkey,
    radioAfter_eq_id (h.not_is (by decide)) (not_lpm (h.not_is (by decide))) (h.not_is (by decide))]
  exact leaves_putRegistration serviceDomain

end
section
variable (L : ParcelLibrary) {message : Message}

theorem leaves_fault {f : RIL.Fault} {cache : MessageCache → MessageCache}
    {radio : RIL_RadioState → RIL_RadioState} : Leaves (fault f) cache radio := fun _ _ _ =>
  Inward.conduct (inward_fault (R := fun _ => False)) fun _ h => h.elim

/-- Nothing comes after the end of the process. -/
theorem leaves_handlePwrPhoneReset {cache : MessageCache → MessageCache}
    {radio : RIL_RadioState → RIL_RadioState} : Leaves handlePwrPhoneReset cache radio :=
  fun _ _ _ => And.intro (conduct_allowed rfl) fun r => r.elim

theorem silent_notifyIcon (icon value : UInt8) :
    Silent (handleDispGetIconInformationReply.notifyIcon icon value) := by
  unfold handleDispGetIconInformationReply.notifyIcon
  split_ifs
  · exact (silent_modify (fun _ => rfl) fun _ => rfl).bind fun _ =>
      silent_of_inward (inward_call rfl)
  · exact silent_pure

theorem silent_handleDispRssiInformation : Silent handleDispRssiInformation := by
  apply silent_get.bind
  intro handler
  dsimp only
  split_ifs
  · exact silent_of_inward (inward_call rfl)
  · exact silent_pure

theorem silent_loadLines (lines : List LinesItem) (count i : ℕ) :
    Silent (loadLines lines count i) := by
  induction count generalizing i with
  | zero => exact silent_pure
  | succ count ih =>
    apply (silent_of_inward (inward_readItem lines i)).bind
    intro item
    exact (ih (i + 1)).bind fun _ => silent_pure

theorem silent_displayLines (lineCount : ℕ) (lines : List LinesItem) :
    Silent (displayLines L lineCount lines) := by
  unfold displayLines
  split_ifs
  · exact silent_of_inward (inward_call rfl)
  · have hunmarked : Silent (unmarked lines lineCount) := by
      unfold unmarked
      split_ifs
      · exact (silent_of_inward (inward_readItem lines 0)).bind fun _ => silent_pure
      · exact silent_pure
    apply hunmarked.bind
    intro shown
    split_ifs
    · exact (silent_loadLines lines lineCount 0).bind fun _ => silent_of_inward (inward_call rfl)
    · exact silent_pure

/-- Each overload does to the cache and to the radio what its message says. -/
theorem leaves_notification : ∀ n ∈ notifications L, message.Is n.group n.definition →
    ∀ value, message.static_cast n.definition = some value →
      Leaves (n.handle message value) (cacheAfter message) (radioAfter message) := by
  simp only [notifications, List.forall_mem_cons, List.not_mem_nil, false_imp_iff, implies_true,
    and_true]
  exact ⟨fun h _ _ => leaves_handlePwrPhoneBootComplete h,
    fun h _ _ => silent_pure.leaves_unconcerned h (by decide),
    fun h _ _ => leaves_handlePwrPhoneReset,
    fun h _ hvalue => leaves_handlePwrPhoneModeChanged h hvalue,
    fun h _ _ => leaves_handleMiscGetMobileEquipImsiReply h,
    fun h _ hvalue => leaves_handleSecGetPinStatusReply h hvalue,
    fun h _ _ => silent_pure.leaves_unconcerned h (by decide),
    fun h _ _ => leaves_handleNetGetCurrentPlmnReply h,
    fun h _ hvalue => leaves_handleNetGetNetworkRegistrationReply h hvalue,
    fun h _ _ => (silent_notifyIcon _ _).leaves_unconcerned h (by decide),
    fun h _ _ => silent_handleDispRssiInformation.leaves_unconcerned h (by decide),
    fun h _ _ => ((silent_of_inward (inward_call rfl)).bind fun _ =>
      silent_of_inward (inward_call rfl)).leaves_unconcerned h (by decide),
    fun h _ _ => ((silent_modify (fun _ => rfl) fun _ => rfl).bind fun _ =>
      silent_of_inward (inward_call rfl)).leaves_unconcerned h (by decide),
    fun h _ _ => (silent_displayLines L _ _).leaves_unconcerned h (by decide)⟩

theorem notify_leaves (message : Message) :
    Leaves (notify L message) (cacheAfter message) (radioAfter message) := by
  unfold notify
  split
  · rename_i hnone
    have hnot : ∀ n ∈ notifications L, ¬ message.Is n.group n.definition := by
      intro n hn
      simpa [Message.Is] using List.find?_eq_none.mp hnone n hn
    simp only [notifications, List.forall_mem_cons, List.not_mem_nil, false_imp_iff, implies_true,
      and_true] at hnot
    obtain ⟨hboot, -, -, hmode, himsi, hpin, -, hplmn, hregistration, -⟩ := hnot
    exact Unconcerned.leaves ⟨hboot, hmode, hpin, hplmn, himsi, hregistration⟩ silent_pure
  · rename_i n hfind
    have his : message.Is n.group n.definition := by simpa [Message.Is] using List.find?_some hfind
    split
    · exact leaves_fault
    · rename_i value hvalue
      exact leaves_notification L n (List.mem_of_find?_eq_some hfind) his value hvalue

theorem leaves_handlePinStatusRefreshComplete (reply : Message) :
    Leaves (handlePinStatusRefreshComplete reply) id (radioOfPin (answeredPin reply)) := by
  unfold handlePinStatusRefreshComplete answeredPin
  by_cases h : reply.command = CMD_SEC.type ∧ reply.subcommand = SecGetPinStatusReply.type
  · rw [message_cast_accepted h, if_pos h]
    cases reply.static_cast SecGetPinStatusReply with
    | none =>
      intro E handler s
      apply Monitor.safeWith_bind.mpr
      exact Inward.conduct (inward_fault (R := fun _ => False)) fun _ h => h.elim
    | some value => exact leaves_setRadioState _
  · rw [message_cast_refused h, if_neg h]
    exact silent_pure.leaves

end
end RequestHandler
end FreeRil
