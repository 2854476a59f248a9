import FreeRil.IPCSocketHandler.Step

/-! What becomes of the pool once every sequence number is in use. -/
namespace FreeRil.IPCSocketHandler

/-- The messages a step puts on the wire. -/
def transmitted (as : List Action) : List Message :=
  as.filterMap fun
    | .send _ _ message => some message
    | _ => none

/-- While a number is free, the iterator stands at one and no message waits. -/
def Ready (s : IPCSocketHandler) : Prop :=
  s.m_freeSequenceNumbers.Nonempty →
    s.m_allocationIterator.Designates s.m_freeSequenceNumbers ∧ s.m_messageQueue = []

/-- The queue takes what is submitted while no number is free, and gives its oldest message to
the wire for each number given back. -/
def Queues (p : Protocol) (s : IPCSocketHandler) (e : Event) (as : List Action)
    (s' : IPCSocketHandler) : Prop :=
  match e with
  | .submit m =>
    if s.m_freeSequenceNumbers = ∅ then
      transmitted as = [] ∧ s'.m_messageQueue = s.m_messageQueue ++ [m]
    else transmitted as <+: [m] ∧ s'.m_messageQueue = s.m_messageQueue
  | .frame header data memory =>
    (Answers p s (.frame header data memory) → transmitted as = s.m_messageQueue.take 1 ∧
      s'.m_messageQueue = s.m_messageQueue.drop 1) ∧
    (¬ Answers p s (.frame header data memory) → transmitted as = [] ∧
      s'.m_messageQueue = s.m_messageQueue)

/-- The pool and the queue work along a whole history. -/
structure Orderly (p : Protocol) (t : List (Event × List Action)) : Prop where
  ready : ∀ t₁ s, t₁ <+: t → (machine p).Run t₁ s → Ready s
  submits : ∀ t₁ s m, t₁ <+: t → (machine p).Run t₁ s → submit s m ≠ .error .iterator
  queues : ∀ t₁ e as s s', t₁ ++ [(e, as)] <+: t → (machine p).Run t₁ s →
    (machine p).step s e = .ok (s', as) → Queues p s e as s'

/-- No request is answered while all numbers are in use. -/
def NeverExhausted (p : Protocol) : List (Event × List Action) → Prop :=
  (machine p).Each fun _ s x => s.m_freeSequenceNumbers = ∅ → ¬ Answers p s x.1

section
variable {p : Protocol} {s s' : IPCSocketHandler} {m : Message} {as : List Action} {e : Event}
  {header : Header} {data : Bytes} {memory : Memory} {t : List (Event × List Action)}

/-- With every number in use the iterator stands at an erased element. -/
theorem Consistent.exhausted (h : Consistent s) (hfree : s.m_freeSequenceNumbers = ∅) :
    s.m_allocationIterator = .dangling := by
  rcases h.iterator with ⟨a, ha, -⟩ | hd
  · simp [hfree] at ha
  · exact hd

theorem init_ready : Ready init := fun _ => ⟨init_iterator, by simp only [init]⟩

theorem Ready.submits (hc : Consistent s) (h : Ready s) (hs : Submits s m s' as) : Ready s' := by
  cases hs with
  | queued hfree =>
    intro hne
    simp [hfree] at hne
  | unmarshalled => exact h
  | event hfree => exact fun _ => ⟨Cursor.cycle_designates hfree, (h hfree).2⟩
  | request hfree _ hit =>
    obtain ⟨hleft, -⟩ := Cursor.cycle_erased (hc.iterator_mem hit)
    exact fun hne => ⟨hleft hne, (h hfree).2⟩

/-- An answer keeps the iterator, which is enough where it stood at a number. -/
theorem Ready.receives (h : Ready s) (hs : Receives p s header data memory s' as)
    (hex : s.m_freeSequenceNumbers = ∅ → ¬ Answers p s (.frame header data memory)) : Ready s' := by
  cases hs with
  | idle => exact h
  | answered hresp hbody hreq =>
    rcases s.m_freeSequenceNumbers.eq_empty_or_nonempty with he | hne
    · exact absurd ⟨hresp, ⟨_, hbody⟩, by simp [hreq]⟩ (hex he)
    · obtain ⟨hd, hq⟩ := h hne
      exact fun _ => ⟨hd.mono (Finset.subset_insert _ _), hq⟩

theorem Ready.step (hc : Consistent s) (h : Ready s) (hs : (machine p).step s e = .ok (s', as))
    (hex : s.m_freeSequenceNumbers = ∅ → ¬ Answers p s e) : Ready s' := by
  cases e with
  | submit m => exact h.submits hc (submit_cases hs)
  | frame header data memory => exact h.receives (handleMessage_cases hc.iterator_ne_past hs) hex

/-- The pool works as long as it is never given a number back with none left in it. -/
theorem Ready.of_run (hrun : (machine p).Run t s) (hex : NeverExhausted p t) : Ready s :=
  (hrun.invariant (P := fun _ s => Consistent s ∧ Ready s) ⟨init_consistent, init_ready⟩
    (fun _ _ _ _ _ _ h hex hs => ⟨h.1.step hs, h.2.step h.1 hs hex⟩) hex).2

theorem Ready.submit_ne (h : Ready s) (m : Message) : submit s m ≠ .error .iterator := by
  intro he
  rcases s.m_freeSequenceNumbers.eq_empty_or_nonempty with hfree | hne
  · rw [submit, if_pos (Finset.card_eq_zero.mpr hfree)] at he
    contradiction
  · obtain ⟨⟨val, -, hit⟩, -⟩ := h hne
    rw [submit, if_neg (Finset.card_ne_zero.mpr hne)] at he
    cases hdata : m.marshal with
    | none => simp [hdata] at he
    | some data =>
      cases hsend : sendMessage (requestHeader m val data.length) data with
      | error e =>
        obtain rfl := sendMessage_error hsend
        simp [hdata, hit, hsend, bind, Except.bind] at he
      | ok frame =>
        simp only [hdata, hit, hsend, bind, Except.bind, pure, Except.pure] at he
        split_ifs at he

theorem Ready.queues (hc : Consistent s) (h : Ready s)
    (hs : (machine p).step s e = .ok (s', as))
    (hex : s.m_freeSequenceNumbers = ∅ → ¬ Answers p s e) : Queues p s e as s' := by
  cases e with
  | submit m =>
    cases submit_cases hs with
    | queued hfree => simp [Queues, hfree, transmitted]
    | unmarshalled hfree => simp [Queues, hfree.ne_empty, transmitted]
    | event hfree => simp [Queues, hfree.ne_empty, transmitted]
    | request hfree => simp [Queues, hfree.ne_empty, transmitted]
  | frame header data memory =>
    cases handleMessage_cases hc.iterator_ne_past hs with
    | idle hno hactions =>
      exact ⟨fun hans => absurd hans hno, fun _ => ⟨filterMap_delivers (fun _ => rfl) hactions, rfl⟩⟩
    | answered hresp hbody hreq =>
      have hans : Answers p s (.frame header data memory) := ⟨hresp, ⟨_, hbody⟩, by simp [hreq]⟩
      have hfree := Finset.nonempty_iff_ne_empty.mpr fun he => hex he hans
      have hqueue := (h hfree).2
      exact ⟨fun _ => by simp [hqueue, transmitted], fun hno => absurd hans hno⟩

/-- The number given back to an empty pool stays out of reach: the iterator has no element. -/
theorem answered_exhausted (hc : Consistent s) (hfree : s.m_freeSequenceNumbers = ∅)
    (hans : Answers p s (.frame header data memory))
    (hs : (machine p).step s (.frame header data memory) = .ok (s', as)) :
    s'.m_freeSequenceNumbers = {header.aseq} ∧ s'.m_allocationIterator = .dangling ∧
      s'.m_messageQueue = s.m_messageQueue := by
  cases handleMessage_cases hc.iterator_ne_past hs with
  | idle hno => exact absurd hans hno
  | answered => exact ⟨by simp [hfree], hc.exhausted hfree, rfl⟩

end

/-- The pool and the queue work along a history exactly when no request is answered while all
numbers are in use. -/
theorem orderly_iff (p : Protocol) {t : List (Event × List Action)} {s : IPCSocketHandler}
    (hrun : (machine p).Run t s) : Orderly p t ↔ NeverExhausted p t := by
  constructor
  · rintro ho t₁ ⟨e, as⟩ t₂ s₁ rfl hrun₁ hfree hans
    obtain ⟨s₁', s₂, hrun₁', hstep, hrun₂⟩ := hrun.split
    obtain rfl := hrun₁.unique hrun₁'
    cases e with
    | submit m => exact hans
    | frame header data memory =>
      obtain ⟨hfree₂, hdangling, -⟩ :=
        answered_exhausted (Consistent.of_run hrun₁) hfree hans hstep
      have hready := ho.ready _ s₂ ⟨t₂, by simp⟩ hrun₂
      exact (hready (by simp [hfree₂])).1.ne_dangling hdangling
  · intro hex
    have hready : ∀ t₁ s, t₁ <+: t → (machine p).Run t₁ s → Ready s := by
      rintro t₁ s₁ ⟨t₂, rfl⟩ hrun₁
      exact Ready.of_run hrun₁ hex.of_append
    refine ⟨hready, fun t₁ s₁ m ht hrun₁ => (hready t₁ s₁ ht hrun₁).submit_ne m, ?_⟩
    rintro t₁ e as s₁ s₂ ⟨t₂, rfl⟩ hrun₁ hstep
    have hbegins : t₁ <+: t₁ ++ [(e, as)] ++ t₂ := ⟨[(e, as)] ++ t₂, by simp⟩
    exact (hready t₁ s₁ hbegins hrun₁).queues (Consistent.of_run hrun₁) hstep
      (hex t₁ (e, as) t₂ s₁ (by simp) hrun₁)

/-- A history that never receives anything is orderly. -/
theorem submit_powerOff_orderly : ∃ s as, (machine protocol).Run [(.submit powerOff, as)] s ∧
    Orderly protocol [(.submit powerOff, as)] := by
  obtain ⟨s, hrun, -⟩ := submit_powerOff
  refine ⟨s, _, hrun, (orderly_iff protocol hrun).mpr ?_⟩
  rintro t₁ ⟨e, as⟩ t₂ s₁ ht - - hans
  obtain rfl : e = .submit powerOff := by
    have hmem := List.mem_append_right t₁ (List.mem_cons_self (a := (e, as)) (l := t₂))
    rw [← ht] at hmem
    exact congrArg Prod.fst (List.mem_singleton.mp hmem)
  exact hans

/-- A request that is answered, and another one. -/
theorem powerOff_twice (memory : Memory) : ∃ s₁ s₂ s₃ sent reply sent',
    submit init powerOff = .ok (s₁, [sent]) ∧
    handleMessage protocol s₁ ⟨12, 0, 0, 128, 1, IPC_CMD_RESP⟩ [1, 2, 1, 0, 128] memory =
      .ok (s₂, [.complete powerOff (some reply)]) ∧
    submit s₂ powerOff = .ok (s₃, [sent']) := by
  have hdata : powerOff.marshal = some [] := rfl
  have hlen : ¬ (UInt16.ofNat (Header.size + 0)).toNat < Header.size := by decide
  have hsend : ∀ val, sendMessage (requestHeader powerOff val 0) [] = .ok _ := fun val => if_neg hlen
  have hstep₁ := submit_request sequenceNumbers_nonempty hdata init_iterator_eq (by decide) (hsend 0)
  have hsubmits := submit_cases hstep₁
  have hc₁ := init_consistent.submits hsubmits
  have hfree₁ : (sequenceNumbers.erase 0).Nonempty :=
    ⟨1, Finset.mem_erase.mpr ⟨by decide, (mem_sequenceNumbers 1).mpr (by decide)⟩⟩
  have hreq := congrFun (init_consistent.insertInAir_eq init_iterator_eq powerOff) 0
  rw [Function.update_self] at hreq
  obtain ⟨reply, hbody⟩ := demarshal_command_complete memory
  have hstep₂ := handleMessage_answered hc₁.iterator_ne_past rfl hbody hreq
  have hready := (init_ready.submits init_consistent hsubmits).receives (p := protocol)
    (handleMessage_cases hc₁.iterator_ne_past hstep₂) fun hnone => absurd hnone hfree₁.ne_empty
  obtain ⟨⟨val, -, hit⟩, -⟩ := hready (Finset.insert_nonempty _ _)
  have hstep₃ := submit_request (Finset.insert_nonempty _ _) hdata hit (by decide) (hsend val)
  exact ⟨_, _, _, _, reply, _, hstep₁, hstep₂, hstep₃⟩

/-- Submitting uses up the numbers one by one. -/
theorem submit_many {n : ℕ} (hn : n ≤ 255) : ∃ t s, (machine protocol).Run t s ∧ Ready s ∧
    s.m_freeSequenceNumbers.card + n = 255 ∧ s.m_messageQueue = [] := by
  induction n with
  | zero =>
    refine ⟨[], init, .start, init_ready, ?_, by simp only [init]⟩
    simp only [init, sequenceNumbers_card]
  | succ n ih =>
    obtain ⟨t, s, hrun, hready, hcard, hqueue⟩ := ih (by omega)
    have hfree : s.m_freeSequenceNumbers.Nonempty := Finset.card_pos.mp (by omega)
    obtain ⟨⟨val, hval, hit⟩, -⟩ := hready hfree
    have hdata : powerOff.marshal = some [] := rfl
    have hlen : ¬ (UInt16.ofNat (Header.size + 0)).toNat < Header.size := by decide
    have hsend : sendMessage (requestHeader powerOff val 0) [] = .ok _ := if_neg hlen
    have hstep := submit_request hfree hdata hit (by decide) hsend
    refine ⟨_, _, hrun.step ((machine_submit _ _ _).trans hstep),
      hready.submits (Consistent.of_run hrun) (submit_cases hstep), ?_, hqueue⟩
    have herase := Finset.card_erase_of_mem hval
    simp only
    omega

/-- An answer after 256 requests leaves its number free, the last request waiting and the handler
unable to send. -/
theorem exhausted_pool_stuck : ∃ t s, (machine protocol).Run t s ∧
    s.m_freeSequenceNumbers = {0} ∧ s.m_messageQueue = [powerOff] ∧
    ¬ s.m_allocationIterator.Designates s.m_freeSequenceNumbers ∧
    submit s powerOff = .error .iterator ∧ ¬ Orderly protocol t := by
  obtain ⟨t, s, hrun, hready, hcard, hqueue⟩ := submit_many le_rfl
  have hfree : s.m_freeSequenceNumbers = ∅ := Finset.card_eq_zero.mp (by omega)
  have hstep : submit s powerOff =
      .ok ({ s with m_messageQueue := s.m_messageQueue ++ [powerOff] }, []) := by
    rw [submit, if_pos (Finset.card_eq_zero.mpr hfree)]
  have hrun₁ := hrun.step ((machine_submit _ _ _).trans hstep)
  have hc := Consistent.of_run hrun₁
  obtain ⟨message, hbody⟩ := demarshal_command_complete ⟨fun _ => 0, fun _ => true⟩
  have hreq : s.m_messagesInAir 0 ≠ none := by
    intro hnone
    have hmem := (hc.free_iff 0).mpr ⟨(mem_sequenceNumbers 0).mpr (by decide), hnone⟩
    simp [hfree] at hmem
  obtain ⟨request, hreq⟩ := Option.ne_none_iff_exists'.mp hreq
  have hstep₁ := handleMessage_answered hc.iterator_ne_past rfl hbody hreq
  have hrun₂ := hrun₁.step ((machine_frame _ _ _ _ _).trans hstep₁)
  obtain ⟨hfree₂, hdangling, hqueue₂⟩ := answered_exhausted hc hfree
    ⟨rfl, ⟨message, hbody⟩, by simp [hreq]⟩ ((machine_frame _ _ _ _ _).trans hstep₁)
  refine ⟨_, _, hrun₂, hfree₂, hqueue₂.trans (by simp [hqueue]), ?_, ?_, ?_⟩
  · exact fun hd => hd.ne_dangling hdangling
  · rw [submit, hfree₂, hdangling]
    rfl
  · intro ho
    have hready₂ := ho.ready _ _ List.prefix_rfl hrun₂
    exact (hready₂ (by simp)).1.ne_dangling hdangling

end FreeRil.IPCSocketHandler
