import FreeRil.IPCSocketHandler.Step
import Mathlib.Data.List.AList

/-! Requests and their answers, as far as sequence numbers do not run out. What is unanswered is
read off the wire alone: the numbers of the requests sent, less those of the answers received. -/
namespace FreeRil.IPCSocketHandler

/-- The requests a step completes. -/
def completed (as : List Action) : List Message :=
  as.filterMap fun
    | .complete request _ => some request
    | _ => none

/-- The messages submitted that expect an answer. -/
def requests (t : List (Event × List Action)) : List Message :=
  t.flatMap fun x => match x.1 with
    | .submit m => if m.requestType = .event then [] else [m]
    | .frame _ _ _ => []

/-- The messages completed of those that expect an answer. -/
def completions (t : List (Event × List Action)) : List Message :=
  t.flatMap fun x => (completed x.2).filter (·.requestType ≠ .event)

/-- What is unanswered once an answer has arrived. -/
def receive (wire : AList fun _ : UInt8 => Message) : Event → AList fun _ : UInt8 => Message
  | .submit _ => wire
  | .frame header _ _ => if header.responseType = IPC_CMD_RESP then wire.erase header.aseq else wire

/-- What is unanswered once a message has been sent. -/
def transmit (wire : AList fun _ : UInt8 => Message) : Action → AList fun _ : UInt8 => Message
  | .send _ header m => if m.requestType = .event then wire else wire.insert header.mseq m
  | _ => wire

/-- The requests sent and not answered yet, by their sequence numbers. -/
def unanswered (t : List (Event × List Action)) : AList fun _ : UInt8 => Message :=
  t.foldl (fun wire x => x.2.foldl transmit (receive wire x.1)) ∅

section
variable (t : List (Event × List Action)) (e : Event) (as : List Action)

theorem completions_append :
    completions (t ++ [(e, as)]) =
      completions t ++ (completed as).filter (·.requestType ≠ .event) := by
  simp [completions]

theorem requests_append_submit (m : Message) :
    requests (t ++ [(.submit m, as)]) =
      requests t ++ if m.requestType = .event then [] else [m] := by
  simp [requests]

theorem requests_append_frame (header : Header) (data : Bytes) (memory : Memory) :
    requests (t ++ [(.frame header data memory, as)]) = requests t := by
  simp [requests]

theorem unanswered_append :
    unanswered (t ++ [(e, as)]) = as.foldl transmit (receive (unanswered t) e) := by
  simp [unanswered]

end

/-- Every frame received demarshals, and at no time are more than 254 requests unanswered. -/
structure Ordinary (p : Protocol) (t : List (Event × List Action)) : Prop where
  demarshals : ∀ header data memory as, (Event.frame header data memory, as) ∈ t →
    ∃ message, demarshal p header data memory = .ok (some message)
  bounded : ∀ t₁, t₁ <+: t → (unanswered t₁).entries.length ≤ 254

theorem Ordinary.of_prefix {p : Protocol} {t t₁ : List (Event × List Action)}
    (h : Ordinary p t) (ht : t₁ <+: t) : Ordinary p t₁ :=
  ⟨fun header data memory as hmem => h.demarshals header data memory as (ht.subset hmem),
    fun t₂ ht₂ => h.bounded t₂ (ht₂.trans ht)⟩

/-- The handler after an ordinary history. -/
structure Accounted (t : List (Event × List Action)) (s : IPCSocketHandler) : Prop where
  consistent : Consistent s
  iterator : s.m_allocationIterator.Designates s.m_freeSequenceNumbers
  queue : s.m_messageQueue = []
  inAir : ∀ k, s.m_messagesInAir k = (unanswered t).lookup k
  perm : (requests t).Perm ((unanswered t).entries.map Sigma.snd ++ completions t)

theorem entries_perm_erase {α : Type} {β : α → Type} [DecidableEq α] {w : AList β} {k : α}
    {m : β k} (h : w.lookup k = some m) : w.entries.Perm (⟨k, m⟩ :: (w.erase k).entries) := by
  have hmem : (⟨k, m⟩ : Sigma β) ∈ w.entries := AList.mem_lookup_iff.mp h
  obtain ⟨m₁, l₁, l₂, -, hl, herase⟩ := List.exists_of_kerase (List.mem_keys_of_mem hmem)
  have hmem₁ : (⟨k, m₁⟩ : Sigma β) ∈ w.entries := by simp [hl]
  obtain rfl := w.nodupKeys.eq_of_mk_mem hmem hmem₁
  rw [show (w.erase k).entries = l₁ ++ l₂ from herase, hl]
  exact List.perm_middle

theorem transmit_delivers {as : List Action} (h : ∀ a ∈ as, ∃ message, a = .deliver message)
    (wire : AList fun _ : UInt8 => Message) : as.foldl transmit wire = wire := by
  induction as with
  | nil => rfl
  | cons a as ih =>
    obtain ⟨message, rfl⟩ := h a (by simp)
    exact ih fun a ha => h a (by simp [ha])

theorem completed_delivers {as : List Action} (h : ∀ a ∈ as, ∃ message, a = .deliver message) :
    completed as = [] :=
  filterMap_delivers (fun _ => rfl) h

theorem requests_expect_answer {t : List (Event × List Action)} {m : Message}
    (h : m ∈ requests t) : m.requestType ≠ .event := by
  obtain ⟨⟨e, as⟩, -, hm⟩ := List.mem_flatMap.mp h
  cases e with
  | submit m' =>
    by_cases hop : m'.requestType = .event
    · simp [hop] at hm
    · obtain rfl : m = m' := by simpa [hop] using hm
      exact hop
  | frame => simp at hm

theorem init_accounted : Accounted [] init where
  consistent := init_consistent
  iterator := init_iterator
  queue := by simp only [init]
  inAir k := by simp [init, unanswered]
  perm := by simp [requests, unanswered, completions]

namespace Accounted
variable {t : List (Event × List Action)} {s s' : IPCSocketHandler} {m : Message}
  {as : List Action} {header : Header} {data : Bytes} {memory : Memory} {p : Protocol}

/-- While fewer requests are unanswered than there are numbers, one of them is free. -/
theorem free_nonempty (hc : Consistent s)
    (hinAir : ∀ k, s.m_messagesInAir k = (unanswered t).lookup k)
    (hlen : (unanswered t).entries.length ≤ 254) : s.m_freeSequenceNumbers.Nonempty := by
  by_contra hfree
  rw [Finset.not_nonempty_iff_eq_empty] at hfree
  have hsub : sequenceNumbers ⊆ (unanswered t).keys.toFinset := by
    intro k hk
    rw [List.mem_toFinset, ← AList.mem_keys, ← AList.lookup_isSome, ← hinAir k,
      Option.isSome_iff_ne_none]
    intro hnone
    have hmem := (hc.free_iff k).mpr ⟨hk, hnone⟩
    simp [hfree] at hmem
  have hcard := (Finset.card_le_card hsub).trans (List.toFinset_card_le _)
  rw [sequenceNumbers_card, AList.keys, List.keys, List.length_map] at hcard
  omega

theorem number_unused (h : Accounted t s) {val : UInt8}
    (hit : s.m_allocationIterator = .elem val) : val ∉ unanswered t := by
  rw [← AList.lookup_eq_none, ← h.inAir]
  exact ((h.consistent.free_iff val).mp (h.consistent.iterator_mem hit)).2

theorem submits (h : Accounted t s) (hs : Submits s m s' as)
    (hbound : (unanswered (t ++ [(.submit m, as)])).entries.length ≤ 254) :
    Accounted (t ++ [(.submit m, as)]) s' := by
  have hc := h.consistent.submits hs
  have hperm := h.perm
  cases hs with
  | queued hfree =>
    obtain ⟨val, hval, -⟩ := h.iterator
    simp [hfree] at hval
  | unmarshalled =>
    refine ⟨hc, h.iterator, h.queue, fun k => ?_, ?_⟩
    · rw [unanswered_append]
      exact h.inAir k
    · rw [requests_append_submit, completions_append, unanswered_append]
      by_cases hop : m.requestType = .event
      · simpa [hop, completed, receive, transmit] using hperm
      · simpa [hop, completed, receive, transmit] using hperm.append_right [m]
  | event hfree _ _ hop =>
    refine ⟨hc, Cursor.cycle_designates hfree, h.queue, fun k => ?_, ?_⟩
    · simpa [unanswered_append, receive, transmit, hop] using h.inAir k
    · rw [requests_append_submit, completions_append, unanswered_append]
      simpa [hop, completed, receive, transmit] using hperm
  | @request val data frame hfree _ hit hop _ =>
    have hwire : unanswered (t ++ [(.submit m, [.send frame (requestHeader m val data.length) m])])
        = (unanswered t).insert val m := by
      simp [unanswered_append, receive, transmit, hop, requestHeader]
    have hinAir : ∀ k, insertInAir s.m_messagesInAir val m k =
        ((unanswered t).insert val m).lookup k := by
      intro k
      rw [h.consistent.insertInAir_eq hit]
      by_cases hk : k = val
      · subst hk
        simp
      · simp [hk, h.inAir k, AList.lookup_insert_ne hk]
    have hperm' : (requests (t ++ [(.submit m,
        [.send frame (requestHeader m val data.length) m])])).Perm
        (((unanswered t).insert val m).entries.map Sigma.snd ++
          completions (t ++ [(.submit m, [.send frame (requestHeader m val data.length) m])])) := by
      rw [requests_append_submit, completions_append,
        AList.entries_insert_of_notMem (h.number_unused hit)]
      simpa [hop, completed] using
        (hperm.append_right [m]).trans (List.perm_append_singleton m _)
    rw [← hwire] at hinAir hperm'
    obtain ⟨hleft, -⟩ := Cursor.cycle_erased (h.consistent.iterator_mem hit)
    exact ⟨hc, hleft (free_nonempty hc hinAir hbound), h.queue, hinAir, hperm'⟩

theorem receives (h : Accounted t s) (hs : Receives p s header data memory s' as)
    (hbody : ∃ message, demarshal p header data memory = .ok (some message)) :
    Accounted (t ++ [(.frame header data memory, as)]) s' := by
  have hc := h.consistent.receives hs
  have hperm := h.perm
  cases hs with
  | idle hno hactions =>
    have hwire : unanswered (t ++ [(.frame header data memory, as)]) = unanswered t := by
      rw [unanswered_append, transmit_delivers hactions, receive]
      split_ifs with hresp
      · have hnone : header.aseq ∉ unanswered t := by
          rw [← AList.lookup_isSome, ← h.inAir, Option.isSome_iff_ne_none]
          exact fun hreq => hno ⟨hresp, hbody, hreq⟩
        exact AList.ext (List.kerase_of_notMem_keys hnone)
      · rfl
    refine ⟨hc, h.iterator, h.queue, fun k => ?_, ?_⟩
    · rw [hwire]
      exact h.inAir k
    · rw [requests_append_frame, completions_append, hwire, completed_delivers hactions]
      simpa using hperm
  | @answered message request hresp _ hreq =>
    rw [h.inAir] at hreq
    have herase := (entries_perm_erase hreq).map Sigma.snd
    have hop : request.requestType ≠ .event := by
      refine requests_expect_answer (hperm.mem_iff.mpr (List.mem_append_left _ ?_))
      exact herase.mem_iff.mpr (by simp)
    have hwire : unanswered (t ++ [(.frame header data memory, [.complete request (some message)])]) =
        (unanswered t).erase header.aseq := by
      simp [unanswered_append, receive, transmit, hresp]
    refine ⟨hc, h.iterator.mono (Finset.subset_insert _ _), h.queue, fun k => ?_, ?_⟩
    · rw [hwire]
      by_cases hk : k = header.aseq
      · subst hk
        simp
      · simp [hk, h.inAir k, AList.lookup_erase_ne hk]
    · rw [requests_append_frame, completions_append, hwire]
      refine hperm.trans ((herase.append_right _).trans ?_)
      simpa [completed, hop] using (List.perm_append_singleton request
        (((unanswered t).erase header.aseq).entries.map Sigma.snd ++ completions t)).symm

theorem step (h : Accounted t s) {e : Event} (hs : (machine p).step s e = .ok (s', as))
    (ho : Ordinary p (t ++ [(e, as)])) : Accounted (t ++ [(e, as)]) s' := by
  cases e with
  | submit m => exact h.submits (submit_cases hs) (ho.bounded _ List.prefix_rfl)
  | frame header data memory =>
    exact h.receives (handleMessage_cases h.consistent.iterator_ne_past hs)
      (ho.demarshals header data memory as (by simp))

/-- Every state an ordinary history leads to is accounted for by the wire. -/
theorem of_run (h : (machine p).Run t s) (ho : Ordinary p t) : Accounted t s := by
  induction h with
  | start => exact init_accounted
  | step _ hs ih => exact (ih (ho.of_prefix (List.prefix_append _ _))).step hs ho

/-- A new request goes out under a number no unanswered request has. -/
theorem sends_unused (h : Accounted t s) {e : Event} (hs : (machine p).step s e = .ok (s', as))
    {frame : Bytes} (hmem : Action.send frame header m ∈ as) (hop : m.requestType ≠ .event) :
    Header.ofBytes frame = header ∧ header.mseq ∉ unanswered t := by
  cases e with
  | submit m' =>
    cases submit_cases hs with
    | queued => simp at hmem
    | unmarshalled => simp at hmem
    | event _ _ _ hevent =>
      obtain ⟨-, -, rfl⟩ := by simpa using hmem
      exact absurd hevent hop
    | request _ _ hit _ hsend =>
      obtain ⟨rfl, rfl, -⟩ := by simpa using hmem
      exact ⟨sendMessage_header hsend, h.number_unused hit⟩
  | frame header' data =>
    cases handleMessage_cases h.consistent.iterator_ne_past hs with
    | idle _ hactions =>
      obtain ⟨message, he⟩ := hactions _ hmem
      contradiction
    | answered => simp at hmem

/-- A frame that answers completes the unanswered request of its number, if there is one. -/
theorem completes (h : Accounted t s)
    (hs : (machine p).step s (.frame header data memory) = .ok (s', as))
    (hbody : ∃ message, demarshal p header data memory = .ok (some message))
    (hresp : header.responseType = IPC_CMD_RESP) :
    completed as = ((unanswered t).lookup header.aseq).toList := by
  rw [← h.inAir]
  cases handleMessage_cases h.consistent.iterator_ne_past hs with
  | idle hno hactions =>
    rw [completed_delivers hactions]
    cases hreq : s.m_messagesInAir header.aseq with
    | none => rfl
    | some request => exact absurd ⟨hresp, hbody, by simp [hreq]⟩ hno
  | answered _ _ hreq => simp [completed, hreq]

end Accounted

/-- While at most 254 requests are unanswered, every number is free or in the air, the iterator
stands at a free one, requests go out under unused numbers, an answer completes the request of its
number and no other, and every request submitted is in the air once or has been completed once. -/
theorem requests_accounted (p : Protocol) {t : List (Event × List Action)} {s : IPCSocketHandler}
    (hrun : (machine p).Run t s) (ho : Ordinary p t) :
    Disjoint (s.m_freeSequenceNumbers : Set UInt8) s.inAirNumbers ∧
      (s.m_freeSequenceNumbers : Set UInt8) ∪ s.inAirNumbers = sequenceNumbers ∧
      s.m_allocationIterator.Designates s.m_freeSequenceNumbers ∧
      (∀ t₁ e as t₂, t = t₁ ++ (e, as) :: t₂ → ∀ frame header m,
        Action.send frame header m ∈ as → m.requestType ≠ .event →
          Header.ofBytes frame = header ∧ header.mseq ∉ unanswered t₁) ∧
      (∀ t₁ header data memory as t₂, t = t₁ ++ (.frame header data memory, as) :: t₂ →
        header.responseType = IPC_CMD_RESP →
          completed as = ((unanswered t₁).lookup header.aseq).toList) ∧
      (∀ k, s.m_messagesInAir k = (unanswered t).lookup k) ∧
      (requests t).Perm ((unanswered t).entries.map Sigma.snd ++ completions t) := by
  have h := Accounted.of_run hrun ho
  have hpart := h.consistent.numbers_partition
  refine ⟨hpart.1, hpart.2, h.iterator, ?_, ?_, h.inAir, h.perm⟩
  · rintro t₁ e as t₂ rfl frame header m hmem hop
    obtain ⟨s₁, s₂, hrun₁, hstep, -⟩ := hrun.split
    have h₁ := Accounted.of_run hrun₁ (ho.of_prefix (List.prefix_append _ _))
    exact h₁.sends_unused hstep hmem hop
  · rintro t₁ header data memory as t₂ rfl hresp
    obtain ⟨s₁, s₂, hrun₁, hstep, -⟩ := hrun.split
    have h₁ := Accounted.of_run hrun₁ (ho.of_prefix (List.prefix_append _ _))
    exact h₁.completes hstep (ho.demarshals header data memory as (by simp)) hresp

/-- The history of a request and its answer is ordinary. -/
theorem powerOff_answered_accounted : ∃ s as reply,
    let t := [(Event.submit powerOff, as),
      (.frame ⟨12, 0, 0, 128, 1, IPC_CMD_RESP⟩ [1, 2, 1, 0, 128] ⟨fun _ => 0, fun _ => true⟩,
        [.complete powerOff reply])]
    (machine protocol).Run t s ∧
      (s.m_freeSequenceNumbers : Set UInt8) ∪ s.inAirNumbers = sequenceNumbers ∧
      s.m_allocationIterator.Designates s.m_freeSequenceNumbers ∧
      (requests t).Perm ((unanswered t).entries.map Sigma.snd ++ completions t) := by
  obtain ⟨s, hrun, hreq, -⟩ := submit_powerOff
  obtain ⟨message, hbody⟩ := demarshal_command_complete ⟨fun _ => 0, fun _ => true⟩
  have hit := (Consistent.of_run hrun).iterator_ne_past
  have hrun' := hrun.step ((machine_frame _ _ _ _ _).trans (handleMessage_answered hit rfl hbody hreq))
  have ho : Ordinary protocol [(Event.submit powerOff,
      [.send [7, 0, 0, 0, 1, 2, 1] (requestHeader powerOff 0 0) powerOff]),
      (.frame ⟨12, 0, 0, 128, 1, IPC_CMD_RESP⟩ [1, 2, 1, 0, 128] ⟨fun _ => 0, fun _ => true⟩,
        [.complete powerOff (some message)])] := by
    refine ⟨fun header data memory as hmem => ?_, fun t₁ ht₁ => ?_⟩
    · obtain ⟨⟨rfl, rfl, rfl⟩, -⟩ := by simpa using hmem
      exact ⟨message, hbody⟩
    · obtain rfl | ⟨t₂, rfl, ht₂⟩ := List.prefix_cons_iff.mp ht₁
      · exact Nat.zero_le 254
      · obtain rfl | ⟨t₃, rfl, ht₃⟩ := List.prefix_cons_iff.mp ht₂
        · decide
        · obtain rfl := List.prefix_nil.mp ht₃
          exact Nat.zero_le 254
  obtain ⟨-, hunion, hiter, -, -, -, hperm⟩ := requests_accounted protocol hrun' ho
  exact ⟨_, _, some message, hrun', hunion, hiter, hperm⟩

end FreeRil.IPCSocketHandler
