import FreeRil.Compiler.Reading
import FreeRil.IPCSocketHandler

/-! What one call of `submit` or `handleMessage` can do, and the invariant of all states reached. -/
namespace FreeRil.IPCSocketHandler

@[simp] theorem machine_submit (p : Protocol) (s : IPCSocketHandler) (m : Message) :
    (machine p).step s (.submit m) = submit s m := rfl

@[simp] theorem machine_frame (p : Protocol) (s : IPCSocketHandler) (header : Header)
    (data : Bytes) (memory : Memory) :
    (machine p).step s (.frame header data memory) = handleMessage p s header data memory := rfl

/-- The outcomes of `submit`. -/
inductive Submits (s : IPCSocketHandler) (m : Message) : IPCSocketHandler → List Action → Prop
  | queued (hfree : s.m_freeSequenceNumbers = ∅) :
      Submits s m { s with m_messageQueue := s.m_messageQueue ++ [m] } []
  | unmarshalled (hfree : s.m_freeSequenceNumbers.Nonempty) (hdata : m.marshal = none) :
      Submits s m s [.complete m none]
  | event {val data frame} (hfree : s.m_freeSequenceNumbers.Nonempty)
      (hdata : m.marshal = some data) (hit : s.m_allocationIterator = .elem val)
      (hop : m.requestType = .event)
      (hsend : sendMessage (requestHeader m val data.length) data = .ok frame) :
      Submits s m
        { s with m_allocationIterator := Cursor.cycle s.m_freeSequenceNumbers val }
        [.send frame (requestHeader m val data.length) m]
  | request {val data frame} (hfree : s.m_freeSequenceNumbers.Nonempty)
      (hdata : m.marshal = some data) (hit : s.m_allocationIterator = .elem val)
      (hop : m.requestType ≠ .event)
      (hsend : sendMessage (requestHeader m val data.length) data = .ok frame) :
      Submits s m
        { s with
          m_messagesInAir := insertInAir s.m_messagesInAir val m
          m_freeSequenceNumbers := s.m_freeSequenceNumbers.erase val
          m_allocationIterator := (Cursor.cycle s.m_freeSequenceNumbers val).erased val }
        [.send frame (requestHeader m val data.length) m]

theorem RequestType.code_inj {a b : RequestType} : a.code = b.code ↔ a = b := by
  cases a <;> cases b <;> decide

theorem submit_cases {s s' : IPCSocketHandler} {m : Message} {as : List Action}
    (h : submit s m = .ok (s', as)) : Submits s m s' as := by
  by_cases hfree : s.m_freeSequenceNumbers = ∅
  · rw [submit, if_pos (Finset.card_eq_zero.mpr hfree)] at h
    cases h
    exact .queued hfree
  · have hne := Finset.nonempty_iff_ne_empty.mpr hfree
    rw [submit, if_neg (Finset.card_ne_zero.mpr hne)] at h
    cases hdata : m.marshal with
    | none =>
      rw [hdata] at h
      cases h
      exact .unmarshalled hne hdata
    | some data =>
      rw [hdata] at h
      cases hit : s.m_allocationIterator with
      | past => simp [hit] at h
      | dangling => simp [hit] at h
      | elem val =>
        cases hsend : sendMessage (requestHeader m val data.length) data with
        | error e => simp [hit, hsend, bind, Except.bind] at h
        | ok frame =>
          simp only [hit, hsend, bind, Except.bind, pure, Except.pure] at h
          split_ifs at h with hcode
          · cases h
            exact .request hne hdata hit (fun he => hcode (RequestType.code_inj.mpr he)) hsend
          · cases h
            exact .event hne hdata hit (RequestType.code_inj.mp (not_not.mp hcode)) hsend

/-- A request takes the number the iterator stands at. -/
theorem submit_request {s : IPCSocketHandler} {m : Message} {val : UInt8} {data frame : Bytes}
    (hfree : s.m_freeSequenceNumbers.Nonempty) (hdata : m.marshal = some data)
    (hit : s.m_allocationIterator = .elem val) (hop : m.requestType ≠ .event)
    (hsend : sendMessage (requestHeader m val data.length) data = .ok frame) :
    submit s m = .ok
      ({ s with
          m_messagesInAir := insertInAir s.m_messagesInAir val m
          m_freeSequenceNumbers := s.m_freeSequenceNumbers.erase val
          m_allocationIterator := (Cursor.cycle s.m_freeSequenceNumbers val).erased val },
        [.send frame (requestHeader m val data.length) m]) := by
  have hcode : (requestHeader m val data.length).responseType ≠ RequestType.event.code := fun he =>
    hop (RequestType.code_inj.mp he)
  rw [submit, if_neg (Finset.card_ne_zero.mpr hfree), hdata]
  simp only [hit, hsend, bind, Except.bind, pure, Except.pure, if_pos hcode]

/-- A frame that answers a request in the air. -/
def Answers (p : Protocol) (s : IPCSocketHandler) : Event → Prop
  | .submit _ => False
  | .frame header data memory => header.responseType = IPC_CMD_RESP ∧
      (∃ message, demarshal p header data memory = .ok (some message)) ∧
      s.m_messagesInAir header.aseq ≠ none

/-- The outcomes of `handleMessage` where the iterator does not stand at the end. -/
inductive Receives (p : Protocol) (s : IPCSocketHandler) (header : Header) (data : Bytes)
    (memory : Memory) : IPCSocketHandler → List Action → Prop
  | idle {as} (hno : ¬ Answers p s (.frame header data memory))
      (hactions : ∀ a ∈ as, ∃ message, a = .deliver message) : Receives p s header data memory s as
  | answered {message request} (hresp : header.responseType = IPC_CMD_RESP)
      (hbody : demarshal p header data memory = .ok (some message))
      (hreq : s.m_messagesInAir header.aseq = some request) :
      Receives p s header data memory
        { s with
          m_messagesInAir := Function.update s.m_messagesInAir header.aseq none
          m_freeSequenceNumbers := insert header.aseq s.m_freeSequenceNumbers }
        [.complete request (some message)]

theorem filterMap_delivers {β : Type} {f : Action → Option β} {as : List Action}
    (hf : ∀ message, f (.deliver message) = none) (h : ∀ a ∈ as, ∃ message, a = .deliver message) :
    as.filterMap f = [] := by
  refine List.filterMap_eq_nil_iff.mpr fun a ha => ?_
  obtain ⟨message, rfl⟩ := h a ha
  exact hf message

theorem handleMessage_cases {p : Protocol} {s s' : IPCSocketHandler} {header : Header}
    {data : Bytes} {memory : Memory} {as : List Action} (hit : s.m_allocationIterator ≠ .past)
    (h : handleMessage p s header data memory = .ok (s', as)) : Receives p s header data memory s' as := by
  cases hbody : demarshal p header data memory with
  | error e => simp [handleMessage, hbody, bind, Except.bind] at h
  | ok body =>
    cases body with
    | none =>
      obtain ⟨rfl, rfl⟩ := by
        simpa [handleMessage, hbody, bind, Except.bind, pure, Except.pure] using h
      exact .idle (by simp [Answers, hbody]) (by simp)
    | some message =>
      simp only [handleMessage, hbody, bind, Except.bind, pure, Except.pure] at h
      split_ifs at h with hind hdel hresp
      · obtain ⟨rfl, rfl⟩ := by simpa using h
        refine .idle (fun hans => ?_) (by simp)
        rw [hans.1] at hind
        exact absurd hind (by decide)
      · obtain ⟨rfl, rfl⟩ := by simpa using h
        exact .idle (fun hans => by rw [hans.1] at hind; exact absurd hind (by decide)) (by simp)
      · cases hreq : s.m_messagesInAir header.aseq with
        | none =>
          obtain ⟨rfl, rfl⟩ := by simpa [handleResponse, hreq] using h
          exact .idle (fun hans => hans.2.2 hreq) (by simp)
        | some request =>
          obtain ⟨rfl, rfl⟩ := by
            simpa [handleResponse, hreq, hit, bind, Except.bind, pure, Except.pure] using h
          exact .answered hresp hbody hreq
      · obtain ⟨rfl, rfl⟩ := by simpa using h
        exact .idle (fun hans => hresp hans.1) (by simp)

/-- An answer completes its request and gives the number back. -/
theorem handleMessage_answered {p : Protocol} {s : IPCSocketHandler} {header : Header}
    {data : Bytes} {memory : Memory} {message request : Message} (hit : s.m_allocationIterator ≠ .past)
    (hresp : header.responseType = IPC_CMD_RESP)
    (hbody : demarshal p header data memory = .ok (some message))
    (hreq : s.m_messagesInAir header.aseq = some request) :
    handleMessage p s header data memory = .ok
      ({ s with
          m_messagesInAir := Function.update s.m_messagesInAir header.aseq none
          m_freeSequenceNumbers := insert header.aseq s.m_freeSequenceNumbers },
        [.complete request (some message)]) := by
  have hind : ¬ (header.responseType = IPC_CMD_INDI ∨ header.responseType = IPC_CMD_NOTI) := by
    rw [hresp]
    decide
  simp only [handleMessage, hbody, bind, Except.bind, if_neg hind, if_pos hresp, handleResponse,
    hreq, if_neg hit, pure, Except.pure, List.nil_append]

theorem handleMessage_undemarshalled {p : Protocol} {header : Header} {data : Bytes} {memory : Memory}
    (hbody : demarshal p header data memory = .ok none) (s : IPCSocketHandler) :
    handleMessage p s header data memory = .ok (s, []) := by
  simp only [handleMessage, hbody, bind, Except.bind, pure, Except.pure]

/-- What it takes for a body to demarshal. -/
theorem demarshal_some_iff {p : Protocol} {header : Header} {data : Bytes} {memory : Memory} :
    (∃ message, demarshal p header data memory = .ok (some message)) ↔
      ∃ g d, Factory.create p header.mainCommand header.subCommand = some (g, d) ∧
        header.payloadLength ≤ data.length ∧
        d.accepts memory (data.take header.payloadLength) = true := by
  unfold demarshal
  constructor
  · rintro ⟨message, h⟩
    split at h
    · simp at h
    · rename_i g d hcreate
      split_ifs at h with hlen
      split at h
      · simp at h
      · rename_i read v stream hread
        split_ifs at h with hend
        · obtain ⟨rfl, hend⟩ := hend
          exact ⟨g, d, hcreate, not_lt.mp hlen, MessageDefinition.accepts_iff.mpr ⟨v, stream, hread, hend⟩⟩
        · simp at h
  · rintro ⟨g, d, hcreate, hlen, haccepts⟩
    obtain ⟨v, stream, hread, hend⟩ := MessageDefinition.accepts_iff.mp haccepts
    refine ⟨⟨g, d, v⟩, ?_⟩
    simp only [hcreate, if_neg (not_lt.mpr hlen), hread, hend, and_self, if_true]

@[simp] theorem mem_sequenceNumbers (k : UInt8) : k ∈ sequenceNumbers ↔ k ≠ 255 := by
  simp only [sequenceNumbers, Finset.mem_image, Finset.mem_range]
  constructor
  · rintro ⟨n, hn, rfl⟩ he
    have := congrArg UInt8.toNat he
    simp at this
    omega
  · intro hk
    have hlt := k.toNat_lt
    have hne : k.toNat ≠ 255 := fun he => hk (UInt8.toNat_inj.mp he)
    exact ⟨k.toNat, by omega, UInt8.ofNat_toNat⟩

theorem sequenceNumbers_card : sequenceNumbers.card = 255 := by
  rw [sequenceNumbers, Finset.card_image_of_injOn, Finset.card_range]
  intro a ha b hb hab
  have h := congrArg UInt8.toNat hab
  simp only [Finset.coe_range, Set.mem_Iio] at ha hb
  simp only [UInt8.toNat_ofNat'] at h
  omega

/-- The keys of `m_messagesInAir`. -/
def inAirNumbers (s : IPCSocketHandler) : Set UInt8 := fun k => s.m_messagesInAir k ≠ none

theorem sendMessage_header {header : Header} {data frame : Bytes}
    (h : sendMessage header data = .ok frame) : Header.ofBytes frame = header := by
  unfold sendMessage at h
  split_ifs at h
  obtain rfl := by simpa using h.symm
  exact Header.ofBytes_toBytes_append header _

theorem sendMessage_error {header : Header} {data : Bytes} {e : Fault}
    (h : sendMessage header data = .error e) : e = .copySize := by
  unfold sendMessage at h
  split_ifs at h
  simpa using h.symm

/-- The invariant of all states reached: numbers are free or in the air, never both, and the
iterator stands at a free number unless its own has been erased. -/
structure Consistent (s : IPCSocketHandler) : Prop where
  free_iff : ∀ k, k ∈ s.m_freeSequenceNumbers ↔ k ∈ sequenceNumbers ∧ s.m_messagesInAir k = none
  inAir_mem : ∀ k, s.m_messagesInAir k ≠ none → k ∈ sequenceNumbers
  iterator : s.m_allocationIterator.Designates s.m_freeSequenceNumbers ∨
    s.m_allocationIterator = .dangling

theorem sequenceNumbers_nonempty : sequenceNumbers.Nonempty :=
  ⟨0, (mem_sequenceNumbers 0).mpr (by decide)⟩

theorem init_iterator : init.m_allocationIterator.Designates init.m_freeSequenceNumbers := by
  simp only [init]
  exact Cursor.first_designates sequenceNumbers_nonempty

theorem init_iterator_eq : init.m_allocationIterator = .elem 0 := by
  simp only [init]
  exact Cursor.first_of_least ((mem_sequenceNumbers 0).mpr (by decide)) fun b _ => UInt8.zero_le

theorem init_consistent : Consistent init :=
  ⟨fun k => by simp [init], fun k h => by simp [init] at h, .inl init_iterator⟩

namespace Consistent
variable {s s' : IPCSocketHandler} {p : Protocol}

theorem iterator_ne_past (h : Consistent s) : s.m_allocationIterator ≠ .past := by
  rcases h.iterator with hd | hd
  · exact hd.ne_past
  · simp [hd]

theorem iterator_mem (h : Consistent s) {val : UInt8} (hit : s.m_allocationIterator = .elem val) :
    val ∈ s.m_freeSequenceNumbers := by
  rcases h.iterator with ⟨a, ha, he⟩ | hd
  · obtain rfl := by simpa using he.symm.trans hit
    exact ha
  · rw [hd] at hit; contradiction

/-- The number of the iterator is not in the air, so a request is recorded under it. -/
theorem insertInAir_eq (h : Consistent s) {val : UInt8} (hit : s.m_allocationIterator = .elem val)
    (m : Message) :
    insertInAir s.m_messagesInAir val m = Function.update s.m_messagesInAir val (some m) := by
  have hnone := ((h.free_iff val).mp (h.iterator_mem hit)).2
  simp [insertInAir, hnone]

theorem submits (h : Consistent s) {m : Message} {as : List Action} (hs : Submits s m s' as) :
    Consistent s' := by
  cases hs with
  | queued hfree => exact ⟨h.free_iff, h.inAir_mem, h.iterator⟩
  | unmarshalled => exact h
  | event hfree => exact ⟨h.free_iff, h.inAir_mem, .inl (Cursor.cycle_designates hfree)⟩
  | @request val data frame hfree hdata hit hop hsend =>
    have hval := h.iterator_mem hit
    refine ⟨fun k => ?_, fun k hk => ?_, ?_⟩
    · rw [h.insertInAir_eq hit, Finset.mem_erase, h.free_iff k]
      by_cases hkv : k = val
      · simp [hkv]
      · simp [hkv]
    · rw [h.insertInAir_eq hit] at hk
      by_cases hkv : k = val
      · rw [hkv]
        exact ((h.free_iff val).mp hval).1
      · exact h.inAir_mem k (by simpa [hkv] using hk)
    · obtain ⟨hleft, hnone⟩ := Cursor.cycle_erased hval
      rcases (s.m_freeSequenceNumbers.erase val).eq_empty_or_nonempty with he | he
      · exact .inr (hnone he)
      · exact .inl (hleft he)

theorem receives (h : Consistent s) {header : Header} {data : Bytes} {memory : Memory} {as : List Action}
    (hs : Receives p s header data memory s' as) : Consistent s' := by
  cases hs with
  | idle => exact h
  | @answered message request hresp hbody hreq =>
    have hmem : header.aseq ∈ sequenceNumbers := h.inAir_mem _ (by simp [hreq])
    refine ⟨fun k => ?_, fun k hk => ?_, ?_⟩
    · rw [Finset.mem_insert, h.free_iff k]
      by_cases hka : k = header.aseq
      · simpa [hka] using hmem
      · simp [hka]
    · by_cases hka : k = header.aseq
      · rwa [hka]
      · exact h.inAir_mem k (by simpa [hka] using hk)
    · exact h.iterator.imp (fun hd => hd.mono (Finset.subset_insert _ _)) id

theorem step (h : Consistent s) {e : Event} {as : List Action}
    (hs : (machine p).step s e = .ok (s', as)) : Consistent s' := by
  cases e with
  | submit m => exact h.submits (submit_cases hs)
  | frame header data memory => exact h.receives (handleMessage_cases h.iterator_ne_past hs)

theorem numbers_partition (h : Consistent s) :
    Disjoint (s.m_freeSequenceNumbers : Set UInt8) s.inAirNumbers ∧
      (s.m_freeSequenceNumbers : Set UInt8) ∪ s.inAirNumbers = sequenceNumbers := by
  constructor
  · exact Set.disjoint_left.mpr fun k hk hair => hair ((h.free_iff k).mp hk).2
  · ext k
    rw [Set.mem_union, Finset.mem_coe, Finset.mem_coe, h.free_iff k]
    constructor
    · rintro (hk | hk)
      · exact hk.1
      · exact h.inAir_mem k hk
    · intro hk
      by_cases hair : s.m_messagesInAir k = none
      · exact .inl ⟨hk, hair⟩
      · exact .inr hair

/-- Every state reached is consistent. -/
theorem of_run {t : List (Event × List Action)} (h : (machine p).Run t s) : Consistent s :=
  h.invariant_all init_consistent fun _ _ _ _ hc hs => Consistent.step (p := p) hc hs

end Consistent

/-- The request to switch the phone off, which has no payload. -/
def powerOff : Message := ⟨CMD_PWR, Messages.PwrPhonePowerOff, ()⟩

theorem run_submit (p : Protocol) {m : Message} {s : IPCSocketHandler} {as : List Action}
    (h : submit init m = .ok (s, as)) : (machine p).Run [(.submit m, as)] s := by
  have hstart : (machine p).Run [] init := Machine.Run.start
  exact hstart.step ((machine_submit p init m).trans h)

/-- The first request submitted goes out under number zero. -/
theorem submit_powerOff : ∃ s, (machine protocol).Run [(.submit powerOff,
      [.send [7, 0, 0, 0, 1, 2, 1] (requestHeader powerOff 0 0) powerOff])] s ∧
    s.m_messagesInAir 0 = some powerOff ∧ 0 ∉ s.m_freeSequenceNumbers := by
  have hdata : powerOff.marshal = some [] := rfl
  have hsend : sendMessage (requestHeader powerOff 0 0) [] = .ok [7, 0, 0, 0, 1, 2, 1] := rfl
  have hstep := submit_request sequenceNumbers_nonempty hdata init_iterator_eq (by decide) hsend
  refine ⟨_, run_submit protocol hstep, ?_, by simp⟩
  simp [init_consistent.insertInAir_eq init_iterator_eq]

/-- A `GEN_COMMAND_COMPLETE` with its five bytes demarshals. -/
theorem demarshal_command_complete (memory : Memory) : ∃ message,
    demarshal protocol ⟨12, 0, 0, 128, 1, IPC_CMD_RESP⟩ [1, 2, 1, 0, 128] memory = .ok (some message) :=
  demarshal_some_iff.mpr ⟨CMD_GEN, Messages.GenCommandComplete, rfl, by decide, rfl⟩

end FreeRil.IPCSocketHandler
