import FreeRil.Compiler.RoundTrip
import FreeRil.IPCSocketHandler.Step

/-! The frames that leave the handler, and what is read off them at the other end. The length of a
frame is a number of sixteen bits. -/
namespace FreeRil

/-- The length of its frame is in the range of `uint16_t`. -/
def Message.Short (m : Message) : Prop := Header.size + (m.definition.wire m.value).length < 2 ^ 16

theorem Message.marshal_eq (m : Message) : m.marshal = some (m.definition.wire m.value) := by
  unfold marshal
  rw [m.definition.writeToStream_init]
  rfl

namespace IPCSocketHandler

/-- A frame, and what it is sent for. -/
structure Frame where
  data : Bytes
  header : Header
  message : Message

/-- The frames that are sent along a history. -/
def frames (t : List (Event × List Action)) : List Frame :=
  t.flatMap fun x => x.2.filterMap fun
    | .send data header message => some ⟨data, header, message⟩
    | _ => none

namespace Frame

/-- It is what `submit` makes of its message. -/
def Submitted (f : Frame) : Prop :=
  ∃ mseq payload, f.message.marshal = some payload ∧
    f.header = requestHeader f.message mseq payload.length ∧ sendMessage f.header payload = .ok f.data

/-- Its length is that of the header and the payload, all of which it contains. -/
def Whole (f : Frame) : Prop :=
  ∃ payload, f.message.marshal = some payload ∧
    f.header.length.toNat = Header.size + payload.length ∧ f.data = f.header.toBytes ++ payload

end Frame

/-- The header and the payload that the other end finds at the front of its data. -/
def parts (data : Bytes) : Header × Bytes :=
  let header := Header.ofBytes data
  (header, (data.drop Header.size).take header.payloadLength)

/-- Whatever else is sent, and received, these messages go out whole, and streams of their frames are
split where they have been joined. -/
structure Transmits (p : Protocol) (messages : Set Message) : Prop where
  copies : ∀ t s e, (machine p).Run t s → (∀ m, e = .submit m → m ∈ messages) →
    (machine p).step s e ≠ .error .copySize
  whole : ∀ t s, (machine p).Run t s → ∀ f ∈ frames t, f.message ∈ messages → f.Whole
  splits : ∀ t s, (machine p).Run t s → ∀ sent : List Frame,
    (∀ f ∈ sent, f ∈ frames t ∧ f.message ∈ messages) →
    ∃ ds, Loop.run Channel.IPC.format.next sent.length (sent.map Frame.data).flatten = some (ds, []) ∧
      (ds.map parts).map (Prod.map id some) = sent.map fun f => (f.header, f.message.marshal)

section
variable {p : Protocol} {s s' : IPCSocketHandler} {m : Message} {e : Event} {as : List Action}
  {t : List (Event × List Action)} {f : Frame}

/-- A step adds the frames of its message alone. -/
theorem step_submitted (hc : Consistent s) (h : (machine p).step s e = .ok (s', as)) :
    ∀ f ∈ frames [(e, as)], f.Submitted := by
  cases e with
  | submit m =>
    cases submit_cases h with
    | queued => simp [frames]
    | unmarshalled => simp [frames]
    | event _ hdata _ _ hsend => simpa [frames] using ⟨_, _, hdata, rfl, hsend⟩
    | request _ hdata _ _ hsend => simpa [frames] using ⟨_, _, hdata, rfl, hsend⟩
  | frame header data memory =>
    cases handleMessage_cases hc.iterator_ne_past h with
    | idle _ hactions =>
      have hnil : frames [(.frame header data memory, as)] = [] := by
        rw [frames, List.flatMap_singleton]
        exact filterMap_delivers (fun _ => rfl) hactions
      simp [hnil]
    | answered => simp [frames]

theorem frames_submitted (h : (machine p).Run t s) : ∀ f ∈ frames t, f.Submitted := by
  induction h with
  | start => simp [frames]
  | @step t s e s' as run hstep ih =>
    intro f hf
    rw [frames, List.flatMap_append, List.mem_append] at hf
    exact hf.elim (ih f) (step_submitted (Consistent.of_run run) hstep f)

/-- What is copied is the payload where its length does not wrap around. -/
theorem sendMessage_short {mseq : UInt8} {payload : Bytes}
    (h : Header.size + payload.length < 2 ^ 16) :
    (requestHeader m mseq payload.length).length.toNat = Header.size + payload.length ∧
      sendMessage (requestHeader m mseq payload.length) payload =
        .ok ((requestHeader m mseq payload.length).toBytes ++ payload) := by
  have hlength : (requestHeader m mseq payload.length).length.toNat =
      Header.size + payload.length := UInt16.toNat_ofNat_of_lt' h
  have hle : Header.size ≤ (requestHeader m mseq payload.length).length.toNat := by omega
  have hpayload : (requestHeader m mseq payload.length).payloadLength = payload.length := by
    rw [Header.payloadLength_eq hle]
    omega
  refine ⟨hlength, ?_⟩
  rw [sendMessage, if_neg (not_lt.mpr hle), hpayload, List.take_length]

theorem Frame.Submitted.whole (h : f.Submitted) (hshort : f.message.Short) : f.Whole := by
  obtain ⟨mseq, payload, hdata, hheader, hsend⟩ := h
  have hpayload : f.message.definition.wire f.message.value = payload :=
    Option.some.inj (f.message.marshal_eq.symm.trans hdata)
  rw [Message.Short, hpayload] at hshort
  obtain ⟨hlength, hwhole⟩ := @sendMessage_short f.message mseq payload hshort
  rw [← hheader] at hlength hwhole
  exact ⟨payload, hdata, hlength, Except.ok.inj (hsend.symm.trans hwhole)⟩

theorem Frame.Whole.isFrame (h : f.Whole) : Channel.IPC.format.IsFrame f.data := by
  obtain ⟨payload, -, hlength, hdata⟩ := h
  have hsize : f.data.length = Header.size + payload.length := by
    rw [hdata, List.length_append, Header.toBytes_length]
  have hheader : Header.ofBytes f.data = f.header := by
    rw [hdata, Header.ofBytes_toBytes_append]
  refine ⟨?_, ?_⟩
  · rw [hsize]
    exact Nat.le_add_right _ _
  · change (Header.ofBytes f.data).length.toNat = _
    rw [hheader, hlength, hsize]

/-- What is found at the front of a stream that begins with a frame. -/
theorem Frame.Whole.parts_eq (h : f.Whole) {d : Bytes} (hd : Channel.IPC.format.frame d = f.data) :
    Prod.map id some (parts d) = (f.header, f.message.marshal) := by
  obtain ⟨payload, hmarshal, hlength, hdata⟩ := h
  have hstream : d = f.header.toBytes ++ (payload ++ d.drop (Channel.IPC.format.messageSize d)) := by
    rw [← List.append_assoc, ← hdata, ← hd]
    exact (List.take_append_drop _ _).symm
  have hpayload : f.header.payloadLength = payload.length := by
    rw [Header.payloadLength_eq (by omega)]
    omega
  unfold parts
  rw [hstream, Header.ofBytes_toBytes_append, List.drop_left' f.header.toBytes_length, hmarshal]
  dsimp only [Prod.map]
  rw [hpayload, List.take_left' rfl]
  rfl

/-- The loop of the other end, on a stream of whole frames. -/
theorem splits_of_whole {sent : List Frame} (h : ∀ f ∈ sent, f.Whole) :
    ∃ ds, Loop.run Channel.IPC.format.next sent.length (sent.map Frame.data).flatten = some (ds, []) ∧
      (ds.map parts).map (Prod.map id some) = sent.map fun f => (f.header, f.message.marshal) := by
  have hframes : ∀ b ∈ sent.map Frame.data, Channel.IPC.format.IsFrame b := by
    intro b hb
    obtain ⟨f, hf, rfl⟩ := List.mem_map.mp hb
    exact (h f hf).isFrame
  obtain ⟨ds, r, todo, hrun, hds, hrest, hnil, hcons⟩ :=
    Framing.Format.run_frames hframes (List.append_nil _)
  have htodo : todo = [] := by
    cases todo with
    | nil => rfl
    | cons g gs =>
      have hlt := (hcons g gs rfl).2
      have hlength := congrArg List.length hrest
      simp only [List.append_nil, List.flatten_cons, List.length_append] at hlength
      omega
  subst htodo
  rw [hnil rfl, List.length_map] at hrun
  rw [List.append_nil] at hds
  refine ⟨ds, hrun, ?_⟩
  clear hrun hframes
  induction ds generalizing sent with
  | nil =>
    rw [List.map_nil, eq_comm, List.map_eq_nil_iff] at hds
    rw [hds]
    rfl
  | cons d ds ih =>
    cases sent with
    | nil => contradiction
    | cons f sent =>
      obtain ⟨hd, hds⟩ := List.cons.inj hds
      obtain ⟨hf, hsent⟩ := List.forall_mem_cons.mp h
      rw [List.map_cons, List.map_cons, List.map_cons, hf.parts_eq hd, ih hsent hds]

theorem demarshal_ne_copySize {header : Header} {data : Bytes} {memory : Memory} :
    demarshal p header data memory ≠ .error .copySize := by
  intro h
  unfold demarshal at h
  split at h
  · contradiction
  · split_ifs at h
    · exact absurd (Except.error.inj h) nofun
    · split at h
      · exact absurd (Except.error.inj h) nofun
      · split_ifs at h

theorem handleMessage_ne_copySize (hit : s.m_allocationIterator ≠ .past) {header : Header}
    {data : Bytes} {memory : Memory} : handleMessage p s header data memory ≠ .error .copySize := by
  intro h
  cases hbody : demarshal p header data memory with
  | error fault =>
    refine demarshal_ne_copySize (hbody.trans ?_)
    simpa [handleMessage, hbody, bind, Except.bind] using h
  | ok body =>
    cases body with
    | none => simp [handleMessage, hbody, bind, Except.bind, pure, Except.pure] at h
    | some message =>
      simp only [handleMessage, hbody, bind, Except.bind, pure, Except.pure] at h
      split_ifs at h
      cases hreq : s.m_messagesInAir header.aseq with
      | none => simp [handleResponse, hreq] at h
      | some request => simp [handleResponse, hreq, hit, bind, Except.bind, pure, Except.pure] at h

theorem submit_ne_copySize (hshort : m.Short) : submit s m ≠ .error .copySize := by
  intro h
  unfold submit at h
  split_ifs at h
  rw [m.marshal_eq] at h
  cases hit : s.m_allocationIterator with
  | elem val =>
    have hsend := (@sendMessage_short m val _ hshort).2
    simp only [hit, hsend, bind, Except.bind, pure, Except.pure] at h
    split_ifs at h
  | past => simp [hit] at h
  | dangling => simp [hit] at h

/-- Where the iterator stands at a number, only the copy can fail. -/
theorem submit_error {fault : Fault} {val : UInt8} (hit : s.m_allocationIterator = .elem val)
    (h : submit s m = .error fault) : fault = .copySize := by
  unfold submit at h
  split_ifs at h
  rw [m.marshal_eq] at h
  simp only [hit] at h
  cases hsend : sendMessage (requestHeader m val (m.definition.wire m.value).length)
      (m.definition.wire m.value) with
  | error fault' =>
    obtain rfl := sendMessage_error hsend
    simpa [hsend, bind, Except.bind] using h.symm
  | ok frame =>
    simp only [hsend, bind, Except.bind, pure, Except.pure] at h
    split_ifs at h

/-- A message whose length wraps around is copied from outside of it, or not to its end. -/
theorem short_of_init {messages : Set Message} (h : Transmits p messages) (hm : m ∈ messages) :
    m.Short := by
  have hcopies := h.copies [] init (.submit m) .start fun m' hm' => by cases hm'; exact hm
  rw [machine_submit] at hcopies
  cases hsubmit : submit init m with
  | error fault =>
    obtain rfl := submit_error init_iterator_eq hsubmit
    exact absurd hsubmit hcopies
  | ok result =>
    obtain ⟨s', as⟩ := result
    have hwhole : ∀ data header, as = [.send data header m] → m.Short := by
      rintro data header rfl
      obtain ⟨payload, hmarshal, hlength, -⟩ := h.whole _ _ (run_submit p hsubmit)
        ⟨data, header, m⟩ (by simp [frames]) hm
      replace hlength : header.length.toNat = Header.size + payload.length := hlength
      have hpayload := Option.some.inj (m.marshal_eq.symm.trans hmarshal)
      have hlt := header.length.toNat_lt
      rw [Message.Short, hpayload]
      omega
    cases submit_cases hsubmit with
    | queued hfree => exact absurd hfree sequenceNumbers_nonempty.ne_empty
    | unmarshalled _ hdata => simp [m.marshal_eq] at hdata
    | event => exact hwhole _ _ rfl
    | request => exact hwhole _ _ rfl

theorem transmits_iff_short {messages : Set Message} :
    Transmits p messages ↔ ∀ m ∈ messages, m.Short := by
  refine ⟨fun h m hm => short_of_init h hm, fun h => ?_⟩
  have hwhole : ∀ t s, (machine p).Run t s → ∀ f ∈ frames t, f.message ∈ messages → f.Whole :=
    fun t s hrun f hf hm => (frames_submitted hrun f hf).whole (h _ hm)
  refine ⟨fun t s e hrun hm => ?_, hwhole, fun t s hrun sent hsent => ?_⟩
  · cases e with
    | submit m => exact submit_ne_copySize (h m (hm m rfl))
    | frame header data memory =>
      exact handleMessage_ne_copySize (Consistent.of_run hrun).iterator_ne_past
  · exact splits_of_whole fun f hf => hwhole t s hrun f (hsent f hf).1 (hsent f hf).2

end
end IPCSocketHandler
end FreeRil
