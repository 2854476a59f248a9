import FreeRil.SocketHandler

/-! What the reassembly of the two channels hands on, over all ways a stream is cut in chunks. -/
namespace FreeRil
namespace SocketHandler
open Framing

variable {F : Format UInt8}

/-- A call that returns leaves the handler ready for the next one. -/
theorem session_cons {n : ℕ} {h h' : SocketHandler} {chunk : Bytes} {chunks : List Bytes}
    {first : List Bytes} (hr : readable F n h chunk = .ok (first, h')) :
    session F n h (chunk :: chunks) = (session F n h' chunks).map fun r => (first ++ r.1, r.2) := by
  rw [session, hr]

theorem readable_mono {n m : ℕ} {h : SocketHandler} {chunk : Bytes} {r : List Bytes × SocketHandler}
    (hr : readable F n h chunk = .ok r) (hnm : n ≤ m) : readable F m h chunk = .ok r := by
  simp only [readable] at hr ⊢
  split_ifs at hr ⊢ with hne
  cases hrun : Loop.run (reassemble F) n (h.recv chunk) with
  | none => rw [hrun] at hr; contradiction
  | some p =>
    rw [hrun] at hr
    rw [Loop.run_mono hrun hnm]
    exact hr

/-- More iterations at hand change nothing for calls that return. -/
theorem session_mono {n m : ℕ} {h : SocketHandler} {chunks : List Bytes}
    {r : List Bytes × SocketHandler} (hs : session F n h chunks = .ok r) (hnm : n ≤ m) :
    session F m h chunks = .ok r := by
  induction chunks generalizing h r with
  | nil => exact hs
  | cons chunk chunks ih =>
    cases hread : readable F n h chunk with
    | error e => rw [session, hread] at hs; contradiction
    | ok p =>
      rw [session_cons hread] at hs
      rw [session_cons (readable_mono hread hnm)]
      cases hsess : session F n p.2 chunks with
      | error e => rw [hsess] at hs; contradiction
      | ok q => rwa [ih hsess, ← hsess]

/-- Chunks of at most `IOBufSize` bytes always fit: that much is offered every time. -/
theorem offered_of_length {h : SocketHandler} {chunks : List Bytes} (hr : Ready F h)
    (hc : ∀ chunk ∈ chunks, chunk ≠ [] ∧ chunk.length ≤ IOBufSize) : Offered F h chunks := by
  induction chunks generalizing h with
  | nil => trivial
  | cons chunk chunks ih =>
    obtain ⟨hne, hlen⟩ := hc chunk (by simp)
    rw [← hr.space_eq] at hlen
    exact ⟨hne, hlen, fun n handed h' hok =>
      ih (readable_ok hr hne hlen hok).2 fun c hmem => hc c (by simp [hmem])⟩

/-- Along a stream of whole frames, the frames that have arrived in full are handed on and the
beginning of the next one is held. -/
theorem session_frames {frames : List Bytes} (hf : ∀ f ∈ frames, F.IsFrame f) {h : SocketHandler}
    (hr : Ready F h) {chunks : List Bytes} (hcut : Offered F h chunks) {later : Bytes}
    (hstream : h.held ++ chunks.flatten ++ later = frames.flatten) {n : ℕ}
    (hn : frames.length ≤ n) :
    ∃ handed h' todo, session F n h chunks = .ok (handed, h') ∧
      handed.map F.frame ++ todo = frames ∧ h'.held ++ later = todo.flatten ∧ Ready F h' := by
  induction chunks generalizing h frames with
  | nil => exact ⟨[], h, frames, rfl, rfl, by simpa using hstream, hr⟩
  | cons chunk chunks ih =>
    obtain ⟨hne, hc, hnext⟩ := hcut
    obtain ⟨ds, r, todo, hrun, hmap, hrest, -⟩ :=
      Format.run_frames hf (b := h.held ++ chunk) (t := chunks.flatten ++ later)
        (by simpa using hstream)
    obtain ⟨h₁, hok, rfl, hr₁⟩ := readable_of_run hr hne hc (Loop.run_mono hrun hn)
    have hlen : todo.length ≤ n := by
      have := congrArg List.length hmap
      simp only [List.length_append] at this
      omega
    obtain ⟨handed, h', todo', hsess, hmap', hrest', hr'⟩ :=
      ih (fun f hmem => hf f (by rw [← hmap]; simp [hmem])) hr₁ (hnext n ds h₁ hok)
        (by simpa using hrest) hlen
    refine ⟨ds ++ handed, h', todo', by rw [session_cons hok, hsess]; rfl, ?_, hrest', hr'⟩
    rw [List.map_append, List.append_assoc, hmap', hmap]

/-- What is held is shorter than the frame it begins. -/
theorem held_incomplete {h : SocketHandler} (hr : Ready F h) {f : Bytes} {fs : List Bytes}
    (hf : F.IsFrame f) {later : Bytes} (heq : h.held ++ later = (f :: fs).flatten) :
    h.held <+: f ∧ h.held.length < f.length := by
  rw [List.flatten_cons] at heq
  by_cases hlen : f.length ≤ h.held.length
  · have hpre : f <+: h.held :=
      List.prefix_of_prefix_length_le ⟨_, heq.symm⟩ (List.prefix_append _ _) hlen
    obtain ⟨t, ht⟩ := hpre
    have hidle := F.next_eq_none.mp hr.idle
    rw [← ht, F.messageSize_append f t hf.header_le, hf.size_eq, List.length_append] at hidle
    have := hf.header_le
    omega
  · exact ⟨List.prefix_of_prefix_length_le ⟨_, heq⟩ (List.prefix_append _ _) (by omega), by omega⟩

/-- Reassembly hands on exactly the frames of a stream, however it is cut in chunks, and keeps
exactly the bytes of the frame not yet complete; the space offered to `recv` is always the same
and lies inside the buffer. -/
theorem readable_frames (c : Channel) {frames : List Bytes} (hf : ∀ f ∈ frames, c.format.IsFrame f)
    {chunks : List Bytes} (hcut : Offered c.format init chunks) {later : Bytes}
    (hstream : chunks.flatten ++ later = frames.flatten) :
    ∃ n handed h todo, session c.format n init chunks = .ok (handed, h) ∧
      handed.map c.format.frame ++ todo = frames ∧ h.held ++ later = todo.flatten ∧
      (∀ f fs, todo = f :: fs → h.held <+: f ∧ h.held.length < f.length) ∧
      (later = [] → handed.map c.format.frame = frames ∧ h.held = []) ∧
      h.m_reassemblyBufSize = h.m_reassemblyBufUsed + IOBufSize ∧
      h.m_reassemblyBuf.length = h.m_reassemblyBufSize := by
  have hstart : init.held ++ chunks.flatten ++ later = frames.flatten := by
    simpa [init, held] using hstream
  obtain ⟨handed, h, todo, hsess, hmap, hrest, hr⟩ :=
    session_frames hf init_ready hcut hstart le_rfl
  have htodo : ∀ f fs, todo = f :: fs → h.held <+: f ∧ h.held.length < f.length := by
    rintro f fs rfl
    exact held_incomplete hr (hf f (by rw [← hmap]; simp)) hrest
  refine ⟨_, handed, h, todo, hsess, hmap, hrest, htodo, ?_, hr.size_eq, hr.buf_length⟩
  rintro rfl
  cases todo with
  | nil => simpa using And.intro hmap hrest
  | cons f fs =>
    have hlt := (htodo f fs rfl).2
    have hlen := congrArg List.length hrest
    simp only [List.append_nil, List.flatten_cons, List.length_append] at hlen
    omega

/-- Two frames of the IPC channel in three chunks, the header of the second one torn apart. -/
theorem two_frames_readable :
    ∃ n handed h todo, session Channel.IPC.format n init
        [[8, 0, 1, 0, 128, 1, 2], [5, 7, 0], [2, 0, 128, 1, 2]] = .ok (handed, h) ∧
      handed.map Channel.IPC.format.frame ++ todo =
        [[8, 0, 1, 0, 128, 1, 2, 5], [7, 0, 2, 0, 128, 1, 2]] ∧ h.held ++ [] = todo.flatten ∧
      (∀ f fs, todo = f :: fs → h.held <+: f ∧ h.held.length < f.length) ∧
      (([] : Bytes) = [] → handed.map Channel.IPC.format.frame =
        [[8, 0, 1, 0, 128, 1, 2, 5], [7, 0, 2, 0, 128, 1, 2]] ∧ h.held = []) ∧
      h.m_reassemblyBufSize = h.m_reassemblyBufUsed + IOBufSize ∧
      h.m_reassemblyBuf.length = h.m_reassemblyBufSize :=
  readable_frames .IPC (by rintro f hf; fin_cases hf <;> exact ⟨by decide, by decide⟩)
    (offered_of_length init_ready (by decide)) rfl

/-- What is asked of the frames handed on: the iteration consumes something, and the payload
that `handleMessage` computes starts after the header and ends with the received frame. -/
structure Sound (c : Channel) (data : Bytes) : Prop where
  progress : 0 < c.format.messageSize data
  header_le : c.format.headerSize ≤ c.format.messageSize data
  payload_end : c.format.headerSize + c.payloadLength data = c.format.messageSize data
  received : c.format.messageSize data ≤ data.length

/-- All calls of `readable` return, and every frame handed on is sound. -/
def Safe (c : Channel) (h : SocketHandler) (chunks : List Bytes) : Prop :=
  ∃ n handed h', session c.format n h chunks = .ok (handed, h') ∧ ∀ d ∈ handed, Sound c d

theorem sound_iff (c : Channel) {n : ℕ} {b r : Bytes} {ds : List Bytes}
    (hrun : Loop.run c.format.next n b = some (ds, r)) :
    (∀ d ∈ ds, Sound c d) ↔ ∀ d ∈ ds, c.format.headerSize ≤ c.format.messageSize d := by
  constructor
  · exact fun h d hd => (h d hd).header_le
  · intro h d hd
    have hpos := c.format.headerSize_pos
    have hle := h d hd
    exact ⟨by omega, hle, (c.payload_inside_iff d).mpr hle, Format.run_received hrun d hd⟩

/-- From any state between two calls, safety is well-framedness of all bytes not yet handed on. -/
theorem safe_iff {c : Channel} {h : SocketHandler} (hr : Ready c.format h) {chunks : List Bytes}
    (hcut : Offered c.format h chunks) :
    Safe c h chunks ↔ c.format.WellFramed (h.held ++ chunks.flatten) := by
  induction chunks generalizing h with
  | nil =>
    simp only [List.flatten_nil, List.append_nil]
    exact ⟨fun _ => .stop hr.idle, fun _ => ⟨0, [], h, rfl, by simp⟩⟩
  | cons chunk chunks ih =>
    obtain ⟨hne, hc, hnext⟩ := hcut
    rw [List.flatten_cons, ← List.append_assoc]
    constructor
    · rintro ⟨n, handed, h', hs, hsound⟩
      cases hread : readable c.format n h chunk with
      | error e => simp [session, hread] at hs
      | ok p =>
        obtain ⟨first, h₁⟩ := p
        obtain ⟨hrun, hr₁⟩ := readable_ok hr hne hc hread
        rw [session_cons hread] at hs
        cases hsess : session c.format n h₁ chunks with
        | error e => rw [hsess] at hs; contradiction
        | ok q =>
          rw [hsess] at hs
          obtain ⟨rfl, rfl⟩ := Prod.mk.inj (Except.ok.inj hs)
          have hfirst := (sound_iff c hrun).mp fun d hd => hsound d (by simp [hd])
          rw [Format.wellFramed_append_iff hrun hfirst]
          exact (ih hr₁ (hnext n first h₁ hread)).mp
            ⟨n, q.1, q.2, hsess, fun d hd => hsound d (by simp [hd])⟩
    · intro hw
      obtain ⟨n, ds, r, hrun, hds⟩ := Format.wellFramed_iff_run.mp hw.of_append
      rw [Format.wellFramed_append_iff hrun hds] at hw
      obtain ⟨h₁, hread, rfl, hr₁⟩ := readable_of_run hr hne hc hrun
      obtain ⟨m, handed, h', hsess, hsound⟩ := (ih hr₁ (hnext n ds h₁ hread)).mpr hw
      refine ⟨max n m, ds ++ handed, h', ?_, ?_⟩
      · rw [session_cons (readable_mono hread (le_max_left n m)),
          session_mono hsess (le_max_right n m)]
        rfl
      · intro d hd
        rcases List.mem_append.mp hd with hd | hd
        · exact (sound_iff c hrun).mpr hds d hd
        · exact hsound d hd

/-- A header with a length field of zero keeps the loop running for ever. -/
theorem zero_length_running (n : ℕ) (r : List Bytes × SocketHandler) :
    session Channel.IPC.format n init [[0, 0, 1, 0, 128, 1, 2]] ≠ .ok r := by
  intro hs
  have hfixed : Channel.IPC.format.next [0, 0, 1, 0, 128, 1, 2] =
      some ([0, 0, 1, 0, 128, 1, 2], [0, 0, 1, 0, 128, 1, 2]) := by decide
  cases hread : readable Channel.IPC.format n init [0, 0, 1, 0, 128, 1, 2] with
  | error e => rw [session, hread] at hs; contradiction
  | ok p =>
    have hrun := (readable_ok init_ready (by decide) (by decide) hread).1
    exact Loop.not_terminates_of_fixed hfixed ⟨n, _, hrun⟩

/-- The calls of `readable` on a stream return and hand on sound frames exactly when every
complete header the stream has at a frame boundary carries a length that covers the header. -/
theorem safe_iff_wellFramed (c : Channel) {chunks : List Bytes}
    (hcut : Offered c.format init chunks) :
    Safe c init chunks ↔ c.format.WellFramed chunks.flatten := by
  simpa [init, held] using safe_iff init_ready hcut

/-- A whole empty frame of the RFS channel is safe. -/
theorem empty_frame_safe : Safe .RFS init [[6, 0, 0, 0, 1, 0]] :=
  (safe_iff_wellFramed .RFS (offered_of_length init_ready (by decide))).mpr
    (.frame (r := []) (by decide) (by decide) (.stop (by decide)))

/-- A header of length zero leaves `readable` in its loop; a header of length three is handed on
and its payload length comes out larger than all that was received. -/
theorem short_length_unsafe :
    (Offered Channel.IPC.format init [[0, 0, 1, 0, 128, 1, 2]] ∧
      (∀ n r, session Channel.IPC.format n init [[0, 0, 1, 0, 128, 1, 2]] ≠ .ok r) ∧
      ¬ Safe .IPC init [[0, 0, 1, 0, 128, 1, 2]]) ∧
    Offered Channel.RFS.format init [[3, 0, 0, 0, 1, 0]] ∧
      Channel.RFS.payloadLength [3, 0, 0, 0, 1, 0] = 2 ^ 32 - 3 ∧
      ¬ Safe .RFS init [[3, 0, 0, 0, 1, 0]] := by
  have hcut : Offered Channel.RFS.format init [[3, 0, 0, 0, 1, 0]] :=
    offered_of_length init_ready (by decide)
  refine ⟨⟨offered_of_length init_ready (by decide), zero_length_running, ?_⟩, hcut, by decide, ?_⟩
  · rintro ⟨n, handed, h, hs, -⟩
    exact zero_length_running n _ hs
  · intro hsafe
    have hw := (safe_iff init_ready hcut).mp hsafe
    cases hw with
    | stop hnext => exact absurd hnext (by decide)
    | frame _ hsize _ => exact absurd hsize (by decide)

end SocketHandler
end FreeRil
