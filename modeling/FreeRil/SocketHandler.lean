import FreeRil.Message

/-! Reassembly of frames from the chunks a socket delivers.
Sizes are natural numbers: a run in which every `malloc` and `realloc` succeeds keeps them below
the size of the address space. Bytes the allocator leaves unset are written as zero; they lie
behind `m_reassemblyBufUsed`. `memcpy` moves the remainder down as `memmove` would. -/
namespace FreeRil

def IOBufSize : ℕ := 4096

/-- Why a call does not return: the process was stopped, or a loop is still running. -/
inductive Halt
  | panic (message : String)
  | running
  deriving DecidableEq, Repr

structure SocketHandler where
  m_reassemblyBuf : Bytes
  m_reassemblyBufSize : ℕ
  m_reassemblyBufUsed : ℕ

namespace SocketHandler

/-- The state the constructor leaves. -/
def init : SocketHandler := ⟨List.replicate IOBufSize 0, IOBufSize, 0⟩

/-- The bytes received and not yet handed on. -/
def held (h : SocketHandler) : Bytes := h.m_reassemblyBuf.take h.m_reassemblyBufUsed

/-- The space offered to `recv`. -/
def space (h : SocketHandler) : ℕ := h.m_reassemblyBufSize - h.m_reassemblyBufUsed

/-- `recv` stores a chunk behind the bytes held. -/
def recv (h : SocketHandler) (chunk : Bytes) : SocketHandler :=
  { h with
    m_reassemblyBuf := h.m_reassemblyBuf.take h.m_reassemblyBufUsed ++ chunk ++
      h.m_reassemblyBuf.drop (h.m_reassemblyBufUsed + chunk.length)
    m_reassemblyBufUsed := h.m_reassemblyBufUsed + chunk.length }

/-- One iteration of the loop of `readable`; the bytes held when `handleReassembledMessage` is
called with the buffer are its result. -/
def reassemble (F : Framing.Format UInt8) (h : SocketHandler) : Option (Bytes × SocketHandler) :=
  if h.m_reassemblyBufUsed < F.headerSize then none
  else
    let size := F.messageSize h.m_reassemblyBuf
    if h.m_reassemblyBufUsed < size then none
    else
      let newUsed := h.m_reassemblyBufUsed - size
      some (h.held,
        { h with
          m_reassemblyBuf := (h.m_reassemblyBuf.drop size).take newUsed ++
            h.m_reassemblyBuf.drop newUsed
          m_reassemblyBufUsed := newUsed })

/-- The end of `readable`: `realloc` to `IOBufSize` bytes more than are held. -/
def grow (h : SocketHandler) : SocketHandler :=
  if h.m_reassemblyBufSize - h.m_reassemblyBufUsed ≠ IOBufSize then
    let newSize := h.m_reassemblyBufUsed + IOBufSize
    { h with
      m_reassemblyBuf := h.m_reassemblyBuf.take newSize ++
        List.replicate (newSize - h.m_reassemblyBuf.length) 0
      m_reassemblyBufSize := newSize }
  else h

/-- `readable`, when `recv` returns `chunk` and the loop may make `n` iterations. -/
def readable (F : Framing.Format UInt8) (n : ℕ) (h : SocketHandler) (chunk : Bytes) :
    Except Halt (List Bytes × SocketHandler) :=
  if chunk = [] then .error (.panic "End of stream")
  else
    match Loop.run (reassemble F) n (h.recv chunk) with
    | none => .error .running
    | some (handed, h') => .ok (handed, h'.grow)

/-- Successive calls of `readable`, one for each chunk. -/
def session (F : Framing.Format UInt8) (n : ℕ) :
    SocketHandler → List Bytes → Except Halt (List Bytes × SocketHandler)
  | h, [] => .ok ([], h)
  | h, chunk :: chunks =>
    match readable F n h chunk with
    | .error e => .error e
    | .ok (first, h') => (session F n h' chunks).map fun r => (first ++ r.1, r.2)

/-- Every chunk is non-empty and fits the space offered when it is received. -/
def Offered (F : Framing.Format UInt8) : SocketHandler → List Bytes → Prop
  | _, [] => True
  | h, chunk :: chunks => chunk ≠ [] ∧ chunk.length ≤ h.space ∧
    ∀ n handed h', readable F n h chunk = .ok (handed, h') → Offered F h' chunks

/-- The buffer is as long as its size says, and holds what is used. -/
structure Fits (h : SocketHandler) : Prop where
  buf_length : h.m_reassemblyBuf.length = h.m_reassemblyBufSize
  used_le : h.m_reassemblyBufUsed ≤ h.m_reassemblyBufSize

/-- What holds at each entry to `readable`. -/
structure Ready (F : Framing.Format UInt8) (h : SocketHandler) : Prop where
  buf_length : h.m_reassemblyBuf.length = h.m_reassemblyBufSize
  size_eq : h.m_reassemblyBufSize = h.m_reassemblyBufUsed + IOBufSize
  idle : F.next h.held = none

variable {F : Framing.Format UInt8} {h : SocketHandler}

theorem init_ready : Ready F init :=
  ⟨List.length_replicate, rfl, by simp [init, held]⟩

theorem Ready.space_eq (hr : Ready F h) : h.space = IOBufSize := by
  have := hr.size_eq
  simp only [space]
  omega

theorem Fits.held_length (hf : Fits h) : h.held.length = h.m_reassemblyBufUsed := by
  have h₁ := hf.buf_length
  have h₂ := hf.used_le
  simp only [held, List.length_take]
  omega

theorem recv_held (hr : Ready F h) (chunk : Bytes) : (h.recv chunk).held = h.held ++ chunk := by
  have hlen : h.held.length = h.m_reassemblyBufUsed := by
    have h₁ := hr.buf_length
    have h₂ := hr.size_eq
    simp only [held, List.length_take]
    omega
  have hsum : (h.held ++ chunk).length = h.m_reassemblyBufUsed + chunk.length := by simp [hlen]
  change (h.held ++ chunk ++ _).take (h.m_reassemblyBufUsed + chunk.length) = _
  rw [← hsum, List.take_left]

theorem recv_fits (hr : Ready F h) {chunk : Bytes} (hc : chunk.length ≤ h.space) :
    Fits (h.recv chunk) := by
  have h₁ := hr.buf_length
  have h₂ := hr.size_eq
  rw [hr.space_eq] at hc
  constructor
  · simp only [recv, List.length_append, List.length_take, List.length_drop]
    omega
  · simp only [recv]
    omega

/-- An iteration of the loop is an iteration of the splitting loop on the bytes held. -/
theorem reassemble_held (hf : Fits h) :
    (reassemble F h).map (Prod.map id held) = F.next h.held := by
  have hlen := hf.held_length
  have hbuf : h.m_reassemblyBuf = h.held ++ h.m_reassemblyBuf.drop h.m_reassemblyBufUsed :=
    (List.take_append_drop _ _).symm
  by_cases h₁ : h.m_reassemblyBufUsed < F.headerSize
  · simp [reassemble, Framing.Format.next, hlen, h₁]
  · have hsize : F.messageSize h.m_reassemblyBuf = F.messageSize h.held := by
      conv_lhs => rw [hbuf]
      exact F.messageSize_append _ _ (by omega)
    by_cases h₂ : h.m_reassemblyBufUsed < F.messageSize h.held
    · simp [reassemble, Framing.Format.next, hlen, hsize, h₁, h₂]
    · have hbl := hf.buf_length
      have hu := hf.used_le
      simp only [reassemble, Framing.Format.next, hlen, hsize, if_neg h₁, if_neg h₂,
        Option.map_some, Prod.map_apply, id_eq, Option.some.injEq, Prod.mk.injEq, true_and]
      simp only [held]
      rw [List.take_append_of_le_length (by simp; omega), List.take_take, Nat.min_self,
        List.drop_take]

theorem reassemble_fits {d : Bytes} {h' : SocketHandler} (hf : Fits h)
    (hs : reassemble F h = some (d, h')) : Fits h' := by
  have h₁ := hf.buf_length
  have h₂ := hf.used_le
  simp only [reassemble] at hs
  split at hs
  · contradiction
  · split at hs
    · contradiction
    · rename_i hu hsz
      obtain ⟨-, rfl⟩ := by simpa using hs
      constructor
      · simp only [List.length_append, List.length_take, List.length_drop]
        omega
      · simp only
        omega

theorem grow_held (hf : Fits h) : h.grow.held = h.held := by
  unfold grow
  split_ifs with hs
  · have h₁ := hf.buf_length
    have h₂ := hf.used_le
    simp only [held]
    rw [List.take_append_of_le_length (by simp; omega), List.take_take]
    congr 1
    omega
  · rfl

theorem grow_ready (hf : Fits h) (hidle : F.next h.held = none) : Ready F h.grow := by
  have h₁ := hf.buf_length
  have h₂ := hf.used_le
  refine ⟨?_, ?_, by rw [grow_held hf]; exact hidle⟩
  · unfold grow
    split_ifs with hs
    · simp only [List.length_append, List.length_take, List.length_replicate]
      omega
    · exact h₁
  · unfold grow
    split_ifs with hs
    · rfl
    · simp only [IOBufSize] at hs ⊢
      omega

/-- The loop of `readable` is the splitting loop on the bytes held and the chunk. -/
theorem reassemble_run (hr : Ready F h) {chunk : Bytes} (hc : chunk.length ≤ h.space) (n : ℕ) :
    (Loop.run (reassemble F) n (h.recv chunk)).map (Prod.map id held) =
        Loop.run F.next n (h.held ++ chunk) ∧
      ∀ r, Loop.run (reassemble F) n (h.recv chunk) = some r → Fits r.2 := by
  rw [← recv_held hr]
  exact Loop.run_simulates (fun _ => reassemble_held) (fun _ _ _ => reassemble_fits) n
    (recv_fits hr hc)

/-- A call of `readable` that returns has split the bytes held and the chunk. -/
theorem readable_ok (hr : Ready F h) {chunk : Bytes} (hne : chunk ≠ [])
    (hc : chunk.length ≤ h.space) {n : ℕ} {handed : List Bytes} {h' : SocketHandler}
    (hok : readable F n h chunk = .ok (handed, h')) :
    Loop.run F.next n (h.held ++ chunk) = some (handed, h'.held) ∧ Ready F h' := by
  obtain ⟨hsim, hfits⟩ := reassemble_run hr hc n
  rw [readable, if_neg hne] at hok
  cases hrun : Loop.run (reassemble F) n (h.recv chunk) with
  | none => rw [hrun] at hok; contradiction
  | some r =>
    have hf : Fits r.2 := hfits _ hrun
    rw [hrun] at hok hsim
    obtain ⟨rfl, rfl⟩ := by simpa using hok
    rw [grow_held hf]
    exact ⟨hsim.symm, grow_ready hf (Loop.run_stops hsim.symm)⟩

/-- A call of `readable` returns where the splitting loop ends. -/
theorem readable_of_run (hr : Ready F h) {chunk : Bytes} (hne : chunk ≠ [])
    (hc : chunk.length ≤ h.space) {n : ℕ} {handed : List Bytes} {rest : Bytes}
    (hrun : Loop.run F.next n (h.held ++ chunk) = some (handed, rest)) :
    ∃ h', readable F n h chunk = .ok (handed, h') ∧ h'.held = rest ∧ Ready F h' := by
  rw [← (reassemble_run hr hc n).1] at hrun
  obtain ⟨⟨handed', h''⟩, hrun', he⟩ := Option.map_eq_some_iff.mp hrun
  obtain ⟨rfl, -⟩ := Prod.mk.inj he
  have hok : readable F n h chunk = .ok (handed', h''.grow) := by
    rw [readable, if_neg hne, hrun']
  obtain ⟨hsplit, hready⟩ := readable_ok hr hne hc hok
  rw [← (reassemble_run hr hc n).1, hrun] at hsplit
  exact ⟨_, hok, (Prod.mk.inj (Option.some.inj hsplit)).2.symm, hready⟩

end SocketHandler
end FreeRil
