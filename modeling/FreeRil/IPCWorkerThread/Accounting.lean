import FreeRil.IPCWorkerThread.Pipeline

/-! Where all that has been submitted is, and that it leaves in the order it came in. -/
namespace FreeRil
open AndroidFileSystem

namespace IPCSocketHandler
open IPCWorkerThread (submitted)

variable {p : Protocol} {t : List (Event × List Action)} {s s' : IPCSocketHandler}

theorem requests_eq (t : List (Event × List Action)) :
    requests t = (submitted t).filter (·.requestType ≠ .event) := by
  induction t with
  | nil => rfl
  | cons x t ih =>
    obtain ⟨e, as⟩ := x
    have hcons : requests ((e, as) :: t) = requests [(e, as)] ++ requests t := by
      simp [requests]
    rw [hcons, ih]
    cases e with
    | frame header data memory => rfl
    | submit m =>
      have htail : submitted ((.submit m, as) :: t) = m :: submitted t := rfl
      rw [htail, List.filter_cons]
      by_cases hop : m.requestType = .event
      · simp [requests, hop]
      · simp [requests, hop]

/-- A step sends the message it is given. -/
theorem step_sends {e : Event} {as : List Action} (h : Accounted t s)
    (hs : (machine p).step s e = .ok (s', as)) :
    (frames [(e, as)]).map Frame.message = submitted [(e, as)] := by
  cases e with
  | submit m =>
    cases submit_cases hs with
    | queued hfree =>
      obtain ⟨val, hval, -⟩ := h.iterator
      simp [hfree] at hval
    | unmarshalled _ hdata =>
      rw [Message.marshal_eq] at hdata
      contradiction
    | event => simp [frames, submitted]
    | request => simp [frames, submitted]
  | frame header data memory =>
    cases handleMessage_cases h.consistent.iterator_ne_past hs with
    | idle _ hactions =>
      have hnil : frames [(.frame header data memory, as)] = [] := by
        rw [frames, List.flatMap_singleton]
        exact filterMap_delivers (fun _ => rfl) hactions
      rw [hnil]
      rfl
    | answered => simp [frames, submitted]

/-- What an ordinary history sends is what it has been given, in this order. -/
theorem sends_in_order (h : (machine p).Run t s) (ho : Ordinary p t) :
    (frames t).map Frame.message = submitted t := by
  induction h with
  | start => rfl
  | @step t s e s' as run hs ih =>
    have hpast := ho.of_prefix (List.prefix_append t _)
    have hlast := step_sends (Accounted.of_run run hpast) hs
    rw [frames] at hlast ⊢
    rw [List.flatMap_append, List.map_append, hlast, IPCWorkerThread.submitted_append]
    exact congrArg (· ++ submitted [(e, as)]) (ih hpast)

theorem transmit_length (wire : AList fun _ : UInt8 => Message) (as : List Action) :
    (as.foldl transmit wire).entries.length ≤ wire.entries.length + as.length := by
  induction as generalizing wire with
  | nil => exact le_rfl
  | cons a as ih =>
    have hone : (transmit wire a).entries.length ≤ wire.entries.length + 1 := by
      cases a with
      | send frame header m =>
        rw [transmit]
        split_ifs
        · exact Nat.le_succ _
        · rw [AList.entries_insert]
          exact Nat.succ_le_succ (List.kerase_sublist _ _).length_le
      | complete request reply => exact Nat.le_succ _
      | deliver m => exact Nat.le_succ _
    have hrest := ih (transmit wire a)
    rw [List.foldl_cons, List.length_cons]
    omega

/-- No more is unanswered than has been done. -/
theorem unanswered_length (t : List (Event × List Action)) :
    (unanswered t).entries.length ≤ (t.flatMap Prod.snd).length := by
  induction t using List.reverseRecOn with
  | nil => exact le_rfl
  | append_singleton t x ih =>
    obtain ⟨e, as⟩ := x
    have hreceive : (receive (unanswered t) e).entries.length ≤ (unanswered t).entries.length := by
      cases e with
      | submit m => exact le_rfl
      | frame header data memory =>
        rw [receive]
        split_ifs
        · exact (List.kerase_sublist _ _).length_le
        · exact le_rfl
    have hsend := transmit_length (receive (unanswered t) e) as
    rw [unanswered_append, List.flatMap_append, List.length_append, List.flatMap_singleton]
    dsimp only
    omega

/-- A short history is ordinary if its frames demarshal. -/
theorem ordinary_of_short {t : List (Event × List Action)} (hlength : (t.flatMap Prod.snd).length ≤ 254)
    (hbody : ∀ header data memory as, (Event.frame header data memory, as) ∈ t →
      ∃ message, demarshal p header data memory = .ok (some message)) : Ordinary p t := by
  refine ⟨hbody, fun t₁ ht₁ => ?_⟩
  obtain ⟨t₂, rfl⟩ := ht₁
  have hle := unanswered_length t₁
  rw [List.flatMap_append, List.length_append] at hlength
  omega

end IPCSocketHandler

namespace IPCWorkerThread
open IPCSocketHandler

variable {p : Protocol} {localtime_r : ℤ → BrokenDownTime} {md5 : Bytes → Vector UInt8 16}
  {fs : AndroidFileSystem} {t : List Event} {s : IPCWorkerThread}

/-- The messages among what is written to a pipe. -/
def messages (pipe : List (Option Message)) : List Message := pipe.filterMap id

theorem messages_submitted (h : Pipeline p localtime_r md5 fs t s) :
    messages (submissions t) = submitted (ipcHistory t) ++ messages s.m_controlPipe := by
  have hstopped : messages s.hasStopped = [] := by
    unfold hasStopped
    split <;> rfl
  have hmap : messages ((submitted (ipcHistory t)).map some) = submitted (ipcHistory t) := by
    simp [messages]
  rw [h.pipe, messages, List.filterMap_append, h.taken, List.filterMap_append]
  rw [messages] at hmap hstopped
  rw [hmap, hstopped, List.append_nil]
  rfl

/-- While every frame demarshals and at most 254 requests are unanswered, what any threads have
submitted has been sent, in the order in which it was written to the pipe, or is still in the pipe, in
that order. Each request among it is in the pipe, or in the air under a number of its own, or has been
completed, and this once. -/
theorem submissions_accounted (h : Runs p localtime_r md5 fs t s) (ho : Ordinary p (ipcHistory t)) :
    messages (submissions t) = (frames (ipcHistory t)).map Frame.message ++ messages s.m_controlPipe ∧
    ((messages (submissions t)).filter (·.requestType ≠ .event)).Perm
      ((messages s.m_controlPipe).filter (·.requestType ≠ .event) ++
        (unanswered (ipcHistory t)).entries.map Sigma.snd ++ completions (ipcHistory t)) ∧
    ∀ k, s.ipc.m_messagesInAir k = (unanswered (ipcHistory t)).lookup k := by
  have hpipeline := (Invariant.of_run h).toPipeline
  have haccounted := Accounted.of_run hpipeline.ipc_run ho
  have hmessages := messages_submitted hpipeline
  refine ⟨?_, ?_, haccounted.inAir⟩
  · rw [hmessages, sends_in_order hpipeline.ipc_run ho]
  · rw [hmessages, List.filter_append, ← requests_eq, List.append_assoc]
    exact (haccounted.perm.append_right _).trans List.perm_append_comm

theorem run_answered_accounted : ∃ t s,
    Runs protocol (fun _ => ⟨0, 0, 0, 0, 0, 0⟩) (fun _ => Vector.replicate 16 0)
      ⟨str "/fw", str "/efs", 3, false, ∅, ∅⟩ t s ∧
    submissions t = [some powerOff, some powerOff] ∧ received t .IPC = commandComplete ∧
    messages (submissions t) = (frames (ipcHistory t)).map Frame.message ++ messages s.m_controlPipe ∧
    ((messages (submissions t)).filter (·.requestType ≠ .event)).Perm
      ((messages s.m_controlPipe).filter (·.requestType ≠ .event) ++
        (unanswered (ipcHistory t)).entries.map Sigma.snd ++ completions (ipcHistory t)) := by
  obtain ⟨t, s, sent, reply, sent', h, hsubmissions, hreceived, hhistory⟩ := run_answered
    (fun _ => ⟨0, 0, 0, 0, 0, 0⟩) (fun _ => Vector.replicate 16 0) ⟨str "/fw", str "/efs", 3, false, ∅, ∅⟩
    ⟨fun _ => 0, fun _ => true⟩
  have ho : Ordinary protocol (ipcHistory t) := by
    apply ordinary_of_short
    · rw [hhistory]
      exact Nat.le_of_ble_eq_true rfl
    · intro header data memory as hmem
      rw [hhistory] at hmem
      obtain ⟨⟨rfl, rfl, rfl⟩, -⟩ : (header = _ ∧ data = _ ∧ memory = _) ∧ _ := by
        simpa [ipcFrame] using hmem
      exact demarshal_command_complete _
  obtain ⟨horder, hperm, -⟩ := submissions_accounted h ho
  exact ⟨t, s, h, hsubmissions, hreceived, horder, hperm⟩

end IPCWorkerThread
end FreeRil
