import FreeRil.IPCSocketHandler.Exhaustion
import FreeRil.IPCSocketHandler.Frames
import FreeRil.IPCSocketHandler.Requests
import FreeRil.IPCWorkerThread

/-! What the thread has done with all that has been submitted, and all that has arrived. -/
namespace FreeRil
open AndroidFileSystem Program

namespace RFSSocketHandler
variable {localtime_r : ℤ → BrokenDownTime}

theorem session_append (frames frames' : List (Bytes × Leftover)) :
    session localtime_r (frames ++ frames') = session localtime_r frames >>= fun
      | (sent, some fault) => return (sent, some fault)
      | (sent, none) => session localtime_r frames' >>= fun r => return (sent ++ r.1, r.2) := by
  induction frames with
  | nil =>
    change session localtime_r frames' = session localtime_r frames' >>= done
    rw [bind_done]
  | cons x frames ih =>
    obtain ⟨data, leftover⟩ := x
    rw [List.cons_append, session, session, bind_assoc]
    congr 1
    funext r
    cases r with
    | error fault => rfl
    | ok sent =>
      change session localtime_r (frames ++ frames') >>= _ =
        (session localtime_r frames >>= _) >>= _
      rw [ih, bind_assoc, bind_assoc]
      congr 1
      funext r
      obtain ⟨sent', fault⟩ := r
      cases fault with
      | some fault => rfl
      | none =>
        change (session localtime_r frames' >>= _) >>= _ = session localtime_r frames' >>= _
        rw [bind_assoc]
        congr 1
        funext r
        change done (sent ++ (sent' ++ r.1), r.2) = done (sent ++ sent' ++ r.1, r.2)
        rw [List.append_assoc]

section
variable {Op' σ : Type} {Ret' : Op' → Type}
  {answer : σ → (op : IFileSystem) → Program Ret' (σ × op.Ret)}

/-- A session may be taken up where another has ended. -/
theorem trace_append {frames frames' : List (Bytes × Leftover)} {s s' s'' : σ}
    {t t' : List (Event Ret')} {sent sent' : List Bytes}
    (h : Trace ((session localtime_r frames).interpret answer s) t (.done (s', sent, none)))
    (h' : Trace ((session localtime_r frames').interpret answer s') t' (.done (s'', sent', none))) :
    Trace ((session localtime_r (frames ++ frames')).interpret answer s) (t ++ t')
      (.done (s'', sent ++ sent', none)) := by
  rw [session_append, interpret_bind]
  refine (h.bind _).append ?_
  change Trace (interpret answer (session localtime_r frames' >>= _) s') t' _
  rw [interpret_bind]
  have hrest := h'.bind fun r => interpret answer (done (sent ++ r.2.1, r.2.2)) r.1
  exact hrest

end
end RFSSocketHandler

namespace IPCWorkerThread
variable {p : Protocol} {localtime_r : ℤ → BrokenDownTime} {md5 : Bytes → Vector UInt8 16}
  {fs : AndroidFileSystem} {t : List Event} {s s' : IPCWorkerThread}

/-- The frames of one call are steps of the handler. -/
theorem handleFrames_run {handed : List (Bytes × Memory)} {h h' : IPCSocketHandler}
    {past history : List (IPCSocketHandler.Event × List Action)}
    (hrun : (IPCSocketHandler.machine p).Run past h)
    (hok : handleFrames p h handed = .ok (h', history)) :
    (IPCSocketHandler.machine p).Run (past ++ history) h' ∧ history.map Prod.fst =
      handed.map ipcFrame := by
  induction handed generalizing h past history with
  | nil =>
    cases hok
    rw [List.append_nil]
    exact ⟨hrun, rfl⟩
  | cons x handed ih =>
    obtain ⟨data, memory⟩ := x
    simp only [handleFrames, Bind.bind, Except.bind, Pure.pure, Except.pure] at hok
    cases hfirst : h.handleReassembledMessage p data memory with
    | error fault => simp [hfirst] at hok
    | ok r =>
      obtain ⟨h₁, actions⟩ := r
      cases hrest : handleFrames p h₁ handed with
      | error fault => simp [hfirst, hrest] at hok
      | ok r =>
        obtain ⟨h₂, rest⟩ := r
        simp only [hfirst, hrest, Except.ok.injEq, Prod.mk.injEq] at hok
        obtain ⟨rfl, rfl⟩ := hok
        obtain ⟨hrun', hevents⟩ := ih (hrun.step (e := ipcFrame (data, memory)) hfirst) hrest
        rw [List.append_assoc] at hrun'
        refine ⟨hrun', ?_⟩
        rw [List.map_cons, List.map_cons, hevents]

/-- The messages that the handler of the IPC channel has been given. -/
def submitted (history : List (IPCSocketHandler.Event × List Action)) : List Message :=
  history.filterMap fun x => match x.1 with
    | .submit message => some message
    | .frame .. => none

/-- The frames that the handler of the IPC channel has been given. -/
def framesHandled (history : List (IPCSocketHandler.Event × List Action)) :
    List IPCSocketHandler.Event :=
  history.filterMap fun x => match x.1 with
    | .submit _ => none
    | .frame header data memory => some (.frame header data memory)

/-- The thread has taken the pipe's end. -/
def hasStopped (s : IPCWorkerThread) : List (Option Message) :=
  match s.dispatching with
  | .stopped => [none]
  | _ => []

/-- What the thread has made of all that has come to it. -/
structure Pipeline (p : Protocol) (localtime_r : ℤ → BrokenDownTime) (md5 : Bytes → Vector UInt8 16)
    (fs : AndroidFileSystem) (t : List Event) (s : IPCWorkerThread) : Prop where
  /-- The pipe is a queue. -/
  pipe : submissions t = takings t ++ s.m_controlPipe
  /-- What has been taken from it, up to the end, the handler of the IPC channel has been given. -/
  taken : takings t = (submitted (ipcHistory t)).map some ++ s.hasStopped
  /-- It has been given the frames of all that has arrived. -/
  ipc_cuts : Channel.IPC.format.Cuts (received t .IPC)
    ((ipcHanded t).map fun x => Channel.IPC.format.frame x.1)
    s.ipcBuffer.held
  ipc_handled : framesHandled (ipcHistory t) = (ipcHanded t).map ipcFrame
  /-- It is where its history leads. -/
  ipc_run : (IPCSocketHandler.machine p).Run (ipcHistory t) s.ipc
  /-- The requests of the RFS channel have been those of all that has arrived there. -/
  rfs_cuts : Channel.RFS.format.Cuts (received t .RFS)
    ((rfsFrames t).map fun x => Channel.RFS.format.frame x.1) s.rfsBuffer.held
  /-- They have been answered one after the other. -/
  rfs_served :
    ∃ t', Trace ((RFSSocketHandler.session localtime_r (rfsFrames t)).interpret (answer md5) fs)
    t' (.done (s.m_filesystem, rfsSent t, none))

/-- With the buffers as every call leaves them. -/
structure Invariant (p : Protocol) (localtime_r : ℤ → BrokenDownTime)
    (md5 : Bytes → Vector UInt8 16)
    (fs : AndroidFileSystem) (t : List Event) (s : IPCWorkerThread) : Prop
    extends Pipeline p localtime_r md5 fs t s where
  ipc_ready : s.ipcBuffer.Ready Channel.IPC.format
  rfs_ready : s.rfsBuffer.Ready Channel.RFS.format

section
variable (e : Event)

theorem submissions_append : submissions (t ++ [e]) = submissions t ++ submissions [e] :=
  List.filterMap_append

theorem takings_append : takings (t ++ [e]) = takings t ++ takings [e] := List.filterMap_append

theorem received_append (channel : Channel) :
    received (t ++ [e]) channel = received t channel ++ received [e] channel := List.flatMap_append

theorem ipcHanded_append : ipcHanded (t ++ [e]) = ipcHanded t ++ ipcHanded [e] :=
  List.flatMap_append

theorem ipcHistory_append : ipcHistory (t ++ [e]) = ipcHistory t ++ ipcHistory [e] :=
  List.flatMap_append

theorem rfsFrames_append : rfsFrames (t ++ [e]) = rfsFrames t ++ rfsFrames [e] :=
  List.flatMap_append

theorem rfsSent_append : rfsSent (t ++ [e]) = rfsSent t ++ rfsSent [e] := List.flatMap_append

end

theorem initial_invariant : Invariant p localtime_r md5 fs [] (initial fs) where
  pipe := rfl
  taken := rfl
  ipc_cuts := Framing.Format.cuts_nil
  ipc_handled := rfl
  ipc_run := .start
  rfs_cuts := Framing.Format.cuts_nil
  rfs_served := ⟨[], .nil _⟩
  ipc_ready := SocketHandler.init_ready
  rfs_ready := SocketHandler.init_ready

/-- What a call of `readable` hands on has been cut off what had arrived with it. -/
theorem readable_cuts {F : Framing.Format UInt8} {buffer buffer' : SocketHandler}
    (hready : buffer.Ready F)
    {chunk : Bytes} (hspace : chunk.length ≤ buffer.space) {n : ℕ} {handed : List Bytes}
    (hread : buffer.readable F n chunk = .ok (handed, buffer')) :
    F.Cuts (buffer.held ++ chunk) (handed.map F.frame) buffer'.held ∧ buffer'.Ready F := by
  have hne : chunk ≠ [] := by
    rintro rfl
    simp [SocketHandler.readable] at hread
  obtain ⟨hrun, hready'⟩ := SocketHandler.readable_ok hready hne hspace hread
  exact ⟨.of_run hrun, hready'⟩

section
variable {past history : List (IPCSocketHandler.Event × List Action)}

theorem submitted_append : submitted (past ++ history) = submitted past ++ submitted history :=
  List.filterMap_append

theorem framesHandled_append :
    framesHandled (past ++ history) = framesHandled past ++ framesHandled history :=
  List.filterMap_append

/-- Calls for frames are given these and no message. -/
theorem given_frames {handed : List (Bytes × Memory)}
    (h : history.map Prod.fst = handed.map ipcFrame) :
    submitted history = [] ∧ framesHandled history = handed.map ipcFrame := by
  induction history generalizing handed with
  | nil => exact ⟨rfl, h⟩
  | cons x history ih =>
    cases handed with
    | nil => simp at h
    | cons data handed =>
      obtain ⟨e, actions⟩ := x
      obtain ⟨he, hrest⟩ := List.cons_eq_cons.mp h
      obtain rfl : e = ipcFrame data := he
      obtain ⟨hsubmitted, hframes⟩ := ih hrest
      exact ⟨hsubmitted, congrArg (ipcFrame data :: ·) hframes⟩

end

theorem hasStopped_of {s : IPCWorkerThread} (h : s.dispatching ≠ .stopped) : s.hasStopped = [] := by
  unfold hasStopped
  split
  · rename_i hs
    exact absurd hs h
  · rfl

namespace Invariant

/-- A step that the pipe alone sees, or where the thread goes on. -/
theorem of_same (h : Invariant p localtime_r md5 fs t s) {e : Event} {d : Dispatching}
    {pipe : List (Option Message)} (hpipe : submissions (t ++ [e]) = takings t ++ pipe)
    (hstopped : ({ s with dispatching := d, m_controlPipe := pipe } : IPCWorkerThread).hasStopped =
      s.hasStopped)
    (htakings : takings [e] = []) (hreceived : ∀ channel, received [e] channel = [])
    (hhanded : ipcHanded [e] = []) (hhistory : ipcHistory [e] = []) (hframes : rfsFrames [e] = [])
    (hsent : rfsSent [e] = []) :
    Invariant p localtime_r md5 fs (t ++ [e])
      { s with dispatching := d, m_controlPipe := pipe } where
  pipe := by rw [takings_append, htakings, List.append_nil, hpipe]
  taken := by
    rw [takings_append, htakings, List.append_nil, ipcHistory_append, hhistory, List.append_nil,
      hstopped,
      h.taken]
  ipc_cuts := by
    rw [received_append, hreceived, List.append_nil, ipcHanded_append, hhanded, List.append_nil]
    exact h.ipc_cuts
  ipc_handled := by
    rw [ipcHistory_append, hhistory, List.append_nil, ipcHanded_append, hhanded, List.append_nil]
    exact h.ipc_handled
  ipc_run := by
    rw [ipcHistory_append, hhistory, List.append_nil]
    exact h.ipc_run
  rfs_cuts := by
    rw [received_append, hreceived, List.append_nil, rfsFrames_append, hframes, List.append_nil]
    exact h.rfs_cuts
  rfs_served := by
    rw [rfsFrames_append, hframes, List.append_nil, rfsSent_append, hsent, List.append_nil]
    exact h.rfs_served
  ipc_ready := h.ipc_ready
  rfs_ready := h.rfs_ready

theorem submissions_same (h : Invariant p localtime_r md5 fs t s) {e : Event}
    (he : submissions [e] = []) :
    submissions (t ++ [e]) = takings t ++ s.m_controlPipe := by
  rw [submissions_append, he, List.append_nil, h.pipe]

/-- A call of `readable` for the IPC channel. -/
theorem ipcReceived (h : Invariant p localtime_r md5 fs t s) {sets sets' : Selected}
    {handlers handlers' : List Channel} {n : ℕ} {chunk : Bytes} {handed : List (Bytes × Memory)}
    {buffer : SocketHandler} {ipc : IPCSocketHandler}
    {history : List (IPCSocketHandler.Event × List Action)}
    (hs : s.dispatching = .handling sets handlers) (hspace : chunk.length ≤ s.ipcBuffer.space)
    (hread : s.ipcBuffer.readable Channel.IPC.format n chunk = .ok (handed.map Prod.fst, buffer))
    (hhandled : handleFrames p s.ipc handed = .ok (ipc, history)) :
    Invariant p localtime_r md5 fs (t ++ [.ipcReceived chunk handed history])
      { s with dispatching := .handling sets' handlers', ipcBuffer := buffer, ipc := ipc } := by
  obtain ⟨hcuts, hready⟩ := readable_cuts h.ipc_ready hspace hread
  obtain ⟨hrun, hevents⟩ := handleFrames_run h.ipc_run hhandled
  obtain ⟨hsubmitted, hframes⟩ := given_frames hevents
  have hhistory : ipcHistory (t ++ [.ipcReceived chunk handed history]) = ipcHistory t ++
    history := by
    simp [ipcHistory]
  have hhanded : ipcHanded (t ++ [.ipcReceived chunk handed history]) = ipcHanded t ++ handed := by
    simp [ipcHanded]
  have hreceived : received (t ++ [.ipcReceived chunk handed history]) .IPC = received t .IPC ++
    chunk := by
    simp [received]
  have hother : received (t ++ [.ipcReceived chunk handed history]) .RFS = received t .RFS := by
    simp [received]
  refine ⟨⟨?_, ?_, ?_, ?_, hhistory ▸ hrun, ?_, ?_⟩, hready, h.rfs_ready⟩
  · rw [h.submissions_same rfl, takings_append]
    exact congrArg (· ++ s.m_controlPipe) (List.append_nil _).symm
  · rw [takings_append, hhistory, submitted_append, hsubmitted, List.append_nil, h.taken,
      hasStopped_of (by simp [hs]), hasStopped_of (by simp)]
    exact List.append_nil _
  · rw [hreceived, hhanded, List.map_append]
    rw [List.map_map] at hcuts
    exact h.ipc_cuts.append hcuts
  · rw [hhistory, framesHandled_append, hframes, hhanded, List.map_append, h.ipc_handled]
  · rw [hother, rfsFrames_append]
    simpa [rfsFrames] using h.rfs_cuts
  · simpa [rfsFrames_append, rfsSent_append, rfsFrames, rfsSent] using h.rfs_served

/-- The same for the RFS channel. -/
theorem rfsReceived (h : Invariant p localtime_r md5 fs t s) {sets sets' : Selected}
    {handlers handlers' : List Channel} {n : ℕ} {chunk : Bytes}
    {frames : List (Bytes × RFSSocketHandler.Leftover)}
    {buffer : SocketHandler} {t₁ : List (Program.Event Syscall.Ret)} {fs' : AndroidFileSystem}
    {sent : List Bytes} (hs : s.dispatching = .handling sets handlers)
    (hspace : chunk.length ≤ s.rfsBuffer.space)
    (hread : s.rfsBuffer.readable Channel.RFS.format n chunk = .ok (frames.map Prod.fst, buffer))
    (hhandled : Trace
      ((RFSSocketHandler.session localtime_r frames).interpret (answer md5) s.m_filesystem)
      t₁ (.done (fs', sent, none))) :
    Invariant p localtime_r md5 fs (t ++ [.rfsReceived chunk frames sent])
      { s with dispatching := .handling sets' handlers', rfsBuffer := buffer,
               m_filesystem := fs' } := by
  obtain ⟨hcuts, hready⟩ := readable_cuts h.rfs_ready hspace hread
  obtain ⟨t₀, hserved⟩ := h.rfs_served
  have hframes : rfsFrames (t ++ [.rfsReceived chunk frames sent]) = rfsFrames t ++ frames := by
    simp [rfsFrames]
  have hsent : rfsSent (t ++ [.rfsReceived chunk frames sent]) = rfsSent t ++ sent := by
    simp [rfsSent]
  have hreceived : received (t ++ [.rfsReceived chunk frames sent]) .RFS = received t .RFS ++
    chunk := by
    simp [received]
  have hother : received (t ++ [.rfsReceived chunk frames sent]) .IPC = received t .IPC := by
    simp [received]
  have hhistory : ipcHistory (t ++ [.rfsReceived chunk frames sent]) = ipcHistory t := by
    simp [ipcHistory]
  have hhanded : ipcHanded (t ++ [.rfsReceived chunk frames sent]) = ipcHanded t := by
    simp [ipcHanded]
  refine ⟨⟨?_, ?_, ?_, ?_, hhistory ▸ h.ipc_run, ?_, ?_⟩, h.ipc_ready, hready⟩
  · rw [h.submissions_same rfl, takings_append]
    exact congrArg (· ++ s.m_controlPipe) (List.append_nil _).symm
  · rw [takings_append, hhistory, h.taken, hasStopped_of (by simp [hs]), hasStopped_of (by simp)]
    exact List.append_nil _
  · rw [hother, hhanded]
    exact h.ipc_cuts
  · rw [hhistory, hhanded, h.ipc_handled]
  · rw [hreceived, hframes, List.map_append]
    rw [List.map_map] at hcuts
    exact h.rfs_cuts.append hcuts
  · rw [hframes, hsent]
    exact ⟨t₀ ++ t₁, RFSSocketHandler.trace_append hserved hhandled⟩

/-- A message taken from the pipe. -/
theorem messageTaken (h : Invariant p localtime_r md5 fs t s) {sets : Selected}
    {handlers : List Channel}
    {message : Message} {pipe : List (Option Message)} {ipc : IPCSocketHandler}
    {actions : List Action}
    (hs : s.dispatching = .handling sets handlers) (hpipe : s.m_controlPipe = some message :: pipe)
    (hsubmit : s.ipc.submit message = .ok (ipc, actions)) :
    Invariant p localtime_r md5 fs (t ++ [.taken message actions])
      { s with dispatching := .selecting, ipc := ipc, m_controlPipe := pipe } := by
  have hhistory : ipcHistory (t ++ [.taken message actions]) =
      ipcHistory t ++ [(.submit message, actions)] := by
    simp [ipcHistory]
  have hhanded : ipcHanded (t ++ [.taken message actions]) = ipcHanded t := by
    simp [ipcHanded]
  have hreceived : ∀ channel, received (t ++ [.taken message actions]) channel =
    received t channel := by
    simp [received]
  have htakings : takings (t ++ [.taken message actions]) = takings t ++ [some message] := by
    simp [takings]
  have hrun := h.ipc_run.step ((IPCSocketHandler.machine_submit p s.ipc message).trans hsubmit)
  refine ⟨⟨?_, ?_, ?_, ?_, hhistory ▸ hrun, ?_, ?_⟩, h.ipc_ready, h.rfs_ready⟩
  · rw [h.submissions_same rfl, htakings, hpipe, List.append_cons]
  · rw [htakings, hhistory, submitted_append, List.map_append, h.taken,
      hasStopped_of (by simp [hs]), hasStopped_of (by simp), List.append_nil, List.append_nil]
    rfl
  · rw [hreceived, hhanded]
    exact h.ipc_cuts
  · rw [hhistory, framesHandled_append, hhanded, h.ipc_handled]
    exact List.append_nil _
  · rw [hreceived, rfsFrames_append]
    simpa [rfsFrames] using h.rfs_cuts
  · simpa [rfsFrames_append, rfsSent_append, rfsFrames, rfsSent] using h.rfs_served

/-- The end taken from it. -/
theorem endTaken (h : Invariant p localtime_r md5 fs t s) {sets : Selected}
    {handlers : List Channel}
    {pipe : List (Option Message)} (hs : s.dispatching = .handling sets handlers)
    (hpipe : s.m_controlPipe = none :: pipe) :
    Invariant p localtime_r md5 fs (t ++ [.stopped])
      { s with dispatching := .stopped, m_controlPipe := pipe } := by
  have hhistory : ipcHistory (t ++ [.stopped]) = ipcHistory t := by
    simp [ipcHistory]
  have hhanded : ipcHanded (t ++ [.stopped]) = ipcHanded t := by
    simp [ipcHanded]
  have hreceived : ∀ channel, received (t ++ [.stopped]) channel = received t channel := by
    simp [received]
  have htakings : takings (t ++ [.stopped]) = takings t ++ [none] := by
    simp [takings]
  refine ⟨⟨?_, ?_, ?_, ?_, hhistory ▸ h.ipc_run, ?_, ?_⟩, h.ipc_ready, h.rfs_ready⟩
  · rw [h.submissions_same rfl, htakings, hpipe, List.append_cons]
  · rw [htakings, hhistory, h.taken, hasStopped_of (by simp [hs]), List.append_nil]
    rfl
  · rw [hreceived, hhanded]
    exact h.ipc_cuts
  · rw [hhistory, hhanded, h.ipc_handled]
  · rw [hreceived, rfsFrames_append]
    simpa [rfsFrames] using h.rfs_cuts
  · simpa [rfsFrames_append, rfsSent_append, rfsFrames, rfsSent] using h.rfs_served

theorem step (h : Invariant p localtime_r md5 fs t s) {e : Event}
    (hstep : Step p localtime_r md5 s e s') :
    Invariant p localtime_r md5 fs (t ++ [e]) s' := by
  cases hstep with
  | submitted =>
    refine h.of_same ?_ rfl rfl (fun _ => rfl) rfl rfl rfl rfl
    rw [submissions_append, h.pipe, List.append_assoc]
    rfl
  | selected sets hs =>
    refine h.of_same (h.submissions_same rfl) ?_ rfl (fun _ => rfl) rfl rfl rfl rfl
    rw [hasStopped_of (by simp), hasStopped_of (by simp [hs])]
  | passed hs =>
    refine h.of_same (h.submissions_same rfl) ?_ rfl (fun _ => rfl) rfl rfl rfl rfl
    rw [hasStopped_of (by simp), hasStopped_of (by simp [hs])]
  | idle hs =>
    refine h.of_same (h.submissions_same rfl) ?_ rfl (fun _ => rfl) rfl rfl rfl rfl
    rw [hasStopped_of (by simp), hasStopped_of (by simp [hs])]
  | ipcReceived hs _ hspace hread hhandled => exact h.ipcReceived hs hspace hread hhandled
  | rfsReceived hs _ hspace hread hhandled => exact h.rfsReceived hs hspace hread hhandled
  | taken hs _ hpipe hsubmit => exact h.messageTaken hs hpipe hsubmit
  | stopped hs _ hpipe => exact h.endTaken hs hpipe

theorem of_run (h : Runs p localtime_r md5 fs t s) : Invariant p localtime_r md5 fs t s := by
  refine h.invariant (P := Invariant p localtime_r md5 fs) ?_
    fun _ _ _ _ hi _ hstep => hi.step hstep
  rintro s rfl
  exact initial_invariant

end Invariant

/-- In every run the thread is a queue in front of one handler, and the handlers are given what has
arrived for them, in whatever pieces, in order and each by itself. -/
theorem run_pipeline (h : Runs p localtime_r md5 fs t s) : Pipeline p localtime_r md5 fs t s :=
  (Invariant.of_run h).toPipeline

open IPCSocketHandler (powerOff)

/-- A `GEN_COMMAND_COMPLETE` for the request with number zero. -/
def commandComplete : Bytes := [12, 0, 0, 0, 128, 1, 2, 1, 2, 1, 0, 128]

/-- A request has been submitted twice. The first is taken, its answer arrives in two pieces, and
the second is taken. -/
theorem run_answered (localtime_r : ℤ → BrokenDownTime) (md5 : Bytes → Vector UInt8 16)
    (fs : AndroidFileSystem) (memory : Memory) :
    ∃ t s sent reply sent', Runs protocol localtime_r md5 fs t s ∧
      submissions t = [some powerOff, some powerOff] ∧
      received t .IPC = commandComplete ∧
      ipcHistory t = [(.submit powerOff, [sent]),
        (ipcFrame (commandComplete, memory), [.complete powerOff (some reply)]),
        (.submit powerOff, [sent'])] := by
  obtain ⟨s₁, s₂, s₃, sent, reply, sent', hfirst, hanswer, hsecond⟩ :=
    IPCSocketHandler.powerOff_twice memory
  have hhandled : handleFrames protocol s₁ [(commandComplete, memory)] =
      .ok (s₂, [(ipcFrame (commandComplete, memory), [.complete powerOff (some reply)])]) := by
    have hframe : s₁.handleReassembledMessage protocol commandComplete memory = _ := hanswer
    simp only [handleFrames, hframe, Bind.bind, Except.bind, Pure.pure, Except.pure]
  have hcut : Loop.run Channel.IPC.format.next 0 (SocketHandler.init.held ++ [12, 0, 0, 0, 128]) =
      some ([], [12, 0, 0, 0, 128]) := Loop.run_of_none rfl 0
  have hspace : SocketHandler.init.space = IOBufSize :=
    SocketHandler.Ready.space_eq (F := Channel.IPC.format) SocketHandler.init_ready
  have hroom : [12, 0, 0, 0, 128].length ≤ SocketHandler.init.space := by
    rw [hspace]
    decide
  obtain ⟨buffer, hread, hheld, hready⟩ :=
    SocketHandler.readable_of_run SocketHandler.init_ready (by simp)
    hroom hcut
  have hcut' : Loop.run Channel.IPC.format.next 1 (buffer.held ++ [1, 2, 1, 2, 1, 0, 128]) =
      some ([commandComplete], []) := by
    rw [hheld]
    rfl
  have hroom' : [1, 2, 1, 2, 1, 0, 128].length ≤ buffer.space := by
    rw [hready.space_eq]
    decide
  obtain ⟨buffer', hread', -, -⟩ := SocketHandler.readable_of_run hready (by simp) hroom' hcut'
  let none : Selected := ⟨fun _ => false, fun _ => false, true⟩
  let first : Selected := ⟨fun c => c = .IPC, fun _ => false, false⟩
  let second : Selected := ⟨fun c => c = .IPC, fun _ => false, true⟩
  have hread₀ : SocketHandler.readable Channel.IPC.format 0 .init [12, 0, 0, 0, 128] =
      .ok (List.map Prod.fst ([] : List (Bytes × Memory)), buffer) := hread
  have hread₁ : SocketHandler.readable Channel.IPC.format 1 buffer [1, 2, 1, 2, 1, 0, 128] =
      .ok (List.map Prod.fst [(commandComplete, memory)], buffer') := hread'
  let runs := Runs protocol localtime_r md5 fs
  have hstep : ∀ {t s e s'}, runs t s → Step protocol localtime_r md5 s e s' → runs (t ++ [e]) s' :=
    fun h hs => h.step trivial hs
  have h₀ : runs [] (initial fs) := .start rfl
  have h₁ := hstep h₀ (.submitted (some powerOff))
  have h₂ : runs _ ⟨.selecting, .init, .init, .init, fs, [some powerOff, some powerOff]⟩ :=
    hstep h₁ (.submitted (some powerOff))
  have h₃ : runs _ ⟨.handling none m_handlers, .init, .init, .init, fs, _⟩ :=
    hstep h₂ (.selected _ rfl)
  have h₅ : runs _ ⟨.handling none [], .init, .init, .init, fs, _⟩ :=
    hstep (hstep h₃ (.passed rfl rfl)) (.passed rfl rfl)
  have h₆ : runs _ ⟨.selecting, .init, s₁, .init, fs, [some powerOff]⟩ :=
    hstep h₅ (.taken rfl rfl rfl hfirst)
  have h₇ : runs _ ⟨.handling first m_handlers, .init, s₁, .init, fs, _⟩ :=
    hstep h₆ (.selected _ rfl)
  have h₈ : runs _ ⟨.handling first [.RFS], buffer, s₁, .init, fs, _⟩ :=
    hstep h₇ (.ipcReceived rfl rfl hroom hread₀ rfl)
  have h₁₀ : runs _ ⟨.selecting, buffer, s₁, .init, fs, _⟩ :=
    hstep (hstep h₈ (.passed rfl rfl)) (.idle rfl rfl)
  have h₁₁ : runs _ ⟨.handling second m_handlers, buffer, s₁, .init, fs, _⟩ :=
    hstep h₁₀ (.selected _ rfl)
  have h₁₂ : runs _ ⟨.handling second [.RFS], buffer', s₂, .init, fs, _⟩ :=
    hstep h₁₁ (.ipcReceived rfl rfl hroom' hread₁ hhandled)
  have h₁₃ : runs _ ⟨.handling second [], buffer', s₂, .init, fs, _⟩ := hstep h₁₂ (.passed rfl rfl)
  have h₁₄ : runs _ ⟨.selecting, buffer', s₃, .init, fs, []⟩ :=
    hstep h₁₃ (.taken rfl rfl rfl hsecond)
  exact ⟨_, _, sent, reply, sent', h₁₄, rfl, rfl, rfl⟩

theorem run_answered_pipeline : ∃ t s,
    submissions t = [some powerOff, some powerOff] ∧
    received t .IPC = commandComplete ∧
    Pipeline protocol (fun _ => ⟨0, 0, 0, 0, 0, 0⟩) (fun _ => Vector.replicate 16 0)
      ⟨str "/fw", str "/efs", 3, false, ∅, ∅⟩ t s := by
  obtain ⟨t, s, -, -, -, h, hsubmissions, hreceived, -⟩ :=
    run_answered (fun _ => ⟨0, 0, 0, 0, 0, 0⟩)
      (fun _ => Vector.replicate 16 0) ⟨str "/fw", str "/efs", 3, false, ∅, ∅⟩
      ⟨fun _ => 0, fun _ => true⟩
  exact ⟨t, s, hsubmissions, hreceived, run_pipeline h⟩

end IPCWorkerThread
end FreeRil
