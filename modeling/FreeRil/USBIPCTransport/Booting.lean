import FreeRil.SamsungModem.Packets
import FreeRil.USBIPCTransport.Link

/-! Boots and dumps over this transport: each of them keeps to the life of its socket, and then
every call of the kernel is in its place. -/
namespace FreeRil
open Program

namespace SamsungModem

/-- The calls that need no more than an open socket, and leave it open. -/
def BootCall.exchanges : BootCall → Prop
  | .createSocket | .connect | .redetect | .close => False
  | _ => True

/-- Nothing else is called, whatever comes of it. -/
structure Exchanges {α : Type} (p : Boot α) : Prop where
  all : p.All BootCall.exchanges

namespace Exchanges
variable {α β : Type}

theorem done (a : α) : Exchanges (pure a) := ⟨trivial⟩

theorem seq {p : Boot α} {f : α → Boot β} (hp : Exchanges p) (hf : ∀ a, Exchanges (f a)) :
    Exchanges (p >>= f) := ⟨all_bind.mpr ⟨hp.all, fun a _ => (hf a).all⟩⟩

/-- The steps are given up at the first that fails. -/
theorem andThen {p q : Boot Bool} (hp : Exchanges p) (hq : Exchanges q) :
    Exchanges (p >>= fun b => if !b then return false else q) := by
  refine hp.seq fun b => ?_
  cases b with
  | false => exact .done false
  | true => exact hq

theorem call (c : BootCall) (hc : c.exchanges) : Exchanges (SamsungModem.call c) :=
  ⟨hc, fun _ => trivial⟩

theorem overrun : Exchanges (SamsungModem.overrun (α := α)) := ⟨trivial, nofun⟩

theorem running : Exchanges (SamsungModem.running (α := α)) := ⟨trivial, nofun⟩

end Exchanges

theorem exchanges_send (part : Part) (data : Bytes) : Exchanges (send part data) :=
  (Exchanges.call (.send part data) trivial).seq fun _ => .done ()

theorem exchanges_recv (size : ℕ) : Exchanges (recv size) :=
  (Exchanges.call (.recv size) trivial).seq fun data => .done data.val

theorem exchanges_memcpy (buf : Bytes) (offset : ℕ) (data : Bytes) :
    Exchanges (memcpy buf offset data) := by
  unfold memcpy
  split
  · exact .overrun
  · exact .done _

theorem exchanges_expectAck (data : Bytes) : Exchanges (expectAck data) := by
  refine (exchanges_recv _).seq fun buf => ?_
  split <;> exact .done _

theorem exchanges_sendImage (chunk : ℕ → ℕ) (image : Bytes) (fuel offset : ℕ) :
    Exchanges (sendImage chunk image fuel offset) := by
  induction fuel generalizing offset with
  | zero =>
    unfold sendImage
    split
    · exact .running
    · exact .done _
  | succ fuel ih =>
    unfold sendImage
    split
    · exact (Exchanges.call (.send _ _) trivial).seq fun bytes => ih (offset + bytes)
    · exact .done _

theorem exchanges_recvAcks (n : ℕ) : Exchanges (recvAcks n) := by
  induction n with
  | zero => exact .done _
  | succ n ih =>
    refine (exchanges_recv 1).seq fun buf => ?_
    split
    · exact .done _
    · exact ih

theorem exchanges_sendPSI (fuel : ℕ) : Exchanges (sendPSI fuel) := by
  refine (Exchanges.call (.getFirmware _) trivial).seq fun firmware => ?_
  cases firmware with
  | none => exact .done _
  | some image =>
    refine (exchanges_send _ _).seq fun _ => (exchanges_recv 1).seq fun first => ?_
    split
    · exact .done _
    · refine (exchanges_recv 1).seq fun second => ?_
      split
      · exact .done _
      · refine (exchanges_send _ _).seq fun _ => (exchanges_sendImage id image fuel 0).seq fun _ =>
          (exchanges_send _ _).seq fun _ => ?_
        apply Exchanges.andThen (exchanges_recvAcks 22)
        apply Exchanges.andThen (exchanges_expectAck _)
        apply Exchanges.andThen (exchanges_expectAck _)
        apply Exchanges.andThen (exchanges_expectAck _)
        exact .done _

theorem exchanges_sendEBL (fuel : ℕ) : Exchanges (sendEBL fuel) := by
  refine (Exchanges.call (.getFirmware _) trivial).seq fun firmware => ?_
  cases firmware with
  | none => exact .done _
  | some image =>
    refine (exchanges_send _ _).seq fun _ => ?_
    apply Exchanges.andThen (exchanges_expectAck _)
    refine (exchanges_sendImage (min · 32768) image fuel 0).seq fun _ =>
      (exchanges_send _ _).seq fun _ => ?_
    apply Exchanges.andThen (exchanges_expectAck _)
    exact .done _

theorem exchanges_recvReply (cmd : UInt16) (size : ℕ) : Exchanges (recvReply cmd size) := by
  refine (exchanges_recv _).seq fun reply => ?_
  split
  · exact .done _
  split
  · exact .done _
  refine (exchanges_recv _).seq fun reply_buf => ?_
  split <;> exact .done _

theorem exchanges_bootloaderCommand (cmd : UInt16) (data : Bytes) :
    Exchanges (bootloaderCommand cmd data) := by
  refine (exchanges_memcpy _ _ _).seq fun buf => (exchanges_memcpy _ _ _).seq fun buf =>
    (exchanges_send _ _).seq fun _ => ?_
  split
  · exact exchanges_recvReply _ _
  · exact .done _

theorem exchanges_readBootInfo : Exchanges readBootInfo := by
  refine (exchanges_recv _).seq fun info => ?_
  split
  · exact .done _
  · exact exchanges_bootloaderCommand SetPortConf info

theorem exchanges_writeBlocks (image : Bytes) (offset : ℕ) :
    Exchanges (writeBlocks image offset) := by
  induction offset using writeBlocks.induct image with
  | case1 offset hoffset chunk ih =>
    unfold writeBlocks
    rw [if_pos hoffset]
    exact Exchanges.andThen (exchanges_bootloaderCommand _ _) ih
  | case2 offset hoffset =>
    unfold writeBlocks
    rw [if_neg hoffset]
    exact .done _

theorem exchanges_loadFlashImage (address : UInt32) (image : Bytes) :
    Exchanges (loadFlashImage address image) :=
  Exchanges.andThen (exchanges_bootloaderCommand _ _) (exchanges_writeBlocks _ _)

theorem exchanges_sendSecureImage : Exchanges sendSecureImage := by
  refine (Exchanges.call (.getFirmware _) trivial).seq fun secure => ?_
  cases secure with
  | none => exact .done _
  | some secure =>
    refine (Exchanges.call (.getFirmware _) trivial).seq fun firmware => ?_
    cases firmware with
    | none => exact .done _
    | some firmware =>
      refine (Exchanges.call (.readNVData _ _) trivial).seq fun nvdata => ?_
      change Exchanges (ite _ _ _)
      split
      · exact .done _
      apply Exchanges.andThen (exchanges_bootloaderCommand _ _)
      apply Exchanges.andThen (exchanges_loadFlashImage _ _)
      apply Exchanges.andThen (exchanges_loadFlashImage _ _)
      exact exchanges_bootloaderCommand _ _

/-! The life of the boot socket. -/

inductive Phase
  | absent
  | opened
  | closed

/-- Where the life of the socket stands, and how many times half a second has been waited at
most. -/
structure Conduct where
  phase : Phase
  waits : ℕ

namespace Conduct

def record (s : Conduct) : Event DumpCall.Ret → Conduct
  | ⟨.boot .createSocket, _⟩ => { s with phase := .opened }
  | ⟨.boot .close, _⟩ => { s with phase := .closed }
  | ⟨.boot .connect, _⟩ => { s with waits := s.waits + 3 }
  | ⟨.boot .redetect, _⟩ => { s with waits := s.waits + 21 }
  | _ => s

/-- There is one socket, which is used while it is open. -/
def allowed (s : Conduct) : DumpCall → Prop
  | .boot .createSocket => s.phase = .absent
  | .boot .connect | .boot .close | .boot (.send ..) | .boot (.recv _) | .send _ =>
    s.phase = .opened
  | _ => True

def monitor : Monitor DumpCall.Ret Conduct where
  record := record
  answers _ _ := True
  allowed := allowed

end Conduct

section
variable {α β : Type} {Q : α → Conduct → Prop} {s : Conduct}

theorem ofBoot_bind (p : Boot α) (f : α → Boot β) :
    ofBoot (p >>= f) = ofBoot p >>= fun a => ofBoot (f a) := by
  induction p with
  | done a => rfl
  | call c next ih => exact congrArg (Program.call _) (funext ih)

theorem Exchanges.safe {p : Boot α} (h : Exchanges p) (hopened : s.phase = .opened) :
    Conduct.monitor.Safe (fun _ s' => s' = s) (ofBoot p) s := by
  obtain ⟨hall⟩ := h
  induction p with
  | done a => rfl
  | call c next ih =>
    obtain ⟨hc, hnext⟩ := hall
    cases c with
    | createSocket | connect | redetect | close => exact hc.elim
    | send part data => exact ⟨hopened, fun r _ => ih r (hnext r)⟩
    | recv size => exact ⟨hopened, fun r _ => ih r (hnext r)⟩
    | getFirmware _ | readNVData _ _ | overrun | running =>
      exact ⟨trivial, fun r _ => ih r (hnext r)⟩

/-- A step over the open socket, after which the rest goes on from the same point. -/
theorem Exchanges.safe_bind {p : Boot α} {f : α → Dump β} {R : β → Conduct → Prop} (h : Exchanges p)
    (hopened : s.phase = .opened) (hf : ∀ a, Conduct.monitor.Safe R (f a) s) :
    Conduct.monitor.Safe R (ofBoot p >>= f) s := by
  refine Monitor.safe_bind.mpr ((h.safe hopened).mono ?_)
  rintro a s' rfl
  exact hf a

/-- The same for a step that may be the last. -/
theorem Exchanges.safe_andThen {p q : Boot Bool} {R : Bool → Conduct → Prop} (h : Exchanges p)
    (hopened : s.phase = .opened) (hfailed : R false s) (hq : Conduct.monitor.Safe R (ofBoot q) s) :
    Conduct.monitor.Safe R (ofBoot (p >>= fun b => if !b then return false else q)) s := by
  rw [ofBoot_bind]
  refine h.safe_bind hopened fun b => ?_
  cases b with
  | false => exact hfailed
  | true => exact hq

/-- The socket is closed before the modem is looked for again. -/
theorem safe_boot (fuel : ℕ) :
    Conduct.monitor.Safe (fun _ s => s.waits ≤ 24) (ofBoot (boot fuel)) ⟨.absent, 0⟩ := by
  refine ⟨rfl, fun _ _ => ⟨rfl, fun connected _ => ?_⟩⟩
  have hfailed : 3 ≤ 24 := by decide
  cases connected with
  | false => exact hfailed
  | true =>
    change Conduct.monitor.Safe _ _ ⟨.opened, 3⟩
    refine (exchanges_sendPSI fuel).safe_andThen rfl hfailed ?_
    refine (exchanges_sendEBL fuel).safe_andThen rfl hfailed ?_
    refine exchanges_readBootInfo.safe_andThen rfl hfailed ?_
    refine exchanges_sendSecureImage.safe_andThen rfl hfailed ?_
    -- which command it is does not matter, and its packet is not to be built
    generalize ReqForceHwReset = cmd
    refine (exchanges_bootloaderCommand cmd _).safe_andThen rfl hfailed ?_
    refine ⟨rfl, fun _ _ => ⟨trivial, fun back _ => ?_⟩⟩
    cases back <;> exact le_refl 24

/-- A chunk is taken from the open socket, until there is none. -/
theorem safe_receiveUpload (fuel : ℕ) (total : UInt32) (hopened : s.phase = .opened) :
    Conduct.monitor.Safe (fun _ s' => s' = s) (receiveUpload fuel total) s := by
  induction fuel generalizing total with
  | zero => exact ⟨trivial, nofun⟩
  | succ fuel ih =>
    refine ⟨hopened, fun data _ => ⟨trivial, fun _ _ => ⟨trivial, fun _ _ => ?_⟩⟩⟩
    change Conduct.monitor.Safe _
      (if data.val.length ≠ 0 then receiveUpload fuel _ else return ()) s
    split
    · exact ih _
    · rfl

theorem safe_dump (fuel : ℕ) :
    Conduct.monitor.Safe (fun _ s => s.waits ≤ 24) (dump fuel) ⟨.absent, 0⟩ := by
  refine ⟨rfl, fun _ _ => ⟨rfl, fun connected _ => ?_⟩⟩
  have hfailed : 3 ≤ 24 := by decide
  change Conduct.monitor.Safe _ (ofBoot (sendPSI fuel) >>= _) ⟨.opened, 3⟩
  refine (exchanges_sendPSI fuel).safe_bind rfl fun loaded => ?_
  cases loaded with
  | false => exact hfailed
  | true =>
  refine ⟨rfl, fun _ _ => ⟨rfl, fun message _ => ?_⟩⟩
  change Conduct.monitor.Safe _ (if message.val.length ≠ 150 then return false else _) _
  split
  · exact hfailed
  · refine ⟨trivial, fun _ _ => ⟨rfl, fun _ _ => ⟨trivial, fun _ _ => ?_⟩⟩⟩
    change Conduct.monitor.Safe _ (receiveUpload fuel 0 >>= _) ⟨.opened, 3⟩
    refine Monitor.safe_bind.mpr ((safe_receiveUpload fuel 0 rfl).mono ?_)
    rintro _ s rfl
    exact ⟨rfl, fun _ _ => hfailed⟩

end

end SamsungModem

namespace BootingModem
open SamsungModem USBIPCTransport
variable {D : Devices} {before : ℕ → Option Bytes} {slept : ℕ} {m : BootingModem} {c : Conduct}
    {s : Ledger}

/-- Where the boot socket is in this phase of its life, and what is open besides what was open
before. -/
def Holds (D : Devices) (before : ℕ → Option Bytes) (m : BootingModem) (opened : ℕ → Option Bytes) :
    Phase → Prop
  | .absent => m.bootSocket = none ∧ m.m_ipctransport.m_bootSocket = none ∧ opened = before
  | .opened => ∃ socket fd, m.bootSocket = some socket ∧ m.m_ipctransport.m_bootSocket =
    some socket ∧
      m.m_ipctransport.sockets socket = some ⟨some fd⟩ ∧ before fd = none ∧
      opened = Function.update before fd (some D.boot)
  | .closed => ∃ socket, m.bootSocket = some socket ∧ m.m_ipctransport.m_bootSocket = some socket ∧
      m.m_ipctransport.sockets socket = some ⟨none⟩ ∧ opened = before

/-- What goes with a point of the life of the socket. -/
structure Stands (D : Devices) (before : ℕ → Option Bytes) (slept : ℕ) (m : BootingModem)
    (c : Conduct)
    (s : Ledger) : Prop where
  controls : Controls D m.m_ipctransport before
  socket : Holds D before m s.opened c.phase
  settled : s.Settled
  slept : s.slept ≤ slept + c.waits

namespace Stands

/-- The control file is not the one that has been opened for the socket. -/
theorem controlsNow (h : Stands D before slept m c s) : Controls D m.m_ipctransport s.opened := by
  obtain ⟨⟨hdirectory, hpath, hcontrol⟩, hsocket, -, -⟩ := h
  refine ⟨hdirectory, hpath, ?_⟩
  cases hphase : c.phase with
  | absent =>
    rw [hphase] at hsocket
    obtain ⟨-, -, hopened⟩ := hsocket
    rw [hopened, hcontrol]
  | opened =>
    rw [hphase] at hsocket
    obtain ⟨socket, fd, -, -, -, hfd, hopened⟩ := hsocket
    have hother : m.m_ipctransport.m_controlFile ≠ fd := by
      intro heq
      rw [heq, hfd] at hcontrol
      exact Option.some_ne_none _ hcontrol.symm
    rw [hopened, Function.update_of_ne hother, hcontrol]
  | closed =>
    rw [hphase] at hsocket
    obtain ⟨socket, -, -, -, hopened⟩ := hsocket
    rw [hopened, hcontrol]

/-- The socket that is open. -/
theorem socketOpen (h : Stands D before slept m c s) (hphase : c.phase = .opened) : ∃ socket fd,
    m.bootSocket = some socket ∧ m.m_ipctransport.m_bootSocket = some socket ∧
      m.m_ipctransport.sockets socket = some ⟨some fd⟩ ∧ before fd = none ∧
      s.opened = Function.update before fd (some D.boot) := by
  have hsocket := h.socket
  rwa [hphase] at hsocket

/-- A socket that is open can be used. -/
theorem safe_onSocket {α : Type} {Q : α → Ledger → Prop} {method : ℕ → Link α}
    (h : Stands D before slept m c s)
    (hphase : c.phase = .opened) (hmethod : ∀ socket fd, m.bootSocket = some socket →
      m.m_ipctransport.m_bootSocket = some socket →
        m.m_ipctransport.sockets socket = some ⟨some fd⟩ →
      before fd = none → s.opened = Function.update before fd (some D.boot) →
      (Ledger.monitor D).Safe Q (method socket) s) :
    (Ledger.monitor D).Safe Q (m.onSocket method) s := by
  obtain ⟨socket, fd, hboot, hsocket, hopen, hfd, hopened⟩ := h.socketOpen hphase
  unfold onSocket
  rw [hboot]
  exact hmethod socket fd hboot hsocket hopen hfd hopened

end Stands

/-! The methods of a socket that is open under a descriptor of its own. -/

section
variable {t : USBIPCTransport} {socket fd : ℕ}

/-- A value is returned, or the end has come. -/
theorem safe_value {α : Type} {Q : α → Ledger → Prop} {message : String} {ret : Except ℕ α}
    (h : ∀ a, Q a s) :
    (Ledger.monitor D).Safe Q (orPanic message ret) s := by
  cases ret with
  | ok a => exact h a
  | error _ => exact ⟨trivial, nofun⟩

theorem safe_fd {α : Type} {Q : α → Ledger → Prop} {k : ℕ → Link α}
    (hopen : t.sockets socket = some ⟨some fd⟩) (hk : (Ledger.monitor D).Safe Q (k fd) s) :
    (Ledger.monitor D).Safe Q (t.fd socket >>= k) s := by
  unfold USBIPCTransport.fd
  rw [hopen]
  exact hk

/-- The first boot socket becomes that of the transport. -/
theorem safe_createSocket (t : USBIPCTransport) (hdirectory : t.m_directory = D.directory)
    (hfree : t.m_bootSocket = none) : (Ledger.monitor D).Safe (fun made s' => ∃ fd,
      made = ({ t with m_bootSocket := some t.next, next := t.next + 1,
                       sockets := Function.update t.sockets t.next (some ⟨some fd⟩) }, t.next) ∧
      s.opened fd = none ∧ s' = { s with opened := Function.update s.opened fd (some D.boot) })
      (t.createSocket .Boot) s := by
  refine safe_call trivial fun r hanswer => safe_orPanic fun fd hfd => ?_
  subst hfd
  refine ⟨fd, ?_, hanswer, ?_⟩
  · rw [hfree]
  · change { s with opened :=
      Function.update s.opened fd (some (t.m_directory ++ deviceName .Boot)) } = _
    rw [hdirectory]
    rfl

/-- The device of the boot is not that of the power. -/
theorem safe_send (hopen : t.sockets socket = some ⟨some fd⟩) (hboot : s.opened fd = some D.boot)
    (buf : Bytes) :
    (Ledger.monitor D).Safe (fun _ s' => s' = s) (t.send socket buf) s := by
  refine safe_fd hopen ⟨.inl hboot, fun written _ => safe_value fun _ => ?_⟩
  have hother : s.opened fd ≠ some D.host := by
    rw [hboot]
    exact fun h => Devices.boot_ne_host (Option.some.inj h)
  exact if_neg hother

theorem safe_recv (hopen : t.sockets socket = some ⟨some fd⟩) (hboot : s.opened fd = some D.boot)
    (size : ℕ) :
    (Ledger.monitor D).Safe (fun _ s' => s' = s) (t.recv socket size) s := by
  refine safe_fd hopen ⟨hboot, fun ready _ => safe_orPanic fun ready _ => ?_⟩
  cases ready with
  | false => exact rfl
  | true => exact ⟨hboot, fun data _ => safe_value fun _ => rfl⟩

theorem safe_close (hopen : t.sockets socket = some ⟨some fd⟩) (hboot : s.opened fd = some D.boot) :
    (Ledger.monitor D).Safe (fun t' s' =>
    t' = { t with sockets := Function.update t.sockets socket (some ⟨none⟩) } ∧
      s' = { s with opened := Function.update s.opened fd none }) (t.close socket) s :=
  safe_fd hopen ⟨.inl hboot, fun _ _ => ⟨rfl, rfl⟩⟩

end

/-- A call that leaves the transport as it is, between two ledgers that go with the same life. -/
theorem safe_unchanged {op : DumpCall} {p : Link op.Ret} (waits : ℕ)
    (h : Stands D before slept m c s)
    (hp : (Ledger.monitor D).Safe (fun _ s' => s.Reconnected s' waits) p s)
    (hrecord : ∀ r, c.record ⟨op, r⟩ = { c with waits := c.waits + waits }) :
    (Ledger.monitor D).Safe (fun r s' => True ∧ Stands D before slept r.1 (c.record ⟨op, r.2⟩) s')
      (p >>= fun r => return (m, r)) s := by
  refine safe_seq hp fun r s' hs' => ⟨trivial, ?_⟩
  rw [hrecord]
  refine ⟨h.controls, ?_, hs'.settled, ?_⟩
  · rw [hs'.opened]
    exact h.socket
  · have hbefore := h.slept
    have hafter := hs'.slept
    change s'.slept ≤ slept + (c.waits + waits)
    omega

/-- What the link is not concerned with leaves it alone. -/
theorem safe_same {op : DumpCall} {p : Link op.Ret} (h : Stands D before slept m c s)
    (hp : (Ledger.monitor D).Safe (fun _ s' => s' = s) p s) (hrecord : ∀ r, c.record ⟨op, r⟩ = c) :
    (Ledger.monitor D).Safe (fun r s' => True ∧ Stands D before slept r.1 (c.record ⟨op, r.2⟩) s')
      (p >>= fun r => return (m, r)) s := by
  refine safe_unchanged 0 h (hp.mono ?_) hrecord
  rintro _ s' rfl
  exact ⟨rfl, h.settled, le_rfl⟩

/-- Each call takes the life of the socket to where it should be. -/
theorem safe_answer (op : DumpCall) (h : Stands D before slept m c s) (hallowed : c.allowed op) :
    (Ledger.monitor D).Safe (fun r s' => True ∧ Stands D before slept r.1 (c.record ⟨op, r.2⟩) s')
      (m.answer op) s := by
  cases op with
  | boot op =>
    cases op with
    | createSocket =>
      obtain ⟨hnone, hfree, hopened⟩ : Holds D before m s.opened .absent := by
        have hsocket := h.socket
        rwa [show c.phase = .absent from hallowed] at hsocket
      refine safe_seq (safe_createSocket m.m_ipctransport h.controls.directory hfree)
        fun made s' hmade => ?_
      obtain ⟨fd, rfl, hfd, rfl⟩ := hmade
      refine ⟨trivial, h.controls.same rfl rfl rfl,
        ⟨m.m_ipctransport.next, fd, rfl, rfl, Function.update_self ..,
        ?_, ?_⟩, h.settled.same rfl rfl rfl rfl, h.slept⟩
      · rw [← hopened]
        exact hfd
      · rw [hopened]
    | connect =>
      obtain ⟨socket, fd, -, hsocket, hopen, -, hopened⟩ := h.socketOpen hallowed
      refine safe_unchanged 3 h (safe_connect h.controlsNow ⟨socket, hsocket, hopen, ?_⟩)
        fun _ => rfl
      rw [hopened, Function.update_self]
    | redetect => exact safe_unchanged 21 h (safe_redetect h.controlsNow h.settled) fun _ => rfl
    | close =>
      have hclose : (Ledger.monitor D).Safe
          (fun t' s' => Stands D before slept ⟨t', m.bootSocket⟩ { c with phase := .closed } s')
          (m.onSocket m.m_ipctransport.close) s := by
        refine h.safe_onSocket hallowed fun socket fd hboot hsocket hopen hfd hopened =>
          (safe_close hopen (by rw [hopened, Function.update_self])).mono ?_
        rintro _ _ ⟨rfl, rfl⟩
        refine ⟨h.controls.same rfl rfl rfl, ⟨socket, hboot, hsocket, Function.update_self .., ?_⟩,
          h.settled.same rfl rfl rfl rfl, h.slept⟩
        change Function.update s.opened fd none = before
        rw [hopened, Function.update_idem, ← hfd, Function.update_eq_self]
      exact safe_seq hclose fun _ _ hs' => ⟨trivial, hs'⟩
    | send part data =>
      refine safe_same h (h.safe_onSocket hallowed fun socket fd _ _ hopen _ hopened => ?_)
        fun _ => rfl
      exact safe_send hopen (by rw [hopened, Function.update_self]) data
    | recv size =>
      refine safe_same h (h.safe_onSocket hallowed fun socket fd _ _ hopen _ hopened => ?_)
        fun _ => rfl
      exact safe_recv hopen (by rw [hopened, Function.update_self]) size
    | getFirmware type => exact safe_same h ⟨trivial, fun _ _ => rfl⟩ fun _ => rfl
    | readNVData offset data => exact safe_same h ⟨trivial, fun _ _ => rfl⟩ fun _ => rfl
    | overrun | running => exact ⟨trivial, nofun⟩
  | send data =>
    refine safe_same h (h.safe_onSocket hallowed fun socket fd _ _ hopen _ hopened => ?_)
      fun _ => rfl
    exact safe_send hopen (by rw [hopened, Function.update_self]) data
  | write data => exact safe_same h ⟨trivial, fun _ _ => rfl⟩ fun _ => rfl
  | progress value max => exact safe_same h ⟨trivial, fun _ _ => rfl⟩ fun _ => rfl

/-- Between two operations: the control file is open, and there is no boot socket. -/
structure Ready (D : Devices) (t : USBIPCTransport) (s : Ledger) : Prop where
  controls : Controls D t s.opened
  free : t.m_bootSocket = none
  settled : s.Settled

/-- What comes of so many operations: as much is open as before, and only so long has been
waited. -/
structure Over (D : Devices) (s : Ledger) (operations : ℕ) (t : USBIPCTransport) (s' : Ledger) :
    Prop where
  ready : Ready D t s'
  opened : s'.opened = s.opened
  slept : s'.slept ≤ s.slept + 24 * operations

/-- The socket is deleted in every phase of its life. -/
theorem safe_delete (h : Stands D before slept m c s) {socket : ℕ}
    (hsocket : m.bootSocket = some socket) :
    (Ledger.monitor D).Safe (fun t' s' => Controls D t' before ∧ t'.m_bootSocket = none ∧
      s' = { s with opened := before }) (m.m_ipctransport.delete socket) s := by
  have hlast := h.socket
  unfold delete
  cases hphase : c.phase with
  | absent =>
    rw [hphase] at hlast
    exact absurd (hlast.1.symm.trans hsocket) (by simp)
  | opened =>
    rw [hphase] at hlast
    obtain ⟨socket', fd, hboot, hsame, hopen, hfd, hopened⟩ := hlast
    obtain rfl : socket' = socket := Option.some.inj (hboot.symm.trans hsocket)
    rw [hopen]
    refine ⟨.inl (by rw [hopened, Function.update_self]), fun _ _ => ⟨h.controls.same rfl rfl rfl,
      if_pos hsame, ?_⟩⟩
    change { s with opened := Function.update s.opened fd none } = _
    rw [hopened, Function.update_idem, ← hfd, Function.update_eq_self]
  | closed =>
    rw [hphase] at hlast
    obtain ⟨socket', hboot, hsame, hclosed, hopened⟩ := hlast
    obtain rfl : socket' = socket := Option.some.inj (hboot.symm.trans hsocket)
    rw [hclosed]
    exact ⟨h.controls.same rfl rfl rfl, if_pos hsame, by rw [← hopened]⟩

theorem safe_program (fuel : ℕ) (operation : Operation) :
    Conduct.monitor.Safe (fun _ c => c.waits ≤ 24) (operation.program fuel) ⟨.absent, 0⟩ := by
  cases operation with
  | boot => exact safe_boot fuel
  | dump => exact safe_dump fuel

theorem safe_perform (fuel : ℕ) {t : USBIPCTransport} (h : Ready D t s) (operation : Operation) :
    (Ledger.monitor D).Safe (fun r s' => Over D s 1 r.1 s') (perform fuel t operation) s := by
  have hstart : Stands D s.opened s.slept ⟨t, none⟩ ⟨.absent, 0⟩ s :=
    ⟨h.controls, ⟨rfl, h.free, rfl⟩, h.settled, le_rfl⟩
  have hrun := (safe_program fuel operation).interpret
    (fun m op c s' (h : Stands D s.opened s.slept m c s') hallowed => safe_answer op h hallowed)
      hstart
  refine safe_seq hrun fun r s' hr => ?_
  obtain ⟨m, ret⟩ := r
  obtain ⟨c, hwaits, hend⟩ := hr
  have hslept : s'.slept ≤ s.slept + 24 * 1 := hend.slept.trans (by omega)
  dsimp only
  cases hsocket : m.bootSocket with
  | none =>
    have hlast := hend.socket
    cases hphase : c.phase with
    | absent =>
      rw [hphase] at hlast
      obtain ⟨-, hfree, hopened⟩ := hlast
      refine ⟨⟨?_, hfree, hend.settled⟩, hopened, hslept⟩
      rw [hopened]
      exact hend.controls
    | opened | closed =>
      rw [hphase] at hlast
      obtain ⟨socket, hlast⟩ := hlast
      simp [hsocket] at hlast
  | some socket =>
    refine safe_seq (safe_delete hend hsocket) fun t' s'' hdeleted => ?_
    obtain ⟨hcontrols, hfree, rfl⟩ := hdeleted
    exact ⟨⟨hcontrols, hfree, hend.settled.same rfl rfl rfl rfl⟩, rfl, hslept⟩

theorem safe_performAll (fuel : ℕ) {t : USBIPCTransport} (h : Ready D t s)
    (operations : List Operation) :
    (Ledger.monitor D).Safe (fun t' s' => Over D s operations.length t' s')
    (performAll fuel t operations) s := by
  induction operations generalizing t s with
  | nil => exact ⟨h, rfl, le_rfl⟩
  | cons operation operations ih =>
    refine safe_seq (safe_perform fuel h operation) fun r s' hr => ?_
    refine (ih hr.ready).mono fun t' s'' hover => ⟨hover.ready, hover.opened.trans hr.opened, ?_⟩
    have hfirst := hr.slept
    have hrest := hover.slept
    rw [List.length_cons]
    omega

/-- All that is done with a transport. -/
def session (fuel : ℕ) (D : Devices) (operations : List Operation) : Link USBIPCTransport := do
  performAll fuel (← construct D.directory D.path) operations

theorem safe_construct : (Ledger.monitor D).Safe (fun t' s' => ∃ fd, s.opened fd = none ∧
    t' = ⟨D.directory, D.path, fd, none, fun _ => none, 0⟩ ∧
      s' = { s with opened := Function.update s.opened fd (some D.control) })
      (construct D.directory D.path) s := by
  refine safe_call trivial fun r hanswer => safe_orPanic fun fd hfd => ?_
  subst hfd
  exact ⟨fd, hanswer, rfl, rfl⟩

/-- Whatever is booted and dumped, and however it goes: each request is made of its own device while
that is open, and the modem is switched on with the link down. In the end the control file alone has
been left open, the link is up unless it has not been touched, and the waits have been bounded. -/
theorem operations_keep (fuel : ℕ) (operations : List Operation) (hs : s.Settled)
    {t : List (Event LinkCall.Ret)} {q : Link USBIPCTransport}
    (h : Trace (session fuel D operations) t q) (hobeyed : (Ledger.monitor D).Obeyed s t) :
    (Ledger.monitor D).Kept s t ∧ ∀ transport, q = .done transport →
      (∃ fd, s.opened fd = none ∧
        ((Ledger.monitor D).after s t).opened = Function.update s.opened fd (some D.control)) ∧
      ((Ledger.monitor D).after s t).Settled ∧
      ((Ledger.monitor D).after s t).slept ≤ s.slept + 24 * operations.length := by
  have hsafe : (Ledger.monitor D).Safe (fun _ s' =>
      (∃ fd, s.opened fd = none ∧ s'.opened = Function.update s.opened fd (some D.control)) ∧
        s'.Settled ∧
        s'.slept ≤ s.slept + 24 * operations.length) (session fuel D operations) s := by
    refine safe_seq safe_construct fun t' s' ⟨fd, hfd, ht', hs'⟩ => ?_
    subst ht' hs'
    have hready : Ready D ⟨D.directory, D.path, fd, none, fun _ => none, 0⟩
        { s with opened := Function.update s.opened fd (some D.control) } :=
      ⟨⟨rfl, rfl, Function.update_self ..⟩, rfl, hs.same rfl rfl rfl rfl⟩
    exact (safe_performAll fuel hready operations).mono fun _ _ hover =>
      ⟨⟨fd, hfd, hover.opened⟩, hover.ready.settled, hover.slept⟩
  obtain ⟨hkept, hend⟩ := hsafe.trace h hobeyed
  refine ⟨hkept, fun transport hq => ?_⟩
  rw [hq] at hend
  exact hend

/-! Boots that succeed, with empty images and the descriptors that come next. -/

/-- Nothing has been opened or switched. -/
def untouched : Ledger := ⟨fun _ => none, none, none, none, none, 0⟩

theorem sendEBL_runs : ∃ t, Trace (sendEBL 2) t (.done true) :=
  ⟨[⟨.getFirmware .EBL, some []⟩, ⟨.send .eblLength (LittleEndian.toBytes 4 0), 4⟩,
    ⟨.recv 2, ⟨[0xCC, 0xCC], by decide⟩⟩, ⟨.send .crc [0], 1⟩,
    ⟨.recv 2, ⟨[0x51, 0xA5], by decide⟩⟩],
    .cons (.cons (.cons (.cons (.cons (.nil _)))))⟩

theorem readBootInfo_runs {info : { data : Bytes // data.length ≤ 76 }}
    (hlength : info.val.length = 76) : ∃ t, Trace readBootInfo t (.done true) := by
  obtain ⟨t, ht, -⟩ := @bootloaderCommand_runs SetPortConf info.val
    (hlength.le.trans (by decide)) (by decide)
  refine ⟨⟨.recv 76, info⟩ :: t, .cons ?_⟩
  change Trace (if info.val.length ≠ 76 then return false else _) t _
  rw [if_neg (not_not.mpr hlength)]
  exact ht

theorem runs_andThen {p q : Boot Bool} {t t' : List (Event BootCall.Ret)}
    (hp : Trace p t (.done true)) (hq : Trace q t' (.done true)) :
    Trace (p >>= fun b => if !b then return false else q) (t ++ t') (.done true) :=
  (hp.bind _).append hq

/-- The images have no bytes, and there is room for the data of the flash. -/
theorem sendSecureImage_runs : ∃ t, Trace sendSecureImage t (.done true) := by
  obtain ⟨start, hstart, -⟩ := @bootloaderCommand_runs ReqSecStart [] (Nat.zero_le _) (by decide)
  obtain ⟨firmware, hfirmware, -⟩ := loadFlashImage_runs 0x60300000 []
  obtain ⟨nvdata, hnvdata, -⟩ := loadFlashImage_runs 0x60e80000 []
  obtain ⟨last, hlast, -⟩ := @bootloaderCommand_runs ReqSecEnd (LittleEndian.toBytes 2 0x0000)
    (by decide) (by decide)
  unfold sendSecureImage
  generalize List.replicate 2097152 (0 : UInt8) = room
  refine ⟨⟨.getFirmware .SecureImage, some []⟩ :: ⟨.getFirmware .Firmware, some []⟩ ::
    ⟨.readNVData 0 room, (0, [])⟩ :: (start ++ (firmware ++ (nvdata ++ last))),
    .cons (.cons (.cons ?_))⟩
  dsimp only [Program.bind]
  rw [if_neg (lt_irrefl 0)]
  exact runs_andThen hstart (runs_andThen hfirmware (runs_andThen hnvdata hlast))

theorem hwReset_runs : ∃ t,
    Trace (bootloaderCommand ReqForceHwReset (LittleEndian.toBytes 4 0x00111001)) t
      (.done true) := by
  rw [bootloaderCommand_eq, if_neg (by decide), if_neg (by decide)]
  exact ⟨[⟨.send .packet _, 0⟩], .cons (.nil _)⟩

/-- What the kernel is asked for an exchange over the socket. -/
def exchangeEvents (fd : ℕ) : Event BootCall.Ret → List (Event LinkCall.Ret)
  | ⟨.send _ data, written⟩ => [⟨.write fd data, .ok written⟩]
  | ⟨.recv size, data⟩ => [⟨.select fd 1000, .ok true⟩, ⟨.read fd size, .ok data⟩]
  | ⟨op, ret⟩ => [⟨.other (.boot op), ret⟩]

/-- An exchange does not touch the link. -/
theorem ends_exchanges {α : Type} {p : Boot α} {a : α} {t : List (Event BootCall.Ret)}
    (h : Exchanges p) (ht : Trace p t (.done a)) {socket fd : ℕ}
    (hsocket : m.bootSocket = some socket)
    (hopen : m.m_ipctransport.sockets socket = some ⟨some fd⟩)
    (hboot : s.opened fd = some D.boot) :
    (Ledger.monitor D).Ends ((ofBoot p).interpret answer m) s
      (t.flatMap (exchangeEvents fd)) (m, a) s := by
  have hother : s.opened fd ≠ some D.host := by
    rw [hboot]
    exact fun h => Devices.boot_ne_host (Option.some.inj h)
  obtain ⟨hall⟩ := h
  induction p generalizing t with
  | done a' =>
    obtain ⟨rfl, ha⟩ := ht.done_eq
    obtain rfl := Program.done.inj ha
    exact .done _
  | call c next ih =>
    obtain ⟨hc, hnext⟩ := hall
    obtain ⟨r, t, rfl, hrest⟩ := ht.call_done
    have hend := ih r hrest (hnext r)
    rw [List.flatMap_cons]
    cases c with
    | createSocket | connect | redetect | close => exact hc.elim
    | overrun | running => exact r.elim
    | getFirmware _ | readNVData _ _ => exact .call trivial hend
    | send part data =>
      have hrecord : (Ledger.monitor D).record s ⟨.write fd data, .ok r⟩ = s := if_neg hother
      have hsend : (Ledger.monitor D).Ends (m.answer (.boot (.send part data))) s
          [⟨.write fd data, .ok r⟩] (m, r) s := by
        simp only [answer, onSocket, hsocket, USBIPCTransport.send, USBIPCTransport.fd, hopen]
        refine .call trivial ?_
        rw [hrecord]
        exact .done _
      exact hsend.bind hend
    | recv size =>
      have hrecv : (Ledger.monitor D).Ends (m.answer (.boot (.recv size))) s
          [⟨.select fd 1000, .ok true⟩, ⟨.read fd size, .ok r⟩] (m, r) s := by
        simp only [answer, onSocket, hsocket, USBIPCTransport.recv, USBIPCTransport.fd, hopen]
        exact .call trivial (.call trivial (.done _))
      exact hrecv.bind hend

/-- The boot goes on after an exchange that has succeeded. -/
theorem ends_andThen {p q : Boot Bool} {t : List (Event BootCall.Ret)}
    {t' : List (Event LinkCall.Ret)} {r : BootingModem × Bool} {s' : Ledger} (h : Exchanges p)
    (ht : Trace p t (.done true)) {socket fd : ℕ} (hsocket : m.bootSocket = some socket)
    (hopen : m.m_ipctransport.sockets socket = some ⟨some fd⟩)
    (hboot : s.opened fd = some D.boot)
    (hq : (Ledger.monitor D).Ends ((ofBoot q).interpret answer m) s t' r s') :
    (Ledger.monitor D).Ends
      ((ofBoot (p >>= fun b => if !b then return false else q)).interpret answer m) s
      (t.flatMap (exchangeEvents fd) ++ t') r s' := by
  rw [ofBoot_bind, interpret_bind]
  exact (ends_exchanges h ht hsocket hopen hboot).bind hq

/-- The link is switched, where the control file, the boot socket and the file of the power have
the descriptors 3, 4 and 5. -/
def switchEvents (D : Devices) (up keepModem : Bool) : List (Event LinkCall.Ret) :=
  (if keepModem then [] else [⟨.ioctl 4 (if up then .MODEM_ON else .MODEM_OFF), .ok 0⟩]) ++
    [⟨.ioctl 3 (.LINK_CONTROL_ENABLE up), .ok 0⟩, ⟨.open_ D.host O_WRONLY, .ok 5⟩,
      ⟨.write 5 (if up then str "1" else str "0"), .ok 1⟩, ⟨.close 5, ()⟩,
      ⟨.ioctl 3 (.LINK_CONTROL_ACTIVE up), .ok 0⟩]

def connectEvents (D : Devices) : List (Event LinkCall.Ret) :=
  switchEvents D false false ++
    (switchEvents D true false ++ [⟨.ioctl 3 .LINK_CONNECTED, .ok 1⟩])

def redetectEvents (D : Devices) : List (Event LinkCall.Ret) :=
  ⟨.ioctl 3 .LINK_GET_HOSTWAKE, .ok 0⟩ :: (switchEvents D false true ++
    (⟨.ioctl 3 .LINK_GET_HOSTWAKE, .ok 1⟩ :: (switchEvents D true true ++
      [⟨.ioctl 3 .LINK_CONNECTED, .ok 1⟩])))

/-- A transport for the devices, with its boot socket. -/
def booting (D : Devices) (sockets : ℕ → Option USBIPCSocket) (socket : ℕ) : USBIPCTransport :=
  ⟨D.directory, D.path, 3, some socket, sockets, socket + 1⟩

section
variable {sockets : ℕ → Option USBIPCSocket} {socket : ℕ}

/-- The descriptor of the power can be given out again after it has been closed. -/
theorem ends_setLink (up keepModem : Bool) (hcontrol : s.opened 3 = some D.control)
    (hfree : s.opened 5 = none)
    (hboot : keepModem = false → sockets socket = some ⟨some 4⟩ ∧ s.opened 4 = some D.boot)
    (hdown : keepModem = false → up = true → s.Switched (some false)) :
    (Ledger.monitor D).Ends ((booting D sockets socket).setLink up keepModem) s
      (switchEvents D up keepModem) () (s.switched up keepModem) := by
  have htrace : Trace ((booting D sockets socket).setLink up keepModem)
      (switchEvents D up keepModem) (.done ()) := by
    cases keepModem with
    | true => exact .cons (.cons (.cons (.cons (.cons (.nil _)))))
    | false =>
      unfold setLink
      simp only [booting, USBIPCTransport.fd, (hboot rfl).1]
      exact .cons (.cons (.cons (.cons (.cons (.cons (.nil _))))))
  have hobeyed : (Ledger.monitor D).Obeyed s (switchEvents D up keepModem) := by
    unfold Monitor.Obeyed
    cases keepModem <;> cases up <;>
      simp [switchEvents, Monitor.along_cons, Monitor.along_nil, Ledger.monitor, Ledger.answers,
        Ledger.record, hfree]
  have hsocket : keepModem = false → ∃ fd, HasBoot D (booting D sockets socket) s.opened fd :=
    fun h => ⟨4, socket, rfl, hboot h⟩
  obtain ⟨s', hends, rfl⟩ := (safe_setLink up keepModem ⟨rfl, rfl, hcontrol⟩ hsocket hdown).ends
    htrace hobeyed
  exact hends

theorem ends_connect (hopen : sockets socket = some ⟨some 4⟩)
    (hcontrol : s.opened 3 = some D.control) (hboot : s.opened 4 = some D.boot)
    (hfree : s.opened 5 = none) :
    (Ledger.monitor D).Ends (answer ⟨booting D sockets socket, some socket⟩ (.boot .connect)) s
      (connectEvents D) (⟨booting D sockets socket, some socket⟩, true)
      (s.switched true false) := by
  have hconnect : (Ledger.monitor D).Ends (booting D sockets socket).connect s (connectEvents D)
      true (s.switched true false) := by
    refine (ends_setLink false false hcontrol hfree (fun _ => ⟨hopen, hboot⟩) (by simp)).bind ?_
    refine (ends_setLink (s := s.switched false false) true false hcontrol hfree
      (fun _ => ⟨hopen, hboot⟩) fun _ _ => ⟨rfl, rfl, rfl⟩).bind ?_
    exact .call trivial (.done true)
  rw [← List.append_nil (connectEvents D)]
  exact hconnect.bind (.done _)

theorem ends_redetect (hcontrol : s.opened 3 = some D.control) (hfree : s.opened 5 = none) :
    (Ledger.monitor D).Ends (answer ⟨booting D sockets socket, some socket⟩ (.boot .redetect)) s
      (redetectEvents D) (⟨booting D sockets socket, some socket⟩, true)
      (s.switched true true) := by
  have hredetect : (Ledger.monitor D).Ends (booting D sockets socket).redetect s
      (redetectEvents D) true (s.switched true true) := by
    refine .call trivial ?_
    refine (ends_setLink false true hcontrol hfree (by simp) (by simp)).bind (.call trivial ?_)
    refine (ends_setLink (s := s.switched false true) true true hcontrol hfree (by simp)
      (by simp)).bind ?_
    exact .call trivial (.done true)
  rw [← List.append_nil (redetectEvents D)]
  exact hredetect.bind (.done _)

/-- The ledger while the boot socket is open. -/
def withBoot (D : Devices) (s : Ledger) : Ledger :=
  { s with opened := Function.update s.opened 4 (some D.boot) }

theorem withBoot_boot : (withBoot D s).opened 4 = some D.boot := by
  change Function.update s.opened 4 _ 4 = _
  exact Function.update_self ..

/-- Where the socket has been closed, what is open is as it was before. -/
theorem withBoot_closed (hfree : s.opened 4 = none) :
    Function.update (withBoot D s).opened 4 none = s.opened := by
  unfold withBoot
  rw [Function.update_idem, ← hfree, Function.update_eq_self]

theorem ends_createSocket (hfree : s.opened 4 = none) :
    (Ledger.monitor D).Ends
      (answer ⟨⟨D.directory, D.path, 3, none, sockets, socket⟩, none⟩ (.boot .createSocket)) s
      [⟨.open_ D.boot O_RDWR, .ok 4⟩]
      (⟨booting D (Function.update sockets socket (some ⟨some 4⟩)) socket, some socket⟩, ())
      (withBoot D s) := .call hfree (.done _)

theorem ends_close (hopen : sockets socket = some ⟨some 4⟩) (hfree : s.opened 4 = none) :
    (Ledger.monitor D).Ends (answer ⟨booting D sockets socket, some socket⟩ (.boot .close))
      ((withBoot D s).switched true false) [⟨.close 4, ()⟩]
      (⟨booting D (Function.update sockets socket (some ⟨none⟩)) socket, some socket⟩, ())
      (s.switched true false) := by
  have hclosed : (Ledger.monitor D).record ((withBoot D s).switched true false) ⟨.close 4, ()⟩ =
      s.switched true false := by
    change Ledger.mk (Function.update (withBoot D s).opened 4 none) _ _ _ _ _ = _
    rw [withBoot_closed hfree]
    rfl
  simp only [answer, onSocket, USBIPCTransport.close, USBIPCTransport.fd, booting, hopen]
  refine .call trivial ?_
  rw [hclosed]
  exact .done _

/-- The modem answers all that it is sent, and is found again. -/
theorem ends_boot (sockets : ℕ → Option USBIPCSocket) (socket : ℕ)
    (hcontrol : s.opened 3 = some D.control) (hfree : s.opened 4 = none)
    (hpower : s.opened 5 = none) : ∃ t sockets', redetectEvents D <:+ t ∧
      (Ledger.monitor D).Ends ((ofBoot (boot 2)).interpret answer
        ⟨⟨D.directory, D.path, 3, none, sockets, socket⟩, none⟩) s t
        (⟨booting D (Function.update sockets' socket (some ⟨none⟩)) socket, some socket⟩, true)
        (s.switched true false) := by
  obtain ⟨psi, hpsi⟩ := sendPSI_runs
  obtain ⟨ebl, hebl⟩ := sendEBL_runs
  obtain ⟨info, hinfo⟩ := @readBootInfo_runs ⟨List.replicate 76 0, List.length_replicate.le⟩
    List.length_replicate
  obtain ⟨image, himage⟩ := sendSecureImage_runs
  obtain ⟨reset, hreset⟩ := hwReset_runs
  have hboot : (withBoot D s).opened 4 = some D.boot := withBoot_boot
  have hopen : Function.update sockets socket (some ⟨some 4⟩) socket = some ⟨some 4⟩ :=
    Function.update_self ..
  have hconnect := ends_connect (s := withBoot D s) hopen hcontrol hboot hpower
  have hclose := ends_close (D := D) hopen hfree
  let exchange : List (Event BootCall.Ret) → List (Event LinkCall.Ret) :=
    List.flatMap (exchangeEvents 4)
  refine ⟨[⟨.open_ D.boot O_RDWR, .ok 4⟩] ++ (connectEvents D ++ (exchange psi ++ (exchange ebl ++
    (exchange info ++ (exchange image ++ (exchange reset ++ ([⟨.close 4, ()⟩] ++
      redetectEvents D))))))), Function.update sockets socket (some ⟨some 4⟩), ?_,
    (ends_createSocket hfree).bind (hconnect.bind ?_)⟩
  · simp only [← List.append_assoc]
    exact List.suffix_append _ _
  · refine ends_andThen (exchanges_sendPSI 2) hpsi rfl hopen hboot ?_
    refine ends_andThen (exchanges_sendEBL 2) hebl rfl hopen hboot ?_
    refine ends_andThen exchanges_readBootInfo hinfo rfl hopen hboot ?_
    refine ends_andThen exchanges_sendSecureImage himage rfl hopen hboot ?_
    refine ends_andThen (exchanges_bootloaderCommand _ _) hreset rfl hopen hboot ?_
    refine hclose.bind ?_
    rw [← List.append_nil (redetectEvents D)]
    exact (ends_redetect (s := s.switched true false) hcontrol hpower).bind (.done _)

/-- The socket is deleted after the boot. -/
theorem ends_perform (sockets : ℕ → Option USBIPCSocket) (socket : ℕ)
    (hcontrol : s.opened 3 = some D.control) (hfree : s.opened 4 = none)
    (hpower : s.opened 5 = none) : ∃ t sockets', redetectEvents D <:+ t ∧
      (Ledger.monitor D).Ends (perform 2 ⟨D.directory, D.path, 3, none, sockets, socket⟩ .boot) s t
        (⟨D.directory, D.path, 3, none, sockets', socket + 1⟩, true) (s.switched true false) := by
  obtain ⟨t, sockets', hsuffix, hboot⟩ := ends_boot sockets socket hcontrol hfree hpower
  let deleted := Function.update (Function.update sockets' socket (some ⟨none⟩)) socket none
  have hdelete : (Ledger.monitor D).Ends
      ((booting D (Function.update sockets' socket (some ⟨none⟩)) socket).delete socket)
      (s.switched true false) [] ⟨D.directory, D.path, 3, none, deleted, socket + 1⟩
      (s.switched true false) := by
    simp only [booting, delete, Function.update_self, if_pos]
    exact .done _
  refine ⟨t, deleted, hsuffix, ?_⟩
  rw [← List.append_nil t]
  exact hboot.bind (hdelete.bind (.done _))

end

/-- The control file has been opened. -/
def constructed (D : Devices) : Ledger :=
  { untouched with opened := Function.update untouched.opened 3 (some D.control) }

/-- Two boots: what has been opened is closed, and opened again under the same descriptors. -/
theorem two_boots_kept : ∃ t transport,
    Trace (session 2 ⟨[], []⟩ [.boot, .boot]) t (.done transport) ∧ redetectEvents ⟨[], []⟩ <:+ t ∧
    (Ledger.monitor ⟨[], []⟩).Kept untouched t ∧
    ((Ledger.monitor ⟨[], []⟩).after untouched t).slept ≤ 48 := by
  let D : Devices := ⟨[], []⟩
  have hconstruct : (Ledger.monitor D).Ends (construct [] []) untouched
      [⟨.open_ D.control O_RDWR, .ok 3⟩] ⟨[], [], 3, none, fun _ => none, 0⟩ (constructed D) :=
    .call rfl (.done _)
  obtain ⟨t, sockets, -, hfirst⟩ := ends_perform (D := D) (s := constructed D) (fun _ => none) 0
    rfl rfl rfl
  obtain ⟨t', sockets', hsuffix, hsecond⟩ := ends_perform (D := D)
    (s := (constructed D).switched true false) sockets 1 rfl rfl rfl
  have hsession : (Ledger.monitor D).Ends (session 2 D [.boot, .boot]) untouched
      ([⟨.open_ D.control O_RDWR, .ok 3⟩] ++ (t ++ (t' ++ []))) ⟨[], [], 3, none, sockets', 2⟩ _ :=
    hconstruct.bind (hfirst.bind (hsecond.bind (.done _)))
  rw [List.append_nil] at hsession
  have hsettled : untouched.Settled := ⟨.inl ⟨rfl, rfl, rfl⟩, by simp [untouched]⟩
  obtain ⟨hkept, hend⟩ := operations_keep 2 [.boot, .boot] hsettled hsession.trace hsession.obeyed
  exact ⟨_, _, hsession.trace,
    (hsuffix.trans (List.suffix_append _ _)).trans (List.suffix_append _ _), hkept,
    (hend _ rfl).2.2⟩

end BootingModem
end FreeRil
