import FreeRil.USBIPCTransport

/-! What is asked of the driver while the modem is booted or dumped: which devices, while they are
open, and what the link is left in. -/
namespace FreeRil
open Program SamsungModem

namespace USBIPCTransport

/-- What the calls have come to: what is open under which name, and what each part of the link has
been switched to. -/
structure Ledger where
  opened : ℕ → Option Bytes
  modem : Option Bool
  enable : Option Bool
  host : Option Bool
  active : Option Bool
  /-- So many times half a second has been waited. -/
  slept : ℕ

/-- The devices of the transport. -/
structure Devices where
  directory : Bytes
  path : Bytes

namespace Devices
variable (D : Devices)

def boot : Bytes := D.directory ++ deviceName .Boot

def control : Bytes := D.directory ++ str "link_pm"

def host : Bytes := D.path ++ str "/" ++ ehci_power

end Devices

namespace Ledger
variable (D : Devices)

def record (s : Ledger) : Event LinkCall.Ret → Ledger
  | ⟨.open_ file _, .ok fd⟩ => { s with opened := Function.update s.opened fd (some file) }
  | ⟨.close fd, _⟩ => { s with opened := Function.update s.opened fd none }
  | ⟨.write fd data, _⟩ =>
    if s.opened fd = some D.host then { s with host := some (data = str "1") } else s
  | ⟨.ioctl _ .MODEM_ON, _⟩ => { s with modem := some true }
  | ⟨.ioctl _ .MODEM_OFF, _⟩ => { s with modem := some false }
  | ⟨.ioctl _ (.LINK_CONTROL_ENABLE active), _⟩ => { s with enable := some active }
  | ⟨.ioctl _ (.LINK_CONTROL_ACTIVE active), _⟩ => { s with active := some active }
  | ⟨.usleep _, _⟩ => { s with slept := s.slept + 1 }
  | _ => s

/-- All parts of the link have been switched to this. -/
def Switched (s : Ledger) (value : Option Bool) : Prop :=
  s.enable = value ∧ s.host = value ∧ s.active = value

/-- What may be asked: each request of its own device, as long as that is open. The modem is
switched on while the link is down. -/
def allowed (s : Ledger) : LinkCall → Prop
  | .open_ .. | .usleep _ | .panicErrno _ | .other _ => True
  | .close fd => s.opened fd = some D.boot ∨ s.opened fd = some D.host
  | .read fd _ | .select fd _ => s.opened fd = some D.boot
  | .write fd data => s.opened fd = some D.boot ∨
      s.opened fd = some D.host ∧ (data = str "1" ∨ data = str "0")
  | .ioctl fd .MODEM_ON => s.opened fd = some D.boot ∧ s.Switched (some false)
  | .ioctl fd .MODEM_OFF => s.opened fd = some D.boot
  | .ioctl fd _ => s.opened fd = some D.control
  | .panic _ | .dangling => False

/-- The kernel gives out descriptors that are not open. -/
def answers (s : Ledger) : Event LinkCall.Ret → Prop
  | ⟨.open_ .., .ok fd⟩ => s.opened fd = none
  | _ => True

def monitor : Monitor LinkCall.Ret Ledger where
  record := record D
  answers := answers
  allowed := allowed D

end Ledger

section
variable {D : Devices} {α : Type} {Q : α → Ledger → Prop} {s : Ledger}

theorem safe_call {c : LinkCall} {k : c.Ret → Link α} (hallowed : Ledger.allowed D s c)
    (hk : ∀ r, Ledger.answers s ⟨c, r⟩ →
      (Ledger.monitor D).Safe Q (k r) (Ledger.record D s ⟨c, r⟩)) :
    (Ledger.monitor D).Safe Q (linkCall c >>= k) s := ⟨hallowed, hk⟩

/-- A call that fails panics. -/
theorem safe_orPanic {β : Type} {message : String} {ret : Except ℕ β} {k : β → Link α}
    (hk : ∀ b, ret = .ok b → (Ledger.monitor D).Safe Q (k b) s) :
    (Ledger.monitor D).Safe Q (orPanic message ret >>= k) s := by
  cases ret with
  | ok b => exact hk b rfl
  | error _ => exact ⟨trivial, nofun⟩

theorem safe_ioctl {fd : ℕ} {request : Ioctl} {message : String} {k : ℤ → Link α}
    (hallowed : Ledger.allowed D s (.ioctl fd request))
    (hk : ∀ ret answer, (Ledger.monitor D).Safe Q (k ret)
      (Ledger.record D s ⟨.ioctl fd request, answer⟩)) :
    (Ledger.monitor D).Safe Q
      (linkCall (.ioctl fd request) >>= fun r => orPanic message r >>= k) s :=
  safe_call hallowed fun r _ => safe_orPanic fun ret _ => hk ret r

theorem Devices.boot_ne_host : D.boot ≠ D.host := by
  intro h
  have hlast := congrArg List.getLast? h
  have hboot : (deviceName .Boot).getLast? = some 48 := by decide
  have hhost : ehci_power.getLast? = some 114 := by decide
  simp [Devices.boot, Devices.host, List.getLast?_append, hboot, hhost] at hlast

theorem safe_seq {β : Type} {p : Link β} {k : β → Link α} {R : β → Ledger → Prop}
    (h : (Ledger.monitor D).Safe R p s) (hk : ∀ b s', R b s' → (Ledger.monitor D).Safe Q (k b) s') :
    (Ledger.monitor D).Safe Q (p >>= k) s := Monitor.safe_bind.mpr (h.mono hk)

/-- The power of the host controller is switched, and nothing stays open. -/
theorem safe_power (up : Bool) :
    (Ledger.monitor D).Safe (fun _ s' => s' = { s with host := some up })
    (SysfsControlledDevice.write D.path ehci_power (if up then str "1" else str "0")) s := by
  have hvalue : decide ((if up then str "1" else str "0") = str "1") = up := by cases up <;> decide
  refine safe_call trivial fun r hanswer => safe_orPanic fun fd hfd => ?_
  subst hfd
  have hclosed : s.opened fd = none := hanswer
  have hopened : (Ledger.record D s ⟨.open_ D.host O_WRONLY, .ok fd⟩).opened fd = some D.host :=
    Function.update_self ..
  refine safe_call (.inr ⟨hopened, by cases up <;> simp⟩) fun written _ =>
    safe_orPanic fun _ _ => ?_
  have hwrite : Ledger.record D (Ledger.record D s ⟨.open_ D.host O_WRONLY, .ok fd⟩)
      ⟨.write fd (if up then str "1" else str "0"), written⟩ =
        { s with opened := Function.update s.opened fd (some D.host), host := some up } := by
    refine (if_pos hopened).trans ?_
    rw [hvalue]
    rfl
  change (Ledger.monitor D).Safe _ (linkCall (.close fd))
    (Ledger.record D (Ledger.record D s ⟨.open_ D.host O_WRONLY, .ok fd⟩) _)
  rw [hwrite]
  refine ⟨.inr (Function.update_self ..), fun _ _ => ?_⟩
  change { s with opened := Function.update (Function.update s.opened fd (some D.host)) fd none,
                  host := some up } = _
  rw [Function.update_idem, ← hclosed, Function.update_eq_self]

variable {t : USBIPCTransport}

/-- A transport for these devices, with the control file open. -/
structure Controls (D : Devices) (t : USBIPCTransport) (opened : ℕ → Option Bytes) : Prop where
  directory : t.m_directory = D.directory
  path : t.m_path = D.path
  control : opened t.m_controlFile = some D.control

theorem Controls.same {opened : ℕ → Option Bytes} (h : Controls D t opened) {t' : USBIPCTransport}
    (hdirectory : t'.m_directory = t.m_directory) (hpath : t'.m_path = t.m_path)
    (hcontrol : t'.m_controlFile = t.m_controlFile) : Controls D t' opened :=
  ⟨hdirectory.trans h.directory, hpath.trans h.path, by rw [hcontrol, h.control]⟩

/-- The boot socket, open under this descriptor. -/
def HasBoot (D : Devices) (t : USBIPCTransport) (opened : ℕ → Option Bytes) (fd : ℕ) : Prop :=
  ∃ socket, t.m_bootSocket = some socket ∧ t.sockets socket = some ⟨some fd⟩ ∧
    opened fd = some D.boot

/-- What `setLink` switches. -/
def Ledger.switched (s : Ledger) (up keepModem : Bool) : Ledger :=
  { s with
    modem := if keepModem then s.modem else some up
    enable := some up
    host := some up
    active := some up }

/-- The link is switched as a whole. The modem needs its boot socket, and is switched on with the
link down. -/
theorem safe_setLink (up keepModem : Bool) (h : Controls D t s.opened)
    (hboot : keepModem = false → ∃ fd, HasBoot D t s.opened fd)
    (hdown : keepModem = false → up = true → s.Switched (some false)) :
    (Ledger.monitor D).Safe (fun _ s' => s' = s.switched up keepModem)
    (t.setLink up keepModem) s := by
  have hlink : ∀ s : Ledger, Controls D t s.opened → (Ledger.monitor D).Safe
      (fun _ s' => s' = s.switched up true) (t.setLink up true) s := by
    intro s h
    refine safe_ioctl h.control fun _ _ => ?_
    rw [h.path]
    refine safe_seq (safe_power up) fun _ s' hs' => ?_
    subst hs'
    exact safe_ioctl h.control fun _ _ => rfl
  cases keepModem with
  | true => exact hlink s h
  | false =>
    obtain ⟨fd, socket, hsocket, hfd, hopened⟩ := hboot rfl
    unfold setLink
    simp only [hsocket, USBIPCTransport.fd, hfd]
    change (Ledger.monitor D).Safe _ (linkCall (.ioctl fd _) >>= fun r => orPanic _ r >>= fun _ =>
      t.setLink up true) s
    cases up with
    | true =>
      refine safe_ioctl ⟨hopened, hdown rfl rfl⟩ fun _ _ =>
        (hlink { s with modem := some true } ⟨h.directory, h.path, h.control⟩).mono ?_
      rintro _ s' rfl
      rfl
    | false =>
      refine safe_ioctl hopened fun _ _ =>
        (hlink { s with modem := some false } ⟨h.directory, h.path, h.control⟩).mono ?_
      rintro _ s' rfl
      rfl

/-- A loop that waits leaves all but the time as it is. -/
theorem safe_waitFor {check : Link Bool} (hcheck : ∀ s : Ledger, Controls D t s.opened →
      (Ledger.monitor D).Safe (fun _ s' => s' = s) check s) (status : Bool) (tries : ℕ)
    (h : Controls D t s.opened) :
    (Ledger.monitor D).Safe (fun _ s' => ∃ n ≤ tries - 1, s' = { s with slept := s.slept + n })
      (waitFor check status tries) s := by
  induction tries generalizing s with
  | zero => exact ⟨0, le_rfl, rfl⟩
  | succ tries ih =>
    refine safe_seq (hcheck s h) fun result s' hs' => ?_
    subst hs'
    by_cases hresult : result = status
    · rw [if_neg (not_not.mpr hresult)]
      exact ⟨0, Nat.zero_le _, rfl⟩
    · rw [if_pos hresult]
      by_cases htries : tries = 0
      · rw [if_pos htries]
        exact ⟨0, Nat.zero_le _, rfl⟩
      · rw [if_neg htries]
        refine safe_call trivial fun _ _ => (ih (s := { s' with slept := s'.slept + 1 }) h).mono ?_
        rintro _ s'' ⟨n, hn, rfl⟩
        refine ⟨n + 1, by omega, ?_⟩
        simp only [Nat.add_assoc, Nat.add_comm 1 n]

theorem safe_isLinkUp (s : Ledger) (h : Controls D t s.opened) :
    (Ledger.monitor D).Safe (fun _ s' => s' = s) t.isLinkUp s :=
  safe_ioctl h.control fun _ _ => rfl

theorem safe_isWokenUp (s : Ledger) (h : Controls D t s.opened) :
    (Ledger.monitor D).Safe (fun _ s' => s' = s) t.isWokenUp s :=
  safe_ioctl h.control fun _ _ => rfl

/-- The link has not been touched or is up, and so is the modem. -/
structure Ledger.Settled (s : Ledger) : Prop where
  link : s.Switched none ∨ s.Switched (some true)
  modem : s.modem ≠ some false

theorem Ledger.Settled.same (h : s.Settled) {s' : Ledger} (hmodem : s'.modem = s.modem)
    (henable : s'.enable = s.enable) (hhost : s'.host = s.host) (hactive : s'.active = s.active) :
    s'.Settled := by
  obtain ⟨hlink, hon⟩ := h
  refine ⟨?_, by rwa [hmodem]⟩
  unfold Switched at hlink ⊢
  rwa [henable, hhost, hactive]

/-- What is kept of a ledger while the connection is made anew: so many times has been waited at
most. -/
structure Ledger.Reconnected (s s' : Ledger) (waits : ℕ) : Prop where
  opened : s'.opened = s.opened
  settled : s'.Settled
  slept : s'.slept ≤ s.slept + waits

/-- `connect` switches the modem off and on, between two states of the link. -/
theorem safe_connect (h : Controls D t s.opened) {fd : ℕ} (hboot : HasBoot D t s.opened fd) :
    (Ledger.monitor D).Safe (fun _ s' => s.Reconnected s' 3) t.connect s := by
  change (Ledger.monitor D).Safe _
    (t.setLink false false >>= fun _ => t.setLink true false >>= fun _ =>
      waitFor t.isLinkUp true 4) s
  refine safe_seq (safe_setLink false false h (fun _ => ⟨fd, hboot⟩) (by simp)) fun _ s₁ hs₁ => ?_
  subst hs₁
  refine safe_seq (safe_setLink (s := s.switched false false) true false
    ⟨h.directory, h.path, h.control⟩ (fun _ => ⟨fd, hboot⟩) fun _ _ => ⟨rfl, rfl, rfl⟩) fun _ s₂ hs₂ => ?_
  subst hs₂
  refine Monitor.Safe.mono (safe_waitFor safe_isLinkUp true 4 ?_) ?_
  · exact ⟨h.directory, h.path, h.control⟩
  · rintro _ s' ⟨n, hn, rfl⟩
    exact ⟨rfl, ⟨.inr ⟨rfl, rfl, rfl⟩, by simp [Ledger.switched]⟩, Nat.add_le_add_left hn _⟩

/-- `redetect` leaves the power of the modem alone. -/
theorem safe_redetect (h : Controls D t s.opened) (hsettled : s.Settled) :
    (Ledger.monitor D).Safe (fun _ s' => s.Reconnected s' 21) t.redetect s := by
  change (Ledger.monitor D).Safe _
    (t.waitForWakeup true >>= fun awake => if !awake then return false else
    t.setLink false true >>= fun _ => t.waitForWakeup false >>= fun asleep =>
      if !asleep then t.setLink true true >>= fun _ => return false
      else t.setLink true true >>= fun _ => waitFor t.isLinkUp true 4) s
  refine safe_seq (safe_waitFor safe_isWokenUp true 10 h) fun awake s₁ ⟨n, hn, hs₁⟩ => ?_
  subst hs₁
  cases awake with
  | false =>
    exact ⟨rfl, ⟨hsettled.link, hsettled.modem⟩, Nat.add_le_add_left (hn.trans (by decide)) _⟩
  | true =>
    refine safe_seq (safe_setLink false true ⟨h.directory, h.path, h.control⟩ (by simp) (by simp))
      fun _ s₂ hs₂ => ?_
    subst hs₂
    refine safe_seq (safe_waitFor safe_isWokenUp false 10 ⟨h.directory, h.path, h.control⟩)
      fun asleep s₃ ⟨m, hm, hs₃⟩ => ?_
    subst hs₃
    cases asleep with
    | false =>
      refine safe_seq (safe_setLink true true ⟨h.directory, h.path, h.control⟩ (by simp) (by simp))
        fun _ s₄ hs₄ => ?_
      subst hs₄
      refine ⟨rfl, ⟨.inr ⟨rfl, rfl, rfl⟩, hsettled.modem⟩, ?_⟩
      change s.slept + n + m ≤ s.slept + 21
      omega
    | true =>
      refine safe_seq (safe_setLink true true ⟨h.directory, h.path, h.control⟩ (by simp) (by simp))
        fun _ s₄ hs₄ => ?_
      subst hs₄
      refine Monitor.Safe.mono (safe_waitFor safe_isLinkUp true 4 ?_) ?_
      · exact ⟨h.directory, h.path, h.control⟩
      · rintro _ s' ⟨k, hk, rfl⟩
        refine ⟨rfl, ⟨.inr ⟨rfl, rfl, rfl⟩, hsettled.modem⟩, ?_⟩
        change s.slept + n + m + k ≤ s.slept + 21
        omega

end
end USBIPCTransport
end FreeRil
