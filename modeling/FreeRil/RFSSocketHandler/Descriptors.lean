import FreeRil.AndroidFileSystem.Files
import FreeRil.AndroidFileSystem.Paths
import FreeRil.Library.Monitor

/-! The modem reaches only the files and directories that it has opened. -/
namespace FreeRil
open AndroidFileSystem Program Messages

/-- A system call is made in answering a call of `IFileSystem`. -/
abbrev Purposed := IFileSystem × Syscall

abbrev Purposed.Ret (o : Purposed) : Type := o.2.Ret

/-- The file system, with the purpose of everything that it asks of the kernel. -/
def AndroidFileSystem.purposed (md5 : Bytes → Vector UInt8 16) (fs : AndroidFileSystem)
    (c : IFileSystem) : Program Purposed.Ret (AndroidFileSystem × c.Ret) :=
  (fs.answer md5 c).tagged c

namespace RFSSocketHandler

/-- What a session has opened and not closed: all descriptors, those that `openFile` has returned,
and the directories. -/
structure Ledger where
  live : Finset ℕ
  files : Finset ℕ
  directories : Finset UInt32

/-- A call in which the modem is handed a descriptor. -/
def handsOut : IFileSystem → Bool
  | .openFile .. => true
  | _ => false

/-- A call that the modem makes for its NV data, and not for a file. -/
def forNVData : IFileSystem → Bool
  | .readNVData .. | .writeNVData .. => true
  | _ => false

namespace Ledger

def empty : Ledger := ⟨∅, ∅, ∅⟩

/-- What becomes of it with a call that the kernel has answered. -/
def record (s : Ledger) (purpose : IFileSystem) : (c : Syscall) → c.Ret → Ledger
  | .open_ _ _ _, .ok fd =>
    { s with
      live := insert fd s.live
      files := if handsOut purpose then insert fd s.files else s.files }
  | .close fd, .ok () => { s with live := s.live.erase fd, files := s.files.erase fd }
  | .opendir _, .ok dir => { s with directories := insert dir s.directories }
  | .closedir dir, .ok () => { s with directories := s.directories.erase dir }
  | _, _ => s

/-- What the kernel may answer when `others` are open besides. -/
def answers (others : Finset ℕ) (s : Ledger) : (c : Syscall) → c.Ret → Prop
  | .open_ _ _ _, .ok fd => fd ∉ s.live ∧ fd ∉ others
  | .open_ _ _ _, .error errno => 0 < errno
  | .opendir _, .ok dir => dir ∉ s.directories
  | .close fd, ret => fd ∈ s.live → ret = .ok ()
  | .closedir dir, ret => dir ∈ s.directories → ret = .ok ()
  | _, _ => True

/-- The modem's requests for files reach what `openFile` has returned, those for NV data what has
been opened for them. -/
def reaches (others : Finset ℕ) (s : Ledger) (purpose : IFileSystem) (fd : ℕ) : Prop :=
  fd ∉ others ∧ if forNVData purpose then fd ∈ s.live ∧ fd ∉ s.files else fd ∈ s.files

/-- A call is made on a file or a directory that is open. -/
def allowed (others : Finset ℕ) (s : Ledger) (purpose : IFileSystem) : Syscall → Prop
  | .read fd _ | .write fd _ | .lseek fd _ _ | .ftruncate fd _ | .fstat fd | .close fd =>
    reaches others s purpose fd
  | .readdir dir | .closedir dir => dir ∈ s.directories
  | _ => True

/-- The rules of the kernel, and the rule that the modem's requests follow. -/
def monitor (others : Finset ℕ) : Monitor Purposed.Ret Ledger where
  record s e := s.record e.op.1 e.op.2 e.answer
  answers s e := answers others s e.op.2 e.answer
  allowed s o := allowed others s o.1 o.2

end Ledger
/-- A program run for a purpose keeps to the rules, and ends with `Q`. -/
def Safe {α : Type} (others : Finset ℕ) (purpose : IFileSystem) (Q : α → Ledger → Prop) (p : Sys α)
    (s : Ledger) : Prop :=
  (Ledger.monitor others).Safe Q (p.tagged purpose) s

/-- A call that opens and closes nothing. -/
def Quiet : Syscall → Prop
  | .open_ .. | .close .. | .opendir .. | .closedir .. => False
  | _ => True

/-- A call that is given neither a descriptor nor a directory of the modem's. -/
def Pathlike : Syscall → Prop
  | .read .. | .write .. | .lseek .. | .ftruncate .. | .fstat .. | .readdir .. => False
  | c => Quiet c

section
variable {α β : Type} {others : Finset ℕ} {purpose : IFileSystem} {Q : α → Ledger → Prop}
  {s : Ledger}

theorem safe_return {a : α} (h : Q a s) : Safe others purpose Q (pure a) s := h

theorem safe_seq {p : Sys β} {k : β → Sys α}
    (h : Safe others purpose (fun b s => Safe others purpose Q (k b) s) p s) :
    Safe others purpose Q (p >>= k) s := by
  rw [Safe, Program.tagged_bind, Monitor.safe_bind]
  exact h

theorem safe_syscall {c : Syscall} {k : c.Ret → Sys α} (hallowed : Ledger.allowed others s purpose c)
    (hk : ∀ r, Ledger.answers others s c r → Safe others purpose Q (k r) (s.record purpose c r)) :
    Safe others purpose Q (syscall c >>= k) s := ⟨hallowed, hk⟩

theorem Quiet.record {c : Syscall} (h : Quiet c) (r : c.Ret) : s.record purpose c r = s := by
  cases c <;> first | rfl | exact h.elim

theorem Pathlike.quiet {c : Syscall} (h : Pathlike c) : Quiet c := by
  cases c <;> first | exact h | exact h.elim

theorem Pathlike.allowed {c : Syscall} (h : Pathlike c) : Ledger.allowed others s purpose c := by
  cases c <;> trivial

theorem tagged_all {p : Sys α} {kind : Syscall → Prop} (h : p.All kind) :
    (p.tagged purpose).All fun o => o.1 = purpose ∧ kind o.2 := by
  induction p with
  | done a => trivial
  | call c next ih => exact ⟨⟨rfl, h.1⟩, fun r => ih r (h.2 r)⟩

theorem tagged_returns {p : Sys α} {a : α} (h : (p.tagged purpose).Returns a) : p.Returns a := by
  induction p with
  | done b => exact h
  | call c next ih =>
    obtain ⟨r, hr⟩ := h
    exact ⟨r, ih r hr⟩

/-- What works on paths only does not matter here. -/
theorem safe_pathlike {p : Sys α} (h : p.All Pathlike) (hQ : ∀ a, p.Returns a → Q a s) :
    Safe others purpose Q p s := by
  refine Monitor.safe_of_all (tagged_all h) ?_ ?_ fun a ha => hQ a (tagged_returns ha)
  · rintro ⟨c, call⟩ ⟨rfl, hcall⟩ s
    exact hcall.allowed
  · rintro ⟨c, call⟩ ⟨rfl, hcall⟩ s r
    exact hcall.quiet.record r

theorem safe_panic (message : String) : Safe others purpose Q (panic message) s :=
  ⟨trivial, fun r => r.elim⟩

theorem panic_all {kind : Syscall → Prop} {message : String} (h : kind (.panic message)) :
    (panic message : Sys α).All kind := ⟨h, fun r => r.elim⟩

end
section
variable {md5 : Bytes → Vector UInt8 16} {others : Finset ℕ} {purpose : IFileSystem} {s : Ledger}
  {fs : AndroidFileSystem}

theorem updateFileMD5_all (fd chunks i : ℕ) (ctx : Bytes) :
    (updateFileMD5 fd chunks i ctx).All Pathlike := by
  induction chunks generalizing i ctx with
  | zero => trivial
  | succ chunks ih =>
    refine ⟨trivial, fun r => ?_⟩
    cases r with
    | error errno => trivial
    | ok buf => exact ih _ _

theorem digestOrPanic_all (fd size : ℕ) : (digestOrPanic md5 fd size).All Pathlike := by
  refine Program.all_bind.mpr ⟨Program.all_bind.mpr ⟨updateFileMD5_all fd _ _ _, ?_⟩, ?_⟩
  · intro ctx _
    cases ctx <;> trivial
  · intro digest _
    cases digest with
    | none => exact panic_all trivial
    | some digest => trivial

theorem safe_writeOrPanic {Q : Unit → Ledger → Prop} {fd : ℕ} {data : Bytes}
    (hfd : Ledger.reaches others s purpose fd) (hQ : Q () s) :
    Safe others purpose Q (writeOrPanic fd data) s := by
  refine safe_syscall hfd fun ret _ => ?_
  rw [Quiet.record (c := .write fd data) trivial]
  cases ret with
  | error errno => exact safe_panic "write"
  | ok n =>
    rw [expectOrPanic]
    split_ifs
    · exact safe_panic "write"
    · exact safe_return hQ

/-- A file that is opened for the NV data and closed again, after `use` has been made of it. -/
theorem safe_open_own {α : Type} {Q : α → Ledger → Prop} (hpurpose : forNVData purpose = true)
    (hlive : ∀ fd ∈ s.files, fd ∈ s.live) {path : Bytes} {flags : UInt32} {mode : ℕ}
    {use : ℕ → Sys Unit} {k : Sys α}
    (huse : ∀ (fd : ℕ) (s : Ledger) (Q : Unit → Ledger → Prop), Ledger.reaches others s purpose fd →
      Q () s → Safe others purpose Q (use fd) s)
    (hk : Safe others purpose Q k s) :
    Safe others purpose Q (do
      let fd ← openOrPanic path flags mode
      use fd
      let _ ← syscall (.close fd)
      k) s := by
  have hkind : handsOut purpose = false := by
    cases purpose <;> first | rfl | contradiction
  refine safe_seq (safe_syscall trivial fun r hr => ?_)
  cases r with
  | error errno => exact safe_panic "open"
  | ok fd =>
    obtain ⟨hfresh, hothers⟩ := hr
    have hfile : fd ∉ s.files := fun hmem => hfresh (hlive fd hmem)
    have hrecord : s.record purpose (.open_ path flags mode) (.ok fd) =
        { s with live := insert fd s.live } := by
      simp [Ledger.record, hkind]
    have hreaches : Ledger.reaches others { s with live := insert fd s.live } purpose fd := by
      simp [Ledger.reaches, hpurpose, hothers, hfile]
    rw [hrecord]
    refine safe_return (safe_seq (huse fd _ _ hreaches ?_))
    refine safe_syscall hreaches fun ret hret => ?_
    obtain rfl : ret = .ok () := hret (Finset.mem_insert_self fd s.live)
    have hclosed : Ledger.record { s with live := insert fd s.live } purpose (.close fd) (.ok ()) =
        s := by
      simp [Ledger.record, Finset.erase_insert hfresh, Finset.erase_eq_of_notMem hfile]
    rw [hclosed]
    exact hk

theorem safe_writeMarker {Q : Unit → Ledger → Prop} (hpurpose : forNVData purpose = true)
    (hlive : ∀ fd ∈ s.files, fd ∈ s.live) {efs : Bytes} (hQ : Q () s) :
    Safe others purpose Q (writeMarker efs) s := by
  have huse : ∀ (fd : ℕ) (s : Ledger) (Q : Unit → Ledger → Prop),
      Ledger.reaches others s purpose fd → Q () s → Safe others purpose Q (do
        writeOrPanic fd (str "1")
        let _ ← syscall (.fsync fd)
        return ()) s := by
    intro fd s Q hfd hQ
    refine safe_seq (safe_writeOrPanic hfd ?_)
    exact safe_pathlike ⟨trivial, fun _ => trivial⟩ fun _ _ => hQ
  have hmarker : writeMarker efs = (do
      let marker ← openOrPanic (efs ++ str "/.nv_state") (O_WRONLY ||| O_TRUNC ||| O_CREAT) 0o600
      (do
        writeOrPanic marker (str "1")
        let _ ← syscall (.fsync marker)
        return ())
      let _ ← syscall (.close marker)
      return ()) := by
    unfold writeMarker
    congr 1
    funext marker
    rw [Program.bind_assoc]
    rfl
  rw [hmarker]
  exact safe_open_own hpurpose hlive huse (safe_return hQ)

theorem safe_updateMD5 {Q : AndroidFileSystem → Ledger → Prop} (hpurpose : forNVData purpose = true)
    (hlive : ∀ fd ∈ s.files, fd ∈ s.live)
    (hQ : ∀ enabled, Q { fs with m_md5_enabled := enabled } s) :
    Safe others purpose Q (fs.updateMD5 md5) s := by
  refine safe_seq (safe_pathlike (digestOrPanic_all _ _) fun digest _ => ?_)
  refine safe_open_own hpurpose hlive (fun fd s Q hfd hQ => safe_writeOrPanic hfd hQ) ?_
  cases henabled : fs.m_md5_enabled with
  | true =>
    have h := hQ true
    rw [← henabled] at h
    exact safe_return h
  | false => exact safe_seq (safe_writeMarker hpurpose hlive (safe_return (hQ true)))

theorem safe_readNVData {Q : ℤ × Bytes → Ledger → Prop} {offset : Int32} {data : Bytes}
    (hQ : ∀ r, Q r s) :
    Safe others purpose Q (fs.readNVData offset data) s := by
  unfold readNVData
  split_ifs
  · exact safe_return (hQ _)
  · refine safe_syscall trivial fun r _ => ?_
    cases r <;> exact safe_return (hQ _)

theorem safe_writeNVData {Q : AndroidFileSystem × ℤ → Ledger → Prop}
    (hpurpose : forNVData purpose = true) (hlive : ∀ fd ∈ s.files, fd ∈ s.live) {offset : Int32}
    {data : Bytes} (hQ : ∀ enabled ret, Q ({ fs with m_md5_enabled := enabled }, ret) s) :
    Safe others purpose Q (fs.writeNVData md5 offset data) s := by
  unfold writeNVData
  split_ifs
  · exact safe_return (hQ fs.m_md5_enabled _)
  · refine safe_syscall trivial fun r _ => ?_
    cases r with
    | error errno => exact safe_return (hQ fs.m_md5_enabled _)
    | ok n => exact safe_seq (safe_updateMD5 hpurpose hlive fun enabled => safe_return (hQ enabled 0))

end
/-- The object knows what is open for the modem. -/
structure Tracks (others : Finset ℕ) (fs : AndroidFileSystem) (s : Ledger) : Prop where
  files_eq : s.files = fs.m_rfsDescriptors
  directories_eq : s.directories = fs.m_rfsDirectories
  files_live : ∀ fd ∈ s.files, fd ∈ s.live
  live_others : ∀ fd ∈ s.live, fd ∉ others
  nvdata_other : fs.m_nvdata ∈ others

section
variable {α : Type} {md5 : Bytes → Vector UInt8 16} {others : Finset ℕ} {purpose : IFileSystem}
  {s : Ledger} {fs : AndroidFileSystem}

theorem validate_le (efs expanded : Bytes) (offset : ℕ) : validate efs expanded offset ≤ 0 := by
  induction offset using slash_induction expanded with
  | h offset ih =>
    rw [validate]
    split_ifs
    · decide
    · decide
    · split
      · exact le_rfl
      · rename_i next hfind
        exact ih next hfind

theorem makePathStep_pathlike (expanded : Bytes) (offset : ℕ) :
    (makePathStep expanded offset).All Pathlike := by
  unfold makePathStep
  split_ifs
  · refine ⟨trivial, fun r => ?_⟩
    cases r <;> trivial
  · trivial

theorem makePathFrom_pathlike (expanded : Bytes) (offset : ℕ) :
    (makePathFrom expanded offset).All Pathlike := by
  induction offset using slash_induction expanded with
  | h offset ih =>
    rw [makePathFrom, Program.all_bind]
    refine ⟨makePathStep_pathlike expanded offset, fun r _ => ?_⟩
    cases r with
    | some errno => trivial
    | none =>
      simp only
      split
      · trivial
      · rename_i next hfind
        exact ih next hfind

theorem makePathFrom_le {expanded : Bytes} {offset : ℕ} {ret : ℤ}
    (h : (makePathFrom expanded offset).Returns ret) : ret ≤ 0 := by
  induction offset using slash_induction expanded with
  | h offset ih =>
    rw [makePathFrom, Program.returns_bind] at h
    obtain ⟨r, -, h⟩ := h
    cases r with
    | some errno =>
      obtain rfl : (-errno : ℤ) = ret := h
      omega
    | none =>
      simp only at h
      split at h
      · obtain rfl : 0 = ret := h
        exact le_rfl
      · rename_i next hfind
        exact ih next hfind h

theorem safe_withFilename {Q : AndroidFileSystem × ℤ → Ledger → Prop} {filename : Bytes}
    {k : Bytes → Sys (AndroidFileSystem × ℤ)} (hrefused : ∀ ret < 0, Q (fs, ret) s)
    (hk : ∀ expanded, Safe others purpose Q (k expanded) s) :
    Safe others purpose Q (fs.withFilename filename k) s := by
  unfold withFilename
  change Safe others purpose Q (if (fs.expandAndValidateFilename filename).1 ≠ 0 then
    pure (fs, (fs.expandAndValidateFilename filename).1) else
    k (fs.expandAndValidateFilename filename).2) s
  split_ifs with hret
  · exact safe_return (hrefused _ (lt_of_le_of_ne (validate_le _ _ _) hret))
  · exact hk _

theorem safe_withPath {Q : AndroidFileSystem × ℤ → Ledger → Prop} {expanded : Bytes}
    {k : Sys (AndroidFileSystem × ℤ)} (hrefused : ∀ ret < 0, Q (fs, ret) s)
    (hk : Safe others purpose Q k s) : Safe others purpose Q (fs.withPath expanded k) s := by
  refine safe_seq (safe_pathlike (makePathFrom_pathlike expanded 0) fun ret hret => ?_)
  split_ifs with hne
  · exact safe_return (hrefused _ (lt_of_le_of_ne (makePathFrom_le hret) hne))
  · exact hk

section
variable {Q : AndroidFileSystem × ℤ → Ledger → Prop} {filename : Bytes}

/-- An operation on paths leaves the object as it is. -/
theorem safe_path {c : Syscall} (hc : Pathlike c) {value : c.Ret → ℤ} (hQ : ∀ ret, Q (fs, ret) s) :
    Safe others purpose Q (syscall c >>= fun r => pure (fs, value r)) s := by
  refine safe_syscall hc.allowed fun r _ => ?_
  rw [hc.quiet.record]
  exact safe_return (hQ _)

theorem safe_deleteFile (hQ : ∀ ret, Q (fs, ret) s) :
    Safe others purpose Q (fs.deleteFile filename) s :=
  safe_withFilename (fun _ _ => hQ _) fun expanded =>
    safe_path (c := .unlink (cstr expanded)) trivial hQ

theorem safe_renameFile {newName : Bytes} (hQ : ∀ ret, Q (fs, ret) s) :
    Safe others purpose Q (fs.renameFile filename newName) s := by
  refine safe_withFilename (fun _ _ => hQ _) fun oldExpanded => ?_
  refine safe_withFilename (fun _ _ => hQ _) fun newExpanded => ?_
  refine safe_withPath (fun _ _ => hQ _) ?_
  exact safe_path (c := .rename (cstr oldExpanded) (cstr newExpanded)) trivial hQ

theorem safe_makeDirectory (hQ : ∀ ret, Q (fs, ret) s) :
    Safe others purpose Q (fs.makeDirectory filename) s :=
  safe_withFilename (fun _ _ => hQ _) fun expanded => safe_withPath (fun _ _ => hQ _)
    (safe_path (c := .mkdir (cstr expanded) 0o700) trivial hQ)

theorem safe_deleteDirectory (hQ : ∀ ret, Q (fs, ret) s) :
    Safe others purpose Q (fs.deleteDirectory filename) s :=
  safe_withFilename (fun _ _ => hQ _) fun expanded => safe_withPath (fun _ _ => hQ _)
    (safe_path (c := .rmdir (cstr expanded)) trivial hQ)

end
theorem Tracks.reaches (h : Tracks others fs s) (hpurpose : forNVData purpose = false) {fd : ℤ}
    (hsafe : fs.isSafeDescriptor fd = true) : Ledger.reaches others s purpose fd.toNat := by
  have hboth : 0 ≤ fd ∧ fd.toNat ∈ fs.m_rfsDescriptors := by simpa [isSafeDescriptor] using hsafe
  have hmem : fd.toNat ∈ s.files := by
    rw [h.files_eq]
    exact hboth.2
  refine ⟨h.live_others _ (h.files_live _ hmem), ?_⟩
  simpa [hpurpose] using hmem

/-- A call on a descriptor that the modem names. -/
theorem safe_guarded {Q : α → Ledger → Prop} {fd : ℤ} {refused : α} {p : Sys α}
    (hrefused : Q refused s)
    (hp : fs.isSafeDescriptor fd = true → Safe others purpose Q p s) :
    Safe others purpose Q (if ¬ fs.isSafeDescriptor fd then return refused else p) s := by
  by_cases hsafe : fs.isSafeDescriptor fd = true
  · rw [if_neg (not_not.mpr hsafe)]
    exact hp hsafe
  · rw [if_pos hsafe]
    exact safe_return hrefused

theorem safe_openFile {Q : AndroidFileSystem × ℤ → Ledger → Prop} (hpurpose : handsOut purpose = true)
    {filename : Bytes} {flags : UInt32} (hrefused : ∀ ret < 0, Q (fs, ret) s)
    (hopened : ∀ fd : ℕ, fd ∉ s.live → fd ∉ others →
      Q ({ fs with m_rfsDescriptors := insert fd fs.m_rfsDescriptors }, (fd : ℤ))
        { s with live := insert fd s.live, files := insert fd s.files }) :
    Safe others purpose Q (fs.openFile filename flags) s := by
  refine safe_withFilename hrefused fun expanded => safe_withPath hrefused ?_
  refine safe_syscall trivial fun r hr => ?_
  cases r with
  | error errno =>
    have hpos : 0 < errno := hr
    exact safe_return (hrefused _ (by omega))
  | ok fd =>
    have hrecord : s.record purpose (.open_ (cstr expanded) flags 0o600) (.ok fd) =
        { s with live := insert fd s.live, files := insert fd s.files } := by
      simp [Ledger.record, hpurpose]
    rw [hrecord]
    exact safe_return (hopened fd hr.1 hr.2)

theorem safe_closeFile {Q : AndroidFileSystem × ℤ → Ledger → Prop} (h : Tracks others fs s)
    (hpurpose : forNVData purpose = false) {fd : ℤ}
    (hrefused : fs.isSafeDescriptor fd ≠ true → Q (fs, -EBADF) s)
    (hclosed : fs.isSafeDescriptor fd = true →
      Q ({ fs with m_rfsDescriptors := fs.m_rfsDescriptors.erase fd.toNat }, 0)
        { s with live := s.live.erase fd.toNat, files := s.files.erase fd.toNat }) :
    Safe others purpose Q (fs.closeFile fd) s := by
  unfold closeFile
  by_cases hsafe : fs.isSafeDescriptor fd = true
  · rw [if_neg (not_not.mpr hsafe)]
    have hreaches := h.reaches hpurpose hsafe
    have hfile : fd.toNat ∈ s.files := by simpa [hpurpose] using hreaches.2
    refine safe_syscall hreaches fun r hr => ?_
    obtain rfl : r = .ok () := hr (h.files_live _ hfile)
    exact safe_return (hclosed hsafe)
  · rw [if_pos hsafe]
    exact safe_return (hrefused hsafe)

theorem Tracks.opened (h : Tracks others fs s) {fd : ℕ} (hothers : fd ∉ others) :
    Tracks others { fs with m_rfsDescriptors := insert fd fs.m_rfsDescriptors }
      { s with live := insert fd s.live, files := insert fd s.files } where
  files_eq := by rw [h.files_eq]
  directories_eq := h.directories_eq
  files_live := by
    intro fd' hfd'
    exact Finset.insert_subset_insert fd h.files_live hfd'
  live_others := by
    intro fd' hfd'
    rcases Finset.mem_insert.mp hfd' with rfl | hmem
    · exact hothers
    · exact h.live_others fd' hmem
  nvdata_other := h.nvdata_other

theorem Tracks.closed (h : Tracks others fs s) (fd : ℕ) :
    Tracks others { fs with m_rfsDescriptors := fs.m_rfsDescriptors.erase fd }
      { s with live := s.live.erase fd, files := s.files.erase fd } where
  files_eq := by rw [h.files_eq]
  directories_eq := h.directories_eq
  files_live := by
    intro fd' hfd'
    exact Finset.erase_subset_erase fd h.files_live hfd'
  live_others := fun fd' hfd' => h.live_others fd' (Finset.mem_of_mem_erase hfd')
  nvdata_other := h.nvdata_other

/-- What only depends on the sets. -/
theorem Tracks.enabled (h : Tracks others fs s) (enabled : Bool) :
    Tracks others { fs with m_md5_enabled := enabled } s :=
  ⟨h.files_eq, h.directories_eq, h.files_live, h.live_others, h.nvdata_other⟩

theorem safe_openDirectory (h : Tracks others fs s) {filename : Bytes} :
    Safe others purpose (fun r s' => Tracks others r.1 s') (fs.openDirectory filename) s := by
  refine safe_withFilename (fun _ _ => h) fun expanded => safe_withPath (fun _ _ => h) ?_
  refine safe_syscall trivial fun r _ => ?_
  cases r with
  | error errno => exact safe_return h
  | ok dir =>
    refine safe_return ⟨h.files_eq, ?_, h.files_live, h.live_others, h.nvdata_other⟩
    change insert dir s.directories = insert dir fs.m_rfsDirectories
    rw [h.directories_eq]

theorem safe_closeDirectory (h : Tracks others fs s) {fd : ℤ} :
    Safe others purpose (fun r s' => Tracks others r.1 s') (fs.closeDirectory fd) s := by
  unfold closeDirectory
  split_ifs with hdir
  · have hmem : directory fd ∈ s.directories := by
      rw [h.directories_eq]
      exact hdir
    refine safe_syscall (c := .closedir (directory fd)) hmem fun r hr => ?_
    obtain rfl : r = .ok () := hr hmem
    refine safe_return ⟨h.files_eq, ?_, h.files_live, h.live_others, h.nvdata_other⟩
    change s.directories.erase (directory fd) = fs.m_rfsDirectories.erase (directory fd)
    rw [h.directories_eq]
  · exact safe_return h

theorem safe_readDirectory {Q : ℤ × Bytes → Ledger → Prop} (h : Tracks others fs s) {fd : ℤ}
    {filename : Bytes} (hQ : ∀ r, Q r s) :
    Safe others purpose Q (fs.readDirectory fd filename) s := by
  unfold readDirectory
  split_ifs with hdir
  · have hmem : directory fd ∈ s.directories := by
      rw [h.directories_eq]
      exact hdir
    refine safe_syscall (c := .readdir (directory fd)) hmem fun r _ => ?_
    cases r with
    | error ret => exact safe_return (hQ _)
    | ok entry => cases entry <;> exact safe_return (hQ _)
  · exact safe_return (hQ _)

theorem safe_readFile {Q : ℤ × Bytes → Ledger → Prop} (h : Tracks others fs s)
    (hpurpose : forNVData purpose = false) {fd : ℤ} {data : Bytes} (hQ : ∀ r, Q r s) :
    Safe others purpose Q (fs.readFile fd data) s := by
  refine safe_guarded (hQ _) fun hsafe => safe_syscall (h.reaches hpurpose hsafe) fun r _ => ?_
  cases r <;> exact safe_return (hQ _)

theorem safe_writeFile {Q : ℤ → Ledger → Prop} (h : Tracks others fs s)
    (hpurpose : forNVData purpose = false) {fd : ℤ} {data : Bytes} (hQ : ∀ r, Q r s) :
    Safe others purpose Q (fs.writeFile fd data) s :=
  safe_guarded (hQ _) fun hsafe =>
    safe_syscall (h.reaches hpurpose hsafe) fun _ _ => safe_return (hQ _)

theorem safe_lseekFile {Q : ℤ → Ledger → Prop} (h : Tracks others fs s)
    (hpurpose : forNVData purpose = false) {fd offset whence : ℤ} (hQ : ∀ r, Q r s) :
    Safe others purpose Q (fs.lseekFile fd offset whence) s :=
  safe_guarded (hQ _) fun hsafe =>
    safe_syscall (h.reaches hpurpose hsafe) fun _ _ => safe_return (hQ _)

theorem safe_ftruncateFile {Q : ℤ → Ledger → Prop} (h : Tracks others fs s)
    (hpurpose : forNVData purpose = false) {fd : ℤ} {size : UInt32} (hQ : ∀ r, Q r s) :
    Safe others purpose Q (fs.ftruncateFile fd size) s :=
  safe_guarded (hQ _) fun hsafe =>
    safe_syscall (h.reaches hpurpose hsafe) fun _ _ => safe_return (hQ _)

theorem safe_getFileInfoByHandle {Q : ℤ × Option Stat → Ledger → Prop} (h : Tracks others fs s)
    (hpurpose : forNVData purpose = false) {fd : ℤ} (hQ : ∀ r, Q r s) :
    Safe others purpose Q (fs.getFileInfoByHandle fd) s := by
  refine safe_guarded (hQ _) fun hsafe => safe_syscall (h.reaches hpurpose hsafe) fun r _ => ?_
  cases r <;> exact safe_return (hQ _)

/-- Every call of the handler keeps to the rules, and leaves the object knowing what is open. -/
theorem safe_answer (h : Tracks others fs s) (c : IFileSystem) :
    Safe others c (fun r s' => Tracks others r.1 s') (fs.answer md5 c) s := by
  cases c with
  | readNVData offset data => exact safe_seq (safe_readNVData fun _ => safe_return h)
  | writeNVData offset data =>
    exact safe_writeNVData rfl h.files_live fun enabled _ => h.enabled enabled
  | readFile fd data => exact safe_seq (safe_readFile h rfl fun _ => safe_return h)
  | writeFile fd data => exact safe_seq (safe_writeFile h rfl fun _ => safe_return h)
  | lseekFile fd offset whence => exact safe_seq (safe_lseekFile h rfl fun _ => safe_return h)
  | closeFile fd => exact safe_closeFile h rfl (fun _ => h) fun _ => h.closed fd.toNat
  | renameFile oldName newName => exact safe_renameFile fun _ => h
  | getFileInfoByHandle fd =>
    exact safe_seq (safe_getFileInfoByHandle h rfl fun _ => safe_return h)
  | deleteFile filename => exact safe_deleteFile fun _ => h
  | makeDirectory filename => exact safe_makeDirectory fun _ => h
  | deleteDirectory filename => exact safe_deleteDirectory fun _ => h
  | openDirectory filename => exact safe_openDirectory h
  | readDirectory fd filename => exact safe_seq (safe_readDirectory h fun _ => safe_return h)
  | closeDirectory fd => exact safe_closeDirectory h
  | openFile filename flags =>
    exact safe_openFile rfl (fun _ _ => h) fun fd _ hothers => h.opened hothers
  | ftruncateFile fd size => exact safe_seq (safe_ftruncateFile h rfl fun _ => safe_return h)

/-- So does everything that is run over the calls. -/
theorem safe_handling (h : Tracks others fs s) (p : Program IFileSystem.Ret α) :
    (Ledger.monitor others).Safe (fun r s' => Tracks others r.1 s')
      (p.interpret (purposed md5) fs) s :=
  Monitor.safe_interpret (I := Tracks others) (fun _ c _ h => safe_answer h c) h

/-- Nothing has been opened, or everything that has been is closed again. -/
def Unchanged (fs : AndroidFileSystem) (s : Ledger) (fs' : AndroidFileSystem) (s' : Ledger) : Prop :=
  fs' = fs ∧ s' = s

/-- A file that is opened for one operation is closed after it, and was not open before. -/
theorem safe_withFile (h : Tracks others fs s) {filename : Bytes} {flags : ℤ} {otherwise : α}
    {operation : ℤ → Program IFileSystem.Ret (ℤ × α)}
    (hoperation : ∀ fd fs s, Tracks others fs s → (Ledger.monitor others).Safe
      (fun r s' => Unchanged fs s r.1 s') ((operation fd).interpret (purposed md5) fs) s) :
    (Ledger.monitor others).Safe (fun r s' => Unchanged fs s r.1 s')
      ((withFile filename flags otherwise operation).interpret (purposed md5) fs) s := by
  have hopens : handsOut (.openFile filename flags) = true := rfl
  refine Monitor.safe_bind.mpr (safe_openFile hopens ?_ ?_)
  · intro ret hret
    dsimp only
    rw [Program.bind, if_neg (show ¬ (0 : ℤ) ≤ ret by omega)]
    exact ⟨rfl, rfl⟩
  · intro fd hlive hothers
    dsimp only
    rw [Program.bind, if_pos (show (0 : ℤ) ≤ fd by omega), Program.interpret_bind]
    refine Monitor.safe_bind.mpr ((hoperation fd _ _ (h.opened hothers)).mono ?_)
    rintro ⟨fs', result⟩ s' ⟨rfl, rfl⟩
    have hcloses : forNVData (.closeFile fd) = false := rfl
    refine Monitor.safe_bind.mpr (safe_closeFile (h.opened hothers) hcloses ?_ ?_)
    · intro hrefused
      simp [isSafeDescriptor] at hrefused
    · intro _
      have hfile : fd ∉ s.files := fun hmem => hlive (h.files_live fd hmem)
      have hfd : fd ∉ fs.m_rfsDescriptors := h.files_eq ▸ hfile
      change Unchanged fs s
        { fs with m_rfsDescriptors := (insert fd fs.m_rfsDescriptors).erase (fd : ℤ).toNat }
        { s with
          live := (insert fd s.live).erase (fd : ℤ).toNat
          files := (insert fd s.files).erase (fd : ℤ).toNat }
      rw [Int.toNat_natCast, Finset.erase_insert hfd, Finset.erase_insert hlive,
        Finset.erase_insert hfile]
      exact ⟨rfl, rfl⟩

theorem safe_handlePutFile (h : Tracks others fs s) (request : Struct RfsPutFile.fields) :
    (Ledger.monitor others).Safe (fun r s' => Unchanged fs s r.1 s')
      ((handlePutFile request).interpret (purposed md5) fs) s := by
  obtain ⟨flags, nameSize, name, bytes, data, ⟨⟩⟩ := request
  rw [handlePutFile, Program.interpret_bind]
  refine Monitor.safe_bind.mpr ((safe_withFile h ?_).mono fun _ _ h => h)
  intro fd fs s h
  have hwrites : forNVData (.writeFile fd data) = false := rfl
  refine Monitor.safe_bind.mpr (safe_seq (safe_writeFile h hwrites ?_))
  exact fun _ => ⟨rfl, rfl⟩

theorem safe_handleGetFile (h : Tracks others fs s) (request : Struct RfsGetFile.fields) :
    (Ledger.monitor others).Safe (fun r s' => Unchanged fs s r.1 s')
      ((handleGetFile request).interpret (purposed md5) fs) s := by
  obtain ⟨nameSize, name, size, ⟨⟩⟩ := request
  rw [handleGetFile, Program.interpret_bind]
  refine Monitor.safe_bind.mpr ((safe_withFile h ?_).mono fun _ _ h => h)
  intro fd fs s h
  have hreads : ∀ data, forNVData (.readFile fd data) = false := fun _ => rfl
  refine Monitor.safe_bind.mpr (safe_seq (safe_readFile h (hreads _) ?_))
  exact fun _ => ⟨rfl, rfl⟩

theorem safe_handleGetFileInfo (h : Tracks others fs s) {localtime_r : ℤ → BrokenDownTime}
    {statbuf : Stat} (request : Struct RfsGetFileInfo.fields) :
    (Ledger.monitor others).Safe (fun r s' => Unchanged fs s r.1 s')
      ((handleGetFileInfo localtime_r statbuf request).interpret (purposed md5) fs) s := by
  obtain ⟨nameSize, name, ⟨⟩⟩ := request
  rw [handleGetFileInfo, Program.interpret_bind]
  refine Monitor.safe_bind.mpr ((safe_withFile h ?_).mono fun _ _ h => h)
  intro fd fs s h
  have hasks : forNVData (.getFileInfoByHandle fd) = false := rfl
  refine Monitor.safe_bind.mpr (safe_seq (safe_getFileInfoByHandle h hasks ?_))
  exact fun _ => ⟨rfl, rfl⟩

end
/-- A handler that has run to its end leaves what is open as it found it. -/
def LeavesOpen (md5 : Bytes → Vector UInt8 16) (others : Finset ℕ) (fs : AndroidFileSystem)
    (s : Ledger) (handling : Handling) : Prop :=
  ∀ (t : List (Event Purposed.Ret)) (fs' : AndroidFileSystem) (response : Message),
    Trace (handling.interpret (purposed md5) fs) t (.done (fs', response)) →
    (Ledger.monitor others).Obeyed s t →
    fs'.m_rfsDescriptors = fs.m_rfsDescriptors ∧ fs'.m_rfsDirectories = fs.m_rfsDirectories ∧
      (Ledger.monitor others).after s t = s

theorem leavesOpen_of_safe {md5 : Bytes → Vector UInt8 16} {others : Finset ℕ}
    {fs : AndroidFileSystem} {s : Ledger} {handling : Handling}
    (h : (Ledger.monitor others).Safe (fun r s' => Unchanged fs s r.1 s')
      (handling.interpret (purposed md5) fs) s) : LeavesOpen md5 others fs s handling := by
  intro t fs' response htrace hobeyed
  obtain ⟨hfs, hs⟩ := (h.trace htrace hobeyed).2
  rw [hs]
  obtain rfl : fs' = fs := hfs
  exact ⟨rfl, rfl, rfl⟩

/-- The requests of a session reach only what the session has opened and not closed, whatever the
modem asks for, and the object knows it exactly. The requests that name a file and leave it closed
change none of it. -/
theorem session_reaches_own (md5 : Bytes → Vector UInt8 16) (firmware efs : Bytes)
    (localtime_r : ℤ → BrokenDownTime) (others : Finset ℕ) (fs : AndroidFileSystem)
    (hconstruct : (construct md5 firmware efs).Returns fs) (hnvdata : fs.m_nvdata ∈ others)
    (frames : List (Bytes × Leftover)) (t : List (Event Purposed.Ret))
    (rest : Program Purposed.Ret (AndroidFileSystem × List Bytes × Option Fault))
    (htrace : Trace ((session localtime_r frames).interpret (purposed md5) fs) t rest)
    (hobeyed : (Ledger.monitor others).Obeyed .empty t) :
    (Ledger.monitor others).Kept .empty t ∧
      ∀ fs' sent, rest = .done (fs', sent) → ∀ s, s = (Ledger.monitor others).after .empty t →
        fs'.m_nvdata ∈ others ∧ fs'.m_rfsDescriptors = s.files ∧
        fs'.m_rfsDirectories = s.directories ∧
        (∀ request, LeavesOpen md5 others fs' s (handlePutFile request)) ∧
        (∀ request, LeavesOpen md5 others fs' s (handleGetFile request)) ∧
        ∀ statbuf request,
          LeavesOpen md5 others fs' s (handleGetFileInfo localtime_r statbuf request) := by
  obtain ⟨hfiles, hdirectories⟩ := construct_sets hconstruct
  have htracks : Tracks others fs .empty := by
    refine ⟨hfiles.symm, hdirectories.symm, fun _ => id, fun fd hfd => ?_, hnvdata⟩
    exact absurd hfd (Finset.notMem_empty fd)
  obtain ⟨hkept, hsafe⟩ := (safe_handling htracks _).trace htrace hobeyed
  refine ⟨hkept, ?_⟩
  rintro fs' sent rfl s rfl
  have htracks' : Tracks others fs' ((Ledger.monitor others).after .empty t) := hsafe
  refine ⟨htracks'.nvdata_other, htracks'.files_eq.symm, htracks'.directories_eq.symm, ?_, ?_, ?_⟩
  · exact fun request => leavesOpen_of_safe (safe_handlePutFile htracks' request)
  · exact fun request => leavesOpen_of_safe (safe_handleGetFile htracks' request)
  · exact fun _ request => leavesOpen_of_safe (safe_handleGetFileInfo htracks' request)

/-- It opens a directory, and closes the one that it gets. -/
def opensAndCloses {α : Type} : Program IFileSystem.Ret α → Bool
  | .call (.openDirectory filename) next =>
    match next (4096 : ℤ) with
    | .call (.closeDirectory fd) next =>
      match next (0 : ℤ) with
      | .done _ => filename = str "/efs" ∧ fd = 4096
      | _ => false
    | _ => false
  | _ => false

/-- `OPEN_DIRECTORY` of `/efs`, and `CLOSE_DIRECTORY`. -/
def openAndClose : List (Bytes × Leftover) :=
  [[10, 4, 0, 0, 14, 1, 4, 0, 0, 0] ++ str "/efs" ++ List.replicate 1020 0,
    [10, 0, 0, 0, 16, 2, 0, 16, 0, 0]].map (·, ⟨⟨fun _ => 0, fun _ => true⟩, ⟨0, 0, 0, 0⟩⟩)

/-- An object that has just been constructed. -/
def constructed : AndroidFileSystem := ⟨str "/fw", str "/efs", 3, false, ∅, ∅⟩

theorem makePath_root : makePath (str "/efs") = return 0 := by
  have hfind : find (str "/efs") slash 1 = none := by decide
  rw [makePath, makePathFrom, makePathStep, if_neg (not_not.mpr rfl), Program.pure_eq,
    Program.done_bind]
  dsimp only
  split
  · rfl
  · rename_i next hnext
    rw [hfind] at hnext
    contradiction

theorem openDirectory_root : constructed.openDirectory (str "/efs") = (do
    match ← syscall (.opendir (cstr (str "/efs"))) with
    | .ok dir =>
      return ({ constructed with m_rfsDirectories := insert dir ∅ }, dir.toInt32.toInt)
    | .error errno => return (constructed, -errno)) := by
  have hexpanded : constructed.expandAndValidateFilename (str "/efs") = (0, str "/efs") := by
    change (validate (str "/efs") (str "/efs") 0, str "/efs") = _
    rw [validate_zero]
    decide
  unfold openDirectory withFilename withPath
  rw [hexpanded]
  dsimp only
  rw [if_neg (not_not.mpr rfl), makePath_root, Program.pure_eq, Program.done_bind,
    if_neg (not_not.mpr rfl)]
  refine congrArg (Program.call _) (funext fun r => ?_)
  cases r <;> rfl

theorem closeDirectory_last (fs : AndroidFileSystem) (hdirectories : fs.m_rfsDirectories = insert 4096 ∅) :
    fs.closeDirectory 4096 = (do
      match ← syscall (.closedir 4096) with
      | .ok () => return ({ fs with m_rfsDirectories := ∅ }, 0)
      | .error errno => return (fs, -errno)) := by
  have hdirectory : directory 4096 = 4096 := by decide
  unfold closeDirectory
  rw [hdirectory, hdirectories, insert_empty_eq, if_neg (not_not.mpr (Finset.mem_singleton_self _)),
    Finset.erase_singleton]
  refine congrArg (Program.call _) (funext fun r => ?_)
  cases r <;> rfl

/-- The history of the two calls. -/
theorem opensAndCloses_traced {α : Type} (md5 : Bytes → Vector UInt8 16)
    {p : Program IFileSystem.Ret α} (h : opensAndCloses p = true) :
    ∃ t a, Trace (p.interpret (purposed md5) constructed) t (.done (constructed, a)) ∧
      t.map (·.op.2) = [.opendir (str "/efs"), .closedir 4096] ∧
      (Ledger.monitor {3}).Obeyed .empty t := by
  unfold opensAndCloses at h
  split at h
  · rename_i filename next
    split at h
    · rename_i fd next' hnext
      split at h
      · rename_i a hdone
        obtain ⟨rfl, rfl⟩ : filename = str "/efs" ∧ fd = 4096 := by simpa using h
        refine ⟨[⟨(.openDirectory (str "/efs"), .opendir (cstr (str "/efs"))), .ok 4096⟩,
          ⟨(.closeDirectory 4096, .closedir 4096), .ok ()⟩], a, ?_, rfl, ?_⟩
        · have hopen : purposed md5 constructed (.openDirectory (str "/efs")) =
              (constructed.openDirectory (str "/efs")).tagged (.openDirectory (str "/efs")) := rfl
          unfold interpret
          rw [hopen, openDirectory_root]
          apply Trace.cons
          have hpointer : (4096 : UInt32).toInt32.toInt = 4096 := by decide
          change Trace ((next (4096 : UInt32).toInt32.toInt).interpret (purposed md5)
            { constructed with m_rfsDirectories := insert 4096 ∅ }) _ _
          rw [hpointer, hnext]
          have hclose : purposed md5 { constructed with m_rfsDirectories := insert 4096 ∅ }
              (.closeDirectory 4096) =
              (closeDirectory { constructed with m_rfsDirectories := insert 4096 ∅ } 4096).tagged
                (.closeDirectory 4096) := rfl
          unfold interpret
          rw [hclose, closeDirectory_last _ rfl]
          apply Trace.cons
          change Trace ((next' (0 : ℤ)).interpret (purposed md5) constructed) _ _
          rw [hdone]
          exact Trace.nil _
        · refine Monitor.along_cons.mpr ⟨?_, Monitor.along_cons.mpr ⟨?_, Monitor.along_nil⟩⟩
          · exact Finset.notMem_empty _
          · exact fun _ => rfl
      · contradiction
    · contradiction
  · contradiction

theorem open_and_close_reach_own : ∃ t sent,
    (construct (fun _ => Vector.replicate 16 0) (str "/fw") (str "/efs")).Returns constructed ∧
    Trace ((session (fun _ => ⟨0, 0, 0, 0, 0, 0⟩) openAndClose).interpret
      (purposed fun _ => Vector.replicate 16 0) constructed) t (.done (constructed, sent)) ∧
    t.map (·.op.2) = [.opendir (str "/efs"), .closedir 4096] ∧
    (Ledger.monitor {3}).Kept .empty t := by
  have hconstruct : (construct (fun _ => Vector.replicate 16 0) (str "/fw") (str "/efs")).Returns
      constructed := by
    refine Program.returns_bind.mpr ⟨false, ⟨.error 2, rfl⟩, ?_⟩
    refine Program.returns_bind.mpr ⟨some 3, ⟨.ok 3, .ok ⟨0, NVDATA_SIZE, 0, 0⟩, ?_⟩, rfl⟩
    simp [Program.bind]
  have hframes : ∀ frames, opensAndCloses (session (fun _ => ⟨0, 0, 0, 0, 0, 0⟩) frames) = true →
      ∃ t sent, Trace ((session (fun _ => ⟨0, 0, 0, 0, 0, 0⟩) frames).interpret
          (purposed fun _ => Vector.replicate 16 0) constructed) t (.done (constructed, sent)) ∧
        t.map (·.op.2) = [.opendir (str "/efs"), .closedir 4096] ∧
        (Ledger.monitor {3}).Kept .empty t := by
    intro frames h
    obtain ⟨t, sent, htrace, hcalls, hobeyed⟩ := opensAndCloses_traced _ h
    exact ⟨t, sent, htrace, hcalls,
      (session_reaches_own _ _ _ _ {3} _ hconstruct (by decide) frames t _ htrace hobeyed).1⟩
  obtain ⟨t, sent, htrace⟩ := hframes openAndClose (by decide +kernel)
  exact ⟨t, sent, hconstruct, htrace⟩

end RFSSocketHandler
end FreeRil
