import FreeRil.RFSSocketHandler.Descriptors

/-! The handles of directories: what the modem is told of a directory that has been opened, and what
that stands for in its later requests. -/
namespace FreeRil.RFSSocketHandler
open AndroidFileSystem Program Messages

/-! The calls that leave the open directories alone. -/
section
variable {fs : AndroidFileSystem} {md5 : Bytes → Vector UInt8 16}

/-- The directories that have been open are still open. -/
def StillOpen (fs fs' : AndroidFileSystem) : Prop := fs.m_rfsDirectories ⊆ fs'.m_rfsDirectories

theorem StillOpen.refl (fs : AndroidFileSystem) : StillOpen fs fs := Finset.Subset.refl _

theorem stillOpen_withFilename {filename : Bytes} {k : Bytes → Sys (AndroidFileSystem × ℤ)}
    {r : AndroidFileSystem × ℤ} (h : (fs.withFilename filename k).Returns r)
    (hk : ∀ expanded, (k expanded).Returns r → StillOpen fs r.1) : StillOpen fs r.1 := by
  unfold withFilename at h
  split at h
  split_ifs at h
  · obtain rfl := h
    exact .refl fs
  · exact hk _ h

theorem stillOpen_withPath {expanded : Bytes} {k : Sys (AndroidFileSystem × ℤ)}
    {r : AndroidFileSystem × ℤ} (h : (fs.withPath expanded k).Returns r)
    (hk : k.Returns r → StillOpen fs r.1) : StillOpen fs r.1 := by
  obtain ⟨ret, -, h⟩ := returns_bind.mp h
  split_ifs at h
  · obtain rfl := h
    exact .refl fs
  · exact hk h

theorem stillOpen_path {c : Syscall} {value : c.Ret → ℤ} {r : AndroidFileSystem × ℤ}
    (h : (syscall c >>= fun answer => pure (fs, value answer) : Sys (AndroidFileSystem × ℤ)).Returns r) :
    StillOpen fs r.1 := by
  obtain ⟨answer, -, rfl⟩ := returns_bind.mp h
  exact .refl fs

theorem stillOpen_closeFile {fd : ℤ} {r : AndroidFileSystem × ℤ} (h : (fs.closeFile fd).Returns r) :
    StillOpen fs r.1 := by
  unfold closeFile at h
  split_ifs at h
  · obtain ⟨answer, -, h⟩ := returns_bind.mp h
    cases answer <;> obtain rfl := h <;> exact .refl fs
  · obtain rfl := h
    exact .refl fs

theorem stillOpen_writeNVData {offset : Int32} {data : Bytes} {r : AndroidFileSystem × ℤ}
    (h : (fs.writeNVData md5 offset data).Returns r) : StillOpen fs r.1 := by
  unfold writeNVData at h
  split_ifs at h
  · obtain rfl := h
    exact .refl fs
  · obtain ⟨answer, -, h⟩ := returns_bind.mp h
    cases answer with
    | error errno =>
      obtain rfl := h
      exact .refl fs
    | ok n =>
      obtain ⟨fs', hupdate, rfl⟩ := returns_bind.mp h
      exact (updateMD5_sets hupdate).2.symm.subset

theorem stillOpen_openDirectory {filename : Bytes} {r : AndroidFileSystem × ℤ}
    (h : (fs.openDirectory filename).Returns r) : StillOpen fs r.1 := by
  refine stillOpen_withFilename h fun expanded h => stillOpen_withPath h fun h => ?_
  obtain ⟨answer, -, h⟩ := returns_bind.mp h
  cases answer <;> obtain rfl := h
  · exact .refl fs
  · exact Finset.subset_insert _ _

theorem stillOpen_openFile {filename : Bytes} {flags : UInt32} {r : AndroidFileSystem × ℤ}
    (h : (fs.openFile filename flags).Returns r) : StillOpen fs r.1 := by
  refine stillOpen_withFilename h fun expanded h => stillOpen_withPath h fun h => ?_
  obtain ⟨answer, -, h⟩ := returns_bind.mp h
  cases answer <;> obtain rfl := h <;> exact .refl fs

/-- Only a request to close one closes a directory. -/
theorem stillOpen_answer {c : IFileSystem} (hc : ∀ fd, c ≠ .closeDirectory fd)
    {r : AndroidFileSystem × c.Ret} (h : (fs.answer md5 c).Returns r) : StillOpen fs r.1 := by
  cases c with
  | closeDirectory fd => exact absurd rfl (hc fd)
  | writeNVData offset data => exact stillOpen_writeNVData h
  | closeFile fd => exact stillOpen_closeFile h
  | renameFile oldName newName =>
    have h : (fs.renameFile oldName newName).Returns r := h
    exact stillOpen_withFilename h fun _ h => stillOpen_withFilename h fun _ h =>
      stillOpen_withPath h stillOpen_path
  | deleteFile filename =>
    have h : (fs.deleteFile filename).Returns r := h
    exact stillOpen_withFilename h fun _ => stillOpen_path
  | makeDirectory filename =>
    have h : (fs.makeDirectory filename).Returns r := h
    exact stillOpen_withFilename h fun _ h => stillOpen_withPath h stillOpen_path
  | deleteDirectory filename =>
    have h : (fs.deleteDirectory filename).Returns r := h
    exact stillOpen_withFilename h fun _ h => stillOpen_withPath h stillOpen_path
  | openDirectory filename => exact stillOpen_openDirectory h
  | openFile filename flags => exact stillOpen_openFile h
  | readNVData offset data | readFile fd data | writeFile fd data | lseekFile fd offset whence
  | getFileInfoByHandle fd | readDirectory fd filename | ftruncateFile fd size =>
    obtain ⟨a, -, rfl⟩ := returns_bind.mp h
    exact .refl fs

/-- A directory stays open until it is closed. -/
def OpenUnlessClosed (dir : UInt32) (fs : AndroidFileSystem) (t : List (Event Syscall.Ret)) : Prop :=
  (⟨.closedir dir, .ok ()⟩ : Event Syscall.Ret) ∈ t ∨ dir ∈ fs.m_rfsDirectories

/-- All histories, whatever the kernel answers. -/
abbrev anyHistory : Monitor Syscall.Ret (List (Event Syscall.Ret)) := Monitor.history fun _ => True

theorem openUnlessClosed_closeDirectory {dir : UInt32} {t : List (Event Syscall.Ret)} {fd : ℤ}
    (h : OpenUnlessClosed dir fs t) :
    anyHistory.Safe (fun r t => OpenUnlessClosed dir r.1 t) (fs.closeDirectory fd) t := by
  unfold closeDirectory
  split_ifs with hopen
  · refine Monitor.history_request fun r _ => ?_
    cases r with
    | error errno => exact h.imp_left (List.mem_append_left _)
    | ok _ =>
      obtain hclosed | hdir := h
      · exact .inl (List.mem_append_left _ hclosed)
      · by_cases heq : directory fd = dir
        · exact .inl (heq ▸ List.mem_append_right t List.mem_cons_self)
        · exact .inr (Finset.mem_erase.mpr ⟨Ne.symm heq, hdir⟩)
  · exact h

theorem openUnlessClosed_answer {dir : UInt32} {t : List (Event Syscall.Ret)} (c : IFileSystem)
    (h : OpenUnlessClosed dir fs t) :
    anyHistory.Safe (fun r t => OpenUnlessClosed dir r.1 t) (fs.answer md5 c) t := by
  by_cases hc : ∃ fd, c = .closeDirectory fd
  · obtain ⟨fd, rfl⟩ := hc
    exact openUnlessClosed_closeDirectory h
  · refine (Monitor.history_grows (fs.answer md5 c) t).mono ?_
    rintro r t' ⟨hreturns, hsubset⟩
    have hopen := stillOpen_answer (fun fd heq => hc ⟨fd, heq⟩) hreturns
    exact h.imp (fun hclosed => hsubset hclosed) fun hdir => hopen hdir

/-- So it does over everything that the modem asks for. -/
theorem openUnlessClosed_handling {α : Type} {dir : UInt32} {p : Program IFileSystem.Ret α}
    {fs' : AndroidFileSystem} {t : List (Event Syscall.Ret)} {a : α} (hdir : dir ∈ fs.m_rfsDirectories)
    (ht : Trace (p.interpret (answer md5) fs) t (.done (fs', a))) : OpenUnlessClosed dir fs' t := by
  have hsafe := Monitor.safe_interpret (I := OpenUnlessClosed dir) (p := p)
    (fun fs c t h => @openUnlessClosed_answer fs md5 dir t c h) (.inr hdir : OpenUnlessClosed dir fs [])
  have hend := Monitor.history_done hsafe ht fun _ _ => trivial
  exact hend

/-! The value that is handed out for a directory. -/

theorem toInt_eq (n : UInt32) :
    toInt n = if n.toNat < 2 ^ 31 then (n.toNat : ℤ) else n.toNat - 2 ^ 32 := by
  rw [toInt, ← Int32.toInt_toBitVec, UInt32.toBitVec_toInt32, BitVec.toInt_eq_toNat_cond,
    UInt32.toNat_toBitVec]
  split_ifs <;> omega

/-- The conversion to an `int` and back loses nothing. -/
theorem directory_toInt (dir : UInt32) : directory (toInt dir) = dir := by
  have hlt : dir.toNat < 2 ^ 32 := dir.toNat_lt
  rw [directory, toInt_eq, ← UInt32.toNat_inj, UInt32.ofInt, UInt32.toNat_ofNat']
  split_ifs <;> omega

/-- A pointer of the upper half is taken for an error. -/
theorem buildReply_toInt (dir : UInt32) : buildReply (toInt dir) =
    if dir.toNat < 2 ^ 31 then (dir, 0, ()) else (.ofInt (-1), -dir, ()) := by
  have hdir : UInt32.ofInt (toInt dir) = dir := directory_toInt dir
  have hsign : toInt dir < 0 ↔ ¬ dir.toNat < 2 ^ 31 := by
    have hlt : dir.toNat < 2 ^ 32 := dir.toNat_lt
    rw [toInt_eq]
    split_ifs <;> omega
  unfold buildReply
  simp only [hsign, UInt32.ofInt_neg, hdir, ite_not]

/-- What becomes of a directory that has been opened. -/
theorem openDirectory_opened {filename path : Bytes} {t : List (Event Syscall.Ret)} {dir : UInt32}
    {r : AndroidFileSystem × ℤ} (ht : Trace (fs.openDirectory filename) t (.done r))
    (hopened : (⟨.opendir path, .ok dir⟩ : Event Syscall.Ret) ∈ t) :
    r = ({ fs with m_rfsDirectories := insert dir fs.m_rfsDirectories }, toInt dir) := by
  unfold openDirectory withFilename at ht
  split at ht
  split_ifs at ht
  · obtain ⟨rfl, -⟩ := ht.done_eq
    cases hopened
  · obtain ⟨t₁, ret, t₂, rfl, hpath, ht⟩ := Trace.bind_done ht
    have hopened : (⟨.opendir path, .ok dir⟩ : Event Syscall.Ret) ∈ t₂ := by
      refine (List.mem_append.mp hopened).resolve_left fun hmem => ?_
      exact (makePathFrom_pathlike _ 0).events hpath _ hmem
    split_ifs at ht
    · obtain ⟨rfl, -⟩ := ht.done_eq
      cases hopened
    · obtain ⟨answer, t₃, rfl, hrest⟩ := Trace.call_done ht
      cases answer with
      | error errno =>
        obtain ⟨rfl, -⟩ := hrest.done_eq
        cases List.mem_singleton.mp hopened
      | ok dir' =>
        obtain ⟨rfl, hr⟩ := hrest.done_eq
        cases List.mem_singleton.mp hopened
        exact Program.done.inj hr

variable (md5) in
/-- A handle that stands for a directory: it is read from, and it can be closed. -/
structure Resolves (fs : AndroidFileSystem) (handle dir : UInt32) : Prop where
  read : ∃ k, (handleReadDirectory (handle, ())).interpret (answer md5) fs = syscall (.readdir dir) >>= k
  close : ∃ k, (handleCloseDirectory (handle, ())).interpret (answer md5) fs
      = syscall (.closedir dir) >>= k
    ∧ k (.ok ()) = pure ({ fs with m_rfsDirectories := fs.m_rfsDirectories.erase dir },
      ⟨CMD_RFS, RfsCloseDirectoryReply, (0 : UInt32), (0 : UInt32), ()⟩)

theorem resolves {dir : UInt32} (h : dir ∈ fs.m_rfsDirectories) : Resolves md5 fs dir dir := by
  have hopen : ¬ directory (toInt dir) ∉ fs.m_rfsDirectories := by
    rw [directory_toInt]
    exact not_not.mpr h
  constructor
  · have hhandle : (handleReadDirectory (dir, ())).interpret (answer md5) fs
        = fs.unchanged (fs.readDirectory (toInt dir) []) >>= _ := rfl
    rw [hhandle, unchanged, readDirectory, if_neg hopen, directory_toInt, Program.bind_assoc,
      Program.bind_assoc]
    exact ⟨_, rfl⟩
  · have hhandle : (handleCloseDirectory (dir, ())).interpret (answer md5) fs
        = fs.closeDirectory (toInt dir) >>= _ := rfl
    rw [hhandle, closeDirectory, if_neg hopen, directory_toInt, Program.bind_assoc]
    exact ⟨_, rfl, rfl⟩

variable (md5) in
/-- The reply that has been given for a directory reports success, and carries a handle that stands for
it until it is closed, whatever the modem asks for. -/
def HandsOut (fs : AndroidFileSystem) (m : Message) (dir : UInt32) : Prop :=
  ∃ handle, m = ⟨CMD_RFS, RfsOpenDirectoryReply, handle, (0 : UInt32), ()⟩ ∧
    ∀ localtime_r frames t fs' sent,
      Trace ((session localtime_r frames).interpret (answer md5) fs) t (.done (fs', sent)) →
      (⟨.closedir dir, .ok ()⟩ : Event Syscall.Ret) ∉ t → Resolves md5 fs' handle dir

/-- A directory that has been opened is handed out exactly where the pointer to it is in the lower half of
the addresses. -/
theorem handsOut_iff (md5 : Bytes → Vector UInt8 16) {fs fs' : AndroidFileSystem}
    {request : Struct RfsOpenDirectory.fields} {t : List (Event Syscall.Ret)} {m : Message}
    {path : Bytes} {dir : UInt32}
    (ht : Trace ((handleOpenDirectory request).interpret (answer md5) fs) t (.done (fs', m)))
    (hopened : (⟨.opendir path, .ok dir⟩ : Event Syscall.Ret) ∈ t) :
    HandsOut md5 fs' m dir ↔ dir.toNat < 2 ^ 31 := by
  obtain ⟨nameSize, name, ⟨⟩⟩ := request
  have hhandle : (handleOpenDirectory (nameSize, name, ())).interpret (answer md5) fs
      = fs.openDirectory (assign name nameSize) >>= fun r =>
        pure (r.1, ⟨CMD_RFS, RfsOpenDirectoryReply, buildReply r.2⟩) := rfl
  rw [hhandle] at ht
  obtain ⟨t₁, r, t₂, rfl, hopen, hreply⟩ := Trace.bind_done ht
  obtain ⟨rfl, hreply⟩ := hreply.done_eq
  rw [List.append_nil] at hopened
  obtain rfl := openDirectory_opened hopen hopened
  cases hreply
  rw [buildReply_toInt]
  split_ifs with hlow
  · refine iff_of_true ⟨dir, rfl, fun localtime_r frames t fs' sent htrace hclosed => ?_⟩ hlow
    exact resolves ((openUnlessClosed_handling (Finset.mem_insert_self _ _) htrace).resolve_left hclosed)
  · refine iff_of_false ?_ hlow
    rintro ⟨handle, hm, -⟩
    have hvalue := eq_of_heq (Message.mk.inj hm).2.2
    have herrno : -dir = 0 := (Prod.mk.inj (Prod.mk.inj hvalue).2).1
    obtain rfl : dir = 0 := by grind
    exact hlow (by decide)

/-- OPEN_DIRECTORY of `/efs`. -/
theorem trace_openRoot (md5 : Bytes → Vector UInt8 16) (dir : UInt32) :
    Trace ((handleOpenDirectory ((4 : UInt32), str "/efs", ())).interpret (answer md5) constructed)
      [⟨.opendir (cstr (str "/efs")), .ok dir⟩]
      (.done ({ constructed with m_rfsDirectories := insert dir ∅ },
        ⟨CMD_RFS, RfsOpenDirectoryReply, buildReply (toInt dir)⟩)) := by
  have hname : assign (str "/efs") 4 = str "/efs" := by decide
  have hhandle : (handleOpenDirectory ((4 : UInt32), str "/efs", ())).interpret (answer md5) constructed
      = constructed.openDirectory (assign (str "/efs") 4) >>= fun r =>
        pure (r.1, ⟨CMD_RFS, RfsOpenDirectoryReply, buildReply r.2⟩) := rfl
  rw [hhandle, hname, openDirectory_root]
  exact .cons (.nil _)

theorem handsOut_low :
    HandsOut (fun _ => Vector.replicate 16 0) { constructed with m_rfsDirectories := insert 4096 ∅ }
      ⟨CMD_RFS, RfsOpenDirectoryReply, buildReply (toInt 4096)⟩ 4096 :=
  (handsOut_iff _ (trace_openRoot _ 4096) (.head _)).mpr (by decide)

/-- A pointer to the upper half is answered as an error. -/
theorem high_directory_lost : ¬ ∀ (md5 : Bytes → Vector UInt8 16) (fs fs' : AndroidFileSystem)
    (request : Struct RfsOpenDirectory.fields) (t : List (Event Syscall.Ret)) (m : Message)
    (path : Bytes) (dir : UInt32), dir ≠ 0 →
      Trace ((handleOpenDirectory request).interpret (answer md5) fs) t (.done (fs', m)) →
        (⟨.opendir path, .ok dir⟩ : Event Syscall.Ret) ∈ t → HandsOut md5 fs' m dir := by
  intro h
  obtain ⟨handle, hm, -⟩ := h (fun _ => Vector.replicate 16 0) _ _ _ _ _ _ 0x80001000 (by decide)
    (trace_openRoot _ _) (.head _)
  have hvalue := eq_of_heq (Message.mk.inj hm).2.2
  have herrno : (buildReply (toInt 0x80001000)).2.1 = 0 := (Prod.mk.inj (Prod.mk.inj hvalue).2).1
  exact absurd herrno (by decide)

end

end FreeRil.RFSSocketHandler
