import FreeRil.RFSSocketHandler.Descriptors
import FreeRil.RFSSocketHandler.Responses

/-! Whether a reply that reports a number of bytes carries as many of those that the file system has
delivered. -/
namespace FreeRil.RFSSocketHandler
open AndroidFileSystem Program Messages

/-- The requests for something that is read, with the fields of their messages. -/
inductive ReadRequest
  | nvRead (offset size : UInt32)
  | readFile (fd bytes : UInt32)
  | getFile (nameSize : UInt32) (name : Bytes) (size : UInt32)
  | readDirectory (fd : UInt32)

/-- What the kernel may answer: no more than has been asked for, and the number of an error. -/
def KernelAnswers : (c : Syscall) → c.Ret → Prop
  | .read _ size, .ok bytes => bytes.length ≤ size
  | .pread _ size _, .ok bytes => bytes.length ≤ size
  | .read _ _, .error errno | .pread _ _ _, .error errno | .open_ _ _ _, .error errno
  | .mkdir _ _, .error errno => 0 < errno ∧ errno < 4096
  | _, _ => True

namespace ReadRequest

def handle : ReadRequest → Handling
  | nvRead offset size => handleNvRead (offset, size, ())
  | readFile fd bytes => handleReadFile (fd, bytes, ())
  | getFile nameSize name size => handleGetFile (nameSize, name, size, ())
  | readDirectory fd => handleReadDirectory (fd, ())

def reply : ReadRequest → MessageDefinition
  | nvRead .. => RfsNvReadReply
  | readFile .. => RfsReadFileReply
  | getFile .. => RfsGetFileReply
  | readDirectory .. => RfsReadDirectoryReply

/-- A number of bytes that is reported for an error code, if that says success. -/
def reportedFor (error n : UInt32) (data : Bytes) : Option (ℕ × Bytes) :=
  if error = 0 then some (n.toNat, data) else none

/-- The same for a status. -/
def reportedAs (status : UInt8) (n : UInt32) (data : Bytes) : Option (ℕ × Bytes) :=
  if status = 1 then some (n.toNat, data) else none

/-- The number of bytes that a reply reports success for, and the bytes that it carries. -/
def reported : (request : ReadRequest) → Struct request.reply.fields → Option (ℕ × Bytes)
  | nvRead .., (status, _, size, data, ()) => reportedAs status size data
  | readFile .., (ret, errno, data, ()) => reportedFor errno ret data
  | getFile .., (ret, errno, data, ()) => reportedFor errno ret data
  | readDirectory .., (ret, nameLength, data, _, ()) => reportedFor ret nameLength data

/-- What the file system has delivered for the position that is asked for. -/
def Delivered (fs : AndroidFileSystem) (t : List (Event Syscall.Ret)) (bytes : Bytes) :
    ReadRequest → Prop
  | nvRead offset _ => ∃ size,
    (⟨.pread fs.m_nvdata size offset.toInt32.toInt, .ok bytes⟩ : Event Syscall.Ret) ∈ t
  | readFile fd _ => ∃ size, (⟨.read (toInt fd).toNat size, .ok bytes⟩ : Event Syscall.Ret) ∈ t
  | getFile nameSize name _ => ∃ fd size,
    (⟨.open_ (cstr (fs.expandAndValidateFilename (assign name nameSize)).2) O_RDONLY 0o600,
      .ok fd⟩ : Event Syscall.Ret) ∈ t ∧ (⟨.read fd size, .ok bytes⟩ : Event Syscall.Ret) ∈ t
  | readDirectory fd => ∃ d_name, bytes = cstr d_name ∧
    (⟨.readdir (directory (toInt fd)), .ok (some d_name)⟩ : Event Syscall.Ret) ∈ t

/-- Where the reply reports success, it carries what has been delivered, as far as it has room for
it, and reports as much. -/
def Carries (request : ReadRequest) (fs : AndroidFileSystem) (t : List (Event Syscall.Ret))
    (m : Message) : Prop :=
  ∃ value, m = ⟨CMD_RFS, request.reply, value⟩ ∧
    ∀ n data, request.reported value = some (n, data) →
      ∃ bytes, request.Delivered fs t bytes ∧ n = min bytes.length data.length
        ∧ data.take n = bytes.take n

end ReadRequest

/-- The histories that the kernel allows. -/
abbrev kernelHistory : Monitor Syscall.Ret (List (Event Syscall.Ret)) :=
  Monitor.history fun e => KernelAnswers e.op e.answer

theorem toNat_ofInt {n : ℤ} (h0 : 0 ≤ n) (h : n < 2 ^ 32) : (UInt32.ofInt n).toNat = n.toNat := by
  rw [UInt32.ofInt, UInt32.toNat_ofNat']
  omega

/-- A reply of `buildReply` to an operation that has failed. -/
theorem reportedFor_failed {ret : ℤ} (hlt : ret < 0) (hlower : -4096 < ret) (data : Bytes) :
    ReadRequest.reportedFor (buildReply ret).2.1 (buildReply ret).1 data = none := by
  rw [buildReply, if_pos hlt, ReadRequest.reportedFor, if_neg]
  intro hzero
  have hnat : (UInt32.ofInt (-ret)).toNat = 0 := congrArg UInt32.toNat hzero
  rw [toNat_ofInt (by omega) (by omega)] at hnat
  omega

/-- A reply of `buildReply` to an operation that has returned a length. -/
theorem reportedFor_succeeded {n : ℕ} (h : n < 2 ^ 32) (data : Bytes) :
    ReadRequest.reportedFor (buildReply n).2.1 (buildReply n).1 data = some (n, data) := by
  have hnat : (UInt32.ofInt (n : ℤ)).toNat = n := toNat_ofInt (by omega) (by omega)
  rw [buildReply, if_neg (by omega), ReadRequest.reportedFor, if_pos rfl, hnat]

theorem take_resize {bytes rest : Bytes} {n k : ℕ} (hn : n ≤ bytes.length) (hk : n ≤ k) :
    (resize (bytes ++ rest) k).take n = bytes.take n := by
  have hmin : min n k = n := min_eq_left hk
  rw [resize, List.take_append_of_le_length, List.take_take, hmin, List.take_append_of_le_length hn]
  rw [List.length_take, List.length_append]
  omega

section
variable {fs : AndroidFileSystem} {t : List (Event Syscall.Ret)} {md5 : Bytes → Vector UInt8 16}

theorem history_readFile {Q : ℤ × Bytes → List (Event Syscall.Ret) → Prop} {fd : ℤ} {data : Bytes}
    (hfailed : ∀ ret t, ret < 0 → -4096 < ret → Q (ret, data) t)
    (hread : ∀ bytes, bytes.length ≤ data.length →
      Q (bytes.length, filled data bytes) (t ++ [⟨.read fd.toNat data.length, .ok bytes⟩])) :
    kernelHistory.Safe Q (fs.readFile fd data) t := by
  unfold readFile
  split_ifs with hsafe
  · refine Monitor.history_request fun r hr => ?_
    cases r with
    | ok bytes => exact hread bytes hr
    | error errno =>
      obtain ⟨hpos, hlt⟩ := hr
      exact hfailed _ _ (by omega) (by omega)
  · exact hfailed _ _ (by decide) (by decide)

/-- What has been read by one call is carried by a reply with room for it. -/
theorem carries_read {request : ReadRequest} {bytes rest : Bytes} {k n : ℕ} {data : Bytes}
    (hdelivered : request.Delivered fs t bytes) (hlength : bytes.length ≤ k) (hk : k < 2 ^ 32)
    (h : ReadRequest.reportedFor (buildReply bytes.length).2.1 (buildReply bytes.length).1
      (resize (bytes ++ rest) k) = some (n, data)) :
    ∃ bytes, request.Delivered fs t bytes ∧ n = min bytes.length data.length
      ∧ data.take n = bytes.take n := by
  rw [reportedFor_succeeded (by omega)] at h
  obtain ⟨rfl, rfl⟩ := Prod.mk.inj (Option.some.inj h)
  refine ⟨bytes, hdelivered, ?_, take_resize le_rfl hlength⟩
  rw [resize_length, min_eq_left hlength]

theorem delivered_pread {offset size : UInt32} {n : ℕ} {bytes bytes' : Bytes} :
    (ReadRequest.nvRead offset size).Delivered fs
      [⟨.pread fs.m_nvdata n offset.toInt32.toInt, .ok bytes⟩] bytes' ↔ bytes' = bytes := by
  constructor
  · rintro ⟨size, h⟩
    cases List.mem_singleton.mp h
    rfl
  · rintro rfl
    exact ⟨n, .head _⟩

/-- A reply of `handleNvRead`, to an operation that has filled the front of the buffer. -/
theorem carries_nvRead {offset size : UInt32} {n : ℕ} {bytes rest : Bytes}
    (hn : bytes.length ≤ min 512 size.toNat) :
    (ReadRequest.nvRead offset size).Carries fs
        [⟨.pread fs.m_nvdata n offset.toInt32.toInt, .ok bytes⟩]
        ⟨CMD_RFS, RfsNvReadReply, (1 : UInt8), offset, size, resize (bytes ++ rest) 512, ()⟩
      ↔ bytes.length = size.toNat := by
  constructor
  · rintro ⟨value, hvalue, h⟩
    obtain rfl : ((1 : UInt8), offset, size, resize (bytes ++ rest) 512, ()) = value := by
      cases hvalue
      rfl
    obtain ⟨bytes', hdelivered, hsize, -⟩ := h size.toNat (resize (bytes ++ rest) 512) rfl
    obtain rfl := delivered_pread.mp hdelivered
    rw [resize_length] at hsize
    omega
  · intro hsize
    refine ⟨_, rfl, fun k data h => ?_⟩
    obtain ⟨rfl, rfl⟩ := Prod.mk.inj (Option.some.inj h)
    refine ⟨bytes, delivered_pread.mpr rfl, ?_, ?_⟩
    · rw [resize_length]
      omega
    · exact take_resize hsize.ge (by omega)

theorem handle_nvRead (offset size : UInt32) : (ReadRequest.nvRead offset size).handle
    = call (.readNVData offset.toInt32 (resize [] (min 512 size.toNat))) >>= fun r =>
      pure ⟨CMD_RFS, RfsNvReadReply, (if r.1 = 0 then 1 else 0 : UInt8), offset, size,
        resize r.2 512, ()⟩ := rfl

theorem safe_nvRead (offset size : UInt32) : kernelHistory.Safe (fun r t =>
    (ReadRequest.nvRead offset size).Carries fs t r.2 ↔
      ∀ bytes, (ReadRequest.nvRead offset size).Delivered fs t bytes → bytes.length = size.toNat)
    ((ReadRequest.nvRead offset size).handle.interpret (answer md5) fs) [] := by
  have hfailed : ∀ data t, (ReadRequest.nvRead offset size).Carries fs t
      ⟨CMD_RFS, RfsNvReadReply, (0 : UInt8), offset, size, data, ()⟩ := by
    refine fun data t => ⟨_, rfl, fun n data h => ?_⟩
    cases h
  rw [handle_nvRead, Program.interpret_bind, call, Program.interpret_request, answer, unchanged]
  refine Monitor.safe_bind.mpr (Monitor.safe_bind.mpr ?_)
  unfold readNVData
  split_ifs with hrange
  · refine iff_of_true (hfailed _ _) ?_
    rintro bytes ⟨size, h⟩
    cases h
  · refine Monitor.history_request fun r hr => ?_
    cases r with
    | error errno =>
      have hne : (-errno : ℤ) ≠ 0 := by
        have hpos : 0 < errno := hr.1
        omega
      refine iff_of_true ?_ ?_
      · dsimp only
        rw [if_neg hne]
        exact hfailed _ _
      · rintro bytes ⟨size, h⟩
        cases List.mem_singleton.mp h
    | ok bytes =>
      have hlength : bytes.length ≤ (resize [] (min 512 size.toNat)).length := hr
      rw [resize_length] at hlength
      refine (carries_nvRead hlength).trans ⟨?_, ?_⟩
      · intro hsize bytes' hdelivered
        rwa [delivered_pread.mp hdelivered]
      · exact fun h => h bytes (delivered_pread.mpr rfl)

theorem safe_readFile_carries (fd bytes : UInt32) : kernelHistory.Safe (fun r t =>
    (ReadRequest.readFile fd bytes).Carries fs t r.2)
    ((ReadRequest.readFile fd bytes).handle.interpret (answer md5) fs) [] := by
  have hhandle : (ReadRequest.readFile fd bytes).handle
      = call (.readFile (toInt fd) (resize [] (min 4096 bytes.toNat))) >>= fun r =>
        pure ⟨CMD_RFS, RfsReadFileReply, (buildReply r.1).1, (buildReply r.1).2.1,
          resize r.2 4096, ()⟩ := rfl
  rw [hhandle, Program.interpret_bind, call, Program.interpret_request, answer, unchanged]
  refine Monitor.safe_bind.mpr (Monitor.safe_bind.mpr (history_readFile ?_ ?_))
  · intro ret t hlt hlower
    refine ⟨_, rfl, fun n data h => ?_⟩
    have hreported := (reportedFor_failed hlt hlower _).symm.trans h
    cases hreported
  · intro read hread
    rw [resize_length] at hread
    refine ⟨_, rfl, fun n data h => carries_read ?_ (by omega) (by decide) h⟩
    exact ⟨_, .head _⟩

/-- The reply of `handleReadDirectory` to what has been returned. -/
def directoryReply (r : ℤ × Bytes) : Message :=
  if r.1 = 1 then
    ⟨CMD_RFS, RfsReadDirectoryReply, (0 : UInt32), .ofNat (min 1024 r.2.length),
      resize (r.2.take (min 1024 r.2.length)) 1024, (0 : UInt32), ()⟩
  else
    ⟨CMD_RFS, RfsReadDirectoryReply, .ofInt (-1), (0 : UInt32), resize [] 1024, .ofInt (-r.1), ()⟩

theorem handle_readDirectory (fd : UInt32) : (ReadRequest.readDirectory fd).handle
    = call (.readDirectory (toInt fd) []) >>= fun r => pure (directoryReply r) := by
  refine congrArg (Program.call _) (funext fun r => ?_)
  exact (apply_ite pure _ _ _).symm

theorem carries_directoryReply_of_ne {fd : UInt32} {r : ℤ × Bytes} (h : r.1 ≠ 1) :
    (ReadRequest.readDirectory fd).Carries fs t (directoryReply r) := by
  rw [directoryReply, if_neg h]
  refine ⟨_, rfl, fun n data hreported => ?_⟩
  cases hreported

theorem carries_directoryReply {fd : UInt32} {d_name : Bytes}
    (h : (⟨.readdir (directory (toInt fd)), .ok (some d_name)⟩ : Event Syscall.Ret) ∈ t) :
    (ReadRequest.readDirectory fd).Carries fs t (directoryReply (1, cstr d_name)) := by
  rw [directoryReply, if_pos rfl]
  refine ⟨_, rfl, fun n data hreported => ?_⟩
  have hlength : (UInt32.ofNat (min 1024 (cstr d_name).length)).toNat
      = min 1024 (cstr d_name).length := UInt32.toNat_ofNat_of_lt' (by simp [UInt32.size])
  obtain ⟨hn, rfl⟩ := Prod.mk.inj (Option.some.inj hreported)
  obtain rfl := hlength.symm.trans hn
  refine ⟨cstr d_name, ⟨d_name, rfl, h⟩, ?_, ?_⟩
  · rw [resize_length, min_comm]
  · have hshort : min 1024 (cstr d_name).length
        ≤ ((cstr d_name).take (min 1024 (cstr d_name).length)).length := by
      rw [List.length_take]
      omega
    have hcarried := @take_resize _ [] _ 1024 hshort (min_le_left _ _)
    rw [List.append_nil, List.take_take, min_self] at hcarried
    exact hcarried

theorem safe_readDirectory_carries (fd : UInt32) : kernelHistory.Safe (fun r t =>
    (ReadRequest.readDirectory fd).Carries fs t r.2)
    ((ReadRequest.readDirectory fd).handle.interpret (answer md5) fs) [] := by
  rw [handle_readDirectory, Program.interpret_bind, call, Program.interpret_request, answer,
    unchanged]
  refine Monitor.safe_bind.mpr (Monitor.safe_bind.mpr ?_)
  unfold readDirectory
  split_ifs with hopen
  · refine Monitor.history_request fun r hr => ?_
    obtain ret | _ | d_name := r
    · have hne : (-ret : ℤ) ≠ 1 := by omega
      exact carries_directoryReply_of_ne hne
    · exact carries_directoryReply_of_ne (r := (0, [])) zero_ne_one
    · exact carries_directoryReply (.head _)
  · exact carries_directoryReply_of_ne (r := (-EBADF, [])) (by decide)

theorem validate_gt (efs expanded : Bytes) (offset : ℕ) : -4096 < validate efs expanded offset := by
  induction offset using slash_induction expanded with
  | h offset ih =>
    rw [validate]
    split_ifs
    · decide
    · decide
    · split
      · decide
      · rename_i next hfind
        exact ih next hfind

theorem history_makePathStep (expanded : Bytes) (offset : ℕ) :
    kernelHistory.Safe (fun r _ => ∀ errno ∈ r, errno < 4096) (makePathStep expanded offset) t := by
  unfold makePathStep
  split_ifs
  · refine Monitor.history_request fun r hr => ?_
    cases r with
    | ok _ => exact fun _ h => by cases h
    | error errno =>
      dsimp only
      split_ifs
      · intro errno' h
        cases h
        exact hr.2
      · exact fun _ h => by cases h
  · exact fun _ h => by cases h

theorem history_makePath (expanded : Bytes) (offset : ℕ) :
    kernelHistory.Safe (fun ret _ => ret ≤ 0 ∧ -4096 < ret) (makePathFrom expanded offset) t := by
  induction offset using slash_induction expanded generalizing t with
  | h offset ih =>
    rw [makePathFrom]
    refine Monitor.safe_bind.mpr ((history_makePathStep expanded offset).mono fun r t hr => ?_)
    cases r with
    | some errno =>
      have hlt := hr errno rfl
      exact ⟨by omega, by omega⟩
    | none =>
      dsimp only
      split
      · exact ⟨by decide, by decide⟩
      · rename_i next hfind
        exact ih next hfind

theorem history_openFile {filename : Bytes} {flags : UInt32} :
    kernelHistory.Safe (fun (r : AndroidFileSystem × ℤ) t => r.2 < 0 ∧ -4096 < r.2 ∨
      ∃ fd : ℕ, r.2 = fd ∧
        (⟨.open_ (cstr (fs.expandAndValidateFilename filename).2) flags 0o600, .ok fd⟩ :
          Event Syscall.Ret) ∈ t) (fs.openFile filename flags) t := by
  unfold openFile withFilename
  split
  next ret expanded hexpanded =>
    have hvalidate : ret ≤ 0 ∧ -4096 < ret := by
      have hret : validate fs.m_efs _ 0 = ret := congrArg Prod.fst hexpanded
      exact hret ▸ ⟨validate_le _ _ _, validate_gt _ _ _⟩
    split_ifs with hvalid
    · exact .inl ⟨by omega, hvalidate.2⟩
    · refine Monitor.safe_bind.mpr ((history_makePath expanded 0).mono fun ret t hret => ?_)
      split_ifs with hmade
      · exact .inl ⟨by omega, hret.2⟩
      · refine Monitor.history_request fun r hr => ?_
        cases r with
        | error errno =>
          obtain ⟨hpos, hlt⟩ := hr
          exact .inl ⟨by dsimp only; omega, by dsimp only; omega⟩
        | ok fd =>
          refine .inr ⟨fd, rfl, ?_⟩
          rw [hexpanded]
          exact List.mem_append_right t List.mem_cons_self

theorem safe_getFile_carries (nameSize : UInt32) (name : Bytes) (size : UInt32) :
    kernelHistory.Safe (fun r t =>
    (ReadRequest.getFile nameSize name size).Carries fs t r.2)
    ((ReadRequest.getFile nameSize name size).handle.interpret (answer md5) fs) [] := by
  have hhandle : (ReadRequest.getFile nameSize name size).handle
      = withFile (assign name nameSize) (toInt O_RDONLY) (resize [] (min 4096 size.toNat))
          (fun fd => call (.readFile fd (resize [] (min 4096 size.toNat)))) >>= fun r =>
        pure ⟨CMD_RFS, RfsGetFileReply, (buildReply r.1).1, (buildReply r.1).2.1,
          resize r.2 4096, ()⟩ := rfl
  have hfailed : ∀ ret data t, ret < 0 → -4096 < ret →
      (ReadRequest.getFile nameSize name size).Carries fs t ⟨CMD_RFS, RfsGetFileReply,
        (buildReply ret).1, (buildReply ret).2.1, resize data 4096, ()⟩ := by
    refine fun ret data t hlt hlower => ⟨_, rfl, fun n data h => ?_⟩
    have hreported := (reportedFor_failed hlt hlower _).symm.trans h
    cases hreported
  rw [hhandle, Program.interpret_bind, withFile, Program.interpret_bind, call,
    Program.interpret_request,
    answer]
  refine Monitor.safe_bind.mpr (Monitor.safe_bind.mpr (history_openFile.mono fun r t hr => ?_))
  obtain ⟨fs', ret⟩ := r
  dsimp only at hr ⊢
  obtain ⟨hlt, hlower⟩ | ⟨fd, rfl, hopened⟩ := hr
  · rw [if_neg (not_le.mpr hlt)]
    exact hfailed _ _ _ hlt hlower
  · rw [if_pos (Int.natCast_nonneg fd), Program.interpret_bind, call, Program.interpret_request,
      answer, unchanged]
    refine Monitor.safe_bind.mpr (Monitor.safe_bind.mpr (history_readFile ?_ ?_))
    · intro ret t hlt hlower
      refine Monitor.safe_bind.mpr
        (Monitor.Safe.mono (Monitor.history_grows (fs'.closeFile fd) t) ?_)
      exact fun _ t' _ => hfailed _ _ _ hlt hlower
    · intro bytes hlength
      rw [resize_length] at hlength
      refine Monitor.safe_bind.mpr
        (Monitor.Safe.mono (Monitor.history_grows (fs'.closeFile fd) _) ?_)
      rintro closed t' ⟨-, hgrown⟩
      refine ⟨_, rfl, fun n data h => carries_read ?_ (by omega) (by decide) h⟩
      exact ⟨fd, _, hgrown (List.mem_append_left _ hopened),
        hgrown (List.mem_append_right t List.mem_cons_self)⟩

/-- Whether a reply carries as many bytes as it reports: it does so but for an answer to an NV_READ
for which less has been delivered than has been asked for. -/
theorem carries_iff (md5 : Bytes → Vector UInt8 16) {fs fs' : AndroidFileSystem}
    (request : ReadRequest)
    {t : List (Event Syscall.Ret)} {m : Message}
    (ht : Trace (request.handle.interpret (answer md5) fs) t (.done (fs', m)))
    (hkernel : ∀ e ∈ t, KernelAnswers e.op e.answer) :
    request.Carries fs t m ↔ ∀ offset size, request = .nvRead offset size →
      ∀ bytes, request.Delivered fs t bytes → bytes.length = size.toNat := by
  cases request with
  | nvRead offset size =>
    refine (Monitor.history_done (safe_nvRead offset size) ht hkernel).trans ⟨?_, fun h =>
      h offset size rfl⟩
    intro h offset' size' heq
    cases heq
    exact h
  | readFile fd bytes =>
    exact iff_of_true (Monitor.history_done (safe_readFile_carries fd bytes) ht hkernel) (by simp)
  | getFile nameSize name size =>
    exact iff_of_true (Monitor.history_done (safe_getFile_carries nameSize name size) ht hkernel)
      (by simp)
  | readDirectory fd =>
    exact iff_of_true (Monitor.history_done (safe_readDirectory_carries fd) ht hkernel) (by simp)

end

/-- An NV_READ that is answered with what has been delivered. -/
theorem trace_nvRead (md5 : Bytes → Vector UInt8 16) (fs : AndroidFileSystem) {offset size : UInt32}
    (h : outOfRange offset.toInt32 (min 512 size.toNat) = false) (bytes : Bytes) :
    Trace ((ReadRequest.nvRead offset size).handle.interpret (answer md5) fs)
      [⟨.pread fs.m_nvdata (resize [] (min 512 size.toNat)).length offset.toInt32.toInt, .ok bytes⟩]
      (.done (fs, ⟨CMD_RFS, RfsNvReadReply, (1 : UInt8), offset, size,
        resize (bytes ++ (resize [] (min 512 size.toNat)).drop bytes.length) 512, ()⟩)) := by
  have hinside : ¬ outOfRange offset.toInt32 (resize [] (min 512 size.toNat)).length = true := by
    rw [resize_length, h]
    exact Bool.false_ne_true
  rw [handle_nvRead, Program.interpret_bind, call, Program.interpret_request, answer, unchanged,
    readNVData, if_neg hinside]
  exact .cons (.nil _)

theorem carries_two_bytes : (ReadRequest.nvRead 0 2).Carries constructed
    [⟨.pread 3 (resize [] 2).length 0, .ok [0xA5, 0x5A]⟩]
    ⟨CMD_RFS, RfsNvReadReply, (1 : UInt8), (0 : UInt32), (2 : UInt32),
      resize ([0xA5, 0x5A] ++ (resize [] 2).drop 2) 512, ()⟩ := by
  have ht := @trace_nvRead (fun _ => Vector.replicate 16 0) constructed 0 2 (by decide) [0xA5, 0x5A]
  refine (carries_iff _ _ ht ?_).mpr ?_
  · exact List.forall_mem_singleton.mpr (by decide : 2 ≤ (resize [] 2).length)
  · intro offset size heq bytes hdelivered
    cases heq
    rw [delivered_pread.mp hdelivered]
    rfl

/-- An NV_READ of 600 bytes reports all of them, and its reply has room for 512. -/
theorem nv_read_reports_more : ¬ ∀ (md5 : Bytes → Vector UInt8 16) (fs fs' : AndroidFileSystem)
    (request : ReadRequest) (t : List (Event Syscall.Ret)) (m : Message),
      Trace (request.handle.interpret (answer md5) fs) t (.done (fs', m)) →
        (∀ e ∈ t, KernelAnswers e.op e.answer) → request.Carries fs t m := by
  intro h
  have ht := @trace_nvRead (fun _ => Vector.replicate 16 0) constructed 0 600 (by decide)
    (List.replicate 512 7)
  have hread : (List.replicate 512 (7 : UInt8)).length ≤ (resize [] 512).length := by
    rw [List.length_replicate, resize_length]
  have hsize := (carries_nvRead (by rw [List.length_replicate]; decide)).mp
    (h _ _ _ _ _ _ ht (List.forall_mem_singleton.mpr hread))
  rw [List.length_replicate] at hsize
  exact absurd hsize (by decide)

end FreeRil.RFSSocketHandler
