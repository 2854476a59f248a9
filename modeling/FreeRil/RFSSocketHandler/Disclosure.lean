import FreeRil.Compiler.Uninitialised
import FreeRil.RFSSocketHandler.Responses

/-! Whether the frames that are sent tell what memory has held before. -/
namespace FreeRil
open Messages Program

theorem answered_pure {Op : Type} {Ret : Op → Type} {α β : Type} (answer : ℕ → (op : Op) → Ret op)
    (n : ℕ) (p : Program Ret α) (g : α → β) :
    (p >>= fun a => pure (g a)).answered answer n = g (p.answered answer n) := by
  induction p generalizing n with
  | done a => rfl
  | call op next ih => exact ih _ _

namespace RFSSocketHandler

/-- What reaches the modem of the frames sent, which is nothing where the process has ended. -/
def delivered : Except Fault (List Bytes) → List Bytes
  | .ok sent => sent
  | .error _ => []

theorem delivered_ne {type : UInt8} {m : Message} (h : Answers type m) (header : RFSHeader) :
    delivered (respond header m) ≠ [] := by
  obtain ⟨-, -, hsized, -, n, hfixed, hle⟩ := h
  obtain ⟨length, -, hrespond⟩ := respond_eq header hsized hfixed hle
  rw [hrespond]
  exact List.cons_ne_nil _ _

/-- Different replies are different frames. -/
theorem delivered_injective {type : UInt8} {definition : MessageDefinition}
    {v v' : Struct definition.fields}
    (h : Answers type ⟨CMD_RFS, definition, v⟩) (h' : Answers type ⟨CMD_RFS, definition, v'⟩)
    {header : RFSHeader}
    (heq : delivered (respond header ⟨CMD_RFS, definition, v⟩) =
      delivered (respond header ⟨CMD_RFS, definition, v'⟩)) : v = v' := by
  obtain ⟨-, -, hsized, -, n, hfixed, hle⟩ := h
  obtain ⟨-, -, hsized', -, n', hfixed', hle'⟩ := h'
  obtain ⟨length, -, hrespond⟩ := respond_eq header hsized hfixed hle
  obtain ⟨length', -, hrespond'⟩ := respond_eq header hsized' hfixed' hle'
  rw [hrespond, hrespond'] at heq
  have happend := (List.cons.inj heq).1
  have hwire :=
    (List.append_inj happend (by rw [RFSHeader.toBytes_length, RFSHeader.toBytes_length])).2
  exact definition.wire_injective hsized hsized' hwire

section
variable (localtime_r : ℤ → BrokenDownTime) (reports : Reports)

/-- What is sent for a frame where the file system reports these results. -/
def framesSent (leftover : Leftover) (data : Bytes) : List Bytes :=
  delivered ((handleReassembledMessage localtime_r leftover data).answered reports.answer 0)

/-- The same is sent for a frame whatever memory has held. -/
def FramesKnown (fits : ℕ → Bool) (data : Bytes) : Prop :=
  ∀ leftover leftover' : Leftover, leftover.message.fits = fits → leftover'.message.fits = fits →
    framesSent localtime_r reports leftover data = framesSent localtime_r reports leftover' data

end
section
variable {localtime_r : ℤ → BrokenDownTime} {reports : Reports} {fits : ℕ → Bool} {data : Bytes}
  {d reply : MessageDefinition} {f : Stat → Struct d.fields → Handling}
  (hf : ∀ statbuf, handlerOf localtime_r statbuf (RFSHeader.ofBytes data).type =
    some ⟨d, f statbuf⟩)

/-- Nothing is sent for a type without a handler. -/
theorem framesSent_unknown {leftover : Leftover}
    (h : handlerOf localtime_r leftover.statbuf (RFSHeader.ofBytes data).type = none) :
    framesSent localtime_r reports leftover data = [] := by
  rw [framesSent, handleReassembledMessage, handleMessage, h]
  dsimp only
  split_ifs
  · rfl
  · rfl

/-- Nothing is sent where the payload is not there. -/
theorem framesSent_short {leftover : Leftover}
    (h : (data.drop RFSHeader.size).length < (RFSHeader.ofBytes data).payloadLength) :
    framesSent localtime_r reports leftover data = [] := by
  rw [framesSent, handleReassembledMessage, handleMessage]
  cases handlerOf localtime_r leftover.statbuf (RFSHeader.ofBytes data).type with
  | none =>
    dsimp only
    rw [if_pos h]
    rfl
  | some handler =>
    dsimp only
    cases Factory.create protocol CMD_RFS.type (RFSHeader.ofBytes data).type with
    | none => rfl
    | some created =>
      dsimp only
      rw [if_pos h]
      rfl

section
include hf

theorem declared_of_handler : declared .incoming (RFSHeader.ofBytes data).type = some d := by
  have hcorrect := handlerOf_correct localtime_r ⟨0, 0, 0, 0⟩ (RFSHeader.ofBytes data).type
  rw [hf] at hcorrect
  exact hcorrect.1

theorem answers_of_handler (statbuf : Stat) (v : Struct d.fields) :
    Answers (RFSHeader.ofBytes data).type ((f statbuf v).answered reports.answer 0) := by
  have hcorrect := handlerOf_correct localtime_r statbuf (RFSHeader.ofBytes data).type
  rw [hf] at hcorrect
  exact hcorrect.2 v _ (Program.answered_returns _ _ _)

theorem framesSent_eq (leftover : Leftover) : framesSent localtime_r reports leftover data =
    if (data.drop RFSHeader.size).length < (RFSHeader.ofBytes data).payloadLength then []
    else
      match d.readFromStream leftover.message (.init (payload data) .Read) with
      | none => []
      | some (read, v, s) => if read ∧ s.atEnd then
          delivered (respond (RFSHeader.ofBytes data)
            ((f leftover.statbuf v).answered reports.answer 0))
        else [] := by
  have hin := declared_of_handler hf
  rw [framesSent, handleReassembledMessage, handleMessage, hf]
  dsimp only
  rw [create_declared, hin]
  dsimp only [Option.map_some]
  simp only [Message.static_cast_self]
  split_ifs with hlength
  · rfl
  · rw [payload]
    cases d.readFromStream leftover.message
      (.init ((data.drop RFSHeader.size).take (RFSHeader.ofBytes data).payloadLength) .Read) with
    | none => rfl
    | some returned =>
      obtain ⟨read, v, s⟩ := returned
      dsimp only
      split_ifs
      · exact congrArg delivered (answered_pure _ _ _ _)
      · rfl

section
variable (hlength : (RFSHeader.ofBytes data).payloadLength ≤ (data.drop RFSHeader.size).length)
include hlength

theorem framesSent_accepted {leftover : Leftover} {v : Struct d.fields}
    (h : d.Accepted leftover.message (payload data) v) :
    framesSent localtime_r reports leftover data =
      delivered (respond (RFSHeader.ofBytes data)
        ((f leftover.statbuf v).answered reports.answer 0)) := by
  obtain ⟨s, hread, hend⟩ := h
  rw [framesSent_eq hf, if_neg (not_lt.mpr hlength), hread]
  exact if_pos ⟨rfl, hend⟩

theorem framesSent_refused {leftover : Leftover}
    (h : d.accepts leftover.message (payload data) = false) :
    framesSent localtime_r reports leftover data = [] := by
  rw [framesSent_eq hf, if_neg (not_lt.mpr hlength)]
  rw [MessageDefinition.accepts] at h
  cases hread : d.readFromStream leftover.message (.init (payload data) .Read) with
  | none => rfl
  | some returned =>
    obtain ⟨read, v, s⟩ := returned
    rw [hread] at h
    refine if_neg ?_
    rintro ⟨rfl, hend⟩
    exact Bool.false_ne_true (h.symm.trans hend)

theorem framesSent_ne {leftover : Leftover} (h : d.accepts leftover.message (payload data) = true) :
    framesSent localtime_r reports leftover data ≠ [] := by
  obtain ⟨v, hv⟩ := MessageDefinition.accepts_iff.mp h
  rw [framesSent_accepted hf hlength hv]
  exact delivered_ne (answers_of_handler hf _ v) _

/-- Nothing depends on the memory where the payload is never accepted. -/
theorem framesKnown_refused (h : ∀ contents, d.accepts ⟨contents, fits⟩ (payload data) = false) :
    FramesKnown localtime_r reports fits data := by
  rintro ⟨⟨contents, _⟩, statbuf⟩ ⟨⟨contents', _⟩, statbuf'⟩ rfl rfl
  rw [framesSent_refused hf hlength (h contents), framesSent_refused hf hlength (h contents')]

/-- A reply that does not depend on the members of the request is known if its acceptance is. -/
theorem framesKnown_plain {m : Message}
    (hreply : ∀ statbuf v, (f statbuf v).answered reports.answer 0 = m) :
    FramesKnown localtime_r reports fits data ↔ ∀ contents,
      d.accepts ⟨contents, fits⟩ (payload data) = true →
        ∀ contents', d.accepts ⟨contents', fits⟩ (payload data) = true := by
  constructor
  · intro hknown contents haccepts contents'
    by_contra hrefused
    have heq := hknown ⟨⟨contents, fits⟩, ⟨0, 0, 0, 0⟩⟩ ⟨⟨contents', fits⟩, ⟨0, 0, 0, 0⟩⟩ rfl rfl
    exact framesSent_ne hf hlength haccepts
      (heq.trans (framesSent_refused hf hlength (Bool.eq_false_iff.mpr hrefused)))
  · intro hall
    by_cases hsome : ∃ contents, d.accepts ⟨contents, fits⟩ (payload data) = true
    · obtain ⟨contents, haccepts⟩ := hsome
      rintro ⟨⟨contents₁, _⟩, statbuf₁⟩ ⟨⟨contents₂, fits⟩, statbuf₂⟩ rfl hfits
      obtain rfl : fits = _ := hfits
      obtain ⟨v₁, hv₁⟩ := MessageDefinition.accepts_iff.mp (hall contents haccepts contents₁)
      obtain ⟨v₂, hv₂⟩ := MessageDefinition.accepts_iff.mp (hall contents haccepts contents₂)
      rw [framesSent_accepted hf hlength hv₁, framesSent_accepted hf hlength hv₂, hreply, hreply]
    · refine framesKnown_refused hf hlength fun contents => ?_
      exact Bool.eq_false_iff.mpr fun haccepts => hsome ⟨contents, haccepts⟩

/-- The result of a call, where nothing in the payload has a length. -/
theorem framesKnown_steady {m : Message} (hsteady : d.fields.all Field.isSteady = true)
    (hreply : ∀ statbuf v, (f statbuf v).answered reports.answer 0 = m) :
    FramesKnown localtime_r reports fits data := by
  refine (framesKnown_plain hf hlength hreply).mpr fun contents haccepts contents' => ?_
  exact (@MessageDefinition.accepts_steady d ⟨contents', fits⟩ ⟨contents, fits⟩ _ rfl hsteady).trans
    haccepts

/-- The result of a call with data whose length is in the payload. -/
theorem framesKnown_data {m : Message}
    (hreply : ∀ statbuf v, (f statbuf v).answered reports.answer 0 = m) :
    FramesKnown localtime_r reports fits data ↔ ∀ contents,
      d.accepts ⟨contents, fits⟩ (payload data) = true →
        integersRead d.fields (payload data).length = true ∨
          ∀ contents', d.accepts ⟨contents', fits⟩ (payload data) = true := by
  rw [framesKnown_plain hf hlength hreply]
  refine forall_congr' fun contents => imp_congr_right fun haccepts => ?_
  constructor
  · exact .inr
  · rintro (hread | hall)
    · intro contents'
      exact (@MessageDefinition.accepts_congr d ⟨contents', fits⟩ ⟨contents, fits⟩ _ rfl
        hread).trans haccepts
    · exact hall

/-- A reply that repeats a size. -/
theorem framesKnown_size {size : Struct d.fields → UInt32} {told : Struct reply.fields → UInt32}
    (hf' : ∀ statbuf statbuf', f statbuf = f statbuf')
    (hreply : ∀ statbuf v, ∃ w, (f statbuf v).answered reports.answer 0 = ⟨CMD_RFS, reply, w⟩ ∧
      told w = size v)
    (hsize : ∀ memory v, integersRead d.fields (payload data).length = false →
      d.Accepted memory (payload data) v → size v = IntType.u32.bytesEquiv (memory.bytes 4 4)) :
    FramesKnown localtime_r reports fits data ↔ ∀ contents,
      d.accepts ⟨contents, fits⟩ (payload data) = true →
        integersRead d.fields (payload data).length = true := by
  constructor
  · intro hknown contents haccepts
    by_contra hread
    rw [Bool.not_eq_true] at hread
    have heq :=
      hknown ⟨⟨contents, fits⟩, ⟨0, 0, 0, 0⟩⟩ ⟨Memory.others ⟨contents, fits⟩, ⟨0, 0, 0, 0⟩⟩ rfl rfl
    cases hothers : d.accepts (Memory.others ⟨contents, fits⟩) (payload data) with
    | false =>
      exact framesSent_ne hf hlength haccepts (heq.trans (framesSent_refused hf hlength hothers))
    | true =>
      obtain ⟨v, hv⟩ := MessageDefinition.accepts_iff.mp haccepts
      obtain ⟨v', hv'⟩ := MessageDefinition.accepts_iff.mp hothers
      obtain ⟨w, hw, htold⟩ := hreply ⟨0, 0, 0, 0⟩ v
      obtain ⟨w', hw', htold'⟩ := hreply ⟨0, 0, 0, 0⟩ v'
      rw [framesSent_accepted hf hlength hv, framesSent_accepted hf hlength hv', hw, hw'] at heq
      obtain rfl := delivered_injective (hw ▸ answers_of_handler hf ⟨0, 0, 0, 0⟩ v)
        (hw' ▸ answers_of_handler hf ⟨0, 0, 0, 0⟩ v') heq
      rw [htold, hsize _ v hread hv, hsize _ v' hread hv'] at htold'
      exact Memory.bytes_others ⟨contents, fits⟩ 4 3 (IntType.u32.bytesEquiv.injective htold').symm
  · intro hall
    by_cases hsome : ∃ contents, d.accepts ⟨contents, fits⟩ (payload data) = true
    · obtain ⟨contents, haccepts⟩ := hsome
      have hread := hall contents haccepts
      rintro ⟨⟨contents₁, _⟩, statbuf₁⟩ ⟨⟨contents₂, fits⟩, statbuf₂⟩ rfl hfits
      obtain rfl : fits = _ := hfits
      rw [framesSent_eq hf, framesSent_eq hf, hf' statbuf₁ statbuf₂]
      dsimp only
      rw [@MessageDefinition.readFromStream_congr d ⟨contents₁, fits⟩ ⟨contents₂, fits⟩ _ rfl hread]
    · refine framesKnown_refused hf hlength fun contents => ?_
      exact Bool.eq_false_iff.mpr fun haccepts => hsome ⟨contents, haccepts⟩

/-- Information on a file is known if the file system has reported it. -/
theorem framesKnown_info {build : Stat → Struct reply.fields} {info : Option Stat}
    (hsteady : d.fields.all Field.isSteady = true)
    (hreply : ∀ statbuf v, (f statbuf v).answered reports.answer 0 =
      ⟨CMD_RFS, reply, build (info.getD statbuf)⟩)
    (htells : build ⟨0, 0, 0, 0⟩ ≠ build ⟨0, 1, 0, 0⟩) :
    FramesKnown localtime_r reports fits data ↔ ∀ contents,
      d.accepts ⟨contents, fits⟩ (payload data) = true → info.isSome = true := by
  constructor
  · intro hknown contents haccepts
    by_contra hnone
    rw [Option.not_isSome_iff_eq_none] at hnone
    obtain ⟨v, hv⟩ := MessageDefinition.accepts_iff.mp haccepts
    have heq := hknown ⟨⟨contents, fits⟩, ⟨0, 0, 0, 0⟩⟩ ⟨⟨contents, fits⟩, ⟨0, 1, 0, 0⟩⟩ rfl rfl
    have hanswers := fun statbuf => hreply statbuf v ▸ answers_of_handler hf statbuf v
    rw [framesSent_accepted hf hlength hv, framesSent_accepted hf hlength hv, hreply, hreply] at heq
    subst hnone
    exact htells (delivered_injective (hanswers _) (hanswers _) heq)
  · intro hall
    by_cases hsome : ∃ contents, d.accepts ⟨contents, fits⟩ (payload data) = true
    · obtain ⟨contents, haccepts⟩ := hsome
      obtain ⟨told, rfl⟩ := Option.isSome_iff_exists.mp (hall contents haccepts)
      exact @framesKnown_steady _ _ _ _ _ _ hf hlength ⟨CMD_RFS, reply, build told⟩ hsteady hreply
    · refine framesKnown_refused hf hlength fun contents => ?_
      exact Bool.eq_false_iff.mpr fun haccepts => hsome ⟨contents, haccepts⟩

end
end
end

section
variable {localtime_r : ℤ → BrokenDownTime} {reports : Reports}

/-- What a file is opened for is done if it has been opened. -/
theorem withFile_answered {α β : Type} {filename : Bytes} {flags : ℤ} {otherwise : α}
    {operation : ℤ → Program IFileSystem.Ret (ℤ × α)} {k : ℤ × α → Program IFileSystem.Ret β} :
    (withFile filename flags otherwise operation >>= k).answered reports.answer 0 =
      if 0 ≤ reports.status 0 then
        (operation (reports.status 0) >>= fun result =>
          call (.closeFile (reports.status 0)) >>= fun _ =>
          k result).answered reports.answer 1
      else (k (reports.status 0, otherwise)).answered reports.answer 1 := by
  unfold withFile
  rw [Program.bind_assoc]
  change ((ite (0 ≤ reports.status 0) _ _ : Program IFileSystem.Ret (ℤ × α)) >>= k).answered
    reports.answer 1 = _
  split_ifs
  · rw [Program.bind_assoc]
    refine congrArg (fun p => Program.answered reports.answer 1 p) ?_
    refine congrArg (operation (reports.status 0) >>= ·) (funext fun result => ?_)
    rw [Program.bind_assoc]
    rfl
  · rfl

theorem putFile_answered (v : Struct RfsPutFile.fields) :
    (handlePutFile v).answered reports.answer 0 =
    ⟨CMD_RFS, RfsPutFileReply,
      buildReply (if 0 ≤ reports.status 0 then reports.status 1 else reports.status 0)⟩ := by
  obtain ⟨flags, nameSize, name, bytes, data, ⟨⟩⟩ := v
  refine withFile_answered.trans ?_
  split_ifs
  · rfl
  · rfl

theorem readFile_answered (v : Struct RfsReadFile.fields) :
    (handleReadFile v).answered reports.answer 0 =
    ⟨CMD_RFS, RfsReadFileReply, (buildReply (reports.status 0)).1,
      (buildReply (reports.status 0)).2.1,
      resize (reports.data 0) 4096, ()⟩ := by
  obtain ⟨fd, bytes, ⟨⟩⟩ := v
  rfl

theorem readDirectory_answered (v : Struct RfsReadDirectory.fields) :
    (handleReadDirectory v).answered reports.answer 0 =
      if reports.status 0 = 1 then
        ⟨CMD_RFS, RfsReadDirectoryReply, (0 : UInt32), .ofNat (min 1024 (reports.data 0).length),
          resize ((reports.data 0).take (min 1024 (reports.data 0).length)) 1024, (0 : UInt32), ()⟩
      else
        ⟨CMD_RFS, RfsReadDirectoryReply, .ofInt (-1), (0 : UInt32), resize [] 1024,
          .ofInt (-reports.status 0), ()⟩ := by
  obtain ⟨fd, ⟨⟩⟩ := v
  change (ite (reports.status 0 = 1) _ _ : Handling).answered reports.answer 1 = _
  split_ifs
  · rfl
  · rfl

theorem nvRead_answered (offset size : UInt32) :
    (handleNvRead (offset, size, ())).answered reports.answer 0 =
      ⟨CMD_RFS, RfsNvReadReply, (if reports.status 0 = 0 then 1 else 0 : UInt8), offset, size,
        resize (reports.data 0) 512, ()⟩ := rfl

theorem nvWrite_answered (offset size : UInt32) (data : Bytes) :
    (handleNvWrite (offset, size, data, ())).answered reports.answer 0 =
      ⟨CMD_RFS, RfsNvWriteReply, (if reports.status 0 = 0 then 1 else 0 : UInt8), offset, size,
        ()⟩ := rfl

theorem nvWriteAll_answered (offset size : UInt32) (data : Bytes) :
    (handleNvWriteAll (offset, size, data, ())).answered reports.answer 0 =
      ⟨CMD_RFS, RfsNvWriteAllReply, (if reports.status 0 = 0 then 1 else 0 : UInt8), offset, size,
        ()⟩ := rfl

theorem writeFile_answered (v : Struct RfsWriteFile.fields) :
    (handleWriteFile v).answered reports.answer 0 =
    ⟨CMD_RFS, RfsWriteFileReply, buildReply (reports.status 0)⟩ := by
  obtain ⟨fd, bytes, data, ⟨⟩⟩ := v
  rfl

theorem resize_resize {n m : ℕ} (h : n ≤ m) : resize (resize [] n) m = resize [] m := by
  simp [resize, h]

theorem getFile_answered (v : Struct RfsGetFile.fields) :
    (handleGetFile v).answered reports.answer 0 =
    let ret := if 0 ≤ reports.status 0 then reports.status 1 else reports.status 0
    let data := if 0 ≤ reports.status 0 then reports.data 1 else []
    ⟨CMD_RFS, RfsGetFileReply, (buildReply ret).1, (buildReply ret).2.1, resize data 4096, ()⟩ := by
  obtain ⟨nameSize, name, size, ⟨⟩⟩ := v
  refine withFile_answered.trans ?_
  split_ifs with hopened
  · rfl
  · change
      (⟨CMD_RFS, RfsGetFileReply, (buildReply (reports.status 0)).1,
      (buildReply (reports.status 0)).2.1,
      resize (resize [] (min 4096 (UInt32.toNat size))) 4096, ()⟩ : Message) = _
    rw [resize_resize (min_le_left 4096 _)]

/-- What the file system reports of a file that is opened by its name. -/
def Reports.namedInfo (reports : Reports) : Option Stat :=
  if 0 ≤ reports.status 0 then reports.info 1 else none

theorem getFileInfo_answered (statbuf : Stat) (v : Struct RfsGetFileInfo.fields) :
    (handleGetFileInfo localtime_r statbuf v).answered reports.answer 0 =
      ⟨CMD_RFS, RfsGetFileInfoReply, buildFileInfo localtime_r
        (if 0 ≤ reports.status 0 then reports.status 1 else reports.status 0)
        (reports.namedInfo.getD statbuf)⟩ := by
  obtain ⟨nameSize, name, ⟨⟩⟩ := v
  refine withFile_answered.trans ?_
  unfold Reports.namedInfo
  split_ifs
  · rfl
  · rfl

theorem getFileInfoByHandle_answered (statbuf : Stat) (v : Struct RfsGetFileInfoByHandle.fields) :
    (handleGetFileInfoByHandle localtime_r statbuf v).answered reports.answer 0 =
      ⟨CMD_RFS, RfsGetFileInfoByHandleReply, buildFileInfo localtime_r (reports.status 0)
        ((reports.info 0).getD statbuf)⟩ := by
  obtain ⟨fd, ⟨⟩⟩ := v
  rfl

/-- The size of the file is told. -/
theorem buildFileInfo_ne (ret : ℤ) :
    buildFileInfo localtime_r ret ⟨0, 0, 0, 0⟩ ≠ buildFileInfo localtime_r ret ⟨0, 1, 0, 0⟩ := by
  intro h
  have hsize : UInt32.ofNat 0 = UInt32.ofNat 1 := congrArg (fun value => value.2.2.1) h
  contradiction

end

/-- The requests of the protocol. -/
theorem mem_requests {type : UInt8} {request : MessageDefinition}
    (h : declared .incoming type = some request) :
    request.type = type ∧ request ∈ [RfsNvRead, RfsNvWrite, RfsReadFile, RfsWriteFile, RfsLseekFile,
      RfsCloseFile, RfsPutFile, RfsGetFile, RfsRenameFile, RfsGetFileInfo, RfsDeleteFile,
      RfsMakeDirectory,
      RfsDeleteDirectory, RfsOpenDirectory, RfsReadDirectory, RfsCloseDirectory, RfsOpenFile,
      RfsFtruncateFile, RfsGetFileInfoByHandle, RfsNvWriteAll] := by
  rw [declared] at h
  have hfound := List.find?_some h
  obtain ⟨hdirection, htype⟩ := of_decide_eq_true hfound
  refine ⟨htype, ?_⟩
  have hrequest : request ∈ CMD_RFS.messages.filter fun d => d.direction = .incoming :=
    List.mem_filter.mpr ⟨List.mem_of_find?_eq_some h, decide_eq_true hdirection⟩
  exact hrequest

/-- What a request that is accepted needs to be answered without what memory has held: that the
integers are there that are repeated or are the length of data, and that the file system has
reported the information that is asked for. -/
def Settled (fits : ℕ → Bool) (reports : Reports) (payload : Bytes) (request : MessageDefinition) :
    Prop :=
  if request.type = RfsNvRead.type ∨ request.type = RfsNvWrite.type ∨
      request.type = RfsNvWriteAll.type then
    integersRead request.fields payload.length = true
  else if request.type = RfsWriteFile.type ∨ request.type = RfsPutFile.type then
    integersRead request.fields payload.length = true ∨
      ∀ contents, request.accepts ⟨contents, fits⟩ payload = true
  else if request.type = RfsGetFileInfo.type then reports.namedInfo.isSome = true
  else if request.type = RfsGetFileInfoByHandle.type then (reports.info 0).isSome = true
  else True

section
variable {localtime_r : ℤ → BrokenDownTime} {reports : Reports} {fits : ℕ → Bool} {data : Bytes}

theorem framesKnown_of_plain {d : MessageDefinition} (f : Stat → Struct d.fields → Handling)
    (htype : d.type = (RFSHeader.ofBytes data).type)
    (hf : ∀ statbuf, handlerOf localtime_r statbuf d.type = some ⟨d, f statbuf⟩)
    (hlength : (RFSHeader.ofBytes data).payloadLength ≤ (data.drop RFSHeader.size).length)
    (hsteady : d.fields.all Field.isSteady = true) (m : Message)
    (hreply : ∀ statbuf v, (f statbuf v).answered reports.answer 0 = m)
    (hsettled : Settled fits reports (payload data) d) :
    FramesKnown localtime_r reports fits data ↔ ∀ contents,
      d.accepts ⟨contents, fits⟩ (payload data) = true → Settled fits reports (payload data) d :=
  iff_of_true (framesKnown_steady (htype ▸ hf) hlength hsteady hreply) fun _ _ => hsettled

theorem framesKnown_request {request : MessageDefinition}
    (hlength : (RFSHeader.ofBytes data).payloadLength ≤ (data.drop RFSHeader.size).length)
    (h : declared .incoming (RFSHeader.ofBytes data).type = some request) :
    FramesKnown localtime_r reports fits data ↔ ∀ contents,
      request.accepts ⟨contents, fits⟩ (payload data) = true →
        Settled fits reports (payload data) request := by
  obtain ⟨htype, hrequest⟩ := mem_requests h
  simp only [List.mem_cons, List.not_mem_nil, or_false] at hrequest
  obtain rfl | rfl | rfl | rfl | rfl | rfl | rfl | rfl | rfl | rfl | rfl | rfl | rfl | rfl | rfl |
    rfl | rfl |
    rfl | rfl | rfl := hrequest
  · rw [show Settled fits reports (payload data) RfsNvRead = _ from if_pos (.inl rfl)]
    refine @framesKnown_size localtime_r reports fits data RfsNvRead RfsNvReadReply
      (fun _ => handleNvRead)
      (htype ▸ fun _ => rfl) hlength (fun v => v.2.1) (fun w => w.2.2.1) (fun _ _ => rfl) ?_ ?_
    · rintro statbuf ⟨offset, size, ⟨⟩⟩
      exact ⟨_, nvRead_answered offset size, rfl⟩
    · rintro memory v hunread ⟨s, hread, -⟩
      exact readMessage_new_unread (length_of_unread (fun _ => rfl) hunread)
        (MessageDefinition.readFromStream_returns hread).2
  · rw [show Settled fits reports (payload data) RfsNvWrite = _ from if_pos (.inr (.inl rfl))]
    refine @framesKnown_size localtime_r reports fits data RfsNvWrite RfsNvWriteReply
      (fun _ => handleNvWrite)
      (htype ▸ fun _ => rfl) hlength (fun v => v.2.1) (fun w => w.2.2.1) (fun _ _ => rfl) ?_ ?_
    · rintro statbuf ⟨offset, size, data, ⟨⟩⟩
      exact ⟨_, nvWrite_answered offset size data, rfl⟩
    · rintro memory v hunread ⟨s, hread, -⟩
      exact readMessage_new_unread (length_of_unread (fun _ => rfl) hunread)
        (MessageDefinition.readFromStream_returns hread).2
  · exact framesKnown_of_plain (fun _ => handleReadFile) htype (fun _ => rfl) hlength rfl _
      (fun _ => readFile_answered) trivial
  · exact @framesKnown_data localtime_r reports fits data RfsWriteFile (fun _ => handleWriteFile)
      (htype ▸ fun _ => rfl)
      hlength _ fun _ => writeFile_answered
  · exact framesKnown_of_plain (fun _ => handleLseekFile) htype (fun _ => rfl) hlength rfl
      ⟨CMD_RFS, RfsLseekFileReply, buildReply (reports.status 0)⟩ (fun _ _ => rfl) trivial
  · exact framesKnown_of_plain (fun _ => handleCloseFile) htype (fun _ => rfl) hlength rfl
      ⟨CMD_RFS, RfsCloseFileReply, buildReply (reports.status 0)⟩ (fun _ _ => rfl) trivial
  · exact @framesKnown_data localtime_r reports fits data RfsPutFile (fun _ => handlePutFile)
      (htype ▸ fun _ => rfl)
      hlength _ fun _ => putFile_answered
  · exact framesKnown_of_plain (fun _ => handleGetFile) htype (fun _ => rfl) hlength rfl _
      (fun _ => getFile_answered) trivial
  · exact framesKnown_of_plain (fun _ => handleRenameFile) htype (fun _ => rfl) hlength rfl
      ⟨CMD_RFS, RfsRenameFileReply, buildReply (reports.status 0)⟩ (fun _ _ => rfl) trivial
  · exact @framesKnown_info localtime_r reports fits data RfsGetFileInfo RfsGetFileInfoReply
      (handleGetFileInfo localtime_r)
        (htype ▸ fun _ => rfl) hlength _ reports.namedInfo rfl getFileInfo_answered
        (buildFileInfo_ne _)
  · exact framesKnown_of_plain (fun _ => handleDeleteFile) htype (fun _ => rfl) hlength rfl
      ⟨CMD_RFS, RfsDeleteFileReply, buildReply (reports.status 0)⟩ (fun _ _ => rfl) trivial
  · exact framesKnown_of_plain (fun _ => handleMakeDirectory) htype (fun _ => rfl) hlength rfl
      ⟨CMD_RFS, RfsMakeDirectoryReply, buildReply (reports.status 0)⟩ (fun _ _ => rfl) trivial
  · exact framesKnown_of_plain (fun _ => handleDeleteDirectory) htype (fun _ => rfl) hlength rfl
      ⟨CMD_RFS, RfsDeleteDirectoryReply, buildReply (reports.status 0)⟩ (fun _ _ => rfl) trivial
  · exact framesKnown_of_plain (fun _ => handleOpenDirectory) htype (fun _ => rfl) hlength rfl
      ⟨CMD_RFS, RfsOpenDirectoryReply, buildReply (reports.status 0)⟩ (fun _ _ => rfl) trivial
  · exact framesKnown_of_plain (fun _ => handleReadDirectory) htype (fun _ => rfl) hlength rfl _
      (fun _ => readDirectory_answered) trivial
  · exact framesKnown_of_plain (fun _ => handleCloseDirectory) htype (fun _ => rfl) hlength rfl
      ⟨CMD_RFS, RfsCloseDirectoryReply, buildReply (reports.status 0)⟩ (fun _ _ => rfl) trivial
  · exact framesKnown_of_plain (fun _ => handleOpenFile) htype (fun _ => rfl) hlength rfl
      ⟨CMD_RFS, RfsOpenFileReply, buildReply (reports.status 0)⟩ (fun _ _ => rfl) trivial
  · exact framesKnown_of_plain (fun _ => handleFtruncateFile) htype (fun _ => rfl) hlength rfl
      ⟨CMD_RFS, RfsFtruncateFileReply, buildReply (reports.status 0)⟩ (fun _ _ => rfl) trivial
  · exact @framesKnown_info localtime_r reports fits data RfsGetFileInfoByHandle
      RfsGetFileInfoByHandleReply
      (handleGetFileInfoByHandle localtime_r) (htype ▸ fun _ => rfl) hlength _
        (reports.info 0) rfl getFileInfoByHandle_answered (buildFileInfo_ne _)
  · rw [show Settled fits reports (payload data) RfsNvWriteAll = _ from if_pos (.inr (.inr rfl))]
    refine @framesKnown_size localtime_r reports fits data RfsNvWriteAll RfsNvWriteAllReply
      (fun _ => handleNvWriteAll)
      (htype ▸ fun _ => rfl) hlength (fun v => v.2.1) (fun w => w.2.2.1) (fun _ _ => rfl) ?_ ?_
    · rintro statbuf ⟨offset, size, data, ⟨⟩⟩
      exact ⟨_, nvWriteAll_answered offset size data, rfl⟩
    · rintro memory v hunread ⟨s, hread, -⟩
      exact readMessage_new_unread (length_of_unread (fun _ => rfl) hunread)
        (MessageDefinition.readFromStream_returns hread).2

/-- What is sent for a frame does not depend on what memory has held exactly if its request, where
it is accepted, is settled. -/
theorem framesKnown_iff : FramesKnown localtime_r reports fits data ↔
    ((RFSHeader.ofBytes data).payloadLength ≤ (data.drop RFSHeader.size).length →
      ∀ request, declared .incoming (RFSHeader.ofBytes data).type = some request → ∀ contents,
        request.accepts ⟨contents, fits⟩ (payload data) = true →
          Settled fits reports (payload data) request) := by
  cases hdeclared : declared .incoming (RFSHeader.ofBytes data).type with
  | none =>
    have hnone : ∀ statbuf, handlerOf localtime_r statbuf (RFSHeader.ofBytes data).type = none := by
      intro statbuf
      rw [← Option.not_isSome_iff_eq_none, handlerOf_isSome, hdeclared]
      exact Bool.false_ne_true
    refine iff_of_true (fun leftover leftover' _ _ => ?_) fun _ _ h =>
      absurd h (Option.some_ne_none _).symm
    rw [framesSent_unknown (hnone _), framesSent_unknown (hnone _)]
  | some request =>
    by_cases hlength : (RFSHeader.ofBytes data).payloadLength ≤ (data.drop RFSHeader.size).length
    · rw [framesKnown_request hlength hdeclared]
      constructor
      · rintro h - _ ⟨⟩
        exact h
      · exact fun h => h hlength request rfl
    · refine iff_of_true (fun leftover leftover' _ _ => ?_) fun h => absurd h hlength
      have hshort := not_le.mp hlength
      rw [framesSent_short hshort, framesSent_short hshort]

end

end RFSSocketHandler
end FreeRil
