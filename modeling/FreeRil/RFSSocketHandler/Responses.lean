import FreeRil.RFSSocketHandler
import FreeRil.Compiler.Reading

/-! Every request of the RFS channel that is accepted gets one well-formed response, whatever the
file system behind the handler does, until the reading of one ends the process. -/
namespace FreeRil.RFSSocketHandler
open Messages

/-- The message of this direction and type in the protocol. -/
def declared (direction : Direction) (type : UInt8) : Option MessageDefinition :=
  CMD_RFS.messages.find? fun d => d.direction = direction ∧ d.type = type

/-- The payload of a frame at the front of a buffer. -/
def payload (data : Bytes) : Bytes :=
  (data.drop RFSHeader.size).take (RFSHeader.ofBytes data).payloadLength

/-- A frame of at least the size of a header lies at the front of a buffer. -/
def IsFrame (data : Bytes) : Prop :=
  RFSHeader.size ≤ (RFSHeader.ofBytes data).length.toNat ∧
    (RFSHeader.ofBytes data).length.toNat ≤ data.length

instance instDecidableIsFrame (data : Bytes) : Decidable (IsFrame data) :=
  inferInstanceAs (Decidable (_ ∧ _))

/-- The request of its type takes its payload, with nothing left over. -/
def handled (frame : Bytes × Leftover) : Bool :=
  (declared .incoming (RFSHeader.ofBytes frame.1).type).any fun request =>
    request.accepts frame.2.message (payload frame.1)

/-- The reading of its payload asks for more memory than there is. -/
def exhausts (frame : Bytes × Leftover) : Bool :=
  (declared .incoming (RFSHeader.ofBytes frame.1).type).any fun request =>
    (request.readFromStream frame.2.message (.init (payload frame.1) .Read)).isNone

/-- A frame sent in answer to another, which is taken wherever there is room for its vectors. -/
structure Responds (request : Bytes × Leftover) (response : Bytes) : Prop where
  type_eq : (RFSHeader.ofBytes response).type = (RFSHeader.ofBytes request.1).type
  sequence_eq : (RFSHeader.ofBytes response).sequence = (RFSHeader.ofBytes request.1).sequence
  length_eq : (RFSHeader.ofBytes response).length.toNat = response.length
  accepted : ∀ reader : Memory, (∀ size ≤ 4096, reader.fits size = true) →
    (declared .outgoing (RFSHeader.ofBytes request.1).type).any
      (fun reply => reply.accepts reader (response.drop RFSHeader.size)) = true

/-- The reply declared for a type, with vectors of the right sizes. -/
structure Answers (type : UInt8) (m : Message) : Prop where
  group_eq : m.group = CMD_RFS
  definition_eq : declared .outgoing type = some m.definition
  sized : m.definition.Sized m.value
  fits : ∀ reader : Memory, (∀ size ≤ 4096, reader.fits size = true) →
    m.definition.Fits reader m.value
  size_le : ∃ n, fixedSize m.definition.fields = some n ∧ n ≤ 4104

/-- A handler takes the request declared for its type, and returns the reply. -/
def Correct (type : UInt8) : Option Handler → Prop
  | none => declared .incoming type = none
  | some handler => declared .incoming type = some handler.definition ∧
      ∀ v m, (handler.handle v).Returns m → Answers type m

theorem create_declared (type : UInt8) : Factory.create protocol CMD_RFS.type type =
    (declared .incoming type).map (CMD_RFS, ·) := by
  have hgroup : protocol.groups.find? (·.type = CMD_RFS.type) = some CMD_RFS := rfl
  rw [protocol_wellDescribed.create_eq, hgroup, Option.bind_some, declared]
  simp only [Bool.decide_and]

theorem resize_length (data : Bytes) (n : ℕ) : (resize data n).length = n := by
  rw [resize, List.length_append, List.length_take, List.length_replicate]
  omega

theorem sized_vector {name : String} {n : ℕ} {env : Env} {data : Bytes} {after : ℕ}
    (h : data.length = n) : (Field.vector name (.const n)).Sized env data after :=
  congrArg some h.symm

theorem fits_vector {name : String} {n : ℕ} {reader : Memory}
    (hroom : ∀ size ≤ 4096, reader.fits size = true)
    {data : Bytes} (h : data.length = n) (hn : n ≤ 4096) :
    (Field.vector name (.const n)).Fits reader data :=
  hroom data.length (h.le.trans hn)

/-- There are no vectors in the information on a file. -/
theorem fileInfo_sized (env : Env) (v : Struct RfsGetFileInfoReply.fields) (after : ℕ) :
    SizedStructure RfsGetFileInfoReply.fields env v after :=
  sizedStructure_of_fixed rfl env v after

theorem fileInfo_fits {reader : Memory} (v : Struct RfsGetFileInfoReply.fields) :
    FitsStructure reader RfsGetFileInfoReply.fields v :=
  ⟨trivial, trivial, trivial, trivial, trivial, trivial, trivial, trivial, trivial, trivial,
    trivial, trivial, trivial, trivial, trivial, trivial, trivial⟩

/-- A reply that consists of the fields of `buildReply`. -/
theorem answers_plain {type : UInt8} {d : MessageDefinition} {v : Struct d.fields}
    (hfields : d.fields = [.u32 "ret", .u32 "errno"]) (h : declared .outgoing type = some d) :
    Answers type ⟨CMD_RFS, d, v⟩ := by
  refine ⟨rfl, h, ?_, fun reader hroom => ?_, ⟨8, ?_, by decide⟩⟩
  · cases d with
    | mk direction id type op fields =>
      subst hfields
      exact ⟨trivial, trivial, trivial⟩
  · cases d with
    | mk direction id type op fields =>
      subst hfields
      exact ⟨trivial, trivial, trivial⟩
  · rw [hfields]
    rfl

/-- A handler whose reply consists of these fields. -/
theorem correct_plain {type : UInt8} {request reply : MessageDefinition}
    {handle : Struct request.fields → Handling} (hin : declared .incoming type = some request)
    (hout : declared .outgoing type = some reply)
    (hfields : reply.fields = [.u32 "ret", .u32 "errno"])
    (hhandle : ∀ v m, (handle v).Returns m → ∃ fields, m = ⟨CMD_RFS, reply, fields⟩) :
    Correct type (some ⟨request, handle⟩) := by
  refine ⟨hin, fun v m h => ?_⟩
  obtain ⟨fields, rfl⟩ := hhandle v m h
  exact answers_plain hfields hout

section
variable (localtime_r : ℤ → BrokenDownTime) (statbuf : Stat)

theorem correct_nvRead : Correct 1 (some ⟨RfsNvRead, handleNvRead⟩) := by
  refine ⟨rfl, ?_⟩
  rintro ⟨offset, size, ⟨⟩⟩ m ⟨⟨ret, data⟩, rfl⟩
  refine ⟨rfl, rfl, ⟨trivial, trivial, trivial, ?_, trivial⟩,
    fun reader hroom => ?_, 521, rfl, by decide⟩
  · exact sized_vector (resize_length data 512)
  · exact ⟨trivial, trivial, trivial,
      fits_vector hroom (resize_length data 512) (by decide), trivial⟩

theorem correct_nvWrite : Correct 2 (some ⟨RfsNvWrite, handleNvWrite⟩) := by
  refine ⟨rfl, ?_⟩
  rintro ⟨offset, size, data, ⟨⟩⟩ m ⟨ret, rfl⟩
  exact ⟨rfl, rfl, ⟨trivial, trivial, trivial, trivial⟩, fun _ _ =>
    ⟨trivial, trivial, trivial, trivial⟩,
    9, rfl, by decide⟩

theorem correct_nvWriteAll : Correct 21 (some ⟨RfsNvWriteAll, handleNvWriteAll⟩) := by
  refine ⟨rfl, ?_⟩
  rintro ⟨offset, size, data, ⟨⟩⟩ m ⟨ret, rfl⟩
  exact ⟨rfl, rfl, ⟨trivial, trivial, trivial, trivial⟩, fun _ _ =>
    ⟨trivial, trivial, trivial, trivial⟩,
    9, rfl, by decide⟩

theorem correct_readFile : Correct 3 (some ⟨RfsReadFile, handleReadFile⟩) := by
  refine ⟨rfl, ?_⟩
  rintro ⟨fd, bytes, ⟨⟩⟩ m ⟨⟨ret, data⟩, rfl⟩
  refine ⟨rfl, rfl, ⟨trivial, trivial, ?_, trivial⟩, fun reader hroom => ?_, 4104, rfl, by decide⟩
  · exact sized_vector (resize_length data 4096)
  · exact ⟨trivial, trivial, fits_vector hroom (resize_length data 4096) le_rfl, trivial⟩

theorem correct_getFile : Correct 8 (some ⟨RfsGetFile, handleGetFile⟩) := by
  refine ⟨rfl, ?_⟩
  rintro ⟨nameSize, name, size, ⟨⟩⟩ m h
  obtain ⟨⟨ret, data⟩, -, rfl⟩ := Program.returns_bind.mp h
  refine ⟨rfl, rfl, ⟨trivial, trivial, ?_, trivial⟩, fun reader hroom => ?_, 4104, rfl, by decide⟩
  · exact sized_vector (resize_length data 4096)
  · exact ⟨trivial, trivial, fits_vector hroom (resize_length data 4096) le_rfl, trivial⟩

theorem correct_readDirectory : Correct 15 (some ⟨RfsReadDirectory, handleReadDirectory⟩) := by
  refine ⟨rfl, ?_⟩
  rintro ⟨fd, ⟨⟩⟩ m ⟨⟨ret, name⟩, h⟩
  change (ite (ret = 1) _ _ : Handling).Returns m at h
  by_cases hret : ret = 1
  · rw [if_pos hret] at h
    obtain rfl := h
    refine ⟨rfl, rfl, ⟨trivial, trivial, ?_, trivial, trivial⟩,
      fun reader hroom => ?_, 1036, rfl, by decide⟩
    · exact sized_vector (resize_length _ 1024)
    · exact ⟨trivial, trivial, fits_vector hroom (resize_length _ 1024) (by decide),
        trivial, trivial⟩
  · rw [if_neg hret] at h
    obtain rfl := h
    refine ⟨rfl, rfl, ⟨trivial, trivial, ?_, trivial, trivial⟩,
      fun reader hroom => ?_, 1036, rfl, by decide⟩
    · exact sized_vector (resize_length _ 1024)
    · exact ⟨trivial, trivial, fits_vector hroom (resize_length _ 1024) (by decide),
        trivial, trivial⟩

theorem correct_getFileInfo :
    Correct 10 (some ⟨RfsGetFileInfo, handleGetFileInfo localtime_r statbuf⟩) := by
  refine ⟨rfl, ?_⟩
  rintro ⟨nameSize, name, ⟨⟩⟩ m h
  obtain ⟨⟨ret, left⟩, -, rfl⟩ := Program.returns_bind.mp h
  exact ⟨rfl, rfl, fileInfo_sized [] _ 0, fun _ _ => fileInfo_fits _, 26, rfl, by decide⟩

theorem correct_getFileInfoByHandle : Correct 19
    (some ⟨RfsGetFileInfoByHandle, handleGetFileInfoByHandle localtime_r statbuf⟩) := by
  refine ⟨rfl, ?_⟩
  rintro ⟨fd, ⟨⟩⟩ m ⟨⟨ret, left⟩, rfl⟩
  exact ⟨rfl, rfl, fileInfo_sized [] _ 0, fun _ _ => fileInfo_fits _, 26, rfl, by decide⟩

/-- The entries from a type on. -/
def CorrectFrom (type : UInt8) : List (Option Handler) → Prop
  | [] => True
  | entry :: entries => Correct type entry ∧ CorrectFrom (type + 1) entries

theorem CorrectFrom.get {entries : List (Option Handler)} {type : UInt8}
    (h : CorrectFrom type entries)
    {n : ℕ} (hn : n < entries.length) : Correct (type + .ofNat n) (entries.getD n none) := by
  induction entries generalizing type n with
  | nil => exact absurd hn (Nat.not_lt_zero n)
  | cons entry entries ih =>
    cases n with
    | zero => simpa using h.1
    | succ n =>
      have hnext := ih h.2 (Nat.lt_of_succ_lt_succ hn)
      have hplace : (1 : UInt8) + .ofNat n = .ofNat (n + 1) := by
        rw [UInt8.ofNat_add, UInt8.add_comm]
        rfl
      rwa [UInt8.add_assoc, hplace] at hnext

/-- The table by its types: each entry is the handler of the request of its place. -/
theorem m_handlers_correct : CorrectFrom FirstType (m_handlers localtime_r statbuf) := by
  refine ⟨correct_nvRead, correct_nvWrite, correct_readFile, correct_plain rfl rfl rfl ?_,
    correct_plain rfl rfl rfl ?_, correct_plain rfl rfl rfl ?_, correct_plain rfl rfl rfl ?_,
    correct_getFile, correct_plain rfl rfl rfl ?_, correct_getFileInfo localtime_r statbuf,
    correct_plain rfl rfl rfl ?_, correct_plain rfl rfl rfl ?_, correct_plain rfl rfl rfl ?_,
    correct_plain rfl rfl rfl ?_, correct_readDirectory, correct_plain rfl rfl rfl ?_,
    correct_plain rfl rfl rfl ?_, correct_plain rfl rfl rfl ?_,
    correct_getFileInfoByHandle localtime_r statbuf, rfl, correct_nvWriteAll, trivial⟩
  all_goals
    intro v m h
    obtain ⟨ret, -, rfl⟩ := Program.returns_bind.mp h
    exact ⟨_, rfl⟩

/-- Outside of the table no request is declared. -/
theorem declared_outside {type : UInt8} (h : type < FirstType ∨ LastType < type) :
    declared .incoming type = none := by
  have hinside : ∀ d ∈ CMD_RFS.messages, d.direction = .incoming →
    FirstType ≤ d.type ∧ d.type ≤ LastType := by
    decide +kernel
  apply List.find?_eq_none.mpr
  intro d hd heq
  obtain ⟨hdirection, rfl⟩ := of_decide_eq_true heq
  obtain ⟨hfirst, hlast⟩ := hinside d hd hdirection
  obtain h | h := h
  · exact absurd h (UInt8.not_lt.mpr hfirst)
  · exact absurd h (UInt8.not_lt.mpr hlast)

theorem handlerOf_correct (type : UInt8) : Correct type (handlerOf localtime_r statbuf type) := by
  rw [handlerOf]
  split_ifs with hout
  · exact declared_outside hout
  · obtain ⟨hfirst, hlast⟩ := not_or.mp hout
    have hle : FirstType ≤ type := UInt8.not_lt.mp hfirst
    have hn : (type - FirstType).toNat < (m_handlers localtime_r statbuf).length := by
      have hle' : type.toNat ≤ 21 := UInt8.le_iff_toNat_le.mp (UInt8.not_lt.mp hlast)
      rw [UInt8.toNat_sub_of_le _ _ hle]
      change type.toNat - 1 < 21
      omega
    have hcorrect := (m_handlers_correct localtime_r statbuf).get hn
    rwa [UInt8.ofNat_toNat, UInt8.add_comm, UInt8.sub_add_cancel] at hcorrect

/-- A type has a handler exactly if a request of it is declared. -/
theorem handlerOf_isSome (type : UInt8) :
    (handlerOf localtime_r statbuf type).isSome = (declared .incoming type).isSome := by
  have hcorrect := handlerOf_correct localtime_r statbuf type
  cases hhandler : handlerOf localtime_r statbuf type with
  | none =>
    rw [hhandler] at hcorrect
    rw [show declared .incoming type = none from hcorrect]
    rfl
  | some handler =>
    rw [hhandler] at hcorrect
    rw [hcorrect.1]
    rfl

end

/-- The frame in which a response is sent. -/
theorem respond_eq (header : RFSHeader) {m : Message} {n : ℕ} (hsized : m.definition.Sized m.value)
    (hfixed : fixedSize m.definition.fields = some n) (hle : n ≤ 4104) :
    ∃ length : UInt32, length.toNat = RFSHeader.size + n ∧
      respond header m = .ok [RFSHeader.toBytes ⟨length, m.definition.type, header.sequence⟩ ++
        m.definition.wire m.value] := by
  have hlen : (m.definition.wire m.value).length = n := wireStructure_length hsized hfixed
  have hlength : (UInt32.ofNat (RFSHeader.size + n)).toNat = RFSHeader.size + n :=
    UInt32.toNat_ofNat_of_lt' (by simp only [RFSHeader.size, UInt32.size]; omega)
  have hsize : RFSHeader.size ≤ (UInt32.ofNat (RFSHeader.size + n)).toNat := by omega
  refine ⟨.ofNat (RFSHeader.size + n), hlength, ?_⟩
  rw [respond, Message.marshal]
  simp only [m.definition.writeToStream_init]
  change sendMessage ⟨.ofNat (RFSHeader.size + (m.definition.wire m.value).length),
    m.definition.type,
    header.sequence⟩ (m.definition.wire m.value) = _
  rw [hlen, sendMessage, if_neg (not_lt.mpr hsize), RFSHeader.payloadLength_eq hsize, hlength,
    Nat.add_sub_cancel_left, ← hlen, List.take_length]

/-- A response that `writeToStream` has written is sent as one frame. -/
theorem respond_sends {type : UInt8} {m : Message} (h : Answers type m) {frame : Bytes × Leftover}
    (htype : (RFSHeader.ofBytes frame.1).type = type) :
    ∃ response, respond (RFSHeader.ofBytes frame.1) m = .ok [response] ∧
      Responds frame response := by
  obtain ⟨hgroup, hdefinition, hsized, hfits, n, hfixed, hle⟩ := h
  obtain ⟨length, hlength, hrespond⟩ := respond_eq (RFSHeader.ofBytes frame.1) hsized hfixed hle
  have hsub : m.definition.type = type := by
    have hfound := List.find?_some hdefinition
    simpa using (of_decide_eq_true hfound).2
  refine ⟨_, hrespond, ?_⟩
  refine ⟨?_, ?_, ?_, ?_⟩
  · rw [RFSHeader.ofBytes_toBytes_append, htype]
    exact hsub
  · rw [RFSHeader.ofBytes_toBytes_append]
  · rw [RFSHeader.ofBytes_toBytes_append, List.length_append, RFSHeader.toBytes_length, hlength]
    exact congrArg _ (wireStructure_length hsized hfixed).symm
  · intro reader hroom
    rw [htype, hdefinition, Option.any_some, ← RFSHeader.toBytes_length, List.drop_left]
    exact MessageDefinition.accepts_iff.mpr
      ⟨m.value, MessageDefinition.accepted_wire hsized (hfits reader hroom)⟩

theorem IsFrame.inside {data : Bytes} (h : IsFrame data) :
    ¬ (data.drop RFSHeader.size).length < (RFSHeader.ofBytes data).payloadLength := by
  rw [RFSHeader.payloadLength_eq h.1, List.length_drop]
  have hle := h.2
  omega

/-- What becomes of one frame. -/
theorem handleReassembledMessage_sends (localtime_r : ℤ → BrokenDownTime) {frame : Bytes × Leftover}
    (hframe : IsFrame frame.1) {result : Except Fault (List Bytes)}
    (h : (handleReassembledMessage localtime_r frame.2 frame.1).Returns result) :
    exhausts frame = true ∧ handled frame = false ∧ result = .error .memory ∨
      exhausts frame = false ∧ ∃ sent, result = .ok sent ∧
        List.Forall₂ Responds (if handled frame then [frame] else []) sent := by
  rw [handleReassembledMessage, handleMessage] at h
  cases hhandler : handlerOf localtime_r frame.2.statbuf (RFSHeader.ofBytes frame.1).type with
  | none =>
    rw [hhandler] at h
    obtain rfl := h
    have hnone := handlerOf_correct localtime_r frame.2.statbuf (RFSHeader.ofBytes frame.1).type
    rw [hhandler, Correct] at hnone
    refine .inr ⟨?_, [], if_neg hframe.inside, ?_⟩
    · simp [exhausts, hnone]
    · simp [handled, hnone]
  | some handler =>
    have hcorrect := handlerOf_correct localtime_r frame.2.statbuf (RFSHeader.ofBytes frame.1).type
    rw [hhandler] at hcorrect
    obtain ⟨hin, hanswers⟩ := hcorrect
    have hhandled : handled frame =
      handler.definition.accepts frame.2.message (payload frame.1) := by
      simp [handled, hin]
    have hexhausts : exhausts frame =
        (handler.definition.readFromStream frame.2.message
          (.init (payload frame.1) .Read)).isNone := by
      simp [exhausts, hin]
    simp only [hhandler, create_declared, hin, Option.map_some, if_neg hframe.inside] at h
    rw [hhandled, hexhausts, MessageDefinition.accepts, payload]
    cases hread : handler.definition.readFromStream frame.2.message
      (.init ((frame.1.drop RFSHeader.size).take
        (RFSHeader.ofBytes frame.1).payloadLength) .Read) with
    | none =>
      rw [hread] at h
      obtain rfl := h
      exact .inl ⟨rfl, rfl, rfl⟩
    | some returned =>
      obtain ⟨read, value, stream⟩ := returned
      obtain rfl : read = true := (MessageDefinition.readFromStream_returns hread).1
      refine .inr ⟨rfl, ?_⟩
      simp only [hread] at h
      by_cases hend : stream.atEnd = true
      · simp only [hend, and_self, if_true, Message.static_cast_self] at h
        obtain ⟨m, hm, rfl⟩ := Program.returns_bind.mp h
        obtain ⟨response, hsent, hresponds⟩ := respond_sends (hanswers value m hm) rfl
        refine ⟨[response], hsent, ?_⟩
        simpa [hend] using hresponds
      · simp only [hend] at h
        obtain rfl := h
        refine ⟨[], rfl, ?_⟩
        simp [hend]

/-- Frames sent in the order of the requests they answer, one for each request that is accepted and
no others, exactly if nothing is accepted behind a request whose reading ends the process. -/
theorem session_responds_iff (localtime_r : ℤ → BrokenDownTime) {frames : List (Bytes × Leftover)}
    (hframes : ∀ frame ∈ frames, IsFrame frame.1) {result : List Bytes × Option Fault}
    (h : (session localtime_r frames).Returns result) :
    (∀ statbuf type, (handlerOf localtime_r statbuf type).isSome =
      (declared .incoming type).isSome) ∧
      (List.Forall₂ Responds (frames.filter handled) result.1 ↔
        frames.Pairwise fun before after => ¬ (exhausts before = true ∧ handled after = true)) := by
  refine ⟨handlerOf_isSome localtime_r, ?_⟩
  induction frames generalizing result with
  | nil =>
    obtain rfl := h
    exact iff_of_true .nil .nil
  | cons frame frames ih =>
    obtain ⟨first, hfirst, hrest⟩ := Program.returns_bind.mp h
    have hframe := hframes frame List.mem_cons_self
    have hframes' : ∀ f ∈ frames, IsFrame f.1 := fun f hf => hframes f (List.mem_cons_of_mem _ hf)
    have hfilter : (frame :: frames).filter handled =
        (if handled frame then [frame] else []) ++ frames.filter handled := by
      rw [List.filter_cons]
      split <;> rfl
    rw [List.pairwise_cons, hfilter]
    obtain ⟨hends, hrefused, rfl⟩ | ⟨hgoes, sent, rfl, hsent⟩ :=
      handleReassembledMessage_sends localtime_r hframe hfirst
    · obtain rfl := hrest
      rw [if_neg (Bool.eq_false_iff.mp hrefused), List.nil_append, List.forall₂_nil_right_iff,
        List.filter_eq_nil_iff]
      constructor
      · intro hnone
        refine ⟨fun after hafter h => hnone after hafter h.2, ?_⟩
        exact List.pairwise_of_forall_mem_list fun _ _ after hafter h => hnone after hafter h.2
      · exact fun h after hafter hhandled => h.1 after hafter ⟨hends, hhandled⟩
    · obtain ⟨⟨others, fault⟩, hreturns, rfl⟩ := Program.returns_bind.mp hrest
      rw [and_iff_right fun _ _ h => Bool.eq_false_iff.mp hgoes h.1, ← ih hframes' hreturns]
      constructor
      · intro h
        have hrest := List.forall₂_drop_append _ _ _ h
        rwa [← hsent.length_eq, List.drop_left] at hrest
      · exact fun h => List.rel_append hsent h

/-- What a file system reports, call by call. -/
structure Reports where
  status : ℕ → ℤ
  data : ℕ → Bytes
  info : ℕ → Option Stat

def Reports.answer (reports : Reports) (n : ℕ) : (c : IFileSystem) → c.Ret
  | .readNVData .. | .readFile .. | .readDirectory .. => (reports.status n, reports.data n)
  | .getFileInfoByHandle .. => (reports.status n, reports.info n)
  | .writeNVData .. | .writeFile .. | .lseekFile .. | .closeFile .. | .renameFile ..
  | .deleteFile .. | .makeDirectory .. | .deleteDirectory .. | .openDirectory ..
  | .closeDirectory .. | .openFile .. | .ftruncateFile .. => reports.status n

theorem session_returns {localtime_r : ℤ → BrokenDownTime} {frames : List (Bytes × Leftover)}
    (reports : Reports)
    {result : List Bytes × Option Fault}
    (h : (session localtime_r frames).answered reports.answer 0 = result) :
    (session localtime_r frames).Returns result := by
  rw [← h]
  exact Program.answered_returns _ _ _

/-- Memory of all ones that is too small for a vector of 2^32 - 1 bytes. -/
def ones : Leftover := ⟨⟨fun _ => 255, fun size => size < 0xffffffff⟩, ⟨0, 0, 0, 0⟩⟩

/-- A request for four bytes of NV data, a frame of a type without a handler, the same request cut
behind its offset, and one that is too short. -/
def nvReads : List (Bytes × Leftover) :=
  [([14, 0, 0, 0, 1, 7, 0, 0, 0, 0, 4, 0, 0, 0], ones), ([6, 0, 0, 0, 20, 8], ones),
    ([10, 0, 0, 0, 1, 9, 0, 0, 0, 0], ones), ([11, 0, 0, 0, 1, 10, 0, 0, 0, 0, 4], ones)]

def fourBytes : Reports := ⟨fun _ => 0, fun _ => [1, 2, 3, 4], fun _ => none⟩

/-- Its bytes are sent, and for the cut request the size that the memory has held. -/
theorem nv_read_answered :
    let responses := [
      [15, 2, 0, 0, 1, 7, 1, 0, 0, 0, 0, 4, 0, 0, 0, 1, 2, 3, 4] ++ List.replicate 508 0,
      [15, 2, 0, 0, 1, 9, 1, 0, 0, 0, 0, 255, 255, 255, 255, 1, 2, 3, 4] ++ List.replicate 508 0]
    (session (fun _ => ⟨0, 0, 0, 0, 0, 0⟩) nvReads).Returns (responses, none) ∧
      List.Forall₂ Responds (nvReads.filter handled) responses := by
  intro responses
  have hanswered : ∀ frames : List (Bytes × Leftover), (∀ frame ∈ frames, IsFrame frame.1) →
      (session (fun _ => ⟨0, 0, 0, 0, 0, 0⟩) frames).answered fourBytes.answer 0 =
        (responses, none) →
      (frames.Pairwise fun before after => ¬ (exhausts before = true ∧ handled after = true)) →
      (session (fun _ => ⟨0, 0, 0, 0, 0, 0⟩) frames).Returns (responses, none) ∧
        List.Forall₂ Responds (frames.filter handled) responses := by
    intro frames hframes hanswered hends
    have hreturns := session_returns fourBytes hanswered
    exact ⟨hreturns, (session_responds_iff _ hframes hreturns).2.mpr hends⟩
  exact hanswered nvReads (by decide +kernel) (by decide +kernel) (by decide +kernel)

/-- A request to write 2^32 - 1 bytes, without any, before one for four bytes. -/
def hugeWrite : List (Bytes × Leftover) :=
  [([14, 0, 0, 0, 2, 7, 0, 0, 0, 0, 255, 255, 255, 255], ones),
    ([14, 0, 0, 0, 1, 8, 0, 0, 0, 0, 4, 0, 0, 0], ones)]

/-- It ends the process, so that the other is not answered. -/
theorem huge_write_unanswered : ¬ ∀ localtime_r (frames : List (Bytes × Leftover)) result,
    (∀ frame ∈ frames, IsFrame frame.1) → (session localtime_r frames).Returns result →
      List.Forall₂ Responds (frames.filter handled) result.1 := by
  intro h
  have hlost : ∀ frames : List (Bytes × Leftover), (∀ frame ∈ frames, IsFrame frame.1) →
      (session (fun _ => ⟨0, 0, 0, 0, 0, 0⟩) frames).answered fourBytes.answer 0 =
        ([], some .memory) →
      (frames.filter handled).length = 0 := by
    intro frames hframes hanswered
    exact (h _ frames _ hframes (session_returns fourBytes hanswered)).length_eq
  exact absurd (hlost hugeWrite (by decide +kernel) (by decide +kernel)) (by decide +kernel)

end FreeRil.RFSSocketHandler
