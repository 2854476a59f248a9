import FreeRil.AndroidFileSystem.Files
import FreeRil.AndroidFileSystem.Session
import FreeRil.RFSSocketHandler.Responses

/-! Requests for NV data read and write an array of bytes. -/
namespace FreeRil.RFSSocketHandler
open AndroidFileSystem Disk Messages

/-- What the modem takes the NV data for. -/
abbrev NVArray := Fin NVDATA_SIZE → UInt8

namespace NVArray
variable (a : NVArray)

/-- The bytes from `offset` on. -/
def read (offset size : ℕ) (h : offset + size ≤ NVDATA_SIZE) : Bytes :=
  List.ofFn fun i : Fin size => a ⟨offset + i, by omega⟩

/-- The array with other bytes from `offset` on. -/
def write (offset : ℕ) (data : Bytes) : NVArray := fun i =>
  if h : offset ≤ i ∧ i < offset + data.length then data[i.val - offset] else a i

end NVArray

/-- The requests for NV data, with the fields of their messages. -/
inductive NVRequest
  | nvRead (offset size : UInt32)
  | nvWrite (offset size : UInt32) (data : Bytes)
  | nvWriteAll (offset size : UInt32) (data : Bytes)

namespace NVRequest

def handle : NVRequest → Handling
  | nvRead offset size => handleNvRead (offset, size, ())
  | nvWrite offset size data => handleNvWrite (offset, size, data, ())
  | nvWriteAll offset size data => handleNvWriteAll (offset, size, data, ())

/-- Requests handled one after the other, with the responses to them. -/
def handleAll : List NVRequest → Program IFileSystem.Ret (List Message)
  | [] => return []
  | request :: requests => do
    let response ← request.handle
    let responses ← handleAll requests
    return response :: responses

end NVRequest

/-- The status of an access to these bytes. -/
def status (offset : UInt32) (size : ℕ) : UInt8 := if offset.toNat + size ≤ NVDATA_SIZE then 1 else 0

namespace NVArray
variable (a : NVArray)

/-- A write of bytes that are not all there changes nothing. -/
def overwritten (offset : UInt32) (data : Bytes) : NVArray :=
  if offset.toNat + data.length ≤ NVDATA_SIZE then a.write offset.toNat data else a

def after : NVRequest → NVArray
  | .nvRead _ _ => a
  | .nvWrite offset _ data => a.overwritten offset data
  | .nvWriteAll offset _ data => a.overwritten offset data

/-- What the response to a request says. -/
def Answers (response : Message) : NVRequest → Prop
  | .nvRead offset size => ∃ data,
      response = ⟨CMD_RFS, RfsNvReadReply, status offset (min size.toNat 512), offset, size, data, ()⟩ ∧
      data.length = 512 ∧ ∀ h : offset.toNat + min size.toNat 512 ≤ NVDATA_SIZE,
        data.take (min size.toNat 512) = a.read offset.toNat (min size.toNat 512) h
  | .nvWrite offset size data =>
      response = ⟨CMD_RFS, RfsNvWriteReply, status offset data.length, offset, size, ()⟩
  | .nvWriteAll offset size data =>
      response = ⟨CMD_RFS, RfsNvWriteAllReply, status offset data.length, offset, size, ()⟩

/-- The array at work. -/
inductive Run : NVArray → List NVRequest → List Message → NVArray → Prop
  | nil (a : NVArray) : Run a [] [] a
  | cons {a a' : NVArray} {request : NVRequest} {response : Message} {requests : List NVRequest}
      {responses : List Message} (answers : a.Answers response request)
      (rest : Run (a.after request) requests responses a') :
      Run a (request :: requests) (response :: responses) a'

theorem read_eq (offset size : ℕ) (h : offset + size ≤ NVDATA_SIZE) :
    ((List.ofFn a).drop offset).take size = a.read offset size h := by
  apply List.ext_getElem
  · simp only [read, List.length_take, List.length_drop, List.length_ofFn]
    omega
  · intro i hi hi'
    simp [read]

theorem overwrite_getElem {content data : Bytes} {offset i : ℕ}
    (h : offset + data.length ≤ content.length) (hi : i < (overwrite content offset data).length)
    (hi' : i < content.length) :
    (overwrite content offset data)[i] =
      if hin : offset ≤ i ∧ i < offset + data.length then data[i - offset] else content[i] := by
  have hzero : offset - content.length = 0 := by omega
  have hmin : min offset content.length = offset := by omega
  simp only [overwrite, hzero, List.replicate_zero, List.append_nil, List.getElem_append,
    List.length_append, List.length_take, List.getElem_take, List.getElem_drop, hmin]
  split_ifs with h₁ h₂ h₃ h₃ <;> first | rfl | omega | skip
  congr 1
  omega

/-- Writing into the file writes into the array. -/
theorem write_eq {offset : ℕ} {data : Bytes} (h : offset + data.length ≤ NVDATA_SIZE) :
    overwrite (List.ofFn a) offset data = List.ofFn (a.write offset data) := by
  have hfits : offset + data.length ≤ (List.ofFn a).length := by rwa [List.length_ofFn]
  apply List.ext_getElem
  · rw [overwrite_length hfits, List.length_ofFn, List.length_ofFn]
  · intro i hi hi'
    rw [overwrite_getElem hfits hi (overwrite_length hfits ▸ hi)]
    simp [write]

end NVArray

theorem exists_array {content : Bytes} (h : content.length = NVDATA_SIZE) :
    ∃ a : NVArray, content = List.ofFn a :=
  ⟨fun i => content[i], by
    apply List.ext_getElem
    · rw [List.length_ofFn, h]
    · intro i hi hi'
      rw [List.getElem_ofFn]
      rfl⟩

/-- An offset of the modem as an `off_t`. -/
theorem inRange_toInt32 {offset : UInt32} {size : ℕ} :
    InRange offset.toInt32 size ↔ offset.toNat + size ≤ NVDATA_SIZE := by
  have hlt : offset.toNat < 2 ^ 32 := offset.toNat_lt
  rw [InRange, ← Int32.toInt_toBitVec, UInt32.toBitVec_toInt32, BitVec.toInt_eq_toNat_cond,
    UInt32.toNat_toBitVec]
  simp only [NVDATA_SIZE]
  split_ifs <;> omega

theorem toInt32_toNat {offset : UInt32} {size : ℕ} (h : offset.toNat + size ≤ NVDATA_SIZE) :
    offset.toInt32.toInt.toNat = offset.toNat := by
  have heq := toUInt32_toNat (inRange_toInt32.mpr h).1
  rw [UInt32.toUInt32_toInt32] at heq
  omega

section
variable {md5 : Bytes → Vector UInt8 16} {d : Disk} {fs : AndroidFileSystem} {efs : Bytes}
  {a : NVArray}

/-- The status that a handler makes of a value returned. -/
theorem status_eq {offset : UInt32} {size : ℕ} {ret : ℤ}
    (h : ret = 0 ↔ offset.toNat + size ≤ NVDATA_SIZE) :
    (if ret = 0 then 1 else 0 : UInt8) = status offset size := by
  rw [status]
  split_ifs with hret hrange hrange
  · rfl
  · exact absurd (h.mp hret) hrange
  · exact absurd (h.mpr hrange) hret
  · rfl

theorem answers_nvRead {offset size : UInt32} {ret : ℤ} {data : Bytes}
    (hret : ret = 0 ↔ offset.toNat + min size.toNat 512 ≤ NVDATA_SIZE)
    (hdata : ∀ h, data = a.read offset.toNat (min size.toNat 512) h) :
    a.Answers ⟨CMD_RFS, RfsNvReadReply, (if ret = 0 then 1 else 0 : UInt8), offset, size,
      resize data 512, ()⟩ (.nvRead offset size) := by
  refine ⟨resize data 512, ?_, resize_length data 512, fun hrange => ?_⟩
  · rw [status_eq hret]
  · have hlen : data.length = min size.toNat 512 := by
      rw [hdata hrange, NVArray.read, List.length_ofFn]
    have hshort : data.take 512 = data := List.take_of_length_le (by omega)
    rw [resize, hshort, List.take_left' hlen]
    exact hdata hrange

/-- A read is answered from the array. -/
theorem wp_handleNvRead (h : Serves d fs efs (List.ofFn a)) (offset size : UInt32) :
    Disk.wp False (fun _ => True)
      (fun r d' => Serves d' r.1 efs (List.ofFn a) ∧ a.Answers r.2 (.nvRead offset size))
      ((handleNvRead (offset, size, ())).interpret (answer md5) fs) d := by
  have hlen : (resize [] (min 512 size.toNat)).length = min size.toNat 512 := by
    rw [resize_length, min_comm]
  have hmax : (resize [] (min 512 size.toNat)).length ≤ TRANSFER_MAX := by
    rw [hlen, TRANSFER_MAX]
    omega
  unfold handleNvRead
  rw [Program.interpret_bind, call, Program.interpret_request, answer]
  refine wp_seq (wp_seq (h.wp_readNVData_exact hmax (fun hrange => ?_) fun hrange errno herrno => ?_))
  all_goals
    rw [inRange_toInt32, hlen] at hrange
    refine wp_return trivial (wp_return trivial ⟨h, answers_nvRead ?_ ?_⟩)
  · exact iff_of_true rfl hrange
  · intro hle
    rw [hlen, toInt32_toNat hle]
    exact a.read_eq _ _ hle
  · exact iff_of_false (by omega) hrange
  · intro hle
    exact absurd hle hrange

/-- A write is done in the array as well. -/
theorem wp_handleWrite (h : Serves d fs efs (List.ofFn a)) (offset : UInt32) (data : Bytes)
    {reply : ℤ → Message} :
    Disk.wp False (fun _ => True)
      (fun r d' => Serves d' r.1 efs (List.ofFn (a.overwritten offset data)) ∧
        ∃ ret : ℤ, (ret = 0 ↔ offset.toNat + data.length ≤ NVDATA_SIZE) ∧ r.2 = reply ret)
      ((call (.writeNVData offset.toInt32 data) >>= fun ret => pure (reply ret)).interpret
        (answer md5) fs) d := by
  rw [Program.interpret_bind, call, Program.interpret_request, answer]
  refine wp_seq (h.wp_writeNVData (fun hrange d₁ hserves₁ _ => ?_) fun hrange errno herrno => ?_)
  · rw [inRange_toInt32] at hrange
    refine wp_return trivial ⟨?_, _, iff_of_true rfl hrange, rfl⟩
    rw [toInt32_toNat hrange, a.write_eq hrange] at hserves₁
    rwa [NVArray.overwritten, if_pos hrange]
  · rw [inRange_toInt32] at hrange
    refine wp_return trivial ⟨?_, _, iff_of_false (by omega) hrange, rfl⟩
    rwa [NVArray.overwritten, if_neg hrange]

/-- Each request is answered from the array, and does to it what it should. -/
theorem wp_handle (h : Serves d fs efs (List.ofFn a)) (request : NVRequest) :
    Disk.wp False (fun _ => True)
      (fun r d' => Serves d' r.1 efs (List.ofFn (a.after request)) ∧ a.Answers r.2 request)
      (request.handle.interpret (answer md5) fs) d := by
  cases request with
  | nvRead offset size => exact wp_handleNvRead h offset size
  | nvWrite offset size data =>
    refine Program.wp_mono (wp_handleWrite h offset data) id (fun _ => id) fun r d' hend => ?_
    obtain ⟨hserves, ret, hret, hreply⟩ := hend
    refine ⟨hserves, hreply.trans ?_⟩
    rw [status_eq hret]
  | nvWriteAll offset size data =>
    refine Program.wp_mono (wp_handleWrite h offset data) id (fun _ => id) fun r d' hend => ?_
    obtain ⟨hserves, ret, hret, hreply⟩ := hend
    refine ⟨hserves, hreply.trans ?_⟩
    rw [status_eq hret]

theorem wp_handleAll (h : Serves d fs efs (List.ofFn a)) (requests : List NVRequest) :
    Disk.wp False (fun _ => True)
      (fun r d' => ∃ a', a.Run requests r.2 a' ∧ Serves d' r.1 efs (List.ofFn a'))
      ((NVRequest.handleAll requests).interpret (answer md5) fs) d := by
  induction requests generalizing a d fs with
  | nil => exact wp_return trivial ⟨a, .nil a, h⟩
  | cons request requests ih =>
    rw [NVRequest.handleAll, Program.interpret_bind]
    refine wp_seq (Program.wp_mono (wp_handle h request) id (fun _ => id) fun r d₁ hend => ?_)
    obtain ⟨hserves₁, hanswer⟩ := hend
    rw [Program.interpret_bind]
    refine wp_seq (Program.wp_mono (ih hserves₁) id (fun _ => id) fun rs d₂ hlast => ?_)
    obtain ⟨a', hrun, hserves₂⟩ := hlast
    exact wp_return trivial ⟨a', .cons hanswer hrun, hserves₂⟩

end

/-- From any start that succeeds, requests for NV data find an array of 2 MiB, get their
responses, and leave the array that their writes have made of it. -/
theorem nv_requests_refine (md5 : Bytes → Vector UInt8 16) (firmware efs : Bytes)
    (files : Bytes → Option Bytes) (d : Disk) (fs : AndroidFileSystem)
    (hstart : (construct md5 firmware efs).exec kernel (boot files) = some (d, fs))
    (requests : List NVRequest) :
    ∃ a : NVArray, d.openContent fs.m_nvdata = some (List.ofFn a) ∧
      ∃ d' fs' responses a', ((NVRequest.handleAll requests).interpret (answer md5) fs).exec kernel d =
        some (d', fs', responses) ∧ a.Run requests responses a' ∧
        d'.openContent fs'.m_nvdata = some (List.ofFn a') := by
  have hconstruct : Disk.wp True (fun _ => True)
      (fun fs d' => ∃ content, Serves d' fs efs content ∧
        (Digested md5 d' fs efs content ↔ ¬ DigestMissed md5 files efs))
      (construct md5 firmware efs) (boot files) := wp_construct_serves fun _ => trivial
  obtain ⟨content, hserves, -⟩ := Program.wp_exec hconstruct hstart
  obtain ⟨a, ha⟩ := exists_array hserves.length_eq
  rw [ha] at hserves
  obtain ⟨flags, -, -, hopen⟩ := hserves.opened
  have hwp : Disk.wp False (fun _ => True)
      (fun r d' => ∃ a', a.Run requests r.2 a' ∧ Serves d' r.1 efs (List.ofFn a'))
      ((NVRequest.handleAll requests).interpret (answer md5) fs) d := wp_handleAll hserves requests
  obtain ⟨d', ⟨fs', responses⟩, hexec, a', hrun, hserves'⟩ := Program.wp_total hwp
  obtain ⟨flags', -, -, hopen'⟩ := hserves'.opened
  exact ⟨a, hopen.openContent_eq, d', fs', responses, a', hexec, hrun, hopen'.openContent_eq⟩

/-- A write to the last bytes, one past the end, and a read at an offset that is negative as an
`off_t`, after a start from the secondary backup. -/
theorem nv_requests_at_the_bounds : ∃ d fs,
    (construct (fun _ => Vector.replicate 16 0) (str "/fw") (str "/efs")).exec kernel
      (boot (coreAlone (fun _ => Vector.replicate 16 0) (str "/efs") none)) = some (d, fs) ∧
    ∃ a : NVArray, d.openContent fs.m_nvdata = some (List.ofFn a) ∧
      ∃ d' fs' responses a', ((NVRequest.handleAll
          [.nvWrite 2097150 2 [1, 2], .nvWriteAll 2097151 2 [1, 2], .nvRead 4294967295 600]).interpret
            (answer fun _ => Vector.replicate 16 0) fs).exec kernel d = some (d', fs', responses) ∧
        a.Run [.nvWrite 2097150 2 [1, 2], .nvWriteAll 2097151 2 [1, 2], .nvRead 4294967295 600]
          responses a' ∧ d'.openContent fs'.m_nvdata = some (List.ofFn a') := by
  have hrecovered : recovered (fun _ => Vector.replicate 16 0)
      (coreAlone (fun _ => Vector.replicate 16 0) (str "/efs") none) (str "/efs") ≠ none := by
    simp [recovered, coreAlone_accepted]
  have hwp : Disk.wp False (fun _ => True) (fun _ _ => True)
      (construct (fun _ => Vector.replicate 16 0) (str "/fw") (str "/efs"))
      (boot (coreAlone (fun _ => Vector.replicate 16 0) (str "/efs") none)) :=
    Program.wp_mono (wp_construct_serves fun hnone => hrecovered hnone) id (fun _ => id)
      fun _ _ _ => trivial
  obtain ⟨d, fs, hstart, -⟩ := Program.wp_total hwp
  exact ⟨d, fs, hstart, nv_requests_refine _ _ _ _ d fs hstart _⟩

end FreeRil.RFSSocketHandler
