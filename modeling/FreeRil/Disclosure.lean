import FreeRil.RFSSocketHandler.Descriptors
import FreeRil.RFSSocketHandler.Disclosure
import FreeRil.RequestHandler.Disclosure

/-! What the modem is sent, and what memory has held before. -/
namespace FreeRil
open AndroidFileSystem Messages Program RequestHandler RFSSocketHandler RIL

/-- What is sent is known from the requests and what the file system reports, but for the requests
that are not settled, and for the commands about calls. -/
theorem sent_known_iff (localtime_r : ℤ → BrokenDownTime) (reports : Reports) (fits : ℕ → Bool)
    (data : Bytes)
    (L : ParcelLibrary) (request : Request) (handler : RequestHandler) :
    (FramesKnown localtime_r reports fits data ↔
      ((RFSHeader.ofBytes data).payloadLength ≤ (data.drop RFSHeader.size).length →
        ∀ asked, declared .incoming (RFSHeader.ofBytes data).type = some asked → ∀ contents,
          asked.accepts ⟨contents, fits⟩ (payload data) = true →
            Settled fits reports (payload data) asked)) ∧
      (Oblivious Call.Secret Call.written (handle L request handler) ↔
        ¬ (admitted handler.m_radioState request.code ∧ Commands request handler)) :=
  ⟨framesKnown_iff, handle_oblivious_iff L request handler⟩

/-- `GET_FILE_INFO_BY_HANDLE` of descriptor 7. -/
def infoByHandle : Bytes := [10, 0, 0, 0, 19, 1, 7, 0, 0, 0]

/-- `NV_READ` that ends behind its offset. -/
def cutRead : Bytes := [10, 0, 0, 0, 1, 9, 0, 0, 0, 0]

/-- Memory of one byte, with room for every vector. -/
def stale (b : UInt8) : Leftover := ⟨⟨fun _ => b, fun _ => true⟩, ⟨0, b.toNat, 0, 0⟩⟩

/-- No descriptor is open where the file system has just been constructed, so that nothing is
reported of it. The frame tells the memory, as does the one for a request that has been cut and a
conference of calls. -/
theorem unopened_file_told :
    constructed.getFileInfoByHandle 7 = (pure (-EBADF, none) : Sys (ℤ × Option Stat)) ∧
    ¬ FramesKnown (fun _ => ⟨0, 0, 0, 0, 0, 0⟩) ⟨fun _ => -EBADF, fun _ => [], fun _ => none⟩
    (fun _ => true)
      infoByHandle ∧
    ¬ FramesKnown (fun _ => ⟨0, 0, 0, 0, 0, 0⟩) fourBytes (fun _ => true) cutRead ∧
    ¬ Oblivious Call.Secret Call.written (handle .android ⟨RIL_REQUEST_CONFERENCE, .null 0, 0⟩
      ⟨.SIM_READY, -1, 0, [], MessageCache.empty⟩) := by
  have hunsafe : ¬ constructed.isSafeDescriptor 7 := by simp [isSafeDescriptor, constructed]
  have htold : ∀ (reports : Reports) (data : Bytes),
      framesSent (fun _ => ⟨0, 0, 0, 0, 0, 0⟩) reports (stale 0) data ≠
        framesSent (fun _ => ⟨0, 0, 0, 0, 0, 0⟩) reports (stale 1) data →
      ¬ FramesKnown (fun _ => ⟨0, 0, 0, 0, 0, 0⟩) reports (fun _ => true) data :=
    fun reports data hne hknown => hne (hknown _ _ rfl rfl)
  refine ⟨if_pos hunsafe, htold _ _ (by decide +kernel), htold _ _ (by decide +kernel),
    fun hoblivious => ?_⟩
  exact (handle_oblivious_iff _ _ _).mp hoblivious ⟨by decide, .inl (.inr (.inl rfl))⟩

end FreeRil
