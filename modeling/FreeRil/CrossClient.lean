import FreeRil.Library.Monitor
import FreeRil.OEMRequestBuilder

/-! The replies of the handler on their way to a native client: through the Java side of the
vendor's service, and through the parcels of its interface. -/
namespace FreeRil
open Messages RIL Program

/-- How the buffer of a `ByteArrayOutputStream` grows, as long as there is memory for it. -/
structure Growth where
  capacity : (size : ℕ) → Option ℕ
  enough : ∀ {size length}, capacity size = some length → size ≤ length ∧ length < 2 ^ 31

structure OemRequestReply where
  buf : Bytes
  count : ℕ
  count_le : count ≤ buf.length
  length_lt : buf.length < 2 ^ 31

namespace OemRequestReply

/-- An empty one, with a buffer of 32 bytes. -/
def new : OemRequestReply where
  buf := List.replicate 32 0
  count := 0
  count_le := Nat.zero_le _
  length_lt := by simp

def toByteArray (reply : OemRequestReply) : Bytes := reply.buf.take reply.count

/-- The capacity for `size` more bytes. -/
def expand (G : Growth) (reply : OemRequestReply) (size : ℕ) : Option ℕ :=
  if reply.count + size ≤ reply.buf.length then some reply.buf.length
  else G.capacity (reply.count + size)

theorem expand_enough {G : Growth} {reply : OemRequestReply} {size length : ℕ}
    (h : reply.expand G size = some length) :
    reply.count + size ≤ length ∧ reply.buf.length ≤ length ∧ length < 2 ^ 31 := by
  unfold expand at h
  split at h
  next hfits =>
    obtain rfl := Option.some.inj h
    exact ⟨hfits, le_rfl, reply.length_lt⟩
  next hfull =>
    obtain ⟨henough, hlt⟩ := G.enough h
    exact ⟨henough, by omega, hlt⟩

/-- The buffer with `data` after the first `count` bytes. -/
def overwritten (reply : OemRequestReply) (data : Bytes) : Bytes :=
  reply.toByteArray ++ data ++ reply.buf.drop (reply.count + data.length)

theorem overwritten_length (reply : OemRequestReply) (data : Bytes) :
    (reply.overwritten data).length = max reply.buf.length (reply.count + data.length) := by
  have hle := reply.count_le
  simp only [overwritten, toByteArray, List.length_append, List.length_take, List.length_drop]
  omega

/-- It throws an error where there is no memory. -/
def write (G : Growth) (reply : OemRequestReply) (data : Bytes) : Option OemRequestReply :=
  match h : reply.expand G data.length with
  | none => none
  | some length => some {
      buf := padded length 0 (reply.overwritten data)
      count := reply.count + data.length
      count_le := by
        have henough := expand_enough h
        simp only [padded, List.length_append, List.length_take, List.length_replicate]
        omega
      length_lt := by
        have henough := expand_enough h
        have hlength := reply.overwritten_length data
        simp only [padded, List.length_append, List.length_take, List.length_replicate]
        omega }

def writeToParcel (reply : OemRequestReply) : List ParcelItem :=
  [.int (.ofNat reply.count), .byteArray (some reply.buf)]

section
variable {L : ParcelLibrary} {hL : L.ReadsBack} (R : ParcelLibrary.ByteArrays hL)

/-- It throws an exception for an array of another length than the count, or a negative count. -/
def readFromParcel (p : L.Parcel) : Option OemRequestReply :=
  let (count, p) := L.readInt32 p
  if count.toInt < 0 then none
  else match R.readByteArray p count.toInt.toNat with
    | none => none
    | some buf => some {
        buf := buf.val
        count := count.toInt.toNat
        count_le := buf.property.ge
        length_lt := by
          have hlt := count.toInt_lt
          rw [buf.property]
          omega }

end
end OemRequestReply

namespace RilInterface

/-- The reply for what the request has been completed with, unless that is an error. -/
def synchronousOemCall (G : Growth) (result : Option Bytes) (reply : OemRequestReply) :
    Option OemRequestReply :=
  match result with
  | none => none
  | some data => reply.write G data

/-- `parseGetMute`. -/
def parseGetMute (L : ParcelLibrary) (reply : OemRequestReply) : Bool :=
  (L.readInt32 (L.setData reply.toByteArray)).1 ≠ 0

def getMute (L : ParcelLibrary) (G : Growth) (result : Option Bytes) : Option Bool :=
  (synchronousOemCall G result .new).map (parseGetMute L)

end RilInterface

/-! The replies that the stub of the interface writes. -/
namespace ICrossClientService

def getMuteReply (result : Option Bool) : List ParcelItem :=
  [.int 0, .int (if result.isSome then 1 else 0), .int 1,
    .int (if result = some true then 1 else 0)]

def samsungOemRequestReply (result : Bool) (reply : OemRequestReply) : List ParcelItem :=
  .int 0 :: .int (if result then 1 else 0) :: .int 1 :: reply.writeToParcel

end ICrossClientService

/-! The native side, from the parcel with the reply. -/
namespace BpCrossClientService

section
variable {L : ParcelLibrary} (reply : L.Parcel)

/-- The value that is returned, and `muted`. -/
def getMute : Bool × Bool :=
  let (exception, reply) := L.readInt32 reply
  if exception ≠ 0 then (false, false)
  else
    let (status, reply) := L.readInt32 reply
    let (length, reply) := L.readInt32 reply
    if length ≠ 1 then (false, false)
    else (status ≠ 0, (L.readInt32 reply).1 ≠ 0)

/-- `reply_size` and `reply_data`; the memory from `malloc` stays as it is where nothing is read. -/
def samsungOemRequest {hL : L.ReadsBack} (R : ParcelLibrary.ByteArrays hL) (malloc : ℕ → Bytes) :
    Option (ℕ × Bytes) :=
  let (exception, reply) := L.readInt32 reply
  if exception ≠ 0 then none
  else
    let (result, reply) := L.readInt32 reply
    if result = 0 then none
    else
      let (dataPresent, reply) := L.readInt32 reply
      if dataPresent ≠ 0 then
        let (size, reply) := L.readInt32 reply
        let size := size.toUInt32.toNat
        some (size, (R.read reply size).getD (malloc size))
      else some (0, [])

end
end BpCrossClientService

/-- The byte that is handed to the callback, if it is called. -/
def GetMute {L : ParcelLibrary} (reply : L.Parcel) : Option UInt8 :=
  let (ret, _muted) := BpCrossClientService.getMute reply
  if ¬ ret then none else some (if ret then 1 else 0)

section
variable {L : ParcelLibrary} {hL : L.ReadsBack} (R : ParcelLibrary.ByteArrays hL)

theorem OemRequestReply.fits (reply : OemRequestReply) : ∀ item ∈ reply.writeToParcel, item.Fits :=
  List.forall_mem_cons.mpr ⟨trivial, List.forall_mem_singleton.mpr reply.length_lt⟩

theorem OemRequestReply.count_lt (reply : OemRequestReply) : reply.count < 2 ^ 31 :=
  reply.count_le.trans_lt reply.length_lt

/-- The first `count` bytes are read back by the Java side. -/
def OemRequestReply.Survives (reply : OemRequestReply) : Prop :=
  ∃ reply', readFromParcel R (L.setData (L.marshall reply.writeToParcel)) = some reply' ∧
    reply'.toByteArray = reply.toByteArray

theorem OemRequestReply.survives_iff (reply : OemRequestReply) :
    reply.Survives R ↔ reply.buf.length = reply.count := by
  have hholds := hL.setData_marshall _ reply.fits
  have hcount : (L.readInt32 (L.setData (L.marshall reply.writeToParcel))).1.toInt =
    reply.count := by
    rw [hL.readInt32_fst hholds]
    exact Int32.toInt_ofNat_of_lt reply.count_lt
  have hread := R.readByteArray_eq
    (L.readInt32 (L.setData (L.marshall reply.writeToParcel))).1.toInt.toNat
      (hL.readInt32_snd hholds)
  unfold Survives readFromParcel
  dsimp only
  rw [if_neg (by rw [hcount]; omega)]
  split
  next hnone =>
    -- The array is of another length, and an exception is thrown.
    rw [hnone, Option.map_none, hcount, Int.toNat_natCast] at hread
    constructor
    · rintro ⟨reply', ⟨⟩, -⟩
    · intro hlength
      rw [if_pos hlength] at hread
      contradiction
  next buf hsome =>
    rw [hsome, Option.map_some] at hread
    split at hread
    next hlength =>
      rw [hcount, Int.toNat_natCast] at hlength
      refine iff_of_true ⟨_, rfl, ?_⟩ hlength
      unfold toByteArray
      dsimp only
      rw [Option.some.inj hread, hcount, Int.toNat_natCast]
    next => contradiction

/-- The bytes repeat those of the length of the buffer. -/
def OemRequestReply.RepeatsLength (reply : OemRequestReply) : Prop :=
  ∀ i < reply.count, reply.buf[i]? = (LittleEndian.toBytes 4 reply.buf.length)[i % 4]?

/-- The native side reports exactly the first `count` bytes. -/
def OemRequestReply.Reported (malloc : ℕ → Bytes) (reply : OemRequestReply) : Prop :=
  BpCrossClientService.samsungOemRequest
    (L.setData (L.marshall (ICrossClientService.samsungOemRequestReply true reply))) R malloc =
      some (reply.count, reply.toByteArray)

/-- The length of the array is read for the first of its bytes. -/
theorem samsungOemRequest_eq (malloc : ℕ → Bytes) (reply : OemRequestReply) :
    BpCrossClientService.samsungOemRequest
      (L.setData (L.marshall (ICrossClientService.samsungOemRequestReply true reply))) R malloc =
        some (reply.count, (LittleEndian.toBytes 4 reply.buf.length ++ reply.buf).take
          reply.count) := by
  have hholds := hL.setData_marshall (ICrossClientService.samsungOemRequestReply true reply)
    (List.forall_mem_cons.mpr ⟨trivial, List.forall_mem_cons.mpr ⟨trivial,
      List.forall_mem_cons.mpr ⟨trivial, reply.fits⟩⟩⟩)
  have hresult := hL.readInt32_snd hholds
  have hpresent := hL.readInt32_snd hresult
  have hcount := hL.readInt32_snd hpresent
  have harray := hL.readInt32_snd hcount
  have hsize : (Int32.ofNat reply.count).toUInt32.toNat = reply.count := by
    change (UInt32.ofNat reply.count).toNat = reply.count
    exact UInt32.toNat_ofNat_of_lt' (reply.count_lt.trans (by decide))
  obtain ⟨padding, hmarshall⟩ := R.marshall_byteArray reply.buf []
  have hle := reply.count_le
  have hroom : reply.count + 3 ≤ (L.marshall [.byteArray (some reply.buf)]).length := by
    rw [hmarshall]
    simp only [List.length_append, LittleEndian.toBytes_length]
    omega
  have hread := R.read_eq harray hroom
  unfold BpCrossClientService.samsungOemRequest
  dsimp only
  rw [hL.readInt32_fst hholds, hL.readInt32_fst hresult, hL.readInt32_fst hpresent,
    hL.readInt32_fst hcount, if_neg (by decide), if_neg (by decide), if_pos (by decide), hsize,
    hread, hmarshall, Option.getD_some, ← List.append_assoc, List.take_append_of_le_length]
  simp only [List.length_append, LittleEndian.toBytes_length]
  omega

/-- A sequence starts with what is shifted in before it exactly when it repeats that. -/
theorem take_append_eq_take_iff {α : Type} {w s : List α} {n : ℕ} (hw : 0 < w.length) :
    (w ++ s).take n = s.take n ↔ ∀ i < n, s[i]? = w[i % w.length]? := by
  have hpointwise : (w ++ s).take n = s.take n ↔ ∀ i < n, (w ++ s)[i]? = s[i]? := by
    constructor
    · intro h i hi
      have hi' := congrArg (·[i]?) h
      simpa [List.getElem?_take, hi] using hi'
    · intro h
      apply List.ext_getElem?
      intro i
      by_cases hi : i < n
      · simp [hi, h i hi]
      · simp [hi]
  have hmod : ∀ i, w.length ≤ i → i % w.length = (i - w.length) % w.length := fun i hi =>
    Nat.mod_eq_sub_mod hi
  rw [hpointwise]
  constructor
  · intro h i
    induction i using Nat.strong_induction_on with
    | _ i ih =>
      intro hi
      rw [← h i hi]
      by_cases hlt : i < w.length
      · rw [List.getElem?_append_left hlt, Nat.mod_eq_of_lt hlt]
      · rw [List.getElem?_append_right (by omega), hmod i (by omega)]
        exact ih (i - w.length) (by omega) (by omega)
  · intro h i hi
    rw [h i hi]
    by_cases hlt : i < w.length
    · rw [List.getElem?_append_left hlt, Nat.mod_eq_of_lt hlt]
    · rw [List.getElem?_append_right (by omega), hmod i (by omega)]
      exact h (i - w.length) (by omega)

theorem OemRequestReply.reported_iff (malloc : ℕ → Bytes) (reply : OemRequestReply) :
    reply.Reported R malloc ↔ reply.RepeatsLength := by
  have hword : (LittleEndian.toBytes 4 reply.buf.length).length = 4 :=
    LittleEndian.toBytes_length 4 _
  have htake := take_append_eq_take_iff (s := reply.buf) (n := reply.count)
    (w := LittleEndian.toBytes 4 reply.buf.length) (by omega)
  rw [hword] at htake
  unfold Reported RepeatsLength
  rw [samsungOemRequest_eq, ← htake, Option.some.injEq, Prod.mk.injEq, eq_self, true_and]
  rfl

end

section
variable (L : ParcelLibrary) (G : Growth)

/-- What the native side hands to its callback for the response to a request. -/
def mutedByte (response : Bytes) : Option UInt8 :=
  GetMute (L.setData (L.marshall (ICrossClientService.getMuteReply
    (RilInterface.getMute L G (some response)))))

/-- The modem answers whether the microphone is muted, and the byte of the callback agrees with
it. -/
def MuteReported (mute : UInt8) (handler handler' : RequestHandler) : Prop :=
  ∃ response byte, Trace (RequestHandler.perform L .getMute handler)
      [⟨.execute ⟨CMD_SND, SndGetMicMute, ()⟩ handler,
        (handler', ⟨CMD_SND, SndGetMicMuteReply, mute, ()⟩)⟩]
      (.done (some (.raw response), handler')) ∧
    mutedByte L G response = some byte ∧ (byte = 1 ↔ mute.toNat ≠ 0)

variable {L G}

/-- The callback is only ever told that the microphone is muted. -/
theorem GetMute_eq {reply : L.Parcel} {byte : UInt8} (h : GetMute reply = some byte) :
    byte = 1 := by
  unfold GetMute at h
  dsimp only at h
  cases hret : (BpCrossClientService.getMute reply).1 with
  | false => simp [hret] at h
  | true => simpa [hret, eq_comm] using h

/-- The native side reads whether the microphone is muted. -/
theorem getMute_getMuteReply (hL : L.ReadsBack) (muted : Bool) :
    BpCrossClientService.getMute (L.setData (L.marshall
      (ICrossClientService.getMuteReply (some muted)))) = (true, muted) := by
  have hholds := hL.setData_marshall (ICrossClientService.getMuteReply (some muted))
    (List.forall_mem_cons.mpr ⟨trivial, List.forall_mem_cons.mpr ⟨trivial,
      List.forall_mem_cons.mpr ⟨trivial, List.forall_mem_singleton.mpr trivial⟩⟩⟩)
  have hstatus := hL.readInt32_snd hholds
  have hlength := hL.readInt32_snd hstatus
  have hmuted := hL.readInt32_snd hlength
  unfold BpCrossClientService.getMute
  dsimp only
  rw [hL.readInt32_fst hholds, hL.readInt32_fst hstatus, hL.readInt32_fst hlength,
    hL.readInt32_fst hmuted]
  cases muted with
  | false => rfl
  | true => rfl

/-- The response fits into a new reply, and the callback is called. -/
theorem mutedByte_eq {hL : L.ReadsBack} (R : ParcelLibrary.ByteArrays hL) (n : Int32) :
    mutedByte L G (L.marshall [.int n]) = some 1 := by
  have hresponse : (L.marshall [.int n]).length = 4 := by
    rw [hL.marshall_int, R.marshall_nil, List.append_nil, LittleEndian.toBytes_length]
  have hfits : OemRequestReply.new.expand G (L.marshall [.int n]).length = some 32 := by
    rw [hresponse]
    rfl
  obtain ⟨muted, hmuted⟩ : ∃ muted, RilInterface.getMute L G (some (L.marshall [.int n])) =
    some muted := by
    cases hwrite : OemRequestReply.new.write G (L.marshall [.int n]) with
    | some reply => exact ⟨_, congrArg (Option.map _) hwrite⟩
    | none =>
      unfold OemRequestReply.write at hwrite
      split at hwrite
      next hnone =>
        rw [hfits] at hnone
        contradiction
      next => contradiction
  unfold mutedByte GetMute
  rw [hmuted, getMute_getMuteReply hL]
  rfl

theorem perform_getMute (mute : UInt8) (handler handler' : RequestHandler) :
    Trace (RequestHandler.perform L .getMute handler)
      [⟨.execute ⟨CMD_SND, SndGetMicMute, ()⟩ handler,
        (handler', ⟨CMD_SND, SndGetMicMuteReply, mute, ()⟩)⟩]
      (.done
        (some (.raw (L.marshall [.int (if decide (mute.toNat ≠ 0) then 1 else 0)])), handler')) :=
  .cons (.nil _)

theorem muteReported_iff {hL : L.ReadsBack} (R : ParcelLibrary.ByteArrays hL) (mute : UInt8)
    (handler handler' : RequestHandler) :
    MuteReported L G mute handler handler' ↔ mute.toNat ≠ 0 := by
  constructor
  · rintro ⟨response, byte, -, hbyte, hagrees⟩
    exact hagrees.mp (GetMute_eq hbyte)
  · intro hmute
    exact ⟨_, 1, perform_getMute mute handler handler', mutedByte_eq R _, iff_of_true rfl hmute⟩

/-- A reply survives on the Java side exactly when its buffer is full, and is reported by the native
side exactly when its bytes repeat the length of the buffer; the microphone is reported as it is
exactly when it is muted. -/
theorem reply_survives_iff {hL : L.ReadsBack} (R : ParcelLibrary.ByteArrays hL) (malloc : ℕ → Bytes)
    (reply : OemRequestReply) (mute : UInt8) (handler handler' : RequestHandler) :
    (reply.Survives R ↔ reply.buf.length = reply.count) ∧
      (reply.Reported R malloc ↔ reply.RepeatsLength) ∧
      (MuteReported L G mute handler handler' ↔ mute.toNat ≠ 0) :=
  ⟨reply.survives_iff R, reply.reported_iff R malloc, muteReported_iff R mute handler handler'⟩

end

/-- A reply of 32 bytes, which repeat that number, and a microphone that is muted. -/
theorem repeated_reply_survives :
    let reply : OemRequestReply :=
    ⟨(List.replicate 8 [32, 0, 0, 0]).flatten, 32, by decide, by decide⟩
    let handler : RequestHandler := ⟨.SIM_READY, -1, 0, [], MessageCache.empty⟩
    reply.Survives ParcelLibrary.android_byteArrays ∧
      reply.Reported ParcelLibrary.android_byteArrays (fun _ => []) ∧
      MuteReported .android ⟨fun _ => none, nofun⟩ 1 handler handler := by
  intro reply handler
  obtain ⟨hsurvives, hreported, hmute⟩ := reply_survives_iff ParcelLibrary.android_byteArrays
    (fun _ => []) reply 1 handler handler
  refine ⟨hsurvives.mpr rfl, hreported.mpr ?_, hmute.mpr (by decide)⟩
  unfold OemRequestReply.RepeatsLength
  decide

/-- A reply of four bytes is written with all of its buffer, and its first bytes are those of the
length of the buffer on the native side; a microphone that is not muted is reported as muted. -/
theorem short_reply_lost :
    let reply : OemRequestReply := ⟨[1, 2, 3, 4] ++ List.replicate 28 0, 4, by decide, by decide⟩
    let handler : RequestHandler := ⟨.SIM_READY, -1, 0, [], MessageCache.empty⟩
    OemRequestReply.new.write ⟨fun _ => none, nofun⟩ [1, 2, 3, 4] = some reply ∧
      ¬ reply.Survives ParcelLibrary.android_byteArrays ∧
      ¬ reply.Reported ParcelLibrary.android_byteArrays (fun _ => []) ∧
      ¬ MuteReported .android ⟨fun _ => none, nofun⟩ 0 handler handler := by
  intro reply handler
  have hfull : ¬ reply.buf.length = reply.count := by decide
  have hrepeats : ¬ reply.RepeatsLength := fun h => absurd (h 0 (by decide)) (by decide)
  have hmuted : ¬ (0 : UInt8).toNat ≠ 0 := by decide
  refine ⟨rfl, ?_, ?_, ?_⟩
  · rwa [reply.survives_iff]
  · rwa [reply.reported_iff]
  · rwa [muteReported_iff ParcelLibrary.android_byteArrays]
end FreeRil
