import FreeRil.RequestHandler.Oem
import Mathlib.Data.List.TakeWhile

/-! The requests of the vendor's service as its Java side builds them, and what the handler makes of
them. -/
namespace FreeRil
open RIL

/-- A string, or an array of bytes, of Java; a null reference is `none`. -/
abbrev JavaString := Option { s : String16 // s.length < 2 ^ 31 }
abbrev JavaBytes := Option { data : Bytes // data.length < 2 ^ 31 }

namespace OEMRequestBuilder

def FREERIL_OEM_SIGNATURE_LOW : Int32 := 0x65657246
def FREERIL_OEM_SIGNATURE_HIGH : Int32 := 0x214c4952

def OEM_REQUEST_ATTACH_SERVICE : Int32 := 1
def OEM_REQUEST_SET_LOOPBACK_TEST : Int32 := 2
def OEM_REQUEST_SET_DHA_SOLUTION : Int32 := 3
def OEM_REQUEST_SET_TWO_MIC_CONTROL : Int32 := 4
def OEM_REQUEST_GET_MUTE : Int32 := 5
def OEM_REQUEST_SET_MUTE : Int32 := 6
def OEM_REQUEST_SET_CALL_RECORD : Int32 := 7
def OEM_REQUEST_SET_CALL_CLOCK_SYNC : Int32 := 8
def OEM_REQUEST_SET_VIDEO_CALL_CLOCK_SYNC : Int32 := 9
def OEM_REQUEST_SET_CALL_AUDIO_PATH : Int32 := 10
def OEM_REQUEST_SET_CALL_VOLUME : Int32 := 11
def OEM_REQUEST_SAMSUNG_OEM_REQUEST : Int32 := 12
def OEM_REQUEST_ENTER_SERVICE_MODE : Int32 := 13
def OEM_REQUEST_EXIT_SERVICE_MODE : Int32 := 14
def OEM_REQUEST_SEND_SERVICE_KEY_CODE : Int32 := 15

/-- A parcel with the signature and the code of a request, and its arguments. -/
def build (request : Int32) (arguments : List ParcelItem) : List ParcelItem :=
  .int FREERIL_OEM_SIGNATURE_LOW :: .int FREERIL_OEM_SIGNATURE_HIGH :: .int request :: arguments

def buildAttach (attach : Bool) : List ParcelItem :=
  build OEM_REQUEST_ATTACH_SERVICE [.int (if attach then 1 else 0)]

def buildSetLoopbackTest (loopback path : Int32) : List ParcelItem :=
  build OEM_REQUEST_SET_LOOPBACK_TEST [.int loopback, .int path]

def buildSetDhaSolution (mode select : Int32) (extra : JavaString) : List ParcelItem :=
  build OEM_REQUEST_SET_DHA_SOLUTION [.int mode, .int select, .string (extra.map Subtype.val)]

def buildSetTwoMicControl (device report : Int32) : List ParcelItem :=
  build OEM_REQUEST_SET_TWO_MIC_CONTROL [.int device, .int report]

def buildGetMute : List ParcelItem := build OEM_REQUEST_GET_MUTE []

def buildSetMute (mute : Int32) : List ParcelItem := build OEM_REQUEST_SET_MUTE [.int mute]

def buildSetCallRecord (record : Int32) : List ParcelItem :=
  build OEM_REQUEST_SET_CALL_RECORD [.int record]

def buildSetCallClockSync (sync : Int32) : List ParcelItem :=
  build OEM_REQUEST_SET_CALL_CLOCK_SYNC [.int sync]

def buildSetVideoCallClockSync (sync : Int32) : List ParcelItem :=
  build OEM_REQUEST_SET_VIDEO_CALL_CLOCK_SYNC [.int sync]

def buildSetCallAudioPath (path extraVolume : Int32) : List ParcelItem :=
  build OEM_REQUEST_SET_CALL_AUDIO_PATH [.int path, .int extraVolume]

def buildSetCallVolume (device volume : Int32) : List ParcelItem :=
  build OEM_REQUEST_SET_CALL_VOLUME [.int device, .int volume]

def buildSamsungOemRequest (data : JavaBytes) : List ParcelItem :=
  build OEM_REQUEST_SAMSUNG_OEM_REQUEST [.byteArray (data.map Subtype.val)]

def buildEnterServiceMode (modeType subType : Int32) : List ParcelItem :=
  build OEM_REQUEST_ENTER_SERVICE_MODE [.int modeType, .int subType]

def buildExitServiceMode (modeType : Int32) : List ParcelItem :=
  build OEM_REQUEST_EXIT_SERVICE_MODE [.int modeType]

def buildSendServiceKeyCode (keyCode : Int32) : List ParcelItem :=
  build OEM_REQUEST_SEND_SERVICE_KEY_CODE [.int keyCode]

/-- The calls of the methods of the builder. -/
inductive Build
  | attach (attach : Bool)
  | setLoopbackTest (loopback path : Int32)
  | setDhaSolution (mode select : Int32) (extra : JavaString)
  | setTwoMicControl (device report : Int32)
  | getMute
  | setMute (mute : Int32)
  | setCallRecord (record : Int32)
  | setCallClockSync (sync : Int32)
  | setVideoCallClockSync (sync : Int32)
  | setCallAudioPath (path extraVolume : Int32)
  | setCallVolume (device volume : Int32)
  | samsungOemRequest (data : JavaBytes)
  | enterServiceMode (modeType subType : Int32)
  | exitServiceMode (modeType : Int32)
  | sendServiceKeyCode (keyCode : Int32)

namespace Build

/-- What is written to the parcel. -/
def items : Build → List ParcelItem
  | .attach attached => buildAttach attached
  | .setLoopbackTest loopback path => buildSetLoopbackTest loopback path
  | .setDhaSolution mode select extra => buildSetDhaSolution mode select extra
  | .setTwoMicControl device report => buildSetTwoMicControl device report
  | .getMute => buildGetMute
  | .setMute mute => buildSetMute mute
  | .setCallRecord record => buildSetCallRecord record
  | .setCallClockSync sync => buildSetCallClockSync sync
  | .setVideoCallClockSync sync => buildSetVideoCallClockSync sync
  | .setCallAudioPath path extraVolume => buildSetCallAudioPath path extraVolume
  | .setCallVolume device volume => buildSetCallVolume device volume
  | .samsungOemRequest data => buildSamsungOemRequest data
  | .enterServiceMode modeType subType => buildEnterServiceMode modeType subType
  | .exitServiceMode modeType => buildExitServiceMode modeType
  | .sendServiceKeyCode keyCode => buildSendServiceKeyCode keyCode

/-- The call that is meant, with each argument in its role; the data of a request in the format of
Samsung stays in its parcel. -/
def meant (L : ParcelLibrary) : Build → OemCall L.Parcel
  | .attach attached => .attachService attached
  | .setLoopbackTest loopback path => .setLoopbackTest path loopback
  | .setDhaSolution mode select extra =>
    .setDhaSolution mode select (L.string8 ((extra.map Subtype.val).getD []))
  | .setTwoMicControl device report => .setTwoMicControl device report
  | .getMute => .getMute
  | .setMute mute => .setMute (mute ≠ 0)
  | .setCallRecord record => .setCallRecord record
  | .setCallClockSync sync => .setCallClockSync sync
  | .setVideoCallClockSync sync => .setVideoCallClockSync sync
  | .setCallAudioPath path extraVolume => .setCallAudioPath path extraVolume
  | .setCallVolume device volume => .setCallVolume device volume
  | .samsungOemRequest data =>
    .samsungOemRequest (L.setData (L.marshall [.byteArray (data.map Subtype.val)]))
  | .enterServiceMode modeType subType => .enterServiceMode modeType subType
  | .exitServiceMode modeType => .exitServiceMode modeType
  | .sendServiceKeyCode keyCode => .sendServiceKeyCode keyCode

/-- The request code, and the arguments that follow it. -/
def code (b : Build) : Int32 :=
  match b.items with
  | _ :: _ :: .int code :: _ => code
  | _ => 0

def arguments (b : Build) : List ParcelItem := b.items.drop 3

theorem items_eq (b : Build) : b.items = build b.code b.arguments := by cases b <;> rfl

theorem length_lt {α : Type} (o : Option { s : List α // s.length < 2 ^ 31 }) :
    ((o.map Subtype.val).getD []).length < 2 ^ 31 := by
  cases o with
  | none => exact Nat.two_pow_pos 31
  | some s => exact s.property

theorem arguments_fit (b : Build) : ∀ item ∈ b.arguments, item.Fits := by
  cases b with
  | setDhaSolution mode select extra =>
    exact List.forall_mem_cons.mpr ⟨trivial, List.forall_mem_cons.mpr ⟨trivial,
      List.forall_mem_singleton.mpr (length_lt extra)⟩⟩
  | samsungOemRequest data => exact List.forall_mem_singleton.mpr (length_lt data)
  | getMute => exact List.forall_mem_nil _
  | setLoopbackTest | setTwoMicControl | setCallAudioPath | setCallVolume | enterServiceMode =>
    exact List.forall_mem_cons.mpr ⟨trivial, List.forall_mem_singleton.mpr trivial⟩
  | _ => exact List.forall_mem_singleton.mpr trivial

end Build

section
variable {L : ParcelLibrary}
open RequestHandler

theorem word_append (n : Int32) (rest : Bytes) :
    OemHeader.ofBytes.word (LittleEndian.toBytes 4 n.toUInt32.toNat ++ rest) = n.toUInt32 := by
  have hlt := n.toUInt32.toNat_lt
  rw [OemHeader.ofBytes.word, List.take_left' (LittleEndian.toBytes_length 4 _),
    LittleEndian.value_toBytes, Nat.mod_eq_of_lt (by omega), UInt32.ofNat_toNat]

theorem drop_append (n : Int32) (rest : Bytes) :
    (LittleEndian.toBytes 4 n.toUInt32.toNat ++ rest).drop 4 = rest :=
  List.drop_left' (LittleEndian.toBytes_length 4 _)

/-- The header is what the builder has written first. -/
theorem ofBytes_build (hL : L.ReadsBack) (request : Int32) (arguments : List ParcelItem) :
    OemHeader.ofBytes (L.marshall (build request arguments)) =
        ⟨(OEM_SIGNATURE_LOW, OEM_SIGNATURE_HIGH), request.toUInt32⟩ ∧
      OemHeader.size ≤ (L.marshall (build request arguments)).length ∧
      (L.marshall (build request arguments)).drop OemHeader.size = L.marshall arguments := by
  unfold build
  rw [hL.marshall_int, hL.marshall_int, hL.marshall_int]
  refine ⟨?_, ?_, ?_⟩
  · unfold OemHeader.ofBytes
    rw [show 8 = 4 + 4 from rfl, ← List.drop_drop, drop_append, drop_append, word_append, word_append,
      word_append]
    rfl
  · simp only [OemHeader.size, List.length_append, LittleEndian.toBytes_length]
    omega
  · rw [show OemHeader.size = 4 + 4 + 4 from rfl, ← List.drop_drop, ← List.drop_drop, drop_append,
      drop_append, drop_append]

/-- A parcel with one integer. -/
theorem oneInt_eq (hL : L.ReadsBack) {n : Int32} {parcel : L.Parcel}
    (h : hL.holds parcel [.int n]) (call : Int32 → OemCall L.Parcel) :
    readCall.oneInt L parcel call = some (.ok (call n)) := by
  unfold readCall.oneInt readCall.checked
  dsimp only
  rw [hL.readInt32_fst h, hL.not_failed (hL.readInt32_snd h)]
  rfl

/-- A parcel with two integers. -/
theorem twoInts_eq (hL : L.ReadsBack) {m n : Int32} {parcel : L.Parcel}
    (h : hL.holds parcel [.int m, .int n]) (call : Int32 → Int32 → OemCall L.Parcel) :
    readCall.twoInts L parcel call = some (.ok (call m n)) := by
  have hrest := hL.readInt32_snd h
  unfold readCall.twoInts readCall.checked
  dsimp only
  rw [hL.readInt32_fst h, hL.readInt32_fst hrest, hL.not_failed (hL.readInt32_snd hrest)]
  rfl

theorem setDhaSolution_eq (hL : L.ReadsBack) {mode select : Int32} {extra : Option String16}
    {parcel : L.Parcel} (h : hL.holds parcel [.int mode, .int select, .string extra]) :
    readCall L FreeRil.OEM_REQUEST_SET_DHA_SOLUTION parcel =
      some (.ok (.setDhaSolution mode select (cstr (L.string8 (extra.getD []))))) := by
  have hselect := hL.readInt32_snd h
  have hextra := hL.readInt32_snd hselect
  change readCall.checked L _ (.setDhaSolution _ _ (cstr (L.string8 _))) = _
  unfold readCall.checked
  rw [hL.readInt32_fst h, hL.readInt32_fst hselect, hL.readString16_fst hextra,
    hL.not_failed (hL.readString16_snd hextra)]
  rfl

/-- The call that a request is read as: the first argument of a loopback test is taken for the path,
and a string ends at a null character. -/
def Build.received (L : ParcelLibrary) (b : Build) : OemCall L.Parcel :=
  match b with
  | .setLoopbackTest loopback path => .setLoopbackTest loopback path
  | .setDhaSolution mode select extra =>
    .setDhaSolution mode select (cstr (L.string8 ((extra.map Subtype.val).getD [])))
  | b => b.meant L

theorem readCall_build (hL : L.ReadsBack) (b : Build) :
    readCall L b.code.toUInt32 (L.setData (L.marshall b.arguments)) = some (.ok (b.received L)) := by
  have hholds := hL.setData_marshall b.arguments b.arguments_fit
  cases b with
  | attach attached =>
    have hread := oneInt_eq hL hholds fun attach => .attachService (attach ≠ 0)
    cases attached with
    | false => exact hread
    | true => exact hread
  | setLoopbackTest loopback path => exact twoInts_eq hL hholds _
  | setDhaSolution mode select extra => exact setDhaSolution_eq hL hholds
  | setTwoMicControl device report => exact twoInts_eq hL hholds _
  | getMute => rfl
  | setMute mute => exact oneInt_eq hL hholds fun mute => .setMute (mute ≠ 0)
  | setCallRecord record => exact oneInt_eq hL hholds _
  | setCallClockSync sync => exact oneInt_eq hL hholds _
  | setVideoCallClockSync sync => exact oneInt_eq hL hholds _
  | setCallAudioPath path extraVolume => exact twoInts_eq hL hholds _
  | setCallVolume device volume => exact twoInts_eq hL hholds _
  | samsungOemRequest data => rfl
  | enterServiceMode modeType subType => exact twoInts_eq hL hholds _
  | exitServiceMode modeType => exact oneInt_eq hL hholds _
  | sendServiceKeyCode keyCode => exact oneInt_eq hL hholds _

/-- Where the two arguments of a loopback test are equal, and a string has no null character, each
argument is received in its role. -/
def Build.Unambiguous (L : ParcelLibrary) : Build → Prop
  | .setLoopbackTest loopback path => loopback = path
  | .setDhaSolution _ _ extra => 0 ∉ L.string8 ((extra.map Subtype.val).getD [])
  | _ => True

theorem cstr_eq_self_iff (s : Bytes) : cstr s = s ↔ 0 ∉ s := by
  unfold cstr
  rw [List.takeWhile_eq_self_iff]
  constructor
  · intro h hmem
    simpa using h 0 hmem
  · intro h c hc
    simp only [decide_not, Bool.not_eq_eq_eq_not, Bool.not_true, decide_eq_false_iff_not]
    rintro rfl
    exact h hc

theorem received_eq_meant_iff (b : Build) : b.received L = b.meant L ↔ b.Unambiguous L := by
  cases b with
  | setLoopbackTest loopback path =>
    change OemCall.setLoopbackTest loopback path = .setLoopbackTest path loopback ↔ loopback = path
    rw [OemCall.setLoopbackTest.injEq, and_iff_left_of_imp Eq.symm]
  | setDhaSolution mode select extra =>
    change OemCall.setDhaSolution _ _ _ = .setDhaSolution _ _ _ ↔ _
    rw [OemCall.setDhaSolution.injEq, eq_self, eq_self, true_and, true_and, cstr_eq_self_iff]
    rfl
  | _ => exact iff_of_true rfl trivial

theorem oemCall_build (hL : L.ReadsBack) (b : Build) {state : RIL_RadioState}
    (hunavailable : state ≠ .UNAVAILABLE) (hoff : state ≠ .OFF) :
    oemCall L state (L.marshall b.items) = .ok (b.received L) := by
  obtain ⟨hheader, hlength, hdrop⟩ := ofBytes_build hL b.code b.arguments
  rw [b.items_eq, oemCall, hheader, hdrop, readCall_build hL b]
  dsimp only
  rw [if_neg, if_neg]
  · rfl
  · rintro ⟨-, h | h⟩
    · exact hunavailable h
    · exact hoff h
  · rintro (h | h)
    · omega
    · exact h rfl

/-- The call that `handleOemHookRaw` makes for the bytes of a request. -/
def MakesCall (L : ParcelLibrary) (data : Bytes) (handler : RequestHandler)
    (call : OemCall L.Parcel) : Prop :=
  oemCall L handler.m_radioState data = .ok call ∧ ∀ token,
    handleOemHookRaw L ⟨RIL_REQUEST_OEM_HOOK_RAW, .raw data, token⟩ handler =
      performOem L call ⟨RIL_REQUEST_OEM_HOOK_RAW, .raw data, token⟩ handler

/-- The handler makes the call that is meant by a request exactly when the request is not one of
those whose arguments it confuses. -/
theorem makesCall_meant_iff (hL : L.ReadsBack) (b : Build) {handler : RequestHandler}
    (hunavailable : handler.m_radioState ≠ .UNAVAILABLE) (hoff : handler.m_radioState ≠ .OFF) :
    MakesCall L (L.marshall b.items) handler (b.meant L) ↔ b.Unambiguous L := by
  have hcall := oemCall_build hL b hunavailable hoff
  rw [← received_eq_meant_iff]
  constructor
  · rintro ⟨h, -⟩
    exact Except.ok.inj (hcall.symm.trans h)
  · intro h
    rw [h] at hcall
    exact ⟨hcall, fun _ => handleOemHookRaw_ok rfl hcall⟩

end

/-- Setting the volume of a call. -/
theorem setCallVolume_makesCall :
    MakesCall .android (ParcelLibrary.android.marshall (Build.setCallVolume 2 5).items)
      ⟨.SIM_READY, -1, 0, [], MessageCache.empty⟩ (.setCallVolume 2 5) :=
  (makesCall_meant_iff ParcelLibrary.android_readsBack (.setCallVolume 2 5)
    (by decide) (by decide)).mpr trivial

/-- Path 3 is asked for with the loopback switched on, and the loopback 3 with path 1 is set. -/
theorem setLoopbackTest_swapped : ¬ ∀ (L : ParcelLibrary) (_ : L.ReadsBack) (b : Build)
    (handler : RequestHandler), handler.m_radioState ≠ .UNAVAILABLE → handler.m_radioState ≠ .OFF →
    MakesCall L (L.marshall b.items) handler (b.meant L) := by
  intro hall
  obtain ⟨hmeant, -⟩ := hall .android ParcelLibrary.android_readsBack (.setLoopbackTest 1 3)
    ⟨.SIM_READY, -1, 0, [], MessageCache.empty⟩ (by decide) (by decide)
  have hcall := oemCall_build ParcelLibrary.android_readsBack (.setLoopbackTest 1 3)
    (show RIL_RadioState.SIM_READY ≠ .UNAVAILABLE by decide) (by decide)
  have h := (received_eq_meant_iff _).mp (Except.ok.inj (hcall.symm.trans hmeant))
  exact absurd h (show (1 : Int32) ≠ 3 by decide)

end OEMRequestBuilder
end FreeRil
