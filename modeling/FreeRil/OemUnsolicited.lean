import FreeRil.OEMRequestBuilder
import FreeRil.RequestHandler.Decoded

/-! The unsolicited messages of the handler as the Java side of the vendor's service reads them. -/
namespace FreeRil
open Messages RIL

/-- What is used of a parcel to read a string of Java. -/
structure ParcelLibrary.Strings {L : ParcelLibrary} (hL : L.ReadsBack) where
  readString : L.Parcel → Option String16 × L.Parcel
  readString_fst : ∀ {p s items}, hL.holds p (.string s :: items) → (readString p).1 = s
  readString_snd : ∀ {p s items}, hL.holds p (.string s :: items) → hL.holds (readString p).2 items

/-- `String16(s)` of 7-bit characters has the same characters. -/
def ParcelLibrary.KeepsAscii (L : ParcelLibrary) : Prop :=
  ∀ s : Bytes, (∀ c ∈ s, c < 128) → L.string16 s = s.map UInt8.toUInt16

/-- The calls of `IOemUnsolicitedReceiver`. -/
inductive OemUnsolicited
  | serviceCompleted
  | serviceDisplay (lines : List (Option String16))
deriving DecidableEq

namespace OEMRequestBuilder

def OEM_UNSOLICITED_SERVICE_COMPLETED : Int32 := 1
def OEM_UNSOLICITED_SERVICE_DISPLAY : Int32 := 2

section
variable {L : ParcelLibrary}

/-- The type of the message; an exception is thrown for another signature. -/
def readUnsolicitedHeader (parcel : L.Parcel) : Option (Int32 × L.Parcel) :=
  let (low, parcel) := L.readInt32 parcel
  let (high, parcel) := L.readInt32 parcel
  let (type, parcel) := L.readInt32 parcel
  if low ≠ FREERIL_OEM_SIGNATURE_LOW ∨ high ≠ FREERIL_OEM_SIGNATURE_HIGH then none
  else some (type, parcel)

variable {hL : L.ReadsBack} (S : ParcelLibrary.Strings hL)

def readStrings : (count : ℕ) → L.Parcel → List (Option String16)
  | 0, _ => []
  | count + 1, parcel =>
    let (s, parcel) := S.readString parcel
    s :: readStrings count parcel

def readUnsolicitedServiceDisplay (parcel : L.Parcel) : List (Option String16) :=
  let (count, parcel) := L.readInt32 parcel
  readStrings S count.toInt.toNat parcel

end
end OEMRequestBuilder

namespace RilInterface
open OEMRequestBuilder

/-- The call of the receiver, where there is one. Messages of other types are ignored, and so are those
that an exception is thrown for. -/
def onOemUnsolicited {L : ParcelLibrary} {hL : L.ReadsBack} (S : ParcelLibrary.Strings hL) (data : Bytes) :
    Option OemUnsolicited :=
  match readUnsolicitedHeader (L.setData data) with
  | none => none
  | some (type, parcel) =>
    if type = OEM_UNSOLICITED_SERVICE_COMPLETED then some .serviceCompleted
    else if type = OEM_UNSOLICITED_SERVICE_DISPLAY then
      some (.serviceDisplay (readUnsolicitedServiceDisplay S parcel))
    else none

end RilInterface

namespace RequestHandler

def LinesItem.line : LinesItem → Bytes
  | (_, _, line, ()) => line

/-- The single line that is not for display. -/
def Marked (lines : List LinesItem) : Prop :=
  ∃ line, lines = [((0 : UInt8), (1 : UInt8), line, ())]

section
variable {L : ParcelLibrary} {lines : List LinesItem}

theorem loadLines_eq {count i : ℕ} (h : i + count = lines.length) :
    loadLines lines count i = pure ((lines.drop i).map fun item => cstr (LinesItem.line item)) := by
  induction count generalizing i with
  | zero =>
    rw [List.drop_eq_nil_of_le (by omega)]
    rfl
  | succ count ih =>
    have hi : i < lines.length := by omega
    rw [loadLines, readItem_eq (List.getElem?_eq_getElem hi), pure_bind_eq, ih (by omega),
      List.drop_eq_getElem_cons hi]
    rfl

theorem unmarked_eq (h : ¬ Marked lines) : unmarked lines lines.length = pure true := by
  unfold unmarked
  split_ifs with hlength
  · obtain ⟨item, rfl⟩ := List.length_eq_one_iff.mp hlength
    obtain ⟨unknown1, unknown2, line, ⟨⟩⟩ := item
    rw [readItem_eq rfl, pure_bind_eq]
    refine congrArg pure (decide_eq_true fun hmarked => h ?_)
    obtain ⟨rfl, rfl⟩ := hmarked
    exact ⟨line, rfl⟩
  · rfl

/-- What is sent for a message, in all other cases than that of the marked line. -/
theorem displayLines_eq (h : ¬ Marked lines) : displayLines L lines.length lines =
    if lines = [] then notifyServiceCompleted L
    else notifyServiceDisplay L (lines.map fun item => cstr (LinesItem.line item)) := by
  unfold displayLines
  split_ifs with hlength hnil hnil
  · rfl
  · exact absurd (List.length_eq_zero_iff.mp hlength) hnil
  · exact absurd (List.length_eq_zero_iff.mpr hnil) hlength
  · rw [unmarked_eq h, pure_bind_eq, if_pos rfl, loadLines_eq (Nat.zero_add _), pure_bind_eq]
    rfl

end
end RequestHandler

open RequestHandler RilInterface OEMRequestBuilder

section
variable {L : ParcelLibrary} {hL : L.ReadsBack} (S : ParcelLibrary.Strings hL)

theorem OEMRequestBuilder.readStrings_eq {strings : List (Option String16)} {items : List ParcelItem}
    {parcel : L.Parcel} (h : hL.holds parcel (strings.map ParcelItem.string ++ items)) :
    readStrings S strings.length parcel = strings := by
  induction strings generalizing parcel with
  | nil => rfl
  | cons s strings ih =>
    rw [List.length_cons, readStrings]
    dsimp only
    rw [ih (S.readString_snd h), S.readString_fst h]

/-- The bytes that `notifyOem` sends. -/
def unsolicitedBytes (L : ParcelLibrary) (type : Int32) (items : List ParcelItem) : Bytes :=
  L.marshall (.int OEM_SIGNATURE_LOW.toInt32 :: .int OEM_SIGNATURE_HIGH.toInt32 :: .int type :: items)

/-- The header is read as it is written. -/
theorem OEMRequestBuilder.readUnsolicitedHeader_eq {type : Int32} {items : List ParcelItem}
    (hfits : ∀ item ∈ items, item.Fits) : ∃ parcel,
      readUnsolicitedHeader (L.setData (unsolicitedBytes L type items)) = some (type, parcel)
        ∧ hL.holds parcel items := by
  have hholds := hL.setData_marshall (.int OEM_SIGNATURE_LOW.toInt32 ::
    .int OEM_SIGNATURE_HIGH.toInt32 :: .int type :: items) (by simpa [ParcelItem.Fits] using hfits)
  have hlow := hL.readInt32_snd hholds
  have hhigh := hL.readInt32_snd hlow
  refine ⟨_, ?_, hL.readInt32_snd hhigh⟩
  unfold readUnsolicitedHeader unsolicitedBytes
  dsimp only
  rw [hL.readInt32_fst hholds, hL.readInt32_fst hlow, hL.readInt32_fst hhigh, if_neg (by decide)]

theorem RilInterface.onOemUnsolicited_completed :
    onOemUnsolicited S (unsolicitedBytes L FreeRil.OEM_UNSOLICITED_SERVICE_COMPLETED [])
      = some .serviceCompleted := by
  obtain ⟨parcel, hheader, -⟩ := @readUnsolicitedHeader_eq L hL
    FreeRil.OEM_UNSOLICITED_SERVICE_COMPLETED [] (List.forall_mem_nil _)
  unfold onOemUnsolicited
  rw [hheader]
  rfl

theorem RilInterface.onOemUnsolicited_display {strings : List String16}
    (hlength : strings.length < 2 ^ 31) (hfits : ∀ s ∈ strings, s.length < 2 ^ 31) :
    onOemUnsolicited S (unsolicitedBytes L FreeRil.OEM_UNSOLICITED_SERVICE_DISPLAY
        (.int (.ofNat strings.length) :: strings.map fun s => .string (some s)))
      = some (.serviceDisplay (strings.map some)) := by
  have hitems : ∀ item ∈ ParcelItem.int (.ofNat strings.length) ::
      strings.map (fun s => ParcelItem.string (some s)), item.Fits := by
    refine List.forall_mem_cons.mpr ⟨trivial, fun item hitem => ?_⟩
    obtain ⟨s, hs, rfl⟩ := List.mem_map.mp hitem
    exact hfits s hs
  obtain ⟨parcel, hheader, hholds⟩ := @readUnsolicitedHeader_eq L hL
    FreeRil.OEM_UNSOLICITED_SERVICE_DISPLAY _ hitems
  have hcount : (L.readInt32 parcel).1.toInt.toNat = (strings.map some).length := by
    rw [hL.readInt32_fst hholds, Int32.toInt_ofNat_of_lt hlength, Int.toNat_natCast, List.length_map]
  have hstrings : hL.holds (L.readInt32 parcel).2 ((strings.map some).map ParcelItem.string ++ []) := by
    rw [List.map_map, List.append_nil]
    exact hL.readInt32_snd hholds
  have hlines : readUnsolicitedServiceDisplay S parcel = strings.map some := by
    unfold readUnsolicitedServiceDisplay
    dsimp only
    rw [hcount, readStrings_eq S hstrings]
  unfold onOemUnsolicited
  rw [hheader]
  dsimp only
  rw [if_neg (by decide), if_pos rfl, hlines]

end

theorem cstr_cstr (s : Bytes) : cstr (cstr s) = cstr s := List.takeWhile_idem

theorem RequestHandler.line_sized {lineCount : UInt8} {lines : List LinesItem}
    (h : SvcDisplayScreen.Sized (lineCount, lines, ())) {item : LinesItem} (hitem : item ∈ lines) :
    (LinesItem.line item).length = 32 := by
  obtain ⟨-, ⟨-, hitems⟩, -⟩ := h
  obtain ⟨after, -, -, hline, -⟩ := hitems.of_mem hitem
  exact (Option.some.inj hline).symm

/-- What the Java side gets of a line. -/
def RequestHandler.LinesItem.shown (item : LinesItem) : String16 := (cstr item.line).map UInt8.toUInt16

/-- The strings of the parcel are the lines. -/
theorem RequestHandler.notifyServiceDisplay_eq {L : ParcelLibrary} (hascii : L.KeepsAscii)
    {lines : List LinesItem} (hlines : ∀ item ∈ lines, ∀ c ∈ LinesItem.line item, c < 128) :
    notifyServiceDisplay L (lines.map fun item => cstr (LinesItem.line item)) =
      unsolicited .OEM_HOOK_RAW (.raw (unsolicitedBytes L FreeRil.OEM_UNSOLICITED_SERVICE_DISPLAY
        (.int (.ofNat (lines.map LinesItem.shown).length) ::
          (lines.map LinesItem.shown).map fun s => .string (some s)))) := by
  have hstrings : (lines.map fun item => cstr (LinesItem.line item)).map
        (fun line => ParcelItem.string (some (L.string16 (cstr line)))) =
      (lines.map LinesItem.shown).map fun s => ParcelItem.string (some s) := by
    rw [List.map_map, List.map_map]
    refine List.map_congr_left fun item hitem => ?_
    have hline : ∀ c ∈ cstr (LinesItem.line item), c < 128 := fun c hc =>
      hlines item hitem c ((List.takeWhile_sublist _).subset hc)
    simp only [Function.comp_apply, cstr_cstr]
    rw [hascii _ hline, LinesItem.shown]
  unfold notifyServiceDisplay notifyOem unsolicitedBytes
  rw [hstrings, List.length_map, List.length_map]

/-- For every message from the wire, but for the marked line, whose lines consist of 7-bit characters the
Java side is called with one string for each line, which ends before the first null byte of the line. -/
theorem svcDisplayScreen_received {L : ParcelLibrary} {hL : L.ReadsBack} (S : ParcelLibrary.Strings hL)
    (hascii : L.KeepsAscii) {lineCount : UInt8} {lines : List LinesItem}
    (hsized : SvcDisplayScreen.Sized (lineCount, lines, ()))
    (hlines : ∀ item ∈ lines, ∀ c ∈ LinesItem.line item, c < 128) (h : ¬ Marked lines) :
    ∃ data, handleSvcDisplayScreen L (lineCount, lines, ()) = unsolicited .OEM_HOOK_RAW (.raw data) ∧
      if lineCount = 0 then onOemUnsolicited S data = some .serviceCompleted
      else ∃ shown : List (Option String16),
        onOemUnsolicited S data = some (.serviceDisplay shown) ∧
        shown.length = lineCount.toNat ∧
        ∀ (i : ℕ) (item : LinesItem), lines[i]? = some item →
          shown[i]? = some (some ((cstr item.line).map UInt8.toUInt16)) := by
  have hcount := lines_sized hsized
  have hhandle : handleSvcDisplayScreen L (lineCount, lines, ()) =
      if lines = [] then notifyServiceCompleted L
      else notifyServiceDisplay L (lines.map fun item => cstr (LinesItem.line item)) := by
    rw [← displayLines_eq h, ← hcount]
    rfl
  rw [hhandle]
  by_cases hnil : lines = []
  · have hzero : lineCount = 0 := UInt8.toNat_inj.mp (by rw [hcount, hnil]; rfl)
    rw [if_pos hnil]
    refine ⟨_, rfl, ?_⟩
    rw [if_pos hzero]
    exact onOemUnsolicited_completed S
  · have hzero : lineCount ≠ 0 := by
      rintro rfl
      exact hnil (List.length_eq_zero_iff.mp hcount.symm)
    have hlt := lineCount.toNat_lt
    rw [if_neg hnil]
    refine ⟨_, notifyServiceDisplay_eq hascii hlines, ?_⟩
    rw [if_neg hzero]
    refine ⟨_, onOemUnsolicited_display S ?_ ?_, ?_, ?_⟩
    · rw [List.length_map]
      omega
    · intro s hs
      obtain ⟨item, hitem, rfl⟩ := List.mem_map.mp hs
      have hle : (cstr item.line).length ≤ item.line.length := (List.takeWhile_sublist _).length_le
      rw [LinesItem.shown, List.length_map]
      rw [line_sized hsized hitem] at hle
      omega
    · rw [List.length_map, List.length_map, hcount]
    · intro i item hitem
      rw [List.getElem?_map, List.getElem?_map, hitem]
      rfl

namespace ParcelLibrary

/-- `Parcel.readString` of Android. -/
def Android.readString (p : Bytes) : Option String16 × Bytes :=
  let (length, rest) := readInt32 p
  if length < 0 then (none, rest)
  else
    let (s, p) := readString16 p
    (some s, p)

theorem Android.readString_append {s : Option String16} (h : (s.getD []).length < 2 ^ 31) (rest : Bytes) :
    readString (write (.string s) ++ rest) = (s, rest) := by
  cases s with
  | none => rfl
  | some s =>
    change s.length < 2 ^ 31 at h
    have hpos : ¬ (readInt32 (write (.string (some s)) ++ rest)).1 < 0 := by
      unfold write lengthBytes
      simp only [Option.map_some, Option.elim_some, List.append_assoc]
      rw [readInt32_length h, Int32.lt_iff_toInt_lt, Int32.toInt_ofNat_of_lt h, Int32.toInt_zero]
      omega
    unfold readString
    dsimp only
    rw [if_neg hpos, @readString16_append (some s) h]
    rfl

def android_strings : Strings android_readsBack where
  readString := Android.readString
  readString_fst h := by
    rw [h.1]
    exact congrArg Prod.fst (Android.readString_append (h.2 _ List.mem_cons_self) _)
  readString_snd h := by
    refine ⟨?_, fun item hitem => h.2 item (List.mem_cons_of_mem _ hitem)⟩
    rw [h.1]
    exact congrArg Prod.snd (Android.readString_append (h.2 _ List.mem_cons_self) _)

theorem android_keepsAscii : android.KeepsAscii := fun _ _ => rfl

end ParcelLibrary

/-- Two lines, the first of which has no null byte. -/
theorem svcDisplayScreen_received_two :
    let lines : List LinesItem :=
      [(0, 1, List.replicate 32 65, ()), (0, 0, [66, 67, 0] ++ List.replicate 29 68, ())]
    ∃ data, handleSvcDisplayScreen .android ((2 : UInt8), lines, ()) =
        unsolicited .OEM_HOOK_RAW (.raw data) ∧
      ∃ shown : List (Option String16),
        onOemUnsolicited ParcelLibrary.android_strings data = some (.serviceDisplay shown) ∧
        shown.length = 2 ∧ shown[0]? = some (some (List.replicate 32 65)) ∧
        shown[1]? = some (some [66, 67]) := by
  intro lines
  have hsized : SvcDisplayScreen.Sized ((2 : UInt8), lines, ()) :=
    ⟨trivial, ⟨rfl, ⟨trivial, trivial, rfl, trivial⟩, ⟨trivial, trivial, rfl, trivial⟩, trivial⟩, trivial⟩
  have hascii : ∀ item ∈ lines, ∀ c ∈ LinesItem.line item, c < 128 := by
    simp [lines, LinesItem.line]
  have hunmarked : ¬ Marked lines := fun ⟨line, hline⟩ => by simp [lines] at hline
  obtain ⟨data, hhandle, hdata⟩ := svcDisplayScreen_received ParcelLibrary.android_strings
    ParcelLibrary.android_keepsAscii hsized hascii hunmarked
  rw [if_neg (by decide)] at hdata
  obtain ⟨shown, hshown, hlength, hlines⟩ := hdata
  exact ⟨data, hhandle, shown, hshown, hlength, hlines 0 _ rfl, hlines 1 _ rfl⟩

end FreeRil
