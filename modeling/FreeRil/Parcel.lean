import FreeRil.Bytes
import FreeRil.Library.LittleEndian

/-! What is used of `android::Parcel` and of the string classes that go with it. -/
namespace FreeRil

/-- The UTF-16 units of a string. -/
abbrev String16 := List UInt16

/-- What is written to a parcel; a null reference is `none`. -/
inductive ParcelItem
  | int (n : Int32)
  | string (s : Option String16)
  | byteArray (data : Option Bytes)

/-- Its length is an integer. -/
def ParcelItem.Fits : ParcelItem → Prop
  | .int _ => True
  | .string s => (s.getD []).length < 2 ^ 31
  | .byteArray data => (data.getD []).length < 2 ^ 31

/-- The library that the parcels come from. -/
structure ParcelLibrary where
  Parcel : Type
  /-- The bytes of a parcel that has been written. -/
  marshall : List ParcelItem → Bytes
  setData : Bytes → Parcel
  readInt32 : Parcel → Int32 × Parcel
  readString16 : Parcel → String16 × Parcel
  /-- Whether `errorCheck` returns something else than `NO_ERROR`. -/
  failed : Parcel → Bool
  /-- The characters of `String8(s)`. -/
  string8 : String16 → Bytes
  /-- The units of `String16(s)`. -/
  string16 : Bytes → String16

namespace ParcelLibrary

/-- A parcel reads back what has been written to it, in that order, and its integers are stored as
they are in memory. -/
structure ReadsBack (L : ParcelLibrary) where
  /-- These items are still to be read. -/
  holds : L.Parcel → List ParcelItem → Prop
  marshall_int : ∀ n items, L.marshall (.int n :: items) =
    LittleEndian.toBytes 4 n.toUInt32.toNat ++ L.marshall items
  setData_marshall : ∀ items, (∀ item ∈ items, item.Fits) →
    holds (L.setData (L.marshall items)) items
  readInt32_fst : ∀ {p n items}, holds p (.int n :: items) → (L.readInt32 p).1 = n
  readInt32_snd : ∀ {p n items}, holds p (.int n :: items) → holds (L.readInt32 p).2 items
  readString16_fst : ∀ {p s items}, holds p (.string s :: items) → (L.readString16 p).1 = s.getD []
  readString16_snd : ∀ {p s items}, holds p (.string s :: items) → holds (L.readString16 p).2 items
  not_failed : ∀ {p items}, holds p items → L.failed p = false

/-! The parcels of Android, and its string classes for strings of ASCII characters. -/
namespace Android

/-- Padding to a multiple of four bytes. -/
def padding (size : ℕ) : Bytes := List.replicate ((4 - size % 4) % 4) 0

/-- A length, `-1` for a null reference. -/
def lengthBytes : Option ℕ → Bytes
  | none => LittleEndian.toBytes 4 (2 ^ 32 - 1)
  | some length => LittleEndian.toBytes 4 length

/-- The bytes of the units of a string, and of its null character. -/
def unitBytes (s : String16) : Bytes :=
  s.flatMap (fun c => LittleEndian.toBytes 2 c.toNat) ++ [0, 0]

def write : ParcelItem → Bytes
  | .int n => LittleEndian.toBytes 4 n.toUInt32.toNat
  | .string s => lengthBytes (s.map List.length) ++ s.elim [] fun s =>
      unitBytes s ++ padding (unitBytes s).length
  | .byteArray data => lengthBytes (data.map List.length) ++ data.elim [] fun data =>
      data ++ padding data.length

def readInt32 (p : Bytes) : Int32 × Bytes :=
  ((UInt32.ofNat (LittleEndian.value (p.take 4))).toInt32, p.drop 4)

/-- The units that `count` pairs of bytes stand for. -/
def units : (count : ℕ) → Bytes → String16
  | 0, _ => []
  | count + 1, p => .ofNat (LittleEndian.value (p.take 2)) :: units count (p.drop 2)

def readString16 (p : Bytes) : String16 × Bytes :=
  let (length, p) := readInt32 p
  if length < 0 then ([], p)
  else
    let length := length.toInt.toNat
    (units length p, p.drop (2 * length + 2 + (padding (2 * length + 2)).length))

end Android

def android : ParcelLibrary where
  Parcel := Bytes
  marshall := List.flatMap Android.write
  setData := id
  readInt32 := Android.readInt32
  readString16 := Android.readString16
  failed _ := false
  string8 := List.map UInt16.toUInt8
  string16 := List.map UInt8.toUInt16

namespace Android

theorem readInt32_append (n : Int32) (rest : Bytes) :
    readInt32 (LittleEndian.toBytes 4 n.toUInt32.toNat ++ rest) = (n, rest) := by
  have hlt := n.toUInt32.toNat_lt
  unfold readInt32
  rw [List.take_left' (LittleEndian.toBytes_length 4 _),
    List.drop_left' (LittleEndian.toBytes_length 4 _), LittleEndian.value_toBytes,
      Nat.mod_eq_of_lt (by omega), UInt32.ofNat_toNat]
  rfl

theorem units_append (s : String16) (rest : Bytes) :
    units s.length (s.flatMap (fun c => LittleEndian.toBytes 2 c.toNat) ++ rest) = s := by
  induction s with
  | nil => rfl
  | cons c s ih =>
    have hlt := c.toNat_lt
    rw [List.length_cons, units, List.flatMap_cons, List.append_assoc,
      List.take_left' (LittleEndian.toBytes_length 2 _),
      List.drop_left' (LittleEndian.toBytes_length 2 _), ih, LittleEndian.value_toBytes,
        Nat.mod_eq_of_lt (by omega), UInt16.ofNat_toNat]

theorem unitBytes_length (s : String16) : (unitBytes s).length = 2 * s.length + 2 := by
  unfold unitBytes
  induction s with
  | nil => rfl
  | cons c s ih =>
    simp only [List.flatMap_cons, List.append_assoc, List.length_append, List.length_cons,
      LittleEndian.toBytes_length] at ih ⊢
    omega

/-- A length is read back as it is. -/
theorem readInt32_length {length : ℕ} (h : length < 2 ^ 31) (rest : Bytes) :
    readInt32 (LittleEndian.toBytes 4 length ++ rest) = (Int32.ofNat length, rest) := by
  have hlt : (Int32.ofNat length).toUInt32.toNat = length := by
    change (UInt32.ofNat length).toNat = length
    exact UInt32.toNat_ofNat_of_lt' (h.trans (by decide))
  rw [← readInt32_append, hlt]

theorem readString16_append {s : Option String16} (h : (s.getD []).length < 2 ^ 31) (rest : Bytes) :
    readString16 (write (.string s) ++ rest) = (s.getD [], rest) := by
  cases s with
  | none => rfl
  | some s =>
    change s.length < 2 ^ 31 at h
    have hlength : (Int32.ofNat s.length).toInt = s.length := Int32.toInt_ofNat_of_lt h
    have hpos : ¬ Int32.ofNat s.length < 0 := by
      rw [Int32.lt_iff_toInt_lt, hlength, Int32.toInt_zero]
      omega
    have hsize : 2 * s.length + 2 + (padding (2 * s.length + 2)).length =
        (unitBytes s ++ padding (unitBytes s).length).length := by
      rw [List.length_append, unitBytes_length]
    unfold readString16 write lengthBytes
    simp only [Option.map_some, Option.elim_some, List.append_assoc]
    rw [readInt32_length h]
    dsimp only
    rw [if_neg hpos, hlength, Int.toNat_natCast, hsize, ← List.append_assoc,
      List.drop_left' rfl, unitBytes, List.append_assoc, List.append_assoc, units_append]
    rfl

end Android

/-- These parcels are read back. -/
def android_readsBack : android.ReadsBack where
  holds p items := p = items.flatMap Android.write ∧ ∀ item ∈ items, item.Fits
  marshall_int _ _ := rfl
  setData_marshall _ h := ⟨rfl, h⟩
  readInt32_fst h := by
    rw [h.1]
    exact congrArg Prod.fst (Android.readInt32_append _ _)
  readInt32_snd h := by
    refine ⟨?_, fun item hitem => h.2 item (List.mem_cons_of_mem _ hitem)⟩
    rw [h.1]
    exact congrArg Prod.snd (Android.readInt32_append _ _)
  readString16_fst h := by
    rw [h.1]
    exact congrArg Prod.fst (Android.readString16_append (h.2 _ List.mem_cons_self) _)
  readString16_snd h := by
    refine ⟨?_, fun item hitem => h.2 item (List.mem_cons_of_mem _ hitem)⟩
    rw [h.1]
    exact congrArg Prod.snd (Android.readString16_append (h.2 _ List.mem_cons_self) _)
  not_failed _ := rfl

/-- What is used of a parcel to read the bytes of an array. -/
structure ByteArrays {L : ParcelLibrary} (hL : L.ReadsBack) where
  /-- `Parcel::read`; it fails unless there is enough data. -/
  read : L.Parcel → ℕ → Option Bytes
  /-- `Parcel.readByteArray` into an array of this length; it throws an exception for another
  length. -/
  readByteArray : L.Parcel → (length : ℕ) → Option { data : Bytes // data.length = length }
  marshall_nil : L.marshall [] = []
  /-- An array is stored as its length, its bytes, and some padding. -/
  marshall_byteArray : ∀ data items, ∃ padding, L.marshall (.byteArray (some data) :: items) =
    LittleEndian.toBytes 4 data.length ++ (data ++ (padding ++ L.marshall items))
  read_eq : ∀ {p items size}, hL.holds p items → size + 3 ≤ (L.marshall items).length →
    read p size = some ((L.marshall items).take size)
  readByteArray_eq : ∀ {p data items} (length : ℕ), hL.holds p (.byteArray (some data) :: items) →
    (readByteArray p length).map Subtype.val = if data.length = length then some data else none

namespace Android

def read (p : Bytes) (size : ℕ) : Option Bytes :=
  if size + (padding size).length ≤ p.length then some (p.take size) else none

def readByteArray (p : Bytes) (length : ℕ) : Option { data : Bytes // data.length = length } :=
  let count := readInt32 p
  if h : count.1.toInt = length ∧ length ≤ count.2.length then
    some ⟨count.2.take length, List.length_take_of_le h.2⟩
  else none

theorem readByteArray_append {data : Bytes} (h : data.length < 2 ^ 31) (rest : Bytes) (length : ℕ) :
    (readByteArray (write (.byteArray (some data)) ++ rest) length).map Subtype.val =
      if data.length = length then some data else none := by
  have hcount : readInt32 (write (.byteArray (some data)) ++ rest) =
      (Int32.ofNat data.length, data ++ (padding data.length ++ rest)) := by
    unfold write lengthBytes
    simp only [Option.map_some, Option.elim_some, List.append_assoc]
    exact readInt32_length h _
  have hlength : (Int32.ofNat data.length).toInt = data.length := Int32.toInt_ofNat_of_lt h
  unfold readByteArray
  dsimp only
  split
  next hagree =>
    rw [hcount, hlength] at hagree
    have heq : data.length = length := by exact_mod_cast hagree.1
    rw [Option.map_some, if_pos heq]
    dsimp only
    rw [hcount, List.take_left' heq]
  next hdiffer =>
    rw [hcount, hlength] at hdiffer
    have hne : data.length ≠ length := by
      rintro rfl
      exact hdiffer ⟨rfl, by simp⟩
    rw [Option.map_none, if_neg hne]

end Android

def android_byteArrays : ByteArrays android_readsBack where
  read := Android.read
  readByteArray := Android.readByteArray
  marshall_nil := rfl
  marshall_byteArray data items := by
    refine ⟨Android.padding data.length, ?_⟩
    simp [android, Android.write, Android.lengthBytes]
  read_eq := by
    intro p items size hp hsize
    have hpadding : (Android.padding size).length ≤ 3 := by
      rw [Android.padding, List.length_replicate]
      omega
    change size + 3 ≤ (items.flatMap Android.write).length at hsize
    rw [← hp.1] at hsize
    have henough : size + (Android.padding size).length ≤ p.length := by omega
    exact (if_pos henough).trans (congrArg (fun p : Bytes => some (p.take size)) hp.1)
  readByteArray_eq := by
    intro p data items length hp
    rw [hp.1]
    exact Android.readByteArray_append (hp.2 _ List.mem_cons_self) _ length

end ParcelLibrary
end FreeRil
