import FreeRil.DataStream

/-! Structures of the protocol language and the values of the classes generated from them.
A structure is the list of its fields in declaration order. -/
namespace FreeRil

/-- The keys of `STORAGE_TYPE_MAP`. -/
inductive IntType
  | u8
  | u16
  | u32
  deriving DecidableEq, Repr

namespace IntType

/-- The C++ type a field is stored in. -/
abbrev Storage : IntType → Type
  | u8 => UInt8
  | u16 => UInt16
  | u32 => UInt32

def size : IntType → ℕ
  | u8 => 1
  | u16 => 2
  | u32 => 4

def toNat : (t : IntType) → t.Storage → ℕ
  | u8, n => n.toNat
  | u16, n => n.toNat
  | u32, n => n.toNat

def store : (t : IntType) → ℕ → t.Storage
  | u8, n => UInt8.ofNat n
  | u16, n => UInt16.ofNat n
  | u32, n => UInt32.ofNat n

/-- The bytes of an integer in memory. -/
def toBytes (t : IntType) (n : t.Storage) : Bytes := LittleEndian.toBytes t.size (t.toNat n)

def ofBytes (t : IntType) (bs : Bytes) : t.Storage := t.store (LittleEndian.value bs)

theorem toNat_lt (t : IntType) (n : t.Storage) : t.toNat n < 256 ^ t.size := by
  cases t with
  | u8 => exact UInt8.toNat_lt n
  | u16 => exact UInt16.toNat_lt n
  | u32 => exact UInt32.toNat_lt n

theorem toNat_store (t : IntType) {n : ℕ} (h : n < 256 ^ t.size) : t.toNat (t.store n) = n := by
  cases t with
  | u8 => exact UInt8.toNat_ofNat_of_lt' h
  | u16 => exact UInt16.toNat_ofNat_of_lt' h
  | u32 => exact UInt32.toNat_ofNat_of_lt' h

@[simp] theorem store_toNat (t : IntType) (n : t.Storage) : t.store (t.toNat n) = n := by
  cases t with
  | u8 => exact UInt8.ofNat_toNat
  | u16 => exact UInt16.ofNat_toNat
  | u32 => exact UInt32.ofNat_toNat

@[simp] theorem toBytes_length (t : IntType) (n : t.Storage) : (t.toBytes n).length = t.size := by
  simp [toBytes]

@[simp] theorem ofBytes_toBytes (t : IntType) (n : t.Storage) : t.ofBytes (t.toBytes n) = n := by
  rw [ofBytes, toBytes, LittleEndian.value_toBytes, Nat.mod_eq_of_lt (t.toNat_lt n), store_toNat]

theorem toBytes_ofBytes (t : IntType) {bs : Bytes} (h : bs.length = t.size) :
    t.toBytes (t.ofBytes bs) = bs := by
  have hlt := LittleEndian.value_lt bs
  rw [h] at hlt
  rw [ofBytes, toBytes, toNat_store t hlt, ← h, LittleEndian.toBytes_value]

/-- The bytes of the right number are the integers of a type. -/
def bytesEquiv (t : IntType) : { bs : Bytes // bs.length = t.size } ≃ t.Storage where
  toFun bs := t.ofBytes bs.val
  invFun n := ⟨t.toBytes n, t.toBytes_length n⟩
  left_inv bs := Subtype.ext (t.toBytes_ofBytes bs.property)
  right_inv n := t.ofBytes_toBytes n

end IntType

/-- The integer members already read, the latest first. -/
abbrev Env := List (String × ℕ)

/-- The C++ expressions given as `:read_length`. -/
inductive ReadLength
  | const (n : ℕ)
  /-- `m_name`, a member of the same structure. -/
  | field (name : String)
  /-- `stream.remainingBytes()`. -/
  | remainingBytes
  /-- Any other expression over the members already read. -/
  | expr (f : Env → ℕ)

/-- A length that mentions a member not read yet has no value. -/
def ReadLength.eval (env : Env) (remaining : ℕ) : ReadLength → Option ℕ
  | .const n => some n
  | .field name => env.lookup name
  | .remainingBytes => some remaining
  | .expr f => some (f env)

def ReadLength.UsesRemaining : ReadLength → Prop
  | .remainingBytes => True
  | _ => False

theorem ReadLength.eval_remaining {l : ReadLength} (h : ¬ l.UsesRemaining) (env : Env) (m n : ℕ) :
    l.eval env m = l.eval env n := by
  cases l with
  | remainingBytes => exact absurd trivial h
  | _ => rfl

inductive Field
  | int (name : String) (type : IntType)
  | data (name : String) (size : ℕ)
  | vector (name : String) (readLength : ReadLength)
  | array (name : String) (readLength : ReadLength) (item : List Field)

/-- The declarations `u8`, `u16` and `u32` of an integer field. -/
abbrev Field.u8 (name : String) : Field := .int name .u8
abbrev Field.u16 (name : String) : Field := .int name .u16
abbrev Field.u32 (name : String) : Field := .int name .u32

mutual
/-- The member a field becomes in the generated class. -/
def Field.Value : Field → Type
  | .int _ t => t.Storage
  | .data _ size => { data : Bytes // data.length = size }
  | .vector _ _ => Bytes
  | .array _ _ item => List (Struct item)
/-- The members of the class generated from a list of fields. -/
def Struct : List Field → Type
  | [] => Unit
  | f :: fs => f.Value × Struct fs
end

/-- The members visible to a later `:read_length` once a field has been read. -/
def Field.declare : (f : Field) → f.Value → Env → Env
  | .int name t, n, env => (name, t.toNat n) :: env
  | .data _ _, _, env => env
  | .vector _ _, _, env => env
  | .array _ _ _, _, env => env

/-- What memory has held before, and how many elements a vector finds room for. -/
structure Memory where
  contents : ℕ → UInt8
  fits : ℕ → Bool

namespace Memory

/-- `std::vector::resize`, which ends the process where it finds no room. -/
def resize {α : Type} (memory : Memory) (items : List α) (size : ℕ) (item : α) : Option (List α) :=
  if memory.fits size then some (items.take size ++ List.replicate (size - items.length) item) else none

/-- The bytes from an offset on. -/
def bytes (memory : Memory) (offset size : ℕ) : { data : Bytes // data.length = size } :=
  ⟨List.ofFn fun i : Fin size => memory.contents (offset + i), List.length_ofFn⟩

/-- Memory that has been cleared. -/
def cleared (memory : Memory) : Memory := { memory with contents := fun _ => 0 }

end Memory

/-- A member of a new object, and where the next one begins. -/
def Field.new (memory : Memory) (offset : ℕ) : (f : Field) → f.Value × ℕ
  | .int _ t => (t.bytesEquiv (memory.bytes offset t.size), offset + t.size)
  | .data _ size => (memory.bytes offset size, offset + size)
  | .vector _ _ => (([] : Bytes), offset)
  | .array _ _ item => (([] : List (Struct item)), offset)

/-- A new object: it has no constructor that sets a member, so that those without one of their own hold
what the memory has held. -/
def newStructure (memory : Memory) : (fs : List Field) → (offset : ℕ) → Struct fs
  | [], _ => ()
  | f :: fs, offset =>
    let (v, offset) := f.new memory offset
    (v, newStructure memory fs offset)

/-- The loop over the items of an array, left where one of them is. -/
def readItems {α : Type} (read : α → DataStream → Option (α × DataStream × Bool)) :
    List α → DataStream → Option (List α × DataStream × Bool)
  | [], s => some ([], s, true)
  | item :: items, s => do
    let (item, s, finished) ← read item s
    if finished then
      let (items, s, finished) ← readItems read items s
      return (item :: items, s, finished)
    else return (item :: items, s, false)

/-- The same loop in the message itself, where control comes back to it. -/
def readAllItems {α : Type} (read : α → DataStream → Option (α × DataStream × Bool)) :
    List α → DataStream → Option (List α × DataStream)
  | [], s => some ([], s)
  | item :: items, s => do
    let (item, s, _) ← read item s
    let (items, s) ← readAllItems read items s
    return (item :: items, s)

section
variable (memory : Memory)

mutual
/-- The statements of the generated `readFromStream` of an item for one field: the member they leave, and
whether control goes on behind them. The items of a resized array have been cleared. -/
def Field.readFromStream : (f : Field) → f.Value → Env → DataStream → Option (f.Value × DataStream × Bool)
  | .int _ t, old, _, s => some (s.readInto old t.size t.bytesEquiv)
  | .data _ size, old, _, s => some (s.readInto old size id)
  | .vector _ readLength, old, env, s => do
    let size ← readLength.eval env s.remainingBytes
    let data ← memory.resize old size 0
    return s.readInto data size Subtype.val
  | .array _ readLength item, old, env, s => do
    let size ← readLength.eval env s.remainingBytes
    let items ← memory.resize old size (newStructure memory.cleared item 0)
    readItems (fun old s => readStructure item old [] s) items s
/-- The body of the generated `readFromStream` of an item: every field in order. -/
def readStructure : (fs : List Field) → Struct fs → Env → DataStream →
    Option (Struct fs × DataStream × Bool)
  | [], _, _, s => some ((), s, true)
  | f :: fs, old, env, s => do
    let (v, s, finished) ← f.readFromStream old.1 env s
    if finished then
      let (vs, s, finished) ← readStructure fs old.2 (f.declare v env) s
      return ((v, vs), s, finished)
    else return ((v, old.2), s, false)
end

/-- The statements of a message for one field. Where a read of theirs throws, they go on behind the call
that they have made. -/
def Field.readCaught : (f : Field) → f.Value → Env → DataStream → Option (f.Value × DataStream)
  | .array _ readLength item, old, env, s => do
    let size ← readLength.eval env s.remainingBytes
    let items ← memory.resize old size (newStructure memory.cleared item 0)
    readAllItems (fun old s => readStructure memory item old [] s) items s
  | f, old, env, s => (f.readFromStream memory old env s).map fun r => (r.1, r.2.1)

/-- The body of the generated `readFromStream` of a message. -/
def readMessage : (fs : List Field) → Struct fs → Env → DataStream → Option (Struct fs × DataStream)
  | [], _, _, s => some ((), s)
  | f :: fs, old, env, s => do
    let (v, s) ← f.readCaught memory old.1 env s
    let (vs, s) ← readMessage fs old.2 (f.declare v env) s
    return ((v, vs), s)

end

mutual
/-- The statements of the generated `writeToStream` of an item for one field. -/
def Field.writeToStream : (f : Field) → f.Value → DataStream → Option DataStream
  | .int _ t, n, s => s.writeRawData (t.toBytes n)
  | .data _ _, data, s => s.writeRawData data.val
  | .vector _ _, data, s => s.writeRawData data
  | .array _ _ item, items, s => List.foldlM (fun s v => writeStructure item v s) s items
/-- The body of the generated `writeToStream` of an item: every field in order. -/
def writeStructure : (fs : List Field) → Struct fs → DataStream → Option DataStream
  | [], _, s => some s
  | f :: fs, v, s => do
    let s ← f.writeToStream v.1 s
    writeStructure fs v.2 s
end

/-- The statements of a message for one field. Nothing has been written where a write throws, as it is
not the mode of the stream. -/
def Field.writeCaught (f : Field) (v : f.Value) (s : DataStream) : DataStream :=
  (f.writeToStream v s).getD s

/-- The body of the generated `writeToStream` of a message. -/
def writeMessage : (fs : List Field) → Struct fs → DataStream → DataStream
  | [], _, s => s
  | f :: fs, v, s => writeMessage fs v.2 (f.writeCaught v.1 s)

end FreeRil
