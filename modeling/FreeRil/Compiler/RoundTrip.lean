import FreeRil.Protocol

/-! The wire format. `wire` is what a value stands for on the wire, and `Sized` says that its vectors and
arrays have the sizes their `:read_length` prescribes. `readWhole` reads a value none of whose bytes are
missing; it is the reader that the generated one is compared with. -/
namespace FreeRil
open Reader

mutual
/-- Read one member. -/
def Field.readWhole : (f : Field) → Env → DataStream → Option (f.Value × DataStream)
  | .int _ t, _, s => (s.readRawData t.size).map fun p => (t.bytesEquiv p.1, p.2)
  | .data _ size, _, s => s.readRawData size
  | .vector _ readLength, env, s => do
    let size ← readLength.eval env s.remainingBytes
    (s.readRawData size).map fun p => (p.1.val, p.2)
  | .array _ readLength item, env, s => do
    let size ← readLength.eval env s.remainingBytes
    Reader.many (readWholeStructure item []) size s
/-- Read the members of a structure, in the order of its fields. -/
def readWholeStructure : (fs : List Field) → Env → DataStream → Option (Struct fs × DataStream)
  | [], _, s => some ((), s)
  | f :: fs, env, s =>
    Reader.pair (f.readWhole env) (fun v => readWholeStructure fs (f.declare v env)) s
end

mutual
/-- The bytes of one member. -/
def Field.wire : (f : Field) → f.Value → Bytes
  | .int _ t, n => t.toBytes n
  | .data _ _, data => data.val
  | .vector _ _, data => data
  | .array _ _ item, items => wires (wireStructure item) items
/-- The bytes of a structure, in the order of its fields. -/
def wireStructure : (fs : List Field) → Struct fs → Bytes
  | [], _ => []
  | f :: fs, v => f.wire v.1 ++ wireStructure fs v.2
end

mutual
/-- A member has the size its `:read_length` evaluates to, `after` bytes following it. -/
def Field.Sized : (f : Field) → Env → f.Value → ℕ → Prop
  | .int _ _, _, _, _ => True
  | .data _ _, _, _, _ => True
  | .vector _ readLength, env, data, after =>
    readLength.eval env (List.length data + after) = some (List.length data)
  | .array _ readLength item, env, items, after =>
    readLength.eval env ((wires (wireStructure item) items).length + after) =
        some (List.length items) ∧
      AllOk (wireStructure item) (fun v n => SizedStructure item [] v n) items after
/-- Every member of a structure has the size its `:read_length` evaluates to. -/
def SizedStructure : (fs : List Field) → Env → Struct fs → ℕ → Prop
  | [], _, _, _ => True
  | f :: fs, env, v, after =>
    f.Sized env v.1 ((wireStructure fs v.2).length + after) ∧
      SizedStructure fs (f.declare v.1 env) v.2 after
end

theorem readVector_reads (size : ℕ) :
    Reads DataStream.reading (fun s => (s.readRawData size).map fun p => (p.1.val, p.2))
      (fun data => data) (fun data _ => data.length = size ∧ True) :=
  Reads.val (DataStream.readRawData_reads size)

mutual
/-- What is read of a field are the bytes of the member it is read as. -/
theorem Field.readWhole_reads : ∀ (f : Field) (env : Env),
    Reads DataStream.reading (f.readWhole env) f.wire (f.Sized env)
  | .int _ t, _ => (DataStream.readRawData_reads t.size).map t.bytesEquiv
  | .data _ size, _ => DataStream.readRawData_reads size
  | .vector _ readLength, env =>
    (Reads.sized (readLength.eval env) DataStream.remainingBytes_reading readVector_reads).congr_ok
      fun _ _ => iff_of_eq (and_true _)
  | .array _ readLength item, env =>
    Reads.sized (readLength.eval env) DataStream.remainingBytes_reading
      (fun size => (readWholeStructure_reads item []).many size)
/-- What is read of a structure are its bytes. -/
theorem readWholeStructure_reads : ∀ (fs : List Field) (env : Env),
    Reads DataStream.reading (readWholeStructure fs env) (wireStructure fs) (SizedStructure fs env)
  | [], _ => by
    intro before input v s
    constructor
    · intro h
      obtain ⟨-, rfl⟩ := by simpa [readWholeStructure] using h
      exact ⟨input, rfl, by simp [wireStructure], trivial⟩
    · rintro ⟨rest, rfl, rfl, -⟩
      cases v
      simp [readWholeStructure, wireStructure]
  | f :: fs, env =>
    (Field.readWhole_reads f env).pair fun v => readWholeStructure_reads fs (f.declare v env)
end

theorem foldlM_written {α : Type} {write : α → DataStream → Option DataStream} {wire : α → Bytes}
    (h : ∀ v front, write v (.written front) = some (.written (front ++ wire v)))
    (items : List α) (front : Bytes) :
    items.foldlM (fun s v => write v s) (.written front) =
      some (.written (front ++ wires wire items)) := by
  induction items generalizing front with
  | nil => simp
  | cons v items ih => simp [List.foldlM_cons, h, ih]

mutual
theorem Field.writeToStream_written : ∀ (f : Field) (v : f.Value) (front : Bytes),
    f.writeToStream v (.written front) = some (.written (front ++ f.wire v))
  | .int _ t, n, front => DataStream.writeRawData_written front (t.toBytes n)
  | .data _ _, data, front => DataStream.writeRawData_written front data.val
  | .vector _ _, data, front => DataStream.writeRawData_written front data
  | .array _ _ item, items, front =>
    foldlM_written (fun v front => writeStructure_written item v front) items front
/-- A structure appends its bytes to a stream that is written. -/
theorem writeStructure_written : ∀ (fs : List Field) (v : Struct fs) (front : Bytes),
    writeStructure fs v (.written front) = some (.written (front ++ wireStructure fs v))
  | [], _, front => by simp [writeStructure, wireStructure]
  | f :: fs, v, front => by
    simp only [writeStructure, Field.writeToStream_written f v.1 front, Option.bind_eq_bind,
      Option.bind_some, writeStructure_written fs v.2, wireStructure, List.append_assoc]
end

/-- So does a message. -/
theorem writeMessage_written (fs : List Field) (v : Struct fs) (front : Bytes) :
    writeMessage fs v (.written front) = .written (front ++ wireStructure fs v) := by
  induction fs generalizing front with
  | nil => simp [writeMessage, wireStructure]
  | cons f fs ih =>
    rw [writeMessage, Field.writeCaught, Field.writeToStream_written, Option.getD_some, ih, wireStructure,
      List.append_assoc]

mutual
/-- No `:read_length` of the field mentions `stream.remainingBytes()`. -/
def Field.NoRemaining : Field → Prop
  | .int _ _ => True
  | .data _ _ => True
  | .vector _ readLength => ¬ readLength.UsesRemaining
  | .array _ readLength item => ¬ readLength.UsesRemaining ∧ StructureNoRemaining item
def StructureNoRemaining : List Field → Prop
  | [] => True
  | f :: fs => f.NoRemaining ∧ StructureNoRemaining fs
end

mutual
theorem Field.sized_after : ∀ (f : Field), f.NoRemaining → ∀ (env : Env) (v : f.Value) (m n : ℕ),
    f.Sized env v m → f.Sized env v n
  | .int _ _, _, _, _, _, _, _ => trivial
  | .data _ _, _, _, _, _, _, _ => trivial
  | .vector _ _, h, env, _, _, _, hsize => (ReadLength.eval_remaining h env _ _).trans hsize
  | .array _ _ item, h, env, _, _, _, hsize =>
    ⟨(ReadLength.eval_remaining h.1 env _ _).trans hsize.1,
      hsize.2.imp fun v i j => structure_sized_after item h.2 [] v i j⟩
/-- Without `remainingBytes` the sizes of a structure do not depend on what follows it. -/
theorem structure_sized_after : ∀ (fs : List Field), StructureNoRemaining fs →
    ∀ (env : Env) (v : Struct fs) (m n : ℕ), SizedStructure fs env v m → SizedStructure fs env v n
  | [], _, _, _, _, _, _ => trivial
  | f :: fs, h, env, v, _, _, hsize =>
    ⟨Field.sized_after f h.1 env v.1 _ _ hsize.1,
      structure_sized_after fs h.2 (f.declare v.1 env) v.2 _ _ hsize.2⟩
end

/-- The number of bytes of a field, where its declaration fixes it. -/
def Field.fixedSize : Field → Option ℕ
  | .int _ t => some t.size
  | .data _ size => some size
  | .vector _ (.const size) => some size
  | _ => none

def fixedSize : List Field → Option ℕ
  | [] => some 0
  | f :: fs => do return (← f.fixedSize) + (← fixedSize fs)

theorem Field.wire_length {f : Field} {env : Env} {v : f.Value} {after n : ℕ}
    (h : f.Sized env v after) (hsize : f.fixedSize = some n) : (f.wire v).length = n := by
  cases f with
  | int name t =>
    obtain rfl : t.size = n := Option.some.inj hsize
    exact t.toBytes_length v
  | data name size =>
    obtain rfl : size = n := Option.some.inj hsize
    exact v.property
  | vector name readLength =>
    cases readLength with
    | const size =>
      obtain rfl : size = n := Option.some.inj hsize
      exact (Option.some.inj h).symm
    | _ => contradiction
  | array name readLength item => contradiction

/-- Structures of fixed size have that many bytes. -/
theorem wireStructure_length {fs : List Field} {env : Env} {v : Struct fs} {after n : ℕ}
    (h : SizedStructure fs env v after) (hsize : fixedSize fs = some n) :
    (wireStructure fs v).length = n := by
  induction fs generalizing env n with
  | nil => exact Option.some.inj hsize
  | cons f fs ih =>
    obtain ⟨a, ha, hrest⟩ := Option.bind_eq_some_iff.mp hsize
    obtain ⟨b, hb, hsum⟩ := Option.bind_eq_some_iff.mp hrest
    obtain rfl : a + b = n := Option.some.inj hsum
    rw [wireStructure, List.length_append, Field.wire_length h.1 ha, ih h.2 hb]

/-- A field that is always of the same size. -/
def Field.isFixed : Field → Bool
  | .int _ _ | .data _ _ => true
  | .vector _ _ | .array _ _ _ => false

theorem sizedStructure_of_fixed {fs : List Field} (h : fs.all Field.isFixed = true) (env : Env)
    (v : Struct fs) (after : ℕ) : SizedStructure fs env v after := by
  induction fs generalizing env with
  | nil => trivial
  | cons f fs ih =>
    obtain ⟨hf, hfs⟩ := Bool.and_eq_true_iff.mp h
    refine ⟨?_, ih hfs _ v.2⟩
    cases f with
    | int name type => trivial
    | data name size => trivial
    | vector name readLength => contradiction
    | array name readLength item => contradiction

namespace MessageDefinition
variable (m : MessageDefinition)

/-- The bytes of a message. -/
def wire (v : Struct m.fields) : Bytes := wireStructure m.fields v

/-- Every vector and array of a message has the size its `:read_length` evaluates to. -/
def Sized (v : Struct m.fields) : Prop := SizedStructure m.fields [] v 0

def NoRemaining : Prop := StructureNoRemaining m.fields

/-- Read the members of a message. -/
def readWhole (s : DataStream) : Option (Struct m.fields × DataStream) := readWholeStructure m.fields [] s

theorem readWhole_reads : Reader.Reads DataStream.reading m.readWhole m.wire
    (SizedStructure m.fields []) := readWholeStructure_reads m.fields []

theorem writeToStream_init (v : Struct m.fields) :
    m.writeToStream v (.init [] .Write) = (true, .written (m.wire v)) :=
  congrArg (Prod.mk true) (writeMessage_written m.fields v [])

/-- A message is read from its wire. -/
theorem read_wire {v : Struct m.fields} (hsize : m.Sized v) :
    ∃ s, m.readWhole (.init (m.wire v) .Read) = some (v, s) ∧ s.atEnd = true := by
  refine ⟨_, m.readWhole_reads.roundtrip hsize, ?_⟩
  rw [DataStream.atEnd_iff, DataStream.remainingBytes_reading, List.length_nil]

/-- It is read from nothing else. -/
theorem wire_of_read {b : Bytes} {v : Struct m.fields} {s : DataStream}
    (hread : m.readWhole (.init b .Read) = some (v, s)) (hend : s.atEnd = true) :
    m.wire v = b ∧ m.Sized v :=
  m.readWhole_reads.canonical DataStream.remainingBytes_reading hread (s.atEnd_iff.mp hend)

/-- Different messages have different wires. -/
theorem wire_injective {v v' : Struct m.fields} (hsize : m.Sized v) (hsize' : m.Sized v')
    (h : m.wire v = m.wire v') : v = v' := by
  obtain ⟨s, hread, -⟩ := m.read_wire hsize
  obtain ⟨s', hread', -⟩ := m.read_wire hsize'
  rw [h, hread'] at hread
  exact (Prod.mk.inj (Option.some.inj hread)).1.symm

end MessageDefinition
end FreeRil
