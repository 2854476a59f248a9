import FreeRil.Compiler.Reading

/-! The generated readers one statement at a time, on the bytes that are left. -/
namespace FreeRil
open DataStream

namespace DataStream
variable {α : Type} {before input : Bytes} {old : α} {size : ℕ}
  {value : { data : Bytes // data.length = size } → α}

theorem readInto_short (h : input.length < size) :
    (reading before input).readInto old size value = (old, reading before input, false) := by
  have hnone : (reading before input).readRawData size = none := by
    rw [readRawData, if_neg (by simp [reading]), dif_pos (by rwa [remainingBytes_reading])]
  rw [readInto, hnone]

theorem readInto_append (data : { data : Bytes // data.length = size }) :
    (reading before (data.val ++ input)).readInto old size value =
      (value data, reading (before ++ data.val) input, true) :=
  readInto_some ((readRawData_reads size before _ data _).mpr ⟨input, rfl, rfl, trivial⟩)

/-- A read takes the first bytes that are left, or none. -/
theorem readInto_reading : (reading before input).readInto old size value =
    if h : size ≤ input.length then
      (value ⟨input.take size, by simpa using h⟩,
        reading (before ++ input.take size) (input.drop size), true)
    else (old, reading before input, false) := by
  split
  next h =>
    have hread := @readInto_append α before (input.drop size) old size value
      ⟨input.take size, by simpa using h⟩
    rwa [List.take_append_drop] at hread
  next h => exact readInto_short (not_le.mp h)

end DataStream

/-- A new vector is filled up. -/
theorem Memory.resize_nil {α : Type} (memory : Memory) (size : ℕ) (item : α) :
    memory.resize [] size item =
      if memory.fits size then some (List.replicate size item) else none := by
  simp [Memory.resize]

theorem readAllItems_length {α : Type} {read : α → DataStream → Option (α × DataStream × Bool)}
    {olds : List α}
    {s : DataStream} {r : List α × DataStream} (h : readAllItems read olds s = some r) :
    r.1.length = olds.length := by
  induction olds generalizing s r with
  | nil =>
    obtain rfl := Option.some.inj h
    rfl
  | cons old olds ih =>
    obtain ⟨⟨v, s₁, finished⟩, -, hrest⟩ := Option.bind_eq_some_iff.mp h
    obtain ⟨⟨rest, s₂⟩, hloop, hr⟩ := Option.bind_eq_some_iff.mp hrest
    obtain rfl := Option.some.inj hr
    rw [List.length_cons, List.length_cons, ← ih hloop]

theorem Memory.new_u8 (memory : Memory) (name : String) :
    ((Field.u8 name).new memory 0).1 = memory.contents 0 := by
  have hbytes : (memory.bytes 0 1).val = [memory.contents 0] := rfl
  change IntType.u8.ofBytes (memory.bytes 0 1).val = memory.contents 0
  rw [hbytes]
  simp [IntType.ofBytes, IntType.store, LittleEndian.value]

section
variable {memory : Memory} {name : String} {f : Field} {fs : List Field} {env : Env}
    {before input : Bytes}
  {s : DataStream}

theorem readMessage_cons {old : Struct (f :: fs)} {r : Struct (f :: fs) × DataStream} :
    readMessage memory (f :: fs) old env s = some r ↔ ∃ s₁,
      f.readCaught memory old.1 env s = some (r.1.1, s₁) ∧
        readMessage memory fs old.2 (f.declare r.1.1 env) s₁ = some (r.1.2, r.2) := by
  obtain ⟨⟨v, vs⟩, s'⟩ := r
  constructor
  · intro h
    obtain ⟨⟨v', s₁⟩, hv, hrest⟩ := Option.bind_eq_some_iff.mp h
    obtain ⟨⟨vs', s₂⟩, hvs, hr⟩ := Option.bind_eq_some_iff.mp hrest
    cases Option.some.inj hr
    exact ⟨s₁, hv, hvs⟩
  · rintro ⟨s₁, hv, hvs⟩
    exact Option.bind_eq_some_iff.mpr ⟨_, hv, Option.bind_eq_some_iff.mpr ⟨_, hvs, rfl⟩⟩

/-- A vector of a message has the size that has been asked for, whatever has been read of it. -/
theorem readCaught_vector_length {readLength : ReadLength}
    {old : (Field.vector name readLength).Value}
    {r : Bytes × DataStream} (h : (Field.vector name readLength).readCaught memory old env s =
      some r) :
    readLength.eval env s.remainingBytes = some r.1.length := by
  obtain ⟨r', hread, rfl⟩ := Option.map_eq_some_iff.mp h
  obtain ⟨size, hsize, hread⟩ := Option.bind_eq_some_iff.mp hread
  obtain ⟨data, hresize, hread⟩ := Option.bind_eq_some_iff.mp hread
  obtain rfl := Option.some.inj hread
  refine hsize.trans (congrArg some ?_)
  unfold readInto
  split
  next data s' _ => exact data.property.symm
  next => exact (Memory.resize_length hresize).1.symm

/-- So has an array. -/
theorem readCaught_array_length {readLength : ReadLength} {item : List Field}
    {old : (Field.array name readLength item).Value} {r : List (Struct item) × DataStream}
    (h : (Field.array name readLength item).readCaught memory old env s = some r) :
    readLength.eval env s.remainingBytes = some r.1.length := by
  rw [Field.readCaught_array] at h
  obtain ⟨size, hsize, h⟩ := Option.bind_eq_some_iff.mp h
  obtain ⟨items, hresize, h⟩ := Option.bind_eq_some_iff.mp h
  rw [hsize, readAllItems_length h, (Memory.resize_length hresize).1]

/-- The items of a new array have been cleared before they are read. -/
theorem readCaught_array_nil {readLength : ReadLength} {item : List Field}
    {old : (Field.array name readLength item).Value} {size : ℕ}
    (hold : old = ([] : List (Struct item)))
    (hsize : readLength.eval env s.remainingBytes = some size) {r : List (Struct item) × DataStream}
    (h : (Field.array name readLength item).readCaught memory old env s = some r) :
    readAllItems (fun old s => readStructure memory item old [] s)
      (List.replicate size (newStructure memory.cleared item 0)) s = some r := by
  rw [Field.readCaught_array, hsize, Option.bind_some] at h
  obtain ⟨items, hresize, h⟩ := Option.bind_eq_some_iff.mp h
  have hfits := (Memory.resize_length hresize).2
  rw [hold, Memory.resize_nil, if_pos hfits] at hresize
  rw [Option.some.inj hresize]
  exact h

/-- An integer of a message is that of the first bytes, or what has been there before. -/
theorem readCaught_int {t : IntType} (old : t.Storage) :
    (Field.int name t).readCaught memory old env
    (reading before input) = some (if t.size ≤ input.length then
      (t.ofBytes (input.take t.size), reading (before ++ input.take t.size) (input.drop t.size))
    else (old, reading before input)) := by
  refine congrArg some ?_
  change (fun r => (r.1, r.2.1)) ((reading before input).readInto old t.size t.bytesEquiv) = _
  rw [readInto_reading]
  split <;> rfl

/-- The first byte of a payload, or what has been there before. -/
theorem readCaught_first {old : (Field.u8 name).Value} {payload : Bytes} :
    (Field.u8 name).readCaught memory old env (.init payload .Read) =
      some (payload.headD old, reading (payload.take 1) payload.tail) := by
  cases payload with
  | nil => exact @readCaught_int memory name env [] [] .u8 old
  | cons b rest =>
    have hbyte : IntType.u8.ofBytes [b] = b := by
      simp [IntType.ofBytes, IntType.store, LittleEndian.value]
    have hread := @readCaught_int memory name env [] (b :: rest) .u8 old
    rw [if_pos (show IntType.u8.size ≤ (b :: rest).length from Nat.le_add_left 1 _)] at hread
    refine hread.trans ?_
    change some (IntType.u8.ofBytes [b], reading [b] rest) = _
    rw [hbyte]
    rfl

theorem readStructure_finished {old : Struct (f :: fs)} {v : f.Value} {s₁ : DataStream}
    (h : f.readFromStream memory old.1 env s = some (v, s₁, true)) :
    readStructure memory (f :: fs) old env s =
      (readStructure memory fs old.2 (f.declare v env) s₁).map fun r => ((v, r.1), r.2) := by
  rw [readStructure, h]
  exact Option.map_eq_bind.symm

theorem readStructure_left {old : Struct (f :: fs)} {v : f.Value} {s₁ : DataStream}
    (h : f.readFromStream memory old.1 env s = some (v, s₁, false)) :
    readStructure memory (f :: fs) old env s = some ((v, old.2), s₁, false) := by
  rw [readStructure, h]
  rfl

/-- The first member of an item is what has been read for it, wherever the item is left. -/
theorem readStructure_head {old : Struct (f :: fs)} {r : Struct (f :: fs) × DataStream × Bool}
    (h : readStructure memory (f :: fs) old env s = some r) :
    ∃ s₁ finished, f.readFromStream memory old.1 env s = some (r.1.1, s₁, finished) := by
  obtain ⟨⟨v, s₁, finished⟩, hv, hrest⟩ := Option.bind_eq_some_iff.mp h
  refine ⟨s₁, finished, hv.trans (congrArg (fun v => some (v, s₁, finished)) ?_)⟩
  cases finished with
  | true =>
    obtain ⟨r', -, rfl⟩ := Option.map_eq_some_iff.mp (Option.map_eq_bind.trans hrest)
    rfl
  | false =>
    obtain rfl := Option.some.inj hrest
    rfl

theorem readFromStream_int {t : IntType} (old : t.Storage) :
    (Field.int name t).readFromStream memory old env (reading before input) = some
      (if t.size ≤ input.length then
        (t.ofBytes (input.take t.size), reading (before ++ input.take t.size) (input.drop t.size),
          true)
      else (old, reading before input, false)) := by
  refine congrArg some ?_
  change (reading before input).readInto old t.size t.bytesEquiv = _
  rw [readInto_reading]
  split <;> rfl

/-- A byte of an item is the next one, or the item is left at it. -/
theorem readStructure_u8_cons (old : Struct (.u8 name :: fs)) (b : UInt8) (input : Bytes) :
    readStructure memory (.u8 name :: fs) old env (reading before (b :: input)) =
      (readStructure memory fs old.2 ((name, b.toNat) :: env) (reading (before ++ [b]) input)).map
      fun r =>
        ((b, r.1), r.2) := by
  have hbyte : IntType.u8.ofBytes [b] = b := by
    simp [IntType.ofBytes, IntType.store, LittleEndian.value]
  have hread := @readFromStream_int memory name env before (b :: input) .u8 old.1
  rw [if_pos (show IntType.u8.size ≤ (b :: input).length from Nat.le_add_left 1 _)] at hread
  refine (readStructure_finished hread).trans ?_
  change Option.map (fun r => ((IntType.u8.ofBytes [b], r.1), r.2)) (readStructure memory fs old.2
    ((name, IntType.u8.toNat (IntType.u8.ofBytes [b])) :: env) (reading (before ++ [b]) input)) = _
  rw [hbyte]
  rfl

theorem readStructure_u8_nil (old : Struct (.u8 name :: fs)) :
    readStructure memory (.u8 name :: fs) old env (reading before []) =
      some (old, reading before [], false) :=
  readStructure_left (@readFromStream_int memory name env before [] .u8 old.1)

/-- So are two bytes. -/
theorem readStructure_u16_cons (old : Struct (.u16 name :: fs)) (a b : UInt8) (input : Bytes) :
    readStructure memory (.u16 name :: fs) old env (reading before (a :: b :: input)) =
      (readStructure memory fs old.2 ((name, UInt16.toNat (IntType.u16.ofBytes [a, b])) :: env)
        (reading (before ++ [a, b]) input)).map fun r =>
        ((IntType.u16.ofBytes [a, b], r.1), r.2) := by
  have hread := @readFromStream_int memory name env before (a :: b :: input) .u16 old.1
  rw [if_pos (show IntType.u16.size ≤ (a :: b :: input).length from Nat.le_add_left 2 _)] at hread
  exact readStructure_finished hread

theorem readStructure_u16_short (old : Struct (.u16 name :: fs)) (h : input.length < 2) :
    readStructure memory (.u16 name :: fs) old env (reading before input) =
      some (old, reading before input, false) := by
  have hread := @readFromStream_int memory name env before input .u16 old.1
  rw [if_neg (show ¬ IntType.u16.size ≤ input.length from not_le.mpr h)] at hread
  exact readStructure_left hread

/-- A vector has the size that has been asked for, whatever has been read of it. -/
theorem readFromStream_vector {readLength : ReadLength} {old : (Field.vector name readLength).Value}
    {size : ℕ}
    (hsize : readLength.eval env input.length = some size) {r : Bytes × DataStream × Bool}
    (h : (Field.vector name readLength).readFromStream memory old env (reading before input) =
      some r) :
    r.1.length = size ∧ r.2 = if size ≤ input.length then
      (reading (before ++ input.take size) (input.drop size), true)
      else (reading before input, false) := by
  obtain ⟨size', hsize', h⟩ := Option.bind_eq_some_iff.mp h
  obtain ⟨data, hresize, h⟩ := Option.bind_eq_some_iff.mp h
  rw [remainingBytes_reading, hsize, Option.some.injEq] at hsize'
  subst hsize'
  have hlength := (Memory.resize_length hresize).1
  have hr := (@readInto_reading Bytes before input data size Subtype.val).symm.trans
    (Option.some.inj h)
  subst hr
  split
  next hle => exact ⟨by simpa using hle, rfl⟩
  next => exact ⟨hlength, rfl⟩

end
end FreeRil
