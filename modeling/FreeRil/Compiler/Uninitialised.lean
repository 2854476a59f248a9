import FreeRil.Compiler.Truncated

/-! Which members of a message hold what its memory has held before it was read. -/
namespace FreeRil
open DataStream

/-- Every integer is among `n` bytes. A vector that has one of them as its length comes last. -/
def integersRead : List Field → (n : ℕ) → Bool
  | [], _ => true
  | .int _ t :: fs, n => t.size ≤ n ∧ integersRead fs (n - t.size)
  | .vector _ (.const size) :: fs, n => integersRead fs (if size ≤ n then n - size else n)
  | [.vector _ _], _ => true
  | _, _ => false

/-- A field that takes the same number of bytes whatever they are. -/
def Field.isSteady : Field → Bool
  | .int _ _ => true
  | .vector _ (.const _) => true
  | _ => false

section
variable {memory memory' : Memory}

theorem Memory.resize_congr (hfits : memory.fits = memory'.fits) {α : Type} (items : List α)
    (size : ℕ) (item : α) :
    memory.resize items size item = memory'.resize items size item := by
  rw [Memory.resize, Memory.resize, hfits]

theorem readCaught_vector_congr (hfits : memory.fits = memory'.fits) {name : String}
    {readLength : ReadLength}
    (old : (Field.vector name readLength).Value) (env : Env) (s : DataStream) :
    (Field.vector name readLength).readCaught memory old env s =
      (Field.vector name readLength).readCaught memory' old env s := by
  refine congrArg (Option.map fun r : Bytes × DataStream × Bool => (r.1, r.2.1)) ?_
  refine congrArg (Option.bind _) (funext fun size => ?_)
  exact congrArg (fun o => Option.bind o _) (Memory.resize_congr hfits old size 0)

theorem readCaught_vector_reading {name : String} {readLength : ReadLength} {size : ℕ} {env : Env}
    {before input : Bytes} (hsize : readLength.eval env input.length = some size)
    {old : (Field.vector name readLength).Value} {r : Bytes × DataStream}
    (h : (Field.vector name readLength).readCaught memory old env (reading before input) = some r) :
    ∃ before', r.2 = reading before' (if size ≤ input.length then input.drop size else input) := by
  obtain ⟨r', hread, rfl⟩ := Option.map_eq_some_iff.mp h
  have hs := (readFromStream_vector hsize hread).2
  dsimp only
  rw [hs]
  split
  · exact ⟨_, rfl⟩
  · exact ⟨_, rfl⟩

theorem readMessage_some {f : Field} {fs : List Field} {old : Struct (f :: fs)} {env : Env}
    {s s₁ : DataStream} {v : f.Value} (h : f.readCaught memory old.1 env s = some (v, s₁)) :
    readMessage memory (f :: fs) old env s =
      (readMessage memory fs old.2 (f.declare v env) s₁).map fun r => ((v, r.1), r.2) := by
  rw [readMessage, h]
  exact Option.map_eq_bind.symm

theorem readMessage_left {f : Field} {fs : List Field} {old : Struct (f :: fs)} {env : Env}
    {s s₁ : DataStream} {v : f.Value} (h : f.readCaught memory old.1 env s = some (v, s₁)) :
    (readMessage memory (f :: fs) old env s).map Prod.snd =
      (readMessage memory fs old.2 (f.declare v env) s₁).map Prod.snd :=
  (congrArg (Option.map Prod.snd) (readMessage_some h)).trans (Option.map_map _ _ _)

theorem readMessage_none {f : Field} {fs : List Field} {old : Struct (f :: fs)} {env : Env}
    {s : DataStream} (h : f.readCaught memory old.1 env s = none) :
    readMessage memory (f :: fs) old env s = none := by
  rw [readMessage, h]
  rfl

theorem readMessage_vector_congr (hfits : memory.fits = memory'.fits) {name : String}
    {readLength : ReadLength} {fs : List Field} {env : Env} {s : DataStream} {offset offset' : ℕ}
    (hrest : ∀ (data : Bytes) s₁, (Field.vector name readLength).readCaught memory
      ([] : Bytes) env s = some (data, s₁) →
      readMessage memory fs (newStructure memory fs offset) env s₁ =
        readMessage memory' fs (newStructure memory' fs offset') env s₁) :
    readMessage memory (.vector name readLength :: fs)
    (newStructure memory (.vector name readLength :: fs) offset)
        env s =
      readMessage memory' (.vector name readLength :: fs)
        (newStructure memory' (.vector name readLength :: fs) offset') env s := by
  have hread := @readCaught_vector_congr memory memory' hfits name readLength ([] : Bytes) env s
  cases hnew : (Field.vector name readLength).readCaught memory ([] : Bytes) env s with
  | none => rw [readMessage_none hnew, readMessage_none (hread.symm.trans hnew)]
  | some r =>
    obtain ⟨data, s₁⟩ := r
    rw [readMessage_some hnew, readMessage_some (hread.symm.trans hnew)]
    exact congrArg _ (hrest data s₁ hnew)

/-- Where every integer is read, nothing else that memory has held is. -/
theorem readMessage_congr (hfits : memory.fits = memory'.fits) {fs : List Field} {env : Env}
    {before input : Bytes} {offset offset' : ℕ} (h : integersRead fs input.length = true) :
    readMessage memory fs (newStructure memory fs offset) env (reading before input) =
      readMessage memory' fs (newStructure memory' fs offset') env (reading before input) := by
  induction fs generalizing env before input offset offset' with
  | nil => rfl
  | cons f fs ih =>
    match f, fs with
    | .int name t, fs =>
      obtain ⟨hle, hrest⟩ : t.size ≤ input.length ∧ integersRead fs (input.length - t.size) =
        true := by
        simpa [integersRead] using h
      have hint := fun memory old => @readCaught_int memory name env before input t old
      simp only [if_pos hle] at hint
      rw [readMessage_some (hint memory _), readMessage_some (hint memory' _)]
      refine congrArg _ (ih ?_)
      rwa [List.length_drop]
    | .vector name (.const size), fs =>
      refine readMessage_vector_congr hfits fun data s₁ hread => ?_
      have hsize : (ReadLength.const size).eval env input.length = some size := rfl
      obtain ⟨before', hs⟩ := readCaught_vector_reading hsize hread
      dsimp only at hs
      rw [hs]
      refine ih ?_
      rw [integersRead] at h
      split
      next hle => rwa [if_pos hle, ← List.length_drop] at h
      next hle => rwa [if_neg hle] at h
    | .vector name (.field length), [] => exact readMessage_vector_congr hfits fun _ _ _ => rfl
    | .vector name .remainingBytes, [] => exact readMessage_vector_congr hfits fun _ _ _ => rfl
    | .vector name (.expr g), [] => exact readMessage_vector_congr hfits fun _ _ _ => rfl

theorem readInto_snd {α : Type} (old old' : α) {size : ℕ}
    (value : { data : Bytes // data.length = size } → α)
    (s : DataStream) : (s.readInto old size value).2 = (s.readInto old' size value).2 := by
  unfold readInto
  cases s.readRawData size with
  | none => rfl
  | some r => rfl

theorem readCaught_steady (hfits : memory.fits = memory'.fits) {f : Field} (h : f.isSteady = true)
    (old old' : f.Value) (env env' : Env) (s : DataStream) :
    (f.readCaught memory old env s).map Prod.snd =
      (f.readCaught memory' old' env' s).map Prod.snd := by
  match f with
  | .int name t =>
    refine congrArg some ?_
    exact congrArg Prod.fst (readInto_snd old old' t.bytesEquiv s)
  | .vector name (.const size) =>
    change Option.map Prod.snd (Option.map _ ((memory.resize old size 0).bind _)) =
      Option.map Prod.snd (Option.map _ ((memory'.resize old' size 0).bind _))
    unfold Memory.resize
    rw [hfits]
    split
    · exact congrArg some (congrArg Prod.fst (readInto_snd _ _ _ s))
    · rfl

/-- Steady fields leave the stream where it is whatever memory has held. -/
theorem readMessage_steady (hfits : memory.fits = memory'.fits) {fs : List Field}
    (h : fs.all Field.isSteady = true) {old old' : Struct fs} {env env' : Env} {s : DataStream} :
    (readMessage memory fs old env s).map Prod.snd =
      (readMessage memory' fs old' env' s).map Prod.snd := by
  induction fs generalizing env env' s with
  | nil => rfl
  | cons f fs ih =>
    rw [List.all_cons, Bool.and_eq_true] at h
    have hread := readCaught_steady hfits h.1 old.1 old'.1 env env' s
    cases hnew : f.readCaught memory old.1 env s with
    | none =>
      rw [hnew, eq_comm, Option.map_none, Option.map_eq_none_iff] at hread
      rw [readMessage_none hnew, readMessage_none hread]
    | some r =>
      obtain ⟨v, s₁⟩ := r
      rw [hnew, eq_comm, Option.map_some, Option.map_eq_some_iff] at hread
      obtain ⟨⟨v', _⟩, hnew', rfl⟩ := hread
      exact (readMessage_left hnew).trans ((ih h.2).trans (readMessage_left hnew').symm)

/-- An integer behind the bytes that are there has been left alone. -/
theorem readMessage_second_unread {a b : String} {fs : List Field}
    {old : Struct (.u32 a :: .u32 b :: fs)}
    {env : Env} {before input : Bytes} {r : Struct (.u32 a :: .u32 b :: fs) × DataStream}
    (hlength : input.length < 8)
    (h : readMessage memory (.u32 a :: .u32 b :: fs) old env (reading before input) = some r) :
    r.1.2.1 = old.2.1 := by
  have hleft : ∀ (before input : Bytes) (r : UInt32 × DataStream) (old : UInt32) (env : Env),
    input.length < IntType.u32.size →
      (Field.u32 b).readCaught memory old env (reading before input) = some r → r.1 = old := by
    intro before input r old env hshort hread
    have hint := (@readCaught_int memory b env before input .u32 old).symm.trans hread
    rw [if_neg (not_le.mpr hshort)] at hint
    exact congrArg Prod.fst (Option.some.inj hint).symm
  obtain ⟨s₁, hfirst, hrest⟩ := readMessage_cons.mp h
  obtain ⟨s₂, hsecond, -⟩ := readMessage_cons.mp hrest
  have hint := (@readCaught_int memory a env before input .u32 old.1).symm.trans hfirst
  by_cases hle : IntType.u32.size ≤ input.length
  · rw [if_pos hle] at hint
    obtain rfl := congrArg Prod.snd (Option.some.inj hint)
    refine hleft _ _ _ _ _ ?_ hsecond
    rw [List.length_drop]
    change input.length - 4 < 4
    omega
  · rw [if_neg hle] at hint
    obtain rfl := congrArg Prod.snd (Option.some.inj hint)
    exact hleft _ _ _ _ _ (not_le.mp hle) hsecond

end

/-- Memory that has held other bytes everywhere. -/
def Memory.others (memory : Memory) : Memory :=
  { memory with contents := fun i => memory.contents i + 1 }

theorem Memory.bytes_others (memory : Memory) (offset size : ℕ) :
    memory.others.bytes offset (size + 1) ≠ memory.bytes offset (size + 1) := by
  intro h
  have hfirst := congrArg (fun data => data.val[0]?) h
  simp [Memory.bytes, Memory.others] at hfirst

theorem length_of_unread {a b : String} {fs : List Field} (hfs : ∀ n, integersRead fs n = true)
    {n : ℕ}
    (h : integersRead (.u32 a :: .u32 b :: fs) n = false) : n < 8 := by
  by_contra hle
  have hread : integersRead (.u32 a :: .u32 b :: fs) n = true := by
    simp only [integersRead, IntType.size, hfs, and_true, decide_eq_true_eq]
    omega
  exact Bool.false_ne_true (h.symm.trans hread)

/-- A second integer that is not read holds what memory has held in its place. -/
theorem readMessage_new_unread {a b : String} {fs : List Field} {memory : Memory} {input : Bytes}
    {r : Struct (.u32 a :: .u32 b :: fs) × DataStream} (hlength : input.length < 8)
    (h : readMessage memory (.u32 a :: .u32 b :: fs)
      (newStructure memory (.u32 a :: .u32 b :: fs) 0) []
      (.init input .Read) = some r) : r.1.2.1 = IntType.u32.bytesEquiv (memory.bytes 4 4) := by
  have hnew : (newStructure memory (.u32 a :: .u32 b :: fs) 0).2 =
    newStructure memory (.u32 b :: fs) 4 := rfl
  have hsecond : (newStructure memory (.u32 b :: fs) 4).1 =
    IntType.u32.bytesEquiv (memory.bytes 4 4) := rfl
  have hread : readMessage memory (.u32 a :: .u32 b :: fs)
    (newStructure memory (.u32 a :: .u32 b :: fs) 0) []
      (reading [] input) = some r := h
  rw [readMessage_second_unread hlength hread, ← hsecond, ← hnew]

namespace MessageDefinition
variable {m : MessageDefinition} {memory memory' : Memory} {payload : Bytes}

theorem readFromStream_congr (hfits : memory.fits = memory'.fits)
    (h : integersRead m.fields payload.length = true) :
    m.readFromStream memory (.init payload .Read) =
      m.readFromStream memory' (.init payload .Read) :=
  congrArg (Option.map fun r => (true, r))
    (@readMessage_congr memory memory' hfits m.fields [] [] payload 0 0 h)

theorem accepts_eq : m.accepts memory payload =
    ((readMessage memory m.fields (newStructure memory m.fields 0) [] (.init payload .Read)).map
      Prod.snd).any
      DataStream.atEnd := by
  have hread : m.readFromStream memory (.init payload .Read) =
      (readMessage memory m.fields (newStructure memory m.fields 0) [] (.init payload .Read)).map
        fun r =>
        (true, r) := rfl
  rw [accepts, hread]
  cases readMessage memory m.fields (newStructure memory m.fields 0) [] (.init payload .Read) with
  | none => rfl
  | some r => rfl

theorem accepts_steady (hfits : memory.fits = memory'.fits)
    (h : m.fields.all Field.isSteady = true) :
    m.accepts memory payload = m.accepts memory' payload := by
  rw [accepts_eq, accepts_eq, readMessage_steady hfits h]

theorem accepts_congr (hfits : memory.fits = memory'.fits)
    (h : integersRead m.fields payload.length = true) :
    m.accepts memory payload = m.accepts memory' payload := by
  unfold accepts
  rw [readFromStream_congr hfits h]

end MessageDefinition
end FreeRil
