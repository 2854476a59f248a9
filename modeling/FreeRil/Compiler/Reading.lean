import FreeRil.Compiler.RoundTrip

/-! What the generated readers make of any bytes. A read that finds too few of them is passed over,
and `readFromStream` returns true all the same; where each finds its bytes, it is the reader of the
wire format. -/
namespace FreeRil

namespace DataStream

theorem readInto_some {α : Type} {old : α} {size : ℕ}
    {value : { data : Bytes // data.length = size } → α}
    {data : { data : Bytes // data.length = size }} {s s' : DataStream}
    (h : s.readRawData size = some (data, s')) :
    s.readInto old size value = (value data, s', true) := by
  rw [readInto, h]

/-- A read takes the bytes it returns. -/
theorem readRawData_remaining {size : ℕ} {data : { data : Bytes // data.length = size }}
    {s s' : DataStream} (h : s.readRawData size = some (data, s')) :
    s.remainingBytes = s'.remainingBytes + size ∧ s'.m_mode = s.m_mode := by
  unfold readRawData at h
  split_ifs at h with hmode hsize
  obtain ⟨-, rfl⟩ := by simpa using h
  refine ⟨?_, rfl⟩
  simp only [remainingBytes] at hsize ⊢
  omega

/-- It fails where there are too few. -/
theorem remaining_lt_of_none {size : ℕ} {s : DataStream} (hmode : s.m_mode = .Read)
    (h : s.readRawData size = none) : s.remainingBytes < size := by
  by_contra hsize
  rw [readRawData, if_neg (by rw [hmode]; decide), dif_neg hsize] at h
  contradiction

end DataStream

namespace Memory
variable {α : Type} {memory : Memory} {items : List α} {size : ℕ} {item : α}

theorem resize_eq (h : memory.fits size = true) :
    ∃ items', memory.resize items size item = some items' ∧ items'.length = size := by
  refine ⟨_, if_pos h, ?_⟩
  rw [List.length_append, List.length_take, List.length_replicate]
  omega

theorem resize_length {items' : List α} (h : memory.resize items size item = some items') :
    items'.length = size ∧ memory.fits size = true := by
  unfold resize at h
  split_ifs at h with hfits
  obtain rfl := Option.some.inj h
  refine ⟨?_, hfits⟩
  rw [List.length_append, List.length_take, List.length_replicate]
  omega

end Memory

mutual
/-- There is room for the vectors and arrays of a member. -/
def Field.Fits (memory : Memory) : (f : Field) → f.Value → Prop
  | .int _ _, _ => True
  | .data _ _, _ => True
  | .vector _ _, data => memory.fits (List.length data) = true
  | .array _ _ item, items =>
    memory.fits (List.length items) =
      true ∧ List.Forall (fun v => FitsStructure memory item v) items
/-- There is room for those of a structure. -/
def FitsStructure (memory : Memory) : (fs : List Field) → Struct fs → Prop
  | [], _ => True
  | f :: fs, v => f.Fits memory v.1 ∧ FitsStructure memory fs v.2
end

mutual
theorem Field.fits_of_forall {memory : Memory} (hfits : ∀ size, memory.fits size = true) :
    ∀ (f : Field) (v : f.Value), f.Fits memory v
  | .int _ _, _ => trivial
  | .data _ _, _ => trivial
  | .vector _ _, _ => hfits _
  | .array _ _ item, _ =>
    ⟨hfits _, List.forall_iff_forall_mem.mpr fun v _ => structure_fits_of_forall hfits item v⟩
/-- Where there is always room, there is room for any structure. -/
theorem structure_fits_of_forall {memory : Memory} (hfits : ∀ size, memory.fits size = true) :
    ∀ (fs : List Field) (v : Struct fs), FitsStructure memory fs v
  | [], _ => trivial
  | f :: fs, v => ⟨Field.fits_of_forall hfits f v.1, structure_fits_of_forall hfits fs v.2⟩
end

/-! Where each read finds its bytes. -/

/-- A reader that leaves `v`, unless it ends the process for lack of room. -/
def Leaves {α σ : Type} (read : Option (α × σ)) (fits : Prop) (v : α) (s : σ) : Prop :=
  (fits → read = some (v, s)) ∧ ∀ r, read = some r → r = (v, s)

namespace Leaves
variable {α β σ τ : Type} {fits fits' : Prop} {v : α} {s : σ} {w : β} {t : τ}

theorem of_eq {read : Option (α × σ)} (h : read = some (v, s)) : Leaves read fits v s :=
  ⟨fun _ => h, fun _ hr => (Option.some.inj (h.symm.trans hr)).symm⟩

theorem bind {read : Option (α × σ)} {next : α × σ → Option (β × τ)} (h : Leaves read fits v s)
    (hnext : Leaves (next (v, s)) fits' w t) : Leaves (read.bind next) (fits ∧ fits') w t := by
  constructor
  · intro hfits
    rw [h.1 hfits.1, Option.bind_some, hnext.1 hfits.2]
  · intro r hr
    obtain ⟨r', hread, hr⟩ := Option.bind_eq_some_iff.mp hr
    obtain rfl := h.2 r' hread
    exact hnext.2 r hr

theorem map {read : Option (α × σ)} (h : Leaves read fits v s) (f : α × σ → β × τ) :
    Leaves (read.bind fun r => some (f r)) fits (f (v, s)).1 (f (v, s)).2 :=
  ⟨fun hfits => by rw [h.1 hfits, Option.bind_some], fun r hr => by
    obtain ⟨r', hread, hr⟩ := Option.bind_eq_some_iff.mp hr
    rw [← Option.some.inj hr, h.2 r' hread]⟩

theorem imp {read : Option (α × σ)} (h : Leaves read fits v s) (hfits : fits' → fits) :
    Leaves read fits' v s :=
  ⟨fun h' => h.1 (hfits h'), h.2⟩

/-- A vector or an array whose size has a value. -/
theorem resize {memory : Memory} {olds : List β} {item : β} {size : ℕ}
    {next : List β → Option (α × σ)} (hfits : fits → memory.fits size = true)
    (hnext : ∀ items : List β, items.length = size → Leaves (next items) fits v s) :
    Leaves ((memory.resize olds size item).bind next) fits v s := by
  constructor
  · intro h
    obtain ⟨items, hresize, hlength⟩ := @Memory.resize_eq β memory olds size item (hfits h)
    rw [hresize, Option.bind_some, (hnext items hlength).1 h]
  · intro r hr
    obtain ⟨items, hresize, hr⟩ := Option.bind_eq_some_iff.mp hr
    exact (hnext items (Memory.resize_length hresize).1).2 r hr

end Leaves

section
variable {α : Type} {whole : DataStream → Option (α × DataStream)} {fits : α → Prop}

variable {read : α → DataStream → Option (α × DataStream × Bool)}
  (h : ∀ old s v s', whole s = some (v, s') → Leaves (read old s) (fits v) v (s', true))
include h

theorem readItems_whole {olds vs : List α} {s s' : DataStream}
    (hmany : Reader.many whole olds.length s = some (vs, s')) :
    Leaves (readItems read olds s) (vs.Forall fits) vs (s', true) := by
  induction olds generalizing s vs with
  | nil =>
    obtain ⟨rfl, rfl⟩ := Prod.mk.inj (Option.some.inj hmany)
    exact .of_eq rfl
  | cons old olds ih =>
    obtain ⟨v, s₁, rest, rfl, hv, hrest⟩ := Reader.many_succ.mp hmany
    refine Leaves.imp ?_ (List.forall_cons _ _ _).mp
    exact (h old s v s₁ hv).bind ((ih hrest).map fun r => (v :: r.1, r.2.1, r.2.2))

theorem readAllItems_whole {olds vs : List α} {s s' : DataStream}
    (hmany : Reader.many whole olds.length s = some (vs, s')) :
    Leaves (readAllItems read olds s) (vs.Forall fits) vs s' := by
  induction olds generalizing s vs with
  | nil =>
    obtain ⟨rfl, rfl⟩ := Prod.mk.inj (Option.some.inj hmany)
    exact .of_eq rfl
  | cons old olds ih =>
    obtain ⟨v, s₁, rest, rfl, hv, hrest⟩ := Reader.many_succ.mp hmany
    refine Leaves.imp ?_ (List.forall_cons _ _ _).mp
    exact (h old s v s₁ hv).bind ((ih hrest).map fun r => (v :: r.1, r.2))

end

section
variable (memory : Memory)

mutual
/-- A member whose bytes are all there is the one that is read. -/
theorem Field.readFromStream_whole :
    ∀ (f : Field) (old : f.Value) (env : Env) (s : DataStream) (v : f.Value)
    (s' : DataStream), f.readWhole env s = some (v, s') →
      Leaves (f.readFromStream memory old env s) (f.Fits memory v) v (s', true)
  | .int _ t, old, env, s, v, s', h => by
    obtain ⟨⟨data, s₁⟩, hread, hr⟩ := Option.map_eq_some_iff.mp h
    obtain ⟨rfl, rfl⟩ := Prod.mk.inj hr
    exact .of_eq (congrArg some (DataStream.readInto_some hread))
  | .data _ size, old, env, s, v, s', h => .of_eq (congrArg some (DataStream.readInto_some h))
  | .vector _ readLength, old, env, s, v, s', h => by
    obtain ⟨size, hsize, h⟩ := Option.bind_eq_some_iff.mp h
    obtain ⟨⟨data, s₁⟩, hread, hr⟩ := Option.map_eq_some_iff.mp h
    obtain ⟨rfl, rfl⟩ := Prod.mk.inj hr
    rw [Field.readFromStream, hsize, Option.bind_eq_bind, Option.bind_some]
    refine .resize (fun hfits => ?_) fun items _ => ?_
    · exact (congrArg _ data.property).symm.trans hfits
    · exact .of_eq (congrArg some (DataStream.readInto_some hread))
  | .array _ readLength item, old, env, s, v, s', h => by
    obtain ⟨size, hsize, h⟩ := Option.bind_eq_some_iff.mp h
    rw [Field.readFromStream, hsize, Option.bind_eq_bind, Option.bind_some]
    refine .resize (fun hfits => ?_) fun items hlength => ?_
    · rw [← Reader.many_length h]
      exact hfits.1
    · refine Leaves.imp (readItems_whole (fun old s v s' hv =>
        readStructure_whole item old [] s v s' hv) (hlength ▸ h)) fun hfits => hfits.2
/-- So is a structure. -/
theorem readStructure_whole : ∀ (fs : List Field) (old : Struct fs) (env : Env) (s : DataStream)
    (v : Struct fs) (s' : DataStream), readWholeStructure fs env s = some (v, s') →
      Leaves (readStructure memory fs old env s) (FitsStructure memory fs v) v (s', true)
  | [], _, _, s, v, s', h => by
    obtain ⟨-, rfl⟩ := Prod.mk.inj (Option.some.inj h)
    exact .of_eq rfl
  | f :: fs, old, env, s, v, s', h => by
    obtain ⟨s₁, hfirst, hrest⟩ := Reader.pair_eq_some.mp h
    have hloop := readStructure_whole fs old.2 (f.declare v.1 env) s₁ v.2 s' hrest
    exact (Field.readFromStream_whole f old.1 env s v.1 s₁ hfirst).bind
      (hloop.map fun r => ((v.1, r.1), r.2.1, r.2.2))
end

theorem Field.readCaught_array (name : String) {readLength : ReadLength} {item : List Field}
    (old : (Field.array name readLength item).Value) (env : Env) (s : DataStream) :
    (Field.array name readLength item).readCaught memory old env s =
      (readLength.eval env s.remainingBytes).bind fun size =>
        (@Memory.resize (Struct item) memory old size (newStructure memory.cleared item 0)).bind
        fun items =>
          readAllItems (fun old s => readStructure memory item old [] s) items s := rfl

/-- The statements of a message are no different. -/
theorem Field.readCaught_whole {f : Field} {old v : f.Value} {env : Env} {s s' : DataStream}
    (h : f.readWhole env s = some (v, s')) :
    Leaves (f.readCaught memory old env s) (f.Fits memory v) v s' := by
  have hread := f.readFromStream_whole memory old env s v s' h
  have hmap : Leaves ((f.readFromStream memory old env s).map fun r => (r.1, r.2.1))
    (f.Fits memory v) v s' := by
    refine ⟨fun hfits => ?_, fun r hr => ?_⟩
    · rw [hread.1 hfits]
      rfl
    · obtain ⟨r', hr', rfl⟩ := Option.map_eq_some_iff.mp hr
      rw [hread.2 r' hr']
  cases f with
  | int => exact hmap
  | data => exact hmap
  | vector => exact hmap
  | array name readLength item =>
    obtain ⟨size, hsize, h⟩ := Option.bind_eq_some_iff.mp h
    rw [Field.readCaught_array, hsize, Option.bind_some]
    refine .resize (fun hfits => ?_) fun items hlength => ?_
    · rw [← Reader.many_length h]
      exact hfits.1
    · refine Leaves.imp (readAllItems_whole (fun old s v s' hv =>
        readStructure_whole memory item old [] s v s' hv) (hlength ▸ h)) fun hfits => hfits.2

theorem readMessage_whole {fs : List Field} {old v : Struct fs} {env : Env} {s s' : DataStream}
    (h : readWholeStructure fs env s = some (v, s')) :
    Leaves (readMessage memory fs old env s) (FitsStructure memory fs v) v s' := by
  induction fs generalizing env s with
  | nil =>
    obtain ⟨-, rfl⟩ := Prod.mk.inj (Option.some.inj h)
    exact .of_eq rfl
  | cons f fs ih =>
    obtain ⟨s₁, hfirst, hrest⟩ := Reader.pair_eq_some.mp h
    exact (Field.readCaught_whole memory hfirst).bind
      (Leaves.map (ih hrest) fun r => ((v.1, r.1), r.2))

end

/-! Where bytes are missing, what is left stands for more of them than have been taken. -/

/-- A reader that has gone to its end has found all bytes of what it leaves, and one that has not
has found fewer. -/
structure Counts {α : Type} (whole : Option (α × DataStream)) (wire : α → Bytes) (s : DataStream)
    (r : α × DataStream × Bool) : Prop where
  mode : r.2.1.m_mode = .Read
  finished : r.2.2 = true → whole = some (r.1, r.2.1) ∧
    s.remainingBytes = r.2.1.remainingBytes + (wire r.1).length
  left : r.2.2 = false → s.remainingBytes < r.2.1.remainingBytes + (wire r.1).length

/-- The same where it always goes to its end. -/
structure Covers {α : Type} (whole : Option (α × DataStream)) (wire : α → Bytes) (s : DataStream)
    (r : α × DataStream) : Prop where
  mode : r.2.m_mode = .Read
  le : s.remainingBytes ≤ r.2.remainingBytes + (wire r.1).length
  exact_whole : s.remainingBytes = r.2.remainingBytes + (wire r.1).length → whole = some r

section
variable {α : Type} {whole : Option (α × DataStream)} {wire : α → Bytes} {s : DataStream}

theorem Counts.le {r : α × DataStream × Bool} (h : Counts whole wire s r) :
    s.remainingBytes ≤ r.2.1.remainingBytes + (wire r.1).length := by
  cases hfinished : r.2.2 with
  | true => exact (h.finished hfinished).2.le
  | false => exact (h.left hfinished).le

theorem Counts.covers {r : α × DataStream × Bool} (h : Counts whole wire s r) :
    Covers whole wire s (r.1, r.2.1) := by
  refine ⟨h.mode, h.le, fun heq => ?_⟩
  cases hfinished : r.2.2 with
  | true => exact (h.finished hfinished).1
  | false => exact absurd heq (h.left hfinished).ne

theorem readInto_counts {old : α} {size : ℕ} {value : { data : Bytes // data.length = size } → α}
    (hmode : s.m_mode = .Read) (hold : (wire old).length = size)
    (hvalue : ∀ data, (wire (value data)).length = size) :
    Counts ((s.readRawData size).map fun p => (value p.1, p.2)) wire s
    (s.readInto old size value) := by
  unfold DataStream.readInto
  cases hread : s.readRawData size with
  | none => exact ⟨hmode, nofun, fun _ => hold.symm ▸
      (DataStream.remaining_lt_of_none hmode hread).trans_le (Nat.le_add_left _ _)⟩
  | some r =>
    obtain ⟨data, s'⟩ := r
    obtain ⟨hremaining, hmode'⟩ := DataStream.readRawData_remaining hread
    exact ⟨hmode'.trans hmode, fun _ => ⟨rfl, by rw [hremaining, hvalue]⟩, nofun⟩

end

section
variable {α : Type} {whole : DataStream → Option (α × DataStream)} {wire : α → Bytes}
  {read : α → DataStream → Option (α × DataStream × Bool)}
  (h : ∀ old s r, s.m_mode = .Read → read old s = some r → Counts (whole s) wire s r)
include h

theorem readItems_counts {olds : List α} {s : DataStream} {r : List α × DataStream × Bool}
    (hmode : s.m_mode = .Read) (hread : readItems read olds s = some r) :
    Counts (Reader.many whole olds.length s) (Reader.wires wire) s r := by
  induction olds generalizing s r with
  | nil =>
    obtain rfl := Option.some.inj hread
    exact ⟨hmode, fun _ => ⟨rfl, rfl⟩, nofun⟩
  | cons old olds ih =>
    obtain ⟨⟨v, s₁, finished⟩, hv, hrest⟩ := Option.bind_eq_some_iff.mp hread
    have hfirst := h old s _ hmode hv
    cases finished with
    | false =>
      obtain rfl := Option.some.inj hrest
      refine ⟨hfirst.mode, nofun, fun _ => (hfirst.left rfl).trans_le ?_⟩
      rw [Reader.wires_cons, List.length_append]
      exact Nat.add_le_add_left (Nat.le_add_right _ _) _
    | true =>
      obtain ⟨⟨rest, s₂, finished⟩, hloop, hr⟩ := Option.bind_eq_some_iff.mp hrest
      obtain rfl := Option.some.inj hr
      obtain ⟨hwhole, hcount⟩ := hfirst.finished rfl
      have hothers := ih hfirst.mode hloop
      dsimp only at hcount hothers
      refine ⟨hothers.mode, fun hfinished => ?_, fun hleft => ?_⟩
      · obtain ⟨hmany, hsum⟩ := hothers.finished hfinished
        refine ⟨Reader.many_succ.mpr ⟨v, s₁, rest, rfl, hwhole, hmany⟩, ?_⟩
        rw [Reader.wires_cons, List.length_append]
        dsimp only at hsum ⊢
        omega
      · have hlt := hothers.left hleft
        rw [Reader.wires_cons, List.length_append]
        dsimp only at hlt ⊢
        omega

theorem readAllItems_covers {olds : List α} {s : DataStream} {r : List α × DataStream}
    (hmode : s.m_mode = .Read) (hread : readAllItems read olds s = some r) :
    Covers (Reader.many whole olds.length s) (Reader.wires wire) s r := by
  induction olds generalizing s r with
  | nil =>
    obtain rfl := Option.some.inj hread
    exact ⟨hmode, le_rfl, fun _ => rfl⟩
  | cons old olds ih =>
    obtain ⟨⟨v, s₁, finished⟩, hv, hrest⟩ := Option.bind_eq_some_iff.mp hread
    obtain ⟨⟨rest, s₂⟩, hloop, hr⟩ := Option.bind_eq_some_iff.mp hrest
    obtain rfl := Option.some.inj hr
    have hfirst := (h old s _ hmode hv).covers
    have hothers := ih hfirst.mode hloop
    have hle := hfirst.le
    have hle' := hothers.le
    dsimp only at hle hle'
    refine ⟨hothers.mode, ?_, fun heq => ?_⟩
    · rw [Reader.wires_cons, List.length_append]
      dsimp only
      omega
    · rw [Reader.wires_cons, List.length_append] at heq
      dsimp only at heq
      have hwhole := hfirst.exact_whole (by dsimp only; omega)
      have hmany := hothers.exact_whole (by dsimp only; omega)
      exact Reader.many_succ.mpr ⟨v, s₁, rest, rfl, hwhole, hmany⟩

end

section
variable (memory : Memory)

mutual
theorem Field.readFromStream_counts : ∀ (f : Field) (old : f.Value) (env : Env) (s : DataStream)
    (r : f.Value × DataStream × Bool), s.m_mode = .Read →
      f.readFromStream memory old env s = some r →
      Counts (f.readWhole env s) f.wire s r
  | .int _ t, old, env, s, r, hmode, h => by
    obtain rfl := Option.some.inj h
    exact readInto_counts hmode (t.toBytes_length old) fun data =>
      t.toBytes_length (t.bytesEquiv data)
  | .data _ size, old, env, s, r, hmode, h => by
    obtain rfl := Option.some.inj h
    have hcounts : Counts ((s.readRawData size).map id) (fun data => data.val) s
      (s.readInto old size id) :=
      readInto_counts hmode old.property fun data => data.property
    rwa [Option.map_id] at hcounts
  | .vector _ readLength, old, env, s, r, hmode, h => by
    obtain ⟨size, hsize, h⟩ := Option.bind_eq_some_iff.mp h
    obtain ⟨data, hresize, h⟩ := Option.bind_eq_some_iff.mp h
    obtain rfl := Option.some.inj h
    rw [Field.readWhole, hsize]
    exact readInto_counts hmode (Memory.resize_length hresize).1 Subtype.property
  | .array _ readLength item, old, env, s, r, hmode, h => by
    obtain ⟨size, hsize, h⟩ := Option.bind_eq_some_iff.mp h
    obtain ⟨items, hresize, h⟩ := Option.bind_eq_some_iff.mp h
    rw [Field.readWhole, hsize]
    have hcounts := readItems_counts (fun old s r hmode hr =>
      readStructure_counts item old [] s r hmode hr) hmode h
    rwa [(Memory.resize_length hresize).1] at hcounts
theorem readStructure_counts : ∀ (fs : List Field) (old : Struct fs) (env : Env) (s : DataStream)
    (r : Struct fs × DataStream × Bool), s.m_mode = .Read →
      readStructure memory fs old env s = some r →
      Counts (readWholeStructure fs env s) (wireStructure fs) s r
  | [], _, _, s, r, hmode, h => by
    obtain rfl := Option.some.inj h
    exact ⟨hmode, fun _ => ⟨rfl, rfl⟩, nofun⟩
  | f :: fs, old, env, s, r, hmode, h => by
    obtain ⟨⟨v, s₁, finished⟩, hv, hrest⟩ := Option.bind_eq_some_iff.mp h
    have hfirst := Field.readFromStream_counts f old.1 env s _ hmode hv
    cases finished with
    | false =>
      obtain rfl := Option.some.inj hrest
      refine ⟨hfirst.mode, nofun, fun _ => (hfirst.left rfl).trans_le ?_⟩
      rw [wireStructure, List.length_append]
      exact Nat.add_le_add_left (Nat.le_add_right _ _) _
    | true =>
      obtain ⟨⟨rest, s₂, finished⟩, hloop, hr⟩ := Option.bind_eq_some_iff.mp hrest
      obtain rfl := Option.some.inj hr
      obtain ⟨hwhole, hcount⟩ := hfirst.finished rfl
      have hothers := readStructure_counts fs old.2 (f.declare v env) s₁ _ hfirst.mode hloop
      dsimp only at hcount hothers
      refine ⟨hothers.mode, fun hfinished => ?_, fun hleft => ?_⟩
      · obtain ⟨hmany, hsum⟩ := hothers.finished hfinished
        refine ⟨Reader.pair_eq_some.mpr ⟨s₁, hwhole, hmany⟩, ?_⟩
        rw [wireStructure, List.length_append]
        dsimp only at hsum ⊢
        omega
      · have hlt := hothers.left hleft
        rw [wireStructure, List.length_append]
        dsimp only at hlt ⊢
        omega
end

theorem Field.readCaught_covers {f : Field} {old : f.Value} {env : Env} {s : DataStream}
    {r : f.Value × DataStream} (hmode : s.m_mode = .Read)
    (h : f.readCaught memory old env s = some r) :
    Covers (f.readWhole env s) f.wire s r := by
  have hmap : (f.readFromStream memory old env s).map (fun r => (r.1, r.2.1)) = some r →
      Covers (f.readWhole env s) f.wire s r := by
    intro hr
    obtain ⟨r', hr', rfl⟩ := Option.map_eq_some_iff.mp hr
    exact (f.readFromStream_counts memory old env s r' hmode hr').covers
  cases f with
  | int => exact hmap h
  | data => exact hmap h
  | vector => exact hmap h
  | array name readLength item =>
    rw [Field.readCaught_array] at h
    obtain ⟨size, hsize, h⟩ := Option.bind_eq_some_iff.mp h
    obtain ⟨items, hresize, h⟩ := Option.bind_eq_some_iff.mp h
    have hcovers := readAllItems_covers (fun old s r hmode hr =>
      readStructure_counts memory item old [] s r hmode hr) hmode h
    rw [Field.readWhole, hsize]
    rwa [(Memory.resize_length hresize).1] at hcovers

theorem readMessage_covers {fs : List Field} {old : Struct fs} {env : Env} {s : DataStream}
    {r : Struct fs × DataStream} (hmode : s.m_mode = .Read)
    (h : readMessage memory fs old env s = some r) :
    Covers (readWholeStructure fs env s) (wireStructure fs) s r := by
  induction fs generalizing env s with
  | nil =>
    obtain rfl := Option.some.inj h
    exact ⟨hmode, le_rfl, fun _ => rfl⟩
  | cons f fs ih =>
    obtain ⟨⟨v, s₁⟩, hv, hrest⟩ := Option.bind_eq_some_iff.mp h
    obtain ⟨⟨rest, s₂⟩, hloop, hr⟩ := Option.bind_eq_some_iff.mp hrest
    obtain rfl := Option.some.inj hr
    have hfirst := Field.readCaught_covers memory hmode hv
    have hothers := ih hfirst.mode hloop
    have hle := hfirst.le
    have hle' := hothers.le
    dsimp only at hle hle'
    refine ⟨hothers.mode, ?_, fun heq => ?_⟩
    · rw [wireStructure, List.length_append]
      dsimp only
      omega
    · rw [wireStructure, List.length_append] at heq
      dsimp only at heq
      have hwhole := hfirst.exact_whole (by dsimp only; omega)
      have hmany := hothers.exact_whole (by dsimp only; omega)
      exact Reader.pair_eq_some.mpr ⟨s₁, hwhole, hmany⟩

end
namespace MessageDefinition
variable (m : MessageDefinition) (memory : Memory)

/-- There is room for the vectors and arrays of a message. -/
def Fits (v : Struct m.fields) : Prop := FitsStructure memory m.fields v

/-- `readFromStream` returns true for a payload, with nothing left over. -/
def Accepted (payload : Bytes) (v : Struct m.fields) : Prop :=
  ∃ s, m.readFromStream memory (.init payload .Read) = some (true, v, s) ∧ s.atEnd = true

def accepts (payload : Bytes) : Bool :=
  match m.readFromStream memory (.init payload .Read) with
  | some (true, _, s) => s.atEnd
  | _ => false

/-- A string that spells out a message. -/
def WellFormed (b : Bytes) : Prop := ∃ v, m.Sized v ∧ m.wire v = b

variable {m memory}

theorem accepts_iff {payload : Bytes} :
    m.accepts memory payload = true ↔ ∃ v, m.Accepted memory payload v := by
  unfold accepts
  constructor
  · intro h
    split at h
    next v s hread => exact ⟨v, s, hread, h⟩
    next => contradiction
  · rintro ⟨v, s, hread, hend⟩
    rw [hread]
    exact hend

/-- Where it returns, it returns true. -/
theorem readFromStream_returns {s : DataStream} {r : Bool × Struct m.fields × DataStream}
    (h : m.readFromStream memory s = some r) :
    r.1 = true ∧ readMessage memory m.fields (newStructure memory m.fields 0) [] s = some r.2 := by
  obtain ⟨r', hread, rfl⟩ := Option.map_eq_some_iff.mp h
  exact ⟨rfl, hread⟩

/-- A message all of whose bytes are there. -/
theorem readFromStream_whole {s s' : DataStream} {v : Struct m.fields}
    (h : m.readWhole s = some (v, s')) :
    (m.Fits memory v → m.readFromStream memory s = some (true, v, s')) ∧
      ∀ r, m.readFromStream memory s = some r → r = (true, v, s') := by
  obtain ⟨hfits, hreads⟩ : Leaves
    (readMessage memory m.fields (newStructure memory m.fields 0) [] s)
      (m.Fits memory v) v s' := readMessage_whole memory h
  refine ⟨fun hroom => ?_, fun r hr => ?_⟩
  · exact congrArg (Option.map fun r => (true, r)) (hfits hroom)
  · obtain ⟨r', hr', rfl⟩ := Option.map_eq_some_iff.mp hr
    rw [hreads r' hr']

theorem accepted_wire {v : Struct m.fields} (hsize : m.Sized v) (hfits : m.Fits memory v) :
    m.Accepted memory (m.wire v) v := by
  obtain ⟨s, hread, hend⟩ := m.read_wire hsize
  exact ⟨s, (readFromStream_whole hread).1 hfits, hend⟩

/-- A payload that is accepted as a message that stands for as many bytes spells it out. -/
theorem Accepted.sized {b : Bytes} {v : Struct m.fields} (h : m.Accepted memory b v)
    (hlength : (m.wire v).length = b.length) : m.Sized v ∧ m.wire v = b := by
  obtain ⟨s, hread, hend⟩ := h
  have hcovers := readMessage_covers memory rfl (readFromStream_returns hread).2
  have hrest := s.atEnd_iff.mp hend
  have hcount : (DataStream.init b .Read).remainingBytes =
    s.remainingBytes + (m.wire v).length := by
    rw [hrest, Nat.zero_add]
    exact hlength.symm
  obtain ⟨hwire, hsize⟩ := m.wire_of_read (hcovers.exact_whole hcount) hend
  exact ⟨hsize, hwire⟩

/-- What spells out a message is accepted as no other. -/
theorem Accepted.of_wellFormed {b : Bytes} {v w : Struct m.fields} (h : m.Accepted memory b v)
    (hsize : m.Sized w) (hwire : m.wire w = b) : v = w := by
  obtain ⟨s, hread, hend⟩ := m.read_wire hsize
  obtain ⟨s', hread', -⟩ := h
  rw [hwire] at hread
  exact congrArg (fun r => r.2.1) ((readFromStream_whole hread).2 _ hread')

variable (m)

theorem written_accepted (v : Struct m.fields) (hsize : m.Sized v) {memory : Memory}
    (hfits : m.Fits memory v) : ∃ out s, m.writeToStream v (.init [] .Write) = (true, out) ∧
      m.readFromStream memory (.init out.m_buffer .Read) = some (true, v, s) ∧ s.atEnd = true := by
  obtain ⟨s, hread, hend⟩ := accepted_wire hsize hfits
  exact ⟨_, s, m.writeToStream_init v, hread, hend⟩

/-- What `writeToStream` writes, `readFromStream` reads back, to the end and field by field. -/
theorem readFromStream_writeToStream (v : Struct m.fields) (hsize : m.Sized v) (memory : Memory)
    (hfits : m.Fits memory v) : ∃ out s, m.writeToStream v (.init [] .Write) = (true, out) ∧
      m.readFromStream memory (.init out.m_buffer .Read) = some (true, v, s) ∧ s.atEnd = true :=
  m.written_accepted v hsize hfits

/-- A display of one line. -/
def oneLine : Struct Messages.SvcDisplayScreen.fields :=
  ((1 : UInt8), [((0 : UInt8), (0 : UInt8), List.replicate 32 65, ())], ())

theorem oneLine_sized : Messages.SvcDisplayScreen.Sized oneLine :=
  ⟨trivial, ⟨rfl, ⟨trivial, trivial, rfl, trivial⟩, trivial⟩, trivial⟩

theorem oneLine_fits :
    Messages.SvcDisplayScreen.Fits ⟨fun _ => 204, fun size => size ≤ 32⟩ oneLine :=
  ⟨trivial, ⟨rfl, trivial, trivial, rfl, trivial⟩, trivial⟩

/-- It survives the wire. -/
theorem display_screen_roundtrip :
    ∃ out s, Messages.SvcDisplayScreen.writeToStream oneLine (.init [] .Write) = (true, out) ∧
      Messages.SvcDisplayScreen.readFromStream ⟨fun _ => 204, fun size => size ≤ 32⟩
        (.init out.m_buffer .Read) = some (true, oneLine, s) ∧ s.atEnd = true :=
  readFromStream_writeToStream Messages.SvcDisplayScreen oneLine oneLine_sized _ oneLine_fits

/-- An accepted string is what `writeToStream` writes for the message, with vectors and arrays of
the prescribed sizes, exactly if it spells out a message. `readFromStream` never returns false,
although no proper prefix of a string that spells out a message of a definition without
`remainingBytes` does so. -/
theorem readFromStream_canonical_iff (memory : Memory) (b : Bytes) :
    (∀ v, m.Accepted memory b v →
      ((∃ out, m.writeToStream v (.init [] .Write) = (true, out) ∧ out.m_buffer = b) ∧ m.Sized v ↔
        m.WellFormed b)) ∧
    (∀ v s, m.readFromStream memory (.init b .Read) ≠ some (false, v, s)) ∧
    (m.NoRemaining → ∀ back, back ≠ [] → m.WellFormed (b ++ back) → ¬ m.WellFormed b) := by
  refine ⟨fun v haccepted => ?_, fun v s hread => ?_, fun hno back hback => ?_⟩
  · rw [m.writeToStream_init v]
    constructor
    · rintro ⟨⟨out, hout, hb⟩, hsize⟩
      obtain rfl := (Prod.mk.inj hout).2
      exact ⟨v, hsize, hb⟩
    · rintro ⟨w, hsize, hwire⟩
      obtain rfl := haccepted.of_wellFormed hsize hwire
      exact ⟨⟨_, rfl, hwire⟩, hsize⟩
  · exact Bool.false_ne_true (readFromStream_returns hread).1
  · rintro ⟨v, hsize, hwire⟩ ⟨w, hsize', rfl⟩
    obtain ⟨s, hread, hend⟩ := m.read_wire hsize
    obtain ⟨s', hread', -⟩ := m.read_wire hsize'
    rw [hwire] at hread
    have hfails := m.readWhole_reads.prefix_fails DataStream.remainingBytes_reading
      (fun v i j => structure_sized_after m.fields hno [] v i j) hread (s.atEnd_iff.mp hend) hback
    exact absurd (hfails.symm.trans hread') nofun

/-- The display of one line is written as it has been read. -/
theorem display_screen_canonical : (∃ out,
      Messages.SvcDisplayScreen.writeToStream oneLine (.init [] .Write) = (true, out) ∧
        out.m_buffer = 1 :: 0 :: 0 :: List.replicate 32 65) ∧
          Messages.SvcDisplayScreen.Sized oneLine :=
  ((readFromStream_canonical_iff Messages.SvcDisplayScreen _ _).1 oneLine
    (accepted_wire oneLine_sized oneLine_fits)).mpr ⟨oneLine, oneLine_sized, rfl⟩

/-- A `GEN_COMMAND_COMPLETE` without its status is accepted, and written with the status that the
memory has held. -/
theorem command_complete_cut :
    ∃ v, Messages.GenCommandComplete.Accepted ⟨fun _ => 204, fun _ => true⟩ [1, 2, 1] v ∧
    (∃ out, Messages.GenCommandComplete.writeToStream v (.init [] .Write) = (true, out) ∧
      out.m_buffer = [1, 2, 1, 204, 204]) ∧
    Messages.GenCommandComplete.NoRemaining ∧
    (∃ w, Messages.GenCommandComplete.Accepted ⟨fun _ => 204, fun _ => true⟩
      ([1, 2, 1] ++ [0, 128]) w) ∧
    ¬ ∃ w s, Messages.GenCommandComplete.readFromStream ⟨fun _ => 204, fun _ => true⟩
      (.init [1, 2, 1] .Read) = some (false, w, s) := by
  refine ⟨_, ⟨_, rfl, rfl⟩, ⟨_, rfl, rfl⟩, ⟨trivial, trivial, trivial, trivial, trivial⟩,
    ⟨_, _, rfl, rfl⟩, ?_⟩
  rintro ⟨w, s, hread⟩
  exact Bool.false_ne_true (readFromStream_returns hread).1

end MessageDefinition
end FreeRil
