import FreeRil.Library.Loop

/-! Frames that carry their own total length in a header of fixed size, cut out of a stream. -/
namespace Framing

/-- The size in the header depends on the symbols of the header alone. -/
structure Format (β : Type) where
  headerSize : ℕ
  messageSize : List β → ℕ
  headerSize_pos : 0 < headerSize
  messageSize_append : ∀ b c : List β, headerSize ≤ b.length → messageSize (b ++ c) = messageSize b

namespace Format

variable {β : Type} (F : Format β)

/-- A whole frame: its header fits, and the length in it is its own. -/
structure IsFrame (f : List β) : Prop where
  header_le : F.headerSize ≤ f.length
  size_eq : F.messageSize f = f.length

/-- The frame at the front of a buffer, by the length in its header. -/
def frame (b : List β) : List β := b.take (F.messageSize b)

/-- One iteration of the splitting loop: where the buffer holds a complete frame, hand out the
buffer and drop the frame from it. -/
def next (b : List β) : Option (List β × List β) :=
  if b.length < F.headerSize then none
  else if b.length < F.messageSize b then none
  else some (b, b.drop (F.messageSize b))

theorem next_eq_some {b d r : List β} : F.next b = some (d, r) ↔
    F.headerSize ≤ b.length ∧ F.messageSize b ≤ b.length ∧ d = b ∧ r = b.drop (F.messageSize b) := by
  unfold next
  split_ifs with h₁ h₂
  · simp only [false_iff]; omega
  · simp only [false_iff]; omega
  · simp only [Option.some.injEq, Prod.mk.injEq]
    constructor
    · rintro ⟨rfl, rfl⟩; exact ⟨by omega, by omega, rfl, rfl⟩
    · rintro ⟨-, -, rfl, rfl⟩; exact ⟨rfl, rfl⟩

theorem next_eq_none {b : List β} : F.next b = none ↔
    (F.headerSize ≤ b.length → b.length < F.messageSize b) := by
  unfold next
  split_ifs with h₁ h₂ <;> simp <;> omega

@[simp] theorem next_nil : F.next [] = none := by
  have h := F.headerSize_pos
  simp [next, h]

/-- What can be cut off a buffer can be cut off it when more has arrived. -/
theorem next_append {b d r : List β} (h : F.next b = some (d, r)) (c : List β) :
    F.next (b ++ c) = some (b ++ c, r ++ c) := by
  obtain ⟨hh, hs, -, rfl⟩ := F.next_eq_some.mp h
  have hm := F.messageSize_append b c hh
  refine F.next_eq_some.mpr ⟨by simp; omega, by simp [hm]; omega, rfl, ?_⟩
  rw [hm, List.drop_append_of_le_length hs]

/-- Every complete header found by following the length fields has a length that covers it. -/
inductive WellFramed : List β → Prop
  | stop {b} (h : F.next b = none) : WellFramed b
  | frame {b r} (h : F.next b = some (b, r)) (hsize : F.headerSize ≤ F.messageSize b)
      (rest : WellFramed r) : WellFramed b

variable {F}

theorem next_fst {b d r : List β} (h : F.next b = some (d, r)) : d = b :=
  (F.next_eq_some.mp h).2.2.1

/-- A buffer handed out holds the whole frame at its front. -/
theorem run_received {n : ℕ} {b r : List β} {ds : List (List β)}
    (h : Loop.run F.next n b = some (ds, r)) : ∀ d ∈ ds, F.messageSize d ≤ d.length := by
  induction n generalizing b ds with
  | zero =>
    cases hb : F.next b with
    | none => rw [Loop.run_of_none hb] at h; cases h; simp
    | some p => rw [Loop.run_zero_of_some hb] at h; contradiction
  | succ n ih =>
    cases hb : F.next b with
    | none => rw [Loop.run_of_none hb] at h; cases h; simp
    | some p =>
      obtain ⟨d, b'⟩ := p
      rw [Loop.run_of_some hb] at h
      obtain ⟨⟨ds', r'⟩, hr, he⟩ := Option.map_eq_some_iff.mp h
      cases he
      obtain ⟨-, hle, rfl, -⟩ := F.next_eq_some.mp hb
      intro e he
      rcases List.mem_cons.mp he with rfl | he
      · exact hle
      · exact ih hr e he

/-- The loop ends on a well-framed buffer and hands out no header shorter than a header, and
these are the only buffers it does so on. -/
theorem wellFramed_iff_run {b : List β} : F.WellFramed b ↔
    ∃ n ds r, Loop.run F.next n b = some (ds, r) ∧ ∀ d ∈ ds, F.headerSize ≤ F.messageSize d := by
  constructor
  · intro h
    induction h with
    | stop h => exact ⟨0, [], _, Loop.run_of_none h 0, by simp⟩
    | @frame b b' h hsize _ ih =>
      obtain ⟨n, ds, r, hrun, hds⟩ := ih
      refine ⟨n + 1, b :: ds, r, by simp [Loop.run_of_some h, hrun], ?_⟩
      simpa using ⟨hsize, hds⟩
  · rintro ⟨n, ds, r, hrun, hds⟩
    induction n generalizing b ds with
    | zero =>
      cases hb : F.next b with
      | none => exact .stop hb
      | some p => rw [Loop.run_zero_of_some hb] at hrun; contradiction
    | succ n ih =>
      cases hb : F.next b with
      | none => exact .stop hb
      | some p =>
        obtain ⟨d, b'⟩ := p
        rw [Loop.run_of_some hb] at hrun
        obtain ⟨⟨ds', r'⟩, hr, he⟩ := Option.map_eq_some_iff.mp hrun
        cases he
        obtain rfl := next_fst hb
        exact .frame hb (hds d (by simp)) (ih ds' hr fun e he => hds e (by simp [he]))

theorem WellFramed.of_append {b c : List β} (h : F.WellFramed (b ++ c)) : F.WellFramed b := by
  generalize hbc : b ++ c = x at h
  induction h generalizing b with
  | stop h =>
    subst hbc
    cases hb : F.next b with
    | none => exact .stop hb
    | some p => rw [F.next_append (d := p.1) (r := p.2) hb] at h; contradiction
  | @frame x r h hsize _ ih =>
    subst hbc
    cases hb : F.next b with
    | none => exact .stop hb
    | some p =>
      obtain ⟨d, b'⟩ := p
      obtain rfl := next_fst hb
      have hc := (F.next_append hb c).symm.trans h
      obtain ⟨hh, -⟩ := F.next_eq_some.mp hb
      rw [F.messageSize_append _ _ hh] at hsize
      exact .frame hb hsize (ih (by simpa using hc))

/-- Well-framedness of a stream, taken up again from the remainder of a part of it. -/
theorem wellFramed_append_iff {n : ℕ} {b r : List β} {ds : List (List β)}
    (h : Loop.run F.next n b = some (ds, r)) (hds : ∀ d ∈ ds, F.headerSize ≤ F.messageSize d)
    (c : List β) : F.WellFramed (b ++ c) ↔ F.WellFramed (r ++ c) := by
  induction n generalizing b ds with
  | zero =>
    cases hb : F.next b with
    | none => rw [Loop.run_of_none hb] at h; cases h; rfl
    | some p => rw [Loop.run_zero_of_some hb] at h; contradiction
  | succ n ih =>
    cases hb : F.next b with
    | none => rw [Loop.run_of_none hb] at h; cases h; rfl
    | some p =>
      obtain ⟨d, b'⟩ := p
      rw [Loop.run_of_some hb] at h
      obtain ⟨⟨ds', r₁⟩, hr, he⟩ := Option.map_eq_some_iff.mp h
      cases he
      obtain rfl := next_fst hb
      rw [← ih hr fun e he => hds e (by simp [he])]
      obtain ⟨hh, -⟩ := F.next_eq_some.mp hb
      have hd := hds d (by simp)
      constructor
      · intro hw
        cases hw with
        | stop hn => rw [F.next_append hb c] at hn; contradiction
        | frame hn _ rest =>
          have hc := (F.next_append hb c).symm.trans hn
          simp only [Option.some.injEq, Prod.mk.injEq, true_and] at hc
          rwa [hc]
      · intro hw
        exact .frame (F.next_append hb c) (by rwa [F.messageSize_append _ _ hh]) hw

variable (F) in
/-- The loop cuts these frames off a buffer, and leaves the rest. -/
def Cuts (b : List β) (frames : List (List β)) (r : List β) : Prop :=
  ∃ n ds, Loop.run F.next n b = some (ds, r) ∧ ds.map F.frame = frames

theorem cuts_nil : F.Cuts [] [] [] := ⟨0, [], Loop.run_of_none F.next_nil 0, rfl⟩

theorem Cuts.of_run {n : ℕ} {b r : List β} {ds : List (List β)}
    (h : Loop.run F.next n b = some (ds, r)) : F.Cuts b (ds.map F.frame) r := ⟨n, ds, h, rfl⟩

theorem cuts_cons {b r r' : List β} {frames : List (List β)} (h : F.next b = some (b, r))
    (hrest : F.Cuts r frames r') : F.Cuts b (F.frame b :: frames) r' := by
  obtain ⟨n, ds, hrun, rfl⟩ := hrest
  refine ⟨n + 1, b :: ds, ?_, rfl⟩
  rw [Loop.run_of_some h, hrun]
  rfl

/-- What arrives may be cut as it arrives: the frames are those of all of it at once. -/
theorem Cuts.append {b c r r' : List β} {frames frames' : List (List β)} (h : F.Cuts b frames r)
    (h' : F.Cuts (r ++ c) frames' r') : F.Cuts (b ++ c) (frames ++ frames') r' := by
  obtain ⟨n, ds, hrun, rfl⟩ := h
  induction n generalizing b ds with
  | zero =>
    cases hb : F.next b with
    | none =>
      rw [Loop.run_of_none hb] at hrun
      cases hrun
      exact h'
    | some q =>
      rw [Loop.run_zero_of_some hb] at hrun
      contradiction
  | succ n ih =>
    cases hb : F.next b with
    | none =>
      rw [Loop.run_of_none hb] at hrun
      cases hrun
      exact h'
    | some q =>
      obtain ⟨d, b'⟩ := q
      rw [Loop.run_of_some hb] at hrun
      obtain ⟨⟨rest, r₁⟩, hrest, heq⟩ := Option.map_eq_some_iff.mp hrun
      cases heq
      obtain ⟨hheader, hsize, rfl, -⟩ := F.next_eq_some.mp hb
      have hframe : F.frame (d ++ c) = F.frame d := by
        rw [frame, frame, F.messageSize_append d c hheader, List.take_append_of_le_length hsize]
      rw [List.map_cons, List.cons_append, ← hframe]
      exact cuts_cons (F.next_append hb c) (ih rest hrest)

/-- From any beginning of a sequence of whole frames the loop hands out the frames contained in
it and keeps the beginning of the next one. -/
theorem run_frames {todo : List (List β)} (hf : ∀ f ∈ todo, F.IsFrame f) {b t : List β}
    (hb : b ++ t = todo.flatten) : ∃ ds r todo', Loop.run F.next todo.length b = some (ds, r) ∧
      ds.map F.frame ++ todo' = todo ∧ r ++ t = todo'.flatten ∧ (todo' = [] → r = []) ∧
      ∀ f fs, todo' = f :: fs → r <+: f ∧ r.length < f.length := by
  induction todo generalizing b with
  | nil =>
    obtain ⟨rfl, rfl⟩ := List.append_eq_nil_iff.mp hb
    exact ⟨[], [], [], by simp [Loop.run_of_none], rfl, rfl, fun _ => rfl, by simp⟩
  | cons f fs ih =>
    have hfr := hf f (by simp)
    by_cases hlen : f.length ≤ b.length
    · have hpre : f <+: b := by
        rw [List.flatten_cons] at hb
        exact List.prefix_of_prefix_length_le ⟨_, hb.symm⟩ (List.prefix_append b t) hlen
      obtain ⟨b', rfl⟩ := hpre
      have hm := F.messageSize_append f b' hfr.header_le
      have hn : F.next (f ++ b') = some (f ++ b', b') := F.next_eq_some.mpr
        ⟨by have := hfr.header_le; simp; omega, by simp [hm, hfr.size_eq], rfl,
          by simp [hm, hfr.size_eq]⟩
      obtain ⟨ds, r, todo', hrun, hmap, hr, hnil, hcons⟩ :=
        ih (fun g hg => hf g (by simp [hg])) (b := b') (by simpa using hb)
      refine ⟨(f ++ b') :: ds, r, todo', ?_, ?_, hr, hnil, hcons⟩
      · simp [Loop.run_of_some hn, hrun]
      · simp [frame, hm, hfr.size_eq, hmap]
    · have hpre : b <+: f := List.prefix_of_prefix_length_le ⟨t, hb⟩
        (by rw [List.flatten_cons]; exact List.prefix_append _ _) (by omega)
      have hn : F.next b = none := by
        refine F.next_eq_none.mpr fun hh => ?_
        obtain ⟨u, rfl⟩ := hpre
        rw [← F.messageSize_append b u hh, hfr.size_eq]
        omega
      refine ⟨[], b, f :: fs, Loop.run_of_none hn _, rfl, hb, by simp, ?_⟩
      intro g gs hg
      cases hg
      exact ⟨hpre, by omega⟩

end Format
end Framing
