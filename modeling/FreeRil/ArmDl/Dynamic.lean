import FreeRil.ArmDl.Image
import FreeRil.ArmDl.Relocation

/-! The dynamic section, and a library on the way from its file to its relocated image. -/
namespace FreeRil.ArmDl

/-- The entries of a section before its end, as an image has them. -/
inductive DynEntries (image : Mapping) : UInt32 → List (UInt32 × UInt32) → Prop
  | null {dyn : UInt32} : image.read32 dyn = some 0 → DynEntries image dyn []
  | entry {dyn d_tag d_val : UInt32} {rest : List (UInt32 × UInt32)} :
      image.read32 dyn = some d_tag → d_tag ≠ 0 → image.read32 (dyn + 4) = some d_val →
        DynEntries image (dyn + 8) rest → DynEntries image dyn ((d_tag, d_val) :: rest)

/-- What is said of a tag: by the last entry with it, if there is one and the tag is kept. -/
def tagOf (base : UInt32) (entries : List (UInt32 × UInt32)) : Tags := fun tag =>
  match entries.reverse.find? (fun e => e.1.toNat = tag) with
  | some e => (dynValue base tag e.2).getD 0
  | none => 0

/-- What an entry makes of the tags. -/
def kept (base : UInt32) (tags : Tags) (e : UInt32 × UInt32) : Tags :=
  match dynValue base e.1.toNat e.2 with
  | some val => Function.update tags e.1.toNat val
  | none => tags

section
variable {image : Mapping} {dyn : UInt32} {entries entries' : List (UInt32 × UInt32)}

/-- Whether a tag is kept does not depend on its value. -/
theorem dynValue_eq_none {base d_val : UInt32} {tag : ℕ} (h : dynValue base tag d_val = none)
    (base' d_val' : UInt32) : dynValue base' tag d_val' = none := by
  unfold dynValue at h ⊢
  split_ifs at h ⊢
  rfl

/-- A tag that is not kept is as one that is not there. -/
theorem tagOf_none {base d_val : UInt32} {tag : ℕ} (h : dynValue base tag d_val = none) :
    tagOf base entries tag = 0 := by
  unfold tagOf
  cases entries.reverse.find? (fun e => e.1.toNat = tag) with
  | none => rfl
  | some e => exact congrArg (Option.getD · 0) (dynValue_eq_none h base e.2)

theorem tagOf_append (base : UInt32) (entries : List (UInt32 × UInt32)) (e : UInt32 × UInt32) :
    tagOf base (entries ++ [e]) = kept base (tagOf base entries) e := by
  funext tag
  have hlast : tagOf base (entries ++ [e]) tag =
      if e.1.toNat = tag then (dynValue base tag e.2).getD 0 else tagOf base entries tag := by
    unfold tagOf
    rw [List.reverse_append, List.reverse_singleton, List.singleton_append, List.find?_cons]
    by_cases htag : e.1.toNat = tag <;> simp [htag]
  rw [hlast]
  by_cases htag : e.1.toNat = tag
  · subst htag
    rw [if_pos rfl, kept]
    cases hval : dynValue base e.1.toNat e.2 with
    | some val => simp
    | none => exact (tagOf_none hval).symm
  · rw [if_neg htag, kept]
    cases dynValue base e.1.toNat e.2 with
    | some val => simp [Function.update_of_ne (Ne.symm htag)]
    | none => rfl

theorem foldl_kept (base : UInt32) (entries : List (UInt32 × UInt32)) :
    entries.foldl (kept base) (fun _ => 0) = tagOf base entries := by
  induction entries using List.reverseRecOn with
  | nil => rfl
  | append_singleton entries e ih =>
    rw [List.foldl_append, ih, tagOf_append]
    rfl

theorem dynLoop_eq (h : DynEntries image dyn entries) {n : ℕ} (hn : entries.length < n)
    (tags : Tags) : dynLoop image dyn tags n = .ok (entries.foldl (kept image.base) tags) := by
  induction h generalizing n tags with
  | null hnull =>
    cases n with
    | zero => contradiction
    | succ n =>
      rw [dynLoop, hnull]
      rfl
  | @entry dyn d_tag d_val rest htag hne hval _ ih =>
    cases n with
    | zero => contradiction
    | succ n =>
      have hstep : dynLoop image dyn tags (n + 1) =
          dynLoop image (dyn + 8) (kept image.base tags (d_tag, d_val)) n := by
        rw [dynLoop, htag, hval]
        change (if d_tag = 0 then _ else _) = _
        rw [if_neg hne]
        rfl
      rw [hstep, List.foldl_cons]
      exact ih (Nat.lt_of_succ_lt_succ hn) _

theorem DynEntries.unique (h : DynEntries image dyn entries) (h' : DynEntries image dyn entries') :
    entries = entries' := by
  induction h generalizing entries' with
  | null hnull =>
    cases h' with
    | null _ => rfl
    | entry htag hne _ _ => exact absurd (Option.some.inj (htag.symm.trans hnull)) hne
  | entry htag hne hval _ ih =>
    cases h' with
    | null hnull => exact absurd (Option.some.inj (htag.symm.trans hnull)) hne
    | entry htag' _ hval' hrest =>
      rw [Option.some.inj (htag.symm.trans htag'), Option.some.inj (hval.symm.trans hval'),
        ih hrest]

theorem DynEntries.tail {e : UInt32 × UInt32} (h : DynEntries image dyn (e :: entries)) :
    DynEntries image (dyn + 8) entries := by
  cases h with
  | entry _ _ _ hrest => exact hrest

/-- From any of its entries on, a section is the rest of it. -/
theorem DynEntries.drop (h : DynEntries image dyn entries) {i : ℕ} (hi : i ≤ entries.length) :
    DynEntries image (dyn + .ofNat (8 * i)) (entries.drop i) := by
  induction i with
  | zero => simpa using h
  | succ i ih =>
    have hrest := ih (Nat.le_of_succ_le hi)
    rw [List.drop_eq_getElem_cons (Nat.lt_of_succ_le hi)] at hrest
    have hnext : dyn + .ofNat (8 * (i + 1)) = dyn + .ofNat (8 * i) + 8 := by
      rw [Nat.mul_succ, UInt32.ofNat_add, ← UInt32.add_assoc]
      rfl
    rw [hnext]
    exact hrest.tail

theorem DynEntries.inside (h : DynEntries image dyn entries) : image.offset dyn < image.size := by
  have hread : ∃ d_tag, image.read32 dyn = some d_tag := by
    cases h with
    | null hnull => exact ⟨0, hnull⟩
    | entry htag _ _ _ => exact ⟨_, htag⟩
  obtain ⟨d_tag, htag⟩ := hread
  have hinside := Mapping.inside_of_read32 htag
  rw [Mapping.Inside] at hinside
  omega

/-- A section has no more entries than the image has bytes: it would come back to one of them. -/
theorem DynEntries.length_lt (h : DynEntries image dyn entries) : entries.length < image.size := by
  have hmaps : ∀ i ∈ Finset.range (entries.length + 1),
      image.offset (dyn + .ofNat (8 * i)) ∈ Finset.range image.size := by
    intro i hi
    exact Finset.mem_range.mpr (h.drop (Nat.le_of_lt_succ (Finset.mem_range.mp hi))).inside
  have hinj : Set.InjOn (fun i => image.offset (dyn + .ofNat (8 * i)))
      (Finset.range (entries.length + 1)) := by
    intro i hi j hj heq
    have hi' : i ≤ entries.length := Nat.le_of_lt_succ (Finset.mem_range.mp hi)
    have hj' : j ≤ entries.length := Nat.le_of_lt_succ (Finset.mem_range.mp hj)
    have haddress : dyn + .ofNat (8 * i) = dyn + .ofNat (8 * j) := Mapping.offset_inj heq
    have hrest := h.drop hi'
    rw [haddress] at hrest
    have hlength := congrArg List.length (hrest.unique (h.drop hj'))
    rw [List.length_drop, List.length_drop] at hlength
    omega
  have hcard := Finset.card_le_card_of_injOn _ hmaps hinj
  rw [Finset.card_range, Finset.card_range] at hcard
  exact hcard

/-- Of each tag the last entry counts. -/
theorem build_dyn_data_eq (h : DynEntries image dyn entries) :
    build_dyn_data dyn image = .ok (tagOf image.base entries) := by
  rw [build_dyn_data, dynLoop_eq h (h.length_lt.trans (Nat.lt_succ_self _)), foldl_kept]

end

/-- A library whose image has a dynamic section, and whose relocations are for words of their own,
is opened just where each of them means something. Its handle has the tags of the section, and the
image as it has been laid out, but for the words of the relocations. -/
theorem arm_dlopen_links {page : UInt32} {k : ℕ} (hpage : page.toNat = 2 ^ k) {file : Bytes}
    {phdrs : List Elf32_Phdr} (h : Library page file phdrs) {base : UInt32}
    {entries : List (UInt32 × UInt32)}
    (hentries : DynEntries (laidOut page base file phdrs) (dynamicOf base phdrs 0) entries)
    {rels : List Relocation}
    (hlinkable : Linkable (tagOf base entries) (laidOut page base file phdrs) rels) :
    ((∃ handle, arm_dlopen page file base = .ok handle) ↔
      ∀ r ∈ rels, ∃ value, Means (tagOf base entries) (laidOut page base file phdrs) r value) ∧
    ∀ handle, arm_dlopen page file base = .ok handle → handle.dyn_data = tagOf base entries ∧
      Mapping.AgreeOff (targets (laidOut page base file phdrs) rels) (laidOut page base file phdrs)
        handle.image ∧
      ∀ r ∈ rels, ∃ value, Means (tagOf base entries) (laidOut page base file phdrs) r value ∧
        handle.image.read32 (base + r.r_offset) = some value := by
  have hopen : arm_dlopen page file base =
      (relocateAll (tagOf base entries) rels (laidOut page base file phdrs) >>= fun image =>
        .ok ⟨image, tagOf base entries⟩) := by
    have hbuilt : build_dyn_data (dynamicOf base phdrs 0) (laidOut page base file phdrs) =
        .ok (tagOf base entries) := build_dyn_data_eq hentries
    unfold arm_dlopen
    rw [h.load hpage base]
    change (build_dyn_data _ _ >>= _) = _
    rw [hbuilt]
    change (relocate _ _ >>= _) = _
    rw [hlinkable.relocate_eq]
    rfl
  rw [hopen]
  refine ⟨⟨?_, fun hmeans => ?_⟩, fun handle hhandle => ?_⟩
  · rintro ⟨handle, hhandle⟩ r hmem
    obtain ⟨image, himage, -⟩ := ok_of_bind hhandle
    obtain ⟨value, hmeans, -⟩ := relocateAll_words hlinkable.separate himage r hmem
    exact ⟨value, hmeans⟩
  · obtain ⟨image, himage⟩ := relocateAll_of_means hlinkable.separate hmeans
    rw [himage]
    exact ⟨_, rfl⟩
  · obtain ⟨image, himage, hdone⟩ := ok_of_bind hhandle
    obtain rfl := Except.ok.inj hdone
    exact ⟨rfl, relocateAll_agreeOff himage, relocateAll_words hlinkable.separate himage⟩

/-- A library with a word that its base is to be added to, one that a symbol is, and the section
that says so. -/
def linked : Bytes :=
  valid_ident ++ List.replicate 7 0 ++
    ([0x280003, 1, 0, 52, 0, 0, 0x200034, 2, 0] ++
      [1, 116, 0, 0, 96, 96, 0, 0] ++ [2, 172, 0, 56, 0, 0, 0, 0] ++
      [0, 0, 0, 0, 0, 40, 0, 0x10000, 48, 23, 52, 0x102, 5, 7] ++
      [17, 32, 18, 16, 19, 8, 6, 0, 0, 0]).flatMap (LittleEndian.toBytes 4)

example : (arm_dlopen 4096 linked 0x1000).toOption.map (fun handle =>
    (handle.image.read32 0x1030, handle.image.read32 0x1034)) =
      some (some 0x1005, some 0x102F) := by
  decide +kernel

end FreeRil.ArmDl
