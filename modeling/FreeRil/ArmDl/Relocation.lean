import FreeRil.ArmDl

/-! What the relocations make of an image: each word that one of them is for, and nothing else. -/
namespace FreeRil.ArmDl

/-- The entries of a table, as an image has them. -/
def entries (image : Mapping) (rela : Bool) : ℕ → UInt32 → Except Failure (List Relocation)
  | 0, _ => .ok []
  | n + 1, rel => do
    let r ← readEntry image rela rel
    return r :: (← entries image rela n (nextEntry rela rel))

/-- Relocations one after the other. -/
def relocateAll (tags : Tags) : List Relocation → Mapping → Except Failure Mapping
  | [], image => .ok image
  | r :: rels, image => do
    relocateAll tags rels (← do_relocation tags image r.r_offset r.r_info r.r_addend)

/-- The bytes that are read of an entry. -/
def entrySpan (image : Mapping) (rela : Bool) (rel : UInt32) : Set ℕ :=
  image.span rel 4 ∪ image.span (rel + 4) 4 ∪ if rela then image.span (rel + 8) 4 else ∅

/-- Those that are read of a table. -/
def tableSpan (image : Mapping) (rela : Bool) : ℕ → UInt32 → Set ℕ
  | 0, _ => ∅
  | n + 1, rel => entrySpan image rela rel ∪ tableSpan image rela n (nextEntry rela rel)

/-- Those that are read of a symbol. -/
def symbolSpan (image : Mapping) (tags : Tags) (sym : UInt32) : Set ℕ :=
  image.span (symbolAddress tags sym + 4) 4 ∪ image.span (symbolAddress tags sym + 14) 2

/-- Those that a relocation is for. -/
def targetSpan (image : Mapping) (r : Relocation) : Set ℕ := image.span (image.base + r.r_offset) 4

def targets (image : Mapping) (rels : List Relocation) : Set ℕ :=
  {i | ∃ r ∈ rels, i ∈ targetSpan image r}

theorem ok_of_bind {α β : Type} {x : Except Failure α} {f : α → Except Failure β} {b : β}
    (h : (x >>= f) = .ok b) : ∃ a, x = .ok a ∧ f a = .ok b := by
  cases x with
  | error e => contradiction
  | ok a => exact ⟨a, rfl, h⟩

section
variable {T : Set ℕ} {tags : Tags} {image image' : Mapping}

/-- A value depends on the symbol and on the word itself. -/
theorem relocated_congr (h : Mapping.AgreeOff T image image') {target info : UInt32}
    (htarget : Disjoint T (image.span target 4))
    (hsymbol : Disjoint T (symbolSpan image tags (info >>> 8))) (addend : Option UInt32) :
    relocated tags image' target info addend = relocated tags image target info addend := by
  obtain ⟨hvalue, hshndx⟩ := Set.disjoint_union_right.mp hsymbol
  have hundefined : symbolUndefined image' tags (info >>> 8) =
    symbolUndefined image tags (info >>> 8) := by
    rw [symbolUndefined, h.read_eq hshndx, symbolUndefined]
  have hst : st_value image' tags (info >>> 8) = st_value image tags (info >>> 8) := by
    rw [st_value, h.read32_eq hvalue, st_value]
  have haddend : addendAt image' target addend = addendAt image target addend := by
    cases addend with
    | some addend => rfl
    | none => rw [addendAt, h.read32_eq htarget, addendAt]
  simp only [relocated, hundefined, hst, haddend, h.read32_eq htarget, h.base]

theorem readEntry_congr (h : Mapping.AgreeOff T image image') {rela : Bool} {rel : UInt32}
    (hentry : Disjoint T (entrySpan image rela rel)) :
    readEntry image' rela rel = readEntry image rela rel := by
  obtain ⟨hentry, haddend⟩ := Set.disjoint_union_right.mp hentry
  obtain ⟨hoffset, hinfo⟩ := Set.disjoint_union_right.mp hentry
  rw [readEntry, readEntry, h.read32_eq hoffset, h.read32_eq hinfo]
  cases rela with
  | false => rfl
  | true => rw [h.read32_eq haddend]

/-- A table that is not written to is read as it was. -/
theorem entries_congr (h : Mapping.AgreeOff T image image') {rela : Bool} {n : ℕ} {rel : UInt32}
    (htable : Disjoint T (tableSpan image rela n rel)) :
    entries image' rela n rel = entries image rela n rel := by
  induction n generalizing rel with
  | zero => rfl
  | succ n ih =>
    obtain ⟨hentry, hrest⟩ := Set.disjoint_union_right.mp htable
    rw [entries, entries, readEntry_congr h hentry, ih hrest]

theorem targets_congr (h : Mapping.AgreeOff T image image') (rels : List Relocation) :
    targets image' rels = targets image rels := by
  simp only [targets, targetSpan, h.base, h.span_eq]

theorem targetSpan_subset {r : Relocation} {rels : List Relocation} (h : r ∈ rels) :
    targetSpan image r ⊆ targets image rels := fun _ hi => ⟨r, h, hi⟩

theorem targets_cons_subset {r : Relocation} {rels : List Relocation} :
    targets image rels ⊆ targets image (r :: rels) := fun _ ⟨r', hmem, hi⟩ => ⟨r', .tail _ hmem, hi⟩

theorem tableSpan_congr (h : Mapping.AgreeOff T image image') (rela : Bool) (n : ℕ) (rel : UInt32) :
    tableSpan image' rela n rel = tableSpan image rela n rel := by
  induction n generalizing rel with
  | zero => rfl
  | succ n ih => simp only [tableSpan, entrySpan, h.span_eq, ih]

/-- A relocation changes its own word. -/
theorem do_relocation_agreeOff {r : Relocation}
    (h : do_relocation tags image r.r_offset r.r_info r.r_addend = .ok image') :
    Mapping.AgreeOff (targetSpan image r) image image' := by
  simp only [do_relocation, Bind.bind, Except.bind] at h
  split at h
  · contradiction
  · cases hwrite : image.write32 (image.base + r.r_offset) _ with
    | none =>
      rw [hwrite] at h
      contradiction
    | some image₁ =>
      rw [hwrite] at h
      obtain rfl := Except.ok.inj h
      exact Mapping.write32_agreeOff hwrite

/-- A table that none of its relocations is for is read as if at once. -/
theorem relocateTable_eq {rela : Bool} {n : ℕ} {rel : UInt32} {rels : List Relocation}
    (hentries : entries image rela n rel = .ok rels)
    (htable : Disjoint (targets image rels) (tableSpan image rela n rel)) :
    relocateTable tags rela n rel image = relocateAll tags rels image := by
  induction n generalizing image rel rels with
  | zero =>
    obtain rfl := Except.ok.inj hentries
    rfl
  | succ n ih =>
    obtain ⟨r, hr, hentries⟩ := ok_of_bind hentries
    obtain ⟨rest, hrest, heq⟩ := ok_of_bind hentries
    obtain rfl := Except.ok.inj heq
    rw [relocateTable, relocateAll, hr]
    change (do_relocation tags image r.r_offset r.r_info r.r_addend >>= _) = _
    cases hfirst : do_relocation tags image r.r_offset r.r_info r.r_addend with
    | error e => rfl
    | ok image₁ =>
      have hagree := do_relocation_agreeOff hfirst
      obtain ⟨-, hlater⟩ := Set.disjoint_union_right.mp htable
      refine ih ?_ ?_
      · rw [entries_congr hagree (hlater.mono_left (targetSpan_subset List.mem_cons_self))]
        exact hrest
      · rw [targets_congr hagree, tableSpan_congr hagree]
        exact hlater.mono_left targets_cons_subset

theorem relocateAll_append (rels rels' : List Relocation) (image : Mapping) :
    relocateAll tags (rels ++ rels') image =
      relocateAll tags rels image >>= relocateAll tags rels' := by
  induction rels generalizing image with
  | nil => rfl
  | cons r rels ih =>
    rw [List.cons_append, relocateAll, relocateAll]
    cases do_relocation tags image r.r_offset r.r_info r.r_addend with
    | error e => rfl
    | ok image₁ => exact ih image₁

/-- Relocations change their own words. -/
theorem relocateAll_agreeOff {rels : List Relocation}
    (h : relocateAll tags rels image = .ok image') :
    Mapping.AgreeOff (targets image rels) image image' := by
  induction rels generalizing image with
  | nil =>
    obtain rfl := Except.ok.inj h
    exact .refl
  | cons r rels ih =>
    obtain ⟨image₁, hfirst, hrest⟩ := ok_of_bind h
    have hagree := do_relocation_agreeOff hfirst
    refine (hagree.trans (ih hrest)).mono
      (Set.union_subset (targetSpan_subset List.mem_cons_self) ?_)
    rw [targets_congr hagree]
    exact targets_cons_subset

/-! What a relocation is to make of its word. -/

/-- The address of a symbol, if it is defined, and zero otherwise. -/
def symbolOf (tags : Tags) (image : Mapping) (sym : UInt32) : Except Failure UInt32 := do
  if ← symbolUndefined image tags sym then return 0
  else return image.base + (← st_value image tags sym)

inductive Means (tags : Tags) (image : Mapping) (r : Relocation) : UInt32 → Prop
  /-- Nothing is linked to. -/
  | slot : r.r_info &&& 0xFF = R_ARM_GLOB_DAT ∨ r.r_info &&& 0xFF = R_ARM_JUMP_SLOT →
      r.r_info >>> 8 ≠ 0 → symbolUndefined image tags (r.r_info >>> 8) = .ok true →
        Means tags image r (r.r_addend.getD 0)
  | relative {addend : UInt32} : r.r_info &&& 0xFF = R_ARM_RELATIVE → r.r_info >>> 8 = 0 →
      addendAt image (image.base + r.r_offset) r.r_addend = .ok addend →
        Means tags image r (image.base + addend)
  | absolute {symbol addend : UInt32} : r.r_info &&& 0xFF = R_ARM_ABS32 → r.r_info >>> 8 ≠ 0 →
      symbolOf tags image (r.r_info >>> 8) = .ok symbol →
        addendAt image (image.base + r.r_offset) r.r_addend = .ok addend →
        Means tags image r (symbol + addend)

theorem Means.of_relocated {r : Relocation} {value : UInt32}
    (h : relocated tags image (image.base + r.r_offset) r.r_info r.r_addend = .ok value) :
    Means tags image r value := by
  unfold relocated at h
  by_cases hslot : r.r_info &&& 0xFF = R_ARM_GLOB_DAT ∨ r.r_info &&& 0xFF = R_ARM_JUMP_SLOT
  · rw [if_pos hslot] at h
    by_cases hsym : r.r_info >>> 8 = 0
    · rw [if_pos hsym] at h
      contradiction
    · rw [if_neg hsym] at h
      obtain ⟨-, -, h⟩ := ok_of_bind h
      obtain ⟨undefined, hundefined, h⟩ := ok_of_bind h
      cases undefined with
      | false => contradiction
      | true =>
        obtain rfl := Except.ok.inj h
        exact .slot hslot hsym hundefined
  · rw [if_neg hslot] at h
    by_cases hrelative : r.r_info &&& 0xFF = R_ARM_RELATIVE
    · rw [if_pos hrelative] at h
      by_cases hsym : r.r_info >>> 8 = 0
      · rw [if_neg (not_not.mpr hsym)] at h
        cases hpresent : r.r_addend with
        | some addend =>
          rw [hpresent] at h
          obtain rfl := Except.ok.inj h
          exact .relative hrelative hsym (by rw [hpresent]; rfl)
        | none =>
          rw [hpresent] at h
          obtain ⟨addend, haddend, h⟩ := ok_of_bind h
          obtain rfl := Except.ok.inj h
          rw [UInt32.add_comm]
          exact .relative hrelative hsym (by rw [hpresent]; exact haddend)
      · rw [if_pos hsym] at h
        contradiction
    · rw [if_neg hrelative] at h
      by_cases habsolute : r.r_info &&& 0xFF = R_ARM_ABS32
      · rw [if_pos habsolute] at h
        obtain ⟨addend, haddend, h⟩ := ok_of_bind h
        by_cases hsym : r.r_info >>> 8 = 0
        · rw [if_pos hsym] at h
          contradiction
        · rw [if_neg hsym] at h
          obtain ⟨-, -, h⟩ := ok_of_bind h
          obtain ⟨undefined, hundefined, h⟩ := ok_of_bind h
          have hsymbol : ∃ symbol, symbolOf tags image (r.r_info >>> 8) = .ok symbol ∧ value =
            symbol + addend := by
            unfold symbolOf
            rw [hundefined]
            cases undefined with
            | true =>
              obtain rfl := Except.ok.inj h
              exact ⟨0, rfl, (UInt32.zero_add _).symm⟩
            | false =>
              obtain ⟨st, hst, h⟩ := ok_of_bind h
              obtain rfl := Except.ok.inj h
              rw [hst]
              exact ⟨_, rfl, rfl⟩
          obtain ⟨symbol, hsymbol, rfl⟩ := hsymbol
          exact .absolute habsolute hsym hsymbol haddend
      · rw [if_neg habsolute] at h
        contradiction

theorem Means.relocated_eq {r : Relocation} {value : UInt32} (h : Means tags image r value) :
    relocated tags image (image.base + r.r_offset) r.r_info r.r_addend = .ok value := by
  have hkinds : R_ARM_RELATIVE ≠ R_ARM_GLOB_DAT ∧ R_ARM_RELATIVE ≠ R_ARM_JUMP_SLOT ∧
      R_ARM_ABS32 ≠ R_ARM_GLOB_DAT ∧ R_ARM_ABS32 ≠ R_ARM_JUMP_SLOT ∧
        R_ARM_ABS32 ≠ R_ARM_RELATIVE := by
    decide
  unfold relocated
  cases h with
  | slot htype hsym hundefined =>
    rw [if_pos htype, if_neg hsym, hundefined]
    rfl
  | relative htype hsym haddend =>
    rw [htype, if_neg (by tauto), if_pos rfl, if_neg (not_not.mpr hsym)]
    revert haddend
    cases r.r_addend with
    | some addend =>
      rintro ⟨⟩
      rfl
    | none =>
      intro haddend
      rw [addendAt] at haddend
      rw [haddend, UInt32.add_comm]
      rfl
  | absolute htype hsym hsymbol haddend =>
    rw [htype, if_neg (by tauto), if_neg (by tauto), if_pos rfl, haddend]
    obtain ⟨undefined, hundefined, hsymbol⟩ := ok_of_bind hsymbol
    change (if r.r_info >>> 8 = 0 then _ else _) = _
    rw [if_neg hsym, hundefined]
    cases undefined with
    | true =>
      obtain rfl := Except.ok.inj hsymbol
      rw [UInt32.zero_add]
      rfl
    | false =>
      obtain ⟨st, hst, hsymbol⟩ := ok_of_bind hsymbol
      obtain rfl := Except.ok.inj hsymbol
      rw [hst]
      rfl

theorem Means.unique {r : Relocation} {value value' : UInt32} (h : Means tags image r value)
    (h' : Means tags image r value') : value = value' :=
  Except.ok.inj (h.relocated_eq.symm.trans h'.relocated_eq)

/-- The word of a relocation is what it is to be. -/
theorem do_relocation_word {r : Relocation}
    (h : do_relocation tags image r.r_offset r.r_info r.r_addend = .ok image') :
    ∃ value, Means tags image r value ∧ image'.read32 (image.base + r.r_offset) = some value := by
  obtain ⟨value, hvalue, h⟩ := ok_of_bind h
  refine ⟨value, .of_relocated hvalue, ?_⟩
  cases hwrite : image.write32 (image.base + r.r_offset) value with
  | none =>
    rw [hwrite] at h
    contradiction
  | some image₁ =>
    rw [hwrite] at h
    obtain rfl := Except.ok.inj h
    exact Mapping.read32_write32 hwrite

theorem do_relocation_of_means {r : Relocation} {value : UInt32} (h : Means tags image r value)
    (hinside : image.Inside (image.base + r.r_offset) 4) :
    ∃ image', do_relocation tags image r.r_offset r.r_info r.r_addend = .ok image' := by
  obtain ⟨image', hwrite⟩ := Mapping.write32_of_inside hinside value
  refine ⟨image', ?_⟩
  rw [do_relocation, h.relocated_eq]
  change readOr (image.write32 (image.base + r.r_offset) value) = _
  rw [hwrite]
  rfl

/-- Relocations whose words are apart from each other and from the symbols. -/
structure Separate (tags : Tags) (image : Mapping) (rels : List Relocation) : Prop where
  inside : ∀ r ∈ rels, image.Inside (image.base + r.r_offset) 4
  apart : rels.Pairwise fun r r' => Disjoint (targetSpan image r) (targetSpan image r')
  symbols : ∀ r ∈ rels, Disjoint (targets image rels) (symbolSpan image tags (r.r_info >>> 8))

section
variable {r : Relocation} {rels : List Relocation}
  (h : Separate tags image (r :: rels))
  (hagree : Mapping.AgreeOff (targetSpan image r) image image')
include h hagree

theorem Separate.rest : Separate tags image' rels where
  inside r' hmem := by
    have hinside := h.inside r' (.tail _ hmem)
    rw [Mapping.Inside, Mapping.offset] at hinside ⊢
    rwa [hagree.base, hagree.size]
  apart := by
    simp only [targetSpan, hagree.base, hagree.span_eq]
    exact h.apart.of_cons
  symbols r' hmem := by
    rw [targets_congr hagree]
    simp only [symbolSpan, hagree.span_eq]
    exact (h.symbols r' (.tail _ hmem)).mono_left targets_cons_subset

/-- A relocation means the same before and after another one. -/
theorem Separate.means_iff {r' : Relocation} (hmem : r' ∈ rels) {value : UInt32} :
    Means tags image' r' value ↔ Means tags image r' value := by
  have hcongr := relocated_congr hagree ((List.pairwise_cons.mp h.apart).1 r' hmem)
    ((h.symbols r' (.tail _ hmem)).mono_left (targetSpan_subset List.mem_cons_self)) r'.r_addend
  constructor
  · intro hmeans
    have heq := hmeans.relocated_eq
    rw [hagree.base, hcongr] at heq
    exact .of_relocated heq
  · intro hmeans
    refine .of_relocated ?_
    rw [hagree.base, hcongr]
    exact hmeans.relocated_eq

end

/-- Where all of them mean something, each word is what it is to be, by the image as it was. -/
theorem relocateAll_words {rels : List Relocation} (h : Separate tags image rels)
    (hok : relocateAll tags rels image = .ok image') (r : Relocation) (hmem : r ∈ rels) :
    ∃ value, Means tags image r value ∧ image'.read32 (image.base + r.r_offset) = some value := by
  induction rels generalizing image with
  | nil => contradiction
  | cons r₁ rels ih =>
    obtain ⟨image₁, hfirst, hrest⟩ := ok_of_bind hok
    have hagree := do_relocation_agreeOff hfirst
    obtain rfl | hmem := List.mem_cons.mp hmem
    · -- the other relocations leave the word alone
      obtain ⟨value, hmeans, hword⟩ := do_relocation_word hfirst
      refine ⟨value, hmeans, ?_⟩
      rw [(relocateAll_agreeOff hrest).read32_eq ?_, hword]
      rw [targets_congr hagree, hagree.span_eq]
      refine Set.disjoint_left.mpr fun i ⟨r', hr', hi⟩ => ?_
      exact Set.disjoint_right.mp ((List.pairwise_cons.mp h.apart).1 r' hr') hi
    · obtain ⟨value, hmeans, hword⟩ := ih (h.rest hagree) hrest hmem
      rw [hagree.base] at hword
      exact ⟨value, (h.means_iff hagree hmem).mp hmeans, hword⟩

theorem relocateAll_of_means {rels : List Relocation} (h : Separate tags image rels)
    (hmeans : ∀ r ∈ rels, ∃ value, Means tags image r value) :
    ∃ image', relocateAll tags rels image = .ok image' := by
  induction rels generalizing image with
  | nil => exact ⟨image, rfl⟩
  | cons r rels ih =>
    obtain ⟨value, hvalue⟩ := hmeans r List.mem_cons_self
    obtain ⟨image₁, hfirst⟩ := do_relocation_of_means hvalue (h.inside r List.mem_cons_self)
    have hagree := do_relocation_agreeOff hfirst
    obtain ⟨image', hrest⟩ := ih (h.rest hagree) fun r' hmem => by
      obtain ⟨value', hvalue'⟩ := hmeans r' (.tail _ hmem)
      exact ⟨value', (h.means_iff hagree hmem).mpr hvalue'⟩
    refine ⟨image', ?_⟩
    rw [relocateAll, hfirst]
    exact hrest

/-! The tables of a library. -/

structure Table where
  rela : Bool
  address : UInt32
  count : ℕ

/-- A table of so many bytes. -/
def Table.ofSize (rela : Bool) (address size : UInt32) : Table where
  rela := rela
  address := address
  count := if rela then (size.toNat + 11) / 12 else (size.toNat + 7) / 8

/-- Those of the dynamic section, in the order of `relocate`. -/
def tables (tags : Tags) : List Table :=
  (if tags DT_REL ≠ 0 then [.ofSize false (tags DT_REL) (tags DT_RELSZ)] else []) ++
  (if tags DT_RELA ≠ 0 then [.ofSize true (tags DT_RELA) (tags DT_RELASZ)] else []) ++
  (if tags DT_JMPREL ≠ 0 then [.ofSize (tags DT_PLTREL = 7) (tags DT_JMPREL) (tags DT_PLTRELSZ)]
    else [])

/-- Entries of a size that is known, and a kind of table that is. -/
structure Known (tags : Tags) : Prop where
  rel : tags DT_REL ≠ 0 → tags DT_RELENT = 8
  rela : tags DT_RELA ≠ 0 → tags DT_RELAENT = 12
  pltrel : tags DT_JMPREL ≠ 0 → tags DT_PLTREL = 17 ∨ tags DT_PLTREL = 7

def relocateTables (tags : Tags) : List Table → Mapping → Except Failure Mapping
  | [], image => .ok image
  | t :: ts, image =>
    do relocateTables tags ts (← relocateTable tags t.rela t.count t.address image)

/-- All entries. -/
def allEntries (image : Mapping) : List Table → Except Failure (List Relocation)
  | [] => .ok []
  | t :: ts => return (← entries image t.rela t.count t.address) ++ (← allEntries image ts)

def allSpan (image : Mapping) : List Table → Set ℕ
  | [] => ∅
  | t :: ts => tableSpan image t.rela t.count t.address ∪ allSpan image ts

theorem allEntries_congr (h : Mapping.AgreeOff T image image') {ts : List Table}
    (htables : Disjoint T (allSpan image ts)) : allEntries image' ts = allEntries image ts := by
  induction ts with
  | nil => rfl
  | cons t ts ih =>
    obtain ⟨htable, hrest⟩ := Set.disjoint_union_right.mp htables
    rw [allEntries, allEntries, entries_congr h htable, ih hrest]

theorem allSpan_congr (h : Mapping.AgreeOff T image image') (ts : List Table) :
    allSpan image' ts = allSpan image ts := by
  induction ts with
  | nil => rfl
  | cons t ts ih => rw [allSpan, allSpan, tableSpan_congr h, ih]

theorem relocateTables_eq {ts : List Table} {rels : List Relocation}
    (hentries : allEntries image ts = .ok rels)
    (htables : Disjoint (targets image rels) (allSpan image ts)) :
    relocateTables tags ts image = relocateAll tags rels image := by
  induction ts generalizing image rels with
  | nil =>
    obtain rfl := Except.ok.inj hentries
    rfl
  | cons t ts ih =>
    obtain ⟨mine, hmine, hentries⟩ := ok_of_bind hentries
    obtain ⟨others, hothers, heq⟩ := ok_of_bind hentries
    obtain rfl := Except.ok.inj heq
    obtain ⟨htable, hlater⟩ := Set.disjoint_union_right.mp htables
    have hmineSub : targets image mine ⊆ targets image (mine ++ others) :=
      fun i ⟨r, hr, hi⟩ => ⟨r, List.mem_append_left _ hr, hi⟩
    have hothersSub : targets image others ⊆ targets image (mine ++ others) :=
      fun i ⟨r, hr, hi⟩ => ⟨r, List.mem_append_right _ hr, hi⟩
    rw [relocateTables, relocateAll_append, relocateTable_eq hmine (htable.mono_left hmineSub)]
    cases hfirst : relocateAll tags mine image with
    | error e => rfl
    | ok image₁ =>
      have hagree := relocateAll_agreeOff hfirst
      refine ih ?_ ?_
      · rw [allEntries_congr hagree (hlater.mono_left hmineSub)]
        exact hothers
      · rw [targets_congr hagree, allSpan_congr hagree]
        exact hlater.mono_left hothersSub

theorem relocateTables_append (ts ts' : List Table) (image : Mapping) :
    relocateTables tags (ts ++ ts') image =
      relocateTables tags ts image >>= relocateTables tags ts' := by
  induction ts generalizing image with
  | nil => rfl
  | cons t ts ih =>
    rw [List.cons_append, relocateTables, relocateTables]
    cases relocateTable tags t.rela t.count t.address image with
    | error e => rfl
    | ok image₁ => exact ih image₁

theorem relocateTables_singleton (t : Table) (image : Mapping) :
    relocateTables tags [t] image = relocateTable tags t.rela t.count t.address image := by
  rw [relocateTables]
  cases relocateTable tags t.rela t.count t.address image <;> rfl

theorem relocate_eq_tables (h : Known tags) :
    relocate tags image = relocateTables tags (tables tags) image := by
  have hrel :
    (if tags DT_REL ≠ 0 then do_rel tags image (tags DT_REL) (tags DT_RELSZ) (tags DT_RELENT)
      else pure image) = relocateTables tags
        (if tags DT_REL ≠ 0 then [.ofSize false (tags DT_REL) (tags DT_RELSZ)] else []) image := by
    split_ifs with hrel
    · rw [do_rel, if_neg (not_not.mpr (h.rel hrel)), relocateTables_singleton]
      rfl
    · rfl
  have hrela (image : Mapping) : (if tags DT_RELA ≠ 0 then
      do_rela tags image (tags DT_RELA) (tags DT_RELASZ) (tags DT_RELAENT) else pure image) =
        relocateTables tags (if tags DT_RELA ≠ 0 then
          [.ofSize true (tags DT_RELA) (tags DT_RELASZ)] else []) image := by
    split_ifs with hrela
    · rw [do_rela, if_neg (not_not.mpr (h.rela hrela)), relocateTables_singleton]
      rfl
    · rfl
  have hjmprel (image : Mapping) : (if tags DT_JMPREL ≠ 0 then
      if tags DT_PLTREL = 17 then do_rel tags image (tags DT_JMPREL) (tags DT_PLTRELSZ) 8
      else if tags DT_PLTREL = 7 then do_rela tags image (tags DT_JMPREL) (tags DT_PLTRELSZ) 12
      else throw .failed else return image) = relocateTables tags (if tags DT_JMPREL ≠ 0 then
        [.ofSize (tags DT_PLTREL = 7) (tags DT_JMPREL) (tags DT_PLTRELSZ)] else []) image := by
    split_ifs with hjmprel hkind hkind
    · rw [relocateTables_singleton, hkind]
      rfl
    · rw [relocateTables_singleton, hkind]
      rfl
    · exact absurd (h.pltrel hjmprel) (by tauto)
    · rfl
  have hthree : relocate tags image =
      ((if tags DT_REL ≠ 0 then do_rel tags image (tags DT_REL) (tags DT_RELSZ) (tags DT_RELENT)
        else pure image) >>= fun image =>
        (if tags DT_RELA ≠ 0 then do_rela tags image (tags DT_RELA) (tags DT_RELASZ)
          (tags DT_RELAENT)
          else pure image) >>= fun image =>
          if tags DT_JMPREL ≠ 0 then
            if tags DT_PLTREL = 17 then do_rel tags image (tags DT_JMPREL) (tags DT_PLTRELSZ) 8
            else if tags DT_PLTREL = 7 then do_rela tags image (tags DT_JMPREL)
              (tags DT_PLTRELSZ) 12
            else throw .failed else return image) := by
    unfold relocate
    split_ifs <;> rfl
  rw [hthree, tables, relocateTables_append, relocateTables_append, ← hrel, bind_assoc]
  simp only [hrela, hjmprel]

/-- A library whose relocations are for words of their own: neither of the tables nor of the
symbols. -/
structure Linkable (tags : Tags) (image : Mapping) (rels : List Relocation) : Prop where
  known : Known tags
  entries : allEntries image (tables tags) = .ok rels
  tables : Disjoint (targets image rels) (allSpan image (tables tags))
  separate : Separate tags image rels

theorem Linkable.relocate_eq {rels : List Relocation} (h : Linkable tags image rels) :
    relocate tags image = relocateAll tags rels image := by
  rw [relocate_eq_tables h.known, relocateTables_eq h.entries h.tables]

/-- Such a library is relocated just where each of its relocations means something. Then each word
is what its relocation makes of the image as it was, and every other byte is what it was. -/
theorem relocate_words {rels : List Relocation} (h : Linkable tags image rels) :
    ((∃ image', relocate tags image = .ok image') ↔ ∀ r ∈ rels, ∃ value, Means tags image r value) ∧
    ∀ image', relocate tags image = .ok image' →
      Mapping.AgreeOff (targets image rels) image image' ∧
      ∀ r ∈ rels, ∀ value, Means tags image r value →
        image'.read32 (image.base + r.r_offset) = some value := by
  rw [h.relocate_eq]
  refine ⟨⟨?_, relocateAll_of_means h.separate⟩, fun image' hok => ⟨relocateAll_agreeOff hok, ?_⟩⟩
  · rintro ⟨image', hok⟩ r hmem
    obtain ⟨value, hmeans, -⟩ := relocateAll_words h.separate hok r hmem
    exact ⟨value, hmeans⟩
  · intro r hmem value hvalue
    obtain ⟨value', hmeans, hword⟩ := relocateAll_words h.separate hok r hmem
    rw [hvalue.unique hmeans, hword]

end

/-- A library with a word that its base is to be added to, and one that a symbol is. -/
def twoWords : Mapping where
  base := 0x1000
  size := 64
  byte := fun i => List.getD
    (List.replicate 20 0 ++ [40, 0, 0, 0] ++ List.replicate 6 0 ++ [1, 0] ++
    [48, 0, 0, 0, 23, 0, 0, 0] ++ [52, 0, 0, 0, 2, 1, 0, 0] ++ [5, 0, 0, 0, 7, 0, 0, 0]) i 0

def twoWordsTags : Tags := fun tag =>
  if tag = DT_REL then 0x1020 else if tag = DT_RELSZ then 16 else if tag = DT_RELENT then 8
  else if tag = DT_SYMTAB then 0x1000 else 0

def twoWordsRelocations : List Relocation := [⟨48, 23, none⟩, ⟨52, 0x102, none⟩]

theorem twoWords_targets {i : ℕ} (h : i ∈ targets twoWords twoWordsRelocations) : 48 ≤ i := by
  obtain ⟨r, hmem, hi⟩ := h
  have hspans : targetSpan twoWords ⟨48, 23, none⟩ = Set.Ico 48 52 ∧
      targetSpan twoWords ⟨52, 0x102, none⟩ = Set.Ico 52 56 := ⟨rfl, rfl⟩
  obtain rfl | rfl : r = ⟨48, 23, none⟩ ∨ r = ⟨52, 0x102, none⟩ := by
    simpa [twoWordsRelocations] using hmem
  · exact (hspans.1 ▸ hi).1
  · have hle := (hspans.2 ▸ hi).1
    omega

theorem twoWords_linkable : Linkable twoWordsTags twoWords twoWordsRelocations where
  known := ⟨fun _ => by decide, fun h => absurd rfl h, fun h => absurd rfl h⟩
  entries := by rfl
  tables := by
    have htable : allSpan twoWords (tables twoWordsTags) =
        (Set.Ico 32 36 ∪ Set.Ico 36 40 ∪ ∅ ∪ (Set.Ico 40 44 ∪ Set.Ico 44 48 ∪ ∅ ∪ ∅)) ∪ ∅ := rfl
    refine Set.disjoint_left.mpr fun i htarget hi => ?_
    have hle := twoWords_targets htarget
    rw [htable] at hi
    simp only [Set.mem_union, Set.mem_Ico, Set.mem_empty_iff_false, or_false] at hi
    omega
  separate := by
    refine ⟨by decide +kernel, ?_, fun r hmem => ?_⟩
    · refine List.pairwise_pair.mpr ?_
      change Disjoint (Set.Ico 48 52) (Set.Ico 52 56)
      exact Set.Ico_disjoint_Ico_same
    · refine Set.disjoint_left.mpr fun i htarget hi => ?_
      have hle := twoWords_targets htarget
      have hsymbols : symbolSpan twoWords twoWordsTags 0 = Set.Ico 4 8 ∪ Set.Ico 14 16 ∧
          symbolSpan twoWords twoWordsTags 1 = Set.Ico 20 24 ∪ Set.Ico 30 32 := ⟨rfl, rfl⟩
      simp only [twoWordsRelocations, List.mem_cons, List.not_mem_nil, or_false] at hmem
      obtain rfl | rfl := hmem
      · change i ∈ symbolSpan twoWords twoWordsTags 0 at hi
        rw [hsymbols.1] at hi
        simp only [Set.mem_union, Set.mem_Ico] at hi
        omega
      · change i ∈ symbolSpan twoWords twoWordsTags 1 at hi
        rw [hsymbols.2] at hi
        simp only [Set.mem_union, Set.mem_Ico] at hi
        omega

theorem twoWords_relocated : ∃ image', relocate twoWordsTags twoWords = .ok image' ∧
    image'.read32 0x1030 = some 0x1005 ∧ image'.read32 0x1034 = some 0x102F := by
  obtain ⟨hiff, hwords⟩ := relocate_words twoWords_linkable
  have haddends : addendAt twoWords 0x1030 none = .ok 5 ∧
      addendAt twoWords 0x1034 none = .ok 7 := by
    decide +kernel
  have hsymbol : symbolOf twoWordsTags twoWords 1 = .ok 0x1028 := by decide +kernel
  have hfirst : Means twoWordsTags twoWords ⟨48, 23, none⟩ (0x1000 + 5) :=
    .relative rfl rfl haddends.1
  have hsecond : Means twoWordsTags twoWords ⟨52, 0x102, none⟩ (0x1028 + 7) :=
    .absolute rfl (by decide) hsymbol haddends.2
  obtain ⟨image', hok⟩ := hiff.mpr (by
    simp only [twoWordsRelocations, List.forall_mem_cons]
    exact ⟨⟨_, hfirst⟩, ⟨_, hsecond⟩, fun _ hnil => absurd hnil List.not_mem_nil⟩)
  obtain ⟨-, hword⟩ := hwords image' hok
  exact ⟨image', hok, hword _ List.mem_cons_self _ hfirst,
    hword _ (List.mem_cons_of_mem _ List.mem_cons_self) _ hsecond⟩

end FreeRil.ArmDl
