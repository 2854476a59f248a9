import FreeRil.ArmDl

/-! Symbols are looked up along the chain of their bucket. -/
namespace FreeRil.ArmDl

section
variable {image : Mapping}

theorem equals_cons {address : UInt32} {c : UInt8} {rest : Bytes} :
    equals image address (c :: rest) = some true ↔
      image.read address 1 = some [c] ∧ equals image (address + 1) rest = some true := by
  rw [equals]
  split
  · rename_i c' hread
    rw [hread]
    by_cases hc : c' = c
    · simp [hc]
    · simp [hc]
  · rename_i hread
    simpa using fun h => absurd h (hread c)

/-- Where there is a string, a comparison says whether it is this one. -/
theorem equals_string {string name : Bytes} (h0 : 0 ∉ string) (h0' : 0 ∉ name) {address : UInt32}
    (h : equals image address (string ++ [0]) = some true) :
    equals image address (name ++ [0]) = some (decide (name = string)) := by
  induction name generalizing string address with
  | nil =>
    cases string with
    | nil => simpa using h
    | cons c string =>
      obtain ⟨hread, -⟩ := equals_cons.mp h
      have hc : c ≠ 0 := fun hc => h0 (hc ▸ List.mem_cons_self)
      rw [List.nil_append, equals, hread]
      simp [hc]
  | cons n name ih =>
    cases string with
    | nil =>
      obtain ⟨hread, -⟩ := equals_cons.mp h
      have hn : 0 ≠ n := fun hn => h0' (hn ▸ List.mem_cons_self)
      rw [List.cons_append, equals, hread]
      simp [hn]
    | cons c string =>
      obtain ⟨hread, hrest⟩ := equals_cons.mp h
      rw [List.cons_append, equals, hread]
      simp only
      by_cases hc : c = n
      · rw [if_pos hc, ih (fun hmem => h0 (.tail _ hmem)) (fun hmem => h0' (.tail _ hmem)) hrest]
        simp [hc]
      · rw [if_neg hc]
        simp [Ne.symm hc]

/-- A symbol with a name has no other. -/
theorem isNamed_eq {handle : ArmDlHandle} {name : Bytes} {y : UInt32}
    (h : isNamed handle name y = some true) (symbol : Bytes) :
    isNamed handle symbol y = some (decide (cstr symbol = cstr name)) := by
  unfold isNamed at h ⊢
  cases hread : handle.image.read32 (symbolAddress handle.dyn_data y) with
  | none =>
    rw [hread] at h
    contradiction
  | some st_name =>
    rw [hread] at h
    exact equals_string (zero_notMem_cstr name) (zero_notMem_cstr symbol) h

end

section
variable (handle : ArmDlHandle) (nbucket nchain : UInt32)

/-- A symbol of the table that is not the undefined one. -/
def IsSymbol (y : UInt32) : Prop := y ≠ 0 ∧ y < nchain

/-- The chain leads from a symbol to the next one. -/
def Leads (y y' : UInt32) : Prop := IsSymbol nchain y ∧ chain handle nbucket y = some y'

/-- Where the chain of a bucket begins. -/
def bucket (hash : UInt32) : Option UInt32 :=
  handle.image.read32 (handle.dyn_data DT_HASH + 4 * (2 + hash % nbucket))

/-- The chain of the bucket for a hash comes to `y`. -/
def Chained (hash y : UInt32) : Prop := ∃ y', bucket handle nbucket hash = some y' ∧
  Relation.ReflTransGen (Leads handle nbucket nchain) y' y

/-- A symbol that others may link to; those of the library alone are on no chain. -/
def Exported (y : UInt32) : Prop := IsSymbol nchain y ∧ ∃ hash, Chained handle nbucket nchain hash y

/-- The hash of the ABI for a name: its four top bits are folded into the low ones for every byte. -/
def systemVHash (name : Bytes) : ℕ :=
  (cstr name).foldl (fun h c =>
    let h := (16 * h + c.toNat) % 2 ^ 32
    (h % 2 ^ 28) ^^^ (h / 2 ^ 28 * 16)) 0

/-- A hash table as a linker writes it: all that it refers to is there, every chain has an end, and every
symbol on one has a name and is on the chain for it. -/
structure HashTable : Prop where
  nbucket_eq : handle.image.read32 (handle.dyn_data DT_HASH) = some nbucket
  nchain_eq : ArmDl.nchain handle = some nchain
  nbucket_ne : nbucket ≠ 0
  value : ∀ y, Exported handle nbucket nchain y →
    handle.image.read32 (symbolAddress handle.dyn_data y + 4) ≠ none
  next : ∀ y, Exported handle nbucket nchain y → chain handle nbucket y ≠ none
  ends : ∀ hash, ∃ y, Chained handle nbucket nchain hash y ∧ ¬ IsSymbol nchain y
  named : ∀ y, Exported handle nbucket nchain y → ∃ name, isNamed handle name y = some true ∧
    Chained handle nbucket nchain (.ofNat (systemVHash name)) y

end

theorem testBit_top (i : ℕ) : Nat.testBit 0xF0000000 i = decide (28 ≤ i ∧ i < 32) := by
  by_cases hi : i < 32
  · interval_cases i <;> rfl
  · have hlt : 0xF0000000 < 2 ^ i :=
      lt_of_lt_of_le (by norm_num) (Nat.pow_le_pow_right (by norm_num) (not_lt.mp hi))
    rw [Nat.testBit_lt_two_pow hlt]
    simp [hi]

/-- The four top bits are folded by a shift of 24. -/
theorem toNat_fold (h : UInt32) :
    (let g := h &&& 0xF0000000
     let h := if g ≠ 0 then h ^^^ (g >>> 24) else h
     h &&& ~~~g).toNat = (h.toNat % 2 ^ 28) ^^^ (h.toNat / 2 ^ 28 * 16) := by
  have hxor : ∀ g : UInt32, (if g ≠ 0 then h ^^^ (g >>> 24) else h) = h ^^^ (g >>> 24) := by
    intro g
    by_cases hg : g = 0 <;> simp [hg]
  have hshift : h.toNat / 2 ^ 28 * 16 = (h.toNat >>> 28) <<< 4 := by
    rw [Nat.shiftLeft_eq, Nat.shiftRight_eq_div_pow]
  have hmask : (0xF0000000 : UInt32).toNat = 0xF0000000 := rfl
  have hcount : (24 : UInt32).toNat % 32 = 24 := rfl
  have hnot : ∀ (g : UInt32) (i : ℕ),
      (~~~g).toNat.testBit i = (decide (i < 32) && !g.toNat.testBit i) := by
    intro g i
    have hsub : (~~~g).toNat = 2 ^ 32 - (g.toNat + 1) := by
      rw [UInt32.toNat_not, UInt32.size]
      omega
    rw [hsub, Nat.testBit_two_pow_sub_succ g.toNat_lt]
  have hhigh : ∀ i, 32 ≤ i → h.toNat.testBit i = false := fun i hi =>
    Nat.testBit_lt_two_pow (h.toNat_lt.trans_le (Nat.pow_le_pow_right (by norm_num) hi))
  apply Nat.eq_of_testBit_eq
  intro i
  simp only [hxor, hshift, UInt32.toNat_and, UInt32.toNat_xor, UInt32.toNat_shiftRight, hnot, hcount,
    Nat.testBit_and, Nat.testBit_xor, Nat.testBit_shiftRight, Nat.testBit_shiftLeft,
    Nat.testBit_mod_two_pow, hmask, testBit_top]
  by_cases h28 : i < 28
  · have hle : ¬ 28 ≤ i := by omega
    have h32 : i < 32 := by omega
    by_cases h4 : 4 ≤ i
    · have hsame : 24 + i = 28 + (i - 4) := by omega
      by_cases h8 : i < 8
      · have hlt : 28 + (i - 4) < 32 := by omega
        simp [hle, h32, h28, h4, hsame, hlt]
      · simp [hle, h32, h28, h4, hsame, hhigh (28 + (i - 4)) (by omega)]
    · have hlow : ¬ 28 ≤ 24 + i := by omega
      simp [h4, h28, h32, hle, hlow]
  · have hle : 28 ≤ i := by omega
    have hfold : ¬ 24 + i < 32 := by omega
    have hnone := hhigh (28 + (i - 4)) (by omega)
    by_cases h32 : i < 32
    · simp [h28, hle, hfold, hnone, h32]
    · simp [h28, hfold, hnone, h32]

/-- The code computes the hash of the ABI. -/
theorem elf_hash_eq (name : Bytes) : elf_hash name = .ofNat (systemVHash name) := by
  have hfold : ∀ (s : Bytes) (h : UInt32),
      (s.foldl (fun (h : UInt32) c =>
        let h := (h <<< 4) + c.toUInt32
        let g := h &&& 0xF0000000
        let h := if g ≠ 0 then h ^^^ (g >>> 24) else h
        h &&& ~~~g) h).toNat =
      s.foldl (fun (h : ℕ) c =>
        let h := (16 * h + c.toNat) % 2 ^ 32
        (h % 2 ^ 28) ^^^ (h / 2 ^ 28 * 16)) h.toNat := by
    intro s
    induction s with
    | nil => exact fun _ => rfl
    | cons c s ih =>
      intro h
      have hnext : ((h <<< 4) + c.toUInt32).toNat = (16 * h.toNat + c.toNat) % 2 ^ 32 := by
        simp [UInt32.toNat_add, UInt32.toNat_shiftLeft, Nat.shiftLeft_eq, Nat.mul_comm]
      rw [List.foldl_cons, List.foldl_cons, ih, toNat_fold, hnext]
  rw [systemVHash, ← UInt32.toNat_zero, ← hfold, UInt32.ofNat_toNat]
  rfl

variable {handle : ArmDlHandle} {nbucket nchain : UInt32} {symbol : Bytes}

theorem Chained.next {y next : UInt32} (hy : IsSymbol nchain y) {hash : UInt32}
    (h : Chained handle nbucket nchain hash y) (hnext : chain handle nbucket y = some next) :
    Chained handle nbucket nchain hash next := by
  obtain ⟨y', hbucket, hpath⟩ := h
  exact ⟨y', hbucket, hpath.tail ⟨hy, hnext⟩⟩

theorem HashTable.isNamed_ne (h : HashTable handle nbucket nchain) {y : UInt32}
    (hy : Exported handle nbucket nchain y) (symbol : Bytes) : isNamed handle symbol y ≠ none := by
  obtain ⟨name, hname, -⟩ := h.named y hy
  rw [isNamed_eq hname]
  exact Option.some_ne_none _

/-- The states the loop goes on from are those of a symbol. -/
theorem searchStep_ne_none {s : Search} (h : searchStep handle symbol nbucket nchain s ≠ none) :
    s ∈ (Finset.Ico 1 nchain.toNat).image fun y => Search.at (.ofNat y) := by
  cases s with
  | «at» y =>
    rw [searchStep] at h
    split_ifs at h with hy
    · obtain ⟨hne, hlt⟩ := hy
      refine Finset.mem_image.mpr ⟨y.toNat, Finset.mem_Ico.mpr ⟨?_, hlt⟩, by rw [UInt32.ofNat_toNat]⟩
      exact Nat.pos_of_ne_zero fun hzero => hne (UInt32.toNat_inj.mp hzero)
    · contradiction
  | found => contradiction
  | undefined => contradiction

theorem searchStep_end {y : UInt32} (hy : ¬ IsSymbol nchain y) :
    searchStep handle symbol nbucket nchain (.at y) = none := if_neg hy

theorem searchStep_found {y st_value : UInt32} (hy : IsSymbol nchain y)
    (hnamed : isNamed handle symbol y = some true)
    (hvalue : handle.image.read32 (symbolAddress handle.dyn_data y + 4) = some st_value) :
    searchStep handle symbol nbucket nchain (.at y) = some ((), .found (handle.image.base + st_value)) := by
  have hif : y ≠ 0 ∧ y < nchain := hy
  rw [searchStep, if_pos hif, hnamed, hvalue]

theorem searchStep_next {y next : UInt32} (hy : IsSymbol nchain y)
    (hnamed : isNamed handle symbol y = some false) (hnext : chain handle nbucket y = some next) :
    searchStep handle symbol nbucket nchain (.at y) = some ((), .at next) := by
  have hif : y ≠ 0 ∧ y < nchain := hy
  rw [searchStep, if_pos hif, hnamed, hnext]

theorem search_terminates_iff {s : Search} : Loop.Terminates (searchStep handle symbol nbucket nchain) s ↔
    ∃ r, Loop.run (searchStep handle symbol nbucket nchain) nchain.toNat s = some r := by
  constructor
  · intro h
    obtain ⟨r, hr⟩ := (Loop.terminates_iff_within fun s => searchStep_ne_none).mp h
    refine ⟨r, Loop.run_mono hr (Finset.card_image_le.trans ?_)⟩
    rw [Nat.card_Ico]
    exact Nat.sub_le _ _
  · rintro ⟨r, hr⟩
    exact ⟨_, r, hr⟩

/-- What a search says that ends so, from a place of a chain on. -/
def Says (handle : ArmDlHandle) (symbol : Bytes) (nbucket nchain y : UInt32) : Search → Prop
  | .at _ => ∀ y', Relation.ReflTransGen (Leads handle nbucket nchain) y y' → IsSymbol nchain y' →
      isNamed handle symbol y' = some false
  | .found address => ∃ y' st_value, Exported handle nbucket nchain y' ∧
      isNamed handle symbol y' = some true ∧
      handle.image.read32 (symbolAddress handle.dyn_data y' + 4) = some st_value ∧
      address = handle.image.base + st_value
  | .undefined => False

theorem says_of_end {y : UInt32} (hy : ¬ IsSymbol nchain y) {n : ℕ} {os : List Unit} {s : Search}
    (hrun : Loop.run (searchStep handle symbol nbucket nchain) n (.at y) = some (os, s)) :
    Says handle symbol nbucket nchain y s := by
  rw [Loop.run_of_none (searchStep_end hy)] at hrun
  obtain ⟨-, rfl⟩ := Prod.mk.inj (Option.some.inj hrun)
  rintro y' hpath hy'
  rcases Relation.ReflTransGen.cases_head hpath with rfl | ⟨-, ⟨hsymbol, -⟩, -⟩
  · exact absurd hy' hy
  · exact absurd hsymbol hy

theorem search_says (h : HashTable handle nbucket nchain) {hash : UInt32} {n : ℕ} {y : UInt32}
    (hchained : Chained handle nbucket nchain hash y) {os : List Unit} {s : Search}
    (hrun : Loop.run (searchStep handle symbol nbucket nchain) n (.at y) = some (os, s)) :
    Says handle symbol nbucket nchain y s := by
  induction n generalizing y os with
  | zero =>
    by_cases hy : IsSymbol nchain y
    · have hstep : searchStep handle symbol nbucket nchain (.at y) = some ((), _) := if_pos hy
      rw [Loop.run_zero_of_some hstep] at hrun
      contradiction
    · exact says_of_end hy hrun
  | succ n ih =>
    by_cases hy : IsSymbol nchain y
    · have hexported : Exported handle nbucket nchain y := ⟨hy, hash, hchained⟩
      obtain ⟨found, hfound⟩ := Option.ne_none_iff_exists'.mp (h.isNamed_ne hexported symbol)
      obtain ⟨st_value, hvalue⟩ := Option.ne_none_iff_exists'.mp (h.value y hexported)
      obtain ⟨next, hnext⟩ := Option.ne_none_iff_exists'.mp (h.next y hexported)
      cases found with
      | true =>
        rw [Loop.run_of_some (searchStep_found hy hfound hvalue), Loop.run_of_none rfl] at hrun
        obtain ⟨-, rfl⟩ := Prod.mk.inj (Option.some.inj hrun)
        exact ⟨y, st_value, hexported, hfound, hvalue, rfl⟩
      | false =>
        rw [Loop.run_of_some (searchStep_next hy hfound hnext)] at hrun
        obtain ⟨⟨os', s'⟩, hrest, heq⟩ := Option.map_eq_some_iff.mp hrun
        obtain ⟨-, rfl⟩ := Prod.mk.inj heq
        have hsays := ih (hchained.next hy hnext) hrest
        cases s' with
        | «at» last =>
          rintro y' hpath hy'
          rcases Relation.ReflTransGen.cases_head hpath with rfl | ⟨y₁, ⟨-, hlead⟩, hrest⟩
          · exact hfound
          · obtain rfl := Option.some.inj (hnext.symm.trans hlead)
            exact hsays y' hrest hy'
        | found address => exact hsays
        | undefined => exact hsays
    · exact says_of_end hy hrun

/-- Along a chain with an end the search comes to one. -/
theorem search_terminates (h : HashTable handle nbucket nchain) {hash y y' : UInt32}
    (hchained : Chained handle nbucket nchain hash y)
    (hpath : Relation.ReflTransGen (Leads handle nbucket nchain) y y') (hend : ¬ IsSymbol nchain y') :
    Loop.Terminates (searchStep handle symbol nbucket nchain) (.at y) := by
  induction hpath using Relation.ReflTransGen.head_induction_on with
  | refl => exact ⟨0, ([], .at y'), Loop.run_of_none (searchStep_end hend) 0⟩
  | @head y next hlead _ ih =>
    obtain ⟨hy, hnext⟩ := hlead
    have hexported : Exported handle nbucket nchain y := ⟨hy, hash, hchained⟩
    obtain ⟨n, r, hr⟩ := ih (hchained.next hy hnext)
    obtain ⟨found, hfound⟩ := Option.ne_none_iff_exists'.mp (h.isNamed_ne hexported symbol)
    obtain ⟨st_value, hvalue⟩ := Option.ne_none_iff_exists'.mp (h.value y hexported)
    cases found with
    | true =>
      refine ⟨1, ([()], .found (handle.image.base + st_value)), ?_⟩
      rw [Loop.run_of_some (searchStep_found hy hfound hvalue), Loop.run_of_none rfl]
      rfl
    | false =>
      refine ⟨n + 1, (() :: r.1, r.2), ?_⟩
      rw [Loop.run_of_some (searchStep_next hy hfound hnext), hr, Option.map_some]

/-- Whether a symbol with a name is exported, and where it is. -/
def Resolves (handle : ArmDlHandle) (symbol : Bytes) (nbucket nchain : UInt32) : Option UInt32 → Prop
  | none => ∀ y, Exported handle nbucket nchain y → isNamed handle symbol y = some false
  | some address => ∃ y st_value, Exported handle nbucket nchain y ∧
      isNamed handle symbol y = some true ∧
      handle.image.read32 (symbolAddress handle.dyn_data y + 4) = some st_value ∧
      address = handle.image.base + st_value

/-- In a library with a hash table as a linker writes it, `arm_dlsym` returns before it has gone through
as many symbols as there are: with the address of an exported symbol of that name if there is one, and with
`NULL` if there is none. -/
theorem arm_dlsym_resolves (h : HashTable handle nbucket nchain) (symbol : Bytes) :
    ∃ r, arm_dlsym handle symbol nchain.toNat = some (.ok r) ∧
      Resolves handle symbol nbucket nchain r := by
  obtain ⟨y', ⟨y, hbucket, hpath⟩, hend⟩ := h.ends (elf_hash symbol)
  have hchained : Chained handle nbucket nchain (elf_hash symbol) y := ⟨y, hbucket, .refl⟩
  have hterminates : Loop.Terminates (searchStep handle symbol nbucket nchain) (.at y) :=
    search_terminates h hchained hpath hend
  obtain ⟨⟨os, s⟩, hrun⟩ := search_terminates_iff.mp hterminates
  have hsays := search_says h hchained hrun
  have hread : handle.image.read32 (handle.dyn_data DT_HASH + 4 * (2 + elf_hash symbol % nbucket)) =
      some y := hbucket
  simp only [arm_dlsym, h.nbucket_eq, h.nchain_eq, if_neg h.nbucket_ne, hread, hrun, Option.map_some]
  cases s with
  | found address => exact ⟨some address, rfl, hsays⟩
  | undefined => exact absurd hsays id
  | «at» last =>
    refine ⟨none, rfl, fun z hz => ?_⟩
    obtain ⟨found, hfound⟩ := Option.ne_none_iff_exists'.mp (h.isNamed_ne hz symbol)
    cases found with
    | false => exact hfound
    | true =>
      -- it would be on the chain that has been gone through
      obtain ⟨name, hname, y₁, hbucket₁, hpath₁⟩ := h.named z hz
      have hsame : cstr symbol = cstr name := by
        rw [isNamed_eq hname] at hfound
        simpa using hfound
      have hhash : elf_hash name = elf_hash symbol := by
        rw [elf_hash, elf_hash, hsame]
      rw [← elf_hash_eq, hhash] at hbucket₁
      obtain rfl := Option.some.inj (hbucket.symm.trans hbucket₁)
      exact hsays z hpath₁ hz.1

/-- A library that exports `a` and `b`, in one bucket, and keeps `c` to itself. -/
def twoSymbols : ArmDlHandle where
  image :=
    { base := 0x1000
      size := 99
      byte := fun i => (List.getD
        ([1, 0, 0, 0, 4, 0, 0, 0, 2, 0, 0, 0, 0, 0, 0, 0, 0, 0, 0, 0, 3, 0, 0, 0, 0, 0, 0, 0] ++
        List.replicate 16 0 ++ [5, 0, 0, 0, 32, 0, 0, 0] ++ List.replicate 8 0 ++
        [1, 0, 0, 0, 48, 0, 0, 0] ++ List.replicate 8 0 ++
        [3, 0, 0, 0, 64, 0, 0, 0] ++ List.replicate 8 0 ++ [0, 97, 0, 98, 0, 99, 0]) i 0) }
  dyn_data tag := if tag = DT_HASH then 0x1000 else if tag = DT_SYMTAB then 0x101C else 0x105C

theorem twoSymbols_bucket (hash : UInt32) : bucket twoSymbols 1 hash = some 2 := by
  have hmod : hash % 1 = 0 := UInt32.toNat_inj.mp (by simp)
  rw [bucket, hmod]
  decide +kernel

theorem twoSymbols_chain : chain twoSymbols 1 2 = some 3 ∧ chain twoSymbols 1 3 = some 0 := by
  decide +kernel

theorem twoSymbols_chained {hash y : UInt32} (h : Chained twoSymbols 1 4 hash y) :
    y = 2 ∨ y = 3 ∨ y = 0 := by
  obtain ⟨y', hbucket, hpath⟩ := h
  obtain ⟨hsecond, hlast⟩ := twoSymbols_chain
  induction hpath with
  | refl => exact .inl (Option.some.inj (hbucket.symm.trans (twoSymbols_bucket hash)))
  | tail _ hlead ih =>
    obtain ⟨hsymbol, hchain⟩ := hlead
    obtain rfl | rfl | rfl := ih
    · exact .inr (.inl (Option.some.inj (hchain.symm.trans hsecond)))
    · exact .inr (.inr (Option.some.inj (hchain.symm.trans hlast)))
    · exact absurd rfl hsymbol.1

theorem twoSymbols_hashTable : HashTable twoSymbols 1 4 := by
  have hsymbol : ∀ y, Exported twoSymbols 1 4 y → y = 2 ∨ y = 3 := by
    rintro y ⟨hy, hash, hchained⟩
    obtain rfl | rfl | rfl := twoSymbols_chained hchained
    · exact .inl rfl
    · exact .inr rfl
    · exact absurd rfl hy.1
  obtain ⟨hsecond, hlast⟩ := twoSymbols_chain
  have hlead : Leads twoSymbols 1 4 2 3 := ⟨⟨by decide, by decide⟩, hsecond⟩
  have hend : Leads twoSymbols 1 4 3 0 := ⟨⟨by decide, by decide⟩, hlast⟩
  refine ⟨by decide +kernel, by decide +kernel, by decide, ?_, ?_, ?_, ?_⟩
  · rintro y hy
    obtain rfl | rfl := hsymbol y hy <;> decide +kernel
  · rintro y hy
    obtain rfl | rfl := hsymbol y hy <;> simp [hsecond, hlast]
  · intro hash
    exact ⟨0, ⟨2, twoSymbols_bucket hash, .tail (.single hlead) hend⟩, fun h => h.1 rfl⟩
  · rintro y hy
    obtain rfl | rfl := hsymbol y hy
    · exact ⟨[97], by decide +kernel, 2, twoSymbols_bucket _, .refl⟩
    · exact ⟨[98], by decide +kernel, 2, twoSymbols_bucket _, .single hlead⟩

/-- They are found at their addresses, and `c` is not. -/
theorem twoSymbols_resolve : Resolves twoSymbols [97] 1 4 (some 0x1030) ∧
    Resolves twoSymbols [98] 1 4 (some 0x1040) ∧ Resolves twoSymbols [99] 1 4 none := by
  have hreturned : arm_dlsym twoSymbols [97] 4 = some (.ok (some 0x1030)) ∧
      arm_dlsym twoSymbols [98] 4 = some (.ok (some 0x1040)) ∧
      arm_dlsym twoSymbols [99] 4 = some (.ok none) := by decide +kernel
  obtain ⟨ha, hb, hc⟩ := hreturned
  obtain ⟨r, hr, hresolves⟩ := arm_dlsym_resolves twoSymbols_hashTable [97]
  obtain ⟨r', hr', hresolves'⟩ := arm_dlsym_resolves twoSymbols_hashTable [98]
  obtain ⟨r'', hr'', hresolves''⟩ := arm_dlsym_resolves twoSymbols_hashTable [99]
  obtain rfl := Except.ok.inj (Option.some.inj (hr.symm.trans ha))
  obtain rfl := Except.ok.inj (Option.some.inj (hr'.symm.trans hb))
  obtain rfl := Except.ok.inj (Option.some.inj (hr''.symm.trans hc))
  exact ⟨hresolves, hresolves', hresolves''⟩

end FreeRil.ArmDl
