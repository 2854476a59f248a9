import FreeRil.ArmDl

/-! The image of a library: what each of its bytes is, and that no other byte is written. -/
namespace FreeRil.ArmDl

/-- A segment that is loaded has its contents in its memory, and its end in the address space. -/
def Elf32_Phdr.Sane (phdr : Elf32_Phdr) : Prop :=
  phdr.p_type = PT_LOAD →
    phdr.p_filesz ≤ phdr.p_memsz ∧ phdr.p_paddr.toNat + phdr.p_memsz.toNat < 2 ^ 32

/-- What a segment makes of a byte: that of the file, as far as there is one, and zero after it. -/
def segmentByte (file : Bytes) (phdr : Elf32_Phdr) (byte : UInt8) (i : ℕ) : UInt8 :=
  if phdr.p_type = PT_LOAD ∧ phdr.p_paddr.toNat ≤ i ∧ i <
    phdr.p_paddr.toNat + phdr.p_memsz.toNat then
    if i < phdr.p_paddr.toNat + phdr.p_filesz.toNat then
      file.getD (phdr.p_offset.toNat + (i - phdr.p_paddr.toNat)) byte
    else 0
  else byte

/-- The bytes of an image, which later segments overwrite. -/
def segmentBytes (file : Bytes) (phdrs : List Elf32_Phdr) (byte : ℕ → UInt8) (i : ℕ) : UInt8 :=
  phdrs.foldl (fun byte phdr => segmentByte file phdr byte i) (byte i)

/-- The address of the last dynamic section. -/
def dynamicOf (base : UInt32) (phdrs : List Elf32_Phdr) (dynamic : UInt32) : UInt32 :=
  phdrs.foldl (fun dynamic phdr =>
    if phdr.p_type = PT_DYNAMIC then base + phdr.p_paddr else dynamic) dynamic

section
variable {image : Mapping} {phdr : Elf32_Phdr} {file : Bytes}

theorem offset_base_add (image : Mapping) (a : UInt32) :
    image.offset (image.base + a) = a.toNat := by
  rw [Mapping.offset, UInt32.add_comm, UInt32.add_sub_cancel]

/-- What the segment has in the file is stored, as far as it is there. -/
theorem write_contents (file : Bytes)
    (hfit : phdr.p_paddr.toNat + phdr.p_filesz.toNat ≤ image.size) :
    image.write (image.base + phdr.p_paddr) (pread file phdr.p_filesz.toNat phdr.p_offset.toNat) =
      some (image.overwritten phdr.p_paddr.toNat
        (pread file phdr.p_filesz.toNat phdr.p_offset.toNat)) := by
  refine Mapping.write_eq_some.mpr ⟨?_, by rw [offset_base_add]⟩
  rw [Mapping.Inside, offset_base_add, pread, List.length_take]
  omega

/-- What it has in memory only is cleared. -/
theorem memset_rest (image' : Mapping) (hsize : image'.size = image.size)
    (hle : phdr.p_filesz ≤ phdr.p_memsz) (hend : phdr.p_paddr.toNat + phdr.p_memsz.toNat < 2 ^ 32)
    (hfit : phdr.p_paddr.toNat + phdr.p_memsz.toNat ≤ image.size) :
    memset image' (image'.base + phdr.p_paddr + phdr.p_filesz)
    (phdr.p_memsz - phdr.p_filesz).toNat =
      .ok (image'.overwritten (phdr.p_paddr.toNat + phdr.p_filesz.toNat)
        (List.replicate (phdr.p_memsz.toNat - phdr.p_filesz.toNat) 0)) := by
  have hle' : phdr.p_filesz.toNat ≤ phdr.p_memsz.toNat := hle
  have hlength : (phdr.p_memsz - phdr.p_filesz).toNat = phdr.p_memsz.toNat - phdr.p_filesz.toNat :=
    UInt32.toNat_sub_of_le _ _ hle
  have hoffset : image'.offset (image'.base + phdr.p_paddr + phdr.p_filesz) =
      phdr.p_paddr.toNat + phdr.p_filesz.toNat := by
    rw [UInt32.add_assoc, offset_base_add, UInt32.toNat_add]
    omega
  have hwrite : image'.write (image'.base + phdr.p_paddr + phdr.p_filesz)
      (List.replicate (phdr.p_memsz.toNat - phdr.p_filesz.toNat) 0) =
        some (image'.overwritten (phdr.p_paddr.toNat + phdr.p_filesz.toNat)
          (List.replicate (phdr.p_memsz.toNat - phdr.p_filesz.toNat) 0)) := by
    refine Mapping.write_eq_some.mpr ⟨?_, by rw [hoffset]⟩
    rw [Mapping.Inside, hoffset, List.length_replicate]
    omega
  rw [memset, hlength, hwrite]
  rfl

/-- Both together make the bytes those of the segment. -/
theorem overwritten_segment (hload : phdr.p_type = PT_LOAD) (hle : phdr.p_filesz ≤ phdr.p_memsz)
    (i : ℕ) :
    ((image.overwritten phdr.p_paddr.toNat
      (pread file phdr.p_filesz.toNat phdr.p_offset.toNat)).overwritten
      (phdr.p_paddr.toNat + phdr.p_filesz.toNat)
      (List.replicate (phdr.p_memsz.toNat - phdr.p_filesz.toNat) 0)).byte i =
        segmentByte file phdr (image.byte i) i := by
  have hle' : phdr.p_filesz.toNat ≤ phdr.p_memsz.toNat := hle
  simp only [Mapping.overwritten, pread, segmentByte, hload, true_and, List.length_replicate,
    List.length_take, List.length_drop, List.getD_eq_getElem?_getD, List.getElem?_take,
    List.getElem?_drop, List.getElem?_replicate]
  split_ifs <;> try first | omega | rfl
  · -- the file has the byte
    rw [List.getElem?_eq_getElem (by omega)]
    rfl
  · -- it ends before it
    rw [List.getElem?_eq_none (by omega)]
    rfl

theorem loadSegment_eq (file : Bytes) (hsane : phdr.Sane)
    (hfits : phdr.p_type = PT_LOAD → phdr.p_paddr.toNat + phdr.p_memsz.toNat ≤ image.size)
    (dynamic : UInt32) : loadSegment file image dynamic phdr =
      .ok ({ image with byte := fun i => segmentByte file phdr (image.byte i) i },
        if phdr.p_type = PT_DYNAMIC then image.base + phdr.p_paddr else dynamic) := by
  by_cases hload : phdr.p_type = PT_LOAD
  · obtain ⟨hsize, hend⟩ := hsane hload
    have hfit := hfits hload
    have hle' : phdr.p_filesz.toNat ≤ phdr.p_memsz.toNat := hsize
    have hdynamic : phdr.p_type ≠ PT_DYNAMIC := by
      rw [hload]
      decide
    have hbytes :
      ({ image with byte := fun i => segmentByte file phdr (image.byte i) i } : Mapping) =
        (image.overwritten phdr.p_paddr.toNat
          (pread file phdr.p_filesz.toNat phdr.p_offset.toNat)).overwritten
            (phdr.p_paddr.toNat + phdr.p_filesz.toNat)
            (List.replicate (phdr.p_memsz.toNat - phdr.p_filesz.toNat) 0) := by
      refine congrArg (Mapping.mk image.base image.size) (funext fun i => ?_)
      exact (overwritten_segment hload hsize i).symm
    have hrest := memset_rest (image.overwritten phdr.p_paddr.toNat
      (pread file phdr.p_filesz.toNat phdr.p_offset.toNat)) rfl hsize hend hfit
    rw [hbytes, if_neg hdynamic]
    by_cases hfile : phdr.p_filesz = 0
    · have hnothing : image.overwritten phdr.p_paddr.toNat
          (pread file phdr.p_filesz.toNat phdr.p_offset.toNat) = image := by
        refine congrArg (Mapping.mk image.base image.size) (funext fun i => if_neg ?_)
        simp [pread, hfile]
      rw [hnothing] at hrest ⊢
      simp only [loadSegment, if_pos hload, hfile, ne_eq, not_true, if_false]
      rw [hfile] at hrest
      simp only [Bind.bind, Except.bind, Pure.pure, Except.pure, hrest]
    · have hwrite := @write_contents image phdr file (by omega)
      simp only [loadSegment, if_pos hload, ne_eq, hfile, not_false_eq_true, if_true, hwrite]
      simp only [Bind.bind, Except.bind, Pure.pure, Except.pure]
      rw [hrest]
  · have hsame : ∀ i, segmentByte file phdr (image.byte i) i = image.byte i := fun i =>
      if_neg fun h => hload h.1
    simp only [loadSegment, if_neg hload, hsame]
    split_ifs <;> rfl

/-- Segments that fit are laid one over the other. -/
theorem loadSegments_eq (file : Bytes) {phdrs : List Elf32_Phdr} (hsane : ∀ phdr ∈ phdrs, phdr.Sane)
    (hfits : ∀ phdr ∈ phdrs, phdr.p_type = PT_LOAD →
      phdr.p_paddr.toNat + phdr.p_memsz.toNat ≤ image.size) (dynamic : UInt32) :
    loadSegments file image dynamic phdrs =
      .ok ({ image with byte := segmentBytes file phdrs image.byte },
        dynamicOf image.base phdrs dynamic) := by
  induction phdrs generalizing image dynamic with
  | nil => rfl
  | cons phdr phdrs ih =>
    have hfirst :=
      loadSegment_eq file (hsane phdr List.mem_cons_self) (hfits phdr List.mem_cons_self) dynamic
    simp only [loadSegments, hfirst, Bind.bind, Except.bind]
    exact @ih { image with byte := fun i => segmentByte file phdr (image.byte i) i }
      (fun phdr hmem => hsane phdr (.tail _ hmem)) (fun phdr hmem => hfits phdr (.tail _ hmem)) _

end

/-- The first loop takes the end of the last segment. -/
theorem imageSize_ge {phdrs : List Elf32_Phdr} : ∀ phdr ∈ phdrs, phdr.p_type = PT_LOAD →
    (phdr.p_paddr + phdr.p_memsz) ≤ imageSize phdrs := by
  induction phdrs using List.reverseRecOn with
  | nil => simp
  | append_singleton phdrs last ih =>
    have hlast : imageSize (phdrs ++ [last]) =
        if last.p_type = PT_LOAD then
          if imageSize phdrs < last.p_paddr + last.p_memsz then last.p_paddr + last.p_memsz
          else imageSize phdrs
        else imageSize phdrs := by
      rw [imageSize, List.foldl_append]
      rfl
    have hmono : imageSize phdrs ≤ imageSize (phdrs ++ [last]) := by
      rw [hlast]
      split_ifs with hload hlt
      · exact UInt32.le_of_lt hlt
      · exact UInt32.le_refl _
      · exact UInt32.le_refl _
    intro phdr hmem hload
    rcases List.mem_append.mp hmem with hmem | hmem
    · exact UInt32.le_trans (ih phdr hmem hload) hmono
    · obtain rfl := List.mem_singleton.mp hmem
      rw [hlast, if_pos hload]
      split_ifs with hlt
      · exact UInt32.le_refl _
      · exact UInt32.not_lt.mp hlt

/-- Where the bit of a page is not set, clearing it changes nothing. -/
theorem and_not_twoPow {x : BitVec 32} {k : ℕ} (h : x.getLsbD k = false) :
    x &&& ~~~(BitVec.twoPow 32 k) = x := by
  ext i hi
  simp only [BitVec.getElem_and, BitVec.getElem_not, BitVec.getElem_twoPow]
  by_cases hik : i = k
  · subst hik
    rw [BitVec.getLsbD_eq_getElem hi] at h
    simp [h]
  · simp [hik]

/-- What is asked for is enough, though only one bit is cleared. -/
theorem roundedSize_ge {page size : UInt32} {k : ℕ} (hpage : page.toNat = 2 ^ k)
    (hsum : size.toNat + page.toNat < 2 ^ 32) : size.toNat ≤ (roundedSize page size).toNat := by
  have hvec : page.toBitVec = BitVec.twoPow 32 k := by
    apply BitVec.eq_of_toNat_eq
    rw [BitVec.toNat_twoPow, UInt32.toNat_toBitVec, hpage, Nat.mod_eq_of_lt]
    omega
  have hrounded : (roundedSize page size).toBitVec =
      (size.toBitVec + page.toBitVec) &&& ~~~page.toBitVec := rfl
  rw [← UInt32.toNat_toBitVec (x := roundedSize page size), hrounded]
  cases hbit : size.toBitVec.getLsbD k with
  | true =>
    -- the carry leaves the bit clear
    have hclear : (size.toBitVec + page.toBitVec).getLsbD k = false := by
      rw [BitVec.getLsbD, BitVec.toNat_add, UInt32.toNat_toBitVec, UInt32.toNat_toBitVec,
        Nat.mod_eq_of_lt hsum, hpage, Nat.add_comm, Nat.testBit_two_pow_add_eq]
      rw [BitVec.getLsbD, UInt32.toNat_toBitVec] at hbit
      simp [hbit]
    rw [hvec] at hclear ⊢
    rw [and_not_twoPow hclear, ← hvec, BitVec.toNat_add, UInt32.toNat_toBitVec,
      UInt32.toNat_toBitVec,
      Nat.mod_eq_of_lt hsum]
    exact Nat.le_add_right _ _
  | false =>
    have hdisjoint : size.toBitVec &&& BitVec.twoPow 32 k = 0#32 := by
      ext i hi
      simp only [BitVec.getElem_and, BitVec.getElem_twoPow, BitVec.getElem_zero]
      by_cases hik : i = k
      · subst hik
        rw [BitVec.getLsbD_eq_getElem hi] at hbit
        simp [hbit]
      · simp [hik]
    have hsame : (size.toBitVec ||| BitVec.twoPow 32 k) &&& ~~~(BitVec.twoPow 32 k) =
      size.toBitVec := by
      rw [BitVec.and_or_distrib_right, BitVec.and_not_self, and_not_twoPow hbit]
      exact BitVec.or_zero
    rw [hvec, BitVec.add_eq_or_of_and_eq_zero _ _ hdisjoint, hsame, UInt32.toNat_toBitVec]

/-- A mapping has room for what is asked for. -/
theorem mmap_size_ge {page size : UInt32} (hpage : 0 < page.toNat) (base : UInt32) :
    size.toNat ≤ (mmap page base size).size := by
  have hdiv := Nat.div_add_mod (size.toNat + page.toNat - 1) page.toNat
  have hmod := Nat.mod_lt (size.toNat + page.toNat - 1) hpage
  have hcomm := Nat.mul_comm page.toNat ((size.toNat + page.toNat - 1) / page.toNat)
  change size.toNat ≤ (size.toNat + page.toNat - 1) / page.toNat * page.toNat
  omega

/-- A library with these program headers: something is to be loaded, and there is room for it. -/
structure Library (page : UInt32) (file : Bytes) (phdrs : List Elf32_Phdr) : Prop where
  header : Elf32_Ehdr.size ≤ file.length
  valid : (Elf32_Ehdr.ofBytes (pread file Elf32_Ehdr.size 0)).valid = true
  headers : readHeaders file (Elf32_Ehdr.ofBytes (pread file Elf32_Ehdr.size 0)).e_phoff.toNat
    (Elf32_Ehdr.ofBytes (pread file Elf32_Ehdr.size 0)).e_phnum.toNat = .ok phdrs
  sane : ∀ phdr ∈ phdrs, phdr.Sane
  nonempty : imageSize phdrs ≠ 0
  room : (imageSize phdrs).toNat + page.toNat < 2 ^ 32

/-- The image of a library. -/
def laidOut (page base : UInt32) (file : Bytes) (phdrs : List Elf32_Phdr) : Mapping :=
  { mmap page base (roundedSize page (imageSize phdrs)) with
    byte := segmentBytes file phdrs fun _ => 0 }

section
variable {page : UInt32} {k : ℕ} (hpage : page.toNat = 2 ^ k) {file : Bytes}
    {phdrs : List Elf32_Phdr} (h : Library page file phdrs)
include hpage h

theorem Library.fits (base : UInt32) : ∀ phdr ∈ phdrs, phdr.p_type = PT_LOAD →
    phdr.p_paddr.toNat + phdr.p_memsz.toNat ≤ (laidOut page base file phdrs).size := by
  have hround := roundedSize_ge hpage h.room
  have hpos : 0 < page.toNat := by
    rw [hpage]
    exact Nat.two_pow_pos k
  intro phdr hmem hload
  obtain ⟨-, hend⟩ := h.sane phdr hmem hload
  have hle : (phdr.p_paddr + phdr.p_memsz).toNat ≤ (imageSize phdrs).toNat :=
    imageSize_ge phdr hmem hload
  rw [UInt32.toNat_add, Nat.mod_eq_of_lt hend] at hle
  exact (hle.trans hround).trans (mmap_size_ge hpos base)

theorem Library.load (base : UInt32) :
    load_elf_image page file base = .ok (laidOut page base file phdrs, dynamicOf base phdrs 0) := by
  have hround := roundedSize_ge hpage h.room
  have hsize : roundedSize page (imageSize phdrs) ≠ 0 := by
    intro hzero
    rw [hzero] at hround
    exact h.nonempty (UInt32.toNat_inj.mp (Nat.le_zero.mp hround))
  have hloaded := @loadSegments_eq (mmap page base (roundedSize page (imageSize phdrs))) file phdrs
    h.sane (h.fits hpage base) 0
  have hlength : (pread file Elf32_Ehdr.size 0).length = Elf32_Ehdr.size := by
    have hheader := h.header
    simp only [pread, List.drop_zero, List.length_take]
    omega
  simp only [load_elf_image, hlength, h.valid, h.headers, h.nonempty, hsize, Bind.bind, Except.bind,
    ne_eq, not_true, if_false]
  exact hloaded

end

/-- A library is laid out as its segments say, wherever the mapping is: nothing outside of it is
written, every segment is inside, and every byte that none of them covers is zero. -/
theorem load_elf_image_lays_out {page : UInt32} {k : ℕ} (hpage : page.toNat = 2 ^ k) {file : Bytes}
    {phdrs : List Elf32_Phdr} (h : Library page file phdrs) (base : UInt32) : ∃ image,
      load_elf_image page file base = .ok (image, dynamicOf base phdrs 0) ∧ image.base = base ∧
      (∀ i, image.byte i = segmentBytes file phdrs (fun _ => 0) i) ∧
      ∀ phdr ∈ phdrs, phdr.p_type = PT_LOAD →
        phdr.p_paddr.toNat + phdr.p_memsz.toNat ≤ image.size :=
  ⟨laidOut page base file phdrs, h.load hpage base, rfl, fun _ => rfl, h.fits hpage base⟩

/-- A program header as it is in a file. -/
def programHeader (phdr : Elf32_Phdr) : Bytes :=
  [phdr.p_type, phdr.p_offset, 0, phdr.p_paddr, phdr.p_filesz, phdr.p_memsz, 0, 0].flatMap fun n =>
    LittleEndian.toBytes 4 n.toNat

/-- A library with two segments, the second of which lies over the end of the first, and a dynamic
section. -/
def twoSegments : Bytes :=
  valid_ident ++ List.replicate 7 0 ++ [3, 0, 40, 0, 1, 0, 0, 0] ++ List.replicate 4 0 ++
    [52, 0, 0, 0] ++ List.replicate 8 0 ++ [52, 0, 32, 0, 3, 0] ++ List.replicate 6 0 ++
    programHeader ⟨1, 148, 8, 2, 4⟩ ++ programHeader ⟨1, 150, 10, 1, 2⟩ ++
    programHeader ⟨2, 148, 8, 0, 0⟩ ++ [170, 187, 204]

theorem twoSegments_laid_out : ∃ image,
    load_elf_image 4096 twoSegments 0x10000 = .ok (image, 0x10008) ∧
      [7, 8, 9, 10, 11, 12].map image.byte = [0, 170, 187, 204, 0, 0] := by
  have h : Library 4096 twoSegments [⟨1, 148, 8, 2, 4⟩, ⟨1, 150, 10, 1, 2⟩, ⟨2, 148, 8, 0, 0⟩] := by
    refine ⟨by decide +kernel, by decide +kernel, by rfl, ?_, by decide, by decide⟩
    intro phdr hmem _
    simp only [List.mem_cons, List.not_mem_nil, or_false] at hmem
    obtain rfl | rfl | rfl := hmem <;> decide
  obtain ⟨image, hload, -, hbytes, -⟩ := load_elf_image_lays_out (k := 12) rfl h 0x10000
  refine ⟨image, hload, ?_⟩
  simp only [List.map_cons, List.map_nil, hbytes]
  decide +kernel

end FreeRil.ArmDl
