import FreeRil.Bytes
import FreeRil.Library.Loop
import FreeRil.Library.Mapping

/-! The loader that gets the library of the vendor into memory on a host: segments, relocations and
symbols. Pointers have 32 bits, and the file is a regular one, which does not change. -/
namespace FreeRil
namespace ArmDl
open LittleEndian

/-- Why there is no result: memory outside of the image is accessed, or the function says so. -/
inductive Failure
  | undefined
  | failed
  deriving DecidableEq, Repr

/-- A number of the file or of the memory, from its bytes. -/
def word (bytes : Bytes) (offset : ℕ) : UInt32 := .ofNat (value ((bytes.drop offset).take 4))

def half (bytes : Bytes) (offset : ℕ) : UInt16 := .ofNat (value ((bytes.drop offset).take 2))

def EI_PAD : ℕ := 9

/-- The magic number, 32 bits, little endian, the current version, and zeros for the ABI and its
version. -/
def valid_ident : Bytes := [0x7F, 0x45, 0x4C, 0x46, 1, 1, 1, 0, 0]

structure Elf32_Ehdr where
  e_ident : Bytes
  e_type : UInt16
  e_machine : UInt16
  e_version : UInt32
  e_phoff : UInt32
  e_phentsize : UInt16
  e_phnum : UInt16

def Elf32_Ehdr.size : ℕ := 52

def Elf32_Ehdr.ofBytes (bytes : Bytes) : Elf32_Ehdr where
  e_ident := bytes.take 16
  e_type := half bytes 16
  e_machine := half bytes 18
  e_version := word bytes 20
  e_phoff := word bytes 28
  e_phentsize := half bytes 42
  e_phnum := half bytes 44

structure Elf32_Phdr where
  p_type : UInt32
  p_offset : UInt32
  p_paddr : UInt32
  p_filesz : UInt32
  p_memsz : UInt32

def Elf32_Phdr.size : ℕ := 32

def Elf32_Phdr.ofBytes (bytes : Bytes) : Elf32_Phdr where
  p_type := word bytes 0
  p_offset := word bytes 4
  p_paddr := word bytes 12
  p_filesz := word bytes 16
  p_memsz := word bytes 20

def PT_LOAD : UInt32 := 1
def PT_DYNAMIC : UInt32 := 2

/-- As many bytes of the file as there are. -/
def pread (file : Bytes) (size offset : ℕ) : Bytes := (file.drop offset).take size

/-- The program headers, if they are all there. -/
def readHeaders (file : Bytes) (offset : ℕ) : ℕ → Except Failure (List Elf32_Phdr)
  | 0 => .ok []
  | n + 1 => do
    let phdr := pread file Elf32_Phdr.size offset
    if phdr.length ≠ Elf32_Phdr.size then throw .failed
    return Elf32_Phdr.ofBytes phdr :: (← readHeaders file (offset + Elf32_Phdr.size) n)

/-- The first loop. -/
def imageSize (phdrs : List Elf32_Phdr) : UInt32 :=
  phdrs.foldl (fun image_size phdr =>
    if phdr.p_type = PT_LOAD then
      let segment_end := phdr.p_paddr + phdr.p_memsz
      if image_size < segment_end then segment_end else image_size
    else image_size) 0

/-- Room for an image, in whole pages of zeros. -/
def mmap (page : UInt32) (base size : UInt32) : Mapping where
  base := base
  size := (size.toNat + page.toNat - 1) / page.toNat * page.toNat
  byte := fun _ => 0

/-- A store of `memset`, of any size. -/
def memset (image : Mapping) (address : UInt32) (size : ℕ) : Except Failure Mapping :=
  match image.write address (List.replicate size 0) with
  | none => throw .undefined
  | some image => return image

/-- An iteration of the second loop. -/
def loadSegment (file : Bytes) (image : Mapping) (dynamic : UInt32) (phdr : Elf32_Phdr) :
    Except Failure (Mapping × UInt32) := do
  if phdr.p_type = PT_LOAD then
    let image ←
      if phdr.p_filesz ≠ 0 then
        match image.write (image.base + phdr.p_paddr)
          (pread file phdr.p_filesz.toNat phdr.p_offset.toNat) with
        | none => throw .undefined
        | some image => pure image
      else pure image
    let image ← memset image (image.base + phdr.p_paddr + phdr.p_filesz)
      (phdr.p_memsz - phdr.p_filesz).toNat
    return (image, dynamic)
  else if phdr.p_type = PT_DYNAMIC then
    return (image, image.base + phdr.p_paddr)
  else
    return (image, dynamic)

/-- The second loop. -/
def loadSegments (file : Bytes) (image : Mapping) (dynamic : UInt32) :
    List Elf32_Phdr → Except Failure (Mapping × UInt32)
  | [] => .ok (image, dynamic)
  | phdr :: phdrs => do
    let (image, dynamic) ← loadSegment file image dynamic phdr
    loadSegments file image dynamic phdrs

/-- Whether the header is that of a library for ARM. -/
def Elf32_Ehdr.valid (ehdr : Elf32_Ehdr) : Bool :=
  ehdr.e_ident.take EI_PAD = valid_ident ∧ ehdr.e_type = 3 ∧ ehdr.e_machine = 40 ∧ ehdr.e_version = 1 ∧
    ehdr.e_phoff ≠ 0 ∧ ehdr.e_phentsize.toNat = Elf32_Phdr.size

/-- The size that is asked for, from the end of the last segment. -/
def roundedSize (page image_size : UInt32) : UInt32 := (image_size + page) &&& ~~~page

/-- The image and `*dynamic`, where `mmap` gives `base` for it. An empty mapping is refused. -/
def load_elf_image (page : UInt32) (file : Bytes) (base : UInt32) :
    Except Failure (Mapping × UInt32) := do
  let header := pread file Elf32_Ehdr.size 0
  if header.length ≠ Elf32_Ehdr.size then throw .failed
  let ehdr := Elf32_Ehdr.ofBytes header
  if ¬ ehdr.valid then throw .failed
  let phdrs ← readHeaders file ehdr.e_phoff.toNat ehdr.e_phnum.toNat
  let image_size := imageSize phdrs
  if image_size = 0 then throw .failed
  let size := roundedSize page image_size
  if size = 0 then throw .failed
  loadSegments file (mmap page base size) 0 phdrs

/-! What the dynamic section says. -/

/-- A value that is read of the image. -/
def readOr {α : Type} : Option α → Except Failure α
  | none => throw .undefined
  | some a => return a

def DT_PLTRELSZ : ℕ := 2
def DT_HASH : ℕ := 4
def DT_STRTAB : ℕ := 5
def DT_SYMTAB : ℕ := 6
def DT_RELA : ℕ := 7
def DT_RELASZ : ℕ := 8
def DT_RELAENT : ℕ := 9
def DT_REL : ℕ := 17
def DT_RELSZ : ℕ := 18
def DT_RELENT : ℕ := 19
def DT_PLTREL : ℕ := 20
def DT_JMPREL : ℕ := 23

/-- `dyn_data`; a tag that is not there has the value `0`. -/
abbrev Tags := ℕ → UInt32

/-- The value that is kept for a tag, unless it is none of these. -/
def dynValue (image : UInt32) (tag : ℕ) (d_val : UInt32) : Option UInt32 :=
  if tag ∈ [1, 2, 8, 9, 10, 11, 14, 15, 18, 19, 20] then some d_val
  else if tag ∈ [3, 4, 5, 6, 7, 12, 13, 17, 21, 23] then some (image + d_val)
  else if tag ∈ [16, 22, 24] then some 1
  else none

/-- The loop, for at most `n` entries. -/
def dynLoop (image : Mapping) (dyn : UInt32) (dyn_data : Tags) : ℕ → Except Failure Tags
  | 0 => throw .undefined
  | n + 1 => do
    let d_tag ← readOr (image.read32 dyn)
    if d_tag = 0 then return dyn_data
    else
      let d_val ← readOr (image.read32 (dyn + 4))
      let dyn_data := match dynValue image.base d_tag.toNat d_val with
        | some val => Function.update dyn_data d_tag.toNat val
        | none => dyn_data
      dynLoop image (dyn + 8) dyn_data n

/-- There is memory for it. The entries of an image without an end lead out of it. -/
def build_dyn_data (dyn : UInt32) (image : Mapping) : Except Failure Tags :=
  dynLoop image dyn (fun _ => 0) (image.size + 1)

/-! Relocations. -/

/-- `symtable[sym]`. -/
def symbolAddress (tags : Tags) (sym : UInt32) : UInt32 := tags DT_SYMTAB + 16 * sym

/-- Whether `st_shndx` is `SHN_UNDEF`. -/
def symbolUndefined (image : Mapping) (tags : Tags) (sym : UInt32) : Except Failure Bool := do
  let st_shndx ← readOr (image.read (symbolAddress tags sym + 14) 2)
  return value st_shndx = 0

def st_value (image : Mapping) (tags : Tags) (sym : UInt32) : Except Failure UInt32 :=
  readOr (image.read32 (symbolAddress tags sym + 4))

/-- The types of relocations that are known. -/
def R_ARM_ABS32 : UInt32 := 2
def R_ARM_GLOB_DAT : UInt32 := 21
def R_ARM_JUMP_SLOT : UInt32 := 22
def R_ARM_RELATIVE : UInt32 := 23

/-- The addend, which is `*target` where it is not present. -/
def addendAt (image : Mapping) (target : UInt32) : Option UInt32 → Except Failure UInt32
  | some addend => .ok addend
  | none => readOr (image.read32 target)

/-- The word that `*target` is set to. `none` is an addend that is not present. -/
def relocated (tags : Tags) (image : Mapping) (target info : UInt32) (addend : Option UInt32) :
    Except Failure UInt32 := do
  let sym := info >>> 8
  let type := info &&& 0xFF
  if type = R_ARM_GLOB_DAT ∨ type = R_ARM_JUMP_SLOT then
    if sym = 0 then throw .failed
    if ¬ (← symbolUndefined image tags sym) then throw .failed
    return addend.getD 0
  else if type = R_ARM_RELATIVE then
    if sym ≠ 0 then throw .failed
    match addend with
    | some addend => return image.base + addend
    | none => return (← readOr (image.read32 target)) + image.base
  else if type = R_ARM_ABS32 then
    let addend ← addendAt image target addend
    if sym = 0 then throw .failed
    if ← symbolUndefined image tags sym then return addend
    return image.base + (← st_value image tags sym) + addend
  else throw .failed

def do_relocation (tags : Tags) (image : Mapping) (offset info : UInt32) (addend : Option UInt32) :
    Except Failure Mapping := do
  let target := image.base + offset
  readOr (image.write32 target (← relocated tags image target info addend))

/-- `Elf32_Rela`, or `Elf32_Rel` where there is no addend. -/
structure Relocation where
  r_offset : UInt32
  r_info : UInt32
  r_addend : Option UInt32

/-- An entry of a table, of either kind. -/
def readEntry (image : Mapping) (rela : Bool) (rel : UInt32) : Except Failure Relocation := do
  let r_offset ← readOr (image.read32 rel)
  let r_info ← readOr (image.read32 (rel + 4))
  if rela then return ⟨r_offset, r_info, some (← readOr (image.read32 (rel + 8)))⟩
  else return ⟨r_offset, r_info, none⟩

/-- The address after it. -/
def nextEntry (rela : Bool) (rel : UInt32) : UInt32 := if rela then rel + 12 else rel + 8

/-- The loops of `do_rel` and `do_rela`, for so many entries of the table. -/
def relocateTable (tags : Tags) (rela : Bool) : ℕ → UInt32 → Mapping → Except Failure Mapping
  | 0, _, image => .ok image
  | n + 1, rel, image => do
    let r ← readEntry image rela rel
    let image ← do_relocation tags image r.r_offset r.r_info r.r_addend
    relocateTable tags rela n (nextEntry rela rel) image

/-- `ent` is the size that the section gives for its entries, the last of which may be cut short. -/
def do_rel (tags : Tags) (image : Mapping) (rel size ent : UInt32) : Except Failure Mapping :=
  if ent ≠ 8 then throw .failed else relocateTable tags false ((size.toNat + 7) / 8) rel image

def do_rela (tags : Tags) (image : Mapping) (rela size ent : UInt32) : Except Failure Mapping :=
  if ent ≠ 12 then throw .failed else relocateTable tags true ((size.toNat + 11) / 12) rela image

def relocate (tags : Tags) (image : Mapping) : Except Failure Mapping := do
  let image ← if tags DT_REL ≠ 0 then do_rel tags image (tags DT_REL) (tags DT_RELSZ) (tags DT_RELENT)
    else pure image
  let image ← if tags DT_RELA ≠ 0 then
      do_rela tags image (tags DT_RELA) (tags DT_RELASZ) (tags DT_RELAENT)
    else pure image
  if tags DT_JMPREL ≠ 0 then
    if tags DT_PLTREL = 17 then do_rel tags image (tags DT_JMPREL) (tags DT_PLTRELSZ) 8
    else if tags DT_PLTREL = 7 then do_rela tags image (tags DT_JMPREL) (tags DT_PLTRELSZ) 12
    else throw .failed
  else return image

/-- What `arm_dlopen` returns. -/
structure ArmDlHandle where
  image : Mapping
  dyn_data : Tags

/-- There is memory for the handle, and `base` for the image. -/
def arm_dlopen (page : UInt32) (file : Bytes) (base : UInt32) : Except Failure ArmDlHandle := do
  let (image, dynamic) ← load_elf_image page file base
  let dyn_data ← build_dyn_data dynamic image
  return ⟨← relocate dyn_data image, dyn_data⟩

/-! Symbols. -/

def elf_hash (name : Bytes) : UInt32 :=
  (cstr name).foldl (fun h c =>
    let h := (h <<< 4) + c.toUInt32
    let g := h &&& 0xF0000000
    let h := if g ≠ 0 then h ^^^ (g >>> 24) else h
    h &&& ~~~g) 0

/-- Whether `strcmp` returns zero: a string is compared up to where it differs. -/
def equals (image : Mapping) (address : UInt32) : Bytes → Option Bool
  | [] => some true
  | c :: rest =>
    match image.read address 1 with
    | some [c'] => if c' = c then equals image (address + 1) rest else some false
    | _ => none

/-- The variable of the loop, or how it has been left. -/
inductive Search
  | at (y : UInt32)
  | found (address : UInt32)
  | undefined
  deriving DecidableEq

section
variable (handle : ArmDlHandle) (symbol : Bytes)

def nchain : Option UInt32 := handle.image.read32 (handle.dyn_data DT_HASH + 4)

/-- `chain[y]`, where there are `nbucket` buckets. -/
def chain (nbucket y : UInt32) : Option UInt32 :=
  handle.image.read32 (handle.dyn_data DT_HASH + 4 * (nbucket + 2 + y))

/-- Whether the name of a symbol is this one. -/
def isNamed (y : UInt32) : Option Bool := do
  let st_name ← handle.image.read32 (symbolAddress handle.dyn_data y)
  equals handle.image (handle.dyn_data DT_STRTAB + st_name) (cstr symbol ++ [0])

/-- The body of the loop. -/
def searchStep (nbucket nchain : UInt32) : Search → Option (Unit × Search)
  | .at y =>
    if y ≠ 0 ∧ y < nchain then
      some ((), match isNamed handle symbol y with
        | none => .undefined
        | some true =>
          match handle.image.read32 (symbolAddress handle.dyn_data y + 4) with
          | none => .undefined
          | some st_value => .found (handle.image.base + st_value)
        | some false =>
          match chain handle nbucket y with
          | none => .undefined
          | some y => .at y)
    else none
  | _ => none

/-- The pointer that is returned within `n` iterations; `NULL` is `none`. Where there are no buckets, the
number of one is a division by zero. -/
def arm_dlsym (n : ℕ) : Option (Except Failure (Option UInt32)) :=
  match handle.image.read32 (handle.dyn_data DT_HASH), nchain handle with
  | some nbucket, some nchain =>
    if nbucket = 0 then some (throw .undefined)
    else
      match handle.image.read32 (handle.dyn_data DT_HASH + 4 * (2 + elf_hash symbol % nbucket)) with
      | none => some (throw .undefined)
      | some y => (Loop.run (searchStep handle symbol nbucket nchain) n (.at y)).map fun r =>
        match r.2 with
        | .at _ => .ok none
        | .found address => .ok (some address)
        | .undefined => throw .undefined
  | _, _ => some (throw .undefined)

end
end ArmDl
end FreeRil
