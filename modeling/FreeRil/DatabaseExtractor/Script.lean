import FreeRil.ArmDl
import FreeRil.DatabaseExtractor

/-! The script that is written for the table of operators in the library of the vendor. -/
namespace FreeRil
namespace DatabaseExtractor
open ArmDl

/-- `sizeof(operator_name_t)`. -/
def entrySize : UInt32 := 16

/-- A string in memory that ends within `n` bytes. -/
def stringAt (image : Mapping) (address : UInt32) : ℕ → Option Bytes
  | 0 => none
  | n + 1 =>
    match image.read address 1 with
    | some [c] => if c = 0 then some [] else (stringAt image (address + 1) n).map (c :: ·)
    | _ => none

/-- `raw_long_name` or `raw_short_name`, before the one is taken for the other. -/
def nameAt (image : Mapping) (pointer : UInt32) : Option Bytes :=
  if pointer = 0 then some [] else stringAt image pointer (image.size + 1)

/-- Both names, unless there is none. -/
def bothNames (long_name short_name : Bytes) : Option (Bytes × Bytes) :=
  if long_name = [] ∧ short_name = [] then none
  else if long_name = [] then some (short_name, short_name)
  else if short_name = [] then some (long_name, long_name)
  else some (long_name, short_name)

/-- An entry of the table, with the strings that it points to. -/
structure OperatorName where
  mccmnc : Bytes
  long_name : Bytes
  short_name : Bytes
  deriving DecidableEq

/-- The entry at `p`, whose first six bytes are ended by a zero. -/
def entryAt (image : Mapping) (p : UInt32) : Option OperatorName := do
  let mccmnc ← image.read p 6
  let long_name ← nameAt image (← image.read32 (p + 8))
  let short_name ← nameAt image (← image.read32 (p + 12))
  return ⟨cstr (mccmnc ++ [0]), long_name, short_name⟩

/-- What `escape` returns, as it is printed. Each of its iterations finds a quote. -/
def escaped (A : Allocator) (string : Bytes) : Option Bytes :=
  match escape A string string.length with
  | some (some block) => some (cstr block.data)
  | _ => none

def insertText : Bytes := str "INSERT OR REPLACE INTO operators (mccmnc, long_name, short_name) VALUES ('"

/-- A statement for an entry. -/
def insertion (mccmnc long_name short_name : Bytes) : Bytes :=
  insertText ++ mccmnc ++ str "', '" ++ long_name ++ str "', '" ++ short_name ++ str "');\n"

/-- What is written for an entry. -/
def OperatorName.statement (A : Allocator) (entry : OperatorName) : Option Bytes :=
  match bothNames entry.long_name entry.short_name with
  | none => some []
  | some (long_name, short_name) => do
    return insertion entry.mccmnc (← escaped A long_name) (← escaped A short_name)

/-- The body of the loop over the table; after an access outside of the image there is no pointer left. -/
def writeEntry (A : Allocator) (image : Mapping) (table_end : UInt32) :
    Option UInt32 → Option (Bytes × Option UInt32)
  | none => none
  | some p =>
    if p < table_end then
      match entryAt image p >>= OperatorName.statement A with
      | none => some ([], none)
      | some statement => some (statement, some (p + entrySize))
    else none

def header : Bytes :=
  str "-- Generated by the secril-database-extractor.\n\nBEGIN TRANSACTION;\n" ++
  str "DROP TABLE IF EXISTS operators;\nCREATE TABLE operators (\n    mccmnc VARCHAR(6) PRIMARY KEY,\n" ++
  str "    long_name VARCHAR(32),\n    short_name VARCHAR(32)\n);\n"

def commit : Bytes := str "COMMIT;\n"

/-- The file that `main` has written after at most `n` iterations of each loop; it fails where the table is
not found. The command line names a library and an output that can be opened. -/
def main (A : Allocator) (handle : ArmDlHandle) (n : ℕ) : Option (Except Failure Bytes) :=
  match arm_dlsym handle (str "opname_list") n, arm_dlsym handle (str "TimezoneIdList") n with
  | some (.ok (some table)), some (.ok (some table_end)) =>
    (Loop.run (writeEntry A handle.image table_end) n (some table)).map fun r =>
      match r.2 with
      | none => throw .undefined
      | some _ => .ok (header ++ r.1.flatten ++ commit)
  | some (.error failure), _ | some (.ok _), some (.error failure) => some (throw failure)
  | some (.ok _), some (.ok _) => some (throw .failed)
  | _, _ => none

end DatabaseExtractor

/-! The database that the script makes, and what is looked up in it. -/

/-- The rows of `operators`, by their primary key. -/
abbrev Operators := Bytes → Option (Bytes × Bytes)

namespace RILDatabase

/-- `lookupOperator`, where no call fails. The key is bound as a string that a zero ends. -/
def lookupOperator (operators : Operators) (mccmnc : Bytes) : Bytes × Bytes :=
  match operators (cstr mccmnc) with
  | some (longName, shortName) => (cstr longName, cstr shortName)
  | none =>
    let longName := str "<" ++ mccmnc ++ str ">"
    (longName, longName)

end RILDatabase
end FreeRil
