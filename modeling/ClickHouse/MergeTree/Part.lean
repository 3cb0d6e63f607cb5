import Mathlib
import ClickHouse.WriteHelpers.IPv4

set_option autoImplicit false

/-! # The data part and its checksums

The state `MergedBlockOutputStream::finalizePartAsync` (`Storages/MergeTree/
MergedBlockOutputStream.cpp`) fills in: the fields of `IMergeTreeDataPart` it reads or sets,
and the checksums map `MergeTreeDataPartChecksums::files`, a map from a file name of the part
to the file's size and hash.

A file's contents are the bytes its writer produced. The payloads the finalizer only passes
to a serializer (TTL infos, serialization infos, substreams, the source-parts set) are kept as
plain lists; what the finalizer asks of them is whether they are empty.
-/

namespace ClickHouse.MergeTree

/-- The bytes written to a file. -/
abbrev Bytes := List UInt8

/-- `writeIntText`: the decimal text of `n`, one ASCII byte per character. -/
def writeIntText (n : Int) : Bytes := (toString n).toList.map Char.toUInt8

/-- The digit loop behind `Nat.repr` in base ten, with fuel above the number, puts the number's
decimal digits in front of what it has so far. -/
theorem toDigitsCore_ten {fuel n : Nat} (h : n < fuel) (ds : List Char) :
    Nat.toDigitsCore 10 fuel n ds = WriteHelpers.decimalText n ++ ds := by
  induction fuel generalizing n ds with
  | zero => omega
  | succ fuel ih =>
    rw [Nat.toDigitsCore, WriteHelpers.decimalText]
    by_cases hn : n < 10
    · simp [hn, Nat.div_eq_of_lt hn, Nat.mod_eq_of_lt hn]
    · rw [if_neg (by omega), if_neg hn, ih (by omega), List.append_assoc, List.singleton_append]

/-- `writeIntText` of a count writes its decimal digits. -/
theorem writeIntText_natCast (n : Nat) :
    writeIntText n = (WriteHelpers.decimalText n).map Char.toUInt8 := by
  show (Nat.toDigitsCore 10 (n + 1) n []).asString.toList.map Char.toUInt8 = _
  rw [toDigitsCore_ten (Nat.lt_succ_self n), List.append_nil]
  rfl

/-! ## Checksums -/

/-- `MergeTreeDataPartChecksum`: the entry of one file in the checksums map. -/
structure Checksum where
  file_size : Nat := 0
  file_hash : Nat := 0
  is_compressed : Bool := false
  uncompressed_size : Nat := 0
  uncompressed_hash : Nat := 0
  deriving DecidableEq, Repr

/-- `MergeTreeDataPartChecksums::files`: at most one entry per file name. -/
abbrev Checksums := AList (fun _ : String => Checksum)

namespace Checksums

/-- `files[name].file_size = size; files[name].file_hash = hash`: `operator[]` creates a
default entry for a new name, and the other fields of an old entry are kept. -/
def setFile (c : Checksums) (name : String) (size hash : Nat) : Checksums :=
  c.insert name { (c.lookup name).getD {} with file_size := size, file_hash := hash }

/-- `addFile`: a fresh entry of an uncompressed file. -/
def addFile (c : Checksums) (name : String) (size hash : Nat) : Checksums :=
  c.insert name { file_size := size, file_hash := hash }

/-- `getTotalSizeOnDisk`: the sum of the file sizes. -/
def getTotalSizeOnDisk (c : Checksums) : Nat :=
  (c.entries.map fun e => e.2.file_size).sum

/-- `getTotalSizeUncompressedOnDisk`: compressed files count with their uncompressed size. -/
def getTotalSizeUncompressedOnDisk (c : Checksums) : Nat :=
  (c.entries.map fun e => if e.2.is_compressed then e.2.uncompressed_size else e.2.file_size).sum

@[simp] theorem lookup_setFile (c : Checksums) (name : String) (size hash : Nat) :
    (c.setFile name size hash).lookup name =
      some { (c.lookup name).getD {} with file_size := size, file_hash := hash } :=
  AList.lookup_insert c

theorem lookup_setFile_ne (c : Checksums) {name other : String} (size hash : Nat)
    (h : other ≠ name) : (c.setFile name size hash).lookup other = c.lookup other :=
  AList.lookup_insert_ne h

theorem mem_setFile (c : Checksums) (name other : String) (size hash : Nat) :
    other ∈ c.setFile name size hash ↔ other = name ∨ other ∈ c :=
  AList.mem_insert c

end Checksums

/-! ## The part -/

/-- `NameSet` (an `unordered_set` of names): the names without repetition, in the set's
iteration order, which the source leaves unspecified. -/
structure NameSet where
  names : List String
  nodup : names.Nodup

/-- The empty `NameSet`. -/
def NameSet.empty : NameSet := ⟨[], List.nodup_nil⟩

/-- `MergeTreeDataPartTTLInfos`: per TTL result column, the least and greatest time seen. -/
abbrev TTLInfos := List (String × Nat × Nat)

/-- `SerializationInfoByName`: per column, the name of its non-default serialization. -/
abbrev SerializationInfos := List (String × String)

/-- `ColumnsSubstreams`: per column, the names of its substreams. -/
abbrev ColumnsSubstreams := List (String × List String)

/-- `NamesAndTypesList`: column names with their type names. -/
abbrev NamesAndTypesList := List (String × String)

/-- The minimum format version with custom partitioning
(`MERGE_TREE_DATA_MIN_FORMAT_VERSION_WITH_CUSTOM_PARTITIONING`). -/
def MERGE_TREE_DATA_MIN_FORMAT_VERSION_WITH_CUSTOM_PARTITIONING : Nat := 1

/-- The fields of `IMergeTreeDataPart` the finalizer reads or sets. A UUID is its 128-bit value,
`UUIDHelpers::Nil` being `0`; a projection part is given by its name and its checksums, which
is all `finalizePartAsync` reads of it. -/
structure DataPart where
  name : String
  isProjectionPart : Bool
  uuid : Nat
  format_version : Nat
  minmax_idx_initialized : Bool
  source_parts : List String
  ttl_infos : TTLInfos
  serialization_infos : SerializationInfos
  columns : NamesAndTypesList
  columns_substreams : ColumnsSubstreams
  metadata_version : Int
  projection_parts : List (String × Checksums)
  rows_count : Nat
  existing_rows_count : Option Nat
  modification_time : Nat
  checksums : Checksums
  bytes_on_disk : Nat
  bytes_uncompressed_on_disk : Nat
  index_granularity : List Nat
  index : Option (List Nat)
  default_codec : Option String

/-- `IMergeTreeDataPart::setColumnsSubstreams`. -/
def DataPart.setColumnsSubstreams (part : DataPart) (columns_substreams : ColumnsSubstreams) :
    DataPart :=
  { part with columns_substreams := columns_substreams }

/-- `IMergeTreeDataPart::setColumns(columns, serialization_infos, metadata_version)`. -/
def DataPart.setColumns (part : DataPart) (columns : NamesAndTypesList)
    (serialization_infos : SerializationInfos) (metadata_version : Int) : DataPart :=
  { part with
    columns := columns
    serialization_infos := serialization_infos
    metadata_version := metadata_version }

/-- `UUIDHelpers::Nil`. -/
def UUIDHelpers.Nil : Nat := 0

end ClickHouse.MergeTree
