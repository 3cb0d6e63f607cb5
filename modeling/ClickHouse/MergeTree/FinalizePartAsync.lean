import ClickHouse.MergeTree.Finalizer

set_option autoImplicit false

/-! # `finalizePartAsync`

`MergedBlockOutputStream::finalizePartAsync` prepares a written part for its commit:

1. the checksums map starts from the additional checksums (vertical merges), the part writer
   finishes the column files and fills in their entries (`fillChecksums`), the names it
   reports are erased, and each projection part gets one entry `<name>.proj`;
2. with `reset_columns`, the columns that turned out empty are dropped from the part and their
   files scheduled for removal (`removeEmptyColumnsFromPart`), and the part's columns set;
3. `finalizePartOnDisk` stages the auxiliary files;
4. the part gets its row count, checksums, sizes, granularity, index, existing row count and
   codec, and an `Impl` owning the staged buffers is returned.

`finalizePartAsync_staged_files` says what a returning call stages, `checksums.txt` last, which
serializes the map the part ends with. In `WriteThenFinalize`, `finalizePartAsync_rows` says that
`count.txt` and the part's `rows_count` carry the stream's `rows_count`, and
`writes_then_finalize_rows` follows that count from the writes to the part.
-/

namespace ClickHouse.MergeTree

/-- What `finalizePartAsync` gets from outside this file besides `Collaborators`. -/
structure PartCollaborators extends Collaborators where
  /-- `writer->fillChecksums(checksums, checksums_to_remove)`: the map with the column files'
  entries, and the names to erase from it. -/
  fillChecksums : PartWriter → Checksums → Checksums × List String
  /-- `getTotalChecksumUInt128` of a projection part's checksums. -/
  getTotalChecksumUInt128 : Checksums → Nat
  /-- `serialization_infos.replaceData(new_serialization_infos)`. -/
  replaceData : SerializationInfos → List Block → SerializationInfos
  /-- `removeEmptyColumnsFromPart(new_part, columns, serialization_infos, checksums)`: the
  columns, statistics and checksums without the empty columns, and the files to remove. -/
  removeEmptyColumnsFromPart : DataPart → NamesAndTypesList → SerializationInfos → Checksums →
    NamesAndTypesList × SerializationInfos × Checksums × NameSet
  /-- `time(nullptr)`. -/
  now : Nat
  /-- `writer->getIndexGranularity()`. -/
  getIndexGranularity : PartWriter → List Nat
  /-- `index_granularity->optimize()`. -/
  optimize : List Nat → Option (List Nat)
  /-- The setting `enable_index_granularity_compression`. -/
  enable_index_granularity_compression : Bool
  /-- `writer->releaseIndexColumns()`. -/
  releaseIndexColumns : PartWriter → Option (List Nat)

namespace PartCollaborators

variable (co : PartCollaborators)

/-- The checksums `fillChecksums` leaves, with the names it reports erased. -/
def filledChecksums (s : MergedBlockOutputStream) (checksums : Checksums) : Checksums :=
  let (filled, checksums_to_remove) := co.fillChecksums s.writer checksums
  checksums_to_remove.foldl (fun c name => c.erase name) filled

/-- One entry `<name>.proj` per projection part, with its total size and checksum. -/
def addProjectionChecksums (part : DataPart) (checksums : Checksums) : Checksums :=
  part.projection_parts.foldl
    (fun c p => c.addFile (p.1 ++ ".proj") p.2.getTotalSizeOnDisk (co.getTotalChecksumUInt128 p.2))
    checksums

/-- The `reset_columns` block: drop the empty columns, set the part's columns, and return the
files of the dropped columns, to remove once the part is written. -/
def resetColumns (s : MergedBlockOutputStream) (total_columns_list : Option NamesAndTypesList)
    (w : World) : NameSet × World :=
  let part_columns := total_columns_list.getD s.columns_list
  let serialization_infos := co.replaceData w.part.serialization_infos s.new_serialization_infos
  let (part_columns, serialization_infos, checksums, files_to_remove) :=
    co.removeEmptyColumnsFromPart w.part part_columns serialization_infos w.checksums
  (files_to_remove, (w.setChecksums checksums).setPart
    (w.part.setColumns part_columns serialization_infos s.metadata_version))

/-- The part fields `finalizePartAsync` sets once the files are staged. -/
def finalizedPart (s : MergedBlockOutputStream) (checksums : Checksums) (part : DataPart) :
    DataPart :=
  let index_granularity := co.getIndexGranularity s.writer
  { part with
    rows_count := s.rows_count
    modification_time := co.now
    checksums := checksums
    bytes_on_disk := checksums.getTotalSizeOnDisk
    bytes_uncompressed_on_disk := checksums.getTotalSizeUncompressedOnDisk
    index_granularity :=
      if co.enable_index_granularity_compression then
        (co.optimize index_granularity).getD index_granularity
      else index_granularity
    index := (co.releaseIndexColumns s.writer).or part.index
    existing_rows_count :=
      match part.existing_rows_count with
      | some n => some n
      | none => some s.rows_count
    default_codec := if s.default_codec.isSome then s.default_codec else part.default_codec }

@[simp] theorem finalizedPart_rows_count (s : MergedBlockOutputStream) (checksums : Checksums)
    (part : DataPart) : (co.finalizedPart s checksums part).rows_count = s.rows_count := rfl

@[simp] theorem finalizedPart_checksums (s : MergedBlockOutputStream) (checksums : Checksums)
    (part : DataPart) : (co.finalizedPart s checksums part).checksums = checksums := rfl

/-- `existing_rows_count` is kept when set, and otherwise becomes `rows_count`. -/
@[simp] theorem finalizedPart_existing_rows_count (s : MergedBlockOutputStream)
    (checksums : Checksums) (part : DataPart) :
    (co.finalizedPart s checksums part).existing_rows_count =
      some (part.existing_rows_count.getD s.rows_count) := by
  cases h : part.existing_rows_count <;> simp [finalizedPart, h]

end PartCollaborators

section Steps

variable (fails : Action → Bool) (co : PartCollaborators)

/-- `MergedBlockOutputStream::finalizePartAsync`. -/
def finalizePartAsync (s : MergedBlockOutputStream) (sync : Bool)
    (total_columns_list : Option NamesAndTypesList) (additional_column_checksums : Option Checksums)
    (additional_columns_substreams : Option ColumnsSubstreams) : FinalizeM Impl := do
  modify fun w => w.setChecksums (additional_column_checksums.getD ∅)
  issue fails .fillChecksums
  modify fun w => w.setChecksums (co.filledChecksums s w.checksums)
  modify fun w => w.setChecksums (co.addProjectionChecksums w.part w.checksums)
  let files_to_remove_after_sync ←
    (if s.reset_columns then modifyGet (co.resetColumns s total_columns_list)
      else pure NameSet.empty)
  let written_files ← finalizePartOnDisk fails co.toCollaborators s additional_columns_substreams
  modify fun w => w.setPart (co.finalizedPart s w.checksums w.part)
  pure { files_to_remove_after_finish := files_to_remove_after_sync, written_files, sync }

end Steps

/-! ## Runs of `finalizePartAsync` -/

theorem refines_finalizePartAsync (fails : Action → Bool) (co : PartCollaborators)
    (s : MergedBlockOutputStream) (sync : Bool) (total_columns_list : Option NamesAndTypesList)
    (additional_column_checksums : Option Checksums)
    (additional_columns_substreams : Option ColumnsSubstreams) :
    Refines (finalizePartAsync fails co s sync total_columns_list additional_column_checksums
        additional_columns_substreams)
      (finalizePartAsync noFault co s sync total_columns_list additional_column_checksums
        additional_columns_substreams) :=
  .bind (.refl _) fun _ => .bind (.issue fails _) fun _ => .bind (.refl _) fun _ =>
    .bind (.refl _) fun _ => .bind (.refl _) fun _ =>
    .bind (refines_finalizePartOnDisk fails _ s _) fun _ => .bind (.refl _) fun _ => .refl _

/-- **`finalizePartAsync` only stages.** Whether it returns or throws, it fills the column
files' checksums and opens, writes and `preFinalize`s the auxiliary files; it finalizes, syncs
and cancels nothing, and leaves the transaction alone. -/
theorem stages_finalizePartAsync (fails : Action → Bool) (co : PartCollaborators)
    (s : MergedBlockOutputStream) (sync : Bool) (total_columns_list : Option NamesAndTypesList)
    (additional_column_checksums : Option Checksums)
    (additional_columns_substreams : Option ColumnsSubstreams) :
    Appends (·.isStaging = true) (finalizePartAsync fails co s sync total_columns_list
      additional_column_checksums additional_columns_substreams) :=
  .bind (.of_modify fun _ => rfl) fun _ => .bind (.of_issue fails rfl) fun _ =>
    .bind (.of_modify fun _ => rfl) fun _ => .bind (.of_modify fun _ => rfl) fun _ =>
    .bind (.ite (.of_modifyGet fun _ => rfl) (.of_pure _)) fun _ =>
    .bind (stages_finalizePartOnDisk fails _ s _) fun _ =>
    .bind (.of_modify fun _ => rfl) fun _ => .of_pure _

namespace PartCollaborators

variable (co : PartCollaborators)

/-- The world `finalizePartAsync` hands to `finalizePartOnDisk` when no action raises, with the
files to remove after the commit. -/
def prepare (s : MergedBlockOutputStream) (total_columns_list : Option NamesAndTypesList)
    (additional_column_checksums : Option Checksums) (w : World) : NameSet × World :=
  let w₁ := ({ w with trace := w.trace ++ [.fillChecksums] } : World).setChecksums
    (co.addProjectionChecksums w.part (co.filledChecksums s (additional_column_checksums.getD ∅)))
  if s.reset_columns then co.resetColumns s total_columns_list w₁ else (NameSet.empty, w₁)

theorem prepare_minmaxFails (s : MergedBlockOutputStream)
    (total_columns_list : Option NamesAndTypesList) (additional_column_checksums : Option Checksums)
    (w : World) (rows_count : Nat) :
    minmaxFails rows_count (co.prepare s total_columns_list additional_column_checksums w).2.part =
      minmaxFails rows_count w.part := by
  unfold prepare; split <;> rfl

end PartCollaborators

/-- The world `finalizePartOnDisk` leaves when it returns inside `finalizePartAsync`. -/
def PartCollaborators.stagedWorld (co : PartCollaborators) (s : MergedBlockOutputStream)
    (total_columns_list : Option NamesAndTypesList) (additional_column_checksums : Option Checksums)
    (additional_columns_substreams : Option ColumnsSubstreams) (w : World) : World :=
  onDiskWorld co.toCollaborators s additional_columns_substreams
    (co.prepare s total_columns_list additional_column_checksums w).2

section NoFault

variable (co : PartCollaborators) (s : MergedBlockOutputStream) (sync : Bool)
  (total_columns_list : Option NamesAndTypesList) (additional_column_checksums : Option Checksums)
  (additional_columns_substreams : Option ColumnsSubstreams)

/-- **`finalizePartAsync` without a fault** runs `finalizePartOnDisk` on the prepared world and,
when that returns, sets the part's fields. -/
theorem finalizePartAsync_noFault_eq (w : World) :
    finalizePartAsync noFault co s sync total_columns_list additional_column_checksums
        additional_columns_substreams w =
      match finalizePartOnDisk noFault co.toCollaborators s additional_columns_substreams
          (co.prepare s total_columns_list additional_column_checksums w).2 with
      | .ok written_files w₂ =>
        .ok ⟨(co.prepare s total_columns_list additional_column_checksums w).1, written_files, sync⟩
          (w₂.setPart (co.finalizedPart s w₂.checksums w₂.part))
      | .error e w₂ => .error e w₂ := by
  unfold finalizePartAsync
  cases hr : s.reset_columns <;>
    simp only [PartCollaborators.prepare, hr, bind_apply, modify_apply, issue_noFault, record_apply,
      modifyGet_apply, pure_apply, ite_true, ite_false, Bool.false_eq_true, World.setChecksums] <;>
    split <;> simp only [*]

variable {s}

theorem finalizePartAsync_noFault {w : World} (hm : minmaxFails s.rows_count w.part = false)
    (hc : s.default_codec.isSome) :
    finalizePartAsync noFault co s sync total_columns_list additional_column_checksums
        additional_columns_substreams w =
      .ok ⟨(co.prepare s total_columns_list additional_column_checksums w).1,
          (co.stagedWorld s total_columns_list additional_column_checksums
            additional_columns_substreams w).written_files, sync⟩
        ((co.stagedWorld s total_columns_list additional_column_checksums
            additional_columns_substreams w).setPart
          (co.finalizedPart s
            (co.stagedWorld s total_columns_list additional_column_checksums
              additional_columns_substreams w).checksums
            (co.stagedWorld s total_columns_list additional_column_checksums
              additional_columns_substreams w).part)) := by
  have hm' := (co.prepare_minmaxFails s total_columns_list additional_column_checksums w
    s.rows_count).trans hm
  rw [finalizePartAsync_noFault_eq, finalizePartOnDisk_noFault _ hm', if_pos hc]
  rfl

/-- When the min-max check fails, the fault-free run throws its `LOGICAL_ERROR`. -/
theorem finalizePartAsync_noFault_minmax {w : World} (hm : minmaxFails s.rows_count w.part = true) :
    ∃ w', finalizePartAsync noFault co s sync total_columns_list additional_column_checksums
        additional_columns_substreams w = .error (minmaxNotInitialized w.part) w' := by
  have hm' := (co.prepare_minmaxFails s total_columns_list additional_column_checksums w
    s.rows_count).trans hm
  have hname : minmaxNotInitialized
      (co.prepare s total_columns_list additional_column_checksums w).2.part =
        minmaxNotInitialized w.part := by
    unfold PartCollaborators.prepare; split <;> rfl
  rw [finalizePartAsync_noFault_eq, finalizePartOnDisk_noFault_minmax _ hm', hname]
  exact ⟨_, rfl⟩

/-- Under any oracle, a run of `finalizePartAsync` that returns passed the min-max and codec
checks, and is the fault-free run. -/
theorem finalizePartAsync_returns {fails : Action → Bool} {w w' : World} {impl : Impl}
    (h : finalizePartAsync fails co s sync total_columns_list additional_column_checksums
      additional_columns_substreams w = .ok impl w') :
    minmaxFails s.rows_count w.part = false ∧ s.default_codec.isSome ∧
      finalizePartAsync noFault co s sync total_columns_list additional_column_checksums
        additional_columns_substreams w = .ok impl w' := by
  have h' := refines_finalizePartAsync fails co s sync total_columns_list
    additional_column_checksums additional_columns_substreams w impl w' h
  cases hm : minmaxFails s.rows_count w.part
  · refine ⟨rfl, ?_, h'⟩
    have hm' := (co.prepare_minmaxFails s total_columns_list additional_column_checksums w
      s.rows_count).trans hm
    cases hc : s.default_codec.isSome
    · rw [finalizePartAsync_noFault_eq, finalizePartOnDisk_noFault _ hm', hc] at h'
      cases h'
    · rfl
  · obtain ⟨_, he⟩ := finalizePartAsync_noFault_minmax co sync total_columns_list
      additional_column_checksums additional_columns_substreams hm
    rw [he] at h'
    cases h'

/-! ## The files `finalizePartAsync` stages -/

variable {co}

/-- **The staged files and the checksums map.** When `finalizePartAsync` returns, under any
oracle, it staged the plan of `finalizePartOnDisk` for the part as prepared, in order, and
`checksums.txt` last, which serializes the map the part ends with. That map has the keys it had
before `finalizePartOnDisk` and the names of the hashed files, and gives each hashed name the
size and hash of the bytes last written under it. -/
theorem finalizePartAsync_staged_files {fails : Action → Bool} {w w' : World} {impl : Impl}
    (h : finalizePartAsync fails co s sync total_columns_list additional_column_checksums
      additional_columns_substreams w = .ok impl w') :
    let w₀ := (co.prepare s total_columns_list additional_column_checksums w).2
    let plan := onDiskPlan co.toCollaborators s additional_columns_substreams w₀.part
    impl.written_files =
        plan.map Prod.fst ++ [⟨"checksums.txt", co.writeChecksums w'.part.checksums⟩] ∧
      (∀ name, name ∈ w'.part.checksums ↔
        name ∈ w₀.checksums ∨ name ∈ (hashedFiles plan).map (·.name)) ∧
      ∀ name f, lastWrite (hashedFiles plan) name = some f →
        ∃ c, w'.part.checksums.lookup name = some c ∧
          c.file_size = f.data.length ∧ c.file_hash = co.hash f.data := by
  obtain ⟨hm, hc, h'⟩ := finalizePartAsync_returns co sync total_columns_list
    additional_column_checksums additional_columns_substreams h
  rw [finalizePartAsync_noFault co sync total_columns_list additional_column_checksums
    additional_columns_substreams hm hc] at h'
  cases h'
  simp only [World.setPart_part, PartCollaborators.finalizedPart_checksums,
    PartCollaborators.stagedWorld]
  refine ⟨onDiskWorld_written_files .., ?_⟩
  rw [onDiskWorld_checksums]
  exact ⟨fun _ => World.mem_writeFiles_checksums .., fun _ _ hf =>
    World.lookup_writeFiles_checksums _ _ _ hf⟩

end NoFault

/-! ## A concrete part -/

/-- Collaborators whose serializers write one byte per item, with the length as the hash. -/
def countingCollaborators : PartCollaborators where
  hash := List.length
  writeUUIDText := fun _ => [0]
  partitionBytes := fun _ => some [1]
  minmaxBytes := fun part => part.columns.map fun c => (c.1, [2])
  writeSourceParts := fun ps => ps.map fun _ => 3
  writeTTLInfos := fun ts => ts.map fun _ => 4
  writeSerializationJSON := fun ss => ss.map fun _ => 5
  writeColumnsText := fun cs => cs.map fun _ => 6
  writeColumnsSubstreamsText := fun cs => cs.map fun _ => 7
  writeCodecDesc := fun c => c.toList.map Char.toUInt8
  writeChecksums := fun c => c.entries.map fun _ => 8
  getColumnsSubstreams := fun _ => []
  mergeSubstreams := fun a b _ => a ++ b
  fillChecksums := fun _ c => (c, [])
  getTotalChecksumUInt128 := Checksums.getTotalSizeOnDisk
  replaceData := fun infos _ => infos
  removeEmptyColumnsFromPart := fun _ columns infos checksums => (columns, infos, checksums, NameSet.empty)
  now := 0
  getIndexGranularity := fun writer => writer.written.map fun b => b.1.rows
  optimize := some
  enable_index_granularity_compression := false
  releaseIndexColumns := fun _ => none

/-- A new part of a table with custom partitioning, with one column and one source part. -/
def patchPart (isProjectionPart : Bool) : DataPart where
  name := "all_1_1_0"
  isProjectionPart := isProjectionPart
  uuid := 0
  format_version := MERGE_TREE_DATA_MIN_FORMAT_VERSION_WITH_CUSTOM_PARTITIONING
  minmax_idx_initialized := true
  source_parts := ["all_0_0_0"]
  ttl_infos := []
  serialization_infos := []
  columns := [("x", "UInt64")]
  columns_substreams := []
  metadata_version := 0
  projection_parts := []
  rows_count := 0
  existing_rows_count := none
  modification_time := 0
  checksums := ∅
  bytes_on_disk := 0
  bytes_uncompressed_on_disk := 0
  index_granularity := []
  index := none
  default_codec := none

/-- A stream with a codec after one block of `rows` rows. -/
def streamWithRows (rows : Nat) : MergedBlockOutputStream where
  columns_list := [("x", "UInt64")]
  default_codec := some "LZ4"
  reset_columns := false
  metadata_version := 0
  writer := ⟨[(⟨[⟨"x", rows⟩]⟩, none)]⟩
  new_serialization_infos := []
  rows_count := rows

/-- The world `finalizePartAsync` starts from. -/
def startWorld (part : DataPart) : World := ⟨part, ∅, [], []⟩

theorem finalizePartAsync_staged_files_of_patch_part :
    ∃ impl w', finalizePartAsync noFault countingCollaborators (streamWithRows 3) false none none
        none (startWorld (patchPart false)) = .ok impl w' ∧
      let w₀ := (countingCollaborators.prepare (streamWithRows 3) none none
        (startWorld (patchPart false))).2
      let plan := onDiskPlan countingCollaborators.toCollaborators (streamWithRows 3) none w₀.part
      impl.written_files =
          plan.map Prod.fst ++
            [⟨"checksums.txt", countingCollaborators.writeChecksums w'.part.checksums⟩] ∧
        (∀ name, name ∈ w'.part.checksums ↔
          name ∈ w₀.checksums ∨ name ∈ (hashedFiles plan).map (·.name)) ∧
        ∀ name f, lastWrite (hashedFiles plan) name = some f →
          ∃ c, w'.part.checksums.lookup name = some c ∧
            c.file_size = f.data.length ∧ c.file_hash = countingCollaborators.hash f.data :=
  have h : finalizePartAsync noFault countingCollaborators (streamWithRows 3) false none none none
      (startWorld (patchPart false)) = _ :=
    finalizePartAsync_noFault countingCollaborators false none none none (by rfl) (by rfl)
  ⟨_, _, h, finalizePartAsync_staged_files false none none none h⟩

/-- The order of files as the spec lists it, where `source_parts_set` is staged whenever the
source-parts set is not empty. -/
def specStagedNames (co : Collaborators) (part : DataPart) (s : MergedBlockOutputStream)
    (columns_substreams : ColumnsSubstreams) : List String :=
  (if !part.isProjectionPart && part.uuid ≠ UUIDHelpers.Nil then ["uuid.txt"] else []) ++
  (if !part.isProjectionPart &&
      part.format_version ≥ MERGE_TREE_DATA_MIN_FORMAT_VERSION_WITH_CUSTOM_PARTITIONING then
    (co.partitionBytes part).toList.map (fun _ => "partition.dat") ++
      (if part.minmax_idx_initialized then
        (co.minmaxBytes part).map fun c => "minmax_" ++ c.1 ++ ".idx" else [])
   else []) ++
  (if !part.source_parts.isEmpty then ["source_parts_set"] else []) ++
  ["count.txt"] ++
  (if !part.ttl_infos.isEmpty then ["ttl.txt"] else []) ++
  (if !part.serialization_infos.isEmpty then ["serialization.json"] else []) ++
  ["columns.txt"] ++
  (if !columns_substreams.isEmpty then ["columns_substreams.txt"] else []) ++
  ["metadata_version.txt"] ++
  (if s.default_codec.isSome then ["default_compression_codec.txt"] else []) ++
  ["checksums.txt"]

/-- A projection part with a source part: `finalizePartAsync` returns without staging
`source_parts_set`, which the spec's order lists. -/
theorem projection_part_stages_no_source_parts_set :
    ∃ impl w', finalizePartAsync noFault countingCollaborators (streamWithRows 3) false none none
        none (startWorld (patchPart true)) = .ok impl w' ∧
      "source_parts_set" ∈
        specStagedNames countingCollaborators.toCollaborators (patchPart true) (streamWithRows 3) [] ∧
      "source_parts_set" ∉ impl.written_files.map (·.name) :=
  ⟨_, _, finalizePartAsync_noFault countingCollaborators false none none none (by rfl) (by rfl),
    by decide, by decide⟩

end ClickHouse.MergeTree
