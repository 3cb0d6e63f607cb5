import ClickHouse.MergeTree.Stream

set_option autoImplicit false

/-! # `finalizePartOnDisk`: the auxiliary files of a part

`MergedBlockOutputStream::finalizePartOnDisk` writes the part's metadata files and returns
their buffers, each `preFinalize`d but not yet finalized:

    uuid.txt, partition.dat, minmax_<column>.idx, source_parts_set   (not a projection part)
    count.txt, ttl.txt, serialization.json                          (hashed)
    columns.txt, columns_substreams.txt, metadata_version.txt,
    default_compression_codec.txt, checksums.txt                     (plain)

A hashed file (`write_hashed_file`) goes through a `HashingWriteBuffer`, and its size and hash
are recorded in the checksums map; a plain one (`write_plain_file`) is not recorded. Two
`LOGICAL_ERROR`s can stop it: a non-empty part whose min-max index was never initialized, and a
stream without a compression codec.

`partition.store` and `minmax_idx->store` (`MergeTreePartition::store`,
`IMergeTreeDataPart::MinMaxIndex::store`) are not under src/. They write each of their files
the way `write_hashed_file` does and return the buffers, which `finalizePartOnDisk` stages;
the model does the same with the bytes `Collaborators` gives. The other serializers, the hash
and the part writer's results are `Collaborators` too.

Statements that compose whole runs are proved in `FinalizePartAsync.lean`; this file gives each
step its run under the fault-free oracle and shows that every step refines that run.
-/

namespace ClickHouse.MergeTree

/-- What the finalization code gets from code outside `MergedBlockOutputStream.cpp`. -/
structure Collaborators where
  /-- `HashingWriteBuffer::getHash` of the bytes written through the buffer. -/
  hash : Bytes → Nat
  writeUUIDText : Nat → Bytes
  /-- The bytes `partition.store` writes to `partition.dat`; `none` when the table has no
  partition key and `store` returns `nullptr`. -/
  partitionBytes : DataPart → Option Bytes
  /-- What `minmax_idx->store` writes: per partition-key column, its escaped name and the bytes
  of `minmax_<name>.idx`. -/
  minmaxBytes : DataPart → List (String × Bytes)
  /-- `SourcePartsSetForPatch::writeBinary`. -/
  writeSourceParts : List String → Bytes
  /-- `MergeTreeDataPartTTLInfos::write`. -/
  writeTTLInfos : TTLInfos → Bytes
  /-- `SerializationInfoByName::writeJSON`. -/
  writeSerializationJSON : SerializationInfos → Bytes
  /-- `NamesAndTypesList::writeText`. -/
  writeColumnsText : NamesAndTypesList → Bytes
  /-- `ColumnsSubstreams::writeText`. -/
  writeColumnsSubstreamsText : ColumnsSubstreams → Bytes
  /-- The text of `default_codec->getFullCodecDesc()->formatWithSecretsOneLine()`. -/
  writeCodecDesc : String → Bytes
  /-- `MergeTreeDataPartChecksums::write`. -/
  writeChecksums : Checksums → Bytes
  /-- `writer->getColumnsSubstreams()`. -/
  getColumnsSubstreams : PartWriter → ColumnsSubstreams
  /-- `ColumnsSubstreams::merge(writer's, additional, column names)`. -/
  mergeSubstreams : ColumnsSubstreams → ColumnsSubstreams → List String → ColumnsSubstreams

namespace Collaborators

/-- The merged substreams `finalizePartOnDisk` writes. -/
def columnsSubstreams (co : Collaborators) (s : MergedBlockOutputStream)
    (additional_columns_substreams : Option ColumnsSubstreams) (part : DataPart) :
    ColumnsSubstreams :=
  co.mergeSubstreams (co.getColumnsSubstreams s.writer) (additional_columns_substreams.getD [])
    (part.columns.map Prod.fst)

end Collaborators

/-- `"MinMax index was not initialized for new non-empty part {}"`. -/
def minmaxNotInitialized (part : DataPart) : Error :=
  .LOGICAL_ERROR ("MinMax index was not initialized for new non-empty part " ++ part.name)

/-- `"Compression codec have to be specified for part on disk, empty for {}"`. -/
def codecNotSpecified (part : DataPart) : Error :=
  .LOGICAL_ERROR ("Compression codec have to be specified for part on disk, empty for " ++ part.name)

section Steps

variable (fails : Action → Bool) (co : Collaborators)

/-- `written_files.emplace_back(std::move(out))`. -/
def stage (f : StagedFile) : FinalizeM Unit :=
  modify fun w => { w with written_files := w.written_files ++ [f] }

/-- Stage the buffers a `store` returned, in order. -/
def stageAll (fs : List StagedFile) : FinalizeM Unit :=
  modify fun w => { w with written_files := w.written_files ++ fs }

/-- `write_hashed_file` up to staging: open the file, write `data` through a hashing buffer,
record its size and hash, and `preFinalize` the buffer. -/
def writeHashed (filename : String) (data : Bytes) : FinalizeM StagedFile := do
  issue fails (.writeFile filename)
  issue fails (.write filename data)
  modify fun w => { w with checksums := w.checksums.setFile filename data.length (co.hash data) }
  issue fails (.preFinalize filename)
  pure ⟨filename, data⟩

/-- `write_hashed_file`. -/
def writeHashedFile (filename : String) (data : Bytes) : FinalizeM Unit := do
  let f ← writeHashed fails co filename data
  stage f

/-- `write_plain_file`: open the file, write `data`, `preFinalize` and stage the buffer. -/
def writePlainFile (filename : String) (data : Bytes) : FinalizeM Unit := do
  issue fails (.writeFile filename)
  issue fails (.write filename data)
  issue fails (.preFinalize filename)
  stage ⟨filename, data⟩

/-- `partition.store`: `partition.dat`, or `nullptr` when there is no partition key. -/
def storePartition (part : DataPart) : FinalizeM (Option StagedFile) :=
  match co.partitionBytes part with
  | none => pure none
  | some data => do
    let f ← writeHashed fails co "partition.dat" data
    pure (some f)

/-- The loop of `minmax_idx->store` over the partition-key columns. -/
def storeMinMaxFiles : List (String × Bytes) → FinalizeM (List StagedFile)
  | [] => pure []
  | (column, data) :: rest => do
    let f ← writeHashed fails co ("minmax_" ++ column ++ ".idx") data
    let fs ← storeMinMaxFiles rest
    pure (f :: fs)

/-- The block of `finalizePartOnDisk` for a table with custom partitioning: the partition
value, the min-max index (or the `LOGICAL_ERROR` when it was never initialized and rows were
written), and the source-parts set of a patch part. -/
def writePartitionFiles (rows_count : Nat) (part : DataPart) : FinalizeM Unit := do
  (match ← storePartition fails co part with
   | some f => stage f
   | none => pure ())
  (if part.minmax_idx_initialized then do
      let files ← storeMinMaxFiles fails co (co.minmaxBytes part)
      stageAll files
    else if rows_count ≠ 0 then throw (minmaxNotInitialized part)
    else pure ())
  (if !part.source_parts.isEmpty then
      writeHashedFile fails co "source_parts_set" (co.writeSourceParts part.source_parts)
    else pure ())

/-- The block of `finalizePartOnDisk` for a part that is not a projection. -/
def writeNonProjectionFiles (rows_count : Nat) (part : DataPart) : FinalizeM Unit := do
  (if part.uuid ≠ UUIDHelpers.Nil then
      writeHashedFile fails co "uuid.txt" (co.writeUUIDText part.uuid)
    else pure ())
  (if part.format_version ≥ MERGE_TREE_DATA_MIN_FORMAT_VERSION_WITH_CUSTOM_PARTITIONING then
      writePartitionFiles fails co rows_count part
    else pure ())

/-- `MergedBlockOutputStream::finalizePartOnDisk`: writes the auxiliary files of the part, with
`checksums.txt` last, and returns the staged buffers. -/
def finalizePartOnDisk (s : MergedBlockOutputStream)
    (additional_columns_substreams : Option ColumnsSubstreams) : FinalizeM (List StagedFile) := do
  modify fun w => { w with written_files := [] }
  let part := (← get).part
  (if !part.isProjectionPart then writeNonProjectionFiles fails co s.rows_count part
    else pure ())
  writeHashedFile fails co "count.txt" (writeIntText s.rows_count)
  (if !part.ttl_infos.isEmpty then
      writeHashedFile fails co "ttl.txt" (co.writeTTLInfos part.ttl_infos)
    else pure ())
  (if !part.serialization_infos.isEmpty then
      writeHashedFile fails co "serialization.json" (co.writeSerializationJSON part.serialization_infos)
    else pure ())
  writePlainFile fails "columns.txt" (co.writeColumnsText part.columns)
  let columns_substreams := co.columnsSubstreams s additional_columns_substreams part
  (if !columns_substreams.isEmpty then do
      writePlainFile fails "columns_substreams.txt" (co.writeColumnsSubstreamsText columns_substreams)
      modify fun w => w.setPart (w.part.setColumnsSubstreams columns_substreams)
    else pure ())
  writePlainFile fails "metadata_version.txt" (writeIntText part.metadata_version)
  (match s.default_codec with
   | some codec => writePlainFile fails "default_compression_codec.txt" (co.writeCodecDesc codec)
   | none => throw (codecNotSpecified part))
  writePlainFile fails "checksums.txt" (co.writeChecksums (← get).checksums)
  pure (← get).written_files

end Steps

/-! ## Every step refines its fault-free run -/

section Refinement

variable (fails : Action → Bool) (co : Collaborators)

theorem refines_writeHashed (filename : String) (data : Bytes) :
    Refines (writeHashed fails co filename data) (writeHashed noFault co filename data) :=
  .bind (.issue fails _) fun _ => .bind (.issue fails _) fun _ =>
    .bind (.refl _) fun _ => .bind (.issue fails _) fun _ => .refl _

theorem refines_writeHashedFile (filename : String) (data : Bytes) :
    Refines (writeHashedFile fails co filename data) (writeHashedFile noFault co filename data) :=
  .bind (refines_writeHashed fails co filename data) fun _ => .refl _

theorem refines_writePlainFile (filename : String) (data : Bytes) :
    Refines (writePlainFile fails filename data) (writePlainFile noFault filename data) :=
  .bind (.issue fails _) fun _ => .bind (.issue fails _) fun _ =>
    .bind (.issue fails _) fun _ => .refl _

theorem refines_storePartition (part : DataPart) :
    Refines (storePartition fails co part) (storePartition noFault co part) := by
  unfold storePartition
  split
  · exact .refl _
  · exact .bind (refines_writeHashed fails co _ _) fun _ => .refl _

theorem refines_storeMinMaxFiles (columns : List (String × Bytes)) :
    Refines (storeMinMaxFiles fails co columns) (storeMinMaxFiles noFault co columns) := by
  induction columns with
  | nil => exact .refl _
  | cons c cs ih =>
    exact .bind (refines_writeHashed fails co _ _) fun _ => .bind ih fun _ => .refl _

theorem refines_writePartitionFiles (rows_count : Nat) (part : DataPart) :
    Refines (writePartitionFiles fails co rows_count part)
      (writePartitionFiles noFault co rows_count part) := by
  refine .bind (refines_storePartition fails co part) fun _ => .bind (.refl _) fun _ =>
    .bind (.ite (.bind (refines_storeMinMaxFiles fails co _) fun _ => .refl _) (.refl _)) fun _ =>
      .ite (refines_writeHashedFile fails co _ _) (.refl _)

theorem refines_writeNonProjectionFiles (rows_count : Nat) (part : DataPart) :
    Refines (writeNonProjectionFiles fails co rows_count part)
      (writeNonProjectionFiles noFault co rows_count part) :=
  .bind (.ite (refines_writeHashedFile fails co _ _) (.refl _)) fun _ =>
    .ite (refines_writePartitionFiles fails co rows_count part) (.refl _)

/-- When `finalizePartOnDisk` returns, it returned as it does when no action fails. -/
theorem refines_finalizePartOnDisk (s : MergedBlockOutputStream)
    (additional_columns_substreams : Option ColumnsSubstreams) :
    Refines (finalizePartOnDisk fails co s additional_columns_substreams)
      (finalizePartOnDisk noFault co s additional_columns_substreams) := by
  unfold finalizePartOnDisk
  refine .bind (.refl _) fun _ => .bind (.refl _) fun _ =>
    .bind (.ite (refines_writeNonProjectionFiles fails co _ _) (.refl _)) fun _ =>
    .bind (refines_writeHashedFile fails co _ _) fun _ =>
    .bind (.ite (refines_writeHashedFile fails co _ _) (.refl _)) fun _ =>
    .bind (.ite (refines_writeHashedFile fails co _ _) (.refl _)) fun _ =>
    .bind (refines_writePlainFile fails _ _) fun _ =>
    .bind (.ite (.bind (refines_writePlainFile fails _ _) fun _ => .refl _) (.refl _)) fun _ =>
    .bind (refines_writePlainFile fails _ _) fun _ => .bind ?_ fun _ =>
    .bind (.refl _) fun _ => .bind (refines_writePlainFile fails _ _) fun _ => .refl _
  split
  · exact refines_writePlainFile fails _ _
  · exact .refl _

end Refinement

/-! ## Whether it returns or throws, it only stages files -/

section Staging

variable (fails : Action → Bool) (co : Collaborators)

theorem stages_writeHashed (filename : String) (data : Bytes) :
    Appends (·.isStaging = true) (writeHashed fails co filename data) :=
  .bind (.of_issue fails rfl) fun _ => .bind (.of_issue fails rfl) fun _ =>
    .bind (.of_modify fun _ => rfl) fun _ => .bind (.of_issue fails rfl) fun _ => .of_pure _

theorem stages_writeHashedFile (filename : String) (data : Bytes) :
    Appends (·.isStaging = true) (writeHashedFile fails co filename data) :=
  .bind (stages_writeHashed fails co filename data) fun _ => .of_modify fun _ => rfl

theorem stages_writePlainFile (filename : String) (data : Bytes) :
    Appends (·.isStaging = true) (writePlainFile fails filename data) :=
  .bind (.of_issue fails rfl) fun _ => .bind (.of_issue fails rfl) fun _ =>
    .bind (.of_issue fails rfl) fun _ => .of_modify fun _ => rfl

theorem stages_storePartition (part : DataPart) :
    Appends (·.isStaging = true) (storePartition fails co part) := by
  unfold storePartition
  split
  · exact .of_pure _
  · exact .bind (stages_writeHashed fails co _ _) fun _ => .of_pure _

theorem stages_storeMinMaxFiles (columns : List (String × Bytes)) :
    Appends (·.isStaging = true) (storeMinMaxFiles fails co columns) := by
  induction columns with
  | nil => exact .of_pure _
  | cons c cs ih =>
    exact .bind (stages_writeHashed fails co _ _) fun _ => .bind ih fun _ => .of_pure _

theorem stages_writePartitionFiles (rows_count : Nat) (part : DataPart) :
    Appends (·.isStaging = true) (writePartitionFiles fails co rows_count part) := by
  refine .bind (stages_storePartition fails co part) fun f => .bind ?_ fun _ =>
    .bind (.ite (.bind (stages_storeMinMaxFiles fails co _) fun _ => .of_modify fun _ => rfl)
      (.ite (.of_throw _) (.of_pure _))) fun _ =>
      .ite (stages_writeHashedFile fails co _ _) (.of_pure _)
  cases f
  · exact .of_pure _
  · exact .of_modify fun _ => rfl

theorem stages_writeNonProjectionFiles (rows_count : Nat) (part : DataPart) :
    Appends (·.isStaging = true) (writeNonProjectionFiles fails co rows_count part) :=
  .bind (.ite (stages_writeHashedFile fails co _ _) (.of_pure _)) fun _ =>
    .ite (stages_writePartitionFiles fails co rows_count part) (.of_pure _)

/-- **`finalizePartOnDisk` only stages.** Whether it returns or throws, it opens, writes and
`preFinalize`s files and does nothing else to storage: it finalizes, syncs and cancels
nothing. -/
theorem stages_finalizePartOnDisk (s : MergedBlockOutputStream)
    (additional_columns_substreams : Option ColumnsSubstreams) :
    Appends (·.isStaging = true) (finalizePartOnDisk fails co s additional_columns_substreams) := by
  unfold finalizePartOnDisk
  refine .bind (.of_modify fun _ => rfl) fun _ => .bind .of_get fun _ =>
    .bind (.ite (stages_writeNonProjectionFiles fails co _ _) (.of_pure _)) fun _ =>
    .bind (stages_writeHashedFile fails co _ _) fun _ =>
    .bind (.ite (stages_writeHashedFile fails co _ _) (.of_pure _)) fun _ =>
    .bind (.ite (stages_writeHashedFile fails co _ _) (.of_pure _)) fun _ =>
    .bind (stages_writePlainFile fails _ _) fun _ =>
    .bind (.ite (.bind (stages_writePlainFile fails _ _) fun _ => .of_modify fun _ => rfl)
      (.of_pure _)) fun _ =>
    .bind (stages_writePlainFile fails _ _) fun _ => .bind ?_ fun _ =>
    .bind .of_get fun _ => .bind (stages_writePlainFile fails _ _) fun _ =>
    .bind .of_get fun _ => .of_pure _
  split
  · exact stages_writePlainFile fails _ _
  · exact .of_throw _

end Staging

/-! ## Runs without faults

Without a fault every write opens, writes and `preFinalize`s its file, in that order; a hashed
one also records the file's size and hash. `World.writeFiles` does this for a list of files, and
the plans below list the files `finalizePartOnDisk` writes, in the order of the source. -/

namespace World

/-- The actions of writing a file: open it, write its bytes, `preFinalize` it. -/
def fileActions (f : StagedFile) : List Action :=
  [.writeFile f.name, .write f.name f.data, .preFinalize f.name]

/-- A file written and staged when no action raises, through the hashing buffer or not. -/
def writeFile (co : Collaborators) (w : World) (f : StagedFile) (hashed : Bool) : World :=
  { w with
    checksums := if hashed then w.checksums.setFile f.name f.data.length (co.hash f.data)
      else w.checksums
    written_files := w.written_files ++ [f]
    trace := w.trace ++ fileActions f }

/-- The files of a plan written and staged in order. -/
def writeFiles (co : Collaborators) (w : World) : List (StagedFile × Bool) → World
  | [] => w
  | (f, hashed) :: rest => (w.writeFile co f hashed).writeFiles co rest

variable (co : Collaborators)

@[simp] theorem writeFiles_nil (w : World) : w.writeFiles co [] = w := rfl

@[simp] theorem writeFiles_cons (w : World) (f : StagedFile) (hashed : Bool)
    (rest : List (StagedFile × Bool)) :
    w.writeFiles co ((f, hashed) :: rest) = (w.writeFile co f hashed).writeFiles co rest := rfl

@[simp] theorem writeFiles_append (w : World) (p q : List (StagedFile × Bool)) :
    w.writeFiles co (p ++ q) = (w.writeFiles co p).writeFiles co q := by
  induction p generalizing w with
  | nil => rfl
  | cons f p ih => exact ih _

@[simp] theorem writeFiles_part (w : World) (p : List (StagedFile × Bool)) :
    (w.writeFiles co p).part = w.part := by
  induction p generalizing w with
  | nil => rfl
  | cons f p ih => exact ih _

@[simp] theorem writeFiles_written_files (w : World) (p : List (StagedFile × Bool)) :
    (w.writeFiles co p).written_files = w.written_files ++ p.map Prod.fst := by
  induction p generalizing w with
  | nil => simp
  | cons f p ih => obtain ⟨f, h⟩ := f; simp [ih, writeFile]

@[simp] theorem writeFiles_trace (w : World) (p : List (StagedFile × Bool)) :
    (w.writeFiles co p).trace = w.trace ++ p.flatMap fun f => fileActions f.1 := by
  induction p generalizing w with
  | nil => simp
  | cons f p ih => obtain ⟨f, h⟩ := f; simp [ih, writeFile]

theorem writeFile_part (w : World) (f : StagedFile) (hashed : Bool) :
    (w.writeFile co f hashed).part = w.part := rfl

theorem writeFile_setPart (w : World) (part : DataPart) (f : StagedFile) (hashed : Bool) :
    (w.setPart part).writeFile co f hashed = (w.writeFile co f hashed).setPart part := rfl

/-- Staging, after writing without staging, the files a plan wrote. -/
theorem restage (w : World) (p : List (StagedFile × Bool)) :
    { w.writeFiles co p with written_files := w.written_files ++ p.map Prod.fst } =
      w.writeFiles co p := by
  rw [← writeFiles_written_files]

theorem writeFiles_setWrittenFiles (w : World) (files : List StagedFile)
    (p : List (StagedFile × Bool)) :
    ({ w with written_files := files } : World).writeFiles co p =
      { w.writeFiles co p with written_files := files ++ p.map Prod.fst } := by
  induction p generalizing w files with
  | nil => simp
  | cons f p ih =>
    have := ih (w.writeFile co f.1 f.2) (files ++ [f.1])
    simpa [writeFile] using this

end World

/-! ### The checksums map after a plan -/

/-- The files of a plan written through the hashing buffer, in order. -/
def hashedFiles (p : List (StagedFile × Bool)) : List StagedFile :=
  p.filterMap fun f => if f.2 then some f.1 else none

/-- The last file of a list written under the name. -/
def lastWrite (fs : List StagedFile) (name : String) : Option StagedFile :=
  fs.reverse.find? (·.name == name)

@[simp] theorem hashedFiles_nil : hashedFiles [] = [] := rfl

@[simp] theorem hashedFiles_cons (f : StagedFile) (hashed : Bool) (p : List (StagedFile × Bool)) :
    hashedFiles ((f, hashed) :: p) = if hashed then f :: hashedFiles p else hashedFiles p := by
  cases hashed <;> rfl

theorem lastWrite_cons (f : StagedFile) (fs : List StagedFile) (name : String) :
    lastWrite (f :: fs) name = (lastWrite fs name).or (if f.name = name then some f else none) := by
  simp only [lastWrite, List.reverse_cons, List.find?_append, List.find?_singleton, beq_iff_eq]

theorem lastWrite_eq_none_iff (fs : List StagedFile) (name : String) :
    lastWrite fs name = none ↔ name ∉ fs.map (·.name) := by
  simp [lastWrite, List.find?_eq_none]

namespace World

variable (co : Collaborators)

/-- A hashed write adds its name to the map and no other; a plain one adds nothing. -/
theorem mem_writeFiles_checksums (w : World) (p : List (StagedFile × Bool)) (name : String) :
    name ∈ (w.writeFiles co p).checksums ↔
      name ∈ w.checksums ∨ name ∈ (hashedFiles p).map (·.name) := by
  induction p generalizing w with
  | nil => simp
  | cons f p ih =>
    obtain ⟨f, hashed⟩ := f
    cases hashed <;>
      simp [ih, writeFile, Checksums.mem_setFile, or_assoc, or_left_comm]

/-- A name no hashed write of the plan uses keeps its entry. -/
theorem lookup_writeFiles_checksums_of_not_mem (w : World) (p : List (StagedFile × Bool))
    {name : String} (h : name ∉ (hashedFiles p).map (·.name)) :
    (w.writeFiles co p).checksums.lookup name = w.checksums.lookup name := by
  induction p generalizing w with
  | nil => rfl
  | cons f p ih =>
    obtain ⟨f, hashed⟩ := f
    cases hashed
    · rw [writeFiles_cons, ih _ (by simpa using h)]
      rfl
    · simp only [hashedFiles_cons, ite_true, List.map_cons, List.mem_cons, not_or] at h
      rw [writeFiles_cons, ih _ h.2]
      exact Checksums.lookup_setFile_ne _ _ _ h.1

/-- The entry of a name holds the size and hash of the bytes of the last hashed write under it. -/
theorem lookup_writeFiles_checksums (w : World) (p : List (StagedFile × Bool)) {name : String}
    {f : StagedFile} (h : lastWrite (hashedFiles p) name = some f) :
    ∃ c, (w.writeFiles co p).checksums.lookup name = some c ∧
      c.file_size = f.data.length ∧ c.file_hash = co.hash f.data := by
  induction p generalizing w with
  | nil => simp [lastWrite] at h
  | cons g p ih =>
    obtain ⟨g, hashed⟩ := g
    cases hashed
    · exact ih _ (by simpa using h)
    · simp only [hashedFiles_cons, ite_true, lastWrite_cons] at h
      cases hl : lastWrite (hashedFiles p) name with
      | some f' => rw [hl] at h; cases h; exact ih _ hl
      | none =>
        rw [hl, Option.none_or] at h
        split at h
        · cases h
          rw [writeFiles_cons, lookup_writeFiles_checksums_of_not_mem _ _ _
            ((lastWrite_eq_none_iff _ _).mp hl)]
          simp [writeFile, *]
        · cases h

end World

section Plans

variable (co : Collaborators)

/-- `partition.dat`, when the table has a partition key. -/
def partitionDatPlan (part : DataPart) : List (StagedFile × Bool) :=
  (co.partitionBytes part).toList.map fun d => (⟨"partition.dat", d⟩, true)

/-- The files `minmax_idx->store` writes, one per partition-key column. -/
def minmaxPlan (part : DataPart) : List (StagedFile × Bool) :=
  (co.minmaxBytes part).map fun c => (⟨"minmax_" ++ c.1 ++ ".idx", c.2⟩, true)

/-- The files of the custom-partitioning block of `finalizePartOnDisk` when it returns. -/
def partitionPlan (part : DataPart) : List (StagedFile × Bool) :=
  partitionDatPlan co part ++
  (if part.minmax_idx_initialized then minmaxPlan co part else []) ++
  (if !part.source_parts.isEmpty then
    [(⟨"source_parts_set", co.writeSourceParts part.source_parts⟩, true)] else [])

/-- `uuid.txt`, when the part has a UUID. -/
def uuidPlan (part : DataPart) : List (StagedFile × Bool) :=
  if part.uuid ≠ UUIDHelpers.Nil then [(⟨"uuid.txt", co.writeUUIDText part.uuid⟩, true)] else []

/-- The files of the non-projection block of `finalizePartOnDisk` when it returns. -/
def nonProjectionPlan (part : DataPart) : List (StagedFile × Bool) :=
  uuidPlan co part ++
  (if part.format_version ≥ MERGE_TREE_DATA_MIN_FORMAT_VERSION_WITH_CUSTOM_PARTITIONING then
    partitionPlan co part else [])

/-- The files `finalizePartOnDisk` writes before `checksums.txt` when it returns, in order,
each with whether it is hashed. -/
def onDiskPlan (s : MergedBlockOutputStream) (additional_columns_substreams : Option ColumnsSubstreams)
    (part : DataPart) : List (StagedFile × Bool) :=
  (if !part.isProjectionPart then nonProjectionPlan co part else []) ++
  [(⟨"count.txt", writeIntText s.rows_count⟩, true)] ++
  (if !part.ttl_infos.isEmpty then [(⟨"ttl.txt", co.writeTTLInfos part.ttl_infos⟩, true)]
    else []) ++
  (if !part.serialization_infos.isEmpty then
    [(⟨"serialization.json", co.writeSerializationJSON part.serialization_infos⟩, true)] else []) ++
  [(⟨"columns.txt", co.writeColumnsText part.columns⟩, false)] ++
  (let cs := co.columnsSubstreams s additional_columns_substreams part
   if !cs.isEmpty then [(⟨"columns_substreams.txt", co.writeColumnsSubstreamsText cs⟩, false)]
   else []) ++
  [(⟨"metadata_version.txt", writeIntText part.metadata_version⟩, false)] ++
  s.default_codec.toList.map fun c => (⟨"default_compression_codec.txt", co.writeCodecDesc c⟩, false)

/-- The min-max `LOGICAL_ERROR` is thrown: the part is not a projection, its table has custom
partitioning, its min-max index was never initialized and rows were written. -/
def minmaxFails (rows_count : Nat) (part : DataPart) : Bool :=
  !part.isProjectionPart &&
    decide (part.format_version ≥ MERGE_TREE_DATA_MIN_FORMAT_VERSION_WITH_CUSTOM_PARTITIONING) &&
    !part.minmax_idx_initialized && rows_count != 0

end Plans

section NoFault

variable (co : Collaborators)

theorem writeHashed_noFault (filename : String) (data : Bytes) (w : World) :
    writeHashed noFault co filename data w =
      .ok ⟨filename, data⟩
        { w.writeFile co ⟨filename, data⟩ true with written_files := w.written_files } := by
  simp [writeHashed, World.writeFile, World.fileActions]

theorem writeHashedFile_noFault (filename : String) (data : Bytes) (w : World) :
    writeHashedFile noFault co filename data w = .ok () (w.writeFile co ⟨filename, data⟩ true) := by
  simp [writeHashedFile, writeHashed_noFault, stage, World.writeFile]

theorem writePlainFile_noFault (filename : String) (data : Bytes) (w : World) :
    writePlainFile noFault filename data w = .ok () (w.writeFile co ⟨filename, data⟩ false) := by
  simp [writePlainFile, stage, World.writeFile, World.fileActions]

/-- A conditional hashed write: the file is written exactly when the condition holds. -/
theorem ite_writeHashedFile_noFault (c : Prop) [Decidable c] (filename : String) (data : Bytes)
    (w : World) :
    (if c then writeHashedFile noFault co filename data else pure ()) w =
      .ok () (w.writeFiles co (if c then [(⟨filename, data⟩, true)] else [])) := by
  split <;> simp [writeHashedFile_noFault]

theorem storePartition_noFault (part : DataPart) (w : World) :
    storePartition noFault co part w =
      .ok ((co.partitionBytes part).map (StagedFile.mk "partition.dat"))
        { w.writeFiles co (partitionDatPlan co part) with written_files := w.written_files } := by
  unfold storePartition partitionDatPlan
  cases co.partitionBytes part <;> simp [writeHashed_noFault]

theorem storeMinMaxFiles_noFault (columns : List (String × Bytes)) (w : World) :
    storeMinMaxFiles noFault co columns w =
      .ok (columns.map fun c => ⟨"minmax_" ++ c.1 ++ ".idx", c.2⟩)
        { w.writeFiles co (columns.map fun c => (⟨"minmax_" ++ c.1 ++ ".idx", c.2⟩, true)) with
          written_files := w.written_files } := by
  induction columns generalizing w with
  | nil => simp [storeMinMaxFiles]
  | cons c cs ih =>
    simp [storeMinMaxFiles, writeHashed_noFault, ih, World.writeFiles_setWrittenFiles]

theorem writePartitionFiles_noFault (rows_count : Nat) (part : DataPart) (w : World) :
    writePartitionFiles noFault co rows_count part w =
      if !part.minmax_idx_initialized && rows_count != 0 then
        .error (minmaxNotInitialized part) (w.writeFiles co (partitionDatPlan co part))
      else .ok () (w.writeFiles co (partitionPlan co part)) := by
  have hdat : (match (co.partitionBytes part).map (StagedFile.mk "partition.dat") with
      | some f => stage f | none => pure ())
      { w.writeFiles co (partitionDatPlan co part) with written_files := w.written_files } =
      .ok () (w.writeFiles co (partitionDatPlan co part)) := by
    unfold partitionDatPlan; cases co.partitionBytes part <;> rfl
  have hmm : ∀ w' : World, (storeMinMaxFiles noFault co (co.minmaxBytes part) >>= stageAll) w' =
      .ok () (w'.writeFiles co (minmaxPlan co part)) := by
    intro w'
    have := World.restage co w' (minmaxPlan co part)
    simp only [minmaxPlan, List.map_map, Function.comp_def] at this
    simp only [bind_apply, storeMinMaxFiles_noFault, stageAll, modify_apply, minmaxPlan, this]
  unfold writePartitionFiles partitionPlan
  simp only [bind_apply, storePartition_noFault, hdat]
  cases hi : part.minmax_idx_initialized <;> by_cases hr : rows_count = 0 <;>
    simp only [hmm, hr, ite_true, ite_false, Bool.not_true, Bool.not_false, Bool.true_and,
      Bool.false_and, bne_iff_ne, ne_eq, not_true, not_false_eq_true, decide_True, decide_False,
      throw_apply, pure_apply, ite_writeHashedFile_noFault, World.writeFiles_append,
      World.writeFiles_nil, List.append_nil, Bool.false_eq_true]

theorem writeNonProjectionFiles_noFault (rows_count : Nat) (part : DataPart) (w : World) :
    writeNonProjectionFiles noFault co rows_count part w =
      if decide (part.format_version ≥ MERGE_TREE_DATA_MIN_FORMAT_VERSION_WITH_CUSTOM_PARTITIONING) &&
          !part.minmax_idx_initialized && rows_count != 0 then
        .error (minmaxNotInitialized part) (w.writeFiles co (uuidPlan co part ++ partitionDatPlan co part))
      else .ok () (w.writeFiles co (nonProjectionPlan co part)) := by
  unfold writeNonProjectionFiles nonProjectionPlan uuidPlan
  simp only [bind_apply, ite_writeHashedFile_noFault]
  by_cases hf : part.format_version ≥ MERGE_TREE_DATA_MIN_FORMAT_VERSION_WITH_CUSTOM_PARTITIONING
  · simp only [hf, ite_true, decide_True, Bool.true_and, writePartitionFiles_noFault]
    split <;> simp [World.writeFiles_append]
  · simp [hf]

/-- The world `finalizePartOnDisk` reaches from `w` before the codec check: the plan written
and staged, and the merged substreams set on the part when they are not empty. -/
def onDiskStaged (s : MergedBlockOutputStream)
    (additional_columns_substreams : Option ColumnsSubstreams) (w : World) : World :=
  let w₁ := ({ w with written_files := [] } : World).writeFiles co
    (onDiskPlan co s additional_columns_substreams w.part)
  let cs := co.columnsSubstreams s additional_columns_substreams w.part
  if !cs.isEmpty then w₁.setPart (w₁.part.setColumnsSubstreams cs) else w₁

/-- The world after `finalizePartOnDisk` returned from `w`: `checksums.txt` written last, with
the map as the plan left it. -/
def onDiskWorld (s : MergedBlockOutputStream) (additional_columns_substreams : Option ColumnsSubstreams)
    (w : World) : World :=
  let w₂ := onDiskStaged co s additional_columns_substreams w
  w₂.writeFile co ⟨"checksums.txt", co.writeChecksums w₂.checksums⟩ false

theorem onDiskWorld_checksums (s : MergedBlockOutputStream)
    (additional_columns_substreams : Option ColumnsSubstreams) (w : World) :
    (onDiskWorld co s additional_columns_substreams w).checksums =
      (w.writeFiles co (onDiskPlan co s additional_columns_substreams w.part)).checksums := by
  unfold onDiskWorld onDiskStaged
  dsimp only
  split <;> simp [World.writeFiles_setWrittenFiles, World.writeFile]

/-- `finalizePartOnDisk` stages the plan's files and `checksums.txt` last, which holds the map
as it ends. -/
theorem onDiskWorld_written_files (s : MergedBlockOutputStream)
    (additional_columns_substreams : Option ColumnsSubstreams) (w : World) :
    (onDiskWorld co s additional_columns_substreams w).written_files =
      (onDiskPlan co s additional_columns_substreams w.part).map Prod.fst ++
        [⟨"checksums.txt", co.writeChecksums (onDiskWorld co s additional_columns_substreams w).checksums⟩] := by
  unfold onDiskWorld onDiskStaged
  dsimp only
  split <;> simp [World.writeFile]

theorem onDiskWorld_part (s : MergedBlockOutputStream)
    (additional_columns_substreams : Option ColumnsSubstreams) (w : World) :
    (onDiskWorld co s additional_columns_substreams w).part =
      let cs := co.columnsSubstreams s additional_columns_substreams w.part
      if !cs.isEmpty then w.part.setColumnsSubstreams cs else w.part := by
  unfold onDiskWorld onDiskStaged
  dsimp only
  split <;> simp [World.writeFile_part]

theorem ite_writeNonProjectionFiles_noFault {rows_count : Nat} {part : DataPart}
    (hm : minmaxFails rows_count part = false) (w : World) :
    (if !part.isProjectionPart then writeNonProjectionFiles noFault co rows_count part
      else pure ()) w =
      .ok () (w.writeFiles co (if !part.isProjectionPart then nonProjectionPlan co part else [])) := by
  cases hp : part.isProjectionPart
  · simp only [minmaxFails, hp, Bool.not_false, Bool.true_and] at hm
    simp [writeNonProjectionFiles_noFault, hm]
  · rfl

/-- **`finalizePartOnDisk` without a fault.** Unless the min-max check throws, it writes the
plan; then it writes `checksums.txt`, or throws when the stream has no codec. -/
theorem finalizePartOnDisk_noFault {s : MergedBlockOutputStream}
    {additional_columns_substreams : Option ColumnsSubstreams} {w : World}
    (hm : minmaxFails s.rows_count w.part = false) :
    finalizePartOnDisk noFault co s additional_columns_substreams w =
      if s.default_codec.isSome then
        .ok (onDiskWorld co s additional_columns_substreams w).written_files
          (onDiskWorld co s additional_columns_substreams w)
      else .error (codecNotSpecified w.part) (onDiskStaged co s additional_columns_substreams w) := by
  unfold finalizePartOnDisk onDiskWorld onDiskStaged onDiskPlan
  simp only [bind_apply, modify_apply, get_apply, ite_writeNonProjectionFiles_noFault co hm,
    writeHashedFile_noFault, ite_writeHashedFile_noFault, writePlainFile_noFault co]
  cases s.default_codec <;>
    cases (co.columnsSubstreams s additional_columns_substreams w.part).isEmpty <;>
    simp only [Option.isSome_some, Option.isSome_none, Bool.not_false, Bool.not_true, ite_true,
      ite_false, Bool.false_eq_true, bind_apply, writePlainFile_noFault co, modify_apply,
      pure_apply, throw_apply, World.writeFiles_append, World.writeFiles_cons, World.writeFiles_nil,
      Option.toList_some, Option.toList_none, List.map_cons, List.map_nil, List.append_assoc,
      List.cons_append, List.nil_append, List.append_nil, World.writeFile_part,
      World.writeFiles_part, World.writeFile_setPart]

/-- When the min-max check fails, `finalizePartOnDisk` throws after `uuid.txt` and
`partition.dat`. -/
theorem finalizePartOnDisk_noFault_minmax {s : MergedBlockOutputStream}
    {additional_columns_substreams : Option ColumnsSubstreams} {w : World}
    (hm : minmaxFails s.rows_count w.part = true) :
    finalizePartOnDisk noFault co s additional_columns_substreams w =
      .error (minmaxNotInitialized w.part)
        (({ w with written_files := [] } : World).writeFiles co
          (uuidPlan co w.part ++ partitionDatPlan co w.part)) := by
  simp only [minmaxFails, Bool.and_eq_true, Bool.not_eq_true', decide_eq_true_eq, bne_iff_ne,
    ne_eq] at hm
  obtain ⟨⟨⟨hp, hf⟩, hi⟩, hr⟩ := hm
  unfold finalizePartOnDisk
  simp [writeNonProjectionFiles_noFault, hp, hf, hi, hr]

end NoFault

end ClickHouse.MergeTree
