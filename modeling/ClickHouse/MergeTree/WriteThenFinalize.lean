import ClickHouse.MergeTree.FinalizePartAsync

set_option autoImplicit false

/-! # Writing a part, then finalizing it

The rows a stream counts while its blocks are written are what `finalizePartAsync` records:
the part's `rows_count`, the text of `count.txt`, and the `existing_rows_count` of a part that
has none. They also decide whether the min-max check throws. The statements here are about a
whole run of a new stream: the writes of `Stream.lean`, then one `finalizePartAsync`.
-/

namespace ClickHouse.MergeTree

/-- A **fresh** stream: no rows counted, nothing handed to the part writer or to the
serialization statistics. The members' initial values are in `MergedBlockOutputStream.h`. -/
def MergedBlockOutputStream.Fresh (s : MergedBlockOutputStream) : Prop :=
  s.rows_count = 0 ∧ s.writer.written = [] ∧ s.new_serialization_infos = []

theorem MergedBlockOutputStream.Fresh.afterWrites {s : MergedBlockOutputStream} (h : s.Fresh)
    (calls : List WriteCall) :
    (s.afterWrites calls).rows_count = rowsOf calls ∧
      (s.afterWrites calls).writer.written = (nonEmpty calls).map (fun c => (c.block, c.permutation)) ∧
      (s.afterWrites calls).new_serialization_infos =
        if s.reset_columns then (nonEmpty calls).map (·.block) else [] := by
  obtain ⟨hr, hw, hn⟩ := h
  simp [MergedBlockOutputStream.afterWrites, hr, hw, hn]

/-! ## What `finalizePartAsync` records of the rows -/

section Rows

variable (co : PartCollaborators) (s : MergedBlockOutputStream) (sync : Bool)
  (total_columns_list : Option NamesAndTypesList) (additional_column_checksums : Option Checksums)
  (additional_columns_substreams : Option ColumnsSubstreams)

theorem stagedWorld_existing_rows_count (w : World) :
    (co.stagedWorld s total_columns_list additional_column_checksums additional_columns_substreams
      w).part.existing_rows_count = w.part.existing_rows_count := by
  have hprep : (co.prepare s total_columns_list additional_column_checksums w).2.part.existing_rows_count =
      w.part.existing_rows_count := by
    unfold PartCollaborators.prepare; split <;> rfl
  rw [PartCollaborators.stagedWorld, onDiskWorld_part, ← hprep]
  dsimp only
  split <;> rfl

variable {s}

/-- When `finalizePartAsync` returns, under any oracle, the part has the stream's row count,
`count.txt` holds its decimal text, and a part without `existing_rows_count` gets the row
count there too. -/
theorem finalizePartAsync_rows {fails : Action → Bool} {w w' : World} {impl : Impl}
    (h : finalizePartAsync fails co s sync total_columns_list additional_column_checksums
      additional_columns_substreams w = .ok impl w') :
    w'.part.rows_count = s.rows_count ∧
      (⟨"count.txt", writeIntText s.rows_count⟩ : StagedFile) ∈ impl.written_files ∧
      w'.part.existing_rows_count = some (w.part.existing_rows_count.getD s.rows_count) := by
  obtain ⟨hm, hc, h'⟩ := finalizePartAsync_returns co sync total_columns_list
    additional_column_checksums additional_columns_substreams h
  rw [finalizePartAsync_noFault co sync total_columns_list additional_column_checksums
    additional_columns_substreams hm hc] at h'
  cases h'
  refine ⟨rfl, ?_, ?_⟩
  · rw [PartCollaborators.stagedWorld, onDiskWorld_written_files]
    simp only [onDiskPlan, List.map_append, List.mem_append, List.map_cons, List.mem_cons,
      true_or, or_true]
  · simp only [World.setPart_part, PartCollaborators.finalizedPart_existing_rows_count,
      stagedWorld_existing_rows_count]

end Rows

/-- **Writes, then `finalizePartAsync`.** On a fresh stream, well-formed writes return; the
stream counts the rows of all blocks, and the part writer (and, with `reset_columns`, the
statistics) received exactly the non-empty blocks, in call order, with their permutations. A
`finalizePartAsync` that then returns records that count as the part's `rows_count`, in
`count.txt` as its decimal digits, and as `existing_rows_count` when the part had none. A ragged block raises with
the stream as the writes before it left it. -/
theorem writes_then_finalize_rows {s₀ : MergedBlockOutputStream} (h₀ : s₀.Fresh)
    (calls : List WriteCall) :
    ((∀ c ∈ calls, c.block.WellFormed) →
      runWrites calls s₀ = .ok () (s₀.afterWrites calls) ∧
      (s₀.afterWrites calls).rows_count = rowsOf calls ∧
      (s₀.afterWrites calls).writer.written =
        (nonEmpty calls).map (fun c => (c.block, c.permutation)) ∧
      (s₀.afterWrites calls).new_serialization_infos =
        (if s₀.reset_columns then (nonEmpty calls).map (·.block) else []) ∧
      ∀ (fails : Action → Bool) (co : PartCollaborators) (sync : Bool)
        (total_columns_list : Option NamesAndTypesList)
        (additional_column_checksums : Option Checksums)
        (additional_columns_substreams : Option ColumnsSubstreams) (w w' : World) (impl : Impl),
        finalizePartAsync fails co (s₀.afterWrites calls) sync total_columns_list
            additional_column_checksums additional_columns_substreams w = .ok impl w' →
          w'.part.rows_count = rowsOf calls ∧
          (⟨"count.txt", (WriteHelpers.decimalText (rowsOf calls)).map Char.toUInt8⟩ : StagedFile) ∈
            impl.written_files ∧
          (w.part.existing_rows_count = none →
            w'.part.existing_rows_count = some (rowsOf calls))) ∧
    ∀ pre c post, calls = pre ++ c :: post → (∀ c ∈ pre, c.block.WellFormed) →
      ¬ c.block.WellFormed → ∃ e, runWrites calls s₀ = .error e (s₀.afterWrites pre) := by
  obtain ⟨hrows, hwritten, hinfos⟩ := h₀.afterWrites calls
  refine ⟨fun hwf => ⟨runWrites_of_wellFormed calls hwf s₀, hrows, hwritten, hinfos, ?_⟩, ?_⟩
  · intro fails co sync total_columns_list additional_column_checksums
      additional_columns_substreams w w' impl h
    obtain ⟨hr, hcount, hexisting⟩ := finalizePartAsync_rows co sync total_columns_list
      additional_column_checksums additional_columns_substreams h
    rw [hrows, writeIntText_natCast] at hcount
    rw [hrows] at hr hexisting
    exact ⟨hr, hcount, fun hnone => by rw [hexisting, hnone]; rfl⟩
  · rintro pre c post rfl hpre hc
    exact runWrites_of_not_wellFormed pre c post hpre hc s₀

/-- A new stream with a codec. -/
def newStream (reset_columns : Bool) : MergedBlockOutputStream where
  columns_list := [("x", "UInt64")]
  default_codec := some "LZ4"
  reset_columns := reset_columns
  metadata_version := 0
  writer := ⟨[]⟩
  new_serialization_infos := []
  rows_count := 0

/-- Two non-empty blocks around an empty one. -/
def threeWrites : List WriteCall :=
  [.write ⟨[⟨"x", 2⟩]⟩, .writeWithPermutation ⟨[⟨"x", 0⟩]⟩ [], .write ⟨[⟨"x", 3⟩]⟩]

theorem writes_then_finalize_rows_of_new_stream :
    (newStream true).Fresh ∧ (∀ c ∈ threeWrites, c.block.WellFormed) ∧
    (((∀ c ∈ threeWrites, c.block.WellFormed) →
      runWrites threeWrites (newStream true) = .ok () ((newStream true).afterWrites threeWrites) ∧
      ((newStream true).afterWrites threeWrites).rows_count = rowsOf threeWrites ∧
      ((newStream true).afterWrites threeWrites).writer.written =
        (nonEmpty threeWrites).map (fun c => (c.block, c.permutation)) ∧
      ((newStream true).afterWrites threeWrites).new_serialization_infos =
        (if (newStream true).reset_columns then (nonEmpty threeWrites).map (·.block) else []) ∧
      ∀ (fails : Action → Bool) (co : PartCollaborators) (sync : Bool)
        (total_columns_list : Option NamesAndTypesList)
        (additional_column_checksums : Option Checksums)
        (additional_columns_substreams : Option ColumnsSubstreams) (w w' : World) (impl : Impl),
        finalizePartAsync fails co ((newStream true).afterWrites threeWrites) sync
            total_columns_list additional_column_checksums additional_columns_substreams w =
            .ok impl w' →
          w'.part.rows_count = rowsOf threeWrites ∧
          (⟨"count.txt", (WriteHelpers.decimalText (rowsOf threeWrites)).map Char.toUInt8⟩ :
            StagedFile) ∈ impl.written_files ∧
          (w.part.existing_rows_count = none →
            w'.part.existing_rows_count = some (rowsOf threeWrites))) ∧
    ∀ pre c post, threeWrites = pre ++ c :: post → (∀ c ∈ pre, c.block.WellFormed) →
      ¬ c.block.WellFormed →
        ∃ e, runWrites threeWrites (newStream true) = .error e ((newStream true).afterWrites pre)) :=
  ⟨⟨rfl, rfl, rfl⟩, by decide, writes_then_finalize_rows ⟨rfl, rfl, rfl⟩ threeWrites⟩

/-! ## The min-max check -/

/-- A name that does not start with `minmax_` is no min-max file's name. -/
theorem ne_minmax_file_name {name : String} (h : name.data.take 7 ≠ "minmax_".data)
    (column : String) : name ≠ "minmax_" ++ column ++ ".idx" := by
  rintro rfl
  exact h (by simp [String.data_append])

/-- Without an initialized min-max index, every file of the plan has one of the fixed names. -/
theorem onDiskPlan_name_of_not_initialized (co : Collaborators) (s : MergedBlockOutputStream)
    (additional_columns_substreams : Option ColumnsSubstreams) {part : DataPart}
    (hi : part.minmax_idx_initialized = false) {f : StagedFile × Bool}
    (hf : f ∈ onDiskPlan co s additional_columns_substreams part) :
    f.1.name ∈ ["uuid.txt", "partition.dat", "source_parts_set", "count.txt", "ttl.txt",
      "serialization.json", "columns.txt", "columns_substreams.txt", "metadata_version.txt",
      "default_compression_codec.txt"] := by
  simp only [onDiskPlan, nonProjectionPlan, partitionPlan, uuidPlan, partitionDatPlan, hi,
    List.mem_append, List.mem_ite_nil_right, List.mem_singleton, List.mem_map, Option.mem_toList,
    Bool.false_eq_true, ite_false, List.not_mem_nil, or_false, false_or] at hf
  -- one case per file of the plan
  rcases hf with ((((((⟨-, ⟨-, rfl⟩ | ⟨-, ⟨-, -, rfl⟩ | ⟨-, rfl⟩⟩⟩ | rfl) | ⟨-, rfl⟩) | ⟨-, rfl⟩) | rfl) |
    ⟨-, rfl⟩) | rfl) | ⟨-, -, rfl⟩ <;> simp

theorem prepare_minmax_idx_initialized (co : PartCollaborators) (s : MergedBlockOutputStream)
    (total_columns_list : Option NamesAndTypesList) (additional_column_checksums : Option Checksums)
    (w : World) :
    (co.prepare s total_columns_list additional_column_checksums w).2.part.minmax_idx_initialized =
      w.part.minmax_idx_initialized := by
  unfold PartCollaborators.prepare; split <;> rfl

/-- **The min-max check over a whole run.** A new non-projection part of a table with custom
partitioning, whose min-max index was never initialized, written through a fresh stream with a
codec and finalized without I/O errors: `finalizePartAsync` throws the min-max `LOGICAL_ERROR`
exactly when some written block was non-empty, and when all were empty it returns having staged
no min-max file. -/
theorem minmax_error_iff_nonempty_block {s₀ s : MergedBlockOutputStream} {calls : List WriteCall}
    (h₀ : s₀.Fresh) (hw : runWrites calls s₀ = .ok () s) (co : PartCollaborators) (sync : Bool)
    (total_columns_list : Option NamesAndTypesList) (additional_column_checksums : Option Checksums)
    (additional_columns_substreams : Option ColumnsSubstreams) {w : World}
    (hp : w.part.isProjectionPart = false)
    (hf : w.part.format_version ≥ MERGE_TREE_DATA_MIN_FORMAT_VERSION_WITH_CUSTOM_PARTITIONING)
    (hi : w.part.minmax_idx_initialized = false) (hc : s.default_codec.isSome) :
    ((∃ w', finalizePartAsync noFault co s sync total_columns_list additional_column_checksums
        additional_columns_substreams w = .error (minmaxNotInitialized w.part) w') ↔
      ∃ c ∈ calls, c.block.rows ≠ 0) ∧
    ((∀ c ∈ calls, c.block.rows = 0) →
      ∃ impl w', finalizePartAsync noFault co s sync total_columns_list additional_column_checksums
          additional_columns_substreams w = .ok impl w' ∧
        ∀ f ∈ impl.written_files, ∀ column, f.name ≠ "minmax_" ++ column ++ ".idx") := by
  obtain ⟨-, rfl⟩ := runWrites_eq_ok hw
  have hm : minmaxFails (s₀.afterWrites calls).rows_count w.part = (rowsOf calls != 0) := by
    simp [minmaxFails, hp, hf, hi, (h₀.afterWrites calls).1]
  have hall : (∀ c ∈ calls, c.block.rows = 0) ↔ rowsOf calls = 0 := (rowsOf_eq_zero_iff calls).symm
  by_cases h0 : rowsOf calls = 0
  · have hrun := finalizePartAsync_noFault co sync total_columns_list additional_column_checksums
      additional_columns_substreams (by rw [hm, h0]; rfl) hc
    refine ⟨⟨?_, ?_⟩, fun _ => ⟨_, _, hrun, ?_⟩⟩
    · rintro ⟨_, he⟩
      rw [hrun] at he
      cases he
    · rintro ⟨c, hc, hr⟩
      exact absurd (hall.2 h0 c hc) hr
    · intro f hf column
      have hfixed : ∀ n ∈ ["uuid.txt", "partition.dat", "source_parts_set", "count.txt", "ttl.txt",
          "serialization.json", "columns.txt", "columns_substreams.txt", "metadata_version.txt",
          "default_compression_codec.txt"] ++ ["checksums.txt"],
          n.data.take 7 ≠ "minmax_".data := by decide
      have hi' := (prepare_minmax_idx_initialized co (s₀.afterWrites calls) total_columns_list
        additional_column_checksums w).trans hi
      rw [PartCollaborators.stagedWorld, onDiskWorld_written_files, List.mem_append,
        List.mem_map] at hf
      rcases hf with ⟨g, hg, rfl⟩ | hf
      · exact ne_minmax_file_name (hfixed _ (List.mem_append_left _
          (onDiskPlan_name_of_not_initialized _ _ _ hi' hg))) column
      · rw [List.mem_singleton] at hf
        subst hf
        exact ne_minmax_file_name (hfixed _ (List.mem_append_right _ (List.mem_singleton_self _)))
          column
  · have hm' : minmaxFails (s₀.afterWrites calls).rows_count w.part = true := by simp [hm, h0]
    exact ⟨⟨fun _ => by simpa using mt hall.1 h0, fun _ => finalizePartAsync_noFault_minmax co sync
      total_columns_list additional_column_checksums additional_columns_substreams hm'⟩,
      fun h => absurd (hall.1 h) h0⟩

theorem minmax_error_iff_nonempty_block_of_three_writes :
    let w := startWorld { patchPart false with minmax_idx_initialized := false }
    let s := (newStream false).afterWrites threeWrites
    (newStream false).Fresh ∧ runWrites threeWrites (newStream false) = .ok () s ∧
    w.part.isProjectionPart = false ∧
    w.part.format_version ≥ MERGE_TREE_DATA_MIN_FORMAT_VERSION_WITH_CUSTOM_PARTITIONING ∧
    w.part.minmax_idx_initialized = false ∧ s.default_codec.isSome ∧
    ((∃ w', finalizePartAsync noFault countingCollaborators s false none none none w =
        .error (minmaxNotInitialized w.part) w') ↔ ∃ c ∈ threeWrites, c.block.rows ≠ 0) ∧
    ((∀ c ∈ threeWrites, c.block.rows = 0) →
      ∃ impl w', finalizePartAsync noFault countingCollaborators s false none none none w =
          .ok impl w' ∧
        ∀ f ∈ impl.written_files, ∀ column, f.name ≠ "minmax_" ++ column ++ ".idx") :=
  have hw := runWrites_of_wellFormed threeWrites (by decide) (newStream false)
  ⟨⟨rfl, rfl, rfl⟩, hw, rfl, by decide, rfl, rfl,
    minmax_error_iff_nonempty_block ⟨rfl, rfl, rfl⟩ hw countingCollaborators false none none none
      rfl (by decide) rfl rfl⟩

end ClickHouse.MergeTree
