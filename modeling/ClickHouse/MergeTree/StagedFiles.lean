import ClickHouse.WriteHelpers.UUID
import ClickHouse.MergeTree.FinalizePartAsync

set_option autoImplicit false

/-! # The files a part is staged with

Whenever `finalizePartAsync` returns, it has staged the plan of `finalizePartOnDisk` and
`checksums.txt`. This module looks at the names and at `uuid.txt`.

`stagedNames` lists every file `finalizePartOnDisk` can write, in the order it writes them; the
plan of any part is a sublist of it (`onDiskPlan_names_sublist`). With a min-max index over
distinct columns that list has no repeated name, so no file is staged twice
(`staged_file_names_nodup`).

`finalizePartOnDisk` writes a part's UUID, when it has one, first among its files, with
`writeUUIDText`. With the text of `WriteHelpers/UUID.lean` in place of the collaborator, the
first staged file is then `uuid.txt`, 36 bytes that read back as the part's UUID, whatever
writes failed or not before (`staged_uuid_file_reads_back`).
-/

namespace ClickHouse.MergeTree

open ClickHouse.WriteHelpers (CharMemory writeUUIDText uuidOfBytes)

/-! ## Names -/

/-- The names of the files `finalizePartOnDisk` can stage before `checksums.txt`, in the order it
stages them, for a min-max index over `minmax_columns`; grouped as the code writes them, the
files of a non-projection part first. -/
def stagedNames (minmax_columns : List String) : List String :=
  (["uuid.txt"] ++ (["partition.dat"] ++ minmax_columns.map (fun c => "minmax_" ++ c ++ ".idx") ++
      ["source_parts_set"])) ++
    ["count.txt"] ++ ["ttl.txt"] ++ ["serialization.json"] ++ ["columns.txt"] ++
    ["columns_substreams.txt"] ++ ["metadata_version.txt"] ++ ["default_compression_codec.txt"]

theorem ite_nil_sublist {α : Type} {c : Prop} [Decidable c] {l l' : List α}
    (h : List.Sublist l l') : List.Sublist (if c then l else []) l' := by
  split
  · exact h
  · exact List.nil_sublist _

theorem map_const_toList_sublist {α β : Type} (o : Option α) (b : β) :
    List.Sublist (o.toList.map (fun _ => b)) [b] := by
  cases o <;> simp

/-- The files `finalizePartOnDisk` stages before `checksums.txt` come in the order of
`stagedNames`, each at most once. -/
theorem onDiskPlan_names_sublist (co : Collaborators) (s : MergedBlockOutputStream)
    (additional_columns_substreams : Option ColumnsSubstreams) (part : DataPart) :
    List.Sublist ((onDiskPlan co s additional_columns_substreams part).map (·.1.name))
      (stagedNames ((co.minmaxBytes part).map Prod.fst)) := by
  simp only [onDiskPlan, nonProjectionPlan, uuidPlan, partitionPlan, partitionDatPlan, minmaxPlan,
    List.map_append, apply_ite (List.map _), List.map_cons, List.map_nil, List.map_map,
    Function.comp_def, stagedNames]
  have hsingle : ∀ (c : Prop) [Decidable c] (name : String),
      List.Sublist (if c then [name] else []) [name] :=
    fun _ _ _ => ite_nil_sublist (List.Sublist.refl _)
  -- one group per write, each a sublist of its names
  refine .append (.append (.append (.append (.append (.append (.append ?nonProjection (.refl _))
    (hsingle _ _)) (hsingle _ _)) (.refl _)) (hsingle _ _)) (.refl _))
    (map_const_toList_sublist _ _)
  case nonProjection =>
    exact ite_nil_sublist (.append (hsingle _ _) (ite_nil_sublist (.append (.append
      (map_const_toList_sublist _ _) (ite_nil_sublist (.refl _))) (hsingle _ _))))

theorem minmaxFile_injective : Function.Injective fun c : String => "minmax_" ++ c ++ ".idx" := by
  intro a b h
  simpa [String.ext_iff] using h

/-- With a min-max index over distinct columns, no name is staged twice. -/
theorem stagedNames_nodup {minmax_columns : List String} (h : minmax_columns.Nodup) :
    (stagedNames minmax_columns ++ ["checksums.txt"]).Nodup := by
  have hfixed : ∀ n ∈ ["uuid.txt", "partition.dat", "source_parts_set", "count.txt", "ttl.txt",
      "serialization.json", "columns.txt", "columns_substreams.txt", "metadata_version.txt",
      "default_compression_codec.txt", "checksums.txt"],
        ¬ List.IsPrefix "minmax_".data n.data := by
    decide
  have hsplit : stagedNames minmax_columns ++ ["checksums.txt"] =
      ["uuid.txt", "partition.dat"] ++ minmax_columns.map (fun c => "minmax_" ++ c ++ ".idx") ++
        ["source_parts_set", "count.txt", "ttl.txt", "serialization.json", "columns.txt",
          "columns_substreams.txt", "metadata_version.txt", "default_compression_codec.txt",
          "checksums.txt"] := by
    simp [stagedNames]
  rw [hsplit]
  refine (List.perm_append_comm.append_right _).nodup_iff.2 ?_
  rw [List.append_assoc, List.nodup_append]
  refine ⟨h.map minmaxFile_injective, by decide, fun x hx hx' => ?_⟩
  obtain ⟨c, -, rfl⟩ := List.mem_map.1 hx
  exact hfixed _ (by simpa using hx') (by simp)

/-- Whenever `finalizePartAsync` returns, under any oracle, it staged the files of the fault-free
run. -/
theorem written_files_of_finalizePartAsync {co : PartCollaborators} {fails : Action → Bool}
    {s : MergedBlockOutputStream} {sync : Bool} {total_columns_list : Option NamesAndTypesList}
    {additional_column_checksums : Option Checksums}
    {additional_columns_substreams : Option ColumnsSubstreams} {w w' : World} {impl : Impl}
    (h : finalizePartAsync fails co s sync total_columns_list additional_column_checksums
      additional_columns_substreams w = .ok impl w') :
    impl.written_files = (co.stagedWorld s total_columns_list additional_column_checksums
      additional_columns_substreams w).written_files := by
  obtain ⟨hm, hc, h'⟩ := finalizePartAsync_returns co sync total_columns_list
    additional_column_checksums additional_columns_substreams h
  rw [finalizePartAsync_noFault co sync total_columns_list additional_column_checksums
    additional_columns_substreams hm hc] at h'
  cases h'
  rfl

/-- **No file is staged twice.** Take collaborators whose min-max index writes one file per
distinct column. Whenever `finalizePartAsync` returns, under any oracle, the files it staged
have distinct names. -/
theorem staged_file_names_nodup {co : PartCollaborators}
    (hminmax : ∀ part, ((co.minmaxBytes part).map Prod.fst).Nodup) {fails : Action → Bool}
    {s : MergedBlockOutputStream} {sync : Bool} {total_columns_list : Option NamesAndTypesList}
    {additional_column_checksums : Option Checksums}
    {additional_columns_substreams : Option ColumnsSubstreams} {w w' : World} {impl : Impl}
    (h : finalizePartAsync fails co s sync total_columns_list additional_column_checksums
      additional_columns_substreams w = .ok impl w') :
    (impl.written_files.map StagedFile.name).Nodup := by
  rw [written_files_of_finalizePartAsync h, PartCollaborators.stagedWorld, onDiskWorld_written_files, List.map_append, List.map_map]
  exact (stagedNames_nodup (hminmax _)).sublist
    ((onDiskPlan_names_sublist ..).append (List.Sublist.refl _))

/-- `countingCollaborators` with a min-max index over the one column `x`. -/
def minmaxOverX : PartCollaborators :=
  { countingCollaborators with minmaxBytes := fun _ => [("x", [2])] }

theorem staged_file_names_nodup_of_patch_part :
    (∀ part, ((minmaxOverX.minmaxBytes part).map Prod.fst).Nodup) ∧
      ∃ impl w', finalizePartAsync noFault minmaxOverX (streamWithRows 3) false none none none
          (startWorld (patchPart false)) = .ok impl w' ∧
        (impl.written_files.map StagedFile.name).Nodup :=
  have hminmax : ∀ part, ((minmaxOverX.minmaxBytes part).map Prod.fst).Nodup :=
    fun _ => List.nodup_singleton "x"
  have h : finalizePartAsync noFault minmaxOverX (streamWithRows 3) false none none none
      (startWorld (patchPart false)) = _ :=
    finalizePartAsync_noFault minmaxOverX false none none none (by rfl) (by rfl)
  ⟨hminmax, _, _, h, staged_file_names_nodup hminmax h⟩

/-! ## `uuid.txt` -/

/-- Preparing the checksums and the columns leaves the part's UUID and kind alone. -/
theorem PartCollaborators.prepare_uuid (co : PartCollaborators) (s : MergedBlockOutputStream)
    (total_columns_list : Option NamesAndTypesList) (additional_column_checksums : Option Checksums)
    (w : World) :
    (co.prepare s total_columns_list additional_column_checksums w).2.part.uuid = w.part.uuid ∧
      (co.prepare s total_columns_list additional_column_checksums w).2.part.isProjectionPart =
        w.part.isProjectionPart := by
  unfold PartCollaborators.prepare PartCollaborators.resetColumns
  split <;> exact ⟨rfl, rfl⟩

theorem length_writeUUIDText (dst : CharMemory) (uuid : Nat) :
    (writeUUIDText dst uuid).length = 36 := by
  simp [writeUUIDText, WriteHelpers.formatUUID]

/-- **`uuid.txt` holds the part's UUID.** Take collaborators that write `uuid.txt` with
`writeUUIDText`. Whenever `finalizePartAsync` returns, under any oracle, for a part that is not a
projection part and has a UUID, the first file it staged is `uuid.txt`: 36 bytes that read back
as the part's UUID. -/
theorem staged_uuid_file_reads_back {co : PartCollaborators} {dst : CharMemory}
    (hco : co.writeUUIDText = writeUUIDText dst) {fails : Action → Bool}
    {s : MergedBlockOutputStream} {sync : Bool} {total_columns_list : Option NamesAndTypesList}
    {additional_column_checksums : Option Checksums}
    {additional_columns_substreams : Option ColumnsSubstreams} {w w' : World} {impl : Impl}
    (h : finalizePartAsync fails co s sync total_columns_list additional_column_checksums
      additional_columns_substreams w = .ok impl w')
    (hp : w.part.isProjectionPart = false) (hu : w.part.uuid ≠ UUIDHelpers.Nil) :
    ∃ data, impl.written_files.head? = some ⟨"uuid.txt", data⟩ ∧ data.length = 36 ∧
      uuidOfBytes data = some (w.part.uuid % 2 ^ 128) := by
  obtain ⟨huuid, hkind⟩ := co.prepare_uuid s total_columns_list additional_column_checksums w
  refine ⟨writeUUIDText dst w.part.uuid, ?_, length_writeUUIDText _ _,
    WriteHelpers.uuidOfBytes_writeUUIDText _ _⟩
  simp [written_files_of_finalizePartAsync h, PartCollaborators.stagedWorld,
    onDiskWorld_written_files, onDiskPlan, nonProjectionPlan, uuidPlan, huuid, hkind, hp, hu, hco]

/-- `countingCollaborators`, writing `uuid.txt` with `writeUUIDText`. -/
def uuidCollaborators : PartCollaborators :=
  { countingCollaborators with writeUUIDText := writeUUIDText fun _ => ' ' }

/-- `patchPart false` with the UUID `1`. -/
def partWithUUID : DataPart := { patchPart false with uuid := 1 }

theorem staged_uuid_file_reads_back_of_patch_part :
    let w := startWorld partWithUUID
    let impl : Impl := ⟨(uuidCollaborators.prepare (streamWithRows 3) none none w).1,
      (uuidCollaborators.stagedWorld (streamWithRows 3) none none none w).written_files, false⟩
    let w' := (uuidCollaborators.stagedWorld (streamWithRows 3) none none none w).setPart
      (uuidCollaborators.finalizedPart (streamWithRows 3)
        (uuidCollaborators.stagedWorld (streamWithRows 3) none none none w).checksums
        (uuidCollaborators.stagedWorld (streamWithRows 3) none none none w).part)
    uuidCollaborators.writeUUIDText = writeUUIDText (fun _ => ' ') ∧
    finalizePartAsync noFault uuidCollaborators (streamWithRows 3) false none none none w =
      .ok impl w' ∧
    w.part.isProjectionPart = false ∧ w.part.uuid ≠ UUIDHelpers.Nil ∧
    ∃ data, impl.written_files.head? = some ⟨"uuid.txt", data⟩ ∧ data.length = 36 ∧
      uuidOfBytes data = some (w.part.uuid % 2 ^ 128) :=
  have hco : uuidCollaborators.writeUUIDText = writeUUIDText (fun _ => ' ') := rfl
  have hf : finalizePartAsync noFault uuidCollaborators (streamWithRows 3) false none none none
      (startWorld partWithUUID) = _ :=
    finalizePartAsync_noFault uuidCollaborators false none none none (by rfl) (by rfl)
  ⟨hco, hf, rfl, by decide, staged_uuid_file_reads_back hco hf rfl (by decide)⟩

end ClickHouse.MergeTree
