import ClickHouse.MergeTree.FinalizePartOnDisk

set_option autoImplicit false

/-! # `Finalizer::Impl`: finishing or cancelling a part

`finalizePartAsync` returns a `Finalizer` owning an `Impl`: the part writer, the staged
buffers of the auxiliary files, the files to remove once the part is written, and the `sync`
flag. `Impl::finish` makes the part durable: the writer first, then each staged file
(finalized, and synced when asked), and last the removals of the pruned columns' files. A disk
transaction does not see its own writes, so when there is something to remove the writes are
committed and a new transaction begun before the first removal. `Impl::cancel` is `noexcept`:
it cancels the writer and every staged file, and removes nothing.

Each is one fixed list of actions (`finishActions`, `cancelActions`); `Impl::finish` issues
its list until the first action that raises.
-/

namespace ClickHouse.MergeTree

/-- `MergedBlockOutputStream::Finalizer::Impl`. The writer and the part's storage are the
targets of the actions the trace records. -/
structure Impl where
  files_to_remove_after_finish : NameSet
  written_files : List StagedFile
  sync : Bool

section Steps

variable (fails : Action → Bool)

/-- The loop of `Impl::finish` over the staged files. -/
def finalizeFiles (sync : Bool) : List StagedFile → FinalizeM Unit
  | [] => pure ()
  | file :: files => do
    issue fails (.finalize file.name)
    (if sync then issue fails (.sync file.name) else pure ())
    finalizeFiles sync files

/-- The loop of `Impl::finish` over the files to remove. -/
def removeFiles : List String → FinalizeM Unit
  | [] => pure ()
  | file_name :: names => do
    issue fails (.removeFile file_name)
    removeFiles names

/-- `MergedBlockOutputStream::Finalizer::Impl::finish`. -/
def Impl.finish (impl : Impl) : FinalizeM Unit := do
  issue fails (.writerFinish impl.sync)
  finalizeFiles fails impl.sync impl.written_files
  (if !impl.files_to_remove_after_finish.names.isEmpty then do
      issue fails .commitTransaction
      issue fails .beginTransaction
    else pure ())
  removeFiles fails impl.files_to_remove_after_finish.names

end Steps

/-- `MergedBlockOutputStream::Finalizer::Impl::cancel` (`noexcept`). -/
def Impl.cancel (impl : Impl) : FinalizeM Unit := do
  record .writerCancel
  recordAll (impl.written_files.map fun file => .cancel file.name)

/-! ## The actions of finishing and cancelling -/

/-- The actions `Impl::finish` issues for one staged file. -/
def finalizeActions (sync : Bool) (file : StagedFile) : List Action :=
  .finalize file.name :: if sync then [.sync file.name] else []

/-- The actions of `Impl::finish`, in order: the writer, each staged file in staging order,
the transaction split when there is something to remove, and one removal per name. -/
def finishActions (impl : Impl) : List Action :=
  .writerFinish impl.sync :: impl.written_files.flatMap (finalizeActions impl.sync) ++
    (if impl.files_to_remove_after_finish.names.isEmpty then []
      else [.commitTransaction, .beginTransaction]) ++
    impl.files_to_remove_after_finish.names.map .removeFile

/-- The actions of `Impl::cancel`: the writer, then each staged file. -/
def cancelActions (impl : Impl) : List Action :=
  .writerCancel :: impl.written_files.map fun file => .cancel file.name

section Spec

variable (fails : Action → Bool)

theorem finalizeFiles_eq_issueAll (sync : Bool) (files : List StagedFile) :
    finalizeFiles fails sync files = issueAll fails (files.flatMap (finalizeActions sync)) := by
  induction files with
  | nil => rfl
  | cons file files ih =>
    cases sync <;> simp [finalizeFiles, finalizeActions, issueAll_append, issueAll_singleton, ih,
      issueAll] <;> rfl

theorem removeFiles_eq_issueAll (names : List String) :
    removeFiles fails names = issueAll fails (names.map .removeFile) := by
  induction names with
  | nil => rfl
  | cons n ns ih => simp [removeFiles, issueAll, ih]

theorem Impl.finish_eq_issueAll (impl : Impl) :
    Impl.finish fails impl = issueAll fails (finishActions impl) := by
  cases h : impl.files_to_remove_after_finish.names.isEmpty <;>
    simp [Impl.finish, finishActions, h, finalizeFiles_eq_issueAll, removeFiles_eq_issueAll,
      issueAll_append, issueAll]

theorem Impl.cancel_apply (impl : Impl) (w : World) :
    Impl.cancel impl w = .ok () { w with trace := w.trace ++ cancelActions impl } := by
  simp [Impl.cancel, cancelActions, recordAll_apply]

/-- **The actions of finishing and cancelling a part.** `Impl::finish` issues `finishActions`
in order, up to the first that raises; `Impl::cancel` performs `cancelActions`: the writer's
cancel and each staged file's, and nothing else. -/
theorem finish_cancel_actions (impl : Impl) :
    Impl.finish fails impl = issueAll fails (finishActions impl) ∧
      ∀ w, Impl.cancel impl w = .ok () { w with trace := w.trace ++ cancelActions impl } :=
  ⟨Impl.finish_eq_issueAll fails impl, Impl.cancel_apply impl⟩

theorem not_isCancel_of_mem_finishActions {impl : Impl} {a : Action}
    (ha : a ∈ finishActions impl) : a.isCancel = false := by
  simp only [finishActions, finalizeActions, List.mem_cons, List.mem_append, List.mem_flatMap,
    List.mem_map] at ha
  rcases ha with ((rfl | ⟨f, -, rfl | h⟩) | h) | ⟨n, -, rfl⟩
  · rfl
  · rfl
  · split_ifs at h <;> simp_all [Action.isCancel]
  · split_ifs at h <;> simp at h; rcases h with rfl | rfl <;> rfl
  · rfl

/-- `Impl::finish` cancels nothing, whether it returns or throws. -/
theorem Impl.finish_appends (impl : Impl) :
    Appends (·.isCancel = false) (Impl.finish fails impl) := by
  rw [Impl.finish_eq_issueAll]
  exact .of_issueAll fails fun _ => not_isCancel_of_mem_finishActions

end Spec

end ClickHouse.MergeTree
