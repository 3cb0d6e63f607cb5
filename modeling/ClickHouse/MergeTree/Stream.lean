import ClickHouse.MergeTree.Storage

set_option autoImplicit false

/-! # Writing blocks to a `MergedBlockOutputStream`

`MergedBlockOutputStream::write` and `writeWithPermutation` both call `writeImpl`, which checks
that the block's columns have one length, skips an empty block, hands a non-empty one to the
part writer (with the permutation, if any), adds it to the serialization statistics when
`reset_columns` is set, and adds its rows to `rows_count`.

The part writer (`IMergeTreeDataPartWriter`) and the statistics (`SerializationInfoByName::add`)
are outside this file: the model records the calls they receive, in order. A block is given by
its columns' names and lengths, which is all `writeImpl` reads of it.
-/

namespace ClickHouse.MergeTree

/-- A column of a block: its name and the number of rows it holds. -/
structure ColumnWithTypeAndName where
  name : String
  size : Nat
  deriving DecidableEq, Repr

/-- `Block`: named columns. -/
structure Block where
  columns : List ColumnWithTypeAndName
  deriving DecidableEq, Repr

/-- `IColumn::Permutation`: the row order to write a block in. -/
abbrev Permutation := List Nat

namespace Block

/-- `Block::rows`: the length of the first column, `0` for a block without columns. -/
def rows (b : Block) : Nat :=
  match b.columns with
  | [] => 0
  | c :: _ => c.size

/-- Modelled from the spec: `Block::checkNumberOfRows` (`Core/Block.cpp`) fails with a fatal
internal-consistency error when the columns of the block have different row counts. -/
def checkNumberOfRows (b : Block) : Except Error Unit :=
  if b.columns.all (·.size == b.rows) then .ok () else .error (.LOGICAL_ERROR "Sizes of columns doesn't match")

/-- All columns of the block have the same length. -/
def WellFormed (b : Block) : Prop := ∀ c ∈ b.columns, c.size = b.rows

instance (b : Block) : Decidable b.WellFormed :=
  inferInstanceAs (Decidable (∀ c ∈ b.columns, c.size = b.rows))

theorem checkNumberOfRows_eq_ok_iff (b : Block) : b.checkNumberOfRows = .ok () ↔ b.WellFormed := by
  rw [← show b.columns.all (·.size == b.rows) = true ↔ b.WellFormed by simp [WellFormed]]
  unfold checkNumberOfRows
  split <;> simp_all

end Block

/-- The calls the part writer received: `write(block, permutation)`, in order. -/
structure PartWriter where
  written : List (Block × Option Permutation)
  deriving DecidableEq, Repr

/-- The fields of `MergedBlockOutputStream` its writing and finalization read or change. -/
structure MergedBlockOutputStream where
  columns_list : NamesAndTypesList
  default_codec : Option String
  reset_columns : Bool
  metadata_version : Int
  writer : PartWriter
  /-- The blocks `new_serialization_infos.add` received, in order. -/
  new_serialization_infos : List Block
  rows_count : Nat

/-- The computations of the writing phase: exceptions over the stream's state. -/
abbrev StreamM := EStateM Error MergedBlockOutputStream

/-- `MergedBlockOutputStream::writeImpl`. -/
def writeImpl (block : Block) (permutation : Option Permutation) : StreamM Unit := do
  match block.checkNumberOfRows with
  | .error e => throw e
  | .ok () => pure ()
  let rows := block.rows
  if rows = 0 then return
  modify fun s => { s with writer := ⟨s.writer.written ++ [(block, permutation)]⟩ }
  if (← get).reset_columns then
    modify fun s => { s with new_serialization_infos := s.new_serialization_infos ++ [block] }
  modify fun s => { s with rows_count := s.rows_count + rows }

/-- `MergedBlockOutputStream::write`: the data is pre-sorted. -/
def write (block : Block) : StreamM Unit := writeImpl block none

/-- `MergedBlockOutputStream::writeWithPermutation`. -/
def writeWithPermutation (block : Block) (permutation : Permutation) : StreamM Unit :=
  writeImpl block (some permutation)

/-! ## Runs of writes -/

/-- A call of the writing phase. -/
inductive WriteCall where
  | write (block : Block)
  | writeWithPermutation (block : Block) (permutation : Permutation)
  deriving DecidableEq, Repr

namespace WriteCall

def block : WriteCall → Block
  | .write b => b
  | .writeWithPermutation b _ => b

def permutation : WriteCall → Option Permutation
  | .write _ => none
  | .writeWithPermutation _ p => some p

/-- Make the call. -/
def run : WriteCall → StreamM Unit
  | .write b => MergeTree.write b
  | .writeWithPermutation b p => MergeTree.writeWithPermutation b p

theorem run_eq_writeImpl (c : WriteCall) : c.run = writeImpl c.block c.permutation := by
  cases c <;> rfl

end WriteCall

/-- Make the calls in order; an exception stops the run. -/
def runWrites : List WriteCall → StreamM Unit
  | [] => pure ()
  | c :: cs => do c.run; runWrites cs

/-- The rows the calls' blocks hold. -/
def rowsOf (calls : List WriteCall) : Nat := (calls.map fun c => c.block.rows).sum

/-- The calls whose block is not empty: the ones that reach the part writer. -/
def nonEmpty (calls : List WriteCall) : List WriteCall := calls.filter fun c => c.block.rows ≠ 0

/-! ## What one write does -/

/-- The stream after a non-empty block reached the part writer. -/
def MergedBlockOutputStream.afterWrite (s : MergedBlockOutputStream) (block : Block)
    (permutation : Option Permutation) : MergedBlockOutputStream :=
  { s with
    writer := ⟨s.writer.written ++ [(block, permutation)]⟩
    new_serialization_infos :=
      if s.reset_columns then s.new_serialization_infos ++ [block] else s.new_serialization_infos
    rows_count := s.rows_count + block.rows }

/-- A block whose columns differ in length raises before anything changes. -/
theorem writeImpl_of_not_wellFormed {block : Block} (h : ¬ block.WellFormed)
    (permutation : Option Permutation) (s : MergedBlockOutputStream) :
    ∃ e, writeImpl block permutation s = .error e s := by
  rw [← Block.checkNumberOfRows_eq_ok_iff] at h
  cases hc : block.checkNumberOfRows with
  | error e => exact ⟨e, by simp [writeImpl, hc]⟩
  | ok u => cases u; exact absurd hc h

/-- A well-formed block: an empty one changes nothing, a non-empty one is written. -/
theorem writeImpl_of_wellFormed {block : Block} (h : block.WellFormed)
    (permutation : Option Permutation) (s : MergedBlockOutputStream) :
    writeImpl block permutation s =
      .ok () (if block.rows = 0 then s else s.afterWrite block permutation) := by
  rw [← Block.checkNumberOfRows_eq_ok_iff] at h
  by_cases h0 : block.rows = 0
  · simp only [writeImpl, h, h0, bind_apply, pure_apply, ite_true]
  · cases hr : s.reset_columns <;>
      simp only [writeImpl, h, h0, hr, bind_apply, pure_apply, modify_apply, get_apply, ite_false,
        ite_true, Bool.false_eq_true, MergedBlockOutputStream.afterWrite]

/-! ## What a run of writes does -/

@[simp] theorem rowsOf_nil : rowsOf [] = 0 := rfl

@[simp] theorem rowsOf_cons (c : WriteCall) (cs : List WriteCall) :
    rowsOf (c :: cs) = c.block.rows + rowsOf cs := by
  simp [rowsOf]

theorem nonEmpty_cons (c : WriteCall) (cs : List WriteCall) :
    nonEmpty (c :: cs) = if c.block.rows = 0 then nonEmpty cs else c :: nonEmpty cs := by
  by_cases h : c.block.rows = 0 <;> simp [nonEmpty, List.filter_cons, h]

/-- The stream after a run of well-formed writes: the non-empty blocks reached the writer (and
the statistics, when `reset_columns`) in call order, and `rows_count` grew by their rows. -/
def MergedBlockOutputStream.afterWrites (s : MergedBlockOutputStream) (calls : List WriteCall) :
    MergedBlockOutputStream :=
  { s with
    writer := ⟨s.writer.written ++ (nonEmpty calls).map fun c => (c.block, c.permutation)⟩
    new_serialization_infos := s.new_serialization_infos ++
      if s.reset_columns then (nonEmpty calls).map (·.block) else []
    rows_count := s.rows_count + rowsOf calls }

@[simp] theorem afterWrites_nil (s : MergedBlockOutputStream) : s.afterWrites [] = s := by
  simp [MergedBlockOutputStream.afterWrites, nonEmpty]

theorem afterWrites_cons (s : MergedBlockOutputStream) (c : WriteCall) (cs : List WriteCall) :
    s.afterWrites (c :: cs) =
      (if c.block.rows = 0 then s else s.afterWrite c.block c.permutation).afterWrites cs := by
  by_cases h0 : c.block.rows = 0
  · simp [MergedBlockOutputStream.afterWrites, nonEmpty_cons, h0]
  · cases hr : s.reset_columns <;>
      simp [MergedBlockOutputStream.afterWrites, MergedBlockOutputStream.afterWrite,
        nonEmpty_cons, h0, hr, Nat.add_assoc]

theorem runWrites_cons_of_wellFormed {c : WriteCall} (h : c.block.WellFormed)
    (cs : List WriteCall) (s : MergedBlockOutputStream) :
    runWrites (c :: cs) s =
      runWrites cs (if c.block.rows = 0 then s else s.afterWrite c.block c.permutation) := by
  simp [runWrites, WriteCall.run_eq_writeImpl, writeImpl_of_wellFormed h]

theorem runWrites_of_wellFormed (calls : List WriteCall)
    (h : ∀ c ∈ calls, c.block.WellFormed) (s : MergedBlockOutputStream) :
    runWrites calls s = .ok () (s.afterWrites calls) := by
  induction calls generalizing s with
  | nil => simp [runWrites]
  | cons c cs ih =>
    rw [runWrites_cons_of_wellFormed (h c (List.mem_cons_self _ _)), afterWrites_cons]
    exact ih (fun c' hc' => h c' (List.mem_cons_of_mem _ hc')) _

/-- A ragged block raises where it stands in a run, with the stream as the writes before it
left it. -/
theorem runWrites_of_not_wellFormed (pre : List WriteCall) (c : WriteCall) (post : List WriteCall)
    (hpre : ∀ c ∈ pre, c.block.WellFormed) (hc : ¬ c.block.WellFormed)
    (s : MergedBlockOutputStream) :
    ∃ e, runWrites (pre ++ c :: post) s = .error e (s.afterWrites pre) := by
  induction pre generalizing s with
  | nil =>
    obtain ⟨e, he⟩ := writeImpl_of_not_wellFormed hc c.permutation s
    exact ⟨e, by simp [runWrites, WriteCall.run_eq_writeImpl, he]⟩
  | cons d ds ih =>
    rw [List.cons_append, runWrites_cons_of_wellFormed (hpre d (List.mem_cons_self _ _)),
      afterWrites_cons]
    exact ih (fun c' hc' => hpre c' (List.mem_cons_of_mem _ hc')) _

theorem rowsOf_eq_zero_iff (calls : List WriteCall) :
    rowsOf calls = 0 ↔ ∀ c ∈ calls, c.block.rows = 0 := by
  induction calls with
  | nil => simp
  | cons c cs ih => simp [ih]

/-- A run of writes returns only when every block was well formed. -/
theorem runWrites_eq_ok {calls : List WriteCall} {s s' : MergedBlockOutputStream}
    (h : runWrites calls s = .ok () s') :
    (∀ c ∈ calls, c.block.WellFormed) ∧ s' = s.afterWrites calls := by
  induction calls generalizing s with
  | nil => cases h; simp
  | cons c cs ih =>
    by_cases hc : c.block.WellFormed
    · rw [runWrites_cons_of_wellFormed hc] at h
      obtain ⟨hcs, rfl⟩ := ih h
      exact ⟨List.forall_mem_cons.2 ⟨hc, hcs⟩, (afterWrites_cons ..).symm⟩
    · obtain ⟨e, he⟩ := runWrites_of_not_wellFormed [] c cs (by simp) hc s
      rw [List.nil_append, h] at he
      cases he

end ClickHouse.MergeTree
