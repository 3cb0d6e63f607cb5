import ClickHouse.MergeTree.Part

set_option autoImplicit false

/-! # Storage actions and exceptions

Everything the finalization code does to the part's storage (`IDataPartStorage`, its write
buffers `WriteBufferFromFileBase` and the part writer `IMergeTreeDataPartWriter`) is an
`Action`, appended to a trace as it happens. The code runs in `FinalizeM`, a state monad over
the part, the local variables of `finalizePartAsync` and the trace, with C++ exceptions:
a `throw` stops the computation and keeps the state it had, as unwinding does.

Which actions raise is the environment's choice. Every function takes a fault oracle
`fails : Action → Bool`; `issue fails a` raises `Error.io a` when `fails a` and otherwise
performs `a`. Cancellation is `noexcept` in the source and is `record`ed without the oracle.

`Refines m₁ m₂` says that `m₁` returns only where `m₂` returns, with the same value and state.
An action of `issue` that does not fail behaves as under the oracle that never fails, so a
computation built from `issue`s refines its fault-free run: when it returns, no fault
happened on the way. This is how statements about a returning run are proved once, for the
fault-free run.
-/

namespace ClickHouse.MergeTree

/-- An effect of the finalization code on the part's storage or on the part writer. -/
inductive Action where
  /-- `writer->fillChecksums`: finish the column files, computing their checksums. -/
  | fillChecksums
  /-- `IDataPartStorage::writeFile`: open a buffer for a new file. -/
  | writeFile (name : String)
  /-- A writer lambda's output, written into the file's buffer. -/
  | write (name : String) (data : Bytes)
  | preFinalize (name : String)
  | finalize (name : String)
  | sync (name : String)
  | cancel (name : String)
  /-- `writer.finish(sync)`. -/
  | writerFinish (sync : Bool)
  /-- `writer.cancel()`. -/
  | writerCancel
  | commitTransaction
  | beginTransaction
  | removeFile (name : String)
  deriving DecidableEq, Repr

/-- The actions that produce a part's files: filling the column files' checksums, and opening,
writing and `preFinalize`-ing a file. Finalizing, syncing, cancelling, removing and the
transaction are not among them. -/
def Action.isStaging : Action → Bool
  | .fillChecksums | .writeFile _ | .write _ _ | .preFinalize _ => true
  | _ => false

/-- A cancel, of a file or of the part writer. -/
def Action.isCancel : Action → Bool
  | .cancel _ | .writerCancel => true
  | _ => false

/-- An exception: `LOGICAL_ERROR` with its message, or an I/O error of an action. -/
inductive Error where
  | LOGICAL_ERROR (message : String)
  | io (action : Action)
  deriving DecidableEq, Repr

/-- A buffer `finalizePartOnDisk` staged: the file's name and the bytes written to it. -/
structure StagedFile where
  name : String
  data : Bytes
  deriving DecidableEq, Repr

/-- The state the finalization code runs on: the part, the local checksums map and staged
files of `finalizePartAsync` and `finalizePartOnDisk`, and the actions issued so far. -/
structure World where
  part : DataPart
  checksums : Checksums
  written_files : List StagedFile
  trace : List Action

/-- Replace the part of the world. -/
def World.setPart (w : World) (part : DataPart) : World := { w with part := part }

@[simp] theorem World.setPart_part (w : World) (part : DataPart) : (w.setPart part).part = part := rfl

@[simp] theorem World.setPart_checksums (w : World) (part : DataPart) :
    (w.setPart part).checksums = w.checksums := rfl

@[simp] theorem World.setPart_written_files (w : World) (part : DataPart) :
    (w.setPart part).written_files = w.written_files := rfl

@[simp] theorem World.setPart_trace (w : World) (part : DataPart) :
    (w.setPart part).trace = w.trace := rfl

/-- Replace the local checksums map. -/
def World.setChecksums (w : World) (checksums : Checksums) : World :=
  { w with checksums := checksums }

@[simp] theorem World.setChecksums_part (w : World) (c : Checksums) :
    (w.setChecksums c).part = w.part := rfl

@[simp] theorem World.setChecksums_checksums (w : World) (c : Checksums) :
    (w.setChecksums c).checksums = c := rfl

@[simp] theorem World.setChecksums_written_files (w : World) (c : Checksums) :
    (w.setChecksums c).written_files = w.written_files := rfl

@[simp] theorem World.setChecksums_trace (w : World) (c : Checksums) :
    (w.setChecksums c).trace = w.trace := rfl

/-- The finalization code's computations. -/
abbrev FinalizeM := EStateM Error World

/-- The oracle under which no action raises. -/
def noFault : Action → Bool := fun _ => false

/-- Issue an action that may raise: under `fails a` it throws `Error.io a` and has no effect. -/
def issue (fails : Action → Bool) (a : Action) : FinalizeM Unit := fun w =>
  if fails a then .error (.io a) w else .ok () { w with trace := w.trace ++ [a] }

/-- Perform an action that cannot raise. -/
def record (a : Action) : FinalizeM Unit := fun w => .ok () { w with trace := w.trace ++ [a] }

/-- Issue the actions of a list in order, stopping at the first that raises. -/
def issueAll (fails : Action → Bool) : List Action → FinalizeM Unit
  | [] => pure ()
  | a :: as => do issue fails a; issueAll fails as

/-- Perform a list of actions that cannot raise. -/
def recordAll : List Action → FinalizeM Unit
  | [] => pure ()
  | a :: as => do record a; recordAll as

section Runs

variable {ε σ α β : Type}

@[simp] theorem bind_apply (m : EStateM ε σ α) (f : α → EStateM ε σ β) (w : σ) :
    (m >>= f) w = match m w with
      | .ok x w' => f x w'
      | .error e w' => .error e w' := by
  simp only [bind, EStateM.bind]
  cases m w <;> rfl

@[simp] theorem map_apply (f : α → β) (m : EStateM ε σ α) (w : σ) :
    (f <$> m) w = match m w with
      | .ok x w' => .ok (f x) w'
      | .error e w' => .error e w' := by
  simp only [Functor.map, EStateM.map]
  cases m w <;> rfl

@[simp] theorem pure_apply (x : α) (w : σ) : (pure x : EStateM ε σ α) w = .ok x w := rfl

@[simp] theorem modify_apply (f : σ → σ) (w : σ) :
    (modify f : EStateM ε σ Unit) w = .ok () (f w) := rfl

@[simp] theorem get_apply (w : σ) : (get : EStateM ε σ σ) w = .ok w w := rfl

@[simp] theorem modifyGet_apply (f : σ → α × σ) (w : σ) :
    (modifyGet f : EStateM ε σ α) w = .ok (f w).1 (f w).2 := by
  show EStateM.modifyGet f w = _
  simp only [EStateM.modifyGet]

@[simp] theorem set_apply (w' w : σ) : (set w' : EStateM ε σ PUnit) w = .ok ⟨⟩ w' := rfl

@[simp] theorem throw_apply (e : ε) (w : σ) : (throw e : EStateM ε σ α) w = .error e w := rfl

@[simp] theorem issue_apply (fails : Action → Bool) (a : Action) (w : World) :
    issue fails a w =
      if fails a then .error (.io a) w else .ok () { w with trace := w.trace ++ [a] } := rfl

@[simp] theorem record_apply (a : Action) (w : World) :
    record a w = .ok () { w with trace := w.trace ++ [a] } := rfl

@[simp] theorem issue_noFault (a : Action) : issue noFault a = record a := rfl

theorem recordAll_apply (as : List Action) (w : World) :
    recordAll as w = .ok () { w with trace := w.trace ++ as } := by
  induction as generalizing w with
  | nil => simp [recordAll]
  | cons a as ih => simp [recordAll, ih]

/-- `issueAll` performs the actions before the first that raises, and raises there. -/
theorem issueAll_apply (fails : Action → Bool) (as : List Action) (w : World) :
    issueAll fails as w = match as.find? fails with
      | none => .ok () { w with trace := w.trace ++ as }
      | some a => .error (.io a) { w with trace := w.trace ++ as.takeWhile (!fails ·) } := by
  induction as generalizing w with
  | nil => simp [issueAll]
  | cons a as ih =>
    by_cases ha : fails a = true
    · simp [issueAll, ha]
    · simp only [Bool.not_eq_true] at ha
      simp only [issueAll, bind_apply, issue_apply, ha, ih, List.find?_cons, List.takeWhile_cons]
      cases as.find? fails <;> simp

theorem issueAll_append (fails : Action → Bool) (as bs : List Action) :
    issueAll fails (as ++ bs) = (do issueAll fails as; issueAll fails bs) := by
  induction as with
  | nil => simp [issueAll]
  | cons a as ih => simp [issueAll, ih]

theorem issueAll_singleton (fails : Action → Bool) (a : Action) :
    issueAll fails [a] = issue fails a := bind_pure_unit

end Runs

/-! ## Refinement of the fault-free run -/

/-- `m₁` returns only where `m₂` returns, with the same value and the same state. -/
def Refines {α : Type} (m₁ m₂ : FinalizeM α) : Prop :=
  ∀ w x w', m₁ w = .ok x w' → m₂ w = .ok x w'

namespace Refines

variable {α β : Type}

theorem refl (m : FinalizeM α) : Refines m m := fun _ _ _ h => h

theorem ite {c : Prop} [Decidable c] {a₁ a₂ b₁ b₂ : FinalizeM α} (ha : Refines a₁ a₂)
    (hb : Refines b₁ b₂) : Refines (if c then a₁ else b₁) (if c then a₂ else b₂) := by
  split_ifs <;> assumption

theorem bind {m₁ m₂ : FinalizeM α} {f₁ f₂ : α → FinalizeM β} (hm : Refines m₁ m₂)
    (hf : ∀ x, Refines (f₁ x) (f₂ x)) : Refines (m₁ >>= f₁) (m₂ >>= f₂) := by
  intro w y w' h
  simp only [bind_apply] at h ⊢
  cases h₁ : m₁ w with
  | ok x w₁ => rw [h₁] at h; rw [hm w x w₁ h₁]; exact hf x w₁ y w' h
  | error e w₁ => rw [h₁] at h; cases h

theorem issue (fails : Action → Bool) (a : Action) :
    Refines (issue fails a) (MergeTree.issue noFault a) := by
  intro w x w' h
  by_cases ha : fails a = true <;> simp_all [noFault]

theorem issueAll (fails : Action → Bool) (as : List Action) :
    Refines (issueAll fails as) (MergeTree.issueAll noFault as) := by
  induction as with
  | nil => exact refl _
  | cons a as ih => exact bind (issue fails a) fun _ => ih

end Refines

/-! ## What a computation adds to the trace

`Refines` speaks of runs that return. For runs that throw, `Appends P m` says that `m` only
appends actions satisfying `P` to the trace, whether it returns or throws; it is built along
the code the same way. -/

/-- The state a computation ends in, whether it returns or throws. -/
def resultWorld {α : Type} : EStateM.Result Error World α → World
  | .ok _ w => w
  | .error _ w => w

/-- `m` extends the trace only by actions satisfying `P`, whether it returns or throws. -/
def Appends (P : Action → Prop) {α : Type} (m : FinalizeM α) : Prop :=
  ∀ w, ∃ t, (∀ a ∈ t, P a) ∧ (resultWorld (m w)).trace = w.trace ++ t

namespace Appends

variable {P : Action → Prop} {α β : Type}

theorem of_pure (x : α) : Appends P (pure x : FinalizeM α) :=
  fun w => ⟨[], by simp, by simp [resultWorld]⟩

theorem of_modify {f : World → World} (hf : ∀ w, (f w).trace = w.trace) :
    Appends P (modify f : FinalizeM Unit) :=
  fun w => ⟨[], by simp, by simp [resultWorld, hf]⟩

theorem of_get : Appends P (get : FinalizeM World) :=
  fun w => ⟨[], by simp, by simp [resultWorld]⟩

theorem of_modifyGet {f : World → α × World} (hf : ∀ w, (f w).2.trace = w.trace) :
    Appends P (modifyGet f : FinalizeM α) :=
  fun w => ⟨[], by simp, by simp [resultWorld, hf]⟩

theorem of_throw (e : Error) : Appends P (throw e : FinalizeM α) :=
  fun w => ⟨[], by simp, by simp [resultWorld]⟩

theorem of_issue (fails : Action → Bool) {a : Action} (ha : P a) : Appends P (issue fails a) := by
  intro w
  by_cases hf : fails a = true
  · exact ⟨[], by simp, by simp [resultWorld, hf]⟩
  · exact ⟨[a], by simpa using ha, by simp [resultWorld, hf]⟩

theorem of_record {a : Action} (ha : P a) : Appends P (record a) :=
  fun w => ⟨[a], by simpa using ha, by simp [resultWorld]⟩

theorem bind {m : FinalizeM α} {f : α → FinalizeM β} (hm : Appends P m)
    (hf : ∀ x, Appends P (f x)) : Appends P (m >>= f) := by
  intro w
  obtain ⟨t₁, ht₁, hw₁⟩ := hm w
  simp only [bind_apply]
  cases h : m w with
  | ok x w₁ =>
    obtain ⟨t₂, ht₂, hw₂⟩ := hf x w₁
    rw [h] at hw₁
    refine ⟨t₁ ++ t₂, fun a ha => ?_, by
      rw [hw₂, ← List.append_assoc, ← hw₁]; rfl⟩
    rcases List.mem_append.1 ha with ha | ha
    exacts [ht₁ a ha, ht₂ a ha]
  | error e w₁ => rw [h] at hw₁; exact ⟨t₁, ht₁, hw₁⟩

theorem ite {c : Prop} [Decidable c] {a b : FinalizeM α} (ha : Appends P a) (hb : Appends P b) :
    Appends P (if c then a else b) := by
  split_ifs <;> assumption

theorem of_issueAll (fails : Action → Bool) {as : List Action} (h : ∀ a ∈ as, P a) :
    Appends P (issueAll fails as) := by
  induction as with
  | nil => exact of_pure ()
  | cons a as ih =>
    exact bind (of_issue fails (h a (List.mem_cons_self _ _)))
      fun _ => ih fun b hb => h b (List.mem_cons_of_mem _ hb)

theorem of_recordAll {as : List Action} (h : ∀ a ∈ as, P a) : Appends P (recordAll as) := by
  induction as with
  | nil => exact of_pure ()
  | cons a as ih =>
    exact bind (of_record (h a (List.mem_cons_self _ _)))
      fun _ => ih fun b hb => h b (List.mem_cons_of_mem _ hb)

theorem mono {Q : Action → Prop} (hPQ : ∀ a, P a → Q a) {m : FinalizeM α} (hm : Appends P m) :
    Appends Q m := fun w =>
  let ⟨t, ht, hw⟩ := hm w
  ⟨t, fun a ha => hPQ a (ht a ha), hw⟩

end Appends

/-! ## Reading the trace -/

/-- The file was opened in the part's storage. -/
def opened (t : List Action) (name : String) : Prop := .writeFile name ∈ t

/-- The file's buffer was finalized. -/
def finalized (t : List Action) (name : String) : Prop := .finalize name ∈ t

/-- The file's buffer was cancelled. -/
def cancelled (t : List Action) (name : String) : Prop := .cancel name ∈ t

/-- The file was opened and then neither finalized nor cancelled. -/
def leftOpen (t : List Action) (name : String) : Prop :=
  opened t name ∧ ¬ finalized t name ∧ ¬ cancelled t name

instance (t : List Action) (name : String) : Decidable (leftOpen t name) :=
  inferInstanceAs (Decidable (Action.writeFile name ∈ t ∧ ¬ Action.finalize name ∈ t ∧
    ¬ Action.cancel name ∈ t))

end ClickHouse.MergeTree
