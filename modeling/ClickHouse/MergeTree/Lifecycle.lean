import ClickHouse.MergeTree.FinalizePartAsync
import ClickHouse.MergeTree.Handles

set_option autoImplicit false

/-! # A part's life after its blocks are written

`finalizePart` is `finalizePartAsync(...).finish()`; a caller that commits later keeps the
returned `Finalizer`, moves it around, and finishes or cancels it, or lets it be destroyed. This
module runs `finalizePartAsync`, then a program's operations on handles (`Handles.lean`), and
carries out the end of the part's `Impl`, the first one created, on storage: `Impl::finish`,
`Impl::cancel`, or nothing for a release. At the end of the scope the handles still alive are
destroyed, last constructed first; after that no handle owns an `Impl`, and every `Impl` created
has ended exactly once (`scope_end_ends_every_impl`).

An exception can come from `finalizePartAsync` or from `Impl::finish`; `Impl::cancel` and the
handles' own operations are `noexcept`. An exception from `Impl::finish` leaves the run. The
handles still alive are then destroyed while unwinding, but `Finalizer::finish` moved the `Impl`
out of its handle first, so none of them owns it and their destructors do nothing to this part:
the run stops there.
-/

namespace ClickHouse.MergeTree

/-- The end of an `Impl` on this part's storage; the ends of other parts' `Impl`s do nothing
here. -/
def runImplEvent (fails : Action → Bool) (impl : Impl) : ImplEvent → FinalizeM Unit
  | .finish 0 => impl.finish fails
  | .cancel 0 => impl.cancel
  | _ => pure ()

/-- Ends of `Impl`s in order. -/
def runImplEvents (fails : Action → Bool) (impl : Impl) : List ImplEvent → FinalizeM Unit
  | [] => pure ()
  | e :: es => do
    runImplEvent fails impl e
    runImplEvents fails impl es

/-- Operations on handles, each followed by the ends of `Impl`s it caused. -/
def runHandleOps (fails : Action → Bool) (impl : Impl) : Handles → List HandleOp → FinalizeM Handles
  | hs, [] => pure hs
  | hs, op :: ops => do
    runImplEvents fails impl ((hs.step op).events.drop hs.events.length)
    runHandleOps fails impl (hs.step op) ops

/-- The end of the scope: every handle is destroyed, last constructed first. -/
def Handles.destroyAll (hs : Handles) : Handles :=
  hs.run ((List.range hs.slots.length).reverse.map .destroy)

/-- **A part's life**: `finalizePartAsync`, whose handle is the first, then the program's
operations on handles, then the end of the scope. -/
def partLifecycle (fails : Action → Bool) (co : PartCollaborators) (s : MergedBlockOutputStream)
    (sync : Bool) (total_columns_list : Option NamesAndTypesList)
    (additional_column_checksums : Option Checksums)
    (additional_columns_substreams : Option ColumnsSubstreams) (ops : List HandleOp) :
    FinalizeM Unit := do
  let impl ← finalizePartAsync fails co s sync total_columns_list additional_column_checksums
    additional_columns_substreams
  let hs ← runHandleOps fails impl (Handles.init.step .create) ops
  runImplEvents fails impl (hs.destroyAll.events.drop hs.events.length)

/-- The ends of `Impl`s over a part's life, in order. -/
def lifeEvents (ops : List HandleOp) : List ImplEvent :=
  ((Handles.init.step .create).run ops).destroyAll.events

/-! ## The end of the scope -/

namespace Handles

@[simp] theorem next_step_destroy (hs : Handles) (h : Nat) :
    (hs.step (.destroy h)).next = hs.next := by
  simp only [step]
  split <;> rfl

/-- Destroying handle `h` leaves it without an `Impl` and the other handles as they were. -/
theorem slot_step_destroy (hs : Handles) (h h' : Nat) :
    (hs.step (.destroy h)).slot h' = if h' = h then none else hs.slot h' := by
  simp only [step]
  split
  · by_cases e : h' = h
    · subst e
      simp only [slot, emit, setSlot, List.getElem?_set, if_true]
      split <;> rfl
    · simp [slot, emit, setSlot, List.getElem?_set_ne (Ne.symm e), e]
  · split_ifs with e
    · subst e; assumption
    · rfl

theorem slot_run_destroy (hs : Handles) (handles : List Nat) (h' : Nat) :
    (hs.run (handles.map .destroy)).slot h' = if h' ∈ handles then none else hs.slot h' := by
  induction handles generalizing hs with
  | nil => simp
  | cons h handles ih =>
    rw [List.map_cons, run_cons, ih, slot_step_destroy]
    by_cases e : h' = h <;> simp [e]

theorem next_run_destroy (hs : Handles) (handles : List Nat) :
    (hs.run (handles.map .destroy)).next = hs.next := by
  induction handles generalizing hs with
  | nil => rfl
  | cons h handles ih => rw [List.map_cons, run_cons, ih, next_step_destroy]

theorem destroyAll_next (hs : Handles) : hs.destroyAll.next = hs.next :=
  next_run_destroy hs _

/-- At the end of the scope no handle owns an `Impl`. -/
theorem destroyAll_owned (hs : Handles) : hs.destroyAll.owned = [] := by
  refine List.filterMap_eq_nil_iff.2 fun p hp => ?_
  obtain ⟨h', hlt, rfl⟩ := List.getElem_of_mem hp
  have hslot : hs.destroyAll.slot h' = none := by
    rw [destroyAll, slot_run_destroy]
    simp only [List.mem_reverse, List.mem_range]
    split_ifs with hl
    · rfl
    · simp [slot, List.getElem?_eq_none (Nat.le_of_not_lt hl)]
  simp only [slot, List.getElem?_eq_getElem hlt, Option.join, Option.some_bind, id] at hslot
  simp [hslot]

end Handles

/-- **No `Impl` outlives the scope.** Over every sequence of operations on handles, once the
handles still alive are destroyed at the end of the scope, no handle owns an `Impl` and every
`Impl` created has ended exactly once: by `Impl::finish`, by `Impl::cancel`, or released by a
move assignment. -/
theorem scope_end_ends_every_impl (ops : List HandleOp) :
    (Handles.init.run ops).destroyAll.owned = [] ∧
      (Handles.init.run ops).destroyAll.ended.Perm (List.range (Handles.init.run ops).next) := by
  have hc : (Handles.init.run ops).destroyAll.Conserved := (Handles.conserved_init.run ops).run _
  have hown := (Handles.init.run ops).destroyAll_owned
  rw [Handles.Conserved, hown, List.nil_append, Handles.destroyAll_next] at hc
  exact ⟨hown, hc⟩

/-! ## The part's life is its `Impl`'s end -/

section Events

variable (fails : Action → Bool) (impl : Impl)

theorem runImplEvents_append (es es' : List ImplEvent) :
    runImplEvents fails impl (es ++ es') =
      (do runImplEvents fails impl es; runImplEvents fails impl es') := by
  induction es with
  | nil => simp [runImplEvents]
  | cons e es ih => simp [runImplEvents, ih]

/-- What a list of later events adds to a list it extends. -/
theorem drop_append_of_prefix {l₁ l₂ l₃ : List ImplEvent} (h₁ : l₁ <+: l₂) (h₂ : l₂ <+: l₃) :
    l₃.drop l₁.length = l₂.drop l₁.length ++ l₃.drop l₂.length := by
  obtain ⟨a, rfl⟩ := h₁
  obtain ⟨b, rfl⟩ := h₂
  simp

theorem runHandleOps_eq (hs : Handles) (ops : List HandleOp) :
    runHandleOps fails impl hs ops =
      (do runImplEvents fails impl ((hs.run ops).events.drop hs.events.length)
          pure (hs.run ops)) := by
  induction ops generalizing hs with
  | nil => simp [runHandleOps, runImplEvents]
  | cons op ops ih =>
    rw [runHandleOps, ih, Handles.run_cons,
      drop_append_of_prefix (Handles.events_prefix_step hs op) (Handles.events_prefix_run _ ops),
      runImplEvents_append, bind_assoc]

/-- The part's life is `finalizePartAsync` followed by the ends of `Impl`s in order. -/
theorem partLifecycle_eq (co : PartCollaborators) (s : MergedBlockOutputStream) (sync : Bool)
    (total_columns_list : Option NamesAndTypesList) (additional_column_checksums : Option Checksums)
    (additional_columns_substreams : Option ColumnsSubstreams) (ops : List HandleOp) :
    partLifecycle fails co s sync total_columns_list additional_column_checksums
        additional_columns_substreams ops =
      (do let impl ← finalizePartAsync fails co s sync total_columns_list
            additional_column_checksums additional_columns_substreams
          runImplEvents fails impl (lifeEvents ops)) := by
  have hpre : ((Handles.init.step .create).run ops).events <+:
      ((Handles.init.step .create).run ops).destroyAll.events :=
    Handles.events_prefix_run _ _
  unfold partLifecycle lifeEvents
  congr 1
  funext impl
  rw [runHandleOps_eq, bind_assoc]
  simp only [pure_bind]
  have h0 : (Handles.init.step .create).events = [] := rfl
  rw [← runImplEvents_append, h0, List.length_nil, List.drop_zero,
    List.prefix_iff_eq_append.1 hpre]

/-- The part's `Impl` ends at most once over its life, so it is not both finished and
cancelled. -/
theorem lifeEvents_not_finish_and_cancel (ops : List HandleOp) :
    ¬ (ImplEvent.finish 0 ∈ lifeEvents ops ∧ ImplEvent.cancel 0 ∈ lifeEvents ops) := by
  rintro ⟨hf, hc⟩
  have hcons : ((Handles.init.step .create).run ops).destroyAll.Conserved :=
    ((Handles.conserved_init.step _).run _).run _
  have := List.inj_on_of_nodup_map hcons.nodup.of_append_right hf hc rfl
  cases this

theorem runImplEvent_of_ne_finish {e : ImplEvent} (he : e ≠ .finish 0) (w : World) :
    runImplEvent fails impl e w =
      .ok () { w with trace := w.trace ++ if e = .cancel 0 then cancelActions impl else [] } := by
  rcases e with ((_ | i) | (_ | i) | i)
  · exact absurd rfl he
  all_goals simp [runImplEvent, Impl.cancel_apply]

/-- Without `finish`, the ends of `Impl`s return, and a `cancel` of the part's `Impl` performs
`Impl::cancel`. -/
theorem runImplEvents_ok {es : List ImplEvent} (hf : ImplEvent.finish 0 ∉ es) (w : World) :
    ∃ w', runImplEvents fails impl es w = .ok () w' ∧ ∃ t, w'.trace = w.trace ++ t ∧
      (ImplEvent.cancel 0 ∈ es → ∀ a ∈ cancelActions impl, a ∈ t) := by
  induction es generalizing w with
  | nil => exact ⟨w, rfl, [], by simp, by simp⟩
  | cons e es ih =>
    simp only [List.mem_cons, not_or] at hf
    have he := runImplEvent_of_ne_finish fails impl (Ne.symm hf.1) w
    obtain ⟨w', hrun, t, ht, hcancel⟩ := ih hf.2
      { w with trace := w.trace ++ if e = .cancel 0 then cancelActions impl else [] }
    refine ⟨w', by simp only [runImplEvents, bind_apply, he, hrun],
      (if e = .cancel 0 then cancelActions impl else []) ++ t,
      by rw [ht, List.append_assoc], fun hc a ha => ?_⟩
    rcases List.mem_cons.1 hc with rfl | hc
    · exact List.mem_append_left _ (by simpa using ha)
    · exact List.mem_append_right _ (hcancel hc a ha)

/-- Without a `cancel` of the part's `Impl`, the ends of `Impl`s cancel nothing. -/
theorem runImplEvents_appends {es : List ImplEvent} (hc : ImplEvent.cancel 0 ∉ es) :
    Appends (·.isCancel = false) (runImplEvents fails impl es) := by
  induction es with
  | nil => exact .of_pure ()
  | cons e es ih =>
    simp only [List.mem_cons, not_or] at hc
    refine .bind ?_ fun _ => ih hc.2
    rcases e with ((_ | i) | (_ | i) | i)
    · exact Impl.finish_appends fails impl
    all_goals first | exact absurd rfl hc.1 | exact .of_pure ()

end Events

theorem Action.isCancel_of_isStaging {a : Action} (h : a.isStaging = true) : a.isCancel = false := by
  cases a <;> simp_all [Action.isStaging, Action.isCancel]

/-- **A part's life that raises cancels nothing.** Whatever the faults and whatever the program
does with the handles, when the run raises, neither the part writer nor any file was cancelled:
the exception came from `finalizePartAsync`, which returned no handle, or from `Impl::finish`,
which `Finalizer::finish` ran after taking the `Impl` from its handle, and in neither case does
`Impl::cancel` run. The staged files not finalized before the exception are left open. -/
theorem partLifecycle_error_cancels_nothing {fails : Action → Bool} {co : PartCollaborators}
    {s : MergedBlockOutputStream} {sync : Bool} {total_columns_list : Option NamesAndTypesList}
    {additional_column_checksums : Option Checksums}
    {additional_columns_substreams : Option ColumnsSubstreams} {ops : List HandleOp}
    {w w' : World} {e : Error}
    (h : partLifecycle fails co s sync total_columns_list additional_column_checksums
      additional_columns_substreams ops w = .error e w') :
    ∃ t, w'.trace = w.trace ++ t ∧ Action.writerCancel ∉ t ∧ ∀ name, ¬ cancelled t name := by
  suffices ∃ t, w'.trace = w.trace ++ t ∧ ∀ a ∈ t, a.isCancel = false by
    obtain ⟨t, ht, hno⟩ := this
    exact ⟨t, ht, fun hw => by simpa [Action.isCancel] using hno _ hw,
      fun name hc => by simpa [Action.isCancel] using hno _ hc⟩
  obtain ⟨t₁, ht₁, hw₁⟩ := stages_finalizePartAsync fails co s sync total_columns_list
    additional_column_checksums additional_columns_substreams w
  rw [partLifecycle_eq, bind_apply] at h
  cases hf : finalizePartAsync fails co s sync total_columns_list additional_column_checksums
    additional_columns_substreams w with
  | error e₁ w₁ =>
    rw [hf] at h hw₁
    cases h
    exact ⟨t₁, hw₁, fun a ha => Action.isCancel_of_isStaging (ht₁ a ha)⟩
  | ok impl w₁ =>
    rw [hf] at h hw₁
    simp only at h
    by_cases hc : ImplEvent.cancel 0 ∈ lifeEvents ops
    · have hnf : ImplEvent.finish 0 ∉ lifeEvents ops := fun hnf =>
        lifeEvents_not_finish_and_cancel ops ⟨hnf, hc⟩
      obtain ⟨_, hok, -⟩ := runImplEvents_ok fails impl hnf w₁
      rw [hok] at h
      cases h
    · obtain ⟨t₂, ht₂, hw₂⟩ := runImplEvents_appends fails impl hc w₁
      rw [h] at hw₂
      simp only [resultWorld] at hw₁ hw₂
      refine ⟨t₁ ++ t₂, by rw [hw₂, hw₁, List.append_assoc], fun a ha => ?_⟩
      rcases List.mem_append.1 ha with ha | ha
      exacts [Action.isCancel_of_isStaging (ht₁ a ha), ht₂ a ha]

/-- The stream of `streamWithRows 3` without a compression codec. -/
def streamWithoutCodec : MergedBlockOutputStream := { streamWithRows 3 with default_codec := none }

theorem partLifecycle_error_cancels_nothing_without_codec :
    ∃ e w', partLifecycle noFault countingCollaborators streamWithoutCodec false none none none []
        (startWorld (patchPart false)) = .error e w' ∧
      ∃ t, w'.trace = (startWorld (patchPart false)).trace ++ t ∧ Action.writerCancel ∉ t ∧
        ∀ name, ¬ cancelled t name :=
  have h : partLifecycle noFault countingCollaborators streamWithoutCodec false none none none []
      (startWorld (patchPart false)) = .error _ _ := rfl
  ⟨_, _, h, partLifecycle_error_cancels_nothing h⟩

/-- Without a codec, `finalizePartAsync` raises after staging `count.txt`, and the part's life
leaves that file open: neither finalized nor cancelled. -/
theorem missing_codec_leaves_count_txt_open :
    ∃ e w', partLifecycle noFault countingCollaborators streamWithoutCodec false none none none []
        (startWorld (patchPart false)) = .error e w' ∧ leftOpen w'.trace "count.txt" :=
  ⟨_, _, rfl, by decide⟩

/-- **Cancelling cancels the writer and every staged file.** When `finalizePartAsync` returns
and the part's `Impl` is cancelled, by `Finalizer::cancel` or by destroying the handle that owns
it, the part's life returns, and the part writer and every staged file were cancelled. -/
theorem partLifecycle_cancel_cancels_staged {fails : Action → Bool} {co : PartCollaborators}
    {s : MergedBlockOutputStream} {sync : Bool} {total_columns_list : Option NamesAndTypesList}
    {additional_column_checksums : Option Checksums}
    {additional_columns_substreams : Option ColumnsSubstreams} {ops : List HandleOp}
    {w w₁ : World} {impl : Impl}
    (hf : finalizePartAsync fails co s sync total_columns_list additional_column_checksums
      additional_columns_substreams w = .ok impl w₁)
    (hc : ImplEvent.cancel 0 ∈ lifeEvents ops) :
    ∃ w', partLifecycle fails co s sync total_columns_list additional_column_checksums
        additional_columns_substreams ops w = .ok () w' ∧
      Action.writerCancel ∈ w'.trace ∧ ∀ f ∈ impl.written_files, cancelled w'.trace f.name := by
  have hnf : ImplEvent.finish 0 ∉ lifeEvents ops := fun hnf =>
    lifeEvents_not_finish_and_cancel ops ⟨hnf, hc⟩
  obtain ⟨w', hok, t, ht, hall⟩ := runImplEvents_ok fails impl hnf w₁
  refine ⟨w', by rw [partLifecycle_eq, bind_apply, hf]; exact hok, ?_, fun f hf => ?_⟩
  · rw [ht]
    exact List.mem_append_right _ (hall hc _ (List.mem_cons_self _ _))
  · rw [ht]
    exact List.mem_append_right _ (hall hc _ (List.mem_cons_of_mem _ (List.mem_map_of_mem _ hf)))

/-- A part finalized and left to the end of the scope: its handle's destructor cancels it. -/
theorem partLifecycle_cancel_cancels_staged_at_scope_end :
    finalizePartAsync noFault countingCollaborators (streamWithRows 3) false none none none
        (startWorld (patchPart false)) =
      .ok ⟨(countingCollaborators.prepare (streamWithRows 3) none none
          (startWorld (patchPart false))).1,
        (countingCollaborators.stagedWorld (streamWithRows 3) none none none
          (startWorld (patchPart false))).written_files, false⟩
        ((countingCollaborators.stagedWorld (streamWithRows 3) none none none
            (startWorld (patchPart false))).setPart
          (countingCollaborators.finalizedPart (streamWithRows 3)
            (countingCollaborators.stagedWorld (streamWithRows 3) none none none
              (startWorld (patchPart false))).checksums
            (countingCollaborators.stagedWorld (streamWithRows 3) none none none
              (startWorld (patchPart false))).part)) ∧
      ImplEvent.cancel 0 ∈ lifeEvents [] ∧
      ∃ w', partLifecycle noFault countingCollaborators (streamWithRows 3) false none none none []
          (startWorld (patchPart false)) = .ok () w' ∧
        Action.writerCancel ∈ w'.trace ∧
        ∀ f ∈ (countingCollaborators.stagedWorld (streamWithRows 3) none none none
          (startWorld (patchPart false))).written_files, cancelled w'.trace f.name :=
  have hf : finalizePartAsync noFault countingCollaborators (streamWithRows 3) false none none none
      (startWorld (patchPart false)) = _ :=
    finalizePartAsync_noFault countingCollaborators false none none none (by rfl) (by rfl)
  ⟨hf, by decide, partLifecycle_cancel_cancels_staged hf (by decide)⟩

end ClickHouse.MergeTree
