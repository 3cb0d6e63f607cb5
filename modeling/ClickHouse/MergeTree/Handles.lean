import Mathlib

set_option autoImplicit false

/-! # `Finalizer` handles

`finalizePartAsync` returns a `Finalizer`, a move-only handle around a `std::unique_ptr<Impl>`.
The life of an `Impl` ends in one of three ways:

* `Finalizer::finish` or `Finalizer::cancel` move the pointer out of the handle, reset it, and
  run `Impl::finish` or `Impl::cancel` on what they moved out;
* the destructor `~Finalizer` calls `cancel()` when the handle still owns an `Impl`;
* the move assignment is `= default`, so it is the member `unique_ptr`'s move assignment
  `impl.reset(other.impl.release())`: the `Impl` the assigned-to handle owned is destroyed by
  `reset`, with neither `finish` nor `cancel`. We call this a **release**.

The model numbers the `Impl`s in creation order and the handles in construction order, and
records the end of each `Impl`'s life as an `ImplEvent`. Operations on a destroyed handle would
be undefined behaviour in C++; here they change nothing.

The invariant (`Handles.Conserved`) is a conservation law: every `Impl` created so far is owned
by exactly one live handle or has ended exactly once, never both. Each `Impl` therefore gets at
most one of `finish`, `cancel` and release, and an `Impl` no handle owns has ended. What it
does not give is that the end is `finish` or `cancel`: a move assignment onto a handle that
owns an `Impl` ends it with a release.
-/

namespace ClickHouse.MergeTree

/-- An `Impl`, by the order `finalizePartAsync` created it. -/
abbrev ImplId := Nat

/-- The end of an `Impl`'s life. -/
inductive ImplEvent where
  /-- `Impl::finish` ran on it. -/
  | finish (i : ImplId)
  /-- `Impl::cancel` ran on it. -/
  | cancel (i : ImplId)
  /-- The `unique_ptr` owning it was reset by a move assignment: it was destroyed without
  `finish` or `cancel`. -/
  | release (i : ImplId)
  deriving DecidableEq, Repr

/-- The `Impl` an event ends. -/
def ImplEvent.impl : ImplEvent → ImplId
  | .finish i | .cancel i | .release i => i

@[simp] theorem ImplEvent.impl_finish (i : ImplId) : (ImplEvent.finish i).impl = i := rfl
@[simp] theorem ImplEvent.impl_cancel (i : ImplId) : (ImplEvent.cancel i).impl = i := rfl
@[simp] theorem ImplEvent.impl_release (i : ImplId) : (ImplEvent.release i).impl = i := rfl

/-- What a program can do with handles. -/
inductive HandleOp where
  /-- `finalizePartAsync` returns a new handle owning a new `Impl`. -/
  | create
  | finish (h : Nat)
  | cancel (h : Nat)
  /-- `Finalizer(Finalizer && other)`: a new handle. -/
  | moveConstruct (h : Nat)
  /-- `dst = std::move(src)`. -/
  | moveAssign (dst src : Nat)
  /-- `~Finalizer`. -/
  | destroy (h : Nat)
  deriving DecidableEq, Repr

/-- The `impl` member of a live handle: null or an `Impl`. -/
abbrev ImplPtr := Option ImplId

namespace Finalizer

/-- `Finalizer::finish`: `to_finish = std::move(impl); impl.reset();` then
`if (to_finish) to_finish->finish();`. -/
def finish (impl : ImplPtr) : ImplPtr × List ImplEvent :=
  let to_finish := impl
  (none, to_finish.toList.map .finish)

/-- `Finalizer::cancel`: the same with `Impl::cancel`. -/
def cancel (impl : ImplPtr) : ImplPtr × List ImplEvent :=
  let to_cancel := impl
  (none, to_cancel.toList.map .cancel)

/-- `~Finalizer`: `if (impl) cancel();`. -/
def destroy (impl : ImplPtr) : List ImplEvent :=
  if impl.isSome then (cancel impl).2 else []

end Finalizer

/-- The handles of a program: per handle, in construction order, `none` once destroyed and
otherwise its `impl`; the next `Impl`'s number; and the ends of `Impl`s so far. -/
structure Handles where
  slots : List (Option ImplPtr)
  next : ImplId
  events : List ImplEvent
  deriving DecidableEq, Repr

namespace Handles

/-- No handle and no `Impl` yet. -/
def init : Handles := ⟨[], 0, []⟩

/-- The `impl` of a live handle; `none` for a destroyed or unknown one. -/
def slot (hs : Handles) (h : Nat) : Option ImplPtr := hs.slots[h]?.join

/-- Replace the slot of handle `h`. -/
def setSlot (hs : Handles) (h : Nat) (p : Option ImplPtr) : Handles :=
  { hs with slots := hs.slots.set h p }

/-- Record ends of `Impl`s. -/
def emit (hs : Handles) (evs : List ImplEvent) : Handles :=
  { hs with events := hs.events ++ evs }

/-- Construct a handle. -/
def push (hs : Handles) (impl : ImplPtr) : Handles :=
  { hs with slots := hs.slots ++ [some impl] }

/-- `impl.release()` on handle `h`: its pointer, with the handle left null. -/
def release (hs : Handles) (h : Nat) : ImplPtr × Handles :=
  ((hs.slot h).join, hs.setSlot h (some none))

/-- `impl.reset(p)` on handle `h`: the `Impl` it held is destroyed, without `cancel`. -/
def reset (hs : Handles) (h : Nat) (p : ImplPtr) : Handles :=
  (hs.setSlot h (some p)).emit ((hs.slot h).join.toList.map .release)

/-- One operation. -/
def step (hs : Handles) : HandleOp → Handles
  | .create => { hs.push (some hs.next) with next := hs.next + 1 }
  | .finish h =>
    match hs.slot h with
    | some impl => (hs.setSlot h (some (Finalizer.finish impl).1)).emit (Finalizer.finish impl).2
    | none => hs
  | .cancel h =>
    match hs.slot h with
    | some impl => (hs.setSlot h (some (Finalizer.cancel impl).1)).emit (Finalizer.cancel impl).2
    | none => hs
  | .moveConstruct h =>
    match hs.slot h with
    | some impl => (hs.setSlot h (some none)).push impl
    | none => hs
  | .moveAssign dst src =>
    match hs.slot dst, hs.slot src with
    | some _, some _ =>
      let (p, hs) := hs.release src
      hs.reset dst p
    | _, _ => hs
  | .destroy h =>
    match hs.slot h with
    | some impl => (hs.setSlot h none).emit (Finalizer.destroy impl)
    | none => hs

/-- Operations in order. -/
def run (hs : Handles) (ops : List HandleOp) : Handles := ops.foldl step hs

/-- The `Impl`s live handles own, one entry per owning handle. -/
def owned (hs : Handles) : List ImplId := hs.slots.filterMap Option.join

/-- The `Impl`s whose life ended, one entry per event. -/
def ended (hs : Handles) : List ImplId := hs.events.map ImplEvent.impl

/-- **Conservation of `Impl`s**: each `Impl` created so far is owned by exactly one live handle
or has ended exactly once, and no other number occurs. -/
def Conserved (hs : Handles) : Prop := (hs.owned ++ hs.ended).Perm (List.range hs.next)

instance (hs : Handles) : Decidable hs.Conserved :=
  inferInstanceAs (Decidable ((hs.owned ++ hs.ended).Perm (List.range hs.next)))

/-! ## Each operation conserves `Impl`s -/

@[simp] theorem setSlot_next (hs : Handles) (h : Nat) (p : Option ImplPtr) :
    (hs.setSlot h p).next = hs.next := rfl
@[simp] theorem setSlot_ended (hs : Handles) (h : Nat) (p : Option ImplPtr) :
    (hs.setSlot h p).ended = hs.ended := rfl
@[simp] theorem emit_next (hs : Handles) (evs : List ImplEvent) : (hs.emit evs).next = hs.next := rfl
@[simp] theorem emit_owned (hs : Handles) (evs : List ImplEvent) : (hs.emit evs).owned = hs.owned :=
  rfl
@[simp] theorem emit_ended (hs : Handles) (evs : List ImplEvent) :
    (hs.emit evs).ended = hs.ended ++ evs.map ImplEvent.impl := by
  simp [emit, ended]
@[simp] theorem push_next (hs : Handles) (p : ImplPtr) : (hs.push p).next = hs.next := rfl
@[simp] theorem push_ended (hs : Handles) (p : ImplPtr) : (hs.push p).ended = hs.ended := rfl
@[simp] theorem push_owned (hs : Handles) (p : ImplPtr) : (hs.push p).owned = hs.owned ++ p.toList := by
  cases p <;> simp [push, owned]

theorem conserved_iff (hs : Handles) :
    hs.Conserved ↔ ∀ i, hs.owned.count i + hs.ended.count i = (List.range hs.next).count i := by
  simp only [Conserved, List.perm_iff_count, List.count_append]

/-- Replacing one element of a list trades what `f` keeps of the old element for what it keeps
of the new one. -/
theorem count_filterMap_set {α β : Type} [DecidableEq β] (f : α → Option β) (l : List α) {h : Nat}
    {a : α} (b : α) (ha : l[h]? = some a) (y : β) :
    ((l.set h b).filterMap f).count y + (f a).toList.count y =
      (l.filterMap f).count y + (f b).toList.count y := by
  induction l generalizing h with
  | nil => simp at ha
  | cons x xs ih =>
    cases h with
    | zero =>
      obtain rfl : x = a := by simpa using ha
      simp only [List.set_cons_zero, List.filterMap_cons]
      cases f x <;> cases f b <;>
        simp only [List.count_cons, Option.toList_some, Option.toList_none, List.count_nil] <;> omega
    | succ n =>
      have := ih (by simpa using ha)
      simp only [List.set_cons_succ, List.filterMap_cons]
      cases f x <;> simp only [List.count_cons] <;> omega

theorem count_owned_setSlot {hs : Handles} {h : Nat} {s : Option ImplPtr}
    (hh : hs.slots[h]? = some s) (s' : Option ImplPtr) (i : ImplId) :
    (hs.setSlot h s').owned.count i + s.join.toList.count i =
      hs.owned.count i + s'.join.toList.count i :=
  count_filterMap_set Option.join hs.slots s' hh i

theorem slots_of_slot {hs : Handles} {h : Nat} {p : ImplPtr} (hp : hs.slot h = some p) :
    hs.slots[h]? = some (some p) :=
  Option.join_eq_some.mp hp

/-- Setting a slot keeps every live handle live. -/
theorem slot_setSlot {hs : Handles} {h h' : Nat} {q : ImplPtr} (hq : hs.slot h' = some q)
    (x : ImplPtr) : (hs.setSlot h (some x)).slot h' = some (if h = h' then x else q) := by
  have hq' := slots_of_slot hq
  have hlen : h' < hs.slots.length := (List.getElem?_eq_some_iff.mp hq').1
  by_cases e : h = h'
  · subst e; simp [slot, setSlot, hlen]
  · simp [slot, setSlot, List.getElem?_set, e, hq']

/-- Emptying a live handle while its `Impl` ends conserves `Impl`s. -/
theorem Conserved.setSlot_emit {hs : Handles} (hc : hs.Conserved) {h : Nat} {p : ImplPtr}
    (hp : hs.slot h = some p) {s' : Option ImplPtr} (hs' : s'.join = none) {evs : List ImplEvent}
    (hevs : evs.map ImplEvent.impl = p.toList) : ((hs.setSlot h s').emit evs).Conserved := by
  rw [conserved_iff] at hc ⊢
  intro i
  have := count_owned_setSlot (slots_of_slot hp) s' i
  have := hc i
  have hjoin : (some p).join = p := rfl
  simp only [emit_owned, emit_ended, emit_next, setSlot_next, setSlot_ended, List.count_append,
    hevs, hs', hjoin, Option.toList_none, List.count_nil] at *
  omega

/-- Every operation conserves `Impl`s. -/
theorem Conserved.step {hs : Handles} (hc : hs.Conserved) (op : HandleOp) :
    (hs.step op).Conserved := by
  cases op with
  | create =>
    rw [conserved_iff] at hc ⊢
    intro i
    have := hc i
    simp only [Handles.step, owned, ended, push, List.filterMap_append, List.range_succ,
      List.count_append] at this ⊢
    simp
    omega
  | finish h | cancel h | destroy h =>
    simp only [Handles.step]
    split
    · rename_i p hp
      exact hc.setSlot_emit hp (by rfl) (by cases p <;> rfl)
    · exact hc
  | moveConstruct h =>
    simp only [Handles.step]
    split
    · rename_i p hp
      rw [conserved_iff] at hc ⊢
      intro i
      have h₁ := count_owned_setSlot (slots_of_slot hp) (some none) i
      have := hc i
      have hjoin : ∀ x : ImplPtr, (some x).join = x := fun _ => rfl
      simp only [push_owned, push_ended, push_next, setSlot_next, setSlot_ended,
        List.count_append, hjoin, Option.toList_none, List.count_nil] at *
      omega
    · exact hc
  | moveAssign dst src =>
    simp only [Handles.step]
    split
    · rename_i d p hd hp
      obtain ⟨q, hq⟩ : ∃ q, (hs.setSlot src (some none)).slot dst = some q :=
        ⟨_, slot_setSlot hd none⟩
      rw [conserved_iff] at hc ⊢
      intro i
      have h₁ := count_owned_setSlot (slots_of_slot hp) (some none) i
      have h₂ := count_owned_setSlot (slots_of_slot hq) (some p) i
      have := hc i
      have hjoin : ∀ x : ImplPtr, (some x).join = x := fun _ => rfl
      simp only [release, reset, hp, hq, hjoin, emit_owned, emit_ended, emit_next, setSlot_next,
        setSlot_ended, List.count_append, List.map_map, Option.toList_none, List.count_nil] at *
      simp only [Function.comp_def, ImplEvent.impl_release, List.map_id'] at *
      omega
    · exact hc

/-! ## Runs -/

@[simp] theorem run_nil (hs : Handles) : hs.run [] = hs := rfl

@[simp] theorem run_cons (hs : Handles) (op : HandleOp) (ops : List HandleOp) :
    hs.run (op :: ops) = (hs.step op).run ops := rfl

theorem run_append (hs : Handles) (ops ops' : List HandleOp) :
    hs.run (ops ++ ops') = (hs.run ops).run ops' :=
  List.foldl_append _ _ _ _

theorem conserved_init : init.Conserved := List.Perm.refl _

theorem Conserved.run {hs : Handles} (hc : hs.Conserved) (ops : List HandleOp) :
    (hs.run ops).Conserved := by
  induction ops generalizing hs with
  | nil => exact hc
  | cons op ops ih => exact ih (hc.step op)

theorem Conserved.nodup {hs : Handles} (hc : hs.Conserved) : (hs.owned ++ hs.ended).Nodup :=
  hc.nodup_iff.2 (List.nodup_range _)

/-- Events are only ever added. -/
theorem events_prefix_step (hs : Handles) (op : HandleOp) : hs.events <+: (hs.step op).events := by
  cases op <;> simp only [Handles.step] <;> (try split) <;>
    simp [emit, push, setSlot, release, reset, List.prefix_append]

theorem events_prefix_run (hs : Handles) (ops : List HandleOp) : hs.events <+: (hs.run ops).events := by
  induction ops generalizing hs with
  | nil => exact List.prefix_refl _
  | cons op ops ih => exact (events_prefix_step hs op).trans (ih _)

/-- A step releases an `Impl` only as a move assignment between two handles onto a handle that
owns it, and always does so then. -/
theorem release_mem_step_iff (hs : Handles) (op : HandleOp) (i : ImplId) :
    ImplEvent.release i ∈ (hs.step op).events ↔ ImplEvent.release i ∈ hs.events ∨
      ∃ dst src, op = .moveAssign dst src ∧ dst ≠ src ∧ hs.slot dst = some (some i) ∧
        (hs.slot src).isSome := by
  cases op with
  | moveAssign dst src =>
    simp only [Handles.step]
    split
    · rename_i d p hd hp
      have hq := @slot_setSlot hs src dst d hd none
      simp only [release, reset, emit, setSlot, hp, List.mem_append, HandleOp.moveAssign.injEq,
        and_assoc, exists_and_left, exists_eq_left']
      simp only [setSlot] at hq
      rw [hq]
      by_cases e : src = dst
      · subst e; simp
      · simp [e, hd, hp, Ne.symm e]
    · rename_i _ _ hnot
      simp only [HandleOp.moveAssign.injEq, and_assoc, exists_and_left, exists_eq_left',
        iff_self_or]
      rintro ⟨-, hd, hsrc⟩
      obtain ⟨p, hp⟩ := Option.isSome_iff_exists.mp hsrc
      exact (hnot _ _ hd hp).elim
  | _ =>
    simp only [Handles.step]
    try split
    all_goals simp [emit, push, setSlot, Finalizer.finish, Finalizer.cancel, Finalizer.destroy]

theorem release_mem_run_iff (hs : Handles) (ops : List HandleOp) (i : ImplId) :
    ImplEvent.release i ∈ (hs.run ops).events ↔ ImplEvent.release i ∈ hs.events ∨
      ∃ pre dst src post, ops = pre ++ .moveAssign dst src :: post ∧ dst ≠ src ∧
        (hs.run pre).slot dst = some (some i) ∧ ((hs.run pre).slot src).isSome := by
  induction ops generalizing hs with
  | nil => simp
  | cons op ops ih =>
    rw [run_cons, ih]
    constructor
    · rintro (h | ⟨pre, dst, src, post, rfl, hne, hd, hsrc⟩)
      · rcases (release_mem_step_iff hs op i).1 h with h | ⟨dst, src, rfl, hne, hd, hsrc⟩
        · exact .inl h
        · exact .inr ⟨[], dst, src, ops, rfl, hne, hd, hsrc⟩
      · exact .inr ⟨op :: pre, dst, src, post, rfl, hne, hd, hsrc⟩
    · rintro (h | ⟨pre, dst, src, post, heq, hne, hd, hsrc⟩)
      · exact .inl ((release_mem_step_iff hs op i).2 (.inl h))
      · cases pre with
        | nil =>
          obtain ⟨rfl, rfl⟩ := List.cons.inj heq
          exact .inl ((release_mem_step_iff hs _ i).2 (.inr ⟨dst, src, rfl, hne, hd, hsrc⟩))
        | cons op' pre =>
          obtain ⟨rfl, rfl⟩ := List.cons.inj heq
          exact .inr ⟨pre, dst, src, post, rfl, hne, hd, hsrc⟩

end Handles

/-! ## What move assignment does -/

/-- **Each `Impl` ends at most once.** Over every sequence of operations on handles, no `Impl`
gets two of `Impl::finish`, `Impl::cancel` and release, or one of them twice; no two live
handles own one `Impl`; and no live handle owns an `Impl` that has ended. -/
theorem impl_ends_at_most_once (ops : List HandleOp) :
    (Handles.init.run ops).ended.Nodup ∧ (Handles.init.run ops).owned.Nodup ∧
      ∀ i ∈ (Handles.init.run ops).owned, i ∉ (Handles.init.run ops).ended := by
  have h := (Handles.conserved_init.run ops).nodup
  exact ⟨h.of_append_right, h.of_append_left, fun i hi he => List.disjoint_of_nodup_append h hi he⟩

/-- **Releases come from move assignments.** Over every sequence of operations, an `Impl` is
released, destroyed with neither `finish` nor `cancel`, exactly when a move assignment between
two live handles overwrites the handle that owns it. -/
theorem release_iff_moveAssign (ops : List HandleOp) (i : ImplId) :
    ImplEvent.release i ∈ (Handles.init.run ops).events ↔
      ∃ pre dst src post, ops = pre ++ .moveAssign dst src :: post ∧ dst ≠ src ∧
        (Handles.init.run pre).slot dst = some (some i) ∧ ((Handles.init.run pre).slot src).isSome :=
  -- a fresh table has released nothing
  (Handles.release_mem_run_iff _ ops i).trans (or_iff_right (List.not_mem_nil _))

/-- **A move assignment ends an `Impl` without `cancel`.** Two parts' handles, and the first
assigned from the second: no handle owns the first part's `Impl` any more, and neither
`Impl::finish` nor `Impl::cancel` ran on it. -/
theorem moveAssign_drops_impl_without_cancel :
    0 ∉ Handles.owned (Handles.run Handles.init [.create, .create, .moveAssign 0 1]) ∧
      ImplEvent.finish 0 ∉ (Handles.run Handles.init [.create, .create, .moveAssign 0 1]).events ∧
      ImplEvent.cancel 0 ∉ (Handles.run Handles.init [.create, .create, .moveAssign 0 1]).events := by
  decide

end ClickHouse.MergeTree
