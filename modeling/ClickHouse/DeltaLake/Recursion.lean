import ClickHouse.DeltaLake.Visit

set_option autoImplicit false

/-! # The depth of the read-back

`getDataTypesFromTypeList` follows child list ids, and nothing in `SchemaVisitorData` keeps them
from forming a cycle: delta-kernel passes the ids to the callbacks, and each type visitor records
whatever id it is given. The model bounds the recursion by fuel, and `getSchemaResult` gives it
`list_counter + 1` levels. This module shows that this bound is the code's recursion.

Whatever callbacks the kernel makes, in whatever order and with whatever ids (`runCallbacks`),
every list lies below the counter (`fresh_runCallbacks`). A level more never loses a result
(`getDataTypesFromTypeList_succ_extends`), and once a level adds nothing, no later level does
(`stable_succ`). A level that adds something reads back a list below the counter that the level
before did not (`card_outOfFuel_lt`), so after `list_counter + 1` levels nothing is left to add
(`getDataTypesFromTypeList_fuel_enough`): the result is the one every deeper recursion gives, and
running out of fuel there means that the code's recursion returns at no depth.
-/

namespace ClickHouse.DeltaLake

/-! ## Every state the callbacks build -/

/-- A call of delta-kernel on the visitor: a new list, or a field appended to the list
`sibling_list_id` by one of the type visitors. -/
inductive Callback where
  | makeFieldList
  | simpleType (primitive : Primitive) (sibling_list_id : Nat) (name : String) (nullable : Bool)
      (physical_name : Option String)
  | decimalType (sibling_list_id : Nat) (name : String) (nullable : Bool)
      (physical_name : Option String) (precision scale : Nat)
  | arrayType (sibling_list_id : Nat) (name : String) (nullable : Bool)
      (physical_name : Option String) (child_list_id : Nat)
  | tupleType (sibling_list_id : Nat) (name : String) (nullable : Bool)
      (physical_name : Option String) (child_list_id : Nat)
  | mapType (sibling_list_id : Nat) (name : String) (nullable : Bool)
      (physical_name : Option String) (child_list_id : Nat)

/-- The state after one callback, or the exception it throws. -/
def Callback.apply : Callback → SchemaVisitorData → Except Error SchemaVisitorData
  | .makeFieldList, state => .ok (DeltaLake.makeFieldList state).2
  | .simpleType p sibling name nullable physical_name, state =>
    simpleTypeVisitor (createVisitor p).1 (createVisitor p).2 state sibling name nullable
      physical_name
  | .decimalType sibling name nullable physical_name precision scale, state =>
    decimalTypeVisitor state sibling name nullable physical_name precision scale
  | .arrayType sibling name nullable physical_name child, state =>
    arrayTypeVisitor state sibling name nullable physical_name child
  | .tupleType sibling name nullable physical_name child, state =>
    tupleTypeVisitor state sibling name nullable physical_name child
  | .mapType sibling name nullable physical_name child, state =>
    mapTypeVisitor state sibling name nullable physical_name child

/-- The callbacks in order; the first exception stops them. -/
def runCallbacks : List Callback → SchemaVisitorData → Except Error SchemaVisitorData
  | [], state => .ok state
  | c :: cs, state => do
    let state ← c.apply state
    runCallbacks cs state

theorem Fresh.init : Fresh SchemaVisitorData.init := fun _ _ => rfl

/-- A field is only appended to a list that exists, and so lies below the counter. -/
theorem Fresh.of_pushField {state state' : SchemaVisitorData} (h : Fresh state) {sibling : Nat}
    {field : Field} (hpush : pushField state sibling field = .ok state') : Fresh state' := by
  unfold pushField at hpush
  split at hpush
  · cases hpush
  · rename_i fields hsome
    cases hpush
    refine h.setList (Nat.lt_of_not_le fun hle => ?_) _
    rw [h sibling hle] at hsome
    cases hsome

theorem Fresh.of_apply {state state' : SchemaVisitorData} (h : Fresh state) (c : Callback)
    (happly : c.apply state = .ok state') : Fresh state' := by
  cases c
  case makeFieldList =>
    cases happly
    exact h.makeFieldList
  all_goals exact h.of_pushField happly

/-- **Every list lies below the counter**, whatever callbacks the kernel makes. -/
theorem fresh_runCallbacks :
    ∀ (callbacks : List Callback) {state state' : SchemaVisitorData}, Fresh state →
      runCallbacks callbacks state = .ok state' → Fresh state'
  | [], _, _, h, hrun => by
    cases hrun
    exact h
  | c :: cs, state, _, h, hrun => by
    cases happly : c.apply state with
    | error e => simp only [runCallbacks, happly] at hrun; cases hrun
    | ok s =>
      simp only [runCallbacks, happly] at hrun
      exact fresh_runCallbacks cs (h.of_apply c happly) hrun

/-! ## One level more -/

/-- A read-back `y` gives every result `x` gives: it runs out of fuel at most where `x` does. -/
def Extends {α : Type} (x y : ExceptT Error Option α) : Prop :=
  ∀ r, x.run = some r → y.run = some r

theorem Extends.refl {α : Type} (x : ExceptT Error Option α) : Extends x x := fun _ h => h

theorem Extends.bind {α β : Type} {x x' : ExceptT Error Option α}
    {f f' : α → ExceptT Error Option β} (hx : Extends x x') (hf : ∀ a, Extends (f a) (f' a)) :
    Extends (x >>= f) (x' >>= f') := by
  intro r h
  rw [ExceptT.run_bind] at h ⊢
  cases hr : x.run with
  | none => rw [hr] at h; cases h
  | some e =>
    rw [hx e hr]
    rw [hr] at h
    cases e with
    | ok a => exact hf a r h
    | error e => exact h

theorem Extends.mapM {α β : Type} {g g' : α → ExceptT Error Option β}
    (h : ∀ a, Extends (g a) (g' a)) : ∀ l : List α, Extends (l.mapM g) (l.mapM g')
  | [] => Extends.refl _
  | a :: l => by
    simp only [List.mapM_cons]
    exact (h a).bind fun _ => (Extends.mapM h l).bind fun _ => Extends.refl _

/-- A field's type, read back with children that extend others, extends the other's. -/
theorem fieldType_extends {g g' : Nat → ExceptT Error Option (List DataType)}
    (h : ∀ i, Extends (g i) (g' i)) (field : Field) :
    Extends (fieldType g field) (fieldType g' field) := by
  obtain ⟨name, type, nullable, physical_name, child_list_id, precision, scale, is_bool⟩ := field
  cases is_bool
  case true => exact Extends.refl _
  -- the type decides the branch; only a struct, an array or a map reads its children
  cases type <;>
    simp only [fieldType, isSimpleDataType, Bool.false_eq_true, reduceCtorEq, if_false, ite_true,
      dite_true, dite_false] <;>
    (try split) <;>
    first | exact Extends.refl _ | exact (h _).bind fun _ => Extends.refl _

section Levels

variable (type_lists : Nat → Option (List Field))

/-- **One level more never loses a result.** -/
theorem getDataTypesFromTypeList_succ_extends :
    ∀ fuel list_idx, Extends (getDataTypesFromTypeList type_lists fuel list_idx)
      (getDataTypesFromTypeList type_lists (fuel + 1) list_idx)
  | 0, _ => fun _ h => Option.noConfusion h
  | fuel + 1, list_idx => by
    rw [getDataTypesFromTypeList, getDataTypesFromTypeList]
    split
    · exact Extends.refl _
    · exact Extends.mapM (fieldType_extends (getDataTypesFromTypeList_succ_extends fuel)) _

theorem getDataTypesFromTypeList_extends_of_le {fuel fuel' : Nat} (hle : fuel ≤ fuel')
    (list_idx : Nat) :
    Extends (getDataTypesFromTypeList type_lists fuel list_idx)
      (getDataTypesFromTypeList type_lists fuel' list_idx) := by
  induction hle with
  | refl => exact Extends.refl _
  | step _ ih => exact fun r h => getDataTypesFromTypeList_succ_extends type_lists _ _ r (ih r h)

/-- Once a level adds nothing, the next adds nothing either: each level is read from the one
below. -/
theorem stable_succ {fuel : Nat}
    (h : ∀ i, getDataTypesFromTypeList type_lists (fuel + 1) i =
      getDataTypesFromTypeList type_lists fuel i) (i : Nat) :
    getDataTypesFromTypeList type_lists (fuel + 2) i =
      getDataTypesFromTypeList type_lists (fuel + 1) i := by
  rw [getDataTypesFromTypeList, getDataTypesFromTypeList]
  simp only [h]

/-- The lists below `bound` that `fuel` levels do not read back. -/
def outOfFuel (bound fuel : Nat) : Finset Nat :=
  (Finset.range bound).filter fun i => (getDataTypesFromTypeList type_lists fuel i).run.isNone

variable {bound : Nat} (hbound : ∀ i, bound ≤ i → type_lists i = none)
include hbound

/-- A level that adds something reads back a list below `bound` that the level before did not. -/
theorem card_outOfFuel_lt {fuel : Nat}
    (h : ¬ ∀ i, getDataTypesFromTypeList type_lists (fuel + 2) i =
      getDataTypesFromTypeList type_lists (fuel + 1) i) :
    (outOfFuel type_lists bound (fuel + 2)).card < (outOfFuel type_lists bound (fuel + 1)).card := by
  push_neg at h
  obtain ⟨i, hi⟩ := h
  have hsucc := getDataTypesFromTypeList_succ_extends type_lists (fuel + 1)
  -- the level before ran out of fuel at `i`, and the level after did not
  have hnone : (getDataTypesFromTypeList type_lists (fuel + 1) i).run = none := by
    cases hr : (getDataTypesFromTypeList type_lists (fuel + 1) i).run with
    | none => rfl
    | some r => exact absurd ((hsucc i r hr).trans hr.symm) hi
  have hsome : (getDataTypesFromTypeList type_lists (fuel + 2) i).run ≠ none :=
    fun h' => hi (h'.trans hnone.symm)
  have hlt : i < bound := Nat.lt_of_not_le fun hle => by
    rw [getDataTypesFromTypeList, hbound i hle] at hnone
    cases hnone
  have hsub : outOfFuel type_lists bound (fuel + 2) ⊆ outOfFuel type_lists bound (fuel + 1) := by
    intro j hj
    simp only [outOfFuel, Finset.mem_filter, Option.isNone_iff_eq_none] at hj ⊢
    refine ⟨hj.1, ?_⟩
    cases hr : (getDataTypesFromTypeList type_lists (fuel + 1) j).run with
    | none => rfl
    | some r => rw [hsucc j r hr] at hj; cases hj.2
  refine Finset.card_lt_card ((Finset.ssubset_iff_of_subset hsub).2 ⟨i, ?_, ?_⟩)
  · simp [outOfFuel, hlt, hnone]
  · simp [outOfFuel, hsome]

/-- Either the levels have settled, or each level so far read back one more list below
`bound`. -/
theorem stable_or_card_add_le :
    ∀ k, (∀ i, getDataTypesFromTypeList type_lists (k + 2) i =
        getDataTypesFromTypeList type_lists (k + 1) i) ∨
      (outOfFuel type_lists bound (k + 1)).card + k ≤ bound
  | 0 => .inr ((Finset.card_filter_le _ _).trans (Finset.card_range bound).le)
  | k + 1 => by
    by_cases hs : ∀ i, getDataTypesFromTypeList type_lists (k + 2) i =
        getDataTypesFromTypeList type_lists (k + 1) i
    · exact .inl (stable_succ type_lists hs)
    · have hlt := card_outOfFuel_lt type_lists hbound hs
      rcases stable_or_card_add_le k with hs' | hc
      · exact absurd hs' hs
      · exact .inr (show (outOfFuel type_lists bound (k + 2)).card + (k + 1) ≤ bound by omega)

/-- With every list below `bound`, the levels have settled after `bound + 1`. -/
theorem stable_of_bound (i : Nat) :
    getDataTypesFromTypeList type_lists (bound + 2) i =
      getDataTypesFromTypeList type_lists (bound + 1) i := by
  rcases stable_or_card_add_le type_lists hbound bound with hs | hc
  · exact hs i
  · by_contra hne
    have hlt := card_outOfFuel_lt type_lists hbound fun h => hne (h i)
    omega

/-- From `bound + 1` levels on, no level adds anything. -/
theorem stable_add (d i : Nat) :
    getDataTypesFromTypeList type_lists (bound + 1 + d + 1) i =
      getDataTypesFromTypeList type_lists (bound + 1 + d) i := by
  induction d generalizing i with
  | zero => exact stable_of_bound type_lists hbound i
  | succ d ih => exact stable_succ type_lists ih i

theorem getDataTypesFromTypeList_of_le {fuel : Nat} (hfuel : bound + 1 ≤ fuel) (i : Nat) :
    getDataTypesFromTypeList type_lists fuel i =
      getDataTypesFromTypeList type_lists (bound + 1) i := by
  obtain ⟨d, rfl⟩ := Nat.exists_eq_add_of_le hfuel
  induction d with
  | zero => rfl
  | succ d ih => rw [← Nat.add_assoc, stable_add type_lists hbound d i, ih (Nat.le_add_right _ _)]

end Levels

/-- **`list_counter + 1` levels read back everything.** Whatever callbacks delta-kernel makes on
a fresh `SchemaVisitorData`, in any order and with any ids, `getDataTypesFromTypeList` gives with
`list_counter + 1` levels, the fuel `getSchemaResult` gives it, every result that any number of
levels gives, and more levels change nothing. So its result is what the code's recursion
returns, and running out of fuel means that the code's recursion returns at no depth: some list
is entered inside itself. -/
theorem getDataTypesFromTypeList_fuel_enough {callbacks : List Callback}
    {data : SchemaVisitorData} (h : runCallbacks callbacks SchemaVisitorData.init = .ok data)
    (list_idx : Nat) :
    (∀ fuel, data.list_counter + 1 ≤ fuel →
      getDataTypesFromTypeList data.type_lists fuel list_idx =
        getDataTypesFromTypeList data.type_lists (data.list_counter + 1) list_idx) ∧
    ∀ fuel r, (getDataTypesFromTypeList data.type_lists fuel list_idx).run = some r →
      (getDataTypesFromTypeList data.type_lists (data.list_counter + 1) list_idx).run = some r := by
  have hfresh := fresh_runCallbacks callbacks Fresh.init h
  refine ⟨fun fuel hle => getDataTypesFromTypeList_of_le _ hfresh hle _, fun fuel r hr => ?_⟩
  rcases le_total fuel (data.list_counter + 1) with hle | hle
  · exact getDataTypesFromTypeList_extends_of_le _ hle _ r hr
  · rwa [getDataTypesFromTypeList_of_le _ hfresh hle] at hr

/-- Callbacks that make the list `1` hold an array whose element is read from list `1` itself. -/
def cyclicCallbacks : List Callback :=
  [.makeFieldList, .makeFieldList, .arrayType 0 "a" false none 1,
    .arrayType 1 "array_element" false none 1]

theorem getDataTypesFromTypeList_fuel_enough_of_cycle :
    ∃ data, runCallbacks cyclicCallbacks SchemaVisitorData.init = .ok data ∧
      ((∀ fuel, data.list_counter + 1 ≤ fuel →
        getDataTypesFromTypeList data.type_lists fuel 0 =
          getDataTypesFromTypeList data.type_lists (data.list_counter + 1) 0) ∧
      ∀ fuel r, (getDataTypesFromTypeList data.type_lists fuel 0).run = some r →
        (getDataTypesFromTypeList data.type_lists (data.list_counter + 1) 0).run = some r) :=
  have hrun : runCallbacks cyclicCallbacks SchemaVisitorData.init = .ok _ := rfl
  ⟨_, hrun, getDataTypesFromTypeList_fuel_enough hrun 0⟩

/-- The cycle is out of fuel at `list_counter + 1` levels, and so at every depth. -/
example : ∃ data, runCallbacks cyclicCallbacks SchemaVisitorData.init = .ok data ∧
    data.list_counter = 2 ∧ (getDataTypesFromTypeList data.type_lists 3 0).run = none :=
  ⟨_, rfl, rfl, rfl⟩

end ClickHouse.DeltaLake
