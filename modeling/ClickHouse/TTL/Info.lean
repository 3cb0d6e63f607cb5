import Mathlib

set_option autoImplicit false

/-! # TTL infos and the update algorithm of one rule

The TTL bookkeeping of a part (`Processors/Transforms/TTLCalcTransform.cpp`) runs one
`TTLUpdateInfoAlgorithm` per TTL rule of the table. Each tracks the least and the greatest TTL
time of the rows its rule applies to and, when the stream ends, writes them to its rule's entry of
the part's `MergeTreeDataPartTTLInfos`: `table_ttl` for the rows TTL, and a map by result column
for every other kind of rule.

The algorithm and the TTL info types are not among the sources modelled here. What they do is
modelled from the spec (§3 and §4.3): the bounds start from the rule's previous info unless
`force` asks for a clean recomputation, widen to the time of every row that passes the rule's
WHERE, and replace the rule's entry. The TTL expressions are evaluated outside the engine, on
the data of each block.
-/

namespace ClickHouse.TTL

/-! ## Blocks -/

/-- `ColumnWithTypeAndName` (`Core/ColumnWithTypeAndName.h`, not among the sources): a column's
name and its values, one per row. A value is a number: the TTL expressions read dates and times as
numbers, and the transform only passes values on. The column's type is left out. -/
structure ColumnWithTypeAndName where
  name : String
  column : List Nat
  deriving DecidableEq, Repr

/-- `Block` (`Core/Block.h`, not among the sources): named columns. -/
structure Block where
  columns : List ColumnWithTypeAndName
  deriving DecidableEq, Repr

/-- `Block::rows`: the number of values of the first column, `0` for a block without columns. -/
def Block.rows (b : Block) : Nat :=
  match b.columns with
  | [] => 0
  | c :: _ => c.column.length

/-! ## The info of one rule -/

/-- Modelled from the spec: `MergeTreeDataPartTTLInfo`, the least and the greatest TTL time
seen; `none`, the empty info `{}`, until a time is seen. -/
abbrev TTLInfo := Option (Nat × Nat)

namespace TTLInfo

/-- Modelled from the spec: `TTLInfo::update`, which widens the bounds to a time. -/
def update : TTLInfo → Nat → TTLInfo
  | none, time => some (time, time)
  | some (lo, hi), time => some (min lo time, max hi time)

/-- The bounds of `info` contain `time`. -/
def Within (info : TTLInfo) (time : Nat) : Prop := ∃ b ∈ info, b.1 ≤ time ∧ time ≤ b.2

/-- The bounds of `new` contain those of `old`. Every info covers `{}`. -/
def Covers (new old : TTLInfo) : Prop := ∀ b ∈ old, ∃ b' ∈ new, b'.1 ≤ b.1 ∧ b.2 ≤ b'.2

instance (new old : TTLInfo) : Decidable (Covers new old) :=
  inferInstanceAs (Decidable (∀ b ∈ old, ∃ b' ∈ new, b'.1 ≤ b.1 ∧ b.2 ≤ b'.2))

theorem Covers.refl (info : TTLInfo) : Covers info info := fun b hb => ⟨b, hb, le_rfl, le_rfl⟩

theorem Covers.trans {a b c : TTLInfo} (hab : Covers a b) (hbc : Covers b c) : Covers a c := by
  intro x hx
  obtain ⟨y, hy, hxy₁, hxy₂⟩ := hbc x hx
  obtain ⟨z, hz, hyz₁, hyz₂⟩ := hab y hy
  exact ⟨z, hz, hyz₁.trans hxy₁, hxy₂.trans hyz₂⟩

theorem Within.of_covers {new old : TTLInfo} {time : Nat} (h : Covers new old)
    (ht : Within old time) : Within new time := by
  obtain ⟨b, hb, h₁, h₂⟩ := ht
  obtain ⟨b', hb', h₁', h₂'⟩ := h b hb
  exact ⟨b', hb', h₁'.trans h₁, h₂.trans h₂'⟩

theorem covers_update (info : TTLInfo) (time : Nat) : Covers (update info time) info := by
  rintro ⟨lo, hi⟩ rfl
  exact ⟨_, rfl, min_le_left _ _, le_max_left _ _⟩

theorem within_update (info : TTLInfo) (time : Nat) : Within (update info time) time := by
  cases info with
  | none => exact ⟨_, rfl, le_rfl, le_rfl⟩
  | some b => exact ⟨_, rfl, min_le_right _ _, le_max_right _ _⟩

/-- Widening by a list of times keeps every bound covered. -/
theorem covers_foldl_update (times : List Nat) (info : TTLInfo) :
    Covers (times.foldl update info) info := by
  induction times generalizing info with
  | nil => exact Covers.refl info
  | cons t ts ih => exact (ih _).trans (covers_update info t)

/-- **The bounds are those of the times seen**: every time folded in lies within them. -/
theorem within_foldl_update (times : List Nat) (info : TTLInfo) :
    ∀ t ∈ times, Within (times.foldl update info) t := by
  induction times generalizing info with
  | nil => intro t ht; cases ht
  | cons t ts ih =>
    intro s hs
    rcases List.mem_cons.mp hs with rfl | hs
    · exact (within_update info s).of_covers (covers_foldl_update ts _)
    · exact ih _ s hs

end TTLInfo

/-! ## The TTL infos of a part -/

/-- `TTLInfoMap`: the infos of the rules of one kind, by result column. -/
abbrev TTLInfoMap := AList (fun _ : String => TTLInfo)

/-- `TTLUpdateField`: the member of the part's TTL infos a rule's info goes to. -/
inductive TTLUpdateField where
  | tableTTL
  | rowsWhereTTL
  | groupByTTL
  | columnsTTL
  | movesTTL
  | recompressionTTL
  deriving DecidableEq, Repr

/-- The members of `MergeTreeDataPartTTLInfos` the TTL bookkeeping reads and writes. `{}` is the
empty infos. -/
structure TTLInfos where
  table_ttl : TTLInfo := none
  rows_where_ttl : TTLInfoMap := ∅
  group_by_ttl : TTLInfoMap := ∅
  columns_ttl : TTLInfoMap := ∅
  moves_ttl : TTLInfoMap := ∅
  recompression_ttl : TTLInfoMap := ∅
  deriving DecidableEq

namespace TTLInfos

/-- The info of a key in a map as `operator[]` reads it: a missing key reads as `{}`. -/
def entry (m : TTLInfoMap) (key : String) : TTLInfo := (m.lookup key).getD none

/-- Where the info of a field and key lives: `table_ttl` is one info, whatever the key. -/
def slot (field : TTLUpdateField) (key : String) : TTLUpdateField × String :=
  (field, if field = .tableTTL then "" else key)

/-- The info of a field at a key. -/
def get (infos : TTLInfos) (field : TTLUpdateField) (key : String) : TTLInfo :=
  match field with
  | .tableTTL => infos.table_ttl
  | .rowsWhereTTL => entry infos.rows_where_ttl key
  | .groupByTTL => entry infos.group_by_ttl key
  | .columnsTTL => entry infos.columns_ttl key
  | .movesTTL => entry infos.moves_ttl key
  | .recompressionTTL => entry infos.recompression_ttl key

/-- The infos with the info of a field at a key replaced (`ttl_infos.table_ttl = info`, or
`ttl_infos.<field>[key] = info`). -/
def set (infos : TTLInfos) (field : TTLUpdateField) (key : String) (info : TTLInfo) : TTLInfos :=
  match field with
  | .tableTTL => { infos with table_ttl := info }
  | .rowsWhereTTL => { infos with rows_where_ttl := infos.rows_where_ttl.insert key info }
  | .groupByTTL => { infos with group_by_ttl := infos.group_by_ttl.insert key info }
  | .columnsTTL => { infos with columns_ttl := infos.columns_ttl.insert key info }
  | .movesTTL => { infos with moves_ttl := infos.moves_ttl.insert key info }
  | .recompressionTTL => { infos with recompression_ttl := infos.recompression_ttl.insert key info }

/-- The field's map has an entry for the key; `table_ttl` has no keys. -/
def Has (infos : TTLInfos) (field : TTLUpdateField) (key : String) : Prop :=
  match field with
  | .tableTTL => False
  | .rowsWhereTTL => key ∈ infos.rows_where_ttl
  | .groupByTTL => key ∈ infos.group_by_ttl
  | .columnsTTL => key ∈ infos.columns_ttl
  | .movesTTL => key ∈ infos.moves_ttl
  | .recompressionTTL => key ∈ infos.recompression_ttl

theorem entry_insert (m : TTLInfoMap) (key key' : String) (info : TTLInfo) :
    entry (m.insert key info) key' = if key = key' then info else entry m key' := by
  split_ifs with h
  · subst h; simp [entry, AList.lookup_insert]
  · simp [entry, AList.lookup_insert_ne (Ne.symm h)]

/-- The info of a field and key depends only on where it lives. -/
theorem get_eq_of_slot_eq (infos : TTLInfos) {f f' : TTLUpdateField} {k k' : String}
    (h : slot f k = slot f' k') : infos.get f k = infos.get f' k' := by
  simp only [slot, Prod.mk.injEq] at h
  obtain ⟨rfl, h⟩ := h
  cases f <;> simp_all [get]

@[simp] theorem get_empty (f : TTLUpdateField) (k : String) : ({} : TTLInfos).get f k = none := by
  cases f <;> rfl

@[simp] theorem not_has_empty (f : TTLUpdateField) (k : String) : ¬ ({} : TTLInfos).Has f k := by
  cases f <;> simp [Has, AList.not_mem_empty]

theorem get_set (infos : TTLInfos) (f : TTLUpdateField) (k : String) (info : TTLInfo)
    (f' : TTLUpdateField) (k' : String) :
    (infos.set f k info).get f' k' = if slot f k = slot f' k' then info else infos.get f' k' := by
  cases f <;> cases f' <;> simp [get, set, slot, entry_insert]

theorem has_set (infos : TTLInfos) (f : TTLUpdateField) (k : String) (info : TTLInfo)
    (f' : TTLUpdateField) (k' : String) :
    (infos.set f k info).Has f' k' ↔ (f ≠ .tableTTL ∧ f' = f ∧ k' = k) ∨ infos.Has f' k' := by
  cases f <;> cases f' <;> simp [Has, set, AList.mem_insert]

end TTLInfos

/-! ## The update algorithm -/

/-- `TTLExpressions`: a rule's TTL expression and WHERE expression. They are evaluated outside
the engine (§1 of the spec): on a block they give the TTL time of each row, one per row, and
whether each row passes the WHERE. -/
structure TTLExpressions where
  expression : Block → List Nat
  where_expression : Option (Block → List Bool)
  expression_length : ∀ block, (expression block).length = block.rows

/-- The times of the rows of a block that pass the WHERE, in row order; without a WHERE every
row passes. -/
def TTLExpressions.matchingTimes (e : TTLExpressions) (block : Block) : List Nat :=
  match e.where_expression with
  | none => e.expression block
  | some where_expression =>
    ((e.expression block).zip (where_expression block)).filterMap fun (time, passed) =>
      if passed then some time else none

theorem TTLExpressions.matchingTimes_of_rows_eq_zero (e : TTLExpressions) {block : Block}
    (h : block.rows = 0) : e.matchingTimes block = [] := by
  have hnil : e.expression block = [] := List.eq_nil_of_length_eq_zero (by rw [e.expression_length, h])
  unfold matchingTimes
  split <;> simp [hnil]

/-- `TTLUpdateInfoAlgorithm`: the rule's expressions, the entry its info goes to, and the info
accumulated so far. -/
structure TTLUpdateInfoAlgorithm where
  ttl_expressions : TTLExpressions
  ttl_update_field : TTLUpdateField
  ttl_update_key : String
  new_ttl_info : TTLInfo

namespace TTLUpdateInfoAlgorithm

/-- Modelled from the spec: the algorithm of a rule starts from the rule's previous info, or from
`{}` when `force` asks for a clean recomputation. -/
def init (ttl_expressions : TTLExpressions) (ttl_update_field : TTLUpdateField)
    (ttl_update_key : String) (old_ttl_info : TTLInfo) (force : Bool) : TTLUpdateInfoAlgorithm where
  ttl_expressions := ttl_expressions
  ttl_update_field := ttl_update_field
  ttl_update_key := ttl_update_key
  new_ttl_info := if force then none else old_ttl_info

/-- Modelled from the spec: `execute(block)` widens the info to the time of every row of the
block that passes the rule's WHERE. -/
def execute (alg : TTLUpdateInfoAlgorithm) (block : Block) : TTLUpdateInfoAlgorithm :=
  { alg with
    new_ttl_info := (alg.ttl_expressions.matchingTimes block).foldl TTLInfo.update alg.new_ttl_info }

/-- Modelled from the spec: `finalize(data_part)` writes the info to the rule's entry of the
part's TTL infos. -/
def finalize (alg : TTLUpdateInfoAlgorithm) (ttl_infos : TTLInfos) : TTLInfos :=
  ttl_infos.set alg.ttl_update_field alg.ttl_update_key alg.new_ttl_info

/-- Where the algorithm writes. -/
def slot (alg : TTLUpdateInfoAlgorithm) : TTLUpdateField × String :=
  TTLInfos.slot alg.ttl_update_field alg.ttl_update_key

theorem get_finalize (alg : TTLUpdateInfoAlgorithm) (ttl_infos : TTLInfos) (f : TTLUpdateField)
    (k : String) : (alg.finalize ttl_infos).get f k =
      if alg.slot = TTLInfos.slot f k then alg.new_ttl_info else ttl_infos.get f k :=
  TTLInfos.get_set ..

/-- A run of `execute` over blocks: the info widens to the matching times of all of them. -/
theorem foldl_execute (blocks : List Block) (alg : TTLUpdateInfoAlgorithm) :
    blocks.foldl execute alg =
      { alg with
        new_ttl_info := (blocks.flatMap alg.ttl_expressions.matchingTimes).foldl TTLInfo.update
          alg.new_ttl_info } := by
  induction blocks generalizing alg with
  | nil => rfl
  | cons b bs ih => simp only [List.foldl_cons, ih, execute, List.flatMap_cons, List.foldl_append]

/-- **What the finalizers of a list of algorithms leave**: an entry holds the info of the last
algorithm writing it, or what it held before when none does. -/
theorem get_foldl_finalize (algorithms : List TTLUpdateInfoAlgorithm) (init : TTLInfos)
    (f : TTLUpdateField) (k : String) :
    (algorithms.foldl (fun infos alg => alg.finalize infos) init).get f k =
      ((algorithms.reverse.find? (·.slot = TTLInfos.slot f k)).map (·.new_ttl_info)).getD
        (init.get f k) := by
  induction algorithms generalizing init with
  | nil => rfl
  | cons a as ih =>
    rw [List.foldl_cons, ih, List.reverse_cons, List.find?_append]
    cases as.reverse.find? (·.slot = TTLInfos.slot f k) with
    | some _ => rfl
    | none => by_cases h : a.slot = TTLInfos.slot f k <;> simp [get_finalize, h]

/-- The entries of the maps after the finalizers: those of the algorithms, and the ones before. -/
theorem has_foldl_finalize (algorithms : List TTLUpdateInfoAlgorithm) (init : TTLInfos)
    (f : TTLUpdateField) (k : String) :
    (algorithms.foldl (fun infos alg => alg.finalize infos) init).Has f k ↔
      (∃ alg ∈ algorithms, alg.ttl_update_field ≠ .tableTTL ∧ f = alg.ttl_update_field ∧
        k = alg.ttl_update_key) ∨ init.Has f k := by
  induction algorithms generalizing init with
  | nil => simp
  | cons a as ih =>
    rw [List.foldl_cons, ih]
    simp only [finalize, TTLInfos.has_set, List.mem_cons, exists_eq_or_imp, or_assoc]
    exact or_left_comm

end TTLUpdateInfoAlgorithm

end ClickHouse.TTL
