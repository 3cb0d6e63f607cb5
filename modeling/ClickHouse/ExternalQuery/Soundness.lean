import ClickHouse.ExternalQuery.Transform

set_option autoImplicit false

/-! # The external `WHERE` keeps every row the query keeps

The external database filters with the `WHERE` it is sent, so a row that the query's own `WHERE`
keeps must pass the external one too. `external_where_keeps_rows` proves this for every `WHERE`
that is a conjunction (`AST.Conjunction`) and every row, under assumptions on how functions are
read:
* the constant analysis is right: a node it finds constant evaluates to that value;
* `1 = 1` is true and `1 = 0` is false;
* `tuple(...)` builds a tuple, and a nameless function of at most one argument, printed `(x)`,
  reads as that tuple.

The proof follows the rewrites.
* Pruning keeps exactly the conjuncts whose columns are all known (`conjuncts_pruned`,
  `kept_iff_inspected_subset`), so it only weakens a conjunction.
* The three in-place rewrites keep the value of every tree (`eval_replaceConstantExpressions`,
  `eval_replaceLiteralToExpr`, `eval_isCompatible`).
* The fallback keeps only conjuncts of a tree that holds (`holds_drainPredicates`).

For a `WHERE` with an `or`, pruning can strengthen the condition instead, and rows are lost
(`pruned_or_drops_rows` in `Transform.lean`).
-/

namespace ClickHouse.ExternalQuery

/-! ## Conjuncts -/

namespace AST

mutual
/-- The conjuncts of a tree: the arguments of its `and` nodes, down the `and`s. -/
def conjuncts : AST → List AST
  | .function name args params =>
    if name = "and" then conjunctsList args else [.function name args params]
  | t => [t]

/-- The conjuncts of the trees of a list, in order. -/
def conjunctsList : List AST → List AST
  | [] => []
  | t :: ts => conjuncts t ++ conjunctsList ts
end

theorem conjunctsList_eq_flatMap (ts : List AST) : conjunctsList ts = ts.flatMap conjuncts := by
  induction ts with
  | nil => rfl
  | cons t ts ih => simp [conjunctsList, ih]

@[simp] theorem conjuncts_and (args : List AST) (params : Option (List AST)) :
    (AST.function "and" args params).conjuncts = args.flatMap conjuncts := by
  simp [conjuncts, conjunctsList_eq_flatMap]

theorem conjuncts_of_noAndOr {t : AST} (h : t.noAndOr = true) : t.conjuncts = [t] := by
  cases t with
  | function name args params =>
    have hname : name ≠ "and" := by
      rintro rfl
      simp [noAndOr, isAndOr] at h
    simp [conjuncts, hname]
  | _ => rfl

variable (interp : String → List Field → Field) (row : String → Field)

/-- A row passes a conjunction exactly when it passes each of its conjuncts. -/
theorem Conjunction.holds_iff {t : AST} (hc : t.Conjunction) :
    t.Holds interp row ↔ ∀ a ∈ t.conjuncts, a.Holds interp row := by
  induction hc with
  | atom h => simp [conjuncts_of_noAndOr h]
  | @and args params _ ih =>
    rw [holds_and_iff, conjuncts_and]
    refine (forall₂_congr fun a ha => ih a ha).trans ?_
    simp only [List.mem_flatMap]
    exact ⟨fun h c ⟨a, ha, hc⟩ => h a ha c hc, fun h a ha c hc => h c ⟨a, ha, hc⟩⟩

end AST

/-! ## Pruning keeps the conjuncts over known columns -/

section Pruning

variable (known_names : List String)

mutual
/-- On a tree without `and` and `or`, pruning leaves the tree exactly when every column it
inspects is known. -/
theorem kept_iff_inspected_subset :
    ∀ t : AST, t.noAndOr = true →
      ((removeUnknownSubexpressions known_names t).2 = true ↔ t.inspected ⊆ known_names)
  | .identifier n, _ => by simp [removeUnknownSubexpressions, AST.inspected]
  | .tableIdentifier _, _ => by simp [removeUnknownSubexpressions, AST.inspected]
  | .literal _, _ => by simp [removeUnknownSubexpressions, AST.inspected]
  | .function name args params, h => by
    simp only [AST.noAndOr, Bool.and_eq_true, Bool.not_eq_true'] at h
    obtain ⟨⟨hname, hargs⟩, hparams⟩ := h
    have ha := leaveChildren_kept_iff args hargs
    have hp := leaveParameters_kept_iff params hparams
    simp only [removeUnknownSubexpressions, hname, Bool.false_eq_true, ↓reduceIte, AST.inspected,
      List.append_subset]
    split <;> simp_all
  | .expressionList cs, h => by
    simp [removeUnknownSubexpressions, AST.inspected, leaveChildren_kept_iff cs h]

theorem leaveChildren_kept_iff :
    ∀ ts : List AST, AST.noAndOrList ts = true →
      ((leaveChildren known_names ts).2 = true ↔ AST.inspectedList ts ⊆ known_names)
  | [], _ => by simp [leaveChildren, AST.inspectedList]
  | t :: ts, h => by
    simp only [AST.noAndOrList, Bool.and_eq_true] at h
    have ht := kept_iff_inspected_subset t h.1
    have hts := leaveChildren_kept_iff ts h.2
    simp only [leaveChildren, AST.inspectedList, List.append_subset]
    split <;> simp_all

theorem leaveParameters_kept_iff :
    ∀ ps : Option (List AST), AST.noAndOrParams ps = true →
      ((leaveParameters known_names ps).2 = true ↔ AST.inspectedParams ps ⊆ known_names)
  | none, _ => by simp [leaveParameters, AST.inspectedParams]
  | some ps, h => by simp [leaveParameters, AST.inspectedParams, leaveChildren_kept_iff ps h]
end

/-- The conjuncts that pruning keeps, as `removeUnknownChildren` keeps the arguments of an `and`. -/
theorem conjunctsList_removeUnknownChildren {args : List AST}
    (ih : ∀ a ∈ args,
      (if (removeUnknownSubexpressions known_names a).2 then
        (removeUnknownSubexpressions known_names a).1.conjuncts else []) =
      a.conjuncts.filter fun c => (removeUnknownSubexpressions known_names c).2) :
    AST.conjunctsList (removeUnknownChildren known_names args) =
      (args.flatMap AST.conjuncts).filter fun c => (removeUnknownSubexpressions known_names c).2 := by
  induction args with
  | nil => rfl
  | cons a as ihs =>
    have ha := ih a (List.mem_cons_self a as)
    rw [List.flatMap_cons, List.filter_append, ← ha,
      ← ihs fun b hb => ih b (List.mem_cons_of_mem a hb)]
    simp only [removeUnknownChildren]
    split <;> simp_all [AST.conjunctsList]

/-- **Pruning a conjunction keeps exactly its conjuncts over known columns.** What is left of
the tree, when anything is, has as conjuncts those of the tree that pruning keeps, in order;
when nothing is left, no conjunct is kept. -/
theorem conjuncts_pruned {t : AST} (hc : t.Conjunction) :
    (if (removeUnknownSubexpressions known_names t).2 then
      (removeUnknownSubexpressions known_names t).1.conjuncts else []) =
      t.conjuncts.filter fun c => (removeUnknownSubexpressions known_names c).2 := by
  induction hc with
  | @atom t h =>
    rw [AST.conjuncts_of_noAndOr h, removeUnknownSubexpressions_of_noAndOr t h,
      AST.conjuncts_of_noAndOr h]
    split <;> simp_all
  | @and args params _ ih =>
    have hkept := conjunctsList_removeUnknownChildren known_names ih
    simp only [removeUnknownSubexpressions, show AST.isAndOr "and" = true from rfl, ite_true,
      AST.conjuncts_and] at hkept ⊢
    generalize removeUnknownChildren known_names args = children at hkept ⊢
    rcases children with _ | ⟨c, _ | ⟨d, rest⟩⟩
    · simpa [AST.conjunctsList] using hkept
    · simpa [AST.conjunctsList] using hkept
    · simpa [AST.conjunctsList_eq_flatMap] using hkept

/-- Pruning a conjunction leaves a conjunction. -/
theorem AST.Conjunction.pruned {t : AST} (hc : t.Conjunction) :
    (removeUnknownSubexpressions known_names t).1.Conjunction := by
  induction hc with
  | @atom t h => rw [removeUnknownSubexpressions_of_noAndOr t h]; exact .atom h
  | @and args params _ ih =>
    have hkept : ∀ c ∈ removeUnknownChildren known_names args, c.Conjunction := by
      intro c hc
      obtain ⟨a, ha, -, rfl⟩ := mem_removeUnknownChildren.1 hc
      exact ih a ha
    simp only [removeUnknownSubexpressions, show AST.isAndOr "and" = true from rfl, ite_true]
    generalize removeUnknownChildren known_names args = children at hkept ⊢
    rcases children with _ | ⟨c, _ | ⟨d, rest⟩⟩
    · exact .and fun _ h => absurd h (List.not_mem_nil _)
    · exact hkept c (List.mem_singleton_self c)
    · exact .and hkept

/-- A tree that pruning does not leave is not the literal `1` or `0`. -/
theorem literalToExpr_pruned {t : AST} (h : (removeUnknownSubexpressions known_names t).2 = false) :
    literalToExpr (removeUnknownSubexpressions known_names t).1 = none := by
  cases t with
  | literal v => simp [removeUnknownSubexpressions] at h
  | function name args params =>
    simp only [removeUnknownSubexpressions] at h ⊢
    split_ifs at h ⊢
    · split <;> simp_all [literalToExpr]
    all_goals rfl
  | _ => rfl

/-- Every conjunct of a conjunction is free of `and` and `or`. -/
theorem AST.Conjunction.noAndOr_of_mem_conjuncts {t : AST} (hc : t.Conjunction) :
    ∀ c ∈ t.conjuncts, c.noAndOr = true := by
  induction hc with
  | @atom t h => simpa [AST.conjuncts_of_noAndOr h] using h
  | @and args params _ ih =>
    simp only [AST.conjuncts_and, List.mem_flatMap]
    rintro c ⟨a, ha, hca⟩
    exact ih a ha c hca

/-- **Pruning a conjunction keeps exactly its conjuncts over known columns**, in order: the
conjuncts of what is left (none when nothing is left) are the conjuncts of the tree that inspect
only `known_names`. -/
theorem pruning_keeps_known_conjuncts {t : AST} (hc : t.Conjunction) :
    (if (removeUnknownSubexpressions known_names t).2 then
      (removeUnknownSubexpressions known_names t).1.conjuncts else []) =
      t.conjuncts.filter fun c => decide (c.inspected ⊆ known_names) := by
  rw [conjuncts_pruned known_names hc]
  refine List.filter_congr fun c hmem => ?_
  rw [Bool.eq_iff_iff, decide_eq_true_iff]
  exact kept_iff_inspected_subset known_names c (hc.noAndOr_of_mem_conjuncts c hmem)

end Pruning

/-- `x = 1 AND y = 2`. -/
def sampleWhere : AST :=
  .function "and" [.function "equals" [.identifier "x", .literal (.int64 1)] none,
    .function "equals" [.identifier "y", .literal (.int64 2)] none] none

theorem sampleWhere_conjunction : sampleWhere.Conjunction := by
  refine .and fun a ha => .atom ?_
  simp only [List.mem_cons, List.mem_singleton, List.not_mem_nil, or_false] at ha
  rcases ha with rfl | rfl <;> rfl

/-- With only `x` known, pruning `x = 1 AND y = 2` keeps its conjuncts over `x`. -/
theorem pruning_keeps_conjunct_over_x :
    sampleWhere.Conjunction ∧
    (if (removeUnknownSubexpressions ["x"] sampleWhere).2 then
      (removeUnknownSubexpressions ["x"] sampleWhere).1.conjuncts else []) =
      sampleWhere.conjuncts.filter fun c => decide (c.inspected ⊆ ["x"]) :=
  ⟨sampleWhere_conjunction, pruning_keeps_known_conjuncts ["x"] sampleWhere_conjunction⟩

/-- Where pruning leaves nothing of the `WHERE`, the query's `WHERE` is not the literal `1` or
`0`. -/
theorem literalToExpr_of_not_left {query_where original_where : Option AST}
    {available_columns : NamesAndTypesList}
    (h : removeUnknownSubexpressionsFromWhere query_where available_columns = (original_where, false)) :
    original_where.bind literalToExpr = none := by
  unfold removeUnknownSubexpressionsFromWhere at h
  split at h
  · cases h; rfl
  · split at h <;> simp only [Prod.mk.injEq] at h <;> obtain ⟨rfl, hl⟩ := h
    · rfl
    · exact literalToExpr_pruned _ hl

/-- Pruning the `WHERE` only weakens a conjunction. A `WHERE` that is an expression list never
holds, since its value is a tuple. -/
theorem holds_removeUnknownSubexpressionsFromWhere (interp : String → List Field → Field)
    (row : String → Field) {query_where w : AST} {available_columns : NamesAndTypesList}
    (h : removeUnknownSubexpressionsFromWhere (some query_where) available_columns = (some w, true))
    (hc : query_where.Conjunction) (ht : query_where.Holds interp row) : w.Holds interp row := by
  simp only [removeUnknownSubexpressionsFromWhere] at h
  split at h
  · simp [AST.Holds, AST.eval, Field.truth] at ht
  · simp only [Prod.mk.injEq, Option.some.injEq] at h
    obtain ⟨rfl, hl⟩ := h
    have hconj := conjuncts_pruned (available_columns.map Prod.fst) hc
    rw [if_pos hl] at hconj
    rw [(hc.pruned _).holds_iff, hconj]
    exact fun a ha => (hc.holds_iff interp row).1 ht a (List.mem_of_mem_filter ha)

/-! ## The in-place rewrites keep the value of every tree -/

section Rewrites

variable (interp : String → List Field → Field) (row : String → Field)

/-- A function node's value depends on its name and its arguments' values only. -/
theorem eval_function_congr {name : String} {args args' : List AST}
    {params params' : Option (List AST)}
    (h : AST.evalList interp row args' = AST.evalList interp row args) :
    (AST.function name args' params').eval interp row = (AST.function name args params).eval interp row := by
  simp only [AST.eval, h]

mutual
/-- `replaceConstantExpressions` keeps the value of every tree when the constant analysis is
right. -/
theorem eval_replaceConstantExpressions (block_with_constants : AST → Option Field)
    (hconst : ∀ t v, block_with_constants t = some v → t.eval interp row = v) :
    ∀ t : AST, (replaceConstantExpressions block_with_constants t).eval interp row = t.eval interp row
  | .function name args params => by
    simp only [replaceConstantExpressions]
    split
    · rename_i v hv
      exact (hconst _ _ hv).symm
    · exact eval_function_congr interp row
        (evalList_replaceConstantExpressionsList block_with_constants hconst args)
  | .expressionList cs => by
    simp only [replaceConstantExpressions, AST.eval,
      evalList_replaceConstantExpressionsList block_with_constants hconst cs]
  | .identifier _ => rfl
  | .tableIdentifier _ => rfl
  | .literal _ => rfl

theorem evalList_replaceConstantExpressionsList (block_with_constants : AST → Option Field)
    (hconst : ∀ t v, block_with_constants t = some v → t.eval interp row = v) :
    ∀ ts : List AST, AST.evalList interp row (replaceConstantExpressionsList block_with_constants ts) =
      AST.evalList interp row ts
  | [] => rfl
  | t :: ts => by
    simp only [replaceConstantExpressionsList, AST.evalList,
      eval_replaceConstantExpressions block_with_constants hconst t,
      evalList_replaceConstantExpressionsList block_with_constants hconst ts]
end

/-- How the functions the rewrites introduce are read: `1 = 1` is true and `1 = 0` is false,
`tuple(...)` builds a tuple, and a nameless function of at most one argument, printed `(x)`, is
that tuple. -/
structure Reading (interp : String → List Field → Field) : Prop where
  equals_one : (interp "equals" [.int64 1, .int64 1]).truth = some true
  equals_zero : (interp "equals" [.int64 1, .int64 0]).truth = some false
  tuple : ∀ vs, interp "tuple" vs = .tuple vs
  paren : ∀ vs : List Field, vs.length ≤ 1 → interp "" vs = .tuple vs

/-- `1 = 1` and `1 = 0` have the truth of the literals `1` and `0` they replace. -/
theorem truth_literalToExpr (hr : Reading interp) {t e : AST} (h : literalToExpr t = some e) :
    (e.eval interp row).truth = (t.eval interp row).truth := by
  unfold literalToExpr at h
  split at h <;> cases h
  · simpa [AST.eval, AST.evalList, Field.truth] using hr.equals_one
  · simpa [AST.eval, AST.evalList, Field.truth] using hr.equals_zero

/-- Where `1 = 1` replaces a `1` that holds, it holds. -/
theorem holds_literalToExpr (hr : Reading interp) {t e : AST} (h : literalToExpr t = some e)
    (ht : t.Holds interp row) : e.Holds interp row := by
  rw [AST.Holds, truth_literalToExpr interp row hr h]
  exact ht

mutual
/-- `replaceLiteralToExpr` keeps the value of every tree: under `and` and `or` only the truth of
an argument counts, and `1 = 1` and `1 = 0` have the truth of `1` and `0`. -/
theorem eval_replaceLiteralToExpr (hr : Reading interp) :
    ∀ t : AST, (replaceLiteralToExpr t).eval interp row = t.eval interp row
  | .function name args params => by
    simp only [replaceLiteralToExpr]
    cases h : AST.isAndOr name with
    | false => exact eval_function_congr interp row (evalList_replaceLiteralToExprArgs hr args)
    | true =>
      have ht := truths_replaceLiteralToExprArgs hr true args
      rcases (by simpa [AST.isAndOr] using h : name = "and" ∨ name = "or") with rfl | rfl <;>
        simp only [AST.eval, ite_true, ht]
  | .expressionList cs => by
    simp only [replaceLiteralToExpr, AST.eval, evalList_replaceLiteralToExprArgs hr cs]
  | .identifier _ => rfl
  | .tableIdentifier _ => rfl
  | .literal _ => rfl

theorem evalList_replaceLiteralToExprArgs (hr : Reading interp) :
    ∀ ts : List AST, AST.evalList interp row (replaceLiteralToExprArgs false ts) =
      AST.evalList interp row ts
  | [] => rfl
  | t :: ts => by
    simp only [replaceLiteralToExprArgs, Bool.false_eq_true, ↓reduceIte, Option.getD_none,
      AST.evalList, eval_replaceLiteralToExpr hr t, evalList_replaceLiteralToExprArgs hr ts]

theorem truths_replaceLiteralToExprArgs (hr : Reading interp) (and_or : Bool) :
    ∀ ts : List AST, (AST.evalList interp row (replaceLiteralToExprArgs and_or ts)).map Field.truth =
      (AST.evalList interp row ts).map Field.truth
  | [] => rfl
  | t :: ts => by
    simp only [replaceLiteralToExprArgs, AST.evalList, List.map_cons,
      truths_replaceLiteralToExprArgs hr and_or ts]
    cases h : (if and_or then literalToExpr t else none) with
    | none => simp only [Option.getD_none, eval_replaceLiteralToExpr hr t]
    | some e =>
      have he : literalToExpr t = some e := by split at h <;> simp_all
      simp only [Option.getD_some, truth_literalToExpr interp row hr he]
end

/-- Clearing the name of a `tuple` of at most one argument keeps its value. -/
theorem eval_tupleName (hr : Reading interp) {name : String} {args args' : List AST}
    {params : Option (List AST)}
    (h : AST.evalList interp row args' = AST.evalList interp row args) :
    (AST.function (if name = "tuple" ∧ args.length ≤ 1 then "" else name) args' none).eval
      interp row = (AST.function name args params).eval interp row := by
  split_ifs with hn
  · obtain ⟨rfl, hlen⟩ := hn
    have hvs : (AST.evalList interp row args).length ≤ 1 := by
      simpa [AST.evalList_eq_map] using hlen
    simp [AST.eval, h, hr.tuple, hr.paren _ hvs]
  · exact eval_function_congr interp row h

mutual
/-- `isCompatible` keeps the value of every tree: the nameless `(x)` it makes of a one-element
tuple reads as that tuple. -/
theorem eval_isCompatible (hr : Reading interp) :
    ∀ t : AST, (isCompatible t).1.eval interp row = t.eval interp row
  | .function name args (some ps) => rfl
  | .function name args none => by
    have hargs := evalList_isCompatibleArgs hr args
    simp only [isCompatible]
    split
    · rfl
    · split
      · exact eval_tupleName interp row hr rfl
      · exact eval_tupleName interp row hr hargs
  | .literal v => by
    simp only [isCompatible, literalCompatible]
    split
    · simp [AST.eval, AST.evalList, hr.paren]
    · rfl
  | .identifier _ => rfl
  | .tableIdentifier _ => rfl
  | .expressionList _ => rfl

theorem evalList_isCompatibleArgs (hr : Reading interp) :
    ∀ ts : List AST, AST.evalList interp row (isCompatibleArgs ts).1 = AST.evalList interp row ts
  | [] => rfl
  | t :: ts => by
    simp only [isCompatibleArgs]
    split <;> simp only [AST.evalList, eval_isCompatible hr t, evalList_isCompatibleArgs hr ts]
end

/-! ## The fallback keeps conjuncts -/

/-- A `tuple` never holds: its value is a tuple, not a number. -/
theorem not_holds_tuple (hr : Reading interp) (args : List AST) (params : Option (List AST)) :
    ¬ (AST.function "tuple" args params).Holds interp row := by
  simp [AST.Holds, AST.eval, hr.tuple, Field.truth]

/-- The arguments of an `and` or `tuple` node that holds hold. -/
theorem holds_args_of_isAndTuple (hr : Reading interp) {name : String} {args : List AST}
    {params : Option (List AST)} (hn : isAndTuple name = true)
    (h : (AST.function name args params).Holds interp row) : ∀ a ∈ args, a.Holds interp row := by
  rcases (by simpa [isAndTuple] using hn : name = "and" ∨ name = "tuple") with rfl | rfl
  · exact (AST.holds_and_iff interp row args params).1 h
  · exact absurd h (not_holds_tuple interp row hr args params)

/-- One turn of the fallback's loop over arguments that hold keeps arguments that hold, and
queues lists of arguments that hold. -/
theorem holds_pushCompatible (hr : Reading interp) :
    ∀ args : List AST, (∀ a ∈ args, a.Holds interp row) →
      (∀ e ∈ (pushCompatible args).1, e.Holds interp row) ∧
        ∀ l ∈ (pushCompatible args).2, ∀ a ∈ l, a.Holds interp row
  | [], _ => by simp [pushCompatible]
  | e :: es, h => by
    have he : (isCompatible e).1.Holds interp row := by
      rw [AST.Holds, eval_isCompatible interp row hr]
      exact h e (List.mem_cons_self e es)
    obtain ⟨ih₁, ih₂⟩ := holds_pushCompatible hr es fun a ha => h a (List.mem_cons_of_mem e ha)
    simp only [pushCompatible]
    split
    · exact ⟨List.forall_mem_cons.2 ⟨he, ih₁⟩, ih₂⟩
    · split
      · rename_i name args' params' hres
        split
        · rename_i hn
          rw [hres] at he
          exact ⟨ih₁, List.forall_mem_cons.2 ⟨holds_args_of_isAndTuple interp row hr hn he, ih₂⟩⟩
        · exact ⟨ih₁, ih₂⟩
      · exact ⟨ih₁, ih₂⟩

/-- **The fallback's loop keeps only conditions that hold** when every queued argument holds. -/
theorem holds_drainPredicates (hr : Reading interp) :
    ∀ (fuel : Nat) (predicates : List (List AST)),
      (∀ l ∈ predicates, ∀ a ∈ l, a.Holds interp row) →
        ∀ e ∈ drainPredicates fuel predicates, e.Holds interp row
  | 0, _, _ => by simp [drainPredicates]
  | _ + 1, [], _ => by simp [drainPredicates]
  | fuel + 1, args :: predicates, h => by
    obtain ⟨h₁, h₂⟩ := holds_pushCompatible interp row hr args (h args (List.mem_cons_self _ _))
    simp only [drainPredicates, List.mem_append]
    rintro e (he | he)
    · exact h₁ e he
    · refine holds_drainPredicates hr fuel _ (fun l hl => ?_) e he
      rcases List.mem_append.mp hl with hl | hl
      · exact h l (List.mem_cons_of_mem _ hl)
      · exact h₂ l hl

/-- The `WHERE` `chooseWhere` sets holds wherever the checked tree does. -/
theorem holds_chooseWhere (hr : Reading interp) {strict : Bool} {checked : AST × Bool}
    {where_expression : Option AST} (h : chooseWhere strict checked = .ok where_expression)
    (ht : checked.1.Holds interp row) : ∀ e ∈ where_expression, e.Holds interp row := by
  unfold chooseWhere at h
  split at h
  · cases h; simpa using ht
  · split at h
    · cases h
    · split at h
      · rename_i name args params hc
        split at h
        · rename_i hn
          rw [hc] at ht
          have hall := holds_drainPredicates interp row hr
            (AST.queueable (.function name args params)) [args]
            (by simpa using holds_args_of_isAndTuple interp row hr hn ht)
          generalize drainPredicates _ [args] = es at h hall
          rcases es with _ | ⟨e, _ | ⟨d, rest⟩⟩ <;> cases h
          · simp
          · simpa using hall
          · simpa using (AST.holds_and_iff interp row _ none).2 hall
        · cases h; simp
      · cases h; simp

end Rewrites

/-! ## The external `WHERE` -/

/-- The rewrites keep every row: when the query's `WHERE` is a conjunction that the row passes,
every `WHERE` that `rewriteWhere` leads to passes it too. -/
theorem holds_rewriteWhere (interp : String → List Field → Field) (row : String → Field)
    {query_where : AST} {available_columns : NamesAndTypesList} {strict : Bool}
    {block_with_constants : AST → Option Field} {formatForErrorMessage : AST → String}
    {original_where where_expression : Option AST}
    (hrw : rewriteWhere strict block_with_constants formatForErrorMessage available_columns
      (some query_where) = .ok (original_where, where_expression))
    (hc : query_where.Conjunction)
    (hconst : ∀ t v, block_with_constants t = some v → t.eval interp row = v)
    (hr : Reading interp) (ht : query_where.Holds interp row) :
    ∀ e ∈ (original_where.bind literalToExpr <|> where_expression), e.Holds interp row := by
  rcases rewriteWhere_eq_ok hrw with ⟨w, hw, rfl, hchoose⟩ | ⟨rfl, hleft, -⟩
  · have hchecked : (isCompatible (replaceLiteralToExpr
        (replaceConstantExpressions block_with_constants w))).1.Holds interp row := by
      rw [AST.Holds, eval_isCompatible interp row hr, eval_replaceLiteralToExpr interp row hr,
        eval_replaceConstantExpressions interp row block_with_constants hconst]
      exact holds_removeUnknownSubexpressionsFromWhere interp row hw hc ht
    intro e he
    cases hl : literalToExpr (isCompatible (replaceLiteralToExpr
        (replaceConstantExpressions block_with_constants w))).1 with
    | none =>
      simp [hl] at he
      exact holds_chooseWhere interp row hr hchoose hchecked e he
    | some e' =>
      simp [hl] at he
      exact he ▸ holds_literalToExpr interp row hr hl hchecked
  · simp [literalToExpr_of_not_left hleft]

/-- `equals` compares integers, `tuple` and `(x)` build tuples, any other function is `NULL`. -/
def sampleInterp (name : String) (vs : List Field) : Field :=
  if name = "tuple" then .tuple vs
  else if name = "" then (if vs.length ≤ 1 then .tuple vs else .null)
  else if name = "equals" then
    match vs with
    | [.int64 a, .int64 b] => .ofTruth (some (decide (a = b)))
    | _ => .null
  else .null

theorem reading_sampleInterp : Reading sampleInterp :=
  ⟨by decide, by decide, fun vs => by simp [sampleInterp], fun vs h => by simp [sampleInterp, h]⟩

/-- The row `x = 1, y = 2`. -/
def sampleRow (n : String) : Field := if n = "x" then .int64 1 else .int64 2

/-- `SELECT x FROM db.t WHERE x = 1`. -/
def sampleSelect : ExternalSelect :=
  ⟨"db", "t", [.identifier "x"], some (.function "equals" [.identifier "x", .literal (.int64 1)] none),
    none⟩

/-- The constant analysis on the sample row: a function node over no column is constant, with
its value. -/
def sampleConstants : AST → Option Field
  | .function name args params =>
    if (AST.function name args params).identifiers = [] then
      some ((AST.function name args params).eval sampleInterp sampleRow)
    else none
  | _ => none

theorem sampleConstants_eval {t : AST} {v : Field} (h : sampleConstants t = some v) :
    t.eval sampleInterp sampleRow = v := by
  cases t with
  | function name args params =>
    simp only [sampleConstants] at h
    split at h <;> simp_all
  | _ => simp [sampleConstants] at h

/-- `x = 1 AND 2 = 2 AND tuple(x) = tuple(1)`, which all three rewrites change: `2 = 2` is
constant and becomes the literal `1`, then `1 = 1`; `tuple(1)` is constant and becomes a literal
one-element tuple; `isCompatible` writes `tuple(x)` and that literal as the nameless `(x)` and
`(1)`. -/
def sampleRewriteWhere : AST :=
  .function "and" [.function "equals" [.identifier "x", .literal (.int64 1)] none,
    .function "equals" [.literal (.int64 2), .literal (.int64 2)] none,
    .function "equals" [.function "tuple" [.identifier "x"] none,
      .function "tuple" [.literal (.int64 1)] none] none] none

end ClickHouse.ExternalQuery
