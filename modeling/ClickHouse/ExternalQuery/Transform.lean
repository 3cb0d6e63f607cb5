import ClickHouse.ExternalQuery.Compatible

set_option autoImplicit false

/-! # The query sent to an external database

`transformQueryForExternalDatabaseImpl` builds the `SELECT` sent to an external database: the
used columns, the query's `WHERE` as far as the external database can evaluate it, and the
limit. The `WHERE` goes through four rewrites, in place and in this order:

1. `removeUnknownSubexpressionsFromWhere` removes the conditions on columns the external table
   does not have;
2. `replaceConstantExpressions` replaces the function nodes whose value the analysis found to
   be constant by a literal of that value;
3. `replaceLiteralToExpr` writes the arguments `1` and `0` of `and` and `or` as `1 = 1` and
   `1 = 0`;
4. `isCompatible` checks the whole tree, and rewrites one-element tuples on its way.

A compatible tree is sent whole. Otherwise strict mode throws, and else an `and` (or `tuple`)
keeps the conjuncts that are compatible (`chooseWhere`). A `WHERE` that is left as the literal
`1` or `0` is sent as `1 = 1` or `1 = 0`.

The constant analysis (`TreeRewriter`, `KeyCondition::getBlockWithConstants`) is not modelled:
`block_with_constants` gives, for a function node, the value of its column when the analysis
found it constant, already as the literal the code makes of it (`NULL`, the number, or the
value's text). The query is returned as its parts: formatting it, and dropping aliases before,
are not modelled. `ASTSelectQuery::setExpression` keeps a copy of the pointer it is given, so
`original_where` still points to the `WHERE` when the final `1`/`0` test reads it.
-/

namespace ClickHouse.ExternalQuery

/-! ## Constant expressions -/

section Constants

variable (block_with_constants : AST → Option Field)

mutual
/-- `replaceConstantExpressions` with `ReplacingConstantExpressionsMatcherNumOrStr`, top down:
a function node whose column is constant becomes a literal of its value; the walk goes on into
the children of the nodes it keeps. -/
def replaceConstantExpressions : AST → AST
  | .function name args params =>
    match block_with_constants (.function name args params) with
    | some v => .literal v
    | none =>
      .function name (replaceConstantExpressionsList args) (replaceConstantExpressionsParams params)
  | .expressionList cs => .expressionList (replaceConstantExpressionsList cs)
  | t => t

/-- `replaceConstantExpressions` on each tree of a list. -/
def replaceConstantExpressionsList : List AST → List AST
  | [] => []
  | t :: ts => replaceConstantExpressions t :: replaceConstantExpressionsList ts

/-- `replaceConstantExpressions` on a parameter list. -/
def replaceConstantExpressionsParams : Option (List AST) → Option (List AST)
  | none => none
  | some ps => some (replaceConstantExpressionsList ps)
end

end Constants

section ConstantsInspected

variable (block_with_constants : AST → Option Field)

mutual
theorem inspected_replaceConstantExpressions :
    ∀ t : AST, (replaceConstantExpressions block_with_constants t).inspected ⊆ t.inspected
  | .function name args params => by
    have hargs := inspectedList_replaceConstantExpressionsList args
    have hparams := inspectedParams_replaceConstantExpressionsParams params
    simp only [replaceConstantExpressions]
    split
    · simp [AST.inspected]
    · refine append_subset_append hargs ?_
      split
      · exact List.Subset.refl _
      · exact hparams
  | .expressionList cs => inspectedList_replaceConstantExpressionsList cs
  | .identifier _ => List.Subset.refl _
  | .tableIdentifier _ => List.Subset.refl _
  | .literal _ => List.Subset.refl _

theorem inspectedList_replaceConstantExpressionsList :
    ∀ ts : List AST, AST.inspectedList (replaceConstantExpressionsList block_with_constants ts) ⊆
      AST.inspectedList ts
  | [] => List.Subset.refl _
  | t :: ts => append_subset_append (inspected_replaceConstantExpressions t)
      (inspectedList_replaceConstantExpressionsList ts)

theorem inspectedParams_replaceConstantExpressionsParams :
    ∀ ps : Option (List AST),
      AST.inspectedParams (replaceConstantExpressionsParams block_with_constants ps) ⊆
        AST.inspectedParams ps
  | none => List.Subset.refl _
  | some ps => inspectedList_replaceConstantExpressionsList ps
end

end ConstantsInspected

/-! ## `1` and `0` under `and` and `or` -/

/-- `ReplaceLiteralToExprVisitorData` on one argument of an `and` or `or`: the literal `1`
becomes `1 = 1` and `0` becomes `1 = 0`, built by `makeASTFunction("equals", ...)` from
`std::make_shared<ASTLiteral>(1)` and `(0)`, which are `Int64` literals. The final `WHERE 1` /
`WHERE 0` replacement of `transformQueryForExternalDatabaseImpl` is the same rewrite. -/
def literalToExpr : AST → Option AST
  | .literal (.uint64 1) => some (.function "equals" [.literal (.int64 1), .literal (.int64 1)] none)
  | .literal (.uint64 0) => some (.function "equals" [.literal (.int64 1), .literal (.int64 0)] none)
  | _ => none

theorem literalToExpr_inspected {t e : AST} (h : literalToExpr t = some e) : e.inspected = [] := by
  unfold literalToExpr at h
  split at h <;> cases h <;> rfl

theorem literalToExpr_identifiers {t e : AST} (h : literalToExpr t = some e) :
    e.identifiers = [] := by
  unfold literalToExpr at h
  split at h <;> cases h <;> rfl

mutual
/-- `ReplaceLiteralToExprVisitor`: the arguments `1` and `0` of every `and` and `or`, at any
depth, are replaced (`literalToExpr`). The visitor walks top down, also into the new `equals`
nodes, where there is nothing to replace. -/
def replaceLiteralToExpr : AST → AST
  | .function name args params =>
    .function name (replaceLiteralToExprArgs (AST.isAndOr name) args)
      (replaceLiteralToExprParams params)
  | .expressionList cs => .expressionList (replaceLiteralToExprArgs false cs)
  | t => t

/-- The children of a node, with `1` and `0` replaced when the node is an `and` or an `or`. -/
def replaceLiteralToExprArgs (and_or : Bool) : List AST → List AST
  | [] => []
  | t :: ts =>
    ((if and_or then literalToExpr t else none).getD (replaceLiteralToExpr t)) ::
      replaceLiteralToExprArgs and_or ts

/-- `replaceLiteralToExpr` on a parameter list. -/
def replaceLiteralToExprParams : Option (List AST) → Option (List AST)
  | none => none
  | some ps => some (replaceLiteralToExprArgs false ps)
end

mutual
theorem inspected_replaceLiteralToExpr :
    ∀ t : AST, (replaceLiteralToExpr t).inspected ⊆ t.inspected
  | .function name args params => by
    refine append_subset_append (inspectedList_replaceLiteralToExprArgs _ args) ?_
    split
    · exact List.Subset.refl _
    · exact inspectedParams_replaceLiteralToExprParams params
  | .expressionList cs => inspectedList_replaceLiteralToExprArgs false cs
  | .identifier _ => List.Subset.refl _
  | .tableIdentifier _ => List.Subset.refl _
  | .literal _ => List.Subset.refl _

theorem inspectedList_replaceLiteralToExprArgs (and_or : Bool) :
    ∀ ts : List AST, AST.inspectedList (replaceLiteralToExprArgs and_or ts) ⊆ AST.inspectedList ts
  | [] => List.Subset.refl _
  | t :: ts => by
    refine append_subset_append ?_ (inspectedList_replaceLiteralToExprArgs and_or ts)
    cases h : (if and_or then literalToExpr t else none) with
    | none => exact inspected_replaceLiteralToExpr t
    | some e =>
      have he : literalToExpr t = some e := by split at h <;> simp_all
      simp [literalToExpr_inspected he]

theorem inspectedParams_replaceLiteralToExprParams :
    ∀ ps : Option (List AST), AST.inspectedParams (replaceLiteralToExprParams ps) ⊆
      AST.inspectedParams ps
  | none => List.Subset.refl _
  | some ps => inspectedList_replaceLiteralToExprArgs false ps
end

/-! ## The external query -/

/-- The exceptions of `transformQueryForExternalDatabaseImpl`, both `INCORRECT_QUERY`. -/
inductive Error where
  | incorrectQuery (message : String)
  deriving DecidableEq, Repr

/-- The `SELECT` sent to the external database, before it is formatted. -/
structure ExternalSelect where
  database : String
  table : String
  select : List AST
  whereExpression : Option AST
  limitLength : Option AST
  deriving Repr

/-- The `WHERE` chosen after the whole-tree `isCompatible` check, given the checked tree and the
check's result: the tree when it is compatible; else, in strict mode, the exception; else, when
the tree is an `and` or a `tuple`, the conjuncts the fallback keeps (one alone, several under a
new `and`, none at all); else no `WHERE`. -/
def chooseWhere (strict : Bool) (checked : AST × Bool) : Except Error (Option AST) :=
  if checked.2 then .ok (some checked.1)
  else if strict then
    .error (.incorrectQuery
      "Query contains non-compatible expressions (and external_table_strict_query=true)")
  else
    match checked.1 with
    | .function name args params =>
      if isAndTuple name then
        match drainPredicates (AST.queueable (.function name args params)) [args] with
        | [] => .ok none
        | [e] => .ok (some e)
        | es => .ok (some (.function "and" es none))
      else .ok none
    | _ => .ok none

/-- The `WHERE` handling of `transformQueryForExternalDatabaseImpl`, up to the final `1`/`0`
test: the query's `WHERE` as the code leaves it (`original_where`, rewritten in place), and the
`WHERE` set on the external query so far. -/
def rewriteWhere (strict : Bool) (block_with_constants : AST → Option Field)
    (formatForErrorMessage : AST → String) (available_columns : NamesAndTypesList)
    (original_where : Option AST) : Except Error (Option AST × Option AST) :=
  match removeUnknownSubexpressionsFromWhere original_where available_columns with
  | (some w, true) =>
    let checked :=
      isCompatible (replaceLiteralToExpr (replaceConstantExpressions block_with_constants w))
    (chooseWhere strict checked).map fun where_expression => (some checked.1, where_expression)
  | (some w, false) =>
    if strict then
      .error (.incorrectQuery ("Query contains non-compatible expressions \x27" ++
        formatForErrorMessage w ++ "\x27 (and external_table_strict_query=true)"))
    else .ok (some w, none)
  | (none, _) => .ok (none, none)

/-- `transformQueryForExternalDatabaseImpl`: the query sent to the external database, or the
exception. The context gives `strict` (the setting `external_table_strict_query`), the constant
analysis and the formatter of error messages. -/
def transformQueryForExternalDatabaseImpl (query_where : Option AST) (used_columns : List String)
    (available_columns : NamesAndTypesList) (database table : String) (strict : Bool)
    (block_with_constants : AST → Option Field) (formatForErrorMessage : AST → String)
    (limit : Option Nat) : Except Error ExternalSelect := do
  let (original_where, where_expression) ←
    rewriteWhere strict block_with_constants formatForErrorMessage available_columns query_where
  pure
    { database := database, table := table,
      select := used_columns.map .identifier,
      whereExpression := original_where.bind literalToExpr <|> where_expression,
      limitLength := limit.map fun n => .literal (.uint64 n) }

/-! ## What the rewrite can return -/

/-- In strict mode `chooseWhere` returns only a compatible tree, whole. -/
theorem chooseWhere_strict {checked : AST × Bool} {where_expression : Option AST}
    (h : chooseWhere true checked = .ok where_expression) :
    checked.2 = true ∧ where_expression = some checked.1 := by
  unfold chooseWhere at h
  cases hc : checked.2 <;> simp_all

/-- The cases of `rewriteWhere`: a `WHERE` is set only through `chooseWhere`, on the tree pruning
left as the rewrites wrote it; otherwise, outside strict mode or without a `WHERE`, none is set,
and the query's `WHERE` is what pruning left, which it did not leave. -/
theorem rewriteWhere_eq_ok {strict : Bool} {block_with_constants : AST → Option Field}
    {formatForErrorMessage : AST → String} {available_columns : NamesAndTypesList}
    {query_where original_where where_expression : Option AST}
    (h : rewriteWhere strict block_with_constants formatForErrorMessage available_columns
      query_where = .ok (original_where, where_expression)) :
    (∃ w, removeUnknownSubexpressionsFromWhere query_where available_columns = (some w, true) ∧
      original_where =
        some (isCompatible (replaceLiteralToExpr (replaceConstantExpressions block_with_constants w))).1 ∧
      chooseWhere strict (isCompatible
        (replaceLiteralToExpr (replaceConstantExpressions block_with_constants w))) =
        .ok where_expression) ∨
    (where_expression = none ∧
      removeUnknownSubexpressionsFromWhere query_where available_columns =
        (original_where, false) ∧
      (strict = false ∨ query_where = none)) := by
  unfold rewriteWhere at h
  split at h
  · rename_i w hw
    dsimp only at h
    cases hc : chooseWhere strict (isCompatible
      (replaceLiteralToExpr (replaceConstantExpressions block_with_constants w))) with
    | error e => simp [hc, Except.map] at h
    | ok we =>
      simp only [hc, Except.map, Except.ok.injEq, Prod.mk.injEq] at h
      obtain ⟨rfl, rfl⟩ := h
      exact .inl ⟨w, hw, rfl, hc⟩
  · rename_i w hw
    cases strict <;> simp only [Bool.false_eq_true, ↓reduceIte, Except.ok.injEq, Prod.mk.injEq,
      reduceCtorEq] at h
    obtain ⟨rfl, rfl⟩ := h
    exact .inr ⟨rfl, hw, .inl rfl⟩
  · rename_i b hw
    cases h
    cases query_where with
    | none => exact .inr ⟨rfl, rfl, .inr rfl⟩
    | some q =>
      simp only [removeUnknownSubexpressionsFromWhere] at hw
      split at hw <;> simp at hw

/-- The query sent carries the `WHERE` `rewriteWhere` set, unless the query's `WHERE` was left as
the literal `1` or `0`. -/
theorem transformQueryForExternalDatabaseImpl_eq_ok {query_where : Option AST}
    {used_columns : List String} {available_columns : NamesAndTypesList}
    {database table : String} {strict : Bool} {block_with_constants : AST → Option Field}
    {formatForErrorMessage : AST → String} {limit : Option Nat} {query : ExternalSelect}
    (h : transformQueryForExternalDatabaseImpl query_where used_columns available_columns database
      table strict block_with_constants formatForErrorMessage limit = .ok query) :
    ∃ original_where where_expression,
      rewriteWhere strict block_with_constants formatForErrorMessage available_columns
        query_where = .ok (original_where, where_expression) ∧
      query.whereExpression = (original_where.bind literalToExpr <|> where_expression) := by
  unfold transformQueryForExternalDatabaseImpl at h
  cases hr : rewriteWhere strict block_with_constants formatForErrorMessage available_columns
    query_where with
  | error e => simp [hr] at h
  | ok r =>
    simp only [hr, bind, Except.bind, pure, Except.pure, Except.ok.injEq] at h
    exact ⟨r.1, r.2, rfl, h ▸ rfl⟩

/-! ## Only known columns are sent -/

section Known

variable {known : List String}

/-- The `WHERE` that `chooseWhere` sets mentions only known columns when the checked tree does
outside its parameter lists, and all of it, parameter lists included, when it is compatible. -/
theorem chooseWhere_known {strict : Bool} {checked : AST × Bool} {where_expression : Option AST}
    (h : chooseWhere strict checked = .ok where_expression)
    (hsent : checked.2 = true → checked.1.identifiers ⊆ known)
    (hleft : checked.1.inspected ⊆ known) :
    ∀ w ∈ where_expression, w.identifiers ⊆ known := by
  obtain ⟨t, compatible⟩ := checked
  unfold chooseWhere at h
  cases compatible
  · cases strict
    · simp only [Bool.false_eq_true, ↓reduceIte] at h
      cases t with
      | function name args params =>
        have hargs : ∀ a ∈ [args], AST.inspectedList a ⊆ known := by
          simp only [List.mem_singleton, forall_eq]
          exact (List.subset_append_left _ _).trans hleft
        have hkept := drainPredicates_identifiers known
          (AST.queueable (.function name args params)) [args] hargs
        simp only at h
        split at h
        · split at h <;> cases h
          · simp
          · rename_i e he
            simpa using hkept e (by simp [he])
          · simp only [Option.mem_def, Option.some.injEq, forall_eq', AST.identifiers,
              AST.identifiersParams, List.append_nil]
            intro n hn
            obtain ⟨e, he, hne⟩ := AST.mem_identifiersList.1 hn
            exact hkept e he hne
        · cases h
          simp
      | _ => cases h; simp
    · simp at h
  · cases h
    simpa using hsent rfl

/-- The `WHERE` that `rewriteWhere` sets mentions only known columns. -/
theorem rewriteWhere_known {strict : Bool} {block_with_constants : AST → Option Field}
    {formatForErrorMessage : AST → String} {available_columns : NamesAndTypesList}
    {query_where original_where where_expression : Option AST}
    (h : rewriteWhere strict block_with_constants formatForErrorMessage available_columns
      query_where = .ok (original_where, where_expression)) :
    ∀ w ∈ where_expression, w.identifiers ⊆ available_columns.map Prod.fst := by
  rcases rewriteWhere_eq_ok h with ⟨w, hw, -, hc⟩ | ⟨rfl, -, -⟩
  · have hrewritten :
        (replaceLiteralToExpr (replaceConstantExpressions block_with_constants w)).inspected ⊆
          available_columns.map Prod.fst :=
      ((inspected_replaceLiteralToExpr _).trans
        (inspected_replaceConstantExpressions _ _)).trans
        (removeUnknownSubexpressionsFromWhere_inspected hw)
    exact chooseWhere_known hc (fun hok => (identifiers_isCompatible _ hok).trans hrewritten)
      ((inspected_isCompatible _).trans hrewritten)
  · simp

end Known

/-- What the external database is sent mentions only its columns: a `WHERE` left by
`removeUnknownSubexpressionsFromWhere` inspects only available columns, and every `WHERE` that
`transformQueryForExternalDatabaseImpl` sets (the whole compatible tree, the fallback's
conjuncts, or `1 = 1` and `1 = 0`) mentions only available columns. -/
theorem where_mentions_known_columns :
    (∀ (query_where : Option AST) (available_columns : NamesAndTypesList) (w : AST),
      removeUnknownSubexpressionsFromWhere query_where available_columns = (some w, true) →
        w.inspected ⊆ available_columns.map Prod.fst) ∧
    ∀ (query_where : Option AST) (used_columns : List String)
      (available_columns : NamesAndTypesList) (database table : String) (strict : Bool)
      (block_with_constants : AST → Option Field) (formatForErrorMessage : AST → String)
      (limit : Option Nat) (query : ExternalSelect),
      transformQueryForExternalDatabaseImpl query_where used_columns available_columns database
        table strict block_with_constants formatForErrorMessage limit = .ok query →
      ∀ w ∈ query.whereExpression, w.identifiers ⊆ available_columns.map Prod.fst := by
  refine ⟨fun _ _ _ h => removeUnknownSubexpressionsFromWhere_inspected h, ?_⟩
  intro query_where used_columns available_columns database table strict block_with_constants
    formatForErrorMessage limit query h w hw
  obtain ⟨original_where, where_expression, hr, hwhere⟩ :=
    transformQueryForExternalDatabaseImpl_eq_ok h
  rw [hwhere] at hw
  cases hl : original_where.bind literalToExpr with
  | some e =>
    simp only [hl, Option.some_orElse, Option.mem_def, Option.some.injEq] at hw
    obtain ⟨o, -, ho⟩ := Option.bind_eq_some.1 hl
    simp [← hw, literalToExpr_identifiers ho]
  | none =>
    simp only [hl, Option.none_orElse] at hw
    exact rewriteWhere_known hr w hw

/-- Two identifiers pruning leaves though they are not available columns. A parameter list of
`and` is never inspected: `and(z)(a, b)` over the columns `a` and `b` is left whole, with the
unknown `z`. A table identifier is always left: `x IN t` over the column `x` is left whole,
with the table `t`. -/
theorem and_parameters_keep_unknown_identifier :
    (removeUnknownSubexpressionsFromWhere
        (some (.function "and" [.identifier "a", .identifier "b"] (some [.identifier "z"])))
        [("a", "UInt64"), ("b", "UInt64")] =
      (some (.function "and" [.identifier "a", .identifier "b"] (some [.identifier "z"])), true) ∧
    "z" ∈ (AST.function "and" [.identifier "a", .identifier "b"] (some [.identifier "z"])).identifiers ∧
    "z" ∉ [("a", "UInt64"), ("b", "UInt64")].map Prod.fst) ∧
    removeUnknownSubexpressionsFromWhere
        (some (.function "in" [.identifier "x", .tableIdentifier "t"] none)) [("x", "UInt64")] =
      (some (.function "in" [.identifier "x", .tableIdentifier "t"] none), true) ∧
    "t" ∈ (AST.function "in" [.identifier "x", .tableIdentifier "t"] none).identifiers ∧
    "t" ∉ [("x", "UInt64")].map Prod.fst :=
  ⟨⟨rfl, by decide, by decide⟩, rfl, by decide, by decide⟩

/-- The external query of `x OR y` over a table with the column `x` alone: pruning the `or`
keeps `x`, and everything after keeps it. -/
theorem known_columns_of_or_query :
    (∃ w, removeUnknownSubexpressionsFromWhere
        (some (.function "or" [.identifier "x", .identifier "y"] none)) [("x", "UInt64")] =
        (some w, true) ∧ w.inspected ⊆ [("x", "UInt64")].map Prod.fst) ∧
    ∃ query, transformQueryForExternalDatabaseImpl
        (some (.function "or" [.identifier "x", .identifier "y"] none)) ["x"] [("x", "UInt64")]
        "db" "t" false (fun _ => none) (fun _ => "") none = .ok query ∧
      ∀ w ∈ query.whereExpression, w.identifiers ⊆ [("x", "UInt64")].map Prod.fst :=
  ⟨⟨_, rfl, where_mentions_known_columns.1
      (some (.function "or" [.identifier "x", .identifier "y"] none)) _ _ rfl⟩,
    ⟨_, rfl, where_mentions_known_columns.2
      (some (.function "or" [.identifier "x", .identifier "y"] none)) ["x"] [("x", "UInt64")]
      "db" "t" false (fun _ => none) (fun _ => "") none _ rfl⟩⟩

/-! ## Rows the external database drops -/

/-- Pruning an `or` strengthens the `WHERE`: `x OR y` over a table with the column `x` alone is
sent as `x`, so the row `x = 0, y = 1`, which the query keeps, is not read. -/
theorem pruned_or_drops_rows (interp : String → List Field → Field) :
    (transformQueryForExternalDatabaseImpl
        (some (.function "or" [.identifier "x", .identifier "y"] none)) ["x"] [("x", "UInt64")]
        "db" "t" false (fun _ => none) (fun _ => "") none).map ExternalSelect.whereExpression =
      .ok (some (.identifier "x")) ∧
    AST.Holds interp (fun n => if n = "x" then .uint64 0 else .uint64 1)
      (.function "or" [.identifier "x", .identifier "y"] none) ∧
    ¬ AST.Holds interp (fun n => if n = "x" then .uint64 0 else .uint64 1) (.identifier "x") :=
  ⟨rfl, rfl, by simp [AST.Holds, AST.eval, Field.truth]⟩

/-! ## The fallback and the order of the conjuncts -/

/-- `tuple(x) = tuple(y)`: compatible, once `tuple(x)` and `tuple(y)` are written `(x)` and
`(y)`. -/
def tupleConjunct : AST :=
  .function "equals"
    [.function "tuple" [.identifier "x"] none, .function "tuple" [.identifier "y"] none] none

/-- `f(z)`: a function the external database is not sent. -/
def opaqueConjunct : AST := .function "f" [.identifier "z"] none

/-- The fallback keeps `tuple(x) = tuple(y)` after `f(z)` but not before it: the failed whole-tree
check rewrites `tuple(x)` to the nameless `(x)` in the conjuncts before `f(z)`, and the fallback's
second check then rejects them. -/
theorem fallback_depends_on_conjunct_order :
    (isCompatible tupleConjunct).2 = true ∧
    (transformQueryForExternalDatabaseImpl
        (some (.function "and" [tupleConjunct, opaqueConjunct] none)) ["x", "y", "z"]
        [("x", "UInt64"), ("y", "UInt64"), ("z", "UInt64")] "db" "t" false (fun _ => none)
        (fun _ => "") none).map ExternalSelect.whereExpression = .ok none ∧
    (transformQueryForExternalDatabaseImpl
        (some (.function "and" [opaqueConjunct, tupleConjunct] none)) ["x", "y", "z"]
        [("x", "UInt64"), ("y", "UInt64"), ("z", "UInt64")] "db" "t" false (fun _ => none)
        (fun _ => "") none).map ExternalSelect.whereExpression =
      .ok (some (isCompatible tupleConjunct).1) :=
  ⟨rfl, rfl, rfl⟩

end ClickHouse.ExternalQuery
