import Mathlib

set_option autoImplicit false

/-! # Query syntax trees for external databases

`transformQueryForExternalDatabase` (`Storages/transformQueryForExternalDatabase.cpp`) rewrites
the `WHERE` of a query before sending it to an external database (MySQL, PostgreSQL, ...). It
works on the parser's trees (`IAST`): identifiers, literals holding a `Field`, functions with
their argument list and, for parametric functions, a parameter list, and expression lists.

A function's children are its argument list and, when there is one, its parameter list, each
an expression list; that is what a visitor that walks `children` sees. Aliases are not modelled:
the only code that reads them drops them.

To say what a rewrite does to the rows a `WHERE` keeps, `AST.eval` gives a tree its value on a
row: `and`, `or` and `not` are SQL's three-valued connectives, and every other function is an
interpretation `interp` fixed by the caller. A row passes a `WHERE` when its value is true.
-/

namespace ClickHouse.ExternalQuery

/-- `Field`: the value of a literal. -/
inductive Field where
  | null
  | uint64 (n : Nat)
  | int64 (i : Int)
  | string (s : String)
  | array (xs : List Field)
  | tuple (xs : List Field)
  deriving Repr

/-- `IAST`: the node kinds the rewrite distinguishes. `tableIdentifier` is an
`ASTTableIdentifier`, an identifier naming a table (`x IN t`). The code tests node kinds with
`as`, which compares the exact class (`typeid_cast`): a table identifier is not taken for an
`ASTIdentifier`. -/
inductive AST where
  | identifier (name : String)
  | tableIdentifier (name : String)
  | literal (value : Field)
  | function (name : String) (arguments : List AST) (parameters : Option (List AST))
  | expressionList (children : List AST)
  deriving Repr

namespace AST

/-! ## Identifiers -/

mutual
/-- The names of the identifiers in a tree. -/
def identifiers : AST → List String
  | .identifier n => [n]
  | .tableIdentifier n => [n]
  | .literal _ => []
  | .function _ args params => identifiersList args ++ identifiersParams params
  | .expressionList cs => identifiersList cs

/-- The identifiers of a list of trees. -/
def identifiersList : List AST → List String
  | [] => []
  | t :: ts => identifiers t ++ identifiersList ts

/-- The identifiers of a parameter list. -/
def identifiersParams : Option (List AST) → List String
  | none => []
  | some ps => identifiersList ps
end

/-- Whether a function name is a logical connective that `removeUnknownSubexpressions` prunes. -/
def isAndOr (name : String) : Bool := name == "and" || name == "or"

mutual
/-- The column identifiers `removeUnknownSubexpressions` compares with the known names: all
identifiers but table identifiers and those in the parameter list of an `and` or `or` node. -/
def inspected : AST → List String
  | .identifier n => [n]
  | .tableIdentifier _ => []
  | .literal _ => []
  | .function name args params =>
    inspectedList args ++ if isAndOr name then [] else inspectedParams params
  | .expressionList cs => inspectedList cs

/-- The inspected identifiers of a list of trees. -/
def inspectedList : List AST → List String
  | [] => []
  | t :: ts => inspected t ++ inspectedList ts

/-- The inspected identifiers of a parameter list. -/
def inspectedParams : Option (List AST) → List String
  | none => []
  | some ps => inspectedList ps
end

@[simp] theorem identifiersList_append (ts ts' : List AST) :
    identifiersList (ts ++ ts') = identifiersList ts ++ identifiersList ts' := by
  induction ts with
  | nil => rfl
  | cons t ts ih => simp [identifiersList, ih]

@[simp] theorem inspectedList_append (ts ts' : List AST) :
    inspectedList (ts ++ ts') = inspectedList ts ++ inspectedList ts' := by
  induction ts with
  | nil => rfl
  | cons t ts ih => simp [inspectedList, ih]

theorem mem_identifiersList {n : String} {ts : List AST} :
    n ∈ identifiersList ts ↔ ∃ t ∈ ts, n ∈ identifiers t := by
  induction ts with
  | nil => simp [identifiersList]
  | cons t ts ih => simp [identifiersList, ih]

theorem mem_inspectedList {n : String} {ts : List AST} :
    n ∈ inspectedList ts ↔ ∃ t ∈ ts, n ∈ inspected t := by
  induction ts with
  | nil => simp [inspectedList]
  | cons t ts ih => simp [inspectedList, ih]

end AST

/-! ## Meaning -/

namespace Field

/-- A value as a condition: `NULL` is unknown, a number is true when it is not zero. -/
def truth : Field → Option Bool
  | .null => none
  | .uint64 n => some (n != 0)
  | .int64 i => some (i != 0)
  | _ => some false

/-- The value of a condition: `1`, `0` or `NULL`. -/
def ofTruth : Option Bool → Field
  | none => .null
  | some b => .uint64 (if b then 1 else 0)

@[simp] theorem truth_ofTruth (b : Option Bool) : (ofTruth b).truth = b := by
  rcases b with _ | _ | _ <;> rfl

end Field

/-- SQL's `AND`: false if an argument is false, else unknown if one is unknown, else true. -/
def kleeneAnd (vs : List (Option Bool)) : Option Bool :=
  if some false ∈ vs then some false else if none ∈ vs then none else some true

theorem kleeneAnd_eq_some_true {vs : List (Option Bool)} :
    kleeneAnd vs = some true ↔ ∀ v ∈ vs, v = some true := by
  unfold kleeneAnd
  constructor
  · intro h v hv
    split at h
    · cases h
    · split at h
      · cases h
      · rcases v with _ | _ | _ <;> simp_all
  · intro h
    rw [if_neg fun hf => by simpa using h _ hf, if_neg fun hn => by simpa using h _ hn]

/-- SQL's `OR`: true if an argument is true, else unknown if one is unknown, else false. -/
def kleeneOr (vs : List (Option Bool)) : Option Bool :=
  if some true ∈ vs then some true else if none ∈ vs then none else some false

/-- SQL's `NOT`. -/
def kleeneNot : Option Bool → Option Bool := Option.map (!·)

namespace AST

variable (interp : String → List Field → Field) (row : String → Field)

mutual
/-- The value of a tree on a row: an identifier is the row's value of the column, the logical
connectives are SQL's, and every other function is `interp`. An expression list is the tuple of
its values; a table identifier has no value. -/
def eval : AST → Field
  | .identifier n => row n
  | .tableIdentifier _ => .null
  | .literal v => v
  | .function name args _ =>
    if name = "and" then .ofTruth (kleeneAnd ((evalList args).map Field.truth))
    else if name = "or" then .ofTruth (kleeneOr ((evalList args).map Field.truth))
    else if name = "not" then
      match evalList args with
      | [v] => .ofTruth (kleeneNot v.truth)
      | vs => interp name vs
    else interp name (evalList args)
  | .expressionList cs => .tuple (evalList cs)

/-- The values of a list of trees. -/
def evalList : List AST → List Field
  | [] => []
  | t :: ts => eval t :: evalList ts
end

/-- The row passes the condition. -/
def Holds (t : AST) : Prop := (t.eval interp row).truth = some true

instance (t : AST) : Decidable (t.Holds interp row) :=
  inferInstanceAs (Decidable ((t.eval interp row).truth = some true))

theorem evalList_eq_map (ts : List AST) : evalList interp row ts = ts.map (eval interp row) := by
  induction ts with
  | nil => rfl
  | cons t ts ih => simp [evalList, ih]

/-- A row passes an `and` exactly when it passes each argument. -/
theorem holds_and_iff (args : List AST) (params : Option (List AST)) :
    (AST.function "and" args params).Holds interp row ↔ ∀ a ∈ args, a.Holds interp row := by
  simp [Holds, eval, evalList_eq_map, kleeneAnd_eq_some_true]

end AST

end ClickHouse.ExternalQuery
