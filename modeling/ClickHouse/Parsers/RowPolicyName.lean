import Mathlib.Data.List.Basic

set_option autoImplicit false

/-! # The text of row policy names

`ASTRowPolicyName` and `ASTRowPolicyNames` (`Parsers/Access/ASTRowPolicyName.cpp`) hold the names
of row policies in `CREATE`, `ALTER`, `DROP` and `SHOW` queries, and print them. A name is a
short name and the table the policy is on: `p ON db.t`, where an empty database stands for the
current one.

`ASTRowPolicyNames::formatImpl` prints a list of names in one of three shapes, whichever fits:
one short name on several tables (`p ON t1, t2`), several short names on one table
(`p1, p2 ON t`), or each name in full (`p1 ON t1, p2 ON t2`). `Layout` is that choice, with the
names each shape stands for and the text it renders to. `formatImpl_layout` shows that every
call either throws for an empty list or prints the text of a layout that stands for exactly the
given names, in their order. `formatImpl_singleton_iff` compares the two formatters on one name,
and `replaceEmptyDatabase_tables` shows that filling in the current database keeps each name's
meaning.

The quoting of identifiers (`backQuoteIfNeed`) and the mark of a policy on any table
(`RowPolicyName::ANY_TABLE_MARK`) are not among the sources; they are parameters. The
`ON CLUSTER` clause that `formatOnCluster` appends is left out.
-/

namespace ClickHouse.Parsers

/-- `RowPolicyName` (`Access/Common/RowPolicyDefs.h`, not among the sources): the short name of a
policy and the table it is on. -/
structure RowPolicyName where
  short_name : String
  database : String
  table_name : String
  deriving DecidableEq, Repr

/-! ## The code -/

section Format

variable (backQuoteIfNeed : String → String) (ANY_TABLE_MARK : String)

/-- The database written before a table: the quoted database and a dot, or nothing when the
database is empty. -/
def databasePrefix (database : String) : String :=
  if database = "" then "" else backQuoteIfNeed database ++ "."

/-- `ASTRowPolicyName::formatImpl`. -/
def ASTRowPolicyName.formatImpl (full_name : RowPolicyName) : String :=
  backQuoteIfNeed full_name.short_name ++ " ON " ++
    databasePrefix backQuoteIfNeed full_name.database ++ backQuoteIfNeed full_name.table_name

/-- `ASTRowPolicyNames::tableOrAsterisk`. -/
def tableOrAsterisk (table_name : String) : String :=
  if table_name = ANY_TABLE_MARK then "*" else backQuoteIfNeed table_name

/-- One turn of the loops of `ASTRowPolicyNames::formatImpl` over `full_names`:
`std::exchange(need_comma, true)` puts `", "` before every item but the first. -/
def writeItem (item : RowPolicyName → String) (state : Bool × String)
    (full_name : RowPolicyName) : Bool × String :=
  (true, (if state.1 then state.2 ++ ", " else state.2) ++ item full_name)

/-- A loop of `ASTRowPolicyNames::formatImpl`: the items of `full_names`, separated by commas,
after what `ostr` holds. -/
def writeItems (item : RowPolicyName → String) (full_names : List RowPolicyName) (ostr : String) :
    String :=
  (full_names.foldl (writeItem item) (false, ostr)).2

/-- `ASTRowPolicyNames::formatImpl`. The loops that set `same_short_name` and
`same_db_and_table_name` compare every name after the first with the first, and stop at the
first that differs. -/
def ASTRowPolicyNames.formatImpl (full_names : List RowPolicyName) : Except String String :=
  match full_names with
  | [] => .error "No names of row policies in AST"
  | first :: rest =>
    let same_short_name := rest.all fun full_name => full_name.short_name == first.short_name
    let same_db_and_table_name := rest.all fun full_name =>
      full_name.database == first.database && full_name.table_name == first.table_name
    if same_short_name then
      .ok (writeItems (fun full_name => databasePrefix backQuoteIfNeed full_name.database ++
          tableOrAsterisk backQuoteIfNeed ANY_TABLE_MARK full_name.table_name) (first :: rest)
        (backQuoteIfNeed first.short_name ++ " ON "))
    else if same_db_and_table_name then
      .ok (writeItems (fun full_name => backQuoteIfNeed full_name.short_name) (first :: rest) "" ++
        " ON " ++ databasePrefix backQuoteIfNeed first.database ++
        tableOrAsterisk backQuoteIfNeed ANY_TABLE_MARK first.table_name)
    else
      .ok (writeItems (fun full_name => backQuoteIfNeed full_name.short_name ++ " ON " ++
          databasePrefix backQuoteIfNeed full_name.database ++
          tableOrAsterisk backQuoteIfNeed ANY_TABLE_MARK full_name.table_name) (first :: rest) "")

end Format

/-- `ASTRowPolicyName::replaceEmptyDatabase`. -/
def ASTRowPolicyName.replaceEmptyDatabase (current_database : String) (full_name : RowPolicyName) :
    RowPolicyName :=
  if full_name.database = "" then { full_name with database := current_database } else full_name

/-- `ASTRowPolicyNames::replaceEmptyDatabase`: the same, on every name. -/
def ASTRowPolicyNames.replaceEmptyDatabase (current_database : String)
    (full_names : List RowPolicyName) : List RowPolicyName :=
  full_names.map (ASTRowPolicyName.replaceEmptyDatabase current_database)

/-! ## What the text says -/

section Layout

variable (backQuoteIfNeed : String → String) (ANY_TABLE_MARK : String)

/-- The shapes of the text of a list of names: one short name on several tables, given as
database and table; several short names on one table; or each name in full. -/
inductive Layout where
  | onTables (short_name : String) (tables : List (String × String))
  | onTable (short_names : List String) (database table_name : String)
  | each (full_names : List RowPolicyName)

/-- The names a text of that shape stands for, in the order it gives them. -/
def Layout.names : Layout → List RowPolicyName
  | .onTables short_name tables => tables.map fun table => ⟨short_name, table.1, table.2⟩
  | .onTable short_names database table_name =>
    short_names.map fun short_name => ⟨short_name, database, table_name⟩
  | .each full_names => full_names

/-- The text of a layout. -/
def Layout.render : Layout → String
  | .onTables short_name tables => backQuoteIfNeed short_name ++ " ON " ++
    ", ".intercalate (tables.map fun table => databasePrefix backQuoteIfNeed table.1 ++
      tableOrAsterisk backQuoteIfNeed ANY_TABLE_MARK table.2)
  | .onTable short_names database table_name =>
    ", ".intercalate (short_names.map backQuoteIfNeed) ++ " ON " ++
      databasePrefix backQuoteIfNeed database ++
      tableOrAsterisk backQuoteIfNeed ANY_TABLE_MARK table_name
  | .each full_names => ", ".intercalate (full_names.map fun full_name =>
    backQuoteIfNeed full_name.short_name ++ " ON " ++
      databasePrefix backQuoteIfNeed full_name.database ++
      tableOrAsterisk backQuoteIfNeed ANY_TABLE_MARK full_name.table_name)

end Layout

/-! ## The loops -/

theorem append_cancel_left_iff (a b c : String) : a ++ b = a ++ c ↔ b = c := by
  simp [String.ext_iff]

theorem intercalate_singleton (sep item : String) : sep.intercalate [item] = item := rfl

theorem intercalate_go_append (sep : String) :
    ∀ (items : List String) (a b : String),
      String.intercalate.go (a ++ b) sep items = a ++ String.intercalate.go b sep items
  | [], _, _ => rfl
  | item :: items, a, b => by
    simp only [String.intercalate.go, String.append_assoc]
    exact intercalate_go_append sep items a (b ++ (sep ++ item))

/-- Once an item is written, each further turn writes a comma and the item. -/
theorem foldl_writeItem (item : RowPolicyName → String) :
    ∀ (full_names : List RowPolicyName) (ostr : String),
      full_names.foldl (writeItem item) (true, ostr) =
        (true, String.intercalate.go ostr ", " (full_names.map item))
  | [], _ => rfl
  | full_name :: full_names, ostr =>
    foldl_writeItem item full_names (ostr ++ ", " ++ item full_name)

/-- A loop writes its items joined by commas. -/
theorem writeItems_eq (item : RowPolicyName → String) (full_names : List RowPolicyName)
    (ostr : String) :
    writeItems item full_names ostr = ostr ++ ", ".intercalate (full_names.map item) := by
  cases full_names with
  | nil => exact (String.append_empty ostr).symm
  | cons first rest =>
    rw [writeItems, List.foldl_cons, writeItem, if_neg Bool.false_ne_true, foldl_writeItem,
      intercalate_go_append]
    rfl

/-! ## The text of a list of names -/

section Formatting

variable (backQuoteIfNeed : String → String) (ANY_TABLE_MARK : String)

/-- Names that all share the short name of `first` are the names of `first`'s short name on
their tables. -/
theorem map_tables_of_same_short_name {first : RowPolicyName} {full_names : List RowPolicyName}
    (h : ∀ full_name ∈ full_names, full_name.short_name = first.short_name) :
    (full_names.map fun full_name => (full_name.database, full_name.table_name)).map
        (fun table => (⟨first.short_name, table.1, table.2⟩ : RowPolicyName)) = full_names := by
  rw [List.map_map]
  conv_rhs => rw [← List.map_id full_names]
  refine List.map_congr_left fun full_name hmem => ?_
  simp [← h full_name hmem]

/-- Names that are all on the table of `first` are their short names on that table. -/
theorem map_short_names_of_same_table {first : RowPolicyName} {full_names : List RowPolicyName}
    (h : ∀ full_name ∈ full_names,
      full_name.database = first.database ∧ full_name.table_name = first.table_name) :
    (full_names.map RowPolicyName.short_name).map
        (fun short_name => (⟨short_name, first.database, first.table_name⟩ : RowPolicyName)) =
      full_names := by
  rw [List.map_map]
  conv_rhs => rw [← List.map_id full_names]
  refine List.map_congr_left fun full_name hmem => ?_
  simp [← (h full_name hmem).1, ← (h full_name hmem).2]

/-- **The text of a list of names stands for exactly those names.** `formatImpl` throws
`LOGICAL_ERROR` only for an empty list; otherwise it prints the text of a layout whose names are
the given names, in their order. -/
theorem formatImpl_layout (full_names : List RowPolicyName) :
    match ASTRowPolicyNames.formatImpl backQuoteIfNeed ANY_TABLE_MARK full_names with
    | .error message => full_names = [] ∧ message = "No names of row policies in AST"
    | .ok text => ∃ layout : Layout,
        text = layout.render backQuoteIfNeed ANY_TABLE_MARK ∧ layout.names = full_names := by
  rcases full_names with _ | ⟨first, rest⟩
  · exact ⟨rfl, rfl⟩
  have hfirst : ∀ p : RowPolicyName → Prop, p first → (∀ n ∈ rest, p n) →
      ∀ n ∈ first :: rest, p n := fun p h₁ h₂ => List.forall_mem_cons.2 ⟨h₁, h₂⟩
  simp only [ASTRowPolicyNames.formatImpl, writeItems_eq]
  split_ifs with hshort htable
  · -- one short name: `p ON t1, t2`
    simp only [List.all_eq_true, beq_iff_eq] at hshort
    refine ⟨.onTables first.short_name
      ((first :: rest).map fun n : RowPolicyName => (n.database, n.table_name)), ?_,
      map_tables_of_same_short_name (hfirst _ rfl hshort)⟩
    simp only [Layout.render, List.map_map]
    rfl
  · -- one table: `p1, p2 ON t`
    simp only [List.all_eq_true, Bool.and_eq_true, beq_iff_eq] at htable
    refine ⟨.onTable ((first :: rest).map RowPolicyName.short_name) first.database
      first.table_name, ?_, map_short_names_of_same_table (hfirst _ ⟨rfl, rfl⟩ htable)⟩
    simp only [Layout.render, List.map_map, String.empty_append]
    rfl
  · -- each name in full
    exact ⟨.each (first :: rest), by simp only [Layout.render, String.empty_append], rfl⟩

example : ASTRowPolicyNames.formatImpl id "" [⟨"p", "db", "t"⟩, ⟨"q", "db", "t"⟩] =
    .ok "p, q ON db.t" := rfl

/-- **The two formatters agree on one name, but for a policy on any table.** `ASTRowPolicyNames`
prints one name as `ASTRowPolicyName` does exactly when the name is not on `ANY_TABLE_MARK`, or
quoting the mark gives `*`: the list prints the mark as `*`, the single name quotes it. -/
theorem formatImpl_singleton_iff (full_name : RowPolicyName) :
    ASTRowPolicyNames.formatImpl backQuoteIfNeed ANY_TABLE_MARK [full_name] =
        .ok (ASTRowPolicyName.formatImpl backQuoteIfNeed full_name) ↔
      (full_name.table_name = ANY_TABLE_MARK → backQuoteIfNeed ANY_TABLE_MARK = "*") := by
  simp only [ASTRowPolicyNames.formatImpl, List.all_nil, if_true, writeItems_eq, List.map_cons,
    List.map_nil, intercalate_singleton, ASTRowPolicyName.formatImpl, Except.ok.injEq,
    String.append_assoc, append_cancel_left_iff]
  unfold tableOrAsterisk
  split_ifs with hmark
  · subst hmark
    exact ⟨fun h _ => h.symm, fun h => (h rfl).symm⟩
  · exact iff_of_true rfl fun h => absurd h hmark

example : ASTRowPolicyNames.formatImpl id "" [⟨"p", "db", ""⟩] = .ok "p ON db.*" ∧
    ASTRowPolicyName.formatImpl id ⟨"p", "db", ""⟩ = "p ON db." := ⟨rfl, rfl⟩

end Formatting

/-! ## Filling in the current database -/

/-- The table a policy name is on in a session whose current database is `current_database`. -/
def RowPolicyName.table (current_database : String) (full_name : RowPolicyName) :
    String × String :=
  (if full_name.database = "" then current_database else full_name.database, full_name.table_name)

/-- **Filling in the current database keeps each name's meaning.** After
`replaceEmptyDatabase` with a current database, every name stands, in any session, for the policy
it stood for in the current one. -/
theorem replaceEmptyDatabase_tables {current_database : String} (h : current_database ≠ "")
    (other_database : String) (full_names : List RowPolicyName) :
    (ASTRowPolicyNames.replaceEmptyDatabase current_database full_names).map
        (fun full_name => (full_name.short_name, full_name.table other_database)) =
      full_names.map fun full_name => (full_name.short_name, full_name.table current_database) := by
  rw [ASTRowPolicyNames.replaceEmptyDatabase, List.map_map]
  refine List.map_congr_left fun full_name _ => ?_
  by_cases hdb : full_name.database = ""
  · simp [ASTRowPolicyName.replaceEmptyDatabase, RowPolicyName.table, hdb, h]
  · simp [ASTRowPolicyName.replaceEmptyDatabase, RowPolicyName.table, hdb]

/-- The current database `"db"` fills in the empty database of a policy on `t`. -/
theorem replaceEmptyDatabase_tables_db :
    "db" ≠ "" ∧
    (ASTRowPolicyNames.replaceEmptyDatabase "db" [⟨"p", "", "t"⟩, ⟨"q", "other", "t"⟩]).map
        (fun full_name => (full_name.short_name, full_name.table "session")) =
      [⟨"p", "", "t"⟩, ⟨"q", "other", "t"⟩].map
        fun full_name : RowPolicyName => (full_name.short_name, full_name.table "db") :=
  ⟨by decide, replaceEmptyDatabase_tables (by decide) "session" _⟩

end ClickHouse.Parsers
