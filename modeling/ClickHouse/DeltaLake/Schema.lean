import Mathlib

set_option autoImplicit false

/-! # Delta Lake table schemas

`getTableSchemaFromSnapshot` reads the schema of a Delta Lake table through delta-kernel's
schema visitor: delta-kernel walks the schema and calls back into `SchemaVisitor`, which records
every field in flat lists keyed by id (`SchemaVisitorData::type_lists`). A struct, array or map
field carries the id of the list that holds its children. `getSchemaResult` then rebuilds the
ClickHouse types from the lists, recursively from list `0`.

The recursion of `getDataTypesFromTypeList` follows child list ids, and nothing in
`SchemaVisitorData` keeps them from forming a cycle. The model gives the recursion fuel, and
`getSchemaResult` gives it `list_counter + 1` levels, one more than there are lists: a recursion
that goes deeper enters some list inside itself, and then the code's recursion never returns
(`Recursion.lean` shows that these levels are enough).

The metadata of a field is modelled by what `extractPhysicalName` reads from it, the value of
`delta.columnMapping.physicalName` if there is one. `createDecimal` is modelled by the type
`Decimal(precision, scale)` it returns; its range checks are not modelled. Logging is left out.
-/

namespace ClickHouse.DeltaLake

/-- `DB::TypeIndex`: the indices the schema visitor records. -/
inductive TypeIndex where
  | int8 | int16 | int32 | int64 | float32 | float64 | date32 | dateTime64 | string
  | decimal32 | array | tuple | map
  deriving DecidableEq, Repr

/-- The name of a type index, as the error messages print it. -/
def TypeIndex.name : TypeIndex → String
  | .int8 => "Int8" | .int16 => "Int16" | .int32 => "Int32" | .int64 => "Int64"
  | .float32 => "Float32" | .float64 => "Float64" | .date32 => "Date32"
  | .dateTime64 => "DateTime64" | .string => "String" | .decimal32 => "Decimal32"
  | .array => "Array" | .tuple => "Tuple" | .map => "Map"

/-- The ClickHouse data types the schema is translated to. -/
inductive DataType where
  | bool | int8 | int16 | int32 | int64 | float32 | float64 | date32 | string
  | dateTime64 (precision : Nat)
  | decimal (precision scale : Nat)
  | nullable (nested : DataType)
  | array (nested : DataType)
  | tuple (elements : List DataType)
  | map (key value : DataType)
  deriving Repr

/-- The exceptions of the schema visitor, and the null dereference of `type_lists[list_idx]`
when no list has that id (`operator[]` inserts a null pointer, which is then read). -/
inductive Error where
  | logicalError (message : String)
  | notImplemented (message : String)
  | nullListDereference (list_idx : Nat)
  deriving DecidableEq, Repr

/-- `SchemaVisitorData::Field`. `child_list_id` is set for struct, array and map fields only;
the code leaves it uninitialised for the others and reads it only for those.
`value_contains_null` is never set nor read and is left out. -/
structure Field where
  name : String
  type : TypeIndex
  nullable : Bool
  physical_name : String
  child_list_id : Nat := 0
  precision : Nat := 0
  scale : Nat := 0
  is_bool : Bool := false
  deriving DecidableEq, Repr

/-- `SchemaVisitorData`: the lists of fields by id, and the counter of ids. -/
structure SchemaVisitorData where
  type_lists : Nat → Option (List Field)
  list_counter : Nat

namespace SchemaVisitorData

/-- A fresh `SchemaVisitorData`: no lists, the counter at `0`. -/
def init : SchemaVisitorData := ⟨fun _ => none, 0⟩

/-- The lists with `fields` under `id`. -/
def setList (state : SchemaVisitorData) (id : Nat) (fields : List Field) : SchemaVisitorData :=
  { state with type_lists := fun i => if i = id then some fields else state.type_lists i }

@[simp] theorem setList_list_counter (state : SchemaVisitorData) (id : Nat) (fields : List Field) :
    (state.setList id fields).list_counter = state.list_counter := rfl

@[simp] theorem setList_type_lists (state : SchemaVisitorData) (id i : Nat) (fields : List Field) :
    (state.setList id fields).type_lists i = if i = id then some fields else state.type_lists i :=
  rfl

end SchemaVisitorData

@[simp] theorem ok_bind {α β : Type} (a : α) (f : α → Except Error β) :
    (Except.ok a >>= f) = f a := rfl

/-! ## The callbacks -/

/-- `SchemaVisitor::makeFieldList`: the next id, with an empty list under it (`emplace` leaves
a list already there as it is). The capacity hint only reserves memory. -/
def makeFieldList (state : SchemaVisitorData) : Nat × SchemaVisitorData :=
  let id := state.list_counter
  (id,
    { (if (state.type_lists id).isSome then state else state.setList id []) with
      list_counter := id + 1 })

/-- What the type visitors share: find the sibling list, or throw, and append the field. -/
def pushField (state : SchemaVisitorData) (sibling_list_id : Nat) (field : Field) :
    Except Error SchemaVisitorData :=
  match state.type_lists sibling_list_id with
  | none =>
    .error (.logicalError ("List with id " ++ toString sibling_list_id ++ " does not exist"))
  | some fields => .ok (state.setList sibling_list_id (fields ++ [field]))

/-- `SchemaVisitor::simpleTypeVisitor<type, is_bool>`. -/
def simpleTypeVisitor (type : TypeIndex) (is_bool : Bool) (state : SchemaVisitorData)
    (sibling_list_id : Nat) (name : String) (nullable : Bool) (physical_name : Option String) :
    Except Error SchemaVisitorData :=
  pushField state sibling_list_id
    { name := name, type := type, nullable := nullable, physical_name := physical_name.getD "",
      is_bool := is_bool }

/-- `SchemaVisitor::decimalTypeVisitor`. -/
def decimalTypeVisitor (state : SchemaVisitorData) (sibling_list_id : Nat) (name : String)
    (nullable : Bool) (physical_name : Option String) (precision scale : Nat) :
    Except Error SchemaVisitorData :=
  pushField state sibling_list_id
    { name := name, type := .decimal32, nullable := nullable,
      physical_name := physical_name.getD "", precision := precision, scale := scale }

/-- `SchemaVisitor::listBasedTypeVisitor<type>`, behind `arrayTypeVisitor`, `tupleTypeVisitor`
and `mapTypeVisitor`. -/
def listBasedTypeVisitor (type : TypeIndex) (state : SchemaVisitorData) (sibling_list_id : Nat)
    (name : String) (nullable : Bool) (physical_name : Option String) (child_list_id : Nat) :
    Except Error SchemaVisitorData :=
  pushField state sibling_list_id
    { name := name, type := type, nullable := nullable, physical_name := physical_name.getD "",
      child_list_id := child_list_id }

/-- `SchemaVisitor::arrayTypeVisitor`. -/
def arrayTypeVisitor : SchemaVisitorData → Nat → String → Bool → Option String → Nat →
    Except Error SchemaVisitorData :=
  listBasedTypeVisitor .array

/-- `SchemaVisitor::tupleTypeVisitor`, the visitor of structs. -/
def tupleTypeVisitor : SchemaVisitorData → Nat → String → Bool → Option String → Nat →
    Except Error SchemaVisitorData :=
  listBasedTypeVisitor .tuple

/-- `SchemaVisitor::mapTypeVisitor`. -/
def mapTypeVisitor : SchemaVisitorData → Nat → String → Bool → Option String → Nat →
    Except Error SchemaVisitorData :=
  listBasedTypeVisitor .map

/-- The primitive types of a Delta schema, one per `visit_*` callback of the visitor. -/
inductive Primitive where
  | boolean | string | long | integer | short | byte | float | double | binary | date
  | timestamp | timestamp_ntz
  deriving DecidableEq, Repr

/-- `SchemaVisitor::createVisitor` on the primitive callbacks: the type index and `is_bool` of
the `simpleTypeVisitor` each one is. -/
def createVisitor : Primitive → TypeIndex × Bool
  | .boolean => (.int8, true)
  | .string => (.string, false)
  | .long => (.int64, false)
  | .integer => (.int32, false)
  | .short => (.int16, false)
  | .byte => (.int8, false)
  | .float => (.float32, false)
  | .double => (.float64, false)
  | .binary => (.string, false)
  | .date => (.date32, false)
  | .timestamp => (.dateTime64, false)
  | .timestamp_ntz => (.dateTime64, false)

/-! ## Rebuilding the types -/

/-- `isSimpleDataType` on the indices the visitor records. -/
def isSimpleDataType : TypeIndex → Bool
  | .int8 | .int16 | .int32 | .int64 | .float32 | .float64 | .date32 | .dateTime64 | .string =>
    true
  | .decimal32 | .array | .tuple | .map => false

/-- `getSimpleDataTypeFromTypeIndex`: the type the factory gives for the index's name (the
default `DateTime64` has precision `3`; `getDataTypesFromTypeList` handles `DateTime64` before). -/
def getSimpleDataTypeFromTypeIndex : (type : TypeIndex) → isSimpleDataType type = true → DataType
  | .int8, _ => .int8
  | .int16, _ => .int16
  | .int32, _ => .int32
  | .int64, _ => .int64
  | .float32, _ => .float32
  | .float64, _ => .float64
  | .date32, _ => .date32
  | .dateTime64, _ => .dateTime64 3
  | .string, _ => .string
  | .decimal32, h => absurd h (by decide)
  | .array, h => absurd h (by decide)
  | .tuple, h => absurd h (by decide)
  | .map, h => absurd h (by decide)

/-- `std::make_shared<DataTypeNullable>` when the field is nullable. -/
def wrapNullable (nullable : Bool) (type : DataType) : DataType :=
  if nullable then .nullable type else type

/-- The body of the loop of `getDataTypesFromTypeList`: the type of one field, given the
recursive call on child lists. `none` is a recursion out of fuel. -/
def fieldType (getChildTypes : Nat → ExceptT Error Option (List DataType)) (field : Field) :
    ExceptT Error Option DataType :=
  if field.is_bool then pure (wrapNullable field.nullable .bool)
  else if field.type = .decimal32 then
    pure (wrapNullable field.nullable (.decimal field.precision field.scale))
  else if field.type = .dateTime64 then pure (wrapNullable field.nullable (.dateTime64 6))
  else if h : isSimpleDataType field.type then
    pure (wrapNullable field.nullable (getSimpleDataTypeFromTypeIndex field.type h))
  else if field.child_list_id = 0 then
    throw (.notImplemented ("Unsupported simple data type: " ++ field.type.name))
  else
    match field.type with
    | .tuple => do
      let child_types ← getChildTypes field.child_list_id
      pure (.tuple child_types)
    | .array => do
      let child_types ← getChildTypes field.child_list_id
      match child_types with
      | [element] => pure (.array element)
      | _ => throw (.logicalError
          ("Unexpected number of types in array: " ++ toString child_types.length))
    | .map => do
      let child_types ← getChildTypes field.child_list_id
      match child_types with
      | [key, value] => pure (.map key value)
      | _ => throw (.logicalError
          ("Unexpected number of types in array: " ++ toString child_types.length))
    | _ => throw (.notImplemented
        ("Column " ++ field.name ++ " has unsupported complex data type: " ++ field.type.name))

/-- `SchemaVisitorData::getDataTypesFromTypeList`, with `fuel` levels of recursion. -/
def getDataTypesFromTypeList (type_lists : Nat → Option (List Field)) :
    Nat → Nat → ExceptT Error Option (List DataType)
  | 0, _ => ExceptT.mk none
  | fuel + 1, list_idx =>
    match type_lists list_idx with
    | none => throw (.nullListDereference list_idx)
    | some fields => fields.mapM (fieldType fun i => getDataTypesFromTypeList type_lists fuel i)

/-- `SchemaVisitorData::SchemaResult`. `physical_names_map` is an unordered map, kept here in
insertion order. -/
structure SchemaResult where
  names_and_types : List (String × DataType)
  physical_names_map : List (String × String)
  deriving Repr

/-- One turn of the loop of `getSchemaResult`: the column's name and type, and its physical name
when it has one (`emplace` keeps the first physical name given for a name). -/
def addColumn (result : SchemaResult) (column : Field × DataType) : SchemaResult :=
  { names_and_types := result.names_and_types ++ [(column.1.name, column.2)],
    physical_names_map :=
      if column.1.physical_name.isEmpty ||
          result.physical_names_map.any (·.1 == column.1.name) then
        result.physical_names_map
      else result.physical_names_map ++ [(column.1.name, column.1.physical_name)] }

theorem foldl_addColumn_names_and_types (columns : List (Field × DataType))
    (result : SchemaResult) :
    (columns.foldl addColumn result).names_and_types =
      result.names_and_types ++ columns.map fun column => (column.1.name, column.2) := by
  induction columns generalizing result with
  | nil => simp
  | cons column columns ih => simp [ih, addColumn]

/-- `SchemaVisitorData::getSchemaResult`: the columns of list `0`, paired with their types. -/
def getSchemaResult (data : SchemaVisitorData) : ExceptT Error Option SchemaResult := do
  let types ← getDataTypesFromTypeList data.type_lists (data.list_counter + 1) 0
  pure ((((data.type_lists 0).getD []).zip types).foldl addColumn ⟨[], []⟩)

end ClickHouse.DeltaLake
