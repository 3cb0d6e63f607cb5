import ClickHouse.DeltaLake.Schema

set_option autoImplicit false

/-! # Visiting a Delta schema and reading it back

delta-kernel drives the visitor of `Schema.lean`: it walks the schema tree and, for every
field, calls the callback of its type on the list of the field's parent. Before it visits the
children of a struct, array or map, it allocates their list with `makeFieldList`, and the field
then carries that list's id. The walk is delta-kernel's and is modelled from the spec
(`visitType`).

The main result is that reading back what a walk from a fresh `SchemaVisitorData` recorded
gives, for each top-level field, its name and `translate` of its type, and that the recursion
of `getDataTypesFromTypeList` ends within its fuel. The proof rests on one invariant of a walk,
`Appended`: visiting fields into a list appends a field to it for each, leaves the other old
lists alone, and fills lists that are all newer than the parent's, from which the appended
fields' types are rebuilt, whatever the lists outside that range hold.
-/

namespace ClickHouse.DeltaLake

mutual
/-- A type of a Delta schema. -/
inductive DeltaType where
  | primitive (p : Primitive)
  | decimal (precision scale : Nat)
  | array (element : DeltaType) (contains_null : Bool)
  | map (key value : DeltaType) (value_contains_null : Bool)
  | struct (fields : List StructField)

/-- A field of a Delta struct: its name, type, nullability and physical name, the value of
`delta.columnMapping.physicalName` in its metadata. -/
inductive StructField where
  | mk (name : String) (type : DeltaType) (nullable : Bool) (physical_name : Option String)
end

/-- The name of a field. -/
def StructField.name : StructField → String
  | .mk name _ _ _ => name

/-! ## The walk -/

mutual
/-- Modelled from the spec: delta-kernel's visit of a field of type `type` into the list
`sibling_list_id`. The element of an array is visited as a field `array_element` whose
nullability is the array's `contains_null`; the key and value of a map as fields `map_key`, not
nullable, and `map_value`, nullable when the map's values may be null. -/
def visitType (sibling_list_id : Nat) (name : String) (nullable : Bool)
    (physical_name : Option String) : DeltaType → SchemaVisitorData → Except Error SchemaVisitorData
  | .primitive p, state =>
    simpleTypeVisitor (createVisitor p).1 (createVisitor p).2 state sibling_list_id name nullable
      physical_name
  | .decimal precision scale, state =>
    decimalTypeVisitor state sibling_list_id name nullable physical_name precision scale
  | .array element contains_null, state => do
    let child := (makeFieldList state).1
    let state' ← visitType child "array_element" contains_null none element (makeFieldList state).2
    arrayTypeVisitor state' sibling_list_id name nullable physical_name child
  | .map key value value_contains_null, state => do
    let child := (makeFieldList state).1
    let state' ← visitType child "map_key" false none key (makeFieldList state).2
    let state'' ← visitType child "map_value" value_contains_null none value state'
    mapTypeVisitor state'' sibling_list_id name nullable physical_name child
  | .struct fields, state => do
    let child := (makeFieldList state).1
    let state' ← visitStructFields child fields (makeFieldList state).2
    tupleTypeVisitor state' sibling_list_id name nullable physical_name child

/-- Modelled from the spec: the visit of one field of a struct. -/
def visitStructField (sibling_list_id : Nat) :
    StructField → SchemaVisitorData → Except Error SchemaVisitorData
  | .mk name type nullable physical_name, state =>
    visitType sibling_list_id name nullable physical_name type state

/-- Modelled from the spec: the visit of the fields of a struct, in order. -/
def visitStructFields (sibling_list_id : Nat) :
    List StructField → SchemaVisitorData → Except Error SchemaVisitorData
  | [], state => .ok state
  | f :: fs, state => do
    let state ← visitStructField sibling_list_id f state
    visitStructFields sibling_list_id fs state
end

/-- Modelled from the spec: `visit_schema`, the visit of the top-level struct, which returns the
id of the list of its fields. -/
def visitSchema (schema : List StructField) (state : SchemaVisitorData) :
    Except Error (Nat × SchemaVisitorData) :=
  (visitStructFields (makeFieldList state).1 schema (makeFieldList state).2).map
    fun state' => ((makeFieldList state).1, state')

/-! ## The translation -/

/-- The ClickHouse type of a primitive Delta type. -/
def primitiveType : Primitive → DataType
  | .boolean => .bool
  | .string => .string
  | .long => .int64
  | .integer => .int32
  | .short => .int16
  | .byte => .int8
  | .float => .float32
  | .double => .float64
  | .binary => .string
  | .date => .date32
  | .timestamp => .dateTime64 6
  | .timestamp_ntz => .dateTime64 6

mutual
/-- The ClickHouse type a Delta type should get, carried by a field of nullability `nullable`:
primitives and decimals wrapped in `Nullable` when the field is nullable, arrays, maps and
structs translated through their elements, keys, values and fields. -/
def translate : DeltaType → Bool → DataType
  | .primitive p, nullable => if nullable then .nullable (primitiveType p) else primitiveType p
  | .decimal precision scale, nullable =>
    if nullable then .nullable (.decimal precision scale) else .decimal precision scale
  | .array element contains_null, _ => .array (translate element contains_null)
  | .map key value value_contains_null, _ =>
    .map (translate key false) (translate value value_contains_null)
  | .struct fields, _ => .tuple (translateFields fields)

/-- The translation of a field's type. -/
def translateField : StructField → DataType
  | .mk _ type nullable _ => translate type nullable

/-- The translations of the fields of a struct. -/
def translateFields : List StructField → List DataType
  | [] => []
  | f :: fs => translateField f :: translateFields fs
end

theorem translateFields_eq_map (fields : List StructField) :
    translateFields fields = fields.map translateField := by
  induction fields with
  | nil => rfl
  | cons f fs ih => simp [translateFields, ih]

/-! ## What a walk leaves -/

/-- No list has an id at or past the counter. -/
def Fresh (state : SchemaVisitorData) : Prop :=
  ∀ i, state.list_counter ≤ i → state.type_lists i = none

theorem Fresh.setList {state : SchemaVisitorData} (h : Fresh state) {id : Nat}
    (hid : id < state.list_counter) (fields : List Field) : Fresh (state.setList id fields) := by
  intro i hi
  simp only [SchemaVisitorData.setList_list_counter] at hi
  simp only [SchemaVisitorData.setList_type_lists, h i hi, ite_eq_right_iff]
  omega

theorem makeFieldList_of_fresh {state : SchemaVisitorData} (h : Fresh state) :
    makeFieldList state =
      (state.list_counter,
        { state.setList state.list_counter [] with list_counter := state.list_counter + 1 }) := by
  simp [makeFieldList, h _ le_rfl]

theorem Fresh.makeFieldList {state : SchemaVisitorData} (h : Fresh state) :
    Fresh (makeFieldList state).2 := by
  rw [makeFieldList_of_fresh h]
  intro i hi
  simp only at hi
  simp only [SchemaVisitorData.setList_type_lists, if_neg (show i ≠ state.list_counter by omega)]
  exact h i (by omega)

@[simp] theorem makeFieldList_fst (state : SchemaVisitorData) :
    (makeFieldList state).1 = state.list_counter := rfl

theorem pushField_of_some {state : SchemaVisitorData} {sibling : Nat} {fields : List Field}
    (h : state.type_lists sibling = some fields) (field : Field) :
    pushField state sibling field = .ok (state.setList sibling (fields ++ [field])) := by
  simp [pushField, h]

/-- What visiting fields into the list `sibling`, from `s` to `s'`, leaves: `added` appended to
that list, the other lists older than `s`'s counter as they were, and new lists from which the
appended fields get the types `types` whatever the older lists hold. -/
structure Appended (s s' : SchemaVisitorData) (sibling : Nat) (added : List Field)
    (types : List DataType) : Prop where
  fresh : Fresh s'
  counter_le : s.list_counter ≤ s'.list_counter
  sibling_list : ∀ fields, s.type_lists sibling = some fields →
    s'.type_lists sibling = some (fields ++ added)
  frame : ∀ i, i < s.list_counter → i ≠ sibling → s'.type_lists i = s.type_lists i
  rebuilt : ∀ (t : Nat → Option (List Field)) (fuel : Nat),
    (∀ i, s.list_counter ≤ i → i < s'.list_counter → t i = s'.type_lists i) →
    s'.list_counter - s.list_counter ≤ fuel →
    added.mapM (fieldType fun i => getDataTypesFromTypeList t fuel i) = pure types

theorem Appended.nil {s : SchemaVisitorData} (h : Fresh s) (sibling : Nat) :
    Appended s s sibling [] [] :=
  ⟨h, le_rfl, fun _ hs => by simpa using hs, fun _ _ _ => rfl, fun _ _ _ _ => rfl⟩

theorem Appended.trans {s₁ s₂ s₃ : SchemaVisitorData} {sibling : Nat} {a₁ a₂ : List Field}
    {t₁ t₂ : List DataType} (hsib : sibling < s₁.list_counter)
    (h₁ : Appended s₁ s₂ sibling a₁ t₁) (h₂ : Appended s₂ s₃ sibling a₂ t₂) :
    Appended s₁ s₃ sibling (a₁ ++ a₂) (t₁ ++ t₂) where
  fresh := h₂.fresh
  counter_le := h₁.counter_le.trans h₂.counter_le
  sibling_list fields hs := by
    simpa using h₂.sibling_list _ (h₁.sibling_list fields hs)
  frame i hi hne := by
    rw [h₂.frame i (by have := h₁.counter_le; omega) hne, h₁.frame i hi hne]
  rebuilt t fuel ht hfuel := by
    have hc₁ := h₁.counter_le
    have hc₂ := h₂.counter_le
    have ht₁ : ∀ i, s₁.list_counter ≤ i → i < s₂.list_counter → t i = s₂.type_lists i := by
      intro i hi hi'
      rw [ht i hi (by omega), h₂.frame i hi' (by omega)]
    rw [List.mapM_append, h₁.rebuilt t fuel ht₁ (by omega),
      h₂.rebuilt t fuel (fun i hi hi' => ht i (by omega) hi') (by omega)]
    simp

/-- A field whose type is rebuilt without looking at any list, appended by `pushField`. -/
theorem Appended.push {s : SchemaVisitorData} (hfresh : Fresh s) {sibling : Nat}
    (hsib : sibling < s.list_counter) {fields : List Field}
    (hs : s.type_lists sibling = some fields) {field : Field} {type : DataType}
    (htype : ∀ g, fieldType g field = pure type) :
    Appended s (s.setList sibling (fields ++ [field])) sibling [field] [type] where
  fresh := hfresh.setList hsib _
  counter_le := le_rfl
  sibling_list fields' hs' := by
    obtain rfl := Option.some.inj (hs.symm.trans hs')
    simp
  frame i _ hne := by simp [hne]
  rebuilt t fuel _ _ := by simp only [List.mapM_cons, List.mapM_nil, htype, pure_bind]

/-- A struct, array or map field, appended by `pushField` after its children were visited into
the list `makeFieldList` allocated for them. -/
theorem Appended.pushChild {s s₂ : SchemaVisitorData} (hfresh : Fresh s) {sibling : Nat}
    (hsib : sibling < s.list_counter) {fields : List Field}
    (hs : s.type_lists sibling = some fields) {added : List Field} {types : List DataType}
    (hchild : Appended (makeFieldList s).2 s₂ s.list_counter added types)
    (field : Field) (type : DataType)
    (htype : ∀ g, g s.list_counter = pure types → fieldType g field = pure type) :
    ∃ s₃, pushField s₂ sibling field = .ok s₃ ∧ Appended s s₃ sibling [field] [type] := by
  have hmake := makeFieldList_of_fresh hfresh
  have hc : (makeFieldList s).2.list_counter = s.list_counter + 1 := by rw [hmake]
  have hframe : ∀ i, i < s.list_counter → s₂.type_lists i = s.type_lists i := by
    intro i hi
    rw [hchild.frame i (by omega) (by omega), hmake]
    simp [show i ≠ s.list_counter by omega]
  have hs₂ : s₂.type_lists sibling = some fields := by rw [hframe sibling hsib, hs]
  have hnew : s₂.type_lists s.list_counter = some added := by
    simpa using hchild.sibling_list [] (by rw [hmake]; simp)
  refine ⟨_, pushField_of_some hs₂ field, ?_⟩
  have hc₂ := hchild.counter_le
  refine ⟨hchild.fresh.setList (by omega) _, by simp only [SchemaVisitorData.setList_list_counter]; omega,
    fun fields' hs' => by obtain rfl := Option.some.inj (hs.symm.trans hs'); simp,
    fun i hi hne => by simp [hne, hframe i hi], fun t fuel ht hfuel => ?_⟩
  simp only [SchemaVisitorData.setList_list_counter] at ht hfuel
  obtain ⟨fuel, rfl⟩ : ∃ f, fuel = f + 1 := ⟨fuel - 1, by omega⟩
  have htop : t s.list_counter = some added := by
    rw [ht _ le_rfl (by omega)]
    simpa [show s.list_counter ≠ sibling by omega] using hnew
  have hchildren : getDataTypesFromTypeList t (fuel + 1) s.list_counter = pure types := by
    simp only [getDataTypesFromTypeList, htop]
    refine hchild.rebuilt t fuel (fun i hi hi' => ?_) (by omega)
    rw [ht i (by omega) hi']
    simp [show i ≠ sibling by omega]
  simp only [List.mapM_cons, List.mapM_nil, htype _ hchildren, pure_bind]

/-! ## A walk appends what it visits -/

mutual
theorem visitType_appended (sibling : Nat) (name : String) (nullable : Bool)
    (physical_name : Option String) :
    ∀ (type : DeltaType) (s : SchemaVisitorData) (fields : List Field), Fresh s →
      sibling < s.list_counter → s.type_lists sibling = some fields →
      ∃ s' field, visitType sibling name nullable physical_name type s = .ok s' ∧
        field.name = name ∧ Appended s s' sibling [field] [translate type nullable]
  | .primitive p, s, fields, hfresh, hsib, hs =>
    ⟨_, _, pushField_of_some hs _, rfl, Appended.push hfresh hsib hs fun _ => by cases p <;> rfl⟩
  | .decimal precision scale, s, fields, hfresh, hsib, hs =>
    ⟨_, _, pushField_of_some hs _, rfl, Appended.push hfresh hsib hs fun _ => rfl⟩
  | .array element contains_null, s, fields, hfresh, hsib, hs => by
    have hmake := makeFieldList_of_fresh hfresh
    obtain ⟨s₂, e, hvisit, -, he⟩ := visitType_appended s.list_counter "array_element"
      contains_null none element (makeFieldList s).2 [] hfresh.makeFieldList
      (by rw [hmake]; simp) (by rw [hmake]; simp)
    obtain ⟨s₃, hpush, happ⟩ := Appended.pushChild hfresh hsib hs he
      { name := name, type := .array, nullable := nullable, physical_name := physical_name.getD "",
        child_list_id := s.list_counter } (translate (.array element contains_null) nullable)
      (fun g hg => by
        simp only [fieldType, isSimpleDataType, hg, translate, reduceCtorEq,
          if_neg (show s.list_counter ≠ 0 by omega), Bool.false_eq_true, ↓reduceIte, ↓reduceDIte,
          List.singleton_append, pure_bind])
    exact ⟨s₃, _, by simpa [visitType, hvisit, arrayTypeVisitor, listBasedTypeVisitor] using hpush,
      rfl, happ⟩
  | .map key value value_contains_null, s, fields, hfresh, hsib, hs => by
    have hmake := makeFieldList_of_fresh hfresh
    have hc : (makeFieldList s).2.list_counter = s.list_counter + 1 := by rw [hmake]
    obtain ⟨s₂, k, hkey, -, hk⟩ := visitType_appended s.list_counter "map_key" false none key
      (makeFieldList s).2 [] hfresh.makeFieldList (by omega) (by rw [hmake]; simp)
    obtain ⟨s₃, v, hvalue, -, hv⟩ := visitType_appended s.list_counter "map_value"
      value_contains_null none value s₂ [k] hk.fresh (by have := hk.counter_le; omega)
      (by simpa using hk.sibling_list [] (by rw [hmake]; simp))
    obtain ⟨s₄, hpush, happ⟩ := Appended.pushChild hfresh hsib hs
      (hk.trans (by omega) hv)
      { name := name, type := .map, nullable := nullable, physical_name := physical_name.getD "",
        child_list_id := s.list_counter }
      (translate (.map key value value_contains_null) nullable)
      (fun g hg => by
        simp only [fieldType, isSimpleDataType, hg, translate, reduceCtorEq,
          if_neg (show s.list_counter ≠ 0 by omega), Bool.false_eq_true, ↓reduceIte, ↓reduceDIte,
          List.singleton_append, pure_bind])
    exact ⟨s₄, _, by simpa [visitType, hkey, hvalue, mapTypeVisitor, listBasedTypeVisitor] using hpush,
      rfl, happ⟩
  | .struct fs, s, fields, hfresh, hsib, hs => by
    have hmake := makeFieldList_of_fresh hfresh
    obtain ⟨s₂, added, hvisit, -, hfs⟩ := visitStructFields_appended s.list_counter fs
      (makeFieldList s).2 [] hfresh.makeFieldList (by rw [hmake]; simp) (by rw [hmake]; simp)
    obtain ⟨s₃, hpush, happ⟩ := Appended.pushChild hfresh hsib hs hfs
      { name := name, type := .tuple, nullable := nullable, physical_name := physical_name.getD "",
        child_list_id := s.list_counter } (translate (.struct fs) nullable)
      (fun g hg => by
        simp only [fieldType, isSimpleDataType, hg, translate, reduceCtorEq,
          if_neg (show s.list_counter ≠ 0 by omega), Bool.false_eq_true, ↓reduceIte, ↓reduceDIte,
          List.singleton_append, pure_bind])
    exact ⟨s₃, _, by simpa [visitType, hvisit, tupleTypeVisitor, listBasedTypeVisitor] using hpush,
      rfl, happ⟩

theorem visitStructField_appended (sibling : Nat) :
    ∀ (f : StructField) (s : SchemaVisitorData) (fields : List Field), Fresh s →
      sibling < s.list_counter → s.type_lists sibling = some fields →
      ∃ s' field, visitStructField sibling f s = .ok s' ∧ field.name = f.name ∧
        Appended s s' sibling [field] [translateField f]
  | .mk name type nullable physical_name, s, fields, hfresh, hsib, hs =>
    visitType_appended sibling name nullable physical_name type s fields hfresh hsib hs

theorem visitStructFields_appended (sibling : Nat) :
    ∀ (fs : List StructField) (s : SchemaVisitorData) (fields : List Field), Fresh s →
      sibling < s.list_counter → s.type_lists sibling = some fields →
      ∃ s' added, visitStructFields sibling fs s = .ok s' ∧
        added.map Field.name = fs.map StructField.name ∧
        Appended s s' sibling added (translateFields fs)
  | [], s, _, hfresh, _, _ => ⟨s, [], rfl, rfl, Appended.nil hfresh sibling⟩
  | f :: fs, s, fields, hfresh, hsib, hs => by
    obtain ⟨s₁, field, h₁, hname, happ₁⟩ :=
      visitStructField_appended sibling f s fields hfresh hsib hs
    obtain ⟨s₂, added, h₂, hnames, happ₂⟩ := visitStructFields_appended sibling fs s₁
      (fields ++ [field]) happ₁.fresh (by have := happ₁.counter_le; omega)
      (happ₁.sibling_list _ hs)
    exact ⟨s₂, field :: added, by simp [visitStructFields, h₁, h₂], by simp [hname, hnames],
      happ₁.trans hsib happ₂⟩
end

/-! ## Reading the schema back -/

/-- Pairing the fields a walk appended with the types rebuilt for them pairs each visited field's
name with its translation. -/
theorem zip_names_translate (g : StructField → DataType) :
    ∀ (schema : List StructField) (added : List Field),
      added.map Field.name = schema.map StructField.name →
      (added.zip (schema.map g)).map (fun column => (column.1.name, column.2)) =
        schema.map fun f => (f.name, g f)
  | [], [], _ => rfl
  | f :: schema, field :: added, h => by
    simp only [List.map_cons, List.cons.injEq] at h
    simp [h.1, zip_names_translate g schema added h.2]
  | [], _ :: _, h => by simp at h
  | _ :: _, [], h => by simp at h

/-- A walk of a Delta schema from a fresh `SchemaVisitorData` is read back as the schema's
top-level fields with their names and translated types: the walk records the top-level list
under id `0`, and `getDataTypesFromTypeList` returns the translations with any fuel from
`list_counter` on, so `getSchemaResult` returns. -/
theorem getSchemaResult_of_visitSchema (schema : List StructField) :
    ∃ data, visitSchema schema SchemaVisitorData.init = .ok (0, data) ∧
      (∀ fuel, data.list_counter ≤ fuel →
        getDataTypesFromTypeList data.type_lists fuel 0 = pure (schema.map translateField)) ∧
      ∃ result, getSchemaResult data = pure result ∧
        result.names_and_types = schema.map fun f => (f.name, translateField f) := by
  have hinit : Fresh SchemaVisitorData.init := fun _ _ => rfl
  have hmake := makeFieldList_of_fresh hinit
  obtain ⟨data, added, hvisit, hnames, happ⟩ := visitStructFields_appended 0 schema
    (makeFieldList .init).2 [] hinit.makeFieldList (by rw [hmake]; simp [SchemaVisitorData.init])
    (by rw [hmake]; simp [SchemaVisitorData.init])
  have hlist : data.type_lists 0 = some added := by
    simpa using happ.sibling_list [] (by rw [hmake]; simp [SchemaVisitorData.init])
  have htypes : ∀ fuel, data.list_counter ≤ fuel →
      getDataTypesFromTypeList data.type_lists fuel 0 = pure (schema.map translateField) := by
    intro fuel hfuel
    have hc := happ.counter_le
    rw [hmake] at hc
    obtain ⟨fuel, rfl⟩ : ∃ f, fuel = f + 1 := ⟨fuel - 1, by simp [SchemaVisitorData.init] at hc; omega⟩
    simp only [getDataTypesFromTypeList, hlist, ← translateFields_eq_map]
    exact happ.rebuilt _ fuel (fun _ _ _ => rfl) (by rw [hmake]; simp [SchemaVisitorData.init]; omega)
  refine ⟨data, ?_, htypes, (added.zip (schema.map translateField)).foldl addColumn ⟨[], []⟩, ?_, ?_⟩
  · simpa [visitSchema, SchemaVisitorData.init] using congrArg (Except.map fun s => (0, s)) hvisit
  · simp only [getSchemaResult, htypes _ (Nat.le_succ _), pure_bind, hlist, Option.getD_some]
  · rw [foldl_addColumn_names_and_types]
    simpa using zip_names_translate translateField schema added hnames

end ClickHouse.DeltaLake
