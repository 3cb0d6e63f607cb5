import ClickHouse.DeltaLake.Visit

set_option autoImplicit false

/-! # The schema of a snapshot

`getTableSchemaFromSnapshot` walks the logical schema of a snapshot from a fresh
`SchemaVisitorData` and returns the columns with their types, and the map from column names to
physical names; `getReadSchemaFromSnapshot` walks the physical schema of a scan and returns the
columns. `getSchemaResult` fills the map from the top-level list only: the physical names the
visitor records for nested fields are never read.

`getTableSchemaFromSnapshot_physical_names` gives both results for every schema: the top-level
fields with their translated types, and, for each name, the physical name of the first top-level
field of that name that has one; when the top-level names are distinct, the map pairs every field
that has a physical name with it, so the `chassert(inserted)` of `getSchemaResult` holds
(`getTableSchemaFromSnapshot_of_nodup`). `getReadSchemaFromSnapshot_eq` gives the columns of a
read schema. The walk lemma behind them, `visitStructFields_physical_names`, adds to the invariant of
`Visit.lean` that each appended field keeps the physical name of the field visited.
-/

namespace ClickHouse.DeltaLake

/-- The physical name the visitor records for a field: its `delta.columnMapping.physicalName`,
or `""`. -/
def StructField.physical_name : StructField → String
  | .mk _ _ _ physical_name => physical_name.getD ""

/-- `getTableSchemaFromSnapshot`, for a snapshot whose logical schema is `schema`: the walk of
`visitTableSchema` from a fresh `SchemaVisitorData`, read back by `getSchemaResult`. -/
def getTableSchemaFromSnapshot (schema : List StructField) :
    ExceptT Error Option (List (String × DataType) × List (String × String)) :=
  match visitSchema schema SchemaVisitorData.init with
  | .error e => throw e
  | .ok (_, data) => do
    let result ← getSchemaResult data
    pure (result.names_and_types, result.physical_names_map)

/-- `getReadSchemaFromSnapshot`, for a scan whose physical schema is `schema`. -/
def getReadSchemaFromSnapshot (schema : List StructField) :
    ExceptT Error Option (List (String × DataType)) :=
  match visitSchema schema SchemaVisitorData.init with
  | .error e => throw e
  | .ok (_, data) => do
    let result ← getSchemaResult data
    pure result.names_and_types

/-! ## The field a visit appends -/

theorem bind_eq_ok {α β : Type} {x : Except Error α} {f : α → Except Error β} {b : β}
    (h : (x >>= f) = .ok b) : ∃ a, x = .ok a ∧ f a = .ok b := by
  cases x with
  | error e => cases h
  | ok a => exact ⟨a, rfl, h⟩

theorem pushField_eq_ok {state s' : SchemaVisitorData} {sibling : Nat} {field : Field}
    (h : pushField state sibling field = .ok s') :
    ∃ fields, s' = state.setList sibling (fields ++ [field]) := by
  unfold pushField at h
  split at h
  · cases h
  · cases h
    exact ⟨_, rfl⟩

/-- A visit ends by appending to the sibling list a field with the visited name and physical
name, whatever it did to other lists before. -/
theorem visitType_last {sibling : Nat} {name : String} {nullable : Bool}
    {physical_name : Option String} {type : DeltaType} {s s' : SchemaVisitorData}
    (h : visitType sibling name nullable physical_name type s = .ok s') :
    ∃ (s₀ : SchemaVisitorData) (fields : List Field) (field : Field),
      s' = s₀.setList sibling (fields ++ [field]) ∧ field.name = name ∧
      field.physical_name = physical_name.getD "" := by
  have hlast : ∀ {state : SchemaVisitorData} {field : Field},
      pushField state sibling field = .ok s' → field.name = name →
        field.physical_name = physical_name.getD "" →
        ∃ (s₀ : SchemaVisitorData) (fields : List Field) (field : Field),
          s' = s₀.setList sibling (fields ++ [field]) ∧ field.name = name ∧
          field.physical_name = physical_name.getD "" := fun hp hn hpn =>
    let ⟨fields, hs⟩ := pushField_eq_ok hp
    ⟨_, fields, _, hs, hn, hpn⟩
  cases type with
  | primitive p => exact hlast h rfl rfl
  | decimal precision scale => exact hlast h rfl rfl
  | array element contains_null =>
    obtain ⟨_, -, hp⟩ := bind_eq_ok h
    exact hlast hp rfl rfl
  | map key value value_contains_null =>
    obtain ⟨_, -, h'⟩ := bind_eq_ok h
    obtain ⟨_, -, hp⟩ := bind_eq_ok h'
    exact hlast hp rfl rfl
  | struct fields =>
    obtain ⟨_, -, hp⟩ := bind_eq_ok h
    exact hlast hp rfl rfl

/-- The field a visit appended last to a list carries the visited field's name and physical
name. -/
theorem field_of_visitStructField {sibling : Nat} {f : StructField} {s s₁ : SchemaVisitorData}
    {fields : List Field} {field : Field} (h : visitStructField sibling f s = .ok s₁)
    (hlist : s₁.type_lists sibling = some (fields ++ [field])) :
    (field.name, field.physical_name) = (f.name, f.physical_name) := by
  cases f with
  | mk name type nullable physical_name =>
    obtain ⟨s₀, fields₀, field₀, rfl, hname, hphysical⟩ := visitType_last h
    simp only [SchemaVisitorData.setList_type_lists, ite_true, Option.some.injEq] at hlist
    obtain ⟨-, hlast⟩ := List.append_inj' hlist rfl
    obtain rfl := List.singleton_inj.1 hlast
    simp [hname, hphysical, StructField.name, StructField.physical_name]

/-- Visiting the fields of a struct into a list appends, for each field in turn, one with its
name and physical name; the rest is the invariant of `visitStructFields_appended`. -/
theorem visitStructFields_physical_names (sibling : Nat) :
    ∀ (fs : List StructField) (s : SchemaVisitorData) (fields : List Field), Fresh s →
      sibling < s.list_counter → s.type_lists sibling = some fields →
      ∃ s' added, visitStructFields sibling fs s = .ok s' ∧
        added.map (fun f => (f.name, f.physical_name)) =
          fs.map (fun f => (f.name, f.physical_name)) ∧
        Appended s s' sibling added (translateFields fs)
  | [], s, _, hfresh, _, _ => ⟨s, [], rfl, rfl, Appended.nil hfresh sibling⟩
  | f :: fs, s, fields, hfresh, hsib, hs => by
    obtain ⟨s₁, field, h₁, -, happ₁⟩ :=
      visitStructField_appended sibling f s fields hfresh hsib hs
    have hfield := field_of_visitStructField h₁ (happ₁.sibling_list _ hs)
    obtain ⟨s₂, added, h₂, hpairs, happ₂⟩ := visitStructFields_physical_names sibling fs s₁
      (fields ++ [field]) happ₁.fresh (by have := happ₁.counter_le; omega)
      (happ₁.sibling_list _ hs)
    exact ⟨s₂, field :: added, by simp [visitStructFields, h₁, h₂], by simp [hfield, hpairs],
      happ₁.trans hsib happ₂⟩

/-! ## The map of physical names -/

/-- One turn of `getSchemaResult`'s loop adds the column's physical name under its name, unless
it is empty or the name already has one. -/
theorem lookup_addColumn (result : SchemaResult) (column : Field × DataType) (n : String) :
    (addColumn result column).physical_names_map.lookup n =
      (result.physical_names_map.lookup n).or
        (if column.1.name == n && !column.1.physical_name.isEmpty then
          some column.1.physical_name else none) := by
  have hmap : (addColumn result column).physical_names_map =
      if column.1.physical_name.isEmpty ||
          result.physical_names_map.any (·.1 == column.1.name) then
        result.physical_names_map
      else result.physical_names_map ++ [(column.1.name, column.1.physical_name)] := rfl
  rw [hmap]
  by_cases hkept : (column.1.physical_name.isEmpty ||
      result.physical_names_map.any (·.1 == column.1.name)) = true
  · -- the map is unchanged: the column adds nothing, or its name already has an entry
    rw [if_pos hkept]
    cases hc : (column.1.name == n && !column.1.physical_name.isEmpty)
    · simp
    · simp only [Bool.and_eq_true, beq_iff_eq, Bool.not_eq_true'] at hc
      obtain ⟨rfl, hempty⟩ := hc
      simp only [hempty, Bool.false_or, List.any_eq_true, beq_iff_eq] at hkept
      obtain ⟨p, hp, hpn⟩ := hkept
      obtain ⟨v, hv⟩ := Option.isSome_iff_exists.1
        (List.lookup_isSome_iff.2 ⟨p, hp, beq_iff_eq.2 hpn.symm⟩)
      simp [hv]
  · rw [if_neg hkept]
    simp only [Bool.or_eq_true, not_or, Bool.not_eq_true] at hkept
    rw [List.lookup_append, List.lookup_cons, List.lookup_nil, hkept.1, Bool.not_false,
      Bool.and_true]
    by_cases hn : n = column.1.name
    · subst hn
      simp
    · simp [beq_false_of_ne hn, Ne.symm hn]

/-- **The physical names `getSchemaResult`'s loop collects**: under each name, the one the map
had, or else the first non-empty one among the columns of that name. -/
theorem lookup_foldl_addColumn (columns : List (Field × DataType)) (result : SchemaResult)
    (n : String) :
    (columns.foldl addColumn result).physical_names_map.lookup n =
      (result.physical_names_map.lookup n).or
        (((columns.map Prod.fst).find? fun f => f.name == n && !f.physical_name.isEmpty).map
          Field.physical_name) := by
  induction columns generalizing result with
  | nil => simp
  | cons column columns ih =>
    rw [List.foldl_cons, ih, lookup_addColumn, Option.or_assoc, List.map_cons, List.find?_cons]
    cases hc : (column.1.name == n && !column.1.physical_name.isEmpty) <;> simp [hc]

/-! ## The schema of a snapshot -/

/-- The walk of a schema from fresh data: the top-level list holds one field per field of the
schema, with its name and physical name, and the types read back from it are the schema's
translated types. -/
theorem visitSchema_init (schema : List StructField) :
    ∃ data added, visitSchema schema SchemaVisitorData.init = .ok (0, data) ∧
      data.type_lists 0 = some added ∧
      added.map (fun f => (f.name, f.physical_name)) =
        schema.map (fun f => (f.name, f.physical_name)) ∧
      getDataTypesFromTypeList data.type_lists (data.list_counter + 1) 0 =
        pure (schema.map translateField) := by
  have hinit : Fresh SchemaVisitorData.init := fun _ _ => rfl
  have hmake := makeFieldList_of_fresh hinit
  obtain ⟨data, added, hvisit, hpairs, happ⟩ := visitStructFields_physical_names 0 schema
    (makeFieldList .init).2 [] hinit.makeFieldList (by rw [hmake]; simp [SchemaVisitorData.init])
    (by rw [hmake]; simp [SchemaVisitorData.init])
  have hlist : data.type_lists 0 = some added := by
    simpa using happ.sibling_list [] (by rw [hmake]; simp [SchemaVisitorData.init])
  refine ⟨data, added, ?_, hlist, hpairs, ?_⟩
  · simpa [visitSchema, SchemaVisitorData.init] using congrArg (Except.map fun s => (0, s)) hvisit
  · simp only [getDataTypesFromTypeList, hlist, ← translateFields_eq_map]
    exact happ.rebuilt _ _ (fun _ _ _ => rfl) (by rw [hmake]; simp [SchemaVisitorData.init])

/-- What `getSchemaResult` returns after the walk: its loop over the fields appended and the types
read back, whose columns are the fields' names with their translated types. -/
theorem getSchemaResult_of_walk {schema : List StructField} {data : SchemaVisitorData}
    {added : List Field} (hlist : data.type_lists 0 = some added)
    (hpairs : added.map (fun f => (f.name, f.physical_name)) =
      schema.map (fun f => (f.name, f.physical_name)))
    (htypes : getDataTypesFromTypeList data.type_lists (data.list_counter + 1) 0 =
      pure (schema.map translateField)) :
    getSchemaResult data = pure ((added.zip (schema.map translateField)).foldl addColumn ⟨[], []⟩) ∧
      ((added.zip (schema.map translateField)).foldl addColumn ⟨[], []⟩).names_and_types =
        schema.map (fun f => (f.name, translateField f)) := by
  have hnames : added.map Field.name = schema.map StructField.name := by
    simpa using congrArg (List.map Prod.fst) hpairs
  refine ⟨by simp only [getSchemaResult, htypes, pure_bind, hlist, Option.getD_some], ?_⟩
  rw [foldl_addColumn_names_and_types, List.nil_append,
    zip_names_translate translateField schema added hnames]

/-- **The schema of a snapshot.** For every logical schema, `getTableSchemaFromSnapshot` returns
the top-level fields with their names and translated types, and a map of physical names that
gives each name the physical name of the first top-level field of that name that has one, and
nothing for any other name: the physical names of nested fields never reach it. -/
theorem getTableSchemaFromSnapshot_physical_names (schema : List StructField) :
    ∃ physical_names_map,
      getTableSchemaFromSnapshot schema =
        pure (schema.map (fun f => (f.name, translateField f)), physical_names_map) ∧
      ∀ n, physical_names_map.lookup n =
        (schema.find? fun f => f.name == n && !f.physical_name.isEmpty).map
          StructField.physical_name := by
  obtain ⟨data, added, hsome, hlist, hpairs, htypes⟩ := visitSchema_init schema
  obtain ⟨hresult, hcolumns⟩ := getSchemaResult_of_walk hlist hpairs htypes
  have hlen : added.length ≤ (schema.map translateField).length := by
    simpa using (congrArg List.length hpairs).le
  refine ⟨((added.zip (schema.map translateField)).foldl addColumn ⟨[], []⟩).physical_names_map,
    by simp only [getTableSchemaFromSnapshot, hsome, hresult, hcolumns, pure_bind], fun n => ?_⟩
  rw [lookup_foldl_addColumn, List.map_fst_zip _ _ hlen]
  have hfind := congrArg (Option.map Prod.snd)
    (congrArg (List.find? fun p : String × String => p.1 == n && !p.2.isEmpty) hpairs)
  simpa [List.find?_map, Function.comp_def] using hfind

/-- **The read schema of a scan.** For every physical schema, `getReadSchemaFromSnapshot`
returns its top-level fields with their names and translated types, in order. -/
theorem getReadSchemaFromSnapshot_eq (schema : List StructField) :
    getReadSchemaFromSnapshot schema = pure (schema.map fun f => (f.name, translateField f)) := by
  obtain ⟨data, added, hsome, hlist, hpairs, htypes⟩ := visitSchema_init schema
  obtain ⟨hresult, hcolumns⟩ := getSchemaResult_of_walk hlist hpairs htypes
  simp only [getReadSchemaFromSnapshot, hsome, hresult, hcolumns, pure_bind]

/-- Columns whose names are distinct and not yet in the map each add their physical name, when
they have one: every `emplace` of the loop inserts. -/
theorem foldl_addColumn_physical_names_map (columns : List (Field × DataType))
    (result : SchemaResult)
    (hkeys : ∀ column ∈ columns, column.1.name ∉ result.physical_names_map.map Prod.fst)
    (hnodup : (columns.map (·.1.name)).Nodup) :
    (columns.foldl addColumn result).physical_names_map = result.physical_names_map ++
      (columns.map fun column => (column.1.name, column.1.physical_name)).filter
        fun p => !p.2.isEmpty := by
  induction columns generalizing result with
  | nil => simp
  | cons column columns ih =>
    simp only [List.map_cons, List.nodup_cons, List.mem_map] at hnodup
    have hnew : result.physical_names_map.any (·.1 == column.1.name) = false := by
      simp only [List.any_eq_false, beq_iff_eq]
      exact fun p hp he => hkeys column (List.mem_cons_self _ _) (he ▸ List.mem_map_of_mem _ hp)
    have hadd : (addColumn result column).physical_names_map = result.physical_names_map ++
        [(column.1.name, column.1.physical_name)].filter fun p => !p.2.isEmpty := by
      by_cases hempty : column.1.physical_name.isEmpty <;> simp [addColumn, hempty, hnew]
    rw [List.foldl_cons, ih _ _ hnodup.2, hadd, List.append_assoc, ← List.filter_append]
    · rfl
    · intro c hc
      have hne : c.1.name ≠ column.1.name := fun he => hnodup.1 ⟨c, hc, he⟩
      simpa [hadd, hne] using hkeys c (List.mem_cons_of_mem _ hc)

/-- **With distinct top-level names, no physical name is lost.** For every logical schema whose
top-level fields have distinct names, the map `getTableSchemaFromSnapshot` returns pairs each
field that has a physical name with it, in order: every `emplace` of `getSchemaResult` inserts, so
its `chassert(inserted)` holds. -/
theorem getTableSchemaFromSnapshot_of_nodup (schema : List StructField)
    (h : (schema.map StructField.name).Nodup) :
    getTableSchemaFromSnapshot schema =
      pure (schema.map (fun f => (f.name, translateField f)),
        (schema.map fun f => (f.name, f.physical_name)).filter fun p => !p.2.isEmpty) := by
  obtain ⟨data, added, hsome, hlist, hpairs, htypes⟩ := visitSchema_init schema
  obtain ⟨hresult, hcolumns⟩ := getSchemaResult_of_walk hlist hpairs htypes
  have hlen : added.length ≤ (schema.map translateField).length := by
    simpa using (congrArg List.length hpairs).le
  have hfst : (added.zip (schema.map translateField)).map Prod.fst = added :=
    List.map_fst_zip _ _ hlen
  have hnames : added.map Field.name = schema.map StructField.name := by
    simpa using congrArg (List.map Prod.fst) hpairs
  have hmap := foldl_addColumn_physical_names_map (added.zip (schema.map translateField))
    ⟨[], []⟩ (fun _ _ => List.not_mem_nil _)
    (by rw [← Function.comp_def Field.name Prod.fst, ← List.map_map, hfst, hnames]; exact h)
  rw [← Function.comp_def (fun f : Field => (f.name, f.physical_name)) Prod.fst, ← List.map_map,
    hfst, hpairs, List.nil_append] at hmap
  simp only [getTableSchemaFromSnapshot, hsome, hresult, hcolumns, hmap, pure_bind]

/-- A struct column `s` with physical name `col-1` around a column `x` with physical name
`col-2`. -/
def nestedSchema : List StructField :=
  [.mk "s" (.struct [.mk "x" (.primitive .long) false (some "col-2")]) true (some "col-1")]

theorem getTableSchemaFromSnapshot_of_nodup_nested :
    (nestedSchema.map StructField.name).Nodup ∧
      getTableSchemaFromSnapshot nestedSchema =
        pure (nestedSchema.map (fun f => (f.name, translateField f)),
          (nestedSchema.map fun f => (f.name, f.physical_name)).filter fun p => !p.2.isEmpty) :=
  have h : (nestedSchema.map StructField.name).Nodup := by decide
  ⟨h, getTableSchemaFromSnapshot_of_nodup nestedSchema h⟩

/-- The physical name of a nested field is recorded by the walk and left out of the map. -/
example : getTableSchemaFromSnapshot
    [.mk "s" (.struct [.mk "x" (.primitive .long) false (some "col-2")]) true (some "col-1")] =
      pure ([("s", .tuple [.int64])], [("s", "col-1")]) := by
  rfl

end ClickHouse.DeltaLake
