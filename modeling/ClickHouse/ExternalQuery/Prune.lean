import ClickHouse.ExternalQuery.AST

set_option autoImplicit false

/-! # Removing the conditions on unknown columns

Before the `WHERE` goes to the external database, the conditions that mention columns the
external table does not have are removed (`removeUnknownSubexpressionsFromWhere`). The rewrite
is in place: `removeUnknownSubexpressions` returns whether to leave a node in the tree, and
rewrites it on the way.

* An identifier is left when its name is a known column; a literal is always left, and so is a
  table identifier, which is not an `ASTIdentifier` and has no children to inspect.
* For `and` and `or`, the arguments that are not to be left are removed; with one argument
  left the node is replaced by it, with none the node is not to be left.
* Any other node is left when all its children are; the walk over the children stops at the
  first one that is not.

What is left after a `true` mentions known columns only (`removeUnknownSubexpressions_inspected`),
except in the parameter list of an `and` or `or`, which the walk never visits.
-/

namespace ClickHouse.ExternalQuery

/-- `NamesAndTypesList`: column names with their type names. -/
abbrev NamesAndTypesList := List (String × String)

section Prune

variable (known_names : List String)

mutual
/-- `removeUnknownSubexpressions`: the node as rewritten, and whether to leave it in the tree. -/
def removeUnknownSubexpressions : AST → AST × Bool
  | .identifier n => (.identifier n, decide (n ∈ known_names))
  | .tableIdentifier n => (.tableIdentifier n, true)
  | .literal v => (.literal v, true)
  | .function name args params =>
    if AST.isAndOr name then
      let children := removeUnknownChildren args
      match children with
      | [child] => (child, true)
      | _ => (.function name children params, !children.isEmpty)
    else
      let r := leaveChildren args
      if r.2 then
        let p := leaveParameters params
        (.function name r.1 p.1, p.2)
      else (.function name r.1 params, false)
  | .expressionList cs =>
    let r := leaveChildren cs
    (.expressionList r.1, r.2)

/-- `removeUnknownChildren`: rewrite every child and keep those to leave. -/
def removeUnknownChildren : List AST → List AST
  | [] => []
  | c :: cs =>
    let r := removeUnknownSubexpressions c
    if r.2 then r.1 :: removeUnknownChildren cs else removeUnknownChildren cs

/-- The loop of `removeUnknownSubexpressions` over the elements of an expression list: each is
rewritten until one is not to be left, and the loop stops there. -/
def leaveChildren : List AST → List AST × Bool
  | [] => ([], true)
  | c :: cs =>
    let r := removeUnknownSubexpressions c
    if r.2 then
      let rs := leaveChildren cs
      (r.1 :: rs.1, rs.2)
    else (r.1 :: cs, false)

/-- The same loop over a function's parameter list, when it has one. -/
def leaveParameters : Option (List AST) → Option (List AST) × Bool
  | none => (none, true)
  | some ps =>
    let r := leaveChildren ps
    (some r.1, r.2)
end

end Prune

/-- `removeUnknownSubexpressionsFromWhere`: the `WHERE` as rewritten, and whether anything of it
is left. A non-empty expression list at the top is pruned like the arguments of an `and`. -/
def removeUnknownSubexpressionsFromWhere (node : Option AST)
    (available_columns : NamesAndTypesList) : Option AST × Bool :=
  match node with
  | none => (none, false)
  | some node =>
    let known_names := available_columns.map Prod.fst
    match node with
    | .expressionList (c :: cs) =>
      let children := removeUnknownChildren known_names (c :: cs)
      (some (.expressionList children), !children.isEmpty)
    | node =>
      let r := removeUnknownSubexpressions known_names node
      (some r.1, r.2)

/-! ## What is left mentions known columns -/

section Known

variable {known_names : List String}

mutual
theorem removeUnknownSubexpressions_inspected :
    ∀ t : AST, (removeUnknownSubexpressions known_names t).2 = true →
      ∀ n ∈ (removeUnknownSubexpressions known_names t).1.inspected, n ∈ known_names
  | .identifier n, h, m, hm => by
    simp_all [removeUnknownSubexpressions, AST.inspected]
  | .tableIdentifier n, _, m, hm => by simp [removeUnknownSubexpressions, AST.inspected] at hm
  | .literal v, _, m, hm => by simp [removeUnknownSubexpressions, AST.inspected] at hm
  | .function name args params, h, m, hm => by
    have hc := removeUnknownChildren_inspected args
    have hl := leaveChildren_inspected args
    have hp := leaveParameters_inspected params
    by_cases hao : AST.isAndOr name
    · simp only [removeUnknownSubexpressions, hao, ite_true] at h hm
      generalize removeUnknownChildren known_names args = children at h hm hc
      rcases children with _ | ⟨c, _ | ⟨d, rest⟩⟩
      · simp at h
      · exact hc m (by simpa [AST.inspectedList] using hm)
      · exact hc m (by simpa [AST.inspected, hao] using hm)
    · simp only [removeUnknownSubexpressions, hao] at h hm
      by_cases hr : (leaveChildren known_names args).2 = true
      · simp only [hr, ite_true, Bool.false_eq_true, ite_false, AST.inspected, hao,
          List.mem_append] at h hm
        exact hm.elim (hl hr m) (hp h m)
      · simp [hr] at h
  | .expressionList cs, h, m, hm => by
    have hl := leaveChildren_inspected cs
    simp only [removeUnknownSubexpressions, AST.inspected] at h hm
    exact hl h m hm

theorem removeUnknownChildren_inspected :
    ∀ ts : List AST, ∀ n ∈ AST.inspectedList (removeUnknownChildren known_names ts), n ∈ known_names
  | [], n, hn => by simp [removeUnknownChildren, AST.inspectedList] at hn
  | t :: ts, n, hn => by
    have ht := removeUnknownSubexpressions_inspected t
    have hts := removeUnknownChildren_inspected ts
    simp only [removeUnknownChildren] at hn
    split at hn
    · rename_i h
      simp only [AST.inspectedList, List.mem_append] at hn
      exact hn.elim (ht h n) (hts n)
    · exact hts n hn

theorem leaveChildren_inspected :
    ∀ ts : List AST, (leaveChildren known_names ts).2 = true →
      ∀ n ∈ AST.inspectedList (leaveChildren known_names ts).1, n ∈ known_names
  | [], _, n, hn => by simp [leaveChildren, AST.inspectedList] at hn
  | t :: ts, h, n, hn => by
    have ht := removeUnknownSubexpressions_inspected t
    have hts := leaveChildren_inspected ts
    simp only [leaveChildren] at h hn
    split at h
    · rename_i ht'
      simp only [ht', ite_true, AST.inspectedList, List.mem_append] at h hn
      exact hn.elim (ht ht' n) (hts h n)
    · simp at h

theorem leaveParameters_inspected :
    ∀ ps : Option (List AST), (leaveParameters known_names ps).2 = true →
      ∀ n ∈ AST.inspectedParams (leaveParameters known_names ps).1, n ∈ known_names
  | none, _, n, hn => by simp [leaveParameters, AST.inspectedParams] at hn
  | some ps, h, n, hn => by
    have hl := leaveChildren_inspected ps
    simp only [leaveParameters, AST.inspectedParams] at h hn
    exact hl h n hn
end

end Known

/-- When `removeUnknownSubexpressionsFromWhere` leaves a `WHERE`, the columns it inspects there
are all available. -/
theorem removeUnknownSubexpressionsFromWhere_inspected {query_where : Option AST}
    {available_columns : NamesAndTypesList} {w : AST}
    (h : removeUnknownSubexpressionsFromWhere query_where available_columns = (some w, true)) :
    w.inspected ⊆ available_columns.map Prod.fst := by
  unfold removeUnknownSubexpressionsFromWhere at h
  split at h
  · cases h
  · split at h <;> simp only [Prod.mk.injEq, Option.some.injEq] at h <;> obtain ⟨rfl, hl⟩ := h
    · exact fun n hn => removeUnknownChildren_inspected _ n hn
    · exact fun n hn => removeUnknownSubexpressions_inspected _ hl n hn

theorem mem_removeUnknownChildren {known_names : List String} {c : AST} {ts : List AST} :
    c ∈ removeUnknownChildren known_names ts ↔
      ∃ t ∈ ts, (removeUnknownSubexpressions known_names t).2 = true ∧
        (removeUnknownSubexpressions known_names t).1 = c := by
  induction ts with
  | nil => simp [removeUnknownChildren]
  | cons t ts ih =>
    simp only [removeUnknownChildren]
    split <;> rename_i h
    · rw [List.mem_cons, ih]
      simp only [List.mem_cons, exists_eq_or_imp, h, true_and]
      exact or_congr_left eq_comm
    · rw [ih]
      simp [exists_eq_or_imp, h]

/-! ## A tree over known columns is left whole -/

namespace AST

mutual
/-- Every `and` and `or` node of the tree has at least two arguments. Pruning replaces an
`and` or `or` of one argument by that argument, which changes the value of the tree around it. -/
def noShortAndOr : AST → Bool
  | .function name args params =>
    (!isAndOr name || decide (2 ≤ args.length)) && noShortAndOrList args &&
      noShortAndOrParams params
  | .expressionList cs => noShortAndOrList cs
  | _ => true

/-- Every `and` and `or` node of a list of trees has at least two arguments. -/
def noShortAndOrList : List AST → Bool
  | [] => true
  | t :: ts => noShortAndOr t && noShortAndOrList ts

/-- Every `and` and `or` node of a parameter list has at least two arguments. -/
def noShortAndOrParams : Option (List AST) → Bool
  | none => true
  | some ps => noShortAndOrList ps
end

end AST

section Whole

variable {known_names : List String}

mutual
/-- Pruning leaves a tree as it is when every column it inspects is known and its `and` and
`or` nodes have two arguments or more. -/
theorem removeUnknownSubexpressions_of_known :
    ∀ t : AST, t.inspected ⊆ known_names → t.noShortAndOr = true →
      removeUnknownSubexpressions known_names t = (t, true)
  | .identifier n, hk, _ => by simpa [removeUnknownSubexpressions, AST.inspected] using hk
  | .tableIdentifier _, _, _ => rfl
  | .literal _, _, _ => rfl
  | .function name args params, hk, hs => by
    simp only [AST.noShortAndOr, Bool.and_eq_true, Bool.or_eq_true, Bool.not_eq_true',
      decide_eq_true_eq] at hs
    obtain ⟨⟨harity, hargs⟩, hparams⟩ := hs
    simp only [AST.inspected, List.append_subset] at hk
    cases hao : AST.isAndOr name
    · simp only [hao, Bool.false_eq_true, ite_false] at hk
      simp only [removeUnknownSubexpressions, hao, Bool.false_eq_true, ite_false,
        leaveChildren_of_known args hk.1 hargs, leaveParameters_of_known params hk.2 hparams,
        ite_true]
    · have h2 : 2 ≤ args.length := by simpa [hao] using harity
      simp only [removeUnknownSubexpressions, hao, ite_true,
        removeUnknownChildren_of_known args hk.1 hargs]
      rcases args with _ | ⟨a, _ | ⟨b, rest⟩⟩
      · simp at h2
      · simp at h2
      · rfl
  | .expressionList cs, hk, hs => by
    simp [removeUnknownSubexpressions, leaveChildren_of_known cs hk hs]

theorem removeUnknownChildren_of_known :
    ∀ ts : List AST, AST.inspectedList ts ⊆ known_names → AST.noShortAndOrList ts = true →
      removeUnknownChildren known_names ts = ts
  | [], _, _ => rfl
  | t :: ts, hk, hs => by
    simp only [AST.inspectedList, List.append_subset] at hk
    simp only [AST.noShortAndOrList, Bool.and_eq_true] at hs
    simp [removeUnknownChildren, removeUnknownSubexpressions_of_known t hk.1 hs.1,
      removeUnknownChildren_of_known ts hk.2 hs.2]

theorem leaveChildren_of_known :
    ∀ ts : List AST, AST.inspectedList ts ⊆ known_names → AST.noShortAndOrList ts = true →
      leaveChildren known_names ts = (ts, true)
  | [], _, _ => rfl
  | t :: ts, hk, hs => by
    simp only [AST.inspectedList, List.append_subset] at hk
    simp only [AST.noShortAndOrList, Bool.and_eq_true] at hs
    simp [leaveChildren, removeUnknownSubexpressions_of_known t hk.1 hs.1,
      leaveChildren_of_known ts hk.2 hs.2]

theorem leaveParameters_of_known :
    ∀ ps : Option (List AST), AST.inspectedParams ps ⊆ known_names →
      AST.noShortAndOrParams ps = true → leaveParameters known_names ps = (ps, true)
  | none, _, _ => rfl
  | some ps, hk, hs => by simp [leaveParameters, leaveChildren_of_known ps hk hs]
end

end Whole

/-- `removeUnknownSubexpressionsFromWhere` leaves a `WHERE` over available columns, whose `and`
and `or` nodes have two arguments or more, as it is. -/
theorem removeUnknownSubexpressionsFromWhere_of_known {t : AST}
    {available_columns : NamesAndTypesList} (hk : t.inspected ⊆ available_columns.map Prod.fst)
    (hs : t.noShortAndOr = true) :
    removeUnknownSubexpressionsFromWhere (some t) available_columns = (some t, true) := by
  simp only [removeUnknownSubexpressionsFromWhere]
  split
  · simp only [AST.inspected] at hk
    simp only [AST.noShortAndOr] at hs
    simp [removeUnknownChildren_of_known _ hk hs]
  · simp [removeUnknownSubexpressions_of_known t hk hs]

/-! ## Pruning a conjunction only weakens it -/

namespace AST

mutual
/-- The tree has no `and` or `or` node, among its arguments or its parameters. -/
def noAndOr : AST → Bool
  | .function name args params => !isAndOr name && noAndOrList args && noAndOrParams params
  | .expressionList cs => noAndOrList cs
  | _ => true

/-- No tree of the list has an `and` or `or` node. -/
def noAndOrList : List AST → Bool
  | [] => true
  | t :: ts => noAndOr t && noAndOrList ts

/-- No tree of the parameter list has an `and` or `or` node. -/
def noAndOrParams : Option (List AST) → Bool
  | none => true
  | some ps => noAndOrList ps
end

/-- A **conjunction**: `and` nodes over conditions that have no `and` or `or` in them. -/
inductive Conjunction : AST → Prop
  | atom {t : AST} : t.noAndOr = true → Conjunction t
  | and {args : List AST} {params : Option (List AST)} :
      (∀ a ∈ args, Conjunction a) → Conjunction (.function "and" args params)

end AST

section Weakening

variable {known_names : List String}

mutual
/-- Pruning leaves a tree without `and` and `or` as it is. -/
theorem removeUnknownSubexpressions_of_noAndOr :
    ∀ t : AST, t.noAndOr = true → (removeUnknownSubexpressions known_names t).1 = t
  | .identifier _, _ => rfl
  | .tableIdentifier _, _ => rfl
  | .literal _, _ => rfl
  | .function name args params, h => by
    simp only [AST.noAndOr, Bool.and_eq_true, Bool.not_eq_true'] at h
    obtain ⟨⟨hname, hargs⟩, hparams⟩ := h
    have ha := leaveChildren_of_noAndOr args hargs
    have hp := leaveParameters_of_noAndOr params hparams
    simp only [removeUnknownSubexpressions, hname, Bool.false_eq_true, ↓reduceIte]
    split <;> simp [ha, hp]
  | .expressionList cs, h => by
    simp [removeUnknownSubexpressions, leaveChildren_of_noAndOr cs h]

theorem leaveChildren_of_noAndOr :
    ∀ ts : List AST, AST.noAndOrList ts = true → (leaveChildren known_names ts).1 = ts
  | [], _ => rfl
  | t :: ts, h => by
    simp only [AST.noAndOrList, Bool.and_eq_true] at h
    have ht := removeUnknownSubexpressions_of_noAndOr t h.1
    have hts := leaveChildren_of_noAndOr ts h.2
    simp only [leaveChildren]
    split <;> simp [ht, hts]

theorem leaveParameters_of_noAndOr :
    ∀ ps : Option (List AST), AST.noAndOrParams ps = true → (leaveParameters known_names ps).1 = ps
  | none, _ => rfl
  | some ps, h => by simp [leaveParameters, leaveChildren_of_noAndOr ps h]
end

/-- Pruning only weakens a conjunction: on every row where the conjunction holds, what
`removeUnknownSubexpressions` leaves of it holds too. -/
theorem pruned_conjunction_weakens (interp : String → List Field → Field) (row : String → Field)
    {t : AST} (hc : t.Conjunction) (hleave : (removeUnknownSubexpressions known_names t).2 = true)
    (hholds : t.Holds interp row) :
    (removeUnknownSubexpressions known_names t).1.Holds interp row := by
  induction hc with
  | atom h => rwa [removeUnknownSubexpressions_of_noAndOr _ h]
  | @and args params _ ih =>
    rw [AST.holds_and_iff] at hholds
    have hkept : ∀ c ∈ removeUnknownChildren known_names args, c.Holds interp row := by
      intro c hc
      obtain ⟨a, ha, hl, rfl⟩ := mem_removeUnknownChildren.1 hc
      exact ih a ha hl (hholds a ha)
    simp only [removeUnknownSubexpressions, show AST.isAndOr "and" = true from rfl, ite_true]
      at hleave ⊢
    generalize removeUnknownChildren known_names args = children at hleave hkept ⊢
    rcases children with _ | ⟨c, _ | ⟨d, rest⟩⟩
    · simp at hleave
    · exact hkept c (List.mem_singleton_self c)
    · exact (AST.holds_and_iff _ _ _ _).2 hkept

/-- `x AND y` over the column `x` alone is pruned to `x`, which holds where `x AND y` holds. -/
theorem pruned_conjunction_weakens_of_unknown_y :
    (AST.function "and" [.identifier "x", .identifier "y"] none).Conjunction ∧
    (removeUnknownSubexpressions ["x"] (.function "and" [.identifier "x", .identifier "y"] none)).2 =
      true ∧
    (AST.function "and" [.identifier "x", .identifier "y"] none).Holds (fun _ _ => .null)
      (fun _ => .uint64 1) ∧
    (removeUnknownSubexpressions ["x"]
      (.function "and" [.identifier "x", .identifier "y"] none)).1.Holds (fun _ _ => .null)
      (fun _ => .uint64 1) :=
  have hc : (AST.function "and" [.identifier "x", .identifier "y"] none).Conjunction := by
    refine .and fun a ha => .atom ?_
    simp only [List.mem_cons, List.mem_singleton, List.not_mem_nil, or_false] at ha
    rcases ha with rfl | rfl <;> rfl
  ⟨hc, rfl, by decide, pruned_conjunction_weakens _ _ hc rfl (by decide)⟩

end Weakening

end ClickHouse.ExternalQuery
