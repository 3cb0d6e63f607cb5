import ClickHouse.ExternalQuery.Prune

set_option autoImplicit false

/-! # Compatible conditions and the `and`-flattening fallback

`isCompatible` decides whether a condition can be sent to the external database as it is. It
also rewrites what it visits, in place, for the formatter: a `tuple` function with at most one
argument loses its name (so that it is printed `(x)`), and a literal one-element tuple becomes a
nameless function of its element. The rewrite happens on every node the check reaches, also
when the check then fails: the walk over a function's arguments stops at the first argument
that is not compatible, and the arguments before it stay rewritten.

When the whole `WHERE` is not compatible and is an `and` (or a `tuple`), the fallback of
`transformQueryForExternalDatabaseImpl` walks it breadth first with a queue: every argument
that `isCompatible` accepts is kept, and the `and` and `tuple` nodes among the others are
queued. `drainStep` is one turn of that loop, and `drainPredicates` the loop with fuel.
`drainStep_iterate_empties_queue` shows that after as many turns as the queue's weight the queue
is empty and the turns pushed what `drainPredicates` computes with that fuel; `AST.queueable` of
the tree is at least that weight, so the model computes what the loop computes.
`fallback_keeps_reached` says what the loop keeps: the compatible conditions `Reached` from the
`WHERE`'s arguments through the nested `and` and `tuple` nodes the check rejects.
-/

namespace ClickHouse.ExternalQuery

/-- The functions `isCompatible` lets through. -/
def compatibleFunctions : List String :=
  ["and", "or", "not", "equals", "notEquals", "less", "greater", "lessOrEquals",
    "greaterOrEquals", "like", "notLike", "in", "notIn", "isNull", "isNotNull", "tuple"]

/-- The arguments with which `isCompatible` rejects `in` and `notIn`: not two of them, or a
table identifier on the right (`x IN t`). -/
def badInArguments : List AST → Bool
  | [_, .tableIdentifier _] => true
  | [_, _] => false
  | _ => true

/-- A literal of type `Array`, which foreign databases often do not support. -/
def Field.isArray : Field → Bool
  | .array _ => true
  | _ => false

/-- The literal branch of `isCompatible`: a one-element tuple `tuple(x)` becomes `(x)`, a
nameless function of its element; any other literal is compatible unless it is an array. -/
def literalCompatible : Field → AST × Bool
  | .tuple [v] => (.function "" [.literal v] none, true)
  | v => (.literal v, !v.isArray)

/-- What `isCompatible` makes of a literal mentions no identifier. -/
theorem literalCompatible_identifiers (v : Field) : (literalCompatible v).1.identifiers = [] := by
  unfold literalCompatible
  split <;> rfl

theorem literalCompatible_inspected (v : Field) : (literalCompatible v).1.inspected = [] := by
  unfold literalCompatible
  split <;> rfl

mutual
/-- `isCompatible`: the node as rewritten, and whether it can be sent as it is. -/
def isCompatible : AST → AST × Bool
  | .function name args (some ps) => (.function name args (some ps), false)
  | .function name args none =>
    if name ∉ compatibleFunctions then (.function name args none, false)
    else
      let name' := if name = "tuple" ∧ args.length ≤ 1 then "" else name
      if (name = "in" ∨ name = "notIn") ∧ badInArguments args = true then
        (.function name' args none, false)
      else
        let r := isCompatibleArgs args
        (.function name' r.1 none, r.2)
  | .literal v => literalCompatible v
  | .identifier n => (.identifier n, true)
  | .tableIdentifier n => (.tableIdentifier n, false)
  | .expressionList cs => (.expressionList cs, false)

/-- The loop of `isCompatible` over a function's arguments, which returns at the first
argument that is not compatible. -/
def isCompatibleArgs : List AST → List AST × Bool
  | [] => ([], true)
  | e :: es =>
    let r := isCompatible e
    if r.2 then
      let rs := isCompatibleArgs es
      (r.1 :: rs.1, rs.2)
    else (r.1 :: es, false)
end

/-- Whether the fallback queues a function node: an `and` or a `tuple`. -/
def isAndTuple (name : String) : Bool := name == "and" || name == "tuple"

/-- One turn of the fallback's loop, over the arguments of the function taken from the queue:
the compatible arguments, as `isCompatible` rewrote them, and the argument lists of the `and`
and `tuple` nodes among the others, which go to the queue. -/
def pushCompatible : List AST → List AST × List (List AST)
  | [] => ([], [])
  | e :: es =>
    let r := isCompatible e
    let rest := pushCompatible es
    if r.2 then (r.1 :: rest.1, rest.2)
    else
      match r.1 with
      | .function name args _ => if isAndTuple name then (rest.1, args :: rest.2) else rest
      | _ => rest

/-- The fallback's loop with the queue `predicates`: the arguments pushed into the new `and`,
in order. -/
def drainPredicates : Nat → List (List AST) → List AST
  | 0, _ => []
  | _ + 1, [] => []
  | fuel + 1, args :: predicates =>
    let r := pushCompatible args
    r.1 ++ drainPredicates fuel (predicates ++ r.2)

/-! ## Enough fuel -/

namespace AST

mutual
/-- The `and` and `tuple` nodes of a tree: what bounds the turns of the fallback's loop. -/
def queueable : AST → Nat
  | .function name args params =>
    (if isAndTuple name then 1 else 0) + queueableList args + queueableParams params
  | .expressionList cs => queueableList cs
  | _ => 0

/-- The `and` and `tuple` nodes of a list of trees. -/
def queueableList : List AST → Nat
  | [] => 0
  | t :: ts => queueable t + queueableList ts

/-- The `and` and `tuple` nodes of a parameter list. -/
def queueableParams : Option (List AST) → Nat
  | none => 0
  | some ps => queueableList ps
end

end AST

/-- The turns the queue can still take: one per queued list, and one per `and` or `tuple` in it. -/
def queueWeight (predicates : List (List AST)) : Nat :=
  (predicates.map fun args => AST.queueableList args + 1).sum

@[simp] theorem queueWeight_nil : queueWeight [] = 0 := rfl

@[simp] theorem queueWeight_cons (args : List AST) (predicates : List (List AST)) :
    queueWeight (args :: predicates) = AST.queueableList args + 1 + queueWeight predicates := by
  simp [queueWeight]

@[simp] theorem queueWeight_append (p q : List (List AST)) :
    queueWeight (p ++ q) = queueWeight p + queueWeight q := by
  simp [queueWeight]

mutual
theorem queueable_isCompatible :
    ∀ t : AST, (isCompatible t).1.queueable ≤ t.queueable
  | .function name args (some ps) => by simp [isCompatible]
  | .function name args none => by
    have hargs := queueableList_isCompatibleArgs args
    have hname : (if isAndTuple (if name = "tuple" ∧ args.length ≤ 1 then "" else name) then 1 else 0)
        ≤ (if isAndTuple name then 1 else 0) := by
      split <;> simp [isAndTuple]
    simp only [isCompatible]
    split
    · exact le_rfl
    · split <;> simp only [AST.queueable, AST.queueableParams] <;> omega
  | .literal v => by
    simp only [isCompatible, literalCompatible]
    split <;> rfl
  | .identifier _ => le_rfl
  | .tableIdentifier _ => le_rfl
  | .expressionList _ => le_rfl

theorem queueableList_isCompatibleArgs :
    ∀ ts : List AST, AST.queueableList (isCompatibleArgs ts).1 ≤ AST.queueableList ts
  | [] => le_rfl
  | t :: ts => by
    have ht := queueable_isCompatible t
    have hts := queueableList_isCompatibleArgs ts
    simp only [isCompatibleArgs]
    split <;> simp only [AST.queueableList] <;> omega
end

/-- What one turn queues weighs no more than the arguments it took. -/
theorem queueWeight_pushCompatible (args : List AST) :
    queueWeight (pushCompatible args).2 ≤ AST.queueableList args := by
  induction args with
  | nil => simp [pushCompatible]
  | cons e es ih =>
    have he := queueable_isCompatible e
    simp only [pushCompatible, AST.queueableList]
    generalize isCompatible e = p at he
    rcases p with ⟨r, _ | _⟩
    · cases r with
      | function name args' params' =>
        simp only [AST.queueable] at he
        by_cases ha : isAndTuple name = true <;> simp [ha] at he ⊢ <;> omega
      | _ => simp; omega
    · simp only [ite_true]; omega

theorem drainPredicates_nil (fuel : Nat) : drainPredicates fuel [] = [] := by
  cases fuel <;> rfl

/-- One turn of the fallback's `while` loop on its state, the arguments pushed so far and the
queue: the front of the queue is popped and its arguments go through `pushCompatible`. The loop
stops on an empty queue, where a turn changes nothing. -/
def drainStep : List AST × List (List AST) → List AST × List (List AST)
  | (pushed, []) => (pushed, [])
  | (pushed, args :: predicates) =>
    let r := pushCompatible args
    (pushed ++ r.1, predicates ++ r.2)

/-- **The fallback's loop ends.** From any queue, after as many turns as the queue's weight, or
more, the queue is empty, and the turns pushed what `drainPredicates` computes with that fuel.
A turn weighs one for the list it pops, and what it queues weighs no more than that list's
`and` and `tuple` nodes, so each turn lowers the weight. -/
theorem drainStep_iterate_empties_queue (pushed : List AST) (predicates : List (List AST))
    {turns : Nat} (h : queueWeight predicates ≤ turns) :
    drainStep^[turns] (pushed, predicates) = (pushed ++ drainPredicates turns predicates, []) := by
  induction turns generalizing pushed predicates with
  | zero =>
    cases predicates with
    | nil => simp [drainPredicates]
    | cons args _ => simp at h
  | succ turns ih =>
    cases predicates with
    | nil =>
      rw [Function.iterate_fixed (show drainStep (pushed, []) = (pushed, []) from rfl)]
      simp [drainPredicates]
    | cons args rest =>
      have hpush := queueWeight_pushCompatible args
      rw [Function.iterate_succ_apply, drainStep, ih _ _ (by simp at h ⊢; omega), drainPredicates,
        List.append_assoc]

/-- The queue of `and(f(z), and(g(w), y))`: the first turn drops `f(z)` and queues the
arguments of the inner `and`, the second drops `g(w)` and pushes `y`. -/
def nestedAndQueue : List (List AST) :=
  [[.function "f" [.identifier "z"] none,
    .function "and" [.function "g" [.identifier "w"] none, .identifier "y"] none]]

theorem drainStep_iterate_empties_queue_of_nested_and :
    queueWeight nestedAndQueue ≤ 2 ∧
      drainStep^[2] ([], nestedAndQueue) = ([] ++ drainPredicates 2 nestedAndQueue, []) :=
  ⟨by decide, drainStep_iterate_empties_queue [] nestedAndQueue (by decide)⟩

example : drainStep^[2] ([], nestedAndQueue) = ([.identifier "y"], []) := rfl

/-! ## What the fallback keeps -/

/-- The conditions the fallback reaches from an argument list: the arguments themselves, and,
through each argument that `isCompatible` rejects and leaves an `and` or a `tuple`, the
arguments of the rewritten node. -/
inductive Reached : List AST → AST → Prop
  | mem {args : List AST} {e : AST} (h : e ∈ args) : Reached args e
  | enter {args args' : List AST} {e₀ e : AST} {name : String} {params : Option (List AST)}
      (h₀ : e₀ ∈ args) (hc : (isCompatible e₀).2 = false)
      (hf : (isCompatible e₀).1 = .function name args' params) (ha : isAndTuple name = true)
      (h : Reached args' e) : Reached args e

/-- One turn keeps the compatible arguments, as `isCompatible` rewrites them. -/
theorem mem_pushCompatible_fst (args : List AST) (e' : AST) :
    e' ∈ (pushCompatible args).1 ↔
      ∃ e ∈ args, (isCompatible e).2 = true ∧ (isCompatible e).1 = e' := by
  induction args with
  | nil => simp [pushCompatible]
  | cons e es ih =>
    simp only [pushCompatible, List.mem_cons, exists_eq_or_imp]
    cases hc : (isCompatible e).2
    · simp only [Bool.false_eq_true, false_and, false_or, if_false, ← ih]
      split <;> (try split) <;> exact Iff.rfl
    · simp only [if_true, List.mem_cons, ih, true_and]
      rw [@eq_comm _ e']

/-- One turn queues the arguments of each argument that `isCompatible` rejects and leaves an
`and` or a `tuple`. -/
theorem mem_pushCompatible_snd (args args' : List AST) :
    args' ∈ (pushCompatible args).2 ↔
      ∃ e₀ ∈ args, (isCompatible e₀).2 = false ∧ ∃ name params,
        (isCompatible e₀).1 = .function name args' params ∧ isAndTuple name = true := by
  induction args with
  | nil => simp [pushCompatible]
  | cons e es ih =>
    simp only [pushCompatible, List.mem_cons, exists_eq_or_imp]
    cases hc : (isCompatible e).2
    · simp only [Bool.false_eq_true, if_false, true_and]
      split
      · rename_i name args params hf
        cases ha : isAndTuple name <;> simp [ha, ih, hf, @eq_comm _ args', and_assoc]
      · rename_i hnot
        rw [ih]
        exact (or_iff_right fun ⟨_, _, hf, _⟩ => hnot _ _ _ hf).symm
    · simp [ih]

/-- A condition is reached from a list when it is in the list, or reached from a list one turn
queues. -/
theorem reached_iff {args : List AST} {e : AST} :
    Reached args e ↔ e ∈ args ∨ ∃ args' ∈ (pushCompatible args).2, Reached args' e := by
  constructor
  · rintro (h | ⟨h₀, hc, hf, ha, h⟩)
    · exact .inl h
    · exact .inr ⟨_, (mem_pushCompatible_snd _ _).2 ⟨_, h₀, hc, _, _, hf, ha⟩, h⟩
  · rintro (h | ⟨args', hq, h⟩)
    · exact .mem h
    · obtain ⟨_, h₀, hc, _, _, hf, ha⟩ := (mem_pushCompatible_snd _ _).1 hq
      exact .enter h₀ hc hf ha h

/-- What is reached from a list: its own arguments, or what is reached from a list one turn
queues. -/
theorem exists_reached_iff (args : List AST) (p : AST → Prop) :
    (∃ e, Reached args e ∧ p e) ↔
      (∃ e ∈ args, p e) ∨ ∃ args' ∈ (pushCompatible args).2, ∃ e, Reached args' e ∧ p e := by
  constructor
  · rintro ⟨e, h, hp⟩
    rcases reached_iff.1 h with he | ⟨args', hq, h'⟩
    · exact .inl ⟨e, he, hp⟩
    · exact .inr ⟨args', hq, e, h', hp⟩
  · rintro (⟨e, he, hp⟩ | ⟨args', hq, e, h, hp⟩)
    · exact ⟨e, .mem he, hp⟩
    · exact ⟨e, reached_iff.2 (.inr ⟨args', hq, h⟩), hp⟩

/-- **The loop keeps exactly the compatible conditions reached from its queue.** With fuel at
least the queue's weight, a condition is pushed into the new `and` exactly when it is what
`isCompatible` makes of a compatible condition reached from a list of the queue. -/
theorem mem_drainPredicates_iff (fuel : Nat) :
    ∀ (predicates : List (List AST)), queueWeight predicates ≤ fuel → ∀ e',
      e' ∈ drainPredicates fuel predicates ↔ ∃ args ∈ predicates, ∃ e, Reached args e ∧
        (isCompatible e).2 = true ∧ (isCompatible e).1 = e' := by
  induction fuel with
  | zero =>
    rintro (_ | ⟨args, predicates⟩) h e'
    · simp [drainPredicates]
    · simp at h
  | succ fuel ih =>
    rintro (_ | ⟨args, predicates⟩) h e'
    · simp [drainPredicates]
    have hpush := queueWeight_pushCompatible args
    rw [drainPredicates, List.mem_append, ih _ (by simp at h ⊢; omega), mem_pushCompatible_fst]
    simp only [List.mem_cons, List.mem_append, or_and_right, exists_or, exists_eq_left]
    rw [exists_reached_iff args fun e => (isCompatible e).2 = true ∧ (isCompatible e).1 = e',
      or_right_comm, or_assoc]

/-- **The fallback keeps exactly the compatible conditions it reaches.** When `isCompatible`
rejects a `WHERE` that is an `and` or a `tuple`, the conditions the non-strict fallback pushes into
the new `and` are exactly what `isCompatible` makes of the compatible conditions it reaches: the
arguments of the `WHERE` and, through every argument it rejects that is an `and` or a `tuple`
after the check, the arguments of that node. -/
theorem fallback_keeps_reached {name : String} (h : isAndTuple name = true) (args : List AST)
    (params : Option (List AST)) (e' : AST) :
    e' ∈ drainPredicates (AST.queueable (.function name args params)) [args] ↔
      ∃ e, Reached args e ∧ (isCompatible e).2 = true ∧ (isCompatible e).1 = e' := by
  rw [mem_drainPredicates_iff _ _ (by simp [AST.queueable, h]; omega)]
  simp

/-- In `f(z) AND (x = 1 AND f(z))`, the fallback reaches `x = 1` through the inner `and`. -/
theorem fallback_keeps_reached_of_nested_and :
    isAndTuple "and" = true ∧
      (.function "equals" [.identifier "x", .literal (.int64 1)] none ∈
          drainPredicates (AST.queueable (.function "and" [.function "f" [.identifier "z"] none,
            .function "and" [.function "equals" [.identifier "x", .literal (.int64 1)] none,
              .function "f" [.identifier "z"] none] none] none))
            [[.function "f" [.identifier "z"] none,
              .function "and" [.function "equals" [.identifier "x", .literal (.int64 1)] none,
                .function "f" [.identifier "z"] none] none]] ↔
        ∃ e, Reached [.function "f" [.identifier "z"] none,
            .function "and" [.function "equals" [.identifier "x", .literal (.int64 1)] none,
              .function "f" [.identifier "z"] none] none] e ∧
          (isCompatible e).2 = true ∧
          (isCompatible e).1 = .function "equals" [.identifier "x", .literal (.int64 1)] none) :=
  have ha : isAndTuple "and" = true := rfl
  ⟨ha, fallback_keeps_reached ha _ none _⟩

/-! ## Identifiers of what is kept -/

section Identifiers

theorem append_subset_append {l₁ l₂ m₁ m₂ : List String} (h₁ : l₁ ⊆ m₁) (h₂ : l₂ ⊆ m₂) :
    l₁ ++ l₂ ⊆ m₁ ++ m₂ :=
  List.append_subset.2
    ⟨List.subset_append_of_subset_left _ h₁, List.subset_append_of_subset_right _ h₂⟩

mutual
theorem inspected_isCompatible : ∀ t : AST, (isCompatible t).1.inspected ⊆ t.inspected
  | .function name args (some ps) => List.Subset.refl _
  | .function name args none => by
    have hargs := inspectedList_isCompatibleArgs args
    simp only [isCompatible]
    split
    · exact List.Subset.refl _
    · split <;> simp only [AST.inspected, AST.inspectedParams, ite_self, List.append_nil]
      · exact List.Subset.refl _
      · exact hargs
  | .literal v => by simp [isCompatible, literalCompatible_inspected]
  | .identifier _ => List.Subset.refl _
  | .tableIdentifier _ => List.Subset.refl _
  | .expressionList _ => List.Subset.refl _

theorem inspectedList_isCompatibleArgs :
    ∀ ts : List AST, AST.inspectedList (isCompatibleArgs ts).1 ⊆ AST.inspectedList ts
  | [] => List.Subset.refl _
  | t :: ts => by
    have ht := inspected_isCompatible t
    have hts := inspectedList_isCompatibleArgs ts
    simp only [isCompatibleArgs]
    split <;> simp only [AST.inspectedList]
    · exact append_subset_append ht hts
    · exact append_subset_append ht (List.Subset.refl _)
end

mutual
/-- A compatible tree has no parameter lists and no table identifiers, so all its identifiers
were inspected. -/
theorem identifiers_isCompatible :
    ∀ t : AST, (isCompatible t).2 = true → (isCompatible t).1.identifiers ⊆ t.inspected
  | .function name args (some ps), h => by simp [isCompatible] at h
  | .function name args none, h => by
    have hargs := identifiersList_isCompatibleArgs args
    simp only [isCompatible] at h ⊢
    split at h
    · simp at h
    · rename_i hn
      simp only [hn, ite_false] at h ⊢
      split at h
      · simp at h
      · rename_i hin
        simp only [hin, ite_false, AST.identifiers, AST.identifiersParams, AST.inspected,
          AST.inspectedParams, ite_self, List.append_nil] at h ⊢
        exact hargs h
  | .literal v, _ => by simp [isCompatible, literalCompatible_identifiers]
  | .identifier _, _ => List.Subset.refl _
  | .tableIdentifier _, h => by simp [isCompatible] at h
  | .expressionList _, h => by simp [isCompatible] at h

theorem identifiersList_isCompatibleArgs :
    ∀ ts : List AST, (isCompatibleArgs ts).2 = true →
      AST.identifiersList (isCompatibleArgs ts).1 ⊆ AST.inspectedList ts
  | [], _ => List.Subset.refl _
  | t :: ts, h => by
    have ht := identifiers_isCompatible t
    have hts := identifiersList_isCompatibleArgs ts
    simp only [isCompatibleArgs] at h ⊢
    split at h
    · rename_i hc
      simp only [hc, ite_true, AST.identifiersList, AST.inspectedList] at h ⊢
      exact append_subset_append (ht hc) (hts h)
    · simp at h
end

/-- What one turn of the fallback keeps and queues was inspected in the arguments it took. -/
theorem pushCompatible_inspected (args : List AST) :
    (∀ e ∈ (pushCompatible args).1, e.identifiers ⊆ AST.inspectedList args) ∧
      ∀ a ∈ (pushCompatible args).2, AST.inspectedList a ⊆ AST.inspectedList args := by
  induction args with
  | nil => simp [pushCompatible]
  | cons e es ih =>
    have hes : AST.inspectedList es ⊆ AST.inspectedList (e :: es) :=
      List.subset_append_right _ _
    have he : e.inspected ⊆ AST.inspectedList (e :: es) := List.subset_append_left _ _
    have hrest : (∀ x ∈ (pushCompatible es).1, x.identifiers ⊆ AST.inspectedList (e :: es)) ∧
        ∀ a ∈ (pushCompatible es).2, AST.inspectedList a ⊆ AST.inspectedList (e :: es) :=
      ⟨fun x hx => (ih.1 x hx).trans hes, fun a ha => (ih.2 a ha).trans hes⟩
    have hkept := identifiers_isCompatible e
    have hsub := inspected_isCompatible e
    simp only [pushCompatible]
    generalize isCompatible e = p at hkept hsub
    rcases p with ⟨r, _ | _⟩
    · simp only [Bool.false_eq_true, ↓reduceIte]
      cases r with
      | function name args' params' =>
        simp only [AST.inspected] at hsub
        by_cases ha : isAndTuple name = true
        · simp only [ha, ↓reduceIte, List.mem_cons, forall_eq_or_imp]
          exact ⟨hrest.1, ((List.subset_append_left _ _).trans hsub).trans he, hrest.2⟩
        · simpa only [ha, Bool.false_eq_true, ↓reduceIte] using hrest
      | _ => exact hrest
    · simp only [ite_true, List.mem_cons, forall_eq_or_imp]
      exact ⟨⟨(hkept rfl).trans he, hrest.1⟩, hrest.2⟩

/-- Every argument the fallback keeps mentions only names inspected in the queued lists. -/
theorem drainPredicates_identifiers (known : List String) (fuel : Nat) :
    ∀ predicates : List (List AST), (∀ a ∈ predicates, AST.inspectedList a ⊆ known) →
      ∀ e ∈ drainPredicates fuel predicates, e.identifiers ⊆ known := by
  induction fuel with
  | zero => simp [drainPredicates]
  | succ fuel ih =>
    rintro (_ | ⟨args, rest⟩) hq e he
    · simp [drainPredicates] at he
    · have hargs := hq args (List.mem_cons_self _ _)
      obtain ⟨hkept, hqueued⟩ := pushCompatible_inspected args
      simp only [drainPredicates, List.mem_append] at he
      rcases he with he | he
      · exact (hkept e he).trans hargs
      · refine ih _ ?_ e he
        simp only [List.mem_append]
        rintro a (ha | ha)
        · exact hq a (List.mem_cons_of_mem _ ha)
        · exact (hqueued a ha).trans hargs

end Identifiers

end ClickHouse.ExternalQuery
