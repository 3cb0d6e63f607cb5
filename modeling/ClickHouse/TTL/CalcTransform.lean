import ClickHouse.TTL.Info

set_option autoImplicit false

/-! # The TTL calculation transform

`TTLCalcTransform` (`Processors/Transforms/TTLCalcTransform.cpp`) recomputes a part's TTL infos
while the part's rows stream through it. Its constructor makes one `TTLUpdateInfoAlgorithm` per
TTL rule of the table, each seeded from a copy of the part's infos. Every consumed chunk is
shown to each algorithm and passed on. When the stream is finished, `finalize` resets the part's
TTL infos to `{}` and lets each algorithm write its rule's entry.

The main results hold over every run: any rules, any previous infos, any chunks.
* `get_run` says what every entry holds afterwards: the bounds of the last rule writing it.
* `has_run_iff` says that only the table's current rules have entries: the infos are replaced
  wholesale, not merged.
* The two laws of the spec (§8, property 4) follow. Without `force` and without matching rows
  the previous bounds are kept (`run_keeps_bounds_of_no_matches`). With `force` the bounds are
  recomputed from scratch (`forced_run_ignores_previous`).
* The stream itself passes through unchanged (`run_forwards_chunks`).

The input and output ports share the header, and the pipeline gives the transform chunks of the
header's shape: one column per header name, in order. On such chunks `Block::cloneWithColumns`
and `Block::getByName` do not throw, and the model pairs names with columns and looks names up
without their exceptions.
-/

namespace ClickHouse.TTL

/-! ## The TTL rules of a table -/

/-- `TTLDescription`: what the transform reads of a TTL rule. That is the column its expression
computes (`result_column`), and the expressions `buildExpression` and `buildWhereExpression`
give, as evaluated outside the engine. -/
structure TTLDescription where
  result_column : String
  expression : Block → List Nat
  where_expression : Option (Block → List Bool)
  expression_length : ∀ block, (expression block).length = block.rows

/-- `getExpressions`: the rule's expression and WHERE expression. The subqueries of their sets,
which the source collects on the side, are left out. -/
def getExpressions (ttl_descr : TTLDescription) : TTLExpressions :=
  ⟨ttl_descr.expression, ttl_descr.where_expression, ttl_descr.expression_length⟩

/-- The TTL rules of `StorageInMemoryMetadata`, as its getters give them:
* the rows TTL (`hasRowsTTL`, `getRowsTTL`);
* the rows-where, group-by, move and recompression TTLs;
* the column TTLs by column name, a map holding one rule per column. -/
structure StorageInMemoryMetadata where
  rows_ttl : Option TTLDescription
  rows_where_ttls : List TTLDescription
  group_by_ttls : List TTLDescription
  column_ttls : List (String × TTLDescription)
  move_ttls : List TTLDescription
  recompression_ttls : List TTLDescription
  column_ttls_nodup : (column_ttls.map Prod.fst).Nodup

/-- A TTL rule as the transform's constructor sees it: its description, and the field and key
of the entry its info goes to. -/
structure Rule where
  ttl_descr : TTLDescription
  field : TTLUpdateField
  key : String

/-- Where the rule's info goes. -/
def Rule.slot (rule : Rule) : TTLUpdateField × String := TTLInfos.slot rule.field rule.key

/-- The times of the rows of some blocks that the rule applies to, in order. -/
def Rule.times (rule : Rule) (blocks : List Block) : List Nat :=
  blocks.flatMap (getExpressions rule.ttl_descr).matchingTimes

namespace StorageInMemoryMetadata

/-- `hasAnyColumnTTL`. -/
def hasAnyColumnTTL (metadata : StorageInMemoryMetadata) : Bool := !metadata.column_ttls.isEmpty

/-- The loops of the `TTLCalcTransform` constructor, in its order. The rows TTL goes to
`table_ttl`. Every other rule goes to the map of its kind under its result column, except column
TTLs, which go under their column's name. -/
def rules (metadata : StorageInMemoryMetadata) : List Rule :=
  (match metadata.rows_ttl with
    | some rows_ttl => [⟨rows_ttl, .tableTTL, rows_ttl.result_column⟩]
    | none => []) ++
  metadata.rows_where_ttls.map (fun where_ttl => ⟨where_ttl, .rowsWhereTTL, where_ttl.result_column⟩) ++
  metadata.group_by_ttls.map
    (fun group_by_ttl => ⟨group_by_ttl, .groupByTTL, group_by_ttl.result_column⟩) ++
  (if metadata.hasAnyColumnTTL then
    metadata.column_ttls.map (fun (name, description) => ⟨description, .columnsTTL, name⟩)
  else []) ++
  metadata.move_ttls.map (fun move_ttl => ⟨move_ttl, .movesTTL, move_ttl.result_column⟩) ++
  metadata.recompression_ttls.map
    (fun recompression_ttl => ⟨recompression_ttl, .recompressionTTL, recompression_ttl.result_column⟩)

/-- The rule a run lets write the entry of a field and key: the last one writing there. -/
def lastRule (metadata : StorageInMemoryMetadata) (f : TTLUpdateField) (k : String) :
    Option Rule :=
  metadata.rules.reverse.find? (·.slot = TTLInfos.slot f k)

/-- A rule of the table leaves a last rule for its entry. -/
theorem lastRule_of_mem {metadata : StorageInMemoryMetadata} {rule : Rule}
    (h : rule ∈ metadata.rules) :
    ∃ last ∈ metadata.rules, metadata.lastRule rule.field rule.key = some last := by
  cases hl : metadata.lastRule rule.field rule.key with
  | none =>
    rw [lastRule, List.find?_eq_none] at hl
    exact ((by simpa using hl rule (List.mem_reverse.mpr h) :
      ¬ rule.slot = TTLInfos.slot rule.field rule.key) rfl).elim
  | some last => exact ⟨last, List.mem_reverse.mp (List.mem_of_find?_eq_some hl), rfl⟩

/-- Only column TTLs write to `columns_ttl`, under their column's name. -/
theorem mem_rules_columnsTTL {metadata : StorageInMemoryMetadata} {rule : Rule}
    (h : rule ∈ metadata.rules) (hf : rule.field = .columnsTTL) :
    (rule.key, rule.ttl_descr) ∈ metadata.column_ttls := by
  simp only [rules, List.mem_append, List.mem_map] at h
  rcases h with ((((h | ⟨_, -, rfl⟩) | ⟨_, -, rfl⟩) | h) | ⟨_, -, rfl⟩) | ⟨_, -, rfl⟩
  · split at h <;> simp only [List.mem_singleton, List.not_mem_nil] at h
    subst h; cases hf
  · cases hf
  · cases hf
  · split at h
    · obtain ⟨⟨name, description⟩, hmem, rfl⟩ := List.mem_map.mp h
      exact hmem
    · cases h
  · cases hf
  · cases hf

end StorageInMemoryMetadata

/-! ## The transform -/

/-- A chunk: its columns, each given by its values. -/
structure Chunk where
  columns : List (List Nat)
  deriving DecidableEq, Repr

/-- `Block::cloneWithColumns`: the header's names over the chunk's columns, in order. The code
throws when the numbers of columns differ; the model pairs them. -/
def cloneWithColumns (header : List String) (columns : List (List Nat)) : Block :=
  ⟨(header.zip columns).map fun (name, column) => ⟨name, column⟩⟩

/-- `Block::getByName`: the first column of a name. The code throws for a missing name; the
model has none. -/
def getByName (block : Block) (name : String) : Option ColumnWithTypeAndName :=
  block.columns.find? (·.name == name)

/-- The chunk passed on for a block: none for a block without columns (`Block::empty`), else the
block's columns of the header's names, in header order. -/
def outputChunk (header : List String) (block : Block) : Option Chunk :=
  if block.columns.isEmpty then none
  else some ⟨header.filterMap fun name => (getByName block name).map (·.column)⟩

/-- The blocks a header makes of a list of chunks. -/
def blocksOf (header : List String) (chunks : List Chunk) : List Block :=
  chunks.map fun chunk => cloneWithColumns header chunk.columns

/-- `TTLCalcTransform`: the names of the header's columns, and the algorithms. -/
structure TTLCalcTransform where
  header : List String
  algorithms : List TTLUpdateInfoAlgorithm

namespace TTLCalcTransform

/-- `TTLCalcTransform::TTLCalcTransform`: one algorithm per rule, in the order of `rules`. Each
is seeded from its rule's entry of `old_ttl_infos`, a copy of the part's TTL infos, so that
`operator[]` reads a missing entry as `{}` without adding it to the part. -/
def create (header : List String) (metadata : StorageInMemoryMetadata) (ttl_infos : TTLInfos)
    (force : Bool) : TTLCalcTransform :=
  let old_ttl_infos := ttl_infos
  { header
    algorithms := metadata.rules.map fun rule =>
      .init (getExpressions rule.ttl_descr) rule.field rule.key
        (old_ttl_infos.get rule.field rule.key) force }

/-- What `consume` and `generate` do with a block: every algorithm executes on it, and the block
is passed on. -/
def executeAll (t : TTLCalcTransform) (block : Block) : TTLCalcTransform × Option Chunk :=
  ({ t with algorithms := t.algorithms.map (·.execute block) }, outputChunk t.header block)

/-- `TTLCalcTransform::consume`: the chunk's columns under the header's names. -/
def consume (t : TTLCalcTransform) (chunk : Chunk) : TTLCalcTransform × Option Chunk :=
  t.executeAll (cloneWithColumns t.header chunk.columns)

/-- `TTLCalcTransform::generate`: the algorithms run on an empty block. -/
def generate (t : TTLCalcTransform) : TTLCalcTransform × Option Chunk :=
  t.executeAll ⟨[]⟩

/-- `TTLCalcTransform::finalize`: the part's TTL infos become `{}`, then each algorithm writes its
rule's entry, in order. -/
def finalize (t : TTLCalcTransform) : TTLInfos :=
  t.algorithms.foldl (fun ttl_infos alg => alg.finalize ttl_infos) {}

/-- `TTLCalcTransform::prepare`: the part's TTL infos after the accumulating transform reported
its status; they are finalized once it reports `Finished`. -/
def prepare (t : TTLCalcTransform) (finished : Bool) (ttl_infos : TTLInfos) : TTLInfos :=
  if finished then t.finalize else ttl_infos

/-- The transform consuming a stream of chunks: the transform after them, and the chunks it
passed on. -/
def feed (t : TTLCalcTransform) : List Chunk → TTLCalcTransform × List Chunk
  | [] => (t, [])
  | chunk :: chunks =>
    let (t', out) := t.consume chunk
    let (t'', outs) := t'.feed chunks
    (t'', out.toList ++ outs)

/-- A whole run over a part. The transform is made, consumes the chunks, generates once its
input is over, and reports `Finished`. The result is the part's new TTL infos and the chunks
passed on. -/
def run (header : List String) (metadata : StorageInMemoryMetadata) (ttl_infos : TTLInfos)
    (force : Bool) (chunks : List Chunk) : TTLInfos × List Chunk :=
  let (t, outs) := (create header metadata ttl_infos force).feed chunks
  let (t', out) := t.generate
  (t'.prepare true ttl_infos, outs ++ out.toList)

/-! ## Step and run lemmas -/

theorem execute_of_rows_eq_zero (alg : TTLUpdateInfoAlgorithm) {block : Block}
    (h : block.rows = 0) : alg.execute block = alg := by
  simp [TTLUpdateInfoAlgorithm.execute, alg.ttl_expressions.matchingTimes_of_rows_eq_zero h]

/-- Generating changes nothing and passes nothing on: the block is empty. -/
theorem generate_eq (t : TTLCalcTransform) : t.generate = (t, none) := by
  simp [generate, executeAll, outputChunk, execute_of_rows_eq_zero _ (rfl : Block.rows ⟨[]⟩ = 0)]

/-- **The run lemma of `consume`**: the algorithms have executed on every block of the stream,
and the chunks passed on are those of the blocks. -/
theorem feed_eq (t : TTLCalcTransform) (chunks : List Chunk) :
    t.feed chunks =
      ({ t with algorithms := t.algorithms.map ((blocksOf t.header chunks).foldl TTLUpdateInfoAlgorithm.execute) },
        chunks.filterMap fun chunk => outputChunk t.header (cloneWithColumns t.header chunk.columns)) := by
  induction chunks generalizing t with
  | nil => simp [feed, blocksOf]
  | cons c cs ih =>
    simp only [feed, consume, executeAll, ih, blocksOf, List.map_cons, List.foldl_cons,
      List.map_map, List.filterMap_cons]
    cases outputChunk t.header (cloneWithColumns t.header c.columns) <;> rfl

theorem run_eq (header : List String) (metadata : StorageInMemoryMetadata) (ttl_infos : TTLInfos)
    (force : Bool) (chunks : List Chunk) :
    run header metadata ttl_infos force chunks =
      (((metadata.rules.map fun rule =>
          (blocksOf header chunks).foldl TTLUpdateInfoAlgorithm.execute
            (.init (getExpressions rule.ttl_descr) rule.field rule.key
              (ttl_infos.get rule.field rule.key) force)).foldl
          (fun ttl_infos alg => alg.finalize ttl_infos) {}),
        chunks.filterMap fun chunk => outputChunk header (cloneWithColumns header chunk.columns)) := by
  simp [run, feed_eq, generate_eq, prepare, finalize, create, List.map_map]
  rfl

/-! ## What a run leaves in the part -/

/-- **What a run leaves in each entry of the part's TTL infos.** The entry of a field and key
holds the bounds of the last rule writing it. These are the times of the rows of the whole stream
that pass the rule's WHERE, folded into the entry's previous info, or into `{}` under `force`.
An entry no rule writes is `{}`. -/
theorem get_run (header : List String) (metadata : StorageInMemoryMetadata)
    (ttl_infos : TTLInfos) (force : Bool) (chunks : List Chunk) (f : TTLUpdateField) (k : String) :
    (run header metadata ttl_infos force chunks).1.get f k =
      match metadata.lastRule f k with
      | some rule =>
        (rule.times (blocksOf header chunks)).foldl TTLInfo.update
          (if force then none else ttl_infos.get f k)
      | none => none := by
  rw [run_eq, TTLUpdateInfoAlgorithm.get_foldl_finalize, TTLInfos.get_empty, ← List.map_reverse,
    List.find?_map]
  have hslot : ∀ rule : Rule, ((blocksOf header chunks).foldl TTLUpdateInfoAlgorithm.execute
      (.init (getExpressions rule.ttl_descr) rule.field rule.key (ttl_infos.get rule.field rule.key)
        force)).slot = rule.slot := fun _ => by
    rw [TTLUpdateInfoAlgorithm.foldl_execute]; rfl
  simp only [Function.comp_def, hslot]
  rw [show List.find? (fun rule => decide (rule.slot = TTLInfos.slot f k)) metadata.rules.reverse =
    metadata.lastRule f k from rfl]
  cases h : metadata.lastRule f k with
  | none => rfl
  | some rule =>
    simp only [Option.map_some', Option.getD_some, TTLUpdateInfoAlgorithm.foldl_execute,
      TTLUpdateInfoAlgorithm.init]
    rw [ttl_infos.get_eq_of_slot_eq (by simpa using List.find?_some h)]
    rfl

/-- **The part keeps entries for the table's current rules only**: after a run the maps of the
part's TTL infos have an entry exactly for the rules of the table. The infos are replaced
wholesale, so the entry of a rule the table no longer has is gone. -/
theorem has_run_iff (header : List String) (metadata : StorageInMemoryMetadata)
    (ttl_infos : TTLInfos) (force : Bool) (chunks : List Chunk) (f : TTLUpdateField) (k : String) :
    (run header metadata ttl_infos force chunks).1.Has f k ↔
      ∃ rule ∈ metadata.rules, rule.field ≠ .tableTTL ∧ f = rule.field ∧ k = rule.key := by
  rw [run_eq, TTLUpdateInfoAlgorithm.has_foldl_finalize]
  simp [TTLUpdateInfoAlgorithm.foldl_execute, TTLUpdateInfoAlgorithm.init]

/-- **Without `force` and without matching rows, the previous bounds are kept** (spec §8,
property 4). -/
theorem run_keeps_bounds_of_no_matches (header : List String) (metadata : StorageInMemoryMetadata)
    (ttl_infos : TTLInfos) (force : Bool) (chunks : List Chunk) (hforce : force = false)
    (hnone : ∀ rule ∈ metadata.rules, rule.times (blocksOf header chunks) = []) :
    ∀ rule ∈ metadata.rules,
      (run header metadata ttl_infos force chunks).1.get rule.field rule.key =
        ttl_infos.get rule.field rule.key := by
  intro rule h
  obtain ⟨last, hmem, hlast⟩ := metadata.lastRule_of_mem h
  rw [get_run, hlast]
  dsimp only
  rw [hnone last hmem, hforce]
  rfl

/-- A rows TTL `d + 7` over the first column `d`, under a WHERE that all rows pass or none
does. -/
def ttlAfterSeven (passes : Bool) : TTLDescription where
  result_column := "d"
  expression block :=
    match block.columns with
    | [] => []
    | d :: _ => d.column.map (· + 7)
  where_expression := some fun block => List.replicate block.rows passes
  expression_length block := by cases h : block.columns <;> simp [Block.rows, h]

/-- The metadata of a table whose only TTL rule is a rows TTL. -/
def rowsTTLOnly (rows_ttl : TTLDescription) : StorageInMemoryMetadata where
  rows_ttl := some rows_ttl
  rows_where_ttls := []
  group_by_ttls := []
  column_ttls := []
  move_ttls := []
  recompression_ttls := []
  column_ttls_nodup := List.nodup_nil

theorem unmatched_rows_ttl_keeps_bounds :
    false = false ∧
    (∀ rule ∈ (rowsTTLOnly (ttlAfterSeven false)).rules,
      rule.times (blocksOf ["d"] [⟨[[3, 20]]⟩]) = []) ∧
    ∀ rule ∈ (rowsTTLOnly (ttlAfterSeven false)).rules,
      (run ["d"] (rowsTTLOnly (ttlAfterSeven false)) { table_ttl := some (3, 9) } false
        [⟨[[3, 20]]⟩]).1.get rule.field rule.key =
      ({ table_ttl := some (3, 9) } : TTLInfos).get rule.field rule.key :=
  ⟨rfl, by decide, run_keeps_bounds_of_no_matches _ _ _ _ _ rfl (by decide)⟩

/-- **The bounds of an entry after a run.** The entry a rule writes last holds the time of every
row of the stream that passes the rule's WHERE; without `force` it also still covers the bounds
the part had before. -/
theorem run_bounds_of_lastRule (header : List String) (metadata : StorageInMemoryMetadata)
    (ttl_infos : TTLInfos) (force : Bool) (chunks : List Chunk) {f : TTLUpdateField} {k : String}
    {rule : Rule} (hlast : metadata.lastRule f k = some rule) :
    (∀ t ∈ rule.times (blocksOf header chunks),
      TTLInfo.Within ((run header metadata ttl_infos force chunks).1.get f k) t) ∧
    (force = false →
      TTLInfo.Covers ((run header metadata ttl_infos force chunks).1.get f k) (ttl_infos.get f k)) := by
  rw [get_run, hlast]
  refine ⟨TTLInfo.within_foldl_update _ _, fun hforce => ?_⟩
  subst hforce
  exact TTLInfo.covers_foldl_update _ _

/-- The rows TTL of a table writes `table_ttl` last; the rows `d = 3` and `d = 20` pass its WHERE
at the times `10` and `27`. -/
theorem run_bounds_of_rows_ttl_after_seven :
    (rowsTTLOnly (ttlAfterSeven true)).lastRule .tableTTL "d" =
        some ⟨ttlAfterSeven true, .tableTTL, "d"⟩ ∧
      (∀ t ∈ Rule.times ⟨ttlAfterSeven true, .tableTTL, "d"⟩ (blocksOf ["d"] [⟨[[3, 20]]⟩]),
        TTLInfo.Within ((run ["d"] (rowsTTLOnly (ttlAfterSeven true)) { table_ttl := some (1, 5) }
          false [⟨[[3, 20]]⟩]).1.get .tableTTL "d") t) ∧
      (false = false →
        TTLInfo.Covers ((run ["d"] (rowsTTLOnly (ttlAfterSeven true)) { table_ttl := some (1, 5) }
          false [⟨[[3, 20]]⟩]).1.get .tableTTL "d") (({ table_ttl := some (1, 5) } : TTLInfos).get
            .tableTTL "d")) :=
  have hlast : (rowsTTLOnly (ttlAfterSeven true)).lastRule .tableTTL "d" =
      some ⟨ttlAfterSeven true, .tableTTL, "d"⟩ := rfl
  ⟨hlast, run_bounds_of_lastRule _ _ _ _ _ hlast⟩

/-- **With `force`, the bounds are recomputed from scratch** (spec §8, property 4): the run does
not read the part's previous TTL infos at all. -/
theorem forced_run_ignores_previous (header : List String) (metadata : StorageInMemoryMetadata)
    (ttl_infos ttl_infos' : TTLInfos) (chunks : List Chunk) :
    run header metadata ttl_infos true chunks = run header metadata ttl_infos' true chunks := by
  simp [run_eq, TTLUpdateInfoAlgorithm.init]

/-- Under `force` the recorded bounds may narrow: `[1, 100]` becomes `[10, 27]`, the times of the
rows `d = 3` and `d = 20`. -/
example :
    (run ["d"] (rowsTTLOnly (ttlAfterSeven true)) { table_ttl := some (1, 100) } true
      [⟨[[3, 20]]⟩]).1.table_ttl = some (10, 27) := by
  decide

/-! ## The stream passes through -/

/-- The header's columns of a block made from the header: with distinct names, the columns the
block was made of. -/
theorem filterMap_getByName (header : List String) (hnodup : header.Nodup) :
    ∀ (pre : List ColumnWithTypeAndName) (columns : List (List Nat)),
      (∀ c ∈ pre, c.name ∉ header) → columns.length = header.length →
      header.filterMap (fun name =>
        (getByName ⟨pre ++ (cloneWithColumns header columns).columns⟩ name).map (·.column)) =
        columns := by
  induction header with
  | nil =>
    intro pre columns _ hlen
    exact (List.eq_nil_of_length_eq_zero (by simpa using hlen)).symm
  | cons n ns ih =>
    intro pre columns hpre hlen
    obtain ⟨s, ss, rfl⟩ : ∃ s ss, columns = s :: ss := List.exists_cons_of_length_eq_add_one hlen
    have hn : n ∉ ns := (List.nodup_cons.mp hnodup).1
    have hfind : getByName ⟨pre ++ (cloneWithColumns (n :: ns) (s :: ss)).columns⟩ n =
        some ⟨n, s⟩ := by
      simp only [getByName, cloneWithColumns, List.zip_cons_cons, List.map_cons, List.find?_append]
      rw [List.find?_eq_none.mpr fun c hc heq =>
        hpre c hc (by rw [beq_iff_eq.mp heq]; exact List.mem_cons_self _ _)]
      simp
    rw [List.filterMap_cons, hfind]
    have hrest := ih (List.nodup_cons.mp hnodup).2 (pre ++ [⟨n, s⟩]) ss
      (fun c hc => by
        rcases List.mem_append.mp hc with hc | hc
        · exact fun h => hpre c hc (List.mem_cons_of_mem _ h)
        · rw [List.mem_singleton.mp hc]; exact hn)
      (by simpa using hlen)
    simp only [cloneWithColumns, List.zip_cons_cons, List.map_cons, List.append_assoc,
      List.singleton_append] at hrest ⊢
    rw [hrest]
    rfl

/-- **The transform passes the stream on unchanged.** With a header of distinct names, every
chunk with one column per header name comes out as it went in, in order, and nothing else comes
out. With no header columns the blocks have no columns, and nothing comes out. -/
theorem run_forwards_chunks (header : List String) (metadata : StorageInMemoryMetadata)
    (ttl_infos : TTLInfos) (force : Bool) (chunks : List Chunk) (hnodup : header.Nodup)
    (hcols : ∀ chunk ∈ chunks, chunk.columns.length = header.length) :
    (run header metadata ttl_infos force chunks).2 = if header = [] then [] else chunks := by
  rw [run_eq]
  split
  · subst header
    exact List.filterMap_eq_nil_iff.2 fun _ _ => rfl
  · rename_i hne
    refine (List.filterMap_congr fun chunk hc => ?_).trans (List.filterMap_some chunks)
    have hcol := filterMap_getByName header hnodup [] chunk.columns (by simp) (hcols chunk hc)
    have hnonempty : (cloneWithColumns header chunk.columns).columns.isEmpty = false := by
      obtain ⟨n, ns, rfl⟩ := List.exists_cons_of_ne_nil hne
      obtain ⟨s, ss, hs⟩ := List.exists_cons_of_length_eq_add_one (hcols chunk hc)
      simp [cloneWithColumns, hs]
    simp only [outputChunk, hnonempty, Bool.false_eq_true, if_false]
    exact congrArg (some ∘ Chunk.mk) hcol

theorem run_forwards_two_chunks :
    ["a", "b"].Nodup ∧
    (∀ chunk ∈ [Chunk.mk [[2, 4], [1, 1]], Chunk.mk [[5], [0]]],
      chunk.columns.length = ["a", "b"].length) ∧
    (run ["a", "b"] (rowsTTLOnly (ttlAfterSeven true)) {} false
      [⟨[[2, 4], [1, 1]]⟩, ⟨[[5], [0]]⟩]).2 =
      if ["a", "b"] = [] then [] else [⟨[[2, 4], [1, 1]]⟩, ⟨[[5], [0]]⟩] :=
  ⟨by decide, by decide, run_forwards_chunks _ _ _ _ _ (by decide) (by decide)⟩

end TTLCalcTransform

end ClickHouse.TTL
