import Mathlib.Data.Prod.Lex
import SnackPortal.Data.Levels
import SnackPortal.Lineage.Reading

/-!
# The provenance graph

The rows of the table `lineage` name the record they come from, and the graph service walks
these references up or down from a record, to a depth and with a limit of nodes.  It returns
records that the walk reaches; but it reports a result as truncated for the limit of nodes only,
not for the depth nor for the limit that the session puts on every walk.  A result that is not
reported as truncated is complete in the cases of `walk_meets_iff` and in no others.
-/

namespace Lineage

/-! ## The walk -/

/-- A row of the walk: a record and its `_depth`. -/
abbrev WalkRow := LineageRow × Nat

/-- The limit of the rows of one walk. -/
def traverseSafetyLimit : Nat := 100000

/-- The records that a step joins a record with: its children, or its parent. -/
def joined (table : List LineageRow) (descendants : Bool) (w : LineageRow) :
    List LineageRow :=
  if descendants then
    table.filter fun c => c.parentLineageRef = some w.lineageId
  else
    table.filter fun p => some p.lineageId = w.parentLineageRef

/-- The step of the recursive query. -/
def walkJoin (table : List LineageRow) (descendants : Bool) (maxDepth : Int) (w : WalkRow) :
    List WalkRow :=
  if (w.2 : Int) < maxDepth then (joined table descendants w.1).map (·, w.2 + 1) else []

/-- The row that the walk starts from. -/
def startRows (table : List LineageRow) (startId : String) : List LineageRow :=
  table.filter fun row => row.lineageId = startId

/-- `PgRoutedSession.traverse`.  Rows of one depth come in the order that the database gives
them; `none` where the fuel runs out. -/
def PgRoutedSession.traverse (orderByDepth : List WalkRow → List WalkRow)
    (table : List LineageRow) (startId : String) (maxDepth : Int) (descendants : Bool)
    (fuel : Nat) : Option (List WalkRow) :=
  (Levels.recursive (walkJoin table descendants maxDepth) fuel
      ((startRows table startId).map (·, 0))).map
    fun rows => (orderByDepth rows).take traverseSafetyLimit

/-- `ORDER BY _depth`. -/
def OrdersByDepth (orderByDepth : List WalkRow → List WalkRow) : Prop :=
  ∀ rows, (orderByDepth rows).Perm rows
    ∧ (orderByDepth rows).Pairwise fun row row' => row.2 ≤ row'.2

/-! ## The service -/

structure ProvenanceNode where
  lineageId : String
  seq : Int
  eventType : String
  targetRef : String
  operation : String
  parentLineageRef : Option String
deriving DecidableEq, Repr

def ProvenanceNode.ofRow (row : LineageRow) : ProvenanceNode where
  lineageId := row.lineageId
  seq := row.seq
  eventType := row.eventType
  targetRef := row.targetRef
  operation := row.operation
  parentLineageRef := row.parentLineageRef

inductive Direction where
  | ancestors
  | descendants
deriving DecidableEq, Repr

structure ProvenanceGraphResult where
  rootLineageId : String
  direction : Direction
  nodes : List ProvenanceNode
  truncated : Bool
deriving DecidableEq, Repr

structure ProvenanceGraph where
  maxDepth : Int := 64
  maxNodes : Int := 1000
deriving DecidableEq, Repr

/-- The slice `rows[:n]`; a negative `n` counts from the end. -/
def upTo {α : Type} (rows : List α) (n : Int) : List α :=
  if 0 ≤ n then rows.take n.toNat else rows.take (rows.length - n.natAbs)

section Service

variable (graph : ProvenanceGraph) (orderByDepth : List WalkRow → List WalkRow)
  (table : List LineageRow) (lineageId : String)

/-- `ProvenanceGraph._walk`. -/
def ProvenanceGraph.walk (descendants : Bool) (fuel : Nat) : Option ProvenanceGraphResult :=
  (PgRoutedSession.traverse orderByDepth table lineageId graph.maxDepth descendants fuel).map
    fun rows => {
      rootLineageId := lineageId
      direction := if descendants then .descendants else .ancestors
      nodes := (upTo rows graph.maxNodes).map fun row => .ofRow row.1
      truncated := graph.maxNodes < rows.length }

/-- Trace a record back. -/
def ProvenanceGraph.ancestors (fuel : Nat) : Option ProvenanceGraphResult :=
  graph.walk orderByDepth table lineageId false fuel

/-- Trace a record forward. -/
def ProvenanceGraph.descendants (fuel : Nat) : Option ProvenanceGraphResult :=
  graph.walk orderByDepth table lineageId true fuel

end Service

/-! ## What the walk is for -/

section Reach

variable (table : List LineageRow) (descendants : Bool) (startId : String)

/-- An edge of the graph: from a record to its child or to its parent. -/
def ParentEdge (row row' : LineageRow) : Prop :=
  row' ∈ table
    ∧ if descendants then row'.parentLineageRef = some row.lineageId
      else row.parentLineageRef = some row'.lineageId

/-- The record is reached from the start record, at any depth. -/
def Reaches (row : LineageRow) : Prop :=
  ∃ start ∈ table, start.lineageId = startId
    ∧ Relation.ReflTransGen (ParentEdge table descendants) start row

/-- The result has reached records only, and where it is not truncated it has all of them. -/
def Faithful (result : ProvenanceGraphResult) : Prop :=
  (∀ node ∈ result.nodes, ∃ row, Reaches table descendants startId row ∧ node = .ofRow row)
    ∧ (result.truncated = false →
      ∀ row, Reaches table descendants startId row → .ofRow row ∈ result.nodes)

/-- The walk ends, and in whatever order the database gives the rows the result is faithful. -/
def ProvenanceGraph.Meets (graph : ProvenanceGraph) : Prop :=
  ∀ orderByDepth, OrdersByDepth orderByDepth →
    (∃ fuel, (graph.walk orderByDepth table startId descendants fuel).isSome)
      ∧ ∀ fuel result, graph.walk orderByDepth table startId descendants fuel = some result →
        Faithful table descendants startId result

/-- The records that are `d` steps away from the start record. -/
def stepsAway (d : Nat) : List LineageRow :=
  Levels.level (joined table descendants) (startRows table startId) d

/-- The number of pairs of a record and a number of steps up to `d` in which it is reached. -/
def pairsWithin (d : Nat) : Nat :=
  ((List.range (d + 1)).map fun k => (stepsAway table descendants startId k).length).sum

end Reach

section Walk

variable {table : List LineageRow} {descendants : Bool} {startId : String}

theorem edge_iff {row row' : LineageRow} :
  Levels.Edge (joined table descendants) row row' ↔ ParentEdge table descendants row row'
  := by
  cases descendants with
  | true => simp [Levels.Edge, joined, ParentEdge]
  | false => simp [Levels.Edge, joined, ParentEdge, eq_comm]

/-- A record is reached if and only if it is some number of steps away. -/
theorem reaches_iff {row : LineageRow} :
  Reaches table descendants startId row ↔ ∃ d, row ∈ stepsAway table descendants startId d
  := by
  have hedge : Levels.Edge (joined table descendants) = ParentEdge table descendants := by
    funext row row'
    apply propext edge_iff
  simp only [stepsAway, Levels.exists_mem_level_iff, hedge, Reaches, startRows, List.mem_filter,
    decide_eq_true_eq, and_assoc]

/-- What is reached is in the table. -/
theorem mem_table_of_stepsAway {d : Nat} {row : LineageRow}
    (h : row ∈ stepsAway table descendants startId d) :
  row ∈ table
  := by
  cases d with
  | zero => exact (List.mem_filter.mp h).1
  | succ d =>
      obtain ⟨w, -, hrow⟩ := List.mem_flatMap.mp h
      apply (edge_iff.mp hrow).1

theorem pairsWithin_eq (d : Nat) :
  pairsWithin table descendants startId d
    = (Levels.walk (joined table descendants) (startRows table startId) d).length
  := by
  simp [pairsWithin, Levels.walk, Levels.rowsAt, stepsAway, List.length_flatMap]

variable {maxDepth : Int} {orderByDepth : List WalkRow → List WalkRow}

theorem walkJoin_eq :
  walkJoin table descendants maxDepth
    = Levels.walkStep (joined table descendants) maxDepth.toNat
  := by
  funext w
  have hdepth : (w.2 : Int) < maxDepth ↔ w.2 < maxDepth.toNat := by omega
  simp only [walkJoin, Levels.walkStep, hdepth]

/-- The rows of a walk. -/
def walked (table : List LineageRow) (descendants : Bool) (startId : String)
    (maxDepth : Int) : List WalkRow :=
  Levels.walk (joined table descendants) (startRows table startId) maxDepth.toNat

/-- The walk ends. -/
theorem traverse_ends {fuel : Nat} (hfuel : maxDepth.toNat + 1 < fuel) :
  PgRoutedSession.traverse orderByDepth table startId maxDepth descendants fuel
    = some ((orderByDepth (walked table descendants startId maxDepth)).take
        traverseSafetyLimit)
  := by
  rw [PgRoutedSession.traverse, walkJoin_eq, Levels.recursive_walkStep hfuel]
  rfl

/-- Whatever the fuel, a walk that ends has the same rows. -/
theorem traverse_eq {fuel : Nat} {rows : List WalkRow}
    (h : PgRoutedSession.traverse orderByDepth table startId maxDepth descendants fuel
      = some rows) :
  rows = (orderByDepth (walked table descendants startId maxDepth)).take traverseSafetyLimit
  := by
  rw [PgRoutedSession.traverse, walkJoin_eq] at h
  obtain ⟨all, hall, rfl⟩ := Option.map_eq_some_iff.mp h
  have hends : _ = some (walked table descendants startId maxDepth) :=
    Levels.recursive_walkStep (Nat.lt_succ_self (maxDepth.toNat + 1))
  rw [Levels.recursive_unique hall hends]

theorem mem_walked {row : WalkRow} :
  row ∈ walked table descendants startId maxDepth
    ↔ row.2 ≤ maxDepth.toNat ∧ row.1 ∈ stepsAway table descendants startId row.2
  := Levels.mem_walk

/-- The result of a walk that ends. -/
theorem ProvenanceGraph.walk_eq {graph : ProvenanceGraph} {fuel : Nat}
    {result : ProvenanceGraphResult}
    (h : graph.walk orderByDepth table startId descendants fuel = some result) :
  result.nodes = (upTo ((orderByDepth
        (walked table descendants startId graph.maxDepth)).take traverseSafetyLimit)
      graph.maxNodes).map (fun row => .ofRow row.1)
    ∧ result.truncated = decide (graph.maxNodes < ((orderByDepth
        (walked table descendants startId graph.maxDepth)).take traverseSafetyLimit).length)
  := by
  obtain ⟨rows, hrows, rfl⟩ := Option.map_eq_some_iff.mp h
  rw [traverse_eq hrows]
  exact ⟨rfl, rfl⟩

theorem upTo_subset {α : Type} (rows : List α) (n : Int) :
  upTo rows n ⊆ rows
  := by
  rw [upTo]
  split
  · apply List.take_subset
  · apply List.take_subset

theorem upTo_of_length_le {α : Type} {rows : List α} {n : Int} (h : rows.length ≤ n) :
  upTo rows n = rows
  := by
  rw [upTo, if_pos (by omega), List.take_of_length_le (by omega)]

/-- What the walk returns is reached from the start. -/
theorem ProvenanceGraph.walk_sound {graph : ProvenanceGraph} {fuel : Nat}
    {result : ProvenanceGraphResult} (horder : OrdersByDepth orderByDepth)
    (h : graph.walk orderByDepth table startId descendants fuel = some result)
    {node : ProvenanceNode} (hnode : node ∈ result.nodes) :
  ∃ row, Reaches table descendants startId row ∧ node = .ofRow row
  := by
  rw [(walk_eq h).1] at hnode
  obtain ⟨row, hrow, rfl⟩ := List.mem_map.mp hnode
  use row.1
  constructor
  · apply reaches_iff.mpr
    use row.2
    have hlisted := List.mem_of_mem_take (upTo_subset _ _ hrow)
    apply (mem_walked.mp ((horder _).1.mem_iff.mp hlisted)).2
  · rfl

end Walk

/-! ## When the result is complete -/

section Complete

variable (store : LineageStore) {descendants : Bool} {startId : String}

/-- At most one row of the table has an id. -/
theorem length_le_one_of_ids {P : LineageRow → Bool}
    (h : ∀ row row', row ∈ store.rows.filter P → row' ∈ store.rows.filter P →
      row.lineageId = row'.lineageId) :
  (store.rows.filter P).length ≤ 1
  := by
  have hids : ((store.rows.filter P).map LineageRow.lineageId).Nodup :=
    store.lineagePk.sublist (List.filter_sublist.map _)
  rcases hrows : store.rows.filter P with _ | ⟨row, _ | ⟨row', rest⟩⟩
  · apply Nat.zero_le
  · apply Nat.le_refl
  · rw [hrows] at h hids
    have heq := h row row' (by simp) (by simp)
    simp [heq] at hids

/-- No number of steps leads to a record in two ways, since a record has one parent. -/
theorem stepsAway_nodup (d : Nat) :
  (stepsAway store.rows descendants startId d).Nodup
  := by
  have hrows : store.rows.Nodup := store.lineagePk.of_map _
  cases descendants with
  | true =>
      apply Levels.level_nodup_of_unique_source (hrows.filter _)
      · intro w
        apply hrows.filter
      · intro k w w' c hw hw' hc hc'
        have hparent := (edge_iff.mp hc).2.symm.trans (edge_iff.mp hc').2
        apply List.inj_on_of_nodup_map store.lineagePk (mem_table_of_stepsAway hw)
          (mem_table_of_stepsAway hw') (Option.some.inj hparent)
  | false =>
      apply List.nodup_iff_count_le_one.mpr
      intro row
      apply List.count_le_length.trans
      apply Levels.level_length_le_one
      · apply length_le_one_of_ids store
        intro row row' hrow hrow'
        have hid := of_decide_eq_true (List.mem_filter.mp hrow).2
        rw [hid, of_decide_eq_true (List.mem_filter.mp hrow').2]
      · intro w
        apply length_le_one_of_ids store
        intro row row' hrow hrow'
        have hid := of_decide_eq_true (List.mem_filter.mp hrow).2
        apply Option.some.inj
        rw [hid, of_decide_eq_true (List.mem_filter.mp hrow').2]

/-- Rows in an order that puts a record behind the others of its depth. -/
def orderWithLast (row : LineageRow) (rows : List WalkRow) : List WalkRow :=
  rows.insertionSort (Keyset.Before fun r : WalkRow => toLex (r.2, decide (r.1 = row)))

theorem orderWithLast_ordersByDepth (row : LineageRow) :
  OrdersByDepth (orderWithLast row)
  := by
  intro rows
  use List.perm_insertionSort _ _
  apply (List.pairwise_insertionSort _ _).imp
  intro r r' hle
  rcases Prod.Lex.toLex_le_toLex.mp hle with hlt | heq
  · apply Nat.le_of_lt hlt
  · apply Nat.le_of_eq heq.1

variable {store} {maxDepth : Int} {row : LineageRow}

/-- A record is lost in some order, where the rows up to the steps that lead to it first do not
fit. -/
theorem lost_of_pairsWithin
    (hfar : ∀ d ≤ maxDepth.toNat, row ∈ stepsAway store.rows descendants startId d →
      traverseSafetyLimit < pairsWithin store.rows descendants startId d) (d : Nat) :
  (row, d) ∉ (orderWithLast row (walked store.rows descendants startId maxDepth)).take
    traverseSafetyLimit
  := by
  intro hmem
  have hperm := (orderWithLast_ordersByDepth row
    (walked store.rows descendants startId maxDepth)).1
  have hd := mem_walked.mp (hperm.mem_iff.mp (List.mem_of_mem_take hmem))
  have hreached : ∃ d, row ∈ stepsAway store.rows descendants startId d := ⟨d, hd.2⟩
  -- the rows that come before the first occurrence of the record
  let first := Nat.find hreached
  have hfirst : first ≤ maxDepth.toNat := (Nat.find_min' hreached hd.2).trans hd.1
  let before : WalkRow → Bool := fun r => r.2 < first ∨ (r.2 = first ∧ r.1 ≠ row)
  have hcount : traverseSafetyLimit
      ≤ (walked store.rows descendants startId maxDepth).countP before := by
    have hwithin : traverseSafetyLimit < (walked store.rows descendants startId
        maxDepth).countP fun r => r.2 ≤ first := by
      rw [walked, Levels.countP_walk hfirst, ← pairsWithin_eq]
      apply hfar first hfirst (Nat.find_spec hreached)
    apply Nat.le_of_lt_succ (Nat.lt_of_lt_of_le hwithin _)
    apply Levels.countP_le_succ (Levels.walk_nodup (stepsAway_nodup store) maxDepth.toNat)
    intro r _ hr
    by_cases hself : r = (row, first)
    · apply Or.inr hself
    · apply Or.inl
      apply decide_eq_true
      rcases Nat.lt_or_eq_of_le (of_decide_eq_true hr) with hlt | heq
      · apply Or.inl hlt
      · apply Or.inr
        use heq
        intro hrow
        apply hself (Prod.ext hrow heq)
  rw [← hperm.countP_eq] at hcount
  apply Levels.not_mem_take_of_count _ hcount _ hmem
  · apply (List.pairwise_insertionSort _ _).imp
    intro r r' hle hr'
    have hr' := of_decide_eq_true hr'
    apply decide_eq_true
    rcases Prod.Lex.toLex_le_toLex.mp hle with hlt | ⟨heq, hlast⟩
    · apply Or.inl
      rcases hr' with hbefore | hsame
      · apply Nat.lt_trans hlt hbefore
      · apply Nat.lt_of_lt_of_eq hlt hsame.1
    · rw [← show r.2 = r'.2 from heq] at hr'
      apply hr'.imp_right
      intro ⟨hdepth, hne⟩
      use hdepth
      intro hrow
      apply hne
      apply of_decide_eq_true (Bool.le_iff_imp.mp hlast (decide_eq_true hrow))
  · apply decide_eq_false
    intro hbefore
    rcases hbefore with hlt | ⟨-, hne⟩
    · apply Nat.find_min hreached hlt hd.2
    · apply hne rfl

/-- A record that few pairs come before is listed in every order. -/
theorem listed_of_pairsWithin {orderByDepth : List WalkRow → List WalkRow}
    (horder : OrdersByDepth orderByDepth) {d : Nat} (hd : d ≤ maxDepth.toNat)
    (hrow : row ∈ stepsAway store.rows descendants startId d)
    (hfew : pairsWithin store.rows descendants startId d ≤ traverseSafetyLimit) :
  (row, d) ∈ (orderByDepth (walked store.rows descendants startId maxDepth)).take
    traverseSafetyLimit
  := by
  obtain ⟨hperm, hsorted⟩ := horder (walked store.rows descendants startId maxDepth)
  apply Levels.mem_take_of_count hsorted _ _ (Nat.le_refl d)
  · rw [hperm.countP_eq, walked, Levels.countP_walk hd, ← pairsWithin_eq]
    apply hfew
  · apply hperm.mem_iff.mpr
    apply mem_walked.mpr
    exact ⟨hd, hrow⟩

/-- Records of the table are told apart by their nodes. -/
theorem eq_of_node {row row' : LineageRow} (hrow : row ∈ store.rows) (hrow' : row' ∈ store.rows)
    (h : ProvenanceNode.ofRow row = ProvenanceNode.ofRow row') :
  row = row'
  := List.inj_on_of_nodup_map store.lineagePk hrow hrow' (congrArg ProvenanceNode.lineageId h)

/-- The number of rows that the session returns. -/
theorem length_listed {orderByDepth : List WalkRow → List WalkRow}
    (horder : OrdersByDepth orderByDepth) :
  ((orderByDepth (walked store.rows descendants startId maxDepth)).take
      traverseSafetyLimit).length
    = min traverseSafetyLimit (pairsWithin store.rows descendants startId maxDepth.toNat)
  := by
  rw [List.length_take, (horder _).1.length_eq, pairsWithin_eq]
  rfl

variable (store descendants startId) in
/-- The walk ends with a faithful result if and only if the limit of nodes is passed, so that the
result is reported as truncated, or every record that is reached at all is reached in some number
of steps up to the limit of depth, up to which the walk has no more rows than the session lists. -/
theorem walk_meets_iff (graph : ProvenanceGraph) :
  graph.Meets store.rows descendants startId
    ↔ graph.maxNodes < min traverseSafetyLimit
          (pairsWithin store.rows descendants startId graph.maxDepth.toNat)
      ∨ ∀ row, Reaches store.rows descendants startId row →
        ∃ d ≤ graph.maxDepth.toNat, row ∈ stepsAway store.rows descendants startId d
          ∧ pairsWithin store.rows descendants startId d ≤ traverseSafetyLimit
  := by
  constructor
  · intro hmeets
    by_contra hlost
    obtain ⟨hnodes, hlost⟩ := not_or.mp hlost
    obtain ⟨row, hrow⟩ := not_forall.mp hlost
    obtain ⟨hreaches, hfar⟩ := Classical.not_imp.mp hrow
    have horder := orderWithLast_ordersByDepth row
    obtain ⟨⟨fuel, hsome⟩, hfaithful⟩ := hmeets _ horder
    obtain ⟨result, hresult⟩ := Option.isSome_iff_exists.mp hsome
    obtain ⟨hlisted, htruncated⟩ := ProvenanceGraph.walk_eq hresult
    have hall : result.truncated = false := by
      rw [htruncated, length_listed horder]
      apply decide_eq_false hnodes
    have hnode := (hfaithful fuel result hresult).2 hall row hreaches
    rw [hlisted] at hnode
    obtain ⟨⟨found, depth⟩, hr, hsame⟩ := List.mem_map.mp hnode
    have hr := upTo_subset _ _ hr
    have hwalked := mem_walked.mp ((horder _).1.mem_iff.mp (List.mem_of_mem_take hr))
    obtain ⟨d, hd⟩ := reaches_iff.mp hreaches
    obtain rfl : found = row :=
      eq_of_node (mem_table_of_stepsAway hwalked.2) (mem_table_of_stepsAway hd) hsame
    apply lost_of_pairsWithin _ depth hr
    intro d hd haway
    apply Nat.lt_of_not_le
    intro hfew
    apply hfar
    exact ⟨d, hd, haway, hfew⟩
  · intro hcomplete orderByDepth horder
    constructor
    · use graph.maxDepth.toNat + 2
      rw [ProvenanceGraph.walk, traverse_ends (Nat.lt_succ_self _)]
      rfl
    · intro fuel result hresult
      obtain ⟨hlisted, htruncated⟩ := ProvenanceGraph.walk_eq hresult
      constructor
      · intro node hnode
        apply ProvenanceGraph.walk_sound horder hresult hnode
      · intro hall row hreaches
        rw [htruncated, length_listed horder] at hall
        have hnodes := of_decide_eq_false hall
        obtain ⟨d, hd, haway, hfew⟩ := hcomplete.resolve_left hnodes row hreaches
        rw [hlisted, upTo_of_length_le]
        · apply List.mem_map.mpr
          exact ⟨(row, d), listed_of_pairsWithin horder hd haway hfew, rfl⟩
        · rw [length_listed horder]
          apply Int.not_lt.mp hnodes

end Complete

/-! ## A result that is cut off in silence -/

/-- A record with a parent. -/
def derivedRow (seq : Int) (lineageId : String) (parent : String) : LineageRow :=
  { importedRow seq lineageId with parentLineageRef := some parent }

/-- A chain of three records. -/
def grandparentStore : LineageStore where
  rows := [importedRow 1 "a", derivedRow 2 "b" "a", derivedRow 3 "c" "b"]
  lineagePk := by decide
  lineageSeqUnique := by decide
  seqBigint := by decide
  lineageParentFk := by decide

/-- With a depth of one, the grandparent is missing and the result is not truncated. -/
theorem walk_cut_off :
  ¬ ∀ (store : LineageStore) (descendants : Bool) (startId : String) (graph : ProvenanceGraph),
    graph.Meets store.rows descendants startId
  := by
  intro h
  have hmeets := h grandparentStore false "c" ⟨1, 10⟩ (orderWithLast (importedRow 1 "a"))
    (orderWithLast_ordersByDepth _)
  have hresult : ProvenanceGraph.walk ⟨1, 10⟩ (orderWithLast (importedRow 1 "a"))
      grandparentStore.rows "c" false 3
        = some ⟨"c", .ancestors, [.ofRow (derivedRow 3 "c" "b"), .ofRow (derivedRow 2 "b" "a")],
          false⟩ := by decide +kernel
  have hreaches : Reaches grandparentStore.rows false "c" (importedRow 1 "a") := by
    use derivedRow 3 "c" "b"
    constructor
    · decide
    · use rfl
      apply Relation.ReflTransGen.tail (b := derivedRow 2 "b" "a")
      · apply Relation.ReflTransGen.single
        exact ⟨by decide, rfl⟩
      · exact ⟨by decide, rfl⟩
  have hnode := (hmeets.2 3 _ hresult).2 rfl _ hreaches
  revert hnode
  decide

end Lineage
