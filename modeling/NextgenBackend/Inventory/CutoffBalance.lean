import NextgenBackend.Inventory.Counting
import NextgenBackend.Inventory.Decomposition

namespace NextgenBackend.CutoffBalance

open Txn Inventory RoutesStocktake Decomposition

def approves (sessionId : Uuid) : StockEvent → Prop
  | .served (.approveStocktake _ id _) _ => id = sessionId
  | _ => False

def posted (db db' : Database) : List StockMovement :=
  db'.stockMovements.drop db.stockMovements.length

def isCounted (t : Tables) (s : StocktakeSession) (m : StockMovement) : Prop :=
  m.businessId = s.businessId ∧ ∃ l ∈ sessionLines s.id t, l.ingredientId = m.ingredientId

-- The count opens no earlier than the one before it, and once it is completed nobody else posts a
-- movement of what it counted that is dated at or before its cut-off.
def Timely (sessionId : Uuid) (db : Database) (event : StockEvent) (db' : Database) : Prop :=
  (match event with
    | .served (.openStocktake user id body) _ => id = sessionId →
        ∀ previous ∈ previousSession user.businessId db.toTables,
          previous.cutoffAt ≤ body.cutoffAt.getD db.now
    | _ => True) ∧
  ∀ s ∈ db.stocktakeSessions.lookup sessionId,
    s.status = .completed ∨ s.status = .approved → ¬ approves sessionId event →
      ∀ m ∈ posted db db', isCounted db.toTables s m → s.cutoffAt < m.occurredAt

structure Balanced (db : Database) (s : StocktakeSession) : Prop where
  stock : ∀ l ∈ sessionLines s.id db.toTables, ∃ counted, l.countedQuantityMilli = some counted ∧
    GroupBy.quantity (stockOnHand db.stockMovements s.businessId (some s.cutoffAt) [])
      l.ingredientId = counted
  opening : ∀ next ∈ db.stocktakeSessions, next.businessId = s.businessId →
    next.periodStartAt = some s.cutoffAt → ∀ ingredientIds, ∃ opening,
      (openingStock next.businessId next ingredientIds).run db = (.ok opening, db) ∧
        ∀ l ∈ sessionLines s.id db.toTables, l.ingredientId ∈ ingredientIds →
          l.countedQuantityMilli = some (GroupBy.quantity opening l.ingredientId)

def ApprovedIn (sessionId : Uuid) (taken : List (StockEvent × Database)) : Prop :=
  ∃ earlier user reply db', earlier ++
    [(.served (.approveStocktake user sessionId true) (.ok reply), db')] <+: taken

def StaysBalanced (sessionId : Uuid) (db : Database) (steps : List (StockEvent × Database)) : Prop :=
  ∀ taken, taken <+: steps → ApprovedIn sessionId taken →
    ∃ s, (Run.last db taken).stocktakeSessions.lookup sessionId = some s ∧
      Balanced (Run.last db taken) s

def Snapshot (pending : Bool) (t : Tables) (s : StocktakeSession) : Prop :=
  ∀ l ∈ sessionLines s.id t, ∃ counted, l.countedQuantityMilli = some counted ∧
    (if pending then l.varianceQuantityMilli else 0) +
      stockMoved t.stockMovements s.businessId l.ingredientId none (some s.cutoffAt) = counted

structure Prepared (t : Tables) (s : StocktakeSession) : Prop where
  ordered : ∀ start ∈ s.periodStartAt, start ≤ s.cutoffAt
  ingredients : ∀ l ∈ sessionLines s.id t, ∀ i, t.ingredients.lookup l.ingredientId = some i →
    i.businessId = s.businessId
  snapshot : s.status = .completed → Snapshot true t s

def Tracked (sessionId : Uuid) (t : Tables) : Prop :=
  (t.stocktakeSessions.lookup sessionId = none ∧ sessionLines sessionId t = []) ∨
    ∃ s, t.stocktakeSessions.lookup sessionId = some s ∧ Prepared t s

def Settled (sessionId : Uuid) (t : Tables) : Prop :=
  ∃ s, t.stocktakeSessions.lookup sessionId = some s ∧ s.status = .approved ∧ Snapshot false t s

section Ledger

variable {movements later : List StockMovement} {businessId ingredientId : Uuid} {cutoff : Instant}

theorem stockMoved_after (h : ∀ m ∈ later, m.businessId = businessId →
    m.ingredientId = ingredientId → cutoff < m.occurredAt) :
    stockMoved later businessId ingredientId none (some cutoff) = 0 := by
  induction later with
  | nil => rfl
  | cons m later ih =>
      rw [stockMoved_cons, ih fun m' hm' => h m' (List.mem_cons_of_mem _ hm')]
      by_cases hm : m.businessId = businessId ∧ m.ingredientId = ingredientId
      · have hafter : cutoff < m.occurredAt := h m List.mem_cons_self hm.1 hm.2
        have hdated : dated none (some cutoff) m = false := by
          simp [dated, hafter]
        simp [hdated]
      · have hother : ¬ (m.businessId = businessId ∧ m.ingredientId = ingredientId ∧
            dated none (some cutoff) m = true) := fun hall => hm ⟨hall.1, hall.2.1⟩
        simp [hother]

theorem stockMoved_append_after (h : ∀ m ∈ later, m.businessId = businessId →
    m.ingredientId = ingredientId → cutoff < m.occurredAt) :
    stockMoved (movements ++ later) businessId ingredientId none (some cutoff) =
      stockMoved movements businessId ingredientId none (some cutoff) := by
  rw [stockMoved_append, stockMoved_after h]
  omega

variable {user : AuthUser} {session : StocktakeSession} {lines : List StocktakeLine}
  {line : StocktakeLine}

theorem adjustments_cons : adjustments user session (line :: lines) =
    if line.varianceQuantityMilli ≠ 0 then
      adjustment user session line :: adjustments user session lines
    else adjustments user session lines := by
  unfold adjustments
  rw [List.filter_cons]
  by_cases h : line.varianceQuantityMilli = 0 <;> simp [h]

theorem stockMoved_adjustment {rest : List StockMovement} (hbusiness : user.businessId = businessId) :
    stockMoved (adjustment user session line :: rest) businessId ingredientId none
        (some session.cutoffAt) =
      (if line.ingredientId = ingredientId then line.varianceQuantityMilli else 0) +
        stockMoved rest businessId ingredientId none (some session.cutoffAt) := by
  rw [stockMoved_cons]
  congr 1
  simp [adjustment, buildMovement, dated, hbusiness]

theorem stockMoved_adjustments_other (hbusiness : user.businessId = businessId)
    (h : ∀ l ∈ lines, l.ingredientId ≠ ingredientId) :
    stockMoved (adjustments user session lines) businessId ingredientId none
      (some session.cutoffAt) = 0 := by
  induction lines with
  | nil => rfl
  | cons line lines ih =>
      have hrest := ih fun l hl => h l (List.mem_cons_of_mem _ hl)
      have hne : line.ingredientId ≠ ingredientId := h line List.mem_cons_self
      rw [adjustments_cons]
      split
      · rw [stockMoved_adjustment hbusiness, hrest, if_neg hne]
        rfl
      · exact hrest

-- A count has one line for each ingredient, so its adjustments correct each line by its variance.
theorem stockMoved_adjustments (hbusiness : user.businessId = businessId)
    (hdistinct : (lines.map (·.ingredientId)).Nodup) (hline : line ∈ lines) :
    stockMoved (adjustments user session lines) businessId line.ingredientId none
      (some session.cutoffAt) = line.varianceQuantityMilli := by
  induction lines with
  | nil => cases hline
  | cons first lines ih =>
      obtain ⟨hfirst, hrest⟩ := List.nodup_cons.mp hdistinct
      rw [adjustments_cons]
      rcases List.mem_cons.mp hline with rfl | hline
      · have hnone : stockMoved (adjustments user session lines) businessId line.ingredientId none
            (some session.cutoffAt) = 0 := by
          refine stockMoved_adjustments_other hbusiness fun l hl heq => hfirst ?_
          exact List.mem_map.mpr ⟨l, hl, heq⟩
        split
        next => rw [stockMoved_adjustment hbusiness, hnone, if_pos rfl, add_zero]
        next hzero =>
          have hzero : line.varianceQuantityMilli = 0 := by simpa using hzero
          rw [hnone, hzero]
      · have hne : first.ingredientId ≠ line.ingredientId := by
          intro heq
          exact hfirst (List.mem_map.mpr ⟨line, hline, heq.symm⟩)
        have htail := ih hrest hline
        split
        · rw [stockMoved_adjustment hbusiness, if_neg hne, htail, zero_add]
        · exact htail

end Ledger

section Counts

variable {lines : List StocktakeLine} {variances : List (Uuid × IngredientVariance)}
  {line : StocktakeLine} {v : IngredientVariance}

theorem lookup_countedVariances (hdistinct : (lines.map (·.ingredientId)).Nodup)
    (hline : line ∈ lines) (hv : variances.lookup line.ingredientId = some v) :
    (countedVariances lines variances).lookup line.ingredientId = some (countInto line v) := by
  induction lines with
  | nil => cases hline
  | cons first lines ih =>
      obtain ⟨hfirst, hrest⟩ := List.nodup_cons.mp hdistinct
      unfold countedVariances
      rw [List.filterMap_cons]
      rcases List.mem_cons.mp hline with rfl | hline
      · simp [hv]
      · have hne : line.ingredientId ≠ first.ingredientId := by
          intro heq
          exact hfirst (List.mem_map.mpr ⟨line, hline, heq⟩)
        have htail := ih hrest hline
        unfold countedVariances at htail
        cases hlookup : variances.lookup first.ingredientId with
        | none => exact htail
        | some v' =>
            have hbeq : (line.ingredientId == first.ingredientId) = false := by simp [hne]
            simp only [Option.map_some, List.lookup_cons, hbeq]
            exact htail

theorem lookup_variances {ingredients : List Ingredient} {f : Ingredient → IngredientVariance}
    {i : Ingredient} (hi : i ∈ ingredients) :
    ∃ i' ∈ ingredients, i'.id = i.id ∧
      (ingredients.map fun i => (i.id, f i)).lookup i.id = some (f i') := by
  induction ingredients with
  | nil => cases hi
  | cons first ingredients ih =>
      rw [List.map_cons, List.lookup_cons]
      by_cases heq : i.id = first.id
      · refine ⟨first, List.mem_cons_self, heq.symm, ?_⟩
        simp [heq]
      · have hmem : i ∈ ingredients := by
          rcases List.mem_cons.mp hi with rfl | hmem
          · exact absurd rfl heq
          · exact hmem
        obtain ⟨i', hi', hid, hlookup⟩ := ih hmem
        have hbeq : (i.id == first.id) = false := by simp [heq]
        refine ⟨i', List.mem_cons_of_mem _ hi', hid, ?_⟩
        simp only [hbeq]
        exact hlookup

theorem snapshot_variance {counted : List (Uuid × IngredientVariance)}
    (h : counted.lookup line.ingredientId = some (countInto line v)) :
    (snapshotLine counted line).varianceQuantityMilli =
      line.countedQuantityMilli.getD 0 - v.expectedMilli := by
  unfold snapshotLine
  rw [h]
  rfl

theorem snapshot_counted {counted : List (Uuid × IngredientVariance)} :
    (snapshotLine counted line).countedQuantityMilli = line.countedQuantityMilli := by
  unfold snapshotLine
  cases counted.lookup line.ingredientId <;> rfl

theorem sameLine_snapshot {counted : List (Uuid × IngredientVariance)} :
    SameLine line (snapshotLine counted line) := by
  unfold snapshotLine
  cases counted.lookup line.ingredientId <;> exact ⟨rfl, rfl, rfl⟩

end Counts

section Tables

variable {t t' : Tables} {sessionId : Uuid} {set : StocktakeLine → StocktakeLine}

theorem sessionLines_map (hset : ∀ l, SameLine l (set l))
    (hlines : t'.stocktakeLines = t.stocktakeLines.map set) :
    sessionLines sessionId t' = (sessionLines sessionId t).map set := by
  unfold sessionLines
  rw [hlines, List.filter_map]
  congr 1
  refine List.filter_congr fun l _ => ?_
  simp [(hset l).session]

theorem sessionLines_map_other {id : Uuid} (hset : KeepsLines id set) (hne : sessionId ≠ id)
    (hlines : t'.stocktakeLines = t.stocktakeLines.map set) :
    sessionLines sessionId t' = sessionLines sessionId t := by
  rw [sessionLines_map (fun l => (hset l).1) hlines]
  refine (List.map_congr_left fun l hl => ?_).trans (List.map_id _)
  have hsession : l.stocktakeSessionId = sessionId := by
    simpa using (List.mem_filter.mp hl).2
  exact (hset l).2 (hsession ▸ hne)

theorem sessionLines_distinct (db : Database) :
    ((sessionLines sessionId db.toTables).map (·.ingredientId)).Nodup := by
  have hunique := db.valid .uqStocktakeLinesStocktakeSessionIdIngredientId
  have hpairs : (db.stocktakeLines.map fun l => (l.stocktakeSessionId, l.ingredientId)).Nodup := by
    simpa [Constraint.Holds, Table.Unique] using hunique
  have hsub : (sessionLines sessionId db.toTables).Sublist db.stocktakeLines :=
    List.filter_sublist
  have hlines := hpairs.sublist (hsub.map fun l => (l.stocktakeSessionId, l.ingredientId))
  refine List.Nodup.of_map (fun ingredientId => (sessionId, ingredientId)) ?_
  rw [List.map_map]
  refine (List.map_congr_left fun l hl => ?_) ▸ hlines
  have hsession : l.stocktakeSessionId = sessionId := by
    simpa using (List.mem_filter.mp hl).2
  simp [hsession]

end Tables

structure Aside (sessionId : Uuid) (t t' : Tables) : Prop where
  session : t'.stocktakeSessions.lookup sessionId = t.stocktakeSessions.lookup sessionId
  lines : sessionLines sessionId t' = sessionLines sessionId t
  ingredients : ∀ id ingredient, t.ingredients.lookup id = some ingredient →
    ∀ ingredient', t'.ingredients.lookup id = some ingredient' →
      ingredient'.businessId = ingredient.businessId
  movements : ∃ later, t'.stockMovements = t.stockMovements ++ later ∧
    ∀ s, t.stocktakeSessions.lookup sessionId = some s →
      s.status = .completed ∨ s.status = .approved →
        ∀ m ∈ later, isCounted t s m → s.cutoffAt < m.occurredAt

inductive Own (sessionId : Uuid) (db : Database) (event : StockEvent) (t' : Tables) : Prop
  | opened {user : AuthUser} {body : StocktakeOpenRequest} {reply : StockReply}
      (served : event = .served (.openStocktake user sessionId body) (.ok reply))
      (opened : Opened user sessionId body db.now db.toTables t')
  | recounted {user : AuthUser} (recounted : Recounted user sessionId db t')
  | completed {user : AuthUser} (completed : Completed user sessionId db t')
  | approved {user : AuthUser} {postAdjustments : Bool} {reply : StockReply}
      (served : event = .served (.approveStocktake user sessionId postAdjustments) (.ok reply))
      (approved : Approved user sessionId postAdjustments db t')
  | cancelled {user : AuthUser} (cancelled : Cancelled user sessionId db t')

section Steps

variable {db db' : Database} {event : StockEvent} {sessionId : Uuid} {s : StocktakeSession}

theorem posted_append {later : List StockMovement}
    (h : db'.stockMovements = db.stockMovements ++ later) : posted db db' = later := by
  unfold posted
  rw [h, List.drop_left]

theorem ingredients_same (t : Tables) : ∀ id ingredient, t.ingredients.lookup id = some ingredient →
    ∀ ingredient', t.ingredients.lookup id = some ingredient' →
      ingredient'.businessId = ingredient.businessId := by
  intro id ingredient h ingredient' h'
  rw [h] at h'
  rw [Option.some.inj h']

theorem aside_of_same (hsession : db'.stocktakeSessions.lookup sessionId =
      db.stocktakeSessions.lookup sessionId)
    (hlines : sessionLines sessionId db'.toTables = sessionLines sessionId db.toTables)
    (hingredients : db'.ingredients = db.ingredients)
    (hmovements : db'.stockMovements = db.stockMovements) :
    Aside sessionId db.toTables db'.toTables := by
  refine ⟨hsession, hlines, ?_, [], ?_, ?_⟩
  · rw [hingredients]
    exact ingredients_same _
  · rw [hmovements, List.append_nil]
  · intro s _ _ m hm
    cases hm

theorem lookup_modify_other {id : Uuid} {set : StocktakeSession → StocktakeSession}
    (hset : ∀ s, key (set s) = key s) (hne : sessionId ≠ id) :
    (db.stocktakeSessions.modify id set).lookup sessionId = db.stocktakeSessions.lookup sessionId :=
  Table.lookup_modify_ne hset hne

theorem aside_or_own (hnext : NextStock db event db') (htimely : Timely sessionId db event db') :
    Aside sessionId db.toTables db'.toTables ∨ Own sessionId db event db'.toTables := by
  cases next_countStep hnext with
  | unchanged hsame =>
      refine .inl ⟨by rw [hsame.sessions], by unfold sessionLines; rw [hsame.lines],
        hsame.ingredients, [], by rw [hsame.movements, List.append_nil], ?_⟩
      intro s _ _ m hm
      cases hm
  | posted hserved hspares =>
      obtain ⟨later, hlater⟩ := hspares.movements
      refine .inl ⟨by rw [hspares.sessions], by unfold sessionLines; rw [hspares.lines], ?_,
        later, hlater, ?_⟩
      · rw [hspares.ingredients]
        exact ingredients_same _
      · intro s hs hstatus m hm hcounted
        have hnot : ¬ approves sessionId event := by
          obtain ⟨rfl, hcounting⟩ := hserved
          rename_i request reply
          cases request with
          | approveStocktake => exact absurd .approveStocktake hcounting
          | _ => exact id
        rw [← posted_append hlater] at hm
        exact htimely.2 s hs hstatus hnot m hm hcounted
  | @opened user id body reply hserved hopened =>
      by_cases hid : id = sessionId
      · subst hid
        exact .inr (.opened hserved hopened)
      · refine .inl (aside_of_same ?_ ?_ ?_ ?_)
        · rw [hopened.tables]
          exact Table.lookup_insert_ne hid
        · rw [hopened.tables]
          have hnone : (((countable user.businessId db.toTables).map
              (newLine user.businessId id)).filter fun l => l.stocktakeSessionId = sessionId) = [] := by
            rw [List.filter_eq_nil_iff]
            intro l hl
            obtain ⟨i, -, rfl⟩ := List.mem_map.mp hl
            simp [newLine, hid]
          simp only [sessionLines, insertSession, List.filter_append, hnone, List.append_nil]
        · rw [hopened.tables]
          rfl
        · rw [hopened.tables]
          rfl
  | @recounted user id hrecounted =>
      by_cases hid : id = sessionId
      · subst hid
        exact .inr (.recounted hrecounted)
      · obtain ⟨set, hset, htables⟩ := hrecounted.tables
        refine .inl (aside_of_same (by rw [htables]) ?_ (by rw [htables]) (by rw [htables]))
        exact sessionLines_map_other hset (Ne.symm hid) (by rw [htables])
  | @completed user id hcompleted =>
      by_cases hid : id = sessionId
      · subst hid
        exact .inr (.completed hcompleted)
      · obtain ⟨s, variances, -, -, -, -, htables⟩ := hcompleted.tables
        have hsets : SetsLines id (setLines id (snapshotLine
            (countedVariances (sessionLines id db.toTables) variances))) :=
          setsLines_setLines fun _ => sameLine_snapshot
        obtain ⟨set, hset, hlines⟩ := hsets
        refine .inl (aside_of_same ?_ ?_ ?_ ?_)
        · rw [htables]
          exact lookup_modify_other (fun _ => rfl) (Ne.symm hid)
        · refine sessionLines_map_other hset (Ne.symm hid) ?_
          rw [htables, hlines]
          rfl
        · rw [htables]
          rfl
        · rw [htables]
          rfl
  | @approved user id postAdjustments reply hserved happroved =>
      by_cases hid : id = sessionId
      · subst hid
        exact .inr (.approved hserved happroved)
      · obtain ⟨s, -, -, htables⟩ := happroved.tables
        have hlater : db'.stockMovements = db.stockMovements ++ (if postAdjustments then
            adjustments user s (sessionLines id db.toTables) else []) := by
          rw [htables]
          rfl
        refine .inl ⟨?_, by rw [htables]; rfl, ?_, _, hlater, ?_⟩
        · rw [htables]
          exact lookup_modify_other (fun _ => rfl) (Ne.symm hid)
        · rw [htables]
          exact ingredients_same _
        · intro s' hs' hstatus m hm hcounted
          rw [← posted_append hlater] at hm
          refine htimely.2 s' hs' hstatus ?_ m hm hcounted
          rw [hserved]
          exact hid
  | @cancelled user id hcancelled =>
      by_cases hid : id = sessionId
      · subst hid
        exact .inr (.cancelled hcancelled)
      · obtain ⟨s, -, -, -, htables⟩ := hcancelled.tables
        refine .inl (aside_of_same ?_ ?_ ?_ ?_)
        · rw [htables]
          exact lookup_modify_other (fun _ => rfl) (Ne.symm hid)
        · rw [htables]
          rfl
        · rw [htables]
          rfl
        · rw [htables]
          rfl

theorem snapshot_aside {pending : Bool} (haside : Aside s.id db.toTables db'.toTables)
    (hs : db.stocktakeSessions.lookup s.id = some s)
    (hstatus : s.status = .completed ∨ s.status = .approved)
    (h : Snapshot pending db.toTables s) : Snapshot pending db'.toTables s := by
  obtain ⟨later, hlater, hafter⟩ := haside.movements
  intro l hl
  rw [haside.lines] at hl
  obtain ⟨counted, hcounted, hsum⟩ := h l hl
  refine ⟨counted, hcounted, ?_⟩
  rw [hlater, stockMoved_append_after, hsum]
  intro m hm hbusiness hingredient
  exact hafter s hs hstatus m hm ⟨hbusiness, l, hl, hingredient.symm⟩

theorem ingredient_exists {l : StocktakeLine} (hl : l ∈ sessionLines sessionId db.toTables) :
    ∃ i, db.ingredients.lookup l.ingredientId = some i :=
  Option.isSome_iff_exists.mp
    (db.valid .fkStocktakeLinesIngredientId l (List.mem_filter.mp hl).1)

theorem prepared_aside (haside : Aside s.id db.toTables db'.toTables)
    (hs : db.stocktakeSessions.lookup s.id = some s) (h : Prepared db.toTables s) :
    Prepared db'.toTables s := by
  refine ⟨h.ordered, fun l hl i' hi' => ?_, fun hcompleted => ?_⟩
  · rw [haside.lines] at hl
    obtain ⟨i, hi⟩ := ingredient_exists hl
    exact (haside.ingredients _ i hi i' hi').trans (h.ingredients l hl i hi)
  · exact snapshot_aside haside hs (.inl hcompleted) (h.snapshot hcompleted)

theorem prepared_modify {set : StocktakeSession → StocktakeSession}
    (hs : db.stocktakeSessions.lookup sessionId = some s)
    (hsessions : db'.stocktakeSessions = db.stocktakeSessions.modify sessionId set)
    (hkey : ∀ s, key (set s) = key s) (h : Prepared db'.toTables (set s)) : Tracked sessionId db'.toTables := by
  refine .inr ⟨set s, ?_, h⟩
  rw [hsessions, Table.lookup_modify_self hkey, hs]
  rfl

theorem tracked_opened {user : AuthUser} {body : StocktakeOpenRequest} {reply : StockReply}
    (h : Tracked sessionId db.toTables)
    (htimely : Timely sessionId db (.served (.openStocktake user sessionId body) (.ok reply)) db')
    (hopened : Opened user sessionId body db.now db.toTables db'.toTables) :
    Tracked sessionId db'.toTables := by
  have htables := hopened.tables
  have hsessions := congrArg Tables.stocktakeSessions htables
  have hlines := congrArg Tables.stocktakeLines htables
  have hingredients := congrArg Tables.ingredients htables
  have hpk := db'.valid .stocktakeSessionsPkey
  simp only [Constraint.Holds, hsessions, insertSession] at hpk
  have hfresh : db.stocktakeSessions.lookup sessionId = none := (Table.primaryKey_insert.mp hpk).2
  rcases h with ⟨-, hnone⟩ | ⟨s, hs, -⟩
  · refine .inr ⟨newSession user sessionId body (previousSession user.businessId db.toTables)
      db.now, ?_, ?_, ?_, ?_⟩
    · rw [hsessions]
      exact Table.lookup_insert_self hfresh
    · intro start hstart
      obtain ⟨previous, hprevious, rfl⟩ := Option.map_eq_some_iff.mp hstart
      exact htimely.1 rfl previous hprevious
    · intro l hl i hi
      have hmem : l ∈ (countable user.businessId db.toTables).map
          (newLine user.businessId sessionId) := by
        unfold sessionLines at hl hnone
        rw [hlines] at hl
        simp only [insertSession, List.filter_append] at hl
        rw [show (newSession user sessionId body (previousSession user.businessId db.toTables)
          db.now).id = sessionId from rfl, hnone, List.nil_append] at hl
        exact (List.mem_filter.mp hl).1
      obtain ⟨i', hi', rfl⟩ := List.mem_map.mp hmem
      obtain ⟨hrow, hown⟩ := List.mem_filter.mp hi'
      have hlookup := Table.lookup_of_mem (db.valid .ingredientsPkey) hrow
      rw [hingredients] at hi
      have hsame : i = i' := Option.some.inj (hi.symm.trans hlookup)
      rw [hsame]
      exact (of_decide_eq_true hown).1
    · intro hcompleted
      cases hcompleted
  · rw [hfresh] at hs
    cases hs

theorem tracked_own {businessId : Uuid} (h : Tracked sessionId db.toTables)
    (hown : ownSession businessId sessionId db = some s) :
    db.stocktakeSessions.lookup sessionId = some s ∧ s.businessId = businessId ∧
      s.id = sessionId ∧ Prepared db.toTables s := by
  obtain ⟨hlookup, hbusiness⟩ := ownSession_some hown
  refine ⟨hlookup, hbusiness, Table.lookup_key hlookup, ?_⟩
  rcases h with ⟨hnone, -⟩ | ⟨s', hs', hprepared⟩
  · rw [hnone] at hlookup
    cases hlookup
  · rw [hlookup] at hs'
    rw [Option.some.inj hs']
    exact hprepared

theorem tracked_recounted {user : AuthUser} (h : Tracked sessionId db.toTables)
    (hrecounted : Recounted user sessionId db db'.toTables) : Tracked sessionId db'.toTables := by
  obtain ⟨s, hown, hdraft⟩ := hrecounted.draft
  obtain ⟨set, hset, htables⟩ := hrecounted.tables
  obtain ⟨hlookup, -, hid, hprepared⟩ := tracked_own h hown
  refine .inr ⟨s, by rw [htables]; exact hlookup, hprepared.ordered, ?_, ?_⟩
  · intro l hl i hi
    have hlines : sessionLines s.id db'.toTables = (sessionLines s.id db.toTables).map set :=
      sessionLines_map (fun l => (hset l).1) (by rw [htables])
    rw [hlines] at hl
    obtain ⟨l₀, hl₀, rfl⟩ := List.mem_map.mp hl
    rw [(hset l₀).1.ingredient] at hi
    rw [htables] at hi
    exact hprepared.ingredients l₀ hl₀ i hi
  · intro hcompleted
    rw [hdraft] at hcompleted
    cases hcompleted

-- The line's own variance is what the ledger lacks of its count at the cut-off.
theorem snapshot_completed {user : AuthUser} {variances : List (Uuid × IngredientVariance)}
    (hprepared : Prepared db.toTables s) (hbusiness : s.businessId = user.businessId)
    (hcounted : ∀ l ∈ sessionLines s.id db.toTables, l.countedQuantityMilli ≠ none)
    (hrun : (computeVariances user.businessId s (db.ingredients.filter fun i =>
      i.businessId = user.businessId ∧ i.id ∈ (sessionLines s.id db.toTables).map
        (·.ingredientId))).run db = (.ok variances, db)) :
    ∀ l ∈ sessionLines s.id db.toTables, ∃ counted, l.countedQuantityMilli = some counted ∧
      (snapshotLine (countedVariances (sessionLines s.id db.toTables) variances)
          l).varianceQuantityMilli +
        stockMoved db.stockMovements s.businessId l.ingredientId none (some s.cutoffAt) =
          counted := by
  intro l hl
  obtain ⟨v, hv, hexpected⟩ := computeVariances_at_cutoff db user.businessId s
    (db.ingredients.filter fun i => i.businessId = user.businessId ∧
      i.id ∈ (sessionLines s.id db.toTables).map (·.ingredientId)) hprepared.ordered
  rw [hv] at hrun
  obtain rfl := Except.ok.inj (Prod.mk.inj hrun).1
  obtain ⟨counted, hquantity⟩ := Option.ne_none_iff_exists'.mp (hcounted l hl)
  obtain ⟨i, hi⟩ := ingredient_exists hl
  have hid : i.id = l.ingredientId := Table.lookup_key hi
  have hrow : i ∈ db.ingredients.filter fun i => i.businessId = user.businessId ∧
      i.id ∈ (sessionLines s.id db.toTables).map (·.ingredientId) := by
    have hownbusiness : i.businessId = user.businessId :=
      (hprepared.ingredients l hl i hi).trans hbusiness
    have hline : i.id ∈ (sessionLines s.id db.toTables).map (·.ingredientId) :=
      List.mem_map.mpr ⟨l, hl, hid.symm⟩
    exact List.mem_filter.mpr ⟨Table.lookup_mem hi, decide_eq_true ⟨hownbusiness, hline⟩⟩
  obtain ⟨i', hi', hid', hlookup⟩ := lookup_variances hrow
  rw [hid] at hlookup hid'
  have hsnapshot := snapshot_variance
    (lookup_countedVariances (sessionLines_distinct db) hl hlookup)
  refine ⟨counted, hquantity, ?_⟩
  rw [hsnapshot, hexpected i' hi', hid', hquantity, hbusiness, Option.getD_some]
  omega

theorem sessionLines_snapshot {counted : List (Uuid × IngredientVariance)} {t : Tables}
    {set : StocktakeSession → StocktakeSession} :
    sessionLines sessionId (setSession sessionId set (setLines sessionId (snapshotLine counted) t)) =
      (sessionLines sessionId t).map (snapshotLine counted) := by
  unfold sessionLines setSession setLines
  rw [List.filter_map]
  refine (congrArg _ (List.filter_congr fun l _ => ?_)).trans (List.map_congr_left fun l hl => ?_)
  · by_cases hl : l.stocktakeSessionId = sessionId
    · simp [hl, sameLine_snapshot.session]
    · simp [hl]
  · have hl : l.stocktakeSessionId = sessionId := by simpa using (List.mem_filter.mp hl).2
    simp [hl]

theorem tracked_completed {user : AuthUser} (h : Tracked sessionId db.toTables)
    (hcompleted : Completed user sessionId db db'.toTables) : Tracked sessionId db'.toTables := by
  obtain ⟨s, variances, hown, -, hcounted, hrun, htables⟩ := hcompleted.tables
  obtain ⟨hlookup, hbusiness, rfl, hprepared⟩ := tracked_own h hown
  have hlines : sessionLines s.id db'.toTables = (sessionLines s.id db.toTables).map
      (snapshotLine (countedVariances (sessionLines s.id db.toTables) variances)) := by
    rw [htables]
    exact sessionLines_snapshot
  refine prepared_modify hlookup (congrArg Tables.stocktakeSessions htables) (fun _ => rfl) ?_
  refine ⟨hprepared.ordered, fun l hl i hi => ?_, fun _ l hl => ?_⟩
  · rw [show (markCompleted user.userId (countedVariances (sessionLines s.id db.toTables) variances)
      db.now s).id = s.id from rfl, hlines] at hl
    obtain ⟨l₀, hl₀, rfl⟩ := List.mem_map.mp hl
    rw [sameLine_snapshot.ingredient] at hi
    rw [congrArg Tables.ingredients htables] at hi
    exact hprepared.ingredients l₀ hl₀ i hi
  · rw [show (markCompleted user.userId (countedVariances (sessionLines s.id db.toTables) variances)
      db.now s).id = s.id from rfl, hlines] at hl
    obtain ⟨l₀, hl₀, rfl⟩ := List.mem_map.mp hl
    obtain ⟨counted, hquantity, hsum⟩ := snapshot_completed hprepared hbusiness hcounted hrun l₀ hl₀
    refine ⟨counted, snapshot_counted.trans hquantity, ?_⟩
    rw [sameLine_snapshot.ingredient, congrArg Tables.stockMovements htables]
    exact hsum

theorem tracked_closed {businessId : Uuid} {set : StocktakeSession → StocktakeSession}
    (h : Tracked sessionId db.toTables) (hown : ownSession businessId sessionId db = some s)
    (hsessions : db'.stocktakeSessions = db.stocktakeSessions.modify sessionId set)
    (hlines : db'.stocktakeLines = db.stocktakeLines)
    (hingredients : db'.ingredients = db.ingredients)
    (hset : ∀ s, (set s).id = s.id ∧ (set s).businessId = s.businessId ∧
      (set s).periodStartAt = s.periodStartAt ∧ (set s).cutoffAt = s.cutoffAt ∧
        (set s).status ≠ .completed) : Tracked sessionId db'.toTables := by
  obtain ⟨hlookup, -, rfl, hprepared⟩ := tracked_own h hown
  obtain ⟨hid, hbusiness, hstart, hcutoff, hstatus⟩ := hset s
  refine prepared_modify hlookup hsessions (fun s => (hset s).1) ⟨?_, fun l hl i hi => ?_, ?_⟩
  · rw [hstart, hcutoff]
    exact hprepared.ordered
  · rw [hid] at hl
    rw [hbusiness]
    rw [hingredients] at hi
    unfold sessionLines at hl
    rw [hlines] at hl
    exact hprepared.ingredients l hl i hi
  · intro hcompleted
    exact absurd hcompleted hstatus

theorem tracked_next (h : Tracked sessionId db.toTables) (hnext : NextStock db event db')
    (htimely : Timely sessionId db event db') : Tracked sessionId db'.toTables := by
  rcases aside_or_own hnext htimely with haside | hown
  · rcases h with ⟨hnone, hlines⟩ | ⟨s, hs, hprepared⟩
    · exact .inl ⟨haside.session.trans hnone, haside.lines.trans hlines⟩
    · have hid : s.id = sessionId := Table.lookup_key hs
      subst hid
      exact .inr ⟨s, haside.session.trans hs, prepared_aside haside hs hprepared⟩
  · cases hown with
    | opened hserved hopened =>
        rw [hserved] at htimely
        exact tracked_opened h htimely hopened
    | recounted hrecounted => exact tracked_recounted h hrecounted
    | completed hcompleted => exact tracked_completed h hcompleted
    | approved hserved happroved =>
        obtain ⟨s, hs, -, htables⟩ := happroved.tables
        exact tracked_closed h hs (congrArg Tables.stocktakeSessions htables)
          (by rw [htables]; rfl) (by rw [htables]; rfl)
          fun _ => ⟨rfl, rfl, rfl, rfl, by simp [markApproved]⟩
    | cancelled hcancelled =>
        obtain ⟨s, hs, -, -, htables⟩ := hcancelled.tables
        exact tracked_closed h hs (congrArg Tables.stocktakeSessions htables)
          (by rw [htables]; rfl) (by rw [htables]; rfl)
          fun _ => ⟨rfl, rfl, rfl, rfl, by simp [markCancelled]⟩

theorem settled_approved {user : AuthUser} (h : Tracked sessionId db.toTables)
    (happroved : Approved user sessionId true db db'.toTables) : Settled sessionId db'.toTables := by
  obtain ⟨s, hown, hcompleted, htables⟩ := happroved.tables
  obtain ⟨hlookup, hbusiness, rfl, hprepared⟩ := tracked_own h hown
  have hsessions := congrArg Tables.stocktakeSessions htables
  have hlines : sessionLines s.id db'.toTables = sessionLines s.id db.toTables := by
    rw [htables]
    rfl
  have hmovements : db'.stockMovements = db.stockMovements ++
      adjustments user s (sessionLines s.id db.toTables) := by
    rw [htables]
    rfl
  refine ⟨markApproved user.userId db.now s, ?_, rfl, ?_⟩
  · have hmodified : (db.stocktakeSessions.modify s.id (markApproved user.userId db.now)).lookup s.id
        = (db.stocktakeSessions.lookup s.id).map (markApproved user.userId db.now) :=
      Table.lookup_modify_self fun _ => rfl
    rw [hsessions]
    rw [hlookup] at hmodified
    exact hmodified
  · intro l hl
    rw [show (markApproved user.userId db.now s).id = s.id from rfl, hlines] at hl
    obtain ⟨counted, hquantity, hsum⟩ := hprepared.snapshot hcompleted l hl
    have hadjusted : stockMoved (adjustments user s (sessionLines s.id db.toTables)) s.businessId
        l.ingredientId none (some s.cutoffAt) = l.varianceQuantityMilli :=
      stockMoved_adjustments hbusiness.symm (sessionLines_distinct db) hl
    refine ⟨counted, hquantity, ?_⟩
    simp only [if_true] at hsum
    rw [hmovements, stockMoved_append]
    simp only [markApproved, hadjusted, Bool.false_eq_true, if_false]
    omega

theorem settled_next (h : Settled sessionId db.toTables) (hnext : NextStock db event db')
    (htimely : Timely sessionId db event db') : Settled sessionId db'.toTables := by
  obtain ⟨s, hs, happroved, hsnapshot⟩ := h
  have hid : s.id = sessionId := Table.lookup_key hs
  subst hid
  have hclosed {businessId : Uuid} {s' : StocktakeSession}
      (hown : ownSession businessId s.id db = some s') : s'.status = .approved := by
    have hlookup := (ownSession_some hown).1
    rw [hs] at hlookup
    rw [← Option.some.inj hlookup]
    exact happroved
  rcases aside_or_own hnext htimely with haside | hown
  · exact ⟨s, haside.session.trans hs, happroved,
      snapshot_aside haside hs (.inr happroved) hsnapshot⟩
  · cases hown with
    | opened hserved hopened =>
        have hpk := db'.valid .stocktakeSessionsPkey
        simp only [Constraint.Holds, congrArg Tables.stocktakeSessions hopened.tables,
          insertSession] at hpk
        have hfresh := (Table.primaryKey_insert.mp hpk).2
        rw [show key (newSession _ s.id _ _ _) = s.id from rfl, hs] at hfresh
        cases hfresh
    | recounted hrecounted =>
        obtain ⟨s', hown, hdraft⟩ := hrecounted.draft
        rw [hclosed hown] at hdraft
        cases hdraft
    | completed hcompleted =>
        obtain ⟨s', variances, hown, hdraft, -⟩ := hcompleted.tables
        rw [hclosed hown] at hdraft
        cases hdraft
    | approved hserved happroved' =>
        obtain ⟨s', hown, hcompleted, -⟩ := happroved'.tables
        rw [hclosed hown] at hcompleted
        cases hcompleted
    | cancelled hcancelled =>
        obtain ⟨s', hown, hnot, -⟩ := hcancelled.tables
        exact absurd (hclosed hown) hnot

end Steps

section Runs

variable {db : Database} {steps : List (StockEvent × Database)} {sessionId : Uuid}
  {s : StocktakeSession}

theorem balanced_of_snapshot (h : Snapshot false db.toTables s) : Balanced db s := by
  constructor
  · intro l hl
    obtain ⟨counted, hcounted, hsum⟩ := h l hl
    refine ⟨counted, hcounted, ?_⟩
    rw [quantity_stockOnHand (.inl rfl)]
    simpa using hsum
  · intro next _ hbusiness hstart ingredientIds
    obtain ⟨opening, hrun, hopening⟩ := openingStock_run db next.businessId next ingredientIds
    refine ⟨opening, hrun, fun l hl hmem => ?_⟩
    obtain ⟨counted, hcounted, hsum⟩ := h l hl
    have hquantity := hopening l.ingredientId hmem
    rw [hstart, hbusiness, Option.elim_some] at hquantity
    rw [hcounted, hquantity]
    simpa using hsum.symm

theorem approvedIn_snoc {taken : List (StockEvent × Database)} {event : StockEvent} {db' : Database}
    (h : ApprovedIn sessionId (taken ++ [(event, db')])) :
    ApprovedIn sessionId taken ∨
      ∃ user reply, event = .served (.approveStocktake user sessionId true) (.ok reply) := by
  obtain ⟨earlier, user, reply, db'', hpre⟩ := h
  rcases List.prefix_concat_iff.mp hpre with heq | hpre
  · have hevent := (List.append_inj' heq rfl).2
    simp only [List.cons.injEq, Prod.mk.injEq, and_true] at hevent
    exact .inr ⟨user, reply, hevent.1.symm⟩
  · exact .inl ⟨earlier, user, reply, db'', hpre⟩

theorem settled_of_approval {db' : Database} {user : AuthUser} {reply : StockReply} (h : Tracked sessionId db.toTables)
    (hnext : NextStock db (.served (.approveStocktake user sessionId true) (.ok reply)) db') :
    Settled sessionId db'.toTables := by
  obtain ⟨r, hwrites, hreply⟩ := answer_run approveStocktake_ensures hnext
  cases r with
  | error e => cases hreply
  | ok response =>
      rcases hwrites.2 with ⟨⟨e, he⟩, -⟩ | ⟨-, happroved⟩
      · cases he
      · exact settled_approved h happroved

theorem run_settled (hrun : Run.Along NextStock db steps)
    (htimely : Run.Along (Timely sessionId) db steps) (h : Tracked sessionId db.toTables) :
    Tracked sessionId (Run.last db steps).toTables ∧
      (ApprovedIn sessionId steps → Settled sessionId (Run.last db steps).toTables) := by
  refine (hrun.and htimely).history (I := fun taken =>
    Tracked sessionId (Run.last db taken).toTables ∧
      (ApprovedIn sessionId taken → Settled sessionId (Run.last db taken).toTables)) ?_ ?_
  · refine ⟨h, fun happroved => ?_⟩
    obtain ⟨earlier, user, reply, db', hpre⟩ := happroved
    simp at hpre
  · rintro taken event db' ⟨htracked, hsettled⟩ ⟨hnext, htimely⟩
    rw [Run.last_append]
    refine ⟨tracked_next htracked hnext htimely, fun happroved => ?_⟩
    rcases approvedIn_snoc happroved with happroved | ⟨user, reply, rfl⟩
    · exact settled_next (hsettled happroved) hnext htimely
    · exact settled_of_approval htracked hnext

theorem approved_count_is_stock (hrun : Run.Along NextStock db steps)
    (hfresh : db.stocktakeSessions.lookup sessionId = none)
    (hnolines : sessionLines sessionId db.toTables = [])
    (htimely : Run.Along (Timely sessionId) db steps) : StaysBalanced sessionId db steps := by
  intro taken hpre happroved
  obtain ⟨-, hsettled⟩ := run_settled (hrun.of_prefix hpre) (htimely.of_prefix hpre)
    (.inl ⟨hfresh, hnolines⟩)
  obtain ⟨s, hs, -, hsnapshot⟩ := hsettled happroved
  exact ⟨s, hs, balanced_of_snapshot hsnapshot⟩

end Runs

instance (sessionId : Uuid) (event : StockEvent) : Decidable (approves sessionId event) := by
  unfold approves
  split <;> infer_instance

instance (t : Tables) (s : StocktakeSession) (m : StockMovement) : Decidable (isCounted t s m) :=
  inferInstanceAs (Decidable (_ ∧ _))

instance (sessionId : Uuid) (db : Database) (event : StockEvent) (db' : Database) :
    Decidable (Timely sessionId db event db') := by
  unfold Timely
  split <;> infer_instance

def stockroom : Database where
  businesses := [{ id := 1, inventoryEnabled := true }]
  ingredients := [{ id := 2, businessId := 1, name := "Flour", canonicalUnit := .gram }]
  now := 100
  valid := Tables.violation_eq_none.mp (by decide +kernel)

def manager : AuthUser where
  userId := 9
  businessId := 1
  role := .manager

def countAtFifty : StocktakeOpenRequest where
  reference := none
  cutoffAt := some 50
  notes := none
  referenceShort := by simp

def threeKilos : CountSubmitRequest where
  lines := [⟨2, "3", "KG", none, by decide⟩]
  linesNonempty := by simp

def dropped (occurredAt : Option Instant) : RoutesWastage.WastageCreateRequest where
  ingredientId := 2
  quantity := "1"
  unit := "KG"
  reason := .dropped
  note := none
  relatedOrderId := none
  photoAssetId := none
  occurredAt := occurredAt
  unitShort := by decide
  noteShort := by simp
  noteForOther := by simp

def countThenWaste (occurredAt : Option Instant) : List StockRequest :=
  [.openStocktake manager 4 countAtFifty, .submitCounts manager 4 threeKilos,
    .completeStocktake manager 4, .recordWastage manager 6 (dropped occurredAt)]

def approveAfter (occurredAt : Option Instant) : List StockRequest :=
  countThenWaste occurredAt ++ [.approveStocktake manager 4 true]

def approval (occurredAt : Option Instant) : Except Failure StockReply × Database :=
  (handleStock (.approveStocktake manager 4 true)).run
    (Run.last stockroom (playedStock stockroom (countThenWaste occurredAt)))

theorem approval_ok : ∃ reply, (approval (some 20)).1 = .ok reply := by
  have hok : Except.isOk (approval (some 20)).1 = true := by decide +kernel
  revert hok
  cases (approval (some 20)).1 with
  | error e => simp [Except.isOk, Except.toBool]
  | ok reply => exact fun _ => ⟨reply, rfl⟩

theorem wasted_now_balances :
    StaysBalanced 4 stockroom (playedStock stockroom (approveAfter none)) :=
  approved_count_is_stock along_playedStock rfl rfl (by decide +kernel)

theorem wasted_earlier_unbalances :
    ¬ ∀ (sessionId : Uuid) (db : Database) (steps : List (StockEvent × Database)),
      Run.Along NextStock db steps → db.stocktakeSessions.lookup sessionId = none →
        sessionLines sessionId db.toTables = [] → StaysBalanced sessionId db steps := by
  intro h
  obtain ⟨reply, hreply⟩ := approval_ok
  have happroved : ApprovedIn 4 (playedStock stockroom (approveAfter (some 20))) := by
    refine ⟨playedStock stockroom (countThenWaste (some 20)), manager, reply,
      (approval (some 20)).2, ?_⟩
    rw [← hreply]
    exact (List.prefix_rfl : playedStock stockroom (countThenWaste (some 20)) ++ _ <+: _).trans
      (playedStock_snoc ▸ List.prefix_rfl)
  obtain ⟨s, hs, hbalanced⟩ := h 4 stockroom (playedStock stockroom (approveAfter (some 20)))
    along_playedStock rfl rfl _ List.prefix_rfl happroved
  have hevery : ∀ s ∈ (Run.last stockroom
      (playedStock stockroom (approveAfter (some 20)))).stocktakeSessions.lookup 4,
      ∀ l ∈ sessionLines s.id (Run.last stockroom
        (playedStock stockroom (approveAfter (some 20)))).toTables,
        l.countedQuantityMilli = some (GroupBy.quantity (stockOnHand (Run.last stockroom
          (playedStock stockroom (approveAfter (some 20)))).stockMovements s.businessId
            (some s.cutoffAt) []) l.ingredientId) := by
    intro s' hs' l hl
    rw [hs] at hs'
    obtain rfl := Option.some.inj hs'
    obtain ⟨counted, hcounted, hquantity⟩ := hbalanced.stock l hl
    rw [hcounted, hquantity]
  revert hevery
  decide +kernel

end NextgenBackend.CutoffBalance
