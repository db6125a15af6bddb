import NextgenBackend.Api.Effects
import NextgenBackend.Inventory.System

namespace NextgenBackend.Inventory

open Fallible (bind_eq_ok)

open Txn RoutesStocktake

-- A handler fails and leaves the tables alone, or answers after it has written the given tables.
def Writes? {α : Type} (db : Database) (written : Tables → Prop) (r : Except Failure α)
    (db' : Database) : Prop :=
  db'.now = db.now ∧
    ((∃ e, r = .error e) ∧ db'.toTables = db.toTables ∨ (∃ a, r = .ok a) ∧ written db'.toTables)

section Effects

variable {α : Type} {db : Database} {user : AuthUser} {businessId sessionId : Uuid}
  {session : StocktakeSession} {written : Tables → Prop}

theorem writes?_error (e : Failure) :
    Writes? db written (.error e : Except Failure α) db :=
  ⟨rfl, .inl ⟨⟨e, rfl⟩, rfl⟩⟩

theorem ownSession_some (h : ownSession businessId sessionId db = some session) :
    db.stocktakeSessions.lookup sessionId = some session ∧ session.businessId = businessId := by
  obtain ⟨hlookup, hbusiness⟩ := Option.filter_eq_some_iff.mp h
  exact ⟨hlookup, of_decide_eq_true hbusiness⟩

theorem loadSession_yields :
    (loadSession businessId sessionId).Yields db fun row =>
      ownSession businessId sessionId db = some row.1 ∧
        row.2 = sessionLines sessionId db.toTables := by
  refine yields_seq (S := fun row => row = ownSession businessId sessionId db) (yields_read rfl) ?_
  rintro row rfl
  refine yields_seq (S := fun s => ownSession businessId sessionId db = some s)
    (yields_orFail fun s hs => hs) fun s hs => ?_
  refine yields_seq (S := fun lines => lines = sessionLines sessionId db.toTables)
    (yields_read rfl) ?_
  rintro lines rfl
  exact yields_done ⟨hs, rfl⟩

theorem loadSessionForUpdate_yields :
    (loadSessionForUpdate businessId sessionId).Yields db fun row =>
      ownSession businessId sessionId db = some row.1 ∧
        row.2 = sessionLines sessionId db.toTables := by
  refine yields_seq (S := fun row => row = ownSession businessId sessionId db) (yields_lock rfl) ?_
  rintro row rfl
  refine yields_seq (S := fun s => ownSession businessId sessionId db = some s)
    (yields_orFail fun s hs => hs) fun s hs => ?_
  refine yields_seq (S := fun lines => lines = sessionLines sessionId db.toTables)
    (yields_read rfl) ?_
  rintro lines rfl
  exact yields_done ⟨hs, rfl⟩

theorem rejectIfLocked_yields :
    (rejectIfLocked session).Yields db fun _ =>
      session.status ≠ .approved ∧ session.status ≠ .cancelled := by
  refine yields_seq ensure_ok.yields fun _ happroved => ?_
  exact ensure_ok.yields.mono fun _ hcancelled => ⟨happroved, hcancelled⟩

theorem loadSession_run (h : ownSession businessId sessionId db = some session) :
    (loadSession businessId sessionId).run db =
      (.ok (session, sessionLines sessionId db.toTables), db) := by
  unfold loadSession
  simp only [bind_eq, run_bind, Txn.read, run, h, found, orFail, pure_eq]

theorem openingStock_ok (db : Database) (businessId : Uuid) (session : StocktakeSession)
    (ingredientIds : List Uuid) :
    ∃ opening, (openingStock businessId session ingredientIds).run db = (.ok opening, db) := by
  unfold openingStock
  cases session.periodStartAt with
  | none => exact ⟨_, rfl⟩
  | some start => exact ⟨_, rfl⟩

theorem buildResponse_ok (h : ownSession businessId sessionId db = some session) :
    ∃ response, (buildResponse businessId sessionId).run db = (.ok response, db) := by
  unfold buildResponse
  simp only [bind_eq, run_bind, loadSession_run h, loadIngredients, Txn.read, run]
  split
  · exact ⟨_, rfl⟩
  · unfold computeVariances
    obtain ⟨opening, hopening⟩ := openingStock_ok db businessId session
      ((db.ingredients.filter fun i => i.businessId = businessId ∧
        i.id ∈ (sessionLines sessionId db.toTables).map (·.ingredientId)).map (·.id))
    simp only [bind_eq, run_bind, hopening, Txn.read, run, pure_eq]
    exact ⟨_, rfl⟩

theorem commit_answers {site : CommitSite} {pending : Session}
    (hwritten : written (pending.pending db.toTables))
    (hown : ∀ db', db'.toTables = pending.pending db.toTables →
      ∃ s, ownSession businessId sessionId db' = some s) :
    ((commit site pending).bind fun _ => buildResponse businessId sessionId).Ensures db
      (Writes? db written) := by
  refine ensures_bind.mpr (commit_ensures (fun db' htables hnow => ?_) writes?_error)
  obtain ⟨s, hs⟩ := hown db' htables
  obtain ⟨response, hresponse⟩ := buildResponse_ok hs
  unfold Ensures
  rw [hresponse]
  exact ⟨hnow, .inr ⟨⟨response, rfl⟩, htables ▸ hwritten⟩⟩

theorem ownSession_modify {set : StocktakeSession → StocktakeSession} {db' : Database}
    (h : ownSession businessId sessionId db = some session)
    (hsessions : db'.stocktakeSessions = db.stocktakeSessions.modify sessionId set)
    (hid : ∀ s, key (set s) = key s) (hbusiness : ∀ s, (set s).businessId = s.businessId) :
    ∃ s, ownSession businessId sessionId db' = some s := by
  obtain ⟨hlookup, hown⟩ := ownSession_some h
  refine ⟨set session, ?_⟩
  unfold ownSession
  rw [hsessions, Table.lookup_modify_self hid, hlookup]
  simp [hbusiness, hown]

theorem requireInventoryEnabled_yields :
    (requireInventoryEnabled businessId).Yields db fun _ => True :=
  RoutesInventory.readOnly_requireInventoryEnabled.yields

def countable (businessId : Uuid) (t : Tables) : List Ingredient :=
  t.ingredients.filter fun i => i.businessId = businessId ∧ i.isActive ∧ ¬ i.isDeleted

structure Opened (user : AuthUser) (sessionId : Uuid) (body : StocktakeOpenRequest) (now : Instant)
    (t t' : Tables) : Prop where
  noDraft : withStatus user.businessId .draft t = []
  noCompleted : withStatus user.businessId .completed t = []
  tables : t' = insertSession
    (newSession user sessionId body (previousSession user.businessId t) now)
    ((countable user.businessId t).map (newLine user.businessId sessionId)) t

theorem openStocktake_ensures {body : StocktakeOpenRequest} :
    (openStocktake user sessionId body).Ensures db
      (Writes? db (Opened user sessionId body db.now db.toTables)) := by
  refine ensures_seq readOnly_requireStaffOrAbove.yields (fun _ _ => ?_) writes?_error
  refine ensures_seq requireInventoryEnabled_yields (fun _ _ => ?_) writes?_error
  refine ensures_seq scalar_rows (fun draft hdraft => ?_) writes?_error
  refine ensures_seq ensure_ok.yields (fun _ hnodraft => ?_) writes?_error
  refine ensures_seq scalar_rows (fun completed hcompleted => ?_) writes?_error
  refine ensures_seq ensure_ok.yields (fun _ hnocompleted => ?_) writes?_error
  refine ensures_seq (R := fun previous => previous = previousSession user.businessId db.toTables)
    (yields_read rfl) ?_ writes?_error
  rintro previous rfl
  refine ensures_seq (R := fun now => now = db.now) (yields_read rfl) ?_ writes?_error
  rintro now rfl
  refine ensures_seq (R := fun rows => rows = countable user.businessId db.toTables)
    (yields_read rfl) ?_ writes?_error
  rintro rows rfl
  refine ensures_seq readOnly_ensure.yields (fun _ _ => ?_) writes?_error
  rw [Option.isNone_iff_eq_none.mp hnodraft] at hdraft
  rw [Option.isNone_iff_eq_none.mp hnocompleted] at hcompleted
  refine commit_answers ⟨hdraft, hcompleted, rfl⟩ fun db' htables => ?_
  have hpk := db'.valid .stocktakeSessionsPkey
  have hsessions : db'.stocktakeSessions = db.stocktakeSessions.insert (newSession user sessionId
      body (previousSession user.businessId db.toTables) db.now) :=
    congrArg Tables.stocktakeSessions htables
  simp only [Constraint.Holds, hsessions] at hpk
  refine ⟨newSession user sessionId body (previousSession user.businessId db.toTables) db.now, ?_⟩
  unfold ownSession
  rw [hsessions]
  have hfresh := (Table.primaryKey_insert.mp hpk).2
  have hlookup := Table.lookup_insert_self hfresh
  simp only [newSession] at hlookup ⊢
  rw [show (sessionId : Uuid) = key (newSession user sessionId body
    (previousSession user.businessId db.toTables) db.now) from rfl]
  exact Option.filter_eq_some_iff.mpr ⟨hlookup, by simp⟩

structure SameLine (l l' : StocktakeLine) : Prop where
  session : l'.stocktakeSessionId = l.stocktakeSessionId
  ingredient : l'.ingredientId = l.ingredientId
  business : l'.businessId = l.businessId

def KeepsLines (sessionId : Uuid) (set : StocktakeLine → StocktakeLine) : Prop :=
  ∀ l, SameLine l (set l) ∧ (l.stocktakeSessionId ≠ sessionId → set l = l)

def SetsLines (sessionId : Uuid) (f : Pending) : Prop :=
  ∃ set, KeepsLines sessionId set ∧
    f = fun t => { t with stocktakeLines := t.stocktakeLines.map set }

theorem setsLines_neutral : Neutral (SetsLines sessionId) where
  id := by
    refine ⟨id, fun l => ⟨⟨rfl, rfl, rfl⟩, fun _ => rfl⟩, ?_⟩
    funext t
    simp
  comp := by
    rintro f g ⟨set, hset, rfl⟩ ⟨set', hset', rfl⟩
    refine ⟨set' ∘ set, fun l => ?_, ?_⟩
    · obtain ⟨hsame, hother⟩ := hset l
      obtain ⟨hsame', hother'⟩ := hset' (set l)
      constructor
      · exact ⟨hsame'.session.trans hsame.session, hsame'.ingredient.trans hsame.ingredient,
          hsame'.business.trans hsame.business⟩
      · intro hne
        have heq : set l = l := hother hne
        have hne' : (set l).stocktakeSessionId ≠ sessionId := by rwa [heq]
        exact (hother' hne').trans heq
    · funext t
      simp

theorem setsLines_setLines {set : StocktakeLine → StocktakeLine} (h : ∀ l, SameLine l (set l)) :
    SetsLines sessionId (setLines sessionId set) := by
  refine ⟨fun l => if l.stocktakeSessionId = sessionId then set l else l, fun l => ?_, rfl⟩
  by_cases hl : l.stocktakeSessionId = sessionId
  · simp only [if_pos hl]
    exact ⟨h l, fun hne => absurd hl hne⟩
  · simp only [if_neg hl]
    exact ⟨⟨rfl, rfl, rfl⟩, fun _ => trivial⟩

theorem sameLine_recordCount {entry : CountLineRequest} {counted : Int} {line : StocktakeLine} :
    SameLine line (recordCount entry counted line) := by
  unfold recordCount
  split <;> exact ⟨rfl, rfl, rfl⟩

theorem countLines_extends {N : Pending → Prop} {lines : List StocktakeLine}
    {ingredients : List Ingredient} {entries : List CountLineRequest} {pending : Session}
    (hN : Neutral N) (hrecord : ∀ entry counted, N (setLines sessionId (recordCount entry counted))) :
    (countLines sessionId lines ingredients entries pending).ReadOnly (pending.Extends N) := by
  induction entries generalizing pending with
  | nil => exact hN.refl
  | cons entry entries ih =>
      refine conforms_bind (liftExcept_ok _) fun pending' hcount => ?_
      have hstaged : pending.Extends N pending' := by
        unfold countLine at hcount
        split at hcount
        · obtain ⟨counted, -, hcount⟩ := bind_eq_ok hcount
          obtain rfl := Except.ok.inj hcount
          exact Session.extends_stage (hrecord _ _)
        · cases hcount
      exact Conforms.mono ih (fun _ _ _ => id) fun _ => hN.trans hstaged

theorem countLines_stages {lines : List StocktakeLine} {ingredients : List Ingredient}
    {entries : List CountLineRequest} {pending : Session} :
    (countLines sessionId lines ingredients entries pending).ReadOnly
      (pending.Extends (SetsLines sessionId)) :=
  countLines_extends setsLines_neutral fun _ _ => setsLines_setLines fun _ => sameLine_recordCount

structure Recounted (user : AuthUser) (sessionId : Uuid) (db : Database) (t' : Tables) : Prop where
  draft : ∃ s, ownSession user.businessId sessionId db = some s ∧ s.status = .draft
  tables : ∃ set, KeepsLines sessionId set ∧
    t' = { db.toTables with stocktakeLines := db.stocktakeLines.map set }

theorem submitCounts_ensures {body : CountSubmitRequest} :
    (submitCounts user sessionId body).Ensures db (Writes? db (Recounted user sessionId db)) := by
  refine ensures_seq readOnly_requireStaffOrAbove.yields (fun _ _ => ?_) writes?_error
  refine ensures_seq requireInventoryEnabled_yields (fun _ _ => ?_) writes?_error
  refine ensures_seq loadSession_yields (fun row hrow => ?_) writes?_error
  obtain ⟨s, lines⟩ := row
  obtain ⟨hown, rfl⟩ := hrow
  refine ensures_seq rejectIfLocked_yields (fun _ hunlocked => ?_) writes?_error
  refine ensures_seq ensure_ok.yields (fun _ hnotcompleted => ?_) writes?_error
  refine ensures_seq (R := fun _ => True) (yields_read trivial) (fun rows _ => ?_) writes?_error
  refine ensures_seq countLines_stages.yields (fun pending hpending => ?_) writes?_error
  obtain ⟨set, hset, hpending⟩ := hpending.pending
  have hdraft : s.status = .draft := by
    cases hstatus : s.status with
    | draft => rfl
    | completed => exact absurd hstatus hnotcompleted
    | approved => exact absurd hstatus hunlocked.1
    | cancelled => exact absurd hstatus hunlocked.2
  refine commit_answers ⟨⟨s, hown, hdraft⟩, set, hset, by rw [hpending]⟩ fun db' htables => ?_
  have hsessions : db'.stocktakeSessions = db.stocktakeSessions := by
    rw [htables, hpending]
  refine ⟨s, ?_⟩
  unfold ownSession
  rw [hsessions]
  exact hown

structure Completed (user : AuthUser) (sessionId : Uuid) (db : Database) (t' : Tables) : Prop where
  tables : ∃ s variances, ownSession user.businessId sessionId db = some s ∧ s.status = .draft ∧
    (∀ l ∈ sessionLines sessionId db.toTables, l.countedQuantityMilli ≠ none) ∧
    (computeVariances user.businessId s (db.ingredients.filter fun i =>
      i.businessId = user.businessId ∧ i.id ∈ (sessionLines sessionId db.toTables).map
        (·.ingredientId))).run db = (.ok variances, db) ∧
    t' = setSession sessionId (markCompleted user.userId
        (countedVariances (sessionLines sessionId db.toTables) variances) db.now)
      (setLines sessionId (snapshotLine
        (countedVariances (sessionLines sessionId db.toTables) variances)) db.toTables)

theorem computeVariances_yields {ingredients : List Ingredient} :
    (computeVariances businessId session ingredients).Yields db fun variances =>
      (computeVariances businessId session ingredients).run db = (.ok variances, db) := by
  obtain ⟨opening, hopening⟩ := openingStock_ok db businessId session (ingredients.map (·.id))
  have hrun : ∃ variances, (computeVariances businessId session ingredients).run db =
      (.ok variances, db) := by
    unfold computeVariances
    simp only [bind_eq, run_bind, hopening, Txn.read, run, pure_eq]
    exact ⟨_, rfl⟩
  obtain ⟨variances, hrun⟩ := hrun
  unfold Yields Ensures
  rw [hrun]
  exact ⟨rfl, fun a ha => by rw [Except.ok.inj ha]⟩

theorem completeStocktake_ensures :
    (completeStocktake user sessionId).Ensures db (Writes? db (Completed user sessionId db)) := by
  refine ensures_seq readOnly_requireStaffOrAbove.yields (fun _ _ => ?_) writes?_error
  refine ensures_seq requireInventoryEnabled_yields (fun _ _ => ?_) writes?_error
  refine ensures_seq loadSession_yields (fun row hrow => ?_) writes?_error
  obtain ⟨s, lines⟩ := row
  obtain ⟨hown, rfl⟩ := hrow
  refine ensures_seq rejectIfLocked_yields (fun _ _ => ?_) writes?_error
  refine ensures_seq ensure_ok.yields (fun _ hdraft => ?_) writes?_error
  refine ensures_seq ensure_ok.yields (fun _ hcounted => ?_) writes?_error
  refine ensures_seq (R := fun rows => rows = db.ingredients.filter fun i =>
      i.businessId = user.businessId ∧
        i.id ∈ (sessionLines sessionId db.toTables).map (·.ingredientId))
    (yields_read rfl) ?_ writes?_error
  rintro rows rfl
  refine ensures_seq computeVariances_yields (fun variances hrun => ?_) writes?_error
  refine ensures_seq (R := fun now => now = db.now) (yields_read rfl) ?_ writes?_error
  rintro now rfl
  have hcounted : ∀ l ∈ sessionLines sessionId db.toTables, l.countedQuantityMilli ≠ none := by
    intro l hl hnone
    have hmem : l ∈ (sessionLines sessionId db.toTables).filter
        fun l => l.countedQuantityMilli = none := List.mem_filter.mpr ⟨hl, by simpa using hnone⟩
    rw [hcounted] at hmem
    cases hmem
  refine commit_answers ⟨s, variances, hown, hdraft, hcounted, hrun, rfl⟩ fun db' htables => ?_
  have hsessions : db'.stocktakeSessions = db.stocktakeSessions.modify sessionId
      (markCompleted user.userId
        (countedVariances (sessionLines sessionId db.toTables) variances) db.now) :=
    congrArg Tables.stocktakeSessions htables
  exact ownSession_modify hown hsessions (fun _ => rfl) fun _ => rfl

structure Approved (user : AuthUser) (sessionId : Uuid) (postAdjustments : Bool) (db : Database)
    (t' : Tables) : Prop where
  tables : ∃ s, ownSession user.businessId sessionId db = some s ∧ s.status = .completed ∧
    t' = setSession sessionId (markApproved user.userId db.now)
      (appendMovements (if postAdjustments then
        adjustments user s (sessionLines sessionId db.toTables) else []) db.toTables)

theorem approveStocktake_ensures {postAdjustments : Bool} :
    (approveStocktake user sessionId postAdjustments).Ensures db
      (Writes? db (Approved user sessionId postAdjustments db)) := by
  refine ensures_seq readOnly_requireOwnerOrManager.yields (fun _ _ => ?_) writes?_error
  refine ensures_seq requireInventoryEnabled_yields (fun _ _ => ?_) writes?_error
  refine ensures_seq loadSessionForUpdate_yields (fun row hrow => ?_) writes?_error
  obtain ⟨s, lines⟩ := row
  obtain ⟨hown, rfl⟩ := hrow
  refine ensures_seq readOnly_ensure.yields (fun _ _ => ?_) writes?_error
  refine ensures_seq ensure_ok.yields (fun _ hcompleted => ?_) writes?_error
  refine ensures_seq (R := fun now => now = db.now) (yields_read rfl) ?_ writes?_error
  rintro now rfl
  refine commit_answers ⟨s, hown, hcompleted, rfl⟩ fun db' htables => ?_
  have hsessions : db'.stocktakeSessions =
      db.stocktakeSessions.modify sessionId (markApproved user.userId db.now) :=
    congrArg Tables.stocktakeSessions htables
  exact ownSession_modify hown hsessions (fun _ => rfl) fun _ => rfl

structure Cancelled (user : AuthUser) (sessionId : Uuid) (db : Database) (t' : Tables) : Prop where
  tables : ∃ s, ownSession user.businessId sessionId db = some s ∧ s.status ≠ .approved ∧
    s.status ≠ .cancelled ∧ t' = setSession sessionId markCancelled db.toTables

theorem cancelStocktake_ensures :
    (cancelStocktake user sessionId).Ensures db (Writes? db (Cancelled user sessionId db)) := by
  refine ensures_seq readOnly_requireOwnerOrManager.yields (fun _ _ => ?_) writes?_error
  refine ensures_seq requireInventoryEnabled_yields (fun _ _ => ?_) writes?_error
  refine ensures_seq loadSession_yields (fun row hrow => ?_) writes?_error
  obtain ⟨s, lines⟩ := row
  obtain ⟨hown, rfl⟩ := hrow
  refine ensures_seq rejectIfLocked_yields (fun _ hunlocked => ?_) writes?_error
  refine commit_answers ⟨s, hown, hunlocked.1, hunlocked.2, rfl⟩ fun db' htables => ?_
  have hsessions : db'.stocktakeSessions = db.stocktakeSessions.modify sessionId markCancelled :=
    congrArg Tables.stocktakeSessions htables
  exact ownSession_modify hown hsessions (fun _ => rfl) fun _ => rfl

end Effects

structure SameCounts (t t' : Tables) : Prop where
  sessions : t'.stocktakeSessions = t.stocktakeSessions
  lines : t'.stocktakeLines = t.stocktakeLines
  movements : t'.stockMovements = t.stockMovements
  ingredients : ∀ id ingredient, t.ingredients.lookup id = some ingredient →
    ∀ ingredient', t'.ingredients.lookup id = some ingredient' →
      ingredient'.businessId = ingredient.businessId

inductive CountStep (db : Database) (event : StockEvent) (t' : Tables) : Prop
  | unchanged (same : SameCounts db.toTables t')
  | posted {request : StockRequest} {reply : Except Failure StockReply}
      (served : event = .served request reply ∧ ¬ request.Counting)
      (spares : SparesCounts db.toTables t')
  | opened {user : AuthUser} {sessionId : Uuid} {body : StocktakeOpenRequest} {reply : StockReply}
      (served : event = .served (.openStocktake user sessionId body) (.ok reply))
      (opened : Opened user sessionId body db.now db.toTables t')
  | recounted {user : AuthUser} {sessionId : Uuid} (recounted : Recounted user sessionId db t')
  | completed {user : AuthUser} {sessionId : Uuid} (completed : Completed user sessionId db t')
  | approved {user : AuthUser} {sessionId : Uuid} {postAdjustments : Bool} {reply : StockReply}
      (served : event = .served (.approveStocktake user sessionId postAdjustments) (.ok reply))
      (approved : Approved user sessionId postAdjustments db t')
  | cancelled {user : AuthUser} {sessionId : Uuid} (cancelled : Cancelled user sessionId db t')

section Steps

variable {db db' : Database} {event : StockEvent}

theorem answer_run {α : Type} {wrap : α → StockReply} {x : Handler α}
    {Q : Except Failure α → Database → Prop} {r : Except Failure StockReply} {db' : Database}
    (h : x.Ensures db Q) (hr : (answer wrap x).run db = (r, db')) :
    ∃ r', Q r' db' ∧ r = r'.map wrap := by
  unfold answer at hr
  rw [run_bind] at hr
  refine ⟨(x.run db).1, ?_⟩
  unfold Ensures at h
  rcases hx : x.run db with ⟨_ | a, db''⟩ <;> rw [hx] at hr h <;> cases hr <;> exact ⟨h, rfl⟩

theorem sameCounts_refl (t : Tables) : SameCounts t t := by
  refine ⟨rfl, rfl, rfl, fun id ingredient h ingredient' h' => ?_⟩
  rw [h] at h'
  rw [Option.some.inj h']

theorem countStep_of_writes {α : Type} {written : Tables → Prop} {r : Except Failure α}
    (h : Writes? db written r db')
    (hwritten : (∃ a, r = .ok a) → written db'.toTables → CountStep db event db'.toTables) :
    CountStep db event db'.toTables := by
  rcases h.2 with ⟨-, hsame⟩ | ⟨hok, hdone⟩
  · rw [hsame]
    exact .unchanged (sameCounts_refl _)
  · exact hwritten hok hdone

theorem next_countStep (h : NextStock db event db') : CountStep db event db'.toTables := by
  cases event with
  | environment =>
      exact .unchanged ⟨h.stocktakeSessions, h.stocktakeLines, h.stockMovements, h.ingredients⟩
  | served request reply =>
      by_cases hcounting : request.Counting
      · cases hcounting with
        | openStocktake =>
            obtain ⟨r, hwrites, rfl⟩ := answer_run openStocktake_ensures h
            refine countStep_of_writes hwrites fun hok hopened => ?_
            obtain ⟨response, rfl⟩ := hok
            exact .opened rfl hopened
        | submitCounts =>
            obtain ⟨r, hwrites, -⟩ := answer_run submitCounts_ensures h
            exact countStep_of_writes hwrites fun _ => .recounted
        | completeStocktake =>
            obtain ⟨r, hwrites, -⟩ := answer_run completeStocktake_ensures h
            exact countStep_of_writes hwrites fun _ => .completed
        | approveStocktake =>
            obtain ⟨r, hwrites, rfl⟩ := answer_run approveStocktake_ensures h
            refine countStep_of_writes hwrites fun hok happroved => ?_
            obtain ⟨response, rfl⟩ := hok
            exact .approved rfl happroved
        | cancelStocktake =>
            obtain ⟨r, hwrites, -⟩ := answer_run cancelStocktake_ensures h
            exact countStep_of_writes hwrites fun _ => .cancelled
      · have hspares := spares_of_writes (handleStock_posts hcounting) db
        rw [show (handleStock request).run db = (reply, db') from h] at hspares
        exact .posted ⟨rfl, hcounting⟩ hspares

end Steps

end NextgenBackend.Inventory
