import NextgenBackend.Api.RoutesWastage
import NextgenBackend.Api.System
import NextgenBackend.ExternalOrders.Service

namespace NextgenBackend.Inventory

open Txn

inductive StockRequest where
  | api (request : Request)
  | openStocktake (user : AuthUser) (sessionId : Uuid) (body : RoutesStocktake.StocktakeOpenRequest)
  | submitCounts (user : AuthUser) (sessionId : Uuid) (body : RoutesStocktake.CountSubmitRequest)
  | completeStocktake (user : AuthUser) (sessionId : Uuid)
  | approveStocktake (user : AuthUser) (sessionId : Uuid) (postAdjustments : Bool)
  | cancelStocktake (user : AuthUser) (sessionId : Uuid)
  | recordWastage (user : AuthUser) (entryId : Uuid) (body : RoutesWastage.WastageCreateRequest)
  | approveWastage (user : AuthUser) (entryId : Uuid)
  | rejectWastage (user : AuthUser) (entryId : Uuid) (body : RoutesWastage.WastageRejectRequest)
  | createGoodsReceipt (user : AuthUser) (receiptId : Uuid)
      (body : RoutesInventory.GoodsReceiptCreateRequest)
  | setOpeningStock (user : AuthUser) (body : RoutesInventory.OpeningStockRequest)
  | createAdjustment (user : AuthUser) (body : RoutesInventory.AdjustmentRequest)
  | commitExternalOrders (user : AuthUser) (body : ExternalOrders.ImportRequest)

inductive StockReply where
  | api (reply : Reply)
  | stocktake (response : RoutesStocktake.StocktakeResponse)
  | wastage (response : RoutesWastage.WastageResponse)
  | receipt (response : RoutesInventory.GoodsReceiptResponse)
  | movement (movement : StockMovement)
  | imported (outcome : ExternalOrders.ImportOutcome)

def answer {α : Type} (wrap : α → StockReply) (handler : Handler α) : Handler StockReply :=
  handler.bind fun a => .done (wrap a)

def handleStock : StockRequest → Handler StockReply
  | .api request => answer .api (handle request)
  | .openStocktake user sessionId body =>
      answer .stocktake (RoutesStocktake.openStocktake user sessionId body)
  | .submitCounts user sessionId body =>
      answer .stocktake (RoutesStocktake.submitCounts user sessionId body)
  | .completeStocktake user sessionId =>
      answer .stocktake (RoutesStocktake.completeStocktake user sessionId)
  | .approveStocktake user sessionId postAdjustments =>
      answer .stocktake (RoutesStocktake.approveStocktake user sessionId postAdjustments)
  | .cancelStocktake user sessionId =>
      answer .stocktake (RoutesStocktake.cancelStocktake user sessionId)
  | .recordWastage user entryId body =>
      answer .wastage (RoutesWastage.recordWastage user entryId body)
  | .approveWastage user entryId => answer .wastage (RoutesWastage.approveWastage user entryId)
  | .rejectWastage user entryId body =>
      answer .wastage (RoutesWastage.rejectWastage user entryId body)
  | .createGoodsReceipt user receiptId body =>
      answer .receipt (RoutesInventory.createGoodsReceipt user receiptId body)
  | .setOpeningStock user body => answer .movement (RoutesInventory.setOpeningStock user body)
  | .createAdjustment user body => answer .movement (RoutesInventory.createAdjustment user body)
  | .commitExternalOrders user body =>
      answer .imported (ExternalOrders.commitExternalOrders user body)

-- An ingredient is edited elsewhere, but it stays with its business and is not removed under a count.
structure StockEnvironment (db db' : Database) : Prop where
  clock : db.now ≤ db'.now
  stockMovements : db'.stockMovements = db.stockMovements
  stocktakeSessions : db'.stocktakeSessions = db.stocktakeSessions
  stocktakeLines : db'.stocktakeLines = db.stocktakeLines
  ingredients : ∀ id ingredient, db.ingredients.lookup id = some ingredient →
    ∀ ingredient', db'.ingredients.lookup id = some ingredient' →
      ingredient'.businessId = ingredient.businessId

inductive StockEvent where
  | served (request : StockRequest) (reply : Except Failure StockReply)
  | environment

def NextStock (db : Database) (event : StockEvent) (db' : Database) : Prop :=
  match event with
  | .served request reply => (handleStock request).run db = (reply, db')
  | .environment => StockEnvironment db db'

def playedStock (db : Database) : List StockRequest → List (StockEvent × Database)
  | [] => []
  | request :: requests =>
      let (r, db') := (handleStock request).run db
      (.served request r, db') :: playedStock db' requests

theorem along_playedStock {db : Database} {requests : List StockRequest} :
    Run.Along NextStock db (playedStock db requests) := by
  induction requests generalizing db with
  | nil => trivial
  | cons request requests ih => exact ⟨rfl, ih⟩

theorem playedStock_snoc {db : Database} {requests : List StockRequest} {request : StockRequest} :
    playedStock db (requests ++ [request]) = playedStock db requests ++
      [(.served request ((handleStock request).run (Run.last db (playedStock db requests))).1,
        ((handleStock request).run (Run.last db (playedStock db requests))).2)] := by
  induction requests generalizing db with
  | nil => rfl
  | cons first requests ih =>
      simp only [List.cons_append, playedStock, ih, Run.last]

inductive StockRequest.Counting : StockRequest → Prop
  | openStocktake {user sessionId body} : Counting (.openStocktake user sessionId body)
  | submitCounts {user sessionId body} : Counting (.submitCounts user sessionId body)
  | completeStocktake {user sessionId} : Counting (.completeStocktake user sessionId)
  | approveStocktake {user sessionId postAdjustments} :
      Counting (.approveStocktake user sessionId postAdjustments)
  | cancelStocktake {user sessionId} : Counting (.cancelStocktake user sessionId)

structure SparesCounts (t t' : Tables) : Prop where
  sessions : t'.stocktakeSessions = t.stocktakeSessions
  lines : t'.stocktakeLines = t.stocktakeLines
  ingredients : t'.ingredients = t.ingredients
  movements : ∃ posted, t'.stockMovements = t.stockMovements ++ posted

theorem SparesCounts.refl (t : Tables) : SparesCounts t t :=
  ⟨rfl, rfl, rfl, [], (List.append_nil _).symm⟩

theorem SparesCounts.trans {t t' t'' : Tables} (h : SparesCounts t t') (h' : SparesCounts t' t'') :
    SparesCounts t t'' := by
  obtain ⟨posted, hposted⟩ := h.movements
  obtain ⟨posted', hposted'⟩ := h'.movements
  exact ⟨h'.sessions.trans h.sessions, h'.lines.trans h.lines, h'.ingredients.trans h.ingredients,
    posted ++ posted', by rw [hposted', hposted, List.append_assoc]⟩

def Posts (f : Pending) : Prop :=
  ∀ t, SparesCounts t (f t)

theorem posts_neutral : Neutral Posts where
  id := SparesCounts.refl
  comp _ _ hf hg t := (hf t).trans (hg _)

theorem posts_appendMovements (movements : List StockMovement) :
    Posts (appendMovements movements) :=
  fun _ => ⟨rfl, rfl, rfl, movements, rfl⟩

theorem posts_of_stages {request : Request} {f : Pending} (h : Stages request f) : Posts f := by
  intro t
  cases h with
  | restock => exact posts_appendMovements _ t
  | restockVoided => exact posts_appendMovements _ t
  | consumeStock => exact posts_appendMovements _ t
  | _ => exact ⟨rfl, rfl, rfl, [], (List.append_nil _).symm⟩

theorem answer_writes {α : Type} {sites : CommitSite → Prop} {N : Pending → Prop}
    {wrap : α → StockReply} {x : Handler α} (h : Writes sites N x) :
    Writes sites N (answer wrap x) :=
  writes_bind h fun _ => writes_done _

theorem handleStock_posts {request : StockRequest} (h : ¬ request.Counting) :
    Writes (fun _ => True) Posts (handleStock request) := by
  have hspares {f : Pending} (hf : ∀ t, (f t).stocktakeSessions = t.stocktakeSessions ∧
      (f t).stocktakeLines = t.stocktakeLines ∧ (f t).ingredients = t.ingredients ∧
        (f t).stockMovements = t.stockMovements) : Posts f := by
    intro t
    obtain ⟨hsessions, hlines, hingredients, hmovements⟩ := hf t
    exact ⟨hsessions, hlines, hingredients, [], by rw [hmovements, List.append_nil]⟩
  have hmovements := posts_appendMovements
  cases request with
  | api request =>
      exact answer_writes (handle_writes posts_neutral fun _ => posts_of_stages)
  | openStocktake => exact absurd .openStocktake h
  | submitCounts => exact absurd .submitCounts h
  | completeStocktake => exact absurd .completeStocktake h
  | approveStocktake => exact absurd .approveStocktake h
  | cancelStocktake => exact absurd .cancelStocktake h
  | recordWastage user entryId body =>
      exact answer_writes (RoutesWastage.recordWastage_writes posts_neutral trivial
        (fun _ => hspares fun _ => ⟨rfl, rfl, rfl, rfl⟩) hmovements)
  | approveWastage user entryId =>
      exact answer_writes (RoutesWastage.approveWastage_writes trivial
        (hspares fun _ => ⟨rfl, rfl, rfl, rfl⟩))
  | rejectWastage user entryId body =>
      exact answer_writes (RoutesWastage.rejectWastage_writes posts_neutral trivial
        (fun _ => hspares fun _ => ⟨rfl, rfl, rfl, rfl⟩) hmovements)
  | createGoodsReceipt user receiptId body =>
      exact answer_writes (RoutesInventory.createGoodsReceipt_writes posts_neutral trivial
        (fun _ _ => hspares fun _ => ⟨rfl, rfl, rfl, rfl⟩) hmovements)
  | setOpeningStock user body =>
      exact answer_writes (RoutesInventory.setOpeningStock_writes (fun _ => trivial) hmovements)
  | createAdjustment user body =>
      exact answer_writes (RoutesInventory.createAdjustment_writes (fun _ => trivial) hmovements)
  | commitExternalOrders user body =>
      exact answer_writes (ExternalOrders.commitExternalOrders_writes posts_neutral
        (fun _ => trivial) (fun _ _ _ => hspares fun _ => ⟨rfl, rfl, rfl, rfl⟩)
        (fun _ _ => hspares fun _ => ⟨rfl, rfl, rfl, rfl⟩) hmovements)

theorem spares_of_writes {α : Type} {sites : CommitSite → Prop} {x : Handler α}
    (h : Writes sites Posts x) (db : Database) : SparesCounts db.toTables (x.run db).2.toTables :=
  writes_run SparesCounts.refl (fun _ _ _ => SparesCounts.trans) h db

end NextgenBackend.Inventory
