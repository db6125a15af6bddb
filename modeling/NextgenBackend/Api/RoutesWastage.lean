import NextgenBackend.Api.RoutesInventory

namespace NextgenBackend.RoutesWastage

open Txn Inventory

open RoutesStocktake (requireInventoryEnabled)

open RoutesInventory (convert loadIngredient)

def movementTypeForReason : WastageReason → StockMovementType
  | .staffMeal => .staffMeal
  | .complimentary => .complimentary
  | _ => .wastage

structure WastageCreateRequest where
  ingredientId : Uuid
  quantity : String
  unit : String
  reason : WastageReason
  note : Option String
  relatedOrderId : Option Uuid
  photoAssetId : Option Uuid
  occurredAt : Option Instant
  unitShort : unit.length ≤ 32
  noteShort : ∀ text ∈ note, text.length ≤ 1000
  noteForOther : reason = .other → Text.strip (note.getD "").toList ≠ []

structure WastageRejectRequest where
  reason : String
  reasonGiven : 3 ≤ reason.length ∧ reason.length ≤ 500

inductive WastageStatus where
  | rejected | approved | pendingApproval | notRequired
deriving DecidableEq, Repr

structure WastageResponse where
  entry : WastageEntry
  ingredientName : String
  requiresApproval : Bool
  status : WastageStatus
deriving DecidableEq, Repr

def needsApproval (threshold valueCents : Cents) : Bool :=
  threshold ≠ 0 && threshold ≤ valueCents

def wastageStatus (entry : WastageEntry) (requiresApproval : Bool) : WastageStatus :=
  if entry.rejectedByUserId.isSome then .rejected
  else if entry.approvedByUserId.isSome then .approved
  else if requiresApproval then .pendingApproval
  else .notRequired

def wastageResponse (entry : WastageEntry) (ingredient : Ingredient) (threshold : Cents) :
    WastageResponse where
  entry := entry
  ingredientName := ingredient.name
  requiresApproval := needsApproval threshold entry.valueCents
  status := wastageStatus entry (needsApproval threshold entry.valueCents)

def requireAsset (businessId : Uuid) : Option Uuid → Handler Unit
  | none => pure ()
  | some assetId => do
      let row ← .read fun db =>
        (db.assets.lookup assetId).filter fun a => a.businessId = businessId
      let _ ← found (notFoundError "Asset" (some assetId)) row
      pure ()

def requireOrder (businessId : Uuid) : Option Uuid → Handler Unit
  | none => pure ()
  | some orderId => do
      let row ← .read fun db =>
        (db.orders.lookup orderId).filter fun o => o.businessId = businessId
      let _ ← found (notFoundError "Order" (some orderId)) row
      pure ()

def newEntry (user : AuthUser) (entryId : Uuid) (body : WastageCreateRequest)
    (ingredient : Ingredient) (threshold : Cents) (quantityMilli : Int) (occurred : Instant) :
    WastageEntry :=
  let lossValue := valueCents quantityMilli ingredient.costPerCanonicalMicroCents
  { id := entryId
    businessId := user.businessId
    ingredientId := ingredient.id
    quantityMilli := quantityMilli
    enteredQuantity := body.quantity
    enteredUnit := body.unit
    reason := body.reason
    note := body.note
    valueCents := lossValue
    createdByUserId := some user.userId
    approvedByUserId :=
      if needsApproval threshold lossValue ∧ (user.role = .owner ∨ user.role = .manager) then
        some user.userId
      else none
    photoAssetId := body.photoAssetId
    relatedOrderId := body.relatedOrderId
    occurredAt := occurred }

def wastageNotes (body : WastageCreateRequest) : String :=
  match body.note.filter (· ≠ "") with
  | some note => body.reason.value ++ ": " ++ note
  | none => body.reason.value

def wastageMovement (user : AuthUser) (body : WastageCreateRequest) (ingredient : Ingredient)
    (entry : WastageEntry) : StockMovement :=
  buildMovement user.businessId ingredient.id (-entry.quantityMilli)
    (movementTypeForReason body.reason) ingredient.costPerCanonicalMicroCents
    (some .wastageEntry) (some entry.id) (some user.userId)
    (some (.wastage entry.id ingredient.id)) (some (wastageNotes body)) entry.occurredAt

def insertEntry (entry : WastageEntry) : Pending := fun t =>
  { t with wastageEntries := t.wastageEntries.insert entry }

def recordWastage (user : AuthUser) (entryId : Uuid) (body : WastageCreateRequest) :
    Handler WastageResponse := do
  requireStaffOrAbove user
  let business ← requireInventoryEnabled user.businessId
  let ingredient ← loadIngredient user.businessId body.ingredientId
  let quantityMilli ← convert (.typed body.quantity) body.unit ingredient.canonicalUnit
  ensure (0 < quantityMilli)
    ⟨"INVALID_QUANTITY", "Wasted quantity must be greater than zero", 422, []⟩
  requireAsset user.businessId body.photoAssetId
  requireOrder user.businessId body.relatedOrderId
  let now ← readNow
  let threshold := business.wastageApprovalThresholdCents
  let entry := newEntry user entryId body ingredient threshold quantityMilli
    (body.occurredAt.getD now)
  let session := Session.stage {} [] (insertEntry entry)
  commit (.recordWastage entryId) (session.stage []
    (appendMovements [wastageMovement user body ingredient entry]))
  pure (wastageResponse entry ingredient threshold)

def loadEntry (businessId entryId : Uuid) : Handler (WastageEntry × Ingredient) := do
  let row ← .read fun db => do
    let entry ← (db.wastageEntries.lookup entryId).filter fun e => e.businessId = businessId
    let ingredient ← db.ingredients.lookup entry.ingredientId
    some (entry, ingredient)
  found (notFoundError "Wastage entry" (some entryId)) row

def setEntryRow (entryId : Uuid) (set : WastageEntry → WastageEntry) : Pending := fun t =>
  { t with wastageEntries := t.wastageEntries.modify entryId set }

def approveEntry (userId : Uuid) (entry : WastageEntry) : WastageEntry :=
  { entry with approvedByUserId := some userId }

def approveWastage (user : AuthUser) (entryId : Uuid) : Handler WastageResponse := do
  requireOwnerOrManager user
  let business ← requireInventoryEnabled user.businessId
  let threshold := business.wastageApprovalThresholdCents
  let (entry, ingredient) ← loadEntry user.businessId entryId
  ensure (entry.rejectedByUserId = none) ⟨"WASTAGE_ALREADY_REJECTED",
    "This entry was rejected and cannot be approved. Log a fresh entry if the loss should be recorded after all.",
    409, []⟩
  if entry.approvedByUserId = none then do
    commit (.approveWastage entryId) (Session.stage {} []
      (setEntryRow entryId (approveEntry user.userId)))
    pure (wastageResponse (approveEntry user.userId entry) ingredient threshold)
  else pure (wastageResponse entry ingredient threshold)

def rejectEntry (userId : Uuid) (reason : String) (now : Instant) (entry : WastageEntry) :
    WastageEntry :=
  { entry with
    rejectedByUserId := some userId
    rejectedAt := some now
    rejectionReason := some reason }

def rejectionMovement (user : AuthUser) (body : WastageRejectRequest) (entry : WastageEntry)
    (original : StockMovement) (now : Instant) : StockMovement :=
  buildMovement user.businessId entry.ingredientId (-original.quantityMilli) .wastageReversal
    original.unitCostMicroCents (some .wastageEntry) (some entry.id) (some user.userId)
    (some (.wastageReversal entry.id entry.ingredientId)) (some ("Rejected: " ++ body.reason)) now

def postRejection (user : AuthUser) (body : WastageRejectRequest) (entry : WastageEntry)
    (ingredient : Ingredient) (threshold : Cents) : Handler WastageResponse := do
  let row ← .read fun db => db.stockMovements.find? fun m =>
    m.businessId = user.businessId ∧ m.sourceType = some .wastageEntry ∧
      m.sourceId = some entry.id
  let original ← found ⟨"WASTAGE_MOVEMENT_MISSING",
    "No stock movement was found for this entry, so it cannot be safely rejected. Contact support.",
    409, []⟩ row
  let now ← readNow
  let session := Session.stage {} [] (setEntryRow entry.id (rejectEntry user.userId body.reason now))
  let session := session.stage []
    (appendMovements [rejectionMovement user body entry original now])
  let fault ← .tryCommit (.rejectWastage entry.id) session.touched
    (Database.write session.pending)
  match fault with
  | none => pure (wastageResponse (rejectEntry user.userId body.reason now entry) ingredient threshold)
  | some (.integrity .uqStockMovementsBusinessIdIdempotencyKey) => do
      let (entry, ingredient) ← loadEntry user.businessId entry.id
      pure (wastageResponse entry ingredient threshold)
  | some fault => .fail fault

def rejectWastage (user : AuthUser) (entryId : Uuid) (body : WastageRejectRequest) :
    Handler WastageResponse := do
  requireOwnerOrManager user
  let business ← requireInventoryEnabled user.businessId
  let threshold := business.wastageApprovalThresholdCents
  let (entry, ingredient) ← loadEntry user.businessId entryId
  ensure (entry.approvedByUserId = none) ⟨"WASTAGE_ALREADY_APPROVED",
    "This entry was already approved and cannot be rejected. Use a manual stock adjustment to correct it instead.",
    409, []⟩
  if entry.rejectedByUserId = none then
    postRejection user body entry ingredient threshold
  else pure (wastageResponse entry ingredient threshold)

section Frames

variable {sites : CommitSite → Prop} {N : Pending → Prop} {user : AuthUser} {entryId : Uuid}

@[simp]
theorem readOnly_requireAsset {businessId : Uuid} {assetId : Option Uuid} :
    (requireAsset businessId assetId).ReadOnly fun _ => True := by
  cases assetId with
  | none => trivial
  | some id =>
      exact readOnly_seq readOnly_read fun _ => readOnly_seq readOnly_found fun _ => trivial

@[simp]
theorem readOnly_requireOrder {businessId : Uuid} {orderId : Option Uuid} :
    (requireOrder businessId orderId).ReadOnly fun _ => True := by
  cases orderId with
  | none => trivial
  | some id =>
      exact readOnly_seq readOnly_read fun _ => readOnly_seq readOnly_found fun _ => trivial

@[simp]
theorem readOnly_loadEntry {businessId : Uuid} :
    (loadEntry businessId entryId).ReadOnly fun _ => True :=
  readOnly_seq readOnly_read fun _ => readOnly_found

theorem loadEntry_id {businessId : Uuid} :
    (loadEntry businessId entryId).ReadOnly fun row => row.1.id = entryId := by
  refine fun db => conforms_orFail fun row hrow => ?_
  obtain ⟨entry, hentry, hrow⟩ := Option.bind_eq_some_iff.mp hrow
  obtain ⟨ingredient, -, hrow⟩ := Option.bind_eq_some_iff.mp hrow
  obtain rfl := Option.some.inj hrow
  exact Table.lookup_key (Option.filter_eq_some_iff.mp hentry).1

theorem recordWastage_writes {body : WastageCreateRequest} (hN : Neutral N)
    (hsite : sites (.recordWastage entryId)) (hentry : ∀ entry, N (insertEntry entry))
    (hmovements : ∀ movements, N (appendMovements movements)) :
    Writes sites N (recordWastage user entryId body) := by
  refine writes_seq readOnly_requireStaffOrAbove fun _ => ?_
  refine writes_seq RoutesInventory.readOnly_requireInventoryEnabled fun business => ?_
  refine writes_seq RoutesInventory.readOnly_loadIngredient fun ingredient => ?_
  refine writes_seq RoutesInventory.readOnly_convert fun quantityMilli => ?_
  refine writes_seq readOnly_ensure fun _ => ?_
  refine writes_seq readOnly_requireAsset fun _ => ?_
  refine writes_seq readOnly_requireOrder fun _ => ?_
  refine writes_seq readOnly_readNow fun now => ?_
  exact writes_bind (writes_commit hsite (hN.trans (Session.extends_stage (hentry _))
    (Session.extends_stage (hmovements _)))) fun _ => writes_done _

theorem approveWastage_writes (hsite : sites (.approveWastage entryId))
    (happrove : N (setEntryRow entryId (approveEntry user.userId))) :
    Writes sites N (approveWastage user entryId) := by
  refine writes_seq readOnly_requireOwnerOrManager fun _ => ?_
  refine writes_seq RoutesInventory.readOnly_requireInventoryEnabled fun business => ?_
  refine writes_seq readOnly_loadEntry fun row => ?_
  refine writes_seq readOnly_ensure fun _ => ?_
  split
  · exact writes_bind (writes_commit hsite (Session.extends_stage happrove)) fun _ =>
      writes_done _
  · exact writes_done _

theorem rejectWastage_writes {body : WastageRejectRequest} (hN : Neutral N)
    (hsite : sites (.rejectWastage entryId))
    (hreject : ∀ now, N (setEntryRow entryId (rejectEntry user.userId body.reason now)))
    (hmovements : ∀ movements, N (appendMovements movements)) :
    Writes sites N (rejectWastage user entryId body) := by
  refine writes_seq readOnly_requireOwnerOrManager fun _ => ?_
  refine writes_seq RoutesInventory.readOnly_requireInventoryEnabled fun business => ?_
  refine writes_staged loadEntry_id fun row hid => ?_
  obtain ⟨entry, ingredient⟩ := row
  obtain rfl := hid
  refine writes_seq readOnly_ensure fun _ => ?_
  split
  · refine writes_seq readOnly_read fun found => ?_
    refine writes_seq readOnly_found fun original => ?_
    refine writes_seq readOnly_readNow fun now => ?_
    have hpending : Session.Extends N {} ((Session.stage {} [] (setEntryRow entry.id
        (rejectEntry user.userId body.reason now))).stage []
          (appendMovements [rejectionMovement user body entry original now])) :=
      hN.trans (Session.extends_stage (hreject now)) (Session.extends_stage (hmovements _))
    refine writes_bind (writes_tryCommit hsite hpending.pending) fun fault => ?_
    split
    · exact writes_done _
    · exact writes_seq readOnly_loadEntry fun _ => writes_done _
    · exact writes_fail _
  · exact writes_done _

end Frames

end NextgenBackend.RoutesWastage
