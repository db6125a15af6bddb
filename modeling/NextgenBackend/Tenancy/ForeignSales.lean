import NextgenBackend.Tenancy.ForeignIds

namespace NextgenBackend.Tenancy

open Txn Pos RoutesPos

section ForeignSales

variable {α β γ δ : Type} {db : Database} {user : AuthUser} {businessId : Uuid}
  {σ : Resource → Uuid → Uuid}

def Alike (P : α → β → Prop) : Except AppError α → Except AppError β → Prop
  | .ok a, .ok b => P a b
  | .error e, .error e' => SameKind (.app e) (.app e')
  | _, _ => False

theorem alike_bind {P : α → β → Prop} {Q : γ → δ → Prop} {v : Except AppError α}
    {v' : Except AppError β} {f : α → Except AppError γ} {g : β → Except AppError δ}
    (h : Alike P v v') (hf : ∀ a b, P a b → Alike Q (f a) (g b)) :
    Alike Q (v >>= f) (v' >>= g) := by
  cases v with
  | error e =>
      cases v' with
      | error e' => exact h
      | ok b => exact h.elim
  | ok a =>
      cases v' with
      | error e' => exact h.elim
      | ok b => exact hf a b h

theorem alike_self {v : Except AppError α} : Alike (fun a b => a = b) v v := by
  cases v with
  | error e => exact ⟨rfl, rfl⟩
  | ok a => rfl

theorem twin_raiseError {P : α → β → Prop} {Q : γ → δ → Prop} {v : Except AppError α}
    {v' : Except AppError β} {f : α → Handler γ} {g : β → Handler δ} (h : Alike P v v')
    (hf : ∀ a b, P a b → Twin Q (f a) (g b) db) :
    Twin Q ((raiseError v).bind f) ((raiseError v').bind g) db := by
  cases v with
  | error e =>
      cases v' with
      | error e' => exact lockstep_fail h
      | ok b => exact h.elim
  | ok a =>
      cases v' with
      | error e' => exact h.elim
      | ok b => exact hf a b h

section Items

def OwnInput (db : Database) (businessId : Uuid) (item : POSItemInput) : Prop :=
  db.Owns ⟨businessId, .menuItem, item.menuItemId⟩ ∧
    ∀ s ∈ item.addOnSelections, db.Owns ⟨businessId, .addOn, s.addOnId⟩

variable (hσ : Masks db.toTables businessId σ)

include hσ

theorem find_menuItem {id : Uuid} :
    (liveMenuItems businessId db).find? (fun m => m.id = σ .menuItem id) =
      (liveMenuItems businessId db).find? fun m => m.id = id := by
  have hnone (x : Uuid) (hx : ¬ db.Owns ⟨businessId, .menuItem, x⟩) :
      (liveMenuItems businessId db).find? (fun m => m.id = x) = none := by
    refine List.find?_eq_none.mpr fun m hm heq => hx ?_
    obtain rfl := of_decide_eq_true heq
    exact liveMenuItems_owns hm
  rcases hσ .menuItem id with h | ⟨h, h'⟩
  · rw [h]
  · rw [hnone _ h, hnone _ h']

theorem rename_selections {selections : List POSAddOnSelection}
    (h : ∀ s ∈ selections, db.Owns ⟨businessId, .addOn, s.addOnId⟩) :
    (selections.map fun s => { s with addOnId := σ .addOn s.addOnId }) = selections := by
  rw [List.map_congr_left fun s hs => by rw [hσ.fixed (h s hs)]]
  exact List.map_id' selections

omit hσ in
theorem unknown_eq_nil {ids : List Uuid} {selections : List POSAddOnSelection} :
    ((selections.map (·.addOnId)).filter (· ∉ ids)).eraseDups = [] ↔
      ∀ s ∈ selections, s.addOnId ∈ ids := by
  constructor
  · intro h s hs
    by_contra hnot
    have hmem : s.addOnId ∈ ((selections.map (·.addOnId)).filter (· ∉ ids)).eraseDups :=
      List.mem_eraseDups.mpr
        (List.mem_filter.mpr ⟨List.mem_map_of_mem hs, decide_eq_true hnot⟩)
    rw [h] at hmem
    cases hmem
  · intro h
    rw [List.filter_eq_nil_iff.mpr (by simpa using h)]
    rfl

theorem checkAddOnsAllowed_alike {menuItem : MenuItem} {selections : List POSAddOnSelection}
    (hmenu : ∀ id ∈ menuItem.addOnIds, db.Owns ⟨businessId, .addOn, id⟩) :
    Alike (fun _ _ => ∀ s ∈ selections, db.Owns ⟨businessId, .addOn, s.addOnId⟩)
      (checkAddOnsAllowed menuItem selections)
      (checkAddOnsAllowed menuItem
        (selections.map fun s => { s with addOnId := σ .addOn s.addOnId })) := by
  unfold checkAddOnsAllowed
  simp only [unknown_eq_nil, List.forall_mem_map]
  by_cases hknown : ∀ s ∈ selections, s.addOnId ∈ menuItem.addOnIds
  · have howns : ∀ s ∈ selections, db.Owns ⟨businessId, .addOn, s.addOnId⟩ :=
      fun s hs => hmenu _ (hknown s hs)
    have hknown' : ∀ s ∈ selections, σ .addOn s.addOnId ∈ menuItem.addOnIds :=
      fun s hs => (hσ.fixed (howns s hs)).symm ▸ hknown s hs
    rw [if_pos hknown, if_pos hknown']
    exact howns
  · have hknown' : ¬ ∀ s ∈ selections, σ .addOn s.addOnId ∈ menuItem.addOnIds := by
      intro h
      refine hknown fun s hs => ?_
      have howns := hσ.owns.mp (hmenu _ (h s hs))
      exact hσ.fixed howns ▸ h s hs
    rw [if_neg hknown, if_neg hknown']
    exact ⟨rfl, rfl⟩

theorem resolveItem_alike {item : POSItemInput} (href : OwnReferences db.toTables) :
    Alike (fun r r' => r = r' ∧ OwnInput db businessId item)
      (resolveItem (liveMenuItems businessId db) (liveAddOns businessId db) item)
      (resolveItem (liveMenuItems businessId db) (liveAddOns businessId db)
        (renameItem σ item)) := by
  unfold resolveItem
  rw [show (renameItem σ item).menuItemId = σ .menuItem item.menuItemId from rfl,
    find_menuItem hσ]
  cases hfound : (liveMenuItems businessId db).find? fun m => m.id = item.menuItemId with
  | none => exact ⟨rfl, rfl⟩
  | some m =>
      have hmem := List.mem_of_find?_eq_some hfound
      have hown : db.Owns ⟨businessId, .menuItem, item.menuItemId⟩ := by
        have hid : m.id = item.menuItemId := by simpa using List.find?_some hfound
        exact hid ▸ liveMenuItems_owns hmem
      have hmenu : ∀ id ∈ m.addOnIds, db.Owns ⟨businessId, .addOn, id⟩ := by
        obtain ⟨hm, hkept⟩ := List.mem_filter.mp hmem
        have hrefs := (MenuItem.forall_references.mp (href.menuItems m hm)).2.2
        exact (of_decide_eq_true hkept).1 ▸ hrefs
      refine alike_bind (P := fun a b => a = m ∧ b = m) ⟨rfl, rfl⟩ fun _ menuItem h => ?_
      obtain ⟨rfl, rfl⟩ := h
      change Alike _ (if ¬ menuItem.isActive = true then _ else _) (if ¬ menuItem.isActive = true then _ else _)
      split
      · exact ⟨rfl, rfl⟩
      refine alike_bind alike_self fun options _ h => ?_
      subst h
      refine alike_bind (checkAddOnsAllowed_alike hσ hmenu) fun _ _ hselections => ?_
      simp only [renameItem, rename_selections hσ hselections]
      refine alike_bind alike_self fun selected _ h => ?_
      subst h
      refine alike_bind alike_self fun removed _ h => ?_
      subst h
      exact ⟨rfl, hown, hselections⟩

theorem resolveItems_twin {items : List POSItemInput} (href : OwnReferences db.toTables) :
    Twin (fun r r' => r = r' ∧ ∀ item ∈ items, OwnInput db businessId item)
      (resolveItems (liveMenuItems businessId db) businessId items)
      (resolveItems (liveMenuItems businessId db) businessId (items.map (renameItem σ))) db := by
  induction items with
  | nil => exact lockstep_done ⟨rfl, by simp⟩
  | cons item items ih =>
      refine lockstep_bind (lockstep_read (P := fun a b => a = liveAddOns businessId db ∧
        b = liveAddOns businessId db) ⟨rfl, rfl⟩) fun addOns _ h => ?_
      obtain ⟨rfl, rfl⟩ := h
      refine twin_raiseError (resolveItem_alike hσ href) fun resolved _ h => ?_
      obtain ⟨rfl, hitem⟩ := h
      refine lockstep_bind ih fun rest _ h => lockstep_done ?_
      obtain ⟨rfl, hitems⟩ := h
      exact ⟨rfl, List.forall_mem_cons.mpr ⟨hitem, hitems⟩⟩

theorem resolvePosItems_twin {items : List POSItemInput} (href : OwnReferences db.toTables) :
    Twin (fun r r' => r = r' ∧ ∀ item ∈ items, OwnInput db businessId item)
      (resolvePosItems businessId items)
      (resolvePosItems businessId (items.map (renameItem σ))) db := by
  refine lockstep_bind (lockstep_read (P := fun a b => a = liveMenuItems businessId db ∧
    b = liveMenuItems businessId db) ⟨rfl, rfl⟩) fun menuItems _ h => ?_
  obtain ⟨rfl, rfl⟩ := h
  exact resolveItems_twin hσ href

end Items

section Checkout

variable {orderId newCustomerId : Uuid} {body : POSOrderCreateRequest}
  (hσ : Masks db.toTables user.businessId σ)

def OwnIntents (db : Database) (businessId : Uuid)
    (payments : List POSPaymentAllocationRequest) : Prop :=
  ∀ id ∈ payments.filterMap (·.paymentIntentId), db.Owns ⟨businessId, .intent, id⟩

-- Both replays of one order, or two settlements that follow a condition.
def Claimed (p : Prop) : RoutesPos.Settlement → RoutesPos.Settlement → Prop
  | .replayed order, .replayed order' => order = order'
  | .settled _ _, .settled _ _ => p
  | _, _ => False

theorem checkAllocations_rename {business : Business}
    {payments : List POSPaymentAllocationRequest} :
    (payments.map (renamePayment σ)).forM (checkAllocationMethod business) =
      payments.forM (checkAllocationMethod business) := by
  induction payments with
  | nil => rfl
  | cons p payments ih =>
      change (checkAllocationMethod business p >>= fun _ =>
        (payments.map (renamePayment σ)).forM (checkAllocationMethod business)) = _
      rw [ih]
      rfl

theorem checkRequest_rename {business : Business} :
    checkRequest business (renameCheckout σ body) = checkRequest business body := by
  have hmethods : checkMethods business (renameCheckout σ body) = checkMethods business body := by
    unfold checkMethods
    simp only [renameCheckout]
    cases body.payments with
    | none => rfl
    | some payments => exact checkAllocations_rename
  have hreward : (renameCheckout σ body).loyaltyRewardId.isSome = body.loyaltyRewardId.isSome :=
    Option.isSome_map
  simp only [checkRequest, hmethods, hreward]
  rfl

include hσ

theorem priceItems_twin (href : OwnReferences db.toTables) :
    Twin (fun r r' => r = r' ∧ ∀ item ∈ body.items, OwnInput db user.businessId item)
      (priceItems user body) (priceItems user (renameCheckout σ body)) db := by
  refine twin_seq readOnly_loadBusiness fun business => ?_
  rw [checkRequest_rename]
  refine twin_seq readOnly_raiseError fun _ => ?_
  refine lockstep_bind (resolvePosItems_twin hσ href) fun items _ h => ?_
  obtain ⟨rfl, hitems⟩ := h
  exact twin_seq readOnly_raiseError fun _ => lockstep_done ⟨rfl, hitems⟩

theorem redeemForSale_twin {subtotalCents : Cents} {linked : Option (LoyaltyProgram × Uuid)}
    {session : Session} :
    Twin (fun r r' => r = r' ∧ ∀ id ∈ body.loyaltyRewardId,
        db.Owns ⟨user.businessId, .reward, id⟩)
      (redeemForSale user orderId body subtotalCents linked session)
      (redeemForSale user orderId (renameCheckout σ body) subtotalCents linked session) db := by
  unfold redeemForSale
  simp only [renameCheckout]
  cases body.loyaltyRewardId with
  | none => exact lockstep_done ⟨rfl, by simp⟩
  | some rewardId =>
      cases linked with
      | none => exact lockstep_fail ⟨rfl, rfl⟩
      | some linked =>
          refine twin_scoped hσ (fun _ => rfl) (fun row h => of_decide_eq_true h)
            sameKind_notFound fun reward hreward => ?_
          refine lockstep_bind (twin_same (Loyalty.redeemRewardForCheckout_stages
            (N := fun _ => True) fun _ _ _ _ => trivial).yields) fun r _ h => lockstep_done ?_
          obtain ⟨rfl, -⟩ := h
          exact ⟨rfl, fun id hid => Option.some.inj hid ▸ hreward⟩

theorem twin_loadIntent {α β : Type} {P : α → β → Prop} {intentId : Uuid}
    {f : POSPaymentLinkIntent → Handler α} {g : POSPaymentLinkIntent → Handler β}
    (hf : ∀ intent, db.Owns ⟨user.businessId, .intent, intentId⟩ →
      Twin P (f intent) (g intent) db) :
    Twin P ((loadPosPaymentIntentForUpdate user.businessId intentId).bind f)
      ((loadPosPaymentIntentForUpdate user.businessId (σ .intent intentId)).bind g) db := by
  simp only [loadPosPaymentIntentForUpdate, bind_eq, Txn.bind_assoc]
  have hp (row : POSPaymentLinkIntent) (h : decide (row.businessId = user.businessId) = true) :
      row.businessId = user.businessId := of_decide_eq_true h
  have howner (id : Uuid) : db.owner .intent id = (db.intents.lookup id).map (·.businessId) := rfl
  exact twin_found howner hp sameKind_notFound
    (lockstep_lock ⟨hσ.lookup_filter howner hp, rfl⟩) hf

theorem claimIntents_twin {payments : List POSPaymentAllocationRequest} :
    Twin (Claimed (OwnIntents db user.businessId payments)) (claimIntents user body payments)
      (claimIntents user (renameCheckout σ body) (payments.map (renamePayment σ))) db := by
  induction payments with
  | nil => exact lockstep_done (by simp [Claimed, OwnIntents])
  | cons p payments ih =>
      have howns {id : Uuid} (hid : p.paymentIntentId = some id)
          (hown : db.Owns ⟨user.businessId, .intent, id⟩) :
          OwnIntents db user.businessId payments → OwnIntents db user.businessId (p :: payments) := by
        simpa [OwnIntents, List.filterMap_cons, hid] using fun h => ⟨hown, h⟩
      have hid' : (renamePayment σ p).paymentIntentId = p.paymentIntentId.map (σ .intent) := rfl
      rw [List.map_cons]
      unfold claimIntents
      rw [hid']
      cases hid : p.paymentIntentId with
      | none => simpa [OwnIntents, List.filterMap_cons, hid] using ih
      | some intentId =>
          refine twin_loadIntent hσ fun intent hown => ?_
          split
          · refine twin_seq readOnly_read fun existing => ?_
            cases existing with
            | none => exact lockstep_fail ⟨rfl, rfl⟩
            | some order => exact lockstep_done rfl
          · refine twin_seq readOnly_raiseError fun _ => ?_
            refine lockstep_bind ih fun rest rest' h => ?_
            cases rest <;> cases rest' <;> try exact h.elim
            · exact lockstep_done h
            · exact lockstep_done (howns hid hown h)

theorem settlePayments_twin {totalCents : Cents} :
    Twin (Claimed (OwnIntents db user.businessId (body.payments.getD [])))
      (settlePayments user body totalCents)
      (settlePayments user (renameCheckout σ body) totalCents) db := by
  have hsum (payments : List POSPaymentAllocationRequest) :
      paymentsTotal (payments.map (renamePayment σ)) = paymentsTotal payments := by
    simp [paymentsTotal, renamePayment, List.map_map, Function.comp_def]
  have hpayments : (renameCheckout σ body).payments =
      body.payments.map (List.map (renamePayment σ)) := rfl
  unfold settlePayments
  rw [hpayments]
  cases hbody : body.payments with
  | none =>
      have hsettled (changeDue : Option Cents) :
          Twin (Claimed (OwnIntents db user.businessId []))
            (.done (.settled [] changeDue)) (.done (.settled [] changeDue)) db :=
        lockstep_done (by simp [Claimed, OwnIntents])
      simp only [Option.map_none, Option.getD_none]
      change Twin _ (if body.paymentMethod = some .cash then _ else _)
        (if body.paymentMethod = some .cash then _ else _) db
      split
      · exact twin_seq readOnly_ensure fun _ => hsettled _
      · exact hsettled none
  | some payments =>
      simp only [Option.map_some, Option.getD_some, hsum]
      exact twin_seq readOnly_ensure fun _ => claimIntents_twin hσ

theorem createPosOrder_twin {settings : RoutesMenu.StorageSettings}
    (href : OwnReferences db.toTables)
    (hnot : ¬ NamesOwn db (.createPosOrder user orderId newCustomerId body)) :
    Twin Eq (handle settings (.createPosOrder user orderId newCustomerId body))
      (handle settings
        ((TenantRequest.createPosOrder user orderId newCustomerId body).rename σ)) db := by
  simp only [NamesOwn, TenantRequest.names, List.forall_mem_append, forall_called,
    Option.mem_toList] at hnot
  simp only [handle, answer, TenantRequest.rename, createPosOrder, checkout, prepareSale,
    placeOrder, bind_eq, Txn.bind_assoc]
  refine twin_seq readOnly_requirePosEnabled fun _ => ?_
  refine twin_seq readOnly_requireStaffOrAbove fun _ => ?_
  refine twin_seq readOnly_replay fun existing => ?_
  cases existing with
  | some order => exact lockstep_done rfl
  | none =>
      simp only [Txn.bind_assoc]
      refine twin_seq readOnly_getOpenTill fun till => ?_
      refine lockstep_bind (priceItems_twin hσ href) fun priced _ h => ?_
      obtain ⟨rfl, hitems⟩ := h
      refine lockstep_bind (twin_same (linkCustomer_stages (N := fun _ => True)
        ⟨trivial, fun _ _ _ _ => trivial⟩ fun _ _ _ => trivial).yields) fun linked _ h => ?_
      obtain ⟨rfl, -⟩ := h
      refine lockstep_bind (redeemForSale_twin hσ) fun redeemed _ h => ?_
      obtain ⟨rfl, hreward⟩ := h
      refine twin_seq (x := pure _) trivial fun prepared => ?_
      refine twin_seq readOnly_readNow fun now => ?_
      refine lockstep_bind (settlePayments_twin hσ) fun settlement settlement' h => ?_
      cases settlement <;> cases settlement' <;> try exact h.elim
      · obtain rfl : _ = _ := h
        exact lockstep_done rfl
      · have hown : OwnIntents db user.businessId (body.payments.getD []) := h
        refine absurd ⟨⟨⟨?_, ?_⟩, hreward⟩, hown⟩ hnot
        · exact List.forall_mem_map.mpr fun item hitem => (hitems item hitem).1
        · intro id hid
          obtain ⟨item, hitem, hid⟩ := List.mem_flatMap.mp hid
          obtain ⟨s, hs, rfl⟩ := List.mem_map.mp hid
          exact (hitems item hitem).2 s hs

end Checkout

end ForeignSales

section OwnRows

variable {settings : RoutesMenu.StorageSettings} {db : Database} {request : TenantRequest}
  {resource : Resource} {id id' : Uuid}

theorem handle_twin {σ : Resource → Uuid → Uuid} (href : OwnReferences db.toTables)
    (hσ : Masks db.toTables request.user.businessId σ) (hnot : ¬ NamesOwn db request) :
    Twin Eq (handle settings request) (handle settings (request.rename σ)) db := by
  cases request with
  | createItem user itemId body => exact createItem_twin hσ hnot
  | updateItem user itemId body => exact updateItem_twin hσ hnot
  | attachAddOn user itemId addOnId => exact attachAddOn_twin hσ hnot
  | upsertRecipe user recipeId body => exact upsertRecipe_twin hσ hnot
  | createGoodsReceipt user receiptId body => exact createGoodsReceipt_twin hσ hnot
  | setOpeningStock user body => exact setOpeningStock_twin hσ hnot
  | createAdjustment user body => exact createAdjustment_twin hσ hnot
  | recordWastage user entryId body => exact recordWastage_twin hσ hnot
  | upsertMapping user mappingId body => exact upsertMapping_twin hσ hnot
  | createPosOrder user orderId newCustomerId body => exact createPosOrder_twin hσ href hnot

theorem masks_replacing {businessId : Uuid}
    (hid : ¬ db.Owns ⟨businessId, resource, id⟩) (hid' : ¬ db.Owns ⟨businessId, resource, id'⟩) :
    Masks db.toTables businessId (replacing resource id id') := by
  intro r x
  unfold replacing
  split
  next h =>
    obtain ⟨rfl, rfl⟩ := h
    exact .inr ⟨hid, hid'⟩
  next => exact .inl rfl

-- Neither request changes a row, and both are answered with the same status and code.
def RefusedAlike (settings : RoutesMenu.StorageSettings) (db : Database)
    (request request' : TenantRequest) : Prop :=
  ((handle settings request).run db).2 = db ∧ ((handle settings request').run db).2 = db ∧
    AnswersAlike SameKind ((handle settings request).run db).1
      ((handle settings request').run db).1

def Tables.Foreign (t : Tables) (businessId : Uuid) (resource : Resource) (id : Uuid) : Prop :=
  ∃ other ∈ t.owner resource id, other ≠ businessId

theorem not_owns_foreign {businessId : Uuid} (h : Tables.Foreign db.toTables businessId resource id) :
    ¬ db.Owns ⟨businessId, resource, id⟩ := by
  obtain ⟨other, hother, hne⟩ := h
  exact fun howns => hne (Option.some.inj (hother.symm.trans howns))

theorem foreign_refused {unknown : Uuid} (href : OwnReferences db.toTables)
    (hnamed : (resource, id) ∈ request.names)
    (hforeign : Tables.Foreign db.toTables request.user.businessId resource id)
    (hunknown : db.owner resource unknown = none) :
    RefusedAlike settings db request (request.rename (replacing resource id unknown)) := by
  have hnot := not_owns_foreign hforeign
  have hunowned : ¬ db.Owns ⟨request.user.businessId, resource, unknown⟩ := by
    simp [Tables.Owns, hunknown]
  have hmasks := masks_replacing hnot hunowned
  exact Lockstep.unchanged (handle_twin href hmasks fun hown => hnot (hown _ hnamed))

theorem references_stay_own (settings : RoutesMenu.StorageSettings) (db : Database)
    (steps : List (TenantRequest × Database)) (hinit : OwnReferences db.toTables)
    (hrun : Run.Along (served settings) db steps) :
    OwnReferences (Run.last db steps).toTables ∧
      ∀ (request : TenantRequest) (resource : Resource) (foreign unknown : Uuid),
        (resource, foreign) ∈ request.names →
          Tables.Foreign (Run.last db steps).toTables request.user.businessId resource foreign →
            (Run.last db steps).owner resource unknown = none →
              RefusedAlike settings (Run.last db steps) request
                (request.rename (replacing resource foreign unknown)) := by
  have hown : OwnReferences (Run.last db steps).toTables := run_own hinit hrun
  exact ⟨hown, fun _ _ _ _ hnamed hforeign hunknown =>
    foreign_refused hown hnamed hforeign hunknown⟩

instance (t : Tables) (r : Reference) : Decidable (t.Owns r) :=
  inferInstanceAs (Decidable (_ = _))

def burger : MenuItem where
  id := 10
  businessId := 1
  name := "Burger"
  priceCents := 8000
  optionGroups := []
  removableIngredients := []
  addOnIds := [20]
  isActive := true
  isDeleted := false
  requiresPreparation := true

def cheese (id businessId : Uuid) : MenuAddOn where
  id := id
  businessId := businessId
  name := "Cheese"
  priceCents := 1000
  minQty := 1
  maxQty := 3
  isActive := true
  isDeleted := false

def twoKitchens : Database where
  toTables :=
    { businesses := [{ id := 1 }, { id := 2 }]
      menuItems := [burger]
      menuAddOns := [cheese 20 1, cheese 21 1, cheese 30 2] }
  now := 100
  valid := Tables.violation_eq_none.mp (by decide +kernel)

def storage : RoutesMenu.StorageSettings := ⟨"https://storage.test", "assets"⟩

def manager : AuthUser := ⟨5, 1, .manager⟩

def attached : Database :=
  ((handle storage (.attachAddOn manager 10 21)).run twoKitchens).2

-- The manager links an own add-on, and then names the one of the other kitchen.
theorem foreign_add_on_refused :
    attached.menuItems.map (·.addOnIds) = [[20, 21]] ∧ OwnReferences attached.toTables ∧
      RefusedAlike storage attached (.attachAddOn manager 10 30) (.attachAddOn manager 10 99) := by
  have hinit : OwnReferences twoKitchens.toTables := by
    constructor <;> decide +kernel
  have hforeign : Tables.Foreign attached.toTables 1 .addOn 30 :=
    ⟨2, by decide +kernel, by decide⟩
  have hunknown : attached.owner .addOn 99 = none := by decide +kernel
  obtain ⟨hown, hrefused⟩ := references_stay_own storage twoKitchens
    [(.attachAddOn manager 10 21, attached)] hinit ⟨rfl, trivial⟩
  exact ⟨by decide +kernel, hown, hrefused (.attachAddOn manager 10 30) .addOn 30 99
    (by decide) hforeign hunknown⟩

end OwnRows

end NextgenBackend.Tenancy
