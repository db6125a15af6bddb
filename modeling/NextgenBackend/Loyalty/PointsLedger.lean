import NextgenBackend.Loyalty.Accounts

namespace NextgenBackend.PointsLedger

open Txn RelyGuarantee Interleaving Loyalty

section Handlers

variable {α β : Type} {L : Set RowKey} {db : Database} {session : Session} {user : AuthUser}
  {businessId orderId newCustomerId : Uuid} {order : Order} {request : Request}

theorem sound_done (a : α) : Sound (.done a) :=
  fun _ _ => trivial

theorem sound_bind {x : Handler β} {f : β → Handler α} (hx : Sound x) (hf : ∀ b, Sound (f b)) :
    Sound (x.bind f) :=
  fun L db => sound_then (hx L db) hf

theorem sound_attempt {x : Handler α} (hx : Sound x) : Sound x.attempt :=
  fun L db => safe_attempt.mpr ((hx L db).mono fun _ _ _ _ => trivial)

theorem sound_commit {site : CommitSite} (h : Session.Extends Spares {} session) :
    Sound (commit site session) :=
  fun _ _ => safe_commit (postable_start.extend h)

theorem spares_setOrder {set : Order → Order} : Spares (setOrder orderId set) :=
  spares_of_same (fun _ => rfl) fun _ => rfl

theorem spares_addOrderEvent {event : OrderEvent} : Spares (RoutesPayments.addOrderEvent event) :=
  spares_of_same (fun _ => rfl) fun _ => rfl

theorem spares_appendMovements {movements : List StockMovement} :
    Spares (Inventory.appendMovements movements) :=
  spares_of_same (fun _ => rfl) fun _ => rfl

theorem awardLoyaltyPointsIfEnabled_sound : Sound (awardLoyaltyPointsIfEnabled businessId order) := by
  unfold awardLoyaltyPointsIfEnabled
  split
  · exact sound_done _
  · apply sound_bind
    · apply sound_attempt
      apply sound_seq readOnly_read
      intro program _
      split
      · exact sound_done _
      · split
        · exact sound_done _
        · apply sound_seq readOnly_read
          intro customer _
          split
          · exact sound_done _
          · intro L db
            apply safe_posted awardPoints_posts
            intro session L' db' hposted
            exact safe_commit hposted
    · intro _
      exact sound_done _

theorem markOrderPaid_sound {orderRef providerName : String} {result : Payments.WebhookResult} :
    Sound (RoutesPayments.markOrderPaid orderRef businessId providerName result) := by
  unfold RoutesPayments.markOrderPaid
  split
  · exact sound_done _
  · apply sound_seq readOnly_read
    intro row _
    split
    · exact sound_done _
    · split
      · exact sound_done _
      · split
        · exact sound_done _
        · apply sound_seq readOnly_readNow
          intro now _
          apply sound_seq RoutesPayments.readOnly_textColumn
          intro reference _
          apply sound_bind
          · apply sound_commit
            exact spares_neutral.trans (Session.extends_stage spares_setOrder)
              (Session.extends_stage spares_addOrderEvent)
          · intro _
            apply sound_seq readOnly_refreshOrder
            intro order _
            exact awardLoyaltyPointsIfEnabled_sound

theorem markIntentPaid_sound {intentRef : String} {result : Payments.WebhookResult} :
    Sound (RoutesPayments.markIntentPaid intentRef businessId result) := by
  have hspares {set : POSPaymentLinkIntent → POSPaymentLinkIntent} {intentId : Uuid} :
      Spares (RoutesPayments.setIntent intentId set) :=
    spares_of_same (fun _ => rfl) fun _ => rfl
  have hwrites : Writes (fun _ => True) Spares
      (RoutesPayments.markIntentPaid intentRef businessId result) :=
    RoutesPayments.markIntentPaid_writes (fun _ => ⟨trivial, trivial⟩) (fun _ => hspares)
      fun _ _ _ => hspares
  exact sound_of_writes hwrites

theorem deliver_sound {providerName : String} {result : Payments.WebhookResult} :
    Sound (RoutesPayments.deliver businessId providerName result) := by
  unfold RoutesPayments.deliver
  split
  · exact sound_done _
  · split
    · exact sound_done _
    · dsimp only
      split
      · exact markIntentPaid_sound
      · exact markOrderPaid_sound

theorem jsonWebhook_sound {providerName : String}
    {verifySignature : Business → Payments.JsonDelivery → Bool}
    {handleWebhook : Payments.Json → Except Failure Payments.WebhookResult}
    {delivery : Payments.JsonDelivery} :
    Sound (RoutesPayments.jsonWebhook providerName verifySignature handleWebhook businessId
      delivery) := by
  apply sound_seq RoutesPayments.readOnly_loadWebhookBusiness
  intro business _
  apply sound_seq readOnly_ensure
  intro _ _
  apply sound_seq readOnly_found
  intro payload _
  apply sound_seq RoutesPayments.readOnly_raised
  intro result _
  exact deliver_sound

theorem payfastWebhook_sound {delivery : Payments.FormDelivery} :
    Sound (RoutesPayments.payfastWebhook businessId delivery) := by
  apply sound_seq readOnly_found
  intro params _
  apply sound_seq RoutesPayments.readOnly_loadWebhookBusiness
  intro business _
  apply sound_seq readOnly_ensure
  intro _ _
  apply sound_seq RoutesPayments.readOnly_raised
  intro result _
  exact deliver_sound

theorem updatePaymentStatus_sound {body : RoutesOrders.PaymentUpdateRequest} :
    Sound (RoutesOrders.updatePaymentStatus user orderId body) := by
  apply sound_seq readOnly_requireStaffOrAbove
  intro _ _
  apply sound_seq RoutesOrders.readOnly_loadOrder
  intro loaded _
  apply sound_seq readOnly_ensure
  intro _ _
  apply sound_seq readOnly_ensure
  intro _ _
  apply sound_seq readOnly_readNow
  intro now _
  have hstage (session : Session) : (pure (session.stage [] (RoutesPayments.addOrderEvent
      ⟨orderId, user.businessId, some loaded.status, loaded.status, some user.userId,
        some (RoutesOrders.manualPaymentReason body)⟩)) : Handler Session).ReadOnly
      (session.Extends Spares) := Session.extends_stage spares_addOrderEvent
  apply sound_seq (readOnly_stageWhen spares_neutral (hstage _))
  intro session hext
  apply sound_bind
  · exact sound_commit (spares_neutral.trans (Session.extends_stage spares_setOrder) hext)
  · intro _
    apply sound_seq readOnly_refreshOrder
    intro order _
    split
    · exact sound_bind awardLoyaltyPointsIfEnabled_sound fun _ => sound_done _
    · exact sound_done _

theorem reversal_posted {site : CommitSite} {notes : Option String} (p : Prop) [Decidable p]
    (hs : Session.Extends Spares {} session) :
    Safe discipline L db ((session.stageWhen p fun session =>
      reverseRedemption session businessId orderId notes).bind fun session =>
        (commit site session).bind fun _ => refreshOrder orderId) fun _ _ _ => True := by
  have hposts : Posts L db id (session.stageWhen p fun session =>
      reverseRedemption session businessId orderId notes) := by
    unfold Session.stageWhen
    split
    · exact reverseRedemption_posts hs
    · exact posts_done (postable_start.extend hs)
  apply safe_posted hposts
  intro session' L' db' hposted
  apply sound_then (safe_commit hposted)
  intro _
  exact sound_readOnly readOnly_refreshOrder

theorem flagProviderRefund_extends {amountCents cashRefundCents : Cents} :
    (RoutesPos.flagPayByLinkProviderRefundPending session order amountCents
      cashRefundCents).ReadOnly (session.Extends Spares) :=
  RoutesPos.flagPayByLinkProviderRefundPending_stages spares_neutral
    fun _ => spares_of_same (fun _ => rfl) fun _ => rfl

theorem reverseStock_extends {notes : String} :
    (RoutesPos.reverseStock session user orderId notes).ReadOnly (session.Extends Spares) :=
  RoutesPos.reverseStock_stages spares_neutral fun _ => spares_appendMovements

theorem refundPosOrder_sound {body : RoutesPos.POSRefundRequest} :
    Sound (RoutesPos.refundPosOrder user orderId body) := by
  apply sound_seq readOnly_requirePosEnabled
  intro _ _
  apply sound_seq readOnly_requireOwnerOrManager
  intro _ _
  apply sound_seq RoutesPos.readOnly_loadPosOrderForReversal
  intro order _
  apply sound_seq RoutesPos.readOnly_requireOpenTillForCashReversal
  intro _ _
  apply sound_seq readOnly_ensure
  intro _ _
  apply sound_seq RoutesPos.readOnly_refundCash
  intro cash _
  apply sound_seq readOnly_readNow
  intro now _
  apply sound_seq flagProviderRefund_extends
  intro session hflagged
  apply sound_seq (readOnly_stageWhen spares_neutral reverseStock_extends)
  intro session' hrestocked
  have hs : Session.Extends Spares {} session' :=
    spares_neutral.trans (spares_neutral.trans (Session.extends_stage spares_setOrder) hflagged)
      hrestocked
  intro L db
  exact reversal_posted _ hs

theorem voidPosOrder_sound {reason : String} :
    Sound (RoutesPos.voidPosOrder user orderId reason) := by
  apply sound_seq readOnly_requirePosEnabled
  intro _ _
  apply sound_seq readOnly_requireOwnerOrManager
  intro _ _
  apply sound_seq RoutesPos.readOnly_loadPosOrderForReversal
  intro order _
  apply sound_seq RoutesPos.readOnly_requireOpenTillForCashReversal
  intro _ _
  apply sound_seq RoutesPos.readOnly_computeCashPortion
  intro cash _
  apply sound_seq readOnly_readNow
  intro now _
  apply sound_seq flagProviderRefund_extends
  intro session hflagged
  apply sound_seq reverseStock_extends
  intro session' hrestocked
  have hs : Session.Extends Spares {} session' :=
    spares_neutral.trans (spares_neutral.trans (Session.extends_stage spares_setOrder) hflagged)
      hrestocked
  intro L db
  exact reversal_posted _ hs

theorem redeemLoyaltyReward_sound {body : RoutesLoyalty.RedeemRequest} :
    Sound (RoutesLoyalty.redeemLoyaltyReward user body) := by
  have hprogram : Writes (fun _ => True) Spares (RoutesLoyalty.getOrCreateProgram user.businessId) :=
    RoutesLoyalty.getOrCreateProgram_writes trivial
      fun _ => spares_of_same (fun _ => rfl) fun _ => rfl
  apply sound_seq readOnly_requireStaffOrAbove
  intro _ _
  apply sound_seq RoutesLoyalty.readOnly_requireLoyaltyEnabled
  intro _ _
  apply sound_bind (sound_of_writes hprogram)
  intro program
  apply sound_seq RoutesLoyalty.readOnly_loadCustomer
  intro customer _
  apply sound_seq readOnly_read
  intro row _
  apply sound_seq readOnly_found
  intro reward _ L db
  apply safe_posted (redeemReward_posts spares_neutral.refl)
  rintro ⟨row, session⟩ L' db' hposted
  exact sound_then (safe_commit hposted) fun _ => sound_done _

theorem adjustCustomerPoints_sound {customerId : Uuid} {body : RoutesLoyalty.LoyaltyAdjustmentRequest} :
    Sound (RoutesLoyalty.adjustCustomerPoints user customerId body) := by
  apply sound_seq readOnly_requireOwnerOrManager
  intro _ _
  apply sound_seq RoutesLoyalty.readOnly_requireLoyaltyEnabled
  intro _ _
  apply sound_seq RoutesLoyalty.readOnly_loadCustomer
  intro customer _
  apply sound_seq RoutesLoyalty.readOnly_replayAdjustment
  intro existing _
  split
  · exact sound_done _
  · apply sound_seq readOnly_read
    intro program _ L db
    apply safe_posted adjustPoints_posts
    rintro ⟨row, session⟩ L' db' hposted
    apply sound_then (safe_tryPost hposted)
    intro fault
    split
    · exact sound_done _
    · split
      · apply sound_seq RoutesLoyalty.readOnly_replayAdjustment
        intro existing _
        exact sound_readOnly (conforms_orFail fun _ _ => trivial)
      · exact fun _ _ => trivial

section Checkout

variable {body : RoutesPos.POSOrderCreateRequest} {sale : RoutesPos.Sale} {till : TillSession}

theorem redeemForSale_posts {subtotalCents : Cents} {linked : Option (LoyaltyProgram × Uuid)}
    (hs : Session.Extends Spares {} session) :
    Posts L db (·.2) (RoutesPos.redeemForSale user orderId body subtotalCents linked session) := by
  unfold RoutesPos.redeemForSale
  split
  · exact posts_done (postable_start.extend hs)
  · split
    · intro b hb
      cases hb
    · apply posts_seq readOnly_read
      intro row _ _ _ _ _
      apply posts_seq readOnly_found
      intro reward _ _ _ _ _
      apply safe_bind.mpr
      apply (redeemRewardForCheckout_posts hs).mono
      intro r L' db' h
      cases r with
      | ok redeemed => exact posts_done (h redeemed rfl)
      | error e =>
          intro b hb
          cases hb

theorem prepareSale_posts :
    Posts L db (·.2) (RoutesPos.prepareSale user orderId newCustomerId body) := by
  have hlinked : (RoutesPos.linkCustomer user newCustomerId body).ReadOnly
      fun r => Session.Extends Spares {} r.2 :=
    RoutesPos.linkCustomer_stages spares_neutral fun _ _ hzero => spares_insertCustomer hzero
  apply posts_seq RoutesPos.readOnly_priceItems
  intro priced _ _ _ _ _
  apply posts_seq hlinked
  intro linked _ _ hs _ _
  apply safe_bind.mpr
  apply (redeemForSale_posts hs).mono
  intro r L' db' h
  cases r with
  | ok redeemed => exact posts_done (h redeemed rfl)
  | error e =>
      intro b hb
      cases hb

theorem finishCheckout_sound : Sound (RoutesPos.finishCheckout user order) := by
  apply sound_seq readOnly_refreshOrder
  intro saved _
  split
  · apply sound_bind awardLoyaltyPointsIfEnabled_sound
    intro _
    exact sound_readOnly readOnly_refreshOrder
  · exact sound_done _

theorem saveCheckout_safe {intents : List POSPaymentLinkIntent} {now : Instant}
    (h : Postable L db session) :
    Safe discipline L db (RoutesPos.saveCheckout user body sale order intents now session)
      fun _ _ _ => True := by
  have horder (session : Session) : session.Extends Spares
      (session.stage [] (RoutesPos.insertOrder order)) :=
    Session.extends_stage (spares_of_same (fun _ => rfl) fun _ => rfl)
  have hrows {items event allocations} (session : Session) : session.Extends Spares
      (session.stage [] (RoutesPos.insertOrderRows items event allocations)) :=
    Session.extends_stage (spares_of_same (fun _ => rfl) fun _ => rfl)
  apply safe_seq readOnly_read
  · intro fault L' db' _ hsub hrely
    have hinserted : Postable L' db' (session.stage [] (RoutesPos.insertOrder order)) :=
      (h.mono hsub hrely).extend (horder session)
    split
    · exact sound_readOnly RoutesPos.readOnly_replayIdempotentCheckout _ _
    · apply safe_extended (hinserted.extend (hrows _))
      · exact readOnly_stageWhen spares_neutral
          (Inventory.postSaleConsumption_stages spares_neutral fun _ => spares_appendMovements)
      · intro session' L'' db'' hposted
        apply sound_then (safe_tryPost hposted)
        intro fault
        split
        · exact sound_readOnly RoutesPos.readOnly_replayIdempotentCheckout
        · exact finishCheckout_sound
  · exact fun _ _ _ _ _ => trivial

theorem placeOrder_safe (h : Postable L db session) :
    Safe discipline L db (RoutesPos.placeOrder user orderId body till sale session)
      fun _ _ _ => True := by
  apply safe_seq readOnly_readNow
  · intro now L1 db1 _ hsub1 hrely1
    apply safe_seq RoutesPos.readOnly_settlePayments
    · intro settlement L2 db2 _ hsub2 hrely2
      have hposted : Postable L2 db2 session := (h.mono hsub1 hrely1).mono hsub2 hrely2
      split
      · trivial
      · apply safe_seq (RoutesPos.nextOrderNumber_stages fun _ =>
          spares_of_same (fun _ => rfl) fun _ => rfl)
        · rintro ⟨sequence, currency, session'⟩ L3 db3 hext hsub3 hrely3
          apply saveCheckout_safe
          apply Postable.extend _ hext
          apply Postable.extend (hposted.mono hsub3 hrely3)
          exact Session.extends_stage (spares_of_same (fun _ => rfl) fun _ => rfl)
        · exact fun _ _ _ _ _ => trivial
    · exact fun _ _ _ _ _ => trivial
  · exact fun _ _ _ _ _ => trivial

theorem createPosOrder_sound : Sound (RoutesPos.createPosOrder user orderId newCustomerId body) := by
  apply sound_seq readOnly_requirePosEnabled
  intro _ _
  apply sound_seq readOnly_requireStaffOrAbove
  intro _ _
  apply sound_seq RoutesPos.readOnly_replay
  intro existing _
  split
  · exact sound_done _
  · apply sound_seq RoutesPos.readOnly_getOpenTill
    intro till _ L db
    apply safe_posted prepareSale_posts
    rintro ⟨sale, session⟩ L' db' hposted
    exact placeOrder_safe hposted

end Checkout

theorem reply_sound {wrap : α → Reply} {x : Handler α} (hx : Sound x) : Sound (reply wrap x) :=
  sound_bind hx fun _ => sound_done _

theorem unposted_sound (h : ∀ f, Stages request f → Spares f) : Sound (handle request) :=
  sound_of_writes (handle_writes spares_neutral h)

theorem handle_sound (request : Request) : Sound (handle request) := by
  cases request with
  | yocoWebhook businessId delivery => exact reply_sound jsonWebhook_sound
  | payfastWebhook businessId delivery => exact reply_sound payfastWebhook_sound
  | ikhokaWebhook businessId delivery => exact reply_sound jsonWebhook_sound
  | stitchWebhook businessId delivery => exact reply_sound jsonWebhook_sound
  | updatePaymentStatus user orderId body => exact reply_sound updatePaymentStatus_sound
  | refundPosOrder user orderId body => exact reply_sound refundPosOrder_sound
  | voidPosOrder user orderId reason => exact reply_sound voidPosOrder_sound
  | createPosOrder user orderId newCustomerId body => exact reply_sound createPosOrder_sound
  | redeemLoyaltyReward user body => exact reply_sound redeemLoyaltyReward_sound
  | adjustCustomerPoints user customerId body => exact reply_sound adjustCustomerPoints_sound
  | _ =>
      apply unposted_sound
      intro f hf
      cases hf with
      | payAward hwebhook => cases hwebhook
      | _ => exact spares_of_same (fun _ => rfl) fun _ => rfl

theorem environment_respects : discipline.Respects Environment := by
  intro db db' hbalanced henv
  have hturns : Turns ∅ db.toTables db'.toTables := by
    constructor
    · intro h
      constructor
      · intro id
        unfold balanceOf ledger
        rw [henv.customers, henv.loyaltyTransactions]
        exact h.balance id
      · intro id
        unfold ledger
        rw [henv.loyaltyTransactions]
        exact h.running id
    · intro id _
      unfold balanceOf
      rw [henv.customers]
    · intro id hsome
      rwa [henv.customers]
    · exact henv.loyaltyTransactions ▸ List.prefix_rfl
  exact ⟨hturns.balanced hbalanced, fun L => hturns.relies fun _ _ hid => hid⟩

end Handlers

section Runs

variable {ι : Type} [DecidableEq ι] {requests : ι → Request} {db₀ : Database}
  {c c' : Config ι Database RowKey CommitSite Failure Reply}

end Runs

def program : LoyaltyProgram where
  businessId := 1
  isEnabled := true
  pointsPerRand := 1
  pointsPerOrder := 0
  pointsExpiryDays := none
  minRedemptionPoints := 0
  silverTierPoints := 500
  goldTierPoints := 2000
  doublePointsPromoActive := false
  doublePointsPromoStartsAt := none
  doublePointsPromoEndsAt := none

def welcome : LoyaltyTransaction where
  businessId := 1
  customerId := 2
  transactionType := .adjust
  pointsDelta := 100
  balanceAfter := 100
  reason := some "Welcome"

def club : Database where
  businesses :=
    [{ id := 1
       loyaltyEnabled := true }]
  customers :=
    [{ id := 2
       businessId := 1
       waId := none
       displayName := none
       phoneNumber := none
       loyaltyPointsBalance := 100 }]
  loyaltyPrograms := [program]
  loyaltyRewards := [⟨3, 1, "Coffee", 60, true, none⟩]
  loyaltyTransactions := [welcome]
  now := 100
  valid := Tables.violation_eq_none.mp (by decide +kernel)

def owner : AuthUser where
  userId := 9
  businessId := 1
  role := .owner

def correction : RoutesLoyalty.LoyaltyAdjustmentRequest where
  pointsDelta := -50
  reason := "Duplicate award"
  idempotencyKey := none
  reasonLength := by decide

def hasFailed {ι : Type} (c : Config ι Database RowKey CommitSite Failure Reply) (i : ι) : Bool :=
  match c.prog i with
  | .fail _ => true
  | _ => false

end NextgenBackend.PointsLedger
