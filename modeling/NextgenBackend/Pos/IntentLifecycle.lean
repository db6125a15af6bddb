import Mathlib
import NextgenBackend.Api.System

namespace NextgenBackend.IntentLifecycle

open Txn RelyGuarantee Interleaving RoutesPos RoutesPayments

inductive Transition : IntentStatus → IntentStatus → Prop
  | pay : Transition .pending .paid
  | expire : Transition .pending .expired
  | cancel : Transition .pending .cancelled
  | consume : Transition .paid .consumed

def Moves (i i' : POSPaymentLinkIntent) : Prop :=
  i' = i ∨ Transition i.status i'.status

-- A poll reads the intent without its lock, so its expiry can land on any later status.
def pollFindsUnpaid (site : CommitSite) (db : Database) : Prop :=
  match site with
  | .getPaymentLinkIntent id =>
      ∀ i ∈ db.intents.lookup id, i.status = .pending ∨ i.status = .expired
  | _ => True

instance (site : CommitSite) (db : Database) : Decidable (pollFindsUnpaid site db) := by
  apply CommitSite.casesOn (motive := fun site => Decidable (pollFindsUnpaid site db)) site
  all_goals
    intros
    unfold pollFindsUnpaid
    infer_instance

def discipline : Discipline Database RowKey CommitSite where
  inv _ := True
  rely L a b := ∀ id i, RowKey.intent id ∈ L → a.intents.lookup id = some i →
    b.intents.lookup id = some i
  guar L a b := ∀ id i, a.intents.lookup id = some i →
    ∃ i', b.intents.lookup id = some i' ∧ Moves i i' ∧ (RowKey.intent id ∉ L → i' = i)
  admits := pollFindsUnpaid
  rely_refl _ _ _ _ _ h := h
  rely_trans _ _ _ _ hab hbc id i hL h := hbc id i hL (hab id i hL h)
  rely_anti _ _ _ _ hsub h id i hL := h id i (hsub hL)
  guar_inv _ _ _ _ _ := trivial
  guar_rely L L' a b hdisj _ h id i hL' hi := by
    obtain ⟨i', hi', -, hsame⟩ := h id i hi
    obtain rfl := hsame fun hL => Set.disjoint_left.mp hdisj hL hL'
    exact hi'

abbrev Sound (L : Set RowKey) (db : Database) {α : Type} (x : Handler α) : Prop :=
  Safe discipline L db x fun _ _ _ => True

def Keeps (f : Pending) : Prop :=
  ∀ t id i, t.intents.lookup id = some i → (f t).intents.lookup id = some i

theorem keeps_neutral : Neutral Keeps where
  id _ _ _ h := h
  comp f _ hf hg t id i h := hg (f t) id i (hf t id i h)

variable {α β : Type} {L : Set RowKey} {db db' : Database}

theorem sound_of_writes {x : Handler α} (h : Writes (fun _ => True) Keeps x) : Sound L db x := by
  have hguar : x.Conforms (fun site keys write => ∀ L db db', discipline.inv db →
      discipline.admits site db → write db = .ok db' →
      discipline.guar (L ∪ {key | key ∈ keys}) db db') fun _ => True := by
    refine Conforms.mono h ?_ fun _ h => h
    rintro site keys write ⟨-, f, hf, rfl⟩ L db db' - - hw id i hi
    refine ⟨i, ?_, .inl rfl, fun _ => rfl⟩
    rw [(Database.write_ok hw).1]
    exact hf _ id i hi
  exact (safe_of_conforms hguar).mono fun _ _ _ _ => trivial

theorem sound_seq {R : β → Prop} {x : Handler β} {f : β → Handler α} (hx : x.ReadOnly R)
    (hf : ∀ b L' db', R b → L ⊆ L' → discipline.rely L db db' → Sound L' db' (f b)) :
    Sound L db (x.bind f) :=
  safe_seq hx hf fun _ _ _ _ _ => trivial

theorem sound_bind {x : Handler β} {f : β → Handler α} (hx : Sound L db x)
    (hf : ∀ b L' db', Sound L' db' (f b)) : Sound L db (x.bind f) := by
  refine safe_bind.mpr (hx.mono fun r L' db' _ => ?_)
  cases r with
  | ok b => exact hf b L' db'
  | error e => trivial

theorem sound_readOnly {x : Handler α} (hx : x.ReadOnly fun _ => True) : Sound L db x :=
  (safe_of_readOnly hx).mono fun _ _ _ _ => trivial

theorem sound_lock {key : RowKey} {q : Database → β} {f : β → Handler α}
    (hf : ∀ db', discipline.rely L db db' → Sound (insert key L) db' (f (q db'))) :
    Sound L db ((Txn.lock key q).bind f) :=
  fun db' _ hrely => hf db' hrely

def Held (L : Set RowKey) (db : Database) (i : POSPaymentLinkIntent) : Prop :=
  RowKey.intent i.id ∈ L ∧ db.intents.lookup i.id = some i

theorem Held.stable {L' : Set RowKey} {i : POSPaymentLinkIntent} (h : Held L db i)
    (hsub : L ⊆ L') (hrely : discipline.rely L db db') : Held L' db' i :=
  ⟨hsub h.1, hrely _ _ h.1 h.2⟩

theorem guar_setIntent {id : Uuid} {f : POSPaymentLinkIntent → POSPaymentLinkIntent}
    (heq : db'.intents = db.intents.modify id f) (hkey : ∀ i, key (f i) = key i)
    (hL : RowKey.intent id ∈ L) (hmoves : ∀ i, db.intents.lookup id = some i → Moves i (f i)) :
    discipline.guar L db db' := by
  intro j i hi
  rw [heq, Table.lookup_modify hkey]
  split
  next h =>
    subst h
    exact ⟨f i, by rw [hi]; rfl, hmoves i hi, fun hnot => absurd hL hnot⟩
  next => exact ⟨i, hi, .inl rfl, fun _ => rfl⟩

theorem sound_setIntent {site : CommitSite} {id : Uuid}
    {f : POSPaymentLinkIntent → POSPaymentLinkIntent} (hkey : ∀ i, key (f i) = key i)
    (hmoves : ∀ db', discipline.rely L db db' → pollFindsUnpaid site db' →
      ∀ i, db'.intents.lookup id = some i → Moves i (f i)) :
    Sound L db (commit site (Session.stage {} [.intent id] (setIntent id f))) := by
  intro db' _ hrely hadmits
  refine ⟨fun db'' hw => ⟨?_, trivial⟩, fun _ _ => trivial⟩
  have heq : db''.intents = db'.intents.modify id f :=
    congrArg Tables.intents (Database.write_ok hw).1
  refine guar_setIntent heq hkey ?_ (hmoves db' hrely hadmits)
  exact Set.mem_union_right _ (by simp [Session.stage])

theorem sound_expireNow {site : CommitSite} {id : Uuid}
    (hmoves : ∀ db', discipline.rely L db db' → pollFindsUnpaid site db' →
      ∀ i, db'.intents.lookup id = some i → i.status = .pending ∨ i.status = .expired) :
    Sound L db (expireNow site id) := by
  refine sound_bind ?_ fun _ _ _ => sound_readOnly readOnly_refreshIntent
  refine sound_setIntent (fun _ => rfl) fun db' hrely hadmits i hi => ?_
  rcases hmoves db' hrely hadmits i hi with h | h
  · exact .inr (by rw [h]; exact .expire)
  · refine .inl ?_
    rw [expireIntent, ← h]

theorem sound_getPosPaymentIntent {user : AuthUser} {id : Uuid} :
    Sound L db (getPosPaymentIntent user id) := by
  refine sound_seq readOnly_requirePosEnabled fun _ _ _ _ _ _ => ?_
  refine sound_seq readOnly_requireStaffOrAbove fun _ _ _ _ _ _ => ?_
  refine sound_seq readOnly_loadPosPaymentIntent fun intent _ _ _ _ _ => ?_
  refine sound_seq readOnly_readNow fun now _ _ _ _ _ => ?_
  split
  · exact sound_expireNow fun db' _ hadmits => hadmits
  · trivial

theorem safe_loadPosPaymentIntentForUpdate {businessId id : Uuid} :
    Safe discipline L db (loadPosPaymentIntentForUpdate businessId id) fun r L' db' =>
      L ⊆ L' ∧ discipline.rely L db db' ∧ ∀ i, r = .ok i → i.id = id ∧ Held L' db' i := by
  intro db' _ hrely
  refine safe_orFail.mpr ⟨fun i hi => ?_, fun _ => ?_⟩
  · obtain ⟨hlookup, -⟩ := Option.filter_eq_some_iff.mp hi
    refine ⟨Set.subset_insert _ _, hrely, fun i' h => ?_⟩
    obtain rfl := Except.ok.inj h
    have hid : i.id = id := Table.lookup_key hlookup
    exact ⟨hid, by rw [hid]; exact Set.mem_insert _ _, by rw [hid]; exact hlookup⟩
  · exact ⟨Set.subset_insert _ _, hrely, fun _ h => by cases h⟩

theorem sound_locked {businessId id : Uuid} {f : POSPaymentLinkIntent → Handler α}
    (hf : ∀ i L' db', i.id = id → Held L' db' i → Sound L' db' (f i)) :
    Sound L db ((loadPosPaymentIntentForUpdate businessId id).bind f) := by
  refine safe_bind.mpr (safe_loadPosPaymentIntentForUpdate.mono fun r L' db' h => ?_)
  cases r with
  | ok i =>
      obtain ⟨hid, hheld⟩ := h.2.2 i rfl
      exact hf i L' db' hid hheld
  | error e => trivial

theorem Held.pending {i j : POSPaymentLinkIntent} (h : Held L db i) (hpending : i.status = .pending)
    (hrely : discipline.rely L db db') (hj : db'.intents.lookup i.id = some j) :
    j.status = .pending := by
  obtain rfl := Option.some.inj ((hrely _ _ h.1 h.2).symm.trans hj)
  exact hpending

theorem sound_expireHeld {site : CommitSite} {i : POSPaymentLinkIntent} {now : Instant}
    (h : Held L db i) (hexpired : maybeExpire i now = true) : Sound L db (expireNow site i.id) := by
  have hpending : i.status = .pending := by
    simp only [maybeExpire, Bool.and_eq_true, decide_eq_true_eq] at hexpired
    exact hexpired.1
  exact sound_expireNow fun db' hrely _ j hj => .inl (h.pending hpending hrely hj)

theorem sound_resendPosPaymentIntent {user : AuthUser} {id : Uuid} {tooSoon : Bool} :
    Sound L db (resendPosPaymentIntent user id tooSoon) := by
  refine sound_seq readOnly_requirePosEnabled fun _ _ _ _ _ _ => ?_
  refine sound_seq readOnly_requireStaffOrAbove fun _ _ _ _ _ _ => ?_
  refine sound_locked fun i _ _ hid hheld => ?_
  subst hid
  refine sound_seq readOnly_readNow fun now _ _ _ hsub hrely => ?_
  split
  next hexpired => exact sound_expireHeld (hheld.stable hsub hrely) hexpired
  next =>
    refine sound_of_writes ?_
    refine writes_seq readOnly_ensure fun _ => ?_
    refine writes_seq readOnly_ensure fun _ => ?_
    refine writes_seq readOnly_ensure fun _ => ?_
    refine writes_seq readOnly_loadBusiness fun _ => ?_
    exact writes_bind (writes_commit trivial keeps_neutral.refl) fun _ =>
      writes_readOnly readOnly_refreshIntent

theorem sound_cancelPosPaymentIntent {user : AuthUser} {id : Uuid} :
    Sound L db (cancelPosPaymentIntent user id) := by
  refine sound_seq readOnly_requirePosEnabled fun _ _ _ _ _ _ => ?_
  refine sound_seq readOnly_requireStaffOrAbove fun _ _ _ _ _ _ => ?_
  refine sound_locked fun i _ _ hid hheld => ?_
  subst hid
  refine sound_seq readOnly_readNow fun now _ _ _ hsub hrely => ?_
  have hheld := hheld.stable hsub hrely
  split
  next hexpired => exact sound_expireHeld hheld hexpired
  next =>
    refine safe_bind.mpr (safe_require.mpr ⟨fun hpending => ?_, fun _ => trivial⟩)
    refine sound_seq readOnly_readNow fun now _ _ _ hsub hrely => ?_
    have hheld := hheld.stable hsub hrely
    refine sound_bind ?_ fun _ _ _ => sound_readOnly readOnly_refreshIntent
    refine sound_setIntent (fun _ => rfl) fun db' hrely _ j hj => ?_
    exact .inr (by rw [hheld.pending hpending hrely hj]; exact .cancel)

theorem sound_markIntentPaid {intentRef : String} {businessId : Uuid}
    {result : Payments.WebhookResult} :
    Sound L db (markIntentPaid intentRef businessId result) := by
  unfold markIntentPaid
  split
  · trivial
  next id _ =>
    refine sound_lock fun db' hrely => ?_
    split
    · trivial
    next i hi =>
      obtain ⟨hlookup, -⟩ := Option.filter_eq_some_iff.mp hi
      obtain rfl : i.id = id := Table.lookup_key hlookup
      have hheld : Held (insert (RowKey.intent i.id) L) db' i := ⟨Set.mem_insert _ _, hlookup⟩
      split
      · trivial
      next hstatus =>
        have hpending : i.status = .pending := by simpa using hstatus
        refine sound_seq readOnly_readNow fun now _ _ _ hsub hrely => ?_
        have hheld := hheld.stable hsub hrely
        split
        · refine sound_setIntent (fun _ => rfl) fun db' hrely _ j hj => ?_
          exact .inr (by rw [hheld.pending hpending hrely hj]; exact .expire)
        · split
          · trivial
          · refine sound_seq readOnly_textColumn fun reference _ _ _ hsub hrely => ?_
            have hheld := hheld.stable hsub hrely
            refine sound_setIntent (fun _ => rfl) fun db' hrely _ j hj => ?_
            exact .inr (by rw [hheld.pending hpending hrely hj]; exact .pay)

theorem sound_markOrderPaid {orderRef providerName : String} {businessId : Uuid}
    {result : Payments.WebhookResult} :
    Sound L db (markOrderPaid orderRef businessId providerName result) :=
  sound_of_writes (markOrderPaid_writes keeps_neutral (fun _ => ⟨trivial, trivial⟩)
    (fun _ _ _ _ _ _ _ h => h) (fun _ _ _ _ h => h) fun _ _ _ _ _ _ h => h)

theorem sound_deliver {businessId : Uuid} {providerName : String}
    {result : Payments.WebhookResult} : Sound L db (deliver businessId providerName result) := by
  unfold deliver
  split
  · trivial
  · split
    · trivial
    · dsimp only
      split
      · exact sound_markIntentPaid
      · exact sound_markOrderPaid

theorem sound_jsonWebhook {providerName : String}
    {verifySignature : Business → Payments.JsonDelivery → Bool}
    {handleWebhook : Payments.Json → Except Failure Payments.WebhookResult} {businessId : Uuid}
    {delivery : Payments.JsonDelivery} :
    Sound L db (jsonWebhook providerName verifySignature handleWebhook businessId delivery) := by
  refine sound_seq readOnly_loadWebhookBusiness fun business _ _ _ _ _ => ?_
  refine sound_seq readOnly_ensure fun _ _ _ _ _ _ => ?_
  refine sound_seq readOnly_found fun payload _ _ _ _ _ => ?_
  exact sound_seq readOnly_raised fun result _ _ _ _ _ => sound_deliver

theorem sound_payfastWebhook {businessId : Uuid} {delivery : Payments.FormDelivery} :
    Sound L db (payfastWebhook businessId delivery) := by
  refine sound_seq readOnly_found fun params _ _ _ _ _ => ?_
  refine sound_seq readOnly_loadWebhookBusiness fun business _ _ _ _ _ => ?_
  refine sound_seq readOnly_ensure fun _ _ _ _ _ _ => ?_
  exact sound_seq readOnly_raised fun result _ _ _ _ _ => sound_deliver

def Claimed (L : Set RowKey) (db : Database) : Settlement → Prop
  | .replayed _ => True
  | .settled intents _ => ∀ i ∈ intents, Held L db i

theorem claimed_of_matches {settlement : Settlement} {user : AuthUser}
    (h : settlement.Matches user []) : Claimed L db settlement := by
  cases settlement with
  | replayed order => trivial
  | settled intents changeDue =>
      have hnil : intents = [] := by simpa using h.1
      simp [Claimed, hnil]

theorem safe_claimIntents {user : AuthUser} {body : POSOrderCreateRequest}
    {payments : List POSPaymentAllocationRequest} :
    Safe discipline L db (claimIntents user body payments) fun r L' db' =>
      ∀ settlement, r = .ok settlement → Claimed L' db' settlement := by
  induction payments generalizing L db with
  | nil =>
      intro settlement h
      obtain rfl := Except.ok.inj h
      simp [Claimed]
  | cons p payments ih =>
      unfold claimIntents
      split
      · exact ih
      next id _ =>
        refine safe_bind.mpr (safe_loadPosPaymentIntentForUpdate.mono fun r L1 db1 h => ?_)
        cases r with
        | error e => exact fun _ h => by cases h
        | ok i =>
            obtain ⟨-, hheld⟩ := h.2.2 i rfl
            dsimp only
            split
            · refine (safe_of_readOnly readOnly_replayConsumed).mono fun r L2 db2 h settlement hr => ?_
              exact claimed_of_matches (h.2.2 settlement hr user [])
            · refine safe_seq (Pos.raiseError_ok _) (fun _ L2 db2 _ hsub hrely => ?_)
                fun _ _ _ _ _ _ h => by cases h
              have hheld := hheld.stable hsub hrely
              refine safe_bind.mpr ((ih.and (safe_of_readOnly claimIntents_matches)).mono
                fun r L3 db3 h => ?_)
              obtain ⟨hclaimed, hsub, hrely, -⟩ := h
              cases r with
              | error e => exact fun _ h => by cases h
              | ok rest =>
                  have hrest := hclaimed rest rfl
                  have hheld := hheld.stable hsub hrely
                  cases rest with
                  | replayed order =>
                      intro settlement h
                      obtain rfl := Except.ok.inj h
                      trivial
                  | settled intents changeDue =>
                      intro settlement h
                      obtain rfl := Except.ok.inj h
                      intro j hj
                      rcases List.mem_cons.mp hj with rfl | hj
                      · exact hheld
                      · exact hrest j hj

theorem safe_settlePayments {user : AuthUser} {body : POSOrderCreateRequest} {totalCents : Cents} :
    Safe discipline L db (settlePayments user body totalCents) fun r L' db' =>
      ∀ settlement, r = .ok settlement → Claimed L' db' settlement := by
  unfold settlePayments
  split
  · exact safe_seq readOnly_ensure (fun _ _ _ _ _ _ => safe_claimIntents)
      fun _ _ _ _ _ _ h => by cases h
  · have hnone (changeDue : Option Cents) : Claimed L db (.settled [] changeDue) := by
      simp [Claimed]
    split
    · refine safe_seq readOnly_ensure (fun _ L' db' _ _ _ settlement h => ?_)
        fun _ _ _ _ _ _ h => by cases h
      obtain rfl := Except.ok.inj h
      simp [Claimed]
    · intro settlement h
      obtain rfl := Except.ok.inj h
      exact hnone _

def Consumes (orderId : Uuid) (now : Instant) (intents : List POSPaymentLinkIntent)
    (f : Pending) : Prop :=
  ∀ t id i, t.intents.lookup id = some i → (f t).intents.lookup id =
    some (if id ∈ intents.map (·.id) then consumeIntent orderId now i else i)

variable {user : AuthUser} {orderId newCustomerId : Uuid} {body : POSOrderCreateRequest}
  {now : Instant} {intents : List POSPaymentLinkIntent} {session session' : Session}

theorem Consumes.extend (h : Consumes orderId now intents session.pending)
    (hs : session.Extends Keeps session') : Consumes orderId now intents session'.pending := by
  obtain ⟨f, hf, hpending⟩ := hs
  intro t id i hi
  rw [hpending]
  exact hf _ _ _ (h t id i hi)

theorem consumes_stage {touched : List RowKey} (hs : Session.Extends Keeps {} session) :
    Consumes orderId now intents
      (session.stage touched (consumeIntents orderId now intents)).pending := by
  intro t id i hi
  have hkept := hs.pending t id i hi
  simp only [Session.stage, Function.comp_apply, lookup_consumeIntents, hkept, Option.map_some]

theorem guar_consumes (h : Consumes orderId now intents session.pending)
    (hpaid : ∀ i ∈ intents, i.status = .paid) (hheld : ∀ i ∈ intents, Held L db i)
    (hw : db.write session.pending = .ok db') : discipline.guar L db db' := by
  intro id i hi
  have hlookup := h _ id i hi
  rw [← (Database.write_ok hw).1] at hlookup
  refine ⟨_, hlookup, ?_⟩
  split
  next hid =>
    obtain ⟨j, hj, rfl⟩ := List.mem_map.mp hid
    obtain ⟨hL, hj'⟩ := hheld j hj
    obtain rfl := Option.some.inj (hj'.symm.trans hi)
    have hmoves : Transition j.status .consumed := by
      rw [hpaid j hj]
      exact .consume
    exact ⟨.inr hmoves, fun hnot => absurd hL hnot⟩
  next => exact ⟨.inl rfl, fun _ => rfl⟩

theorem sound_finishCheckout {order : Order} : Sound L db (finishCheckout user order) :=
  sound_of_writes (finishCheckout_writes keeps_neutral (fun _ => trivial)
    fun _ _ _ _ _ _ h => h)

theorem sound_saveCheckout {sale : Sale} {order : Order}
    (hconsumes : Consumes orderId now intents session.pending)
    (hpaid : ∀ i ∈ intents, i.status = .paid) (hheld : ∀ i ∈ intents, Held L db i) :
    Sound L db (saveCheckout user body sale order intents now session) := by
  have hconsumes : Consumes orderId now intents (session.stage [] (insertOrder order)).pending :=
    hconsumes.extend (Session.extends_stage fun _ _ _ h => h)
  refine sound_seq readOnly_read fun fault L' db' _ hsub hrely => ?_
  have hheld : ∀ i ∈ intents, Held L' db' i := fun i hi => (hheld i hi).stable hsub hrely
  split
  · exact sound_readOnly readOnly_replayIdempotentCheckout
  · refine sound_seq (readOnly_stageWhen keeps_neutral
      (Inventory.postSaleConsumption_stages keeps_neutral fun _ _ _ _ h => h))
      fun session' L' db' hs hsub hrely => ?_
    have hheld : ∀ i ∈ intents, Held L' db' i := fun i hi => (hheld i hi).stable hsub hrely
    have hrows {items event rows} : Keeps (insertOrderRows items event rows) := fun _ _ _ h => h
    have hconsumes : Consumes orderId now intents session'.pending :=
      (hconsumes.extend (Session.extends_stage hrows)).extend hs
    refine sound_bind ?_ fun fault _ _ => ?_
    · intro db'' _ hrely _
      refine ⟨fun saved hw => ⟨?_, trivial⟩, fun _ _ => trivial⟩
      refine guar_consumes hconsumes hpaid (fun i hi => ?_) hw
      exact (hheld i hi).stable Set.subset_union_left hrely
    · split
      · exact sound_readOnly readOnly_replayIdempotentCheckout
      · exact sound_finishCheckout

theorem sound_placeOrder {till : TillSession} {sale : Sale}
    (hs : Session.Extends Keeps {} session) :
    Sound L db (placeOrder user orderId body till sale session) := by
  refine sound_seq readOnly_readNow fun now _ _ _ _ _ => ?_
  refine safe_bind.mpr ((safe_settlePayments.and (safe_of_readOnly settlePayments_matches)).mono
    fun r L1 db1 h => ?_)
  obtain ⟨hclaimed, -, -, hmatches⟩ := h
  cases r with
  | error e => trivial
  | ok settlement =>
      have hclaimed := hclaimed settlement rfl
      have hmatches := (hmatches settlement rfl).1
      cases settlement with
      | replayed order => trivial
      | settled intents changeDue =>
          have hsequence (businessId : Uuid) (sequence : Nat) :
              Keeps (setOrderNumberSequence businessId sequence) := fun _ _ _ h => h
          refine sound_seq (nextOrderNumber_stages (hsequence _))
            fun numbered L2 db2 hnumbered hsub hrely => ?_
          exact sound_saveCheckout ((consumes_stage hs).extend hnumbered)
            (fun i hi => (hmatches.2 i hi).1) fun i hi => (hclaimed i hi).stable hsub hrely

theorem sound_createPosOrder : Sound L db (createPosOrder user orderId newCustomerId body) := by
  refine sound_seq readOnly_requirePosEnabled fun _ _ _ _ _ _ => ?_
  refine sound_seq readOnly_requireStaffOrAbove fun _ _ _ _ _ _ => ?_
  refine sound_seq readOnly_replay fun existing _ _ _ _ _ => ?_
  split
  · trivial
  · refine sound_seq readOnly_getOpenTill fun till _ _ _ _ _ => ?_
    refine sound_seq (prepareSale_stages keeps_neutral (fun _ _ _ _ _ _ h => h)
      fun _ _ _ _ _ _ _ h => h) fun prepared _ _ hs _ _ => ?_
    exact sound_placeOrder hs

theorem sound_reply {wrap : α → Reply} {x : Handler α} (h : Sound L db x) :
    Sound L db (reply wrap x) :=
  sound_bind h fun _ _ _ => trivial

theorem sound_neutral {request : Request} (h : ∀ f, Stages request f → Keeps f) :
    Sound L db (handle request) :=
  sound_of_writes (handle_writes keeps_neutral h)

theorem sound_handle (request : Request) : Sound L db (handle request) := by
  cases request with
  | yocoWebhook businessId delivery => exact sound_reply sound_jsonWebhook
  | payfastWebhook businessId delivery => exact sound_reply sound_payfastWebhook
  | ikhokaWebhook businessId delivery => exact sound_reply sound_jsonWebhook
  | stitchWebhook businessId delivery => exact sound_reply sound_jsonWebhook
  | createPosOrder user orderId newCustomerId body => exact sound_reply sound_createPosOrder
  | getPosPaymentIntent user intentId => exact sound_reply sound_getPosPaymentIntent
  | resendPosPaymentIntent user intentId tooSoon => exact sound_reply sound_resendPosPaymentIntent
  | cancelPosPaymentIntent user intentId => exact sound_reply sound_cancelPosPaymentIntent
  | createPosPaymentIntent settings hostedUrl user intentId body =>
      refine sound_neutral fun f hf => ?_
      cases hf with
      | insertIntent => exact fun _ _ _ h => Table.lookup_insert_of_some h
      | expireIntent hwebhook | payIntent hwebhook => cases hwebhook
      | _ => exact fun _ _ _ h => h
  | _ =>
      refine sound_neutral fun f hf => ?_
      cases hf with
      | expireIntent hwebhook | payIntent hwebhook => cases hwebhook
      | _ => exact fun _ _ _ h => h

theorem respects_environment : discipline.Respects Environment := by
  refine fun a b _ henv => ⟨trivial, fun L id i _ hi => ?_⟩
  rw [henv.intents]
  exact hi

abbrev Server (ι : Type) := Config ι Database RowKey CommitSite Failure Reply

def serve {ι : Type} (db : Database) (request : ι → Request) : Server ι :=
  start db fun i => handle (request i)

theorem transition_consumed {status : IntentStatus} : ¬ Transition .consumed status := by
  rintro ⟨⟩

theorem paid_kept {status status' : IntentStatus}
    (h : Relation.ReflTransGen Transition status status')
    (hpaid : status = .paid ∨ status = .consumed) : status' = .paid ∨ status' = .consumed := by
  induction h with
  | refl => exact hpaid
  | tail _ hstep ih =>
      rcases ih with rfl | rfl
      · cases hstep
        exact .inr rfl
      · exact (transition_consumed hstep).elim

def Forward (i i' : POSPaymentLinkIntent) : Prop :=
  Relation.ReflTransGen Transition i.status i'.status ∧ (i.status = .consumed → i' = i)

theorem forward_of_moves {i i' : POSPaymentLinkIntent} (h : Moves i i') : Forward i i' := by
  rcases h with rfl | hstep
  · exact ⟨.refl, fun _ => rfl⟩
  · refine ⟨.single hstep, fun hconsumed => ?_⟩
    rw [hconsumed] at hstep
    exact (transition_consumed hstep).elim

theorem Forward.trans {i i' i'' : POSPaymentLinkIntent} (h : Forward i i') (h' : Forward i' i'') :
    Forward i i'' := by
  refine ⟨h.1.trans h'.1, fun hconsumed => ?_⟩
  obtain rfl := h.2 hconsumed
  exact h'.2 hconsumed

def Evolves (db db' : Database) : Prop :=
  ∀ id i, db.intents.lookup id = some i → ∃ i', db'.intents.lookup id = some i' ∧ Forward i i'

theorem evolves_refl (db : Database) : Evolves db db :=
  fun _ i hi => ⟨i, hi, .refl, fun _ => rfl⟩

theorem evolves_trans (a b c : Database) (hab : Evolves a b) (hbc : Evolves b c) :
    Evolves a c := by
  intro id i hi
  obtain ⟨i', hi', hforward⟩ := hab id i hi
  obtain ⟨i'', hi'', hforward'⟩ := hbc id i' hi'
  exact ⟨i'', hi'', hforward.trans hforward'⟩

section Runs

variable {ι : Type} [DecidableEq ι] {request : ι → Request} {c c' : Server ι}

abbrev TimelyRun (c c' : Server ι) : Prop :=
  Reachable Environment (fun c i => c.Meets pollFindsUnpaid i) c c'

theorem consistent_serve (hc : TimelyRun (serve db request) c) :
    Consistent discipline (fun _ _ => True) c :=
  consistent_reachable respects_environment (fun _ _ h => h)
    (consistent_start trivial fun i => sound_handle (request i)) hc

theorem run_evolves (hc : TimelyRun (serve db request) c) (hc' : TimelyRun c c') : Evolves c.db c'.db := by
  refine reachable_evolves evolves_refl evolves_trans (fun L a b _ hguar id i hi => ?_)
    (fun a b _ henv id i hi => ?_) respects_environment (fun _ _ h => h) (consistent_serve hc) hc'
  · obtain ⟨i', hi', hmoves, -⟩ := hguar id i hi
    exact ⟨i', hi', forward_of_moves hmoves⟩
  · rw [← henv.intents] at hi
    exact ⟨i, hi, .refl, fun _ => rfl⟩

theorem intent_moves_forward (hc : TimelyRun (serve db request) c) (hc' : TimelyRun c c') {id : Uuid}
    {i : POSPaymentLinkIntent} (hi : c.db.intents.lookup id = some i) :
    ∃ i', c'.db.intents.lookup id = some i' ∧
      Relation.ReflTransGen Transition i.status i'.status ∧
      (i.status = .paid ∨ i.status = .consumed → i'.status ≠ .expired ∧ i'.status ≠ .cancelled) ∧
      (i.status = .consumed → i' = i) := by
  obtain ⟨i', hi', htrans, hconsumed⟩ := run_evolves hc hc' id i hi
  refine ⟨i', hi', htrans, fun hpaid => ?_, hconsumed⟩
  rcases paid_kept htrans hpaid with h | h <;> simp [h]

end Runs

def cafe : Business where
  id := 1
  posYocoEnabled := true
  paymentWebhookSecret := some "whsec"

def splitLink : POSPaymentLinkIntent where
  id := 5
  businessId := 1
  tillSessionId := none
  createdByUserId := none
  amountCents := 100
  currency := "ZAR"
  provider := "YOCO"
  status := .pending
  customerPhone := none
  createdAt := 0
  expiresAt := 900

def awaitingPayment : Database where
  businesses := [cafe]
  intents := [splitLink]
  now := 899
  valid := Tables.violation_eq_none.mp (by decide +kernel)

def splitLinkPaid : Payments.Json :=
  .obj [("type", .str "payment.succeeded"),
    ("payload", .obj [("status", .str "successful"), ("id", .str "p_1"), ("amount", .num 100),
      ("currency", .str "ZAR"),
      ("metadata", .obj [("orderId", .str "pos_intent:00000000-0000-0000-0000-000000000005")])])]

def cashier : AuthUser where
  userId := 7
  businessId := 1
  role := .staff

def pollAndPay : Bool → Request
  | false => .yocoWebhook 1 ⟨some splitLinkPaid, .hmacBody "whsec" (some splitLinkPaid)⟩
  | true => .getPosPaymentIntent cashier 5

def statusOf (c : Server Bool) (id : Uuid) : Option IntentStatus :=
  (c.db.intents.lookup id).map (·.status)

theorem paid_intent_stays_paid :
    ∃ c ∈ (serve awaitingPayment pollAndPay).schedule (fun c i => c.Meets pollFindsUnpaid i)
        [false, false, false, false],
      ∃ c' ∈ c.schedule (fun c i => c.Meets pollFindsUnpaid i) [true, true, true],
        ∃ i', c'.db.intents.lookup 5 = some i' ∧ i'.status ≠ .expired ∧ i'.status ≠ .cancelled := by
  have hrun : ∃ c ∈ (serve awaitingPayment pollAndPay).schedule
      (fun c i => c.Meets pollFindsUnpaid i) [false, false, false, false],
      statusOf c 5 = some .paid ∧
        ∃ c' ∈ c.schedule (fun c i => c.Meets pollFindsUnpaid i) [true, true, true], True := by
    decide +kernel
  obtain ⟨c, hc, hpaid, c', hc', -⟩ := hrun
  obtain ⟨i, hi, hstatus⟩ := Option.map_eq_some_iff.mp hpaid
  obtain ⟨i', hi', -, hkept, -⟩ :=
    intent_moves_forward (schedule_reachable hc) (schedule_reachable hc') hi
  exact ⟨c, hc, c', hc', i', hi', hkept (.inl hstatus)⟩

def later (c : Server Bool) (now : Instant) : Server Bool :=
  { c with db := { c.db with now := now } }

theorem later_step {admits : Server Bool → Bool → Prop} {c : Server Bool} {now : Instant}
    (h : c.db.now ≤ now) : Step Environment admits c (later c now) :=
  .environment ⟨h, fun _ => rfl, rfl, rfl, rfl, rfl, rfl, rfl, rfl, rfl, rfl⟩

-- The poll reads the pending intent, the payment lands, and the poll then saves its expiry.
theorem paid_intent_expired_by_poll :
    ¬ ∀ (db : Database) (request : Bool → Request) (c c' : Server Bool) (id : Uuid)
        (i : POSPaymentLinkIntent),
      Reachable Environment (fun _ _ => True) (serve db request) c →
      Reachable Environment (fun _ _ => True) c c' →
      c.db.intents.lookup id = some i → i.status = .paid →
      ∃ i', c'.db.intents.lookup id = some i' ∧ i'.status ≠ .expired := by
  intro h
  have hrun : ∃ c1 ∈ (serve awaitingPayment pollAndPay).schedule (fun _ _ => True)
      [false, false, false],
      c1.db.now ≤ 900 ∧ ∃ c ∈ (later c1 900).schedule (fun _ _ => True) [true, true, true, false],
        statusOf c 5 = some .paid ∧
          ∃ c' ∈ c.schedule (fun _ _ => True) [true], statusOf c' 5 = some .expired := by
    decide +kernel
  obtain ⟨c1, hc1, hnow, c, hc, hpaid, c', hc', hexpired⟩ := hrun
  have hreach : Reachable Environment (fun _ _ => True) (serve awaitingPayment pollAndPay) c :=
    ((schedule_reachable hc1).tail (later_step hnow)).trans (schedule_reachable hc)
  obtain ⟨i, hi, hstatus⟩ := Option.map_eq_some_iff.mp hpaid
  obtain ⟨i', hi', hnot⟩ := h _ _ c c' 5 i hreach (schedule_reachable hc') hi hstatus
  obtain ⟨j, hj, hstatus'⟩ := Option.map_eq_some_iff.mp hexpired
  obtain rfl := Option.some.inj (hi'.symm.trans hj)
  exact hnot hstatus'

end NextgenBackend.IntentLifecycle
