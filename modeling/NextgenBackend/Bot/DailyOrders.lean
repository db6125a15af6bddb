import NextgenBackend.Bot.UsageTracker
import NextgenBackend.Bot.PriorOrders
import NextgenBackend.Orders.Commits

namespace NextgenBackend.DailyOrders

open Txn Interleaving

open NextgenBackend.Bot

open Orders (readOnly_view updateOrder_ok)

open RoutesPayments (addOrderEvent)

open RoutesPos (insertOrder insertOrderRows setOrderNumberSequence)

def ordersCreated (t : Tables) (businessId : Uuid) (day : Int) : Int :=
  (t.dailyUsage.lookup (businessId, day)).elim 0 (·.counts.ordersCreated)

def stamp (o : Order) : Uuid × OrderSource × Instant :=
  (o.businessId, o.source, o.createdAt)

def terms (b : Business) : Uuid × String × Int :=
  (b.id, b.timezone, b.dailyOrderLimit)

-- What a write adds to the orders and to the counters; every business keeps its terms.
structure Tallied (stamps : List (Uuid × OrderSource × Instant)) (adds : Uuid → Int → Int)
    (f : Pending) : Prop where
  businesses : ∀ t, (f t).businesses.map terms = t.businesses.map terms
  orders : ∀ t, (f t).orders.map stamp = t.orders.map stamp ++ stamps
  usage : ∀ t businessId day,
    ordersCreated (f t) businessId day = ordersCreated t businessId day + adds businessId day

abbrev Plain : Pending → Prop := Tallied [] fun _ _ => 0

section Writes

variable {stamps stamps' : List (Uuid × OrderSource × Instant)} {adds adds' : Uuid → Int → Int}
  {f g : Pending}

theorem Tallied.comp (hf : Tallied stamps adds f) (hg : Tallied stamps' adds' g) :
    Tallied (stamps ++ stamps') (fun businessId day => adds businessId day + adds' businessId day)
      (g ∘ f) := by
  constructor
  · intro t
    exact (hg.businesses (f t)).trans (hf.businesses t)
  · intro t
    rw [Function.comp_apply, hg.orders, hf.orders, List.append_assoc]
  · intro t businessId day
    rw [Function.comp_apply, hg.usage, hf.usage, add_assoc]

theorem Tallied.plain (hf : Tallied stamps adds f) (hg : Plain g) : Tallied stamps adds (g ∘ f) := by
  simpa using hf.comp hg

theorem Plain.tallied (hf : Plain f) (hg : Tallied stamps adds g) : Tallied stamps adds (g ∘ f) := by
  simpa using Tallied.comp hf hg

theorem plain_neutral : Neutral Plain where
  id := ⟨fun _ => rfl, by simp, by simp⟩
  comp _ _ hf hg := hf.plain hg

theorem plain_same (hbusinesses : ∀ t, (f t).businesses = t.businesses)
    (horders : ∀ t, (f t).orders = t.orders) (husage : ∀ t, (f t).dailyUsage = t.dailyUsage) :
    Plain f := by
  constructor
  · intro t
    rw [hbusinesses]
  · intro t
    rw [horders, List.append_nil]
  · intro t businessId day
    simp [ordersCreated, husage]

theorem plain_setOrder {orderId : Uuid} {set : Order → Order}
    (hset : ∀ o, stamp (set o) = stamp o) : Plain (setOrder orderId set) := by
  constructor
  · intro t
    rfl
  · intro t
    simp only [setOrder, Table.modify, List.map_map, List.append_nil]
    apply List.map_congr_left
    intro o _
    simp only [Function.comp_apply]
    split
    · exact hset o
    · rfl
  · intro t businessId day
    simp [ordersCreated, setOrder]

theorem plain_setOrderNumberSequence {businessId : Uuid} {sequence : Nat} :
    Plain (setOrderNumberSequence businessId sequence) := by
  constructor
  · intro t
    simp only [setOrderNumberSequence, Table.modify, List.map_map]
    apply List.map_congr_left
    intro b _
    simp only [Function.comp_apply]
    split
    · rfl
    · rfl
  · intro t
    simp [setOrderNumberSequence]
  · intro t businessId day
    simp [ordersCreated, setOrderNumberSequence]

theorem tallied_insertOrder (order : Order) :
    Tallied [stamp order] (fun _ _ => 0) (insertOrder order) := by
  constructor
  · intro t
    rfl
  · intro t
    simp [insertOrder, Table.insert]
  · intro t businessId day
    simp [ordersCreated, insertOrder]

theorem tallied_upsertUsage (businessId : Uuid) (day : Int) (counts : UsageCounts) :
    Tallied [] (fun b d => if b = businessId ∧ d = day then counts.ordersCreated else 0)
      (upsertUsage businessId day counts) := by
  constructor
  · intro t
    unfold upsertUsage
    split <;> rfl
  · intro t
    unfold upsertUsage
    split <;> simp
  · intro t b d
    have hkey (usage : DailyUsage) : key (addUsage counts usage) = key usage := rfl
    unfold upsertUsage
    split
    next hnone =>
      by_cases hbd : b = businessId ∧ d = day
      · obtain ⟨rfl, rfl⟩ := hbd
        have hrow : (t.dailyUsage.insert ⟨b, d, counts⟩).lookup (b, d) = some ⟨b, d, counts⟩ :=
          Table.lookup_insert_self hnone
        simp [ordersCreated, hrow, hnone]
      · have hne : key (⟨businessId, day, counts⟩ : DailyUsage) ≠ (b, d) := by
          rintro h
          exact hbd ⟨(Prod.ext_iff.mp h).1.symm, (Prod.ext_iff.mp h).2.symm⟩
        simp [ordersCreated, Table.lookup_insert_ne hne, hbd]
    next usage hsome =>
      by_cases hbd : b = businessId ∧ d = day
      · obtain ⟨rfl, rfl⟩ := hbd
        simp [ordersCreated, Table.lookup_modify_self hkey, hsome, addUsage, UsageCounts.add]
      · have hne : (b, d) ≠ (businessId, day) := by
          rintro h
          exact hbd ⟨(Prod.ext_iff.mp h).1, (Prod.ext_iff.mp h).2⟩
        simp [ordersCreated, Table.lookup_modify_ne hkey hne, hbd]

end Writes

section Bot

variable {session : Session} {business : Business} {customer : Customer} {message : InboundMessage}

theorem plain_addOrderEvent {event : OrderEvent} : Plain (addOrderEvent event) :=
  plain_same (fun _ => rfl) (fun _ => rfl) fun _ => rfl

theorem plain_appendMovements {movements : List StockMovement} :
    Plain (Inventory.appendMovements movements) :=
  plain_same (fun _ => rfl) (fun _ => rfl) fun _ => rfl

theorem updateOrder_plain {orderId : Uuid} {condition : Order → Bool} {set : Order → Order}
    (hset : ∀ o, stamp (set o) = stamp o) :
    (updateOrder session orderId condition set).ReadOnly fun updated =>
      session.Extends Plain updated.1 := by
  apply Conforms.mono updateOrder_ok (fun _ _ _ => id)
  intro updated hupdated
  rw [hupdated]
  split
  · exact Session.extends_stage (plain_setOrder hset)
  · exact plain_neutral.refl

theorem reverseIfFound_plain {orderId : Uuid} {previous : Option OrderStatus} :
    (reverseIfFound session business orderId previous).ReadOnly (session.Extends Plain) := by
  unfold reverseIfFound
  split
  · exact plain_neutral.refl
  · exact Inventory.reverseConsumptionOnCancel_stages plain_neutral
      fun _ _ _ _ => plain_appendMovements

-- An order is updated, its event added, and what it took from stock returned.
theorem cancelled_plain {orderId : Uuid} {event : OrderEvent} {previous : Option OrderStatus}
    {updated : Session} (h : session.Extends Plain updated) :
    (reverseIfFound (updated.stage [] (addOrderEvent event)) business orderId previous).ReadOnly
      (session.Extends Plain) := by
  apply Conforms.mono reverseIfFound_plain (fun _ _ _ => id)
  intro session' hs
  have hevent : updated.Extends Plain (updated.stage [] (addOrderEvent event)) :=
    Session.extends_stage plain_addOrderEvent
  exact plain_neutral.trans h (plain_neutral.trans hevent hs)

theorem cancelSupersededOrder_plain {superseded : Option Uuid} :
    (cancelSupersededOrder session business superseded).ReadOnly fun cancelled =>
      session.Extends Plain cancelled.1 := by
  unfold cancelSupersededOrder
  split
  · exact plain_neutral.refl
  · have hset (o : Order) :
        stamp (cancelWith "Superseded by customer modification" o) = stamp o := rfl
    apply readOnly_seq readOnly_view
    intro previous
    apply conforms_bind (updateOrder_plain hset)
    intro updated hupdated
    apply conforms_bind (cancelled_plain hupdated)
    intro session' hs
    exact hs

theorem cancelOldOrders_plain {orders : List Order} :
    (cancelOldOrders business orders session).ReadOnly (session.Extends Plain) := by
  induction orders generalizing session with
  | nil => exact plain_neutral.refl
  | cons old orders ih =>
      have hset : session.Extends Plain (session.stage [.order old.id]
          (setOrder old.id fun o => { o with status := .cancelled })) :=
        Session.extends_stage (plain_setOrder fun _ => rfl)
      have hreturned {session : Session} : (Inventory.reverseConsumptionOnCancel session business.id
          business.inventoryEnabled old.id old.status none).ReadOnly (session.Extends Plain) :=
        Inventory.reverseConsumptionOnCancel_stages plain_neutral fun _ _ _ _ => plain_appendMovements
      apply conforms_bind hreturned
      intro session' hs
      have hevent : session.Extends Plain ((session.stage [.order old.id]
          (setOrder old.id fun o => { o with status := .cancelled })).stage [] (addOrderEvent
            (statusEvent old.id business.id none .cancelled "Superseded by new customer order"))) :=
        plain_neutral.trans hset (Session.extends_stage plain_addOrderEvent)
      exact Conforms.mono ih (fun _ _ _ => id)
        fun _ h => plain_neutral.trans (plain_neutral.trans hevent hs) h

theorem cancelPriorLiveOrders_plain {excludeOrderId : Uuid} :
    (cancelPriorLiveOrders session business customer excludeOrderId).ReadOnly fun cancelled =>
      session.Extends Plain cancelled.1 := by
  apply readOnly_seq readOnly_view
  intro old
  apply conforms_bind cancelOldOrders_plain
  intro session' hs
  apply readOnly_seq readOnly_lockOrders
  intro _
  exact hs

-- The one order a message adds, whenever the clock says it was created.
def Adds (business : Business) (session session' : Session) : Prop :=
  ∃ createdAt, session.Extends (Tallied [(business.id, .whatsapp, createdAt)] fun _ _ => 0) session'

theorem Adds.plain {session' session'' : Session} (h : Adds business session session')
    (h' : session'.Extends Plain session'') : Adds business session session'' := by
  obtain ⟨createdAt, f, hf, hpending⟩ := h
  obtain ⟨g, hg, hpending'⟩ := h'
  refine ⟨createdAt, g ∘ f, hf.plain hg, ?_⟩
  rw [hpending', hpending]
  rfl

theorem adds_after {session' session'' : Session} (h : session.Extends Plain session')
    (h' : Adds business session' session'') : Adds business session session'' := by
  obtain ⟨f, hf, hpending⟩ := h
  obtain ⟨createdAt, g, hg, hpending'⟩ := h'
  refine ⟨createdAt, g ∘ f, Plain.tallied hf hg, ?_⟩
  rw [hpending', hpending]
  rfl

theorem createOrderFromCart_adds {orderId : Uuid} {context : Context} {status : OrderStatus} :
    (createOrderFromCart session orderId business customer context status).ReadOnly
      (Adds business session) := by
  unfold createOrderFromCart
  dsimp only
  split
  · trivial
  · apply conforms_bind (RoutesPos.nextOrderNumber_stages fun _ => plain_setOrderNumberSequence)
    rintro ⟨sequence, currency, session'⟩ hnumbered
    apply readOnly_seq readOnly_readNow
    intro now
    dsimp only at hnumbered ⊢
    generalize horder : newOrder orderId business customer context status sequence now = order
    have hstamp : stamp order = (business.id, .whatsapp, now) := horder ▸ rfl
    have hinserted : Adds business session (session'.stage [] (insertOrder order)) :=
      adds_after hnumbered ⟨now, hstamp ▸ Session.extends_stage (tallied_insertOrder order)⟩
    have hrows (items : List OrderItem) : Plain (insertOrderRows items (creationEvent order) []) :=
      plain_same (fun _ => rfl) (fun _ => rfl) fun _ => rfl
    have hstaged {session : Session} (items : List OrderItem) : session.Extends Plain
        (session.stage [] (insertOrderRows items (creationEvent order) [])) :=
      Session.extends_stage (hrows items)
    have hplaced := hinserted.plain (hstaged ((orderCart context).map (cartOrderItem order)))
    apply Conforms.mono (readOnly_stageWhen plain_neutral (Inventory.postSaleConsumption_stages
      plain_neutral fun _ => plain_appendMovements)) (fun _ _ _ => id)
    intro session'' hs
    exact hplaced.plain hs

theorem placeOrder_adds {superseded : Option Uuid} {status : OrderStatus} {context : Context} :
    (placeOrder session message business customer superseded status context).ReadOnly fun placed =>
      Adds business session placed.1 := by
  apply conforms_bind cancelSupersededOrder_plain
  intro cancelled hcancelled
  apply conforms_bind createOrderFromCart_adds
  intro session' hs
  apply conforms_bind cancelPriorLiveOrders_plain
  intro prior hprior
  exact (adds_after hcancelled hs).plain hprior

theorem rejectDeliveryFee_plain {orderId : Uuid} :
    (rejectDeliveryFee session business orderId).ReadOnly fun rejected =>
      session.Extends Plain rejected.1 := by
  have hset (o : Order) : stamp (cancelWith "Customer rejected delivery fee" o) = stamp o := rfl
  unfold rejectDeliveryFee
  apply readOnly_seq readOnly_view
  intro previous
  apply conforms_bind (updateOrder_plain hset)
  intro updated hupdated
  apply conforms_bind (cancelled_plain hupdated)
  intro session' hs
  exact hs

theorem finalizeDelivery_plain {orderId : Uuid} {feeCents : Cents}
    {payment : Option ChosenPayment} :
    (finalizeDelivery session business orderId feeCents payment).ReadOnly fun finalized =>
      session.Extends Plain finalized.1 := by
  have hset (o : Order) : stamp (finalizeWith business feeCents payment o) = stamp o := rfl
  apply conforms_bind (updateOrder_plain hset)
  intro updated hupdated
  exact plain_neutral.trans hupdated (Session.extends_stage plain_addOrderEvent)

def Performed (business : Business) (effect : Option Effect) (session session' : Session) : Prop :=
  match effect with
  | some (.placeOrder _ _ _) => Adds business session session'
  | _ => session.Extends Plain session'

theorem perform_performed {turn : Turn} :
    (perform session message business turn).ReadOnly fun performed =>
      Performed business turn.effect session performed.1 := by
  unfold perform
  split
  next heffect =>
    rw [heffect]
    exact plain_neutral.refl
  next heffect =>
    rw [heffect]
    exact placeOrder_adds
  next heffect =>
    rw [heffect]
    exact rejectDeliveryFee_plain
  next heffect =>
    rw [heffect]
    exact finalizeDelivery_plain

end Bot

section Metered

variable {localDate : String → Instant → Int} {session : Session} {business : Business}
  {message : InboundMessage}

def stampsOf (tally : Tally) : List (Uuid × OrderSource × Instant) :=
  tally.placed.toList.map fun placed => (tally.businessId, .whatsapp, placed.createdAt)

def counts (tally : Tally) : Bool :=
  tally.finalized || tally.placed.any fun placed => placed.status = .new

def addsOf (tally : Tally) (businessId : Uuid) (day : Int) : Int :=
  if counts tally ∧ businessId = tally.businessId ∧ day = tally.today then 1 else 0

abbrev Tells (tally : Tally) : Pending → Prop := Tallied (stampsOf tally) (addsOf tally)

theorem tells_nothing (h : Plain session.pending) : Tells {} session.pending := h

theorem last_stamp {f : Pending} {t : Tables} {s : Uuid × OrderSource × Instant}
    (h : Tallied [s] (fun _ _ => 0) f) : (f t).orders.getLast?.map stamp = some s := by
  rw [← List.getLast?_map, h.orders]
  simp

theorem incrementUsage_tallies {stamps : List (Uuid × OrderSource × Instant)}
    {usage : UsageCounts} (h : Tallied stamps (fun _ _ => 0) session.pending) :
    (incrementUsage localDate session business usage).ReadOnly fun counted =>
      Tallied stamps (fun b d => if b = business.id ∧ d = counted.2 then usage.ordersCreated else 0)
        counted.1.pending := by
  apply readOnly_seq readOnly_readNow
  intro now
  have hcounted := h.comp
    (tallied_upsertUsage business.id (localDate business.timezone now) usage)
  simp only [List.append_nil, zero_add] at hcounted
  exact hcounted

theorem countOrder_tells {session₀ : Session} {effect : Option Effect}
    (hstart : Plain session₀.pending) (h : Performed business effect session₀ session) :
    (countOrder localDate session business effect).ReadOnly fun counted =>
      Tells counted.2 counted.1.pending := by
  unfold countOrder
  split
  next superseded status context =>
    obtain ⟨createdAt, f, hf, hpending⟩ := h
    have hplaced : Tallied [(business.id, .whatsapp, createdAt)] (fun _ _ => 0) session.pending :=
      hpending ▸ Plain.tallied hstart hf
    have hviewed : (view session fun t => t.orders.getLast?).ReadOnly fun order =>
        order.map stamp = some (business.id, .whatsapp, createdAt) := fun _ => last_stamp hplaced
    apply conforms_bind hviewed
    intro order horder
    obtain ⟨o, rfl, hstamp⟩ := Option.map_eq_some_iff.mp horder
    obtain rfl : o.createdAt = createdAt := congrArg (·.2.2) hstamp
    dsimp only
    split
    next hnew =>
      apply conforms_bind (incrementUsage_tallies hplaced)
      rintro ⟨session', today⟩ hcounted
      have hadds : addsOf ⟨business.id, some ⟨status, o.createdAt⟩, false, today⟩ =
          fun b d => if b = business.id ∧ d = today then 1 else 0 := by
        funext b d
        simp [addsOf, counts, hnew]
      change Tells ⟨business.id, some ⟨status, o.createdAt⟩, false, today⟩ session'.pending
      rw [Tells, hadds]
      exact hcounted
    next hparked =>
      have hadds : addsOf ⟨business.id, some ⟨status, o.createdAt⟩, false, 0⟩ = fun _ _ => 0 := by
        funext b d
        simp [addsOf, counts, hparked]
      change Tells ⟨business.id, some ⟨status, o.createdAt⟩, false, 0⟩ session.pending
      rw [Tells, hadds]
      exact hplaced
  next orderId feeCents payment =>
    obtain ⟨f, hf, hpending⟩ := h
    have hplain : Plain session.pending := hpending ▸ hstart.plain hf
    apply readOnly_seq readOnly_view
    intro row
    apply conforms_bind (incrementUsage_tallies hplain)
    rintro ⟨session', today⟩ hcounted
    have hadds : addsOf ⟨business.id, none, true, today⟩ =
        fun b d => if b = business.id ∧ d = today then 1 else 0 := by
      funext b d
      simp [addsOf, counts]
    change Tells ⟨business.id, none, true, today⟩ session'.pending
    rw [Tells, hadds]
    exact hcounted
  next hplace _ =>
    have hplain : session₀.Extends Plain session := by
      unfold Performed at h
      split at h
      · exact absurd rfl (hplace _ _ _)
      · exact h
    obtain ⟨f, hf, hpending⟩ := hplain
    exact tells_nothing (hpending ▸ hstart.plain hf)

theorem Tallied.stage {stamps : List (Uuid × OrderSource × Instant)} {adds : Uuid → Int → Int}
    {f : Pending} (h : Tallied stamps adds session.pending) (touched : List RowKey) (hf : Plain f) :
    Tallied stamps adds (session.stage touched f).pending :=
  h.plain hf

theorem plain_setCustomer {customerId : Uuid} {set : Customer → Customer} :
    Plain (setCustomer customerId set) :=
  plain_same (fun _ => rfl) (fun _ => rfl) fun _ => rfl

theorem plain_setConversation {businessId customerId : Uuid}
    {set : ConversationSession → ConversationSession} :
    Plain (setConversation businessId customerId set) :=
  plain_same (fun _ => rfl) (fun _ => rfl) fun _ => rfl

theorem getOrCreateCustomer_plain {businessId : Uuid} :
    (getOrCreateCustomer businessId message).ReadOnly fun known => Plain known.2.pending := by
  have hempty : Plain ({} : Session).pending := plain_neutral.id
  apply readOnly_seq readOnly_read
  intro known
  split
  · exact hempty
  · apply readOnly_seq readOnly_lock
    intro inserted
    split
    · exact hempty
    · exact hempty.stage [] (plain_same (fun _ => rfl) (fun _ => rfl) fun _ => rfl)

theorem getOrCreateSession_plain {businessId customerId : Uuid} (h : Plain session.pending) :
    (getOrCreateSession session businessId customerId).ReadOnly fun resumed =>
      Plain resumed.2.pending := by
  apply readOnly_seq readOnly_readNow
  intro now
  apply readOnly_seq readOnly_lock
  intro row
  split
  · exact h
  · exact h.stage _ (plain_same (fun _ => rfl) (fun _ => rfl) fun _ => rfl)

def Told (processed : Processed) : Prop :=
  Tells processed.tally processed.session.pending

theorem converseMetered_told {loaded customer : Customer} (h : Plain session.pending) :
    (converseMetered localDate session message business loaded customer).ReadOnly Told := by
  apply conforms_bind (getOrCreateSession_plain h)
  rintro ⟨conversation, session₀⟩ hstart
  apply readOnly_seq readOnly_lock
  intro _
  apply readOnly_seq readOnly_read
  intro lastOrder
  have hchecked : (checkDailyLimit localDate session₀ business .orders).ReadOnly fun _ => True :=
    fun _ _ => trivial
  apply readOnly_seq hchecked
  intro allowed
  dsimp only
  apply conforms_bind perform_performed
  rintro ⟨session₁, moves⟩ hperformed
  apply conforms_bind (countOrder_tells hstart hperformed)
  rintro ⟨session₂, tally⟩ htells
  exact (Tallied.stage htells _ plain_setConversation).stage _ plain_setCustomer

theorem receive_told {converse : Conversing}
    (h : ∀ session business loaded customer, Plain session.pending →
      (converse session business loaded customer).ReadOnly Told) :
    (receive message converse).ReadOnly Told := by
  have hkeep {session : Session} {customer : Customer} {set : Customer → Customer}
      (h : Plain session.pending) :
      Plain (session.stage [.customer customer.id] (setCustomer customer.id set)).pending :=
    h.stage _ plain_setCustomer
  apply readOnly_seq readOnly_read
  intro receiver
  split
  · exact plain_neutral.id
  next business =>
    split
    · exact plain_neutral.id
    · apply conforms_bind getOrCreateCustomer_plain
      rintro ⟨loaded, session⟩ hknown
      apply readOnly_seq readOnly_readNow
      intro now
      apply readOnly_seq readOnly_lock
      intro taken
      split
      · exact hkeep hknown
      · have hreserved := Tallied.stage hknown [] (plain_same (f := insertMessage (reservation
            business.id (greetCustomer now message.contactName loaded).id message))
              (fun _ => rfl) (fun _ => rfl) fun _ => rfl)
        have hkept := hreserved.stage [] (plain_same (f := persistInbound message)
          (fun _ => rfl) (fun _ => rfl) fun _ => rfl)
        dsimp only
        split
        · exact hkeep hreserved
        · split
          · exact hkeep hkept
          · split
            · exact hkeep hkept
            · exact h _ _ _ _ hkept

def Metered (site : CommitSite) (f : Pending) : Prop :=
  ∃ waMessageId tally, site = .meteredMessage waMessageId tally ∧ Tells tally f

theorem processMetered_commits : Commits Metered (processMetered localDate message) := by
  have hreceived : (receive message fun session business loaded customer =>
      converseMetered localDate session message business loaded customer).ReadOnly Told :=
    receive_told fun _ _ _ _ => converseMetered_told
  have hattempted : (receive message fun session business loaded customer =>
      converseMetered localDate session message business loaded customer).attempt.ReadOnly
        fun attempted => ∀ processed, attempted = .ok processed → Told processed := by
    apply conforms_attempt hreceived
    · rintro processed h _ ⟨⟩
      exact h
    · rintro e _ ⟨⟩
  apply commits_seq hattempted
  intro attempted htold
  split
  · trivial
  next processed =>
    apply commits_bind
    · exact conforms_tryCommit ⟨_, ⟨_, _, rfl, htold processed rfl⟩, rfl⟩ fun _ => trivial
    · intro _
      exact commits_done ()

end Metered

section Runs

variable (localDate : String → Instant → Int)

def isOn (business : Business) (day : Int) (s : Uuid × OrderSource × Instant) : Bool :=
  s.1 = business.id && s.2.1 = .whatsapp && localDate business.timezone s.2.2 = day

-- The bot's orders of a business that were created on a day of its own calendar.
def created (t : Tables) (business : Business) (day : Int) : Int :=
  (t.orders.map stamp).countP (isOn localDate business day)

def WithinLimit (t : Tables) : Prop :=
  ∀ business ∈ t.businesses, ∀ day, created localDate t business day ≤ business.dailyOrderLimit

def CountedOnce (t t' : Tables) : Prop :=
  ∀ business ∈ t'.businesses, ∀ day,
    created localDate t' business day - created localDate t business day =
      ordersCreated t' business.id day - ordersCreated t business.id day

def Covered (t : Tables) : Prop :=
  ∀ business ∈ t.businesses, ∀ day,
    created localDate t business day ≤ ordersCreated t business.id day

-- Staff and other channels add no bot order, take no count back and lower no limit.
def Elsewhere (db db' : Database) : Prop :=
  ∀ business' ∈ db'.businesses, ∃ business ∈ db.businesses, business.id = business'.id ∧
    business.timezone = business'.timezone ∧ business.dailyOrderLimit ≤ business'.dailyOrderLimit ∧
      ∀ day, created localDate db'.toTables business' day = created localDate db.toTables business day ∧
        ordersCreated db.toTables business.id day ≤ ordersCreated db'.toTables business.id day

-- No delivery order is parked or finalized, midnight does not pass between an order and its
-- count, and the counter has not reached the limit since it was checked.
def Serialized (site : CommitSite) (db : Database) : Prop :=
  match site with
  | .meteredMessage _ tally => tally.finalized = false ∧ ∀ placed ∈ tally.placed,
      placed.status = .new ∧ ∀ business ∈ db.businesses, business.id = tally.businessId →
        localDate business.timezone placed.createdAt = tally.today ∧
          ordersCreated db.toTables business.id tally.today < business.dailyOrderLimit
  | _ => True

instance (site : CommitSite) (db : Database) : Decidable (Serialized localDate site db) := by
  apply CommitSite.casesOn (motive := fun site => Decidable (Serialized localDate site db)) site
  all_goals
    intros
    unfold Serialized
    infer_instance

abbrev MeteredServer (ι : Type) := Config ι Database RowKey CommitSite Failure Unit

def metering {ι : Type} (db : Database) (messages : ι → InboundMessage) : MeteredServer ι :=
  start db fun i => processMetered localDate (messages i)

variable {localDate} {t : Tables} {tally : Tally} {f : Pending} {business business' : Business}
  {day : Int}

theorem created_congr (hid : business.id = business'.id)
    (htimezone : business.timezone = business'.timezone) :
    created localDate t business day = created localDate t business' day := by
  have hsame : isOn localDate business day = isOn localDate business' day := by
    funext s
    simp only [isOn, hid, htimezone]
  rw [created, created, hsame]

theorem created_tells (h : Tells tally f) : created localDate (f t) business day =
    created localDate t business day + (stampsOf tally).countP (isOn localDate business day) := by
  simp [created, h.orders]

theorem terms_mem (h : Tells tally f) (hbusiness : business ∈ (f t).businesses) :
    ∃ business₀ ∈ t.businesses, terms business₀ = terms business := by
  have hmem : terms business ∈ (f t).businesses.map terms := List.mem_map_of_mem hbusiness
  rw [h.businesses] at hmem
  exact List.mem_map.mp hmem

theorem stamps_counted {waMessageId : String} {db : Database}
    (h : Serialized localDate (.meteredMessage waMessageId tally) db)
    (hbusiness : business ∈ db.businesses) :
    ((stampsOf tally).countP (isOn localDate business day) : Int) =
      addsOf tally business.id day := by
  obtain ⟨hfinalized, hplaced⟩ := h
  cases htally : tally.placed with
  | none => simp [stampsOf, addsOf, counts, htally, hfinalized]
  | some placed =>
      obtain ⟨hnew, hday⟩ := hplaced placed htally
      by_cases hid : business.id = tally.businessId
      · have htoday := (hday business hbusiness hid).1
        by_cases hon : day = tally.today
        · simp [stampsOf, addsOf, counts, isOn, htally, hnew, hid, htoday, hon]
        · have hoff : tally.today ≠ day := fun h => hon h.symm
          simp [stampsOf, addsOf, isOn, htally, hid, htoday, hon, hoff]
      · have hne : tally.businessId ≠ business.id := fun h => hid h.symm
        simp [stampsOf, addsOf, isOn, htally, hid, hne]

theorem adds_below_limit {waMessageId : String} {db : Database}
    (h : Serialized localDate (.meteredMessage waMessageId tally) db)
    (hbusiness : business ∈ db.businesses) :
    addsOf tally business.id day = 0 ∨ addsOf tally business.id day = 1 ∧
      ordersCreated db.toTables business.id day < business.dailyOrderLimit := by
  obtain ⟨hfinalized, hplaced⟩ := h
  by_cases hadds : counts tally = true ∧ business.id = tally.businessId ∧ day = tally.today
  · obtain ⟨hcounts, hid, rfl⟩ := hadds
    right
    constructor
    · simp [addsOf, hcounts, hid]
    · simp only [counts, hfinalized, Bool.false_or, Option.any_eq_true] at hcounts
      obtain ⟨placed, hsome, -⟩ := hcounts
      exact ((hplaced placed hsome).2 business hbusiness hid).2
  · left
    exact if_neg hadds

theorem counted_step {waMessageId : String} {db : Database} (htells : Tells tally f)
    (h : Serialized localDate (.meteredMessage waMessageId tally) db)
    (hcovered : Covered localDate db.toTables) (hlimit : WithinLimit localDate db.toTables) :
    Covered localDate (f db.toTables) ∧ WithinLimit localDate (f db.toTables) ∧
      CountedOnce localDate db.toTables (f db.toTables) := by
  have hgrowth : ∀ business ∈ (f db.toTables).businesses, ∃ business₀ ∈ db.businesses,
      business₀.id = business.id ∧ business₀.dailyOrderLimit = business.dailyOrderLimit ∧
        ∀ day, created localDate db.toTables business day = created localDate db.toTables business₀ day ∧
          created localDate (f db.toTables) business day =
            created localDate db.toTables business₀ day + addsOf tally business.id day := by
    intro business hbusiness
    obtain ⟨business₀, hmem, hterms⟩ := terms_mem htells hbusiness
    obtain ⟨hid, htimezone, hsame⟩ : business₀.id = business.id ∧
        business₀.timezone = business.timezone ∧
          business₀.dailyOrderLimit = business.dailyOrderLimit := by
      simpa [terms] using hterms
    refine ⟨business₀, hmem, hid, hsame, fun day => ?_⟩
    have hstamps : ((stampsOf tally).countP (isOn localDate business₀ day) : Int) =
        addsOf tally business.id day := hid ▸ stamps_counted h hmem
    constructor
    · exact (created_congr hid htimezone).symm
    · rw [← created_congr hid htimezone, created_tells htells, hstamps]
  refine ⟨?_, ?_, ?_⟩
  · intro business hbusiness day
    obtain ⟨business₀, hmem, hid, -, hcreated⟩ := hgrowth business hbusiness
    have hbefore := hcovered business₀ hmem day
    rw [(hcreated day).2, htells.usage, ← hid]
    exact add_le_add hbefore le_rfl
  · intro business hbusiness day
    obtain ⟨business₀, hmem, hid, hsame, hcreated⟩ := hgrowth business hbusiness
    have hbefore := hcovered business₀ hmem day
    have hwithin := hlimit business₀ hmem day
    rw [(hcreated day).2, ← hid, ← hsame]
    have hadds : addsOf tally business₀.id day = 0 ∨ addsOf tally business₀.id day = 1 ∧
        ordersCreated db.toTables business₀.id day < business₀.dailyOrderLimit :=
      adds_below_limit h hmem
    rcases hadds with hzero | ⟨hone, hbelow⟩
    · rw [hzero, add_zero]
      exact hwithin
    · rw [hone]
      omega
  · intro business hbusiness day
    obtain ⟨business₀, -, -, -, hcreated⟩ := hgrowth business hbusiness
    rw [(hcreated day).2, (hcreated day).1, htells.usage, add_sub_cancel_left,
      add_sub_cancel_left]

section Server

variable {ι : Type} [DecidableEq ι] {db : Database} {messages : ι → InboundMessage}
  {c c' : MeteredServer ι}

theorem metered_reachable (hcovered : Covered localDate db.toTables)
    (hlimit : WithinLimit localDate db.toTables)
    (hc : Reachable (Elsewhere localDate) (fun c i => c.Meets (Serialized localDate) i)
      (metering localDate db messages) c) :
    (∀ i, Commits Metered (c.prog i)) ∧ Covered localDate c.db.toTables ∧
      WithinLimit localDate c.db.toTables := by
  have hprog : ∀ i, Commits Metered ((metering localDate db messages).prog i) :=
    fun _ => processMetered_commits
  have henv (db db' : Database) (_ : List (ι × CommitSite)) (helse : Elsewhere localDate db db')
      (h : Covered localDate db.toTables ∧ WithinLimit localDate db.toTables) :
      Covered localDate db'.toTables ∧ WithinLimit localDate db'.toTables := by
    constructor
    · intro business' hbusiness' day
      obtain ⟨business, hmem, hid, -, -, hday⟩ := helse business' hbusiness'
      rw [(hday day).1, ← hid]
      exact (h.1 business hmem day).trans (hday day).2
    · intro business' hbusiness' day
      obtain ⟨business, hmem, -, -, hraised, hday⟩ := helse business' hbusiness'
      rw [(hday day).1]
      exact (h.2 business hmem day).trans hraised
  refine commits_invariant (S := fun _ => Metered) (p := fun _ => Serialized localDate)
    (I := fun db _ => Covered localDate db.toTables ∧ WithinLimit localDate db.toTables)
    ?_ henv (fun _ _ h => h) hprog ⟨hcovered, hlimit⟩ hc
  rintro i site f db db' log ⟨waMessageId, tally, rfl, htells⟩ hmeets ⟨hcovered, hlimit⟩ htables
  rw [htables]
  obtain ⟨hcovered', hlimit', -⟩ := counted_step htells hmeets hcovered hlimit
  exact ⟨hcovered', hlimit'⟩

theorem bot_orders_counted_within_limit (hcovered : Covered localDate db.toTables)
    (hlimit : WithinLimit localDate db.toTables)
    (hc : Reachable (Elsewhere localDate) (fun c i => c.Meets (Serialized localDate) i)
      (metering localDate db messages) c) :
    WithinLimit localDate c.db.toTables ∧ ∀ i c', c.Meets (Serialized localDate) i →
      c.step? i = some c' → CountedOnce localDate c.db.toTables c'.db.toTables := by
  obtain ⟨hprog, hcovered', hlimit'⟩ := metered_reachable hcovered hlimit hc
  refine ⟨hlimit', fun i c' hmeets hstep => ?_⟩
  rcases commits_thread (S := fun _ => Metered) hprog hstep with
    ⟨hsame, -⟩ | ⟨site, f, ⟨waMessageId, tally, rfl, htells⟩, hsite, htables, -⟩
  · intro business _ day
    rw [hsame, sub_self, sub_self]
  · rw [htables]
    exact (counted_step htells (hsite _ hmeets) hcovered' hlimit').2.2

end Server

end Runs

-- Two hours ahead of UTC all year; days are counted from the first of January of the year 1.
def southAfrica (_ : String) (now : Instant) : Int :=
  719163 + ((now + 120 * Time.minute) / Time.day : Nat)

def ready (customerId : Uuid) (mode : OrderMode) : ConversationSession where
  businessId := 1
  customerId := customerId
  state := .confirmingOrder
  context :=
    { draft :=
        { cart := [PriorOrders.coffee], orderMode := some mode
          deliveryAddress := some "1 Long Street", phoneNumber := some "0821234567"
          orderNotesAsked := true } }
  lastActivityAt := 90
  expiresAt := none

def oneOrderADay (mode : OrderMode) : Tables where
  businesses :=
    [{ id := 1, whatsappPhoneNumberId := some "100", deliveryEnabled := true, dailyOrderLimit := 1 }]
  customers :=
    [{ id := 3, businessId := 1, waId := some "27821234567", displayName := some "Thandi"
       phoneNumber := some "27821234567" },
     { id := 4, businessId := 1, waId := some "27827654321", displayName := some "Sipho"
       phoneNumber := some "27827654321" }]
  conversationSessions := [ready 3 mode, ready 4 mode]

def deliveries : Database where
  toTables := oneOrderADay .delivery
  now := 100
  valid := Tables.violation_eq_none.mp (by decide +kernel)

def pickups : Database where
  toTables := oneOrderADay .pickup
  now := 100
  valid := Tables.violation_eq_none.mp (by decide +kernel)

def confirm (second : Bool) : InboundMessage :=
  if second then
    { PriorOrders.yes with
      waMessageId := "wamid.2", waId := "27827654321", newCustomerId := 22, newOrderId := 23 }
  else PriorOrders.yes

theorem covered_of_none {db : Database} (h : db.orders = []) (husage : db.dailyUsage = []) :
    Covered southAfrica db.toTables := by
  intro business _ day
  simp [created, ordersCreated, Table.lookup, h, husage]

theorem within_of_none {db : Database} (h : db.orders = [])
    (hlimit : ∀ business ∈ db.businesses, 0 ≤ business.dailyOrderLimit) :
    WithinLimit southAfrica db.toTables := by
  intro business hbusiness day
  simpa [created, h] using hlimit business hbusiness

theorem pickup_orders_counted :
    ∃ c ∈ (metering southAfrica pickups confirm).schedule
        (fun c i => c.Meets (Serialized southAfrica) i) (List.replicate 15 false),
      c.Meets (Serialized southAfrica) false ∧ ∃ c' ∈ c.step? false, c'.db.orders.length = 1 ∧
        CountedOnce southAfrica c.db.toTables c'.db.toTables := by
  have hcovered : Covered southAfrica pickups.toTables := covered_of_none rfl rfl
  have hlimit : WithinLimit southAfrica pickups.toTables :=
    within_of_none rfl (by decide +kernel)
  have hrun : ∃ c ∈ (metering southAfrica pickups confirm).schedule
      (fun c i => c.Meets (Serialized southAfrica) i) (List.replicate 15 false),
        c.Meets (Serialized southAfrica) false ∧ ∃ c' ∈ c.step? false,
          c'.db.orders.length = 1 := by
    decide +kernel
  obtain ⟨c, hc, hmeets, c', hc', hplaced⟩ := hrun
  have hcounted := bot_orders_counted_within_limit hcovered hlimit (schedule_reachable hc)
  exact ⟨c, hc, hmeets, c', hc', hplaced, hcounted.2 false c' hmeets hc'⟩

theorem parked_orders_exceed_limit :
    ¬ ∀ (localDate : String → Instant → Int) (db : Database) (messages : Bool → InboundMessage)
        (c : MeteredServer Bool), Covered localDate db.toTables → WithinLimit localDate db.toTables →
      Reachable (Elsewhere localDate) (fun _ _ => True) (metering localDate db messages) c →
      WithinLimit localDate c.db.toTables ∧ ∀ i c', c.step? i = some c' →
        CountedOnce localDate c.db.toTables c'.db.toTables := by
  intro h
  have hcovered : Covered southAfrica deliveries.toTables := covered_of_none rfl rfl
  have hlimit : WithinLimit southAfrica deliveries.toTables :=
    within_of_none rfl (by decide +kernel)
  have hrun : ∃ c ∈ (metering southAfrica deliveries confirm).schedule (fun _ _ => True)
      (List.replicate 15 false ++ List.replicate 15 true), ∃ business ∈ c.db.businesses,
        ¬ created southAfrica c.db.toTables business 719163 ≤ business.dailyOrderLimit := by
    decide +kernel
  obtain ⟨c, hc, business, hbusiness, hexceeded⟩ := hrun
  exact hexceeded ((h _ _ _ c hcovered hlimit (schedule_reachable hc)).1 business hbusiness 719163)

end NextgenBackend.DailyOrders
