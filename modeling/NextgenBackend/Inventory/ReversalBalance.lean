import NextgenBackend.Api.Effects
import NextgenBackend.Orders.System

namespace NextgenBackend.ReversalBalance

open Txn Inventory Orders

open RoutesOrders (assign)

def orderLedger (orderId : Uuid) (movements : List StockMovement) : List StockMovement :=
  movements.filter fun m => m.sourceType = some .order ∧ m.sourceId = some orderId

theorem mem_orderLedger {orderId : Uuid} {movements : List StockMovement} {m : StockMovement} :
    m ∈ orderLedger orderId movements ↔
      m ∈ movements ∧ m.sourceType = some .order ∧ m.sourceId = some orderId := by
  simp [orderLedger]

theorem orderLedger_append {orderId : Uuid} {movements posted : List StockMovement} :
    orderLedger orderId (movements ++ posted) =
      orderLedger orderId movements ++ orderLedger orderId posted :=
  List.filter_append _ _

structure SaleRow (businessId orderId : Uuid) (m : StockMovement) : Prop where
  business : m.businessId = businessId
  movementType : m.movementType = .saleConsumption
  value : m.valueCents = valueCents m.quantityMilli m.unitCostMicroCents
  idempotencyKey : m.idempotencyKey = some (.sale orderId m.ingredientId)

structure Undoes (businessId orderId : Uuid) (m original : StockMovement) : Prop where
  business : m.businessId = businessId
  movementType : m.movementType = .saleReversal
  ingredient : m.ingredientId = original.ingredientId
  quantity : m.quantityMilli = -original.quantityMilli
  value : m.valueCents = valueCents (-original.quantityMilli) original.unitCostMicroCents
  idempotencyKey : m.idempotencyKey = some (.reversal orderId m.ingredientId)

theorem Undoes.value_neg {businessId orderId : Uuid} {m original : StockMovement}
    (h : Undoes businessId orderId m original) (hsale : SaleRow businessId orderId original) :
    m.valueCents = -original.valueCents := by
  rw [h.value, hsale.value]
  exact valueCents_neg _ _

structure Mirrored (businessId orderId : Uuid) (movements : List StockMovement) : Prop where
  rows : ∀ m ∈ orderLedger orderId movements, SaleRow businessId orderId m ∨
    ∃ original ∈ orderLedger orderId movements,
      SaleRow businessId orderId original ∧ Undoes businessId orderId m original
  complete : (∃ m ∈ orderLedger orderId movements, m.movementType = .saleReversal) →
    ∀ s ∈ orderLedger orderId movements, SaleRow businessId orderId s →
      ∃ m ∈ orderLedger orderId movements,
        m.movementType = .saleReversal ∧ m.ingredientId = s.ingredientId

def originalsOf (businessId orderId : Uuid) (movements : List StockMovement) :
    List StockMovement :=
  orderMovements businessId orderId [.saleConsumption, .remakeConsumption] movements

def reversedOf (businessId orderId : Uuid) (movements : List StockMovement) : List Uuid :=
  (orderMovements businessId orderId [.saleReversal] movements).map (·.ingredientId)

structure Reverses (businessId orderId : Uuid) (movements posted : List StockMovement) : Prop where
  undoes : ∀ m ∈ orderLedger orderId posted,
    ∃ original ∈ originalsOf businessId orderId movements, Undoes businessId orderId m original
  covers : (∃ m, m ∈ orderLedger orderId posted) →
    ∀ s ∈ originalsOf businessId orderId movements,
      s.ingredientId ∈ reversedOf businessId orderId movements ∨
        ∃ m ∈ orderLedger orderId posted, m.ingredientId = s.ingredientId

theorem mem_originalsOf {businessId orderId : Uuid} {movements : List StockMovement}
    {m : StockMovement} :
    m ∈ originalsOf businessId orderId movements ↔ m ∈ orderLedger orderId movements ∧
      m.businessId = businessId ∧
        (m.movementType = .saleConsumption ∨ m.movementType = .remakeConsumption) := by
  simp only [originalsOf, orderMovements, mem_orderLedger, List.mem_filter, List.mem_cons,
    List.not_mem_nil, or_false, decide_eq_true_eq]
  constructor
  · rintro ⟨hm, hbusiness, htype, hsource, hkind⟩
    exact ⟨⟨hm, htype, hsource⟩, hbusiness, hkind⟩
  · rintro ⟨⟨hm, htype, hsource⟩, hbusiness, hkind⟩
    exact ⟨hm, hbusiness, htype, hsource, hkind⟩

theorem mem_reversedOf {businessId orderId : Uuid} {movements : List StockMovement}
    {ingredientId : Uuid} (h : ingredientId ∈ reversedOf businessId orderId movements) :
    ∃ m ∈ orderLedger orderId movements,
      m.movementType = .saleReversal ∧ m.ingredientId = ingredientId := by
  obtain ⟨m, hm, hid⟩ := List.mem_map.mp h
  simp only [orderMovements, List.mem_filter, List.mem_singleton, decide_eq_true_eq] at hm
  obtain ⟨hmem, -, htype, hsource, hkind⟩ := hm
  exact ⟨m, mem_orderLedger.mpr ⟨hmem, htype, hsource⟩, hkind, hid⟩

section Ledger

variable {businessId orderId : Uuid} {movements posted posted' : List StockMovement}

theorem reverses_nil : Reverses businessId orderId movements [] := by
  constructor
  · intro m hm
    simp [orderLedger] at hm
  · intro hposted
    simp [orderLedger] at hposted

theorem reverses_of_none (h : orderLedger orderId posted = []) :
    Reverses businessId orderId movements posted := by
  constructor
  · intro m hm
    simp [h] at hm
  · intro hposted
    simp [h] at hposted

theorem Reverses.append (h : Reverses businessId orderId movements posted)
    (h' : Reverses businessId orderId movements posted') :
    Reverses businessId orderId movements (posted ++ posted') := by
  constructor
  · intro m hm
    rw [orderLedger_append] at hm
    rcases List.mem_append.mp hm with hm | hm
    · exact h.undoes m hm
    · exact h'.undoes m hm
  · rintro ⟨m, hm⟩ s hs
    rw [orderLedger_append] at hm ⊢
    rcases List.mem_append.mp hm with hm | hm
    · rcases h.covers ⟨m, hm⟩ s hs with hin | ⟨found, hfound, hid⟩
      · exact .inl hin
      · exact .inr ⟨found, List.mem_append_left _ hfound, hid⟩
    · rcases h'.covers ⟨m, hm⟩ s hs with hin | ⟨found, hfound, hid⟩
      · exact .inl hin
      · exact .inr ⟨found, List.mem_append_right _ hfound, hid⟩

theorem reverses_reversals {userId : Option Uuid} {notes : Option String} {now : Instant} :
    Reverses businessId orderId movements (reversals businessId orderId userId notes now
      (originalsOf businessId orderId movements) (reversedOf businessId orderId movements)) := by
  constructor
  · intro m hm
    obtain ⟨original, horiginal, -, rfl⟩ := mem_reversals (mem_orderLedger.mp hm).1
    exact ⟨original, horiginal, ⟨rfl, rfl, rfl, rfl, rfl, rfl⟩⟩
  · intro _ s hs
    by_cases hin : s.ingredientId ∈ reversedOf businessId orderId movements
    · exact .inl hin
    · obtain ⟨m, hm, hid⟩ := reversals_cover hs hin
      obtain ⟨original, -, -, rfl⟩ := mem_reversals hm
      exact .inr ⟨_, mem_orderLedger.mpr ⟨hm, rfl, rfl⟩, hid⟩

theorem orderLedger_reversals_ne {otherId : Uuid} {userId : Option Uuid} {notes : Option String}
    {now : Instant} {originals : List StockMovement} {already : List Uuid}
    (hne : otherId ≠ orderId) :
    orderLedger orderId
      (reversals businessId otherId userId notes now originals already) = [] := by
  apply List.filter_eq_nil_iff.mpr
  intro m hm
  obtain ⟨original, -, -, rfl⟩ := mem_reversals hm
  simp [buildMovement, hne]

theorem Mirrored.step (h : Mirrored businessId orderId movements)
    (hposted : Reverses businessId orderId movements posted) :
    Mirrored businessId orderId (movements ++ posted) := by
  have hsale (s : StockMovement) (hs : s ∈ originalsOf businessId orderId movements) :
      s ∈ orderLedger orderId movements ∧ SaleRow businessId orderId s := by
    obtain ⟨hmem, -, hkind⟩ := mem_originalsOf.mp hs
    rcases h.rows s hmem with hrow | ⟨original, -, -, hundoes⟩
    · exact ⟨hmem, hrow⟩
    · have hreversal := hundoes.movementType
      simp [hreversal] at hkind
  have hreversed (m : StockMovement) (hm : m ∈ orderLedger orderId posted) :
      m.movementType = .saleReversal := by
    obtain ⟨original, -, hundoes⟩ := hposted.undoes m hm
    exact hundoes.movementType
  constructor
  · intro m hm
    rw [orderLedger_append] at hm ⊢
    rcases List.mem_append.mp hm with hm | hm
    · rcases h.rows m hm with hrow | ⟨original, horiginal, hrow, hundoes⟩
      · exact .inl hrow
      · exact .inr ⟨original, List.mem_append_left _ horiginal, hrow, hundoes⟩
    · obtain ⟨original, horiginal, hundoes⟩ := hposted.undoes m hm
      obtain ⟨hmem, hrow⟩ := hsale original horiginal
      exact .inr ⟨original, List.mem_append_left _ hmem, hrow, hundoes⟩
  · rintro ⟨m, hm, hreversal⟩ s hs hrow
    rw [orderLedger_append] at hm hs ⊢
    have hs : s ∈ orderLedger orderId movements := by
      rcases List.mem_append.mp hs with hs | hs
      · exact hs
      · have htype := hreversed s hs
        have hother := hrow.movementType
        simp [htype] at hother
    rcases List.mem_append.mp hm with hm | hm
    · obtain ⟨found, hfound, htype, hid⟩ := h.complete ⟨m, hm, hreversal⟩ s hs hrow
      exact ⟨found, List.mem_append_left _ hfound, htype, hid⟩
    · have horiginal : s ∈ originalsOf businessId orderId movements :=
        mem_originalsOf.mpr ⟨hs, hrow.business, .inl hrow.movementType⟩
      rcases hposted.covers ⟨m, hm⟩ s horiginal with hin | ⟨found, hfound, hid⟩
      · obtain ⟨found, hfound, htype, hid⟩ := mem_reversedOf hin
        exact ⟨found, List.mem_append_left _ hfound, htype, hid⟩
      · exact ⟨found, List.mem_append_right _ hfound, hreversed found hfound, hid⟩

end Ledger

section Balance

variable {businessId orderId ingredientId : Uuid} {movements : List StockMovement}

def ingredientLedger (orderId ingredientId : Uuid) (movements : List StockMovement) :
    List StockMovement :=
  (orderLedger orderId movements).filter fun m => m.ingredientId = ingredientId

def reversalsOf (orderId ingredientId : Uuid) (movements : List StockMovement) :
    List StockMovement :=
  (ingredientLedger orderId ingredientId movements).filter fun m =>
    m.movementType = .saleReversal

def salesOf (orderId ingredientId : Uuid) (movements : List StockMovement) :
    List StockMovement :=
  (ingredientLedger orderId ingredientId movements).filter fun m =>
    ¬ m.movementType = .saleReversal

def netQuantityMilli (orderId ingredientId : Uuid) (movements : List StockMovement) : Int :=
  ((ingredientLedger orderId ingredientId movements).map (·.quantityMilli)).sum

def netValueCents (orderId ingredientId : Uuid) (movements : List StockMovement) : Cents :=
  ((ingredientLedger orderId ingredientId movements).map (·.valueCents)).sum

theorem sum_ingredientLedger (weight : StockMovement → Int) :
    ((ingredientLedger orderId ingredientId movements).map weight).sum =
      ((reversalsOf orderId ingredientId movements).map weight).sum +
        ((salesOf orderId ingredientId movements).map weight).sum := by
  have hsplit := List.filter_append_perm (fun m : StockMovement => m.movementType = .saleReversal)
    (ingredientLedger orderId ingredientId movements)
  have hsum := (hsplit.map weight).sum_eq
  rw [List.map_append, List.sum_append] at hsum
  rw [← hsum]
  simp [reversalsOf, salesOf]

theorem length_le_one_of_key {rows : List StockMovement} {k : StockIdempotencyKey}
    (hsub : rows.Sublist movements)
    (hunique : Table.Unique (fun m : StockMovement =>
      m.idempotencyKey.map fun k => (m.businessId, k)) movements)
    (hrows : ∀ m ∈ rows, m.businessId = businessId ∧ m.idempotencyKey = some k) :
    rows.length ≤ 1 := by
  apply hunique.length_le_one hsub
  intro m hm
  obtain ⟨hbusiness, hkey⟩ := hrows m hm
  rw [hkey, Option.map_some, hbusiness]

theorem mem_ingredientLedger {m : StockMovement} :
    m ∈ ingredientLedger orderId ingredientId movements ↔
      m ∈ orderLedger orderId movements ∧ m.ingredientId = ingredientId := by
  simp [ingredientLedger]

theorem mem_reversalsOf {m : StockMovement} :
    m ∈ reversalsOf orderId ingredientId movements ↔
      m ∈ orderLedger orderId movements ∧ m.ingredientId = ingredientId ∧
        m.movementType = .saleReversal := by
  simp [reversalsOf, mem_ingredientLedger, and_assoc]

theorem mem_salesOf {m : StockMovement} (h : Mirrored businessId orderId movements) :
    m ∈ salesOf orderId ingredientId movements ↔
      m ∈ orderLedger orderId movements ∧ m.ingredientId = ingredientId ∧
        SaleRow businessId orderId m := by
  simp only [salesOf, List.mem_filter, mem_ingredientLedger, decide_eq_true_eq, and_assoc]
  constructor
  · rintro ⟨hm, hid, htype⟩
    rcases h.rows m hm with hrow | ⟨original, -, -, hundoes⟩
    · exact ⟨hm, hid, hrow⟩
    · exact absurd hundoes.movementType htype
  · rintro ⟨hm, hid, hrow⟩
    have htype := hrow.movementType
    exact ⟨hm, hid, by simp [htype]⟩

theorem reversalsOf_length (h : Mirrored businessId orderId movements)
    (hunique : Table.Unique (fun m : StockMovement =>
      m.idempotencyKey.map fun k => (m.businessId, k)) movements) :
    (reversalsOf orderId ingredientId movements).length ≤ 1 := by
  have hsub : (reversalsOf orderId ingredientId movements).Sublist movements :=
    (List.filter_sublist.trans List.filter_sublist).trans List.filter_sublist
  have hkey (m : StockMovement) (hm : m ∈ reversalsOf orderId ingredientId movements) :
      m.businessId = businessId ∧ m.idempotencyKey = some (.reversal orderId ingredientId) := by
    obtain ⟨hmem, hid, htype⟩ := mem_reversalsOf.mp hm
    rcases h.rows m hmem with hrow | ⟨original, -, -, hundoes⟩
    · have hsale := hrow.movementType
      simp [htype] at hsale
    · exact ⟨hundoes.business, hid ▸ hundoes.idempotencyKey⟩
  exact length_le_one_of_key hsub hunique hkey

theorem salesOf_length (h : Mirrored businessId orderId movements)
    (hunique : Table.Unique (fun m : StockMovement =>
      m.idempotencyKey.map fun k => (m.businessId, k)) movements) :
    (salesOf orderId ingredientId movements).length ≤ 1 := by
  have hsub : (salesOf orderId ingredientId movements).Sublist movements :=
    (List.filter_sublist.trans List.filter_sublist).trans List.filter_sublist
  have hkey (m : StockMovement) (hm : m ∈ salesOf orderId ingredientId movements) :
      m.businessId = businessId ∧ m.idempotencyKey = some (.sale orderId ingredientId) := by
    obtain ⟨-, hid, hrow⟩ := (mem_salesOf h).mp hm
    exact ⟨hrow.business, hid ▸ hrow.idempotencyKey⟩
  exact length_le_one_of_key hsub hunique hkey

theorem eq_singleton_of_mem {rows : List StockMovement} {m : StockMovement} (hm : m ∈ rows)
    (hlength : rows.length ≤ 1) : rows = [m] := by
  cases rows with
  | nil => simp at hm
  | cons first rows =>
      have hnil : rows = [] := by simpa using hlength
      subst hnil
      simp at hm
      rw [hm]

theorem Mirrored.nets_to_zero (h : Mirrored businessId orderId movements)
    (hunique : Table.Unique (fun m : StockMovement =>
      m.idempotencyKey.map fun k => (m.businessId, k)) movements)
    (hreversed : ∃ m ∈ orderLedger orderId movements, m.movementType = .saleReversal) :
    netQuantityMilli orderId ingredientId movements = 0 ∧
      netValueCents orderId ingredientId movements = 0 := by
  have hreversals : (reversalsOf orderId ingredientId movements).length ≤ 1 :=
    reversalsOf_length h hunique
  have hsales : (salesOf orderId ingredientId movements).length ≤ 1 :=
    salesOf_length h hunique
  unfold netQuantityMilli netValueCents
  rw [sum_ingredientLedger, sum_ingredientLedger]
  by_cases hempty : salesOf orderId ingredientId movements = []
  · have hnone : reversalsOf orderId ingredientId movements = [] := by
      apply List.eq_nil_iff_forall_not_mem.mpr
      intro m hm
      obtain ⟨hmem, hid, htype⟩ := mem_reversalsOf.mp hm
      rcases h.rows m hmem with hrow | ⟨original, horiginal, hrow, hundoes⟩
      · have hsale := hrow.movementType
        simp [htype] at hsale
      · have hin : original ∈ salesOf orderId ingredientId movements :=
          (mem_salesOf h).mpr ⟨horiginal, hundoes.ingredient.symm.trans hid, hrow⟩
        simp [hempty] at hin
    simp [hempty, hnone]
  · obtain ⟨s, hs⟩ := List.exists_mem_of_ne_nil _ hempty
    obtain ⟨hsmem, hsid, hrow⟩ := (mem_salesOf h).mp hs
    obtain ⟨m, hm, htype, hid⟩ := h.complete hreversed s hsmem hrow
    have hmin : m ∈ reversalsOf orderId ingredientId movements :=
      mem_reversalsOf.mpr ⟨hm, hid.trans hsid, htype⟩
    have hundone : Undoes businessId orderId m s := by
      rcases h.rows m hm with hsale | ⟨original, horiginal, horow, hundoes⟩
      · have hother := hsale.movementType
        simp [htype] at hother
      · have hin : original ∈ salesOf orderId ingredientId movements :=
          (mem_salesOf h).mpr ⟨horiginal, hundoes.ingredient.symm.trans (hid.trans hsid), horow⟩
        have hsame := eq_singleton_of_mem hs hsales
        rw [hsame] at hin
        obtain rfl := List.mem_singleton.mp hin
        exact hundoes
    rw [eq_singleton_of_mem hs hsales, eq_singleton_of_mem hmin hreversals]
    have hquantity := hundone.quantity
    have hvalue := hundone.value_neg hrow
    simp [hquantity, hvalue]

end Balance

structure Posted (businessId orderId : Uuid) (t : Tables) : Prop where
  order : ∃ o, t.orders.lookup orderId = some o ∧ o.businessId = businessId
  ledger : ∃ userId occurredAt lines ingredients, orderLedger orderId t.stockMovements =
    saleMovements businessId orderId userId occurredAt lines ingredients

def Owned (businessId orderId : Uuid) (t : Tables) : Prop :=
  ∃ o, t.orders.lookup orderId = some o ∧ o.businessId = businessId

structure Tracked (businessId orderId : Uuid) (t : Tables) : Prop where
  order : Owned businessId orderId t
  mirrored : Mirrored businessId orderId t.stockMovements

-- What a transaction has written so far, seen against the tables it reads.
structure Restocks (businessId orderId : Uuid) (t : Tables) (session : Session) : Prop where
  order : ∃ o, (session.pending t).orders.lookup orderId = some o ∧ o.businessId = businessId
  posts : ∃ posted, (session.pending t).stockMovements = t.stockMovements ++ posted ∧
    ((session.pending t).orders.PrimaryKey → Reverses businessId orderId t.stockMovements posted)

structure Spares (orderId : Uuid) (t t' : Tables) : Prop where
  order : ∀ o, t.orders.lookup orderId = some o →
    ∃ o', t'.orders.lookup orderId = some o' ∧ o'.businessId = o.businessId
  primaryKey : t'.orders.PrimaryKey → t.orders.PrimaryKey
  stockMovements : t'.stockMovements = t.stockMovements

def Bookless (orderId : Uuid) (f : Pending) : Prop :=
  ∀ t, Spares orderId t (f t)

section Sessions

variable {businessId orderId : Uuid} {t : Tables} {session session' : Session}

theorem spares_of_same {t' : Tables} (horders : t'.orders = t.orders)
    (hmovements : t'.stockMovements = t.stockMovements) : Spares orderId t t' := by
  constructor
  · intro o ho
    exact ⟨o, horders ▸ ho, rfl⟩
  · intro hpk
    exact horders ▸ hpk
  · exact hmovements

theorem bookless_neutral : Neutral (Bookless orderId) where
  id t := spares_of_same rfl rfl
  comp f g hf hg t := by
    have hfirst := hf t
    have hsecond := hg (f t)
    constructor
    · intro o ho
      obtain ⟨o', ho', hbusiness⟩ := hfirst.order o ho
      obtain ⟨o'', ho'', hbusiness'⟩ := hsecond.order o' ho'
      exact ⟨o'', ho'', hbusiness'.trans hbusiness⟩
    · exact fun hpk => hfirst.primaryKey (hsecond.primaryKey hpk)
    · exact hsecond.stockMovements.trans hfirst.stockMovements

theorem bookless_setOrder {id : Uuid} {set : Order → Order}
    (hset : ∀ o, (set o).id = o.id ∧ (set o).businessId = o.businessId) :
    Bookless orderId (setOrder id set) := by
  intro t
  have hkey (o : Order) : key (set o) = key o := (hset o).1
  constructor
  · intro o ho
    by_cases hid : orderId = id
    · subst hid
      have hlookup : (setOrder orderId set t).orders.lookup orderId = some (set o) := by
        rw [setOrder, Table.lookup_modify_self hkey, ho]
        rfl
      exact ⟨set o, hlookup, (hset o).2⟩
    · have hlookup : (setOrder id set t).orders.lookup orderId = some o := by
        rw [setOrder, Table.lookup_modify_ne hkey hid]
        exact ho
      exact ⟨o, hlookup, rfl⟩
  · exact (Table.primaryKey_modify hkey).mp
  · rfl

theorem bookless_insertOrder (order : Order) : Bookless orderId (RoutesPos.insertOrder order) := by
  intro t
  constructor
  · intro o ho
    exact ⟨o, Table.lookup_insert_of_some ho, rfl⟩
  · intro hpk
    exact (Table.primaryKey_insert.mp hpk).1
  · rfl

theorem Restocks.extends (h : Restocks businessId orderId t session)
    (hs : session.Extends (Bookless orderId) session') :
    Restocks businessId orderId t session' := by
  obtain ⟨f, hf, hpending⟩ := hs
  have hspares := hf (session.pending t)
  have hview : session'.pending t = f (session.pending t) := by rw [hpending]; rfl
  obtain ⟨o, ho, hbusiness⟩ := h.order
  obtain ⟨posted, hposted, hreverses⟩ := h.posts
  constructor
  · obtain ⟨o', ho', hsame⟩ := hspares.order o ho
    rw [hview]
    exact ⟨o', ho', hsame.trans hbusiness⟩
  · rw [hview, hspares.stockMovements]
    exact ⟨posted, hposted, fun hpk => hreverses (hspares.primaryKey hpk)⟩

theorem Restocks.stage (h : Restocks businessId orderId t session) (touched : List RowKey)
    {f : Pending} (hf : Bookless orderId f) :
    Restocks businessId orderId t (session.stage touched f) :=
  h.extends (Session.extends_stage hf)

theorem restocks_start (h : Owned businessId orderId t) : Restocks businessId orderId t {} := by
  constructor
  · exact h
  · exact ⟨[], (List.append_nil _).symm, fun _ => reverses_nil⟩

theorem Restocks.append (h : Restocks businessId orderId t session)
    {movements : List StockMovement} (hmovements : (session.pending t).orders.PrimaryKey →
      Reverses businessId orderId t.stockMovements movements) :
    Restocks businessId orderId t (session.stage [] (appendMovements movements)) := by
  obtain ⟨posted, hposted, hreverses⟩ := h.posts
  constructor
  · exact h.order
  · refine ⟨posted ++ movements, ?_, fun hpk => (hreverses hpk).append (hmovements hpk)⟩
    have hview : ((session.stage [] (appendMovements movements)).pending t).stockMovements =
        (session.pending t).stockMovements ++ movements := rfl
    rw [hview, hposted, List.append_assoc]

variable {db : Database}

theorem commit_restocks {site : CommitSite} (h : Tracked businessId orderId db.toTables)
    (hs : Restocks businessId orderId db.toTables session) :
    (commit site session).Ensures db fun _ db' => Tracked businessId orderId db'.toTables := by
  apply commit_ensures
  · intro db' htables _
    have hpk : (session.pending db.toTables).orders.PrimaryKey := by
      have hvalid := db'.valid .ordersPkey
      simp only [Constraint.Holds, htables] at hvalid
      exact hvalid
    obtain ⟨posted, hposted, hreverses⟩ := hs.posts
    rw [htables]
    constructor
    · exact hs.order
    · rw [hposted]
      exact h.mirrored.step (hreverses hpk)
  · intro _
    exact h

theorem reverseSaleConsumption_restocks {owner id : Uuid} {userId : Option Uuid}
    {notes : Option String} (h : Restocks businessId orderId db.toTables session)
    (howner : (session.pending db.toTables).orders.PrimaryKey → id = orderId →
      owner = businessId) :
    (reverseSaleConsumption session owner id userId notes).Yields db
      (Restocks businessId orderId db.toTables) := by
  apply yields_seq (S := fun originals => originals = originalsOf owner id db.stockMovements)
  · exact yields_read rfl
  · rintro originals rfl
    split
    · exact yields_done h
    · apply yields_seq (S := fun already => already = reversedOf owner id db.stockMovements)
      · exact yields_read rfl
      · rintro already rfl
        apply yields_seq (S := fun _ => True)
        · exact readOnly_readNow.yields
        · intro now _
          apply yields_done
          apply h.append
          intro hpk
          by_cases hid : id = orderId
          · subst hid
            rw [howner hpk rfl]
            exact reverses_reversals
          · exact reverses_of_none (orderLedger_reversals_ne hid)

theorem reverseConsumptionOnCancel_restocks {owner id : Uuid} {inventoryEnabled : Bool}
    {previous : OrderStatus} {userId : Option Uuid}
    (h : Restocks businessId orderId db.toTables session)
    (howner : (session.pending db.toTables).orders.PrimaryKey → id = orderId →
      owner = businessId) :
    (reverseConsumptionOnCancel session owner inventoryEnabled id previous userId).Yields db
      (Restocks businessId orderId db.toTables) := by
  unfold reverseConsumptionOnCancel
  split
  · exact yields_done h
  · split
    · exact reverseSaleConsumption_restocks h howner
    · exact yields_done h

theorem orderLedger_saleMovements_ne {owner id : Uuid} {userId : Option Uuid}
    {occurredAt : Instant} {lines : List IngredientConsumption} {ingredients : Table Ingredient}
    (hne : id ≠ orderId) :
    orderLedger orderId (saleMovements owner id userId occurredAt lines ingredients) = [] := by
  apply List.filter_eq_nil_iff.mpr
  intro m hm
  obtain ⟨line, -, rfl⟩ := List.mem_map.mp hm
  simp [buildMovement, hne]

-- An order number taken twice never commits, so a new order's sale leaves this order's rows alone.
theorem postSaleConsumption_restocks {owner id : Uuid} {userId : Option Uuid}
    {specs : List LineItemSpec} {occurredAt : Instant}
    (h : Restocks businessId orderId db.toTables session)
    (hnew : (session.pending db.toTables).orders.PrimaryKey → id ≠ orderId) :
    (postSaleConsumption session owner id userId specs occurredAt).Yields db
      (Restocks businessId orderId db.toTables) := by
  apply yields_seq (S := fun _ => True)
  · exact readOnly_read.yields
  · intro recipes _
    dsimp only
    split
    · exact yields_done h
    · apply yields_seq (S := fun _ => True)
      · exact readOnly_read.yields
      · intro ingredients _
        apply yields_done
        apply h.append
        intro hpk
        exact reverses_of_none (orderLedger_saleMovements_ne (hnew hpk))

end Sessions

theorem posted_tracked {businessId orderId : Uuid} {t : Tables} (h : Posted businessId orderId t) :
    Tracked businessId orderId t := by
  obtain ⟨userId, occurredAt, lines, ingredients, hledger⟩ := h.ledger
  have hsale (m : StockMovement) (hm : m ∈ orderLedger orderId t.stockMovements) :
      SaleRow businessId orderId m := by
    rw [hledger] at hm
    obtain ⟨line, -, rfl⟩ := List.mem_map.mp hm
    exact ⟨rfl, rfl, rfl, rfl⟩
  constructor
  · exact h.order
  · constructor
    · intro m hm
      exact .inl (hsale m hm)
    · rintro ⟨m, hm, hreversal⟩
      have htype := (hsale m hm).movementType
      simp [hreversal] at htype

section Handlers

variable {α : Type} {businessId orderId : Uuid} {db : Database} {session : Session}

def Keeps (businessId orderId : Uuid) (db : Database) (x : Handler α) : Prop :=
  x.Ensures db fun _ db' => Tracked businessId orderId db'.toTables

theorem keeps_seq {β : Type} {R : β → Prop} {x : Handler β} {f : β → Handler α}
    (h : Tracked businessId orderId db.toTables) (hx : x.Yields db R)
    (hf : ∀ b, R b → Keeps businessId orderId db (f b)) :
    Keeps businessId orderId db (x.bind f) :=
  ensures_seq hx hf fun _ => h

theorem keeps_commit {site : CommitSite} {x : Handler α}
    (h : Tracked businessId orderId db.toTables)
    (hs : Restocks businessId orderId db.toTables session)
    (hx : ∀ db', Tracked businessId orderId db'.toTables → Keeps businessId orderId db' x) :
    Keeps businessId orderId db ((commit site session).bind fun _ => x) := by
  apply ensures_bind.mpr
  apply (commit_restocks h hs).mono
  intro r db' htracked
  cases r with
  | ok _ => exact hx db' htracked
  | error _ => exact htracked

theorem keeps_readOnly {x : Handler α} {R : α → Prop}
    (h : Tracked businessId orderId db.toTables) (hx : x.ReadOnly R) :
    Keeps businessId orderId db x :=
  hx.ensures (fun _ _ => h) fun _ => h

theorem Restocks.staged {x : Handler Session} (h : Restocks businessId orderId db.toTables session)
    (hx : x.ReadOnly (session.Extends (Bookless orderId))) :
    x.Yields db (Restocks businessId orderId db.toTables) :=
  hx.yields.mono fun _ hs => h.extends hs

theorem Restocks.when {p : Prop} [Decidable p] {action : Session → Handler Session}
    (h : Restocks businessId orderId db.toTables session)
    (haction : (action session).Yields db (Restocks businessId orderId db.toTables)) :
    (session.stageWhen p action).Yields db (Restocks businessId orderId db.toTables) := by
  unfold Session.stageWhen
  split
  · exact haction
  · exact yields_done h

theorem bookless_of_same {f : Pending} (hf : ∀ t, (f t).orders = t.orders ∧
    (f t).stockMovements = t.stockMovements) : Bookless orderId f :=
  fun t => spares_of_same (hf t).1 (hf t).2

theorem bookless_postPoints {set : Customer → Customer} {row : LoyaltyTransaction} :
    Bookless orderId (Loyalty.postPoints set row) :=
  bookless_of_same fun _ => ⟨rfl, rfl⟩

theorem bookless_addOrderEvent {event : OrderEvent} :
    Bookless orderId (RoutesPayments.addOrderEvent event) :=
  bookless_of_same fun _ => ⟨rfl, rfl⟩

theorem bookless_flagProviderRefundPending {ids : List (Uuid × Nat)} :
    Bookless orderId (RoutesPos.flagProviderRefundPending ids) :=
  bookless_of_same fun _ => ⟨rfl, rfl⟩

theorem owner_of_lookup {o : Order} {id owner : Uuid}
    (h : Owned businessId orderId db.toTables)
    (ho : db.orders.lookup id = some o ∧ o.businessId = owner) (hid : id = orderId) :
    owner = businessId := by
  obtain ⟨o', ho', hbusiness⟩ := h
  subst hid
  have hsame : o = o' := Option.some.inj (ho.1.symm.trans ho')
  rw [← ho.2, hsame, hbusiness]

theorem reverseStock_restocks {user : AuthUser} {id : Uuid} {notes : String}
    (h : Restocks businessId orderId db.toTables session)
    (howner : id = orderId → user.businessId = businessId) :
    (RoutesPos.reverseStock session user id notes).Yields db
      (Restocks businessId orderId db.toTables) := by
  apply yields_seq (S := fun _ => True)
  · exact readOnly_read.yields
  · intro inventoryEnabled _
    split
    · exact reverseSaleConsumption_restocks h fun _ => howner
    · exact yields_done h

theorem reverseRedemption_restocks {owner id : Uuid} {notes : Option String}
    (h : Restocks businessId orderId db.toTables session) :
    (Loyalty.reverseRedemption session owner id notes).Yields db
      (Restocks businessId orderId db.toTables) :=
  h.staged (Loyalty.reverseRedemption_stages bookless_neutral fun _ _ _ _ => bookless_postPoints)

theorem flagPayByLinkProviderRefundPending_restocks {order : Order}
    {amountCents cashRefundCents : Cents} (h : Restocks businessId orderId db.toTables session) :
    (RoutesPos.flagPayByLinkProviderRefundPending session order amountCents
      cashRefundCents).Yields db (Restocks businessId orderId db.toTables) :=
  h.staged (RoutesPos.flagPayByLinkProviderRefundPending_stages bookless_neutral
    fun _ => bookless_flagProviderRefundPending)

theorem refundPosOrder_keeps {user : AuthUser} {id : Uuid} {body : RoutesPos.POSRefundRequest}
    (h : Tracked businessId orderId db.toTables) :
    Keeps businessId orderId db (RoutesPos.refundPosOrder user id body) := by
  apply keeps_seq h readOnly_requirePosEnabled.yields
  intro _ _
  apply keeps_seq h readOnly_requireOwnerOrManager.yields
  intro _ _
  apply keeps_seq h loadPosOrderForReversal_yields
  rintro o ⟨hlookup, hbusiness, -, -⟩
  have howner := owner_of_lookup h.order ⟨hlookup, hbusiness⟩
  apply keeps_seq h RoutesPos.readOnly_requireOpenTillForCashReversal.yields
  intro _ _
  apply keeps_seq h readOnly_ensure.yields
  intro _ _
  apply keeps_seq h RoutesPos.readOnly_refundCash.yields
  intro cash _
  apply keeps_seq h readOnly_readNow.yields
  intro now _
  have hstart : Restocks businessId orderId db.toTables (Session.stage {} [.order id] (setOrder id
      (RoutesPos.markRefunded body (body.amountCents.getD o.totalCents) cash
        (body.amountCents.getD o.totalCents = o.totalCents) now))) :=
    (restocks_start h.order).stage _ (bookless_setOrder fun _ => ⟨rfl, rfl⟩)
  apply keeps_seq h (flagPayByLinkProviderRefundPending_restocks hstart)
  intro session hs
  apply keeps_seq h (hs.when (reverseStock_restocks hs howner))
  intro session hs
  apply keeps_seq h (hs.when (reverseRedemption_restocks hs))
  intro session hs
  apply keeps_commit h hs
  intro db' h'
  exact keeps_readOnly h' readOnly_refreshOrder

theorem voidPosOrder_keeps {user : AuthUser} {id : Uuid} {reason : String}
    (h : Tracked businessId orderId db.toTables) :
    Keeps businessId orderId db (RoutesPos.voidPosOrder user id reason) := by
  apply keeps_seq h readOnly_requirePosEnabled.yields
  intro _ _
  apply keeps_seq h readOnly_requireOwnerOrManager.yields
  intro _ _
  apply keeps_seq h loadPosOrderForReversal_yields
  rintro o ⟨hlookup, hbusiness, -, -⟩
  have howner := owner_of_lookup h.order ⟨hlookup, hbusiness⟩
  apply keeps_seq h RoutesPos.readOnly_requireOpenTillForCashReversal.yields
  intro _ _
  apply keeps_seq h RoutesPos.readOnly_computeCashPortion.yields
  intro cash _
  apply keeps_seq h readOnly_readNow.yields
  intro now _
  have hstart : Restocks businessId orderId db.toTables (Session.stage {} [.order id] (setOrder id
      (RoutesPos.markVoided user.userId reason o.totalCents cash now))) :=
    (restocks_start h.order).stage _ (bookless_setOrder fun _ => ⟨rfl, rfl⟩)
  apply keeps_seq h (flagPayByLinkProviderRefundPending_restocks hstart)
  intro session hs
  apply keeps_seq h (reverseStock_restocks hs howner)
  intro session hs
  apply keeps_seq h (hs.when (reverseRedemption_restocks hs))
  intro session hs
  apply keeps_commit h hs
  intro db' h'
  exact keeps_readOnly h' readOnly_refreshOrder

theorem keeps_attempt {x : Handler α} (h : Keeps businessId orderId db x) :
    Keeps businessId orderId db x.attempt :=
  ensures_attempt.mpr h

theorem keeps_bind {β : Type} {x : Handler β} {f : β → Handler α}
    (hx : Keeps businessId orderId db x)
    (hf : ∀ b db', Tracked businessId orderId db'.toTables → Keeps businessId orderId db' (f b)) :
    Keeps businessId orderId db (x.bind f) := by
  apply ensures_bind.mpr
  apply Ensures.mono hx
  intro r db' htracked
  cases r with
  | ok b => exact hf b db' htracked
  | error _ => exact htracked

theorem storePaymentLink_keeps {order : Order} {link : Option String}
    (h : Tracked businessId orderId db.toTables) :
    Keeps businessId orderId db (RoutesOrders.storePaymentLink order link) := by
  apply keeps_seq h readOnly_read.yields
  intro business _
  dsimp only
  split
  next provider url _ =>
    have hset : Bookless orderId (setOrder order.id fun o =>
        { o with paymentLinkUrl := assign order.paymentLinkUrl (some url) o.paymentLinkUrl }) :=
      bookless_setOrder fun _ => ⟨rfl, rfl⟩
    apply keeps_commit h ((restocks_start h.order).stage _ hset)
    intro db' h'
    exact keeps_readOnly h' readOnly_refreshOrder
  · exact h

theorem updateOrderStatus_keeps {user : AuthUser} {id : Uuid}
    {body : RoutesOrders.StatusUpdateRequest} {link : Option String}
    (h : Tracked businessId orderId db.toTables) :
    Keeps businessId orderId db (RoutesOrders.updateOrderStatus user id body link) := by
  apply keeps_seq h readOnly_requireStaffOrAbove.yields
  intro _ _
  apply keeps_seq h loadOrder_yields
  intro loaded hloaded
  have howner := owner_of_lookup h.order hloaded
  apply keeps_seq (R := fun _ => True) h
  · apply yields_orFail
    intro _ _
    trivial
  intro requested _
  apply keeps_seq (R := fun _ => True) h
  · exact (readOnly_seq readOnly_ensure fun _ => readOnly_ensure).yields
  intro _ _
  apply keeps_seq h readOnly_readNow.yields
  intro now _
  have hstart : Restocks businessId orderId db.toTables (Session.stage {} [.order id] (setOrder id
      (RoutesOrders.recordStatus user.userId body requested loaded now))) :=
    (restocks_start h.order).stage _ (bookless_setOrder fun _ => ⟨rfl, rfl⟩)
  apply keeps_seq (R := Restocks businessId orderId db.toTables) h
  · apply hstart.when
    apply yields_seq readOnly_read.yields
    intro inventoryEnabled _
    exact reverseConsumptionOnCancel_restocks hstart fun _ => howner
  intro session hs
  apply keeps_commit h (hs.stage _ bookless_addOrderEvent)
  intro db' h'
  apply keeps_seq h' readOnly_refreshOrder.yields
  intro order _
  split
  · apply keeps_bind (keeps_attempt (storePaymentLink_keeps h'))
    intro linked db'' h''
    exact h''
  · exact h'

theorem cancelRows_restocks {set : Worker.CancelledRow → Order → Order}
    {rows : List Worker.CancelledRow} (h : Owned businessId orderId db.toTables)
    (hset : ∀ row o, (set row o).id = o.id ∧ (set row o).businessId = o.businessId)
    (hrows : ∀ row ∈ rows, row.order ∈ db.orders)
    (hs : Restocks businessId orderId db.toTables session) :
    (Worker.cancelRows set rows session).Yields db (Restocks businessId orderId db.toTables) := by
  induction rows generalizing session with
  | nil => exact yields_done hs
  | cons row rows ih =>
      have hlookup : db.orders.lookup row.order.id = some row.order :=
        Table.lookup_of_mem (db.valid .ordersPkey) (hrows row List.mem_cons_self)
      have hcancelled : Bookless orderId (setOrder row.order.id (set row)) :=
        bookless_setOrder (hset row)
      have hevent : Bookless orderId (RoutesPayments.addOrderEvent row.event) :=
        bookless_addOrderEvent
      have hstaged := (hs.stage [.order row.order.id] hcancelled).stage [] hevent
      apply yields_seq (reverseConsumptionOnCancel_restocks hstaged fun _ =>
        owner_of_lookup h ⟨hlookup, rfl⟩)
      intro session hs
      exact ih (fun row hrow => hrows row (List.mem_cons_of_mem _ hrow)) hs

theorem cancelStaleDeliveryFeeOrders_keeps (h : Tracked businessId orderId db.toTables) :
    Keeps businessId orderId db Worker.cancelStaleDeliveryFeeOrders := by
  apply keeps_seq h readOnly_readNow.yields
  intro now _
  apply keeps_seq (R := fun rows => rows = Worker.staleRows now db.toTables) h (yields_read rfl)
  rintro rows rfl
  split
  · exact h
  · have hrows (row : Worker.CancelledRow) (hrow : row ∈ Worker.staleRows now db.toTables) :
        row.order ∈ db.orders := by
      obtain ⟨o, ho, rfl⟩ := List.mem_map.mp hrow
      exact (List.mem_filter.mp ho).1
    have hset (row : Worker.CancelledRow) (o : Order) : (Worker.cancelStaleOrder row o).id = o.id ∧
        (Worker.cancelStaleOrder row o).businessId = o.businessId := ⟨rfl, rfl⟩
    apply keeps_seq h (cancelRows_restocks h.order hset hrows (restocks_start h.order))
    intro session hs
    exact commit_restocks h hs

theorem cancelUnpaidOrders_keeps (h : Tracked businessId orderId db.toTables) :
    Keeps businessId orderId db Worker.cancelUnpaidOrders := by
  apply keeps_seq (R := fun all => all = Worker.unpaidOrders db.toTables) h (yields_read rfl)
  rintro all rfl
  apply keeps_seq h readOnly_readNow.yields
  intro now _
  dsimp only
  split
  · exact h
  · have hrows (row : Worker.CancelledRow)
        (hrow : row ∈ Worker.timedOut now (Worker.unpaidOrders db.toTables)) :
        row.order ∈ db.orders := by
      obtain ⟨entry, hentry, rfl⟩ := List.mem_map.mp hrow
      obtain ⟨o, ho, rfl⟩ := List.mem_map.mp (List.mem_filter.mp hentry).1
      exact (List.mem_filter.mp ho).1
    have hset (row : Worker.CancelledRow) (o : Order) : (Worker.cancelUnpaidOrder row o).id = o.id ∧
        (Worker.cancelUnpaidOrder row o).businessId = o.businessId := ⟨rfl, rfl⟩
    apply keeps_seq h (cancelRows_restocks h.order hset hrows (restocks_start h.order))
    intro session hs
    exact commit_restocks h hs

theorem runJob_keeps {job : Handler Unit} (h : Keeps businessId orderId db job) :
    Keeps businessId orderId db (Worker.runJob job) := by
  apply keeps_bind (keeps_attempt h)
  intro _ db' h'
  exact h'

section Bot

open NextgenBackend.Bot

variable {business : Business} {customer : Customer}

theorem view_yields {q : Tables → α} :
    (view session q).Yields db fun a => a = q (session.pending db.toTables) :=
  yields_read rfl

theorem updateOrder_restocks {id : Uuid} {condition : Order → Bool} {set : Order → Order}
    (h : Restocks businessId orderId db.toTables session)
    (hset : ∀ o, (set o).id = o.id ∧ (set o).businessId = o.businessId) :
    (updateOrder session id condition set).Yields db fun written =>
      Restocks businessId orderId db.toTables written.1 := by
  unfold updateOrder
  apply yields_seq view_yields
  rintro found rfl
  split
  · exact yields_done h
  · apply yields_seq (S := fun _ => True)
    · exact readOnly_lock.yields
    · intro locked _
      split
      · exact yields_done h
      · exact yields_done (h.stage _ (bookless_setOrder hset))

theorem owner_of_view {id : Uuid} {condition : Order → Bool} {status : OrderStatus}
    (h : Restocks businessId orderId db.toTables session)
    (hcondition : ∀ o, condition o = true → o.businessId = business.id)
    (hfound : (((session.pending db.toTables).orders.lookup id).filter condition).map
      (·.status) = some status) (hid : id = orderId) : business.id = businessId := by
  obtain ⟨o, ho, hbusiness⟩ := h.order
  obtain ⟨o', hfilter, -⟩ := Option.map_eq_some_iff.mp hfound
  obtain ⟨hlookup, hheld⟩ := Option.filter_eq_some_iff.mp hfilter
  subst hid
  have hsame : o' = o := Option.some.inj (hlookup.symm.trans ho)
  rw [← hcondition o' hheld, hsame, hbusiness]

theorem reverseIfFound_restocks {id : Uuid} {previous : Option OrderStatus}
    (h : Restocks businessId orderId db.toTables session)
    (howner : ∀ status, previous = some status → id = orderId → business.id = businessId) :
    (reverseIfFound session business id previous).Yields db
      (Restocks businessId orderId db.toTables) := by
  unfold reverseIfFound
  cases previous with
  | none => exact yields_done h
  | some status => exact reverseConsumptionOnCancel_restocks h fun _ => howner status rfl

theorem cancelWith_same {reason : String} (o : Order) :
    (cancelWith reason o).id = o.id ∧ (cancelWith reason o).businessId = o.businessId :=
  ⟨rfl, rfl⟩

theorem cancelSupersededOrder_restocks {superseded : Option Uuid}
    (h : Restocks businessId orderId db.toTables session) :
    (cancelSupersededOrder session business superseded).Yields db fun cancelled =>
      Restocks businessId orderId db.toTables cancelled.1 := by
  unfold cancelSupersededOrder
  cases superseded with
  | none => exact yields_done h
  | some id =>
      apply yields_seq view_yields
      rintro previous rfl
      apply yields_seq (updateOrder_restocks h cancelWith_same)
      intro written hs
      apply yields_seq (reverseIfFound_restocks (hs.stage _ bookless_addOrderEvent) ?_)
      · intro session hs
        exact yields_done hs
      · intro status hfound hid
        have hsupersedable (o : Order) (ho : supersedable business.id o = true) :
            o.businessId = business.id := by
          simp [supersedable] at ho
          exact ho.1
        exact owner_of_view h hsupersedable hfound hid

def SameOrders (f : Pending) : Prop :=
  ∀ t, (f t).orders = t.orders

theorem sameOrders_neutral : Neutral SameOrders where
  id _ := rfl
  comp f _ hf hg t := (hg (f t)).trans (hf t)

theorem cancelOldOrders_restocks {orders : List Order}
    (h : Restocks businessId orderId db.toTables session)
    (howner : (session.pending db.toTables).orders.PrimaryKey → ∀ old ∈ orders,
      old.id = orderId → business.id = businessId) :
    (cancelOldOrders business orders session).Yields db
      (Restocks businessId orderId db.toTables) := by
  induction orders generalizing session with
  | nil => exact yields_done h
  | cons old orders ih =>
      have hcancelled : Bookless orderId
          (setOrder old.id fun o => { o with status := .cancelled }) :=
        bookless_setOrder fun _ => ⟨rfl, rfl⟩
      have hevent : Bookless orderId (RoutesPayments.addOrderEvent (statusEvent old.id business.id
          none .cancelled "Superseded by new customer order")) := bookless_addOrderEvent
      have hstaged := (h.stage [.order old.id] hcancelled).stage [] hevent
      have hpk := (hcancelled (session.pending db.toTables)).primaryKey
      apply yields_seq (Yields.and (reverseConsumptionOnCancel_restocks hstaged fun hvalid =>
        howner (hpk hvalid) old List.mem_cons_self)
        (reverseConsumptionOnCancel_stages sameOrders_neutral fun _ _ _ _ _ => rfl).yields)
      rintro session' ⟨hs, f, hf, hpending⟩
      apply ih hs
      intro hvalid later hlater
      apply howner _ later (List.mem_cons_of_mem _ hlater)
      rw [hpending, Function.comp_apply, hf] at hvalid
      exact hpk hvalid

theorem cancelPriorLiveOrders_restocks {excludeOrderId : Uuid}
    (h : Restocks businessId orderId db.toTables session) :
    (cancelPriorLiveOrders session business customer excludeOrderId).Yields db fun cancelled =>
      Restocks businessId orderId db.toTables cancelled.1 := by
  unfold cancelPriorLiveOrders
  apply yields_seq view_yields
  rintro old rfl
  apply yields_seq (cancelOldOrders_restocks h ?_)
  · intro session hs
    apply yields_seq readOnly_lockOrders.yields
    intro _ _
    exact yields_done hs
  · rintro hpk o ho rfl
    obtain ⟨hmem, hlive⟩ := List.mem_filter.mp ho
    simp only [decide_eq_true_eq] at hlive
    obtain ⟨tracked, htracked, hbusiness⟩ := h.order
    have hsame : o = tracked :=
      Option.some.inj ((Table.lookup_of_mem hpk hmem).symm.trans htracked)
    rw [← hlive.1, hsame, hbusiness]

theorem bookless_insertRows (items : List OrderItem) (event : OrderEvent) :
    Bookless orderId (RoutesPos.insertOrderRows items event []) :=
  bookless_of_same fun _ => ⟨rfl, rfl⟩

theorem createOrderFromCart_restocks {id : Uuid} {context : Context} {status : OrderStatus}
    (h : Restocks businessId orderId db.toTables session) :
    (createOrderFromCart session id business customer context status).Yields db
      (Restocks businessId orderId db.toTables) := by
  unfold createOrderFromCart
  dsimp only
  split
  · exact yields_fail
  · have hsequence : (RoutesPos.nextOrderNumber business.id session).Yields db fun numbered =>
        Restocks businessId orderId db.toTables numbered.2.2 := by
      apply yields_seq (S := fun _ => True)
      · exact readOnly_lock.yields
      · intro row _
        apply yields_seq readOnly_found.yields
        intro b _
        exact yields_done (h.stage _ (bookless_of_same fun _ => ⟨rfl, rfl⟩))
    apply yields_seq hsequence
    rintro ⟨sequence, currency, session'⟩ hs
    apply yields_seq readOnly_readNow.yields
    intro now _
    have hrows := (hs.stage [] (bookless_insertOrder
      (newOrder id business customer context status sequence now))).stage [] (bookless_insertRows
        ((orderCart context).map (cartOrderItem (newOrder id business customer context status
          sequence now))) (creationEvent (newOrder id business customer context status sequence now)))
    apply hrows.when
    apply postSaleConsumption_restocks hrows
    rintro hpk rfl
    obtain ⟨o, ho, -⟩ := hs.order
    have hnone : (session'.pending db.toTables).orders.lookup id = none :=
      (Table.primaryKey_insert.mp hpk).2
    rw [ho] at hnone
    cases hnone

theorem placeOrder_restocks {message : InboundMessage} {superseded : Option Uuid}
    {status : OrderStatus} {context : Context}
    (h : Restocks businessId orderId db.toTables session) :
    (placeOrder session message business customer superseded status context).Yields db
      fun placed => Restocks businessId orderId db.toTables placed.1 := by
  apply yields_seq (cancelSupersededOrder_restocks h)
  intro cancelled hs
  apply yields_seq (createOrderFromCart_restocks hs)
  intro session hs
  apply yields_seq (cancelPriorLiveOrders_restocks hs)
  intro prior hs
  exact yields_done hs

theorem rejectDeliveryFee_restocks {id : Uuid}
    (h : Restocks businessId orderId db.toTables session) :
    (rejectDeliveryFee session business id).Yields db fun rejected =>
      Restocks businessId orderId db.toTables rejected.1 := by
  unfold rejectDeliveryFee
  apply yields_seq view_yields
  rintro previous rfl
  apply yields_seq (updateOrder_restocks h cancelWith_same)
  intro written hs
  apply yields_seq (reverseIfFound_restocks (hs.stage _ bookless_addOrderEvent) ?_)
  · intro session hs
    exact yields_done hs
  · intro status hfound hid
    exact owner_of_view h (fun _ => of_decide_eq_true) hfound hid

theorem finalizeDelivery_restocks {id : Uuid} {feeCents : Cents} {payment : Option ChosenPayment}
    (h : Restocks businessId orderId db.toTables session) :
    (finalizeDelivery session business id feeCents payment).Yields db fun finalized =>
      Restocks businessId orderId db.toTables finalized.1 := by
  have hset (o : Order) : (finalizeWith business feeCents payment o).id = o.id ∧
      (finalizeWith business feeCents payment o).businessId = o.businessId := ⟨rfl, rfl⟩
  apply yields_seq (updateOrder_restocks h hset)
  intro written hs
  exact yields_done (hs.stage _ bookless_addOrderEvent)

theorem perform_restocks {message : InboundMessage} {turn : Turn}
    (h : Restocks businessId orderId db.toTables session) :
    (perform session message business turn).Yields db fun performed =>
      Restocks businessId orderId db.toTables performed.1 := by
  unfold perform
  split
  · exact yields_done h
  · exact placeOrder_restocks h
  · exact rejectDeliveryFee_restocks h
  · exact finalizeDelivery_restocks h

theorem bookless_setCustomer {customerId : Uuid} {set : Customer → Customer} :
    Bookless orderId (setCustomer customerId set) :=
  bookless_of_same fun _ => ⟨rfl, rfl⟩

theorem bookless_insertMessage (row : Message) : Bookless orderId (insertMessage row) :=
  bookless_of_same fun _ => ⟨rfl, rfl⟩

theorem bookless_persistInbound (message : InboundMessage) :
    Bookless orderId (persistInbound message) :=
  bookless_of_same fun _ => ⟨rfl, rfl⟩

theorem bookless_setConversation {owner customerId : Uuid}
    {set : ConversationSession → ConversationSession} :
    Bookless orderId (setConversation owner customerId set) :=
  bookless_of_same fun _ => ⟨rfl, rfl⟩

theorem getOrCreateCustomer_restocks {owner : Uuid} {message : InboundMessage}
    (h : Tracked businessId orderId db.toTables) :
    (getOrCreateCustomer owner message).Yields db fun known =>
      Restocks businessId orderId db.toTables known.2 := by
  have hstart := restocks_start h.order
  apply yields_seq readOnly_read.yields
  intro known _
  split
  · exact yields_done hstart
  · apply yields_seq readOnly_lock.yields
    intro inserted _
    split
    · exact yields_done hstart
    · exact yields_done (hstart.stage _ (bookless_of_same fun _ => ⟨rfl, rfl⟩))

theorem getOrCreateSession_restocks {owner customerId : Uuid}
    (h : Restocks businessId orderId db.toTables session) :
    (getOrCreateSession session owner customerId).Yields db fun resumed =>
      Restocks businessId orderId db.toTables resumed.2 := by
  apply yields_seq readOnly_readNow.yields
  intro now _
  apply yields_seq readOnly_lock.yields
  intro row _
  split
  · exact yields_done h
  · exact yields_done (h.stage _ (bookless_of_same fun _ => ⟨rfl, rfl⟩))

theorem converse_restocks {message : InboundMessage} {loaded : Customer}
    (h : Restocks businessId orderId db.toTables session) :
    (converse session message business loaded customer).Yields db fun processed =>
      Restocks businessId orderId db.toTables processed.session := by
  apply yields_seq (getOrCreateSession_restocks h)
  intro resumed hs
  apply yields_seq readOnly_lock.yields
  intro _ _
  apply yields_seq readOnly_read.yields
  intro lastOrder _
  apply yields_seq (perform_restocks hs)
  intro performed hs
  exact yields_done ((hs.stage _ bookless_setConversation).stage _ bookless_setCustomer)

theorem process_restocks {message : InboundMessage}
    (h : Tracked businessId orderId db.toTables) :
    (process message).Yields db fun processed =>
      Restocks businessId orderId db.toTables processed.session := by
  apply yields_seq readOnly_read.yields
  intro business _
  split
  · exact yields_done (restocks_start h.order)
  · split
    · exact yields_done (restocks_start h.order)
    · apply yields_seq (getOrCreateCustomer_restocks h)
      rintro ⟨loaded, session⟩ hs
      apply yields_seq readOnly_readNow.yields
      intro now _
      apply yields_seq readOnly_lock.yields
      intro taken _
      dsimp only at hs ⊢
      split
      · exact yields_done (hs.stage _ bookless_setCustomer)
      · have hreserved (row : Message) := hs.stage [] (bookless_insertMessage row)
        have hkept (row : Message) := (hreserved row).stage [] (bookless_persistInbound message)
        split
        · exact yields_done ((hreserved _).stage _ bookless_setCustomer)
        · split
          · exact yields_done ((hkept _).stage _ bookless_setCustomer)
          · split
            · exact yields_done ((hkept _).stage _ bookless_setCustomer)
            · exact converse_restocks (hkept _)

theorem processInboundMessage_keeps {message : InboundMessage}
    (h : Tracked businessId orderId db.toTables) :
    Keeps businessId orderId db (processInboundMessage message) := by
  apply ensures_bind.mpr
  apply ensures_attempt.mpr
  apply Ensures.mono (process_restocks h)
  rintro r db' ⟨rfl, hprocessed⟩
  cases r with
  | error _ => exact h
  | ok processed =>
      have hcommit : Keeps businessId orderId db' (commit (.processMessage message.waMessageId
          processed.turn) processed.session) := commit_restocks h (hprocessed processed rfl)
      obtain ⟨hok, herr⟩ := ensures_save.mp hcommit
      apply ensures_bind.mpr
      apply ensures_tryCommit.mpr
      constructor
      · intro db'' hw
        exact hok db'' hw
      · intro e hw
        exact h

end Bot

end Handlers

inductive Reversing : OrderRequest → Prop
  | refundPosOrder {user id body} : Reversing (.stock (.api (.refundPosOrder user id body)))
  | voidPosOrder {user id reason} : Reversing (.stock (.api (.voidPosOrder user id reason)))
  | updateOrderStatus {user id body link} : Reversing (.updateOrderStatus user id body link)
  | cancelStaleDeliveryFeeOrders : Reversing .cancelStaleDeliveryFeeOrders
  | cancelUnpaidOrders : Reversing .cancelUnpaidOrders
  | inboundMessage {message} : Reversing (.inboundMessage message)

-- Recipes, costs, packs and other orders change; this order stays with its business and its ledger.
structure Elsewhere (orderId : Uuid) (t t' : Tables) : Prop where
  order : ∀ o, t.orders.lookup orderId = some o →
    ∃ o', t'.orders.lookup orderId = some o' ∧ o'.businessId = o.businessId
  ledger : orderLedger orderId t'.stockMovements = orderLedger orderId t.stockMovements

abbrev NextReversal (orderId : Uuid) : Database → Orders.Event → Database → Prop :=
  Orders.Next Reversing fun db db' => Elsewhere orderId db.toTables db'.toTables

structure NetsToZero (orderId : Uuid) (movements : List StockMovement) : Prop where
  net : (∃ m ∈ orderLedger orderId movements, m.movementType = .saleReversal) →
    ∀ ingredientId, netQuantityMilli orderId ingredientId movements = 0 ∧
      netValueCents orderId ingredientId movements = 0
  once : ∀ ingredientId, (reversalsOf orderId ingredientId movements).length ≤ 1

section Runs

variable {businessId orderId : Uuid} {db db' : Database} {event : Orders.Event}
  {steps : List (Orders.Event × Database)}

theorem serve_keeps {request : OrderRequest} (hrequest : Reversing request)
    (h : Tracked businessId orderId db.toTables) :
    Keeps businessId orderId db (serve request) := by
  have hpure {α β : Type} {x : Handler α} {f : α → β} (hx : Keeps businessId orderId db x) :
      Keeps businessId orderId db (x.bind fun a => .done (f a)) :=
    keeps_bind hx fun _ _ h' => h'
  cases hrequest with
  | refundPosOrder => exact hpure (hpure (hpure (refundPosOrder_keeps h)))
  | voidPosOrder => exact hpure (hpure (hpure (voidPosOrder_keeps h)))
  | updateOrderStatus => exact hpure (updateOrderStatus_keeps h)
  | cancelStaleDeliveryFeeOrders =>
      exact hpure (runJob_keeps (cancelStaleDeliveryFeeOrders_keeps h))
  | cancelUnpaidOrders => exact hpure (runJob_keeps (cancelUnpaidOrders_keeps h))
  | inboundMessage => exact hpure (processInboundMessage_keeps h)

theorem Mirrored.of_ledger {movements movements' : List StockMovement}
    (h : Mirrored businessId orderId movements)
    (hledger : orderLedger orderId movements' = orderLedger orderId movements) :
    Mirrored businessId orderId movements' := by
  constructor
  · rw [hledger]
    exact h.rows
  · rw [hledger]
    exact h.complete

theorem tracked_next (h : Tracked businessId orderId db.toTables)
    (hnext : NextReversal orderId db event db') : Tracked businessId orderId db'.toTables := by
  cases event with
  | served request reply =>
      obtain ⟨hrequest, hrun⟩ := hnext
      exact (serve_keeps hrequest h).elim hrun
  | environment =>
      obtain ⟨o, ho, hbusiness⟩ := h.order
      obtain ⟨o', ho', hsame⟩ := hnext.order o ho
      constructor
      · exact ⟨o', ho', hsame.trans hbusiness⟩
      · exact h.mirrored.of_ledger hnext.ledger

theorem reversals_net_to_zero (hposted : Posted businessId orderId db.toTables)
    (hrun : Run.Along (NextReversal orderId) db steps) :
    NetsToZero orderId (Run.last db steps).stockMovements := by
  have htracked : Tracked businessId orderId (Run.last db steps).toTables :=
    hrun.invariant (I := fun db => Tracked businessId orderId db.toTables)
      (posted_tracked hposted) fun _ _ _ => tracked_next
  have hunique := (Run.last db steps).valid .uqStockMovementsBusinessIdIdempotencyKey
  constructor
  · intro hreversed ingredientId
    exact htracked.mirrored.nets_to_zero hunique hreversed
  · intro ingredientId
    exact reversalsOf_length htracked.mirrored hunique

end Runs

def floured : Table Ingredient :=
  [{ id := 2, businessId := 1, name := "Flour", canonicalUnit := .gram
     costPerCanonicalMicroCents := 1250000 }]

def kitchen : Database where
  businesses := [{ id := 1, inventoryEnabled := true }]
  ingredients := floured
  orders := [{ id := 5, businessId := 1, customerId := none, orderNumber := "BO-000005"
               status := .accepted, paymentStatus := .paid, orderMode := .pickup, source := .pos
               subtotalCents := 1000, deliveryFeeCents := 0, totalCents := 1000
               currency := "ZAR", paymentMethod := some .card }]
  stockMovements := saleMovements 1 5 (some 9) 10 [⟨2, 333⟩] floured
  now := 100
  valid := Tables.violation_eq_none.mp (by decide +kernel)

def owner : AuthUser where
  userId := 9
  businessId := 1
  role := .owner

def cancellation : RoutesOrders.StatusUpdateRequest where
  status := "CANCELLED"
  reason := none
  estimatedReadyMinutes := none
  minutesInRange := by simp

def cancelThenVoid : List OrderRequest :=
  [.updateOrderStatus owner 5 cancellation none, .stock (.api (.voidPosOrder owner 5 "wrong table"))]

theorem kitchen_posted : Posted 1 5 kitchen.toTables where
  order := ⟨_, rfl, rfl⟩
  ledger := ⟨some 9, 10, [⟨2, 333⟩], floured, by decide +kernel⟩

theorem cancelled_then_voided_nets_to_zero :
    (reversalsOf 5 2 (Run.last kitchen (Orders.played kitchen cancelThenVoid)).stockMovements).length
        = 1 ∧
      NetsToZero 5 (Run.last kitchen (Orders.played kitchen cancelThenVoid)).stockMovements := by
  have hserves : ∀ request ∈ cancelThenVoid, Reversing request := by
    simp [cancelThenVoid, Reversing.updateOrderStatus, Reversing.voidPosOrder]
  constructor
  · decide +kernel
  · exact reversals_net_to_zero kitchen_posted (Orders.along_played hserves)

end NextgenBackend.ReversalBalance
