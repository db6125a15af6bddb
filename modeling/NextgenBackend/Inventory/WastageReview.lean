import NextgenBackend.Inventory.System
import NextgenBackend.Library.Interleaving
import NextgenBackend.Library.RelyGuarantee

namespace NextgenBackend.WastageReview

open Txn RelyGuarantee Interleaving RoutesWastage Inventory

inductive Reviews : StockRequest → Prop
  | recordWastage {user entryId body} : Reviews (.recordWastage user entryId body)
  | approveWastage {user entryId} : Reviews (.approveWastage user entryId)
  | rejectWastage {user entryId body} : Reviews (.rejectWastage user entryId body)

def isReference (entryId : Uuid) (m : StockMovement) : Bool :=
  m.sourceType = some .wastageEntry && m.sourceId = some entryId

def referencesOf (entryId : Uuid) (t : Tables) : List StockMovement :=
  t.stockMovements.filter (isReference entryId)

def netOf (entryId : Uuid) (t : Tables) : Int :=
  ((referencesOf entryId t).map (·.quantityMilli)).sum

structure Settled (entryId : Uuid) (t : Tables) : Prop where
  absent : t.wastageEntries.lookup entryId = none → referencesOf entryId t = []
  exclusive : ∀ e, t.wastageEntries.lookup entryId = some e →
    e.approvedByUserId = none ∨ e.rejectedByUserId = none
  wasted : ∀ e, t.wastageEntries.lookup entryId = some e → 0 < e.quantityMilli
  deducted : ∀ e, t.wastageEntries.lookup entryId = some e → e.rejectedByUserId = none →
    ∃ m, referencesOf entryId t = [m] ∧ m.quantityMilli = -e.quantityMilli
  restored : ∀ e, t.wastageEntries.lookup entryId = some e → e.rejectedByUserId ≠ none →
    netOf entryId t = 0 ∧ ∃ m ∈ t.stockMovements, m.businessId = e.businessId ∧
      m.idempotencyKey = some (.wastageReversal entryId e.ingredientId)

structure Moved (e e' : WastageEntry) : Prop where
  businessId : e'.businessId = e.businessId
  ingredientId : e'.ingredientId = e.ingredientId
  quantityMilli : e'.quantityMilli = e.quantityMilli
  approved : e.approvedByUserId ≠ none → e'.approvedByUserId ≠ none
  rejected : e.rejectedByUserId ≠ none → e'.rejectedByUserId ≠ none

def Evolves (entryId : Uuid) (t t' : Tables) : Prop :=
  ∀ e, t.wastageEntries.lookup entryId = some e →
    ∃ e', t'.wastageEntries.lookup entryId = some e' ∧ Moved e e'

-- Neither review locks the entry: it is still as it was read when the review is saved.
def Meets (entryId : Uuid) (site : CommitSite) (db : Database) : Prop :=
  ∀ e ∈ db.wastageEntries.lookup entryId,
    (site = .approveWastage entryId → e.rejectedByUserId = none) ∧
      (site = .rejectWastage entryId → e.approvedByUserId = none)

structure Kept (entryId : Uuid) (t t' : Tables) : Prop where
  entry : t'.wastageEntries.lookup entryId = t.wastageEntries.lookup entryId
  references : referencesOf entryId t' = referencesOf entryId t
  movements : ∀ m ∈ t.stockMovements, m ∈ t'.stockMovements

structure Guarded (entryId : Uuid) (t t' : Tables) : Prop where
  evolves : Evolves entryId t t'
  settled : Settled entryId t → Settled entryId t'

theorem Moved.refl (e : WastageEntry) : Moved e e := by
  constructor
  · rfl
  · rfl
  · rfl
  · exact fun h => h
  · exact fun h => h

theorem Moved.trans {e e' e'' : WastageEntry} (h : Moved e e') (h' : Moved e' e'') :
    Moved e e'' := by
  constructor
  · rw [h'.businessId, h.businessId]
  · rw [h'.ingredientId, h.ingredientId]
  · rw [h'.quantityMilli, h.quantityMilli]
  · exact fun happroved => h'.approved (h.approved happroved)
  · exact fun hrejected => h'.rejected (h.rejected hrejected)

theorem Evolves.refl {entryId : Uuid} {t : Tables} : Evolves entryId t t := by
  intro e he
  exact ⟨e, he, Moved.refl e⟩

theorem Evolves.trans {entryId : Uuid} {t t' t'' : Tables} (h : Evolves entryId t t')
    (h' : Evolves entryId t' t'') : Evolves entryId t t'' := by
  intro e he
  obtain ⟨e', he', hmoved⟩ := h e he
  obtain ⟨e'', he'', hmoved'⟩ := h' e' he'
  exact ⟨e'', he'', hmoved.trans hmoved'⟩

def discipline (entryId : Uuid) : Discipline Database RowKey CommitSite where
  inv db := Settled entryId db.toTables
  rely _ a b := Evolves entryId a.toTables b.toTables
  guar _ a b := Guarded entryId a.toTables b.toTables
  admits := Meets entryId
  rely_refl _ _ := Evolves.refl
  rely_trans _ _ _ _ := Evolves.trans
  rely_anti _ _ _ _ _ h := h
  guar_inv _ _ _ hsettled h := h.settled hsettled
  guar_rely _ _ _ _ _ _ h := h.evolves

section Steps

variable {α β : Type} {entryId id : Uuid} {L : Set RowKey} {db : Database} {t t' : Tables}
  {user : AuthUser} {e : WastageEntry}

abbrev Sound (entryId : Uuid) (L : Set RowKey) (db : Database) (x : Handler α) : Prop :=
  Safe (discipline entryId) L db x fun _ _ _ => True

theorem Kept.guarded (h : Kept entryId t t') : Guarded entryId t t' := by
  have hnet : netOf entryId t' = netOf entryId t := by
    unfold netOf
    rw [h.references]
  constructor
  · intro e he
    exact ⟨e, h.entry.trans he, Moved.refl e⟩
  · intro hsettled
    constructor
    · intro hnone
      rw [h.references]
      exact hsettled.absent (h.entry.symm.trans hnone)
    · intro e he
      exact hsettled.exclusive e (h.entry.symm.trans he)
    · intro e he
      exact hsettled.wasted e (h.entry.symm.trans he)
    · intro e he hnot
      rw [h.references]
      exact hsettled.deducted e (h.entry.symm.trans he) hnot
    · intro e he hrejected
      obtain ⟨hzero, m, hm, hreversal⟩ := hsettled.restored e (h.entry.symm.trans he) hrejected
      exact ⟨hnet.trans hzero, m, h.movements m hm, hreversal⟩

theorem sound_seq {R : β → Prop} {x : Handler β} {f : β → Handler α} (hx : x.ReadOnly R)
    (hf : ∀ b L' db', R b → Evolves entryId db.toTables db'.toTables → Sound entryId L' db' (f b)) :
    Sound entryId L db (x.bind f) :=
  safe_seq hx (fun b L' db' hR _ hrely => hf b L' db' hR hrely) fun _ _ _ _ _ => trivial

theorem sound_readOnly {x : Handler α} (hx : x.ReadOnly fun _ => True) : Sound entryId L db x :=
  (safe_of_readOnly hx).mono fun _ _ _ _ => trivial

theorem sound_tryCommit {site : CommitSite} {pending : Session}
    {f : Option Failure → Handler α}
    (hguar : ∀ db' db'' : Database, Settled entryId db'.toTables →
      Evolves entryId db.toTables db'.toTables → Meets entryId site db' →
        db''.toTables = pending.pending db'.toTables →
          Guarded entryId db'.toTables db''.toTables)
    (hf : ∀ fault, (f fault).ReadOnly fun _ => True) :
    Sound entryId L db
      ((Txn.tryCommit site pending.touched (Database.write pending.pending)).bind f) := by
  apply safe_bind.mpr
  intro db' hsettled hrely hmeets
  constructor
  · intro db'' hwrite
    exact ⟨hguar db' db'' hsettled hrely hmeets (Database.write_ok hwrite).1,
      sound_readOnly (hf none)⟩
  · intro fault _
    exact sound_readOnly (hf (some fault))

theorem sound_commit {site : CommitSite} {pending : Session} {f : Unit → Handler α}
    (hguar : ∀ db' db'' : Database, Settled entryId db'.toTables →
      Evolves entryId db.toTables db'.toTables → Meets entryId site db' →
        db''.toTables = pending.pending db'.toTables →
          Guarded entryId db'.toTables db''.toTables)
    (hf : ∀ a, (f a).ReadOnly fun _ => True) :
    Sound entryId L db ((commit site pending).bind f) := by
  apply safe_bind.mpr
  intro db' hsettled hrely hmeets
  constructor
  · intro db'' hwrite
    exact ⟨hguar db' db'' hsettled hrely hmeets (Database.write_ok hwrite).1,
      sound_readOnly (hf ())⟩
  · intro _ _
    trivial

theorem loadEntry_safe {businessId : Uuid} :
    Safe (discipline entryId) L db (loadEntry businessId id) fun r _ db' =>
      ∀ row, r = .ok row → row.1.id = id ∧ row.1.businessId = businessId ∧
        (id = entryId → db'.wastageEntries.lookup entryId = some row.1) := by
  apply safe_bind.mpr
  intro db' _ _
  apply safe_orFail.mpr
  constructor
  · intro row hrow
    obtain ⟨entry, hentry, hrow⟩ := Option.bind_eq_some_iff.mp hrow
    obtain ⟨ingredient, -, hrow⟩ := Option.bind_eq_some_iff.mp hrow
    obtain rfl := Option.some.inj hrow
    obtain ⟨hlookup, hbusiness⟩ := Option.filter_eq_some_iff.mp hentry
    rintro _ ⟨⟩
    refine ⟨Table.lookup_key hlookup, of_decide_eq_true hbusiness, ?_⟩
    rintro rfl
    exact hlookup
  · rintro _ _ ⟨⟩

theorem sound_loadEntry {businessId : Uuid} {f : WastageEntry × Ingredient → Handler α}
    (hf : ∀ row L' db', row.1.id = id → row.1.businessId = businessId →
      (id = entryId → db'.wastageEntries.lookup entryId = some row.1) →
        Sound entryId L' db' (f row)) :
    Sound entryId L db ((loadEntry businessId id).bind f) := by
  apply safe_bind.mpr
  apply loadEntry_safe.mono
  intro r L' db' hloaded
  cases r with
  | ok row =>
      obtain ⟨hid, hbusiness, hlookup⟩ := hloaded row rfl
      exact hf row L' db' hid hbusiness hlookup
  | error e => trivial

theorem referencesOf_append {movements : List StockMovement}
    (h : t'.stockMovements = t.stockMovements ++ movements) :
    referencesOf entryId t' =
      referencesOf entryId t ++ movements.filter (isReference entryId) := by
  unfold referencesOf
  rw [h, List.filter_append]

theorem kept_of_append {movements : List StockMovement}
    (hentry : t'.wastageEntries.lookup entryId = t.wastageEntries.lookup entryId)
    (happended : t'.stockMovements = t.stockMovements ++ movements)
    (hother : ∀ m ∈ movements, isReference entryId m = false) : Kept entryId t t' := by
  have hnone : movements.filter (isReference entryId) = [] := by
    apply List.filter_eq_nil_iff.mpr
    intro m hm
    simp [hother m hm]
  constructor
  · exact hentry
  · rw [referencesOf_append happended, hnone, List.append_nil]
  · intro m hm
    rw [happended]
    exact List.mem_append_left _ hm

theorem guarded_recorded {m : StockMovement} (hentry : t'.wastageEntries = t.wastageEntries.insert e)
    (happended : t'.stockMovements = t.stockMovements ++ [m])
    (hpk : t'.wastageEntries.PrimaryKey) (hpositive : 0 < e.quantityMilli)
    (hnew : e.rejectedByUserId = none) (hreference : isReference e.id m = true)
    (hquantity : m.quantityMilli = -e.quantityMilli)
    (hother : entryId ≠ e.id → isReference entryId m = false) : Guarded entryId t t' := by
  have hkey : key e = e.id := rfl
  rw [hentry] at hpk
  have hfresh := (Table.primaryKey_insert.mp hpk).2
  by_cases hid : entryId = e.id
  · subst hid
    have hlookup : t'.wastageEntries.lookup e.id = some e := by
      rw [hentry]
      exact Table.lookup_insert_self hfresh
    constructor
    · intro e' he'
      rw [← hkey, hfresh] at he'
      cases he'
    · intro hsettled
      have hreferences : referencesOf e.id t' = [m] := by
        rw [referencesOf_append happended, hsettled.absent hfresh]
        simp [hreference]
      constructor
      · intro hnone
        rw [hlookup] at hnone
        cases hnone
      · intro e' he'
        obtain rfl := Option.some.inj (hlookup.symm.trans he')
        exact .inr hnew
      · intro e' he'
        obtain rfl := Option.some.inj (hlookup.symm.trans he')
        exact hpositive
      · intro e' he' _
        obtain rfl := Option.some.inj (hlookup.symm.trans he')
        exact ⟨m, hreferences, hquantity⟩
      · intro e' he' hrejected
        obtain rfl := Option.some.inj (hlookup.symm.trans he')
        exact absurd hnew hrejected
  · have hlookup : t'.wastageEntries.lookup entryId = t.wastageEntries.lookup entryId := by
      rw [hentry]
      exact Table.lookup_insert_ne (Ne.symm hid)
    apply Kept.guarded
    apply kept_of_append hlookup happended
    intro m' hm'
    obtain rfl := List.mem_singleton.mp hm'
    exact hother hid

theorem recordWastage_sound {body : WastageCreateRequest} :
    Sound entryId L db (recordWastage user id body) := by
  apply sound_seq readOnly_requireStaffOrAbove
  intro _ _ _ _ _
  apply sound_seq RoutesInventory.readOnly_requireInventoryEnabled
  intro business _ _ _ _
  apply sound_seq RoutesInventory.readOnly_loadIngredient
  intro ingredient _ _ _ _
  apply sound_seq RoutesInventory.readOnly_convert
  intro quantityMilli _ _ _ _
  apply sound_seq ensure_ok
  intro _ _ _ hpositive _
  apply sound_seq readOnly_requireAsset
  intro _ _ _ _ _
  apply sound_seq readOnly_requireOrder
  intro _ _ _ _ _
  apply sound_seq readOnly_readNow
  intro now _ _ _ _
  apply sound_commit
  · intro db' db'' _ _ _ htables
    have hentries : db''.wastageEntries = db'.wastageEntries.insert (newEntry user id body ingredient
        business.wastageApprovalThresholdCents quantityMilli (body.occurredAt.getD now)) := by
      rw [htables]
      rfl
    have hmovements : db''.stockMovements = db'.stockMovements ++ [wastageMovement user body
        ingredient (newEntry user id body ingredient business.wastageApprovalThresholdCents
          quantityMilli (body.occurredAt.getD now))] := by
      rw [htables]
      rfl
    apply guarded_recorded hentries hmovements (db''.valid .wastageEntriesPkey) hpositive rfl
    · simp [isReference, wastageMovement, buildMovement]
    · rfl
    · intro hne
      simp [isReference, wastageMovement, buildMovement, newEntry] at hne ⊢
      exact Ne.symm hne
  · intro _
    trivial

theorem guarded_approved {userId : Uuid}
    (hentry : t'.wastageEntries = t.wastageEntries.modify id (approveEntry userId))
    (hmovements : t'.stockMovements = t.stockMovements)
    (hmeets : ∀ e, t.wastageEntries.lookup entryId = some e → id = entryId →
      e.rejectedByUserId = none) : Guarded entryId t t' := by
  have hkey (e : WastageEntry) : key (approveEntry userId e) = key e := rfl
  by_cases hid : id = entryId
  · subst hid
    have hreferences : referencesOf id t' = referencesOf id t := by
      unfold referencesOf
      rw [hmovements]
    have hlookup : t'.wastageEntries.lookup id =
        (t.wastageEntries.lookup id).map (approveEntry userId) := by
      rw [hentry, Table.lookup_modify_self hkey]
    have hback (e' : WastageEntry) (he' : t'.wastageEntries.lookup id = some e') :
        ∃ e, t.wastageEntries.lookup id = some e ∧ approveEntry userId e = e' := by
      rw [hlookup] at he'
      exact Option.map_eq_some_iff.mp he'
    constructor
    · intro e he
      refine ⟨approveEntry userId e, by rw [hlookup, he]; rfl, ⟨rfl, rfl, rfl, ?_, fun h => h⟩⟩
      intro _
      simp [approveEntry]
    · intro hsettled
      constructor
      · intro hnone
        rw [hlookup, Option.map_eq_none_iff] at hnone
        rw [hreferences]
        exact hsettled.absent hnone
      · intro e' he'
        obtain ⟨e, he, rfl⟩ := hback e' he'
        exact .inr (hmeets e he rfl)
      · intro e' he'
        obtain ⟨e, he, rfl⟩ := hback e' he'
        exact hsettled.wasted e he
      · intro e' he' hnot
        obtain ⟨e, he, rfl⟩ := hback e' he'
        rw [hreferences]
        exact hsettled.deducted e he hnot
      · intro e' he' hrejected
        obtain ⟨e, he, rfl⟩ := hback e' he'
        exact absurd (hmeets e he rfl) hrejected
  · have happended : t'.stockMovements = t.stockMovements ++ [] := by
      rw [hmovements, List.append_nil]
    apply Kept.guarded
    apply kept_of_append _ happended
    · intro m hm
      cases hm
    · rw [hentry, Table.lookup_modify_ne hkey (Ne.symm hid)]

theorem approveWastage_sound : Sound entryId L db (approveWastage user id) := by
  apply sound_seq readOnly_requireOwnerOrManager
  intro _ _ _ _ _
  apply sound_seq RoutesInventory.readOnly_requireInventoryEnabled
  intro business _ _ _ _
  apply sound_loadEntry
  rintro ⟨entry, ingredient⟩ _ _ _ _ _
  apply sound_seq readOnly_ensure
  intro _ _ _ _ _
  split
  · apply sound_commit
    · intro db' db'' _ _ hmeets htables
      have hentries : db''.wastageEntries =
          db'.wastageEntries.modify id (approveEntry user.userId) := by
        rw [htables]
        rfl
      have hmovements : db''.stockMovements = db'.stockMovements := by
        rw [htables]
        rfl
      apply guarded_approved hentries hmovements
      intro e he hid
      exact (hmeets e he).1 (by rw [hid])
    · intro _
      trivial
  · trivial

-- The entry was unrejected when its one movement was read, and the reversal's key keeps a second
-- rejection from being saved.
theorem guarded_rejected {body : WastageRejectRequest} {now : Instant} {original : StockMovement}
    (hentry : t'.wastageEntries =
      t.wastageEntries.modify e.id (rejectEntry user.userId body.reason now))
    (happended : t'.stockMovements =
      t.stockMovements ++ [rejectionMovement user body e original now])
    (hunique : Constraint.uqStockMovementsBusinessIdIdempotencyKey.Holds t')
    (hbusiness : e.businessId = user.businessId)
    (hloaded : e.id = entryId → ∃ e', t.wastageEntries.lookup entryId = some e' ∧ Moved e e' ∧
      e'.approvedByUserId = none ∧
        (e'.rejectedByUserId = none → original.quantityMilli = -e.quantityMilli))
    (hsettled : Settled entryId t) : Guarded entryId t t' := by
  have hkey (e' : WastageEntry) : key (rejectEntry user.userId body.reason now e') = key e' := rfl
  by_cases hid : e.id = entryId
  · subst hid
    obtain ⟨e', he', hmoved, hunapproved, hquantity⟩ := hloaded rfl
    have hlookup : t'.wastageEntries.lookup e.id =
        some (rejectEntry user.userId body.reason now e') := by
      rw [hentry, Table.lookup_modify_self hkey, he']
      rfl
    have hpending : e'.rejectedByUserId = none := by
      by_contra hrejected
      obtain ⟨-, m, hm, hmbusiness, hmkey⟩ := hsettled.restored e' he' hrejected
      have hagain : (rejectionMovement user body e original now).idempotencyKey.map (fun k =>
          ((rejectionMovement user body e original now).businessId, k)) =
            some (user.businessId, .wastageReversal e.id e.ingredientId) := rfl
      simp only [Constraint.Holds, happended] at hunique
      apply hunique.insert_ne hm _ hagain
      rw [hmkey, hmbusiness, hmoved.businessId, hmoved.ingredientId, hbusiness]
      rfl
    obtain ⟨m, hreferences, hdeducted⟩ := hsettled.deducted e' he' hpending
    have hreferences' : referencesOf e.id t' =
        [m, rejectionMovement user body e original now] := by
      rw [referencesOf_append happended, hreferences]
      simp [isReference, rejectionMovement, buildMovement]
    have hzero : netOf e.id t' = 0 := by
      unfold netOf
      rw [hreferences']
      have hreversed := hquantity hpending
      have hsame := hmoved.quantityMilli
      simp [rejectionMovement, buildMovement]
      omega
    constructor
    · intro e'' he''
      obtain rfl := Option.some.inj (he'.symm.trans he'')
      refine ⟨_, hlookup, ⟨rfl, rfl, rfl, fun h => h, ?_⟩⟩
      intro _
      simp [rejectEntry]
    · intro _
      constructor
      · intro hnone
        rw [hlookup] at hnone
        cases hnone
      · intro e'' he''
        obtain rfl := Option.some.inj (hlookup.symm.trans he'')
        exact .inl hunapproved
      · intro e'' he''
        obtain rfl := Option.some.inj (hlookup.symm.trans he'')
        exact hsettled.wasted e' he'
      · intro e'' he'' hnot
        obtain rfl := Option.some.inj (hlookup.symm.trans he'')
        cases hnot
      · intro e'' he'' _
        obtain rfl := Option.some.inj (hlookup.symm.trans he'')
        refine ⟨hzero, rejectionMovement user body e original now, ?_, ?_, ?_⟩
        · rw [happended]
          exact List.mem_append_right _ List.mem_cons_self
        · exact hbusiness.symm.trans hmoved.businessId.symm
        · simp [rejectionMovement, buildMovement, rejectEntry, hmoved.ingredientId]
  · apply Kept.guarded
    apply kept_of_append _ happended
    · intro m hm
      obtain rfl := List.mem_singleton.mp hm
      simp [isReference, rejectionMovement, buildMovement, hid]
    · rw [hentry, Table.lookup_modify_ne hkey (Ne.symm hid)]

theorem postRejection_sound {body : WastageRejectRequest} {ingredient : Ingredient}
    {threshold : Cents} (hbusiness : e.businessId = user.businessId)
    (hloaded : e.id = entryId →
      ∃ e', db.wastageEntries.lookup entryId = some e' ∧ Moved e e') :
    Sound entryId L db (postRejection user body e ingredient threshold) := by
  apply safe_bind.mpr
  intro db1 hsettled1 hrely1
  have hmoved1 (hid : e.id = entryId) :
      ∃ e1, db1.wastageEntries.lookup entryId = some e1 ∧ Moved e e1 := by
    obtain ⟨e', he', hmoved⟩ := hloaded hid
    obtain ⟨e1, he1, hmoved1⟩ := hrely1 e' he'
    exact ⟨e1, he1, hmoved.trans hmoved1⟩
  apply safe_bind.mpr
  apply safe_orFail.mpr
  constructor
  · intro original horiginal
    have hreference : original ∈ referencesOf e.id db1.toTables := by
      apply List.mem_filter.mpr
      refine ⟨List.mem_of_find?_eq_some horiginal, ?_⟩
      have hfound := List.find?_some horiginal
      simp only [decide_eq_true_eq] at hfound
      simp [isReference, hfound.2.1, hfound.2.2]
    apply sound_seq readOnly_readNow
    intro now _ db2 _ hrely2
    apply sound_tryCommit
    · intro db' db'' hsettled hrely hmeets htables
      have hentries : db''.wastageEntries =
          db'.wastageEntries.modify e.id (rejectEntry user.userId body.reason now) := by
        rw [htables]
        rfl
      have hmovements : db''.stockMovements =
          db'.stockMovements ++ [rejectionMovement user body e original now] := by
        rw [htables]
        rfl
      apply guarded_rejected hentries hmovements
        (db''.valid .uqStockMovementsBusinessIdIdempotencyKey) hbusiness _ hsettled
      intro hid
      obtain ⟨e1, he1, hmoved⟩ := hmoved1 hid
      obtain ⟨e2, he2, hmoved2⟩ := hrely2 e1 he1
      obtain ⟨e', he', hmoved'⟩ := hrely e2 he2
      have hsince : Moved e1 e' := hmoved2.trans hmoved'
      refine ⟨e', he', hmoved.trans hsince, (hmeets e' he').2 (by rw [hid]), ?_⟩
      intro hpending
      have hearlier : e1.rejectedByUserId = none := by
        by_contra hrejected
        exact hsince.rejected hrejected hpending
      obtain ⟨m, hreferences, hdeducted⟩ := hsettled1.deducted e1 he1 hearlier
      rw [hid, hreferences] at hreference
      obtain rfl := List.mem_singleton.mp hreference
      rw [hdeducted, hmoved.quantityMilli]
    · intro fault
      split
      · trivial
      · apply readOnly_seq readOnly_loadEntry
        rintro ⟨entry, ingredient⟩
        trivial
      · trivial
  · intro _
    trivial

theorem rejectWastage_sound {body : WastageRejectRequest} :
    Sound entryId L db (rejectWastage user id body) := by
  apply sound_seq readOnly_requireOwnerOrManager
  intro _ _ _ _ _
  apply sound_seq RoutesInventory.readOnly_requireInventoryEnabled
  intro business _ _ _ _
  apply sound_loadEntry
  rintro ⟨entry, ingredient⟩ _ db1 hid hbusiness hloaded
  apply sound_seq readOnly_ensure
  intro _ _ db2 _ hrely
  split
  · apply postRejection_sound hbusiness
    intro hentry
    exact hrely entry (hloaded (hid.symm.trans hentry))
  · trivial

theorem sound_answer {wrap : α → StockReply} {x : Handler α} (hx : Sound entryId L db x) :
    Sound entryId L db (answer wrap x) := by
  apply safe_bind.mpr
  apply Safe.mono hx
  intro r _ _ _
  cases r with
  | ok a => trivial
  | error e => trivial

theorem handleStock_sound {request : StockRequest} (h : Reviews request) :
    Sound entryId L db (handleStock request) := by
  cases h with
  | recordWastage => exact sound_answer recordWastage_sound
  | approveWastage => exact sound_answer approveWastage_sound
  | rejectWastage => exact sound_answer rejectWastage_sound

end Steps

def EntryKept (entryId : Uuid) (db db' : Database) : Prop :=
  Kept entryId db.toTables db'.toTables

theorem respects_entryKept {entryId : Uuid} :
    (discipline entryId).Respects (EntryKept entryId) := by
  intro db db' hsettled hkept
  have hguarded : Guarded entryId db.toTables db'.toTables := Kept.guarded hkept
  exact ⟨hguarded.settled hsettled, fun _ => hguarded.evolves⟩

section Runs

variable {ι : Type} [DecidableEq ι] {requests : ι → StockRequest} {entryId : Uuid}

abbrev Server (ι : Type) := Config ι Database RowKey CommitSite Failure StockReply

def serve (db : Database) (requests : ι → StockRequest) : Server ι :=
  start db fun i => handleStock (requests i)

abbrev TimelyRun (entryId : Uuid) (c c' : Server ι) : Prop :=
  Reachable (EntryKept entryId) (fun c i => c.Meets (Meets entryId) i) c c'

theorem consistent_serve {db : Database} {c : Server ι} (hreviews : ∀ i, Reviews (requests i))
    (hsettled : Settled entryId db.toTables) (hc : TimelyRun entryId (serve db requests) c) :
    Consistent (discipline entryId) (fun _ _ => True) c := by
  apply consistent_reachable respects_entryKept (fun _ _ h => h) _ hc
  exact consistent_start hsettled fun i => handleStock_sound (hreviews i)

theorem run_evolves {db : Database} {c c' : Server ι} (hreviews : ∀ i, Reviews (requests i))
    (hsettled : Settled entryId db.toTables) (hc : TimelyRun entryId (serve db requests) c)
    (hc' : TimelyRun entryId c c') : Evolves entryId c.db.toTables c'.db.toTables := by
  have hkept (a b : Database) (h : EntryKept entryId a b) :
      Evolves entryId a.toTables b.toTables :=
    (Kept.guarded h).evolves
  exact reachable_evolves (T := fun a b => Evolves entryId a.toTables b.toTables)
    (fun _ => Evolves.refl) (fun _ _ _ => Evolves.trans)
    (fun _ _ _ _ (h : Guarded entryId _ _) => h.evolves) (fun a b _ => hkept a b)
    respects_entryKept (fun _ _ h => h) (consistent_serve hreviews hsettled hc) hc'

theorem review_restores_stock_once {db : Database} {c c' : Server ι} {e : WastageEntry}
    (hreviews : ∀ i, Reviews (requests i)) (hsettled : Settled entryId db.toTables)
    (hc : TimelyRun entryId (serve db requests) c) (hc' : TimelyRun entryId c c')
    (he : c.db.wastageEntries.lookup entryId = some e) :
    ∃ e', c'.db.wastageEntries.lookup entryId = some e' ∧
      (e.approvedByUserId ≠ none → e'.approvedByUserId ≠ none ∧ e'.rejectedByUserId = none) ∧
      (e.rejectedByUserId ≠ none → e'.rejectedByUserId ≠ none ∧ e'.approvedByUserId = none) ∧
      (netOf entryId c'.db.toTables = -e'.quantityMilli ↔ e'.rejectedByUserId = none) ∧
      (e'.rejectedByUserId ≠ none → netOf entryId c'.db.toTables = 0) := by
  have hsettled' := (consistent_serve hreviews hsettled (hc.trans hc')).1
  obtain ⟨e', he', hmoved⟩ := run_evolves hreviews hsettled hc hc' e he
  have hexclusive := hsettled'.exclusive e' he'
  refine ⟨e', he', ?_, ?_, ?_, ?_⟩
  · intro happroved
    have happroved' := hmoved.approved happroved
    exact ⟨happroved', hexclusive.resolve_left happroved'⟩
  · intro hrejected
    have hrejected' := hmoved.rejected hrejected
    exact ⟨hrejected', hexclusive.resolve_right hrejected'⟩
  · constructor
    · intro hnet
      by_contra hrejected
      have hzero := (hsettled'.restored e' he' hrejected).1
      have hpositive := hsettled'.wasted e' he'
      omega
    · intro hpending
      obtain ⟨m, hreferences, hdeducted⟩ := hsettled'.deducted e' he' hpending
      unfold netOf
      rw [hreferences]
      simpa using hdeducted
  · intro hrejected
    exact (hsettled'.restored e' he' hrejected).1

end Runs

def spilled : WastageEntry where
  id := 6
  businessId := 1
  ingredientId := 2
  quantityMilli := 1000000
  enteredQuantity := "1"
  enteredUnit := "KG"
  reason := .dropped
  note := none
  valueCents := 500
  createdByUserId := none
  approvedByUserId := none
  photoAssetId := none
  relatedOrderId := none
  occurredAt := 20

def spillage : StockMovement where
  businessId := 1
  ingredientId := 2
  quantityMilli := -1000000
  movementType := .wastage
  sourceType := some .wastageEntry
  sourceId := some 6
  unitCostMicroCents := 0
  valueCents := -500
  createdByUserId := none
  idempotencyKey := some (.wastage 6 2)
  notes := none
  occurredAt := 20

def awaitingReview : Database where
  businesses := [{ id := 1, inventoryEnabled := true }]
  ingredients := [{ id := 2, businessId := 1, name := "Flour", canonicalUnit := .gram }]
  wastageEntries := [spilled]
  stockMovements := [spillage]
  now := 100
  valid := Tables.violation_eq_none.mp (by decide +kernel)

theorem settled_awaitingReview : Settled 6 awaitingReview.toTables := by
  have hlookup : awaitingReview.wastageEntries.lookup 6 = some spilled := by decide
  constructor
  · intro hnone
    cases hlookup.symm.trans hnone
  · intro e he
    obtain rfl := Option.some.inj (hlookup.symm.trans he)
    exact .inl rfl
  · intro e he
    obtain rfl := Option.some.inj (hlookup.symm.trans he)
    decide
  · intro e he _
    obtain rfl := Option.some.inj (hlookup.symm.trans he)
    exact ⟨spillage, by decide, rfl⟩
  · intro e he hrejected
    obtain rfl := Option.some.inj (hlookup.symm.trans he)
    exact absurd rfl hrejected

def firstManager : AuthUser where
  userId := 9
  businessId := 1
  role := .manager

def secondManager : AuthUser where
  userId := 10
  businessId := 1
  role := .manager

def miscounted : WastageRejectRequest where
  reason := "miscounted"
  reasonGiven := by decide

def approveAndReject : Bool → StockRequest
  | false => .approveWastage firstManager 6
  | true => .rejectWastage secondManager 6 miscounted

theorem reviews_approveAndReject (i : Bool) : Reviews (approveAndReject i) := by
  cases i with
  | false => exact .approveWastage
  | true => exact .rejectWastage

instance (entryId : Uuid) (site : CommitSite) (db : Database) :
    Decidable (Meets entryId site db) :=
  inferInstanceAs (Decidable (∀ e ∈ db.wastageEntries.lookup entryId, _ ∧ _))

def entryIn (c : Server Bool) (entryId : Uuid) : Option WastageEntry :=
  c.db.wastageEntries.lookup entryId

theorem approved_entry_stays_wasted :
    ∃ c ∈ (serve awaitingReview approveAndReject).schedule (fun c i => c.Meets (Meets 6) i)
        [false, false, false],
      ∃ c' ∈ c.schedule (fun c i => c.Meets (Meets 6) i) [true, true],
        ∃ e', c'.db.wastageEntries.lookup 6 = some e' ∧ e'.rejectedByUserId = none ∧
          netOf 6 c'.db.toTables = -e'.quantityMilli := by
  have hrun : ∃ c ∈ (serve awaitingReview approveAndReject).schedule
      (fun c i => c.Meets (Meets 6) i) [false, false, false],
      (entryIn c 6).any (·.approvedByUserId.isSome) = true ∧
        ∃ c' ∈ c.schedule (fun c i => c.Meets (Meets 6) i) [true, true], True := by
    decide +kernel
  obtain ⟨c, hc, happroved, c', hc', -⟩ := hrun
  obtain ⟨e, he, hsome⟩ := (Option.any_eq_true _ _).mp happroved
  obtain ⟨e', he', hkept, -, hnet, -⟩ := review_restores_stock_once reviews_approveAndReject
    settled_awaitingReview (schedule_reachable hc) (schedule_reachable hc') he
  obtain ⟨-, hpending⟩ := hkept (Option.isSome_iff_ne_none.mp hsome)
  exact ⟨c, hc, c', hc', e', he', hpending, hnet.mpr hpending⟩

-- Both managers read the pending entry; the approval is saved, and then the rejection.
theorem approved_entry_rejected :
    ¬ ∀ (db : Database) (requests : Bool → StockRequest) (c c' : Server Bool) (entryId : Uuid)
        (e : WastageEntry), (∀ i, Reviews (requests i)) → Settled entryId db.toTables →
      Reachable (EntryKept entryId) (fun _ _ => True) (serve db requests) c →
      Reachable (EntryKept entryId) (fun _ _ => True) c c' →
      c.db.wastageEntries.lookup entryId = some e → e.approvedByUserId ≠ none →
        ∃ e', c'.db.wastageEntries.lookup entryId = some e' ∧ e'.rejectedByUserId = none := by
  intro h
  have hrun : ∃ c ∈ (serve awaitingReview approveAndReject).schedule (fun _ _ => True)
      [true, true, false, false, false],
      (entryIn c 6).any (·.approvedByUserId.isSome) = true ∧
        ∃ c' ∈ c.schedule (fun _ _ => True) [true, true, true],
          (entryIn c' 6).any (·.rejectedByUserId.isSome) = true := by
    decide +kernel
  obtain ⟨c, hc, happroved, c', hc', hrejected⟩ := hrun
  obtain ⟨e, he, hsome⟩ := (Option.any_eq_true _ _).mp happroved
  obtain ⟨e', he', hnone⟩ := h awaitingReview approveAndReject c c' 6 e reviews_approveAndReject
    settled_awaitingReview (schedule_reachable hc) (schedule_reachable hc') he
    (Option.isSome_iff_ne_none.mp hsome)
  obtain ⟨e'', he'', hsome'⟩ := (Option.any_eq_true _ _).mp hrejected
  obtain rfl := Option.some.inj (he'.symm.trans he'')
  rw [hnone] at hsome'
  cases hsome'

end NextgenBackend.WastageReview
