import NextgenBackend.Inventory.CutoffBalance

namespace NextgenBackend.SessionLifecycle

open Txn RelyGuarantee Interleaving RoutesStocktake Inventory CutoffBalance

inductive Counts : StockRequest → Prop
  | submitCounts {user sessionId body} : Counts (.submitCounts user sessionId body)
  | completeStocktake {user sessionId} : Counts (.completeStocktake user sessionId)
  | approveStocktake {user sessionId postAdjustments} :
      Counts (.approveStocktake user sessionId postAdjustments)
  | cancelStocktake {user sessionId} : Counts (.cancelStocktake user sessionId)

inductive Transition : StocktakeStatus → StocktakeStatus → Prop
  | complete : Transition .draft .completed
  | approve : Transition .completed .approved
  | abandon : Transition .draft .cancelled
  | cancel : Transition .completed .cancelled

def figure (l : StocktakeLine) : Uuid × Int × Int :=
  (l.ingredientId, l.varianceQuantityMilli, l.unitCostMicroCents)

def isAdjustment (sessionId : Uuid) (m : StockMovement) : Bool :=
  m.movementType = .stocktakeAdjustment && m.sourceType = some .stocktake &&
    m.sourceId = some sessionId

def adjustmentsOf (sessionId : Uuid) (t : Tables) : List (Uuid × Int × Int) :=
  (t.stockMovements.filter (isAdjustment sessionId)).map fun m =>
    (m.ingredientId, m.quantityMilli, m.unitCostMicroCents)

def isApproved (sessionId : Uuid) (t : Tables) : Bool :=
  (t.stocktakeSessions.lookup sessionId).any (·.status = .approved)

def figuresOf (sessionId : Uuid) (t : Tables) : List (Uuid × Int × Int) :=
  (sessionLines sessionId t).map figure

-- The posted adjustments are an approved count's, one for each line that varies.
def Matches (sessionId : Uuid) (t : Tables) : Prop :=
  adjustmentsOf sessionId t = [] ∨ (isApproved sessionId t = true ∧
    adjustmentsOf sessionId t = (figuresOf sessionId t).filter (·.2.1 ≠ 0))

structure Evolves (sessionId : Uuid) (t t' : Tables) : Prop where
  forward : ∀ s, t.stocktakeSessions.lookup sessionId = some s →
    ∃ s', t'.stocktakeSessions.lookup sessionId = some s' ∧
      Relation.ReflTransGen Transition s.status s'.status
  locked : ∀ s, t.stocktakeSessions.lookup sessionId = some s → s.status = .approved →
    sessionLines sessionId t' = sessionLines sessionId t

-- Counts and completions are not under the row's lock, nor is a cancellation until it is saved.
def isOpen (sessionId : Uuid) (site : CommitSite) (s : StocktakeSession) : Bool :=
  match site with
  | .submitCounts id => id ≠ sessionId || s.status ≠ .approved
  | .completeStocktake id => id ≠ sessionId || s.status = .draft || s.status = .completed
  | .cancelStocktake id => id ≠ sessionId || s.status ≠ .approved
  | _ => true

def Meets (sessionId : Uuid) (site : CommitSite) (db : Database) : Prop :=
  ∀ s ∈ db.stocktakeSessions.lookup sessionId, isOpen sessionId site s = true

structure SameSession (sessionId : Uuid) (t t' : Tables) : Prop where
  session : t'.stocktakeSessions.lookup sessionId = t.stocktakeSessions.lookup sessionId
  figures : figuresOf sessionId t' = figuresOf sessionId t

structure Kept (sessionId : Uuid) (t t' : Tables) : Prop where
  session : t'.stocktakeSessions.lookup sessionId = t.stocktakeSessions.lookup sessionId
  lines : sessionLines sessionId t' = sessionLines sessionId t
  adjustments : adjustmentsOf sessionId t' = adjustmentsOf sessionId t

structure Guarded (sessionId : Uuid) (L : Set RowKey) (t t' : Tables) : Prop where
  evolves : Evolves sessionId t t'
  matched : Matches sessionId t → Matches sessionId t'
  unlocked : .stocktakeSession sessionId ∉ L → SameSession sessionId t t'

theorem Transition.final {status status' : StocktakeStatus}
    (h : Relation.ReflTransGen Transition status status')
    (hfinal : status = .approved ∨ status = .cancelled) : status' = status := by
  induction h with
  | refl => rfl
  | tail _ hstep ih =>
      subst ih
      rcases hfinal with rfl | rfl <;> cases hstep

theorem SameSession.refl {sessionId : Uuid} {t : Tables} : SameSession sessionId t t :=
  ⟨rfl, rfl⟩

theorem SameSession.trans {sessionId : Uuid} {t t' t'' : Tables} (h : SameSession sessionId t t')
    (h' : SameSession sessionId t' t'') : SameSession sessionId t t'' :=
  ⟨h'.session.trans h.session, h'.figures.trans h.figures⟩

theorem Evolves.refl {sessionId : Uuid} {t : Tables} : Evolves sessionId t t := by
  constructor
  · intro s hs
    exact ⟨s, hs, .refl⟩
  · intro s _ _
    rfl

theorem Evolves.trans {sessionId : Uuid} {t t' t'' : Tables} (h : Evolves sessionId t t')
    (h' : Evolves sessionId t' t'') : Evolves sessionId t t'' := by
  constructor
  · intro s hs
    obtain ⟨s', hs', hforward⟩ := h.forward s hs
    obtain ⟨s'', hs'', hforward'⟩ := h'.forward s' hs'
    exact ⟨s'', hs'', hforward.trans hforward'⟩
  · intro s hs happroved
    obtain ⟨s', hs', hforward⟩ := h.forward s hs
    have hfinal := Transition.final hforward (.inl happroved)
    exact (h'.locked s' hs' (hfinal.trans happroved)).trans (h.locked s hs happroved)

def discipline (sessionId : Uuid) : Discipline Database RowKey CommitSite where
  inv db := Matches sessionId db.toTables
  rely L a b := .stocktakeSession sessionId ∈ L → SameSession sessionId a.toTables b.toTables
  guar L a b := Guarded sessionId L a.toTables b.toTables
  admits := Meets sessionId
  rely_refl _ _ _ := SameSession.refl
  rely_trans _ _ _ _ hab hbc hL := (hab hL).trans (hbc hL)
  rely_anti _ _ _ _ hsub h hL := h (hsub hL)
  guar_inv _ _ _ hmatches h := h.matched hmatches
  guar_rely _ _ _ _ hdisjoint _ h hL' := h.unlocked fun hL => Set.disjoint_left.mp hdisjoint hL hL'

section Steps

variable {α β : Type} {sessionId id : Uuid} {L : Set RowKey} {db db' : Database} {t t' : Tables}
  {user : AuthUser}

abbrev Sound (sessionId : Uuid) (L : Set RowKey) (db : Database) (x : Handler α) : Prop :=
  Safe (discipline sessionId) L db x fun _ _ _ => True

theorem figuresOf_congr (h : sessionLines sessionId t' = sessionLines sessionId t) :
    figuresOf sessionId t' = figuresOf sessionId t := by
  unfold figuresOf
  rw [h]

theorem Kept.guarded (h : Kept sessionId t t') : Guarded sessionId L t t' := by
  have hsame : SameSession sessionId t t' := ⟨h.session, figuresOf_congr h.lines⟩
  constructor
  · constructor
    · intro s hs
      exact ⟨s, h.session.trans hs, .refl⟩
    · intro s _ _
      exact h.lines
  · intro hmatches
    unfold Matches isApproved at hmatches ⊢
    rw [h.session, h.adjustments, hsame.figures]
    exact hmatches
  · exact fun _ => hsame

theorem sound_seq {R : β → Prop} {x : Handler β} {f : β → Handler α} (hx : x.ReadOnly R)
    (hf : ∀ b L' db', R b → L ⊆ L' → (discipline sessionId).rely L db db' →
      Sound sessionId L' db' (f b)) : Sound sessionId L db (x.bind f) :=
  safe_seq hx hf fun _ _ _ _ _ => trivial

theorem sound_readOnly {x : Handler α} (hx : x.ReadOnly fun _ => True) : Sound sessionId L db x :=
  (safe_of_readOnly hx).mono fun _ _ _ _ => trivial

theorem sound_commit {site : CommitSite} {pending : Session} {f : Unit → Handler α}
    (hguar : ∀ db' : Database, Matches sessionId db'.toTables →
      (discipline sessionId).rely L db db' → Meets sessionId site db' →
        Guarded sessionId (L ∪ {key | key ∈ pending.touched}) db'.toTables
          (pending.pending db'.toTables))
    (hf : ∀ a, (f a).ReadOnly fun _ => True) :
    Sound sessionId L db ((commit site pending).bind f) := by
  apply safe_bind.mpr
  intro db' hmatches hrely hmeets
  constructor
  · intro db'' hwrite
    have hguarded := hguar db' hmatches hrely hmeets
    rw [← (Database.write_ok hwrite).1] at hguarded
    exact ⟨hguarded, sound_readOnly (hf ())⟩
  · intro _ _
    trivial

theorem readOnly_computeVariances {businessId : Uuid} {session : StocktakeSession}
    {ingredients : List Ingredient} :
    (computeVariances businessId session ingredients).ReadOnly fun _ => True := by
  have hopening : (openingStock businessId session (ingredients.map (·.id))).ReadOnly
      fun _ => True := by
    unfold openingStock
    split
    · exact readOnly_read
    · trivial
  apply readOnly_seq hopening
  intro opening
  apply readOnly_seq readOnly_read
  intro totals
  trivial

theorem readOnly_loadSession {businessId : Uuid} :
    (loadSession businessId id).ReadOnly fun row => row.1.id = id := by
  have hrow : (Txn.read (ownSession businessId id) : Handler _).ReadOnly fun row =>
      ∀ s ∈ row, s.id = id := by
    intro db s hs
    exact Table.lookup_key (ownSession_some hs).1
  apply conforms_bind hrow
  intro row hrow
  apply conforms_bind (conforms_orFail fun s hs => hrow s hs)
  intro s hs
  apply readOnly_seq readOnly_read
  intro lines
  exact hs

theorem readOnly_buildResponse {businessId : Uuid} :
    (buildResponse businessId id).ReadOnly fun _ => True := by
  unfold buildResponse
  apply conforms_bind readOnly_loadSession
  rintro ⟨session, lines⟩ _
  apply readOnly_seq readOnly_read
  intro ingredients
  split
  · trivial
  · apply readOnly_seq readOnly_computeVariances
    intro variances
    trivial

theorem readOnly_rejectIfLocked {session : StocktakeSession} :
    (rejectIfLocked session).ReadOnly fun _ => True :=
  readOnly_seq readOnly_ensure fun _ => readOnly_ensure

def Recounts (id : Uuid) (f : Pending) : Prop :=
  ∀ t, (f t).stocktakeSessions = t.stocktakeSessions ∧ (f t).stockMovements = t.stockMovements ∧
    (∀ sessionId, figuresOf sessionId (f t) = figuresOf sessionId t) ∧
      ∀ sessionId, sessionId ≠ id → sessionLines sessionId (f t) = sessionLines sessionId t

theorem recounts_neutral : Neutral (Recounts id) where
  id _ := ⟨rfl, rfl, fun _ => rfl, fun _ _ => rfl⟩
  comp f _ hf hg t := by
    obtain ⟨hsessions, hmovements, hfigures, hlines⟩ := hf t
    obtain ⟨hsessions', hmovements', hfigures', hlines'⟩ := hg (f t)
    exact ⟨hsessions'.trans hsessions, hmovements'.trans hmovements,
      fun sessionId => (hfigures' sessionId).trans (hfigures sessionId),
      fun sessionId hne => (hlines' sessionId hne).trans (hlines sessionId hne)⟩

theorem figure_recordCount {entry : CountLineRequest} {counted : Int} {l : StocktakeLine} :
    figure (recordCount entry counted l) = figure l := by
  unfold recordCount
  split <;> rfl

theorem recounts_recordCount (entry : CountLineRequest) (counted : Int) :
    Recounts id (setLines id (recordCount entry counted)) := by
  intro t
  have hsame (l : StocktakeLine) : SameLine l
      (if l.stocktakeSessionId = id then recordCount entry counted l else l) := by
    split
    · exact sameLine_recordCount
    · exact ⟨rfl, rfl, rfl⟩
  have hfigure (l : StocktakeLine) :
      figure (if l.stocktakeSessionId = id then recordCount entry counted l else l) = figure l := by
    split
    · exact figure_recordCount
    · rfl
  have hmapped (sessionId : Uuid) :
      sessionLines sessionId (setLines id (recordCount entry counted) t) =
        (sessionLines sessionId t).map fun l =>
          if l.stocktakeSessionId = id then recordCount entry counted l else l :=
    sessionLines_map hsame rfl
  refine ⟨rfl, rfl, ?_, ?_⟩
  · intro sessionId
    unfold figuresOf
    rw [hmapped, List.map_map]
    exact List.map_congr_left fun l _ => hfigure l
  · intro sessionId hne
    have hkeeps : KeepsLines id fun l =>
        if l.stocktakeSessionId = id then recordCount entry counted l else l :=
      fun l => ⟨hsame l, fun hother => if_neg hother⟩
    exact sessionLines_map_other hkeeps hne rfl

theorem submitCounts_sound {body : CountSubmitRequest} :
    Sound sessionId L db (submitCounts user id body) := by
  apply sound_seq readOnly_requireStaffOrAbove
  intro _ _ _ _ _ _
  apply sound_seq RoutesInventory.readOnly_requireInventoryEnabled
  intro _ _ _ _ _ _
  apply sound_seq readOnly_loadSession
  rintro ⟨session, lines⟩ _ _ _ _ _
  apply sound_seq readOnly_rejectIfLocked
  intro _ _ _ _ _ _
  apply sound_seq readOnly_ensure
  intro _ _ _ _ _ _
  apply sound_seq readOnly_read
  intro ingredients _ _ _ _ _
  apply sound_seq (countLines_extends recounts_neutral recounts_recordCount)
  intro pending _ _ hpending _ _
  apply sound_commit _ fun _ => readOnly_buildResponse
  intro db' hmatches _ hmeets
  obtain ⟨hsessions, hmovements, hfigures, hlines⟩ := hpending.pending db'.toTables
  have hsession : (pending.pending db'.toTables).stocktakeSessions.lookup sessionId =
      db'.stocktakeSessions.lookup sessionId := by rw [hsessions]
  have hadjustments : adjustmentsOf sessionId (pending.pending db'.toTables) =
      adjustmentsOf sessionId db'.toTables := by
    unfold adjustmentsOf
    rw [hmovements]
  by_cases hid : id = sessionId
  · subst hid
    constructor
    · constructor
      · intro s hs
        exact ⟨s, hsession.trans hs, .refl⟩
      · intro s hs happroved
        have hopen := hmeets s hs
        simp [isOpen, happroved] at hopen
    · intro hmatches
      unfold Matches isApproved at hmatches ⊢
      rw [hsession, hadjustments, hfigures]
      exact hmatches
    · exact fun _ => ⟨hsession, hfigures id⟩
  · exact Kept.guarded ⟨hsession, hlines sessionId (Ne.symm hid), hadjustments⟩

theorem guarded_moved {set : StocktakeSession → StocktakeSession}
    (hsessions : t'.stocktakeSessions = t.stocktakeSessions.modify id set)
    (hkey : ∀ s, key (set s) = key s) (hL : .stocktakeSession id ∈ L)
    (hlines : sessionId ≠ id → sessionLines sessionId t' = sessionLines sessionId t)
    (hmovements : t'.stockMovements = t.stockMovements)
    (hmoves : ∀ s, t.stocktakeSessions.lookup sessionId = some s → id = sessionId →
      s.status ≠ .approved ∧ Relation.ReflTransGen Transition s.status (set s).status) :
    Guarded sessionId L t t' := by
  have hadjustments : adjustmentsOf sessionId t' = adjustmentsOf sessionId t := by
    unfold adjustmentsOf
    rw [hmovements]
  by_cases hid : sessionId = id
  · subst hid
    have hlookup : t'.stocktakeSessions.lookup sessionId =
        (t.stocktakeSessions.lookup sessionId).map set := by
      rw [hsessions]
      exact Table.lookup_modify_self hkey
    constructor
    · constructor
      · intro s hs
        exact ⟨set s, by rw [hlookup, hs]; rfl, (hmoves s hs rfl).2⟩
      · intro s hs happroved
        exact absurd happroved (hmoves s hs rfl).1
    · intro hmatches
      left
      rcases hmatches with hnone | ⟨happroved, -⟩
      · exact hadjustments.trans hnone
      · obtain ⟨s, hs, hstatus⟩ := (Option.any_eq_true _ _).mp happroved
        exact absurd (of_decide_eq_true hstatus) (hmoves s hs rfl).1
    · exact fun hnot => absurd hL hnot
  · have hlookup : t'.stocktakeSessions.lookup sessionId =
        t.stocktakeSessions.lookup sessionId := by
      rw [hsessions]
      exact Table.lookup_modify_ne hkey hid
    exact Kept.guarded ⟨hlookup, hlines hid, hadjustments⟩

theorem completeStocktake_sound : Sound sessionId L db (completeStocktake user id) := by
  apply sound_seq readOnly_requireStaffOrAbove
  intro _ _ _ _ _ _
  apply sound_seq RoutesInventory.readOnly_requireInventoryEnabled
  intro _ _ _ _ _ _
  apply sound_seq readOnly_loadSession
  rintro ⟨session, lines⟩ _ _ _ _ _
  apply sound_seq readOnly_rejectIfLocked
  intro _ _ _ _ _ _
  apply sound_seq readOnly_ensure
  intro _ _ _ _ _ _
  apply sound_seq readOnly_ensure
  intro _ _ _ _ _ _
  apply sound_seq readOnly_read
  intro ingredients _ _ _ _ _
  apply sound_seq readOnly_computeVariances
  intro variances _ _ _ _ _
  apply sound_seq readOnly_readNow
  intro now _ _ _ _ _
  apply sound_commit _ fun _ => readOnly_buildResponse
  intro db' _ _ hmeets
  have hkeeps : KeepsLines id fun l => if l.stocktakeSessionId = id then
      snapshotLine (countedVariances lines variances) l else l := by
    intro l
    refine ⟨?_, fun hother => if_neg hother⟩
    beta_reduce
    split
    · exact sameLine_snapshot
    · exact ⟨rfl, rfl, rfl⟩
  have hmoves (s : StocktakeSession) (hs : db'.stocktakeSessions.lookup sessionId = some s)
      (hid : id = sessionId) : s.status ≠ .approved ∧
        Relation.ReflTransGen Transition s.status .completed := by
    have hopen := hmeets s hs
    simp only [isOpen, hid, ne_eq, not_true_eq_false, decide_false, Bool.false_or,
      Bool.or_eq_true, decide_eq_true_eq] at hopen
    rcases hopen with hdraft | hcompleted
    · rw [hdraft]
      exact ⟨by simp, .single .complete⟩
    · rw [hcompleted]
      exact ⟨by simp, .refl⟩
  exact guarded_moved rfl (fun _ => rfl) (.inr (by simp [Session.stage]))
    (fun hne => sessionLines_map_other hkeeps hne rfl) rfl hmoves

theorem cancelStocktake_sound : Sound sessionId L db (cancelStocktake user id) := by
  apply sound_seq readOnly_requireOwnerOrManager
  intro _ _ _ _ _ _
  apply sound_seq RoutesInventory.readOnly_requireInventoryEnabled
  intro _ _ _ _ _ _
  apply sound_seq readOnly_loadSession
  rintro ⟨session, lines⟩ _ _ _ _ _
  apply sound_seq readOnly_rejectIfLocked
  intro _ _ _ _ _ _
  apply sound_commit _ fun _ => readOnly_buildResponse
  intro db' _ _ hmeets
  have hmoves (s : StocktakeSession) (hs : db'.stocktakeSessions.lookup sessionId = some s)
      (hid : id = sessionId) : s.status ≠ .approved ∧
        Relation.ReflTransGen Transition s.status .cancelled := by
    have hopen := hmeets s hs
    simp only [isOpen, hid, ne_eq, not_true_eq_false, decide_false, Bool.false_or,
      decide_eq_true_eq] at hopen
    refine ⟨hopen, ?_⟩
    cases hstatus : s.status with
    | draft => exact .single .abandon
    | completed => exact .single .cancel
    | approved => exact absurd hstatus hopen
    | cancelled => exact .refl
  exact guarded_moved rfl (fun _ => rfl) (.inr (by simp [Session.stage])) (fun _ => rfl) rfl hmoves

-- The lock keeps the row, and what its lines will be read as, from here to the commit.
theorem loadSessionForUpdate_safe {businessId : Uuid} :
    Safe (discipline sessionId) L db (loadSessionForUpdate businessId id) fun r L' db' =>
      ∀ row, r = .ok row → .stocktakeSession id ∈ L' ∧ row.1.id = id ∧ (id = sessionId →
        db'.stocktakeSessions.lookup sessionId = some row.1 ∧
          figuresOf sessionId db'.toTables = row.2.map figure) := by
  apply safe_bind.mpr
  intro db' _ _
  apply safe_bind.mpr
  apply safe_orFail.mpr
  constructor
  · intro s hs
    obtain ⟨hlookup, -⟩ := ownSession_some hs
    apply safe_bind.mpr
    intro db'' _ hrely
    rintro row ⟨⟩
    refine ⟨Set.mem_insert _ _, Table.lookup_key hlookup, ?_⟩
    rintro rfl
    have hsame := hrely (Set.mem_insert _ _)
    exact ⟨hsame.session.trans hlookup, rfl⟩
  · rintro _ row ⟨⟩

theorem adjustmentsOf_append {movements : List StockMovement}
    (h : t'.stockMovements = t.stockMovements ++ movements) :
    adjustmentsOf sessionId t' = adjustmentsOf sessionId t ++
      (movements.filter (isAdjustment sessionId)).map fun m =>
        (m.ingredientId, m.quantityMilli, m.unitCostMicroCents) := by
  unfold adjustmentsOf
  rw [h, List.filter_append, List.map_append]

theorem adjustments_figures {session : StocktakeSession} {lines : List StocktakeLine} :
    ((adjustments user session lines).filter (isAdjustment session.id)).map (fun m =>
        (m.ingredientId, m.quantityMilli, m.unitCostMicroCents)) =
      (lines.map figure).filter (·.2.1 ≠ 0) := by
  induction lines with
  | nil => rfl
  | cons line lines ih =>
      have hposted : isAdjustment session.id (adjustment user session line) = true := by
        simp [isAdjustment, adjustment, buildMovement]
      rw [adjustments_cons, List.map_cons, List.filter_cons]
      by_cases hzero : line.varianceQuantityMilli = 0
      · simp only [hzero, figure, ne_eq, not_true_eq_false, decide_false, if_false]
        exact ih
      · simp only [hzero, figure, ne_eq, not_false_eq_true, decide_true, if_true,
          List.filter_cons, hposted, List.map_cons]
        rw [ih]
        rfl

theorem adjustments_other {session : StocktakeSession} {lines : List StocktakeLine}
    (h : session.id ≠ sessionId) :
    (adjustments user session lines).filter (isAdjustment sessionId) = [] := by
  apply List.filter_eq_nil_iff.mpr
  intro m hm
  obtain ⟨line, -, rfl⟩ := List.mem_map.mp hm
  simp [isAdjustment, adjustment, buildMovement, h]

theorem guarded_approved {session : StocktakeSession} {lines : List StocktakeLine} {now : Instant}
    (postAdjustments : Bool)
    (hmovements : t'.stockMovements = t.stockMovements ++
      if postAdjustments then adjustments user session lines else [])
    (hsessions : t'.stocktakeSessions =
      t.stocktakeSessions.modify session.id (markApproved user.userId now))
    (hlines : t'.stocktakeLines = t.stocktakeLines) (hL : .stocktakeSession session.id ∈ L)
    (hown : session.id = sessionId → t.stocktakeSessions.lookup sessionId = some session ∧
      figuresOf sessionId t = lines.map figure)
    (hcompleted : session.status = .completed) : Guarded sessionId L t t' := by
  have hkey (s : StocktakeSession) : key (markApproved user.userId now s) = key s := rfl
  have hsame : sessionLines sessionId t' = sessionLines sessionId t := by
    unfold sessionLines
    rw [hlines]
  have happended : adjustmentsOf sessionId t' = adjustmentsOf sessionId t ++
      ((if postAdjustments then adjustments user session lines else []).filter
        (isAdjustment sessionId)).map fun m =>
          (m.ingredientId, m.quantityMilli, m.unitCostMicroCents) :=
    adjustmentsOf_append hmovements
  by_cases hid : session.id = sessionId
  · obtain ⟨hlookup, hfigures⟩ := hown hid
    have hlookup' : t'.stocktakeSessions.lookup sessionId =
        some (markApproved user.userId now session) := by
      rw [hsessions, hid, Table.lookup_modify_self hkey, hlookup]
      rfl
    constructor
    · constructor
      · intro s hs
        obtain rfl := Option.some.inj (hlookup.symm.trans hs)
        refine ⟨_, hlookup', ?_⟩
        rw [hcompleted]
        exact .single .approve
      · intro s hs happroved
        obtain rfl := Option.some.inj (hlookup.symm.trans hs)
        rw [hcompleted] at happroved
        cases happroved
    · intro hmatches
      have hnone : adjustmentsOf sessionId t = [] := by
        rcases hmatches with hnone | ⟨happroved, -⟩
        · exact hnone
        · simp [isApproved, hlookup, hcompleted] at happroved
      have happroved : isApproved sessionId t' = true := by
        simp [isApproved, hlookup', markApproved]
      rw [hnone, List.nil_append] at happended
      cases postAdjustments with
      | false => exact .inl happended
      | true =>
          right
          refine ⟨happroved, ?_⟩
          rw [figuresOf_congr hsame, hfigures, happended, ← hid]
          exact adjustments_figures
    · rw [← hid]
      exact fun hnot => absurd hL hnot
  · apply Kept.guarded
    constructor
    · rw [hsessions]
      exact Table.lookup_modify_ne hkey (Ne.symm hid)
    · exact hsame
    · have hnone : (if postAdjustments then adjustments user session lines else []).filter
          (isAdjustment sessionId) = [] := by
        cases postAdjustments with
        | false => rfl
        | true => exact adjustments_other hid
      rw [happended, hnone, List.map_nil, List.append_nil]

theorem approveStocktake_sound {postAdjustments : Bool} :
    Sound sessionId L db (approveStocktake user id postAdjustments) := by
  apply sound_seq readOnly_requireOwnerOrManager
  intro _ _ _ _ _ _
  apply sound_seq RoutesInventory.readOnly_requireInventoryEnabled
  intro _ L1 db1 _ _ _
  apply safe_bind.mpr
  apply loadSessionForUpdate_safe.mono
  intro row L2 db2 hloaded
  cases row with
  | error e => trivial
  | ok row =>
      obtain ⟨session, lines⟩ := row
      obtain ⟨hlock, hid, hown⟩ := hloaded _ rfl
      simp only at hid hown
      apply sound_seq readOnly_ensure
      intro _ L3 db3 _ hsub3 hrely3
      apply sound_seq ensure_ok
      intro _ L4 db4 hcompleted hsub4 hrely4
      apply sound_seq readOnly_readNow
      intro now L5 db5 _ hsub5 hrely5
      apply sound_commit _ fun _ => readOnly_buildResponse
      intro db' hmatches hrely' _
      have hkept (h : id = sessionId) : SameSession sessionId db2.toTables db'.toTables := by
        subst h
        have h3 := hrely3 hlock
        have h4 := hrely4 (hsub3 hlock)
        have h5 := hrely5 (hsub4 (hsub3 hlock))
        have h6 := hrely' (hsub5 (hsub4 (hsub3 hlock)))
        exact ((h3.trans h4).trans h5).trans h6
      subst hid
      have hstill (h : session.id = sessionId) :
          db'.stocktakeSessions.lookup sessionId = some session ∧
            figuresOf sessionId db'.toTables = lines.map figure := by
        obtain ⟨hlookup, hfigures⟩ := hown h
        exact ⟨(hkept h).session.trans hlookup, (hkept h).figures.trans hfigures⟩
      exact guarded_approved postAdjustments rfl rfl rfl (.inr (by simp [Session.stage])) hstill
        hcompleted

theorem sound_answer {wrap : α → StockReply} {x : Handler α} (hx : Sound sessionId L db x) :
    Sound sessionId L db (answer wrap x) := by
  apply safe_bind.mpr
  apply Safe.mono hx
  intro r _ _ _
  cases r with
  | ok a => trivial
  | error e => trivial

theorem handleStock_sound {request : StockRequest} (h : Counts request) :
    Sound sessionId L db (handleStock request) := by
  cases h with
  | submitCounts => exact sound_answer submitCounts_sound
  | completeStocktake => exact sound_answer completeStocktake_sound
  | approveStocktake => exact sound_answer approveStocktake_sound
  | cancelStocktake => exact sound_answer cancelStocktake_sound

end Steps

def CountsKept (sessionId : Uuid) (db db' : Database) : Prop :=
  Kept sessionId db.toTables db'.toTables

theorem respects_countsKept {sessionId : Uuid} :
    (discipline sessionId).Respects (CountsKept sessionId) := by
  intro db db' hmatches hkept
  have hguarded : Guarded sessionId ∅ db.toTables db'.toTables := Kept.guarded hkept
  exact ⟨hguarded.matched hmatches, fun _ _ => hguarded.unlocked (Set.notMem_empty _)⟩

section Runs

variable {ι : Type} [DecidableEq ι] {requests : ι → StockRequest} {sessionId : Uuid}

abbrev Server (ι : Type) := Config ι Database RowKey CommitSite Failure StockReply

def serve (db : Database) (requests : ι → StockRequest) : Server ι :=
  start db fun i => handleStock (requests i)

abbrev TimelyRun (sessionId : Uuid) (c c' : Server ι) : Prop :=
  Reachable (CountsKept sessionId) (fun c i => c.Meets (Meets sessionId) i) c c'

theorem consistent_serve {db : Database} {c : Server ι} (hcounts : ∀ i, Counts (requests i))
    (hmatches : Matches sessionId db.toTables) (hc : TimelyRun sessionId (serve db requests) c) :
    Consistent (discipline sessionId) (fun _ _ => True) c := by
  apply consistent_reachable respects_countsKept (fun _ _ h => h) _ hc
  exact consistent_start hmatches fun i => handleStock_sound (hcounts i)

theorem session_moves_forward {db : Database} {c c' : Server ι}
    (hcounts : ∀ i, Counts (requests i)) (hmatches : Matches sessionId db.toTables)
    (hc : TimelyRun sessionId (serve db requests) c) (hc' : TimelyRun sessionId c c') :
    Evolves sessionId c.db.toTables c'.db.toTables ∧ Matches sessionId c'.db.toTables ∧
      ∀ s, c.db.stocktakeSessions.lookup sessionId = some s →
        s.status = .approved ∨ s.status = .cancelled →
          (c'.db.stocktakeSessions.lookup sessionId).map (·.status) = some s.status := by
  have hconsistent := consistent_serve hcounts hmatches hc
  have hconsistent' := consistent_serve hcounts hmatches (hc.trans hc')
  have hkept (a b : Database) (h : CountsKept sessionId a b) :
      Evolves sessionId a.toTables b.toTables :=
    (Kept.guarded (L := ∅) h).evolves
  have hevolves : Evolves sessionId c.db.toTables c'.db.toTables :=
    reachable_evolves (T := fun a b => Evolves sessionId a.toTables b.toTables)
      (fun _ => Evolves.refl) (fun _ _ _ => Evolves.trans)
      (fun _ _ _ _ (h : Guarded sessionId _ _ _) => h.evolves) (fun a b _ => hkept a b) respects_countsKept (fun _ _ h => h) hconsistent hc'
  refine ⟨hevolves, hconsistent'.1, ?_⟩
  intro s hs hfinal
  obtain ⟨s', hs', hforward⟩ := hevolves.forward s hs
  rw [hs']
  exact congrArg some (Transition.final hforward hfinal)

end Runs

def flourCounted : StocktakeLine where
  businessId := 1
  stocktakeSessionId := 4
  ingredientId := 2
  countMethodSnapshot := none
  unitCostMicroCents := 0
  countedQuantityMilli := some 3000000
  varianceQuantityMilli := 3000000

def awaitingApproval : Database where
  businesses := [{ id := 1, inventoryEnabled := true }]
  ingredients := [{ id := 2, businessId := 1, name := "Flour", canonicalUnit := .gram }]
  stocktakeSessions := [{
    id := 4
    businessId := 1
    reference := none
    status := .completed
    cutoffAt := 50
    periodStartAt := none
    openedByUserId := none
    openedAt := 50
    notes := none }]
  stocktakeLines := [flourCounted]
  now := 100
  valid := Tables.violation_eq_none.mp (by decide +kernel)

def approveAndCancel : Bool → StockRequest
  | false => .approveStocktake manager 4 true
  | true => .cancelStocktake manager 4

theorem counts_approveAndCancel (i : Bool) : Counts (approveAndCancel i) := by
  cases i with
  | false => exact .approveStocktake
  | true => exact .cancelStocktake

def sessionStatus (c : Server Bool) (sessionId : Uuid) : Option StocktakeStatus :=
  (c.db.stocktakeSessions.lookup sessionId).map (·.status)

instance (sessionId : Uuid) (site : CommitSite) (db : Database) :
    Decidable (Meets sessionId site db) :=
  inferInstanceAs (Decidable (∀ s ∈ db.stocktakeSessions.lookup sessionId, _))

theorem approved_count_stays_approved :
    ∃ c ∈ (serve awaitingApproval approveAndCancel).schedule
        (fun c i => c.Meets (Meets 4) i) [false, false, false, false, false],
      ∃ c' ∈ c.schedule (fun c i => c.Meets (Meets 4) i) [true, true],
        sessionStatus c' 4 = some .approved ∧ Matches 4 c'.db.toTables := by
  have hrun : ∃ c ∈ (serve awaitingApproval approveAndCancel).schedule
      (fun c i => c.Meets (Meets 4) i) [false, false, false, false, false],
      sessionStatus c 4 = some .approved ∧
        ∃ c' ∈ c.schedule (fun c i => c.Meets (Meets 4) i) [true, true], True := by
    decide +kernel
  obtain ⟨c, hc, happroved, c', hc', -⟩ := hrun
  obtain ⟨s, hs, hstatus⟩ := Option.map_eq_some_iff.mp happroved
  obtain ⟨-, hmatches, hfinal⟩ := session_moves_forward counts_approveAndCancel (.inl rfl)
    (schedule_reachable hc) (schedule_reachable hc')
  refine ⟨c, hc, c', hc', ?_, hmatches⟩
  rw [← hstatus]
  exact hfinal s hs (.inl hstatus)

-- The cancellation reads the completed count, the approval posts its adjustments, and the
-- cancellation is then saved.
theorem approved_count_cancelled :
    ¬ ∀ (db : Database) (requests : Bool → StockRequest) (c c' : Server Bool) (sessionId : Uuid),
      (∀ i, Counts (requests i)) → Matches sessionId db.toTables →
      Reachable (CountsKept sessionId) (fun _ _ => True) (serve db requests) c →
      Reachable (CountsKept sessionId) (fun _ _ => True) c c' →
      sessionStatus c sessionId = some .approved →
        sessionStatus c' sessionId = some .approved ∧ Matches sessionId c'.db.toTables := by
  intro h
  have hrun : ∃ c ∈ (serve awaitingApproval approveAndCancel).schedule (fun _ _ => True)
      [true, true, true, false, false, false, false, false],
      sessionStatus c 4 = some .approved ∧ ∃ c' ∈ c.schedule (fun _ _ => True) [true],
        sessionStatus c' 4 = some .cancelled := by
    decide +kernel
  obtain ⟨c, hc, happroved, c', hc', hcancelled⟩ := hrun
  obtain ⟨hstill, -⟩ := h awaitingApproval approveAndCancel c c' 4 counts_approveAndCancel (.inl rfl)
    (schedule_reachable hc) (schedule_reachable hc') happroved
  rw [hcancelled] at hstill
  cases hstill

end NextgenBackend.SessionLifecycle
