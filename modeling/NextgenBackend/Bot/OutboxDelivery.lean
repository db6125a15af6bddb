import Mathlib
import NextgenBackend.Bot.WhatsappSender
import NextgenBackend.Utils.Time

namespace NextgenBackend.Outbox

open MetaErrors Whatsapp

inductive OutboxStatus where
  | pending | sending | sent | failed
deriving DecidableEq, Repr

structure MessageOutbox where
  id : Uuid
  businessId : Uuid
  customerWaId : String
  messageText : String
  status : OutboxStatus := .pending
  attempts : Nat := 0
  maxAttempts : Nat := 3
  lastError : Option String := none
  sentWaMessageId : Option String := none
  scheduledAt : Instant := 0
  sentAt : Option Instant := none
deriving DecidableEq, Repr

instance : Keyed MessageOutbox Uuid := ⟨MessageOutbox.id⟩

def pollIntervalSeconds : Nat := 5

def batchSize : Nat := 20

def isDue (now : Instant) (msg : MessageOutbox) : Bool :=
  msg.status = .pending && msg.scheduledAt ≤ now && msg.attempts < msg.maxAttempts

def fail (reason : String) (msg : MessageOutbox) : MessageOutbox :=
  { msg with status := .failed, lastError := some reason }

-- Why a message is not even tried, or the business to send it for.
def businessFor (msg : MessageOutbox) (t : ConnectTables) : Except String Business :=
  match t.businesses.lookup msg.businessId with
  | none => .error "Business not found or missing phone_number_id"
  | some business =>
      if (given business.whatsappPhoneNumberId).isNone then
        .error "Business not found or missing phone_number_id"
      else if ¬ business.isWhatsappEnabled then .error "WhatsApp disabled for this business"
      else .ok business

def beginAttempt (msg : MessageOutbox) : MessageOutbox :=
  { msg with attempts := msg.attempts + 1, status := .sending }

def maxAttemptsReached (msg : MessageOutbox) (error : Option MetaErrorInfo) : String :=
  let reached := s!"Max attempts ({msg.maxAttempts}) reached"
  error.elim reached fun info => s!"{reached} — last error: {info.lastError}"

def retryLater (now : Instant) (error : Option MetaErrorInfo) (msg : MessageOutbox) :
    MessageOutbox :=
  if msg.maxAttempts ≤ msg.attempts then fail (maxAttemptsReached msg error) msg else
    let delay := pollIntervalSeconds * 5 ^ (msg.attempts - 1)
    { msg with
      status := .pending
      scheduledAt := now + delay * Time.second
      lastError := some (error.elim "Send failed, retrying" fun info => info.lastError) }

def finishAttempt (now : Instant) (outcome : SendOutcome) (msg : MessageOutbox) :
    MessageOutbox :=
  match given outcome.waMessageId with
  | some waMessageId =>
      { msg with
        status := .sent
        sentWaMessageId := some waMessageId
        sentAt := some now }
  | none =>
      match outcome.error with
      | some info => if info.retryable then retryLater now (some info) msg else
          fail info.lastError msg
      | none => retryLater now none msg

structure World (ι : Type) where
  tables : ConnectTables
  outbox : Table MessageOutbox
  lockedBy : Uuid → Option ι
  now : Instant
  -- The messages that Meta took, one entry for each time.
  accepted : List Uuid

-- Where an execution of the batch is: the rows still to process, and those whose changes its
-- session has not committed.
inductive Execution where
  | starting
  | processing (todo dirty : List MessageOutbox)
  | sending (business : Business) (msg : MessageOutbox) (todo dirty : List MessageOutbox)
  | ended
deriving DecidableEq, Repr

section Batch

variable {ι : Type} [DecidableEq ι]

-- FOR UPDATE SKIP LOCKED
def picked (w : World ι) : List MessageOutbox :=
  ((w.outbox.filter fun msg => isDue w.now msg && (w.lockedBy msg.id).isNone).insertionSort
    fun msg msg' => msg.scheduledAt ≤ msg'.scheduledAt).take batchSize

def World.lock (w : World ι) (i : ι) (msgs : List MessageOutbox) : World ι :=
  { w with lockedBy := fun id =>
      if id ∈ msgs.map MessageOutbox.id then some i else w.lockedBy id }

def writeRows (dirty outbox : Table MessageOutbox) : Table MessageOutbox :=
  outbox.map fun row => (dirty.lookup row.id).getD row

def World.commit (w : World ι) (i : ι) (dirty : List MessageOutbox) : World ι :=
  { w with
    outbox := writeRows dirty w.outbox
    lockedBy := fun id => if w.lockedBy id = some i then none else w.lockedBy id }

def invalidTokenDetail : String :=
  "Meta reports this connection's token is no longer valid (error 190) — reconnect required."

def World.markInvalidToken (w : World ι) (businessId : Uuid) : World ι :=
  { w with tables :=
      setConnection businessId (needsAttention invalidTokenDetail) w.tables }

def World.accept (w : World ι) (outcome : SendOutcome) (msg : MessageOutbox) : World ι :=
  { w with accepted :=
      if (given outcome.waMessageId).isSome then w.accepted ++ [msg.id] else w.accepted }

-- One step of a batch, with what Meta answers should the step be a send.
def step? (settings : PlatformSettings) (gateway : Gateway) (i : ι) :
    Execution → World ι → Option (Execution × World ι)
  | .starting, w =>
      let messages := picked w
      if messages = [] then some (.ended, w)
      else some (.processing messages [], w.lock i messages)
  | .processing [] dirty, w => some (.ended, w.commit i dirty)
  | .processing (msg :: todo) dirty, w =>
      match businessFor msg w.tables with
      | .error reason => some (.processing todo (dirty ++ [fail reason msg]), w)
      | .ok business => some (.sending business (beginAttempt msg) todo dirty, w)
  | .sending business msg todo dirty, w =>
      let outcome := sendViaBusinessConnection settings gateway business w.tables
      let settled := finishAttempt w.now outcome msg
      -- The commit of mark_invalid_token is that of the whole session.
      if outcome.marksInvalidToken then
        some (.processing todo [settled],
          (w.commit i (dirty ++ [msg])).markInvalidToken business.id)
      else some (.processing todo (dirty ++ [settled]), w.accept outcome msg)
  | .ended, _ => none

structure System (ι : Type) where
  world : World ι
  execution : ι → Execution

-- Businesses and connections change as they like; messages are queued all the time.
structure Environment (w w' : World ι) : Prop where
  outbox : ∃ queued : List MessageOutbox, w'.outbox = w.outbox ++ queued ∧
    ∀ msg ∈ queued, msg.status ≠ .sending ∧ msg.attempts ≤ msg.maxAttempts
  keys : w'.outbox.PrimaryKey
  lockedBy : w'.lockedBy = w.lockedBy
  accepted : w'.accepted = w.accepted

inductive Step (settings : PlatformSettings) (admits : Gateway → World ι → Execution → Prop) :
    System ι → System ι → Prop
  | batch {s : System ι} {e : Execution} {w : World ι} (i : ι) (gateway : Gateway) :
      admits gateway s.world (s.execution i) →
      step? settings gateway i (s.execution i) s.world = some (e, w) →
      Step settings admits s ⟨w, Function.update s.execution i e⟩
  | environment {s : System ι} {w : World ι} :
      Environment s.world w → Step settings admits s { s with world := w }

def Reachable (settings : PlatformSettings) (admits : Gateway → World ι → Execution → Prop) :
    System ι → System ι → Prop :=
  Relation.ReflTransGen (Step settings admits)

def System.schedule (settings : PlatformSettings) (admits : Gateway → World ι → Execution → Prop)
    [∀ gateway w e, Decidable (admits gateway w e)] (s : System ι) :
    List (ι × Gateway) → Option (System ι)
  | [] => some s
  | (i, gateway) :: turns =>
      if admits gateway s.world (s.execution i) then
        (step? settings gateway i (s.execution i) s.world).bind fun next =>
          (System.mk next.2 (Function.update s.execution i next.1)).schedule settings admits turns
      else none

theorem schedule_reachable {settings : PlatformSettings}
    {admits : Gateway → World ι → Execution → Prop}
    [∀ gateway w e, Decidable (admits gateway w e)] {turns : List (ι × Gateway)}
    {s s' : System ι} (h : s' ∈ s.schedule settings admits turns) :
    Reachable settings admits s s' := by
  induction turns generalizing s with
  | nil =>
      obtain rfl := Option.some.inj h
      exact .refl
  | cons turn turns ih =>
      simp only [System.schedule, Option.mem_def, Option.ite_none_right_eq_some] at h
      obtain ⟨hadmits, h⟩ := h
      obtain ⟨next, hstep, hrest⟩ := Option.bind_eq_some_iff.mp h
      exact .head (.batch turn.1 turn.2 hadmits hstep) (ih hrest)

end Batch

section OutboxDelivery

variable {ι : Type} [DecidableEq ι]

def Execution.todo : Execution → List MessageOutbox
  | .processing todo _ => todo
  | .sending _ _ todo _ => todo
  | _ => []

-- The messages that a batch has taken and not yet sent.
def Execution.unsent : Execution → List MessageOutbox
  | .processing todo _ => todo
  | .sending _ msg todo _ => msg :: todo
  | _ => []

def Execution.current : Execution → Option MessageOutbox
  | .sending _ msg _ _ => some msg
  | _ => none

def Execution.dirty : Execution → List MessageOutbox
  | .processing _ dirty => dirty
  | .sending _ _ _ dirty => dirty
  | _ => []

def Execution.hand (e : Execution) : List MessageOutbox :=
  e.unsent ++ e.dirty

def ids (msgs : List MessageOutbox) : List Uuid :=
  msgs.map MessageOutbox.id

def statusOf (w : World ι) (id : Uuid) : Option OutboxStatus :=
  (w.outbox.lookup id).map MessageOutbox.status

structure Settled (w : World ι) (msg : MessageOutbox) : Prop where
  status : msg.status ≠ .sending
  attempts : msg.attempts ≤ msg.maxAttempts
  accepted : msg.status ≠ .sent → msg.id ∉ w.accepted

-- A row whose lock the batch holds is as it was when the batch took it.
structure Holding (w : World ι) (i : ι) (e : Execution) : Prop where
  nodup : (ids e.hand).Nodup
  locked : ∀ id ∈ ids e.hand, w.lockedBy id = some i ∧ statusOf w id = some .pending
  unsent : ∀ msg ∈ e.unsent, msg.id ∉ w.accepted ∧ msg.attempts ≤ msg.maxAttempts
  todo : ∀ msg ∈ e.todo, msg.attempts < msg.maxAttempts
  begun : ∀ msg ∈ e.current, msg.status = .sending
  settled : ∀ msg ∈ e.dirty, Settled w msg

-- The last message of a batch met an invalid token: its row was committed with the others.
structure Released (w : World ι) (e : Execution) (msg : MessageOutbox) : Prop where
  last : e = .processing [] [msg]
  settled : Settled w msg
  sending : statusOf w msg.id = some .sending

def InHand (w : World ι) (i : ι) (e : Execution) : Prop :=
  Holding w i e ∨ ∃ msg, Released w e msg

structure Tidy (s : System ι) : Prop where
  keys : s.world.outbox.PrimaryKey
  attempts : ∀ row ∈ s.world.outbox, row.attempts ≤ row.maxAttempts
  once : s.world.accepted.Nodup
  known : ∀ id ∈ s.world.accepted, statusOf s.world id ≠ none
  inHand : ∀ i, InHand s.world i (s.execution i)
  apart : ∀ i j, i ≠ j → ∀ id ∈ ids (s.execution i).hand, id ∉ ids (s.execution j).hand
  recorded : ∀ id ∈ s.world.accepted, statusOf s.world id = some .pending →
    ∃ i, ∃ msg ∈ (s.execution i).dirty, msg.id = id ∧ msg.status = .sent
  unfinished : ∀ id, statusOf s.world id = some .sending →
    ∃ i, ∃ msg ∈ (s.execution i).dirty, msg.id = id

section Rows

variable {w w' : World ι} {i j : ι} {e e' : Execution} {msg : MessageOutbox} {id : Uuid}
  {dirty outbox : Table MessageOutbox}

theorem mem_ids_of_mem {msgs : List MessageOutbox} (h : msg ∈ msgs) : msg.id ∈ ids msgs :=
  List.mem_map_of_mem h

theorem ids_append (xs ys : List MessageOutbox) : ids (xs ++ ys) = ids xs ++ ids ys :=
  List.map_append

theorem written_key (row : MessageOutbox) :
    key ((dirty.lookup row.id).getD row) = key row := by
  cases hrow : dirty.lookup row.id with
  | none => rfl
  | some msg => exact Table.lookup_key hrow

theorem lookup_writeRows :
    (writeRows dirty outbox).lookup id =
      (outbox.lookup id).map fun row => (dirty.lookup id).getD row := by
  unfold writeRows
  rw [Table.lookup_map written_key]
  cases hrow : outbox.lookup id with
  | none => rfl
  | some row =>
      have hid : row.id = id := Table.lookup_key hrow
      simp [hid]

theorem mem_writeRows {row : MessageOutbox} (h : row ∈ writeRows dirty outbox) :
    row ∈ dirty ∨ row ∈ outbox := by
  obtain ⟨before, hbefore, rfl⟩ := List.mem_map.mp h
  cases hrow : dirty.lookup before.id with
  | none => exact .inr hbefore
  | some msg => exact .inl (Table.lookup_mem hrow)

theorem primaryKey_writeRows (h : outbox.PrimaryKey) : (writeRows dirty outbox).PrimaryKey :=
  (Table.primaryKey_map written_key).mpr h

theorem statusOf_commit : statusOf (w.commit i dirty) id =
    (statusOf w id).map fun status => ((dirty.lookup id).map MessageOutbox.status).getD status := by
  unfold statusOf World.commit
  rw [lookup_writeRows]
  cases w.outbox.lookup id with
  | none => rfl
  | some row => cases dirty.lookup id <;> rfl

theorem statusOf_commit_other (h : id ∉ ids dirty) :
    statusOf (w.commit i dirty) id = statusOf w id := by
  have hnone : dirty.lookup id = none := Table.lookup_eq_none.mpr fun msg hmsg hid =>
    h (hid ▸ mem_ids_of_mem hmsg)
  rw [statusOf_commit, hnone]
  cases statusOf w id <;> rfl

theorem statusOf_commit_mem (h : id ∈ ids dirty) (hknown : statusOf w id ≠ none) :
    ∃ msg ∈ dirty, msg.id = id ∧ statusOf (w.commit i dirty) id = some msg.status := by
  obtain ⟨status, hstatus⟩ := Option.ne_none_iff_exists'.mp hknown
  cases hlookup : dirty.lookup id with
  | none =>
      obtain ⟨msg, hmsg, hid⟩ := List.mem_map.mp h
      exact absurd hid (Table.lookup_eq_none.mp hlookup msg hmsg)
  | some msg =>
      refine ⟨msg, Table.lookup_mem hlookup, Table.lookup_key hlookup, ?_⟩
      rw [statusOf_commit, hlookup, hstatus]
      rfl

omit [DecidableEq ι] in
theorem mem_picked (h : msg ∈ picked w) : msg ∈ w.outbox ∧ msg.status = .pending ∧
    msg.attempts < msg.maxAttempts ∧ w.lockedBy msg.id = none := by
  have hsorted := (List.mem_insertionSort _).mp (List.mem_of_mem_take h)
  obtain ⟨hmem, hdue⟩ := List.mem_filter.mp hsorted
  simp only [isDue, Bool.and_eq_true, decide_eq_true_eq, Option.isNone_iff_eq_none] at hdue
  exact ⟨hmem, hdue.1.1.1, hdue.1.2, hdue.2⟩

omit [DecidableEq ι] in
theorem nodup_picked (hkeys : w.outbox.PrimaryKey) : (ids (picked w)).Nodup := by
  have hfiltered : (ids (w.outbox.filter fun msg =>
      isDue w.now msg && (w.lockedBy msg.id).isNone)).Nodup :=
    (List.filter_sublist.map MessageOutbox.id).nodup hkeys
  have hsorted := ((List.perm_insertionSort (fun msg msg' : MessageOutbox =>
    msg.scheduledAt ≤ msg'.scheduledAt) _).map MessageOutbox.id).nodup_iff.mpr hfiltered
  exact ((List.take_sublist _ _).map MessageOutbox.id).nodup hsorted

end Rows

section Attempts

variable {now : Instant} {outcome : SendOutcome} {msg : MessageOutbox} {reason : String}
  {error : Option MetaErrorInfo}

theorem retryLater_settles : (retryLater now error msg).id = msg.id ∧
    (retryLater now error msg).attempts = msg.attempts ∧
    (retryLater now error msg).maxAttempts = msg.maxAttempts ∧
    (retryLater now error msg).status ∈ [OutboxStatus.pending, .failed] := by
  unfold retryLater
  dsimp only
  split
  · simp [fail]
  · simp

theorem finishAttempt_settles : (finishAttempt now outcome msg).id = msg.id ∧
    (finishAttempt now outcome msg).attempts = msg.attempts ∧
    (finishAttempt now outcome msg).maxAttempts = msg.maxAttempts ∧
    (finishAttempt now outcome msg).status ≠ .sending := by
  unfold finishAttempt
  split
  · simp
  · obtain ⟨hid, hattempts, hmax, hstatus⟩ := @retryLater_settles now msg none
    split
    next info _ =>
      obtain ⟨hid', hattempts', hmax', hstatus'⟩ := @retryLater_settles now msg (some info)
      split
      · refine ⟨hid', hattempts', hmax', fun h => ?_⟩
        simp [h] at hstatus'
      · simp [fail]
    · refine ⟨hid, hattempts, hmax, fun h => ?_⟩
      simp [h] at hstatus

theorem finishAttempt_unsent (h : given outcome.waMessageId = none) :
    (finishAttempt now outcome msg).status ≠ .sent := by
  unfold finishAttempt
  rw [h]
  have hretry (error : Option MetaErrorInfo) : (retryLater now error msg).status ≠ .sent := by
    obtain ⟨-, -, -, hstatus⟩ := @retryLater_settles now msg error
    intro h
    simp [h] at hstatus
  dsimp only
  split
  · split
    · exact hretry _
    · simp [fail]
  · exact hretry none

theorem finishAttempt_sent (h : given outcome.waMessageId ≠ none) :
    (finishAttempt now outcome msg).status = .sent := by
  obtain ⟨waMessageId, hgiven⟩ := Option.ne_none_iff_exists'.mp h
  unfold finishAttempt
  rw [hgiven]

end Attempts

section Steps

variable {s : System ι} {w' : World ι} {i j : ι} {e e' : Execution} {w : World ι}

omit [DecidableEq ι] in
theorem Settled.of_accepted {msg : MessageOutbox} (h : Settled w msg)
    (haccepted : msg.id ∈ w'.accepted → msg.id ∈ w.accepted) : Settled w' msg :=
  ⟨h.status, h.attempts, fun hsent hmem => h.accepted hsent (haccepted hmem)⟩

theorem mem_hand_of_unsent {msg : MessageOutbox} (h : msg ∈ e.unsent) : msg.id ∈ ids e.hand :=
  mem_ids_of_mem (List.mem_append_left _ h)

theorem mem_hand_of_dirty {msg : MessageOutbox} (h : msg ∈ e.dirty) : msg.id ∈ ids e.hand :=
  mem_ids_of_mem (List.mem_append_right _ h)

omit [DecidableEq ι] in
-- What another batch does to rows of its own leaves a batch as it is.
theorem InHand.frame (h : InHand w j e)
    (hlocks : ∀ id ∈ ids e.hand, w.lockedBy id = some j → w'.lockedBy id = some j)
    (hstatus : ∀ id ∈ ids e.hand, statusOf w id ≠ none → statusOf w' id = statusOf w id)
    (haccepted : ∀ id ∈ ids e.hand, id ∈ w'.accepted → id ∈ w.accepted) : InHand w' j e := by
  rcases h with h | ⟨msg, h⟩
  · refine .inl ⟨h.nodup, fun id hid => ?_, fun msg hmsg => ?_, h.todo, h.begun,
      fun msg hmsg => ?_⟩
    · obtain ⟨hlocked, hpending⟩ := h.locked id hid
      exact ⟨hlocks id hid hlocked, (hstatus id hid (by simp [hpending])).trans hpending⟩
    · obtain ⟨hfresh, hattempts⟩ := h.unsent msg hmsg
      exact ⟨fun hmem => hfresh (haccepted msg.id (mem_hand_of_unsent hmsg) hmem), hattempts⟩
    · exact (h.settled msg hmsg).of_accepted (haccepted msg.id (mem_hand_of_dirty hmsg))
  · have hmsg : msg ∈ e.dirty := by simp [h.last, Execution.dirty]
    have hid := mem_hand_of_dirty hmsg
    exact .inr ⟨msg, h.last, h.settled.of_accepted (haccepted msg.id hid),
      (hstatus msg.id hid (by simp [h.sending])).trans h.sending⟩

theorem Tidy.move (h : Tidy s) (i : ι) (hkeys : w'.outbox.PrimaryKey)
    (hattempts : ∀ row ∈ w'.outbox, row.attempts ≤ row.maxAttempts)
    (honce : w'.accepted.Nodup) (hknown : ∀ id ∈ w'.accepted, statusOf w' id ≠ none)
    (hself : InHand w' i e')
    (hothers : ∀ j, j ≠ i → InHand w' j (s.execution j))
    (hapart : ∀ j, j ≠ i → ∀ id ∈ ids e'.hand, id ∉ ids (s.execution j).hand)
    (hrecorded : ∀ id ∈ w'.accepted, statusOf w' id = some .pending →
      (∃ msg ∈ e'.dirty, msg.id = id ∧ msg.status = .sent) ∨
        ∃ j, j ≠ i ∧ ∃ msg ∈ (s.execution j).dirty, msg.id = id ∧ msg.status = .sent)
    (hunfinished : ∀ id, statusOf w' id = some .sending →
      (∃ msg ∈ e'.dirty, msg.id = id) ∨
        ∃ j, j ≠ i ∧ ∃ msg ∈ (s.execution j).dirty, msg.id = id) :
    Tidy (System.mk w' (Function.update s.execution i e')) where
  keys := hkeys
  attempts := hattempts
  once := honce
  known := hknown
  inHand j := by
    by_cases hj : j = i
    · subst hj
      simpa using hself
    · simpa [hj] using hothers j hj
  apart j k hjk := by
    by_cases hj : j = i
    · subst hj
      simpa [Ne.symm hjk] using hapart k (Ne.symm hjk)
    · by_cases hk : k = i
      · subst hk
        intro id hid hid'
        simp only [Function.update_self, Function.update_of_ne hj] at hid hid'
        exact hapart j hj id hid' hid
      · simpa [hj, hk] using h.apart j k hjk
  recorded id hid hpending := by
    rcases hrecorded id hid hpending with ⟨msg, hmsg, hsent⟩ | ⟨j, hj, msg, hmsg, hsent⟩
    · exact ⟨i, msg, by simpa using hmsg, hsent⟩
    · exact ⟨j, msg, by simpa [hj] using hmsg, hsent⟩
  unfinished id hsending := by
    rcases hunfinished id hsending with ⟨msg, hmsg, hid⟩ | ⟨j, hj, msg, hmsg, hid⟩
    · exact ⟨i, msg, by simpa using hmsg, hid⟩
    · exact ⟨j, msg, by simpa [hj] using hmsg, hid⟩

-- A batch that moves on without a commit, with the same rows in its hand.
theorem Tidy.advance (h : Tidy s) (i : ι) (hself : InHand w' i e')
    (houtbox : w'.outbox = s.world.outbox) (hlocked : w'.lockedBy = s.world.lockedBy)
    (honce : w'.accepted.Nodup)
    (haccepted : ∀ id ∈ w'.accepted, id ∈ s.world.accepted ∨
      id ∈ ids (s.execution i).unsent ∧ ∃ msg ∈ e'.dirty, msg.id = id ∧ msg.status = .sent)
    (hhand : ∀ id ∈ ids e'.hand, id ∈ ids (s.execution i).hand)
    (hdirty : ∀ msg ∈ (s.execution i).dirty, msg ∈ e'.dirty) :
    Tidy (System.mk w' (Function.update s.execution i e')) := by
  have hstatus (id : Uuid) : statusOf w' id = statusOf s.world id := by
    unfold statusOf
    rw [houtbox]
  have hunsent : ∀ id ∈ ids (s.execution i).unsent, id ∈ ids (s.execution i).hand := fun id hid => by
    unfold Execution.hand
    rw [ids_append]
    exact List.mem_append_left _ hid
  have hpresent : ∀ id ∈ ids (s.execution i).hand, statusOf s.world id ≠ none := by
    intro id hid
    rcases h.inHand i with hholding | ⟨msg, hreleased⟩
    · simp [(hholding.locked id hid).2]
    · simp only [hreleased.last, Execution.hand, Execution.unsent, Execution.dirty, ids,
        List.nil_append, List.map_cons, List.map_nil, List.mem_singleton] at hid
      simp [hid, hreleased.sending]
  refine h.move i (houtbox ▸ h.keys) (houtbox ▸ h.attempts) honce (fun id hid => ?_) hself
    (fun j hj => (h.inHand j).frame ?_ ?_ ?_) (fun j hj id hid => ?_) (fun id hid hpending => ?_)
    fun id hsending => ?_
  · rw [hstatus]
    rcases haccepted id hid with hold | ⟨hmine, -⟩
    · exact h.known id hold
    · exact hpresent id (hunsent id hmine)
  · exact fun id _ hj => hlocked ▸ hj
  · exact fun id _ _ => hstatus id
  · intro id hid hmem
    rcases haccepted id hmem with hold | ⟨hmine, -⟩
    · exact hold
    · exact absurd hid (h.apart i j (Ne.symm hj) id (hunsent id hmine))
  · exact h.apart i j (Ne.symm hj) id (hhand id hid)
  · rcases haccepted id hid with hold | ⟨-, hsent⟩
    · obtain ⟨j, msg, hmsg, hsent⟩ := h.recorded id hold (hstatus id ▸ hpending)
      by_cases hj : j = i
      · subst hj
        exact .inl ⟨msg, hdirty msg hmsg, hsent⟩
      · exact .inr ⟨j, hj, msg, hmsg, hsent⟩
    · exact .inl hsent
  · obtain ⟨j, msg, hmsg, hid⟩ := h.unfinished id (hstatus id ▸ hsending)
    by_cases hj : j = i
    · subst hj
      exact .inl ⟨msg, hdirty msg hmsg, hid⟩
    · exact .inr ⟨j, hj, msg, hmsg, hid⟩

end Steps

section Moves

variable {s : System ι} {w' : World ι} {i : ι} {e' : Execution} {business : Business}
  {msg settled : MessageOutbox} {todo dirty written : List MessageOutbox}

omit [DecidableEq ι] in
theorem holding_of_unsent {w : World ι} {e : Execution} (h : InHand w i e) (he : e.unsent ≠ []) :
    Holding w i e := by
  rcases h with h | ⟨msg, h⟩
  · exact h
  · simp [h.last, Execution.unsent] at he

omit [DecidableEq ι] in
theorem Tidy.status_picked (h : Tidy s) (hmsg : msg ∈ picked s.world) :
    statusOf s.world msg.id = some .pending := by
  obtain ⟨hmem, hpending, -, -⟩ := mem_picked hmsg
  have hlookup : s.world.outbox.lookup msg.id = some msg := Table.lookup_of_mem h.keys hmem
  simp [statusOf, hlookup, hpending]

omit [DecidableEq ι] in
-- No batch takes a row that is in the hand of any.
theorem Tidy.picked_free (h : Tidy s) (j : ι) {id : Uuid} (hid : id ∈ ids (picked s.world)) :
    id ∉ ids (s.execution j).hand := by
  intro hhand
  obtain ⟨msg, hmsg, rfl⟩ := List.mem_map.mp hid
  have hunlocked := (mem_picked hmsg).2.2.2
  have hpending := h.status_picked hmsg
  rcases h.inHand j with hholding | ⟨last, hreleased⟩
  · have hlocked := (hholding.locked _ hhand).1
    simp [hunlocked] at hlocked
  · simp only [hreleased.last, Execution.hand, Execution.unsent, Execution.dirty, ids,
      List.nil_append, List.map_cons, List.map_nil, List.mem_singleton] at hhand
    rw [hhand, hreleased.sending] at hpending
    cases hpending

theorem tidy_pick (h : Tidy s) (hstart : s.execution i = .starting) :
    Tidy (System.mk (s.world.lock i (picked s.world))
      (Function.update s.execution i (.processing (picked s.world) []))) := by
  have hself : Holding (s.world.lock i (picked s.world)) i (.processing (picked s.world) []) := by
    refine ⟨?_, fun id hid => ?_, fun msg hmsg => ⟨fun hmem => ?_, ?_⟩, fun msg hmsg => ?_,
      by simp [Execution.current], ?_⟩
    · simpa [Execution.hand, Execution.unsent, Execution.dirty] using nodup_picked h.keys
    · have hpicked : id ∈ ids (picked s.world) := by
        simpa [Execution.hand, Execution.unsent, Execution.dirty] using hid
      obtain ⟨msg, hmsg, rfl⟩ := List.mem_map.mp hpicked
      exact ⟨if_pos hpicked, h.status_picked hmsg⟩
    · obtain ⟨j, other, hother, hsame, -⟩ := h.recorded msg.id hmem (h.status_picked hmsg)
      exact h.picked_free j (mem_ids_of_mem hmsg) (hsame ▸ mem_hand_of_dirty hother)
    · exact (mem_picked hmsg).2.2.1.le
    · exact (mem_picked hmsg).2.2.1
    · simp [Execution.dirty]
  refine h.move i h.keys h.attempts h.once h.known (.inl hself) (fun j hj => ?_)
    (fun j hj id hid => ?_) (fun id hid hpending => ?_) fun id hsending => ?_
  · refine (h.inHand j).frame (fun id hid hlocked => ?_) (fun _ _ _ => rfl) fun _ _ hmem => hmem
    have hnot : id ∉ ids (picked s.world) := fun hpicked => h.picked_free j hpicked hid
    exact (if_neg hnot).trans hlocked
  · refine h.picked_free j ?_
    simpa [Execution.hand, Execution.unsent, Execution.dirty] using hid
  · obtain ⟨j, msg, hmsg, hsent⟩ := h.recorded id hid hpending
    have hj : j ≠ i := by
      rintro rfl
      simp [hstart, Execution.dirty] at hmsg
    exact .inr ⟨j, hj, msg, hmsg, hsent⟩
  · obtain ⟨j, msg, hmsg, hid⟩ := h.unfinished id hsending
    have hj : j ≠ i := by
      rintro rfl
      simp [hstart, Execution.dirty] at hmsg
    exact .inr ⟨j, hj, msg, hmsg, hid⟩

theorem tidy_settle (h : Tidy s) (hunsent : (s.execution i).unsent = msg :: todo)
    (htodo : (s.execution i).todo = todo ∨ (s.execution i).todo = msg :: todo)
    (hid : settled.id = msg.id) (hstatus : settled.status ≠ .sending)
    (hattempts : settled.attempts ≤ settled.maxAttempts)
    (houtbox : w'.outbox = s.world.outbox) (hlocked : w'.lockedBy = s.world.lockedBy)
    (haccepted : (w'.accepted = s.world.accepted ∧ settled.status ≠ .sent) ∨
      (w'.accepted = s.world.accepted ++ [msg.id] ∧ settled.status = .sent)) :
    Tidy (System.mk w' (Function.update s.execution i
      (.processing todo ((s.execution i).dirty ++ [settled])))) := by
  have hholding : Holding s.world i (s.execution i) :=
    holding_of_unsent (h.inHand i) (by simp [hunsent])
  have hperm : (ids (Execution.processing todo ((s.execution i).dirty ++ [settled])).hand).Perm
      (ids (s.execution i).hand) := by
    have hbefore : ids (s.execution i).hand =
        msg.id :: (ids todo ++ ids (s.execution i).dirty) := by
      unfold Execution.hand
      simp [hunsent, ids]
    have hafter : ids (Execution.processing todo ((s.execution i).dirty ++ [settled])).hand =
        ids todo ++ ids (s.execution i).dirty ++ [msg.id] := by
      change ids (todo ++ ((s.execution i).dirty ++ [settled])) = _
      simp [ids, hid]
    rw [hbefore, hafter]
    exact List.perm_append_singleton _ _
  have hhand : ∀ other, other ∈ ids (Execution.processing todo
      ((s.execution i).dirty ++ [settled])).hand ↔ other ∈ ids (s.execution i).hand :=
    fun other => hperm.mem_iff
  have hfresh : msg.id ∉ s.world.accepted :=
    (hholding.unsent msg (by simp [hunsent])).1
  have hnodup : (msg.id :: ids (todo ++ (s.execution i).dirty)).Nodup := by
    simpa [Execution.hand, hunsent, ids] using hholding.nodup
  have hmem : ∀ other ∈ todo ++ (s.execution i).dirty, other.id ∈ w'.accepted →
      other.id ∈ s.world.accepted := by
    intro other hother hnew
    rcases haccepted with ⟨hsame, -⟩ | ⟨hmore, -⟩
    · exact hsame ▸ hnew
    · rw [hmore] at hnew
      rcases List.mem_append.mp hnew with hold | hlast
      · exact hold
      · have heq : other.id = msg.id := List.mem_singleton.mp hlast
        exact absurd (heq ▸ mem_ids_of_mem hother) (List.nodup_cons.mp hnodup).1
  have hself : Holding w' i (.processing todo ((s.execution i).dirty ++ [settled])) := by
    refine ⟨hperm.nodup_iff.mpr hholding.nodup, fun other hother => ?_, fun other hother => ?_,
      fun other hother => ?_, by simp [Execution.current], fun other hother => ?_⟩
    · obtain ⟨hlock, hpending⟩ := hholding.locked other ((hhand other).mp hother)
      exact ⟨hlocked ▸ hlock, by unfold statusOf at hpending ⊢; rwa [houtbox]⟩
    · obtain ⟨hnot, hle⟩ := hholding.unsent other (by simp [hunsent, show other ∈ todo from hother])
      exact ⟨fun hnew => hnot (hmem other (List.mem_append_left _ hother) hnew), hle⟩
    · rcases htodo with htodo | htodo
      · exact hholding.todo other (by rw [htodo]; exact hother)
      · exact hholding.todo other (by rw [htodo]; exact List.mem_cons_of_mem _ hother)
    · rcases List.mem_append.mp hother with hold | hnew
      · exact (hholding.settled other hold).of_accepted (hmem other (List.mem_append_right _ hold))
      · obtain rfl : other = settled := List.mem_singleton.mp hnew
        refine ⟨hstatus, hattempts, fun hnot hin => ?_⟩
        rcases haccepted with ⟨hsame, -⟩ | ⟨-, hsent⟩
        · exact hfresh (hid ▸ hsame ▸ hin)
        · exact hnot hsent
  refine h.advance i (.inl hself) houtbox hlocked ?_ (fun other hother => ?_)
    (fun other => (hhand other).mp) fun other hother => List.mem_append_left _ hother
  · rcases haccepted with ⟨hsame, -⟩ | ⟨hmore, -⟩
    · exact hsame ▸ h.once
    · rw [hmore]
      exact List.nodup_append.mpr ⟨h.once, by simp, by
        rintro a ha b hb rfl
        exact hfresh (List.mem_singleton.mp hb ▸ ha)⟩
  · rcases haccepted with ⟨hsame, -⟩ | ⟨hmore, hsent⟩
    · exact .inl (hsame ▸ hother)
    · rw [hmore] at hother
      rcases List.mem_append.mp hother with hold | hlast
      · exact .inl hold
      · have heq : other = msg.id := List.mem_singleton.mp hlast
        refine .inr ⟨by simp [heq, hunsent, ids], settled, ?_, hid.trans heq.symm, hsent⟩
        exact List.mem_append_right _ (List.mem_singleton_self _)

theorem tidy_begin (h : Tidy s) (he : s.execution i = .processing (msg :: todo) dirty) :
    Tidy (System.mk s.world (Function.update s.execution i
      (.sending business (beginAttempt msg) todo dirty))) := by
  have hholding : Holding s.world i (s.execution i) :=
    holding_of_unsent (h.inHand i) (by simp [he, Execution.unsent])
  have hhand : ids (Execution.sending business (beginAttempt msg) todo dirty).hand =
      ids (s.execution i).hand := by
    rw [he]
    rfl
  have hself : Holding s.world i (.sending business (beginAttempt msg) todo dirty) := by
    refine ⟨hhand ▸ hholding.nodup, fun other hother => hholding.locked other (hhand ▸ hother),
      fun other hother => ?_, fun other hother => hholding.todo other ?_, ?_,
      fun other hother => hholding.settled other ?_⟩
    · rcases List.mem_cons.mp hother with rfl | hother
      · have hbefore := hholding.unsent msg (by simp [he, Execution.unsent])
        have hlt := hholding.todo msg (by simp [he, Execution.todo])
        exact ⟨hbefore.1, hlt⟩
      · exact hholding.unsent other (by simp [he, Execution.unsent, hother])
    · rw [he]
      exact List.mem_cons_of_mem _ hother
    · simp [Execution.current, beginAttempt]
    · rw [he]
      exact hother
  refine h.advance i (.inl hself) rfl rfl h.once (fun id hid => .inl hid)
    (fun id hid => hhand ▸ hid) fun other hother => ?_
  rw [he] at hother
  exact hother

theorem Tidy.commit (h : Tidy s) (i : ι)
    (houtbox : w'.outbox = writeRows written s.world.outbox)
    (hlocked : w'.lockedBy = (s.world.commit i written).lockedBy)
    (haccepted : w'.accepted = s.world.accepted) (hself : InHand w' i e')
    (hhand : ∀ id ∈ ids e'.hand, id ∈ ids (s.execution i).hand)
    (hwritten : ∀ msg ∈ written, msg.id ∈ ids (s.execution i).hand ∧
      msg.attempts ≤ msg.maxAttempts ∧ (msg.status = .pending → msg.id ∉ s.world.accepted) ∧
      (msg.status = .sending → ∃ kept ∈ e'.dirty, kept.id = msg.id))
    (hall : ∀ msg ∈ (s.execution i).dirty, msg.id ∈ ids written) :
    Tidy (System.mk w' (Function.update s.execution i e')) := by
  have hcommit (id : Uuid) : statusOf w' id = statusOf (s.world.commit i written) id := by
    unfold statusOf
    rw [houtbox]
    rfl
  have hother (id : Uuid) (hid : id ∉ ids written) : statusOf w' id = statusOf s.world id :=
    (hcommit id).trans (statusOf_commit_other hid)
  have hnone (id : Uuid) (hid : statusOf w' id ≠ none) : statusOf s.world id ≠ none := by
    intro hmissing
    rw [hcommit, statusOf_commit, hmissing] at hid
    exact hid rfl
  -- The status of a row that was written is the one it was written with.
  have hmine {id : Uuid} {status : OutboxStatus} (hid : id ∈ ids written)
      (hstatus : statusOf w' id = some status) :
      ∃ msg ∈ written, msg.id = id ∧ msg.status = status := by
    obtain ⟨msg, hmsg, hsame, hnow⟩ :=
      statusOf_commit_mem (i := i) hid (hnone id (by simp [hstatus]))
    refine ⟨msg, hmsg, hsame, ?_⟩
    rw [hcommit, hnow] at hstatus
    exact Option.some.inj hstatus
  have hdirty {j : ι} {msg : MessageOutbox} {id : Uuid} (hmsg : msg ∈ (s.execution j).dirty)
      (hsame : msg.id = id) (hid : id ∉ ids written) : j ≠ i := by
    rintro rfl
    exact hid (hsame ▸ hall msg hmsg)
  refine h.move i (houtbox ▸ primaryKey_writeRows h.keys) (fun row hrow => ?_)
    (haccepted ▸ h.once) (fun id hid => ?_) hself (fun j hj => (h.inHand j).frame ?_ ?_ ?_)
    (fun j hj id hid => h.apart i j (Ne.symm hj) id (hhand id hid)) (fun id hid hpending => ?_)
    fun id hsending => ?_
  · rcases mem_writeRows (houtbox ▸ hrow) with hmem | hmem
    · exact (hwritten row hmem).2.1
    · exact h.attempts row hmem
  · have hknown := h.known id (haccepted ▸ hid)
    rw [hcommit, statusOf_commit]
    simpa using hknown
  · intro id _ hj'
    rw [hlocked]
    have hne : s.world.lockedBy id ≠ some i := by
      rw [hj']
      exact fun heq => hj (Option.some.inj heq)
    exact (if_neg hne).trans hj'
  · intro id hid _
    refine hother id fun hw => ?_
    obtain ⟨msg, hmsg, rfl⟩ := List.mem_map.mp hw
    exact h.apart i j (Ne.symm hj) msg.id (hwritten msg hmsg).1 hid
  · exact fun id _ hmem => haccepted ▸ hmem
  · by_cases hw : id ∈ ids written
    · obtain ⟨msg, hmsg, rfl, hstatus⟩ := hmine hw hpending
      exact absurd (haccepted ▸ hid) ((hwritten msg hmsg).2.2.1 hstatus)
    · obtain ⟨j, msg, hmsg, hsame, hsent⟩ :=
        h.recorded id (haccepted ▸ hid) (hother id hw ▸ hpending)
      exact .inr ⟨j, hdirty hmsg hsame hw, msg, hmsg, hsame, hsent⟩
  · by_cases hw : id ∈ ids written
    · obtain ⟨msg, hmsg, rfl, hstatus⟩ := hmine hw hsending
      exact .inl ((hwritten msg hmsg).2.2.2 hstatus)
    · obtain ⟨j, msg, hmsg, hsame⟩ := h.unfinished id (hother id hw ▸ hsending)
      exact .inr ⟨j, hdirty hmsg hsame hw, msg, hmsg, hsame⟩

theorem tidy_commit (h : Tidy s) (he : s.execution i = .processing [] dirty) :
    Tidy (System.mk (s.world.commit i dirty) (Function.update s.execution i .ended)) := by
  have hdirty : ids (s.execution i).hand = ids dirty := by
    rw [he]
    rfl
  have hsettled : ∀ msg ∈ dirty, Settled s.world msg := by
    intro msg hmsg
    rcases h.inHand i with hholding | ⟨last, hreleased⟩
    · exact hholding.settled msg (by rw [he]; exact hmsg)
    · have hlast := he.symm.trans hreleased.last
      obtain rfl : dirty = [last] := (Execution.processing.inj hlast).2
      exact List.mem_singleton.mp hmsg ▸ hreleased.settled
  have hended : InHand (s.world.commit i dirty) i .ended := by
    refine .inl ⟨?_, ?_, ?_, ?_, ?_, ?_⟩ <;>
      simp [Execution.hand, Execution.unsent, Execution.todo, Execution.current,
        Execution.dirty, ids]
  refine h.commit i rfl rfl rfl hended (fun id hid => ?_) (fun msg hmsg => ?_) fun msg hmsg => ?_
  · simp [Execution.hand, Execution.unsent, Execution.dirty, ids] at hid
  · have hs := hsettled msg hmsg
    refine ⟨hdirty ▸ mem_ids_of_mem hmsg, hs.attempts, fun hpending => hs.accepted ?_,
      fun hsending => absurd hsending hs.status⟩
    simp [hpending]
  · rw [he] at hmsg
    exact mem_ids_of_mem hmsg

theorem tidy_mark (h : Tidy s) (he : s.execution i = .sending business msg [] dirty)
    (hid : settled.id = msg.id) (hstatus : settled.status ≠ .sending)
    (hattempts : settled.attempts ≤ settled.maxAttempts)
    (houtbox : w'.outbox = writeRows (dirty ++ [msg]) s.world.outbox)
    (hlocked : w'.lockedBy = (s.world.commit i (dirty ++ [msg])).lockedBy)
    (haccepted : w'.accepted = s.world.accepted) :
    Tidy (System.mk w' (Function.update s.execution i (.processing [] [settled]))) := by
  have hholding : Holding s.world i (s.execution i) :=
    holding_of_unsent (h.inHand i) (by simp [he, Execution.unsent])
  have hhand : ids (s.execution i).hand = msg.id :: ids dirty := by
    rw [he]
    rfl
  have hmsg : msg.status = .sending := hholding.begun msg (by simp [he, Execution.current])
  obtain ⟨hfresh, hle⟩ := hholding.unsent msg (by simp [he, Execution.unsent])
  have hpending := (hholding.locked msg.id (by simp [hhand])).2
  have hnew : statusOf w' msg.id = some .sending := by
    have hcommit : statusOf w' msg.id =
        statusOf (s.world.commit i (dirty ++ [msg])) msg.id := by
      unfold statusOf
      rw [houtbox]
      rfl
    have hmem : msg.id ∈ ids (dirty ++ [msg]) := mem_ids_of_mem (by simp)
    obtain ⟨written, hwritten, hsame, hwrite⟩ :=
      statusOf_commit_mem (i := i) (w := s.world) hmem (by simp [hpending])
    rcases List.mem_append.mp hwritten with hold | hlast
    · have hnodup := hhand ▸ hholding.nodup
      exact absurd (hsame ▸ mem_ids_of_mem hold) (List.nodup_cons.mp hnodup).1
    · rw [hcommit, hwrite, List.mem_singleton.mp hlast, hmsg]
  have hself : InHand w' i (.processing [] [settled]) :=
    .inr ⟨settled, rfl, ⟨hstatus, hattempts, fun _ => by rw [hid, haccepted]; exact hfresh⟩,
      hid ▸ hnew⟩
  refine h.commit i houtbox hlocked haccepted hself (fun id hmem => ?_) (fun row hrow => ?_)
    fun row hrow => ?_
  · have hlast : id = settled.id := by
      simpa [Execution.hand, Execution.unsent, Execution.dirty, ids] using hmem
    simp [hhand, hlast, hid]
  · rcases List.mem_append.mp hrow with hold | hlast
    · have hs := hholding.settled row (by rw [he]; exact hold)
      refine ⟨hhand ▸ List.mem_cons_of_mem _ (mem_ids_of_mem hold), hs.attempts,
        fun hp => hs.accepted (by simp [hp]), fun hsending => absurd hsending hs.status⟩
    · obtain rfl : row = msg := List.mem_singleton.mp hlast
      refine ⟨by simp [hhand], hle, fun hp => by simp [hmsg] at hp, fun _ => ?_⟩
      exact ⟨settled, List.mem_singleton_self _, hid⟩
  · rw [he] at hrow
    exact mem_ids_of_mem (List.mem_append_left _ hrow)

theorem tidy_send (h : Tidy s) (he : s.execution i = .sending business msg todo dirty)
    (outcome : SendOutcome) :
    Tidy (System.mk (s.world.accept outcome msg) (Function.update s.execution i
      (.processing todo (dirty ++ [finishAttempt s.world.now outcome msg])))) := by
  obtain ⟨hid, hattempts, hmax, hstatus⟩ := @finishAttempt_settles s.world.now outcome msg
  have hunsent : (s.execution i).unsent = msg :: todo := by rw [he]; rfl
  have hholding := holding_of_unsent (h.inHand i) (by simp [hunsent])
  have hle := (hholding.unsent msg (by simp [hunsent])).2
  rw [← hattempts, ← hmax] at hle
  have hsettle (haccepted : _) : Tidy (System.mk (s.world.accept outcome msg)
      (Function.update s.execution i (.processing todo ((s.execution i).dirty ++
        [finishAttempt s.world.now outcome msg])))) :=
    tidy_settle h hunsent (.inl (by rw [he]; rfl)) hid hstatus hle rfl rfl haccepted
  rw [he] at hsettle
  refine hsettle ?_
  by_cases hgiven : given outcome.waMessageId = none
  · exact .inl ⟨if_neg (by simp [hgiven]), finishAttempt_unsent hgiven⟩
  · exact .inr ⟨if_pos (Option.isSome_iff_ne_none.mpr hgiven), finishAttempt_sent hgiven⟩

-- An invalid token of a business is met, if at all, with the last message of the batch.
def MarksLast (settings : PlatformSettings) (gateway : Gateway) (w : World ι) (e : Execution) :
    Prop :=
  match e with
  | .sending business _ todo _ =>
      (sendViaBusinessConnection settings gateway business w.tables).marksInvalidToken = true →
        todo = []
  | _ => True

theorem tidy_step {settings : PlatformSettings} {gateway : Gateway} (h : Tidy s)
    (hlast : MarksLast settings gateway s.world (s.execution i))
    (hstep : step? settings gateway i (s.execution i) s.world = some (e', w')) :
    Tidy (System.mk w' (Function.update s.execution i e')) := by
  cases he : s.execution i with
  | starting =>
      rw [he] at hstep
      simp only [step?] at hstep
      split at hstep
      · obtain ⟨rfl, rfl⟩ := Prod.mk.inj (Option.some.inj hstep)
        refine h.advance i (.inl ⟨?_, ?_, ?_, ?_, ?_, ?_⟩) rfl rfl h.once (fun _ hid => .inl hid)
          ?_ ?_ <;>
          simp [he, Execution.hand, Execution.unsent, Execution.todo, Execution.current,
            Execution.dirty, ids]
      · obtain ⟨rfl, rfl⟩ := Prod.mk.inj (Option.some.inj hstep)
        exact tidy_pick h he
  | processing todo dirty =>
      rw [he] at hstep
      cases todo with
      | nil =>
          obtain ⟨rfl, rfl⟩ := Prod.mk.inj (Option.some.inj hstep)
          exact tidy_commit h he
      | cons msg todo =>
          simp only [step?] at hstep
          split at hstep
          next reason _ =>
            obtain ⟨rfl, rfl⟩ := Prod.mk.inj (Option.some.inj hstep)
            have hholding := holding_of_unsent (h.inHand i) (by simp [he, Execution.unsent])
            have hlt := hholding.todo msg (by simp [he, Execution.todo])
            have hunsent : (s.execution i).unsent = msg :: todo := by rw [he]; rfl
            have hsettle : Tidy (System.mk s.world (Function.update s.execution i
                (.processing todo ((s.execution i).dirty ++ [fail reason msg])))) :=
              tidy_settle h hunsent (.inr (by rw [he]; rfl)) rfl (by simp [fail]) hlt.le rfl rfl
                (.inl ⟨rfl, by simp [fail]⟩)
            rw [he] at hsettle
            exact hsettle
          · obtain ⟨rfl, rfl⟩ := Prod.mk.inj (Option.some.inj hstep)
            exact tidy_begin h he
  | sending business msg todo dirty =>
      rw [he] at hstep hlast
      simp only [step?] at hstep
      obtain ⟨hid, hattempts, hmax, hstatus⟩ := @finishAttempt_settles s.world.now
        (sendViaBusinessConnection settings gateway business s.world.tables) msg
      have hholding := holding_of_unsent (h.inHand i) (by simp [he, Execution.unsent])
      have hle := (hholding.unsent msg (by simp [he, Execution.unsent])).2
      rw [← hattempts, ← hmax] at hle
      split at hstep
      next hmarks =>
        obtain ⟨rfl, rfl⟩ := Prod.mk.inj (Option.some.inj hstep)
        obtain rfl : todo = [] := hlast hmarks
        exact tidy_mark h he hid hstatus hle rfl rfl rfl
      next hmarks =>
        obtain ⟨rfl, rfl⟩ := Prod.mk.inj (Option.some.inj hstep)
        exact tidy_send h he _
  | ended =>
      rw [he] at hstep
      cases hstep

end Moves

omit [DecidableEq ι] in
theorem tidy_environment {s : System ι} {w' : World ι} (h : Tidy s)
    (henv : Environment s.world w') : Tidy { s with world := w' } := by
  obtain ⟨⟨queued, houtbox, hqueued⟩, hkeys, hlocked, haccepted⟩ := henv
  have hlookup (id : Uuid) : w'.outbox.lookup id =
      (s.world.outbox.lookup id).or (Table.lookup queued id) := by
    rw [houtbox]
    exact List.find?_append
  have hold {id : Uuid} (hid : statusOf s.world id ≠ none) :
      statusOf w' id = statusOf s.world id := by
    unfold statusOf at hid ⊢
    obtain ⟨row, hrow⟩ := Option.ne_none_iff_exists'.mp fun hnone =>
      hid (congrArg (Option.map MessageOutbox.status) hnone)
    rw [hlookup, hrow]
    rfl
  have hnew {id : Uuid} (hid : statusOf s.world id = none) :
      statusOf w' id ≠ some .sending := by
    unfold statusOf at hid ⊢
    rw [hlookup, Option.map_eq_none_iff.mp hid]
    intro hsending
    obtain ⟨row, hrow, hstatus⟩ := Option.map_eq_some_iff.mp hsending
    exact (hqueued row (Table.lookup_mem hrow)).1 hstatus
  refine ⟨hkeys, fun row hrow => ?_, haccepted ▸ h.once, fun id hid => ?_, fun i => ?_, h.apart,
    fun id hid hpending => ?_, fun id hsending => ?_⟩
  · change row ∈ w'.outbox at hrow
    rw [houtbox] at hrow
    rcases List.mem_append.mp hrow with hbefore | hlater
    · exact h.attempts row hbefore
    · exact (hqueued row hlater).2
  · have hknown := h.known id (haccepted ▸ hid)
    exact hold hknown ▸ hknown
  · exact (h.inHand i).frame (fun _ _ hmine => hlocked ▸ hmine) (fun _ _ hid => hold hid)
      fun _ _ hid => haccepted ▸ hid
  · have hid' : id ∈ s.world.accepted := haccepted ▸ hid
    exact h.recorded id hid' (hold (h.known id hid') ▸ hpending)
  · by_cases hid : statusOf s.world id = none
    · exact absurd hsending (hnew hid)
    · exact h.unfinished id (hold hid ▸ hsending)

-- No batch has begun yet, and no message is left over from one.
structure Quiet (s : System ι) : Prop where
  keys : s.world.outbox.PrimaryKey
  attempts : ∀ row ∈ s.world.outbox, row.attempts ≤ row.maxAttempts
  waiting : ∀ row ∈ s.world.outbox, row.status ≠ .sending
  accepted : s.world.accepted = []
  starting : ∀ i, s.execution i = .starting

structure DeliveredOnce (s : System ι) : Prop where
  once : ∀ id, s.world.accepted.count id ≤ 1
  attempts : ∀ row ∈ s.world.outbox, row.attempts ≤ row.maxAttempts
  finished : (∀ i, s.execution i ∈ [Execution.starting, .ended]) →
    ∀ row ∈ s.world.outbox, row.status ≠ .sending

omit [DecidableEq ι] in
theorem tidy_quiet {s : System ι} (h : Quiet s) : Tidy s := by
  refine ⟨h.keys, h.attempts, by simp [h.accepted], by simp [h.accepted], fun i => .inl ?_,
    fun i j _ id hid => ?_, by simp [h.accepted], fun id hsending => ?_⟩
  · refine ⟨?_, ?_, ?_, ?_, ?_, ?_⟩ <;>
      simp [h.starting, Execution.hand, Execution.unsent, Execution.todo, Execution.current,
        Execution.dirty, ids]
  · simp [h.starting, Execution.hand, Execution.unsent, Execution.dirty, ids] at hid
  · obtain ⟨row, hrow, hstatus⟩ := Option.map_eq_some_iff.mp hsending
    exact absurd hstatus (h.waiting row (Table.lookup_mem hrow))

theorem tidy_reachable {settings : PlatformSettings} {s s' : System ι} (h : Tidy s)
    (hreach : Reachable settings (MarksLast settings) s s') : Tidy s' := by
  induction hreach with
  | refl => exact h
  | tail _ hstep ih =>
      cases hstep with
      | batch i gateway hlast hmove => exact tidy_step ih hlast hmove
      | environment henv => exact tidy_environment ih henv

theorem outbox_delivered_once (settings : PlatformSettings) (s₀ s : System ι) (hquiet : Quiet s₀)
    (hreach : Reachable settings (MarksLast settings) s₀ s) : DeliveredOnce s := by
  have htidy : Tidy s := tidy_reachable (tidy_quiet hquiet) hreach
  refine ⟨fun id => List.nodup_iff_count_le_one.mp htidy.once id, htidy.attempts, ?_⟩
  intro hfinished row hrow hsending
  have hlookup : s.world.outbox.lookup row.id = some row := Table.lookup_of_mem htidy.keys hrow
  obtain ⟨i, msg, hmsg, -⟩ := htidy.unfinished row.id (by simp [statusOf, hlookup, hsending])
  rcases List.mem_cons.mp (hfinished i) with hi | hi
  · simp [hi, Execution.dirty] at hmsg
  · simp [List.mem_singleton.mp hi, Execution.dirty] at hmsg

instance (settings : PlatformSettings) (gateway : Gateway) (w : World ι) :
    (e : Execution) → Decidable (MarksLast settings gateway w e)
  | .sending business _ todo _ => inferInstanceAs (Decidable
      ((sendViaBusinessConnection settings gateway business w.tables).marksInvalidToken = true →
        todo = []))
  | .starting => isTrue trivial
  | .processing .. => isTrue trivial
  | .ended => isTrue trivial

def platform : PlatformSettings := ⟨none, "platform token"⟩

def answering : Gateway := ⟨.ok [some "wamid"] "", .ok [some "wamid"]⟩

def expired : Gateway :=
  ⟨.ok [some "wamid"] "", .error ⟨"expired", some 400, some 190, none, none⟩⟩

-- The first business has an account of its own, the second sends on the platform's.
def twoBusinesses : ConnectTables where
  businesses :=
    [{ id := 1, whatsappPhoneNumberId := some "own" },
      { id := 2, whatsappPhoneNumberId := some "shared" }]
  connections :=
    [{ id := 7, businessId := 1, phoneNumberId := some "own", status := .connected,
       accessTokenEncrypted := some "token" }]

def queued (messages : List MessageOutbox) : System Nat where
  world :=
    { tables := twoBusinesses, outbox := messages, lockedBy := fun _ => none, now := 10
      accepted := [] }
  execution := fun _ => .starting

def message (id businessId : Uuid) : MessageOutbox :=
  { id, businessId, customerWaId := "27", messageText := "hello" }

theorem quiet_queued (messages : List MessageOutbox)
    (hkeys : Table.PrimaryKey messages)
    (hmessages : ∀ row ∈ messages, row.attempts ≤ row.maxAttempts ∧ row.status ≠ .sending) :
    Quiet (queued messages) :=
  ⟨hkeys, fun row hrow => (hmessages row hrow).1, fun row hrow => (hmessages row hrow).2, rfl,
    fun _ => rfl⟩

-- The batch meets the invalid token with its last message, and another runs beside it.
def tokenExpiresLast : List (Nat × Gateway) :=
  [(0, answering), (1, answering), (0, answering), (0, answering), (0, answering), (0, expired),
    (2, answering), (0, answering)]

theorem last_token_expired_delivered_once : ∃ s,
    Reachable platform (MarksLast platform) (queued [message 1 2, message 2 1]) s ∧
    s.world.accepted = [1] ∧ DeliveredOnce s := by
  have hrun : ((queued [message 1 2, message 2 1]).schedule platform (MarksLast platform)
      tokenExpiresLast).any fun s => s.world.accepted = [1] := by decide +kernel
  obtain ⟨s, hs, haccepted⟩ := (Option.any_eq_true _ _).mp hrun
  have hreach := schedule_reachable hs
  exact ⟨s, hreach, of_decide_eq_true haccepted, outbox_delivered_once platform _ s
    (quiet_queued _ (by decide) (by decide)) hreach⟩

-- The first message meets the invalid token, and another batch takes the second.
def tokenExpiresFirst : List (Nat × Gateway) :=
  [(0, answering), (0, answering), (0, expired), (1, answering), (1, answering), (1, answering),
    (0, answering), (0, answering)]

theorem message_sent_twice : ∃ s,
    Quiet (queued [message 1 1, message 2 2]) ∧
    Reachable platform (fun _ _ _ => True) (queued [message 1 1, message 2 2]) s ∧
    ¬ DeliveredOnce s := by
  have hrun : ((queued [message 1 1, message 2 2]).schedule platform (fun _ _ _ => True)
      tokenExpiresFirst).any fun s => s.world.accepted = [2, 2] := by decide +kernel
  obtain ⟨s, hs, haccepted⟩ := (Option.any_eq_true _ _).mp hrun
  refine ⟨s, quiet_queued _ (by decide) (by decide), schedule_reachable hs, fun honce => ?_⟩
  have htwice : s.world.accepted = [2, 2] := of_decide_eq_true haccepted
  have hcount := honce.once 2
  simp [htwice] at hcount

end OutboxDelivery

end NextgenBackend.Outbox
