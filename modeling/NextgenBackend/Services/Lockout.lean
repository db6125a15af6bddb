import NextgenBackend.Services.TokenRotation

namespace NextgenBackend.Auth

open Txn RelyGuarantee Interleaving

inductive LoginAttempt where
  | loginEmail (draw : Draw) (email password : String)
  | setPassword (draw : Draw) (email currentPassword newPassword : String)
  | loginPin (draw : Draw) (businessCode : String) (staffId : Uuid) (pin : String)

def LoginAttempt.request : LoginAttempt → AuthRequest
  | .loginEmail draw email password => .loginEmail draw email password
  | .setPassword draw email currentPassword newPassword =>
      .setPassword draw email currentPassword newPassword
  | .loginPin draw businessCode staffId pin => .loginPin draw businessCode staffId pin

def guessing (settings : AuthSettings) (platform : Platform) (attempt : Nat → LoginAttempt)
    (db : AuthDb) : Sessions :=
  serving settings platform (fun i => (attempt i).request) db

def AuthSite.seen : AuthSite → Option (Uuid × Guard)
  | .verified userId seen _ => some (userId, seen)
  | .failedLogin userId seen => some (userId, seen)
  | .passwordChangeRequired userId seen => some (userId, seen)
  | .loggedIn userId seen _ => some (userId, seen)
  | _ => none

def AuthSite.isWrong : AuthSite → Bool
  | .verified _ _ correct => !correct
  | _ => false

def AuthSite.closes (settings : AuthSettings) : AuthSite → Bool
  | .failedLogin _ seen => settings.accountLockoutAttempts ≤ seen.failedLoginAttempts + 1
  | .passwordChangeRequired _ _ => true
  | .loggedIn _ _ _ => true
  | _ => false

def concerns (userId : Uuid) (site : AuthSite) : Bool :=
  site.seen.any fun seen => seen.1 = userId

-- The wrong secrets compared for a user since the last success or the last time it was locked.
def countWrong (settings : AuthSettings) (userId : Uuid) (count : Nat) (entry : Nat × AuthSite) :
    Nat :=
  if concerns userId entry.2 = false then count
  else if entry.2.closes settings then 0
  else count + entry.2.isWrong.toNat

def wrongGuesses (settings : AuthSettings) (userId : Uuid) (log : AuthLog) : Nat :=
  log.foldl (countWrong settings userId) 0

def markWrong (userId : Uuid) (pending : Bool) (entry : Nat × AuthSite) : Bool :=
  if concerns userId entry.2 then entry.2.isWrong else pending

-- The last that was logged for the user is a wrong secret.
def pendingWrong (userId : Uuid) (log : AuthLog) : Bool :=
  log.foldl (markWrong userId) false

def guardOf (db : AuthDb) (userId : Uuid) : Option Guard :=
  (db.users.lookup userId).map BusinessUser.guard

def locked (db : AuthDb) (userId : Uuid) : Bool :=
  (guardOf db userId).any fun guard => isLocked db.now guard.lockedUntil

def AsSeen (site : AuthSite) (db : AuthDb) : Prop :=
  ∀ seen ∈ site.seen, guardOf db seen.1 = some seen.2

instance (site : AuthSite) (db : AuthDb) : Decidable (AsSeen site db) :=
  inferInstanceAs (Decidable (∀ seen ∈ site.seen, guardOf db seen.1 = some seen.2))

def verifiesAlone (log : AuthLog) : AuthSite → Prop
  | .verified userId _ _ => pendingWrong userId log = false
  | _ => True

instance (log : AuthLog) (site : AuthSite) : Decidable (verifiesAlone log site) := by
  apply AuthSite.casesOn (motive := fun site => Decidable (verifiesAlone log site)) site
  all_goals
    intros
    unfold verifiesAlone
    infer_instance

def InTurn (log : AuthLog) (site : AuthSite) (db : AuthDb) : Prop :=
  AsSeen site db ∧ verifiesAlone log site

instance (log : AuthLog) (site : AuthSite) (db : AuthDb) : Decidable (InTurn log site db) :=
  inferInstanceAs (Decidable (_ ∧ _))

def inTurn (c : Sessions) (i : Nat) : Prop :=
  c.Meets (InTurn c.log) i

instance (c : Sessions) (i : Nat) : Decidable (inTurn c i) :=
  inferInstanceAs (Decidable (c.Meets (InTurn c.log) i))

structure GuardEnvironment (db db' : AuthDb) : Prop where
  clock : db.now ≤ db'.now
  guards : guardOf db' = guardOf db

structure LockoutLaw (settings : AuthSettings) (c c' : Sessions) : Prop where
  guesses : ∀ userId, wrongGuesses settings userId c'.log ≤ settings.accountLockoutAttempts
  locks : ∀ i userId seen, c'.log = c.log ++ [(i, .failedLogin userId seen)] →
    settings.accountLockoutAttempts ≤ seen.failedLoginAttempts + 1 →
      (guardOf c'.db userId).any fun guard => guard.lockedUntil.isSome
  unlocked : ∀ i userId seen correct, c'.log = c.log ++ [(i, .verified userId seen correct)] →
    locked c.db userId = false
  keepsLock : ∀ userId, locked c.db userId → guardOf c'.db userId = guardOf c.db userId

def Wrote (settings : AuthSettings) (seen guard : Guard) : AuthSite → Prop
  | .failedLogin _ _ => guard.failedLoginAttempts = seen.failedLoginAttempts + 1 ∧
      (settings.accountLockoutAttempts ≤ seen.failedLoginAttempts + 1 → guard.lockedUntil.isSome)
  | .passwordChangeRequired _ _ => guard.failedLoginAttempts = 0
  | .loggedIn _ _ _ => guard.failedLoginAttempts = 0
  | _ => guard = seen

structure Guards (settings : AuthSettings) (site : AuthSite) (db db' : AuthDb) : Prop where
  others : ∀ userId, concerns userId site = false → guardOf db' userId = guardOf db userId
  unlocked : ∀ seen ∈ site.seen, isLocked db.now seen.2.lockedUntil = false
  wrote : ∀ seen ∈ site.seen, ∃ guard, guardOf db' seen.1 = some guard ∧
    Wrote settings seen.2 guard site

def lockout : Discipline AuthDb AuthKey AuthSite where
  inv _ := True
  rely _ db db' := db.now ≤ db'.now
  guar _ db db' := db.now = db'.now
  admits := AsSeen
  rely_refl _ _ := le_rfl
  rely_trans _ _ _ _ h h' := h.trans h'
  rely_anti _ _ _ _ _ h := h
  guar_inv _ _ _ _ _ := trivial
  guar_rely _ _ _ _ _ _ h := h.le

section Handlers

variable {α β : Type} {settings : AuthSettings} {platform : Platform} {draw : Draw}
  {user set row : BusinessUser} {db db' : AuthDb} {now now' : Instant}
  {moment : Option Instant} {email password secret : String}

theorem isLocked_mono (h : now ≤ now') (hfree : isLocked now moment = false) :
    isLocked now' moment = false := by
  cases moment with
  | none => rfl
  | some moment =>
      simp only [isLocked, Option.any_some, decide_eq_false_iff_not, not_lt] at hfree ⊢
      exact hfree.trans h

-- What is run once the user was found not to be locked.
def Admitted (settings : AuthSettings) (user : BusinessUser) (x : AuthTxn α) : Prop :=
  ∀ L db, isLocked db.now user.lockedUntil = false →
    Traces lockout (Guards settings) L db x fun _ _ db' =>
      isLocked db'.now user.lockedUntil = false

theorem admitted_done (a : α) : Admitted settings user (.done a : AuthTxn α) :=
  fun _ _ h => h

theorem admitted_fail (e : Failure) : Admitted settings user (.fail e : AuthTxn α) :=
  fun _ _ h => h

theorem admitted_bind {x : AuthTxn β} {f : β → AuthTxn α} (hx : Admitted settings user x)
    (hf : ∀ b, Admitted settings user (f b)) : Admitted settings user (x.bind f) := by
  intro L db hfree
  apply traces_bind.mpr
  apply (hx L db hfree).mono
  intro r L' db' hfree'
  cases r with
  | ok b => exact hf b L' db' hfree'
  | error e => exact hfree'

theorem admitted_readOnly {x : AuthTxn β} {R : β → Prop} (hx : x.ReadOnly R) :
    Admitted settings user x := by
  intro L db hfree
  apply (traces_of_readOnly hx).mono
  intro r L' db' h
  exact isLocked_mono h.2.1 hfree

theorem dirty_of_eq {γ : Type} [DecidableEq γ] {seen set current : γ} (h : current = seen) :
    dirty seen set current = set := by
  unfold dirty
  split
  next heq => rw [h, heq]
  next => rfl

theorem guard_flushUser (h : row.guard = user.guard) :
    (flushUser user set row).guard = set.guard := by
  simp only [BusinessUser.guard, Guard.mk.injEq] at h ⊢
  exact ⟨dirty_of_eq h.1, dirty_of_eq h.2⟩

theorem key_flushUser (row : BusinessUser) : key (flushUser user set row) = key row := rfl

theorem guardOf_flushUser (hseen : guardOf db user.id = some user.guard)
    (husers : db'.users = db.users.modify user.id (flushUser user set)) (userId : Uuid) :
    guardOf db' userId = if userId = user.id then some set.guard else guardOf db userId := by
  unfold guardOf at hseen ⊢
  rw [husers, Table.lookup_modify key_flushUser]
  split
  next =>
    obtain ⟨row, hrow, hguard⟩ := Option.map_eq_some_iff.mp hseen
    simp [hrow, guard_flushUser hguard]
  next => rfl

theorem concerns_eq_false {site : AuthSite} {userId : Uuid}
    (hsite : site.seen = some (user.id, user.guard)) :
    concerns userId site = false ↔ user.id ≠ userId := by
  simp [concerns, hsite]

theorem admitted_write (set : BusinessUser) {site : AuthSite} {keys : List AuthKey} {f : AuthEntry}
    (hsite : site.seen = some (user.id, user.guard))
    (husers : ∀ t, (f t).users = t.users.modify user.id (flushUser user set))
    (hwrote : Wrote settings user.guard set.guard site) :
    Admitted settings user (.save site keys (AuthDb.write f) : AuthTxn Unit) := by
  intro L db hfree
  refine traces_save.mpr fun db' _ hclock hseen => ⟨fun db'' hwrite => ?_, fun _ _ => ?_⟩
  · have hfree' : isLocked db'.now user.lockedUntil = false := isLocked_mono hclock hfree
    have hrow : guardOf db' user.id = some user.guard := hseen _ hsite
    have hnow : db'.now = db''.now := by
      unfold AuthDb.write at hwrite
      split at hwrite
      · obtain rfl := Except.ok.inj hwrite
        rfl
      · cases hwrite
    have hflushed : db''.users = db'.users.modify user.id (flushUser user set) := by
      rw [AuthDb.write_ok hwrite]
      exact husers _
    refine ⟨⟨hnow, ?_⟩, hnow ▸ hfree'⟩
    constructor
    · intro userId hother
      have hne : userId ≠ user.id := ((concerns_eq_false hsite).mp hother).symm
      rw [guardOf_flushUser hrow hflushed, if_neg hne]
    · rw [hsite]
      rintro _ ⟨⟩
      exact hfree'
    · rw [hsite]
      rintro _ ⟨⟩
      exact ⟨set.guard, by rw [guardOf_flushUser hrow hflushed, if_pos rfl], hwrote⟩
  · exact isLocked_mono hclock hfree

theorem recordFailedLogin_admitted :
    Admitted settings user (recordFailedLogin settings user) := by
  apply admitted_bind (admitted_readOnly readOnly_authNow)
  intro now
  apply admitted_write _ rfl (fun _ => rfl)
  refine ⟨rfl, fun hlocks => ?_⟩
  have hattempts : settings.accountLockoutAttempts ≤ user.failedLoginAttempts + 1 := hlocks
  simp [failedOnce, BusinessUser.guard, hattempts]

theorem verified_admitted (correct : Bool) :
    Admitted settings user
      (.tell (.verified user.id user.guard correct) id : AuthTxn Unit) := by
  intro L db hfree
  refine traces_tell.mpr fun db' _ hclock hseen => ?_
  have hfree' : isLocked db'.now user.lockedUntil = false := isLocked_mono hclock hfree
  have hrow : guardOf db' user.id = some user.guard := hseen _ rfl
  refine ⟨⟨rfl, ?_⟩, hfree'⟩
  constructor
  · exact fun _ _ => rfl
  · rintro _ ⟨⟩
    exact hfree'
  · rintro _ ⟨⟩
    exact ⟨user.guard, hrow, rfl⟩

theorem verifySecret_admitted {verify : String → String → Bool} {hashed : Option String}
    {invalid : AppError} :
    Admitted settings user (verifySecret settings verify user secret hashed invalid) := by
  have hrefused : Admitted settings user
      ((recordFailedLogin settings user).bind fun _ => (.fail (.app invalid) : AuthTxn Unit)) :=
    admitted_bind recordFailedLogin_admitted fun _ => admitted_fail _
  unfold verifySecret
  split
  · exact hrefused
  next hashed _ =>
    apply admitted_bind (verified_admitted _)
    intro _
    split
    · exact admitted_done _
    · exact hrefused

theorem openSession_admitted {expiresMinutes : Option Nat} :
    Admitted settings user (openSession settings platform draw user set expiresMinutes) := by
  apply admitted_bind (admitted_readOnly readOnly_authNow)
  intro now
  apply admitted_bind
  · exact admitted_write (succeeded now set) rfl (fun _ => rfl) rfl
  · exact fun _ => admitted_done _

theorem checkLockout_complies {f : Unit → AuthTxn α} (hf : Admitted settings user (f ())) :
    Complies lockout (Guards settings) ((checkLockout user).bind f) := by
  intro L db
  apply traces_bind.mpr
  intro db' _ _
  simp only [Txn.bind, Txn.require]
  split
  next hfree => exact (hf L db' hfree).mono fun _ _ _ _ => trivial
  next => trivial

theorem loginEmail_locksOut :
    Complies lockout (Guards settings) (loginEmail settings platform draw email password) := by
  apply complies_seq readOnly_userByEmail
  intro user _
  apply checkLockout_complies
  apply admitted_bind verifySecret_admitted
  intro _
  apply admitted_bind (admitted_readOnly readOnly_require)
  intro _
  apply admitted_bind (admitted_readOnly readOnly_loadBusiness)
  intro business
  apply admitted_bind (admitted_readOnly readOnly_checkBusinessActive)
  intro _
  split
  · apply admitted_bind (admitted_readOnly readOnly_authNow)
    intro now
    apply admitted_bind
    · exact admitted_write (succeeded now user) rfl (fun _ => rfl) rfl
    · exact fun _ => admitted_fail _
  · exact openSession_admitted

theorem setPassword_locksOut {newPassword : String} :
    Complies lockout (Guards settings)
      (setPassword settings platform draw email password newPassword) := by
  apply complies_seq readOnly_userByEmail
  intro user _
  apply checkLockout_complies
  apply admitted_bind verifySecret_admitted
  intro _
  apply admitted_bind (admitted_readOnly readOnly_require)
  intro _
  apply admitted_bind (admitted_readOnly readOnly_require)
  intro _
  apply admitted_bind (admitted_readOnly readOnly_loadBusiness)
  intro business
  apply admitted_bind (admitted_readOnly readOnly_checkBusinessActive)
  intro _
  exact openSession_admitted

theorem loginPin_locksOut {businessCode pin : String} {staffId : Uuid} :
    Complies lockout (Guards settings)
      (loginPin settings platform draw businessCode staffId pin) := by
  have hread {γ : Type} {q : AuthDb → γ} : (Txn.read q : AuthTxn γ).ReadOnly fun _ => True :=
    fun _ => trivial
  have horFail {γ : Type} {o : Option γ} {e : Failure} :
      (Txn.orFail e o : AuthTxn γ).ReadOnly fun _ => True :=
    conforms_orFail fun _ _ => trivial
  apply complies_seq hread
  intro row _
  apply complies_seq horFail
  intro business _
  apply complies_seq readOnly_checkBusinessActive
  intro _ _
  apply complies_seq hread
  intro row _
  apply complies_seq horFail
  intro user _
  apply checkLockout_complies
  apply admitted_bind verifySecret_admitted
  exact fun _ => openSession_admitted

theorem attempt_locksOut (attempt : LoginAttempt) :
    Complies lockout (Guards settings) (handle settings platform attempt.request) := by
  cases attempt with
  | loginEmail => exact complies_bind loginEmail_locksOut fun _ => complies_done _
  | setPassword => exact complies_bind setPassword_locksOut fun _ => complies_done _
  | loginPin => exact complies_bind loginPin_locksOut fun _ => complies_done _

end Handlers

def failedAttempts (db : AuthDb) (userId : Uuid) : Nat :=
  (guardOf db userId).elim 0 Guard.failedLoginAttempts

structure Tallied (settings : AuthSettings) (db : AuthDb) (log : AuthLog) (userId : Uuid) :
    Prop where
  counted : wrongGuesses settings userId log ≤
    failedAttempts db userId + (pendingWrong userId log).toNat
  spent : settings.accountLockoutAttempts ≤ failedAttempts db userId →
    wrongGuesses settings userId log ≤ (pendingWrong userId log).toNat

section Runs

variable {settings : AuthSettings} {platform : Platform} {attempt : Nat → LoginAttempt}
  {db db' : AuthDb} {log : AuthLog} {i : Nat} {site : AuthSite} {userId : Uuid} {seen : Guard}
  {c c' : Sessions}

theorem wrongGuesses_append : wrongGuesses settings userId (log ++ [(i, site)]) =
    countWrong settings userId (wrongGuesses settings userId log) (i, site) := by
  simp [wrongGuesses, List.foldl_append]

theorem pendingWrong_append : pendingWrong userId (log ++ [(i, site)]) =
    markWrong userId (pendingWrong userId log) (i, site) := by
  simp [pendingWrong, List.foldl_append]

theorem failedAttempts_of_some (h : guardOf db userId = some seen) :
    failedAttempts db userId = seen.failedLoginAttempts := by
  simp [failedAttempts, h]

theorem Tallied.le (h : Tallied settings db log userId)
    (hpositive : 0 < settings.accountLockoutAttempts) :
    wrongGuesses settings userId log ≤ settings.accountLockoutAttempts := by
  have hone : (pendingWrong userId log).toNat ≤ 1 := Bool.toNat_le _
  by_cases hspent : settings.accountLockoutAttempts ≤ failedAttempts db userId
  · have hwrong := h.spent hspent
    omega
  · have hcounted := h.counted
    omega

theorem tallied_start : Tallied settings db [] userId := by
  constructor <;> simp [wrongGuesses]

theorem Tallied.others (h : Tallied settings db log userId) (hother : concerns userId site = false)
    (hguards : Guards settings site db db') : Tallied settings db' (log ++ [(i, site)]) userId := by
  have hfailed : failedAttempts db' userId = failedAttempts db userId := by
    unfold failedAttempts
    rw [hguards.others userId hother]
  have hwrong : wrongGuesses settings userId (log ++ [(i, site)]) =
      wrongGuesses settings userId log := by
    simp [wrongGuesses_append, countWrong, hother]
  have hpending : pendingWrong userId (log ++ [(i, site)]) = pendingWrong userId log := by
    simp [pendingWrong_append, markWrong, hother]
  constructor
  · rw [hwrong, hfailed, hpending]
    exact h.counted
  · rw [hwrong, hfailed, hpending]
    exact h.spent

-- One case for each kind of step that a login attempt logs for the user.
theorem Tallied.own (h : Tallied settings db log userId) (hsite : site.seen = some (userId, seen))
    (hseen : guardOf db userId = some seen) (halone : verifiesAlone log site)
    (hguards : Guards settings site db db') : Tallied settings db' (log ++ [(i, site)]) userId := by
  have hconcerns : concerns userId site := by simp [concerns, hsite]
  have hbefore : failedAttempts db userId = seen.failedLoginAttempts := failedAttempts_of_some hseen
  obtain ⟨guard, hguard, hwrote⟩ := hguards.wrote _ hsite
  have hafter : failedAttempts db' userId = guard.failedLoginAttempts :=
    failedAttempts_of_some hguard
  have hone : (pendingWrong userId log).toNat ≤ 1 := Bool.toNat_le _
  have hcounted := h.counted
  have hspent := h.spent
  have hlog : wrongGuesses settings userId (log ++ [(i, site)]) =
      if site.closes settings then 0
      else wrongGuesses settings userId log + site.isWrong.toNat := by
    simp [wrongGuesses_append, countWrong, hconcerns]
  have hmark : pendingWrong userId (log ++ [(i, site)]) = site.isWrong := by
    simp [pendingWrong_append, markWrong, hconcerns]
  cases site with
  | verified user seen' correct =>
      obtain ⟨rfl, rfl⟩ : user = userId ∧ seen' = seen := by
        simpa [AuthSite.seen] using hsite
      have hnone : (pendingWrong user log).toNat = 0 := by
        rw [show pendingWrong user log = false from halone]
        rfl
      have hkept : guard = seen' := hwrote
      simp only [AuthSite.closes, Bool.false_eq_true, if_false] at hlog
      constructor
      · rw [hlog, hmark, hafter, hkept]
        omega
      · intro hle
        rw [hlog, hmark]
        have hwrong := hspent (by rw [hbefore, ← hkept, ← hafter]; exact hle)
        omega
  | failedLogin user seen' =>
      obtain ⟨rfl, rfl⟩ : user = userId ∧ seen' = seen := by
        simpa [AuthSite.seen] using hsite
      have hfailed : guard.failedLoginAttempts = seen'.failedLoginAttempts + 1 := hwrote.1
      by_cases hlocks : settings.accountLockoutAttempts ≤ seen'.failedLoginAttempts + 1
      · simp only [AuthSite.closes, hlocks, decide_true, if_true] at hlog
        constructor <;> simp [hlog]
      · simp only [AuthSite.closes, hlocks, decide_false, Bool.false_eq_true, if_false,
          AuthSite.isWrong, Bool.toNat_false] at hlog
        constructor
        · rw [hlog, hafter, hfailed]
          omega
        · intro hle
          omega
  | passwordChangeRequired user seen' =>
      have hzero : wrongGuesses settings userId (log ++ [(i, .passwordChangeRequired user seen')]) =
          0 := by simpa [AuthSite.closes] using hlog
      constructor <;> simp [hzero]
  | loggedIn user seen' tokenHash =>
      have hzero : wrongGuesses settings userId (log ++ [(i, .loggedIn user seen' tokenHash)]) =
          0 := by simpa [AuthSite.closes] using hlog
      constructor <;> simp [hzero]
  | refreshTokens | logout | resetPassword => simp [AuthSite.seen] at hsite

theorem Tallied.commit (h : ∀ userId, Tallied settings db log userId) (hturn : InTurn log site db)
    (hguards : Guards settings site db db') (userId : Uuid) :
    Tallied settings db' (log ++ [(i, site)]) userId := by
  cases hconcerns : concerns userId site with
  | false => exact (h userId).others hconcerns hguards
  | true =>
      cases hsite : site.seen with
      | none => simp [concerns, hsite] at hconcerns
      | some seen =>
          obtain ⟨user, seen⟩ := seen
          obtain rfl : user = userId := by simpa [concerns, hsite] using hconcerns
          exact (h user).own hsite (hturn.1 _ hsite) hturn.2 hguards

theorem guards_respected : lockout.Respects GuardEnvironment :=
  fun _ _ _ henv => ⟨trivial, fun _ => henv.clock⟩

theorem inTurn_meets (c : Sessions) (i : Nat) (h : inTurn c i) :
    c.Meets lockout.admits i ∧ c.Meets (InTurn c.log) i := by
  refine ⟨?_, h⟩
  unfold inTurn Config.Meets at h
  unfold Config.Meets
  split at h
  · exact h.1
  · exact h.1
  · trivial

theorem attempts_reachable
    (hreach : Reachable GuardEnvironment inTurn (guessing settings platform attempt db) c) :
    Traced lockout (Guards settings) (fun _ _ => True) c ∧
      ∀ userId, Tallied settings c.db c.log userId := by
  have hstart : Traced lockout (Guards settings) (fun _ _ => True)
      (guessing settings platform attempt db) :=
    traced_start trivial fun i => attempt_locksOut (attempt i) ∅ db
  refine traced_reachable (I := fun db log => ∀ userId, Tallied settings db log userId)
    (p := InTurn) ?_ ?_ guards_respected inTurn_meets hstart (fun _ => tallied_start) hreach
  · intro i site L db db' log _ hturn _ hguards hI
    exact Tallied.commit hI hturn hguards
  · intro db db' log _ henv hI userId
    have hfailed : failedAttempts db' userId = failedAttempts db userId := by
      unfold failedAttempts
      rw [henv.guards]
    constructor
    · rw [hfailed]
      exact (hI userId).counted
    · rw [hfailed]
      exact (hI userId).spent

theorem locked_eq_false (hseen : guardOf db userId = some seen)
    (hfree : isLocked db.now seen.lockedUntil = false) : locked db userId = false := by
  simp [locked, hseen, hfree]

theorem login_attempts_lock_out (settings : AuthSettings) (platform : Platform)
    (attempt : Nat → LoginAttempt) (db : AuthDb) (c c' : Sessions)
    (hpositive : 0 < settings.accountLockoutAttempts)
    (hreach : Reachable GuardEnvironment inTurn (guessing settings platform attempt db) c)
    (hstep : Step GuardEnvironment inTurn c c') : LockoutLaw settings c c' := by
  obtain ⟨htraced, -⟩ := attempts_reachable hreach
  obtain ⟨-, htallied⟩ := attempts_reachable (hreach.tail hstep)
  have hguesses (userId : Uuid) := (htallied userId).le hpositive
  cases hstep with
  | environment henv =>
      constructor
      · exact hguesses
      · intro i userId seen hlog
        simp at hlog
      · intro i userId seen correct hlog
        simp at hlog
      · intro userId _
        rw [henv.guards]
  | thread j hturn hj =>
      obtain ⟨-, ⟨hdb, hlog⟩ | ⟨site, L, hmeets, -, hguards, hlog⟩⟩ :=
        traced_thread htraced (inTurn_meets c j hturn).1 hj
      · constructor
        · exact hguesses
        · intro i userId seen hlog'
          simp [hlog] at hlog'
        · intro i userId seen correct hlog'
          simp [hlog] at hlog'
        · intro userId _
          rw [hdb]
      · obtain ⟨hseen, -⟩ := hmeets _ hturn
        constructor
        · exact hguesses
        · intro i userId seen hlog' hlocks
          obtain ⟨-, rfl⟩ : j = i ∧ site = .failedLogin userId seen := by
            simpa [hlog] using hlog'
          obtain ⟨guard, hguard, hwrote⟩ := hguards.wrote _ rfl
          have hset : guard.lockedUntil.isSome := hwrote.2 hlocks
          simp [hguard, hset]
        · intro i userId seen correct hlog'
          obtain ⟨-, rfl⟩ : j = i ∧ site = .verified userId seen correct := by
            simpa [hlog] using hlog'
          exact locked_eq_false (hseen _ rfl) (hguards.unlocked _ rfl)
        · intro userId hlocked
          cases hconcerns : concerns userId site with
          | false => exact hguards.others userId hconcerns
          | true =>
              obtain ⟨seen, hsite, huser⟩ := (Option.any_eq_true _ _).mp hconcerns
              obtain rfl : seen.1 = userId := of_decide_eq_true huser
              rw [locked_eq_false (hseen _ hsite) (hguards.unlocked _ hsite)] at hlocked
              cases hlocked

end Runs

def oneTill : AuthDb where
  businesses := [{ id := 10, businessCode := "SHOP" }]
  users := [{ id := 1, businessId := 10, role := .staff, pinHash := some "4321" }]
  now := 90 * Time.day
  valid := by decide +kernel

def guess (attempt : Nat) : LoginAttempt :=
  .loginPin { refreshToken := "session" } "SHOP" 1 (if attempt = 0 then "0000" else "1111")

def oneByOne (steps attempts : Nat) : List Nat :=
  (List.range attempts).flatMap fun attempt => List.replicate steps attempt

-- Six attempts look at the account before any of them has recorded its failure.
def allAtOnce : List Nat :=
  oneByOne 3 6 ++ [0, 1, 2, 3, 4]

theorem fifth_wrong_pin_locks : ∃ c c',
    Reachable GuardEnvironment inTurn (guessing authSettings plain guess oneTill) c ∧
    Step GuardEnvironment inTurn c c' ∧ locked c.db 1 = false ∧ locked c'.db 1 ∧
    LockoutLaw authSettings c c' := by
  have hrun : ((guessing authSettings plain guess oneTill).schedule inTurn
      (oneByOne 6 4 ++ [4, 4, 4, 4, 4])).any fun c => inTurn c 4 ∧ locked c.db 1 = false ∧
        (c.step? 4).any fun c' => locked c'.db 1 := by decide +kernel
  obtain ⟨c, hc, hrun⟩ := (Option.any_eq_true _ _).mp hrun
  obtain ⟨hturn, hfree, hrun⟩ := of_decide_eq_true hrun
  obtain ⟨c', hc', hlocked⟩ := (Option.any_eq_true _ _).mp hrun
  have hreach : Reachable GuardEnvironment inTurn (guessing authSettings plain guess oneTill) c :=
    schedule_reachable hc
  have hstep : Step GuardEnvironment inTurn c c' := .thread 4 hturn hc'
  exact ⟨c, c', hreach, hstep, hfree, hlocked,
    login_attempts_lock_out authSettings plain guess oneTill c c' (by decide) hreach hstep⟩

theorem parallel_guesses_before_lock : ∃ c c',
    Reachable GuardEnvironment unchecked (guessing authSettings plain guess oneTill) c ∧
    Step GuardEnvironment unchecked c c' ∧ locked c'.db 1 = false ∧
    wrongGuesses authSettings 1 c'.log = 6 ∧ ¬ LockoutLaw authSettings c c' := by
  have hrun : ((guessing authSettings plain guess oneTill).schedule unchecked
      allAtOnce).any fun c => (c.step? 5).any fun c' =>
        locked c'.db 1 = false ∧ wrongGuesses authSettings 1 c'.log = 6 := by decide +kernel
  obtain ⟨c, hc, hrun⟩ := (Option.any_eq_true _ _).mp hrun
  obtain ⟨c', hc', hrun⟩ := (Option.any_eq_true _ _).mp hrun
  obtain ⟨hfree, hwrong⟩ := of_decide_eq_true hrun
  refine ⟨c, c', schedule_reachable hc, .thread 5 trivial hc', hfree, hwrong, fun hlaw => ?_⟩
  have hle := hlaw.guesses 1
  rw [hwrong] at hle
  exact absurd hle (by decide)

end NextgenBackend.Auth
