import NextgenBackend.Services.AuthService

namespace NextgenBackend.Auth

open Txn RelyGuarantee Interleaving Invoicing

inductive AuthRequest where
  | loginEmail (draw : Draw) (email password : String)
  | setPassword (draw : Draw) (email currentPassword newPassword : String)
  | loginPin (draw : Draw) (businessCode : String) (staffId : Uuid) (pin : String)
  | refreshTokens (draw : Draw) (refreshToken : String)
  | logout (refreshToken : String)
  | resetBusinessUserPassword (businessId userId : Uuid) (admin : AdminUser)
      (tempPassword salt : String)

def pair (x : AuthTxn TokenPair) : AuthTxn (Option TokenPair) :=
  x.bind fun tokens => .done (some tokens)

def silent {α : Type} (x : AuthTxn α) : AuthTxn (Option TokenPair) :=
  x.bind fun _ => .done none

def handle (settings : AuthSettings) (platform : Platform) :
    AuthRequest → AuthTxn (Option TokenPair)
  | .loginEmail draw email password => pair (loginEmail settings platform draw email password)
  | .setPassword draw email currentPassword newPassword =>
      pair (setPassword settings platform draw email currentPassword newPassword)
  | .loginPin draw businessCode staffId pin =>
      pair (loginPin settings platform draw businessCode staffId pin)
  | .refreshTokens draw refreshToken => pair (refreshTokens settings platform draw refreshToken)
  | .logout refreshToken => silent (logout platform refreshToken)
  | .resetBusinessUserPassword businessId userId admin tempPassword salt =>
      silent (resetBusinessUserPassword platform businessId userId admin tempPassword salt)

abbrev Sessions := Config Nat AuthDb AuthKey AuthSite Failure (Option TokenPair)

def serving (settings : AuthSettings) (platform : Platform) (request : Nat → AuthRequest)
    (db : AuthDb) : Sessions :=
  start db fun i => handle settings platform (request i)

abbrev AuthLog := List (Nat × AuthSite)

def AuthSite.exchange : AuthSite → Option (String × String)
  | .refreshTokens tokenHash newHash => some (tokenHash, newHash)
  | _ => none

def exchangesIn (log : AuthLog) : List (String × String) :=
  log.filterMap fun entry => entry.2.exchange

def exchangesOf (tokenHash : String) (log : AuthLog) : List (String × String) :=
  (exchangesIn log).filter fun exchange => exchange.1 = tokenHash

def Derived (log : AuthLog) : String → String → Prop :=
  Relation.ReflTransGen fun old new => (old, new) ∈ exchangesIn log

def isRevoked (t : AuthTables) (tokenHash : String) : Prop :=
  ∃ token, t.refreshTokens.lookup tokenHash = some token ∧ token.revokedAt ≠ none

-- What is written about a token is written while the token is still as it was read.
def Current : AuthSite → AuthDb → Prop
  | .refreshTokens tokenHash _, db => (liveToken db tokenHash).isSome
  | .logout tokenHash, db => (liveToken db tokenHash).isSome
  | .resetPassword userId live, db => liveTokensOf userId db ⊆ live
  | _, _ => True

instance (site : AuthSite) (db : AuthDb) : Decidable (Current site db) := by
  cases site <;> unfold Current <;> infer_instance

def current (c : Sessions) (i : Nat) : Prop :=
  c.Meets Current i

instance (c : Sessions) (i : Nat) : Decidable (current c i) :=
  inferInstanceAs (Decidable (c.Meets Current i))

-- What c' has logged beyond c.
def since (c c' : Sessions) : AuthLog :=
  c'.log.drop c.log.length

def lastSite (c : Sessions) : Option AuthSite :=
  c.log.getLast?.map Prod.snd

structure RotationLaw (c c' : Sessions) : Prop where
  once : ∀ tokenHash, (exchangesOf tokenHash c'.log).length ≤ 1
  loggedOut : ∀ tokenHash, lastSite c = some (.logout tokenHash) →
    ∀ exchange ∈ exchangesIn (since c c'), ¬ Derived c'.log tokenHash exchange.1
  reset : ∀ userId live, lastSite c = some (.resetPassword userId live) →
    ∀ token ∈ c.db.refreshTokens, token.userId = userId →
      ∀ exchange ∈ exchangesIn (since c c'), ¬ Derived c'.log token.tokenHash exchange.1

def Persists (t t' : AuthTables) : Prop :=
  ∀ tokenHash token, t.refreshTokens.lookup tokenHash = some token →
    ∃ token', t'.refreshTokens.lookup tokenHash = some token' ∧ token'.userId = token.userId ∧
      (token.revokedAt ≠ none → token'.revokedAt ≠ none)

-- Staff accounts are closed elsewhere: their tokens are revoked, none comes back.
structure AuthEnvironment (db db' : AuthDb) : Prop where
  clock : db.now ≤ db'.now
  refreshTokens : Persists db.toAuthTables db'.toAuthTables
  created : ∀ tokenHash, db.refreshTokens.lookup tokenHash = none →
    db'.refreshTokens.lookup tokenHash = none

structure Exchanges (tokenHash newHash : String) (db' : AuthDb) : Prop where
  revoked : isRevoked db'.toAuthTables tokenHash
  same : ∃ token token', db'.refreshTokens.lookup tokenHash = some token ∧
    db'.refreshTokens.lookup newHash = some token' ∧ token'.userId = token.userId

def Performs : AuthSite → AuthDb → AuthDb → Prop
  | .refreshTokens tokenHash newHash, _, db' => Exchanges tokenHash newHash db'
  | .logout tokenHash, _, db' => isRevoked db'.toAuthTables tokenHash
  | .resetPassword userId _, _, db' =>
      ∀ token ∈ db'.refreshTokens, token.userId = userId → token.revokedAt ≠ none
  | _, _, _ => True

def rotation : Discipline AuthDb AuthKey AuthSite where
  inv _ := True
  rely _ db db' := Persists db.toAuthTables db'.toAuthTables
  guar _ db db' := Persists db.toAuthTables db'.toAuthTables
  admits := Current
  rely_refl _ _ _ token h := ⟨token, h, rfl, id⟩
  rely_trans _ _ _ _ h h' tokenHash token hlookup := by
    obtain ⟨token', hlookup', huser, hrevoked⟩ := h tokenHash token hlookup
    obtain ⟨token'', hlookup'', huser', hrevoked'⟩ := h' tokenHash token' hlookup'
    exact ⟨token'', hlookup'', huser'.trans huser, fun hne => hrevoked' (hrevoked hne)⟩
  rely_anti _ _ _ _ _ h := h
  guar_inv _ _ _ _ _ := trivial
  guar_rely _ _ _ _ _ _ h := h

section Handlers

variable {α : Type} {t t' : AuthTables} {db db' : AuthDb} {settings : AuthSettings}
  {platform : Platform} {draw : Draw} {user set : BusinessUser} {token : RefreshToken}
  {tokenHash newHash email password : String} {now : Instant} {live : List String}
  {businessId userId : Uuid}

theorem Persists.trans {t'' : AuthTables} (h : Persists t t') (h' : Persists t' t'') :
    Persists t t'' := by
  intro tokenHash token hlookup
  obtain ⟨token', hlookup', huser, hrevoked⟩ := h tokenHash token hlookup
  obtain ⟨token'', hlookup'', huser', hrevoked'⟩ := h' tokenHash token' hlookup'
  exact ⟨token'', hlookup'', huser'.trans huser, fun hne => hrevoked' (hrevoked hne)⟩

theorem persists_of_eq (h : t'.refreshTokens = t.refreshTokens) : Persists t t' :=
  fun _ token hlookup => ⟨token, h ▸ hlookup, rfl, id⟩

theorem persists_addToken : Persists t (addToken token t) :=
  fun _ token' hlookup => ⟨token', Table.lookup_insert_of_some hlookup, rfl, id⟩

theorem key_revoked (token : RefreshToken) :
    key { token with revokedAt := some now } = key token := rfl

theorem persists_revokeToken : Persists t (revokeToken now tokenHash t) := by
  intro tokenHash' token hlookup
  unfold revokeToken
  dsimp only
  rw [Table.lookup_modify key_revoked]
  split
  next heq =>
    subst heq
    simp [hlookup]
  next => exact ⟨token, hlookup, rfl, id⟩

theorem persists_revokeLive : Persists t (revokeLive now live t) := by
  intro tokenHash token hlookup
  unfold revokeLive
  dsimp only
  rw [Table.lookup_map (fun token => by split <;> rfl), hlookup, Option.map_some]
  refine ⟨_, rfl, by split <;> rfl, fun hne => ?_⟩
  simp [hne]

theorem lookup_revokeToken (hlookup : t.refreshTokens.lookup tokenHash = some token) :
    (revokeToken now tokenHash t).refreshTokens.lookup tokenHash =
      some { token with revokedAt := some now } := by
  unfold revokeToken
  rw [Table.lookup_modify_self key_revoked, hlookup, Option.map_some]

theorem AuthDb.write_ok {f : AuthEntry} (h : db.write f = .ok db') :
    db'.toAuthTables = f db.toAuthTables := by
  unfold AuthDb.write at h
  split at h
  next =>
    obtain rfl := Except.ok.inj h
    rfl
  next => cases h

theorem complies_write {site : AuthSite} {keys : List AuthKey} {f : AuthEntry}
    (hpersists : ∀ t, Persists t (f t)) (hperforms : ∀ db db', Performs site db db') :
    Complies rotation Performs (.save site keys (AuthDb.write f) : AuthTxn Unit) := by
  apply complies_save
  intro L db db' _ _ hwrite
  refine ⟨?_, hperforms db db'⟩
  simp only [rotation, AuthDb.write_ok hwrite]
  exact hpersists _

theorem readOnly_authNow : authNow.ReadOnly fun _ => True :=
  fun _ => trivial

theorem readOnly_require {p : Prop} [Decidable p] {e : Failure} :
    (Txn.require p e : AuthTxn Unit).ReadOnly fun _ => True :=
  conforms_require fun _ => trivial

theorem readOnly_checkLockout : (checkLockout user).ReadOnly fun _ => True :=
  fun _ => conforms_require fun _ => trivial

theorem readOnly_loadBusiness : (loadBusiness businessId).ReadOnly fun _ => True :=
  fun _ => conforms_orFail fun _ _ => trivial

theorem readOnly_checkBusinessActive {business : Business} :
    (checkBusinessActive business).ReadOnly fun _ => True :=
  conforms_require fun _ => trivial

theorem readOnly_userByEmail : (userByEmail platform email).ReadOnly fun _ => True :=
  fun _ => conforms_orFail fun _ _ => trivial

theorem recordFailedLogin_complies :
    Complies rotation Performs (recordFailedLogin settings user) := by
  apply complies_seq readOnly_authNow
  intro now _
  exact complies_write (fun _ => persists_of_eq rfl) fun _ _ => trivial

theorem verifySecret_complies {verify : String → String → Bool} {hashed : Option String}
    {invalid : AppError} :
    Complies rotation Performs (verifySecret settings verify user password hashed invalid) := by
  have hrefused : Complies rotation Performs
      ((recordFailedLogin settings user).bind fun _ => (.fail (.app invalid) : AuthTxn Unit)) :=
    complies_bind recordFailedLogin_complies fun _ => complies_fail _
  unfold verifySecret
  split
  · exact hrefused
  next hashed _ =>
    apply complies_bind
    · exact fun L db db' _ _ _ => ⟨⟨persists_of_eq rfl, trivial⟩, trivial⟩
    · intro _
      split
      · exact complies_done _
      · exact hrefused

theorem openSession_complies {expiresMinutes : Option Nat} :
    Complies rotation Performs (openSession settings platform draw user set expiresMinutes) := by
  apply complies_seq readOnly_authNow
  intro now _
  apply complies_bind
  · apply complies_write
    · exact fun t => (persists_of_eq rfl).trans persists_addToken
    · exact fun _ _ => trivial
  · exact fun _ => complies_done _

theorem loginEmail_complies :
    Complies rotation Performs (loginEmail settings platform draw email password) := by
  apply complies_seq readOnly_userByEmail
  intro user _
  apply complies_seq readOnly_checkLockout
  intro _ _
  apply complies_bind verifySecret_complies
  intro _
  apply complies_seq readOnly_require
  intro _ _
  apply complies_seq readOnly_loadBusiness
  intro business _
  apply complies_seq readOnly_checkBusinessActive
  intro _ _
  split
  · apply complies_seq readOnly_authNow
    intro now _
    apply complies_bind
    · exact complies_write (fun _ => persists_of_eq rfl) fun _ _ => trivial
    · exact fun _ => complies_fail _
  · exact openSession_complies

theorem setPassword_complies {newPassword : String} :
    Complies rotation Performs
      (setPassword settings platform draw email password newPassword) := by
  apply complies_seq readOnly_userByEmail
  intro user _
  apply complies_seq readOnly_checkLockout
  intro _ _
  apply complies_bind verifySecret_complies
  intro _
  apply complies_seq readOnly_require
  intro _ _
  apply complies_seq readOnly_require
  intro _ _
  apply complies_seq readOnly_loadBusiness
  intro business _
  apply complies_seq readOnly_checkBusinessActive
  intro _ _
  exact openSession_complies

theorem loginPin_complies {businessCode pin : String} {staffId : Uuid} :
    Complies rotation Performs (loginPin settings platform draw businessCode staffId pin) := by
  have hread {γ : Type} {q : AuthDb → γ} : (Txn.read q : AuthTxn γ).ReadOnly fun _ => True :=
    fun _ => trivial
  apply complies_seq hread
  intro row _
  apply complies_seq (conforms_orFail fun _ _ => trivial)
  intro business _
  apply complies_seq readOnly_checkBusinessActive
  intro _ _
  apply complies_seq hread
  intro row _
  apply complies_seq (conforms_orFail fun _ _ => trivial)
  intro user _
  apply complies_seq readOnly_checkLockout
  intro _ _
  apply complies_bind verifySecret_complies
  exact fun _ => openSession_complies

theorem liveToken_some (h : liveToken db tokenHash = some token) :
    db.refreshTokens.lookup tokenHash = some token ∧ token.revokedAt = none := by
  simpa [liveToken, Option.filter_eq_some_iff] using h

theorem exchanges_rotate (h : Persists db.toAuthTables db'.toAuthTables)
    {stored fresh : RefreshToken} {db'' : AuthDb}
    (hstored : db.refreshTokens.lookup tokenHash = some stored)
    (huser : fresh.userId = stored.userId)
    (htables : db''.toAuthTables =
      addToken fresh (revokeToken now tokenHash db'.toAuthTables)) :
    Exchanges tokenHash fresh.tokenHash db'' := by
  obtain ⟨stored', hstored', huser', -⟩ := h tokenHash stored hstored
  have hvalid := db''.valid.refreshTokens
  have hrows : db''.refreshTokens =
      (revokeToken now tokenHash db'.toAuthTables).refreshTokens.insert fresh := by
    rw [htables]
    rfl
  rw [hrows] at hvalid
  obtain ⟨-, hfresh⟩ := Table.primaryKey_insert.mp hvalid
  have hold : db''.refreshTokens.lookup tokenHash =
      some { stored' with revokedAt := some now } := by
    rw [hrows]
    exact Table.lookup_insert_of_some (lookup_revokeToken hstored')
  have hnew : db''.refreshTokens.lookup fresh.tokenHash = some fresh := by
    rw [hrows]
    exact Table.lookup_insert_self hfresh
  constructor
  · exact ⟨_, hold, by simp⟩
  · exact ⟨_, fresh, hold, hnew, huser.trans huser'.symm⟩

theorem refreshTokens_complies {refreshToken : String} :
    Complies rotation Performs (refreshTokens settings platform draw refreshToken) := by
  intro L db db₁ _ _
  dsimp only
  cases hstored : liveToken db₁ (platform.hashRefreshToken refreshToken) with
  | none => trivial
  | some stored =>
      obtain ⟨hlookup, -⟩ := liveToken_some hstored
      have hkey : stored.tokenHash = _ := Table.lookup_key hlookup
      rw [← hkey] at hlookup
      apply traces_then readOnly_authNow
      intro now L₂ db₂ _ _ hpersists₂
      apply traces_then readOnly_require
      intro _ L₃ db₃ _ _ hpersists₃ db₄ _ hpersists₄
      dsimp only
      cases huser : (db₄.users.lookup stored.userId).filter (·.isActive) with
      | none => trivial
      | some user =>
          have hid : user.id = stored.userId :=
            Table.lookup_key (Option.filter_eq_some_iff.mp huser).1
          apply traces_then readOnly_authNow
          intro now L₅ db₅ _ _ hpersists₅
          apply traces_bind.mpr
          refine traces_save.mpr fun db₆ _ hpersists₆ _ => ⟨fun db' hwrite => ?_, fun _ _ => trivial⟩
          have htables := AuthDb.write_ok hwrite
          have hpersists : Persists db₁.toAuthTables db₆.toAuthTables :=
            (((hpersists₂.trans hpersists₃).trans hpersists₄).trans hpersists₅).trans hpersists₆
          refine ⟨⟨?_, exchanges_rotate hpersists hlookup hid htables⟩, trivial⟩
          simp only [rotation, htables]
          exact persists_revokeToken.trans persists_addToken

theorem logout_complies {refreshToken : String} :
    Complies rotation Performs (logout platform refreshToken) := by
  intro L db db₁ _ _
  dsimp only
  cases hstored : liveToken db₁ (platform.hashRefreshToken refreshToken) with
  | none => trivial
  | some stored =>
      obtain ⟨hlookup, -⟩ := liveToken_some hstored
      have hkey : stored.tokenHash = _ := Table.lookup_key hlookup
      rw [← hkey] at hlookup
      apply traces_then readOnly_authNow
      intro now L₂ db₂ _ _ hpersists₂
      refine traces_save.mpr fun db₃ _ hpersists₃ _ => ⟨fun db' hwrite => ?_, fun _ _ => trivial⟩
      have htables := AuthDb.write_ok hwrite
      obtain ⟨stored', hstored', -⟩ := hpersists₂.trans hpersists₃ _ stored hlookup
      refine ⟨⟨?_, ?_⟩, trivial⟩
      · simp only [rotation, htables]
        exact persists_revokeToken
      · simp only [Performs, isRevoked, htables]
        exact ⟨_, lookup_revokeToken hstored', by simp⟩

theorem revoked_of_revokeLive (hlive : liveTokensOf userId db ⊆ live)
    (htoken : token ∈ (revokeLive now live db.toAuthTables).refreshTokens)
    (huser : token.userId = userId) : token.revokedAt ≠ none := by
  obtain ⟨row, hrow, rfl⟩ := List.mem_map.mp htoken
  by_cases hrevoked : row.revokedAt = none
  · have hmem : row.tokenHash ∈ live := by
      apply hlive
      apply List.mem_map_of_mem
      simpa [hrevoked, hrow, apply_ite RefreshToken.userId] using huser
    simp [hmem, hrevoked]
  · simp [hrevoked]

theorem resetBusinessUserPassword_complies {admin : AdminUser} {tempPassword salt : String} :
    Complies rotation Performs
      (resetBusinessUserPassword platform businessId userId admin tempPassword salt) := by
  have hread {γ : Type} {q : AuthDb → γ} : (Txn.read q : AuthTxn γ).ReadOnly fun _ => True :=
    fun _ => trivial
  have horFail {γ : Type} {o : Option γ} {e : Failure} :
      (Txn.orFail e o : AuthTxn γ).ReadOnly fun _ => True :=
    conforms_orFail fun _ _ => trivial
  have hscoped : (getBusinessScoped businessId admin).ReadOnly fun _ => True := by
    intro db
    apply conforms_bind horFail
    intro business _
    apply conforms_bind readOnly_require
    exact fun _ _ => trivial
  apply complies_seq hscoped
  intro _ _
  apply complies_seq hread
  intro row _
  apply complies_seq horFail
  intro target _
  apply complies_seq readOnly_authNow
  intro now _
  apply complies_seq hread
  intro live _
  apply complies_bind
  · apply complies_save
    intro L db db' _ hcurrent hwrite
    have htables := AuthDb.write_ok hwrite
    constructor
    · simp only [rotation, htables]
      exact (persists_of_eq rfl).trans persists_revokeLive
    · intro token htoken huser
      rw [htables] at htoken
      exact revoked_of_revokeLive hcurrent htoken huser
  · intro _
    exact complies_seq hread fun _ _ => complies_readOnly horFail

theorem handle_complies (request : AuthRequest) :
    Complies rotation Performs (handle settings platform request) := by
  cases request with
  | loginEmail => exact complies_bind loginEmail_complies fun _ => complies_done _
  | setPassword => exact complies_bind setPassword_complies fun _ => complies_done _
  | loginPin => exact complies_bind loginPin_complies fun _ => complies_done _
  | refreshTokens => exact complies_bind refreshTokens_complies fun _ => complies_done _
  | logout => exact complies_bind logout_complies fun _ => complies_done _
  | resetBusinessUserPassword =>
      exact complies_bind resetBusinessUserPassword_complies fun _ => complies_done _

end Handlers

def SameUser (t : AuthTables) (tokenHash tokenHash' : String) : Prop :=
  ∃ token token', t.refreshTokens.lookup tokenHash = some token ∧
    t.refreshTokens.lookup tokenHash' = some token' ∧ token'.userId = token.userId

def Buried (t : AuthTables) (log : AuthLog) (tokenHash : String) : Prop :=
  ∀ tokenHash', Derived log tokenHash tokenHash' → isRevoked t tokenHash'

def Ended (t : AuthTables) (log : AuthLog) : AuthSite → Prop
  | .logout tokenHash => Buried t log tokenHash
  | .resetPassword userId _ =>
      ∀ token ∈ t.refreshTokens, token.userId = userId → Buried t log token.tokenHash
  | _ => True

structure Rotated (db : AuthDb) (log : AuthLog) : Prop where
  used : ∀ exchange ∈ exchangesIn log, isRevoked db.toAuthTables exchange.1
  once : ∀ tokenHash, (exchangesOf tokenHash log).length ≤ 1
  family : ∀ exchange ∈ exchangesIn log, SameUser db.toAuthTables exchange.1 exchange.2
  ended : ∀ site, log.getLast?.map Prod.snd = some site → Ended db.toAuthTables log site

section Runs

variable {settings : AuthSettings} {platform : Platform} {request : Nat → AuthRequest}
  {t t' : AuthTables} {db db' : AuthDb} {log : AuthLog} {i : Nat} {site : AuthSite}
  {tokenHash tokenHash' : String} {token : RefreshToken} {c c' : Sessions}

theorem isRevoked_persists (h : Persists t t') (hrevoked : isRevoked t tokenHash) :
    isRevoked t' tokenHash := by
  obtain ⟨token, hlookup, hne⟩ := hrevoked
  obtain ⟨token', hlookup', -, hkeeps⟩ := h tokenHash token hlookup
  exact ⟨token', hlookup', hkeeps hne⟩

theorem sameUser_persists (h : Persists t t') (hsame : SameUser t tokenHash tokenHash') :
    SameUser t' tokenHash tokenHash' := by
  obtain ⟨token₁, token₂, hlookup₁, hlookup₂, huser⟩ := hsame
  obtain ⟨token₁', hlookup₁', huser₁, -⟩ := h tokenHash token₁ hlookup₁
  obtain ⟨token₂', hlookup₂', huser₂, -⟩ := h tokenHash' token₂ hlookup₂
  exact ⟨token₁', token₂', hlookup₁', hlookup₂', by rw [huser₂, huser, huser₁]⟩

theorem buried_persists (h : Persists t t') (hburied : Buried t log tokenHash) :
    Buried t' log tokenHash :=
  fun tokenHash' hderived => isRevoked_persists h (hburied tokenHash' hderived)

theorem not_revoked_of_live (h : (liveToken db tokenHash).isSome) :
    ¬ isRevoked db.toAuthTables tokenHash := by
  rintro ⟨token, hlookup, hrevoked⟩
  obtain ⟨token', hlive⟩ := Option.isSome_iff_exists.mp h
  obtain ⟨hlookup', hnone⟩ := liveToken_some hlive
  obtain rfl := Option.some.inj (hlookup.symm.trans hlookup')
  exact hrevoked hnone

theorem exchangesIn_append : exchangesIn (log ++ [(i, site)]) =
    exchangesIn log ++ site.exchange.toList := by
  unfold exchangesIn
  rw [List.filterMap_append]
  cases hexchange : site.exchange <;> simp [hexchange]

theorem derived_append (hnot : ∀ exchange ∈ site.exchange, ¬ Derived log tokenHash exchange.1)
    (h : Derived (log ++ [(i, site)]) tokenHash tokenHash') : Derived log tokenHash tokenHash' := by
  induction h with
  | refl => exact .refl
  | @tail old new _ hexchange ih =>
      rw [exchangesIn_append, List.mem_append] at hexchange
      rcases hexchange with hexchange | hexchange
      · exact ih.tail hexchange
      · have hsite : (old, new) ∈ site.exchange := by simpa using hexchange
        exact absurd ih (hnot _ hsite)

theorem derived_sameUser
    (hfamily : ∀ exchange ∈ exchangesIn log, SameUser t exchange.1 exchange.2)
    (htoken : t.refreshTokens.lookup tokenHash = some token)
    (h : Derived log tokenHash tokenHash') :
    ∃ token', t.refreshTokens.lookup tokenHash' = some token' ∧ token'.userId = token.userId := by
  induction h with
  | refl => exact ⟨token, htoken, rfl⟩
  | tail _ hexchange ih =>
      obtain ⟨token₁, hlookup₁, huser₁⟩ := ih
      obtain ⟨token₁', token₂, hlookup₁', hlookup₂, huser₂⟩ := hfamily _ hexchange
      obtain rfl := Option.some.inj (hlookup₁.symm.trans hlookup₁')
      exact ⟨token₂, hlookup₂, huser₂.trans huser₁⟩

theorem derived_of_unused (hunused : ∀ exchange ∈ exchangesIn log, exchange.1 ≠ tokenHash)
    (h : Derived log tokenHash tokenHash') : tokenHash' = tokenHash := by
  induction h with
  | refl => rfl
  | tail _ hexchange ih =>
      subst ih
      exact absurd rfl (hunused _ hexchange)

theorem rotated_start : Rotated db [] := by
  constructor <;> simp [exchangesIn, exchangesOf]

theorem Rotated.exchange {newHash : String} (h : Rotated db log)
    (hlive : (liveToken db tokenHash).isSome) (hpersists : Persists db.toAuthTables db'.toAuthTables)
    (hexchanges : Exchanges tokenHash newHash db') :
    Rotated db' (log ++ [(i, .refreshTokens tokenHash newHash)]) := by
  have hlog : exchangesIn (log ++ [(i, .refreshTokens tokenHash newHash)]) =
      exchangesIn log ++ [(tokenHash, newHash)] := exchangesIn_append
  have hunused : exchangesOf tokenHash log = [] := by
    apply List.filter_eq_nil_iff.mpr
    rintro exchange hmem heq
    obtain rfl : exchange.1 = tokenHash := by simpa using heq
    exact not_revoked_of_live hlive (h.used exchange hmem)
  constructor
  · intro exchange hmem
    rw [hlog, List.mem_append, List.mem_singleton] at hmem
    rcases hmem with hmem | rfl
    · exact isRevoked_persists hpersists (h.used exchange hmem)
    · exact hexchanges.revoked
  · intro tokenHash'
    unfold exchangesOf
    rw [hlog, List.filter_append]
    by_cases heq : tokenHash = tokenHash'
    · subst heq
      have hnil : (exchangesIn log).filter (fun exchange => exchange.1 = tokenHash) = [] := hunused
      simp [hnil]
    · simpa [heq, exchangesOf] using h.once tokenHash'
  · intro exchange hmem
    rw [hlog, List.mem_append, List.mem_singleton] at hmem
    rcases hmem with hmem | rfl
    · exact sameUser_persists hpersists (h.family exchange hmem)
    · exact hexchanges.same
  · intro site hsite
    obtain rfl : AuthSite.refreshTokens tokenHash newHash = site := by simpa using hsite
    trivial

theorem Rotated.other (h : Rotated db log) (hpersists : Persists db.toAuthTables db'.toAuthTables)
    (hsite : site.exchange = none) (hended : Ended db'.toAuthTables (log ++ [(i, site)]) site) :
    Rotated db' (log ++ [(i, site)]) := by
  have hlog : exchangesIn (log ++ [(i, site)]) = exchangesIn log := by
    simp [exchangesIn_append, hsite]
  constructor
  · intro exchange hmem
    exact isRevoked_persists hpersists (h.used exchange (hlog ▸ hmem))
  · simpa only [exchangesOf, hlog] using h.once
  · intro exchange hmem
    exact sameUser_persists hpersists (h.family exchange (hlog ▸ hmem))
  · intro site' hlast
    obtain rfl : site = site' := by simpa using hlast
    exact hended

theorem Rotated.commit (h : Rotated db log) (hcurrent : Current site db)
    (hpersists : Persists db.toAuthTables db'.toAuthTables) (hperforms : Performs site db db') :
    Rotated db' (log ++ [(i, site)]) := by
  cases site with
  | verified | failedLogin | passwordChangeRequired | loggedIn =>
      exact h.other hpersists rfl trivial
  | refreshTokens tokenHash newHash => exact h.exchange hcurrent hpersists hperforms
  | logout tokenHash =>
      apply h.other hpersists rfl
      intro tokenHash' hderived
      have hold : Derived log tokenHash tokenHash' := derived_append (by simp [AuthSite.exchange]) hderived
      have hunused : ∀ exchange ∈ exchangesIn log, exchange.1 ≠ tokenHash := by
        rintro exchange hmem rfl
        exact not_revoked_of_live hcurrent (h.used exchange hmem)
      rw [derived_of_unused hunused hold]
      exact hperforms
  | resetPassword userId live =>
      apply h.other hpersists rfl
      intro token htoken huser tokenHash' hderived
      have hold : Derived log token.tokenHash tokenHash' :=
        derived_append (by simp [AuthSite.exchange]) hderived
      have hfamily : ∀ exchange ∈ exchangesIn log,
          SameUser db'.toAuthTables exchange.1 exchange.2 :=
        fun exchange hmem => sameUser_persists hpersists (h.family exchange hmem)
      have hlookup : db'.refreshTokens.lookup token.tokenHash = some token :=
        Table.lookup_of_mem db'.valid.refreshTokens htoken
      obtain ⟨token', hlookup', huser'⟩ := derived_sameUser hfamily hlookup hold
      exact ⟨token', hlookup', hperforms token' (Table.lookup_mem hlookup') (huser'.trans huser)⟩

theorem Rotated.environment (h : Rotated db log) (henv : AuthEnvironment db db') :
    Rotated db' log := by
  have hpersists := henv.refreshTokens
  constructor
  · exact fun exchange hmem => isRevoked_persists hpersists (h.used exchange hmem)
  · exact h.once
  · exact fun exchange hmem => sameUser_persists hpersists (h.family exchange hmem)
  · intro site hlast
    have hended := h.ended site hlast
    cases site with
    | verified | failedLogin | passwordChangeRequired | loggedIn | refreshTokens => trivial
    | logout tokenHash => exact buried_persists hpersists hended
    | resetPassword userId live =>
        intro token' htoken' huser
        have hlookup' : db'.refreshTokens.lookup token'.tokenHash = some token' :=
          Table.lookup_of_mem db'.valid.refreshTokens htoken'
        cases hlookup : db.refreshTokens.lookup token'.tokenHash with
        | none => simp [henv.created _ hlookup] at hlookup'
        | some token =>
            obtain ⟨token'', hlookup'', huser', -⟩ := hpersists _ token hlookup
            obtain rfl := Option.some.inj (hlookup'.symm.trans hlookup'')
            have hkey : token.tokenHash = token'.tokenHash := Table.lookup_key hlookup
            rw [← hkey]
            exact buried_persists hpersists
              (hended token (Table.lookup_mem hlookup) (huser'.symm.trans huser))

theorem environment_persists : rotation.Respects AuthEnvironment :=
  fun _ _ _ henv => ⟨trivial, fun _ => henv.refreshTokens⟩

theorem current_meets (c : Sessions) (i : Nat) (h : current c i) :
    c.Meets rotation.admits i ∧ c.Meets ((fun _ => Current) c.log) i :=
  ⟨h, h⟩

theorem sessions_reachable
    (hreach : Reachable AuthEnvironment current (serving settings platform request db) c) :
    Traced rotation Performs (fun _ _ => True) c ∧ Rotated c.db c.log := by
  have hstart : Traced rotation Performs (fun _ _ => True)
      (serving settings platform request db) :=
    traced_start trivial fun i => handle_complies (request i) ∅ db
  refine traced_reachable (p := fun _ => Current) ?_ ?_ environment_persists current_meets hstart
    rotated_start hreach
  · intro i site L db db' log _ hcurrent hguar hperforms hI
    exact hI.commit hcurrent hguar hperforms
  · intro db db' log _ henv hI
    exact hI.environment henv

-- Nothing that stems from a buried token is exchanged from then on.
structure Silenced (before : AuthLog) (tokenHash : String) (db : AuthDb) (log : AuthLog) :
    Prop where
  buried : Buried db.toAuthTables log tokenHash
  grown : before <+: log
  silent : ∀ exchange ∈ exchangesIn (log.drop before.length), ¬ Derived log tokenHash exchange.1

theorem Silenced.commit {before : AuthLog} (h : Silenced before tokenHash db log)
    (hcurrent : Current site db) (hpersists : Persists db.toAuthTables db'.toAuthTables) :
    Silenced before tokenHash db' (log ++ [(i, site)]) := by
  have hnot : ∀ exchange ∈ site.exchange, ¬ Derived log tokenHash exchange.1 := by
    intro exchange hmem hderived
    cases site with
    | verified | failedLogin | passwordChangeRequired | loggedIn | logout | resetPassword =>
        simp [AuthSite.exchange] at hmem
    | refreshTokens old new =>
        obtain rfl : (old, new) = exchange := by simpa [AuthSite.exchange] using hmem
        exact not_revoked_of_live hcurrent (h.buried old hderived)
  constructor
  · intro tokenHash' hderived
    exact isRevoked_persists hpersists (h.buried tokenHash' (derived_append hnot hderived))
  · exact h.grown.trans (List.prefix_append _ _)
  · intro exchange hmem hderived
    rw [List.drop_append_of_le_length h.grown.length_le, exchangesIn_append, List.mem_append]
      at hmem
    have hold := derived_append hnot hderived
    rcases hmem with hmem | hmem
    · exact h.silent exchange hmem hold
    · exact hnot exchange (by simpa using hmem) hold

theorem buried_forever (h : Traced rotation Performs (fun _ _ => True) c)
    (hburied : Buried c.db.toAuthTables c.log tokenHash)
    (hreach : Reachable AuthEnvironment current c c') :
    ∀ exchange ∈ exchangesIn (since c c'), ¬ Derived c'.log tokenHash exchange.1 := by
  have hstart : Silenced c.log tokenHash c.db c.log := by
    refine ⟨hburied, List.prefix_rfl, ?_⟩
    simp [exchangesIn]
  refine (traced_reachable (I := Silenced c.log tokenHash) (p := fun _ => Current) ?_ ?_
    environment_persists current_meets h hstart hreach).2.silent
  · intro i site L db db' log _ hcurrent hguar _ hI
    exact hI.commit hcurrent hguar
  · intro db db' log _ henv hI
    exact ⟨buried_persists henv.refreshTokens hI.buried, hI.grown, hI.silent⟩

theorem refresh_tokens_rotate (settings : AuthSettings) (platform : Platform)
    (request : Nat → AuthRequest) (db : AuthDb) (c c' : Sessions)
    (hreach : Reachable AuthEnvironment current (serving settings platform request db) c)
    (hreach' : Reachable AuthEnvironment current c c') : RotationLaw c c' := by
  obtain ⟨htraced, hrotated⟩ := sessions_reachable hreach
  obtain ⟨-, hrotated'⟩ := sessions_reachable (hreach.trans hreach')
  constructor
  · exact hrotated'.once
  · intro tokenHash hlast
    exact buried_forever htraced (hrotated.ended _ hlast) hreach'
  · intro userId live hlast token htoken huser
    exact buried_forever htraced (hrotated.ended _ hlast token htoken huser) hreach'

end Runs

def authSettings : AuthSettings := {}

def plain : Platform where
  verifyPassword := fun secret hashed => secret = hashed
  verifyPin := fun secret hashed => secret = hashed
  hashPassword := fun _ secret => secret
  hashRefreshToken := fun token => token
  lower := fun text => text
  upper := fun text => text
  strip := fun text => text

def twoSessions : AuthDb where
  businesses := [{ id := 10 }]
  users := [{ id := 1, businessId := 10, role := .owner, email := some "owner@shop.test" },
    { id := 2, businessId := 10, role := .staff }]
  refreshTokens := [{ userId := 1, tokenHash := "first", expiresAt := 100 * Time.day },
    { userId := 2, tokenHash := "other", expiresAt := 100 * Time.day }]
  now := 90 * Time.day
  valid := by decide +kernel

def oneAfterTheOther : Nat → AuthRequest
  | 0 => .refreshTokens { refreshToken := "second" } "first"
  | 1 => .logout "second"
  | _ => .refreshTokens { refreshToken := "another" } "other"

def sameToken : Nat → AuthRequest
  | 0 => .refreshTokens { refreshToken := "second" } "first"
  | _ => .refreshTokens { refreshToken := "third" } "first"

-- Both requests read the token before either has revoked it.
def bothRead : List Nat :=
  [0, 0, 0, 0, 1, 1, 1, 1, 0, 1]

def unchecked (_ : Sessions) (_ : Nat) : Prop := True

instance (c : Sessions) (i : Nat) : Decidable (unchecked c i) :=
  inferInstanceAs (Decidable True)

theorem logged_out_session_stays_closed : ∃ c c',
    Reachable AuthEnvironment current
      (serving authSettings plain oneAfterTheOther twoSessions) c ∧
    Reachable AuthEnvironment current c c' ∧ lastSite c = some (.logout "second") ∧
    exchangesIn (since c c') = [("other", "another")] ∧ RotationLaw c c' := by
  have hrun : ((serving authSettings plain oneAfterTheOther twoSessions).schedule current
      [0, 0, 0, 0, 0, 1, 1, 1]).any fun c => lastSite c = some (.logout "second") ∧
        (c.schedule current [2, 2, 2, 2, 2]).any fun c' =>
          exchangesIn (since c c') = [("other", "another")] := by decide +kernel
  obtain ⟨c, hc, hrun⟩ := (Option.any_eq_true _ _).mp hrun
  obtain ⟨hlast, hrun⟩ := of_decide_eq_true hrun
  obtain ⟨c', hc', hlater⟩ := (Option.any_eq_true _ _).mp hrun
  have hreach : Reachable AuthEnvironment current
      (serving authSettings plain oneAfterTheOther twoSessions) c := schedule_reachable hc
  have hreach' : Reachable AuthEnvironment current c c' := schedule_reachable hc'
  exact ⟨c, c', hreach, hreach', hlast, of_decide_eq_true hlater,
    refresh_tokens_rotate authSettings plain oneAfterTheOther twoSessions c c' hreach hreach'⟩

theorem refresh_token_exchanged_twice : ∃ c,
    Reachable AuthEnvironment unchecked (serving authSettings plain sameToken twoSessions) c ∧
    (exchangesOf "first" c.log).length = 2 ∧
    (liveToken c.db "second").isSome ∧ (liveToken c.db "third").isSome ∧ ¬ RotationLaw c c := by
  have hrun : ((serving authSettings plain sameToken twoSessions).schedule unchecked bothRead).any
      fun c => (exchangesOf "first" c.log).length = 2 ∧
        (liveToken c.db "second").isSome ∧ (liveToken c.db "third").isSome := by decide +kernel
  obtain ⟨c, hc, hrun⟩ := (Option.any_eq_true _ _).mp hrun
  obtain ⟨htwice, hsecond, hthird⟩ := of_decide_eq_true hrun
  refine ⟨c, schedule_reachable hc, htwice, hsecond, hthird, fun hlaw => ?_⟩
  have honce := hlaw.once "first"
  omega

end NextgenBackend.Auth
