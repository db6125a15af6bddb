import NextgenBackend.Billing.CommercialInvoices
import NextgenBackend.Core.Session
import NextgenBackend.Utils.Time

namespace NextgenBackend.Auth

open Txn Invoicing

structure BusinessUser where
  id : Uuid
  businessId : Uuid
  role : BusinessUserRole
  email : Option String := none
  passwordHash : Option String := none
  pinHash : Option String := none
  isActive : Bool := true
  mustChangePassword : Bool := false
  failedLoginAttempts : Nat := 0
  lockedUntil : Option Instant := none
  lastLoginAt : Option Instant := none
deriving DecidableEq, Repr

instance : Keyed BusinessUser Uuid := ⟨BusinessUser.id⟩

structure RefreshToken where
  userId : Uuid
  tokenHash : String
  expiresAt : Instant
  revokedAt : Option Instant := none
  ipAddress : Option String := none
deriving DecidableEq, Repr

instance : Keyed RefreshToken String := ⟨RefreshToken.tokenHash⟩

structure AuthTables where
  businesses : Table Business := []
  users : Table BusinessUser := []
  refreshTokens : Table RefreshToken := []

structure AuthTables.Valid (t : AuthTables) : Prop where
  users : t.users.PrimaryKey
  emails : t.users.Unique fun user => user.email
  refreshTokens : t.refreshTokens.PrimaryKey

instance (t : AuthTables) : Decidable t.Valid :=
  decidable_of_iff (t.users.PrimaryKey ∧ (t.users.Unique fun user => user.email) ∧
      t.refreshTokens.PrimaryKey)
    ⟨fun ⟨h, h', h''⟩ => ⟨h, h', h''⟩, fun ⟨h, h', h''⟩ => ⟨h, h', h''⟩⟩

structure AuthDb extends AuthTables where
  now : Instant
  valid : toAuthTables.Valid

inductive AuthKey where
  | user (id : Uuid)
  | refreshToken (tokenHash : String)
deriving DecidableEq, Repr

structure Guard where
  failedLoginAttempts : Nat
  lockedUntil : Option Instant
deriving DecidableEq, Repr

def BusinessUser.guard (user : BusinessUser) : Guard :=
  ⟨user.failedLoginAttempts, user.lockedUntil⟩

inductive AuthSite where
  | verified (userId : Uuid) (seen : Guard) (correct : Bool)
  | failedLogin (userId : Uuid) (seen : Guard)
  | passwordChangeRequired (userId : Uuid) (seen : Guard)
  | loggedIn (userId : Uuid) (seen : Guard) (tokenHash : String)
  | refreshTokens (tokenHash newHash : String)
  | logout (tokenHash : String)
  | resetPassword (userId : Uuid) (live : List String)
deriving DecidableEq, Repr

abbrev AuthTxn := Txn AuthDb AuthKey AuthSite Failure

abbrev AuthEntry := AuthTables → AuthTables

def AuthDb.write (f : AuthEntry) (db : AuthDb) : Except Failure AuthDb :=
  if h : (f db.toAuthTables).Valid then
    .ok { db with toAuthTables := f db.toAuthTables, valid := h }
  else .error .unhandled

structure AuthSettings where
  accessTokenExpireMinutes : Nat := 30
  staffAccessTokenExpireMinutes : Nat := 10
  refreshTokenExpireDays : Nat := 30
  accountLockoutAttempts : Nat := 5
  accountLockoutMinutes : Nat := 30
deriving DecidableEq, Repr

-- bcrypt draws a salt for each hash it makes; the letter case is that of Unicode.
structure Platform where
  verifyPassword : String → String → Bool
  verifyPin : String → String → Bool
  hashPassword : String → String → String
  hashRefreshToken : String → String
  lower : String → String
  upper : String → String
  strip : String → String

structure AccessToken where
  sub : Uuid
  bid : Option Uuid
  role : BusinessUserRole
  iat : Instant
  exp : Instant
deriving DecidableEq, Repr

structure TokenPair where
  accessToken : AccessToken
  refreshToken : String
deriving DecidableEq, Repr

def authError {α : Type} (code message : String) (statusCode : Nat) : AuthTxn α :=
  .fail (.app ⟨code, message, statusCode, []⟩)

def authNow : AuthTxn Instant :=
  .read AuthDb.now

def createAccessToken (settings : AuthSettings) (now : Instant) (userId businessId : Uuid)
    (role : BusinessUserRole) (expiresMinutes : Option Nat) : AccessToken where
  sub := userId
  bid := some businessId
  role := role
  iat := now
  exp := now + ((expiresMinutes.filter (· ≠ 0)).getD settings.accessTokenExpireMinutes) * Time.minute

-- The session writes the columns that were set to something else than what was read.
def dirty {α : Type} [DecidableEq α] (seen set current : α) : α :=
  if set = seen then current else set

def flushUser (seen set row : BusinessUser) : BusinessUser :=
  { row with
    passwordHash := dirty seen.passwordHash set.passwordHash row.passwordHash
    mustChangePassword := dirty seen.mustChangePassword set.mustChangePassword row.mustChangePassword
    failedLoginAttempts :=
      dirty seen.failedLoginAttempts set.failedLoginAttempts row.failedLoginAttempts
    lockedUntil := dirty seen.lockedUntil set.lockedUntil row.lockedUntil
    lastLoginAt := dirty seen.lastLoginAt set.lastLoginAt row.lastLoginAt }

def updateUser (seen set : BusinessUser) : AuthEntry := fun t =>
  { t with users := t.users.modify seen.id (flushUser seen set) }

def revokeToken (now : Instant) (tokenHash : String) : AuthEntry := fun t =>
  { t with refreshTokens :=
      t.refreshTokens.modify tokenHash fun token => { token with revokedAt := some now } }

def addToken (token : RefreshToken) : AuthEntry := fun t =>
  { t with refreshTokens := t.refreshTokens.insert token }

def loadBusiness (businessId : Uuid) : AuthTxn Business := do
  let business ← .read fun db => db.businesses.lookup businessId
  .orFail (.app (notFoundError "Business" (some businessId))) business

def checkBusinessActive (business : Business) : AuthTxn Unit :=
  .require business.isActive
    (.app ⟨"BUSINESS_SUSPENDED", "This business account has been suspended.", 403,
      match business.suspendedReason with
      | some reason => if reason = "" then [] else [("reason", reason)]
      | none => []⟩)

def isLocked (now : Instant) (lockedUntil : Option Instant) : Bool :=
  lockedUntil.any fun moment => now < moment

def checkLockout (user : BusinessUser) : AuthTxn Unit := do
  let now ← authNow
  .require (isLocked now user.lockedUntil = false)
    (.app ⟨"ACCOUNT_LOCKED", "Account locked. Try again after " ++
      (user.lockedUntil.elim "" Time.isoText), 423, []⟩)

def failedOnce (settings : AuthSettings) (now : Instant) (user : BusinessUser) : BusinessUser :=
  let attempts := user.failedLoginAttempts + 1
  { user with
    failedLoginAttempts := attempts
    lockedUntil := if settings.accountLockoutAttempts ≤ attempts then
        some (now + settings.accountLockoutMinutes * Time.minute)
      else user.lockedUntil }

def recordFailedLogin (settings : AuthSettings) (user : BusinessUser) : AuthTxn Unit := do
  let now ← authNow
  .save (.failedLogin user.id user.guard) [.user user.id]
    (AuthDb.write (updateUser user (failedOnce settings now user)))

-- No secret is compared for a user who has none.
def verifySecret (settings : AuthSettings) (verify : String → String → Bool) (user : BusinessUser)
    (secret : String) (hashed : Option String) (invalid : AppError) : AuthTxn Unit :=
  match hashed.filter (· ≠ "") with
  | none => do
      recordFailedLogin settings user
      .fail (.app invalid)
  | some hashed => do
      .tell (.verified user.id user.guard (verify secret hashed)) id
      if verify secret hashed then pure ()
      else do
        recordFailedLogin settings user
        .fail (.app invalid)

def refreshTokenRow (settings : AuthSettings) (platform : Platform) (now : Instant)
    (userId : Uuid) (rawToken : String) (ipAddress : Option String) : RefreshToken where
  userId := userId
  tokenHash := platform.hashRefreshToken rawToken
  expiresAt := now + settings.refreshTokenExpireDays * Time.day
  ipAddress := ipAddress

def succeeded (now : Instant) (user : BusinessUser) : BusinessUser :=
  { user with failedLoginAttempts := 0, lockedUntil := none, lastLoginAt := some now }

-- The raw refresh token and the salt are drawn when the request needs them.
structure Draw where
  refreshToken : String
  salt : String := ""
  ipAddress : Option String := none

-- What set holds beyond what was read is written with the bookkeeping of the login.
def openSession (settings : AuthSettings) (platform : Platform) (draw : Draw)
    (user set : BusinessUser) (expiresMinutes : Option Nat) : AuthTxn TokenPair := do
  let now ← authNow
  let token := refreshTokenRow settings platform now user.id draw.refreshToken draw.ipAddress
  .save (.loggedIn user.id user.guard token.tokenHash)
    [.user user.id, .refreshToken token.tokenHash]
    (AuthDb.write fun t => addToken token (updateUser user (succeeded now set) t))
  pure
    { accessToken := createAccessToken settings now user.id user.businessId user.role expiresMinutes
      refreshToken := draw.refreshToken }

def invalidEmailOrPassword : AppError :=
  ⟨"INVALID_CREDENTIALS", "Invalid email or password", 401, []⟩

def invalidCodeOrPin : AppError :=
  ⟨"INVALID_CREDENTIALS", "Invalid business code or PIN", 401, []⟩

def userByEmail (platform : Platform) (email : String) : AuthTxn BusinessUser := do
  let user ← .read fun db =>
    db.users.find? fun user => user.email = some (platform.strip (platform.lower email))
  .orFail (.app invalidEmailOrPassword) user

def loginEmail (settings : AuthSettings) (platform : Platform) (draw : Draw)
    (email password : String) : AuthTxn TokenPair := do
  let user ← userByEmail platform email
  checkLockout user
  verifySecret settings platform.verifyPassword user password user.passwordHash
    invalidEmailOrPassword
  .require user.isActive
    (.app ⟨"ACCOUNT_DISABLED", "This account has been disabled", 403, []⟩)
  let business ← loadBusiness user.businessId
  checkBusinessActive business
  if user.mustChangePassword then do
    let now ← authNow
    .save (.passwordChangeRequired user.id user.guard) [.user user.id]
      (AuthDb.write (updateUser user (succeeded now user)))
    authError "PASSWORD_CHANGE_REQUIRED" "You must set a new password before continuing" 403
  else openSession settings platform draw user user none

def setPassword (settings : AuthSettings) (platform : Platform) (draw : Draw)
    (email currentPassword newPassword : String) : AuthTxn TokenPair := do
  let user ← userByEmail platform email
  checkLockout user
  verifySecret settings platform.verifyPassword user currentPassword user.passwordHash
    invalidEmailOrPassword
  .require user.isActive
    (.app ⟨"ACCOUNT_DISABLED", "This account has been disabled", 403, []⟩)
  .require (newPassword ≠ currentPassword)
    (.app ⟨"SAME_PASSWORD", "New password must be different from the current password", 422, []⟩)
  let business ← loadBusiness user.businessId
  checkBusinessActive business
  let set := { user with
    passwordHash := some (platform.hashPassword draw.salt newPassword)
    mustChangePassword := false }
  openSession settings platform draw user set none

def loginPin (settings : AuthSettings) (platform : Platform) (draw : Draw)
    (businessCode : String) (staffId : Uuid) (pin : String) : AuthTxn TokenPair := do
  let business ← .read fun db =>
    db.businesses.find? fun business => business.businessCode = platform.upper businessCode
  let business ← .orFail (.app invalidCodeOrPin) business
  checkBusinessActive business
  let user ← .read fun db => (db.users.lookup staffId).filter fun user =>
    user.businessId = business.id ∧ user.role = .staff ∧ user.isActive ∧
      (user.pinHash.any fun hashed => hashed ≠ "")
  let user ← .orFail (.app invalidCodeOrPin) user
  checkLockout user
  verifySecret settings platform.verifyPin user pin user.pinHash invalidCodeOrPin
  openSession settings platform draw user user (some settings.staffAccessTokenExpireMinutes)

def liveToken (db : AuthDb) (tokenHash : String) : Option RefreshToken :=
  (db.refreshTokens.lookup tokenHash).filter fun token => token.revokedAt = none

def refreshTokens (settings : AuthSettings) (platform : Platform) (draw : Draw)
    (refreshToken : String) : AuthTxn TokenPair := do
  let tokenHash := platform.hashRefreshToken refreshToken
  let stored ← .read fun db => liveToken db tokenHash
  let stored ← .orFail
    (.app ⟨"INVALID_REFRESH_TOKEN", "Refresh token is invalid or revoked", 401, []⟩) stored
  let now ← authNow
  .require (now ≤ stored.expiresAt)
    (.app ⟨"REFRESH_TOKEN_EXPIRED", "Refresh token has expired", 401, []⟩)
  let user ← .read fun db => (db.users.lookup stored.userId).filter (·.isActive)
  let user ← .orFail (.app ⟨"ACCOUNT_DISABLED", "Account is disabled", 403, []⟩) user
  let now ← authNow
  let token := refreshTokenRow settings platform now user.id draw.refreshToken draw.ipAddress
  .save (.refreshTokens stored.tokenHash token.tokenHash)
    [.refreshToken stored.tokenHash, .refreshToken token.tokenHash]
    (AuthDb.write fun t => addToken token (revokeToken now stored.tokenHash t))
  let expiresMinutes :=
    if user.role = .staff then some settings.staffAccessTokenExpireMinutes else none
  pure
    { accessToken := createAccessToken settings now user.id user.businessId user.role expiresMinutes
      refreshToken := draw.refreshToken }

def logout (platform : Platform) (refreshToken : String) : AuthTxn Unit := do
  let stored ← .read fun db => liveToken db (platform.hashRefreshToken refreshToken)
  match stored with
  | none => pure ()
  | some stored => do
      let now ← authNow
      .save (.logout stored.tokenHash) [.refreshToken stored.tokenHash]
        (AuthDb.write (revokeToken now stored.tokenHash))

def getBusinessScoped (businessId : Uuid) (admin : AdminUser) : AuthTxn Business := do
  let business ← .read fun db => db.businesses.lookup businessId
  let business ← .orFail (.app (notFoundError "Business" (some businessId))) business
  .require (admin.role ≠ .onboarder ∨ (business.onboardedByAdminId = some admin.userId ∧
      business.onboardingCompletedAt = none))
    (.app (notFoundError "Business" (some businessId)))
  pure business

def liveTokensOf (userId : Uuid) (db : AuthDb) : List String :=
  (db.refreshTokens.filter fun token => token.userId = userId ∧ token.revokedAt = none).map
    (·.tokenHash)

def revokeLive (now : Instant) (live : List String) : AuthEntry := fun t =>
  { t with refreshTokens := t.refreshTokens.map fun token =>
      if token.tokenHash ∈ live ∧ token.revokedAt = none then { token with revokedAt := some now }
      else token }

def withTemporaryPassword (platform : Platform) (tempPassword salt : String)
    (user : BusinessUser) : BusinessUser :=
  { user with
    passwordHash := some (platform.hashPassword salt tempPassword)
    mustChangePassword := true
    failedLoginAttempts := 0
    lockedUntil := none }

-- The UPDATE revokes the tokens it sees when it starts, unless they are revoked meanwhile.
def resetBusinessUserPassword (platform : Platform) (businessId userId : Uuid) (admin : AdminUser)
    (tempPassword salt : String) : AuthTxn BusinessUser := do
  let _ ← getBusinessScoped businessId admin
  let target ← .read fun db => (db.users.lookup userId).filter fun user =>
    user.businessId = businessId ∧ user.role ∈ [.owner, .manager]
  let target ← .orFail (.app (notFoundError "User" (some userId))) target
  let set := withTemporaryPassword platform tempPassword salt target
  let now ← authNow
  let live ← .read (liveTokensOf target.id)
  .save (.resetPassword target.id live) (.user target.id :: live.map .refreshToken)
    (AuthDb.write fun t => revokeLive now live (updateUser target set t))
  let row ← .read fun db => db.users.lookup target.id
  .orFail .unhandled row

end NextgenBackend.Auth
