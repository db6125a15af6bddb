import NextgenBackend.Shared.Models

namespace NextgenBackend.Whatsapp

structure GraphAPIError where
  message : String
  statusCode : Option Nat := none
  errorCode : Option Int := none
  errorSubcode : Option Int := none
  rawMessage : Option String := none
deriving DecidableEq, Repr

namespace GraphAPIError

def isInvalidToken (exc : GraphAPIError) : Bool :=
  exc.errorCode = some 190

def mentions (needle text : String) : Bool :=
  needle.toList <:+: text.toLower.toList

def isAlreadyRegistered (exc : GraphAPIError) : Bool :=
  let text := (exc.rawMessage.filter (· ≠ "")).getD exc.message
  mentions "already" text && mentions "regist" text

end GraphAPIError

structure TokenData where
  accessToken : Option String
  expiresIn : Option Int := none
deriving DecidableEq, Repr

structure WabaData where
  id : Option String
deriving DecidableEq, Repr

-- A field is absent, null or a text.
structure PhoneData where
  displayPhoneNumber : Option (Option String) := none
  verifiedName : Option (Option String) := none
  qualityRating : Option (Option String) := none
  codeVerificationStatus : Option (Option String) := none
deriving DecidableEq, Repr

-- Meta's side, which answers each call as it likes.
structure MetaGraphClient where
  exchangeCodeForToken : String → Except GraphAPIError TokenData
  getWaba : String → String → Except GraphAPIError WabaData
  getPhoneNumber : String → String → Except GraphAPIError PhoneData
  subscribeApp : String → String → Except GraphAPIError Unit
  registerPhone : String → String → String → Except GraphAPIError Unit

-- Fernet, with the keys that the platform was started with.
structure Fernet where
  encrypt : String → String
  decrypt : String → Option String

-- No keys are configured in development.
abbrev Crypto := Option Fernet

def credentialPrefix : String := "enc1:"

def encryptCredential (crypto : Crypto) (plain : String) : String :=
  if plain = "" then plain else
    match crypto with
    | none => plain
    | some fernet => credentialPrefix ++ fernet.encrypt plain

structure CredentialDecryptionError where
  message : String
deriving DecidableEq, Repr

def decryptCredential (crypto : Crypto) (value : String) :
    Except CredentialDecryptionError String :=
  if ¬ credentialPrefix.toList <+: value.toList then .ok value else
    match crypto with
    | none => .error
        ⟨"Encrypted credential found but CREDENTIALS_ENCRYPTION_KEY is not configured"⟩
    | some fernet =>
        match fernet.decrypt (String.ofList (value.toList.drop credentialPrefix.length)) with
        | some plain => .ok plain
        | none => .error ⟨"Failed to decrypt credential — CREDENTIALS_ENCRYPTION_KEY may have " ++
            "changed and no configured CREDENTIALS_ENCRYPTION_KEYS_OLD entry can decrypt it either"⟩

theorem encryptCredential_ne {crypto : Crypto} {plain : String} (h : plain ≠ "") :
    encryptCredential crypto plain ≠ "" := by
  unfold encryptCredential
  rw [if_neg h]
  cases crypto with
  | none => exact h
  | some fernet => simp [credentialPrefix, String.append_eq_empty_iff]

end NextgenBackend.Whatsapp
