import NextgenBackend.Core.Session

namespace NextgenBackend

open Txn

structure AuthUser where
  userId : Uuid
  businessId : Uuid
  role : BusinessUserRole
deriving DecidableEq, Repr

def requireOwnerOrManager (user : AuthUser) : Handler Unit :=
  ensure (user.role = .owner ∨ user.role = .manager)
    ⟨"INSUFFICIENT_ROLE", "Required role: OWNER, MANAGER", 403, []⟩

def requireStaffOrAbove (user : AuthUser) : Handler Unit :=
  ensure (user.role = .staff ∨ user.role = .manager ∨ user.role = .owner)
    ⟨"INSUFFICIENT_ROLE", "Required role: STAFF, MANAGER, OWNER", 403, []⟩

def requirePosEnabled (user : AuthUser) : Handler Unit := do
  let posEnabled ← .read fun db => (db.businesses.lookup user.businessId).any (·.posEnabled)
  ensure posEnabled ⟨"POS_NOT_ENABLED", "POS is not enabled for this business", 409, []⟩

@[simp]
theorem readOnly_requireOwnerOrManager {user : AuthUser} :
    (requireOwnerOrManager user).ReadOnly fun _ => True :=
  readOnly_ensure

@[simp]
theorem readOnly_requireStaffOrAbove {user : AuthUser} :
    (requireStaffOrAbove user).ReadOnly fun _ => True :=
  readOnly_ensure

@[simp]
theorem readOnly_requirePosEnabled {user : AuthUser} :
    (requirePosEnabled user).ReadOnly fun _ => True :=
  readOnly_seq readOnly_read fun _ => readOnly_ensure

section Ownership

variable {α : Type} [Keyed α Uuid] {rows : Database → Table α} {owns : α → Bool} {label : String}
  {objId : Uuid}

def requireOwned (rows : Database → Table α) (owns : α → Bool) (label : String) (objId : Uuid) :
    Handler α := do
  let row ← .read fun db => ((rows db).lookup objId).filter owns
  found (notFoundError label (some objId)) row

theorem requireOwned_yields {db : Database} :
    (requireOwned rows owns label objId).Yields db fun row =>
      (rows db).lookup objId = some row ∧ owns row = true := by
  refine yields_orFail fun row hrow => ?_
  exact Option.filter_eq_some_iff.mp hrow

end Ownership

end NextgenBackend
