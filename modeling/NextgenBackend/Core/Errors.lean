import NextgenBackend.Shared.Database

namespace NextgenBackend

structure AppError where
  code : String
  message : String
  statusCode : Nat := 400
  details : List (String × String) := []
deriving DecidableEq, Repr

def normalizeNotFoundCode (resource : String) : String :=
  let words := resource.toList.splitOnP fun c => c.isWhitespace || c = '-' || c = '_'
  "_".intercalate ((words.filter (· ≠ [])).map fun w => String.ofList (w.map Char.toUpper))

def notFoundError (resource : String) (resourceId : Option Uuid) : AppError where
  code := normalizeNotFoundCode resource ++ "_NOT_FOUND"
  message := resource ++ " not found" ++ (resourceId.elim "" fun id => s!": {id}")
  statusCode := 404

def invalidTransitionError (current requested : String) (detail : Option String) : AppError where
  code := "INVALID_STATUS_TRANSITION"
  message := detail.getD (s!"Cannot transition from {current} to {requested}")
  statusCode := 422
  details := [("current_status", current), ("requested_status", requested)]

inductive Failure where
  | app (error : AppError)
  | integrity (violated : Constraint)
  | multipleResultsFound
  | unhandled
  | deliveryProviderTimeout
deriving DecidableEq, Repr

namespace Database

variable {db db' : Database} {f : Pending}

def write (f : Pending) (db : Database) : Except Failure Database :=
  match h : (f db.toTables).violation with
  | none => .ok
      { toTables := f db.toTables
        now := db.now
        jobs := db.jobs
        valid := Tables.violation_eq_none.mp h }
  | some c => .error (.integrity c)

theorem write_ok (h : db.write f = .ok db') : db'.toTables = f db.toTables ∧ db'.now = db.now := by
  unfold write at h
  split at h
  next =>
    obtain rfl := Except.ok.inj h
    exact ⟨rfl, rfl⟩
  next => cases h

theorem write_jobs (h : db.write f = .ok db') : db'.jobs = db.jobs := by
  unfold write at h
  split at h
  next =>
    obtain rfl := Except.ok.inj h
    rfl
  next => cases h

theorem write_error {e : Failure} (h : db.write f = .error e) :
    ∃ c, e = .integrity c ∧ (f db.toTables).violation = some c := by
  unfold write at h
  split at h
  next => cases h
  next c hc => exact ⟨c, (Except.error.inj h).symm, hc⟩

theorem write_of_valid (h : ∀ c : Constraint, c.Holds (f db.toTables)) :
    db.write f = .ok ⟨f db.toTables, db.now, db.jobs, h⟩ := by
  unfold write
  split
  next => rfl
  next c hc => exact absurd (h c) (Tables.violation_eq_some hc)

end Database

end NextgenBackend
