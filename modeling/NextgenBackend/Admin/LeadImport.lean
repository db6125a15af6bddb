import NextgenBackend.Library.Fallible
import NextgenBackend.Shared.Models

namespace NextgenBackend.Admin.LeadImport

open Fallible

-- How letters are lowered, in the program and in the database alike.
structure Casing where
  lower : String → String
  lower_eq_empty : ∀ s, lower s = "" ↔ s = ""

-- What a spreadsheet says of a business.
structure Details where
  businessName : Option String := none
  category : Option String := none
  city : Option String := none
  suburb : Option String := none
  address : Option String := none
  phone : Option String := none
  whatsapp : Option String := none
  email : Option String := none
  website : Option String := none
  sourceUrl : Option String := none
  preferredContactMethod : Option String := none
  verificationStatus : Option String := none
  leadStatus : Option String := none
  doNotContact : Bool := false
  researchNotes : Option String := none
deriving DecidableEq

structure Lead where
  id : Uuid
  details : Details
  importBatchId : Uuid
deriving DecidableEq

inductive RowStatus where
  | valid
  | invalid
  | duplicate
deriving DecidableEq

inductive DuplicateReason where
  | duplicateInBatch
  | duplicateEmail
  | duplicateNameCity
deriving DecidableEq

structure PreviewRow where
  rowNumber : ℕ
  status : RowStatus
  data : Details
  duplicateReason : Option DuplicateReason := none
  existingLeadId : Option Uuid := none
deriving DecidableEq

-- A line of a file: one without errors has a name.
structure Line where
  data : Details
  hasErrors : Bool
  named : hasErrors = false → data.businessName.getD "" ≠ ""

def previewRow (rowNumber : ℕ) (line : Line) : PreviewRow where
  rowNumber := rowNumber
  status := if line.hasErrors then .invalid else .valid
  data := line.data

-- The first line of a file is its header.
def previewRows (file : List Line) : List PreviewRow :=
  file.zipIdx.map fun (line, i) => previewRow (i + 2) line

inductive ImportError where
  | multipleResultsFound
deriving DecidableEq

def scalarOneOrNone : List Uuid → Except ImportError (Option Uuid)
  | [] => .ok none
  | [id] => .ok (some id)
  | _ => .error .multipleResultsFound

section Duplicates

variable (c : Casing)

def emailKey (data : Details) : String := c.lower (data.email.getD "")

def nameCity (data : Details) : String × String :=
  (c.lower (data.businessName.getD ""), c.lower (data.city.getD ""))

-- A column without a value equals nothing.
def columnIs (column : Option String) (key : String) : Bool :=
  column.any fun value => c.lower value = key

def withEmail (leads : List Lead) (email : String) : List Uuid :=
  (leads.filter fun lead => columnIs c lead.details.email email).map (·.id)

def withNameCity (leads : List Lead) (key : String × String) : List Uuid :=
  (leads.filter fun lead => columnIs c lead.details.businessName key.1 &&
    columnIs c lead.details.city key.2).map (·.id)

-- The keys of the rows of the file that matched nothing so far.
structure Seen where
  emails : List String := []
  nameCities : List (String × String) := []

def inBatch (seen : Seen) (data : Details) : Bool :=
  (emailKey c data ≠ "" && seen.emails.contains (emailKey c data)) ||
    ((nameCity c data).1 ≠ "" && seen.nameCities.contains (nameCity c data))

def leadByEmail (leads : List Lead) (data : Details) : Except ImportError (Option Uuid) :=
  if emailKey c data ≠ "" then scalarOneOrNone (withEmail c leads (emailKey c data)) else .ok none

def leadByNameCity (leads : List Lead) (data : Details) : Except ImportError (Option Uuid) :=
  if (nameCity c data).1 ≠ "" ∧ (nameCity c data).2 ≠ "" then
    scalarOneOrNone (withNameCity c leads (nameCity c data))
  else .ok none

-- The stored lead that a row matches, by its email before its name and city.
def findExisting (leads : List Lead) (data : Details) :
    Except ImportError (Option (Uuid × DuplicateReason)) := do
  match ← leadByEmail c leads data with
  | some id => return some (id, .duplicateEmail)
  | none =>
      let byNameCity ← leadByNameCity c leads data
      return byNameCity.map (·, .duplicateNameCity)

def Seen.add (seen : Seen) (data : Details) : Seen where
  emails := if emailKey c data ≠ "" then emailKey c data :: seen.emails else seen.emails
  nameCities :=
    if (nameCity c data).1 ≠ "" then nameCity c data :: seen.nameCities else seen.nameCities

def markRows (leads : List Lead) : Seen → List PreviewRow → Except ImportError (List PreviewRow)
  | _, [] => .ok []
  | seen, row :: rows =>
      if row.status ≠ .valid then (markRows leads seen rows).map (row :: ·)
      else if inBatch c seen row.data then
        (markRows leads seen rows).map
          ({ row with status := .duplicate, duplicateReason := some .duplicateInBatch } :: ·)
      else do
        match ← findExisting c leads row.data with
        | some (id, reason) =>
            (markRows leads seen rows).map
              ({ row with
                status := .duplicate
                duplicateReason := some reason
                existingLeadId := some id } :: ·)
        | none => (markRows leads (seen.add c row.data) rows).map (row :: ·)

def findDuplicates (leads : List Lead) (rows : List PreviewRow) :
    Except ImportError (List PreviewRow) :=
  markRows c leads {} rows

end Duplicates

inductive DuplicateStrategy where
  | skip
  | update
  | createAnyway
deriving DecidableEq

structure Batch where
  id : Uuid
  rows : List PreviewRow
  confirmed : Bool := false

structure Store where
  leads : List Lead := []
  batches : List Batch := []
  nextId : Uuid := 0

-- Only what the file says replaces what is stored.
def given (new old : Option String) : Option String := if new.getD "" = "" then old else new

def updateDetails (data stored : Details) : Details :=
  { stored with
    category := given data.category stored.category
    city := given data.city stored.city
    suburb := given data.suburb stored.suburb
    address := given data.address stored.address
    phone := given data.phone stored.phone
    whatsapp := given data.whatsapp stored.whatsapp
    email := given data.email stored.email
    website := given data.website stored.website
    sourceUrl := given data.sourceUrl stored.sourceUrl
    preferredContactMethod := given data.preferredContactMethod stored.preferredContactMethod
    verificationStatus := given data.verificationStatus stored.verificationStatus
    researchNotes := given data.researchNotes stored.researchNotes
    doNotContact := data.doNotContact || stored.doNotContact }

def createLead (batchId : Uuid) (data : Details) (store : Store) : Store :=
  { store with
    leads := store.leads ++ [⟨store.nextId, data, batchId⟩]
    nextId := store.nextId + 1 }

def updateLead (batchId leadId : Uuid) (data : Details) (store : Store) : Store :=
  { store with
    leads := store.leads.map fun lead =>
      if lead.id = leadId then ⟨lead.id, updateDetails data lead.details, batchId⟩ else lead }

def confirmRow (batchId : Uuid) (skipRowNumbers : List ℕ) (strategy : DuplicateStrategy)
    (store : Store) (row : PreviewRow) : Store :=
  if skipRowNumbers.contains row.rowNumber || row.status = .invalid then store
  else if row.status = .duplicate then
    match strategy, row.existingLeadId with
    | .skip, _ => store
    | .update, some leadId => updateLead batchId leadId row.data store
    | _, _ => createLead batchId row.data store
  else createLead batchId row.data store

def applyConfirm (batch : Batch) (skipRowNumbers : List ℕ) (strategy : DuplicateStrategy)
    (store : Store) : Store :=
  let store := batch.rows.foldl (confirmRow batch.id skipRowNumbers strategy) store
  { store with
    batches := store.batches.map fun other =>
      if other.id = batch.id then { other with confirmed := true } else other }

inductive Event where
  | importPreview (file : List Line)
  | importConfirm (batchId : Uuid) (skipRowNumbers : List ℕ) (strategy : DuplicateStrategy)

-- A request that raises leaves nothing behind.
def step (c : Casing) (store : Store) : Event → Store
  | .importPreview file =>
      match findDuplicates c store.leads (previewRows file) with
      | .ok rows =>
          { store with
            batches := store.batches ++ [{ id := store.nextId, rows := rows }]
            nextId := store.nextId + 1 }
      | .error _ => store
  | .importConfirm batchId skipRowNumbers strategy =>
      match store.batches.find? fun batch => batch.id = batchId with
      | some batch =>
          if batch.confirmed then store else applyConfirm batch skipRowNumbers strategy store
      | none => store

def run (c : Casing) (events : List Event) : Store := events.foldl (step c) {}

section Meaning

variable (c : Casing)

def SameEmail (a b : Details) : Prop := emailKey c a = emailKey c b ∧ emailKey c b ≠ ""

def SameNameCity (a b : Details) : Prop :=
  nameCity c a = nameCity c b ∧ (nameCity c b).1 ≠ "" ∧ (nameCity c b).2 ≠ ""

instance (a b : Details) : Decidable (SameEmail c a b) := inferInstanceAs (Decidable (_ ∧ _))

instance (a b : Details) : Decidable (SameNameCity c a b) := inferInstanceAs (Decidable (_ ∧ _))

def Same (a b : Details) : Prop := SameEmail c a b ∨ SameNameCity c a b

instance (a b : Details) : Decidable (Same c a b) := inferInstanceAs (Decidable (_ ∨ _))

def Stored (leads : List Lead) (data : Details) : Prop := ∃ lead ∈ leads, Same c lead.details data

instance (leads : List Lead) (data : Details) : Decidable (Stored c leads data) :=
  inferInstanceAs (Decidable (∃ lead ∈ leads, _))

-- What a row is a duplicate of: a stored lead, or a valid row before it.
def Duplicate (leads : List Lead) (earlier : List Details) (data : Details) : Prop :=
  Stored c leads data ∨ ∃ other ∈ earlier, Same c other data

instance (leads : List Lead) (earlier : List Details) (data : Details) :
    Decidable (Duplicate c leads earlier data) :=
  inferInstanceAs (Decidable (_ ∨ ∃ other ∈ earlier, _))

-- Each valid row is marked as a duplicate where it is one; those before it, the last one first.
def RightFrom (leads : List Lead) : List Details → List PreviewRow → List PreviewRow → Prop
  | _, [], marked => marked = []
  | _, _ :: _, [] => False
  | earlier, row :: rows, mark :: marked =>
      if row.status = .valid then
        mark.status = (if Duplicate c leads earlier row.data then .duplicate else .valid) ∧
          RightFrom leads (row.data :: earlier) rows marked
      else mark = row ∧ RightFrom leads earlier rows marked

-- The rows that are no duplicates themselves.
def firsts (leads : List Lead) : List Details → List Details
  | [] => []
  | data :: earlier =>
      if Duplicate c leads earlier data then firsts leads earlier
      else data :: firsts leads earlier

-- Alike to one of them, also by its name alone where neither has a city.
def LikeFirst (leads : List Lead) (earlier : List Details) (data : Details) : Prop :=
  ∃ first ∈ firsts c leads earlier,
    SameEmail c first data ∨ nameCity c first = nameCity c data ∧ (nameCity c data).1 ≠ ""

instance (leads : List Lead) (earlier : List Details) (data : Details) :
    Decidable (LikeFirst c leads earlier data) :=
  inferInstanceAs (Decidable (∃ first ∈ firsts c leads earlier, _))

-- The leads that share its email or its name and city are told apart by no lookup.
def Unambiguous (leads : List Lead) (data : Details) : Prop :=
  (leads.filter fun lead => SameEmail c lead.details data).length ≤ 1 ∧
    ((∀ lead ∈ leads, ¬ SameEmail c lead.details data) →
      (leads.filter fun lead => SameNameCity c lead.details data).length ≤ 1)

structure Settled (leads : List Lead) (earlier : List Details) (data : Details) : Prop where
  unambiguous : ¬ LikeFirst c leads earlier data → Unambiguous c leads data
  remembered : (∃ other ∈ earlier, Same c other data) →
    Stored c leads data ∨ LikeFirst c leads earlier data
  meant : LikeFirst c leads earlier data → Duplicate c leads earlier data

def SettledFrom (leads : List Lead) : List Details → List PreviewRow → Prop
  | _, [] => True
  | earlier, row :: rows =>
      if row.status = .valid then
        Settled c leads earlier row.data ∧ SettledFrom leads (row.data :: earlier) rows
      else SettledFrom leads earlier rows

end Meaning

section Lookups

variable {c : Casing} {leads : List Lead} {data other : Details} {seen : Seen}
  {earlier : List Details}

theorem columnIs_iff {column : Option String} {key : String} (h : key ≠ "") :
    columnIs c column key = true ↔ c.lower (column.getD "") = key := by
  cases column with
  | none =>
      have hempty : c.lower "" = "" := (c.lower_eq_empty "").mpr rfl
      simp [columnIs, hempty, h.symm]
  | some value => simp [columnIs]

theorem withEmail_eq (h : emailKey c data ≠ "") : withEmail c leads (emailKey c data) =
    (leads.filter fun lead => SameEmail c lead.details data).map (·.id) := by
  unfold withEmail
  refine congrArg (List.map _) (List.filter_congr fun lead _ => ?_)
  rw [Bool.eq_iff_iff, columnIs_iff h, decide_eq_true_eq]
  exact (and_iff_left h).symm

theorem withNameCity_eq (hname : (nameCity c data).1 ≠ "") (hcity : (nameCity c data).2 ≠ "") :
    withNameCity c leads (nameCity c data) =
      (leads.filter fun lead => SameNameCity c lead.details data).map (·.id) := by
  unfold withNameCity
  refine congrArg (List.map _) (List.filter_congr fun lead _ => ?_)
  rw [Bool.eq_iff_iff, Bool.and_eq_true, columnIs_iff hname, columnIs_iff hcity, decide_eq_true_eq,
    SameNameCity, Prod.ext_iff]
  exact (and_iff_left ⟨hname, hcity⟩).symm

theorem scalarOneOrNone_eq {ids : List Uuid} (h : ids.length ≤ 1) :
    scalarOneOrNone ids = .ok ids.head? := by
  match ids, h with
  | [], _ => rfl
  | [id], _ => rfl

theorem scalarOneOrNone_error {ids : List Uuid} (h : ¬ ids.length ≤ 1) :
    scalarOneOrNone ids = .error .multipleResultsFound := by
  match ids with
  | [] => exact absurd (Nat.zero_le 1) h
  | [_] => exact absurd le_rfl h
  | _ :: _ :: _ => rfl

theorem leadByEmail_eq : leadByEmail c leads data =
    scalarOneOrNone ((leads.filter fun lead => SameEmail c lead.details data).map (·.id)) := by
  unfold leadByEmail
  split_ifs with h
  · rw [withEmail_eq h]
  · have hnone : leads.filter (fun lead => SameEmail c lead.details data) = [] :=
      List.filter_eq_nil_iff.mpr fun lead _ hsame => h (of_decide_eq_true hsame).2
    rw [hnone]
    rfl

theorem leadByNameCity_eq : leadByNameCity c leads data =
    scalarOneOrNone ((leads.filter fun lead => SameNameCity c lead.details data).map (·.id)) := by
  unfold leadByNameCity
  split_ifs with h
  · rw [withNameCity_eq h.1 h.2]
  · have hnone : leads.filter (fun lead => SameNameCity c lead.details data) = [] :=
      List.filter_eq_nil_iff.mpr fun lead _ hsame => h (of_decide_eq_true hsame).2
    rw [hnone]
    rfl

theorem head?_filter_eq_none {p : Lead → Prop} [DecidablePred p] :
    ((leads.filter fun lead => p lead).map (·.id)).head? = none ↔ ∀ lead ∈ leads, ¬ p lead := by
  rw [List.head?_eq_none_iff, List.map_eq_nil_iff, List.filter_eq_nil_iff]
  simp only [decide_eq_true_eq]

theorem stored_iff : Stored c leads data ↔
    ¬ ((∀ lead ∈ leads, ¬ SameEmail c lead.details data) ∧
      ∀ lead ∈ leads, ¬ SameNameCity c lead.details data) := by
  constructor
  · rintro ⟨lead, hlead, hsame | hsame⟩ ⟨hemail, hname⟩
    · exact hemail lead hlead hsame
    · exact hname lead hlead hsame
  · intro h
    by_contra hnot
    exact h ⟨fun lead hlead hsame => hnot ⟨lead, hlead, .inl hsame⟩,
      fun lead hlead hsame => hnot ⟨lead, hlead, .inr hsame⟩⟩

-- The lookups raise where they cannot tell leads apart, and else find the row's lead if any.
theorem findExisting_ok (h : Unambiguous c leads data) :
    ∃ found, findExisting c leads data = .ok found ∧
      (found.isSome = true ↔ Stored c leads data) := by
  obtain ⟨honce, hcity⟩ := h
  have hemail := @leadByEmail_eq c leads data
  rw [scalarOneOrNone_eq (by rwa [List.length_map])] at hemail
  unfold findExisting
  rw [hemail, stored_iff]
  cases hfound : ((leads.filter fun lead => SameEmail c lead.details data).map (·.id)).head? with
  | some id =>
      refine ⟨some (id, .duplicateEmail), rfl, iff_of_true rfl fun hnot => ?_⟩
      rw [head?_filter_eq_none.mpr hnot.1] at hfound
      cases hfound
  | none =>
      have hnone := head?_filter_eq_none.mp hfound
      have hname := @leadByNameCity_eq c leads data
      rw [scalarOneOrNone_eq (by rw [List.length_map]; exact hcity hnone)] at hname
      refine ⟨_, by rw [hname]; rfl, ?_⟩
      rw [Option.isSome_map, Option.isSome_iff_ne_none, Ne, head?_filter_eq_none,
        and_iff_right hnone]

theorem findExisting_error (h : ¬ Unambiguous c leads data) :
    findExisting c leads data = .error .multipleResultsFound := by
  have hemail := @leadByEmail_eq c leads data
  have hname := @leadByNameCity_eq c leads data
  unfold findExisting
  by_cases honce : (leads.filter fun lead => SameEmail c lead.details data).length ≤ 1
  · rw [scalarOneOrNone_eq (by rwa [List.length_map])] at hemail
    obtain ⟨hnone, hcity⟩ := Classical.not_imp.mp fun hcity => h ⟨honce, hcity⟩
    rw [head?_filter_eq_none.mpr hnone] at hemail
    rw [scalarOneOrNone_error (by rwa [List.length_map])] at hname
    rw [hemail, hname]
    rfl
  · rw [scalarOneOrNone_error (by rwa [List.length_map])] at hemail
    rw [hemail]
    rfl

end Lookups

section Rows

variable {c : Casing} {leads : List Lead} {data : Details} {seen : Seen}
  {earlier : List Details} {rows marked : List PreviewRow}

-- What is kept of the rows before are the keys of those that matched nothing.
structure Remembers (c : Casing) (leads : List Lead) (earlier : List Details) (seen : Seen) :
    Prop where
  emails : ∀ key, key ∈ seen.emails ↔
    key ≠ "" ∧ ∃ first ∈ firsts c leads earlier, emailKey c first = key
  nameCities : ∀ key, key ∈ seen.nameCities ↔
    key.1 ≠ "" ∧ ∃ first ∈ firsts c leads earlier, nameCity c first = key

theorem remembers_nil : Remembers c leads [] {} where
  emails _ := by simp [firsts]
  nameCities _ := by simp [firsts]

theorem inBatch_iff (h : Remembers c leads earlier seen) :
    inBatch c seen data = true ↔ LikeFirst c leads earlier data := by
  simp only [inBatch, Bool.or_eq_true, Bool.and_eq_true, decide_eq_true_eq,
    List.contains_iff_mem, h.emails, h.nameCities, LikeFirst, SameEmail]
  constructor
  · rintro (⟨hkey, -, first, hfirst, heq⟩ | ⟨hkey, -, first, hfirst, heq⟩)
    · exact ⟨first, hfirst, .inl ⟨heq, hkey⟩⟩
    · exact ⟨first, hfirst, .inr ⟨heq, hkey⟩⟩
  · rintro ⟨first, hfirst, ⟨heq, hkey⟩ | ⟨heq, hkey⟩⟩
    · exact .inl ⟨hkey, hkey, first, hfirst, heq⟩
    · exact .inr ⟨hkey, hkey, first, hfirst, heq⟩

theorem Remembers.skip (h : Remembers c leads earlier seen)
    (hdup : Duplicate c leads earlier data) : Remembers c leads (data :: earlier) seen := by
  have hfirsts : firsts c leads (data :: earlier) = firsts c leads earlier := if_pos hdup
  exact ⟨hfirsts ▸ h.emails, hfirsts ▸ h.nameCities⟩

theorem mem_added {κ : Type} {key new : κ} {keys : List κ} {found : Prop} (p : κ → Prop)
    [Decidable (p new)] (h : key ∈ keys ↔ p key ∧ found) :
    key ∈ (if p new then new :: keys else keys) ↔ p key ∧ (new = key ∨ found) := by
  split_ifs with hnew
  · rw [List.mem_cons, h, and_or_left]
    exact or_congr_left ⟨fun heq => ⟨heq ▸ hnew, heq.symm⟩, fun heq => heq.2.symm⟩
  · rw [h, and_or_left, or_iff_right]
    rintro ⟨hp, rfl⟩
    exact hnew hp

theorem Remembers.add (h : Remembers c leads earlier seen)
    (hdup : ¬ Duplicate c leads earlier data) :
    Remembers c leads (data :: earlier) (seen.add c data) := by
  have hfirsts : firsts c leads (data :: earlier) = data :: firsts c leads earlier := if_neg hdup
  constructor
  · intro key
    rw [hfirsts, List.exists_mem_cons_iff]
    exact mem_added (· ≠ "") (h.emails key)
  · intro key
    rw [hfirsts, List.exists_mem_cons_iff]
    exact mem_added (fun key : String × String => key.1 ≠ "") (h.nameCities key)

theorem gives_marked {x : Except ImportError (List PreviewRow)} {row mark : PreviewRow}
    (hvalid : row.status = .valid) :
    Gives (x.map (mark :: ·)) (RightFrom c leads earlier (row :: rows)) ↔
      mark.status = (if Duplicate c leads earlier row.data then .duplicate else .valid) ∧
        Gives x (RightFrom c leads (row.data :: earlier) rows) := by
  rw [gives_map, ← gives_and]
  simp only [RightFrom, if_pos hvalid]

theorem settled_of_likeFirst (hlike : LikeFirst c leads earlier data) :
    Settled c leads earlier data ↔ Duplicate c leads earlier data :=
  ⟨fun h => h.meant hlike, fun h => ⟨fun hnot => absurd hlike hnot, fun _ => .inr hlike, fun _ => h⟩⟩

theorem settled_of_stored (hlike : ¬ LikeFirst c leads earlier data)
    (hone : Unambiguous c leads data) (h : Stored c leads data) : Settled c leads earlier data :=
  ⟨fun _ => hone, fun _ => .inl h, fun hnot => absurd hnot hlike⟩

theorem settled_of_not_stored (hlike : ¬ LikeFirst c leads earlier data)
    (hone : Unambiguous c leads data) (h : ¬ Stored c leads data) :
    Settled c leads earlier data ↔ ¬ Duplicate c leads earlier data := by
  constructor
  · rintro hsettled (hstored | hsame)
    · exact h hstored
    · exact (hsettled.remembered hsame).elim h hlike
  · intro hdup
    exact ⟨fun _ => hone, fun hsame => absurd (.inr hsame) hdup, fun hnot => absurd hnot hlike⟩

theorem markRows_right_iff (h : Remembers c leads earlier seen) :
    Gives (markRows c leads seen rows) (RightFrom c leads earlier rows) ↔
      SettledFrom c leads earlier rows := by
  induction rows generalizing earlier seen with
  | nil => simp [markRows, RightFrom, SettledFrom]
  | cons row rows ih =>
      unfold markRows SettledFrom
      by_cases hvalid : row.status = .valid
      · rw [if_neg (not_not.mpr hvalid), if_pos hvalid]
        by_cases hlike : LikeFirst c leads earlier row.data
        · -- A match in the file: it has to be one of the kind that is meant.
          rw [if_pos ((inBatch_iff h).mpr hlike), gives_marked hvalid, settled_of_likeFirst hlike]
          by_cases hdup : Duplicate c leads earlier row.data
          · rw [if_pos hdup, ih (h.skip hdup)]
            exact and_congr_left fun _ => iff_of_true rfl hdup
          · rw [if_neg hdup]
            exact iff_of_false (fun hmark => nomatch hmark.1) fun hsettled => hdup hsettled.1
        · rw [if_neg (mt (inBatch_iff h).mp hlike)]
          by_cases hone : Unambiguous c leads row.data
          · obtain ⟨found, hfound, hstored⟩ := findExisting_ok hone
            rw [hfound]
            cases found with
            | some existing =>
                have hdup : Duplicate c leads earlier row.data := .inl (hstored.mp rfl)
                simp only [bind, Except.bind, gives_marked hvalid, if_pos hdup, true_and,
                  ih (h.skip hdup)]
                exact (and_iff_right (settled_of_stored hlike hone (hstored.mp rfl))).symm
            | none =>
                have hnot : ¬ Stored c leads row.data := fun hs => by cases hstored.mpr hs
                rw [settled_of_not_stored hlike hone hnot]
                simp only [bind, Except.bind, gives_marked hvalid, hvalid]
                by_cases hdup : Duplicate c leads earlier row.data
                · rw [if_pos hdup]
                  exact iff_of_false (fun hmark => nomatch hmark.1) fun hsettled => hsettled.1 hdup
                · rw [if_neg hdup, ih (h.add hdup)]
                  exact and_congr_left fun _ => iff_of_true rfl hdup
          · -- The lookup raises.
            rw [findExisting_error hone]
            refine iff_of_false (fun hgives => ?_) fun hsettled => ?_
            · exact gives_error.mp hgives
            · exact hone (hsettled.1.unambiguous hlike)
      · rw [if_pos hvalid, if_neg hvalid, gives_map, ← ih h]
        simp only [RightFrom, if_neg hvalid, true_and]

end Rows

-- Every valid row is marked without an exception, and marked as a duplicate where it is one.
def Right (c : Casing) (leads : List Lead) (file : List Line) : Prop :=
  Gives (findDuplicates c leads (previewRows file)) (RightFrom c leads [] (previewRows file))

theorem findDuplicates_right_iff (c : Casing) (events : List Event) (file : List Line) :
    Right c (run c events).leads file ↔ SettledFrom c (run c events).leads [] (previewRows file) :=
  markRows_right_iff remembers_nil

def asciiCasing : Casing where
  lower s := String.ofList (s.toList.map Char.toLower)
  lower_eq_empty s := by
    rw [← String.toList_inj, String.toList_ofList, ← String.toList_inj]
    exact List.map_eq_nil_iff

def acme : Line where
  data := { businessName := some "Acme", city := some "Durban", email := some "info@acme.co.za" }
  hasErrors := false
  named _ := by decide

-- One business is imported, and imported again although it is marked as a duplicate.
def importedTwice : List Event := [
  .importPreview [acme], .importConfirm 0 [] .skip,
  .importPreview [acme], .importConfirm 2 [] .createAnyway]

theorem third_preview_raises :
    findDuplicates asciiCasing (run asciiCasing importedTwice).leads (previewRows [acme]) =
        .error .multipleResultsFound ∧
      ¬ Right asciiCasing (run asciiCasing importedTwice).leads [acme] := by
  have hraises : findDuplicates asciiCasing (run asciiCasing importedTwice).leads
      (previewRows [acme]) = .error .multipleResultsFound := by rfl
  refine ⟨hraises, fun hright => ?_⟩
  rw [Right, hraises] at hright
  exact gives_error.mp hright

end NextgenBackend.Admin.LeadImport
