import NextgenBackend.ExternalOrders.AdaptedRows

namespace NextgenBackend.ExternalOrders.Adapters

def lineRows (orders : List CanonicalExternalOrder) : List Nat :=
  orders.flatMap fun order => order.lines.map (·.sourceRow)

def issueRows (issues : List RowIssue) : List Nat :=
  issues.map (·.row)

section Rows

variable (py : Standard) (resolved : Dict String String)

def nonBlank (entries : List (Row × Nat)) : List Nat :=
  (entries.filter fun entry => ¬ IsBlank resolved entry.1).map (·.2)

-- The rows that carry an order id, in the order of the file.
def carrying (k : String) (entries : List (Row × Nat)) : List Row :=
  (entries.filter fun entry => orderId resolved entry.1 = k).map (·.1)

def IsRejected (k : String) (entries : List (Row × Nat)) : Prop :=
  ∃ entry ∈ entries, orderId resolved entry.1 = k ∧
    entry.2 ∈ issueRows (adapted py resolved entries).issues

variable {py resolved} {entries : List (Row × Nat)} {entry : Row × Nat} {k : String}

theorem nonBlank_append :
    nonBlank resolved (entries ++ [entry]) = nonBlank resolved entries ++
      if IsBlank resolved entry.1 then [] else [entry.2] := by
  unfold nonBlank
  rw [List.filter_append, List.map_append]
  by_cases h : IsBlank resolved entry.1
  · simp [h]
  · rw [List.filter_singleton, decide_eq_true h, if_neg h]
    rfl

theorem carrying_append :
    carrying resolved k (entries ++ [entry]) = carrying resolved k entries ++
      if orderId resolved entry.1 = k then [entry.1] else [] := by
  unfold carrying
  rw [List.filter_append, List.map_append]
  by_cases h : orderId resolved entry.1 = k <;> simp [h]

theorem mem_carrying {row : Row} :
    row ∈ carrying resolved k entries ↔
      ∃ entry ∈ entries, orderId resolved entry.1 = k ∧ entry.1 = row := by
  simp [carrying, and_assoc]

-- A row leaves its number with the line or with the issue it becomes.
theorem rows_perm :
    (lineRows (adapted py resolved entries).grouped.values ++
      issueRows (adapted py resolved entries).issues).Perm (nonBlank resolved entries) := by
  induction entries using List.reverseRecOn with
  | nil => exact List.Perm.refl _
  | append_singleton entries entry ih =>
      rw [adapted_append, nonBlank_append]
      generalize adapted py resolved entries = state at ih ⊢
      rcases step_cases py resolved state entry with
        ⟨hblank, hstep⟩ | ⟨order, hadmitted, hstep⟩ | ⟨hblank, -, hstep⟩
      · rw [hstep, if_pos hblank, List.append_nil]
        exact ih
      · rw [hstep, if_neg (not_isBlank_of_admitted hadmitted)]
        obtain ⟨quantity, -, hlines⟩ := admitted_lines hadmitted
        have hgrown : (lineRows (state.grouped.set (orderId resolved entry.1) order).values).Perm
            (lineRows state.grouped.values ++ [entry.2]) := by
          refine Dict.flatMap_set ?_
          rw [hlines, List.map_append]
          cases state.grouped.lookup (orderId resolved entry.1) <;> rfl
        refine (hgrown.append_right _).trans ?_
        rw [List.append_assoc]
        refine (List.perm_append_comm.append_left _).trans ?_
        rw [← List.append_assoc]
        exact ih.append_right _
      · rw [hstep, if_neg hblank]
        have hissues : issueRows (state.reject entry.2 (complaint py resolved entry.1)).issues =
            issueRows state.issues ++ [entry.2] := by
          simp [issueRows, Adapted.reject]
        rw [hissues, ← List.append_assoc]
        exact ih.append_right _

theorem mem_of_issue {row : Nat} (h : row ∈ issueRows (adapted py resolved entries).issues) :
    row ∈ entries.map (·.2) := by
  have hnonblank : row ∈ nonBlank resolved entries :=
    rows_perm.subset (List.mem_append_right _ h)
  exact ((List.filter_sublist).map _).subset hnonblank

-- An order begins with the first complete row whose date can be read.
theorem lookup_isSome_iff (hk : k ≠ "") :
    ((adapted py resolved entries).grouped.lookup k).isSome ↔
      ∃ row ∈ carrying resolved k entries, IsComplete resolved row ∧ IsDated py resolved row := by
  induction entries using List.reverseRecOn with
  | nil => simp [carrying]
  | append_singleton entries entry ih =>
      rw [lookup_append, carrying_append]
      rcases eq_or_ne k (orderId resolved entry.1) with rfl | hne
      · rw [if_pos rfl, if_pos rfl, Option.isSome_or, Bool.or_eq_true, admitted_isSome_iff]
        constructor
        · rintro (⟨-, hcomplete, hdated | hsome⟩ | hsome)
          · exact ⟨entry.1, by simp, hcomplete, hdated⟩
          · obtain ⟨row, hrow, hready⟩ := ih.mp hsome
            exact ⟨row, List.mem_append_left _ hrow, hready⟩
          · obtain ⟨row, hrow, hready⟩ := ih.mp hsome
            exact ⟨row, List.mem_append_left _ hrow, hready⟩
        · rintro ⟨row, hrow, hcomplete, hdated⟩
          rcases List.mem_append.mp hrow with hrow | hrow
          · exact .inr (ih.mpr ⟨row, hrow, hcomplete, hdated⟩)
          · rw [List.mem_singleton] at hrow
            subst hrow
            exact .inl ⟨hk, hcomplete, .inl hdated⟩
      · rw [if_neg hne, if_neg hne.symm, List.append_nil, ih]

-- A row is turned down when it is not complete, or undated with no order to join.
theorem rejected_append (hnodup : ((entries ++ [entry]).map (·.2)).Nodup) (hk : k ≠ "") :
    IsRejected py resolved k (entries ++ [entry]) ↔ IsRejected py resolved k entries ∨
      (orderId resolved entry.1 = k ∧ (¬ IsComplete resolved entry.1 ∨
        (¬ IsDated py resolved entry.1 ∧
          ¬ ((adapted py resolved entries).grouped.lookup k).isSome))) := by
  have hfresh : entry.2 ∉ entries.map (·.2) := by
    rw [List.map_append, List.map_singleton] at hnodup
    exact fun hmem => (List.nodup_append.mp hnodup).2.2 _ hmem _ (List.mem_singleton_self _) rfl
  have hissues {row : Nat} :
      row ∈ issueRows (adapted py resolved (entries ++ [entry])).issues ↔
        row ∈ issueRows (adapted py resolved entries).issues ∨
          (row = entry.2 ∧ ¬ IsBlank resolved entry.1 ∧ admitted py resolved
            ((adapted py resolved entries).grouped.lookup (orderId resolved entry.1)) entry =
              none) := by
    rw [adapted_append]
    rcases step_cases py resolved (adapted py resolved entries) entry with
      ⟨hblank, hstep⟩ | ⟨order, hadmitted, hstep⟩ | ⟨hblank, hadmitted, hstep⟩
    · simp [hstep, hblank]
    · simp [hstep, hadmitted, Adapted.put]
    · simp [hstep, hadmitted, hblank, issueRows, Adapted.reject]
  have hrejected (hid : orderId resolved entry.1 = k) :
      (¬ IsBlank resolved entry.1 ∧ admitted py resolved
        ((adapted py resolved entries).grouped.lookup (orderId resolved entry.1)) entry = none) ↔
      (¬ IsComplete resolved entry.1 ∨ (¬ IsDated py resolved entry.1 ∧
        ¬ ((adapted py resolved entries).grouped.lookup k).isSome)) := by
    have hid' : orderId resolved entry.1 ≠ "" := hid ▸ hk
    have hblank : ¬ IsBlank resolved entry.1 := fun h => hid' h.1
    rw [← Option.not_isSome_iff_eq_none, admitted_isSome_iff, hid]
    simp only [hblank, not_false_iff, true_and, hk, ne_eq]
    rw [not_and_or, not_or]
  constructor
  · rintro ⟨row, hmem, hid, hissue⟩
    rcases hissues.mp hissue with hissue | ⟨hrow, hturned⟩
    · rcases List.mem_append.mp hmem with hmem | hmem
      · exact .inl ⟨row, hmem, hid, hissue⟩
      · rw [List.mem_singleton] at hmem
        exact absurd (mem_of_issue (hmem ▸ hissue)) hfresh
    · rcases List.mem_append.mp hmem with hmem | hmem
      · exact absurd (hrow ▸ List.mem_map_of_mem (f := (·.2)) hmem) hfresh
      · rw [List.mem_singleton] at hmem
        subst hmem
        exact .inr ⟨hid, (hrejected hid).mp hturned⟩
  · rintro (⟨row, hmem, hid, hissue⟩ | ⟨hid, hturned⟩)
    · exact ⟨row, List.mem_append_left _ hmem, hid, hissues.mpr (.inl hissue)⟩
    · exact ⟨entry, by simp, hid, hissues.mpr (.inr ⟨rfl, (hrejected hid).mpr hturned⟩)⟩

theorem rejected_iff (hnodup : (entries.map (·.2)).Nodup) (hk : k ≠ "") :
    IsRejected py resolved k entries ↔
      (∃ row ∈ carrying resolved k entries, ¬ IsComplete resolved row) ∨
        ∃ row ∈ (carrying resolved k entries).head?, ¬ IsDated py resolved row := by
  induction entries using List.reverseRecOn with
  | nil => simp [IsRejected, carrying]
  | append_singleton entries entry ih =>
      have hrest : (entries.map (·.2)).Nodup := by
        rw [List.map_append] at hnodup
        exact (List.nodup_append.mp hnodup).1
      rw [rejected_append hnodup hk, carrying_append, ih hrest, lookup_isSome_iff hk]
      rcases eq_or_ne (orderId resolved entry.1) k with hid | hne
      swap
      · simp [hne]
      rw [if_pos hid]
      cases hcarrying : carrying resolved k entries with
      | nil => simp [hid]
      | cons first rest =>
          simp only [hid, true_and, List.cons_append, List.head?_cons]
          constructor
          · rintro ((⟨row, hrow, hincomplete⟩ | hundated) | (hincomplete | ⟨-, hnone⟩))
            · exact .inl ⟨row, List.mem_append_left [entry.1] hrow, hincomplete⟩
            · exact .inr hundated
            · exact .inl ⟨entry.1, by simp, hincomplete⟩
            · by_cases hcomplete : IsComplete resolved first
              · exact .inr ⟨first, rfl, fun hdated =>
                  hnone ⟨first, List.mem_cons_self, hcomplete, hdated⟩⟩
              · exact .inl ⟨first, by simp, hcomplete⟩
          · rintro (⟨row, hrow, hincomplete⟩ | hundated)
            · have hsplit : row ∈ (first :: rest) ++ [entry.1] := hrow
              rcases List.mem_append.mp hsplit with hrow | hrow
              · exact .inl (.inl ⟨row, hrow, hincomplete⟩)
              · exact .inr (.inl (List.mem_singleton.mp hrow ▸ hincomplete))
            · exact .inl (.inr hundated)

end Rows

section Files

variable (py : Standard) (resolved : Dict String String) (rows : List Row)

-- Every non-blank row is one line or one issue, and an order comes with all of its rows. A file
-- without its required columns is refused as a whole.
structure Accounts (result : AdapterResult) : Prop where
  rows_perm : result.missingRequired = [] →
    (lineRows result.orders ++ issueRows result.issues).Perm (nonBlank resolved (numbered rows))
  refused : result.missingRequired ≠ [] → result.orders = []
  none_rejected : ∀ order ∈ result.orders, ∀ entry ∈ numbered rows,
    orderId resolved entry.1 = order.externalOrderId → entry.2 ∉ issueRows result.issues

abbrev ofOrder (k : String) : List Row :=
  rows.filter fun row => orderId resolved row = k

-- An order that some row begins has only complete rows, and its first row has a date.
abbrev ComesWhole (k : String) : Prop :=
  (∃ row ∈ ofOrder resolved rows k, IsComplete resolved row ∧ IsDated py resolved row) →
    (∀ row ∈ ofOrder resolved rows k, IsComplete resolved row) ∧
      ∀ row ∈ (ofOrder resolved rows k).head?, IsDated py resolved row

variable {py resolved rows}

theorem nodup_numbered : ((numbered rows).map (·.2)).Nodup := by
  have h : (numbered rows).map (·.2) = List.range' 2 rows.length := by
    simp [numbered, List.zipIdx_map_snd]
  rw [h]
  exact List.nodup_range'

theorem carrying_numbered (k : String) :
    carrying resolved k (numbered rows) = ofOrder resolved rows k := by
  unfold carrying ofOrder
  conv_rhs => rw [← numbered_rows rows]
  rw [List.filter_map]
  rfl

theorem none_rejected_iff :
    (∀ order ∈ (adapted py resolved (numbered rows)).grouped.values,
      ∀ entry ∈ numbered rows, orderId resolved entry.1 = order.externalOrderId →
        entry.2 ∉ issueRows (adapted py resolved (numbered rows)).issues) ↔
      ∀ k, k ≠ "" → ComesWhole py resolved rows k := by
  have hwhole {k : String} (hk : k ≠ "") : ComesWhole py resolved rows k ↔
      (((adapted py resolved (numbered rows)).grouped.lookup k).isSome →
        ¬ IsRejected py resolved k (numbered rows)) := by
    have hevery {rows : List Row} {p : Row → Prop} :
        (¬ ∃ row ∈ rows, ¬ p row) ↔ ∀ row ∈ rows, p row := by simp
    have hfirst {row : Option Row} {p : Row → Prop} :
        (¬ ∃ first ∈ row, ¬ p first) ↔ ∀ first ∈ row, p first := by simp
    rw [lookup_isSome_iff hk, rejected_iff nodup_numbered hk, carrying_numbered, not_or, hevery,
      hfirst]
  constructor
  · intro h k hk
    rw [hwhole hk, Option.isSome_iff_exists]
    rintro ⟨order, hlookup⟩ ⟨entry, hentry, hid, hissue⟩
    exact h order (Dict.mem_values_iff.mpr ⟨k, hlookup⟩) entry hentry
      (hid.trans (lookup_id hlookup).symm) hissue
  · intro h order horder entry hentry hid hissue
    obtain ⟨k, hlookup⟩ := Dict.mem_values_iff.mp horder
    have hk : k ≠ "" := by
      rintro rfl
      rw [lookup_no_id] at hlookup
      exact absurd hlookup (by simp)
    exact (hwhole hk).mp (h k hk) (Option.isSome_iff_exists.mpr ⟨order, hlookup⟩)
      ⟨entry, hentry, hid.trans (lookup_id hlookup), hissue⟩

theorem rows_accounted_iff (py : Standard) (rows : List Row)
    (mappingOverride : Dict String String) :
    ∃ result, adaptRows py rows mappingOverride = .ok result ∧
      (Accounts (resolvedMapping rows mappingOverride) rows result ↔
        missingRequired (resolvedMapping rows mappingOverride) ≠ [] ∨
          ∀ k, k ≠ "" → ComesWhole py (resolvedMapping rows mappingOverride) rows k) := by
  obtain ⟨result, hresult, hmissing, hrefused, hread⟩ := adaptRows_eq py rows mappingOverride
  refine ⟨result, hresult, ?_⟩
  generalize resolvedMapping rows mappingOverride = resolved at hmissing hread ⊢
  by_cases hfound : result.missingRequired = []
  · obtain ⟨horders, hissues⟩ := hread hfound
    have hall : Accounts resolved rows result ↔
        ∀ k, k ≠ "" → ComesWhole py resolved rows k := by
      rw [← none_rejected_iff]
      constructor
      · rintro ⟨-, -, hnone⟩
        rwa [horders, hissues] at hnone
      · intro hnone
        refine ⟨fun _ => ?_, fun h => absurd hfound h, ?_⟩
        · rw [horders, hissues]
          exact rows_perm
        · rwa [horders, hissues]
    rw [hall]
    constructor
    · exact .inr
    · rintro (hlost | h)
      · rcases eq_or_ne rows [] with rfl | hrows
        · simp [ComesWhole]
        · exact absurd ((hmissing hrows).symm.trans hfound) hlost
      · exact h
  · obtain ⟨horders, -⟩ := hrefused hfound
    have hall : Accounts resolved rows result :=
      ⟨fun h => absurd h hfound, fun _ => horders, by simp [horders]⟩
    refine iff_of_true hall ?_
    rcases eq_or_ne rows [] with rfl | hrows
    · exact .inr (by simp [ComesWhole])
    · exact .inl ((hmissing hrows) ▸ hfound)

def undatedRow : Row where
  cells := ⟨[("order id", "UE-1"), ("order date", ""), ("item", "Margherita"), ("qty", "1")],
    by decide⟩
  short := by decide

def datedRow : Row where
  cells := ⟨[("order id", "UE-1"), ("order date", "2026-09-08"), ("item", "Coca-Cola"),
    ("qty", "1")], by decide⟩
  short := by decide

def dayReader : Standard where
  strptime raw dateFormat :=
    if raw = "2026-09-08".toList ∧ dateFormat = "%Y-%m-%d" then some (1788825600 * Time.second)
    else none
  fromIsoformat _ := none
  repr text := "'" ++ text ++ "'"

def readOrders (result : AdapterResult) : List (String × List Nat) × List Nat :=
  (result.orders.map fun order => (order.externalOrderId, order.lines.map (·.sourceRow)),
    issueRows result.issues)

theorem undated_row_left_out :
    ∃ result, adaptRows dayReader [undatedRow, datedRow] .empty = .ok result ∧
      readOrders result = ([("UE-1", [3])], [2]) ∧
      ¬ Accounts (resolvedMapping [undatedRow, datedRow] .empty) [undatedRow, datedRow] result := by
  have hrun : (adaptRows dayReader [undatedRow, datedRow] .empty).toOption.map readOrders =
      some ([("UE-1", [3])], [2]) := by
    decide +kernel
  obtain ⟨result, hresult, -⟩ := adaptRows_eq dayReader [undatedRow, datedRow] .empty
  rw [hresult] at hrun
  have hread : readOrders result = ([("UE-1", [3])], [2]) := Option.some.inj hrun
  refine ⟨result, hresult, hread, fun h => ?_⟩
  obtain ⟨horders, hissues⟩ := Prod.mk.inj hread
  obtain ⟨order, horder, hid⟩ :
      ∃ order ∈ result.orders, (order.externalOrderId, order.lines.map (·.sourceRow)) =
        ("UE-1", [3]) := by
    rw [← List.mem_map, horders]
    exact List.mem_singleton_self _
  obtain ⟨hid, -⟩ := Prod.mk.inj hid
  refine h.none_rejected order horder (undatedRow, 2) List.mem_cons_self ?_ ?_
  · rw [hid]
    decide +kernel
  · rw [hissues]
    decide

end Files

end NextgenBackend.ExternalOrders.Adapters
