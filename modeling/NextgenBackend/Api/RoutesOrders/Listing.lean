import Mathlib
import NextgenBackend.Core.Pagination
import NextgenBackend.Library.Keyset
import NextgenBackend.Library.Text
import NextgenBackend.Shared.Enums

namespace NextgenBackend.RoutesOrders.Listing

open Bot.Llm (PyError)
open Pagination

structure Order where
  id : RecordId
  businessId : Uuid
  status : OrderStatus
  createdAt : DateTime
deriving DecidableEq

-- No two rows have one id.
structure Orders where
  rows : List Order
  ids : rows.Pairwise fun o o' => o.id ≠ o'.id

def liveStatuses : List String :=
  [OrderStatus.pendingDeliveryFee, .feeSent, .new, .accepted, .inProgress, .ready].map (·.value)

structure ListParams where
  status : Option String := none
  live : Bool := false
  limit : ℕ := 25
  limit_range : 1 ≤ limit ∧ limit ≤ 100 := by decide

-- The statuses that a text names, one or more with commas between them.
def statusList (status : String) : List String :=
  ((status.toList.splitOn ',').map Text.strip).filterMap fun s =>
    if s = [] then none else some (String.ofList s)

def statusWanted (params : ListParams) (order : Order) : Bool :=
  if params.live then liveStatuses.contains order.status.value
  else match params.status with
    | none | some "" => true
    | some status =>
        match statusList status with
        | [one] => order.status.value = one
        | statuses => statuses.contains order.status.value

def wanted (businessId : Uuid) (params : ListParams) (order : Order) : Bool :=
  order.businessId = businessId && statusWanted params order

-- Rows stand in the order of their creation, and in that of their ids where that is the same.
def key (order : Order) : ℕ ×ₗ ℕ := toLex (order.createdAt.rank, order.id.toNat)

def beforeCursor (cursor : DateTime × RecordId) (order : Order) : Bool :=
  order.createdAt.rank < cursor.1.rank || (order.createdAt = cursor.1 && order.id < cursor.2)

structure Page where
  data : List Order
  nextCursor : Option String
  hasMore : Bool

def belowCursor (lenient : Lenient) (cursor : Option String) (query : List Order) :
    Except PyError (List Order) :=
  match cursor with
  | none | some "" => .ok query
  | some cursor => do
      let decoded ← decodeCursor lenient cursor
      return query.filter (beforeCursor decoded)

def paginate (limit : ℕ) (sorted : List Order) : Page :=
  let orders := sorted.take (limit + 1)
  let hasMore := decide (limit < orders.length)
  let orders := if hasMore then orders.take limit else orders
  let nextCursor :=
    if hasMore then orders.getLast?.map fun last => encodeCursor last.createdAt last.id else none
  ⟨orders, nextCursor, hasMore⟩

def listOrders (lenient : Lenient) (businessId : Uuid) (params : ListParams)
    (cursor : Option String) (table : Orders) : Except PyError Page := do
  let query ← belowCursor lenient cursor (table.rows.filter (wanted businessId params))
  return paginate params.limit (query.mergeSort fun o o' => key o' ≤ key o)

-- A client asks for one page after the other until there are no more; the table may grow.
def follow (fetch : ℕ → Option String → Except PyError Page) :
    ℕ → ℕ → Option String → Except PyError (Option (List (List Order)))
  | 0, _, _ => .ok none
  | fuel + 1, k, cursor => do
      let page ← fetch k cursor
      if page.hasMore then do
        let rest ← follow fetch fuel (k + 1) page.nextCursor
        return rest.map (page.data :: ·)
      else return some [page.data]

variable {businessId : Uuid} {params : ListParams} {lenient : Lenient} {order order' : Order}
  {table : Orders} {cursor : Option String} {bound : WithTop (ℕ ×ₗ ℕ)}

theorem key_injective (h : key order = key order') (hids : order.id ≠ order'.id) : False := by
  have hpair := congrArg (fun k => (ofLex k).2) h
  exact hids (BitVec.toNat_inj.mp hpair)

theorem beforeCursor_iff : beforeCursor (order'.createdAt, order'.id) order = true ↔
    key order < key order' := by
  unfold beforeCursor key
  rw [Prod.Lex.toLex_lt_toLex, Bool.or_eq_true, Bool.and_eq_true, decide_eq_true_eq,
    decide_eq_true_eq, decide_eq_true_eq, BitVec.lt_def]
  have hrank : order.createdAt = order'.createdAt ↔ order.createdAt.rank = order'.createdAt.rank :=
    ⟨congrArg _, rank_injective⟩
  rw [hrank]

-- What a cursor stands for: nothing, or the last row that was read.
inductive Marks : Option String → WithTop (ℕ ×ₗ ℕ) → Prop
  | first : Marks none ⊤
  | after (order : Order) : Marks (some (encodeCursor order.createdAt order.id)) (key order)

theorem encodeCursor_ne_empty (createdAt : DateTime) (id : RecordId) :
    encodeCursor createdAt id ≠ "" := by
  intro h
  have hdecode := decodeCursor_encodeCursor refusing createdAt id
  have hempty : decodeCursor refusing "" = .error .valueError := rfl
  rw [h, hempty] at hdecode
  cases hdecode

theorem belowCursor_some {query : List Order} {text : String} (h : text ≠ "") :
    belowCursor lenient (some text) query =
      (decodeCursor lenient text).map fun decoded => query.filter (beforeCursor decoded) := by
  unfold belowCursor
  split
  next heq => cases heq
  next heq => exact absurd (Option.some.inj heq) h
  next heq =>
    obtain rfl := Option.some.inj heq
    cases decodeCursor lenient text <;> rfl

theorem belowCursor_eq {query : List Order} (h : Marks cursor bound) :
    belowCursor lenient cursor query =
      .ok (query.filter fun order => (key order : WithTop (ℕ ×ₗ ℕ)) < bound) := by
  cases h with
  | first =>
      have hall : (query.filter fun order => (key order : WithTop (ℕ ×ₗ ℕ)) < ⊤) = query :=
        List.filter_eq_self.mpr fun order _ => decide_eq_true (WithTop.coe_lt_top _)
      rw [hall]
      rfl
  | after last =>
      rw [belowCursor_some (encodeCursor_ne_empty _ _), decodeCursor_encodeCursor]
      refine congrArg Except.ok (List.filter_congr fun order _ => ?_)
      rw [Bool.eq_iff_iff, beforeCursor_iff, decide_eq_true_eq, WithTop.coe_lt_coe]

theorem paginate_eq {sorted : List Order} {limit : ℕ} : paginate limit sorted =
    { data := sorted.take limit
      nextCursor :=
        if limit < sorted.length then
          (sorted.take limit).getLast?.map fun last => encodeCursor last.createdAt last.id
        else none
      hasMore := decide (limit < sorted.length) } := by
  have hmore : limit < (sorted.take (limit + 1)).length ↔ limit < sorted.length := by
    rw [List.length_take]
    omega
  unfold paginate
  simp only [decide_eq_true_eq, hmore, List.take_take]
  split
  next h => rw [Nat.min_eq_left (Nat.le_succ limit)]
  next h =>
    rw [List.take_of_length_le (by omega : sorted.length ≤ limit),
      List.take_of_length_le (by omega : sorted.length ≤ limit + 1)]

def matching (businessId : Uuid) (params : ListParams) (table : Orders) : List Order :=
  table.rows.filter (wanted businessId params)

theorem listOrders_eq (h : Marks cursor bound) :
    listOrders lenient businessId params cursor table = .ok (paginate params.limit
      (Keyset.below key bound (matching businessId params table))) := by
  unfold listOrders
  rw [belowCursor_eq h]
  rfl

section Follow

variable {tables : ℕ → Orders}

theorem follow_eq {fuel k : ℕ} (h : Marks cursor bound) :
    follow (fun k cursor => listOrders lenient businessId params cursor (tables k)) fuel k cursor =
      .ok (Keyset.follow key params.limit (fun k => matching businessId params (tables k)) fuel k
        bound) := by
  induction fuel generalizing k cursor bound with
  | zero => rfl
  | succ fuel ih =>
      rw [follow, Keyset.follow, listOrders_eq h, paginate_eq]
      simp only [bind, Except.bind, decide_eq_true_eq]
      set sorted := Keyset.below key bound (matching businessId params (tables k)) with hsorted
      by_cases hmore : params.limit < sorted.length
      · have hhas : Keyset.hasMore key params.limit bound (matching businessId params (tables k)) =
            true := decide_eq_true hmore
        have hne : sorted.take params.limit ≠ [] := by
          refine List.ne_nil_of_length_pos ?_
          rw [List.length_take]
          have := params.limit_range
          omega
        obtain ⟨last, hlast⟩ := Option.ne_none_iff_exists'.mp (mt List.getLast?_eq_none_iff.mp hne)
        rw [if_pos hmore, if_pos hmore, if_pos hhas, Keyset.page, ← hsorted, hlast,
          Option.map_some, ih (.after last)]
        rfl
      · have hhas : ¬ Keyset.hasMore key params.limit bound
            (matching businessId params (tables k)) = true := fun h => hmore (of_decide_eq_true h)
        rw [if_neg hmore, if_neg hhas]
        rfl

variable {start : Orders}

-- A client that reads all pages is given the orders it began with once each, the last one first.
theorem pages_list_each_order_once (lenient : Lenient) (businessId : Uuid) (params : ListParams)
    (hkept : ∀ k, ∀ order ∈ start.rows, order ∈ (tables k).rows) :
    ∃ enough pages,
      (∀ fuel, enough ≤ fuel →
        follow (fun k cursor => listOrders lenient businessId params cursor (tables k)) fuel 0 none =
          .ok (some pages)) ∧
      pages.flatten.Pairwise (fun o o' => key o' < key o) ∧
      (∀ order ∈ pages.flatten, wanted businessId params order = true) ∧
      ∀ order ∈ start.rows, wanted businessId params order = true →
        pages.flatten.count order = 1 := by
  have hkeys (k : ℕ) :
      (matching businessId params (tables k)).Pairwise fun o o' => key o ≠ key o' :=
    ((tables k).ids.filter _).imp fun hids h => key_injective h hids
  have hstart (k : ℕ) : ∀ order ∈ matching businessId params start,
      order ∈ matching businessId params (tables k) := fun order horder => by
    obtain ⟨hmem, hwanted⟩ := List.mem_filter.mp horder
    exact List.mem_filter.mpr ⟨hkept k order hmem, hwanted⟩
  obtain ⟨enough, pages, hpages, hcomplete⟩ :=
    Keyset.exists_follow params.limit_range.1 hkeys hstart ⊤ 0
  refine ⟨enough, pages, fun fuel hfuel => ?_, hcomplete.descending, fun order horder => ?_,
    fun order horder hwanted => ?_⟩
  · rw [follow_eq .first, Keyset.follow_mono hpages hfuel]
  · obtain ⟨k, hk⟩ := hcomplete.stored order horder
    exact (List.mem_filter.mp hk).2
  · refine List.count_eq_one_of_mem ?_ ?_
    · refine hcomplete.descending.imp ?_
      rintro order _ hlt rfl
      exact lt_irrefl _ hlt
    · exact hcomplete.all order (List.mem_filter.mpr ⟨horder, hwanted⟩) (WithTop.coe_lt_top _)

def newYear : DateTime where
  year := 2026
  month := 1
  day := 1
  hour := 0
  minute := 0
  second := 0
  microsecond := 0
  year_range := by decide
  month_range := by decide
  day_range := by decide
  hour_lt := by decide
  minute_lt := by decide
  second_lt := by decide
  microsecond_lt := by decide

-- Two orders of one moment, and a third that comes while the client reads.
def tied : Orders := ⟨[⟨1, 7, .new, newYear⟩, ⟨2, 7, .new, newYear⟩], by decide⟩

def grown : Orders :=
  ⟨[⟨1, 7, .new, newYear⟩, ⟨2, 7, .new, newYear⟩,
    ⟨0, 7, .new, { newYear with second := 1, second_lt := by decide }⟩], by decide⟩

theorem tied_orders_listed :
    ∃ enough pages,
      (∀ fuel, enough ≤ fuel →
        follow (fun k cursor => listOrders refusing 7 { limit := 1 } cursor
          (if k = 0 then tied else grown)) fuel 0 none = .ok (some pages)) ∧
      pages.flatten.Pairwise (fun o o' => key o' < key o) ∧
      (∀ order ∈ pages.flatten, wanted 7 { limit := 1 } order = true) ∧
      ∀ order ∈ tied.rows, wanted 7 { limit := 1 } order = true → pages.flatten.count order = 1 := by
  refine pages_list_each_order_once refusing 7 { limit := 1 } fun k order horder => ?_
  split
  · exact horder
  · exact List.mem_append_left [_] horder

end Follow

end NextgenBackend.RoutesOrders.Listing
