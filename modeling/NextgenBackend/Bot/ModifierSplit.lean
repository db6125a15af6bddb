import Mathlib
import NextgenBackend.Bot.LineDetectors
import NextgenBackend.Bot.Quantities

namespace NextgenBackend.Bot.Detectors

open Cart
open Llm (PyError)

section Detector

def splitPattern : Pattern := .inOrder [
  .start,
  .group 1 (.oneOf (.plus (.char Text.isDigit) ::
    Quantities.wordNums.map fun entry => lit entry.1)),
  gap,
  .group 2 (.oneOf [
    lit "no",
    lit "without",
    lit "extra",
    said ["with", "no"],
    said ["with", "extra"],
    said ["take", "out"],
    said ["leave", "out"],
    .inOrder [dont, gap, lit "put"],
    said ["dont", "put"]]),
  gap,
  .group 3 (phrase 2)]

variable (text : Text)

def splitCount (rawCount : String) : Except PyError Int :=
  if Quantities.isdigit rawCount.toList then Quantities.int rawCount.toList
  else .ok ((Quantities.wordNums.lookup rawCount).getD 0)

def splitModifier (m : Pattern.Found) : String :=
  let verb := text.strip (text.lower (group m 2))
  let ingredient := text.strip (group m 3)
  if verb = "extra" ∨ verb = "with extra" then "extra " ++ ingredient else "no " ++ ingredient

def foodItems (cart : List Line) : List Line := cart.filter (isFood text)

def oneFoodName (cart : List Line) : Bool :=
  match foodItems text cart with
  | [] => false
  | line :: rest => rest.all fun other => text.lower other.name = text.lower line.name

def foodQuantity (cart : List Line) : Int := ((foodItems text cart).map (·.quantity)).sum

def modified (modifier : String) (line : Line) : Bool :=
  Cart.contains (text.lower (line.specialInstructions.getD "")) (text.lower modifier)

-- A line without the modifier comes first, then any line with enough units.
def splitTarget (cart : List Line) (count : Int) (modifier : String) : Option Nat :=
  (cart.findIdx? fun line =>
      isFood text line && !modified text modifier line && decide (count ≤ line.quantity)).or
    (cart.findIdx? fun line => isFood text line && decide (count ≤ line.quantity))

def detectQuantityModifierSplit (msgText : String) (cart : List Line) :
    Except PyError (Option ((Int × String) × Nat)) :=
  if cart = [] then .ok none
  else
    match Pattern.matchAt Text.isWordChar splitPattern [] (lowered text msgText).toList with
    | none => .ok none
    | some m =>
        (splitCount (text.lower (group m 1))).map fun count =>
          if count ≤ 0 ∨ ¬ oneFoodName text cart ∨ foodQuantity text cart < count then none
          else
            (splitTarget text cart count (splitModifier text m)).map fun i =>
              ((count, splitModifier text m), i)

-- The units come back as new ones that have the price of the line and the modifier only.
def splitItem (line : Line) (count : Int) (modifier : String) : NewItem where
  menuItemId := line.menuItemId
  name := line.name
  priceCents := line.priceCents
  quantity := count
  specialInstructions := some modifier

def splitLine (cart : List Line) (count : Int) (modifier : String) (i : Nat) : List Line :=
  match cart[i]? with
  | none => cart
  | some line => addToCart (removeFromCart text cart line.name (some count) (some "plain")).1
      (splitItem line count modifier)

end Detector

structure Kept (line : Line) : Prop where
  counted : 1 ≤ line.quantity
  totalled : line.lineTotalCents = line.priceCents * line.quantity

-- A cart as the mutators leave it: every line has units, each of them at the line's price.
structure Basket where
  lines : List Line
  kept : ∀ line ∈ lines, Kept line

def perUnit (line : Line) : Line := setQuantity 1 line

-- What a cart weighs when each of its units does.
def weigh {M : Type} [AddCommMonoid M] (f : Line → M) (cart : List Line) : M :=
  (cart.map fun line => line.quantity.toNat • f (perUnit line)).sum

def units (cart : List Line) : Multiset Line := weigh (fun line => {line}) cart

def cartTotalCents (cart : List Line) : Cents := (cart.map (·.lineTotalCents)).sum

def itemQuantity (menuItemId : Uuid) (cart : List Line) : Int :=
  ((cart.filter (·.menuItemId = menuItemId)).map (·.quantity)).sum

def gains (text : Text) (modifier : String) (line : Line) : Line :=
  if modified text modifier line then line else appendInstructions modifier line

structure Conserves (text : Text) (cart : List Line) (menuItemId : Uuid) (count : Int)
    (modifier : String) (cart' : List Line) : Prop where
  units : ∃ donors ≤ units cart, (donors.card : Int) = count ∧
    (∀ unit ∈ donors, unit.menuItemId = menuItemId) ∧
      Detectors.units cart' + donors = Detectors.units cart + donors.map (gains text modifier)
  quantity : itemQuantity menuItemId cart' = itemQuantity menuItemId cart
  total : cartTotalCents cart' = cartTotalCents cart
  others : (cart'.filter fun line => line.menuItemId ≠ menuItemId) =
    cart.filter fun line => line.menuItemId ≠ menuItemId

-- The line whose units the new ones join, or the new ones themselves.
def joined (cart : List Line) (item : NewItem) : Line :=
  (cart.find? (accumulates item)).getD (newLine item)

def leftover (cart : List Line) (r : Nat) (source : Line) (count : Int) : List Line :=
  if count < source.quantity then cart else cart.eraseIdx r

-- The line that gives the units has enough of them, and with the modifier they are the units
-- that come back.
def Splits (text : Text) (cart : List Line) (line : Line) (count : Int) (modifier : String) : Prop :=
  ∃ (r : Nat) (source : Line),
    removalTarget text cart line.name (some "plain") = some r ∧ cart[r]? = some source ∧
      count ≤ source.quantity ∧
        gains text modifier (perUnit source) =
          perUnit (joined (leftover cart r source count) (splitItem line count modifier))

section Weighing

variable {M : Type} [AddCommMonoid M] {f : Line → M} {cart : List Line} {line : Line} {i : Nat}
  {item : NewItem} {p : Line → Bool}

@[simp]
theorem perUnit_setQuantity {n : Int} : perUnit (setQuantity n line) = perUnit line := rfl

theorem weigh_eraseIdx (h : cart[i]? = some line) :
    weigh f (cart.eraseIdx i) + line.quantity.toNat • f (perUnit line) = weigh f cart := by
  induction cart generalizing i with
  | nil => cases h
  | cons head cart ih =>
      cases i with
      | zero =>
          obtain rfl := Option.some.inj h
          simp [weigh, add_comm]
      | succ i =>
          have hrest := ih (i := i) (by simpa using h)
          simp only [weigh, List.eraseIdx_cons_succ, List.map_cons, List.sum_cons] at hrest ⊢
          rw [add_assoc, hrest]

theorem weigh_modify {n : Int} (hn : 0 ≤ n) (h : cart[i]? = some line) (hle : n ≤ line.quantity) :
    weigh f (cart.modify i fun line => setQuantity (line.quantity - n) line) +
      n.toNat • f (perUnit line) = weigh f cart := by
  induction cart generalizing i with
  | nil => cases h
  | cons head cart ih =>
      cases i with
      | zero =>
          obtain rfl := Option.some.inj h
          have hsplit : (head.quantity - n).toNat + n.toNat = head.quantity.toNat := by omega
          simp only [weigh, List.modify_zero_cons, List.map_cons, List.sum_cons,
            perUnit_setQuantity]
          rw [← hsplit, add_nsmul, add_right_comm]
          rfl
      | succ i =>
          have hrest := ih (i := i) (by simpa using h)
          simp only [weigh, List.modify_succ_cons, List.map_cons, List.sum_cons] at hrest ⊢
          rw [add_assoc, hrest]

theorem weigh_updateFirst {n : Int} (hn : 0 ≤ n) (h : cart.find? p = some line)
    (hq : 0 ≤ line.quantity) :
    weigh f (updateFirst p (fun line => setQuantity (line.quantity + n) line) cart) =
      weigh f cart + n.toNat • f (perUnit line) := by
  induction cart with
  | nil => cases h
  | cons head cart ih =>
      unfold updateFirst
      cases hp : p head with
      | true =>
          rw [List.find?_cons_of_pos (by simp [hp])] at h
          obtain rfl := Option.some.inj h
          have hsum : (head.quantity + n).toNat = head.quantity.toNat + n.toNat := by omega
          simp only [if_true, weigh, List.map_cons, List.sum_cons, perUnit_setQuantity]
          rw [show (setQuantity (head.quantity + n) head).quantity.toNat =
            head.quantity.toNat + n.toNat from hsum, add_nsmul, add_right_comm]
      | false =>
          rw [List.find?_cons_of_neg (by simp [hp])] at h
          have hrest := ih h
          simp only [Bool.false_eq_true, if_false, weigh, List.map_cons, List.sum_cons] at hrest ⊢
          rw [hrest, add_assoc]

theorem weigh_addToCart (hn : 0 ≤ item.quantity) (hq : ∀ line ∈ cart, 0 ≤ line.quantity) :
    weigh f (addToCart cart item) =
      weigh f cart + item.quantity.toNat • f (perUnit (joined cart item)) := by
  unfold addToCart joined
  cases hfound : cart.find? (accumulates item) with
  | none =>
      have hnone : cart.any (accumulates item) = false := by
        rw [List.any_eq_false]
        exact List.find?_eq_none.mp hfound
      simp only [hnone, Bool.false_eq_true, if_false, Option.getD_none, weigh, List.map_append,
        List.sum_append, List.map_cons, List.map_nil, List.sum_singleton]
      rfl
  | some line =>
      have hsome : cart.any (accumulates item) = true := by
        rw [List.any_eq_true]
        exact ⟨line, List.mem_of_find?_eq_some hfound, List.find?_some hfound⟩
      simp only [hsome, if_true, Option.getD_some]
      exact weigh_updateFirst hn hfound (hq line (List.mem_of_find?_eq_some hfound))

end Weighing

-- Units taken and put back that make the same difference as a change to some units: the change
-- makes what was put back of what was taken.
theorem changed_of_swap {α : Type} [DecidableEq α] {taken put : α} {donors : Multiset α}
    {g : α → α} {n : Nat} (hn : 0 < n) (hput : g put = put) (hcard : donors.card = n)
    (h : n • ({put} : Multiset α) + donors = n • {taken} + donors.map g) : g taken = put := by
  rw [Multiset.nsmul_singleton, Multiset.nsmul_singleton] at h
  by_cases heq : put = taken
  · rw [← heq, hput]
  · have hcount := congrArg (Multiset.count put) h
    rw [Multiset.count_add, Multiset.count_add, Multiset.count_replicate_self,
      Multiset.count_replicate, if_neg (Ne.symm heq), zero_add] at hcount
    have hle : Multiset.count put (donors.map g) ≤ (donors.map g).card := Multiset.count_le_card _ _
    rw [Multiset.card_map, hcard] at hle
    have hall : donors.map g = Multiset.replicate n put := by
      refine Multiset.eq_replicate.mpr ⟨by rw [Multiset.card_map, hcard], fun b hb => ?_⟩
      have hfull : Multiset.count put (donors.map g) = (donors.map g).card := by
        rw [Multiset.card_map, hcard]
        omega
      exact (Multiset.count_eq_card.mp hfull b hb).symm
    rw [hall, add_comm (Multiset.replicate n taken)] at h
    have hdonors : donors = Multiset.replicate n taken := add_left_cancel h
    rw [hdonors, Multiset.map_replicate] at hall
    have hmem : g taken ∈ Multiset.replicate n put := by
      rw [← hall]
      exact Multiset.mem_replicate.mpr ⟨by omega, rfl⟩
    exact (Multiset.mem_replicate.mp hmem).2

section Keeping

variable {text : Text} {cart : List Line} {line : Line} {item : NewItem} {itemName : String}
  {quantity : Option Int} {hint : Option String} {n : Int}

theorem kept_setQuantity (h : 1 ≤ n) : Kept (setQuantity n line) := ⟨h, rfl⟩

theorem kept_addToCart (h : ∀ line ∈ cart, Kept line) (hitem : 1 ≤ item.quantity) :
    ∀ line ∈ addToCart cart item, Kept line := by
  unfold addToCart
  split
  · refine (updateFirst_iff h).mpr fun line hline => kept_setQuantity ?_
    have hcounted := (h line (List.mem_of_find?_eq_some hline)).counted
    omega
  · exact List.forall_mem_append.mpr ⟨h, by simpa using ⟨hitem, rfl⟩⟩

theorem kept_removeFromCart (h : ∀ line ∈ cart, Kept line) :
    ∀ line ∈ (removeFromCart text cart itemName quantity hint).1, Kept line := by
  unfold removeFromCart
  cases htarget : removalTarget text cart itemName hint with
  | none => exact h
  | some i =>
  dsimp only
  split
  next count hcount =>
    intro line hline
    obtain ⟨k, hk, rfl⟩ := List.getElem_of_mem hline
    have hlength : k < cart.length := by simpa using hk
    rw [List.getElem_modify]
    split
    next hik =>
      subst hik
      have hlt : count < cart[i].quantity := by
        have hmore := (Option.filter_eq_some_iff.mp hcount).2
        simpa [hlength] using hmore
      exact kept_setQuantity (by omega)
    next => exact h _ (List.getElem_mem hlength)
  next => exact fun line hline => h line (List.mem_of_mem_eraseIdx hline)

end Keeping

section Splitting

variable {text : Text} {cart : List Line} {line source : Line} {item : NewItem} {i r : Nat}
  {count : Int} {modifier msg : String}

theorem gains_perUnit_menuItemId : (gains text modifier line).menuItemId = line.menuItemId := by
  unfold gains
  split <;> rfl

theorem gains_priceCents : (gains text modifier line).priceCents = line.priceCents := by
  unfold gains
  split <;> rfl

theorem gains_of_some (h : line.specialInstructions = some modifier) :
    gains text modifier line = line := by
  unfold gains
  rw [if_pos]
  simp [modified, h, Cart.contains]

theorem joined_spec : (joined cart item).menuItemId = item.menuItemId ∧
    (joined cart item).specialInstructions = item.specialInstructions := by
  unfold joined
  cases hfound : cart.find? (accumulates item) with
  | none => exact ⟨rfl, rfl⟩
  | some line =>
      have hacc : accumulates item line = true := List.find?_some hfound
      unfold accumulates at hacc
      have hsame := of_decide_eq_true hacc
      exact ⟨hsame.1, hsame.2.2.2⟩

theorem find?_modify_perUnit {p : Line → Bool} {g : Line → Line} (hp : ∀ line, p (g line) = p line)
    (hg : ∀ line, perUnit (g line) = perUnit line) :
    ((cart.modify r g).find? p).map perUnit = (cart.find? p).map perUnit := by
  induction cart generalizing r with
  | nil => simp
  | cons line cart ih =>
      cases r with
      | zero =>
          rw [List.modify_zero_cons]
          cases hline : p line with
          | true => simp [hp, hline, hg]
          | false => simp [hp, hline]
      | succ r =>
          rw [List.modify_succ_cons]
          cases hline : p line with
          | true => simp [hline]
          | false => simpa [hline] using ih

theorem perUnit_joined {rest : List Line} (h : (rest.find? (accumulates item)).map perUnit =
    (cart.find? (accumulates item)).map perUnit) :
    perUnit (joined rest item) = perUnit (joined cart item) := by
  unfold joined
  cases hrest : rest.find? (accumulates item) with
  | none =>
      cases hcart : cart.find? (accumulates item) with
      | none => rfl
      | some line => simp [hrest, hcart] at h
  | some line =>
      cases hcart : cart.find? (accumulates item) with
      | none => simp [hrest, hcart] at h
      | some line' => simpa [hrest, hcart] using h

theorem removed_eq (htarget : removalTarget text cart line.name (some "plain") = some r)
    (hsource : cart[r]? = some source) :
    (removeFromCart text cart line.name (some count) (some "plain")).1 =
      if count < source.quantity then
        cart.modify r fun line => setQuantity (line.quantity - count) line
      else cart.eraseIdx r := by
  unfold removeFromCart
  rw [htarget]
  by_cases hlt : count < source.quantity
  · simp [Option.filter, hsource, hlt]
  · simp [Option.filter, hsource, hlt]

theorem joined_removed (htarget : removalTarget text cart line.name (some "plain") = some r)
    (hsource : cart[r]? = some source) :
    perUnit (joined (removeFromCart text cart line.name (some count) (some "plain")).1 item) =
      perUnit (joined (leftover cart r source count) item) := by
  rw [removed_eq htarget hsource, leftover]
  split
  · exact perUnit_joined (find?_modify_perUnit (fun _ => rfl) fun _ => rfl)
  · rfl

theorem weigh_removed {M : Type} [AddCommMonoid M] {f : Line → M} (hcount : 0 ≤ count)
    (htarget : removalTarget text cart line.name (some "plain") = some r)
    (hsource : cart[r]? = some source) :
    weigh f (removeFromCart text cart line.name (some count) (some "plain")).1 +
      (min count source.quantity).toNat • f (perUnit source) = weigh f cart := by
  rw [removed_eq htarget hsource]
  split
  next hlt =>
    rw [min_eq_left hlt.le]
    exact weigh_modify hcount hsource hlt.le
  next hge =>
    rw [min_eq_right (not_lt.mp hge)]
    exact weigh_eraseIdx hsource

theorem kept_splitLine (hcount : 1 ≤ count) (hkept : ∀ line ∈ cart, Kept line) :
    ∀ line ∈ splitLine text cart count modifier i, Kept line := by
  unfold splitLine
  split
  · exact hkept
  · exact kept_addToCart (kept_removeFromCart hkept) hcount

theorem weigh_splitLine {M : Type} [AddCommMonoid M] {f : Line → M} (hcount : 1 ≤ count)
    (hkept : ∀ line ∈ cart, Kept line) (hline : cart[i]? = some line)
    (htarget : removalTarget text cart line.name (some "plain") = some r)
    (hsource : cart[r]? = some source) :
    weigh f (splitLine text cart count modifier i) +
        (min count source.quantity).toNat • f (perUnit source) =
      weigh f cart + count.toNat • f (perUnit (joined (leftover cart r source count)
        (splitItem line count modifier))) := by
  have hnonneg : 0 ≤ count := by omega
  have hadded : weigh f (splitLine text cart count modifier i) =
      weigh f (removeFromCart text cart line.name (some count) (some "plain")).1 +
        count.toNat • f (perUnit (joined (leftover cart r source count)
          (splitItem line count modifier))) := by
    rw [splitLine, hline, ← joined_removed htarget hsource]
    exact weigh_addToCart hnonneg fun line hmem => by
      have hcounted := (kept_removeFromCart hkept line hmem).counted
      omega
  rw [hadded, add_right_comm, weigh_removed hnonneg htarget hsource]

theorem itemQuantity_eq_weigh {menuItemId : Uuid} (hkept : ∀ line ∈ cart, Kept line) :
    itemQuantity menuItemId cart =
      weigh (fun unit => if unit.menuItemId = menuItemId then 1 else 0) cart := by
  unfold itemQuantity weigh
  induction cart with
  | nil => rfl
  | cons line cart ih =>
      have hcounted := (hkept line List.mem_cons_self).counted
      have hrest := ih fun line hline => hkept line (List.mem_cons_of_mem _ hline)
      rw [List.map_cons, List.sum_cons, ← hrest]
      by_cases hid : line.menuItemId = menuItemId
      · simp [hid, perUnit, setQuantity]
        omega
      · simp [hid, perUnit, setQuantity]

theorem cartTotalCents_eq_weigh (hkept : ∀ line ∈ cart, Kept line) :
    cartTotalCents cart = weigh (fun unit => unit.priceCents) cart := by
  unfold cartTotalCents weigh
  refine congrArg List.sum (List.map_congr_left fun line hline => ?_)
  have hcounted := (hkept line hline).counted
  rw [(hkept line hline).totalled, nsmul_eq_mul, Int.mul_comm]
  congr 1
  exact (Int.toNat_of_nonneg (by omega)).symm

section Others

variable {q : Line → Bool} {p : Line → Bool} {g : Line → Line}

theorem filter_modify (hsource : cart[r]? = some source) (h : q source = false)
    (hg : q (g source) = false) : (cart.modify r g).filter q = cart.filter q := by
  induction cart generalizing r with
  | nil => simp
  | cons line cart ih =>
      cases r with
      | zero =>
          obtain rfl := Option.some.inj hsource
          simp [h, hg]
      | succ r =>
          have hrest := ih (r := r) (by simpa using hsource)
          rw [List.modify_succ_cons, List.filter_cons, List.filter_cons, hrest]

theorem filter_eraseIdx (hsource : cart[r]? = some source) (h : q source = false) :
    (cart.eraseIdx r).filter q = cart.filter q := by
  induction cart generalizing r with
  | nil => simp
  | cons line cart ih =>
      cases r with
      | zero =>
          obtain rfl := Option.some.inj hsource
          simp [h]
      | succ r =>
          have hrest := ih (r := r) (by simpa using hsource)
          rw [List.eraseIdx_cons_succ, List.filter_cons, List.filter_cons, hrest]

theorem filter_updateFirst (h : ∀ line, p line = true → q line = false ∧ q (g line) = false) :
    (updateFirst p g cart).filter q = cart.filter q := by
  induction cart with
  | nil => rfl
  | cons line cart ih =>
      unfold updateFirst
      by_cases hp : p line
      · simp [hp, h line hp]
      · simp [hp, List.filter_cons, ih]

theorem filter_addToCart (h : ∀ line, accumulates item line = true → q line = false)
    (hq : ∀ line n, q (setQuantity n line) = q line) (hnew : q (newLine item) = false) :
    (addToCart cart item).filter q = cart.filter q := by
  unfold addToCart
  split
  · exact filter_updateFirst fun line hline => ⟨h line hline, (hq line _).trans (h line hline)⟩
  · simp [hnew]

theorem filter_splitLine (hline : cart[i]? = some line)
    (htarget : removalTarget text cart line.name (some "plain") = some r)
    (hsource : cart[r]? = some source) (hid : source.menuItemId = line.menuItemId) :
    ((splitLine text cart count modifier i).filter fun other =>
      other.menuItemId ≠ line.menuItemId) =
        cart.filter fun other => other.menuItemId ≠ line.menuItemId := by
  have hremoved : ((removeFromCart text cart line.name (some count) (some "plain")).1.filter
      fun other => other.menuItemId ≠ line.menuItemId) =
        cart.filter fun other => other.menuItemId ≠ line.menuItemId := by
    rw [removed_eq htarget hsource]
    split
    · exact filter_modify hsource (by simp [hid]) (by simp [setQuantity, hid])
    · exact filter_eraseIdx hsource (by simp [hid])
  rw [splitLine, hline, ← hremoved]
  refine filter_addToCart (fun other hacc => ?_) (fun _ _ => rfl) (by simp [newLine, splitItem])
  unfold accumulates at hacc
  simpa [splitItem] using (of_decide_eq_true hacc).1

end Others

end Splitting

section Result

variable {text : Text} {cart : List Line} {line : Line} {i : Nat} {count : Int}
  {modifier msg : String}

theorem detectQuantityModifierSplit_spec
    (h : detectQuantityModifierSplit text msg cart = .ok (some ((count, modifier), i))) :
    1 ≤ count ∧ i < cart.length := by
  unfold detectQuantityModifierSplit at h
  split at h
  next => cases h
  next =>
    split at h
    next => cases h
    next m hm =>
      cases hcount : splitCount (text.lower (group m 1)) with
      | error e => simp [hcount, Except.map] at h
      | ok read =>
          simp only [hcount, Except.map, Except.ok.injEq] at h
          split at h
          next => cases h
          next hvalid =>
            obtain ⟨k, hk, hresult⟩ := Option.map_eq_some_iff.mp h
            simp only [Prod.mk.injEq] at hresult
            obtain ⟨⟨rfl, rfl⟩, rfl⟩ := hresult
            refine ⟨by omega, ?_⟩
            rcases Option.or_eq_some_iff.mp hk with hk | ⟨-, hk⟩
            · exact (List.findIdx?_eq_some_iff_getElem.mp hk).1
            · exact (List.findIdx?_eq_some_iff_getElem.mp hk).1

theorem removalTarget_own_name (hint : Option String) (hline : cart[i]? = some line) :
    ∃ r source, removalTarget text cart line.name hint = some r ∧ cart[r]? = some source := by
  let candidate := fun other : Line =>
    Cart.contains (text.lower other.name) (text.strip (text.lower line.name))
  have hown : candidate line = true := by
    simpa [candidate, Cart.contains] using text.strip_infix (text.lower line.name)
  have hfirst : ∃ r, cart.findIdx? candidate = some r := by
    cases hfound : cart.findIdx? candidate with
    | some r => exact ⟨r, rfl⟩
    | none =>
        have hnot := List.findIdx?_eq_none_iff.mp hfound line (List.mem_of_getElem? hline)
        rw [hown] at hnot
        cases hnot
  have hsource {r : Nat} {q : Line → Bool} (h : cart.findIdx? q = some r) :
      ∃ source, cart[r]? = some source :=
    ⟨_, List.getElem?_eq_getElem (List.findIdx?_eq_some_iff_getElem.mp h).1⟩
  obtain ⟨r, hr⟩ := hfirst
  unfold removalTarget
  cases hint with
  | none =>
      obtain ⟨source, h⟩ := hsource hr
      exact ⟨r, source, hr, h⟩
  | some hint =>
      dsimp only
      split
      · cases hqualified : cart.findIdx? fun other =>
            candidate other && qualifies text hint other with
        | none =>
            obtain ⟨source, h⟩ := hsource hr
            exact ⟨r, source, hr, h⟩
        | some q =>
            obtain ⟨source, h⟩ := hsource hqualified
            exact ⟨q, source, rfl, h⟩
      · obtain ⟨source, h⟩ := hsource hr
        exact ⟨r, source, hr, h⟩

-- The units that a split takes and puts back, over whatever a unit weighs.
theorem splits_of_conserves (hcount : 1 ≤ count) (hkept : ∀ line ∈ cart, Kept line)
    (hline : cart[i]? = some line)
    (h : Conserves text cart line.menuItemId count modifier
      (splitLine text cart count modifier i)) : Splits text cart line count modifier := by
  obtain ⟨r, source, htarget, hsource⟩ := removalTarget_own_name (some "plain") hline
  obtain ⟨donors, hdonors, hcard, -, hunits⟩ := h.units
  have hweighed : units (splitLine text cart count modifier i) +
      (min count source.quantity).toNat • {perUnit source} =
        units cart + count.toNat • {perUnit (joined (leftover cart r source count)
          (splitItem line count modifier))} :=
    weigh_splitLine hcount hkept hline htarget hsource
  have hswap : count.toNat • {perUnit (joined (leftover cart r source count)
      (splitItem line count modifier))} + donors =
        (min count source.quantity).toNat • {perUnit source} +
          donors.map (gains text modifier) := by
    apply add_left_cancel (a := units cart)
    calc units cart + (count.toNat • {perUnit (joined (leftover cart r source count)
            (splitItem line count modifier))} + donors)
        = units (splitLine text cart count modifier i) + donors +
            (min count source.quantity).toNat • {perUnit source} := by
          rw [← add_assoc, ← hweighed, add_right_comm]
      _ = units cart + ((min count source.quantity).toNat • {perUnit source} +
            donors.map (gains text modifier)) := by
          rw [hunits, add_right_comm, add_assoc]
  have hsizes := congrArg Multiset.card hswap
  simp only [Multiset.nsmul_singleton, Multiset.card_add, Multiset.card_replicate,
    Multiset.card_map] at hsizes
  have hpositive := (hkept source (List.mem_of_getElem? hsource)).counted
  have henough : count ≤ source.quantity := by omega
  rw [min_eq_left henough] at hswap
  refine ⟨r, source, htarget, hsource, henough,
    changed_of_swap (by omega) (gains_of_some ?_) (by omega) hswap⟩
  exact joined_spec.2

theorem conserves_of_splits (hcount : 1 ≤ count) (hkept : ∀ line ∈ cart, Kept line)
    (hline : cart[i]? = some line) (h : Splits text cart line count modifier) :
    Conserves text cart line.menuItemId count modifier
      (splitLine text cart count modifier i) := by
  obtain ⟨r, source, htarget, hsource, henough, hgains⟩ := h
  have hid : source.menuItemId = line.menuItemId := by
    have hitem := congrArg Line.menuItemId hgains
    rw [gains_perUnit_menuItemId] at hitem
    exact hitem.trans joined_spec.1
  have hprice := congrArg Line.priceCents hgains
  rw [gains_priceCents] at hprice
  have hweighed {M : Type} [AddCommMonoid M] (f : Line → M) :
      weigh f (splitLine text cart count modifier i) + count.toNat • f (perUnit source) =
        weigh f cart + count.toNat • f (perUnit (joined (leftover cart r source count)
          (splitItem line count modifier))) := by
    rw [← weigh_splitLine hcount hkept hline htarget hsource, min_eq_left henough]
  have hkept' : ∀ other ∈ splitLine text cart count modifier i, Kept other :=
    kept_splitLine hcount hkept
  refine ⟨⟨count.toNat • {perUnit source}, ?_, ?_, ?_, ?_⟩, ?_, ?_, ?_⟩
  · have htaken : units (removeFromCart text cart line.name (some count) (some "plain")).1 +
        (min count source.quantity).toNat • {perUnit source} = units cart :=
      weigh_removed (by omega) htarget hsource
    rw [min_eq_left henough] at htaken
    rw [← htaken]
    exact Multiset.le_add_left _ _
  · rw [Multiset.nsmul_singleton, Multiset.card_replicate]
    omega
  · intro unit hunit
    rw [Multiset.nsmul_singleton] at hunit
    rw [(Multiset.mem_replicate.mp hunit).2]
    exact hid
  · rw [Multiset.nsmul_singleton, Multiset.map_replicate, hgains, ← Multiset.nsmul_singleton,
      ← Multiset.nsmul_singleton]
    exact hweighed _
  · rw [itemQuantity_eq_weigh hkept', itemQuantity_eq_weigh hkept]
    have hquantity := hweighed fun unit => if unit.menuItemId = line.menuItemId then (1 : Int) else 0
    have hsource' : (perUnit source).menuItemId = line.menuItemId := hid
    have hjoined : (perUnit (joined (leftover cart r source count)
      (splitItem line count modifier))).menuItemId = line.menuItemId := joined_spec.1
    rw [if_pos hsource', if_pos hjoined] at hquantity
    exact add_right_cancel hquantity
  · rw [cartTotalCents_eq_weigh hkept', cartTotalCents_eq_weigh hkept]
    have htotal := hweighed fun unit => unit.priceCents
    rw [hprice] at htotal
    exact add_right_cancel htotal
  · exact filter_splitLine hline htarget hsource hid

theorem split_conserves_iff (basket : Basket) (msg : String) (hline : basket.lines[i]? = some line)
    (h : detectQuantityModifierSplit text msg basket.lines = .ok (some ((count, modifier), i))) :
    Conserves text basket.lines line.menuItemId count modifier
        (splitLine text basket.lines count modifier i) ↔
      Splits text basket.lines line count modifier := by
  have hcount := (detectQuantityModifierSplit_spec h).1
  exact ⟨splits_of_conserves hcount basket.kept hline,
    conserves_of_splits hcount basket.kept hline⟩

end Result

def twoBurgers : Basket where
  lines := addToCart []
    { menuItemId := 1, name := "burger", priceCents := 5000, quantity := 2 }
  kept := kept_addToCart (by simp) (by decide)

theorem burger_split :
    Conserves asciiText twoBurgers.lines 1 1 "no tomato"
      (splitLine asciiText twoBurgers.lines 1 "no tomato" 0) := by
  have hdetected : detectQuantityModifierSplit asciiText "1 no tomato" twoBurgers.lines =
    .ok (some ((1, "no tomato"), 0)) := by decide +kernel
  refine (split_conserves_iff twoBurgers "1 no tomato" rfl hdetected).mpr ?_
  exact ⟨0, _, by decide +kernel, rfl, by decide, by decide +kernel⟩

-- A burger with a patty, and two without.
def pattyBasket : Basket where
  lines := addToCart
    (addToCart [] { menuItemId := 1, name := "burger", priceCents := 5000,
                    addOns := [⟨7, "extra patty", 2500, 1⟩] })
    { menuItemId := 1, name := "burger", priceCents := 5000, quantity := 2 }
  kept := kept_addToCart (kept_addToCart (by simp) (by decide)) (by decide)

-- The burger with the patty goes, and the two that were meant stay beside two new ones.
theorem fourth_burger_appears : ¬ ∀ (text : Text) (basket : Basket) (msg : String) (i : Nat)
    (line : Line) (count : Int) (modifier : String), basket.lines[i]? = some line →
      detectQuantityModifierSplit text msg basket.lines = .ok (some ((count, modifier), i)) →
        Conserves text basket.lines line.menuItemId count modifier
          (splitLine text basket.lines count modifier i) := by
  intro h
  have hdetected : detectQuantityModifierSplit asciiText "2 no tomato" pattyBasket.lines =
    .ok (some ((2, "no tomato"), 1)) := by decide +kernel
  exact absurd (h asciiText pattyBasket "2 no tomato" 1 _ _ _ rfl hdetected).quantity
    (by decide +kernel)

end NextgenBackend.Bot.Detectors
