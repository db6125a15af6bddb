import NextgenBackend.Bot.LlmActions
import NextgenBackend.Library.Fallible

namespace NextgenBackend.Bot.Llm

section Lines

variable {α : Type} {xs : List α} {x : α} {i : Nat}

theorem eraseIdx_append_self_of_last (hlast : i + 1 = xs.length) (hx : xs[i]? = some x) :
    xs.eraseIdx i ++ [x] = xs := by
  obtain ⟨hi, rfl⟩ := List.getElem?_eq_some_iff.mp hx
  have htake : xs.eraseIdx i = xs.take i := by
    rw [List.eraseIdx_eq_take_drop_succ, hlast, List.drop_length, List.append_nil]
  rw [htake, List.take_append_getElem hi, hlast, List.take_length]

-- Put back at the end, a line that was not the last would leave a second one like it behind.
theorem last_of_eraseIdx_append (h : xs.eraseIdx i ++ [x] = xs) (hi : i < xs.length)
    (hx : x ∉ xs.eraseIdx i) : i + 1 = xs.length ∧ xs[i]? = some x := by
  have hlength : (xs.eraseIdx i).length = xs.length - 1 := List.length_eraseIdx_of_lt hi
  have hlast : xs[xs.length - 1]? = some x := by
    have hend : (xs.eraseIdx i ++ [x])[(xs.eraseIdx i).length]? = some x :=
      List.getElem?_concat_length
    rwa [h, hlength] at hend
  rcases Nat.lt_or_ge (i + 1) xs.length with hlt | hge
  · refine absurd (List.mem_of_getElem? (i := xs.length - 2) ?_) hx
    rw [List.getElem?_eraseIdx, if_neg (by omega), ← hlast]
    congr 1
    omega
  · have hlen : i + 1 = xs.length := by omega
    refine ⟨hlen, ?_⟩
    rw [← hlast]
    congr 1
    omega

end Lines

section Restoring

variable (p : Platform)

-- A line that a failed replacement gives back: one unit as the menu has it, the last of the cart.
def Plain (cart : List Line) (i : Nat) (item : MenuItem) : Prop :=
  i + 1 = cart.length ∧ cart[i]? = some (newLine (plainItem item)) ∧
    ∀ line ∈ cart.take i, accumulates (plainItem item) line = false

def Restorable (menu : List MenuItem) (cart : List Line) (remove : String) : Prop :=
  ∀ i, Cart.removalTarget p.toText (cart.map (·.entry)) remove none = some i →
    ∃ item, (itemsMap p menu).lookup (p.lower remove) = some item ∧ Plain cart i item

variable {p} {shop : Shop} {pi : ParsedItem} {remove add : String} {original : Option MenuItem}
  {cart : List Line} {item : MenuItem} {i : Nat} {line : Line} {a : Addition}

theorem readReplace_missing (h : readReplace p shop pi = .ok (.missing remove add original)) :
    original = (itemsMap p shop.menu).lookup (p.lower remove) := by
  unfold readReplace at h
  split at h
  next => cases h
  next =>
    split at h
    next remove' add' hremove hadd =>
      obtain ⟨found, hfound, h⟩ := Fallible.bind_eq_ok h
      cases found with
      | none =>
          injection h with h
          injection h with hname _ horiginal
          rw [← horiginal, hname]
      | some item =>
          have hadded : (readAddition p shop item pi).map (ReplaceEntry.found remove') =
            .ok (ReplaceEntry.missing remove add original) := h
          cases hread : readAddition p shop item pi with
          | ok addition => simp [hread, Except.map] at hadded
          | error e => simp [hread, Except.map] at hadded
    next => cases h

theorem accumulates_newLine : accumulates a (newLine a) = true := by
  simp [accumulates, newLine, Cart.newLine]

theorem addToCart_of_none (h : ∀ line ∈ cart, accumulates a line = false) :
    addToCart cart a = cart ++ [newLine a] := by
  unfold addToCart
  rw [List.findIdx?_eq_none_iff.mpr h]

theorem length_addToCart_of_mem (hline : line ∈ cart) (h : accumulates a line = true) :
    (addToCart cart a).length = cart.length := by
  unfold addToCart
  cases hfound : cart.findIdx? (accumulates a) with
  | none => exact absurd (List.findIdx?_eq_none_iff.mp hfound line hline) (by simp [h])
  | some i => simp

theorem removalTarget_lt {text : Cart.Text} {lines : List Cart.Line} {name : String}
    (h : Cart.removalTarget text lines name none = some i) : i < lines.length := by
  obtain ⟨hi, -⟩ := List.findIdx?_eq_some_iff_getElem.mp h
  exact hi

theorem addToCart_eraseIdx_iff (hi : i < cart.length) :
    addToCart (cart.eraseIdx i) (plainItem item) = cart ↔ Plain cart i item := by
  have herased : (cart.eraseIdx i).length + 1 = cart.length := List.length_eraseIdx_add_one hi
  constructor
  · intro h
    have hfresh : ∀ line ∈ cart.eraseIdx i, accumulates (plainItem item) line = false := by
      intro line hline
      by_contra hacc
      have hlength := length_addToCart_of_mem hline (by simpa using hacc)
      rw [h] at hlength
      omega
    have hself : newLine (plainItem item) ∉ cart.eraseIdx i := fun hmem => by
      exact absurd (hfresh _ hmem) (by simp [accumulates_newLine])
    rw [addToCart_of_none hfresh] at h
    obtain ⟨hlast, hline⟩ := last_of_eraseIdx_append h hi hself
    refine ⟨hlast, hline, fun line hmem => hfresh line ?_⟩
    rw [List.eraseIdx_eq_take_drop_succ]
    exact List.mem_append_left _ hmem
  · rintro ⟨hlast, hline, hfresh⟩
    have htake : cart.eraseIdx i = cart.take i := by
      rw [List.eraseIdx_eq_take_drop_succ, hlast, List.drop_length, List.append_nil]
    rw [addToCart_of_none (by rwa [htake])]
    exact eraseIdx_append_self_of_last hlast hline

theorem applyReplace_missing_iff : applyReplace p cart (.missing remove add
    ((itemsMap p shop.menu).lookup (p.lower remove))) = cart ↔
      Restorable p shop.menu cart remove := by
  cases htarget : Cart.removalTarget p.toText (cart.map (·.entry)) remove none with
  | none => simp [applyReplace, removeFromCart, Restorable, htarget]
  | some i =>
      have hi : i < cart.length := by simpa using removalTarget_lt htarget
      have hshorter : cart.eraseIdx i ≠ cart := fun h => by
        have hlength := congrArg List.length h
        rw [List.length_eraseIdx_of_lt hi] at hlength
        omega
      cases horiginal : (itemsMap p shop.menu).lookup (p.lower remove) with
      | none => simp [applyReplace, removeFromCart, Restorable, htarget, horiginal, hshorter]
      | some item =>
          have hback : applyReplace p cart (.missing remove add (some item)) =
              addToCart (cart.eraseIdx i) (plainItem item) := by
            simp [applyReplace, removeFromCart, htarget, Option.filter]
          simp [hback, Restorable, htarget, horiginal, addToCart_eraseIdx_iff hi]

theorem missing_replacement_restores_iff {items : List ParsedItem} {entries : List ReplaceEntry}
    {k : Nat} (hread : items.mapM (readReplace p shop) = .ok entries)
    (hentry : entries[k]? = some (.missing remove add original)) (cart : List Line) :
    (entries.take (k + 1)).foldl (applyReplace p) cart =
        (entries.take k).foldl (applyReplace p) cart ↔
      Restorable p shop.menu ((entries.take k).foldl (applyReplace p) cart) remove := by
  obtain ⟨pi, -, hpi⟩ := Fallible.mem_mapM_ok hread _ (List.mem_of_getElem? hentry)
  obtain ⟨hk, hlast⟩ := List.getElem?_eq_some_iff.mp hentry
  rw [← List.take_append_getElem hk, List.foldl_append, List.foldl_cons, List.foldl_nil, hlast,
    readReplace_missing hpi]
  exact applyReplace_missing_iff

end Restoring

-- Names without capitals or blanks around them, and a decoder that finds nothing.
def lowerCase : Platform where
  toText := Cart.plainText
  int? := fun _ => none
  loads := fun _ => .ok none
  fenced := fun _ => none
  textBeforeJson := fun _ => ""
  cleanResponseText := fun text => text
  scrub := fun _ text => text

def burger : MenuItem where
  id := 1
  businessId := 1
  name := "burger"
  priceCents := 5000
  optionGroups := []
  removableIngredients := []
  addOnIds := []
  isActive := true
  isDeleted := false
  requiresPreparation := true

def burgerShop : Shop where
  menu := [burger]
  addOnsFor := fun _ => []
  intent := none
  msgText := "change the burger to a pizza"
  normText := "change the burger to a pizza"
  snapshot := none
  extract := fun _ _ => .ok []
  statedTotal := fun _ => .ok none

def pizzaInstead : ParsedItem where
  name := .null
  quantity := .int 1
  options := .obj []
  addOns := []
  specialInstructions := .null
  originalText := .null
  remove := .str "burger"
  add := .str "pizza"

theorem pizza_missing : [pizzaInstead].mapM (readReplace lowerCase burgerShop) =
    .ok [.missing "burger" "pizza" (some burger)] := by
  rfl

theorem single_burger_restored :
    applyReplace lowerCase [newLine (plainItem burger)]
      (.missing "burger" "pizza" (some burger)) = [newLine (plainItem burger)] := by
  refine (missing_replacement_restores_iff (k := 0) pizza_missing rfl
    [newLine (plainItem burger)]).mpr fun i hi => ?_
  obtain rfl : 0 = i := Option.some.inj hi
  exact ⟨burger, rfl, rfl, rfl, by simp⟩

-- Two units come back as one.
theorem second_burger_lost : ¬ ∀ (p : Platform) (shop : Shop) (items : List ParsedItem)
    (entries : List ReplaceEntry) (k : Nat) (remove add : String) (original : Option MenuItem)
    (cart : List Line), items.mapM (readReplace p shop) = .ok entries →
      entries[k]? = some (.missing remove add original) →
        (entries.take (k + 1)).foldl (applyReplace p) cart =
          (entries.take k).foldl (applyReplace p) cart := by
  intro h
  have hcart := h lowerCase burgerShop _ _ 0 _ _ _
    [raiseQuantity 1 (newLine (plainItem burger))] pizza_missing rfl
  have hquantities := congrArg (List.map fun line : Line => line.entry.quantity) hcart
  exact absurd hquantities (by decide +kernel)

end NextgenBackend.Bot.Llm
