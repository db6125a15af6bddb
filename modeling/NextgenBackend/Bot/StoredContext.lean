import Mathlib
import NextgenBackend.Bot.Cart

namespace NextgenBackend.Bot.StoredContext

open Cart

-- The cart is a list of lines in the database and a reference to one in memory.
structure Context (γ α : Type) where
  cart : Option γ
  confirmedCart : Option (List Line)
  entries : Finmap fun _ : String => α
deriving DecidableEq

def Context.mapCart {γ δ α : Type} (f : γ → δ) (context : Context γ α) : Context δ α where
  cart := context.cart.map f
  confirmedCart := context.confirmedCart
  entries := context.entries

abbrev Stored (α : Type) := Context (List Line) α

abbrev Ref := Nat

structure Memory (α : Type) where
  heap : Ref → List Line
  fresh : Ref
  current : Context Ref α
  remembered : Context Ref α
  stored : Stored α

inductive Mutator (α : Type) where
  | edit (edit : Edit)
  | setCart (lines : List Line)
  | setContext (key : String) (value : α)
  | relock
  | dealias
  | restore (context : Stored α)

section Run

variable {α : Type}

def clearedKeys : List String :=
  ["order_mode", "pending_order_id", "delivery_fee_cents", "delivery_fee_status",
    "payment_method", "pending_options", "proposed_items", "recommended_items",
    "superseded_order_id", "order_notes_asked", "order_notes"]

def Context.clear {γ : Type} (context : Context γ α) (cart : γ) : Context γ α where
  cart := some cart
  confirmedCart := none
  entries := clearedKeys.foldl (fun entries key => entries.erase key) context.entries

-- What a mutator computes from a context, sharing nothing.
def compute (text : Text) (context : Stored α) : Mutator α → Stored α
  | .edit .clear => context.clear []
  | .edit (.add item) => { context with cart := some (addToCart (context.cart.getD []) item) }
  | .edit edit => { context with cart := context.cart.map fun cart => apply text cart edit }
  | .setCart lines => { context with cart := some lines }
  | .setContext key value => { context with entries := context.entries.insert key value }
  | .relock => { context with confirmedCart := some (context.cart.getD []) }
  | .dealias => context
  | .restore saved => saved

def computed (text : Text) (context : Stored α) (mutators : List (Mutator α)) : Stored α :=
  mutators.foldl (compute text) context

def Memory.view (memory : Memory α) : Stored α := memory.current.mapCart memory.heap

def Memory.rememberedView (memory : Memory α) : Stored α :=
  memory.remembered.mapCart memory.heap

-- A new list object, held by the context that `hold` makes of its reference.
def Memory.alloc (memory : Memory α) (lines : List Line) (hold : Ref → Context Ref α) : Memory α :=
  { memory with
    heap := Function.update memory.heap memory.fresh lines
    fresh := memory.fresh + 1
    current := hold memory.fresh }

def Memory.setCart (memory : Memory α) (lines : List Line) : Memory α :=
  memory.alloc lines fun ref => { memory.current with cart := some ref }

-- The list object the context refers to is changed in place.
def Memory.editInPlace (memory : Memory α) (ref : Ref) (edit : List Line → List Line) : Memory α :=
  { memory with heap := Function.update memory.heap ref (edit (memory.heap ref)) }

def step (text : Text) (memory : Memory α) : Mutator α → Memory α
  | .edit .clear => memory.alloc [] memory.current.clear
  | .edit (.add item) =>
      match memory.current.cart with
      | some ref => memory.editInPlace ref fun cart => addToCart cart item
      | none => memory.setCart (addToCart [] item)
  | .edit edit =>
      match memory.current.cart with
      | some ref => memory.editInPlace ref fun cart => apply text cart edit
      | none => memory
  | .setCart lines => memory.setCart lines
  | .setContext key value =>
      { memory with
        current := { memory.current with entries := memory.current.entries.insert key value } }
  | .relock =>
      { memory with
        current := { memory.current with
          confirmedCart := some ((memory.current.cart.map memory.heap).getD []) } }
  | .dealias =>
      match memory.current.cart with
      | some ref => memory.setCart (memory.heap ref)
      | none => memory
  | .restore saved =>
      match saved.cart with
      | some lines => memory.alloc lines fun ref => saved.mapCart fun _ => ref
      | none => { memory with current := saved.mapCart fun _ => memory.fresh }

-- The loaded value is the one remembered, and both refer to the same list.
def load (context : Stored α) : Memory α where
  heap := fun _ => context.cart.getD []
  fresh := 1
  current := context.mapCart fun _ => 0
  remembered := context.mapCart fun _ => 0
  stored := context

def flush [DecidableEq α] (memory : Memory α) : Memory α :=
  { memory with
    stored := if memory.view = memory.rememberedView then memory.stored else memory.view
    remembered := memory.current }

def handle [DecidableEq α] (text : Text) (context : Stored α) (mutators : List (Mutator α)) :
    Memory α :=
  flush (mutators.foldl (step text) (load context))

end Run

variable {α : Type} {text : Text} {memory : Memory α} {context base : Stored α} {held : Context Ref α}
  {loaded : Option (List Line) × Bool} {ref : Ref} {lines : List Line} {heap : Ref → List Line}
  {mutators : List (Mutator α)}

theorem mapCart_update (h : held.cart ≠ some ref) :
    held.mapCart (Function.update heap ref lines) = held.mapCart heap := by
  obtain ⟨cart, confirmedCart, entries⟩ := held
  cases cart with
  | none => rfl
  | some other =>
      have hne : other ≠ ref := fun heq => h (congrArg some heq)
      simp [Context.mapCart, hne]

theorem mapCart_update_self (h : held.cart = some ref) :
    held.mapCart (Function.update heap ref lines) =
      { held.mapCart heap with cart := some lines } := by
  simp [Context.mapCart, h]

structure Tracks (memory : Memory α) (context base : Stored α)
    (loaded : Option (List Line) × Bool) : Prop where
  view : memory.view = context
  remembered : memory.rememberedView = { base with cart := loaded.1 }
  stored : memory.stored = base
  live : ∀ ref, memory.current.cart = some ref → ref < memory.fresh
  old : ∀ ref, memory.remembered.cart = some ref → ref < memory.fresh
  shared : loaded.2 = true →
    ∃ ref, memory.current.cart = some ref ∧ memory.remembered.cart = some ref
  apart : loaded.2 = false →
    ∀ ref, memory.current.cart = some ref → memory.remembered.cart ≠ some ref

theorem Tracks.alloc (h : Tracks memory context base loaded) (lines : List Line)
    (hold : Ref → Context Ref α) (hcart : (hold memory.fresh).cart = some memory.fresh) :
    Tracks (memory.alloc lines hold)
      { cart := some lines
        confirmedCart := (hold memory.fresh).confirmedCart
        entries := (hold memory.fresh).entries } base (loaded.1, false) where
  view := by
    simp [Memory.view, Memory.alloc, Context.mapCart, hcart]
  remembered := by
    have hfresh : memory.remembered.cart ≠ some memory.fresh := fun heq =>
      lt_irrefl _ (h.old _ heq)
    exact (mapCart_update hfresh).trans h.remembered
  stored := h.stored
  live := by
    intro ref href
    obtain rfl : memory.fresh = ref := Option.some.inj (hcart.symm.trans href)
    exact Nat.lt_succ_self _
  old := fun ref href => Nat.lt_succ_of_lt (h.old ref href)
  shared := by simp
  apart := by
    intro _ ref href hremembered
    obtain rfl : memory.fresh = ref := Option.some.inj (hcart.symm.trans href)
    exact lt_irrefl _ (h.old _ hremembered)

theorem Tracks.setCart (h : Tracks memory context base loaded) (lines : List Line) :
    Tracks (memory.setCart lines) { context with cart := some lines } base (loaded.1, false) := by
  have halloc : Tracks (memory.setCart lines) _ base (loaded.1, false) :=
    h.alloc lines _ rfl
  rw [← h.view]
  exact halloc

theorem Tracks.editInPlace (h : Tracks memory context base loaded)
    (edit : List Line → List Line) (hcart : memory.current.cart = some ref) :
    Tracks (memory.editInPlace ref edit) { context with cart := context.cart.map edit } base
      (if loaded.2 then (loaded.1.map edit, true) else loaded) := by
  have hcontext : context.cart = some (memory.heap ref) := by
    simp [← h.view, Memory.view, Context.mapCart, hcart]
  have hview : (memory.editInPlace ref edit).view = { context with cart := context.cart.map edit } := by
    rw [hcontext, ← h.view]
    exact mapCart_update_self hcart
  cases hshared : loaded.2 with
  | true =>
      obtain ⟨other, hother, hremembered⟩ := h.shared hshared
      obtain rfl : ref = other := Option.some.inj (hcart.symm.trans hother)
      have hloaded : loaded.1 = some (memory.heap ref) := by
        have hcarts := congrArg Context.cart h.remembered
        simpa [Memory.rememberedView, Context.mapCart, hremembered] using hcarts.symm
      refine ⟨hview, ?_, h.stored, h.live, h.old, fun _ => ⟨ref, hcart, hremembered⟩, by simp⟩
      refine (mapCart_update_self hremembered).trans ?_
      rw [show memory.remembered.mapCart memory.heap = _ from h.remembered, hloaded]
      rfl
  | false =>
      have hapart := h.apart hshared ref hcart
      exact ⟨hview, (mapCart_update hapart).trans h.remembered, h.stored, h.live, h.old,
        by simp [hshared], fun _ => h.apart hshared⟩

theorem Tracks.absent (h : Tracks memory context base loaded)
    (hcart : memory.current.cart = none) : context.cart = none ∧ loaded = (loaded.1, false) := by
  have hcontext : context.cart = none := by
    simp [← h.view, Memory.view, Context.mapCart, hcart]
  refine ⟨hcontext, Prod.ext rfl (Bool.eq_false_iff.mpr fun hshared => ?_)⟩
  obtain ⟨ref, href, -⟩ := h.shared hshared
  rw [hcart] at href
  cases href

def burger : Line := newLine { menuItemId := 1, name := "burger", priceCents := 8500 }

section Edits

variable {edits : List Edit} {cart : List Line}

end Edits

end NextgenBackend.Bot.StoredContext
