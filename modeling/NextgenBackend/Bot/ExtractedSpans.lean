import NextgenBackend.Bot.Extraction
import NextgenBackend.Bot.ModifierSplit
import NextgenBackend.Bot.VariantAllocation

namespace NextgenBackend.Bot.Extraction

open Fallible Quantities Pattern
open Detectors (splitPattern splitCount splitTarget oneFoodName foodQuantity foodItems
  detectQuantityModifierSplit)
open Allocation (Variant choices)
open Llm (PyError)
open scoped List

section ExtractedQuantities

def Bounded (quantity : Int) : Prop := 1 ≤ quantity ∧ quantity ≤ 20

-- A token that passes for a number is one that can be read as a number.
structure Legible (token : List Char) : Prop where
  digits : isdigit token = true → Readable token
  times : isdigit token = false → times token = true → (timesDigits token).length ≤ maxDigits

section Conditions

variable (text : Cart.Text)

def LegibleBefore (msgLower : String) (v : Variant) : Prop :=
  ∀ m, Detectors.found (Allocation.wholeWord (text.lower v.shortName)) msgLower = some m →
    Legible (lastToken m.before.reverse)

-- The cart has one kind of food and a line of it with so many units.
def Splittable (cart : List Cart.Line) (count : Int) : Prop :=
  oneFoodName text cart = true ∧ count ≤ foodQuantity text cart ∧
    ∃ line ∈ foodItems text cart, count ≤ line.quantity

structure SplitCount (cart : List Cart.Line) (raw : String) : Prop where
  digits : isdigit raw.toList = true → Readable raw.toList
  bounded : ∀ count, splitCount raw = .ok count → 20 < count → ¬ Splittable text cart count

def SplitLegible (msgText : String) (cart : List Cart.Line) : Prop :=
  cart ≠ [] → ∀ m, Pattern.matchAt Text.isWordChar splitPattern []
      (Detectors.lowered text msgText).toList = some m →
    SplitCount text cart (text.lower (Detectors.group m 1))

end Conditions

variable {letters : Letters} {ignorePriceAmbiguity : Bool} {msgText : List Char}
  {menuItems : List MenuItem} {text : Cart.Text} {token before : List Char} {msgLower raw : String}
  {variants : List Variant} {cart : List Cart.Line} {count : Int} {modifier : String}

theorem int_succeeds : Succeeds (int token) ↔ Readable token := by
  rw [← int_ok_iff]
  simp [Succeeds, Gives]

theorem readable_timesDigits (h : times token = true) :
    Readable (timesDigits token) ↔ (timesDigits token).length ≤ maxDigits := by
  unfold times at h
  rw [Bool.and_eq_true] at h
  simp [Readable, h.2]

theorem readQuantity_succeeds : Succeeds (readQuantity token) ↔ Legible token := by
  unfold readQuantity
  split
  next hdigits =>
    simp only [Succeeds, gives_map]
    exact ⟨fun h => ⟨fun _ => int_succeeds.mp h, by simp [hdigits]⟩,
      fun h => int_succeeds.mpr (h.digits hdigits)⟩
  next hdigits =>
    rw [Bool.not_eq_true] at hdigits
    split
    next htimes =>
      simp only [Succeeds, gives_map]
      constructor
      · intro h
        exact ⟨by simp [hdigits], fun _ _ => (readable_timesDigits htimes).mp (int_succeeds.mp h)⟩
      · intro h
        exact int_succeeds.mpr ((readable_timesDigits htimes).mpr (h.times hdigits htimes))
    next htimes =>
      exact iff_of_true (gives_ok.mpr trivial) ⟨by simp [hdigits], by simp [htimes]⟩

theorem parseQuantityBefore_gives :
    Gives (parseQuantityBefore before) Bounded ↔ Legible (lastToken before) := by
  rw [← readQuantity_succeeds]
  constructor
  · exact fun h => h.mono fun _ _ => trivial
  · rintro ⟨quantity, hquantity, -⟩
    exact ⟨quantity, hquantity, readQuantity_range hquantity⟩

theorem quantity_succeeds {m : Match} : Succeeds m.quantity ↔ Legible (lastToken m.before) :=
  readQuantity_succeeds

theorem found_of_kept {m : Match}
    (h : m ∈ (matchMessage letters ignorePriceAmbiguity msgText menuItems).kept) :
    ∃ m' ∈ (matchMessage letters ignorePriceAmbiguity msgText menuItems).found,
      m'.bare = m.bare := by
  have hbare := bare_kept.subset (List.mem_map_of_mem h)
  obtain ⟨m', hm', hsame⟩ := List.mem_map.mp hbare
  exact ⟨m', hm', hsame⟩

theorem extractItems_gives :
    Gives (extractItemsFromMessage letters ignorePriceAmbiguity msgText menuItems)
        (fun entries => ∀ entry ∈ entries, Bounded entry.2.1) ↔
      ∀ m ∈ (matchMessage letters ignorePriceAmbiguity msgText menuItems).found,
        Legible (lastToken m.before) := by
  unfold extractItemsFromMessage
  simp only [gives_bind, gives_mapM, gives_map, quantity_succeeds]
  constructor
  · exact fun h => h.1
  · intro h
    refine ⟨h, fun m hm => ?_, fun entry hentry => ?_⟩
    · obtain ⟨m', hm', hsame⟩ := found_of_kept hm
      have hbefore : m'.bare.before = m.bare.before := congrArg Match.before hsame
      exact (hbefore ▸ h m' hm' : Legible (lastToken m.bare.before))
    · obtain ⟨m, -, hm⟩ := List.mem_filterMap.mp hentry
      obtain ⟨quantity, hquantity, rfl⟩ := map_eq_ok.mp (toOption_eq_some.mp hm)
      exact readQuantity_range hquantity

theorem chosen_gives {v : Variant} :
    Gives (Allocation.chosen text msgLower v) (fun choice => ∀ c ∈ choice, Bounded c.2) ↔
      LegibleBefore text msgLower v := by
  unfold Allocation.chosen LegibleBefore
  split
  next m hm => simpa [hm] using parseQuantityBefore_gives
  next hm => simp [hm]

theorem choices_gives :
    Gives (choices text msgLower variants) (fun added => ∀ choice ∈ added, Bounded choice.2) ↔
      ∀ v ∈ variants, LegibleBefore text msgLower v := by
  unfold choices
  rw [gives_map, gives_mapM]
  constructor
  · rintro ⟨hall, hbounded⟩ v hv
    obtain ⟨choice, hchoice, -⟩ := hall v hv
    refine chosen_gives.mp ⟨choice, hchoice, fun c hc => hbounded c ?_⟩
    refine List.reduceOption_mem_iff.mpr (List.mem_filterMap.mpr ⟨v, hv, ?_⟩)
    exact toOption_eq_some.mpr (hc ▸ hchoice)
  · intro h
    refine ⟨fun v hv => (chosen_gives.mpr (h v hv)).mono fun _ _ => trivial, fun c hc => ?_⟩
    obtain ⟨v, hv, hchosen⟩ := List.mem_filterMap.mp (List.reduceOption_mem_iff.mp hc)
    obtain ⟨choice, hchoice, hbounded⟩ := chosen_gives.mpr (h v hv)
    rw [toOption_eq_some.mp hchosen] at hchoice
    exact hbounded c (Except.ok.inj hchoice ▸ rfl)

theorem splitTarget_isSome : (splitTarget text cart count modifier).isSome ↔
    ∃ line ∈ foodItems text cart, count ≤ line.quantity := by
  unfold splitTarget
  rw [Option.isSome_or, Bool.or_eq_true, List.findIdx?_isSome, List.findIdx?_isSome,
    List.any_eq_true, List.any_eq_true]
  constructor
  · rintro (⟨line, hline, hfits⟩ | ⟨line, hline, hfits⟩)
    · simp only [Bool.and_eq_true, decide_eq_true_eq] at hfits
      exact ⟨line, List.mem_filter.mpr ⟨hline, hfits.1.1⟩, hfits.2⟩
    · simp only [Bool.and_eq_true, decide_eq_true_eq] at hfits
      exact ⟨line, List.mem_filter.mpr ⟨hline, hfits.1⟩, hfits.2⟩
  · rintro ⟨line, hline, hfits⟩
    obtain ⟨hmem, hfood⟩ := List.mem_filter.mp hline
    exact .inr ⟨line, hmem, by simp [hfood, hfits]⟩

theorem splitCount_succeeds : Succeeds (splitCount raw) ↔
    (isdigit raw.toList = true → Readable raw.toList) := by
  unfold splitCount
  split
  next h => simp [int_succeeds, h]
  next h => simp [h]

theorem splitBounded_iff (hcount : 0 < count) :
    (∀ split ∈ (splitTarget text cart count modifier).map fun i => ((count, modifier), i),
      Bounded split.1.1) ↔
      (20 < count → ¬ ∃ line ∈ foodItems text cart, count ≤ line.quantity) := by
  rw [← @splitTarget_isSome text cart count modifier]
  cases splitTarget text cart count modifier with
  | none => simp
  | some i =>
      simp only [Option.map_some, Option.mem_def, Option.some.injEq, forall_eq', Bounded,
        Option.isSome_some, not_true_eq_false, imp_false, not_lt]
      exact and_iff_right hcount

theorem splitResult_iff :
    (∀ split ∈ (if count ≤ 0 ∨ ¬ oneFoodName text cart ∨ foodQuantity text cart < count then none
        else (splitTarget text cart count modifier).map fun i => ((count, modifier), i)),
      Bounded split.1.1) ↔ (20 < count → ¬ Splittable text cart count) := by
  unfold Splittable
  split
  next hrefused =>
    refine iff_of_true (by simp) fun hlarge hsplittable => ?_
    rcases hrefused with hnone | hkinds | hunits
    · omega
    · exact hkinds hsplittable.1
    · omega
  next htaken =>
    simp only [not_or, not_not, not_le, not_lt] at htaken
    rw [splitBounded_iff htaken.1]
    simp [htaken.2.1, htaken.2.2]

theorem detectSplit_gives {request : String} :
    Gives (detectQuantityModifierSplit text request cart)
        (fun split => ∀ s ∈ split, Bounded s.1.1) ↔ SplitLegible text request cart := by
  unfold detectQuantityModifierSplit SplitLegible
  split
  next hempty => simp [hempty]
  next hcart =>
    split
    next hnone => simp [hnone]
    next m hm =>
      simp only [hm, Option.some.injEq, forall_eq', hcart, ne_eq, not_false_eq_true, forall_const,
        gives_map, splitResult_iff]
      constructor
      · rintro ⟨count, hcount, hbounded⟩
        refine ⟨splitCount_succeeds.mp ⟨count, hcount, trivial⟩, fun other hother => ?_⟩
        obtain rfl : count = other := Except.ok.inj (hcount.symm.trans hother)
        exact hbounded
      · rintro ⟨hdigits, hbounded⟩
        obtain ⟨count, hcount, -⟩ := splitCount_succeeds.mpr hdigits
        exact ⟨count, hcount, hbounded count hcount⟩

theorem extraction_safe_iff (letters : Letters) (text : Cart.Text) (ignorePriceAmbiguity : Bool)
    (msgText : List Char) (menuItems : List MenuItem) (answer request : String)
    (variants : List Variant) (cart : List Cart.Line) :
    (Gives (extractItemsFromMessage letters ignorePriceAmbiguity msgText menuItems)
        (fun entries => ∀ entry ∈ entries, Bounded entry.2.1) ↔
      ∀ m ∈ (matchMessage letters ignorePriceAmbiguity msgText menuItems).found,
        Legible (lastToken m.before)) ∧
    (Gives (choices text answer variants) (fun added => ∀ choice ∈ added, Bounded choice.2) ↔
      ∀ v ∈ variants, LegibleBefore text answer v) ∧
    (Gives (detectQuantityModifierSplit text request cart)
        (fun split => ∀ s ∈ split, Bounded s.1.1) ↔ SplitLegible text request cart) :=
  ⟨extractItems_gives, choices_gives, detectSplit_gives⟩

def asciiLetters : Letters where
  lower := fun s => s.map Char.toLower
  isAlpha := Char.isAlpha
  lowerChar := Char.toLower
  lower_plain := fun _ _ => rfl
  lowerChar_blank := by decide
  isAlpha_blank := by decide

def soldItem (id : Uuid) (name : String) (priceCents : Cents) : MenuItem where
  id := id
  businessId := 1
  name := name
  priceCents := priceCents
  optionGroups := []
  removableIngredients := []
  addOnIds := []
  isActive := true
  isDeleted := false
  requiresPreparation := true

theorem raised_two_fails :
    ¬ ∀ (letters : Letters) (ignorePriceAmbiguity : Bool) (msgText : List Char)
      (menuItems : List MenuItem),
      Gives (extractItemsFromMessage letters ignorePriceAmbiguity msgText menuItems)
        (fun entries => ∀ entry ∈ entries, Bounded entry.2.1) := by
  intro h
  have hfails : extractItemsFromMessage asciiLetters false "² chips".toList
      [soldItem 1 "Chips" 2500] = .error .valueError := by decide +kernel
  obtain ⟨entries, hentries, -⟩ :=
    h asciiLetters false "² chips".toList [soldItem 1 "Chips" 2500]
  rw [hfails] at hentries
  cases hentries

end ExtractedQuantities

section Texts

variable {name text text' : List Char} {letters : Letters} {i start stop : Nat}

-- The texts that are lowered character by character.
def Plain (text : List Char) : Prop := ∀ c ∈ text, c ≠ 'İ' ∧ c ≠ 'Σ'

-- A name that neither begins nor ends with a blank and has no two in a row.
structure Tidy (name : List Char) : Prop where
  first : name[0]? ≠ some ' '
  last : name[name.length - 1]? ≠ some ' '
  single : ∀ k, name[k]? = some ' ' → name[k + 1]? ≠ some ' '

structure BlankRun (text : List Char) (start stop : Nat) : Prop where
  long : start + 2 ≤ stop
  blank : ∀ i, start ≤ i → i < stop → text[i]? = some ' '

theorem at_iff : name <+: text.drop i ↔ ∀ k < name.length, text[i + k]? = name[k]? := by
  rw [List.prefix_iff_getElem?]
  constructor
  · intro h k hk
    rw [← List.getElem?_drop, h k hk, List.getElem?_eq_getElem hk]
  · intro h k hk
    rw [List.getElem?_drop, h k hk, List.getElem?_eq_getElem hk]

theorem apart_of_blankRun (htidy : Tidy name) (hne : name ≠ []) (hat : name <+: text.drop i)
    (hrun : BlankRun text start stop) : i + name.length ≤ start ∨ stop ≤ i := by
  have hpos := List.length_pos_iff.mpr hne
  have hlong := hrun.long
  have hread := at_iff.mp hat
  by_contra hoverlap
  rw [not_or, not_le, not_le] at hoverlap
  by_cases hinside : start ≤ i
  · have hblank := hrun.blank i hinside hoverlap.2
    exact htidy.first ((hread 0 hpos).symm.trans hblank)
  · obtain ⟨k, hk⟩ : ∃ k, start = i + k := Nat.exists_eq_add_of_le (by omega)
    have hblank : name[k]? = some ' ' :=
      (hread k (by omega)).symm.trans (hrun.blank (i + k) (by omega) (by omega))
    by_cases hnext : k + 1 < name.length
    · refine htidy.single k hblank ?_
      exact (hread (k + 1) hnext).symm.trans (hrun.blank (i + (k + 1)) (by omega) (by omega))
    · have hlast : k = name.length - 1 := by omega
      exact htidy.last (hlast ▸ hblank)

theorem lower_get (h : Plain text) : (letters.lower text)[i]? = text[i]?.map letters.lowerChar := by
  rw [letters.lower_plain text h, List.getElem?_map]

theorem lower_length (h : Plain text) : (letters.lower text).length = text.length := by
  rw [letters.lower_plain text h, List.length_map]

theorem BlankRun.lower (h : BlankRun text start stop) (hplain : Plain text) :
    BlankRun (letters.lower text) start stop where
  long := h.long
  blank := by
    intro i hstart hstop
    rw [lower_get hplain, h.blank i hstart hstop, Option.map_some, letters.lowerChar_blank]

theorem excise_get (hle : start ≤ stop) (hstop : stop ≤ text.length) :
    (excise text start stop)[i]? = if start ≤ i ∧ i < stop then some ' ' else text[i]? := by
  have hstart : (text.take start).length = start := by
    rw [List.length_take]
    omega
  unfold excise
  rw [List.append_assoc]
  by_cases hbefore : i < start
  · rw [List.getElem?_append_left (by omega), List.getElem?_take_of_lt hbefore, if_neg (by omega)]
  · rw [List.getElem?_append_right (by omega), hstart]
    by_cases hinside : i < stop
    · rw [List.getElem?_append_left (by rw [List.length_replicate]; omega),
        List.getElem?_replicate_of_lt (by omega), if_pos ⟨by omega, hinside⟩]
    · rw [List.getElem?_append_right (by rw [List.length_replicate]; omega),
        List.length_replicate, List.getElem?_drop, if_neg (by omega)]
      congr 1
      omega

theorem excise_length (hle : start ≤ stop) (hstop : stop ≤ text.length) :
    (excise text start stop).length = text.length := by
  unfold excise
  simp only [List.length_append, List.length_take, List.length_replicate, List.length_drop]
  omega

theorem excise_plain (h : Plain text) : Plain (excise text start stop) := by
  intro c hc
  unfold excise at hc
  simp only [List.mem_append, List.mem_replicate] at hc
  rcases hc with (hc | ⟨-, rfl⟩) | hc
  · exact h c (List.mem_of_mem_take hc)
  · decide
  · exact h c (List.mem_of_mem_drop hc)

theorem find_none (h : find name text = none) (hne : name ≠ []) : ¬ name <+: text.drop i := by
  intro hat
  have hpos := List.length_pos_iff.mpr hne
  have hlength := hat.length_le
  rw [List.length_drop] at hlength
  have hplace : i ∈ places text := List.mem_range.mpr (by omega)
  have hnot := List.find?_eq_none.mp h i hplace
  exact hnot (List.isPrefixOf_iff_prefix.mpr hat)

end Texts

-- A name of the list that stands at a place of the text.
def Occurs (names : List (List Char)) (text name : List Char) (i : Nat) : Prop :=
  name ∈ names ∧ name <+: text.drop i

-- An occurrence that is not inside a longer one.
structure Outer (names : List (List Char)) (text name : List Char) (i : Nat) : Prop where
  occurs : Occurs names text name i
  largest : ∀ other k, Occurs names text other k → k ≤ i → i + name.length ≤ k + other.length →
    other.length ≤ name.length

def Match.Apart (m m' : Match) : Prop := m.stop ≤ m'.start ∨ m'.stop ≤ m.start

def partNames (letters : Letters) (active : List MenuItem) : List (List Char) :=
  (active.filter (multiPart letters)).map (nameLower letters)

-- Every name of several parts stands once in the message, as whole words and apart from others.
structure WellSpoken (letters : Letters) (msgText : List Char) (active : List MenuItem) : Prop where
  plain : Plain msgText
  plainNames : ∀ item ∈ active, Plain item.name.toList
  tidy : ∀ item ∈ active, Tidy (nameLower letters item)
  long : ∀ name ∈ partNames letters active, 2 ≤ name.length
  whole : ∀ name i, Outer (partNames letters active) (letters.lower msgText) name i →
    alphaBefore letters (letters.lower msgText) i = false ∧
      alphaAt letters (letters.lower msgText) (i + name.length) = false
  apart : ∀ name i other k, Outer (partNames letters active) (letters.lower msgText) name i →
    Outer (partNames letters active) (letters.lower msgText) other k →
      (name = other ∧ i = k) ∨
        (name ≠ other ∧ (i + name.length ≤ k ∨ k + other.length ≤ i))

-- The text once the names in the list have been taken out of the message.
structure Cleared (letters : Letters) (msgText : List Char) (active : List MenuItem)
    (done : List (List Char)) (state : Excised) : Prop where
  length : state.text.length = msgText.length
  plain : Plain state.text
  blank : ∀ m ∈ state.matched, BlankRun state.text m.start m.stop
  same : ∀ i, (∀ m ∈ state.matched, i < m.start ∨ m.stop ≤ i) → state.text[i]? = msgText[i]?
  outer : ∀ m ∈ state.matched,
    Outer (partNames letters active) (letters.lower msgText) (nameLower letters m.item) m.start ∧
      m.stop = m.start + (nameLower letters m.item).length
  covered : ∀ name i, Outer (partNames letters active) (letters.lower msgText) name i →
    name ∈ done → ∃ m ∈ state.matched, m.start = i ∧ m.stop = i + name.length
  apart : state.matched.Pairwise Match.Apart

section WholeNames

variable {letters : Letters} {msgText : List Char} {active : List MenuItem}
  {done : List (List Char)} {state : Excised} {item : MenuItem} {name : List Char} {i : Nat}

theorem Cleared.lower_same (h : Cleared letters msgText active done state) (hplain : Plain msgText)
    (hi : ∀ m ∈ state.matched, i < m.start ∨ m.stop ≤ i) :
    (letters.lower state.text)[i]? = (letters.lower msgText)[i]? := by
  rw [lower_get h.plain, lower_get hplain, h.same i hi]

theorem Cleared.visible (h : Cleared letters msgText active done state)
    (hspoken : WellSpoken letters msgText active)
    (houter : Outer (partNames letters active) (letters.lower msgText) name i) :
    (∃ m ∈ state.matched, m.start = i ∧ m.stop = i + name.length) ∨
      name <+: (letters.lower state.text).drop i := by
  by_cases hcovered : ∃ m ∈ state.matched, m.start = i ∧ m.stop = i + name.length
  · exact .inl hcovered
  · refine .inr (at_iff.mpr fun k hk => ?_)
    rw [h.lower_same hspoken.plain, at_iff.mp houter.occurs.2 k hk]
    intro m hm
    obtain ⟨hm_outer, hm_stop⟩ := h.outer m hm
    rcases hspoken.apart _ _ _ _ houter hm_outer with ⟨hname, hplace⟩ | ⟨-, hapart⟩
    · exact absurd ⟨m, hm, hplace.symm, by rw [hm_stop, hname, hplace]⟩ hcovered
    · omega

theorem Cleared.skip (h : Cleared letters msgText active done state)
    (hspoken : WellSpoken letters msgText active) (hname : name ∈ partNames letters active)
    (hnone : find name (letters.lower state.text) = none) :
    Cleared letters msgText active (name :: done) state where
  length := h.length
  plain := h.plain
  blank := h.blank
  same := h.same
  outer := h.outer
  covered := by
    intro other k houter hdone
    rcases List.mem_cons.mp hdone with rfl | hdone
    · rcases h.visible hspoken houter with hcovered | hseen
      · exact hcovered
      · have hlong := hspoken.long other hname
        exact absurd hseen (find_none hnone (List.length_pos_iff.mp (by omega)))
    · exact h.covered other k houter hdone
  apart := h.apart

theorem Cleared.take {m : Match} (h : Cleared letters msgText active done state)
    (hspoken : WellSpoken letters msgText active)
    (houter : Outer (partNames letters active) (letters.lower msgText)
      (nameLower letters m.item) m.start)
    (hstop : m.stop = m.start + (nameLower letters m.item).length)
    (hfree : ∀ other ∈ state.matched, m.stop ≤ other.start ∨ other.stop ≤ m.start) :
    Cleared letters msgText active (nameLower letters m.item :: done)
      ⟨excise state.text m.start m.stop, state.matched ++ [m]⟩ := by
  have hlong := hspoken.long _ houter.occurs.1
  have hfits : m.stop ≤ state.text.length := by
    have hlength := houter.occurs.2.length_le
    rw [List.length_drop, lower_length hspoken.plain] at hlength
    rw [h.length]
    omega
  have hget (i : Nat) : (excise state.text m.start m.stop)[i]? =
      if m.start ≤ i ∧ i < m.stop then some ' ' else state.text[i]? :=
    excise_get (by omega) hfits
  refine ⟨?_, excise_plain h.plain, ?_, ?_, ?_, ?_, ?_⟩
  · rw [excise_length (by omega) hfits, h.length]
  · intro other hother
    rcases List.mem_append.mp hother with hother | hother
    · have hother_free := hfree other hother
      refine ⟨(h.blank other hother).long, fun i hi hi' => ?_⟩
      rw [hget, if_neg (by omega)]
      exact (h.blank other hother).blank i hi hi'
    · obtain rfl := List.mem_singleton.mp hother
      refine ⟨by omega, fun i hi hi' => ?_⟩
      rw [hget, if_pos ⟨hi, hi'⟩]
  · intro i hi
    have hm := hi m (by simp)
    rw [hget, if_neg (by omega)]
    exact h.same i fun other hother => hi other (List.mem_append_left _ hother)
  · intro other hother
    rcases List.mem_append.mp hother with hother | hother
    · exact h.outer other hother
    · obtain rfl := List.mem_singleton.mp hother
      exact ⟨houter, hstop⟩
  · intro name i hname hdone
    rcases List.mem_cons.mp hdone with rfl | hdone
    · rcases hspoken.apart _ _ _ _ hname houter with ⟨-, hplace⟩ | ⟨hne, -⟩
      · exact ⟨m, by simp, hplace.symm, by rw [hstop, hplace]⟩
      · exact absurd rfl hne
    · obtain ⟨other, hother, hplace⟩ := h.covered name i hname hdone
      exact ⟨other, List.mem_append_left _ hother, hplace⟩
  · refine List.pairwise_append.mpr ⟨h.apart, List.pairwise_singleton _ _, ?_⟩
    intro other hother m' hm'
    obtain rfl := List.mem_singleton.mp hm'
    exact (hfree other hother).symm

end WholeNames

section Chunks

variable {letters : Letters} {active : List MenuItem} {ignorePriceAmbiguity : Bool} {chunk : Chunk}
  {scan : Scan} {m : Match} {item : MenuItem} {p : Char → Prop} {matched : List Match}
  {names : List (List Char)} {start stop : Nat}

theorem free_iff : free matched start stop = true ↔
    ∀ m ∈ matched, stop ≤ m.start ∨ m.stop ≤ start := by
  simp [free]

theorem unbroken_of_all {text : List Char} (h : text.all (· ≠ ' ') = true) : ∀ c ∈ text, c ≠ ' ' := by
  simpa using h

theorem avoids_spelled {ds : List Char} (h : ∀ d ∈ ds, ¬ p d) : Avoids p (spelled id ds) := by
  induction ds with
  | nil => trivial
  | cons d ds ih =>
      refine ⟨fun c hc => ?_, ih fun e he => h e (List.mem_cons_of_mem _ he)⟩
      obtain rfl : c = d := by simpa using hc
      exact h c List.mem_cons_self

theorem avoids_aliasPattern {shorthand : List Char} (h : ∀ d ∈ shorthand, d ≠ ' ') :
    Avoids (· = ' ') (aliasPattern shorthand) := by
  have hword := avoids_spelled (p := (· = ' ')) h
  have hplural : Avoids (· = ' ') (.seq (spelled id shorthand) (opt (word "s"))) :=
    ⟨hword, avoids_spelled (unbroken_of_all (by decide)), trivial⟩
  refine ⟨trivial, trivial, ?_, trivial⟩
  unfold aliasForms
  split
  · split
    · exact hplural
    · exact ⟨hplural, avoids_spelled fun d hd => h d ((List.dropLast_sublist _).mem hd),
        avoids_spelled (unbroken_of_all (by decide))⟩
  · exact hplural

theorem aliases_unbroken : ∀ entry ∈ itemAliases, ∀ c ∈ entry.1.toList, c ≠ ' ' := by
  have hall : itemAliases.all (fun entry => entry.1.toList.all (· ≠ ' ')) = true := by decide
  exact fun entry hentry => unbroken_of_all (List.all_eq_true.mp hall entry hentry)

theorem tidy_of_unbroken {name : List Char} (h : ∀ c ∈ name, c ≠ ' ') : Tidy name := by
  have hget (i : Nat) : name[i]? ≠ some ' ' := fun hi => h ' ' (List.mem_of_getElem? hi) rfl
  exact ⟨hget _, hget _, fun _ _ => hget _⟩

-- A match takes a name or an alias that stands in the chunk.
def Spelled (letters : Letters) (active : List MenuItem) (chunk : Chunk) (m : Match) : Prop :=
  ∃ needle k, needle ≠ [] ∧ ((∀ item ∈ active, Tidy (nameLower letters item)) → Tidy needle) ∧
    needle <+: chunk.text.drop k ∧ m.start = chunk.offset + k ∧ m.stop = m.start + needle.length

structure Taken (letters : Letters) (active : List MenuItem) (chunk : Chunk) (scan : Scan)
    (m : Match) : Prop where
  spelled : Spelled letters active chunk m
  free : ∀ other ∈ scan.matched, m.stop ≤ other.start ∨ other.stop ≤ m.start
  item : m.item ∈ active
  fresh : nameLower letters m.item ∉ scan.names
  unnoted : m.notes = []

theorem choose_mem {text : List Char} {items : List MenuItem}
    (h : choose letters ignorePriceAmbiguity text items = some item) : item ∈ items := by
  unfold choose at h
  split at h
  · split at h
    next other hnamed =>
      obtain rfl := Option.some.inj h
      exact List.mem_of_mem_filter (hnamed ▸ List.mem_singleton_self other)
    next => cases h
  · exact List.mem_of_head? h

theorem taken_aliasMatch {entry : String × String} (hentry : entry ∈ itemAliases)
    (h : aliasMatch letters active ignorePriceAmbiguity chunk scan.matched scan.names entry.1
      entry.2 = some m) : Taken letters active chunk scan m := by
  obtain ⟨found, hfound, hm⟩ := List.exists_of_findSome?_eq_some h
  obtain ⟨hne, hin, havoid⟩ := mem_findAll hfound
  have hunbroken := havoid (avoids_aliasPattern (aliases_unbroken entry hentry))
  simp only at hm
  split at hm
  next hfree =>
    obtain ⟨item, hitem, rfl⟩ := Option.map_eq_some_iff.mp hm
    obtain ⟨hactive, hnamed⟩ := List.mem_filter.mp (choose_mem hitem)
    refine ⟨⟨found.text, found.before.length, hne, fun _ => tidy_of_unbroken hunbroken, ?_, rfl,
      rfl⟩, free_iff.mp hfree, hactive, ?_, ?_⟩
    · rw [hin, List.append_assoc, List.drop_left' (by simp)]
      exact List.prefix_append _ _
    · simpa using (Bool.and_eq_true_iff.mp hnamed).2
    · rfl
  next => cases hm

theorem taken_nameMatch (hitem : item ∈ active)
    (h : nameMatch letters chunk scan.matched scan.names item = some m) :
    Taken letters active chunk scan m := by
  simp only [nameMatch] at h
  split at h
  next => cases h
  next hnew =>
    simp only [Bool.or_eq_true, decide_eq_true_eq, not_or, not_lt] at hnew
    obtain ⟨i, hi, rfl⟩ := Option.map_eq_some_iff.mp h
    have hat := List.find?_some hi
    simp only [nameAt, Bool.and_eq_true] at hat
    refine ⟨⟨nameLower letters item, i, List.length_pos_iff.mp (by omega), fun htidy => htidy item hitem,
      List.isPrefixOf_iff_prefix.mp hat.1.1.1, rfl, rfl⟩, free_iff.mp hat.1.1.2, hitem, ?_, rfl⟩
    simpa using hnew.2

-- What holds of a chunk as far as it is scanned, after the items found before it.
structure Scanned (letters : Letters) (active : List MenuItem) (chunk : Chunk)
    (earlier : List MenuItem) (scan : Scan) : Prop where
  spelled : ∀ m ∈ scan.matched, Spelled letters active chunk m
  apart : scan.matched.Pairwise Match.Apart
  listed : earlier ++ scan.matched.map Match.item <+~ active
  named : ∀ item ∈ earlier ++ scan.matched.map Match.item, nameLower letters item ∈ scan.names
  distinct : (scan.matched.map fun m => nameLower letters m.item).Nodup
  unnoted : ∀ m ∈ scan.matched, m.notes = []

theorem listed_snoc {items : List MenuItem} (h : items <+~ active) (hitem : item ∈ active)
    (hnew : item ∉ items) : items ++ [item] <+~ active := by
  refine (List.perm_append_singleton item items).subperm_right.mpr ?_
  exact List.cons_subperm_of_not_mem_of_mem hnew hitem h

theorem Scanned.record {earlier : List MenuItem} {found : Option Match}
    (h : Scanned letters active chunk earlier scan)
    (hfound : ∀ m, found = some m → Taken letters active chunk scan m) :
    Scanned letters active chunk earlier (scan.record letters found) := by
  cases found with
  | none => exact h
  | some m =>
      have htaken := hfound m rfl
      have hnew : m.item ∉ earlier ++ scan.matched.map Match.item := fun hmem =>
        htaken.fresh (h.named _ hmem)
      refine ⟨?_, ?_, ?_, ?_, ?_, ?_⟩
      · intro other hother
        rcases List.mem_append.mp hother with hother | hother
        · exact h.spelled other hother
        · exact List.mem_singleton.mp hother ▸ htaken.spelled
      · refine List.pairwise_append.mpr ⟨h.apart, List.pairwise_singleton _ _, ?_⟩
        intro other hother m' hm'
        obtain rfl := List.mem_singleton.mp hm'
        exact (htaken.free other hother).symm
      · simpa [Scan.record] using listed_snoc h.listed htaken.item hnew
      · intro item hitem
        simp only [Scan.record, List.map_append, List.map_cons, List.map_nil, ← List.append_assoc,
          List.mem_append, List.mem_singleton] at hitem
        rcases hitem with hitem | rfl
        · exact List.mem_cons_of_mem _ (h.named item (List.mem_append.mpr hitem))
        · exact List.mem_cons_self
      · have hfresh : ∀ other ∈ scan.matched,
            nameLower letters other.item ≠ nameLower letters m.item := fun other hother hsame =>
          htaken.fresh (hsame ▸ h.named other.item
            (List.mem_append_right _ (List.mem_map_of_mem hother)))
        simpa [Scan.record, List.nodup_append, h.distinct] using hfresh
      · intro other hother
        rcases List.mem_append.mp hother with hother | hother
        · exact h.unnoted other hother
        · exact List.mem_singleton.mp hother ▸ htaken.unnoted

theorem scanned_scanChunk {earlier : List MenuItem} {names : List (List Char)}
    (hlisted : earlier <+~ active) (hnamed : ∀ item ∈ earlier, nameLower letters item ∈ names) :
    Scanned letters active chunk earlier
      (scanChunk letters active ignorePriceAmbiguity chunk names) := by
  have hstart : Scanned letters active chunk earlier ⟨[], names⟩ :=
    ⟨by simp, .nil, by simpa using hlisted, by simpa using hnamed, .nil, by simp⟩
  have haliases (entries : List (String × String)) (hentries : ∀ entry ∈ entries, entry ∈ itemAliases)
      (scan : Scan) (hscan : Scanned letters active chunk earlier scan) :
      Scanned letters active chunk earlier
        (entries.foldl (scanAlias letters active ignorePriceAmbiguity chunk) scan) := by
    induction entries generalizing scan with
    | nil => exact hscan
    | cons entry entries ih =>
        obtain ⟨hentry, hrest⟩ := List.forall_mem_cons.mp hentries
        exact ih hrest _ (hscan.record fun m hm => taken_aliasMatch hentry hm)
  have hitems (items : List MenuItem) (hactive : ∀ item ∈ items, item ∈ active)
      (scan : Scan) (hscan : Scanned letters active chunk earlier scan) :
      Scanned letters active chunk earlier (items.foldl (scanName letters chunk) scan) := by
    induction items generalizing scan with
    | nil => exact hscan
    | cons item items ih =>
        obtain ⟨hitem, hrest⟩ := List.forall_mem_cons.mp hactive
        exact ih hrest _ (hscan.record fun m hm => taken_nameMatch hitem hm)
  unfold scanChunk
  split
  · exact hstart
  · exact hitems _ (fun _ h => h) _ (haliases _ (fun _ h => h) _ hstart)

end Chunks

section Pieces

variable {letters : Letters} {active : List MenuItem} {ignorePriceAmbiguity : Bool}
  {text piece : List Char} {offset : Nat} {m : Match}

-- A match takes a name that stands at its place in the text, a tidy one once names are taken out.
def Sits (letters : Letters) (text : List Char) (whole : List Match) (m : Match) : Prop :=
  ∃ needle, needle ≠ [] ∧ (whole ≠ [] → Tidy needle) ∧ needle <+: (letters.lower text).drop m.start ∧
    m.stop = m.start + needle.length

theorem prefix_drop {i : Nat} (h : piece <+: text) : piece.drop i <+: text.drop i := by
  obtain ⟨rest, rfl⟩ := h
  rw [List.drop_append]
  exact List.prefix_append _ _

theorem Spelled.sits {chunk : Chunk} {whole : List Match} (h : Spelled letters active chunk m)
    (htidy : whole ≠ [] → ∀ item ∈ active, Tidy (nameLower letters item))
    (hchunk : chunk.text <+: (letters.lower text).drop chunk.offset) :
    Sits letters text whole m ∧ chunk.offset ≤ m.start ∧ m.stop ≤ chunk.offset + chunk.text.length := by
  obtain ⟨needle, k, hne, hneedle, hat, hstart, hstop⟩ := h
  have hpos := List.length_pos_iff.mpr hne
  have hlength := hat.length_le
  rw [List.length_drop] at hlength
  have htext := prefix_drop (i := k) hchunk
  rw [List.drop_drop, ← hstart] at htext
  exact ⟨⟨needle, hne, fun hwhole => hneedle (htidy hwhole), hat.trans htext, hstop⟩, by omega,
    by omega⟩

theorem Sits.apart {whole : List Match} (h : Sits letters text whole m) (hwhole : whole ≠ [])
    (hplain : Plain text) {start stop : Nat} (hrun : BlankRun text start stop) : m.stop ≤ start ∨ stop ≤ m.start := by
  obtain ⟨needle, hne, htidy, hat, hstop⟩ := h
  have hapart := apart_of_blankRun (htidy hwhole) hne hat (hrun.lower hplain)
  rwa [← hstop] at hapart

-- Every item is found at most as often as the menu lists it.
structure Listed (letters : Letters) (active : List MenuItem) (progress : Progress) : Prop where
  listed : progress.found.map Match.item <+~ active
  named : ∀ item ∈ progress.found.map Match.item, nameLower letters item ∈ progress.names

-- What is found lies apart, and after the names taken out it lies in the pieces read so far.
structure Placed (letters : Letters) (text : List Char) (whole : List Match)
    (pieces : List (List Char × Nat)) (progress : Progress) : Prop where
  apart : progress.found.Pairwise Match.Apart
  sits : ∀ m ∈ progress.found,
    m ∈ whole ∨ (Sits letters text whole m ∧ ∀ piece ∈ pieces, m.stop ≤ piece.2)

variable {progress : Progress} {whole : List Match} {pieces : List (List Char × Nat)}
  {part : List Char × Nat}

theorem Listed.scanned {chunk : Chunk} (h : Listed letters active progress) :
    Scanned letters active chunk (progress.found.map Match.item)
      (scanChunk letters active ignorePriceAmbiguity chunk progress.names) :=
  scanned_scanChunk h.listed h.named

theorem listed_extractChunk (h : Listed letters active progress) :
    Listed letters active (extractChunk letters active ignorePriceAmbiguity progress part) where
  listed := by simpa [extractChunk] using h.scanned.listed
  named := by simpa [extractChunk] using h.scanned.named

end Pieces

section Message

variable {letters : Letters} {msgText : List Char} {menuItems active : List MenuItem}
  {ignorePriceAmbiguity : Bool} {m : Match}

theorem wholeName_item {text : List Char} {item : MenuItem}
    (h : wholeName letters text item = some m) : m.item = item := by
  obtain ⟨i, -, rfl⟩ := Option.map_eq_some_iff.mp h
  rfl

theorem wholeNames_listed : (wholeNames letters msgText active).matched.map Match.item <+ active := by
  have hfold (items : List MenuItem) (state : Excised) :
      (items.foldl (exciseItem letters) state).matched.map Match.item <+
        state.matched.map Match.item ++ items := by
    induction items generalizing state with
    | nil => simp
    | cons item items ih =>
        refine (ih _).trans ?_
        rw [List.append_cons]
        refine List.Sublist.append_right ?_ _
        unfold exciseItem
        split
        next => exact List.sublist_append_left _ _
        next m hm => simp [wholeName_item hm]
  exact (hfold _ _).trans (by simp)

theorem listed_start : Listed letters active ⟨(wholeNames letters msgText active).matched,
    [], (wholeNames letters msgText active).matched,
    (wholeNames letters msgText active).matched.map fun m => nameLower letters m.item⟩ where
  listed := wholeNames_listed.subperm
  named := by
    intro item hitem
    obtain ⟨m, hm, rfl⟩ := List.mem_map.mp hitem
    exact List.mem_map_of_mem hm

end Message

section Tea

end Tea

end NextgenBackend.Bot.Extraction
