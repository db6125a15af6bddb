import NextgenBackend.Receipts.Escpos

namespace NextgenBackend.Receipts.Escpos

open Text
open scoped List

section Columns

variable {left right text : List Char} {columns : Nat}

theorem length_spaces (n : Nat) : (spaces n).length = n :=
  List.length_replicate

-- What is left of the left text: the right one and a space come first.
def kept (left right : List Char) (columns : Nat) : List Char :=
  left.take (columns - right.length - if left = [] then 0 else 1)

theorem twoColumn_eq : twoColumn left right columns = kept left right columns ++
    spaces (columns - (kept left right columns).length - right.length) ++ right :=
  rfl

theorem length_kept (left right : List Char) (columns : Nat) :
    (kept left right columns).length ≤ columns - right.length - if left = [] then 0 else 1 :=
  List.length_take_le _ _

theorem kept_eq_nil (h : columns ≤ right.length) : kept left right columns = [] :=
  List.eq_nil_of_length_eq_zero (by have := length_kept left right columns; omega)

theorem length_twoColumn (h : right.length ≤ columns) :
    (twoColumn left right columns).length = columns := by
  have hkept := length_kept left right columns
  simp only [twoColumn_eq, List.length_append, length_spaces]
  omega

theorem twoColumn_of_lt (h : columns < right.length) : twoColumn left right columns = right := by
  have hzero : columns - right.length = 0 := by omega
  simp [twoColumn_eq, kept_eq_nil h.le, hzero, spaces]

theorem length_centre : (centre text columns).length ≤ columns := by
  have htake := List.length_take_le columns text
  have hparity : (columns - (text.take columns).length) % 2 * (columns % 2) ≤
      (columns - (text.take columns).length) % 2 := by
    rcases Nat.mod_two_eq_zero_or_one columns with h | h <;> simp [h]
  have hcenter : (center (text.take columns) columns).length = columns := by
    simp only [center, List.length_append, length_spaces]
    omega
  calc (centre text columns).length ≤ (center (text.take columns) columns).length :=
        rstrip_sublist.length_le
    _ = columns := hcenter

theorem words_gap (n : Nat) : words (left ++ spaces (n + 1) ++ right) =
    words left ++ words right := by
  have hspaces : left ++ spaces (n + 1) ++ right = left ++ ' ' :: (spaces n ++ right) := by
    simp [spaces, List.replicate_succ]
  rw [hspaces, words_append_cons _ (by decide), words_spaces_append]

-- The left text gives way to the right one, and never touches it.
theorem words_twoColumn :
    words (twoColumn left right columns) = words (kept left right columns) ++ words right := by
  rw [twoColumn_eq]
  cases hgap : columns - (kept left right columns).length - right.length with
  | zero =>
      have hnil : kept left right columns = [] := by
        by_cases hleft : left = []
        · simp [kept, hleft]
        · have hkept := length_kept left right columns
          rw [if_neg hleft] at hkept
          exact List.eq_nil_of_length_eq_zero (by omega)
      rw [hnil]
      rfl
  | succ n => exact words_gap n

theorem kept_of_fits (h : left.length + right.length + 1 ≤ columns) :
    kept left right columns = left :=
  List.take_of_length_le (by split <;> omega)

end Columns

section Wrapping

variable {usable columns indent : Nat} {word text row : List Char} {w : Wrapping}

-- A word as it is printed: whole, or cut to the width where it is longer.
def cut (usable : Nat) (word : List Char) : List (List Char) :=
  (hardSplit usable word).1 ++ [(hardSplit usable word).2]

theorem cut_spec (hpos : 0 < usable) (hword : IsWord word) :
    ∀ piece ∈ cut usable word, IsWord piece ∧ piece.length ≤ usable := by
  unfold cut
  fun_induction hardSplit usable word with
  | case1 word h split ih =>
      have hdrop : IsWord (word.drop usable) :=
        ⟨by simp [h.2], fun c hc => hword.2 c (List.mem_of_mem_drop hc)⟩
      have htake : IsWord (word.take usable) :=
        ⟨by simp [hword.1, hpos.ne'], fun c hc => hword.2 c (List.mem_of_mem_take hc)⟩
      intro piece hpiece
      rcases List.mem_cons.mp hpiece with rfl | hpiece
      · exact ⟨htake, List.length_take_le _ _⟩
      · exact ih hdrop piece hpiece
  | case2 word h =>
      intro piece hpiece
      obtain rfl := List.mem_singleton.mp hpiece
      exact ⟨hword, not_lt.mp fun hlt => h ⟨hpos, hlt⟩⟩

theorem rest_ne_nil (hpos : 0 < usable) (hword : IsWord word) : (hardSplit usable word).2 ≠ [] :=
  (cut_spec hpos hword _ (List.mem_append_right _ List.mem_cons_self)).1.1

theorem cut_of_le (h : word.length ≤ usable) : cut usable word = [word] := by
  rw [cut, hardSplit, if_neg (by omega)]
  rfl

-- The word goes on lines of its own, or whole behind the others on the current line.
theorem flushed_place (hrest : (hardSplit usable word).2 ≠ []) :
    (w.place usable word).flushed = w.flushed ++ cut usable word ∨
      ∃ rest, cut usable word = [rest] ∧ w.current.length + 1 + rest.length ≤ usable ∧
        w.flushed = w.out ++ [w.current] ∧
          (w.place usable word).flushed = w.out ++ [w.current ++ ' ' :: rest] := by
  unfold cut Wrapping.place
  generalize hardSplit usable word = split at *
  obtain ⟨pieces, rest⟩ := split
  dsimp only at *
  by_cases hnone : pieces = []
  · subst hnone
    by_cases hcurrent : w.current = []
    · exact .inl (by simp [Wrapping.flushed, hcurrent, hrest])
    · by_cases hfits : w.current.length + 1 + rest.length ≤ usable
      · exact .inr ⟨rest, rfl, hfits, by simp [Wrapping.flushed, hcurrent],
          by simp [Wrapping.flushed, hcurrent, hfits]⟩
      · exact .inl (by simp [Wrapping.flushed, hcurrent, hfits, hrest])
  · exact .inl (by simp [Wrapping.flushed, hnone, hrest])

theorem words_flushed_place (hword : IsWord word) (hpos : 0 < usable) :
    (w.place usable word).flushed.flatMap words = w.flushed.flatMap words ++ cut usable word := by
  have hcut := cut_spec hpos hword
  have hwords := flatMap_words fun piece hpiece => (hcut piece hpiece).1
  rcases flushed_place (w := w) (rest_ne_nil hpos hword) with hplace |
    ⟨rest, hrest, -, hflushed, hplace⟩
  · rw [hplace, List.flatMap_append, hwords]
  · rw [hrest] at hwords ⊢
    rw [hplace, hflushed, List.flatMap_append, List.flatMap_append, List.append_assoc]
    simp only [List.flatMap_singleton] at hwords ⊢
    rw [words_append_cons _ (by decide), hwords]

theorem length_flushed_place (hword : IsWord word) (hpos : 0 < usable)
    (hw : ∀ row ∈ w.flushed, row.length ≤ usable) :
    ∀ row ∈ (w.place usable word).flushed, row.length ≤ usable := by
  have hcut := cut_spec hpos hword
  rcases flushed_place (w := w) (rest_ne_nil hpos hword) with hplace |
    ⟨rest, hrest, hfits, hflushed, hplace⟩
  · rw [hplace]
    intro row hrow
    rcases List.mem_append.mp hrow with hrow | hrow
    · exact hw row hrow
    · exact (hcut row hrow).2
  · rw [hplace]
    rw [hflushed] at hw
    intro row hrow
    rcases List.mem_append.mp hrow with hrow | hrow
    · exact hw row (List.mem_append_left _ hrow)
    · rw [List.mem_singleton.mp hrow, List.length_append, List.length_cons]
      omega

theorem flushed_foldl {parts : List (List Char)} (hparts : ∀ word ∈ parts, IsWord word)
    (hpos : 0 < usable) :
    (parts.foldl (Wrapping.place usable) w).flushed.flatMap words =
      w.flushed.flatMap words ++ parts.flatMap (cut usable) := by
  induction parts generalizing w with
  | nil => simp
  | cons word parts ih =>
      rw [List.foldl_cons, ih fun word h => hparts word (List.mem_cons_of_mem _ h),
        words_flushed_place (hparts word List.mem_cons_self) hpos, List.append_assoc,
        List.flatMap_cons]

theorem length_flushed_foldl {parts : List (List Char)} (hparts : ∀ word ∈ parts, IsWord word)
    (hpos : 0 < usable) (hw : ∀ row ∈ w.flushed, row.length ≤ usable) :
    ∀ row ∈ (parts.foldl (Wrapping.place usable) w).flushed, row.length ≤ usable := by
  induction parts generalizing w with
  | nil => exact hw
  | cons word parts ih =>
      exact ih (fun word h => hparts word (List.mem_cons_of_mem _ h))
        (length_flushed_place (hparts word List.mem_cons_self) hpos hw)

theorem words_wrap :
    (wrap text columns indent).flatMap words =
      (words text).flatMap (cut (max 1 (columns - indent))) := by
  have hpos : 0 < max 1 (columns - indent) := by omega
  have hparts : ∀ word ∈ words text, IsWord word := fun word h => isWord_of_mem_words h
  have hfold := flushed_foldl (w := {}) hparts hpos
  simpa [wrap, List.flatMap_map, words_spaces_append, Wrapping.flushed] using hfold

theorem length_of_mem_wrap (h : indent < columns) (hrow : row ∈ wrap text columns indent) :
    row.length ≤ columns := by
  obtain ⟨line, hline, rfl⟩ := List.mem_map.mp hrow
  have hlength := length_flushed_foldl (w := {}) (fun word h => isWord_of_mem_words h) (by omega)
    (by simp [Wrapping.flushed]) line hline
  rw [List.length_append, length_spaces]
  omega

end Wrapping

section Slip

variable {casefold : List Char → List Char} {document : ReceiptDocument} {columns : Nat}
  {block : Block}

def Within (columns : Nat) (text : List Char) : Prop :=
  ∀ line ∈ lines text, line.length ≤ columns

def Block.right : Block → Option (List Char)
  | .twoColumn _ right => some right
  | _ => none

-- What is printed on the right of a label, amounts among it.
def rightTexts (casefold : List Char → List Char) (document : ReceiptDocument) :
    List (List Char) :=
  (layout casefold document).filterMap Block.right

theorem within_of_length {text : List Char} (h : text.length ≤ columns) : Within columns text :=
  fun _ hline => (length_of_mem_lines hline).trans h

theorem within_twoColumn {left right : List Char} :
    Within columns (twoColumn left right columns) ↔ Within columns right := by
  by_cases h : right.length ≤ columns
  · exact iff_of_true (within_of_length (length_twoColumn h).le) (within_of_length h)
  · rw [twoColumn_of_lt (not_le.mp h)]

theorem rows_within (hcolumns : 2 < columns) :
    (∀ row ∈ block.rows columns, Within columns row) ↔
      ∀ right ∈ block.right, Within columns right := by
  have hwrap (text : List Char) {indent : Nat} (h : indent < columns) :
      ∀ row ∈ wrap text columns indent, Within columns row :=
    fun row hrow => within_of_length (length_of_mem_wrap h hrow)
  cases block with
  | blank => simp [Block.rows, Block.right, within_of_length]
  | centre text => simp [Block.rows, Block.right, within_of_length length_centre]
  | centreWrapped text => simp [Block.rows, Block.right, within_of_length length_centre]
  | twoColumn left right => simp [Block.rows, Block.right, within_twoColumn]
  | divider char => simp [Block.rows, Block.right, within_of_length]
  | wrap text => simpa [Block.rows, Block.right] using hwrap text (by omega)
  | wrapIndented text => simpa [Block.rows, Block.right] using hwrap text hcolumns

theorem rows_ne_nil : (layout casefold document).flatMap (Block.rows document.columns) ≠ [] := by
  simp [layout, Block.rows]

theorem within_renderText_iff (hcolumns : 2 < document.columns) :
    Within document.columns (renderText casefold document) ↔
      ∀ right ∈ rightTexts casefold document, Within document.columns right := by
  have hrows : Within document.columns (renderText casefold document) ↔
      ∀ block ∈ layout casefold document, ∀ row ∈ block.rows document.columns,
        Within document.columns row := by
    simp only [Within, renderText, lines_unlines rows_ne_nil, List.mem_flatMap]
    grind
  rw [hrows]
  simp only [rows_within hcolumns]
  constructor
  · intro h right hright
    obtain ⟨block, hblock, hright⟩ := List.mem_filterMap.mp hright
    exact h block hblock right hright
  · intro h block hblock right hright
    exact h right (List.mem_filterMap.mpr ⟨block, hblock, hright⟩)

def Block.words (columns : Nat) (block : Block) : List (List Char) :=
  (block.rows columns).flatMap Text.words

theorem words_renderText : Text.words (renderText casefold document) =
    (layout casefold document).flatMap (Block.words document.columns) := by
  rw [renderText, words_unlines, List.flatMap_assoc]
  rfl

theorem not_isSpace_of_digit {c : Char} (h : c.isDigit) : isSpace c = false := by
  simp only [Char.isDigit, Bool.and_eq_true, decide_eq_true_eq] at h
  have hlow : 48 ≤ c.toNat := h.1
  have hhigh : c.toNat ≤ 57 := h.2
  simp only [isSpace, List.mem_cons, List.not_mem_nil, or_false, Bool.or_eq_false_iff,
    Bool.and_eq_false_iff, decide_eq_false_iff_not]
  omega

theorem isDigit_of_mem_toString {n : Nat} {c : Char} (h : c ∈ (toString n).toList) :
    c.isDigit := by
  rw [Nat.toString_eq_repr, Nat.toList_repr] at h
  exact Nat.isDigit_of_mem_toDigits (b := 10) (by decide) (by decide) h

theorem mem_twoPlaces {n : Nat} {c : Char} (h : c ∈ (twoPlaces n).toList) :
    c.isDigit ∨ c = '.' := by
  simp only [twoPlaces, String.toList_append, List.mem_append] at h
  rcases h with ((h | h) | h) | h
  · exact .inl (isDigit_of_mem_toString h)
  · exact .inr (List.mem_singleton.mp h)
  · split at h
    · rw [List.mem_singleton.mp h]
      exact .inl rfl
    · cases h
  · exact .inl (isDigit_of_mem_toString h)

theorem isWord_money (cents : Cents) : IsWord (money document cents) := by
  have hmoney : money document cents = (if cents < 0 then "-" else "").toList ++
      (if document.currency = "ZAR" then "R" else "").toList ++ (twoPlaces cents.natAbs).toList := by
    simp only [money, formatMoney, String.toList_append]
  refine ⟨?_, fun c hc => ?_⟩
  · refine List.ne_nil_of_mem (a := '.') ?_
    rw [hmoney]
    refine List.mem_append_right _ ?_
    simp only [twoPlaces, String.toList_append, List.mem_append]
    exact .inl (.inl (.inr List.mem_cons_self))
  · rw [hmoney] at hc
    rcases List.mem_append.mp hc with hc | hc
    · rcases List.mem_append.mp hc with hc | hc <;> split at hc
      · rw [List.mem_singleton.mp hc]
        rfl
      · cases hc
      · rw [List.mem_singleton.mp hc]
        rfl
      · cases hc
    · rcases mem_twoPlaces hc with hdigit | rfl
      · exact not_isSpace_of_digit hdigit
      · rfl

theorem words_money (cents : Cents) : Text.words (money document cents) = [money document cents] :=
  words_of_isWord (isWord_money cents)

theorem words_minus (cents : Cents) :
    Text.words ('-' :: money document cents) = ['-' :: money document cents] := by
  refine words_of_isWord ⟨by simp, fun c hc => ?_⟩
  rcases List.mem_cons.mp hc with rfl | hc
  · rfl
  · exact (isWord_money cents).2 c hc

theorem words_twoColumn_sublist {left right : List Char} :
    Text.words right <+ Block.words columns (.twoColumn left right) := by
  rw [Block.words, Block.rows, List.flatMap_singleton, words_twoColumn]
  exact List.sublist_append_right _ _

theorem words_wrapped {text : List Char} (h : 0 < columns) :
    Block.words columns (.wrap text) = (Text.words text).flatMap (cut columns) := by
  rw [Block.words, Block.rows, words_wrap, Nat.sub_zero, max_eq_right h]

theorem words_wrapIndented {text : List Char} (h : 2 < columns) :
    Block.words columns (.wrapIndented text) = (Text.words text).flatMap (cut (columns - 2)) := by
  rw [Block.words, Block.rows, words_wrap, max_eq_right (by omega)]

def itemContent (document : ReceiptDocument) (line : ReceiptLine) : List (List Char) :=
  (Text.words (label line)).flatMap (cut document.columns) ++
    if isKitchen document then [] else [money document line.amountCents]

def modifierContent (document : ReceiptDocument) (modifier : ReceiptLineModifier) :
    List (List Char) :=
  match priced document modifier with
  | some cents => [money document cents]
  | none => (Text.words modifier.label.toList).flatMap (cut (document.columns - 2))

def noteContent (document : ReceiptDocument) (note : Option String) : List (List Char) :=
  (given note).toList.flatMap fun note =>
    (Text.words ("** ".toList ++ note)).flatMap (cut (document.columns - 2))

def lineContent (document : ReceiptDocument) (line : ReceiptLine) : List (List Char) :=
  itemContent document line ++ line.modifiers.flatMap (modifierContent document) ++
    noteContent document line.note

def discountContent (document : ReceiptDocument) (cents : Cents) : List (List Char) :=
  if cents = 0 then [] else ['-' :: money document cents]

def totalsContent (document : ReceiptDocument) : List (List Char) :=
  let totals := document.totals
  [money document totals.subtotalCents] ++ discountContent document totals.discountCents ++
    discountContent document totals.loyaltyDiscountCents ++
      (if totals.deliveryFeeCents = 0 then [] else [money document totals.deliveryFeeCents]) ++
        (if totals.vatCents = 0 then [] else [money document totals.vatCents]) ++
          [money document totals.totalCents]

def allocationContent (allocation : ReceiptPaymentAllocation) : List (List Char) :=
  ([some allocation.amountDisplay, allocation.cashTenderedDisplay,
    allocation.changeDueDisplay].flatMap Option.toList).flatMap fun text => Text.words text.toList

def paymentContent (document : ReceiptDocument) : List (List Char) :=
  let payment := document.payment
  (match payment.allocations.getD [] with
    | [] => (payment.cashTenderedCents.toList ++ payment.changeDueCents.toList).map (money document)
    | allocations => allocations.flatMap allocationContent) ++
  (payment.refundAmountCents.filter (· ≠ 0)).toList.map (money document)

-- What the slip has to carry, in the order of the document.
def content (document : ReceiptDocument) : List (List Char) :=
  document.lines.flatMap (lineContent document) ++
    if isKitchen document then [] else totalsContent document ++ paymentContent document

theorem length_of_mem_words {text word : List Char} (h : word ∈ Text.words text) :
    word.length ≤ text.length := by
  have hmem := List.sublist_flatten_of_mem (List.mem_filter.mp h).1
  rw [flatten_splitOnP] at hmem
  exact hmem.length_le.trans (List.length_filter_le _ _)

theorem flatMap_cut {text : List Char} (h : text.length ≤ columns) :
    (Text.words text).flatMap (cut columns) = Text.words text := by
  calc (Text.words text).flatMap (cut columns) = (Text.words text).flatMap fun word => [word] :=
        List.flatMap_congr fun word hword => cut_of_le ((length_of_mem_words hword).trans h)
    _ = Text.words text := List.flatMap_singleton' _

theorem itemContent_sublist (hcolumns : 0 < document.columns) (line : ReceiptLine) :
    itemContent document line <+
      (itemBlocks document line).flatMap (Block.words document.columns) := by
  have hamount : [money document line.amountCents] <+
      Block.words document.columns (.twoColumn [] (money document line.amountCents)) := by
    rw [← words_money]
    exact words_twoColumn_sublist
  unfold itemContent itemBlocks
  split
  · simp [words_wrapped hcolumns]
  · dsimp only
    split
    next h =>
      rw [List.flatMap_singleton, Block.words, Block.rows, List.flatMap_singleton,
        words_twoColumn, kept_of_fits (by omega), flatMap_cut (by omega), words_money]
    next =>
      rw [List.flatMap_cons, List.flatMap_singleton, words_wrapped hcolumns]
      exact (List.Sublist.refl _).append hamount

theorem modifierContent_sublist (hcolumns : 2 < document.columns)
    (modifier : ReceiptLineModifier) : modifierContent document modifier <+
      Block.words document.columns (modifierBlock document modifier) := by
  unfold modifierContent modifierBlock
  cases priced document modifier with
  | some cents =>
      dsimp only
      rw [← words_money]
      exact words_twoColumn_sublist
  | none =>
      dsimp only
      rw [words_wrapIndented hcolumns]

theorem lineContent_sublist (hcolumns : 2 < document.columns) (line : ReceiptLine) :
    lineContent document line <+
      (lineBlocks document line).flatMap (Block.words document.columns) := by
  rw [lineBlocks, List.flatMap_append, List.flatMap_append, List.flatMap_map]
  refine ((itemContent_sublist (by omega) line).append
    (List.Sublist.flatMap_right _ fun modifier _ => modifierContent_sublist hcolumns modifier)).append
      ?_
  rw [noteBlocks, List.flatMap_map, noteContent]
  exact List.Sublist.flatMap_right _ fun note _ => by rw [words_wrapIndented hcolumns]

theorem discountContent_sublist (title : String) (cents : Cents) (reason : Option String) :
    discountContent document cents <+
      (discountBlocks document title cents reason).flatMap (Block.words document.columns) := by
  unfold discountContent discountBlocks
  split
  · exact List.Sublist.refl _
  · rw [List.flatMap_cons, ← words_minus]
    exact words_twoColumn_sublist.trans (List.sublist_append_left _ _)

theorem amount_sublist (document : ReceiptDocument) (title : List Char) (cents : Cents) :
    [money document cents] <+
      Block.words document.columns (.twoColumn title (money document cents)) := by
  rw [← words_money]
  exact words_twoColumn_sublist

theorem paidBlocks_sublist (title : String) (cents : Option Cents) :
    cents.toList.map (money document) <+
      (paidBlocks document title cents).flatMap (Block.words document.columns) := by
  cases cents with
  | none => exact List.Sublist.refl _
  | some cents => simpa [paidBlocks] using amount_sublist document title.toList cents

theorem totalsContent_sublist : totalsContent document <+
    (totalsBlocks document).flatMap (Block.words document.columns) := by
  have hdelivery : (if document.totals.deliveryFeeCents = 0 then []
      else [money document document.totals.deliveryFeeCents]) <+
        (if document.totals.deliveryFeeCents = 0 then []
          else [.twoColumn "Delivery".toList
            (money document document.totals.deliveryFeeCents)]).flatMap
              (Block.words document.columns) := by
    split
    · exact List.Sublist.refl _
    · simpa using amount_sublist document "Delivery".toList document.totals.deliveryFeeCents
  have hvat : (if document.totals.vatCents = 0 then []
      else [money document document.totals.vatCents]) <+
        ((vatLabel document.totals).toList.map fun label =>
          Block.twoColumn label.toList (money document document.totals.vatCents)).flatMap
            (Block.words document.columns) := by
    unfold vatLabel
    split
    · exact List.Sublist.refl _
    · split <;> simpa using amount_sublist document _ document.totals.vatCents
  have hsubtotal := amount_sublist document "Subtotal".toList document.totals.subtotalCents
  have htotal := amount_sublist document "TOTAL".toList document.totals.totalCents
  simp only [totalsContent, totalsBlocks, List.flatMap_append]
  refine ((((List.Sublist.append ?_ (discountContent_sublist _ _ _)).append
    (discountContent_sublist _ _ _)).append hdelivery).append hvat).append ?_
  · rw [List.flatMap_cons, List.flatMap_singleton]
    exact hsubtotal.trans (List.sublist_append_right _ _)
  · rw [List.flatMap_cons, List.flatMap_cons]
    exact (htotal.trans (List.sublist_append_left _ _)).trans (List.sublist_append_right _ _)

theorem beside_sublist (title : String) (text : Option String) :
    text.toList.flatMap (fun text => Text.words text.toList) <+
      (beside title text).flatMap (Block.words columns) := by
  cases text with
  | none => exact List.Sublist.refl _
  | some text =>
      by_cases hempty : text.toList = []
      · simp [hempty, Text.words]
      · simpa [beside, given, Option.filter, hempty] using words_twoColumn_sublist

theorem allocationContent_sublist (allocation : ReceiptPaymentAllocation) :
    allocationContent allocation <+
      (allocationBlocks allocation).flatMap (Block.words columns) := by
  simp only [allocationContent, allocationBlocks, List.flatMap_append, List.flatMap_cons,
    List.flatMap_nil, List.append_nil, Option.toList_some]
  rw [← List.append_assoc]
  exact (words_twoColumn_sublist.append (beside_sublist _ _)).append (beside_sublist _ _)

theorem paymentContent_sublist : paymentContent document <+
    (paymentBlocks document).flatMap (Block.words document.columns) := by
  simp only [paymentContent, paymentBlocks, List.flatMap_append]
  refine List.Sublist.append ?_ (paidBlocks_sublist _ _)
  cases document.payment.allocations.getD [] with
  | nil =>
      simp only [List.map_append, List.flatMap_append]
      exact ((paidBlocks_sublist _ _).append (paidBlocks_sublist _ _)).trans
        (by rw [List.append_assoc]; exact List.sublist_append_right _ _)
  | cons allocation allocations =>
      dsimp only
      rw [List.flatMap_assoc]
      exact List.Sublist.flatMap_right _ fun allocation _ => allocationContent_sublist allocation

theorem content_sublist (hcolumns : 2 < document.columns) :
    content document <+ Text.words (renderText casefold document) := by
  rw [words_renderText, layout, List.flatMap_append, List.flatMap_append, List.flatMap_assoc]
  refine List.Sublist.append ((List.Sublist.flatMap_right _ fun line _ =>
    lineContent_sublist hcolumns line).trans (List.sublist_append_right _ _)) ?_
  split
  · exact List.nil_sublist _
  · rw [List.flatMap_append, List.flatMap_append]
    exact (totalsContent_sublist.append paymentContent_sublist).trans
      (List.sublist_append_left _ _)

theorem supported_wide (h : document.columns ∈ columnsForWidth.map Prod.snd) :
    2 < document.columns := by
  have hcases : document.columns = 32 ∨ document.columns = 48 := by
    simpa [columnsForWidth] using h
  omega

-- The lines fit the paper where the texts on their right do, and nothing the slip carries is lost.
theorem slip_fits_and_keeps (hcolumns : document.columns ∈ columnsForWidth.map Prod.snd) :
    ((∀ right ∈ rightTexts casefold document, Within document.columns right) →
      ∀ line ∈ lines (renderText casefold document), line.length ≤ document.columns) ∧
    content document <+ Text.words (renderText casefold document) :=
  ⟨(within_renderText_iff (supported_wide hcolumns)).mpr,
    content_sublist (supported_wide hcolumns)⟩

end Slip

def lowercase (text : List Char) : List Char :=
  text.map Char.toLower

def latte : ReceiptLine where
  quantity := 2
  name := "Latte"
  unitAmountCents := 3500
  amountCents := 8000
  modifiers := [{ label := "Oat milk", amountCents := some 500 }]
  note := some "extra hot"

def totals : ReceiptTotals where
  subtotalCents := 8000
  discountCents := 0
  discountReason := none
  loyaltyDiscountCents := 0
  loyaltyRewardName := none
  loyaltyPointsRedeemed := 0
  deliveryFeeCents := 0
  vatCents := 0
  vatRateBasisPoints := none
  vatInclusive := none
  totalCents := 8000

def receiptFor (documentType : DocumentType) (customerName : String) : ReceiptDocument where
  documentType := documentType
  columns := 32
  header := { tradingName := "Ciao Pizza" }
  orderMeta := { orderNumber := "A-0042", customerName := some customerName }
  lines := [latte]
  totals := totals

def ticket : ReceiptDocument :=
  receiptFor .kitchen "Nomvula Thandeka Dlamini-van der Merwe"

def receipt : ReceiptDocument :=
  receiptFor .customerReceipt "Thabo"

theorem receipt_fits :
    (∀ line ∈ lines (renderText lowercase receipt), line.length ≤ 32) ∧
      content receipt <+ Text.words (renderText lowercase receipt) := by
  have hright : ∀ right ∈ rightTexts lowercase receipt, Within 32 right := by
    unfold Within
    decide +kernel
  have hsupported : receipt.columns ∈ columnsForWidth.map Prod.snd := by decide
  exact ⟨(slip_fits_and_keeps hsupported).1 hright, (slip_fits_and_keeps hsupported).2⟩

-- A kitchen slip prints no amounts; a name on the right is printed whole.
theorem ticket_overflows_without_amounts :
    (∃ line ∈ lines (renderText lowercase ticket), ticket.columns < line.length) ∧
      ∀ word ∈ Text.words (renderText lowercase ticket),
        word ≠ money ticket latte.amountCents ∧ word ≠ money ticket totals.totalCents := by
  decide +kernel

end NextgenBackend.Receipts.Escpos
