import NextgenBackend.Bot.LlmParser
import NextgenBackend.Library.Json.Parts
import NextgenBackend.Library.Text

namespace NextgenBackend.Bot.ActionBlocks

open Json (Error Limits Tree Value)
open Llm (lastBlock)
open Text (isSpace)

section Extraction

def fence : List Char := "```".toList

def label : List Char := "json".toList

-- What follows an opening fence, where an object begins there.
def afterFence (text : List Char) : Option (List Char) :=
  if fence.isPrefixOf text then
    let rest := text.drop 3
    let body := (if label.isPrefixOf rest then rest.drop 4 else rest).dropWhile isSpace
    if body.head? = some '{' then some body else none
  else none

def closes (text : List Char) : Bool := fence.isPrefixOf (text.dropWhile isSpace)

-- Up to the first brace that a closing fence follows.
def closeBlock : List Char → Option (List Char)
  | [] => none
  | c :: cs => if c = '}' ∧ closes cs then some [c] else (closeBlock cs).map (c :: ·)

def fenced : List Char → Option (List Char)
  | [] => none
  | c :: cs =>
      match (afterFence (c :: cs)).bind closeBlock with
      | some block => some block
      | none => fenced cs

variable (limits : Limits)

def loadLastBlock (text : List Char) : Except Error (Option Value) :=
  match lastBlock text.reverse 0 none with
  | none => .ok none
  | some block =>
      match Json.read limits block with
      | .ok t => .ok (some t.value)
      | .error .decode => .ok none
      | .error e => .error e

-- Only what is no JSON goes on to the last block; the other errors of the decoder are raised.
def extractJson (text : List Char) : Except Error (Option Value) :=
  match fenced text with
  | none => loadLastBlock limits text
  | some block =>
      match Json.read limits block with
      | .ok t => .ok (some t.value)
      | .error .decode => loadLastBlock limits text
      | .error e => .error e

end Extraction

section Braces

variable {text front back s u v block b : List Char} {c : Char}

-- The braces that are closed and not opened.
def depth (text : List Char) : ℤ := text.count '}' - text.count '{'

def NoBraces (text : List Char) : Prop := '{' ∉ text ∧ '}' ∉ text

instance (text : List Char) : Decidable (NoBraces text) :=
  inferInstanceAs (Decidable ('{' ∉ text ∧ '}' ∉ text))

-- Counted from its end, the braces are even at the first of them and not before.
structure Balanced (s : List Char) : Prop where
  even : depth s = 0
  open_before : ∀ u v, s = u ++ v → u ≠ [] → v ≠ [] → 0 < depth v

theorem depth_append : depth (u ++ v) = depth u + depth v := by
  unfold depth
  rw [List.count_append, List.count_append]
  push_cast
  ring

theorem depth_noBraces (h : NoBraces text) : depth text = 0 := by
  rw [depth, List.count_eq_zero_of_not_mem h.1, List.count_eq_zero_of_not_mem h.2]
  rfl

theorem depth_cons : depth (c :: text) = depth [c] + depth text :=
  depth_append (u := [c])

theorem depth_close : depth ['}'] = 1 := rfl

theorem depth_open : depth ['{'] = -1 := rfl

theorem depth_other (hopen : c ≠ '{') (hclose : c ≠ '}') : depth [c] = 0 :=
  depth_noBraces ⟨by simpa using hopen.symm, by simpa using hclose.symm⟩

-- Where the count comes back to zero, reading to the left.
structure Opens (front b block : List Char) : Prop where
  split : ∃ u v, front = u ++ v ∧ block = v ++ b
  even : depth block = 0
  open_before : ∀ u v, block = u ++ v ++ b → u ≠ [] → 0 < depth (v ++ b)

theorem lastBlock_cons (hd : 0 < depth b) :
    lastBlock (c :: text) (depth b) (some b) =
      if depth (c :: b) = 0 then some (c :: b)
      else lastBlock text (depth (c :: b)) (some (c :: b)) := by
  rw [lastBlock, depth_cons]
  split
  next h =>
    rw [h, depth_close, if_neg (by omega), if_neg (by omega), Int.add_comm]
    rfl
  next h =>
    split
    next h' =>
      rw [h', depth_open, Int.add_comm, ← sub_eq_add_neg]
      split <;> rfl
    next h' =>
      rw [depth_other h' h, zero_add, if_neg hd.ne']
      rfl

theorem depth_cons_nonneg (hd : 0 < depth b) : 0 ≤ depth (c :: b) := by
  rw [depth_cons]
  by_cases hclose : c = '}'
  · rw [hclose, depth_close]
    omega
  · by_cases hopen : c = '{'
    · rw [hopen, depth_open]
      omega
    · rw [depth_other hopen hclose]
      omega

theorem opens_of_lastBlock (hd : 0 < depth b)
    (h : lastBlock front.reverse (depth b) (some b) = some block) : Opens front b block := by
  induction front using List.reverseRecOn generalizing b with
  | nil => cases h
  | append_singleton front c ih =>
      rw [List.reverse_append, List.reverse_singleton, List.singleton_append,
        lastBlock_cons hd] at h
      have hlast (u v : List Char) (hblock : c :: b = u ++ v ++ b) (hu : u ≠ []) : v = [] := by
        have hsame : [c] = u ++ v := List.append_cancel_right hblock
        have hlength := congrArg List.length hsame
        have hpos := List.length_pos_of_ne_nil hu
        rw [List.length_append, List.length_singleton] at hlength
        exact List.length_eq_zero_iff.mp (by omega)
      split at h
      next heven =>
        obtain rfl := Option.some.inj h
        refine ⟨⟨front, [c], rfl, rfl⟩, heven, fun u v hblock hu => ?_⟩
        rw [hlast u v hblock hu]
        exact hd
      next heven =>
        have hdeep : 0 < depth (c :: b) := lt_of_le_of_ne (depth_cons_nonneg hd) (Ne.symm heven)
        obtain ⟨⟨u, v, hfront, hblock⟩, hzero, hbefore⟩ := ih hdeep h
        refine ⟨⟨u, v ++ [c], ?_, ?_⟩, hzero, fun u' v' hsplit hu => ?_⟩
        · rw [hfront, List.append_assoc]
        · rw [hblock, List.append_assoc]
          rfl
        · rcases List.eq_nil_or_concat v' with rfl | ⟨w, d, rfl⟩
          · exact hd
          · have hd' : d = c ∧ u' ++ w = v := by
              rw [hblock] at hsplit
              have hsame : v ++ [c] = u' ++ (w ++ [d]) := by
                refine @List.append_cancel_right _ (v ++ [c]) b _ ?_
                rw [List.append_assoc]
                simpa using hsplit
              rw [← List.append_assoc] at hsame
              obtain ⟨hv, hc⟩ := List.append_inj' hsame rfl
              exact ⟨(List.cons.inj hc).1.symm, hv.symm⟩
            obtain ⟨rfl, rfl⟩ := hd'
            have hrest := hbefore u' w (by rw [hblock]) hu
            simpa [List.append_assoc] using hrest

theorem lastBlock_of_opens (hd : 0 < depth b) (heven : depth (v ++ b) = 0)
    (hbefore : ∀ u' v', v = u' ++ v' → u' ≠ [] → 0 < depth (v' ++ b)) :
    lastBlock (u ++ v).reverse (depth b) (some b) = some (v ++ b) := by
  induction v using List.reverseRecOn generalizing b with
  | nil =>
      rw [List.nil_append] at heven
      omega
  | append_singleton v c ih =>
      rw [← List.append_assoc, List.reverse_append, List.reverse_singleton, List.singleton_append,
        lastBlock_cons hd]
      rcases eq_or_ne v [] with rfl | hv
      · exact if_pos heven
      · have hdeep : 0 < depth (c :: b) := by
          have hlast := hbefore v [c] rfl hv
          exact hlast
        rw [if_neg hdeep.ne']
        have hsplit : v ++ [c] ++ b = v ++ c :: b := by simp
        rw [hsplit] at heven ⊢
        refine ih hdeep heven fun u' v' hsame hu => ?_
        have hrest := hbefore u' (v' ++ [c]) (by rw [hsame, List.append_assoc]) hu
        simpa [List.append_assoc] using hrest

theorem lastBlock_skip (h : ∀ c ∈ back, c ≠ '{' ∧ c ≠ '}') :
    lastBlock (back ++ text) 0 none = lastBlock text 0 none := by
  induction back with
  | nil => rfl
  | cons c back ih =>
      obtain ⟨⟨hopen, hclose⟩, hrest⟩ := List.forall_mem_cons.mp h
      rw [List.cons_append, lastBlock, if_neg hclose, if_neg hopen]
      exact ih hrest

theorem lastBlock_from_brace (hback : NoBraces back) :
    lastBlock (front ++ ['}'] ++ back).reverse 0 none =
      lastBlock front.reverse (depth ['}']) (some ['}']) := by
  rw [List.reverse_append, lastBlock_skip]
  · rw [List.reverse_append, List.reverse_singleton, List.singleton_append, lastBlock]
    rfl
  · intro c hc
    have hmem := List.mem_reverse.mp hc
    exact ⟨fun h => hback.1 (h ▸ hmem), fun h => hback.2 (h ▸ hmem)⟩

theorem lastBlock_balanced (hback : NoBraces back) (hs : s.getLast? = some '}')
    (h : Balanced s) : lastBlock (front ++ s ++ back).reverse 0 none = some s := by
  obtain ⟨inner, rfl⟩ := List.getLast?_eq_some_iff.mp hs
  rw [← List.append_assoc, lastBlock_from_brace hback]
  refine lastBlock_of_opens (by decide) h.even fun u v hsplit hu => ?_
  exact h.open_before u (v ++ ['}']) (by rw [hsplit, List.append_assoc]) hu (by simp)

theorem head_of_opens (hb : 0 < depth b) (h : Opens front b block) : block.head? = some '{' := by
  obtain ⟨⟨u, v, -, rfl⟩, heven, hbefore⟩ := h
  cases v with
  | nil =>
      rw [List.nil_append] at heven
      omega
  | cons c v =>
      have hrest := hbefore [c] v rfl (List.cons_ne_nil _ _)
      rw [List.cons_append, depth_cons] at heven
      by_cases hopen : c = '{'
      · rw [hopen]
        rfl
      · by_cases hclose : c = '}'
        · rw [hclose, depth_close] at heven
          omega
        · rw [depth_other hopen hclose] at heven
          omega

theorem balanced_of_opens {inner : List Char} (heven : depth (inner ++ ['}']) = 0)
    (hbefore : ∀ u v, inner ++ ['}'] = u ++ v ++ ['}'] → u ≠ [] → 0 < depth (v ++ ['}'])) :
    Balanced (inner ++ ['}']) := by
  refine ⟨heven, fun u v hparts hu hv => ?_⟩
  obtain ⟨v, d, rfl⟩ := (List.eq_nil_or_concat v).resolve_left hv
  rw [List.concat_eq_append, ← List.append_assoc] at hparts
  obtain ⟨rfl, hd⟩ := List.append_inj' hparts rfl
  obtain rfl : d = '}' := (List.cons.inj hd).1.symm
  rw [List.concat_eq_append]
  exact hbefore u v rfl hu

theorem lastBlock_cases (hfront : NoBraces front) (hback : NoBraces back)
    (hs : s.getLast? = some '}')
    (h : lastBlock (front ++ s ++ back).reverse 0 none = some block) :
    block = s ∧ Balanced s ∨ ∃ u, u ≠ [] ∧ s = u ++ block ∧ block.head? = some '{' := by
  obtain ⟨inner, rfl⟩ := List.getLast?_eq_some_iff.mp hs
  rw [← List.append_assoc, lastBlock_from_brace hback] at h
  have hopens := opens_of_lastBlock (by decide) h
  have hhead := head_of_opens (by decide) hopens
  obtain ⟨⟨u, v, hsplit, rfl⟩, heven, hbefore⟩ := hopens
  rcases List.append_eq_append_iff.mp hsplit with ⟨w, rfl, rfl⟩ | ⟨w, rfl, rfl⟩
  · -- The block begins within the object.
    rcases eq_or_ne w [] with rfl | hw
    · exact .inl ⟨rfl, balanced_of_opens heven hbefore⟩
    · exact .inr ⟨w, hw, by rw [List.append_assoc], hhead⟩
  · -- It would have to begin before the object, where there are no braces.
    rcases eq_or_ne w [] with rfl | hw
    · exact .inl ⟨rfl, balanced_of_opens heven hbefore⟩
    · have hplain : NoBraces w := ⟨fun hmem => hfront.1 (List.mem_append_right _ hmem),
        fun hmem => hfront.2 (List.mem_append_right _ hmem)⟩
      have hinner := hbefore w inner rfl hw
      rw [List.append_assoc, depth_append, depth_noBraces hplain] at heven
      omega

end Braces

section Fences

variable {text p s u v block back : List Char} {c : Char}

structure Plain (p : List Char) : Prop where
  no_braces : NoBraces p
  no_fence : ¬ fence <:+: p

theorem isSpace_marks : isSpace '{' = false ∧ isSpace '}' = false ∧ isSpace '"' = false ∧
    isSpace '\\' = false ∧ isSpace '`' = false ∧ isSpace 'j' = false := by decide

theorem Plain.tail (h : Plain (c :: p)) : Plain p where
  no_braces := ⟨fun hmem => h.no_braces.1 (List.mem_cons_of_mem _ hmem),
    fun hmem => h.no_braces.2 (List.mem_cons_of_mem _ hmem)⟩
  no_fence hmem := h.no_fence (List.IsInfix.trans hmem (List.suffix_cons c p).isInfix)

theorem isPrefixOf_fence : fence.isPrefixOf text ↔ ∃ rest, text = '`' :: '`' :: '`' :: rest := by
  rw [List.isPrefixOf_iff_prefix]
  exact ⟨fun ⟨rest, h⟩ => ⟨rest, h.symm⟩, fun ⟨rest, h⟩ => ⟨rest, h.symm⟩⟩

theorem afterFence_none (h : ¬ fence.isPrefixOf text) : afterFence text = none := if_neg h

-- Text without a fence cannot begin one together with what comes after it.
theorem fenced_append (hp : Plain p)
    (hs : ∀ u, u ≠ [] → ¬ fence <:+: u → afterFence (u ++ s) = none) :
    fenced (p ++ s) = fenced s := by
  induction p with
  | nil => rfl
  | cons c p ih =>
      have hnone : afterFence (c :: (p ++ s)) = none := hs (c :: p) (List.cons_ne_nil _ _) hp.no_fence
      rw [List.cons_append, fenced, hnone]
      exact ih hp.tail

theorem short_of_fence {w rest : List Char} (hu : ¬ fence <:+: u)
    (h : u ++ w = '`' :: '`' :: '`' :: rest) : u = [] ∨ u = ['`'] ∨ u = ['`', '`'] := by
  match u with
  | [] => exact .inl rfl
  | [a] =>
      simp only [List.cons_append, List.cons.injEq] at h
      exact .inr (.inl (by rw [h.1]))
  | [a, b] =>
      simp only [List.cons_append, List.cons.injEq] at h
      exact .inr (.inr (by rw [h.1, h.2.1]))
  | a :: b :: c :: u =>
      simp only [List.cons_append, List.cons.injEq] at h
      obtain ⟨rfl, rfl, rfl, -⟩ := h
      exact absurd ⟨[], u, rfl⟩ hu

theorem bare_after (hs : s.head? = some '{') (hu : u ≠ []) (hfence : ¬ fence <:+: u) :
    afterFence (u ++ s) = none := by
  refine afterFence_none fun h => ?_
  obtain ⟨rest, hrest⟩ := isPrefixOf_fence.mp h
  obtain ⟨s, rfl⟩ := List.head?_eq_some_iff.mp hs
  rcases short_of_fence hfence hrest with rfl | rfl | rfl
  · exact hu rfl
  · cases hrest
  · cases hrest

theorem labelled_after (hu : u ≠ []) (hfence : ¬ fence <:+: u) :
    afterFence (u ++ (fence ++ label ++ s)) = none := by
  by_cases h : fence.isPrefixOf (u ++ (fence ++ label ++ s))
  · obtain ⟨rest, hrest⟩ := isPrefixOf_fence.mp h
    rcases short_of_fence hfence hrest with rfl | rfl | rfl
    · exact absurd rfl hu
    · rfl
    · rfl
  · exact afterFence_none h

theorem closes_blanks (hback : ∀ c ∈ back, isSpace c) : closes (back ++ fence) := by
  induction back with
  | nil => rfl
  | cons c back ih =>
      obtain ⟨hc, hrest⟩ := List.forall_mem_cons.mp hback
      have hskip : (c :: back ++ fence).dropWhile isSpace = (back ++ fence).dropWhile isSpace :=
        List.dropWhile_cons_of_pos hc
      unfold closes
      rw [hskip]
      exact ih hrest

theorem dropWhile_append_brace (hs : s.getLast? = some '}') :
    ∃ rest, rest.getLast? = some '}' ∧ s.dropWhile isSpace = rest ∧
      (s ++ back).dropWhile isSpace = rest ++ back := by
  induction s with
  | nil => cases hs
  | cons c s ih =>
      cases hc : isSpace c with
      | false =>
          refine ⟨c :: s, hs, ?_, ?_⟩
          · exact List.dropWhile_cons_of_neg (by rw [hc]; decide)
          · exact List.dropWhile_cons_of_neg (by rw [hc]; decide)
      | true =>
          have hne : s ≠ [] := by
            rintro rfl
            obtain rfl : c = '}' := Option.some.inj hs
            rw [isSpace_marks.2.1] at hc
            cases hc
          have hlast : s.getLast? = some '}' := by
            obtain ⟨d, s, rfl⟩ := List.exists_cons_of_ne_nil hne
            rwa [List.getLast?_cons_cons] at hs
          obtain ⟨rest, hrest, hdrop, happend⟩ := ih hlast
          refine ⟨rest, hrest, ?_, ?_⟩
          · rw [List.dropWhile_cons_of_pos hc, hdrop]
          · rw [List.cons_append, List.dropWhile_cons_of_pos hc, happend]

theorem isPrefixOf_append_brace (hs : s.getLast? = some '}') :
    fence.isPrefixOf (s ++ back) = fence.isPrefixOf s := by
  match s, hs with
  | [a], hs =>
      obtain rfl := Option.some.inj hs
      rfl
  | [a, b], hs =>
      obtain rfl := Option.some.inj hs
      simp [fence, List.isPrefixOf]
  | a :: b :: c :: s, _ => simp [fence, List.isPrefixOf]

theorem closes_append (hs : s.getLast? = some '}') : closes (s ++ back) = closes s := by
  obtain ⟨rest, hrest, hdrop, happend⟩ := @dropWhile_append_brace s back hs
  unfold closes
  rw [happend, hdrop, isPrefixOf_append_brace hrest]

-- A closing fence comes after a brace within the text.
def closesInside : List Char → Bool
  | [] => false
  | c :: cs => c = '}' && closes cs || closesInside cs

theorem closeBlock_append (hback : closes back) (hs : s.getLast? = some '}') :
    (closesInside s = false → closeBlock (s ++ back) = some s) ∧
      (closesInside s → ∃ u v, closeBlock (s ++ back) = some u ∧ s = u ++ v ∧
        u.getLast? = some '}' ∧ v.getLast? = some '}') := by
  induction s with
  | nil => cases hs
  | cons c s ih =>
      rcases eq_or_ne s [] with rfl | hne
      · obtain rfl : c = '}' := Option.some.inj hs
        refine ⟨fun _ => ?_, fun h => ?_⟩
        · exact if_pos ⟨rfl, hback⟩
        · cases h
      · have hlast : s.getLast? = some '}' := by
          obtain ⟨d, s, rfl⟩ := List.exists_cons_of_ne_nil hne
          rwa [List.getLast?_cons_cons] at hs
        obtain ⟨hwhole, hpart⟩ := ih hlast
        have hcloses : closes (s ++ back) = closes s := closes_append hlast
        by_cases hc : c = '}' ∧ closes s
        · have hinside : closesInside (c :: s) := by simp [closesInside, hc]
          refine ⟨fun h => by simp [h] at hinside, fun _ => ⟨['}'], s, ?_, ?_, rfl, hlast⟩⟩
          · rw [List.cons_append, closeBlock, hcloses, if_pos hc, hc.1]
          · rw [hc.1]
            rfl
        · have hinside : closesInside (c :: s) = closesInside s := by
            simp only [closesInside]
            rcases not_and_or.mp hc with hc | hc <;> simp [hc]
          rw [hinside, List.cons_append, closeBlock, hcloses, if_neg hc]
          refine ⟨fun h => by rw [hwhole h]; rfl, fun h => ?_⟩
          obtain ⟨u, v, hblock, rfl, hu, hv⟩ := hpart h
          refine ⟨c :: u, v, by rw [hblock]; rfl, rfl, ?_, hv⟩
          obtain ⟨d, u, rfl⟩ := List.exists_cons_of_ne_nil (l := u) (by rintro rfl; cases hu)
          rwa [List.getLast?_cons_cons]

theorem closeBlock_prefix (h : closeBlock text = some block) : block <+: text := by
  induction text generalizing block with
  | nil => cases h
  | cons c text ih =>
      unfold closeBlock at h
      split at h
      · exact (Option.some.inj h) ▸ ⟨text, rfl⟩
      · obtain ⟨rest, hrest, rfl⟩ := Option.map_eq_some_iff.mp h
        exact List.cons_prefix_cons.mpr ⟨rfl, ih hrest⟩

-- Between the marks of an opening fence and the object there is no quote and no backslash.
theorem afterFence_parts {body : List Char} (h : afterFence text = some body) :
    ∃ opened, text = '`' :: opened ++ body ∧ '"' ∉ opened ∧ '\\' ∉ opened := by
  unfold afterFence at h
  split at h
  next hfence =>
    obtain ⟨rest, rfl⟩ := isPrefixOf_fence.mp hfence
    change (if ((if label.isPrefixOf rest then rest.drop 4 else rest).dropWhile isSpace).head? =
      some '{' then some ((if label.isPrefixOf rest then rest.drop 4 else rest).dropWhile isSpace)
      else none) = some body at h
    have hblank (c : Char) (hc : isSpace c = false) (text : List Char) :
        c ∉ text.takeWhile isSpace := fun hmem => by
      rw [List.mem_takeWhile_imp hmem] at hc
      cases hc
    have hquote := isSpace_marks.2.2.1
    have hbackslash := isSpace_marks.2.2.2.1
    split at h
    next hlabel =>
      obtain ⟨rest, rfl⟩ := List.isPrefixOf_iff_prefix.mp hlabel
      split at h
      next =>
        obtain rfl := Option.some.inj h
        refine ⟨'`' :: '`' :: (label ++ rest.takeWhile isSpace), ?_, ?_, ?_⟩
        · simp [label, List.takeWhile_append_dropWhile]
        · simp [label, hblank '"' hquote]
        · simp [label, hblank '\\' hbackslash]
      next => cases h
    next =>
      split at h
      next =>
        obtain rfl := Option.some.inj h
        refine ⟨'`' :: '`' :: rest.takeWhile isSpace, ?_, ?_, ?_⟩
        · simp [List.takeWhile_append_dropWhile]
        · simp [hblank '"' hquote]
        · simp [hblank '\\' hbackslash]
      next => cases h
  next => cases h

theorem fenced_parts (h : fenced text = some block) :
    ∃ before opened after, text = before ++ ('`' :: opened ++ (block ++ after)) ∧
      '"' ∉ opened ∧ '\\' ∉ opened := by
  induction text with
  | nil => cases h
  | cons c text ih =>
      unfold fenced at h
      split at h
      next found hfound =>
        obtain rfl := Option.some.inj h
        obtain ⟨body, hbody, hblock⟩ := Option.bind_eq_some_iff.mp hfound
        obtain ⟨opened, htext, hquote, hbackslash⟩ := afterFence_parts hbody
        obtain ⟨after, rfl⟩ := closeBlock_prefix hblock
        exact ⟨[], opened, after, htext, hquote, hbackslash⟩
      next =>
        obtain ⟨before, opened, after, rfl, hmarks⟩ := ih h
        exact ⟨c :: before, opened, after, rfl, hmarks⟩

theorem fenced_labelled (hs : s.head? = some '{') {front : List Char}
    (hfront : ∀ c ∈ front, isSpace c) :
    fenced (fence ++ label ++ (front ++ s)) =
      match closeBlock s with
      | some block => some block
      | none => fenced ('`' :: '`' :: (label ++ (front ++ s))) := by
  obtain ⟨rest, rfl⟩ := List.head?_eq_some_iff.mp hs
  have hdrop : (front ++ '{' :: rest).dropWhile isSpace = '{' :: rest := by
    rw [List.dropWhile_append_of_pos hfront]
    exact List.dropWhile_cons_of_neg (by rw [isSpace_marks.1]; decide)
  have hafter : afterFence (fence ++ label ++ (front ++ '{' :: rest)) = some ('{' :: rest) := by
    change (if ((front ++ '{' :: rest).dropWhile isSpace).head? = some '{' then
      some ((front ++ '{' :: rest).dropWhile isSpace) else none) = _
    rw [hdrop]
    rfl
  change (match (afterFence (fence ++ label ++ (front ++ '{' :: rest))).bind closeBlock with
    | some block => some block
    | none => fenced ('`' :: '`' :: (label ++ (front ++ '{' :: rest)))) = _
  rw [hafter]
  rfl

end Fences

section Actions

variable {limits : Limits} {p s front back block : List Char} {t : Tree}

-- A JSON text of an object, without white space around it: no key comes twice in an object.
structure Serialises (t : Tree) (s : List Char) : Prop where
  reads : ∃ limits, Json.read limits s = .ok t
  distinct : t.DistinctKeys
  first : s.head? = some '{'
  last : s.getLast? = some '}'

theorem Serialises.read_iff (h : Serialises t s) {u : Tree} :
    Json.read limits s = .ok u ↔ u = t ∧ t.Fits limits := by
  obtain ⟨limits', hread⟩ := h.reads
  exact Json.read_iff hread

theorem loadLastBlock_iff (h : Serialises t s) (hfront : NoBraces front) (hback : NoBraces back) :
    loadLastBlock limits (front ++ s ++ back) = .ok (some t.value) ↔
      t.Fits limits ∧ Balanced s := by
  obtain ⟨limits', hread⟩ := h.reads
  constructor
  · intro hload
    unfold loadLastBlock at hload
    split at hload
    · cases hload
    next block hblock =>
      split at hload
      next w hw =>
        rcases lastBlock_cases hfront hback h.last hblock with ⟨rfl, hbalanced⟩ | ⟨u, hu, rfl, hhead⟩
        · exact ⟨(h.read_iff.mp hw).2, hbalanced⟩
        · have hfirst : u.head? = some '{' := by
            obtain ⟨c, u, rfl⟩ := List.exists_cons_of_ne_nil hu
            exact h.first
          exact absurd hw (Json.suffix_not_read hread hfirst hhead)
      · cases hload
      · cases hload
  · rintro ⟨hfits, hbalanced⟩
    unfold loadLastBlock
    rw [lastBlock_balanced hback h.last hbalanced]
    simp only [h.read_iff.mpr ⟨rfl, hfits⟩]

-- No fenced block within the text is one that could be taken for the object.
def Unfenced (limits : Limits) (s : List Char) : Prop :=
  ∀ block, fenced s = some block → Json.read limits block = .error .decode

theorem extractJson_bare (h : Serialises t s) (hp : Plain p) :
    extractJson limits (p ++ s) = .ok (some t.value) ↔
      t.Fits limits ∧ Unfenced limits s ∧ Balanced s := by
  obtain ⟨limits', hread⟩ := h.reads
  have hfenced : fenced (p ++ s) = fenced s :=
    fenced_append hp fun u hu hfence => bare_after h.first hu hfence
  have hlast := @loadLastBlock_iff limits s p [] t h hp.no_braces ⟨nofun, nofun⟩
  rw [List.append_nil] at hlast
  unfold extractJson Unfenced
  rw [hfenced]
  cases hblock : fenced s with
  | none =>
      simp only [reduceCtorEq, false_implies, implies_true, true_and]
      exact hlast
  | some block =>
      simp only [Option.some.injEq, forall_eq']
      cases hdecode : Json.read limits block with
      | ok w =>
          obtain ⟨before, opened, after, rfl, hquote, hbackslash⟩ := fenced_parts hblock
          obtain ⟨hplain, hbacktick⟩ := Json.quoted_part hread hquote hbackslash hdecode
          have hne := Json.value_ne_of_backtick hread h.distinct (by simp) hdecode hplain hbacktick
          simp [hne]
      | error e => cases e <;> simp [hlast]

theorem extractJson_fenced {front back : List Char} (h : Serialises t s) (hp : Plain p)
    (hfront : ∀ c ∈ front, isSpace c) (hback : ∀ c ∈ back, isSpace c) :
    extractJson limits (p ++ (fence ++ label ++ (front ++ (s ++ (back ++ fence))))) =
        .ok (some t.value) ↔
      t.Fits limits ∧ (closesInside s = false ∨ Balanced s) := by
  have hshape : p ++ (fence ++ label ++ (front ++ (s ++ (back ++ fence)))) =
      p ++ (fence ++ label ++ front) ++ s ++ (back ++ fence) := by
    simp only [List.append_assoc]
  have hspaces {blanks : List Char} (hblanks : ∀ c ∈ blanks, isSpace c) : NoBraces blanks :=
    ⟨fun hmem => by simpa [isSpace_marks] using hblanks _ hmem,
      fun hmem => by simpa [isSpace_marks] using hblanks _ hmem⟩
  have hopening : NoBraces (p ++ (fence ++ label ++ front)) := by
    have hmarks := hspaces hfront
    constructor
    · simp [fence, label, hp.no_braces.1, hmarks.1]
    · simp [fence, label, hp.no_braces.2, hmarks.2]
  have hclosing : NoBraces (back ++ fence) := by
    have hmarks := hspaces hback
    constructor
    · simp [fence, hmarks.1]
    · simp [fence, hmarks.2]
  have hlast := @loadLastBlock_iff limits s _ _ t h hopening hclosing
  rw [← hshape] at hlast
  have hhead : (s ++ (back ++ fence)).head? = some '{' := by
    rw [List.head?_append, h.first]
    rfl
  have hfenced := (fenced_append hp fun u hu hfence => labelled_after hu hfence).trans
    (fenced_labelled hhead hfront)
  obtain ⟨hwhole, hpart⟩ := closeBlock_append (closes_blanks hback) h.last
  obtain ⟨limits', hread⟩ := h.reads
  unfold extractJson
  rw [hfenced]
  cases hinside : closesInside s with
  | false =>
      rw [hwhole hinside]
      simp only [true_or, and_true]
      cases hdecode : Json.read limits s with
      | ok w =>
          obtain ⟨rfl, hfits⟩ := h.read_iff.mp hdecode
          simp [hfits]
      | error e =>
          have hfits : ¬ t.Fits limits := fun hfits => by
            rw [h.read_iff.mpr ⟨rfl, hfits⟩] at hdecode
            cases hdecode
          cases e with
          | decode => exact ⟨fun hload => (hlast.mp hload).1, fun hload => absurd hload hfits⟩
          | recursion => simp [hfits]
          | digits => simp [hfits]
  | true =>
      obtain ⟨u, v, hblock, rfl, hu, hv⟩ := hpart hinside
      have hfirst : u.head? = some '{' := by
        obtain ⟨c, u, rfl⟩ := List.exists_cons_of_ne_nil (l := u) (by rintro rfl; cases hu)
        exact h.first
      have hnot (w : Tree) : Json.read limits u ≠ .ok w := Json.prefix_not_read hread hfirst hv
      rw [hblock]
      simp only [Bool.true_eq_false, false_or]
      cases hdecode : Json.read limits u with
      | ok w => exact absurd hdecode (hnot w)
      | error e =>
          cases e with
          | decode => exact hlast
          | recursion =>
              simp only [reduceCtorEq, false_iff, not_and]
              intro hfits
              rw [Json.decode_of_prefix (h.read_iff.mpr ⟨rfl, hfits⟩) hu hnot] at hdecode
              cases hdecode
          | digits =>
              simp only [reduceCtorEq, false_iff, not_and]
              intro hfits
              rw [Json.decode_of_prefix (h.read_iff.mpr ⟨rfl, hfits⟩) hu hnot] at hdecode
              cases hdecode

theorem action_extracted_iff (limits : Limits) (p s : List Char) (t : Tree) (hp : Plain p)
    (h : Serialises t s) :
    (extractJson limits (p ++ s) = .ok (some t.value) ↔
      t.Fits limits ∧ Unfenced limits s ∧ Balanced s) ∧
    ∀ front back : List Char, (∀ c ∈ front, isSpace c) → (∀ c ∈ back, isSpace c) →
      (extractJson limits (p ++ (fence ++ label ++ (front ++ (s ++ (back ++ fence))))) =
          .ok (some t.value) ↔
        t.Fits limits ∧ (closesInside s = false ∨ Balanced s)) :=
  ⟨extractJson_bare h hp, fun _ _ hfront hback => extractJson_fenced h hp hfront hback⟩

theorem serialises_text {ms : List (List Json.Piece × Tree)} (hvalid : (Tree.object ms).Valid)
    (hfits : (Tree.object ms).Fits limits) (hdistinct : (Tree.object ms).DistinctKeys)
    (hlast : (Tree.object ms).text.getLast? = some '}') :
    Serialises (.object ms) (Tree.object ms).text where
  reads := ⟨limits, Json.read_text hvalid hfits⟩
  distinct := hdistinct
  first := by cases ms <;> rfl
  last := hlast

theorem balanced_of_lastBlock (hs : s.getLast? = some '}')
    (h : lastBlock s.reverse 0 none = some s) : Balanced s := by
  have hsame : lastBlock ([] ++ s ++ []).reverse 0 none = some s := by
    rwa [List.nil_append, List.append_nil]
  have hnone : NoBraces [] := ⟨List.not_mem_nil, List.not_mem_nil⟩
  rcases lastBlock_cases hnone hnone hs hsame with ⟨-, h⟩ | ⟨u, hu, hsplit, -⟩
  · exact h
  · have hlength := congrArg List.length hsplit
    have hpos := List.length_pos_of_ne_nil hu
    rw [List.length_append] at hlength
    omega

def python : Limits := ⟨1000, 4300⟩

def plain (text : String) : List Json.Piece := text.toList.map .plain

-- {"action":"handoff","message":"One moment"}
def handoff : Tree :=
  .object [(plain "action", .string (plain "handoff")),
    (plain "message", .string (plain "One moment"))]

theorem handoff_serialises : Serialises handoff handoff.text :=
  @serialises_text python _ (by decide +kernel) (by decide +kernel) (by decide +kernel)
    (by decide +kernel)

theorem handoff_extracted :
    extractJson python ("Let me ask. ".toList ++ handoff.text) = .ok (some handoff.value) ∧
      extractJson python ("Let me ask. ".toList ++ (fence ++ label ++ (['\n'] ++
        (handoff.text ++ (['\n'] ++ fence))))) = .ok (some handoff.value) := by
  have hplain : Plain "Let me ask. ".toList := ⟨by decide, by decide⟩
  have hfits : handoff.Fits python := by decide +kernel
  have hbalanced : Balanced handoff.text :=
    balanced_of_lastBlock handoff_serialises.last (by decide +kernel)
  have hunfenced : Unfenced python handoff.text := by
    have hnone : fenced handoff.text = none := by decide +kernel
    intro block hblock
    rw [hnone] at hblock
    cases hblock
  obtain ⟨hbare, hfenced⟩ := action_extracted_iff python _ _ _ hplain handoff_serialises
  refine ⟨hbare.mpr ⟨hfits, hunfenced, hbalanced⟩, ?_⟩
  have hbreak : ∀ c ∈ ['\n'], isSpace c := List.forall_mem_singleton.mpr (by decide)
  exact (hfenced ['\n'] ['\n'] hbreak hbreak).mpr ⟨hfits, .inr hbalanced⟩

-- {"action":"chitchat","message":"Bye :}"}
def smiley : Tree :=
  .object [(plain "action", .string (plain "chitchat")), (plain "message", .string (plain "Bye :\x7d"))]

theorem smiley_reply_lost :
    Plain "See you. ".toList ∧ Serialises smiley smiley.text ∧
      extractJson python ("See you. ".toList ++ smiley.text) = .ok none := by
  refine ⟨⟨by decide, by decide⟩, ?_, ?_⟩
  · exact @serialises_text python _ (by decide +kernel) (by decide +kernel) (by decide +kernel)
      (by decide +kernel)
  · have hfenced : fenced ("See you. ".toList ++ smiley.text) = none := by decide +kernel
    have hblock : lastBlock ("See you. ".toList ++ smiley.text).reverse 0 none = none := by
      decide +kernel
    rw [extractJson, hfenced]
    change loadLastBlock _ _ = _
    rw [loadLastBlock, hblock]

end Actions

end NextgenBackend.Bot.ActionBlocks
