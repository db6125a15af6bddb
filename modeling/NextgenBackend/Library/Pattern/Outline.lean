import Mathlib
import NextgenBackend.Library.Pattern

namespace Pattern

-- How a text of symbols may be made up. A place without a list takes any symbol.
inductive Outline where
  | nothing
  | one (symbols : Option (List Char))
  | seq (r s : Outline)
  | alt (r s : Outline)
  | many (r : Outline)
deriving DecidableEq

namespace Outline

def Allows (symbols : Option (List Char)) (c : Char) : Prop := ∀ cs ∈ symbols, c ∈ cs

def language : Outline → Language Char
  | nothing => 1
  | one symbols => {xs | ∃ c, xs = [c] ∧ Allows symbols c}
  | seq r s => r.language * s.language
  | alt r s => r.language + s.language
  | many r => KStar.kstar r.language

def sequence (rs : List Outline) : Language Char := (rs.map language).prod

def nullable : Outline → Bool
  | nothing => true
  | one _ => false
  | seq r s => r.nullable && s.nullable
  | alt r s => r.nullable || s.nullable
  | many _ => true

def overlaps : Option (List Char) → Option (List Char) → Bool
  | some cs, some ds => cs.any ds.contains
  | _, _ => true

-- What may be left, part after part, once one of the symbols is read.
def derivs (symbols : Option (List Char)) : Outline → List (List Outline)
  | nothing => []
  | one others => if overlaps symbols others then [[]] else []
  | seq r s => (r.derivs symbols).map (· ++ [s]) ++ if r.nullable then s.derivs symbols else []
  | alt r s => r.derivs symbols ++ s.derivs symbols
  | many r => (r.derivs symbols).map (· ++ [many r])

def residuals (symbols : Option (List Char)) : List Outline → List (List Outline)
  | [] => []
  | r :: rs =>
      (r.derivs symbols).map (· ++ rs) ++ if r.nullable then residuals symbols rs else []

-- Adds what a step leads to until it leads to nothing more.
def settle (f : List (List Outline) → Option (List (List Outline))) :
    Nat → List (List Outline) → Option (List (List Outline))
  | 0, _ => none
  | n + 1, states =>
      (f states).bind fun next =>
        if next ⊆ states then some states else settle f n (states ++ next).dedup

-- What may be left of the others once a text of this outline is read.
def spread (rounds : Nat) :
    Outline → List (List Outline) → Option (List (List Outline))
  | nothing, states => some states
  | one symbols, states => some (states.flatMap (residuals symbols)).dedup
  | seq r s, states => (spread rounds r states).bind (spread rounds s)
  | alt r s, states =>
      (spread rounds r states).bind fun left =>
        (spread rounds s states).map fun right => (left ++ right).dedup
  | many r, states => settle (spread rounds r) rounds states

def apart (rounds : Nat) (r s : Outline) : Bool :=
  match spread rounds r [[s]] with
  | some states => states.all fun rs => !rs.all nullable
  | none => false

variable {r s : Outline} {rs : List Outline} {states next : List (List Outline)} {c : Char}
  {xs ys : List Char} {symbols others : Option (List Char)} {rounds : Nat}

@[simp]
theorem mem_sequence_nil : xs ∈ sequence [] ↔ xs = [] := Language.mem_one xs

theorem mem_sequence_cons :
    xs ∈ sequence (r :: rs) ↔ ∃ ys ∈ r.language, ∃ zs ∈ sequence rs, ys ++ zs = xs := by
  rw [sequence, List.map_cons, List.prod_cons]
  exact Language.mem_mul

theorem mem_sequence_append {ss : List Outline} :
    xs ∈ sequence (rs ++ ss) ↔ ∃ ys ∈ sequence rs, ∃ zs ∈ sequence ss, ys ++ zs = xs := by
  rw [sequence, List.map_append, List.prod_append]
  exact Language.mem_mul

theorem mem_sequence_singleton : xs ∈ sequence [r] ↔ xs ∈ r.language := by
  rw [sequence, List.map_singleton, List.prod_singleton]

theorem nullable_of_nil_mem (h : [] ∈ r.language) : r.nullable = true := by
  induction r with
  | nothing => rfl
  | one symbols =>
      obtain ⟨c, hc, -⟩ := h
      cases hc
  | seq r s ihr ihs =>
      obtain ⟨ys, hys, zs, hzs, happend⟩ := Language.mem_mul.mp h
      obtain ⟨rfl, rfl⟩ := List.append_eq_nil_iff.mp happend
      rw [nullable, ihr hys, ihs hzs]
      rfl
  | alt r s ihr ihs =>
      rcases (Language.mem_add _ _ _).mp h with h | h
      · rw [nullable, ihr h, Bool.true_or]
      · rw [nullable, ihs h, Bool.or_true]
  | many r ih => rfl

theorem all_nullable_of_nil_mem (h : [] ∈ sequence rs) : rs.all nullable = true := by
  induction rs with
  | nil => rfl
  | cons r rs ih =>
      obtain ⟨ys, hys, zs, hzs, happend⟩ := mem_sequence_cons.mp h
      obtain ⟨rfl, rfl⟩ := List.append_eq_nil_iff.mp happend
      rw [List.all_cons, nullable_of_nil_mem hys, ih hzs]
      rfl

theorem overlaps_of_allows (h : Allows symbols c) (h' : Allows others c) :
    overlaps symbols others = true := by
  cases symbols with
  | none => rfl
  | some cs =>
      cases others with
      | none => rfl
      | some ds =>
          refine List.any_eq_true.mpr ⟨c, h cs rfl, ?_⟩
          exact List.contains_iff_mem.mpr (h' ds rfl)

-- A part that is read to its end is followed by the next one.
theorem exists_deriv (hc : Allows symbols c) (h : c :: xs ∈ r.language) :
    ∃ rs ∈ r.derivs symbols, xs ∈ sequence rs := by
  induction r generalizing xs with
  | nothing => cases (Language.mem_one _).mp h
  | one others =>
      obtain ⟨d, hd, hallows⟩ := h
      obtain ⟨rfl, rfl⟩ := List.cons.inj hd
      rw [derivs, if_pos (overlaps_of_allows hc hallows)]
      exact ⟨[], List.mem_singleton_self _, mem_sequence_nil.mpr rfl⟩
  | seq r s ihr ihs =>
      obtain ⟨ys, hys, zs, hzs, happend⟩ := Language.mem_mul.mp h
      cases ys with
      | nil =>
          obtain rfl : zs = c :: xs := happend
          obtain ⟨rs, hrs, hread⟩ := ihs hzs
          rw [derivs, if_pos (nullable_of_nil_mem hys)]
          exact ⟨rs, List.mem_append_right _ hrs, hread⟩
      | cons d ys =>
          obtain ⟨rfl, rfl⟩ := List.cons.inj happend
          obtain ⟨rs, hrs, hread⟩ := ihr hys
          refine ⟨rs ++ [s], List.mem_append_left _ (List.mem_map_of_mem hrs), ?_⟩
          exact mem_sequence_append.mpr ⟨ys, hread, zs, mem_sequence_singleton.mpr hzs, rfl⟩
  | alt r s ihr ihs =>
      rcases (Language.mem_add _ _ _).mp h with h | h
      · obtain ⟨rs, hrs, hread⟩ := ihr h
        exact ⟨rs, List.mem_append_left _ hrs, hread⟩
      · obtain ⟨rs, hrs, hread⟩ := ihs h
        exact ⟨rs, List.mem_append_right _ hrs, hread⟩
  | many r ih =>
      obtain ⟨parts, hparts, hall⟩ := Language.mem_kstar_iff_exists_nonempty.mp h
      cases parts with
      | nil => cases hparts
      | cons part parts =>
          obtain ⟨hpart, hne⟩ := hall part List.mem_cons_self
          obtain ⟨d, ys, rfl⟩ := List.exists_cons_of_ne_nil hne
          obtain ⟨rfl, rfl⟩ := List.cons.inj hparts
          obtain ⟨rs, hrs, hread⟩ := ih hpart
          refine ⟨rs ++ [many r], List.mem_map_of_mem hrs, ?_⟩
          refine mem_sequence_append.mpr ⟨ys, hread, parts.flatten, ?_, rfl⟩
          refine mem_sequence_singleton.mpr (Language.join_mem_kstar fun y hy => ?_)
          exact (hall y (List.mem_cons_of_mem _ hy)).1

theorem exists_residual (hc : Allows symbols c) (h : c :: xs ∈ sequence rs) :
    ∃ ss ∈ residuals symbols rs, xs ∈ sequence ss := by
  induction rs generalizing xs with
  | nil => cases mem_sequence_nil.mp h
  | cons r rs ih =>
      obtain ⟨ys, hys, zs, hzs, happend⟩ := mem_sequence_cons.mp h
      cases ys with
      | nil =>
          obtain rfl : zs = c :: xs := happend
          obtain ⟨ss, hss, hread⟩ := ih hzs
          rw [residuals, if_pos (nullable_of_nil_mem hys)]
          exact ⟨ss, List.mem_append_right _ hss, hread⟩
      | cons d ys =>
          obtain ⟨rfl, rfl⟩ := List.cons.inj happend
          obtain ⟨ss, hss, hread⟩ := exists_deriv hc hys
          refine ⟨ss ++ rs, List.mem_append_left _ (List.mem_map_of_mem hss), ?_⟩
          exact mem_sequence_append.mpr ⟨ys, hread, zs, hzs, rfl⟩

theorem settle_spec {f : List (List Outline) → Option (List (List Outline))} {n : Nat}
    (h : settle f n states = some next) :
    states ⊆ next ∧ ∃ further, f next = some further ∧ further ⊆ next := by
  induction n generalizing states with
  | zero => cases h
  | succ n ih =>
      obtain ⟨further, hfurther, h⟩ := Option.bind_eq_some_iff.mp h
      split at h
      next hclosed =>
        obtain rfl := Option.some.inj h
        exact ⟨fun _ => id, further, hfurther, hclosed⟩
      next =>
        obtain ⟨hsub, hclosed⟩ := ih h
        refine ⟨fun rs hrs => hsub (List.mem_dedup.mpr (List.mem_append_left _ hrs)), hclosed⟩

-- Wherever the others read on over a text of the outline, what is left of them is found.
theorem exists_spread (h : spread rounds r states = some next) (hr : xs ∈ r.language)
    (hrs : rs ∈ states) (hread : xs ++ ys ∈ sequence rs) :
    ∃ ss ∈ next, ys ∈ sequence ss := by
  induction r generalizing states next rs xs ys with
  | nothing =>
      obtain rfl := Option.some.inj h
      obtain rfl := (Language.mem_one _).mp hr
      exact ⟨rs, hrs, hread⟩
  | one symbols =>
      obtain rfl := Option.some.inj h
      obtain ⟨c, rfl, hc⟩ := hr
      obtain ⟨ss, hss, hread⟩ := exists_residual hc hread
      exact ⟨ss, List.mem_dedup.mpr (List.mem_flatMap.mpr ⟨rs, hrs, hss⟩), hread⟩
  | seq r s ihr ihs =>
      obtain ⟨mid, hmid, h⟩ := Option.bind_eq_some_iff.mp h
      obtain ⟨us, hus, vs, hvs, rfl⟩ := Language.mem_mul.mp hr
      rw [List.append_assoc] at hread
      obtain ⟨ss, hss, hread⟩ := ihr hmid hus hrs hread
      exact ihs h hvs hss hread
  | alt r s ihr ihs =>
      obtain ⟨left, hleft, h⟩ := Option.bind_eq_some_iff.mp h
      obtain ⟨right, hright, rfl⟩ := Option.map_eq_some_iff.mp h
      rcases (Language.mem_add _ _ _).mp hr with hr | hr
      · obtain ⟨ss, hss, hread⟩ := ihr hleft hr hrs hread
        exact ⟨ss, List.mem_dedup.mpr (List.mem_append_left _ hss), hread⟩
      · obtain ⟨ss, hss, hread⟩ := ihs hright hr hrs hread
        exact ⟨ss, List.mem_dedup.mpr (List.mem_append_right _ hss), hread⟩
  | many r ih =>
      obtain ⟨hsub, further, hfurther, hclosed⟩ := settle_spec h
      obtain ⟨parts, rfl, hall⟩ := hr
      replace hrs := hsub hrs
      induction parts generalizing rs with
      | nil => exact ⟨rs, hrs, hread⟩
      | cons part parts ihparts =>
          rw [List.flatten_cons, List.append_assoc] at hread
          obtain ⟨ss, hss, hread⟩ := ih hfurther (hall part List.mem_cons_self) hrs hread
          exact ihparts (fun y hy => hall y (List.mem_cons_of_mem _ hy)) hread (hclosed hss)

theorem not_mem_of_apart (h : apart rounds r s = true) (hr : xs ∈ r.language) :
    xs ∉ s.language := by
  intro hs
  unfold apart at h
  split at h
  next states hstates =>
    have hread : xs ++ [] ∈ sequence [s] := by
      rw [List.append_nil]
      exact mem_sequence_singleton.mpr hs
    obtain ⟨ss, hss, hnil⟩ := exists_spread hstates hr (List.mem_singleton_self _) hread
    have hnot := List.all_eq_true.mp h ss hss
    rw [all_nullable_of_nil_mem hnil] at hnot
    cases hnot
  next => cases h

end Outline

open Outline

-- The symbols of what a match takes make up a text of the outline.
class Outlined (isWord : Char → Bool) (symbol : Char → Char) (r : Pattern) where
  outline : Outline
  reads : ∀ {place stop}, stop ∈ ends isWord r place →
    ∃ used, place.rest = used ++ stop.rest ∧ used.map symbol ∈ outline.language

-- So do those of all that is left of the text.
class Filled (isWord : Char → Bool) (symbol : Char → Char) (r : Pattern) where
  outline : Outline
  fills : ∀ {place stop}, stop ∈ ends isWord r place →
    place.rest.map symbol ∈ outline.language

section Combinators

variable {isWord : Char → Bool} {symbol : Char → Char} {r s : Pattern} {rs : List Pattern}

-- A pattern that takes nothing.
@[reducible]
def Outlined.still (h : ∀ place, ∀ stop ∈ ends isWord r place, stop = place) :
    Outlined isWord symbol r where
  outline := .nothing
  reads hstop := ⟨[], by rw [h _ _ hstop]; rfl, Language.nil_mem_one⟩

theorem eq_of_mem_guard {p : Prop} [Decidable p] {place stop : Place}
    (h : stop ∈ if p then [place] else []) : stop = place := by
  split at h
  · exact List.mem_singleton.mp h
  · cases h

theorem eq_of_mem_guard_not {p : Prop} [Decidable p] {place stop : Place}
    (h : stop ∈ if p then [] else [place]) : stop = place := by
  split at h
  · cases h
  · exact List.mem_singleton.mp h

instance : Outlined isWord symbol .empty := .still fun _ _ h => List.mem_singleton.mp h

instance : Outlined isWord symbol .boundary := .still fun _ _ h => eq_of_mem_guard_not h

instance : Outlined isWord symbol .start := .still fun _ _ h => eq_of_mem_guard h

instance : Outlined isWord symbol (.notBefore r) := .still fun _ _ h => eq_of_mem_guard h

@[reducible]
def Outlined.ofChar {p : Char → Bool} (symbols : Option (List Char))
    (h : ∀ c, p c = true → Allows symbols (symbol c)) : Outlined isWord symbol (.char p) where
  outline := .one symbols
  reads {place stop} hstop := by
    unfold ends at hstop
    split at hstop
    next => cases hstop
    next c cs hrest =>
      split at hstop
      next hp =>
        obtain rfl := List.mem_singleton.mp hstop
        exact ⟨[c], hrest, symbol c, rfl, h c hp⟩
      next => cases hstop

instance {cs : List Char} : Outlined isWord symbol (.char cs.contains) :=
  .ofChar (some (cs.map symbol)) fun _ hc _ hsymbols => by
    obtain rfl := Option.some.inj hsymbols
    exact List.mem_map_of_mem (List.contains_iff_mem.mp hc)

instance [a : Outlined isWord symbol r] [b : Outlined isWord symbol s] :
    Outlined isWord symbol (.seq r s) where
  outline := .seq a.outline b.outline
  reads hstop := by
    obtain ⟨mid, hmid, hstop⟩ := List.mem_flatMap.mp hstop
    obtain ⟨used, hrest, hused⟩ := a.reads hmid
    obtain ⟨used', hrest', hused'⟩ := b.reads hstop
    refine ⟨used ++ used', by rw [hrest, hrest', List.append_assoc], ?_⟩
    rw [List.map_append]
    exact Language.append_mem_mul hused hused'

instance [a : Outlined isWord symbol r] [b : Outlined isWord symbol s] :
    Outlined isWord symbol (.alt r s) where
  outline := .alt a.outline b.outline
  reads hstop := by
    rcases List.mem_append.mp hstop with hstop | hstop
    · obtain ⟨used, hrest, hused⟩ := a.reads hstop
      exact ⟨used, hrest, (Language.mem_add _ _ _).mpr (.inl hused)⟩
    · obtain ⟨used, hrest, hused⟩ := b.reads hstop
      exact ⟨used, hrest, (Language.mem_add _ _ _).mpr (.inr hused)⟩

theorem Outlined.iterate_reads [a : Outlined isWord symbol r] {n : Nat} {place stop : Place}
    (h : stop ∈ iterate (ends isWord r) n place) :
    ∃ used, place.rest = used ++ stop.rest ∧
      used.map symbol ∈ (Outline.many a.outline).language := by
  induction n generalizing place with
  | zero =>
      rw [List.mem_singleton.mp h]
      exact ⟨[], rfl, Language.nil_mem_kstar _⟩
  | succ n ih =>
      rcases List.mem_append.mp h with h | h
      · obtain ⟨mid, hmid, hstop⟩ := List.mem_flatMap.mp h
        obtain ⟨used, hrest, hused⟩ := a.reads (List.mem_of_mem_filter hmid)
        obtain ⟨used', hrest', parts, hparts, hall⟩ := ih hstop
        refine ⟨used ++ used', by rw [hrest, hrest', List.append_assoc],
          used.map symbol :: parts, ?_, ?_⟩
        · rw [List.map_append, hparts, List.flatten_cons]
        · exact List.forall_mem_cons.mpr ⟨hused, hall⟩
      · rw [List.mem_singleton.mp h]
        exact ⟨[], rfl, Language.nil_mem_kstar _⟩

instance [a : Outlined isWord symbol r] : Outlined isWord symbol (.many r) where
  outline := .many a.outline
  reads hstop := a.iterate_reads hstop

instance [Outlined isWord symbol r] : Outlined isWord symbol (opt r) :=
  inferInstanceAs (Outlined isWord symbol (.alt r .empty))

instance [Outlined isWord symbol r] : Outlined isWord symbol (plus r) :=
  inferInstanceAs (Outlined isWord symbol (.seq r (.many r)))

instance [Outlined isWord symbol r] : Outlined isWord symbol (inOrder [r]) :=
  inferInstanceAs (Outlined isWord symbol r)

instance [Outlined isWord symbol r] [Outlined isWord symbol (inOrder (s :: rs))] :
    Outlined isWord symbol (inOrder (r :: s :: rs)) :=
  inferInstanceAs (Outlined isWord symbol (.seq r (inOrder (s :: rs))))

instance [Outlined isWord symbol r] : Outlined isWord symbol (oneOf [r]) :=
  inferInstanceAs (Outlined isWord symbol r)

instance [Outlined isWord symbol r] [Outlined isWord symbol (oneOf (s :: rs))] :
    Outlined isWord symbol (oneOf (r :: s :: rs)) :=
  inferInstanceAs (Outlined isWord symbol (.alt r (oneOf (s :: rs))))

-- The place before a last line end is an end too.
instance : Filled isWord symbol .finish where
  outline := .alt .nothing (.one (some [symbol '\n']))
  fills {place stop} hstop := by
    unfold ends at hstop
    split at hstop
    next hrest =>
      rw [Outline.language, Language.mem_add]
      rcases hrest with hrest | hrest
      · rw [hrest]
        exact .inl Language.nil_mem_one
      · rw [hrest]
        refine .inr ⟨symbol '\n', rfl, fun cs hcs => ?_⟩
        obtain rfl := Option.some.inj hcs
        exact List.mem_singleton_self _
    next => cases hstop

instance [a : Outlined isWord symbol r] [b : Filled isWord symbol s] :
    Filled isWord symbol (.seq r s) where
  outline := .seq a.outline b.outline
  fills hstop := by
    obtain ⟨mid, hmid, hstop⟩ := List.mem_flatMap.mp hstop
    obtain ⟨used, hrest, hused⟩ := a.reads hmid
    rw [hrest, List.map_append]
    exact Language.append_mem_mul hused (b.fills hstop)

instance [Filled isWord symbol r] : Filled isWord symbol (inOrder [r]) :=
  inferInstanceAs (Filled isWord symbol r)

instance [Outlined isWord symbol r] [Filled isWord symbol (inOrder (s :: rs))] :
    Filled isWord symbol (inOrder (r :: s :: rs)) :=
  inferInstanceAs (Filled isWord symbol (.seq r (inOrder (s :: rs))))

theorem Filled.of_matchAt [a : Filled isWord symbol r] {before rest : List Char}
    (h : (matchAt isWord r before rest).isSome) : rest.map symbol ∈ a.outline.language := by
  obtain ⟨found, hfound⟩ := Option.isSome_iff_exists.mp h
  obtain ⟨stop, hstop, -⟩ := Option.map_eq_some_iff.mp hfound
  exact a.fills (List.mem_of_head? hstop)

theorem mem_many_any {xs : List Char} : xs ∈ (Outline.many (.one none)).language := by
  refine ⟨xs.map ([·]), ?_, ?_⟩
  · induction xs with
    | nil => rfl
    | cons c xs ih => exact congrArg (c :: ·) ih
  · intro ys hys
    obtain ⟨c, -, rfl⟩ := List.mem_map.mp hys
    exact ⟨c, rfl, nofun⟩

-- Somewhere in a text.
def Outline.within (r : Outline) : Outline := .seq (.many (.one none)) (.seq r (.many (.one none)))

theorem Outlined.of_searchFrom [a : Outlined isWord symbol r] {before rest : List Char}
    (h : (searchFrom isWord r before rest).isSome) :
    rest.map symbol ∈ a.outline.within.language := by
  have hhere {before rest : List Char} (h : (matchAt isWord r before rest).isSome) :
      rest.map symbol ∈ a.outline.within.language := by
    obtain ⟨found, hfound⟩ := Option.isSome_iff_exists.mp h
    obtain ⟨stop, hstop, -⟩ := Option.map_eq_some_iff.mp hfound
    obtain ⟨used, hrest, hused⟩ := a.reads (List.mem_of_head? hstop)
    obtain rfl : rest = used ++ stop.rest := hrest
    rw [List.map_append]
    have hpart : used.map symbol ++ stop.rest.map symbol ∈
        (Outline.seq a.outline (.many (.one none))).language :=
      Language.append_mem_mul hused mem_many_any
    exact Language.append_mem_mul (a := []) (Language.nil_mem_kstar _) hpart
  induction rest generalizing before with
  | nil => exact hhere h
  | cons c cs ih =>
      unfold searchFrom at h
      split at h
      next found hfound =>
        have hsome : (matchAt isWord r before (c :: cs)).isSome := by
          rw [hfound]
          rfl
        exact hhere hsome
      next =>
        obtain ⟨skipped, -, tail, htail, happend⟩ := Language.mem_mul.mp (ih h)
        rw [List.map_cons, ← happend]
        exact Language.append_mem_mul (a := symbol c :: skipped) mem_many_any htail

end Combinators

section Disjoint

variable {isWord : Char → Bool} {symbol : Char → Char} {r s : Pattern} {rounds : Nat}
  {before before' text : List Char}

-- No text is a match of both from its first character to its end.
theorem not_matchAt_of_apart [a : Filled isWord symbol r] [b : Filled isWord symbol s]
    (h : apart rounds a.outline b.outline = true) (hr : (matchAt isWord r before text).isSome) :
    (matchAt isWord s before' text).isSome = false :=
  Bool.eq_false_iff.mpr fun hs => not_mem_of_apart h (Filled.of_matchAt hr) (Filled.of_matchAt hs)

theorem not_search_of_apart [a : Filled isWord symbol r] [b : Outlined isWord symbol s]
    (h : apart rounds a.outline b.outline.within = true)
    (hr : (matchAt isWord r before text).isSome) : (search isWord s text).isSome = false :=
  Bool.eq_false_iff.mpr fun hs =>
    not_mem_of_apart h (Filled.of_matchAt hr) (Outlined.of_searchFrom hs)

end Disjoint

end Pattern
