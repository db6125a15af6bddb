import Mathlib

-- Regular expressions with numbered groups, repetition and looks around a place, read as a
-- backtracking matcher reads them.
inductive Pattern where
  | empty
  | char (p : Char → Bool)
  | seq (r s : Pattern)
  | alt (r s : Pattern)
  | many (r : Pattern)
  | group (n : Nat) (r : Pattern)
  | boundary
  | start
  | finish
  | notAfter (p : Char → Bool)
  | notBefore (r : Pattern)

namespace Pattern

-- A place in a text: what is before it, the last character first, what follows and the groups
-- captured so far, the last one first.
structure Place where
  before : List Char
  rest : List Char
  groups : List (Nat × List Char)
deriving DecidableEq

-- An iteration that consumes nothing ends a repetition.
def iterate (f : Place → List Place) : Nat → Place → List Place
  | 0, place => [place]
  | n + 1, place =>
      ((f place).filter fun stop => stop.rest.length < place.rest.length).flatMap (iterate f n) ++
        [place]

section Matcher

variable (isWord : Char → Bool)

-- Where a match begun at a place can stop, in the order in which the matcher tries them.
def ends : Pattern → Place → List Place
  | .empty, place => [place]
  | .char p, place =>
      match place.rest with
      | [] => []
      | c :: cs => if p c then [⟨c :: place.before, cs, place.groups⟩] else []
  | .seq r s, place => (ends r place).flatMap (ends s)
  | .alt r s, place => ends r place ++ ends s place
  | .many r, place => iterate (ends r) place.rest.length place
  | .group n r, place =>
      (ends r place).map fun stop =>
        { stop with
          groups := (n, place.rest.take (place.rest.length - stop.rest.length)) :: stop.groups }
  | .boundary, place =>
      if place.before.head?.any isWord = place.rest.head?.any isWord then [] else [place]
  | .start, place => if place.before = [] then [place] else []
  | .finish, place => if place.rest = [] ∨ place.rest = ['\n'] then [place] else []
  | .notAfter p, place => if place.before.head?.any p then [] else [place]
  | .notBefore r, place => if (ends r place).isEmpty then [place] else []

-- A match, the text before it, the last character first, and the text after it.
structure Found where
  before : List Char
  text : List Char
  rest : List Char
  groups : List (Nat × List Char)
deriving DecidableEq

def Found.group? (found : Found) (n : Nat) : Option (List Char) := found.groups.lookup n

def Found.group (found : Found) (n : Nat) : List Char := (found.group? n).getD []

def matchAt (r : Pattern) (before rest : List Char) : Option Found :=
  (ends isWord r ⟨before, rest, []⟩).head?.map fun stop =>
    ⟨before, rest.take (rest.length - stop.rest.length), stop.rest, stop.groups⟩

def searchFrom (r : Pattern) : List Char → List Char → Option Found
  | before, [] => matchAt isWord r before []
  | before, c :: cs =>
      match matchAt isWord r before (c :: cs) with
      | some found => some found
      | none => searchFrom r (c :: before) cs

def search (r : Pattern) (text : List Char) : Option Found := searchFrom isWord r [] text

-- The text before the first match, then every match with the text between it and the next one.
def segmentsFrom (r : Pattern) : Nat → List Char → List Char → List Char × List (Found × List Char)
  | _, _, [] => ([], [])
  | skip + 1, before, c :: cs => segmentsFrom r skip (c :: before) cs
  | 0, before, c :: cs =>
      match (matchAt isWord r before (c :: cs)).filter fun found => !found.text.isEmpty with
      | some found =>
          let (text, tail) := segmentsFrom r (found.text.length - 1) (c :: before) cs
          ([], (found, text) :: tail)
      | none =>
          let (text, tail) := segmentsFrom r 0 (c :: before) cs
          (c :: text, tail)

def segments (r : Pattern) (text : List Char) : List Char × List (Found × List Char) :=
  segmentsFrom isWord r 0 [] text

def findAll (r : Pattern) (text : List Char) : List Found := (segments isWord r text).2.map (·.1)

def split (r : Pattern) (text : List Char) : List (List Char) :=
  (segments isWord r text).1 :: (segments isWord r text).2.map (·.2)

-- Every match is taken out.
def cut (r : Pattern) (text : List Char) : List Char := (split isWord r text).flatten

end Matcher

-- The text as it is spelled once its characters are folded.
def spelled (fold : Char → Char) : List Char → Pattern
  | [] => .empty
  | d :: ds => .seq (.char fun c => fold c = d) (spelled fold ds)

def opt (r : Pattern) : Pattern := .alt r .empty

def plus (r : Pattern) : Pattern := .seq r (.many r)

def upTo (r : Pattern) : Nat → Pattern
  | 0 => .empty
  | n + 1 => opt (.seq r (upTo r n))

def oneOf : List Pattern → Pattern
  | [] => .notBefore .empty
  | [r] => r
  | r :: rs => .alt r (oneOf rs)

def inOrder : List Pattern → Pattern
  | [] => .empty
  | [r] => r
  | r :: rs => .seq r (inOrder rs)

section Consumed

variable {isWord : Char → Bool} {p : Char → Prop} {r : Pattern} {place stop : Place}
  {before rest text : List Char} {found : Found}

-- The characters that a pattern takes; the rest of it only looks.
def Avoids (p : Char → Prop) : Pattern → Prop
  | .char q => ∀ c, q c = true → ¬ p c
  | .seq r s => Avoids p r ∧ Avoids p s
  | .alt r s => Avoids p r ∧ Avoids p s
  | .many r => Avoids p r
  | .group _ r => Avoids p r
  | _ => True

-- A stop lies after characters of the rest that the pattern may take.
def Consumed (p : Char → Prop) (r : Pattern) (place stop : Place) : Prop :=
  ∃ used, place.rest = used ++ stop.rest ∧ stop.before = used.reverse ++ place.before ∧
    (Avoids p r → ∀ c ∈ used, ¬ p c)

theorem Consumed.refl : Consumed p r place place := ⟨[], rfl, rfl, by simp⟩

theorem Consumed.trans {s : Pattern} {mid : Place} (h : Consumed p r place mid)
    (h' : Consumed p s mid stop) {t : Pattern} (ht : Avoids p t → Avoids p r ∧ Avoids p s) :
    Consumed p t place stop := by
  obtain ⟨used, hrest, hbefore, havoid⟩ := h
  obtain ⟨used', hrest', hbefore', havoid'⟩ := h'
  refine ⟨used ++ used', by rw [hrest, hrest', List.append_assoc],
    by rw [hbefore', hbefore, List.reverse_append, List.append_assoc], fun h c hc => ?_⟩
  rcases List.mem_append.mp hc with hc | hc
  · exact havoid (ht h).1 c hc
  · exact havoid' (ht h).2 c hc

theorem Consumed.mono {s : Pattern} (h : Consumed p r place stop)
    (hs : Avoids p s → Avoids p r) : Consumed p s place stop := by
  obtain ⟨used, hrest, hbefore, havoid⟩ := h
  exact ⟨used, hrest, hbefore, fun h => havoid (hs h)⟩

theorem consumed_iterate {f : Place → List Place} {n : Nat}
    (hf : ∀ place, ∀ stop ∈ f place, Consumed p r place stop) (h : stop ∈ iterate f n place) :
    Consumed p r place stop := by
  induction n generalizing place with
  | zero => exact List.mem_singleton.mp h ▸ .refl
  | succ n ih =>
      rcases List.mem_append.mp h with h | h
      · obtain ⟨mid, hmid, hstop⟩ := List.mem_flatMap.mp h
        exact (hf place mid (List.mem_of_mem_filter hmid)).trans (ih hstop) fun h => ⟨h, h⟩
      · exact List.mem_singleton.mp h ▸ .refl

theorem consumed_of_mem_ends (h : stop ∈ ends isWord r place) : Consumed p r place stop := by
  induction r generalizing place stop with
  | empty => exact List.mem_singleton.mp h ▸ .refl
  | char q =>
      unfold ends at h
      split at h
      next => cases h
      next c cs hrest =>
        split at h
        next hq =>
          obtain rfl := List.mem_singleton.mp h
          refine ⟨[c], hrest, rfl, fun havoid d hd => ?_⟩
          exact List.mem_singleton.mp hd ▸ havoid c hq
        next => cases h
  | seq r s ihr ihs =>
      obtain ⟨mid, hmid, hstop⟩ := List.mem_flatMap.mp h
      exact (ihr hmid).trans (ihs hstop) id
  | alt r s ihr ihs =>
      rcases List.mem_append.mp h with h | h
      · exact (ihr h).mono And.left
      · exact (ihs h).mono And.right
  | many r ih => exact (consumed_iterate (fun _ _ => ih) h).mono id
  | group n r ih =>
      obtain ⟨inner, hinner, rfl⟩ := List.mem_map.mp h
      exact (ih hinner).mono id
  | boundary =>
      unfold ends at h
      split at h
      · cases h
      · exact List.mem_singleton.mp h ▸ .refl
  | start =>
      unfold ends at h
      split at h
      · exact List.mem_singleton.mp h ▸ .refl
      · cases h
  | finish =>
      unfold ends at h
      split at h
      · exact List.mem_singleton.mp h ▸ .refl
      · cases h
  | notAfter q =>
      unfold ends at h
      split at h
      · cases h
      · exact List.mem_singleton.mp h ▸ .refl
  | notBefore r =>
      unfold ends at h
      split at h
      · exact List.mem_singleton.mp h ▸ .refl
      · cases h

-- A match lies in the text at its place.
def Found.In (found : Found) (text : List Char) : Prop :=
  text = found.before.reverse ++ found.text ++ found.rest

theorem matchAt_spec (h : matchAt isWord r before rest = some found) :
    found.before = before ∧ found.In (before.reverse ++ rest) ∧
      (Avoids p r → ∀ c ∈ found.text, ¬ p c) := by
  obtain ⟨stop, hstop, rfl⟩ := Option.map_eq_some_iff.mp h
  obtain ⟨used, hrest, -, havoid⟩ := consumed_of_mem_ends (p := p) (List.mem_of_head? hstop)
  have htext : rest.take (rest.length - stop.rest.length) = used := by
    dsimp only at hrest
    rw [hrest]
    simp
  refine ⟨rfl, ?_, htext.symm ▸ havoid⟩
  simp only [Found.In, htext, List.append_assoc]
  rw [← hrest]

-- The pieces and the places where they begin, one after the other.
def Slices (text : List Char) (pieces : List (List Char × Nat)) : Prop :=
  (∀ piece ∈ pieces, piece.1 <+: text.drop piece.2) ∧
    pieces.Pairwise fun piece other => piece.2 + piece.1.length ≤ other.2

theorem Slices.cons {piece : List Char × Nat} {pieces : List (List Char × Nat)} {i : Nat}
    (h : Slices text (piece :: pieces)) (hle : i ≤ piece.2) :
    Slices text (([], i) :: piece :: pieces) := by
  refine ⟨?_, List.pairwise_cons.mpr ⟨?_, h.2⟩⟩
  · intro other hother
    rcases List.mem_cons.mp hother with rfl | hother
    · exact List.nil_prefix
    · exact h.1 other hother
  · intro other hother
    have hfirst : piece.2 ≤ other.2 := by
      rcases List.mem_cons.mp hother with rfl | hother
      · exact Nat.le_refl _
      · exact Nat.le_trans (Nat.le_add_right _ _) ((List.pairwise_cons.mp h.2).1 other hother)
    simpa using Nat.le_trans hle hfirst

theorem mem_segmentsFrom {skip : Nat} {part : Found × List Char}
    (h : part ∈ (segmentsFrom isWord r skip before rest).2) :
    part.1.text ≠ [] ∧ part.1.In (before.reverse ++ rest) ∧
      (Avoids p r → ∀ c ∈ part.1.text, ¬ p c) := by
  induction rest generalizing skip before with
  | nil => simp [segmentsFrom] at h
  | cons c cs ih =>
      have htext : before.reverse ++ c :: cs = (c :: before).reverse ++ cs := by simp
      cases skip with
      | succ skip =>
          rw [segmentsFrom] at h
          exact htext ▸ ih h
      | zero =>
          rw [segmentsFrom] at h
          split at h
          next found hfound =>
            obtain ⟨hmatch, hne⟩ := Option.filter_eq_some_iff.mp hfound
            rcases List.mem_cons.mp h with rfl | h
            · obtain ⟨-, hin, havoid⟩ := matchAt_spec (p := p) hmatch
              exact ⟨by simpa using hne, hin, havoid⟩
            · exact htext ▸ ih h
          next => exact htext ▸ ih h

theorem mem_findAll (h : found ∈ findAll isWord r text) :
    found.text ≠ [] ∧ found.In text ∧ (Avoids p r → ∀ c ∈ found.text, ¬ p c) := by
  obtain ⟨part, hpart, rfl⟩ := List.mem_map.mp h
  exact mem_segmentsFrom hpart

end Consumed

end Pattern
