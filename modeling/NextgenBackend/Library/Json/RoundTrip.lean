import Mathlib
import NextgenBackend.Library.Json.Reader

-- The decoder reads every text of a well spelled tree as that tree.
namespace Json

section Spelling

def Piece.Valid : Piece → Prop
  | .plain c => ' ' ≤ c ∧ c ≠ '"' ∧ c ≠ '\\'
  | .escaped c => c ∈ escapes
  | .unicode digits => digits.length = 4 ∧ ∀ c ∈ digits, isHex c

instance (p : Piece) : Decidable p.Valid :=
  match p with
  | .plain c => inferInstanceAs (Decidable (' ' ≤ c ∧ c ≠ '"' ∧ c ≠ '\\'))
  | .escaped c => inferInstanceAs (Decidable (c ∈ escapes))
  | .unicode digits =>
      haveI := List.decidableBAll (isHex · = true) digits
      inferInstanceAs (Decidable (digits.length = 4 ∧ ∀ c ∈ digits, isHex c))

def Token.Valid : Token → Prop
  | .number lexeme => isNumber lexeme
  | .string pieces => ∀ p ∈ pieces, p.Valid

instance (token : Token) : Decidable token.Valid :=
  match token with
  | .number lexeme => inferInstanceAs (Decidable (isNumber lexeme))
  | .string pieces => List.decidableBAll Piece.Valid pieces

def Tree.Valid (t : Tree) : Prop := ∀ token ∈ t.tokens, token.Valid

instance (t : Tree) : Decidable t.Valid := List.decidableBAll Token.Valid t.tokens

def Token.Fits (limits : Limits) : Token → Prop
  | .number lexeme => ¬ tooLong limits lexeme
  | .string _ => True

instance (limits : Limits) (token : Token) : Decidable (token.Fits limits) :=
  match token with
  | .number lexeme => inferInstanceAs (Decidable (¬ tooLong limits lexeme))
  | .string _ => .isTrue trivial

structure Tree.Fits (limits : Limits) (t : Tree) : Prop where
  depth : t.depth ≤ limits.depth
  tokens : ∀ token ∈ t.tokens, token.Fits limits

instance (limits : Limits) (t : Tree) : Decidable (t.Fits limits) :=
  haveI := List.decidableBAll (Token.Fits limits) t.tokens
  decidable_of_iff (t.depth ≤ limits.depth ∧ ∀ token ∈ t.tokens, token.Fits limits)
    ⟨fun ⟨depth, tokens⟩ => ⟨depth, tokens⟩, fun h => ⟨h.depth, h.tokens⟩⟩

variable {t : Tree} {ts : List Tree} {ms : List (List Piece × Tree)} {token : Token}

theorem mem_itemTokens : token ∈ itemTokens ts ↔ ∃ t ∈ ts, token ∈ t.tokens := by
  induction ts with
  | nil => simp [itemTokens]
  | cons t ts ih => simp [itemTokens, ih]

theorem mem_memberTokens : token ∈ memberTokens ms ↔
    ∃ m ∈ ms, token = .string m.1 ∨ token ∈ m.2.tokens := by
  induction ms with
  | nil => simp [memberTokens]
  | cons m ms ih => simp [memberTokens, ih, or_assoc]

theorem depth_le_itemsDepth (h : t ∈ ts) : t.depth ≤ itemsDepth ts := by
  induction ts with
  | nil => cases h
  | cons u ts ih =>
      rw [itemsDepth]
      rcases List.mem_cons.mp h with rfl | h
      · exact le_max_left _ _
      · exact (ih h).trans (le_max_right _ _)

theorem depth_le_membersDepth {m : List Piece × Tree} (h : m ∈ ms) :
    m.2.depth ≤ membersDepth ms := by
  induction ms with
  | nil => cases h
  | cons u ms ih =>
      rw [membersDepth]
      rcases List.mem_cons.mp h with rfl | h
      · exact le_max_left _ _
      · exact (ih h).trans (le_max_right _ _)

end Spelling

section Completeness

variable {limits : Limits} {st st' : State} {stack : List Frame} {t : Tree} {c : Char}
  {cs : List Char} {isKey : Bool} {pieces ps : List Piece} {p : Piece} {s s' : NumberState}
  {lexeme : List Char} {items : List Tree} {members : List (List Piece × Tree)} {key : List Piece}

theorem run_cons : run limits st (c :: cs) = (step limits st c).bind (run limits · cs) := rfl

theorem run_append {text text' : List Char} :
    run limits st (text ++ text') = (run limits st text).bind (run limits · text') :=
  List.foldlM_append

theorem run_of_step (h : step limits st c = .ok st') :
    run limits st (c :: cs) = run limits st' cs := by
  rw [run_cons, h]
  rfl

theorem run_of_run {text : List Char} (h : run limits st text = .ok st') :
    run limits st (text ++ cs) = run limits st' cs := by
  rw [run_append, h]
  rfl

theorem run_piece (h : p.Valid) : run limits ⟨.string isKey pieces, stack⟩ (p.text ++ cs) =
    run limits ⟨.string isKey (pieces ++ [p]), stack⟩ cs := by
  cases p with
  | plain c =>
      obtain ⟨hprintable, hquote, hbackslash⟩ := h
      refine run_of_step ?_
      simp only [step]
      rw [if_neg hquote, if_neg hbackslash, if_neg (Char.not_lt.mpr hprintable)]
  | escaped c =>
      have hmem : c ∈ escapes := h
      have hu : c ≠ 'u' := by
        rintro rfl
        exact absurd hmem (by decide)
      have hescape : step limits ⟨.string isKey pieces, stack⟩ '\\' =
          .ok ⟨.escape isKey pieces, stack⟩ := rfl
      refine (run_of_step hescape).trans (run_of_step ?_)
      simp only [step]
      rw [if_neg hu, if_pos hmem]
  | unicode digits =>
      obtain ⟨hlength, hhex⟩ := h
      match digits, hlength with
      | [a, b, c, d], _ =>
          have hdigit {x : Char} (hx : x ∈ [a, b, c, d]) (digits : List Char)
              (hshort : digits.length ≠ 3) :
              step limits ⟨.unicode isKey pieces digits, stack⟩ x =
                .ok ⟨.unicode isKey pieces (digits ++ [x]), stack⟩ := by
            simp only [step]
            rw [if_neg (by simpa using hhex x hx), if_neg hshort]
          have hlast : step limits ⟨.unicode isKey pieces [a, b, c], stack⟩ d =
              .ok ⟨.string isKey (pieces ++ [.unicode [a, b, c, d]]), stack⟩ := by
            simp only [step]
            rw [if_neg (by simpa using hhex d (by simp))]
            rfl
          calc run limits ⟨.string isKey pieces, stack⟩ ('\\' :: 'u' :: a :: b :: c :: d :: cs)
              = run limits ⟨.unicode isKey pieces [], stack⟩ (a :: b :: c :: d :: cs) := rfl
            _ = run limits ⟨.unicode isKey pieces [a], stack⟩ (b :: c :: d :: cs) :=
                run_of_step (hdigit (by simp) [] (by simp))
            _ = run limits ⟨.unicode isKey pieces [a, b], stack⟩ (c :: d :: cs) :=
                run_of_step (hdigit (by simp) [a] (by simp))
            _ = run limits ⟨.unicode isKey pieces [a, b, c], stack⟩ (d :: cs) :=
                run_of_step (hdigit (by simp) [a, b] (by simp))
            _ = _ := run_of_step hlast

theorem run_pieces (h : ∀ p ∈ ps, p.Valid) :
    run limits ⟨.string isKey pieces, stack⟩ (ps.flatMap Piece.text ++ '"' :: cs) =
      (closeString isKey (pieces ++ ps) stack).bind (run limits · cs) := by
  induction ps generalizing pieces with
  | nil =>
      rw [List.append_nil]
      rfl
  | cons p ps ih =>
      obtain ⟨hp, hps⟩ := List.forall_mem_cons.mp h
      rw [List.flatMap_cons, List.append_assoc, run_piece hp, ih hps, List.append_assoc]
      rfl

theorem run_number (h : cs.foldlM NumberState.step s = some s') :
    run limits ⟨.number lexeme s, stack⟩ cs = .ok ⟨.number (lexeme ++ cs) s', stack⟩ := by
  induction cs generalizing lexeme s with
  | nil =>
      rw [List.append_nil, ← Option.some.inj h]
      rfl
  | cons c cs ih =>
      obtain ⟨next, hstep, hrest⟩ := Option.bind_eq_some_iff.mp h
      have hmove : step limits ⟨.number lexeme s, stack⟩ c =
          .ok ⟨.number (lexeme ++ [c]) next, stack⟩ := by
        simp only [step]
        rw [hstep]
      rw [run_of_step hmove, ih hrest, List.append_assoc]
      rfl

theorem opening_number (h : NumberState.begin c = some s) :
    opening limits c stack = .ok ⟨.number [c] s, stack⟩ := by
  have hother : ∀ d ∈ ['"', '{', '[', 'n', 't', 'f', 'N', 'I'], c ≠ d := by
    rintro d hd rfl
    have hnone : ∀ d ∈ ['"', '{', '[', 'n', 't', 'f', 'N', 'I'], NumberState.begin d = none := by
      simp [NumberState.begin, Char.isDigit]
    rw [hnone c hd] at h
    cases h
  unfold opening
  simp only [List.forall_mem_cons] at hother
  obtain ⟨h1, h2, h3, h4, h5, h6, h7, h8, -⟩ := hother
  rw [if_neg h1, if_neg h2, if_neg h3, if_neg h4, if_neg h5, if_neg h6, if_neg h7, if_neg h8, h]

-- After the text of a tree the decoder holds it, or will at the next character.
structure Settled (limits : Limits) (t : Tree) (stack : List Frame) (st : State) : Prop where
  next : ∀ c ∈ [',', ']', '}'], step limits st c = after t c stack
  finish : stack = [] → Json.finish limits st = .ok t

theorem isBlank_delimiter : ∀ c ∈ [',', ']', '}'], isBlank c = false := by simp [isBlank]

theorem settled_done : Settled limits t stack ⟨.done t, stack⟩ where
  next c hc := if_neg (by rw [isBlank_delimiter c hc]; decide)
  finish hstack := by rw [hstack]; rfl

theorem settled_number (haccepts : s.accepts) (hshort : ¬ tooLong limits lexeme) :
    Settled limits (.number lexeme) stack ⟨.number lexeme s, stack⟩ := by
  have hread : numberRead limits lexeme s = .ok (.number lexeme) := by
    have hover : s.overshoot = 0 := by
      cases s <;> first | rfl | cases haccepts
    unfold numberRead
    rw [hover, Nat.sub_zero, List.take_length, if_neg hshort, if_pos haccepts]
  constructor
  · intro c hc
    have hstop : ∀ s : NumberState, ∀ c ∈ [',', ']', '}'], s.step c = none ∧ c ≠ 'I' := by
      intro s
      cases s <;> simp [NumberState.step, Char.isDigit]
    simp only [step]
    rw [(hstop s c hc).1]
    simp only [(hstop s c hc).2, and_false, if_false, hread]
    exact if_neg (by rw [isBlank_delimiter c hc]; decide)
  · rintro rfl
    simp only [finish, hread]
    rfl

structure Reads (limits : Limits) (t : Tree) (stack : List Frame) (st : State) : Prop where
  value : run limits ⟨.value, stack⟩ t.text = .ok st
  first : run limits ⟨.first, stack⟩ t.text = .ok st
  settled : Settled limits t stack st

theorem reads_of_opening (htext : t.text = c :: cs) (hblank : isBlank c = false) (hclose : c ≠ ']')
    (hopening : (opening limits c stack).bind (run limits · cs) = .ok st)
    (hsettled : Settled limits t stack st) : Reads limits t stack st where
  value := by
    rw [htext, run_cons, ← hopening]
    simp only [step, hblank, Bool.false_eq_true, if_false]
  first := by
    rw [htext, run_cons, ← hopening]
    simp only [step, hblank, Bool.false_eq_true, if_false, if_neg hclose]
  settled := hsettled

theorem reads_literal (l : Literal) :
    Reads limits (.literal l) stack ⟨.done (.literal l), stack⟩ := by
  cases l <;> exact reads_of_opening rfl rfl (by decide) rfl settled_done

theorem reads_number (hvalid : isNumber lexeme) (hshort : ¬ tooLong limits lexeme) :
    ∃ st, Reads limits (.number lexeme) stack st := by
  cases lexeme with
  | nil => cases hvalid
  | cons c cs =>
      obtain ⟨s', hstate, haccepts⟩ := (Option.any_eq_true _ _).mp hvalid
      obtain ⟨s, hbegin, hrest⟩ := Option.bind_eq_some_iff.mp hstate
      have hblank : isBlank c = false ∧ c ≠ ']' := by
        have hnone : ∀ d ∈ [' ', '\t', '\n', '\r', ']'], NumberState.begin d = none := by
          simp [NumberState.begin, Char.isDigit]
        have hne : ∀ d ∈ [' ', '\t', '\n', '\r', ']'], c ≠ d := by
          rintro d hd rfl
          rw [hnone c hd] at hbegin
          cases hbegin
        simp only [List.forall_mem_cons] at hne
        simp [isBlank, hne]
      refine ⟨_, reads_of_opening rfl hblank.1 hblank.2 ?_ (settled_number haccepts hshort)⟩
      rw [opening_number hbegin]
      exact run_number hrest

theorem reads_string (h : ∀ p ∈ ps, p.Valid) :
    Reads limits (.string ps) stack ⟨.done (.string ps), stack⟩ :=
  reads_of_opening rfl rfl (by decide) (run_pieces h) settled_done

theorem run_quoted_key (h : ∀ p ∈ ps, p.Valid) {mode : Mode} (hmode : mode = .firstKey ∨ mode = .key) :
    run limits ⟨mode, .object members :: stack⟩ (quoted ps ++ ':' :: cs) =
      run limits ⟨.value, .member members ps :: stack⟩ cs := by
  have hquote : step limits ⟨mode, .object members :: stack⟩ '"' =
      .ok ⟨.string true [], .object members :: stack⟩ := by
    rcases hmode with rfl | rfl <;> rfl
  rw [quoted, List.cons_append, run_of_step hquote, List.append_assoc]
  exact run_pieces h

theorem run_moreItems (hitems : ∀ u ∈ items, ∀ earlier, ∃ st, Reads limits u (.array earlier :: stack) st)
    {earlier : List Tree} (hst : Settled limits t (.array earlier :: stack) st) :
    run limits st (moreItems items) =
      .ok ⟨.done (.array (earlier ++ t :: items)), stack⟩ := by
  induction items generalizing earlier t st with
  | nil => exact run_of_step (hst.next ']' (by decide))
  | cons u us ih =>
      obtain ⟨hu, hus⟩ := List.forall_mem_cons.mp hitems
      obtain ⟨next, hnext⟩ := hu (earlier ++ [t])
      rw [moreItems, run_of_step (hst.next ',' (by decide))]
      rw [run_of_run hnext.value, ih hus hnext.settled, List.append_assoc]
      rfl

theorem run_moreMembers (hmembers : ∀ m ∈ members, (∀ p ∈ m.1, p.Valid) ∧
      ∀ earlier, ∃ st, Reads limits m.2 (.member earlier m.1 :: stack) st)
    {earlier : List (List Piece × Tree)}
    (hst : Settled limits t (.member earlier key :: stack) st) :
    run limits st (moreMembers members) =
      .ok ⟨.done (.object (earlier ++ (key, t) :: members)), stack⟩ := by
  induction members generalizing earlier key t st with
  | nil => exact run_of_step (hst.next '}' (by decide))
  | cons m ms ih =>
      obtain ⟨⟨hkey, hm⟩, hms⟩ := List.forall_mem_cons.mp hmembers
      obtain ⟨next, hnext⟩ := hm (earlier ++ [(key, t)])
      rw [moreMembers, run_of_step (hst.next ',' (by decide))]
      rw [run_quoted_key hkey (Or.inr rfl), run_of_run hnext.value, ih hms hnext.settled,
        List.append_assoc]
      rfl

theorem push_of_room {frame : Frame} {mode : Mode} (h : stack.length < limits.depth) :
    push limits frame mode stack = .ok ⟨mode, frame :: stack⟩ := if_pos h

theorem reads (t : Tree) (hvalid : t.Valid) (htokens : ∀ token ∈ t.tokens, token.Fits limits)
    (hroom : stack.length + t.depth ≤ limits.depth) : ∃ st, Reads limits t stack st := by
  induction t using Tree.induction generalizing stack with
  | literal l => exact ⟨_, reads_literal l⟩
  | number lexeme =>
      exact reads_number (hvalid _ (List.mem_singleton.mpr rfl)) (htokens _ (List.mem_singleton.mpr rfl))
  | string pieces => exact ⟨_, reads_string (hvalid _ (List.mem_singleton.mpr rfl))⟩
  | array items ih =>
      rw [Tree.depth] at hroom
      have hpush : opening limits '[' stack = .ok ⟨.first, .array [] :: stack⟩ :=
        push_of_room (by omega)
      have hitems : ∀ u ∈ items, ∀ earlier, ∃ st, Reads limits u (.array earlier :: stack) st := by
        intro u hu earlier
        have hdepth := depth_le_itemsDepth hu
        exact ih u hu (fun token h => hvalid token (mem_itemTokens.mpr ⟨u, hu, h⟩))
          (fun token h => htokens token (mem_itemTokens.mpr ⟨u, hu, h⟩))
          (by rw [List.length_cons]; omega)
      refine ⟨⟨.done (.array items), stack⟩, ?_⟩
      cases items with
      | nil =>
          refine reads_of_opening rfl rfl (by decide) ?_ settled_done
          rw [hpush]
          rfl
      | cons u us =>
          obtain ⟨hu, hus⟩ := List.forall_mem_cons.mp hitems
          obtain ⟨st, hst⟩ := hu []
          refine reads_of_opening rfl rfl (by decide) ?_ settled_done
          rw [hpush]
          exact (run_of_run hst.first).trans (run_moreItems hus hst.settled)
  | object members ih =>
      rw [Tree.depth] at hroom
      have hpush : opening limits '{' stack = .ok ⟨.firstKey, .object [] :: stack⟩ :=
        push_of_room (by omega)
      have hmembers : ∀ m ∈ members, (∀ p ∈ m.1, p.Valid) ∧
          ∀ earlier, ∃ st, Reads limits m.2 (.member earlier m.1 :: stack) st := by
        intro m hm
        have hdepth := depth_le_membersDepth hm
        refine ⟨hvalid _ (mem_memberTokens.mpr ⟨m, hm, .inl rfl⟩), fun earlier => ?_⟩
        exact ih m hm (fun token h => hvalid token (mem_memberTokens.mpr ⟨m, hm, .inr h⟩))
          (fun token h => htokens token (mem_memberTokens.mpr ⟨m, hm, .inr h⟩))
          (by rw [List.length_cons]; omega)
      refine ⟨⟨.done (.object members), stack⟩, ?_⟩
      cases members with
      | nil =>
          refine reads_of_opening rfl rfl (by decide) ?_ settled_done
          rw [hpush]
          rfl
      | cons m ms =>
          obtain ⟨⟨hkey, hm⟩, hms⟩ := List.forall_mem_cons.mp hmembers
          obtain ⟨st, hst⟩ := hm []
          refine reads_of_opening rfl rfl (by decide) ?_ settled_done
          rw [hpush]
          refine (run_quoted_key hkey (Or.inl rfl)).trans ?_
          exact (run_of_run hst.value).trans (run_moreMembers hms hst.settled)

theorem read_text (hvalid : t.Valid) (hfits : t.Fits limits) : read limits t.text = .ok t := by
  obtain ⟨st, hst⟩ := @reads limits [] t hvalid hfits.tokens (by simpa using hfits.depth)
  rw [read, start, hst.value]
  exact hst.settled.finish rfl

end Completeness

end Json
