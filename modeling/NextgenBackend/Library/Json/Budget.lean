import NextgenBackend.Library.Json.RoundTrip

-- What the decoder has read at each character, in the order of the text, and how deep it has been.
namespace Json

section Contents

def Frame.tokens : Frame → List Token
  | .array items => itemTokens items
  | .object members => memberTokens members
  | .member members key => memberTokens members ++ [.string key]

def Frame.depth : Frame → Nat
  | .array items => itemsDepth items
  | .object members => membersDepth members
  | .member members _ => membersDepth members

def Mode.tokens : Mode → List Token
  | .done t => t.tokens
  | .string _ pieces => [.string pieces]
  | .escape _ pieces => [.string pieces]
  | .unicode _ pieces _ => [.string pieces]
  | _ => []

def Mode.depth : Mode → Nat
  | .done t => t.depth
  | _ => 0

def Mode.escaping : Mode → Bool
  | .escape _ _ => true
  | .unicode _ _ _ => true
  | _ => false

def stackTokens : List Frame → List Token
  | [] => []
  | frame :: stack => stackTokens stack ++ frame.tokens

def stackDepth : List Frame → Nat
  | [] => 0
  | frame :: stack => max (frame.depth + stack.length + 1) (stackDepth stack)

def State.tokens (st : State) : List Token := stackTokens st.stack ++ st.mode.tokens

-- The depth of the tree that the text is of, so far.
def State.depth (st : State) : Nat :=
  max (stackDepth st.stack) (st.stack.length + st.mode.depth)

def Token.pieces : Token → List Piece
  | .number _ => []
  | .string pieces => pieces

variable {ts ts' : List Tree} {ms ms' : List (List Piece × Tree)}

theorem itemTokens_append : itemTokens (ts ++ ts') = itemTokens ts ++ itemTokens ts' := by
  induction ts with
  | nil => rfl
  | cons t ts ih => simp [itemTokens, ih]

theorem memberTokens_append : memberTokens (ms ++ ms') = memberTokens ms ++ memberTokens ms' := by
  induction ms with
  | nil => rfl
  | cons m ms ih => simp [memberTokens, ih]

theorem itemsDepth_append : itemsDepth (ts ++ ts') = max (itemsDepth ts) (itemsDepth ts') := by
  induction ts with
  | nil => simp [itemsDepth]
  | cons t ts ih => simp [itemsDepth, ih, Nat.max_assoc]

theorem membersDepth_append :
    membersDepth (ms ++ ms') = max (membersDepth ms) (membersDepth ms') := by
  induction ms with
  | nil => simp [membersDepth]
  | cons m ms ih => simp [membersDepth, ih, Nat.max_assoc]

end Contents

section Effects

variable {limits limits' : Limits} {st st' : State} {stack : List Frame} {t : Tree} {c : Char}
  {mode : Mode} {text : List Char}

inductive Effect (limits : Limits) (c : Char) (st st' : State) : Prop
  | kept (htokens : st'.tokens = st.tokens) (hdepth : st'.depth = st.depth)
  | pushed (htokens : st'.tokens = st.tokens) (hroom : st.stack.length < limits.depth)
      (hdepth : st'.depth = max st.depth (st.stack.length + 1))
  | added (token : Token) (hpieces : token.pieces = []) (hfits : token.Fits limits)
      (htokens : st'.tokens = st.tokens ++ [token]) (hdepth : st'.depth = st.depth)
  | extended (earlier : List Token) (pieces : List Piece) (p : Piece)
      (hpiece : p = .plain c ∨ st.mode.escaping)
      (hbefore : st.tokens = earlier ++ [.string pieces])
      (hafter : st'.tokens = earlier ++ [.string (pieces ++ [p])]) (hdepth : st'.depth = st.depth)

structure Mode.Idle (mode : Mode) : Prop where
  tokens : mode.tokens = []
  depth : mode.depth = 0

theorem effect_idle {mode' : Mode} (h : mode.Idle) (h' : mode'.Idle) :
    Effect limits c ⟨mode, stack⟩ ⟨mode', stack⟩ := by
  refine .kept ?_ ?_
  · rw [State.tokens, State.tokens, h.tokens, h'.tokens]
  · rw [State.depth, State.depth, h.depth, h'.depth]

theorem effect_quote (h : mode.Idle) (isKey : Bool) :
    Effect limits c ⟨mode, stack⟩ ⟨.string isKey [], stack⟩ := by
  refine .added (.string []) rfl trivial ?_ ?_
  · rw [State.tokens, State.tokens, h.tokens, List.append_nil]
    rfl
  · rw [State.depth, State.depth, h.depth]
    rfl

theorem effect_push {frame : Frame} {mode' : Mode} (h : mode.Idle) (h' : mode'.Idle)
    (htokens : frame.tokens = []) (hdepth : frame.depth = 0)
    (hpush : push limits frame mode' stack = .ok st') : Effect limits c ⟨mode, stack⟩ st' := by
  unfold push at hpush
  split at hpush
  next hroom =>
    obtain rfl := Except.ok.inj hpush
    refine .pushed ?_ hroom ?_
    · simp only [State.tokens, stackTokens, h.tokens, h'.tokens, htokens, List.append_nil]
    · simp only [State.depth, stackDepth, h.depth, h'.depth, hdepth, List.length_cons]
      omega
  next => cases hpush

theorem effect_opening (h : mode.Idle) (hopening : opening limits c stack = .ok st') :
    Effect limits c ⟨mode, stack⟩ st' := by
  unfold opening at hopening
  split_ifs at hopening
  · obtain rfl := Except.ok.inj hopening
    exact effect_quote h false
  · exact effect_push h ⟨rfl, rfl⟩ rfl rfl hopening
  · exact effect_push h ⟨rfl, rfl⟩ rfl rfl hopening
  all_goals first
    | (obtain rfl := Except.ok.inj hopening; exact effect_idle h ⟨rfl, rfl⟩)
    | (split at hopening
       · obtain rfl := Except.ok.inj hopening
         exact effect_idle h ⟨rfl, rfl⟩
       · cases hopening)

structure Kept (st st' : State) : Prop where
  tokens : st'.tokens = st.tokens
  depth : st'.depth = st.depth

theorem kept_next (h : next t c stack = .ok st') : Kept ⟨.done t, stack⟩ st' := by
  unfold next at h
  split at h
  · obtain rfl := Except.ok.inj h
    exact ⟨rfl, rfl⟩
  · unfold after at h
    split at h
    · cases h
    next items stack =>
      split_ifs at h
      all_goals
        obtain rfl := Except.ok.inj h
        constructor
      · simp [State.tokens, stackTokens, Frame.tokens, Mode.tokens, itemTokens_append, itemTokens]
      · simp only [State.depth, stackDepth, Frame.depth, Mode.depth, itemsDepth_append, itemsDepth,
          List.length_cons]
        omega
      · simp [State.tokens, stackTokens, Frame.tokens, Mode.tokens, Tree.tokens, itemTokens_append,
          itemTokens]
      · simp only [State.depth, stackDepth, Frame.depth, Mode.depth, Tree.depth, itemsDepth_append,
          itemsDepth, List.length_cons]
        omega
    · cases h
    next members key stack =>
      split_ifs at h
      all_goals
        obtain rfl := Except.ok.inj h
        constructor
      · simp [State.tokens, stackTokens, Frame.tokens, Mode.tokens, memberTokens_append,
          memberTokens]
      · simp only [State.depth, stackDepth, Frame.depth, Mode.depth, membersDepth_append,
          membersDepth, List.length_cons]
        omega
      · simp [State.tokens, stackTokens, Frame.tokens, Mode.tokens, Tree.tokens,
          memberTokens_append, memberTokens]
      · simp only [State.depth, stackDepth, Frame.depth, Mode.depth, Tree.depth,
          membersDepth_append, membersDepth, List.length_cons]
        omega

theorem kept_closeArray (h : mode.Idle) (hclose : closeArray stack = .ok st') :
    Kept ⟨mode, stack⟩ st' := by
  unfold closeArray at hclose
  split at hclose
  next items stack =>
    obtain rfl := Except.ok.inj hclose
    have hdone : (Mode.done (.array items)).depth = itemsDepth items + 1 := rfl
    constructor
    · simp only [State.tokens, stackTokens, h.tokens, List.append_nil]
      rfl
    · simp only [State.depth, stackDepth, Frame.depth, h.depth, hdone, List.length_cons]
      omega
  · cases hclose

theorem kept_closeObject (h : mode.Idle) (hclose : closeObject stack = .ok st') :
    Kept ⟨mode, stack⟩ st' := by
  unfold closeObject at hclose
  split at hclose
  next members stack =>
    obtain rfl := Except.ok.inj hclose
    have hdone : (Mode.done (.object members)).depth = membersDepth members + 1 := rfl
    constructor
    · simp only [State.tokens, stackTokens, h.tokens, List.append_nil]
      rfl
    · simp only [State.depth, stackDepth, Frame.depth, h.depth, hdone, List.length_cons]
      omega
  · cases hclose

theorem kept_closeString {isKey : Bool} {pieces : List Piece}
    (h : closeString isKey pieces stack = .ok st') :
    Kept ⟨.string isKey pieces, stack⟩ st' := by
  unfold closeString at h
  split at h
  · obtain rfl := Except.ok.inj h
    exact ⟨rfl, rfl⟩
  next members stack =>
    obtain rfl := Except.ok.inj h
    constructor
    · simp [State.tokens, stackTokens, Frame.tokens, Mode.tokens]
    · rfl
  · cases h

theorem Kept.effect (h : Kept st st') : Effect limits c st st' := .kept h.tokens h.depth

theorem effect_piece {isKey : Bool} {pieces : List Piece} (p : Piece)
    (htokens : mode.tokens = [.string pieces]) (hdepth : mode.depth = 0)
    (hpiece : p = .plain c ∨ mode.escaping) :
    Effect limits c ⟨mode, stack⟩ ⟨.string isKey (pieces ++ [p]), stack⟩ := by
  refine .extended (stackTokens stack) pieces p hpiece ?_ rfl ?_
  · rw [State.tokens, htokens]
  · rw [State.depth, State.depth, hdepth]
    rfl

theorem numberRead_ok {lexeme : List Char} {s : NumberState}
    (h : numberRead limits lexeme s = .ok t) :
    t = .number lexeme ∧ s.accepts ∧ ¬ tooLong limits lexeme := by
  unfold numberRead at h
  split_ifs at h with hlong haccepts
  have hover : s.overshoot = 0 := by
    cases s <;> first | rfl | cases haccepts
  rw [hover, Nat.sub_zero, List.take_length] at hlong
  exact ⟨(Except.ok.inj h).symm, haccepts, hlong⟩

theorem effect_number {lexeme : List Char} {s : NumberState}
    (h : (numberRead limits lexeme s).bind (fun t => next t c stack) = .ok st') :
    Effect limits c ⟨.number lexeme s, stack⟩ st' := by
  cases hread : numberRead limits lexeme s with
  | error e =>
      rw [hread] at h
      cases h
  | ok t =>
      rw [hread] at h
      obtain ⟨rfl, -, hshort⟩ := numberRead_ok hread
      have hkept := kept_next h
      refine .added (.number lexeme) rfl hshort ?_ ?_
      · rw [hkept.tokens]
        simp [State.tokens, Mode.tokens, Tree.tokens]
      · rw [hkept.depth]
        rfl

theorem effect_step (h : step limits st c = .ok st') : Effect limits c st st' := by
  obtain ⟨mode, stack⟩ := st
  cases mode with
  | value =>
      simp only [step] at h
      split_ifs at h
      · exact (Except.ok.inj h) ▸ .kept rfl rfl
      · exact effect_opening ⟨rfl, rfl⟩ h
  | first =>
      simp only [step] at h
      split_ifs at h
      · exact (Except.ok.inj h) ▸ .kept rfl rfl
      · exact (kept_closeArray ⟨rfl, rfl⟩ h).effect
      · exact effect_opening ⟨rfl, rfl⟩ h
  | firstKey =>
      simp only [step] at h
      split_ifs at h
      · exact (Except.ok.inj h) ▸ .kept rfl rfl
      · exact (Except.ok.inj h) ▸ effect_quote ⟨rfl, rfl⟩ true
      · exact (kept_closeObject ⟨rfl, rfl⟩ h).effect
  | key =>
      simp only [step] at h
      split_ifs at h
      · exact (Except.ok.inj h) ▸ .kept rfl rfl
      · exact (Except.ok.inj h) ▸ effect_quote ⟨rfl, rfl⟩ true
  | colon =>
      simp only [step] at h
      split_ifs at h
      · exact (Except.ok.inj h) ▸ .kept rfl rfl
      · exact (Except.ok.inj h) ▸ effect_idle ⟨rfl, rfl⟩ ⟨rfl, rfl⟩
  | done t => exact (kept_next h).effect
  | literal l read =>
      simp only [step] at h
      split_ifs at h
      · exact (Except.ok.inj h) ▸ effect_idle ⟨rfl, rfl⟩ ⟨rfl, rfl⟩
      · exact (Except.ok.inj h) ▸ effect_idle ⟨rfl, rfl⟩ ⟨rfl, rfl⟩
  | number lexeme s =>
      simp only [step] at h
      split at h
      · exact (Except.ok.inj h) ▸ effect_idle ⟨rfl, rfl⟩ ⟨rfl, rfl⟩
      · split_ifs at h
        · exact (Except.ok.inj h) ▸ effect_idle ⟨rfl, rfl⟩ ⟨rfl, rfl⟩
        · exact effect_number h
  | string isKey pieces =>
      simp only [step] at h
      split_ifs at h
      · exact (kept_closeString h).effect
      · exact (Except.ok.inj h) ▸ .kept rfl rfl
      · exact (Except.ok.inj h) ▸ effect_piece (.plain c) rfl rfl (Or.inl rfl)
  | escape isKey pieces =>
      simp only [step] at h
      split_ifs at h
      · exact (Except.ok.inj h) ▸ .kept rfl rfl
      · exact (Except.ok.inj h) ▸ effect_piece (.escaped c) rfl rfl (Or.inr rfl)
  | unicode isKey pieces digits =>
      simp only [step] at h
      split_ifs at h
      · exact (Except.ok.inj h) ▸ effect_piece (.unicode (digits ++ [c])) rfl rfl (Or.inr rfl)
      · exact (Except.ok.inj h) ▸ .kept rfl rfl

end Effects

section Fitting

variable {limits limits' : Limits} {st st' : State} {stack : List Frame} {t u : Tree} {c : Char}
  {text : List Char}

structure State.Fits (limits : Limits) (st : State) : Prop where
  depth : st.depth ≤ limits.depth
  tokens : ∀ token ∈ st.tokens, token.Fits limits

theorem length_le_depth (st : State) : st.stack.length ≤ st.depth :=
  (Nat.le_add_right _ _).trans (le_max_right _ _)

theorem fits_step (h : step limits st c = .ok st') (hst : st.Fits limits) : st'.Fits limits := by
  obtain ⟨hdepth, htokens⟩ := hst
  cases effect_step h with
  | kept hsame hdeep => exact ⟨hdeep ▸ hdepth, hsame ▸ htokens⟩
  | pushed hsame hroom hdeep => exact ⟨hdeep ▸ max_le hdepth hroom, hsame ▸ htokens⟩
  | added token _ hfits hmore hdeep =>
      refine ⟨hdeep ▸ hdepth, fun other hother => ?_⟩
      rw [hmore, List.mem_append, List.mem_singleton] at hother
      rcases hother with hother | rfl
      · exact htokens other hother
      · exact hfits
  | extended earlier pieces p _ hbefore hafter hdeep =>
      refine ⟨hdeep ▸ hdepth, fun other hother => ?_⟩
      rw [hafter, List.mem_append, List.mem_singleton] at hother
      rcases hother with hother | rfl
      · exact htokens other (hbefore ▸ List.mem_append_left _ hother)
      · trivial

-- Fewer characters have been read before a step, so what fits after it has fitted before.
theorem fits_before (h : step limits' st c = .ok st') (hst' : st'.Fits limits) :
    st.Fits limits := by
  obtain ⟨hdepth, htokens⟩ := hst'
  cases effect_step h with
  | kept hsame hdeep => exact ⟨hdeep ▸ hdepth, hsame ▸ htokens⟩
  | pushed hsame _ hdeep => exact ⟨(le_max_left _ _).trans (hdeep ▸ hdepth), hsame ▸ htokens⟩
  | added token _ _ hmore hdeep =>
      exact ⟨hdeep ▸ hdepth, fun other hother => htokens other
        (hmore ▸ List.mem_append_left _ hother)⟩
  | extended earlier pieces p _ hbefore hafter hdeep =>
      refine ⟨hdeep ▸ hdepth, fun other hother => ?_⟩
      rw [hbefore, List.mem_append, List.mem_singleton] at hother
      rcases hother with hother | rfl
      · exact htokens other (hafter ▸ List.mem_append_left _ hother)
      · trivial

theorem push_of_push {frame : Frame} {mode : Mode} (h : push limits' frame mode stack = .ok st')
    (hdepth : st'.stack.length ≤ limits.depth) : push limits frame mode stack = .ok st' := by
  unfold push at h
  split at h
  · obtain rfl := Except.ok.inj h
    exact push_of_room hdepth
  · cases h

theorem opening_of_opening (h : opening limits' c stack = .ok st')
    (hdepth : st'.stack.length ≤ limits.depth) : opening limits c stack = .ok st' := by
  unfold opening at h ⊢
  split_ifs at h ⊢
  · exact h
  · exact push_of_push h hdepth
  · exact push_of_push h hdepth
  all_goals exact h

theorem numberRead_of_fits {lexeme : List Char} {s : NumberState}
    (h : numberRead limits' lexeme s = .ok t) (hshort : ¬ tooLong limits lexeme) :
    numberRead limits lexeme s = .ok t := by
  obtain ⟨rfl, haccepts, -⟩ := numberRead_ok h
  have hover : s.overshoot = 0 := by
    cases s <;> first | rfl | cases haccepts
  unfold numberRead
  rw [hover, Nat.sub_zero, List.take_length, if_neg hshort, if_pos haccepts]

theorem step_of_fits (h : step limits' st c = .ok st') (hst' : st'.Fits limits) :
    step limits st c = .ok st' := by
  obtain ⟨mode, stack⟩ := st
  have hdepth := (length_le_depth st').trans hst'.depth
  cases mode with
  | value =>
      simp only [step] at h ⊢
      split_ifs at h ⊢
      · exact h
      · exact opening_of_opening h hdepth
  | first =>
      simp only [step] at h ⊢
      split_ifs at h ⊢
      · exact h
      · exact h
      · exact opening_of_opening h hdepth
  | number lexeme s =>
      simp only [step] at h ⊢
      split at h
      · exact h
      · split_ifs at h ⊢
        · exact h
        · cases hread : numberRead limits' lexeme s with
          | error e =>
              rw [hread] at h
              cases h
          | ok t =>
              rw [hread] at h
              obtain ⟨rfl, -, -⟩ := numberRead_ok hread
              have hmem : .number lexeme ∈ st'.tokens := by
                rw [(kept_next h).tokens]
                simp [State.tokens, Mode.tokens, Tree.tokens]
              rw [numberRead_of_fits hread (hst'.tokens _ hmem)]
              exact h
  | firstKey => exact h
  | key => exact h
  | colon => exact h
  | done t => exact h
  | literal l read => exact h
  | string isKey pieces => exact h
  | escape isKey pieces => exact h
  | unicode isKey pieces digits => exact h

theorem fits_run (h : run limits st text = .ok st') (hst : st.Fits limits) : st'.Fits limits := by
  induction text generalizing st with
  | nil => exact (Except.ok.inj h) ▸ hst
  | cons c text ih =>
      rw [run_cons] at h
      cases hstep : step limits st c with
      | error e =>
          rw [hstep] at h
          cases h
      | ok next =>
          rw [hstep] at h
          exact ih h (fits_step hstep hst)

theorem run_of_fits (h : run limits' st text = .ok st') (hst' : st'.Fits limits) :
    run limits st text = .ok st' ∧ st.Fits limits := by
  induction text generalizing st with
  | nil =>
      obtain rfl := Except.ok.inj h
      exact ⟨rfl, hst'⟩
  | cons c text ih =>
      rw [run_cons] at h
      cases hstep : step limits' st c with
      | error e =>
          rw [hstep] at h
          cases h
      | ok next =>
          rw [hstep] at h
          obtain ⟨hrun, hnext⟩ := ih h
          exact ⟨(run_of_step (step_of_fits hstep hnext)).trans hrun, fits_before hstep hnext⟩

-- The states a text ends in when it is the text of a tree.
inductive Ends (limits : Limits) (t : Tree) : State → Prop
  | done : Ends limits t ⟨.done t, []⟩
  | number (lexeme : List Char) (s : NumberState) (ht : t = .number lexeme)
      (haccepts : s.accepts) (hshort : ¬ tooLong limits lexeme) :
      Ends limits t ⟨.number lexeme s, []⟩

theorem ends_of_finish (h : finish limits st = .ok t) : Ends limits t st := by
  obtain ⟨mode, stack⟩ := st
  unfold finish at h
  split at h
  next u hmode =>
    split at h
    next hstack =>
      obtain rfl := List.isEmpty_iff.mp hstack
      obtain rfl := Except.ok.inj h
      obtain rfl : mode = .done u := hmode
      exact .done
    · cases h
  next lexeme s hmode =>
    obtain rfl : mode = .number lexeme s := hmode
    cases hread : numberRead limits lexeme s with
    | error e =>
        rw [hread] at h
        cases h
    | ok u =>
        rw [hread] at h
        change (if stack.isEmpty then _ else _) = _ at h
        split at h
        next hstack =>
          obtain rfl := List.isEmpty_iff.mp hstack
          obtain rfl := Except.ok.inj h
          obtain ⟨ht, haccepts, hshort⟩ := numberRead_ok hread
          exact .number lexeme s ht haccepts hshort
        · cases h
  · cases h

theorem finish_of_ends (h : Ends limits t st) : finish limits st = .ok t := by
  cases h with
  | done => rfl
  | number lexeme s ht haccepts hshort =>
      rw [ht]
      exact (settled_number haccepts hshort).finish rfl

theorem Ends.fits (h : Ends limits t st) (hst : st.Fits limits) : t.Fits limits := by
  cases h with
  | done => exact ⟨by simpa [State.depth, stackDepth, Mode.depth] using hst.depth, hst.tokens⟩
  | number lexeme s ht haccepts hshort =>
      rw [ht]
      exact ⟨Nat.zero_le _, fun token htoken => (List.mem_singleton.mp htoken) ▸ hshort⟩

theorem Ends.of_fits (h : Ends limits' t st) (ht : t.Fits limits) :
    Ends limits t st ∧ st.Fits limits := by
  cases h with
  | done =>
      exact ⟨.done, by simpa [State.depth, stackDepth, Mode.depth] using ht.depth, ht.tokens⟩
  | number lexeme s heq haccepts _ =>
      obtain rfl := heq
      exact ⟨.number lexeme s rfl haccepts (ht.tokens _ (List.mem_singleton.mpr rfl)),
        Nat.zero_le _, fun token htoken => nomatch htoken⟩

theorem read_eq_ok : read limits text = .ok t ↔
    ∃ st, run limits start text = .ok st ∧ Ends limits t st := by
  unfold read
  cases hrun : run limits start text with
  | error e => exact ⟨fun h => (nomatch h), fun ⟨_, h, _⟩ => (nomatch h)⟩
  | ok st =>
      refine ⟨fun h => ⟨st, rfl, ends_of_finish h⟩, ?_⟩
      rintro ⟨_, heq, hends⟩
      obtain rfl := Except.ok.inj heq
      exact finish_of_ends hends

theorem start_fits : start.Fits limits :=
  ⟨Nat.zero_le _, fun _ htoken => nomatch htoken⟩

theorem fits_of_read (h : read limits text = .ok t) : t.Fits limits := by
  obtain ⟨st, hrun, hends⟩ := read_eq_ok.mp h
  exact hends.fits (fits_run hrun start_fits)

-- A text is read in the same way under all limits that its tree keeps to.
theorem read_of_fits (h : read limits' text = .ok t) (ht : t.Fits limits) :
    read limits text = .ok t := by
  obtain ⟨st, hrun, hends⟩ := read_eq_ok.mp h
  obtain ⟨hends, hst⟩ := hends.of_fits ht
  exact read_eq_ok.mpr ⟨st, (run_of_fits hrun hst).1, hends⟩

-- Limits that both trees keep to.
def covering (limits limits' : Limits) : Limits where
  depth := max limits.depth limits'.depth
  digits := max limits.digits limits'.digits

theorem Token.Fits.mono {token : Token} (h : token.Fits limits)
    (hdigits : limits.digits ≤ limits'.digits) : token.Fits limits' := by
  cases token with
  | string pieces => trivial
  | number lexeme =>
      have hshort : ¬ tooLong limits lexeme := h
      change ¬ tooLong limits' lexeme
      simp only [tooLong, Bool.and_eq_true, decide_eq_true_eq, not_and, not_lt] at hshort ⊢
      exact fun hinteger => (hshort hinteger).trans hdigits

theorem Tree.Fits.mono (h : t.Fits limits) (hdepth : limits.depth ≤ limits'.depth)
    (hdigits : limits.digits ≤ limits'.digits) : t.Fits limits' where
  depth := h.depth.trans hdepth
  tokens token htoken := (h.tokens token htoken).mono hdigits

theorem read_unique (h : read limits text = .ok t) (h' : read limits' text = .ok u) : t = u := by
  have ht : t.Fits (covering limits limits') :=
    (fits_of_read h).mono (le_max_left _ _) (le_max_left _ _)
  have hu : u.Fits (covering limits limits') :=
    (fits_of_read h').mono (le_max_right _ _) (le_max_right _ _)
  exact Except.ok.inj ((read_of_fits h ht).symm.trans (read_of_fits h' hu))

theorem read_iff (h : read limits' text = .ok t) : read limits text = .ok u ↔
    u = t ∧ t.Fits limits := by
  refine ⟨fun hu => ?_, fun ⟨heq, ht⟩ => heq ▸ read_of_fits h ht⟩
  obtain rfl := read_unique hu h
  exact ⟨rfl, fits_of_read hu⟩

theorem exists_digits (tokens : List Token) :
    ∃ digits, ∀ depth, ∀ token ∈ tokens, token.Fits ⟨depth, digits⟩ := by
  induction tokens with
  | nil => exact ⟨0, fun _ _ h => nomatch h⟩
  | cons token tokens ih =>
      obtain ⟨digits, hfits⟩ := ih
      cases token with
      | string pieces =>
          exact ⟨digits, fun depth => List.forall_mem_cons.mpr ⟨trivial, hfits depth⟩⟩
      | number lexeme =>
          refine ⟨max digits (lexeme.filter Char.isDigit).length, fun depth =>
            List.forall_mem_cons.mpr ⟨?_, fun other hother => ?_⟩⟩
          · change ¬ tooLong _ lexeme
            simp [tooLong]
          · exact (hfits depth other hother).mono (le_max_left _ _)

theorem exists_fits (t : Tree) : ∃ limits, t.Fits limits := by
  obtain ⟨digits, hfits⟩ := exists_digits t.tokens
  exact ⟨⟨t.depth, digits⟩, le_rfl, hfits t.depth⟩

theorem State.Fits.mono (h : st.Fits limits) (hdepth : limits.depth ≤ limits'.depth)
    (hdigits : limits.digits ≤ limits'.digits) : st.Fits limits' where
  depth := h.depth.trans hdepth
  tokens token htoken := (h.tokens token htoken).mono hdigits

theorem exists_state_fits (st : State) : ∃ limits, st.Fits limits := by
  obtain ⟨digits, hfits⟩ := exists_digits st.tokens
  exact ⟨⟨st.depth, digits⟩, le_rfl, hfits st.depth⟩

-- Limits only decide whether a text is read, not what is read.
theorem run_unique (h : run limits st text = .ok st') {last : State}
    (h' : run limits' st text = .ok last) : st' = last := by
  obtain ⟨fitting, hfits⟩ := exists_state_fits st'
  obtain ⟨fitting', hfits'⟩ := exists_state_fits last
  have hrun : run (covering fitting fitting') st text = .ok st' :=
    (run_of_fits h (hfits.mono (le_max_left _ _) (le_max_left _ _))).1
  have hrun' : run (covering fitting fitting') st text = .ok last :=
    (run_of_fits h' (hfits'.mono (le_max_right _ _) (le_max_right _ _))).1
  exact Except.ok.inj (hrun.symm.trans hrun')

theorem text_injective (ht : t.Valid) (hu : u.Valid) (h : t.text = u.text) : t = u := by
  obtain ⟨limits, hfits⟩ := exists_fits t
  obtain ⟨limits', hfits'⟩ := exists_fits u
  exact read_unique (read_text ht hfits) (h ▸ read_text hu hfits')

end Fitting

end Json
