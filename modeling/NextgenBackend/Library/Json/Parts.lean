import NextgenBackend.Library.Json.Values

-- The text of an object has no part of its own at its begin or at its end that is a text, and what
-- is read from within one of its strings has strings where the object has none.
namespace Json

section Strings

variable {limits limits' : Limits} {st st' : State} {stack : List Frame} {c : Char} {mode : Mode}
  {text : List Char}

def Mode.outside : Mode → Bool
  | .string _ _ => false
  | .escape _ _ => false
  | .unicode _ _ _ => false
  | _ => true

def Mode.inString : Mode → Bool
  | .string _ _ => true
  | _ => false

theorem not_inString (h : mode.outside) : ¬ mode.inString := by
  cases mode <;> simp_all [Mode.outside, Mode.inString]

theorem not_mem_literal (l : Literal) : '"' ∉ l.text ∧ '\\' ∉ l.text ∧ '`' ∉ l.text := by
  cases l <;> decide

theorem next_error {t : Tree} (hc : c = '"' ∨ c = '\\' ∨ c = '`') :
    next t c stack = .error .decode := by
  rcases stack with _ | ⟨frame, stack⟩
  · rcases hc with rfl | rfl | rfl <;> rfl
  · cases frame <;> rcases hc with rfl | rfl | rfl <;> rfl

theorem number_error {lexeme : List Char} {s : NumberState}
    (hc : c = '"' ∨ c = '\\' ∨ c = '`') : step limits ⟨.number lexeme s, stack⟩ c ≠ .ok st' := by
  have hnone : s.step c = none := by
    rcases hc with rfl | rfl | rfl <;> cases s <;> rfl
  have hinfinity : ¬ (s = .minus ∧ c = 'I') := by
    rcases hc with rfl | rfl | rfl <;> simp
  intro h
  simp only [step, hnone] at h
  rw [if_neg hinfinity] at h
  cases hread : numberRead limits lexeme s with
  | error e =>
      rw [hread] at h
      cases h
  | ok t =>
      rw [hread] at h
      cases (next_error hc).symm.trans h

theorem literal_error {l : Literal} {read : Nat} (hc : c = '"' ∨ c = '\\' ∨ c = '`') :
    step limits ⟨.literal l read, stack⟩ c ≠ .ok st' := by
  have hnot : l.text[read]? ≠ some c := by
    intro h
    have hmem := List.mem_of_getElem? h
    obtain ⟨hquote, hbackslash, hbacktick⟩ := not_mem_literal l
    rcases hc with rfl | rfl | rfl
    · exact hquote hmem
    · exact hbackslash hmem
    · exact hbacktick hmem
  intro h
  simp only [step] at h
  rw [if_pos hnot] at h
  cases h

-- Outside strings there are no backslashes and no backticks.
theorem outside_error (hmode : mode.outside) (hc : c = '\\' ∨ c = '`') :
    step limits ⟨mode, stack⟩ c ≠ .ok st' := by
  cases mode with
  | number lexeme s => exact number_error (.inr hc)
  | literal l read => exact literal_error (.inr hc)
  | done t =>
      intro h
      cases (next_error (.inr hc)).symm.trans h
  | string isKey pieces => cases hmode
  | escape isKey pieces => cases hmode
  | unicode isKey pieces digits => cases hmode
  | value => rcases hc with rfl | rfl <;> exact nofun
  | first => rcases hc with rfl | rfl <;> exact nofun
  | firstKey => rcases hc with rfl | rfl <;> exact nofun
  | key => rcases hc with rfl | rfl <;> exact nofun
  | colon => rcases hc with rfl | rfl <;> exact nofun

theorem quote_outside (hmode : mode.outside) (h : step limits ⟨mode, stack⟩ '"' = .ok st') :
    st'.mode.inString := by
  cases mode with
  | number lexeme s => exact absurd h (number_error (.inl rfl))
  | literal l read => exact absurd h (literal_error (.inl rfl))
  | done t => cases (next_error (.inl rfl)).symm.trans h
  | string isKey pieces => cases hmode
  | escape isKey pieces => cases hmode
  | unicode isKey pieces digits => cases hmode
  | value => exact (Except.ok.inj h) ▸ rfl
  | first => exact (Except.ok.inj h) ▸ rfl
  | firstKey => exact (Except.ok.inj h) ▸ rfl
  | key => exact (Except.ok.inj h) ▸ rfl
  | colon => cases h

theorem push_outside {frame : Frame} {mode' : Mode} (hmode : mode'.outside)
    (h : push limits frame mode' stack = .ok st') : st'.mode.outside := by
  unfold push at h
  split at h
  · exact (Except.ok.inj h) ▸ hmode
  · cases h

theorem opening_outside (hc : c ≠ '"') (h : opening limits c stack = .ok st') :
    st'.mode.outside := by
  unfold opening at h
  rw [if_neg hc] at h
  split_ifs at h
  · exact push_outside rfl h
  · exact push_outside rfl h
  all_goals first
    | exact (Except.ok.inj h) ▸ rfl
    | (split at h
       · exact (Except.ok.inj h) ▸ rfl
       · cases h)

theorem next_outside {t : Tree} (h : next t c stack = .ok st') : st'.mode.outside := by
  unfold next at h
  split at h
  · exact (Except.ok.inj h) ▸ rfl
  · unfold after at h
    split at h
    · cases h
    · split_ifs at h <;> exact (Except.ok.inj h) ▸ rfl
    · cases h
    · split_ifs at h <;> exact (Except.ok.inj h) ▸ rfl

theorem closeArray_outside (h : closeArray stack = .ok st') : st'.mode.outside := by
  unfold closeArray at h
  split at h
  · exact (Except.ok.inj h) ▸ rfl
  · cases h

theorem closeObject_outside (h : closeObject stack = .ok st') : st'.mode.outside := by
  unfold closeObject at h
  split at h
  · exact (Except.ok.inj h) ▸ rfl
  · cases h

theorem step_outside (hmode : mode.outside) (hc : c ≠ '"')
    (h : step limits ⟨mode, stack⟩ c = .ok st') : st'.mode.outside := by
  cases mode with
  | value =>
      simp only [step] at h
      split_ifs at h
      · exact (Except.ok.inj h) ▸ rfl
      · exact opening_outside hc h
  | first =>
      simp only [step] at h
      split_ifs at h
      · exact (Except.ok.inj h) ▸ rfl
      · exact closeArray_outside h
      · exact opening_outside hc h
  | firstKey =>
      simp only [step] at h
      rw [if_neg hc] at h
      split_ifs at h
      · exact (Except.ok.inj h) ▸ rfl
      · exact closeObject_outside h
  | key =>
      simp only [step] at h
      rw [if_neg hc] at h
      split_ifs at h
      exact (Except.ok.inj h) ▸ rfl
  | colon =>
      simp only [step] at h
      split_ifs at h
      · exact (Except.ok.inj h) ▸ rfl
      · exact (Except.ok.inj h) ▸ rfl
  | done t => exact next_outside h
  | literal l read =>
      simp only [step] at h
      split_ifs at h <;> exact (Except.ok.inj h) ▸ rfl
  | number lexeme s =>
      simp only [step] at h
      split at h
      · exact (Except.ok.inj h) ▸ rfl
      · split_ifs at h
        · exact (Except.ok.inj h) ▸ rfl
        · cases hread : numberRead limits lexeme s with
          | error e =>
              rw [hread] at h
              cases h
          | ok t =>
              rw [hread] at h
              exact next_outside h
  | string isKey pieces => cases hmode
  | escape isKey pieces => cases hmode
  | unicode isKey pieces digits => cases hmode

theorem quote_inString (hmode : mode.inString) (h : step limits ⟨mode, stack⟩ '"' = .ok st') :
    st'.mode.outside := by
  cases mode with
  | string isKey pieces =>
      change closeString isKey pieces stack = .ok st' at h
      unfold closeString at h
      split at h
      · exact (Except.ok.inj h) ▸ rfl
      · exact (Except.ok.inj h) ▸ rfl
      · cases h
  | _ => cases hmode

theorem step_inString (hmode : mode.inString) (hc : c ≠ '"') (hbackslash : c ≠ '\\')
    (h : step limits ⟨mode, stack⟩ c = .ok st') :
    st'.mode.inString ∧ ∃ isKey pieces, mode = .string isKey pieces ∧
      st' = ⟨.string isKey (pieces ++ [.plain c]), stack⟩ := by
  cases mode with
  | string isKey pieces =>
      simp only [step] at h
      rw [if_neg hc, if_neg hbackslash] at h
      split at h
      · cases h
      · obtain rfl := Except.ok.inj h
        exact ⟨rfl, isKey, pieces, rfl, rfl⟩
  | _ => cases hmode

-- Where one of two readers of a text is in a string, the other is in none.
def Opposite (st st' : State) : Prop :=
  st.mode.inString ∧ st'.mode.outside ∨ st.mode.outside ∧ st'.mode.inString

theorem Opposite.symm (h : Opposite st st') : Opposite st' st :=
  Or.symm (h.imp And.symm And.symm)

theorem opposite_half {other next next' : State} (hin : st.mode.inString)
    (hout : other.mode.outside) (h : step limits st c = .ok next)
    (h' : step limits' other c = .ok next') :
    Opposite next next' ∧ c ≠ '\\' ∧ c ≠ '`' := by
  have hplain : c ≠ '\\' ∧ c ≠ '`' := not_or.mp fun hc => outside_error hout hc h'
  refine ⟨?_, hplain⟩
  rcases eq_or_ne c '"' with rfl | hc
  · exact .inr ⟨quote_inString hin h, quote_outside hout h'⟩
  · exact .inl ⟨(step_inString hin hc hplain.1 h).1, step_outside hout hc h'⟩

theorem opposite_step {other next next' : State} (hopposite : Opposite st other)
    (h : step limits st c = .ok next) (h' : step limits' other c = .ok next') :
    Opposite next next' ∧ c ≠ '\\' ∧ c ≠ '`' := by
  rcases hopposite with ⟨hin, hout⟩ | ⟨hout, hin⟩
  · exact opposite_half hin hout h h'
  · obtain ⟨hnext, hplain⟩ := opposite_half hin hout h' h
    exact ⟨hnext.symm, hplain⟩

theorem run_cons_ok (h : run limits st (c :: text) = .ok st') :
    ∃ next, step limits st c = .ok next ∧ run limits next text = .ok st' := by
  rw [run_cons] at h
  cases hstep : step limits st c with
  | error e =>
      rw [hstep] at h
      cases h
  | ok next =>
      rw [hstep] at h
      exact ⟨next, rfl, h⟩

theorem run_append_ok {text' : List Char} (h : run limits st (text ++ text') = .ok st') :
    ∃ next, run limits st text = .ok next ∧ run limits next text' = .ok st' := by
  rw [run_append] at h
  cases hrun : run limits st text with
  | error e =>
      rw [hrun] at h
      cases h
  | ok next =>
      rw [hrun] at h
      exact ⟨next, rfl, h⟩

theorem opposite_run {other last last' : State} (hopposite : Opposite st other)
    (h : run limits st text = .ok last) (h' : run limits' other text = .ok last') :
    Opposite last last' ∧ '\\' ∉ text ∧ '`' ∉ text := by
  induction text generalizing st other with
  | nil =>
      obtain rfl := Except.ok.inj h
      obtain rfl := Except.ok.inj h'
      exact ⟨hopposite, List.not_mem_nil, List.not_mem_nil⟩
  | cons c text ih =>
      obtain ⟨next, hstep, hrun⟩ := run_cons_ok h
      obtain ⟨next', hstep', hrun'⟩ := run_cons_ok h'
      obtain ⟨hnext, hbackslash, hbacktick⟩ := opposite_step hopposite hstep hstep'
      obtain ⟨hlast, hrest, hrest'⟩ := ih hnext hrun hrun'
      refine ⟨hlast, fun hmem => ?_, fun hmem => ?_⟩
      · exact (List.mem_cons.mp hmem).elim (fun heq => hbackslash heq.symm) hrest
      · exact (List.mem_cons.mp hmem).elim (fun heq => hbacktick heq.symm) hrest'

theorem Ends.outside {t : Tree} (h : Ends limits t st) : st.mode.outside := by
  cases h <;> rfl

end Strings

section Nesting

variable {limits limits' : Limits} {st st' : State} {stack below : List Frame} {c : Char}
  {mode : Mode} {text u v : List Char} {t w : Tree}

def Limits.deeper (limits : Limits) (n : Nat) : Limits := ⟨limits.depth + n, limits.digits⟩

def State.over (st : State) (below : List Frame) : State := ⟨st.mode, st.stack ++ below⟩

theorem push_over {frame : Frame} (h : push limits frame mode stack = .ok st') :
    push (limits.deeper below.length) frame mode (stack ++ below) = .ok (st'.over below) := by
  unfold push at h
  split at h
  next hroom =>
    obtain rfl := Except.ok.inj h
    refine push_of_room ?_
    rw [List.length_append]
    exact Nat.add_lt_add_right hroom _
  next => cases h

theorem opening_over (h : opening limits c stack = .ok st') :
    opening (limits.deeper below.length) c (stack ++ below) = .ok (st'.over below) := by
  unfold opening at h ⊢
  split_ifs at h ⊢
  · exact (Except.ok.inj h) ▸ rfl
  · exact push_over h
  · exact push_over h
  all_goals first
    | exact (Except.ok.inj h) ▸ rfl
    | (split at h
       · exact (Except.ok.inj h) ▸ rfl
       · cases h)

theorem next_over {t : Tree} (h : next t c stack = .ok st') :
    next t c (stack ++ below) = .ok (st'.over below) := by
  unfold next at h ⊢
  split at h
  next hblank =>
    rw [if_pos hblank]
    exact (Except.ok.inj h) ▸ rfl
  next hblank =>
    rw [if_neg hblank]
    rcases stack with _ | ⟨frame, stack⟩
    · cases h
    · cases frame with
      | array items =>
          simp only [after, List.cons_append] at h ⊢
          split_ifs at h ⊢ <;> exact (Except.ok.inj h) ▸ rfl
      | object members => cases h
      | member members key =>
          simp only [after, List.cons_append] at h ⊢
          split_ifs at h ⊢ <;> exact (Except.ok.inj h) ▸ rfl

theorem closeArray_over (h : closeArray stack = .ok st') :
    closeArray (stack ++ below) = .ok (st'.over below) := by
  unfold closeArray at h
  split at h
  · exact (Except.ok.inj h) ▸ rfl
  · cases h

theorem closeObject_over (h : closeObject stack = .ok st') :
    closeObject (stack ++ below) = .ok (st'.over below) := by
  unfold closeObject at h
  split at h
  · exact (Except.ok.inj h) ▸ rfl
  · cases h

theorem closeString_over {isKey : Bool} {pieces : List Piece}
    (h : closeString isKey pieces stack = .ok st') :
    closeString isKey pieces (stack ++ below) = .ok (st'.over below) := by
  unfold closeString at h
  split at h
  · exact (Except.ok.inj h) ▸ rfl
  · exact (Except.ok.inj h) ▸ rfl
  · cases h

-- What is read does not depend on the frames below, which it leaves as they are.
theorem step_over (h : step limits st c = .ok st') :
    step (limits.deeper below.length) (st.over below) c = .ok (st'.over below) := by
  obtain ⟨mode, stack⟩ := st
  cases mode with
  | value =>
      simp only [step, State.over] at h ⊢
      split_ifs at h ⊢
      · exact (Except.ok.inj h) ▸ rfl
      · exact opening_over h
  | first =>
      simp only [step, State.over] at h ⊢
      split_ifs at h ⊢
      · exact (Except.ok.inj h) ▸ rfl
      · exact closeArray_over h
      · exact opening_over h
  | firstKey =>
      simp only [step, State.over] at h ⊢
      split_ifs at h ⊢
      · exact (Except.ok.inj h) ▸ rfl
      · exact (Except.ok.inj h) ▸ rfl
      · exact closeObject_over h
  | key =>
      simp only [step, State.over] at h ⊢
      split_ifs at h ⊢ <;> exact (Except.ok.inj h) ▸ rfl
  | colon =>
      simp only [step, State.over] at h ⊢
      split_ifs at h ⊢ <;> exact (Except.ok.inj h) ▸ rfl
  | done t => exact next_over h
  | literal l read =>
      simp only [step, State.over] at h ⊢
      split_ifs at h ⊢ <;> exact (Except.ok.inj h) ▸ rfl
  | number lexeme s =>
      simp only [step, State.over] at h ⊢
      split at h
      · exact (Except.ok.inj h) ▸ rfl
      · split_ifs at h ⊢
        · exact (Except.ok.inj h) ▸ rfl
        · cases hread : numberRead limits lexeme s with
          | error e =>
              rw [hread] at h
              cases h
          | ok t =>
              rw [hread] at h
              have hdeeper : numberRead (limits.deeper below.length) lexeme s = .ok t := hread
              rw [hdeeper]
              exact next_over h
  | string isKey pieces =>
      simp only [step, State.over] at h ⊢
      split_ifs at h ⊢
      · exact closeString_over h
      · exact (Except.ok.inj h) ▸ rfl
      · exact (Except.ok.inj h) ▸ rfl
  | escape isKey pieces =>
      simp only [step, State.over] at h ⊢
      split_ifs at h ⊢ <;> exact (Except.ok.inj h) ▸ rfl
  | unicode isKey pieces digits =>
      simp only [step, State.over] at h ⊢
      split_ifs at h ⊢ <;> exact (Except.ok.inj h) ▸ rfl

theorem run_over (h : run limits st text = .ok st') :
    run (limits.deeper below.length) (st.over below) text = .ok (st'.over below) := by
  induction text generalizing st with
  | nil => exact (Except.ok.inj h) ▸ rfl
  | cons c text ih =>
      obtain ⟨next, hstep, hrun⟩ := run_cons_ok h
      exact (run_of_step (step_over hstep)).trans (ih hrun)

theorem depth_run (h : run limits st text = .ok st') : st.depth ≤ st'.depth := by
  induction text generalizing st with
  | nil => exact (Except.ok.inj h) ▸ le_rfl
  | cons c text ih =>
      obtain ⟨next, hstep, hrun⟩ := run_cons_ok h
      refine le_trans ?_ (ih hrun)
      cases effect_step hstep with
      | kept _ hdepth => exact hdepth.ge
      | pushed _ _ hdepth => exact hdepth ▸ le_max_left _ _
      | added _ _ _ _ hdepth => exact hdepth.ge
      | extended _ _ _ _ _ _ hdepth => exact hdepth.ge

theorem opening_brace (h : step limits start '{' = .ok st') :
    st' = ⟨.firstKey, [.object []]⟩ := by
  change push limits (.object []) .firstKey [] = .ok st' at h
  unfold push at h
  split at h
  · exact (Except.ok.inj h).symm
  · cases h

theorem depth_pos (hu : u.head? = some '{') (h : run limits start u = .ok st) : 0 < st.depth := by
  obtain ⟨rest, rfl⟩ := List.head?_eq_some_iff.mp hu
  obtain ⟨next, hstep, hrun⟩ := run_cons_ok h
  obtain rfl := opening_brace hstep
  exact Nat.lt_of_lt_of_le (by decide) (depth_run hrun)

theorem blank_of_run_done (h : run limits ⟨.done w, []⟩ text = .ok st') :
    ∀ c ∈ text, isBlank c := by
  induction text with
  | nil => exact fun _ hc => nomatch hc
  | cons c text ih =>
      obtain ⟨next, hstep, hrun⟩ := run_cons_ok h
      change Json.next w c [] = .ok next at hstep
      unfold Json.next at hstep
      split at hstep
      next hblank =>
        obtain rfl := Except.ok.inj hstep
        exact List.forall_mem_cons.mpr ⟨hblank, ih hrun⟩
      next => cases hstep

theorem prefix_not_read (h : read limits (u ++ v) = .ok t) (hu : u.head? = some '{')
    (hv : v.getLast? = some '}') : read limits' u ≠ .ok w := by
  intro hread
  obtain ⟨last, hrun, -⟩ := read_eq_ok.mp h
  obtain ⟨st, hprefix, hrest⟩ := run_append_ok hrun
  obtain ⟨st', hrun', hends⟩ := read_eq_ok.mp hread
  have hdeep := depth_pos hu hrun'
  obtain rfl := run_unique hprefix hrun'
  cases hends with
  | done =>
      have hblank := blank_of_run_done hrest '}' (List.mem_of_getLast? hv)
      cases hblank
  | number lexeme s => cases hdeep

theorem brace_outside (hmode : mode.outside) (h : step limits ⟨mode, stack⟩ '{' = .ok st') :
    mode.depth = 0 ∧ st' = ⟨.firstKey, .object [] :: stack⟩ := by
  have hpush (h : push limits (.object []) .firstKey stack = .ok st') :
      st' = ⟨.firstKey, .object [] :: stack⟩ := by
    unfold push at h
    split at h
    · exact (Except.ok.inj h).symm
    · cases h
  have hnext (t : Tree) : next t '{' stack = .error .decode := by
    rcases stack with _ | ⟨frame, stack⟩
    · rfl
    · cases frame <;> rfl
  cases mode with
  | value => exact ⟨rfl, hpush h⟩
  | first => exact ⟨rfl, hpush h⟩
  | firstKey => cases h
  | key => cases h
  | colon => cases h
  | done t => cases (hnext t).symm.trans h
  | literal l read =>
      have hnot : l.text[read]? ≠ some '{' := fun hget => by
        have hmem := List.mem_of_getElem? hget
        revert hmem
        cases l <;> decide
      simp only [step] at h
      rw [if_pos hnot] at h
      cases h
  | number lexeme s =>
      have hnone : s.step '{' = none := by cases s <;> rfl
      simp only [step, hnone] at h
      rw [if_neg (by simp)] at h
      cases hread : numberRead limits lexeme s with
      | error e =>
          rw [hread] at h
          cases h
      | ok t =>
          rw [hread] at h
          cases (hnext t).symm.trans h
  | string isKey pieces => cases hmode
  | escape isKey pieces => cases hmode
  | unicode isKey pieces digits => cases hmode

theorem brace_inside (hmode : ¬ mode.outside) (h : step limits ⟨mode, stack⟩ '{' = .ok st') :
    mode.inString := by
  cases mode with
  | string isKey pieces => rfl
  | escape isKey pieces => cases h
  | unicode isKey pieces digits => cases h
  | _ => exact absurd rfl hmode

theorem suffix_not_read (h : read limits (u ++ v) = .ok t) (hu : u.head? = some '{')
    (hv : v.head? = some '{') : read limits' v ≠ .ok w := by
  intro hread
  obtain ⟨last, hrun, hends⟩ := read_eq_ok.mp h
  obtain ⟨⟨mode, stack⟩, hprefix, hrest⟩ := run_append_ok hrun
  obtain ⟨last', hrun', hends'⟩ := read_eq_ok.mp hread
  obtain ⟨rest, rfl⟩ := List.head?_eq_some_iff.mp hv
  obtain ⟨next, hstep, hnext⟩ := run_cons_ok hrest
  by_cases hmode : mode.outside
  · -- The part is a value of its own, and the frames it is in are still open after it.
    obtain ⟨hflat, rfl⟩ := brace_outside hmode hstep
    obtain ⟨next', hstep', hnext'⟩ := run_cons_ok hrun'
    obtain rfl := opening_brace hstep'
    have hraised : run (limits'.deeper stack.length) (State.over ⟨.firstKey, [.object []]⟩ stack)
        rest = .ok (last'.over stack) := run_over hnext'
    have hover := run_unique hraised hnext
    have hstack : last.stack = [] := by cases hends <;> rfl
    rw [← hover] at hstack
    obtain ⟨-, rfl⟩ := List.append_eq_nil_iff.mp hstack
    have hdeep := depth_pos hu hprefix
    simp [State.depth, stackDepth, hflat] at hdeep
  · -- The part begins in a string, and ends in a string of its own.
    have hopposite : Opposite ⟨mode, stack⟩ start := .inl ⟨brace_inside hmode hstep, rfl⟩
    have hlast := (opposite_run hopposite hrest hrun').1
    rcases hlast with ⟨hin, -⟩ | ⟨-, hin⟩
    · exact not_inString hends.outside hin
    · exact not_inString hends'.outside hin

end Nesting

section Backticks

variable {limits limits' : Limits} {st st' : State} {c : Char} {text : List Char} {t w : Tree}
  {p : Piece}

def State.pieces (st : State) : List Piece := st.tokens.flatMap Token.pieces

def Mode.plain (mode : Mode) : Bool := mode.outside || mode.inString

theorem not_escaping {mode : Mode} (h : mode.plain) : ¬ mode.escaping := by
  cases mode <;> simp_all [Mode.plain, Mode.outside, Mode.inString, Mode.escaping]

theorem plain_step (hplain : st.mode.plain) (hc : c ≠ '\\') (h : step limits st c = .ok st') :
    st'.mode.plain := by
  obtain ⟨mode, stack⟩ := st
  simp only [Mode.plain, Bool.or_eq_true] at hplain ⊢
  rcases hplain with hout | hin
  · rcases eq_or_ne c '"' with rfl | hquote
    · exact .inr (quote_outside hout h)
    · exact .inl (step_outside hout hquote h)
  · rcases eq_or_ne c '"' with rfl | hquote
    · exact .inl (quote_inString hin h)
    · exact .inr (step_inString hin hquote hc h).1

theorem pieces_step (hplain : st.mode.plain) (h : step limits st c = .ok st') :
    ∀ p ∈ st'.pieces, p ∈ st.pieces ∨ p = .plain c := by
  intro p hp
  cases effect_step h with
  | kept htokens =>
      rw [State.pieces, htokens] at hp
      exact .inl hp
  | pushed htokens =>
      rw [State.pieces, htokens] at hp
      exact .inl hp
  | added token hpieces _ htokens =>
      rw [State.pieces, htokens, List.flatMap_append, List.flatMap_singleton, hpieces,
        List.append_nil] at hp
      exact .inl hp
  | extended earlier pieces q hpiece hbefore hafter =>
      obtain rfl := hpiece.resolve_right (not_escaping hplain)
      rw [State.pieces, hafter, List.flatMap_append, List.flatMap_singleton] at hp
      rw [State.pieces, hbefore, List.flatMap_append, List.flatMap_singleton]
      simp only [Token.pieces, List.mem_append, List.mem_singleton] at hp ⊢
      exact or_assoc.mpr hp

theorem pieces_kept (h : step limits st c = .ok st') (hp : p ∈ st.pieces) : p ∈ st'.pieces := by
  cases effect_step h with
  | kept htokens => rwa [State.pieces, htokens]
  | pushed htokens => rwa [State.pieces, htokens]
  | added token hpieces _ htokens =>
      rw [State.pieces, htokens, List.flatMap_append]
      exact List.mem_append_left _ hp
  | extended earlier pieces q hpiece hbefore hafter =>
      rw [State.pieces, hbefore, List.flatMap_append, List.flatMap_singleton] at hp
      rw [State.pieces, hafter, List.flatMap_append, List.flatMap_singleton]
      simp only [Token.pieces, List.mem_append] at hp ⊢
      exact hp.imp_right .inl

theorem pieces_kept_run (h : run limits st text = .ok st') (hp : p ∈ st.pieces) :
    p ∈ st'.pieces := by
  induction text generalizing st with
  | nil => exact (Except.ok.inj h) ▸ hp
  | cons c text ih =>
      obtain ⟨next, hstep, hrun⟩ := run_cons_ok h
      exact ih hrun (pieces_kept hstep hp)

theorem pieces_run (hplain : st.mode.plain) (hbackslash : '\\' ∉ text)
    (h : run limits st text = .ok st') :
    ∀ p ∈ st'.pieces, p ∈ st.pieces ∨ ∃ c ∈ text, p = .plain c := by
  induction text generalizing st with
  | nil =>
      obtain rfl := Except.ok.inj h
      exact fun p hp => .inl hp
  | cons c text ih =>
      obtain ⟨next, hstep, hrun⟩ := run_cons_ok h
      obtain ⟨hc, hrest⟩ := not_or.mp (List.mem_cons.not.mp hbackslash)
      intro p hp
      rcases ih (plain_step hplain (Ne.symm hc) hstep) hrest hrun p hp with hnext | ⟨d, hd, rfl⟩
      · rcases pieces_step hplain hstep p hnext with hst | rfl
        · exact .inl hst
        · exact .inr ⟨c, List.mem_cons_self, rfl⟩
      · exact .inr ⟨d, List.mem_cons_of_mem _ hd, rfl⟩

def Tree.pieces (t : Tree) : List Piece := t.tokens.flatMap Token.pieces

theorem Ends.pieces (h : Ends limits t st) : st.pieces = t.pieces := by
  cases h with
  | done => rfl
  | number lexeme s ht => rw [ht]; rfl

-- Without backslashes the strings of a text have its own characters only.
theorem pieces_of_read (h : read limits text = .ok t) (hbackslash : '\\' ∉ text) :
    ∀ p ∈ t.pieces, ∃ c ∈ text, p = .plain c := by
  obtain ⟨last, hrun, hends⟩ := read_eq_ok.mp h
  intro p hp
  rw [← hends.pieces] at hp
  exact (pieces_run rfl hbackslash hrun p hp).resolve_left (nomatch ·)

theorem backtick_step (h : step limits st '`' = .ok st') :
    st'.mode.inString ∧ .plain '`' ∈ st'.pieces := by
  obtain ⟨mode, stack⟩ := st
  have hin : mode.inString := by
    by_cases hmode : mode.outside
    · exact absurd h (outside_error hmode (.inr rfl))
    · cases mode with
      | string isKey pieces => rfl
      | escape isKey pieces => cases h
      | unicode isKey pieces digits => cases h
      | _ => exact absurd rfl hmode
  obtain ⟨-, isKey, pieces, rfl, rfl⟩ := step_inString hin (by decide) (by decide) h
  refine ⟨rfl, ?_⟩
  simp [State.pieces, State.tokens, Mode.tokens, Token.pieces]

theorem backtick_spelled (h : read limits text = .ok t) (hmem : '`' ∈ text) :
    .plain '`' ∈ t.pieces := by
  obtain ⟨last, hrun, hends⟩ := read_eq_ok.mp h
  obtain ⟨before, after, rfl⟩ := List.append_of_mem hmem
  obtain ⟨st, -, hrest⟩ := run_append_ok hrun
  obtain ⟨next, hstep, hafter⟩ := run_cons_ok hrest
  rw [← hends.pieces]
  exact pieces_kept_run hafter (backtick_step hstep).2

theorem run_inString (hin : st.mode.inString) (hquote : '"' ∉ text) (hbackslash : '\\' ∉ text)
    (h : run limits st text = .ok st') : st'.mode.inString := by
  induction text generalizing st with
  | nil => exact (Except.ok.inj h) ▸ hin
  | cons c text ih =>
      obtain ⟨next, hstep, hrun⟩ := run_cons_ok h
      obtain ⟨hc, hquote⟩ := not_or.mp (List.mem_cons.not.mp hquote)
      obtain ⟨hc', hbackslash⟩ := not_or.mp (List.mem_cons.not.mp hbackslash)
      exact ih (step_inString hin (Ne.symm hc) (Ne.symm hc') hstep).1 hquote hbackslash hrun

-- After a backtick the reader is in a string, so a text that begins there is one of its strings.
theorem quoted_part {before opened part after : List Char}
    (h : read limits (before ++ ('`' :: opened ++ (part ++ after))) = .ok t)
    (hquote : '"' ∉ opened) (hbackslash : '\\' ∉ opened) (hread : read limits' part = .ok w) :
    '\\' ∉ part ∧ '`' ∉ part := by
  obtain ⟨last, hrun, -⟩ := read_eq_ok.mp h
  obtain ⟨st, -, hrest⟩ := run_append_ok hrun
  obtain ⟨next, hopened, hrest⟩ := run_append_ok hrest
  obtain ⟨quoted, hstep, hopened⟩ := run_cons_ok hopened
  obtain ⟨last, hpart, -⟩ := run_append_ok hrest
  obtain ⟨last', hrun', -⟩ := read_eq_ok.mp hread
  have hin : quoted.mode.inString := (backtick_step hstep).1
  have hnext := run_inString hin hquote hbackslash hopened
  exact (opposite_run (.inl ⟨hnext, rfl⟩) hpart hrun').2

theorem next_not_number {stack : List Frame} {lexeme : List Char} {s : NumberState}
    (h : next t c stack = .ok st') : st'.mode ≠ .number lexeme s := by
  unfold next at h
  split at h
  · cases h
    simp
  · unfold after at h
    split at h
    · cases h
    · split_ifs at h <;> cases h <;> simp
    · cases h
    · split_ifs at h <;> cases h <;> simp

theorem close_not_number {lexeme : List Char} {s : NumberState} (h : step limits st '}' = .ok st') :
    st'.mode ≠ .number lexeme s := by
  obtain ⟨mode, stack⟩ := st
  cases mode with
  | value => cases h
  | first => cases h
  | key => cases h
  | colon => cases h
  | escape isKey pieces => cases h
  | unicode isKey pieces digits => cases h
  | firstKey =>
      change closeObject stack = .ok st' at h
      unfold closeObject at h
      split at h
      · cases h
        simp
      · cases h
  | done t => exact next_not_number h
  | literal l read =>
      simp only [step] at h
      split_ifs at h <;> cases h <;> simp
  | string isKey pieces =>
      change Except.ok (⟨.string isKey (pieces ++ [.plain '}']), stack⟩ : State) = .ok st' at h
      cases h
      simp
  | number read s' =>
      have hnone : s'.step '}' = none := by cases s' <;> rfl
      simp only [step, hnone] at h
      rw [if_neg (by simp)] at h
      cases hread : numberRead limits read s' with
      | error e =>
          rw [hread] at h
          cases h
      | ok t =>
          rw [hread] at h
          exact next_not_number h

-- A part of a text that ends in a brace is no text for its shape only, not for its size.
theorem decode_of_prefix {u v : List Char} (h : read limits (u ++ v) = .ok t)
    (hu : u.getLast? = some '}') (hread : ∀ w, read limits u ≠ .ok w) :
    read limits u = .error .decode := by
  obtain ⟨last, hrun, -⟩ := read_eq_ok.mp h
  obtain ⟨st, hprefix, -⟩ := run_append_ok hrun
  obtain ⟨inner, rfl⟩ := List.getLast?_eq_some_iff.mp hu
  obtain ⟨before, -, hlast⟩ := run_append_ok hprefix
  obtain ⟨next, hstep, hnext⟩ := run_cons_ok hlast
  obtain rfl := Except.ok.inj hnext
  have hfinish : read limits (inner ++ ['}']) = finish limits next := by
    rw [read, hprefix]
    rfl
  cases hresult : finish limits next with
  | ok w => exact absurd (hfinish.trans hresult) (hread w)
  | error e =>
      rw [hfinish, hresult]
      unfold finish at hresult
      split at hresult
      · split at hresult
        · cases hresult
        · exact hresult.symm
      next lexeme s hmode => exact absurd hmode (close_not_number hstep)
      · exact hresult.symm

end Backticks

section Mentions

variable {limits : Limits} {text : List Char} {t : Tree} {p : Piece} {ps : List Piece} {u : ℕ}
  {us : List ℕ} {entries pairs : List (List ℕ × Value)}

-- The character is in a string or in a key of the value.
inductive Value.Mentions (u : ℕ) : Value → Prop
  | str {codes : List ℕ} (h : u ∈ codes) : Mentions u (.str codes)
  | item {items : List Value} {v : Value} (hv : v ∈ items) (h : Mentions u v) :
      Mentions u (.arr items)
  | key {entries : List (List ℕ × Value)} {e : List ℕ × Value} (he : e ∈ entries) (h : u ∈ e.1) :
      Mentions u (.obj entries)
  | entry {entries : List (List ℕ × Value)} {e : List ℕ × Value} (he : e ∈ entries)
      (h : Mentions u e.2) : Mentions u (.obj entries)

theorem mem_joinPairs (hu : u < 0xd800) : u ∈ joinPairs us ↔ u ∈ us := by
  induction us using joinPairs.induct with
  | case1 => rfl
  | case2 => rfl
  | case3 high low us hpair ih =>
      have hjoined : u ≠ 0x10000 + (high - 0xd800) * 0x400 + (low - 0xdc00) := by omega
      have hhigh : u ≠ high := by omega
      have hlow : u ≠ low := by omega
      rw [joinPairs, if_pos hpair, List.mem_cons, List.mem_cons, List.mem_cons, ih]
      simp [hjoined, hhigh, hlow]
  | case4 high low us hpair ih =>
      rw [joinPairs, if_neg hpair, List.mem_cons, List.mem_cons, ih]

theorem mem_codes (hu : u < 0xd800) : u ∈ codes ps ↔ ∃ p ∈ ps, p.unit = u := by
  rw [codes, mem_joinPairs hu, List.mem_map]

theorem mem_setEntry {key : List ℕ} {v : Value} {e : List ℕ × Value}
    (h : e ∈ Dict.setEntry key v entries) : e = (key, v) ∨ e ∈ entries := by
  induction entries with
  | nil => exact .inl (List.mem_singleton.mp h)
  | cons first entries ih =>
      unfold Dict.setEntry at h
      split at h
      · exact (List.mem_cons.mp h).imp_right (List.mem_cons_of_mem _)
      · rcases List.mem_cons.mp h with rfl | h
        · exact .inr List.mem_cons_self
        · exact (ih h).imp_right (List.mem_cons_of_mem _)

theorem mem_foldl_setEntry {e : List ℕ × Value}
    (h : e ∈ pairs.foldl (fun entries pair => Dict.setEntry pair.1 pair.2 entries) entries) :
    e ∈ entries ∨ e ∈ pairs := by
  induction pairs generalizing entries with
  | nil => exact .inl h
  | cons pair pairs ih =>
      rcases ih h with h | h
      · rcases mem_setEntry h with rfl | h
        · exact .inr List.mem_cons_self
        · exact .inl h
      · exact .inr (List.mem_cons_of_mem _ h)

theorem mem_of_mem_collect {e : List ℕ × Value} (h : e ∈ collect pairs) : e ∈ pairs :=
  (mem_foldl_setEntry h).resolve_left (nomatch ·)

theorem mem_pieces : p ∈ t.pieces ↔ ∃ token ∈ t.tokens, p ∈ token.pieces := List.mem_flatMap

theorem not_mentions_literal {l : Literal} : ¬ l.value.Mentions u := by
  cases l <;> exact nofun

theorem exists_piece (hu : u < 0xd800) (h : t.value.Mentions u) :
    ∃ p ∈ t.pieces, p.unit = u := by
  induction t using Tree.induction with
  | literal l => exact absurd h not_mentions_literal
  | number lexeme => cases h
  | string pieces =>
      cases h with
      | str hmem =>
          obtain ⟨p, hp, hunit⟩ := (mem_codes hu).mp hmem
          exact ⟨p, mem_pieces.mpr ⟨_, List.mem_singleton.mpr rfl, hp⟩, hunit⟩
  | array items ih =>
      cases h with
      | item hv h =>
          rw [itemValues_eq] at hv
          obtain ⟨t, ht, rfl⟩ := List.mem_map.mp hv
          obtain ⟨p, hp, hunit⟩ := ih t ht h
          obtain ⟨token, htoken, hmem⟩ := mem_pieces.mp hp
          exact ⟨p, mem_pieces.mpr ⟨token, mem_itemTokens.mpr ⟨t, ht, htoken⟩, hmem⟩, hunit⟩
  | object members ih =>
      have hmember {e : List ℕ × Value} (he : e ∈ collect (memberValues members)) :
          ∃ m ∈ members, (codes m.1, m.2.value) = e := by
        have hmem := mem_of_mem_collect he
        rw [memberValues_eq] at hmem
        exact List.mem_map.mp hmem
      cases h with
      | key he hmem =>
          obtain ⟨m, hm, rfl⟩ := hmember he
          obtain ⟨p, hp, hunit⟩ := (mem_codes hu).mp hmem
          exact ⟨p, mem_pieces.mpr ⟨_, mem_memberTokens.mpr ⟨m, hm, .inl rfl⟩, hp⟩, hunit⟩
      | entry he h =>
          obtain ⟨m, hm, rfl⟩ := hmember he
          obtain ⟨p, hp, hunit⟩ := ih m hm h
          obtain ⟨token, htoken, hmem⟩ := mem_pieces.mp hp
          exact ⟨p, mem_pieces.mpr ⟨token, mem_memberTokens.mpr ⟨m, hm, .inr htoken⟩, hmem⟩, hunit⟩

def Tree.DistinctKeys (t : Tree) : Prop := ∀ keys ∈ t.keyLists, (keys.map codes).Nodup

instance (t : Tree) : Decidable t.DistinctKeys :=
  haveI := List.decidableBAll (fun keys : List (List Piece) => (keys.map codes).Nodup) t.keyLists
  inferInstanceAs (Decidable (∀ keys ∈ t.keyLists, (keys.map codes).Nodup))

theorem mentions_of_piece (hkeys : t.DistinctKeys) (hp : p ∈ t.pieces) (hu : p.unit < 0xd800) :
    t.value.Mentions p.unit := by
  induction t using Tree.induction with
  | literal l => cases hp
  | number lexeme => cases hp
  | string pieces =>
      obtain ⟨token, htoken, hmem⟩ := mem_pieces.mp hp
      obtain rfl := List.mem_singleton.mp htoken
      exact .str ((mem_codes hu).mpr ⟨p, hmem, rfl⟩)
  | array items ih =>
      obtain ⟨token, htoken, hmem⟩ := mem_pieces.mp hp
      obtain ⟨t, ht, htoken⟩ := mem_itemTokens.mp htoken
      have hvalue : t.value ∈ itemValues items := by
        rw [itemValues_eq]
        exact List.mem_map_of_mem ht
      exact .item hvalue (ih t ht (fun keys h => hkeys keys (mem_itemKeyLists.mpr ⟨t, ht, h⟩))
        (mem_pieces.mpr ⟨token, htoken, hmem⟩))
  | object members ih =>
      have hcollect : collect (memberValues members) = memberValues members := by
        refine collect_of_nodup ?_
        rw [memberValues_eq, List.map_map]
        have hnodup := hkeys _ List.mem_cons_self
        rwa [List.map_map] at hnodup
      have hentry {m : List Piece × Tree} (hm : m ∈ members) :
          (codes m.1, m.2.value) ∈ collect (memberValues members) := by
        rw [hcollect, memberValues_eq]
        exact List.mem_map_of_mem hm
      obtain ⟨token, htoken, hmem⟩ := mem_pieces.mp hp
      obtain ⟨m, hm, rfl | htoken⟩ := mem_memberTokens.mp htoken
      · exact .key (hentry hm) ((mem_codes hu).mpr ⟨p, hmem, rfl⟩)
      · exact .entry (hentry hm) (ih m hm
          (fun keys h => hkeys keys (List.mem_cons_of_mem _ (mem_memberKeyLists.mpr ⟨m, hm, h⟩)))
          (mem_pieces.mpr ⟨token, htoken, hmem⟩))

-- A value whose text has a backtick is not the value of a part of one of its strings.
theorem value_ne_of_backtick {limits' : Limits} {part : List Char} {w : Tree}
    (h : read limits text = .ok t) (hkeys : t.DistinctKeys) (htext : '`' ∈ text)
    (hread : read limits' part = .ok w) (hbackslash : '\\' ∉ part) (hbacktick : '`' ∉ part) :
    w.value ≠ t.value := by
  intro heq
  have hmentions : t.value.Mentions 96 :=
    @mentions_of_piece _ (.plain '`') hkeys (backtick_spelled h htext) (by decide)
  rw [← heq] at hmentions
  obtain ⟨p, hp, hunit⟩ := exists_piece (by decide) hmentions
  obtain ⟨c, hc, rfl⟩ := pieces_of_read hread hbackslash p hp
  have hcode : c = '`' := Char.toNat_inj.mp hunit
  exact hbacktick (hcode ▸ hc)

end Mentions

end Json
