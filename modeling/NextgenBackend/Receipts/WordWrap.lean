import NextgenBackend.Library.Run
import NextgenBackend.Receipts.SlipLayout

namespace NextgenBackend.Receipts.Escpos

open Text

-- The wrapper between two tests of its loops: before the next word, before the test of the word
-- against the width, and after its return.
inductive WrapLoop where
  | next (todo : List (List Char)) (current : List Char) (out : List (List Char))
  | test (word : List Char) (todo : List (List Char)) (current : List Char)
      (out : List (List Char))
  | done (out : List (List Char))

namespace WrapLoop

def step (usable indent : Nat) : WrapLoop → WrapLoop
  | .next [] current out =>
      .done (if current = [] then out else out ++ [spaces indent ++ current])
  | .next (word :: todo) current out => .test word todo current out
  | .test word todo current out =>
      if usable < word.length then
        let out := if current = [] then out else out ++ [spaces indent ++ current]
        .test (word.drop usable) todo [] (out ++ [spaces indent ++ word.take usable])
      else if current = [] then .next todo word out
      else if current.length + 1 + word.length ≤ usable then
        .next todo (current ++ ' ' :: word) out
      else .next todo word (out ++ [spaces indent ++ current])
  | .done out => .done out

def Done : WrapLoop → Prop
  | .done _ => True
  | _ => False

-- Each word left to read costs its characters and two steps more.
def work (words : List (List Char)) : Nat :=
  (words.map fun word => word.length + 2).sum + 1

def measure : WrapLoop → Nat
  | .next todo _ _ => work todo
  | .test word todo _ _ => word.length + 1 + work todo
  | .done _ => 0

-- The lines that the wrapper is going to return.
def lines (usable indent : Nat) : WrapLoop → List (List Char)
  | .next todo current out =>
      out ++ (todo.foldl (Wrapping.place usable) ⟨[], current⟩).flushed.map (spaces indent ++ ·)
  | .test word todo current out =>
      out ++ ((word :: todo).foldl (Wrapping.place usable) ⟨[], current⟩).flushed.map
        (spaces indent ++ ·)
  | .done out => out

end WrapLoop

section Loop

variable {usable indent columns : Nat} {word current text : List Char} {todo out : List (List Char)}
  {w : Wrapping}

-- The lines that are out already stay as they are.
theorem place_behind : Wrapping.place usable ⟨out ++ w.out, w.current⟩ word =
    ⟨out ++ (w.place usable word).out, (w.place usable word).current⟩ := by
  unfold Wrapping.place
  generalize hardSplit usable word = split
  obtain ⟨pieces, rest⟩ := split
  by_cases hpieces : pieces = []
  · by_cases hcurrent : w.current = []
    · simp [hpieces, hcurrent]
    · by_cases hfits : w.current.length + 1 + rest.length ≤ usable
      · simp [hpieces, hcurrent, hfits]
      · simp [hpieces, hcurrent, hfits]
  · by_cases hcurrent : w.current = []
    · simp [hpieces, hcurrent, Wrapping.flushed]
    · simp [hpieces, hcurrent, Wrapping.flushed]

theorem flushed_foldl_behind :
    (todo.foldl (Wrapping.place usable) ⟨out ++ w.out, w.current⟩).flushed =
      out ++ (todo.foldl (Wrapping.place usable) w).flushed := by
  induction todo generalizing w with
  | nil =>
      by_cases hcurrent : w.current = []
      · simp [Wrapping.flushed, hcurrent]
      · simp [Wrapping.flushed, hcurrent]
  | cons word todo ih =>
      rw [List.foldl_cons, List.foldl_cons, place_behind]
      exact ih

-- One round of the splitting loop puts the first piece of the word on a line of its own.
theorem place_split (hpos : 0 < usable) (h : usable < word.length) :
    Wrapping.place usable ⟨[], current⟩ word =
      let rest := Wrapping.place usable ⟨[], []⟩ (word.drop usable)
      ⟨Wrapping.flushed ⟨[], current⟩ ++ word.take usable :: rest.out, rest.current⟩ := by
  have hsplit : hardSplit usable word =
      (word.take usable :: (hardSplit usable (word.drop usable)).1,
        (hardSplit usable (word.drop usable)).2) := by
    rw [hardSplit, if_pos ⟨hpos, h⟩]
  unfold Wrapping.place
  rw [hsplit]
  generalize hardSplit usable (word.drop usable) = split
  obtain ⟨pieces, rest⟩ := split
  by_cases hpieces : pieces = []
  · simp [hpieces, Wrapping.flushed]
  · simp [hpieces, Wrapping.flushed]

theorem lines_split (hpos : 0 < usable) (h : usable < word.length) :
    WrapLoop.lines usable indent (.test (word.drop usable) todo []
      ((if current = [] then out else out ++ [spaces indent ++ current]) ++
        [spaces indent ++ word.take usable])) =
      WrapLoop.lines usable indent (.test word todo current out) := by
  have hfolded := @flushed_foldl_behind usable todo
    (Wrapping.flushed ⟨[], current⟩ ++ [word.take usable])
    (Wrapping.place usable ⟨[], []⟩ (word.drop usable))
  rw [WrapLoop.lines, WrapLoop.lines, List.foldl_cons, List.foldl_cons, place_split hpos h]
  dsimp only
  rw [List.append_cons (Wrapping.flushed ⟨[], current⟩), hfolded, List.map_append, List.map_append]
  by_cases hcurrent : current = []
  · simp [Wrapping.flushed, hcurrent]
  · simp [Wrapping.flushed, hcurrent]

theorem lines_word (h : ¬ usable < word.length) :
    WrapLoop.lines usable indent (.test word todo current out) =
      if current = [] then WrapLoop.lines usable indent (.next todo word out)
      else if current.length + 1 + word.length ≤ usable then
        WrapLoop.lines usable indent (.next todo (current ++ ' ' :: word) out)
      else WrapLoop.lines usable indent (.next todo word (out ++ [spaces indent ++ current])) := by
  have hsplit : hardSplit usable word = ([], word) := by
    rw [hardSplit, if_neg fun hlong => h hlong.2]
  have hlines : WrapLoop.lines usable indent (.test word todo current out) =
      out ++ (todo.foldl (Wrapping.place usable)
        (Wrapping.place usable ⟨[], current⟩ word)).flushed.map (spaces indent ++ ·) := rfl
  rw [hlines, Wrapping.place, hsplit]
  by_cases hcurrent : current = []
  · simp [WrapLoop.lines, hcurrent]
  · by_cases hfits : current.length + 1 + word.length ≤ usable
    · simp [WrapLoop.lines, hcurrent, hfits]
    · have hfolded := @flushed_foldl_behind usable todo [current] ⟨[], word⟩
      simp only [List.append_nil] at hfolded
      simp [WrapLoop.lines, hcurrent, hfits, hfolded]

-- Every round brings the loop nearer to its end and keeps the lines it is going to return.
theorem step_spec (hpos : 0 < usable) (loop : WrapLoop) :
    (loop.step usable indent).lines usable indent = loop.lines usable indent ∧
      (¬ loop.Done → (loop.step usable indent).measure < loop.measure) := by
  cases loop with
  | next todo current out =>
      cases todo with
      | nil =>
          refine ⟨?_, fun _ => by simp [WrapLoop.step, WrapLoop.measure, WrapLoop.work]⟩
          by_cases hcurrent : current = []
          · simp [WrapLoop.step, WrapLoop.lines, Wrapping.flushed, hcurrent]
          · simp [WrapLoop.step, WrapLoop.lines, Wrapping.flushed, hcurrent]
      | cons word todo =>
          refine ⟨rfl, fun _ => ?_⟩
          simp only [WrapLoop.step, WrapLoop.measure, WrapLoop.work, List.map_cons, List.sum_cons]
          omega
  | test word todo current out =>
      rw [WrapLoop.step]
      by_cases h : usable < word.length
      · rw [if_pos h]
        refine ⟨lines_split hpos h, fun _ => ?_⟩
        simp only [WrapLoop.measure, List.length_drop]
        omega
      · rw [if_neg h, lines_word h]
        by_cases hcurrent : current = []
        · rw [if_pos hcurrent, if_pos hcurrent]
          exact ⟨rfl, fun _ => by simp only [WrapLoop.measure]; omega⟩
        · rw [if_neg hcurrent, if_neg hcurrent]
          by_cases hfits : current.length + 1 + word.length ≤ usable
          · rw [if_pos hfits, if_pos hfits]
            exact ⟨rfl, fun _ => by simp only [WrapLoop.measure]; omega⟩
          · rw [if_neg hfits, if_neg hfits]
            exact ⟨rfl, fun _ => by simp only [WrapLoop.measure]; omega⟩
  | done out => exact ⟨rfl, fun hdone => absurd trivial hdone⟩

-- The loops of the source end, with the lines that `wrap` says.
theorem wrap_halts : ∃ n,
    (WrapLoop.step (max 1 (columns - indent)) indent)^[n] (.next (words text) [] []) =
      .done (wrap text columns indent) := by
  have hpos : 0 < max 1 (columns - indent) := by omega
  have hstep (loop : WrapLoop)
      (hloop : loop.lines (max 1 (columns - indent)) indent = wrap text columns indent)
      (hdone : ¬ loop.Done) :
      (loop.step (max 1 (columns - indent)) indent).lines (max 1 (columns - indent)) indent =
          wrap text columns indent ∧
        (loop.step (max 1 (columns - indent)) indent).measure < loop.measure :=
    ⟨(step_spec hpos loop).1.trans hloop, (step_spec hpos loop).2 hdone⟩
  have hstart : WrapLoop.lines (max 1 (columns - indent)) indent (.next (words text) [] []) =
      wrap text columns indent := rfl
  obtain ⟨n, hlines, hdone⟩ := Run.exists_done hstep hstart
  refine ⟨n, ?_⟩
  generalize (WrapLoop.step (max 1 (columns - indent)) indent)^[n] (.next (words text) [] []) =
    last at hlines hdone
  cases last with
  | done out =>
      exact congrArg WrapLoop.done hlines
  | next todo current out => exact hdone.elim
  | test word todo current out => exact hdone.elim

theorem flatten_cut (word : List Char) : (cut usable word).flatten = word := by
  unfold cut
  fun_induction hardSplit usable word with
  | case1 word h split ih =>
      rw [List.cons_append, List.flatten_cons, ih, List.take_append_drop]
  | case2 word h => simp

theorem wrapped_lines (text : List Char) (columns indent : Nat) (h : indent < columns) :
    (∃ n, (WrapLoop.step (max 1 (columns - indent)) indent)^[n] (.next (words text) [] []) =
        .done (wrap text columns indent)) ∧
      (∀ line ∈ wrap text columns indent, line.length ≤ columns) ∧
      (wrap text columns indent).flatMap words =
        (words text).flatMap (cut (columns - indent)) ∧
      ∀ word ∈ words text, (cut (columns - indent) word).flatten = word ∧
        (∀ piece ∈ cut (columns - indent) word, piece ≠ []) ∧
        (word.length ≤ columns - indent → cut (columns - indent) word = [word]) := by
  have hpos : 0 < columns - indent := Nat.sub_pos_of_lt h
  refine ⟨wrap_halts, fun line hline => length_of_mem_wrap h hline, ?_, fun word hword => ?_⟩
  · rw [words_wrap, max_eq_right hpos]
  · have hpieces := cut_spec hpos (isWord_of_mem_words hword)
    exact ⟨flatten_cut word, fun piece hpiece => (hpieces piece hpiece).1.1, cut_of_le⟩

-- A name that is longer than the line is cut where the line ends.
theorem wrapped_stroganoff :
    wrap "Beef stroganoff".toList 8 2 = ["  Beef".toList, "  stroga".toList, "  noff".toList] ∧
      (wrap "Beef stroganoff".toList 8 2).flatMap words =
        (words "Beef stroganoff".toList).flatMap (cut (8 - 2)) :=
  ⟨by decide +kernel, (wrapped_lines _ 8 2 (by decide)).2.2.1⟩

end Loop

end NextgenBackend.Receipts.Escpos
