import Mathlib

-- Commands in band with the text: a reader knows a command by the symbol it begins with.
namespace InBand

inductive Token (α : Type) where
  | text (a : α)
  | command (symbols : List α)
deriving DecidableEq

inductive Chunk (α : Type) where
  | text (symbols : List α)
  | command (symbols : List α)

variable {α β : Type}

-- The size of the command a stream begins with; it is zero where the stream begins with text.
def read (size : List α → Nat) : List α → List (Token α)
  | [] => []
  | a :: rest =>
      match size (a :: rest) with
      | 0 => .text a :: read size rest
      | n + 1 => .command ((a :: rest).take (n + 1)) :: read size (rest.drop n)
termination_by stream => stream.length

def Token.symbols? : Token α → Option (List α)
  | .text _ => none
  | .command symbols => some symbols

def Chunk.symbols : Chunk α → List α
  | .text symbols => symbols
  | .command symbols => symbols

def Chunk.tokens : Chunk α → List (Token α)
  | .text symbols => symbols.map .text
  | .command symbols => [.command symbols]

def stream (chunks : List (Chunk α)) : List α :=
  chunks.flatMap Chunk.symbols

-- What the writer of the chunks means the reader to find.
def meant (chunks : List (Chunk α)) : List (Token α) :=
  chunks.flatMap Chunk.tokens

def commands (tokens : List (Token α)) : List (List α) :=
  tokens.filterMap Token.symbols?

def Chunk.command? : Chunk α → Option (List α)
  | .text _ => none
  | .command symbols => some symbols

def issued (chunks : List (Chunk α)) : List (List α) :=
  chunks.filterMap Chunk.command?

def Chunk.Sound (size : List α → Nat) : Chunk α → Prop
  | .text symbols => ∀ a ∈ symbols, ∀ rest, size (a :: rest) = 0
  | .command symbols => size symbols = symbols.length

-- The reader has the size of the command from the command alone, and takes no more than that.
def Chunk.Measured (size : List α → Nat) : Chunk α → Prop
  | .text _ => True
  | .command symbols =>
      symbols ≠ [] ∧ size symbols ≤ symbols.length ∧ ∀ rest, size (symbols ++ rest) = size symbols

section Reading

variable {size : List α → Nat} {lead : α → Bool} {rest : List α} {tokens : List (Token α)}

theorem read_text_iff {symbols : List α}
    (hlead : ∀ a rest, size (a :: rest) = 0 ↔ lead a = false) :
    read size (symbols ++ rest) = symbols.map .text ++ tokens ↔
      (∀ a ∈ symbols, lead a = false) ∧ read size rest = tokens := by
  induction symbols with
  | nil => simp
  | cons a symbols ih =>
      rw [List.cons_append, read]
      cases hsize : size (a :: (symbols ++ rest)) with
      | zero => simp [ih, (hlead _ _).mp hsize]
      | succ n =>
          have hopens : lead a = true := by
            by_contra hno
            rw [(hlead _ _).mpr (by simpa using hno)] at hsize
            cases hsize
          simp [hopens]

theorem read_command_iff {symbols : List α} (h : (Chunk.command symbols).Measured size) :
    read size (symbols ++ rest) = .command symbols :: tokens ↔
      size symbols = symbols.length ∧ read size rest = tokens := by
  obtain ⟨hne, hle, hsize⟩ := h
  obtain ⟨a, symbols, rfl⟩ := List.exists_cons_of_ne_nil hne
  rw [List.cons_append, read, ← List.cons_append, hsize]
  cases hn : size (a :: symbols) with
  | zero => simp
  | succ n =>
      rw [hn, List.length_cons] at hle
      dsimp only
      constructor
      · intro h
        obtain ⟨htake, hrest⟩ := List.cons.inj h
        have hlength := congrArg List.length (Token.command.inj htake)
        rw [List.length_take, List.length_append, List.length_cons] at hlength
        have hfull : n = symbols.length := by omega
        subst hfull
        exact ⟨rfl, by simpa using hrest⟩
      · rintro ⟨hfull, hrest⟩
        obtain rfl : n = symbols.length := by simpa using hfull
        simpa using hrest

-- The reader finds what is meant exactly where every chunk is sound.
theorem read_stream_iff {chunks : List (Chunk α)}
    (hlead : ∀ a rest, size (a :: rest) = 0 ↔ lead a = false)
    (hmeasured : ∀ chunk ∈ chunks, chunk.Measured size) :
    read size (stream chunks) = meant chunks ↔ ∀ chunk ∈ chunks, chunk.Sound size := by
  induction chunks with
  | nil => simp [stream, meant, read]
  | cons chunk chunks ih =>
      have ih := ih fun chunk h => hmeasured chunk (List.mem_cons_of_mem _ h)
      have hchunk := hmeasured chunk List.mem_cons_self
      rw [List.forall_mem_cons, ← ih]
      unfold stream meant
      rw [List.flatMap_cons, List.flatMap_cons]
      cases chunk with
      | text symbols =>
          refine (read_text_iff hlead).trans (and_congr_left fun _ => ?_)
          exact forall₂_congr fun a _ =>
            ⟨fun h rest => (hlead a rest).mpr h, fun h => (hlead a []).mp (h [])⟩
      | command symbols => exact read_command_iff hchunk

theorem commands_meant (chunks : List (Chunk α)) : commands (meant chunks) = issued chunks := by
  induction chunks with
  | nil => rfl
  | cons chunk chunks ih =>
      unfold commands meant issued at *
      rw [List.flatMap_cons, List.filterMap_append, ih]
      cases chunk with
      | text symbols =>
          have hnone : (symbols.map Token.text).filterMap Token.symbols? = [] := by
            rw [List.filterMap_map]
            exact List.filterMap_eq_nil_iff.mpr fun _ _ => rfl
          simp [Chunk.tokens, Chunk.command?, List.filterMap_cons, hnone]
      | command symbols => simp [Chunk.tokens, Chunk.command?, Token.symbols?]

end Reading

theorem intercalate_inj [DecidableEq α] {separator : α} {xs ys : List (List α)}
    (hxs : ∀ x ∈ xs, x ≠ [] ∧ separator ∉ x) (hys : ∀ y ∈ ys, y ≠ [] ∧ separator ∉ y)
    (h : [separator].intercalate xs = [separator].intercalate ys) : xs = ys := by
  have hnil {zs : List (List α)} (hzs : ∀ z ∈ zs, z ≠ [] ∧ separator ∉ z)
      (hempty : [separator].intercalate zs = []) : zs = [] := by
    by_contra hne
    have hsplit := List.splitOn_intercalate separator (fun z hz => (hzs z hz).2) hne
    rw [hempty] at hsplit
    rw [← hsplit] at hzs
    exact (hzs [] (by simp)).1 rfl
  by_cases hx : xs = []
  · subst hx
    exact (hnil hys h.symm).symm
  · by_cases hy : ys = []
    · subst hy
      exact hnil hxs h
    · rw [← List.splitOn_intercalate separator (fun x hx => (hxs x hx).2) hx, h,
        List.splitOn_intercalate separator (fun y hy => (hys y hy).2) hy]

-- Codes that none begins another of are told apart in a row as well.
theorem flatMap_inj {code : α → List β}
    (hcode : ∀ a a' rest rest', code a ≠ [] → code a' ≠ [] → code a ++ rest = code a' ++ rest' →
      a = a') {xs ys : List α} (hxs : ∀ x ∈ xs, code x ≠ []) (hys : ∀ y ∈ ys, code y ≠ []) :
    xs.flatMap code = ys.flatMap code ↔ xs = ys := by
  refine ⟨fun h => ?_, congrArg _⟩
  induction xs generalizing ys with
  | nil =>
      cases ys with
      | nil => rfl
      | cons y ys => simp [hys y List.mem_cons_self] at h
  | cons x xs ih =>
      cases ys with
      | nil => simp [hxs x List.mem_cons_self] at h
      | cons y ys =>
          rw [List.flatMap_cons, List.flatMap_cons] at h
          obtain rfl := hcode _ _ _ _ (hxs x List.mem_cons_self) (hys y List.mem_cons_self) h
          rw [ih (fun x h => hxs x (List.mem_cons_of_mem _ h))
            (fun y h => hys y (List.mem_cons_of_mem _ h)) (List.append_cancel_left h)]

end InBand
