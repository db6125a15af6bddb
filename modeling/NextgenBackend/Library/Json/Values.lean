import NextgenBackend.Library.Dict
import NextgenBackend.Library.Json.Budget
import NextgenBackend.Library.Json.Numbers
import NextgenBackend.Library.Numerals

-- What JSON texts mean, and the compact ASCII text that is written of a meaning.
namespace Json

open Numerals

section Strings

def hexValue (digits : List Char) : ℕ := hexadecimal.value (digits.map Char.toLower)

def escapedUnit : Char → ℕ
  | 'b' => 8
  | 'f' => 12
  | 'n' => 10
  | 'r' => 13
  | 't' => 9
  | c => c.toNat

def Piece.unit : Piece → ℕ
  | .plain c => c.toNat
  | .escaped c => escapedUnit c
  | .unicode digits => hexValue digits

-- Two surrogates in a row are one character.
def joinPairs : List ℕ → List ℕ
  | [] => []
  | [u] => [u]
  | high :: low :: us =>
      if (0xd800 ≤ high ∧ high < 0xdc00) ∧ 0xdc00 ≤ low ∧ low < 0xe000 then
        (0x10000 + (high - 0xd800) * 0x400 + (low - 0xdc00)) :: joinPairs us
      else high :: joinPairs (low :: us)

def splitPair (n : ℕ) : List ℕ :=
  if n < 0x10000 then [n]
  else [0xd800 + (n - 0x10000) / 0x400 % 0x400, 0xdc00 + (n - 0x10000) % 0x400]

def spellUnit (u : ℕ) : Piece :=
  if u = 34 then .escaped '"'
  else if u = 92 then .escaped '\\'
  else if u = 8 then .escaped 'b'
  else if u = 12 then .escaped 'f'
  else if u = 10 then .escaped 'n'
  else if u = 13 then .escaped 'r'
  else if u = 9 then .escaped 't'
  else if 32 ≤ u ∧ u ≤ 126 then .plain (Char.ofNat u)
  else .unicode (hexadecimal.written 4 u)

def codes (pieces : List Piece) : List ℕ := joinPairs (pieces.map Piece.unit)

def spell (codes : List ℕ) : List Piece := (codes.flatMap splitPair).map spellUnit

-- A piece that is spelled as it is written: printable ASCII as it is, the rest escaped, in the
-- short form where there is one and else in four digits without capitals.
def Piece.Canonical : Piece → Prop
  | .plain c => c ≤ '~'
  | .escaped c => c ≠ '/'
  | .unicode digits =>
      (∀ c ∈ digits, c ∈ hexadecimal.digits) ∧
        (hexValue digits < 32 ∨ 126 < hexValue digits) ∧ hexValue digits ∉ [8, 9, 10, 12, 13]

instance (p : Piece) : Decidable p.Canonical :=
  match p with
  | .plain c => inferInstanceAs (Decidable (c ≤ '~'))
  | .escaped c => inferInstanceAs (Decidable (c ≠ '/'))
  | .unicode digits =>
      haveI := List.decidableBAll (· ∈ hexadecimal.digits) digits
      inferInstanceAs (Decidable ((∀ c ∈ digits, c ∈ hexadecimal.digits) ∧
        (hexValue digits < 32 ∨ 126 < hexValue digits) ∧ hexValue digits ∉ [8, 9, 10, 12, 13]))

variable {p : Piece} {ps : List Piece} {u n : ℕ} {us : List ℕ}

theorem toNat_ofNat (h : u < 127) : (Char.ofNat u).toNat = u := by
  have hvalid : u.isValidChar := Or.inl (by omega)
  rw [Char.ofNat, dif_pos hvalid]
  rfl

theorem hexadecimal_lower : hexadecimal.digits.all fun c => c.toLower = c := by decide

theorem hexadecimal_isHex : hexadecimal.digits.all isHex := by decide

theorem map_toLower {digits : List Char} (h : ∀ c ∈ digits, c ∈ hexadecimal.digits) :
    digits.map Char.toLower = digits := by
  have hsame : ∀ c ∈ digits, c.toLower = id c := fun c hc =>
    of_decide_eq_true (List.all_eq_true.mp hexadecimal_lower c (h c hc))
  rw [List.map_congr_left hsame, List.map_id]

theorem hexValue_written (h : u < 0x10000) : hexValue (hexadecimal.written 4 u) = u := by
  rw [hexValue, map_toLower fun _ => Base.mem_written]
  exact Base.value_written h

theorem unit_spellUnit (h : u < 0x10000) : (spellUnit u).unit = u := by
  unfold spellUnit
  split_ifs with _ _ _ _ _ _ _ hplain
  iterate 7 subst u; rfl
  · exact toNat_ofNat (by omega)
  · exact hexValue_written h

theorem spellUnit_valid : (spellUnit u).Valid := by
  unfold spellUnit
  split_ifs with hquote hbackslash _ _ _ _ _ hplain
  iterate 7 simp [Piece.Valid, escapes]
  · have hcode : (Char.ofNat u).toNat = u := toNat_ofNat (by omega)
    refine ⟨?_, ?_, ?_⟩
    · rw [Char.le_def, UInt32.le_iff_toNat_le]
      change 32 ≤ (Char.ofNat u).toNat
      omega
    · intro heq
      rw [heq] at hcode
      exact hquote hcode.symm
    · intro heq
      rw [heq] at hcode
      exact hbackslash hcode.symm
  · exact ⟨Base.length_written, fun c hc =>
      List.all_eq_true.mp hexadecimal_isHex c (Base.mem_written hc)⟩

-- Each piece is spelled in its own way exactly when it is a canonical one.
theorem canonical_iff (hp : p.Valid) : p.Canonical ↔ p.unit < 0x10000 ∧ spellUnit p.unit = p := by
  cases p with
  | plain c =>
      obtain ⟨hprintable, hquote, hbackslash⟩ := hp
      have hlow : 32 ≤ c.toNat := by
        rwa [Char.le_def, UInt32.le_iff_toNat_le] at hprintable
      have hhigh : c ≤ '~' ↔ c.toNat ≤ 126 := by
        rw [Char.le_def, UInt32.le_iff_toNat_le]
        rfl
      have h34 : c.toNat ≠ 34 := fun h => hquote (by rw [← Char.ofNat_toNat c, h])
      have h92 : c.toNat ≠ 92 := fun h => hbackslash (by rw [← Char.ofNat_toNat c, h])
      change c ≤ '~' ↔ c.toNat < 0x10000 ∧ spellUnit c.toNat = .plain c
      rw [hhigh]
      constructor
      · intro hle
        refine ⟨by omega, ?_⟩
        unfold spellUnit
        rw [if_neg h34, if_neg h92, if_neg (by omega), if_neg (by omega), if_neg (by omega),
          if_neg (by omega), if_neg (by omega), if_pos ⟨hlow, hle⟩, Char.ofNat_toNat]
      · rintro ⟨-, hspell⟩
        unfold spellUnit at hspell
        split_ifs at hspell with _ _ _ _ _ _ hplain
        exact hplain.2
  | escaped c =>
      have hmem : c ∈ escapes := hp
      simp only [escapes, List.mem_cons, List.not_mem_nil, or_false] at hmem
      rcases hmem with rfl | rfl | rfl | rfl | rfl | rfl | rfl | rfl <;>
        simp [Piece.Canonical, Piece.unit, escapedUnit, spellUnit]
  | unicode digits =>
      obtain ⟨hlength, -⟩ := hp
      change _ ∧ _ ∧ _ ↔ hexValue digits < 0x10000 ∧ spellUnit (hexValue digits) = .unicode digits
      constructor
      · rintro ⟨hdigits, hrange, hshort⟩
        have hvalue : hexValue digits = hexadecimal.value digits := by
          rw [hexValue, map_toLower hdigits]
        have hwritten := Base.written_value hdigits
        have hlt := Base.value_lt hdigits
        rw [hlength, ← hvalue] at hwritten hlt
        refine ⟨hlt, ?_⟩
        simp only [List.mem_cons, List.not_mem_nil, or_false, not_or] at hshort
        unfold spellUnit
        rw [if_neg (by omega), if_neg (by omega), if_neg hshort.1, if_neg hshort.2.2.2.1,
          if_neg hshort.2.2.1, if_neg hshort.2.2.2.2, if_neg hshort.2.1, if_neg (by omega), hwritten]
      · rintro ⟨hlt, hspell⟩
        unfold spellUnit at hspell
        split_ifs at hspell with h1 h2 h3 h4 h5 h6 h7 hplain
        have hdigits := Piece.unicode.inj hspell
        refine ⟨fun c hc => Base.mem_written (hdigits ▸ hc), by omega, ?_⟩
        simp [h3, h4, h5, h6, h7]

theorem splitPair_lt (h : u ∈ splitPair n) : u < 0x10000 := by
  unfold splitPair at h
  split_ifs at h with hsmall
  · rw [List.mem_singleton.mp h]
    exact hsmall
  · simp only [List.mem_cons, List.not_mem_nil, or_false] at h
    omega

theorem split_joinPairs (h : ∀ u ∈ us, u < 0x10000) : (joinPairs us).flatMap splitPair = us := by
  induction us using joinPairs.induct with
  | case1 => rfl
  | case2 u => simp [joinPairs, splitPair, h u List.mem_cons_self]
  | case3 high low us hpair ih =>
      obtain ⟨-, -, hrest⟩ := List.forall_mem_cons.mp h |>.imp_right List.forall_mem_cons.mp
      have hhigh : 0xd800 + (0x10000 + (high - 0xd800) * 0x400 + (low - 0xdc00) - 0x10000) /
          0x400 % 0x400 = high := by omega
      have hlow : 0xdc00 + (0x10000 + (high - 0xd800) * 0x400 + (low - 0xdc00) - 0x10000) %
          0x400 = low := by omega
      rw [joinPairs, if_pos hpair, List.flatMap_cons, ih hrest, splitPair, if_neg (by omega), hhigh,
        hlow]
      rfl
  | case4 high low us hpair ih =>
      obtain ⟨hhigh, hrest⟩ := List.forall_mem_cons.mp h
      rw [joinPairs, if_neg hpair, List.flatMap_cons, ih hrest, splitPair, if_pos hhigh]
      rfl

theorem spell_valid {codes : List ℕ} : ∀ p ∈ spell codes, p.Valid := by
  intro p hp
  obtain ⟨u, -, rfl⟩ := List.mem_map.mp hp
  exact spellUnit_valid

theorem spell_codes_iff (h : ∀ p ∈ ps, p.Valid) :
    spell (codes ps) = ps ↔ ∀ p ∈ ps, p.Canonical := by
  constructor
  · intro hspell p hp
    have hspelled := hp
    rw [← hspell] at hspelled
    obtain ⟨u, hu, rfl⟩ := List.mem_map.mp hspelled
    obtain ⟨n, -, hn⟩ := List.mem_flatMap.mp hu
    have hlt := splitPair_lt hn
    rw [canonical_iff (h _ hp), unit_spellUnit hlt]
    exact ⟨hlt, rfl⟩
  · intro hcanonical
    have hpieces (p : Piece) (hp : p ∈ ps) := (canonical_iff (h p hp)).mp (hcanonical p hp)
    have hunits : ∀ u ∈ ps.map Piece.unit, u < 0x10000 := by
      intro u hu
      obtain ⟨p, hp, rfl⟩ := List.mem_map.mp hu
      exact (hpieces p hp).1
    have hsame : ∀ p ∈ ps, spellUnit p.unit = id p := fun p hp => (hpieces p hp).2
    rw [spell, codes, split_joinPairs hunits, List.map_map]
    exact (List.map_congr_left hsame).trans (List.map_id _)

end Strings

section Values

inductive Value where
  | null
  | bool (b : Bool)
  | number (number : Number)
  | str (codes : List ℕ)
  | arr (items : List Value)
  | obj (entries : List (List ℕ × Value))

def Literal.value : Literal → Value
  | .null => .null
  | .true => .bool Bool.true
  | .false => .bool Bool.false
  | .nan => .number (.float .nan)
  | .infinity => .number (.float (.infinite Bool.false))
  | .minusInfinity => .number (.float (.infinite Bool.true))

-- A key that comes again replaces the value that was there.
def collect (pairs : List (List ℕ × Value)) : List (List ℕ × Value) :=
  pairs.foldl (fun entries pair => Dict.setEntry pair.1 pair.2 entries) []

mutual

def Tree.value : Tree → Value
  | .literal l => l.value
  | .number lexeme => .number (numberValue lexeme)
  | .string pieces => .str (codes pieces)
  | .array items => .arr (itemValues items)
  | .object members => .obj (collect (memberValues members))

def itemValues : List Tree → List Value
  | [] => []
  | t :: ts => t.value :: itemValues ts

def memberValues : List (List Piece × Tree) → List (List ℕ × Value)
  | [] => []
  | (key, t) :: ms => (codes key, t.value) :: memberValues ms

end

mutual

-- The tree whose text is written of a value.
def Value.tree : Value → Tree
  | .null => .literal .null
  | .bool Bool.true => .literal .true
  | .bool Bool.false => .literal .false
  | .number number => number.tree
  | .str codes => .string (spell codes)
  | .arr items => .array (itemTrees items)
  | .obj entries => .object (entryTrees entries)

def itemTrees : List Value → List Tree
  | [] => []
  | v :: vs => v.tree :: itemTrees vs

def entryTrees : List (List ℕ × Value) → List (List Piece × Tree)
  | [] => []
  | (key, v) :: entries => (spell key, v.tree) :: entryTrees entries

end

variable {t : Tree} {ts : List Tree} {ms : List (List Piece × Tree)} {v : Value}
  {vs : List Value} {entries pairs : List (List ℕ × Value)}

theorem itemValues_eq : itemValues ts = ts.map Tree.value := by
  induction ts with
  | nil => rfl
  | cons t ts ih => rw [itemValues, ih, List.map_cons]

theorem memberValues_eq : memberValues ms = ms.map fun m => (codes m.1, m.2.value) := by
  induction ms with
  | nil => rfl
  | cons m ms ih => rw [memberValues, ih, List.map_cons]

theorem itemTrees_eq : itemTrees vs = vs.map Value.tree := by
  induction vs with
  | nil => rfl
  | cons v vs ih => rw [itemTrees, ih, List.map_cons]

theorem entryTrees_eq : entryTrees entries = entries.map fun e => (spell e.1, e.2.tree) := by
  induction entries with
  | nil => rfl
  | cons e entries ih => rw [entryTrees, ih, List.map_cons]

theorem Value.induction {P : Value → Prop} (null : P .null) (bool : ∀ b, P (.bool b))
    (number : ∀ n, P (.number n)) (str : ∀ codes, P (.str codes))
    (arr : ∀ items, (∀ v ∈ items, P v) → P (.arr items))
    (obj : ∀ entries, (∀ e ∈ entries, P e.2) → P (.obj entries)) (v : Value) : P v :=
  @Value.rec P (fun items => ∀ v ∈ items, P v) (fun entries => ∀ e ∈ entries, P e.2)
    (fun e => P e.2) null bool number str arr obj (fun _ h => nomatch h)
    (fun _ _ head tail => List.forall_mem_cons.mpr ⟨head, tail⟩) (fun _ h => nomatch h)
    (fun _ _ head tail => List.forall_mem_cons.mpr ⟨head, tail⟩) (fun _ _ value => value) v

theorem Value.tree_valid (v : Value) : v.tree.Valid := by
  induction v using Value.induction with
  | null => exact fun _ h => nomatch h
  | bool b => cases b <;> exact fun _ h => nomatch h
  | number n => exact n.tree_valid
  | str codes => exact fun token h => (List.mem_singleton.mp h) ▸ spell_valid
  | arr items ih =>
      intro token h
      obtain ⟨t, ht, htoken⟩ := mem_itemTokens.mp h
      rw [itemTrees_eq] at ht
      obtain ⟨v, hv, rfl⟩ := List.mem_map.mp ht
      exact ih v hv token htoken
  | obj entries ih =>
      intro token h
      obtain ⟨m, hm, htoken⟩ := mem_memberTokens.mp h
      rw [entryTrees_eq] at hm
      obtain ⟨e, he, rfl⟩ := List.mem_map.mp hm
      rcases htoken with rfl | htoken
      · exact spell_valid
      · exact ih e he token htoken

theorem length_setEntry_le {key : List ℕ} {v : Value} :
    (Dict.setEntry key v entries).length ≤ entries.length + 1 := by
  have hkeys := congrArg List.length (@Dict.keys_setEntry _ _ _ key v entries)
  rw [List.length_map] at hkeys
  split at hkeys <;> simp at hkeys <;> omega

theorem setEntry_new {key : List ℕ} {v : Value} (h : key ∉ entries.map (·.1)) :
    Dict.setEntry key v entries = entries ++ [(key, v)] := by
  induction entries with
  | nil => rfl
  | cons e entries ih =>
      obtain ⟨hne, hnot⟩ := not_or.mp (List.mem_cons.not.mp h)
      rw [Dict.setEntry, if_neg (Ne.symm hne), ih hnot]
      rfl

theorem length_foldl_le (pairs entries : List (List ℕ × Value)) :
    (pairs.foldl (fun entries pair => Dict.setEntry pair.1 pair.2 entries) entries).length ≤
      entries.length + pairs.length := by
  induction pairs generalizing entries with
  | nil => exact le_rfl
  | cons pair pairs ih =>
      have hstep := @length_setEntry_le entries pair.1 pair.2
      have hrest := ih (Dict.setEntry pair.1 pair.2 entries)
      rw [List.foldl_cons, List.length_cons]
      omega

theorem foldl_new (pairs entries : List (List ℕ × Value))
    (h : (entries.map (·.1) ++ pairs.map (·.1)).Nodup) :
    pairs.foldl (fun entries pair => Dict.setEntry pair.1 pair.2 entries) entries =
      entries ++ pairs := by
  induction pairs generalizing entries with
  | nil => exact (List.append_nil _).symm
  | cons pair pairs ih =>
      have hnew : pair.1 ∉ entries.map (·.1) := fun hmem =>
        (List.nodup_append.mp h).2.2 _ hmem _ List.mem_cons_self rfl
      rw [List.foldl_cons, setEntry_new hnew, ih, List.append_assoc]
      · rfl
      · simpa [List.append_assoc] using h

theorem nodup_of_length (pairs entries : List (List ℕ × Value)) (hnodup : (entries.map (·.1)).Nodup)
    (h : (pairs.foldl (fun entries pair => Dict.setEntry pair.1 pair.2 entries) entries).length =
      entries.length + pairs.length) : (entries.map (·.1) ++ pairs.map (·.1)).Nodup := by
  induction pairs generalizing entries with
  | nil => rwa [List.map_nil, List.append_nil]
  | cons pair pairs ih =>
      rw [List.foldl_cons, List.length_cons] at h
      have hrest := length_foldl_le pairs (Dict.setEntry pair.1 pair.2 entries)
      by_cases hmem : pair.1 ∈ entries.map (·.1)
      · have hkeys := congrArg List.length (@Dict.keys_setEntry _ _ _ pair.1 pair.2 entries)
        rw [if_pos hmem, List.length_map, List.length_map] at hkeys
        omega
      · have hnew := setEntry_new (v := pair.2) hmem
        have hmore := Dict.nodup_setEntry (k := pair.1) (v := pair.2) hnodup
        rw [hnew] at h hmore
        have hlast := ih (entries ++ [(pair.1, pair.2)]) hmore (by
          rw [h, List.length_append, List.length_singleton]
          omega)
        simpa [List.append_assoc] using hlast

-- Nothing is lost exactly when no key comes twice.
theorem length_collect_iff : (collect pairs).length = pairs.length ↔ (pairs.map (·.1)).Nodup := by
  constructor
  · intro h
    exact nodup_of_length pairs [] List.nodup_nil (h.trans (Nat.zero_add _).symm)
  · intro h
    rw [collect, foldl_new pairs [] h]
    rfl

theorem collect_of_nodup (h : (pairs.map (·.1)).Nodup) : collect pairs = pairs :=
  foldl_new pairs [] h

def Token.Canonical : Token → Prop
  | .number lexeme => (numberValue lexeme).tree = .number lexeme
  | .string pieces => ∀ p ∈ pieces, p.Canonical

instance (t : Tree) (lexeme : List Char) : Decidable (t = .number lexeme) :=
  match t with
  | .number other => decidable_of_iff (other = lexeme) ⟨congrArg Tree.number, Tree.number.inj⟩
  | .literal _ => .isFalse nofun
  | .string _ => .isFalse nofun
  | .array _ => .isFalse nofun
  | .object _ => .isFalse nofun

instance (token : Token) : Decidable token.Canonical :=
  match token with
  | .number lexeme => inferInstanceAs (Decidable ((numberValue lexeme).tree = .number lexeme))
  | .string pieces => List.decidableBAll Piece.Canonical pieces

-- A tree that is spelled as its value is written.
structure Tree.Canonical (t : Tree) : Prop where
  tokens : ∀ token ∈ t.tokens, token.Canonical
  keys : ∀ keys ∈ t.keyLists, (keys.map codes).Nodup

instance (t : Tree) : Decidable t.Canonical :=
  haveI := List.decidableBAll Token.Canonical t.tokens
  haveI := List.decidableBAll (fun keys => (keys.map codes).Nodup) t.keyLists
  decidable_of_iff ((∀ token ∈ t.tokens, token.Canonical) ∧
    ∀ keys ∈ t.keyLists, (keys.map codes).Nodup)
    ⟨fun ⟨tokens, keys⟩ => ⟨tokens, keys⟩, fun h => ⟨h.tokens, h.keys⟩⟩

theorem map_eq_self {α : Type} {f : α → α} {l : List α} : l.map f = l ↔ ∀ a ∈ l, f a = a := by
  induction l with
  | nil => simp
  | cons a l ih => rw [List.map_cons, List.cons.injEq, ih, List.forall_mem_cons]

theorem mem_itemKeyLists {keys : List (List Piece)} :
    keys ∈ itemKeyLists ts ↔ ∃ t ∈ ts, keys ∈ t.keyLists := by
  induction ts with
  | nil => simp [itemKeyLists]
  | cons t ts ih => simp [itemKeyLists, ih]

theorem mem_memberKeyLists {keys : List (List Piece)} :
    keys ∈ memberKeyLists ms ↔ ∃ m ∈ ms, keys ∈ m.2.keyLists := by
  induction ms with
  | nil => simp [memberKeyLists]
  | cons m ms ih => simp [memberKeyLists, ih]

theorem canonical_array :
    (Tree.array ts).Canonical ↔ ∀ t ∈ ts, t.Canonical := by
  constructor
  · rintro ⟨htokens, hkeys⟩ t ht
    exact ⟨fun token h => htokens token (mem_itemTokens.mpr ⟨t, ht, h⟩),
      fun keys h => hkeys keys (mem_itemKeyLists.mpr ⟨t, ht, h⟩)⟩
  · intro h
    constructor
    · intro token htoken
      obtain ⟨t, ht, hmem⟩ := mem_itemTokens.mp htoken
      exact (h t ht).tokens token hmem
    · intro keys hkeys
      obtain ⟨t, ht, hmem⟩ := mem_itemKeyLists.mp hkeys
      exact (h t ht).keys keys hmem

theorem canonical_object :
    (Tree.object ms).Canonical ↔ ((ms.map (·.1)).map codes).Nodup ∧
      ∀ m ∈ ms, (∀ p ∈ m.1, p.Canonical) ∧ m.2.Canonical := by
  constructor
  · rintro ⟨htokens, hkeys⟩
    refine ⟨hkeys _ List.mem_cons_self, fun m hm => ⟨?_, ?_, ?_⟩⟩
    · exact htokens (.string m.1) (mem_memberTokens.mpr ⟨m, hm, .inl rfl⟩)
    · exact fun token h => htokens token (mem_memberTokens.mpr ⟨m, hm, .inr h⟩)
    · exact fun keys h => hkeys keys (List.mem_cons_of_mem _ (mem_memberKeyLists.mpr ⟨m, hm, h⟩))
  · rintro ⟨hnodup, hmembers⟩
    constructor
    · intro token htoken
      obtain ⟨m, hm, rfl | hmem⟩ := mem_memberTokens.mp htoken
      · exact (hmembers m hm).1
      · exact (hmembers m hm).2.tokens token hmem
    · intro keys hkeys
      rcases List.mem_cons.mp hkeys with rfl | hkeys
      · exact hnodup
      · obtain ⟨m, hm, hmem⟩ := mem_memberKeyLists.mp hkeys
        exact (hmembers m hm).2.keys keys hmem

theorem canonical_leaf {token : Token} (htokens : t.tokens = [token]) (hkeys : t.keyLists = []) :
    t.Canonical ↔ token.Canonical := by
  constructor
  · exact fun h => h.tokens token (htokens ▸ List.mem_singleton.mpr rfl)
  · refine fun h => ⟨fun other hother => ?_, fun keys hmem => ?_⟩
    · rw [htokens, List.mem_singleton] at hother
      exact hother ▸ h
    · rw [hkeys] at hmem
      cases hmem

theorem tree_value_eq_iff (hvalid : t.Valid) : t.value.tree = t ↔ t.Canonical := by
  induction t using Tree.induction with
  | literal l =>
      refine ⟨fun _ => ⟨fun _ h => (nomatch h), fun _ h => (nomatch h)⟩, fun _ => ?_⟩
      cases l <;> rfl
  | number lexeme => exact (@canonical_leaf (.number lexeme) (.number lexeme) rfl rfl).symm
  | string pieces =>
      have hpieces : ∀ p ∈ pieces, p.Valid := hvalid _ (List.mem_singleton.mpr rfl)
      rw [canonical_leaf rfl rfl, Token.Canonical, ← spell_codes_iff hpieces]
      exact ⟨Tree.string.inj, congrArg Tree.string⟩
  | array items ih =>
      have hitems (t : Tree) (ht : t ∈ items) : t.Valid :=
        fun token h => hvalid token (mem_itemTokens.mpr ⟨t, ht, h⟩)
      rw [canonical_array, Tree.value, Value.tree, itemValues_eq, itemTrees_eq, List.map_map,
        Tree.array.injEq, map_eq_self]
      exact forall₂_congr fun t ht => ih t ht (hitems t ht)
  | object members ih =>
      have hkeyed (m : List Piece × Tree) (hm : m ∈ members) : ∀ p ∈ m.1, p.Valid :=
        hvalid _ (mem_memberTokens.mpr ⟨m, hm, .inl rfl⟩)
      have hmembers (m : List Piece × Tree) (hm : m ∈ members) : m.2.Valid :=
        fun token h => hvalid token (mem_memberTokens.mpr ⟨m, hm, .inr h⟩)
      have hsame (hnodup : ((members.map (·.1)).map codes).Nodup) :
          (Tree.object members).value.tree = .object members ↔
            ∀ m ∈ members, (∀ p ∈ m.1, p.Canonical) ∧ m.2.Canonical := by
        have hcollect : collect (memberValues members) = memberValues members :=
          collect_of_nodup (by
            rw [memberValues_eq, List.map_map]
            rwa [List.map_map] at hnodup)
        rw [Tree.value, hcollect, memberValues_eq, Value.tree, entryTrees_eq, List.map_map,
          Tree.object.injEq, map_eq_self]
        refine forall₂_congr fun m hm => ?_
        rw [← spell_codes_iff (hkeyed m hm), ← ih m hm (hmembers m hm)]
        exact Prod.mk.injEq _ _ _ _ ▸ Iff.rfl
      rw [canonical_object]
      constructor
      · intro h
        have hlength : (collect (memberValues members)).length = (memberValues members).length := by
          have hmembers := congrArg List.length (Tree.object.inj h)
          rw [entryTrees_eq, List.length_map] at hmembers
          rw [hmembers, memberValues_eq, List.length_map]
        have hnodup := length_collect_iff.mp hlength
        rw [memberValues_eq, List.map_map] at hnodup
        have hkeys : ((members.map (·.1)).map codes).Nodup := by rwa [List.map_map]
        exact ⟨hkeys, (hsame hkeys).mp h⟩
      · exact fun ⟨hkeys, hrest⟩ => (hsame hkeys).mpr hrest

-- The text that is written of what a text means is the same text, for the canonical ones.
theorem text_value_eq_iff (hvalid : t.Valid) : t.value.tree.text = t.text ↔ t.Canonical := by
  rw [← tree_value_eq_iff hvalid]
  exact ⟨text_injective t.value.tree_valid hvalid, congrArg Tree.text⟩

end Values

end Json
