import NextgenBackend.Receipts.SlipLayout

namespace NextgenBackend.Receipts.Escpos

open Text InBand

-- How a printer reads the stream: two bytes open a command, and the byte after them names it.
def isLead (b : UInt8) : Bool :=
  b = escape || b = groupSeparator

def escapeSize : List UInt8 → Nat
  | 0x40 :: _ => 2
  | 0x61 :: _ => 3
  | 0x45 :: _ => 3
  | 0x2d :: _ => 3
  | 0x70 :: _ => 5
  | _ => 1

def groupSize : List UInt8 → Nat
  | 0x21 :: _ => 3
  | 0x56 :: mode :: _ => if mode ∈ [0x00, 0x01, 0x30, 0x31] then 3 else 4
  | 0x28 :: 0x6b :: low :: high :: _ => 5 + low.toNat + 256 * high.toNat
  | _ => 1

def commandSize : List UInt8 → Nat
  | [] => 0
  | b :: rest =>
      if b = escape then escapeSize rest
      else if b = groupSeparator then groupSize rest
      else 0

-- A symbol command without the length and the data it carries; any other command as it is.
def opcode (command : List UInt8) : List UInt8 :=
  if command.take 3 = [groupSeparator, 0x28, 0x6b] then
    command.take 3 ++ (command.drop 5).take 2
  else command

def commandSequence (stream : List UInt8) : List (List UInt8) :=
  (commands (read commandSize stream)).map opcode

-- All that the commands of a slip depend on, apart from the printer and the drawer flag.
structure Outline where
  kitchen : Bool
  banner : Bool
  qr : Bool
deriving DecidableEq

def outline (document : ReceiptDocument) : Outline where
  kitchen := isKitchen document
  banner := (given document.banner).isSome
  qr := (given document.footer.qrData).isSome

def ownEmphases (capabilities : PrinterCapabilities) (outline : Outline) : List Emphasis :=
  (if outline.kitchen then [.heading] else []) ++ (if outline.banner then [.heading] else []) ++
    [.heading] ++ if !outline.kitchen && capabilities.supportsBold then [.total] else []

def supported (capability : Bool) (command : List UInt8) : List (List UInt8) :=
  if capability then [command] else []

def emphasisCommands (capabilities : PrinterCapabilities) : Emphasis → List (List UInt8)
  | .heading =>
      [Command.alignCenter] ++ supported capabilities.supportsDoubleHeight Command.doubleHeightOn ++
        supported capabilities.supportsBold Command.boldOn ++
        supported capabilities.supportsBold Command.boldOff ++
        [Command.sizeNormal, Command.alignLeft]
  | .total => [Command.boldOn, Command.boldOff]
  | .plain => []

def qrCommands : List (List UInt8) :=
  [Command.alignCenter] ++ [0x41, 0x43, 0x45, 0x50, 0x51].map
    (fun function => [groupSeparator, 0x28, 0x6b, 0x31, function]) ++ [Command.alignLeft]

def ownCommands (capabilities : PrinterCapabilities) (openDrawer : Bool) (outline : Outline) :
    List (List UInt8) :=
  [Command.init] ++ (ownEmphases capabilities outline).flatMap (emphasisCommands capabilities) ++
    (if outline.qr && capabilities.supportsQr then qrCommands else []) ++
    supported (openDrawer && capabilities.supportsDrawer) Command.drawerKick ++
    supported capabilities.supportsCut Command.cut

variable {casefold : List Char → List Char} {document : ReceiptDocument}
  {capabilities : PrinterCapabilities} {openDrawer : Bool}

-- The printer finds the renderer's own commands where it put them, and no others.
structure Confined (casefold : List Char → List Char) (document : ReceiptDocument)
    (capabilities : PrinterCapabilities) (openDrawer : Bool) : Prop where
  separate : read commandSize (renderEscpos casefold document capabilities openDrawer) =
    meant (chunks casefold document capabilities openDrawer)
  own : commandSequence (renderEscpos casefold document capabilities openDrawer) =
    ownCommands capabilities openDrawer (outline document)

def printed (capabilities : PrinterCapabilities) (line : List Char) (index : Nat) : List Char :=
  if emphasis capabilities line index = .heading then strip line else line

def emphases (casefold : List Char → List Char) (document : ReceiptDocument)
    (capabilities : PrinterCapabilities) : List Emphasis :=
  (lines (renderText casefold document)).zipIdx.map fun line =>
    emphasis capabilities line.1 line.2

structure Harmless (casefold : List Char → List Char) (document : ReceiptDocument)
    (capabilities : PrinterCapabilities) : Prop where
  texts : ∀ line ∈ (lines (renderText casefold document)).zipIdx,
    ∀ b ∈ capabilities.codepage (printed capabilities line.1 line.2), isLead b = false
  qrData : ∀ data ∈ given document.footer.qrData, capabilities.supportsQr →
    (utf8 data).length + 3 < 65536
  emphases : (emphases casefold document capabilities).filter (· ≠ .plain) =
    ownEmphases capabilities (outline document)

theorem commandSize_eq_zero_iff (b : UInt8) (rest : List UInt8) :
    commandSize (b :: rest) = 0 ↔ isLead b = false := by
  have hescape : escapeSize rest ≠ 0 := by
    unfold escapeSize
    split <;> simp
  have hgroup : groupSize rest ≠ 0 := by
    unfold groupSize
    split <;> grind
  unfold commandSize isLead
  split <;> grind

theorem qrStore_size (payload rest : List UInt8) :
    commandSize (Command.qrStore payload ++ rest) = 5 + (payload.length + 3) % 65536 := by
  have hlow : (UInt8.ofNat ((payload.length + 3) % 256)).toNat = (payload.length + 3) % 256 := by
    simp
  have hhigh : (UInt8.ofNat ((payload.length + 3) / 256 % 256)).toNat =
      (payload.length + 3) / 256 % 256 := by
    simp
  have hsize : commandSize (Command.qrStore payload ++ rest) =
      5 + (UInt8.ofNat ((payload.length + 3) % 256)).toNat +
        256 * (UInt8.ofNat ((payload.length + 3) / 256 % 256)).toNat := rfl
  rw [hsize, hlow, hhigh]
  omega

namespace Command

def fixed : List (List UInt8) :=
  [init, alignLeft, alignCenter, boldOn, boldOff, doubleHeightOn, sizeNormal, cut, drawerKick,
    qrModel, qrSize, qrCorrection, qrPrint]

theorem size_of_fixed {command : List UInt8} (h : command ∈ fixed) :
    command ≠ [] ∧ ∀ rest, commandSize (command ++ rest) = command.length := by
  simp only [fixed, List.mem_cons, List.not_mem_nil, or_false] at h
  rcases h with rfl | rfl | rfl | rfl | rfl | rfl | rfl | rfl | rfl | rfl | rfl | rfl | rfl <;>
    exact ⟨by decide, fun _ => rfl⟩

end Command

theorem measured_fixed {command : List UInt8} (h : command ∈ Command.fixed) :
    (Chunk.command command).Measured commandSize := by
  obtain ⟨hne, hsize⟩ := Command.size_of_fixed h
  have hself := hsize []
  rw [List.append_nil] at hself
  exact ⟨hne, hself.le, fun rest => (hsize rest).trans hself.symm⟩

theorem sound_fixed {command : List UInt8} (h : command ∈ Command.fixed) :
    (Chunk.command command).Sound commandSize := by
  have hself := (Command.size_of_fixed h).2 []
  rwa [List.append_nil] at hself

theorem length_qrStore (payload : List UInt8) :
    (Command.qrStore payload).length = 5 + (payload.length + 3) := by
  simp [Command.qrStore]
  omega

theorem measured_qrStore (payload : List UInt8) :
    (Chunk.command (Command.qrStore payload)).Measured commandSize := by
  have hself := qrStore_size payload []
  rw [List.append_nil] at hself
  refine ⟨by simp [Command.qrStore], ?_, fun rest => (qrStore_size payload rest).trans hself.symm⟩
  rw [hself, length_qrStore]
  omega

theorem sound_qrStore_iff (payload : List UInt8) :
    (Chunk.command (Command.qrStore payload)).Sound commandSize ↔ payload.length + 3 < 65536 := by
  have hself := qrStore_size payload []
  rw [List.append_nil] at hself
  rw [Chunk.Sound, hself, length_qrStore]
  omega

theorem sound_text_iff (symbols : List UInt8) :
    (Chunk.text symbols).Sound commandSize ↔ ∀ b ∈ symbols, isLead b = false :=
  forall₂_congr fun b _ => ⟨fun h => (commandSize_eq_zero_iff b []).mp (h []),
    fun h rest => (commandSize_eq_zero_iff b rest).mpr h⟩

theorem sound_line_iff (text : List UInt8) :
    (Chunk.text (text ++ [lineFeed])).Sound commandSize ↔ ∀ b ∈ text, isLead b = false := by
  rw [sound_text_iff, List.forall_mem_append, List.forall_mem_singleton]
  exact and_iff_left rfl

theorem mem_optional {capability : Bool} {command : List UInt8} {chunk : Chunk UInt8}
    (h : chunk ∈ optional capability command) : chunk = .command command := by
  unfold optional at h
  split at h
  · exact List.mem_singleton.mp h
  · cases h

-- Of a line's chunks, one is text.
theorem mem_lineChunks {line : List Char} {index : Nat} {chunk : Chunk UInt8}
    (h : chunk ∈ lineChunks capabilities line index) :
    (∃ command ∈ Command.fixed, chunk = .command command) ∨
      chunk = .text (capabilities.codepage (printed capabilities line index) ++ [lineFeed]) := by
  unfold lineChunks at h
  unfold printed
  cases hemphasis : emphasis capabilities line index with
  | heading =>
      rw [hemphasis] at h
      simp only [List.mem_append, List.mem_cons, List.not_mem_nil, or_false] at h
      rcases h with ((((rfl | h) | h) | rfl) | h) | rfl | rfl
      · exact .inl ⟨Command.alignCenter, by decide, rfl⟩
      · exact .inl ⟨Command.doubleHeightOn, by decide, mem_optional h⟩
      · exact .inl ⟨Command.boldOn, by decide, mem_optional h⟩
      · exact .inr rfl
      · exact .inl ⟨Command.boldOff, by decide, mem_optional h⟩
      · exact .inl ⟨Command.sizeNormal, by decide, rfl⟩
      · exact .inl ⟨Command.alignLeft, by decide, rfl⟩
  | total =>
      rw [hemphasis] at h
      simp only [List.mem_cons, List.not_mem_nil, or_false] at h
      rcases h with rfl | rfl | rfl
      · exact .inl ⟨Command.boldOn, by decide, rfl⟩
      · exact .inr rfl
      · exact .inl ⟨Command.boldOff, by decide, rfl⟩
  | plain =>
      rw [hemphasis] at h
      exact .inr (List.mem_singleton.mp h)

theorem text_mem_lineChunks (line : List Char) (index : Nat) :
    Chunk.text (capabilities.codepage (printed capabilities line index) ++ [lineFeed]) ∈
      lineChunks capabilities line index := by
  unfold lineChunks printed
  cases emphasis capabilities line index <;> simp

theorem mem_qrChunks {chunk : Chunk UInt8} (h : chunk ∈ qrChunks capabilities document) :
    (∃ command ∈ Command.fixed, chunk = .command command) ∨ chunk = .text [lineFeed] ∨
      ∃ data ∈ given document.footer.qrData, capabilities.supportsQr ∧
        chunk = .command (Command.qrStore (utf8 data)) := by
  unfold qrChunks at h
  cases hdata : given document.footer.qrData with
  | none => simp [hdata] at h
  | some data =>
      rw [hdata] at h
      cases hqr : capabilities.supportsQr with
      | false => simp [hqr] at h
      | true =>
          simp only [hqr, if_true, List.mem_cons, List.not_mem_nil, or_false] at h
          rcases h with rfl | rfl | rfl | rfl | rfl | rfl | rfl | rfl
          · exact .inl ⟨Command.alignCenter, by decide, rfl⟩
          · exact .inl ⟨Command.qrModel, by decide, rfl⟩
          · exact .inl ⟨Command.qrSize, by decide, rfl⟩
          · exact .inl ⟨Command.qrCorrection, by decide, rfl⟩
          · exact .inr (.inr ⟨data, rfl, rfl, rfl⟩)
          · exact .inl ⟨Command.qrPrint, by decide, rfl⟩
          · exact .inr (.inl rfl)
          · exact .inl ⟨Command.alignLeft, by decide, rfl⟩

-- Every chunk of a slip: a fixed command, a printed line, line feeds, or the data of the symbol.
theorem mem_chunks {chunk : Chunk UInt8}
    (h : chunk ∈ chunks casefold document capabilities openDrawer) :
    (∃ command ∈ Command.fixed, chunk = .command command) ∨
      (∃ line ∈ (lines (renderText casefold document)).zipIdx,
        chunk = .text (capabilities.codepage (printed capabilities line.1 line.2) ++ [lineFeed])) ∨
      (∃ n, chunk = .text (List.replicate n lineFeed)) ∨
      ∃ data ∈ given document.footer.qrData, capabilities.supportsQr ∧
        chunk = .command (Command.qrStore (utf8 data)) := by
  simp only [chunks, List.mem_append, List.mem_singleton, List.mem_flatMap] at h
  rcases h with ((((rfl | ⟨line, hline, h⟩) | h) | rfl) | h) | h
  · exact .inl ⟨Command.init, by decide, rfl⟩
  · rcases mem_lineChunks h with hfixed | rfl
    · exact .inl hfixed
    · exact .inr (.inl ⟨line, hline, rfl⟩)
  · rcases mem_qrChunks h with hfixed | rfl | hstore
    · exact .inl hfixed
    · exact .inr (.inr (.inl ⟨1, rfl⟩))
    · exact .inr (.inr (.inr hstore))
  · exact .inr (.inr (.inl ⟨_, rfl⟩))
  · exact .inl ⟨Command.drawerKick, by decide, mem_optional h⟩
  · exact .inl ⟨Command.cut, by decide, mem_optional h⟩

theorem chunks_measured :
    ∀ chunk ∈ chunks casefold document capabilities openDrawer, chunk.Measured commandSize := by
  intro chunk hchunk
  rcases mem_chunks hchunk with ⟨command, hfixed, rfl⟩ | ⟨line, -, rfl⟩ | ⟨n, rfl⟩ |
    ⟨data, -, -, rfl⟩
  · exact measured_fixed hfixed
  · trivial
  · trivial
  · exact measured_qrStore _

theorem chunks_sound_iff :
    (∀ chunk ∈ chunks casefold document capabilities openDrawer, chunk.Sound commandSize) ↔
      (∀ line ∈ (lines (renderText casefold document)).zipIdx,
        ∀ b ∈ capabilities.codepage (printed capabilities line.1 line.2), isLead b = false) ∧
      ∀ data ∈ given document.footer.qrData, capabilities.supportsQr →
        (utf8 data).length + 3 < 65536 := by
  constructor
  · intro h
    constructor
    · intro line hline
      refine (sound_line_iff _).mp (h _ ?_)
      simp only [chunks, List.mem_append, List.mem_flatMap]
      exact .inl (.inl (.inl (.inl (.inr ⟨line, hline, text_mem_lineChunks line.1 line.2⟩))))
    · intro data hdata hqr
      refine (sound_qrStore_iff _).mp (h _ ?_)
      have hstore : Chunk.command (Command.qrStore (utf8 data)) ∈
          qrChunks capabilities document := by
        simp [qrChunks, Option.mem_def.mp hdata, hqr]
      simp only [chunks, List.mem_append]
      exact .inl (.inl (.inl (.inr hstore)))
  · rintro ⟨htexts, hqr⟩ chunk hchunk
    rcases mem_chunks hchunk with ⟨command, hfixed, rfl⟩ | ⟨line, hline, rfl⟩ | ⟨n, rfl⟩ |
      ⟨data, hdata, hsupports, rfl⟩
    · exact sound_fixed hfixed
    · exact (sound_line_iff _).mpr (htexts line hline)
    · refine (sound_text_iff _).mpr fun b hb => ?_
      rw [List.eq_of_mem_replicate hb]
      rfl
    · exact (sound_qrStore_iff _).mpr (hqr data hdata hsupports)

theorem issued_append (xs ys : List (Chunk UInt8)) : issued (xs ++ ys) = issued xs ++ issued ys :=
  List.filterMap_append

theorem issued_optional (capability : Bool) (command : List UInt8) :
    issued (optional capability command) = supported capability command := by
  unfold optional supported
  split <;> rfl

theorem issued_lineChunks (line : List Char) (index : Nat) :
    issued (lineChunks capabilities line index) =
      emphasisCommands capabilities (emphasis capabilities line index) := by
  unfold lineChunks emphasisCommands
  cases emphasis capabilities line index with
  | heading =>
      simp only [issued_append, issued_optional]
      simp [issued, Chunk.command?]
  | total => rfl
  | plain => rfl

theorem opcode_supported {capability : Bool} {command : List UInt8}
    (h : opcode command = command) :
    (supported capability command).map opcode = supported capability command := by
  unfold supported
  split <;> simp [h]

theorem opcode_emphasisCommands (emphasis : Emphasis) :
    (emphasisCommands capabilities emphasis).map opcode = emphasisCommands capabilities emphasis := by
  cases emphasis with
  | heading =>
      simp only [emphasisCommands, List.map_append]
      rw [opcode_supported (by decide), opcode_supported (by decide), opcode_supported (by decide)]
      rfl
  | total => rfl
  | plain => rfl

theorem opcode_qrChunks : (issued (qrChunks capabilities document)).map opcode =
    if (outline document).qr && capabilities.supportsQr then qrCommands else [] := by
  unfold qrChunks outline
  cases given document.footer.qrData with
  | none => rfl
  | some data =>
      cases hqr : capabilities.supportsQr with
      | false => rfl
      | true => rfl

theorem sequence_of_separate
    (h : read commandSize (renderEscpos casefold document capabilities openDrawer) =
      meant (chunks casefold document capabilities openDrawer)) :
    commandSequence (renderEscpos casefold document capabilities openDrawer) =
      [Command.init] ++
        (emphases casefold document capabilities).flatMap (emphasisCommands capabilities) ++
        (if (outline document).qr && capabilities.supportsQr then qrCommands else []) ++
        supported (openDrawer && capabilities.supportsDrawer) Command.drawerKick ++
        supported capabilities.supportsCut Command.cut := by
  have hlines (rows : List (List Char × Nat)) :
      (issued (rows.flatMap fun line => lineChunks capabilities line.1 line.2)).map opcode =
        (rows.map fun line => emphasis capabilities line.1 line.2).flatMap
          (emphasisCommands capabilities) := by
    induction rows with
    | nil => rfl
    | cons row rows ih =>
        rw [List.flatMap_cons, issued_append, List.map_append, ih, issued_lineChunks,
          opcode_emphasisCommands, List.map_cons, List.flatMap_cons]
  rw [commandSequence, h, commands_meant, chunks]
  simp only [issued_append, List.map_append, issued_optional, hlines, opcode_qrChunks]
  rw [opcode_supported (by decide), opcode_supported (by decide)]
  simp [issued, Chunk.command?, emphases]
  rfl

theorem emphasisCommands_inj (a a' : Emphasis) (rest rest' : List (List UInt8))
    (ha : emphasisCommands capabilities a ≠ []) (ha' : emphasisCommands capabilities a' ≠ [])
    (h : emphasisCommands capabilities a ++ rest = emphasisCommands capabilities a' ++ rest') :
    a = a' := by
  cases a <;> cases a' <;> simp_all [emphasisCommands, Command.alignCenter, Command.boldOn]

theorem flatMap_emphases (marks : List Emphasis) :
    marks.flatMap (emphasisCommands capabilities) =
      (marks.filter (· ≠ .plain)).flatMap (emphasisCommands capabilities) := by
  induction marks with
  | nil => rfl
  | cons mark marks ih =>
      cases mark with
      | heading => simp [ih]
      | total => simp [ih]
      | plain => simp [ih, emphasisCommands]

theorem emphasisCommands_ne_nil {mark : Emphasis} (h : mark ≠ .plain) :
    emphasisCommands capabilities mark ≠ [] := by
  cases mark with
  | heading => simp [emphasisCommands]
  | total => simp [emphasisCommands]
  | plain => exact absurd rfl h

theorem ownEmphases_ne_plain {outline : Outline} :
    ∀ mark ∈ ownEmphases capabilities outline, mark ≠ .plain := by
  intro mark hmark
  unfold ownEmphases at hmark
  grind

theorem own_iff (h : read commandSize (renderEscpos casefold document capabilities openDrawer) =
      meant (chunks casefold document capabilities openDrawer)) :
    commandSequence (renderEscpos casefold document capabilities openDrawer) =
        ownCommands capabilities openDrawer (outline document) ↔
      (emphases casefold document capabilities).filter (· ≠ .plain) =
        ownEmphases capabilities (outline document) := by
  rw [sequence_of_separate h, ownCommands, List.append_left_inj, List.append_left_inj,
    List.append_left_inj, List.append_right_inj, flatMap_emphases]
  exact flatMap_inj emphasisCommands_inj
    (fun mark hmark => emphasisCommands_ne_nil (by simpa using (List.mem_filter.mp hmark).2))
    (fun mark hmark => emphasisCommands_ne_nil (ownEmphases_ne_plain mark hmark))

theorem confined_iff :
    Confined casefold document capabilities openDrawer ↔ Harmless casefold document capabilities := by
  have hseparate : read commandSize (renderEscpos casefold document capabilities openDrawer) =
      meant (chunks casefold document capabilities openDrawer) ↔ _ :=
    (read_stream_iff commandSize_eq_zero_iff chunks_measured).trans chunks_sound_iff
  constructor
  · rintro ⟨hread, hown⟩
    obtain ⟨htexts, hqr⟩ := hseparate.mp hread
    exact ⟨htexts, hqr, (own_iff hread).mp hown⟩
  · rintro ⟨htexts, hqr, hemphases⟩
    have hread := hseparate.mpr ⟨htexts, hqr⟩
    exact ⟨hread, (own_iff hread).mpr hemphases⟩

def opensDrawer (command : List UInt8) : Bool :=
  command.take 2 = [escape, 0x70]

def cutsPaper (command : List UInt8) : Bool :=
  command.take 2 = [groupSeparator, 0x56]

theorem mem_supported {capability : Bool} {command kind : List UInt8}
    (h : command ∈ supported capability kind) : capability = true ∧ command = kind := by
  unfold supported at h
  split at h
  next hcapability => exact ⟨hcapability, List.mem_singleton.mp h⟩
  next => cases h

theorem emphasisCommands_quiet {mark : Emphasis} {command : List UInt8}
    (h : command ∈ emphasisCommands capabilities mark) :
    opensDrawer command = false ∧ cutsPaper command = false := by
  unfold emphasisCommands at h
  cases mark with
  | heading =>
      simp only [List.mem_append, List.mem_cons, List.not_mem_nil, or_false] at h
      rcases h with (((rfl | h) | h) | h) | rfl | rfl
      · decide
      · obtain ⟨-, rfl⟩ := mem_supported h
        decide
      · obtain ⟨-, rfl⟩ := mem_supported h
        decide
      · obtain ⟨-, rfl⟩ := mem_supported h
        decide
      · decide
      · decide
  | total =>
      simp only [List.mem_cons, List.not_mem_nil, or_false] at h
      rcases h with rfl | rfl <;> decide
  | plain => cases h

theorem mem_ownCommands {command : List UInt8} {outline : Outline}
    (h : command ∈ ownCommands capabilities openDrawer outline) :
    (opensDrawer command = false ∧ cutsPaper command = false) ∨
      ((openDrawer && capabilities.supportsDrawer) ∧ command = Command.drawerKick) ∨
        (capabilities.supportsCut ∧ command = Command.cut) := by
  simp only [ownCommands, List.mem_append, List.mem_singleton, List.mem_flatMap] at h
  rcases h with (((rfl | ⟨mark, -, h⟩) | h) | h) | h
  · exact .inl (by decide)
  · exact .inl (emphasisCommands_quiet h)
  · have hqr : ∀ command ∈ qrCommands, opensDrawer command = false ∧ cutsPaper command = false := by
      decide
    split at h
    · exact .inl (hqr command h)
    · cases h
  · exact .inr (.inl (mem_supported h))
  · exact .inr (.inr (mem_supported h))

theorem kick_iff {outline : Outline} :
    (∃ command ∈ ownCommands capabilities openDrawer outline, opensDrawer command) ↔
      openDrawer ∧ capabilities.supportsDrawer := by
  constructor
  · rintro ⟨command, hmem, hopens⟩
    rcases mem_ownCommands hmem with ⟨hquiet, -⟩ | ⟨hasked, -⟩ | ⟨-, rfl⟩
    · simp [hquiet] at hopens
    · simpa using hasked
    · exact absurd hopens (by decide)
  · rintro ⟨hdrawer, hsupports⟩
    refine ⟨Command.drawerKick, ?_, by decide⟩
    simp [ownCommands, supported, hdrawer, hsupports]

theorem cut_iff {outline : Outline} :
    (∃ command ∈ ownCommands capabilities openDrawer outline, cutsPaper command) ↔
      capabilities.supportsCut := by
  constructor
  · rintro ⟨command, hmem, hcuts⟩
    rcases mem_ownCommands hmem with ⟨-, hquiet⟩ | ⟨-, rfl⟩ | ⟨hsupports, -⟩
    · simp [hquiet] at hcuts
    · exact absurd hcuts (by decide)
    · exact hsupports
  · intro hsupports
    refine ⟨Command.cut, ?_, by decide⟩
    simp [ownCommands, supported, hsupports]

theorem cp437_isLead {text : List Char} {b : UInt8} (hb : b ∈ cp437 text) (hlead : isLead b) :
    ∃ c ∈ text, c = '\x1b' ∨ c = '\x1d' := by
  obtain ⟨c, hc, rfl⟩ := List.mem_map.mp hb
  refine ⟨c, hc, ?_⟩
  have hpoint {n : Nat} (hn : n < 256) (h : isLead (UInt8.ofNat n)) : n = 27 ∨ n = 29 := by
    rw [isLead, Bool.or_eq_true, decide_eq_true_eq, decide_eq_true_eq] at h
    have hbyte := h.imp (congrArg UInt8.toNat) (congrArg UInt8.toNat)
    rw [UInt8.toNat_ofNat', Nat.mod_eq_of_lt hn] at hbyte
    exact hbyte
  split at hlead
  · rcases hpoint (by omega) hlead with h | h
    · exact .inl (by rw [← Char.ofNat_toNat c, h])
    · exact .inr (by rw [← Char.ofNat_toNat c, h])
  · split at hlead
    next n hn =>
      have hlt : n < cp437High.length := by
        obtain ⟨hlt, -⟩ := List.idxOf?_eq_some_iff.mp hn
        exact hlt
      have hlength : cp437High.length = 128 := rfl
      have := hpoint (by omega) hlead
      omega
    next => exact absurd hlead (by decide)

-- Under the default code page it is enough that the text has neither of the two characters.
theorem cp437_harmless (h : ∀ c ∈ renderText casefold document, c ≠ '\x1b' ∧ c ≠ '\x1d') :
    ∀ line ∈ (lines (renderText casefold document)).zipIdx,
      ∀ b ∈ cp437 (printed capabilities line.1 line.2), isLead b = false := by
  intro line hline b hb
  by_contra hlead
  obtain ⟨c, hc, hcontrol⟩ := cp437_isLead hb (by simpa using hlead)
  have hprinted : c ∈ line.1 := by
    unfold printed at hc
    split at hc
    · exact strip_sublist.subset hc
    · exact hc
  have hmem : c ∈ renderText casefold document := by
    have hrow := List.sublist_flatten_of_mem (List.fst_mem_of_mem_zipIdx hline)
    rw [lines, List.splitOn_eq_splitOnP, flatten_splitOnP] at hrow
    exact List.mem_of_mem_filter (hrow.subset hprinted)
  obtain ⟨hne, hne'⟩ := h c hmem
  exact hcontrol.elim hne hne'

theorem commands_are_own_iff :
    (Confined casefold document capabilities openDrawer ↔
      Harmless casefold document capabilities) ∧
    (Harmless casefold document capabilities →
      (∀ document', outline document' = outline document →
        Harmless casefold document' capabilities →
          commandSequence (renderEscpos casefold document' capabilities openDrawer) =
            commandSequence (renderEscpos casefold document capabilities openDrawer)) ∧
      ((∃ command ∈ commandSequence (renderEscpos casefold document capabilities openDrawer),
        opensDrawer command) ↔ openDrawer ∧ capabilities.supportsDrawer) ∧
      ((∃ command ∈ commandSequence (renderEscpos casefold document capabilities openDrawer),
        cutsPaper command) ↔ capabilities.supportsCut)) := by
  refine ⟨confined_iff, fun h => ?_⟩
  have hconfined : Confined casefold document capabilities openDrawer := confined_iff.mpr h
  have hown := hconfined.own
  refine ⟨fun document' houtline h' => ?_, ?_, ?_⟩
  · rw [hown, (confined_iff.mpr h').own, houtline]
  · rw [hown]
    exact kick_iff
  · rw [hown]
    exact cut_iff

theorem receipt_harmless : Harmless lowercase receipt {} where
  texts := by
    have hplain : (renderText lowercase receipt).all fun c => c ≠ '\x1b' ∧ c ≠ '\x1d' := by
      decide +kernel
    exact cp437_harmless fun c hc => of_decide_eq_true (List.all_eq_true.mp hplain c hc)
  qrData := by decide
  emphases := by decide +kernel

def tampered : ReceiptDocument :=
  receiptFor .customerReceipt "Bob\x1bp022"

-- The two slips differ in the customer's name alone, and neither is to open the drawer.
theorem name_opens_drawer : outline tampered = outline receipt ∧
    commandSequence (renderEscpos lowercase tampered {} false) ≠
      commandSequence (renderEscpos lowercase receipt {} false) ∧
    ∃ command ∈ commandSequence (renderEscpos lowercase tampered {} false),
      opensDrawer command := by
  have hopens : ∃ command ∈ commandSequence (renderEscpos lowercase tampered {} false),
      opensDrawer command := by decide +kernel
  refine ⟨rfl, fun hsame => ?_, hopens⟩
  rw [hsame, (confined_iff.mpr receipt_harmless).own, kick_iff] at hopens
  exact absurd hopens.1 (by decide)

end NextgenBackend.Receipts.Escpos
