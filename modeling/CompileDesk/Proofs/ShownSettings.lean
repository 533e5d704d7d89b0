import CompileDesk.Proofs.SettingChanges

/-! # The settings that are shown

The settings in effect are shown as TOML below a heading, cut into lines, with their keys in colour. The
cutting and the colouring know nothing of TOML: a line may be the middle of a text over several lines, and
an equals sign may be part of a text. They add nothing but colour sequences all the same, since a text
is written without control characters. So what is shown, without its colours, reads back.
-/

namespace CompileDesk

/-! ## A text and its lines -/

namespace Text

theorem afterOpening_eq_some {opening s after : List Char} (h : afterOpening opening s = some after) :
    s = opening ++ after := by
  induction opening generalizing s with
  | nil => exact Option.some.inj h
  | cons c opening ih =>
    cases s with
    | nil => cases h
    | cons d s =>
      rw [afterOpening] at h
      split at h
      · rename_i same
        rw [ih h, eq_of_beq same]
        rfl
      · cases h

theorem splitOnce_eq_some {sep s before after : List Char} (h : splitOnce sep s = some (before, after)) :
    s = before ++ sep ++ after := by
  induction s generalizing before with
  | nil =>
    rw [splitOnce] at h
    split at h
    · rename_i empty
      cases h
      simpa using empty
    · cases h
  | cons c s ih =>
    rw [splitOnce] at h
    split at h
    · rename_i found
      cases h
      exact afterOpening_eq_some found
    · obtain ⟨⟨front, rest⟩, found, same⟩ := Option.map_eq_some_iff.mp h
      cases same
      rw [ih found]
      rfl

theorem dropReturn_of_not_mem {line : List Char} (clean : '\r' ∉ line) : dropReturn line = line := by
  unfold dropReturn
  split
  · rename_i kept ends
    have there : '\r' ∈ line.reverse := by simp [ends]
    exact absurd (List.mem_reverse.mp there) clean
  · rfl

/-- The pieces between line feeds make up the text again, if its last line is not ended but not empty
either. -/
theorem segmentsGo_flatMap (s line : List Char) (filled : line ≠ [] ∨ s ≠ [])
    (inLine : s.getLast? ≠ some '\n') :
    (segmentsGo s line).flatMap (·.1 ++ ['\n']) = line.reverse ++ s ++ ['\n'] := by
  fun_induction segmentsGo s line with
  | case1 => simp at filled
  | case2 line => simp
  | case3 rest line ih =>
    -- the text goes on, for this line feed is not its last character
    have more : rest ≠ [] := by
      rintro rfl
      exact inLine rfl
    have inLine : rest.getLast? ≠ some '\n' := by
      obtain ⟨d, rest, rfl⟩ := List.exists_cons_of_ne_nil more
      rwa [List.getLast?_cons_cons] at inLine
    simp [ih (.inr more) inLine]
  | case4 c rest line other ih =>
    have inLine : rest.getLast? ≠ some '\n' := by
      cases rest with
      | nil => nofun
      | cons d rest => rwa [List.getLast?_cons_cons] at inLine
    rw [ih (.inl (List.cons_ne_nil c line)) inLine, List.reverse_cons]
    simp

/-- A text without carriage returns is its lines, if the last one is not ended but not empty either. -/
theorem lines_flatMap {s : List Char} (filled : s ≠ []) (inLine : s.getLast? ≠ some '\n')
    (clean : '\r' ∉ s) : (lines s).flatMap (· ++ ['\n']) = s ++ ['\n'] := by
  have pieces := segmentsGo_flatMap s [] (.inr filled) inLine
  rw [List.reverse_nil, List.nil_append] at pieces
  -- nothing but a carriage return is ever dropped from a piece
  have cut : lines s = (segmentsGo s []).map Prod.fst := by
    refine List.map_congr_left fun piece there => ?_
    have clean : '\r' ∉ piece.1 := by
      intro inside
      have inside : '\r' ∈ s ++ ['\n'] :=
        pieces ▸ List.mem_flatMap.mpr ⟨piece, there, List.mem_append_left _ inside⟩
      simp [clean] at inside
    simp only [dropReturn_of_not_mem clean, ite_self]
  rw [cut, List.flatMap_map]
  exact pieces

end Text

/-! ## Colours are taken away -/

namespace Terminal

/-- The text behind the colour sequence that it begins with: an escape character, a bracket, numbers
with semicolons between them, and the letter m. -/
def afterColour? (s : List Char) : Option (List Char) :=
  (Text.afterOpening ['\x1b', '['] s).bind fun rest =>
    Text.afterOpening ['m'] (rest.dropWhile fun c => Text.isDigit c || c == ';')

theorem length_of_afterColour? {s after : List Char} (h : afterColour? s = some after) :
    after.length < s.length := by
  obtain ⟨rest, opened, closed⟩ := Option.bind_eq_some_iff.mp h
  have dropped : (rest.dropWhile fun c => Text.isDigit c || c == ';').length ≤ rest.length :=
    (List.dropWhile_suffix _).length_le
  rw [Text.afterOpening_eq_some closed] at dropped
  rw [Text.afterOpening_eq_some opened]
  simp only [List.cons_append, List.nil_append, List.length_cons] at dropped ⊢
  omega

/-- A text without its colour sequences. -/
def uncolour (s : List Char) : List Char :=
  match s with
  | [] => []
  | c :: rest =>
    match _found : afterColour? (c :: rest) with
    | some after => uncolour after
    | none => c :: uncolour rest
termination_by s.length
decreasing_by
  · exact length_of_afterColour? _found
  · exact Nat.lt_succ_self _

/-- A text without its colour sequences. -/
def uncoloured (s : String) : String := String.ofList (uncolour s.toList)

theorem uncolour_of_afterColour? {s after : List Char} (h : afterColour? s = some after) :
    uncolour s = uncolour after := by
  cases s with
  | nil => cases h
  | cons c rest =>
    rw [uncolour]
    split
    · rename_i found
      rw [h] at found
      rw [Option.some.inj found]
    · rename_i none
      rw [h] at none
      cases none

theorem uncolour_cons {c : Char} {rest : List Char} (h : afterColour? (c :: rest) = none) :
    uncolour (c :: rest) = c :: uncolour rest := by
  rw [uncolour]
  split
  · rename_i found
    rw [h] at found
    cases found
  · rfl

/-- Whether a text is one colour sequence. -/
def isColour (s : String) : Bool := afterColour? s.toList == some []

theorem uncolour_colour {colour : String} (h : isColour colour) (rest : List Char) :
    uncolour (colour.toList ++ rest) = uncolour rest := by
  obtain ⟨inner, opened, closed⟩ := Option.bind_eq_some_iff.mp (eq_of_beq h)
  have letter := Text.afterOpening_eq_some closed
  apply uncolour_of_afterColour?
  rw [Text.afterOpening_eq_some opened, afterColour?, List.append_assoc, Text.afterOpening_append,
    Option.bind_some, List.dropWhile_append, letter]
  rfl

/-- Text without escape characters has no colours. -/
theorem uncolour_text {s : List Char} (clean : '\x1b' ∉ s) (rest : List Char) :
    uncolour (s ++ rest) = s ++ uncolour rest := by
  induction s with
  | nil => rfl
  | cons c s ih =>
    rw [List.mem_cons, not_or] at clean
    have plain : afterColour? (c :: (s ++ rest)) = none := by
      simp [afterColour?, Text.afterOpening, clean.1]
    rw [List.cons_append, uncolour_cons plain, ih clean.2]
    rfl

theorem uncolour_coloured {colour text : String} (h : isColour colour) (clean : '\x1b' ∉ text.toList)
    (rest : List Char) :
    uncolour ((colour ++ text ++ reset).toList ++ rest) = text.toList ++ uncolour rest := by
  have ends : isColour reset := by decide
  simp only [String.toList_append, List.append_assoc]
  rw [uncolour_colour h, uncolour_text clean, uncolour_colour ends]

/-- What colouring does to a line is undone when the colours are taken away. -/
theorem uncolour_settingsLine {line : List Char} (clean : '\x1b' ∉ line) (rest : List Char) :
    uncolour ((Command.settingsLine line).toList ++ rest) = line ++ uncolour rest := by
  have keyColour : isColour cyan := by decide
  unfold Command.settingsLine
  split
  · rename_i key value split
    -- at which equals sign the line is split does not matter, only that its parts make it up
    have whole := Text.splitOnce_eq_some split
    rw [whole] at clean
    simp only [List.mem_append, not_or] at clean
    obtain ⟨⟨inKey, inSign⟩, inValue⟩ := clean
    rw [String.toList_append, String.toList_append, List.append_assoc, List.append_assoc,
      uncolour_coloured keyColour (by rwa [String.toList_ofList]), uncolour_text inSign,
      uncolour_text (by rwa [String.toList_ofList])]
    simp only [whole, String.toList_ofList, List.append_assoc]
  · rw [String.toList_ofList, uncolour_text clean]

theorem uncolour_settingsLines {lines : List (List Char)} (clean : ∀ line ∈ lines, '\x1b' ∉ line) :
    uncolour ((lines.map Command.settingsLine).flatMap (·.toList ++ ['\n'])) =
      lines.flatMap (· ++ ['\n']) := by
  induction lines with
  | nil => rw [List.map_nil, List.flatMap_nil, List.flatMap_nil, uncolour]
  | cons line lines ih =>
    obtain ⟨first, others⟩ := List.forall_mem_cons.mp clean
    rw [List.map_cons, List.flatMap_cons, List.flatMap_cons, List.append_assoc,
      uncolour_settingsLine first, uncolour_text (by simp), ih others, List.append_assoc]

end Terminal

namespace Settings

theorem any_needsCode_plainDocument (s : Settings) : s.plainDocument.toList.any Toml.needsCode = false := by
  have url := Toml.any_needsCode_quotedValue s.serverUrl
  have renderer := Toml.any_needsCode_quotedValue s.renderer
  have keep : (truth s.saveDiagrams).toList.any Toml.needsCode = false := by
    cases s.saveDiagrams <;> rfl
  unfold plainDocument
  simp only [Toml.quoted, delay, Text.ofNat, String.toList_append, String.toList_ofList, List.any_append,
    url, renderer, Toml.any_needsCode_decimal, keep]
  decide

theorem lines_plainDocument (s : Settings) :
    (Text.lines s.plainDocument.toList).flatMap (· ++ ['\n']) = s.plainDocument.toList ++ ['\n'] := by
  have plain := List.any_eq_false.mp s.any_needsCode_plainDocument
  have last : (truth s.saveDiagrams).toList.getLast? = some 'e' := by cases s.saveDiagrams <;> rfl
  have last : s.plainDocument.toList.getLast? = some 'e' := by
    unfold plainDocument
    rw [String.toList_append, List.getLast?_append, last]
    rfl
  refine Text.lines_flatMap ?_ ?_ fun there => plain _ there rfl
  · intro empty
    rw [empty] at last
    cases last
  · rw [last]
    decide

theorem escape_not_mem_lines {s : Settings} :
    ∀ line ∈ Text.lines s.plainDocument.toList, '\x1b' ∉ line := by
  have plain := List.any_eq_false.mp s.any_needsCode_plainDocument
  intro line there inside
  have inside : '\x1b' ∈ s.plainDocument.toList ++ ['\n'] :=
    s.lines_plainDocument ▸ List.mem_flatMap.mpr ⟨line, there, List.mem_append_left _ inside⟩
  obtain inside | inside := List.mem_append.mp inside
  · exact plain _ inside rfl
  · simp at inside

/-- The plain document is read as the settings, below any comments. -/
theorem parse_under {above : String} (s : Settings) (layout : Toml.isLayout false above.toList)
    (comment : above.toList.head? = some '#') :
    parse (above ++ s.plainDocument ++ "\n") = .ok s := by
  obtain ⟨first, more, listed⟩ : ∃ first more, s.entries = first :: more := ⟨_, _, rfl⟩
  have written := s.plainDocument_eq
  rw [listed] at written
  refine @parse_of_lines s ((above, first) :: more.map fun e => ("", e)) _ ?_ ?_ ?_ ?_
  · rw [listed]
    simp [Function.comp_def]
  · rintro line (_ | ⟨_, there⟩)
    · exact layout
    · obtain ⟨e, _, rfl⟩ := List.mem_map.mp there
      rfl
  · rw [String.toList_append, String.toList_append, List.append_assoc]
    change above.toList ++ (s.plainDocument.toList ++ ['\n']) = _
    rw [written]
    simp [List.flatMap_map]
  · rw [String.toList_append, String.toList_append, List.append_assoc, List.head?_append, comment,
      Option.some_or]
    decide

end Settings

namespace Command

/-- What is shown of settings: a heading, the path of the settings file, and their lines. -/
def shownSettings (h : Host) (s : Settings) : String :=
  String.join ((settingsLines h s).map (· ++ "\n"))

theorem showSettings_eq (h : Host) (s : Settings) (d : Desk) :
    showSettings h s d =
      (.ok (), d.write fun t => { t with output := t.output ++ shownSettings h s }) := by
  simp only [showSettings, Transcript.lines_eq, shownSettings]

theorem uncoloured_shownSettings {h : Host} (s : Settings)
    (clean : '\x1b' ∉ (Settings.file h.folder).toList) :
    Terminal.uncoloured (shownSettings h s) =
      "# Effective config\n# " ++ Settings.file h.folder ++ "\n\n" ++ s.plainDocument ++ "\n" := by
  have bold : Terminal.isColour Terminal.bold := by decide
  have gray : Terminal.isColour Terminal.gray := by decide
  have heading : '\x1b' ∉ "# Effective config".toList := by decide
  have path : '\x1b' ∉ ("# " ++ Settings.file h.folder).toList := by
    rw [String.toList_append, List.mem_append, not_or]
    exact ⟨by decide, clean⟩
  have lineEnd : '\x1b' ∉ ['\n'] := by decide
  have blankLine : '\x1b' ∉ "".toList ++ ['\n'] := by decide
  have grayPath : Terminal.gray ++ "# " ++ Settings.file h.folder ++ Terminal.reset =
      Terminal.gray ++ ("# " ++ Settings.file h.folder) ++ Terminal.reset := by
    simp only [String.append_assoc]
  have document := Terminal.uncolour_settingsLines s.escape_not_mem_lines
  rw [Settings.lines_plainDocument] at document
  have shown : (shownSettings h s).toList = (settingsLines h s).flatMap (·.toList ++ ['\n']) := by
    simp [shownSettings, String.toList_join, List.flatMap_map]
  rw [Terminal.uncoloured, shown, settingsLines, grayPath, List.flatMap_cons, List.flatMap_cons,
    List.flatMap_cons, List.append_assoc, Terminal.uncolour_coloured bold heading,
    Terminal.uncolour_text lineEnd, List.append_assoc, Terminal.uncolour_coloured gray path,
    Terminal.uncolour_text lineEnd, Terminal.uncolour_text blankLine, document, ← String.toList_inj]
  simp

theorem isLayout_heading {path : String} (plain : path.toList.all Toml.isPlain) :
    Toml.isLayout false ("# Effective config\n# " ++ path ++ "\n\n").toList := by
  have whole : ("# Effective config\n# " ++ path ++ "\n\n").toList =
      '#' :: (" Effective config".toList ++ '\n' :: '#' :: (' ' :: path.toList ++ '\n' :: ['\n'])) := by
    simp
  have first : " Effective config".toList.all Toml.isPlain := by decide
  have second : (' ' :: path.toList).all Toml.isPlain := by
    rw [List.all_cons, plain]
    rfl
  rw [whole, Toml.isLayout_sign first, Toml.isLayout_sign second]
  rfl

/-- What is shown of settings reads back once the colours are taken away, whatever characters their
texts consist of; the path of the settings file is in a comment and must be on one line. Without colours
it is the heading and the plain document, which no value has changed. -/
theorem shown_settings_read_back (h : Host) (s : Settings) (d : Desk)
    (oneLine : (Settings.file h.folder).toList.all Toml.isPlain) :
    ∃ shown, showSettings h s d =
        (.ok (), d.write fun t => { t with output := t.output ++ shown }) ∧
      Terminal.uncoloured shown =
        "# Effective config\n# " ++ Settings.file h.folder ++ "\n\n" ++ s.plainDocument ++ "\n" ∧
      Settings.parse (Terminal.uncoloured shown) = .ok s := by
  have clean : '\x1b' ∉ (Settings.file h.folder).toList := by
    intro there
    cases List.all_eq_true.mp oneLine _ there
  have text := uncoloured_shownSettings s clean
  refine ⟨shownSettings h s, showSettings_eq h s d, text, ?_⟩
  rw [text]
  exact s.parse_under (isLayout_heading oneLine) (by simp)

/-- Settings with a text over several lines, one of which looks like a setting, and with a text that
holds a colour sequence and a carriage return. -/
def misleading : Settings where
  serverUrl := "http://localhost\nserver_url = \"other\"\n"
  sessionExpiryRedirect := 0
  loginRedirect := 18446744073709551615
  renderer := "dot = \x1b[1m\r\\"
  saveDiagrams := true

/-- The misleading settings, shown at home. -/
theorem shown_misleading_settings_read_back :
    (Settings.file atHome.folder).toList.all Toml.isPlain ∧
      ∃ shown, showSettings atHome misleading (keeping "") =
          (.ok (), (keeping "").write fun t => { t with output := t.output ++ shown }) ∧
        Terminal.uncoloured shown =
          "# Effective config\n# home/.config/mjc/config.toml\n\n" ++
          "server_url = \"\"\"\nhttp://localhost\nserver_url = \"other\"\n\"\"\"\n" ++
          "session_expiry_redirect_ms = 0\nlogin_redirect_ms = 18446744073709551615\n" ++
          "renderer = \"dot = \\u001B[1m\\r\\\\\"\nsave_diagrams = true\n" ∧
        Settings.parse (Terminal.uncoloured shown) = .ok misleading := by
  have oneLine : (Settings.file atHome.folder).toList.all Toml.isPlain := by decide +kernel
  obtain ⟨shown, run, text, read⟩ :=
    shown_settings_read_back atHome misleading (keeping "") oneLine
  refine ⟨oneLine, shown, run, text.trans ?_, read⟩
  decide +kernel

end Command
end CompileDesk
