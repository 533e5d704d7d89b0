import CompileDesk.Proofs.FileWrites
import CompileDesk.Proofs.Toml.Documents
import CompileDesk.Settings.Storage

/-! # The settings file holds the settings

The document of some settings has a line for each of them, with comments and blank lines in between.
Whatever the texts hold, reading the document gives the settings back.
-/

namespace CompileDesk.Settings

open Toml

def lines (s : Settings) : List (String × String × Toml) := [
  ("# mjc configuration\n\n" ++ "# Base URL of the compiler service\n",
    "server_url", .string s.serverUrl),
  ("\n" ++ "# Milliseconds to wait before returning to the login screen\n" ++
      "# after the server reports an expired session (HTTP 401)\n",
    "session_expiry_redirect_ms", .integer s.sessionExpiryRedirect.toNat),
  ("\n" ++ "# Milliseconds to wait before opening the workspace after a successful login\n",
    "login_redirect_ms", .integer s.loginRedirect.toNat),
  ("\n" ++ "# Graphviz executable used to render diagrams to SVG\n", "renderer", .string s.renderer),
  ("\n" ++ "# Keep rendered SVG files under ~/.config/mjc/diagrams/\n",
    "save_diagrams", .boolean s.saveDiagrams)]

def entries (s : Settings) : Table := s.lines.map Prod.snd

/-- The line of each setting, spelled out. -/
theorem entryLine_entries (s : Settings) :
    s.entries.map (fun e => entryLine e.1 e.2) = [
      "server_url = " ++ quoted s.serverUrl ++ "\n",
      "session_expiry_redirect_ms = " ++ delay s.sessionExpiryRedirect ++ "\n",
      "login_redirect_ms = " ++ delay s.loginRedirect ++ "\n",
      "renderer = " ++ quoted s.renderer ++ "\n",
      "save_diagrams = " ++ truth s.saveDiagrams ++ "\n"].map String.toList := by
  have url : quotedKey "server_url" ++ [' ', '=', ' '] = "server_url = ".toList := by decide
  have expiry : quotedKey "session_expiry_redirect_ms" ++ [' ', '=', ' '] =
      "session_expiry_redirect_ms = ".toList := by
    decide
  have login : quotedKey "login_redirect_ms" ++ [' ', '=', ' '] = "login_redirect_ms = ".toList := by
    decide
  have renderer : quotedKey "renderer" ++ [' ', '=', ' '] = "renderer = ".toList := by decide
  have diagrams : quotedKey "save_diagrams" ++ [' ', '=', ' '] = "save_diagrams = ".toList := by decide
  have wait (n : UInt64) : Toml.inline (.integer n.toNat) = (delay n).toList := rfl
  have keep (b : Bool) : Toml.inline (.boolean b) = (truth b).toList := by cases b <;> rfl
  have text (s : String) : Toml.inline (.string s) = (quoted s).toList := by
    rw [Toml.inline, quoted, String.toList_ofList]
  have last : "\n".toList = ['\n'] := rfl
  simp only [entries, lines, List.map_cons, List.map_nil, entryLine, url, expiry, login, renderer,
    diagrams, wait, keep, text, String.toList_append, last]

theorem document_eq (s : Settings) :
    s.document.toList = s.lines.flatMap fun (above, key, v) => above.toList ++ entryLine key v := by
  have spelled := s.entryLine_entries
  simp only [entries, lines, List.map_cons, List.map_nil, List.cons.injEq, and_true] at spelled
  obtain ⟨url, expiry, login, renderer, diagrams⟩ := spelled
  have ends : "\n\n".toList = "\n".toList ++ "\n".toList := rfl
  unfold document
  simp only [lines, List.flatMap_cons, List.flatMap_nil, url, expiry, login, renderer, diagrams,
    String.toList_append, ends]
  simp only [List.append_assoc, List.append_nil]

/-- The plain document, with its last line ended, is nothing but the lines of the settings. -/
theorem plainDocument_eq (s : Settings) :
    s.plainDocument.toList ++ ['\n'] = s.entries.flatMap fun e => entryLine e.1 e.2 := by
  have last : "\n".toList = ['\n'] := rfl
  rw [List.flatMap_def, entryLine_entries]
  unfold plainDocument
  simp only [List.map_cons, List.map_nil, List.flatten_cons, List.flatten_nil, String.toList_append, last]
  simp only [List.append_assoc, List.append_nil]

theorem mem_entries {s : Settings} {e : String × Toml} (there : e ∈ s.entries) :
    isDiscrete e.2 ∧ nesting e.2 ≤ depthLimit := by
  simp only [entries, lines, List.map_cons, List.map_nil, List.mem_cons, List.not_mem_nil,
    or_false] at there
  rcases there with rfl | rfl | rfl | rfl | rfl <;> exact ⟨rfl, Nat.zero_le _⟩

/-- The statements of a text with a line for each setting, below blank lines and comments. -/
theorem statements?_of_lines {s : Settings} {lines : List (String × String × Toml)} {text : String}
    (same : lines.map Prod.snd = s.entries)
    (layout : ∀ line ∈ lines, isLayout false line.1.toList)
    (written : text.toList =
      lines.flatMap fun (above, key, v) => above.toList ++ entryLine key v)
    (noMark : text.toList.head? ≠ some '\uFEFF') :
    statements? text = some (s.entries.map fun e => .binding (keyOf [] e.1) (formOf e.2)) := by
  have reads : ∀ line ∈ lines, Reads (line.1.toList ++ entryLine line.2.1 line.2.2)
      (some [.binding (keyOf [] line.2.1) (formOf line.2.2)]) := by
    intro line there
    obtain ⟨discrete, shallow⟩ := mem_entries (same ▸ List.mem_map_of_mem there)
    have both := (Reads.of_layout (layout line there)).append (.entryLine line.2.1 discrete)
    simpa [bindingOf, shallow] using both
  have all := Reads.flatten reads
  have bindings : (lines.map fun line => some [Statement.binding (keyOf [] line.2.1) (formOf line.2.2)]) =
      (lines.map fun line => [.binding (keyOf [] line.2.1) (formOf line.2.2)]).map some := by
    rw [List.map_map]
    rfl
  rw [← written, bindings, inTurn_some, ← List.flatMap_def, ← List.map_eq_flatMap] at all
  rw [all.statements? noMark, ← same, List.map_map]
  rfl

/-- The table that such a text stands for. -/
theorem parse_entries {s : Settings} {text : String} (read : statements? text =
      some (s.entries.map fun e => .binding (keyOf [] e.1) (formOf e.2))) :
    Toml.parse text = .ok (finishEntries (valueNodes s.entries) []) := by
  have distinct : s.entries.Pairwise (·.1 ≠ ·.1) := by
    simp [entries, lines]
  obtain ⟨opened, made⟩ := makes_bindings (leads_root []) rfl (fun _ _ => List.not_mem_nil) distinct rfl
    ⟨trivial, trivial, trivial, trivial, trivial, trivial⟩
  rw [Toml.parse, read]
  change (List.foldlM Draft.add ⟨[], []⟩ _).map _ = _
  rw [made]
  rfl

theorem fitsWide_delay (n : UInt64) : fitsWide n.toNat = true := by
  have small := n.toNat_lt
  simp only [fitsWide, Bool.and_eq_true, decide_eq_true_eq]
  omega

theorem delayOr_of_lookup {t : Table} {key : String} {n : UInt64}
    (found : t.lookup key = some (.integer n.toNat)) (default : UInt64) :
    delayOr t key default = some n := by
  have small : n.toNat ≤ Text.maxWord := Nat.le_of_lt_succ n.toNat_lt
  simp [delayOr, found, small]

/-- Settings are made of a table by what is under their five keys. -/
theorem ofTable?_of_lookups {t : Table} {s : Settings}
    (found : ∀ key, t.lookup key = s.entries.lookup key) (fits : allIntegersOf fitsWide t) :
    ofTable? t = some s := by
  have url : t.lookup "server_url" = some (.string s.serverUrl) := by
    simp [found, entries, lines]
  have expiry : t.lookup "session_expiry_redirect_ms" =
      some (.integer s.sessionExpiryRedirect.toNat) := by
    simp [found, entries, lines, List.lookup_cons]
  have login : t.lookup "login_redirect_ms" = some (.integer s.loginRedirect.toNat) := by
    simp [found, entries, lines, List.lookup_cons]
  have renderer : t.lookup "renderer" = some (.string s.renderer) := by
    simp [found, entries, lines, List.lookup_cons]
  have diagrams : t.lookup "save_diagrams" = some (.boolean s.saveDiagrams) := by
    simp [found, entries, lines, List.lookup_cons]
  simp [ofTable?, fits, textOr, truthOr, url, renderer, diagrams, delayOr_of_lookup expiry,
    delayOr_of_lookup login]

/-- A text with a line for each setting is read as the settings, whatever their texts and delays are. -/
theorem parse_of_lines {s : Settings} {lines : List (String × String × Toml)} {text : String}
    (same : lines.map Prod.snd = s.entries)
    (layout : ∀ line ∈ lines, isLayout false line.1.toList)
    (written : text.toList =
      lines.flatMap fun (above, key, v) => above.toList ++ entryLine key v)
    (noMark : text.toList.head? ≠ some '\uFEFF') : parse text = .ok s := by
  have distinct : (finished (valueNodes s.entries)).Pairwise (·.1 ≠ ·.1) := by
    rw [finished_valueNodes]
    simp [entries, Settings.lines]
  have found (key : String) : (finishEntries (valueNodes s.entries) []).lookup key =
      s.entries.lookup key := by
    rw [lookup_finishEntries distinct, finished_valueNodes]
    simp
  have fits : allIntegersOf fitsWide (finishEntries (valueNodes s.entries) []) := by
    refine allIntegersOf_iff.mpr fun e there => ?_
    obtain there | there := mem_finishEntries there
    · rw [finished_valueNodes] at there
      simp only [entries, Settings.lines, List.map_cons, List.map_nil, List.mem_cons, List.not_mem_nil,
        or_false] at there
      rcases there with rfl | rfl | rfl | rfl | rfl <;> simp [allIntegers, fitsWide_delay]
    · cases there
  have read := statements?_of_lines same layout written noMark
  rw [parse, parse_entries read, Except.bind, ofTable?_of_lookups found fits, wellFormed]

theorem layout_lines (s : Settings) : ∀ line ∈ s.lines, isLayout false line.1.toList := by
  intro line there
  simp only [lines, List.mem_cons, List.not_mem_nil, or_false] at there
  rcases there with rfl | rfl | rfl | rfl | rfl <;> dsimp only <;> decide +kernel

theorem parse_document (s : Settings) : parse s.document = .ok s := by
  refine parse_of_lines rfl s.layout_lines s.document_eq ?_
  have first : "# mjc configuration\n\n".toList = '#' :: " mjc configuration\n\n".toList := by decide
  unfold document
  simp only [String.toList_append, first, List.cons_append, List.head?_cons]
  decide

theorem ofText_document {s : Settings} (valid : s.fault? = none) (folder : String) :
    ofText folder s.document = .ok s := by
  simp [ofText, parse_document, valid]

/-- Settings that were saved are loaded again. -/
theorem load_of_save_eq {folder : String} {s : Settings} {t t' : FileTree}
    (valid : s.fault? = none) (saved : save folder s t = .ok t')
    (noDevice : t'.at? (file folder) ≠ some .device) : load folder t' = (.ok s, t') := by
  unfold save at saved
  cases made : t.makeFolders folder with
  | error e =>
    rw [made] at saved
    cases saved
  | ok ready =>
    rw [made] at saved
    obtain ⟨there, read⟩ := FileTree.readText_of_writeText saved noDevice
    simp [load, there, read, ofText_document valid]

/-- The document of settings holds them all, whatever characters their texts consist of and however
long their delays are; so valid settings that were written are loaded as they were. -/
theorem settings_survive_saving (s : Settings) :
    parse s.document = .ok s ∧
    ∀ {folder : String} {t t' : FileTree}, s.fault? = none → save folder s t = .ok t' →
      t'.at? (file folder) ≠ some .device → load folder t' = (.ok s, t') :=
  ⟨parse_document s, load_of_save_eq⟩

/-- Settings with quotes, backslashes, line ends and control characters in their texts, and with the
longest delay. -/
def contrived : Settings where
  serverUrl := "http://\"\"\"\n\t'''\\u0041"
  sessionExpiryRedirect := 18446744073709551615
  loginRedirect := 0
  renderer := "\n\u0001\r'\\\""
  saveDiagrams := false

/-- The contrived settings, saved where there is nothing yet. -/
theorem contrived_settings_survive_saving :
    contrived.fault? = none ∧ parse contrived.document = .ok contrived ∧
    ∃ t', save "mjc" contrived {} = .ok t' ∧ t'.at? (file "mjc") ≠ some .device ∧
      load "mjc" t' = (.ok contrived, t') := by
  have valid : contrived.fault? = none := by decide +kernel
  let saved : FileTree :=
    ⟨[(["mjc"], .folder), (["mjc", "config.toml"], .file (Text.bytesOf contrived.document) false)]⟩
  have written : save "mjc" contrived {} = .ok saved := rfl
  have aFile : saved.at? (file "mjc") = some (.file (Text.bytesOf contrived.document) false) := rfl
  have noDevice : saved.at? (file "mjc") ≠ some .device := by
    rw [aFile]
    nofun
  obtain ⟨read, kept⟩ := settings_survive_saving contrived
  exact ⟨valid, read, saved, written, noDevice, kept valid written noDevice⟩

end CompileDesk.Settings
