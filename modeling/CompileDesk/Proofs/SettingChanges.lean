import CompileDesk.Command.Preference
import CompileDesk.Program.Basic
import CompileDesk.Proofs.FilesBeside
import CompileDesk.Proofs.SettingsFile

/-!
# Changes of a setting

A change puts the value of a text in the place of one setting. It is kept in the file if the settings
are valid with it, and the file is then loaded as the changed settings. But the settings are loaded
before they are changed, and loading validates them too: a file with an address or a renderer that is
not valid refuses every change, also the one that would mend it.
-/

namespace CompileDesk

theorem Text.bounded?_eq_some_iff {limit n : Nat} {s : List Char} :
    Text.bounded? limit s = some n ↔
      ∃ digits, (s = digits ∨ s = '+' :: digits) ∧ digits ≠ [] ∧
        (∀ c ∈ digits, Text.isDigit c = true) ∧ Text.natural digits = n ∧ n ≤ limit := by
  have plain {digits : List Char} : (if digits.isEmpty || !digits.all isDigit then none
      else if natural digits ≤ limit then some (natural digits) else none) = some n ↔
        digits ≠ [] ∧ (∀ c ∈ digits, isDigit c = true) ∧ natural digits = n ∧ n ≤ limit := by
    grind
  unfold bounded?
  split
  · rename_i rest
    rw [plain]
    constructor
    · exact fun h => ⟨rest, .inr rfl, h⟩
    · rintro ⟨digits, rfl | same, nonempty, all, value⟩
      -- a plus sign is no digit, so it can only stand in front of them
      · exact absurd (all '+' List.mem_cons_self) (by decide)
      · obtain rfl : rest = digits := (List.cons.inj same).2
        exact ⟨nonempty, all, value⟩
  · rename_i noPlus
    rw [plain]
    constructor
    · exact fun h => ⟨s, .inl rfl, h⟩
    · rintro ⟨digits, rfl | same, h⟩
      · exact h
      · exact absurd same (noPlus digits)

theorem Setting.ofName?_eq_some_iff {name : String} {setting : Setting} :
    Setting.ofName? name = some setting ↔ setting.name = name := by
  constructor
  · intro found
    simpa using List.find?_some found
  · rintro rfl
    cases setting <;> rfl

namespace Settings

variable {s s' : Settings} {setting : Setting} {name value folder : String} {t : FileTree}

/-- The text gives a number of milliseconds, in digits with at most a plus sign in front. -/
def IsMilliseconds (value : String) (n : UInt64) : Prop :=
  ∃ digits, (value.toList = digits ∨ value.toList = '+' :: digits) ∧ digits ≠ [] ∧
    (∀ c ∈ digits, Text.isDigit c = true) ∧ Text.natural digits = n.toNat

/-- The settings with the value of a text in the place of one of them. -/
inductive Stored (s : Settings) : Setting → String → Settings → Prop
  | serverUrl (url : String) : Stored s .serverUrl url { s with serverUrl := url }
  | sessionExpiryRedirect {value : String} {n : UInt64} (wait : IsMilliseconds value n) :
    Stored s .sessionExpiryRedirect value { s with sessionExpiryRedirect := n }
  | loginRedirect {value : String} {n : UInt64} (wait : IsMilliseconds value n) :
    Stored s .loginRedirect value { s with loginRedirect := n }
  | renderer (executable : String) : Stored s .renderer executable { s with renderer := executable }
  | saveDiagrams (b : Bool) : Stored s .saveDiagrams (truth b) { s with saveDiagrams := b }

/-- The settings with the value of a text in the place of the one with a name. -/
def Changed (s : Settings) (name value : String) (s' : Settings) : Prop :=
  ∃ setting, setting.name = name ∧ Stored s setting value s'

theorem milliseconds?_eq_some_iff {n : UInt64} :
    milliseconds? value = some n ↔ IsMilliseconds value n := by
  have size (m : Nat) : m ≤ Text.maxWord ↔ m < UInt64.size := Nat.lt_succ_iff.symm
  simp only [milliseconds?, Option.map_eq_some_iff, Text.bounded?_eq_some_iff, size]
  constructor
  · rintro ⟨m, ⟨digits, shape, nonempty, all, rfl, small⟩, rfl⟩
    exact ⟨digits, shape, nonempty, all, (UInt64.toNat_ofNat_of_lt small).symm⟩
  · rintro ⟨digits, shape, nonempty, all, same⟩
    exact ⟨n.toNat, ⟨digits, shape, nonempty, all, same, n.toNat_lt⟩, UInt64.ofNat_toNat⟩

theorem store_eq_ok_iff : s.store setting value = .ok s' ↔ Stored s setting value s' := by
  constructor
  · intro stored
    cases setting with
    | serverUrl =>
      cases stored
      exact .serverUrl value
    | sessionExpiryRedirect =>
      cases wait : milliseconds? value with
      | none => simp [store, wait] at stored
      | some n =>
        rw [store, wait] at stored
        cases stored
        exact .sessionExpiryRedirect (milliseconds?_eq_some_iff.mp wait)
    | loginRedirect =>
      cases wait : milliseconds? value with
      | none => simp [store, wait] at stored
      | some n =>
        rw [store, wait] at stored
        cases stored
        exact .loginRedirect (milliseconds?_eq_some_iff.mp wait)
    | renderer =>
      cases stored
      exact .renderer value
    | saveDiagrams =>
      unfold store at stored
      dsimp only at stored
      split at stored
      · rename_i yes
        cases stored
        exact yes ▸ .saveDiagrams true
      · split at stored
        · rename_i no
          cases stored
          exact no ▸ .saveDiagrams false
        · cases stored
  · intro stored
    cases stored with
    | serverUrl => rfl
    | sessionExpiryRedirect wait => rw [store, milliseconds?_eq_some_iff.mpr wait]
    | loginRedirect wait => rw [store, milliseconds?_eq_some_iff.mpr wait]
    | renderer => rfl
    | saveDiagrams b => cases b <;> rfl

theorem Changed.unique {s₁ s₂ : Settings} (first : s.Changed name value s₁)
    (second : s.Changed name value s₂) : s₁ = s₂ := by
  obtain ⟨setting, rfl, first⟩ := first
  obtain ⟨other, same, second⟩ := second
  rw [← Setting.ofName?_eq_some_iff, Setting.ofName?_eq_some_iff.mpr rfl] at same
  obtain rfl : setting = other := Option.some.inj same
  rw [← store_eq_ok_iff] at first second
  rw [first] at second
  exact Except.ok.inj second

/-- A change is accepted if it stores a value of the right form and leaves valid settings. -/
theorem change_eq_none_iff :
    s.change name value = (s', none) ↔ s.Changed name value s' ∧ s'.fault? = none := by
  constructor
  · intro changed
    unfold change at changed
    split at changed
    · cases changed
    · rename_i setting found
      split at changed
      · cases changed
      · rename_i stored kept
        obtain ⟨rfl, valid⟩ := Prod.mk.inj changed
        exact ⟨⟨setting, Setting.ofName?_eq_some_iff.mp found, store_eq_ok_iff.mp kept⟩, valid⟩
  · rintro ⟨⟨setting, named, stored⟩, valid⟩
    rw [change, Setting.ofName?_eq_some_iff.mpr named]
    simp only [store_eq_ok_iff.mpr stored, valid]

/-- The settings file is read as some settings, valid or not. -/
def Holds (folder : String) (t : FileTree) (s : Settings) : Prop :=
  ∃ content executable text, t.at? (file folder) = some (.file content executable) ∧
    Text.strict? content = some text ∧ parse text = .ok s

theorem Holds.load (held : Holds folder t s) : Settings.load folder t =
    (match s.fault? with
      | none => .ok s
      | some fault => .error (.config
        ("Invalid config file at " ++ shownPath (file folder) ++ ": " ++ fault.message)), t) := by
  obtain ⟨content, executable, text, there, decoded, parsed⟩ := held
  obtain ⟨found, read⟩ := FileTree.readText_of_at? there decoded
  rw [Settings.load, if_pos found, read]
  dsimp only
  rw [ofText, parsed]
  dsimp only
  cases s.fault? <;> rfl

/-- After the settings were loaded their file is there. -/
theorem exists_find_of_load {t' : FileTree} (loaded : Settings.load folder t = (.ok s, t')) :
    ∃ place entry, entry ≠ .folder ∧ t'.find (file folder) = .ok (place, entry) := by
  unfold Settings.load at loaded
  split at loaded
  · cases read : t.readText (file folder) with
    | error e =>
      rw [read] at loaded
      cases loaded
    | ok text =>
      rw [read] at loaded
      obtain ⟨-, rfl⟩ := Prod.mk.inj loaded
      cases found : t.find (file folder) with
      | error e =>
        rw [FileTree.readText, FileTree.readBytes, found] at read
        cases read
      | ok there =>
        obtain ⟨place, entry⟩ := there
        refine ⟨place, entry, ?_, rfl⟩
        rintro rfl
        rw [FileTree.readText, FileTree.readBytes, found] at read
        cases read
  · dsimp only at loaded
    cases made : t.makeFolders folder with
    | error e =>
      rw [made] at loaded
      cases loaded
    | ok t₁ =>
      rw [made] at loaded
      dsimp only at loaded
      cases written : t₁.writeText (file folder) ({} : Settings).document with
      | error e =>
        rw [written] at loaded
        cases loaded
      | ok t₂ =>
        rw [written] at loaded
        cases loaded
        exact FileTree.exists_find_of_writeText written

/-- Where something other than a folder is found in place of the settings file, settings can be saved; they
are written there unless it is a device. -/
theorem exists_save_of_find {place : Place} {entry : Entry} (noFolder : entry ≠ .folder)
    (found : t.find (file folder) = .ok (place, entry)) (s : Settings) :
    ∃ t', Settings.save folder s t = .ok t' ∧ (entry ≠ .device → ∃ executable,
      t'.find (file folder) = .ok (place, .file (Text.bytesOf s.document) executable)) := by
  obtain ⟨inside, name, reached, -⟩ := (FileTree.find_eq_ok_iff noFolder).mp found
  have isName : Path.IsName "config.toml" := ⟨by decide, by decide⟩
  -- the path of the file was followed, so the folder in front of its name is there already
  have made : t.makeFolders folder = .ok t := FileTree.makeFolders_of_goal isName reached
  rw [Settings.save, made]
  exact FileTree.exists_writeText_of_find noFolder found s.document

/-- Where a settings file is, settings can be saved. -/
theorem Holds.save (held : Holds folder t s) (s' : Settings) :
    ∃ t', Settings.save folder s' t = .ok t' ∧ Holds folder t' s' := by
  obtain ⟨content, executable, text, there, _⟩ := held
  obtain ⟨place, found⟩ := FileTree.find_of_at? there
  have noFolder : Entry.file content executable ≠ .folder := nofun
  obtain ⟨t', saved, kept⟩ := exists_save_of_find noFolder found s'
  obtain ⟨executable, found⟩ := kept nofun
  refine ⟨t', saved, Text.bytesOf s'.document, executable, s'.document, ?_, Text.strict?_bytesOf _,
    parse_document s'⟩
  simp [FileTree.at?, found, Except.toOption]

end Settings

namespace Command

open Settings

variable {h : Host} {d : Desk} {s s' : Settings} {name value : String} {fault : SettingsFault}

/-- Settings that are not valid are not changed. -/
theorem changeSetting_of_fault (held : Holds h.folder d.files s) (invalid : s.fault? = some fault)
    (name value : String) : changeSetting h name value d =
      (.error (.config ("Invalid config file at " ++ shownPath (file h.folder) ++ ": " ++
        fault.message)), d) := by
  unfold changeSetting
  rw [held.load, invalid]

/-- A refused change leaves everything as loading the settings left it. -/
theorem changeSetting_of_loaded_refused {files : FileTree}
    (loaded : load h.folder d.files = (.ok s, files)) (refused : s.change name value = (s', some fault)) :
    changeSetting h name value d = (.error (.config fault.message), { d with files }) := by
  unfold changeSetting
  rw [loaded]
  dsimp only
  rw [refused]

theorem changeSetting_of_loaded_accepted {files files' : FileTree}
    (loaded : load h.folder d.files = (.ok s, files)) (accepted : s.change name value = (s', none))
    (saved : save h.folder s' files = .ok files') : changeSetting h name value d =
      (.ok (), { d with files := files' }.write (·.success ("Set " ++ name ++ " = " ++ value))) := by
  unfold changeSetting
  rw [loaded]
  dsimp only
  rw [accepted]
  dsimp only
  rw [saved]

theorem changeSetting_of_refused (held : Holds h.folder d.files s) (valid : s.fault? = none)
    (refused : s.change name value = (s', some fault)) :
    changeSetting h name value d = (.error (.config fault.message), d) := by
  have loaded : load h.folder d.files = (.ok s, d.files) := by rw [held.load, valid]
  exact changeSetting_of_loaded_refused loaded refused

/-- An accepted change is in the file afterwards. -/
theorem changeSetting_of_accepted (held : Holds h.folder d.files s) (valid : s.fault? = none)
    (accepted : s.change name value = (s', none)) :
    (changeSetting h name value d).1 = .ok () ∧
      Holds h.folder (changeSetting h name value d).2.files s' := by
  have loaded : load h.folder d.files = (.ok s, d.files) := by rw [held.load, valid]
  obtain ⟨files, saved, after⟩ := held.save s'
  rw [changeSetting_of_loaded_accepted loaded accepted saved]
  exact ⟨rfl, after⟩

/-- A change of a setting succeeds exactly if the settings in the file are valid before and, with the value in
place of the setting, also afterwards; then the file is loaded as the changed settings. -/
theorem changeSetting_ok_iff (held : Holds h.folder d.files s) (name value : String) :
    ((changeSetting h name value d).1 = .ok () ↔
      s.fault? = none ∧ ∃ s', s.Changed name value s' ∧ s'.fault? = none) ∧
    ((changeSetting h name value d).1 = .ok () → ∀ s', s.Changed name value s' →
      load h.folder (changeSetting h name value d).2.files =
        (.ok s', (changeSetting h name value d).2.files)) := by
  cases before : s.fault? with
  | some fault =>
    rw [changeSetting_of_fault held before]
    refine ⟨iff_of_false nofun ?_, nofun⟩
    rintro ⟨valid, _⟩
    cases valid
  | none =>
    cases change : s.change name value with
    | mk stored refusal =>
      cases refusal with
      | some fault =>
        have noChange (s' : Settings) : ¬ (s.Changed name value s' ∧ s'.fault? = none) := by
          rw [← change_eq_none_iff, change]
          simp
        rw [changeSetting_of_refused held before change]
        simpa using noChange
      | none =>
        obtain ⟨done, after⟩ := changeSetting_of_accepted held before change
        obtain ⟨changed, valid⟩ := change_eq_none_iff.mp change
        refine ⟨iff_of_true done ⟨rfl, stored, changed, valid⟩, ?_⟩
        intro _ s' same
        obtain rfl : s' = stored := same.unique changed
        rw [after.load, valid]

def atHome : Host :=
  { home := "home", now := ⟨2000, 1, 2, 3, 4, 5, 678⟩, clock := id, programs := Program.run }

/-- A desk with a text in the settings file of that host. -/
def keeping (text : String) : Desk where
  files := ⟨[(["home"], .folder), (["home", ".config"], .folder), (["home", ".config", "mjc"], .folder),
    (["home", ".config", "mjc", "config.toml"], .file (Text.bytesOf text) false)]⟩
  wire := .scripted []

theorem holds_keeping {text : String} (parsed : (parse text).toOption = some s) :
    Holds atHome.folder (keeping text).files s := by
  have there : (keeping text).files.at? (file atHome.folder) =
      some (.file (Text.bytesOf text) false) := rfl
  refine ⟨_, _, text, there, Text.strict?_bytesOf text, ?_⟩
  cases read : parse text with
  | error fault => simp [read, Except.toOption] at parsed
  | ok found =>
    rw [read] at parsed
    exact congrArg Except.ok (Option.some.inj parsed)

/-- One of the settings, with a comment above it and an unknown key below. -/
def partialFile : String := "# of the lab\nsave_diagrams = false\nextra = [true]\n"

/-- A delay is set where the file has another setting only. -/
theorem delay_set_in_partial_file :
    Holds atHome.folder (keeping partialFile).files { saveDiagrams := false } ∧
      (changeSetting atHome "session_expiry_redirect_ms" "+0250" (keeping partialFile)).1 = .ok () ∧
      let files :=
        (changeSetting atHome "session_expiry_redirect_ms" "+0250" (keeping partialFile)).2.files
      load atHome.folder files = (.ok { sessionExpiryRedirect := 250, saveDiagrams := false }, files) := by
  have parsed : (parse partialFile).toOption = some { saveDiagrams := false } := by decide +kernel
  have held := holds_keeping parsed
  have wait : IsMilliseconds "+0250" 250 :=
    ⟨['0', '2', '5', '0'], .inr (by decide), by decide, List.all_eq_true.mp rfl, rfl⟩
  have changed : ({ saveDiagrams := false } : Settings).Changed "session_expiry_redirect_ms" "+0250"
      { sessionExpiryRedirect := 250, saveDiagrams := false } :=
    ⟨.sessionExpiryRedirect, rfl, .sessionExpiryRedirect wait⟩
  obtain ⟨succeeds, loads⟩ := changeSetting_ok_iff held "session_expiry_redirect_ms" "+0250"
  have done := succeeds.mpr ⟨by decide +kernel, _, changed, by decide +kernel⟩
  exact ⟨held, done, loads done _ changed⟩

/-- An address without a scheme. -/
def schemeless : Settings := { serverUrl := "127.0.0.1:4567" }

/-- The change that would mend the address is refused on account of the address. -/
theorem mending_refused :
    let d := keeping "server_url = \"127.0.0.1:4567\"\n"
    Holds atHome.folder d.files schemeless ∧
      (∃ s', schemeless.Changed "server_url" "http://127.0.0.1:4567" s' ∧ s'.fault? = none) ∧
      changeSetting atHome "server_url" "http://127.0.0.1:4567" d =
        (.error (.config ("Invalid config file at " ++ shownPath (file atHome.folder) ++ ": " ++
          (SettingsFault.invalidUrl "127.0.0.1:4567").message)), d) := by
  intro d
  have parsed : (parse "server_url = \"127.0.0.1:4567\"\n").toOption = some schemeless := by
    decide +kernel
  have held : Holds atHome.folder d.files schemeless := holds_keeping parsed
  have invalid : schemeless.fault? = some (.invalidUrl "127.0.0.1:4567") := by decide +kernel
  have mended : ({ schemeless with serverUrl := "http://127.0.0.1:4567" } : Settings).fault? = none := by
    decide +kernel
  exact ⟨held, ⟨_, ⟨.serverUrl, rfl, .serverUrl _⟩, mended⟩, changeSetting_of_fault held invalid _ _⟩

end Command
end CompileDesk
