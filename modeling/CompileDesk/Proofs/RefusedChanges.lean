import CompileDesk.Proofs.SettingChanges

/-!
# Refused changes

A change of a setting can be refused at three points: no setting has the name, the text gives no value for
the setting, or the settings with the value in place are not valid. At the first two the settings are as
before. The third comes too late for that: the value has been stored by then and stays. Only the settings
in memory suffer from it, since what was refused is never saved: the settings file is then as loading left
it, while a change that is accepted is what the next loading gives.
-/

namespace CompileDesk

namespace Settings

variable {s s' : Settings} {setting : Setting} {name value folder : String} {fault : SettingsFault}

/-! ## In memory -/

/-- A text without a value for a setting, and what is said of it. -/
inductive Unfit (value : String) : Setting → SettingsFault → Prop
  | sessionExpiryRedirect (noWait : ∀ n, ¬ IsMilliseconds value n) :
    Unfit value .sessionExpiryRedirect (.notMilliseconds .sessionExpiryRedirect value)
  | loginRedirect (noWait : ∀ n, ¬ IsMilliseconds value n) :
    Unfit value .loginRedirect (.notMilliseconds .loginRedirect value)
  | saveDiagrams (noTruth : ∀ b, value ≠ truth b) : Unfit value .saveDiagrams (.notBoolean value)

/-- The points at which a change is refused, each with the settings afterwards and what is said. -/
inductive Refused (s : Settings) (name value : String) : Settings → SettingsFault → Prop
  | unknown (unnamed : ∀ setting : Setting, setting.name ≠ name) :
    Refused s name value s (.unknownSetting name)
  | unfit {setting : Setting} {fault : SettingsFault} (named : setting.name = name)
    (unfit : Unfit value setting fault) : Refused s name value s fault
  | invalid {stored : Settings} {fault : SettingsFault} (changed : s.Changed name value stored)
    (wrong : stored.fault? = some fault) : Refused s name value stored fault

theorem milliseconds?_eq_none_iff : milliseconds? value = none ↔ ∀ n, ¬ IsMilliseconds value n := by
  simp only [← milliseconds?_eq_some_iff]
  exact Option.eq_none_iff_forall_ne_some

theorem store_eq_error_iff : s.store setting value = .error fault ↔ Unfit value setting fault := by
  constructor
  · intro refused
    cases setting with
    | serverUrl | renderer => cases refused
    | sessionExpiryRedirect =>
      cases wait : milliseconds? value with
      | none =>
        rw [store, wait] at refused
        cases refused
        exact .sessionExpiryRedirect (milliseconds?_eq_none_iff.mp wait)
      | some n => simp [store, wait] at refused
    | loginRedirect =>
      cases wait : milliseconds? value with
      | none =>
        rw [store, wait] at refused
        cases refused
        exact .loginRedirect (milliseconds?_eq_none_iff.mp wait)
      | some n => simp [store, wait] at refused
    | saveDiagrams =>
      unfold store at refused
      dsimp only at refused
      split at refused
      · cases refused
      · rename_i notTrue
        split at refused
        · cases refused
        · rename_i notFalse
          cases refused
          refine .saveDiagrams fun b => ?_
          cases b
          · exact notFalse
          · exact notTrue
  · intro unfit
    cases unfit with
    | sessionExpiryRedirect noWait => rw [store, milliseconds?_eq_none_iff.mpr noWait]
    | loginRedirect noWait => rw [store, milliseconds?_eq_none_iff.mpr noWait]
    | saveDiagrams noTruth =>
      have notTrue : value ≠ "true" := noTruth true
      have notFalse : value ≠ "false" := noTruth false
      simp only [store, if_neg notTrue, if_neg notFalse]

/-- A value of the right form is stored, whatever is then wrong with the settings. -/
theorem change_of_changed (changed : s.Changed name value s') : s.change name value = (s', s'.fault?) := by
  obtain ⟨setting, named, stored⟩ := changed
  rw [change, Setting.ofName?_eq_some_iff.mpr named]
  simp only [store_eq_ok_iff.mpr stored]

theorem change_eq_some_iff :
    s.change name value = (s', some fault) ↔ s.Refused name value s' fault := by
  constructor
  · intro refused
    cases found : Setting.ofName? name with
    | none =>
      have unnamed (setting : Setting) : setting.name ≠ name := by
        rw [Ne, ← Setting.ofName?_eq_some_iff, found]
        nofun
      rw [change, found] at refused
      cases refused
      exact .unknown unnamed
    | some setting =>
      have named := Setting.ofName?_eq_some_iff.mp found
      cases kept : s.store setting value with
      | error e =>
        simp only [change, found, kept] at refused
        cases refused
        exact .unfit named (store_eq_error_iff.mp kept)
      | ok stored =>
        have changed : s.Changed name value stored := ⟨setting, named, store_eq_ok_iff.mp kept⟩
        obtain ⟨rfl, wrong⟩ := Prod.mk.inj ((change_of_changed changed).symm.trans refused)
        exact .invalid changed wrong
  · intro refused
    cases refused with
    | unknown unnamed =>
      have missing : Setting.ofName? name = none := by
        rw [Option.eq_none_iff_forall_ne_some]
        exact fun setting found => unnamed setting (Setting.ofName?_eq_some_iff.mp found)
      rw [change, missing]
    | unfit named unfit =>
      simp only [change, Setting.ofName?_eq_some_iff.mpr named, store_eq_error_iff.mpr unfit]
    | invalid changed wrong => rw [change_of_changed changed, wrong]

/-- A refused change leaves the settings alone if no value can be stored, or just the one that is there. -/
theorem Refused.eq_iff (refused : s.Refused name value s' fault) :
    s' = s ↔ ∀ stored, s.Changed name value stored → stored = s := by
  cases refused with
  | unknown unnamed =>
    refine iff_of_true rfl ?_
    rintro stored ⟨setting, named, -⟩
    exact absurd named (unnamed setting)
  | unfit named unfit =>
    refine iff_of_true rfl ?_
    rintro stored ⟨other, same, changed⟩
    rw [← Setting.ofName?_eq_some_iff, Setting.ofName?_eq_some_iff.mpr named] at same
    cases same
    rw [← store_eq_ok_iff, store_eq_error_iff.mpr unfit] at changed
    cases changed
  | invalid changed wrong =>
    constructor
    · rintro rfl stored again
      exact again.unique changed
    · intro all
      exact all s' changed

/-- A change is accepted exactly if the text gives a value for the setting with the name and the settings with
that value in its place, all others as before, are valid; these are the settings afterwards. It is refused at
one of three points, and the settings are then as before exactly if no other settings could be stored. -/
theorem change_accepted_or_refused (s : Settings) (name value : String) :
    (∀ s', s.change name value = (s', none) ↔ s.Changed name value s' ∧ s'.fault? = none) ∧
    (∀ s' fault, s.change name value = (s', some fault) ↔ s.Refused name value s' fault) ∧
    ∀ s' fault, s.change name value = (s', some fault) →
      (s' = s ↔ ∀ stored, s.Changed name value stored → stored = s) := by
  refine ⟨fun s' => change_eq_none_iff, fun s' fault => change_eq_some_iff, ?_⟩
  intro s' fault refused
  exact (change_eq_some_iff.mp refused).eq_iff

/-- A delay in words is refused, and the delay is as before. -/
theorem delay_in_words_refused :
    ({} : Settings).change "login_redirect_ms" "soon" =
      ({}, some (.notMilliseconds .loginRedirect "soon")) ∧
    ∀ stored, ({} : Settings).Changed "login_redirect_ms" "soon" stored → stored = {} := by
  obtain ⟨-, refused, kept⟩ := change_accepted_or_refused {} "login_redirect_ms" "soon"
  have noWait (n : UInt64) : ¬ IsMilliseconds "soon" n := by
    have unread : milliseconds? "soon" = none := by decide
    exact milliseconds?_eq_none_iff.mp unread n
  have changed := (refused {} _).mpr (.unfit rfl (.loginRedirect noWait))
  exact ⟨changed, (kept {} _ changed).mp rfl⟩

/-- An address without a known scheme is refused and stays in the settings all the same. -/
theorem refused_address_stored :
    ({} : Settings).change "server_url" "ftp://host" =
      ({ serverUrl := "ftp://host" }, some (.invalidUrl "ftp://host")) ∧
    ({ serverUrl := "ftp://host" } : Settings) ≠ {} := by
  have changed : ({} : Settings).Changed "server_url" "ftp://host" { serverUrl := "ftp://host" } :=
    ⟨.serverUrl, rfl, .serverUrl _⟩
  have wrong : ({ serverUrl := "ftp://host" } : Settings).fault? = some (.invalidUrl "ftp://host") := by
    decide +kernel
  refine ⟨?_, by decide⟩
  rw [change_of_changed changed, wrong]

end Settings

/-! ## On the disk -/

namespace Command

open Settings

variable {h : Host} {d : Desk} {s : Settings} {files : FileTree}

/-- When the settings can be loaded, with or without a file of them, a change of a setting succeeds exactly if
it stores a value and leaves valid settings; the next loading gives these settings, unless the file is a device,
which keeps nothing. A change that fails leaves the files, and all else, as loading left them. -/
theorem changeSetting_after_loading (loaded : load h.folder d.files = (.ok s, files))
    (name value : String) :
    let ended := changeSetting h name value d
    (ended.1 = .ok () ↔ ∃ s', s.Changed name value s' ∧ s'.fault? = none) ∧
    (ended.1 = .ok () → files.at? (file h.folder) ≠ some .device → ∀ s', s.Changed name value s' →
      load h.folder ended.2.files = (.ok s', ended.2.files)) ∧
    ∀ e, ended.1 = .error e → ended.2 = { d with files } := by
  intro ended
  cases change : s.change name value with
  | mk stored refusal =>
    cases refusal with
    | some fault =>
      have same : ended = _ := changeSetting_of_loaded_refused loaded change
      rw [same]
      refine ⟨iff_of_false nofun ?_, nofun, fun e _ => rfl⟩
      rintro ⟨s', accepted⟩
      rw [← change_eq_none_iff, change] at accepted
      cases accepted
    | none =>
      obtain ⟨changed, valid⟩ := change_eq_none_iff.mp change
      obtain ⟨place, entry, noFolder, found⟩ := exists_find_of_load loaded
      obtain ⟨files', saved, written⟩ := exists_save_of_find noFolder found stored
      have same : ended = _ := changeSetting_of_loaded_accepted loaded change saved
      rw [same]
      refine ⟨iff_of_true rfl ⟨stored, changed, valid⟩, ?_, nofun⟩
      intro _ kept s' again
      obtain rfl : s' = stored := again.unique changed
      have noDevice : entry ≠ .device := by
        rintro rfl
        exact kept (by simp [FileTree.at?, found, Except.toOption])
      obtain ⟨executable, there⟩ := written noDevice
      have aFile : files'.at? (file h.folder) ≠ some .device := by
        simp [FileTree.at?, there, Except.toOption]
      exact load_of_save_eq valid saved aFile

/-- A desk without files. -/
def bareDesk : Desk := { files := {}, wire := .scripted [] }

/-- The files that loading the settings makes on a desk without files. -/
def firstFiles : FileTree := (keeping ({} : Settings).document).files

theorem load_bareDesk : load atHome.folder bareDesk.files = (.ok {}, firstFiles) := by
  let folders : FileTree :=
    ⟨[(["home"], .folder), (["home", ".config"], .folder), (["home", ".config", "mjc"], .folder)]⟩
  have missing : bareDesk.files.pathExists (file atHome.folder) ≠ true := by decide
  have made : bareDesk.files.makeFolders atHome.folder = .ok folders := rfl
  have written : folders.writeText (file atHome.folder) ({} : Settings).document = .ok firstFiles := rfl
  rw [load, if_neg missing, made]
  dsimp only
  rw [written]

theorem noDevice_firstFiles : firstFiles.at? (file atHome.folder) ≠ some .device := by
  have aFile : firstFiles.at? (file atHome.folder) =
      some (.file (Text.bytesOf ({} : Settings).document) false) := rfl
  rw [aFile]
  nofun

/-- The name of a program, with a line end, quotes and a backslash in it. -/
def oddName : String := "\n'''dot\\\"\""

/-- Where there were no files yet, a renderer with an odd name is set, and an address without a known scheme is
not. -/
theorem changes_where_nothing_was :
    (changeSetting atHome "renderer" oddName bareDesk).1 = .ok () ∧
      load atHome.folder (changeSetting atHome "renderer" oddName bareDesk).2.files =
        (.ok { renderer := oddName }, (changeSetting atHome "renderer" oddName bareDesk).2.files) ∧
      (∃ e, (changeSetting atHome "server_url" "ftp://host" bareDesk).1 = .error e) ∧
      (changeSetting atHome "server_url" "ftp://host" bareDesk).2 = { bareDesk with files := firstFiles } := by
  obtain ⟨succeeds, loads, -⟩ := changeSetting_after_loading load_bareDesk "renderer" oddName
  have changed : ({} : Settings).Changed "renderer" oddName { renderer := oddName } :=
    ⟨.renderer, rfl, .renderer oddName⟩
  have valid : ({ renderer := oddName } : Settings).fault? = none := by decide +kernel
  have done := succeeds.mpr ⟨_, changed, valid⟩
  have kept := loads done noDevice_firstFiles _ changed
  obtain ⟨succeeds, -, fails⟩ := changeSetting_after_loading load_bareDesk "server_url" "ftp://host"
  have ftp : ({} : Settings).Changed "server_url" "ftp://host" { serverUrl := "ftp://host" } :=
    ⟨.serverUrl, rfl, .serverUrl _⟩
  have wrong : ({ serverUrl := "ftp://host" } : Settings).fault? ≠ none := by decide +kernel
  refine ⟨done, kept, ?_⟩
  cases ended : (changeSetting atHome "server_url" "ftp://host" bareDesk).1 with
  | ok _ =>
    obtain ⟨s', again, accepted⟩ := succeeds.mp ended
    rw [again.unique ftp] at accepted
    exact absurd accepted wrong
  | error e => exact ⟨⟨e, rfl⟩, fails e ended⟩

end Command
end CompileDesk
