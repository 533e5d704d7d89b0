import CompileDesk.Command.Run
import CompileDesk.Proofs.CommandLine
import CompileDesk.Proofs.CompileCommand
import CompileDesk.Proofs.FilesBeside
import CompileDesk.Proofs.SettingChanges

/-!
# An address for one call

The address of the service on a command line takes the place of the one in the settings, and only for
that call. Loading the settings may make their file; after that a command either does not look at the
address on the command line, or writes no settings: it talks to the service, saves a diagram or changes
the preferences. So the settings file ends the same with and without the address.
-/

namespace CompileDesk

/-! ## What commands write -/

theorem Settings.isFileName : Path.IsFileName "config.toml" where
  nonempty := by decide
  noSlash := by decide
  noDot := by decide
  noDots := by decide

theorem Preferences.isFileName : Path.IsFileName "preferences.toml" where
  nonempty := by decide
  noSlash := by decide
  noDot := by decide
  noDots := by decide

theorem LocalTime.notMem_stamp {c : Char} (noDigit : Text.isDigit c = false) (noDash : c ≠ '-') (t : LocalTime) :
    c ∉ t.stamp.toList := by
  have zeros : c ≠ '0' := by
    rintro rfl
    cases noDigit
  have padded (width n : Nat) : c ∉ Text.zeroPadded width n := by
    rw [Text.zeroPadded, List.mem_append, not_or]
    exact ⟨fun zero => zeros (List.eq_of_mem_replicate zero), Toml.notMem_decimal noDigit n⟩
  simp [stamp, padded, noDash]

namespace Renderer

theorem savedName_letters (now : LocalTime) :
    (savedName now).toList = "diagram-".toList ++ (now.stamp.toList ++ ".svg".toList) := by
  simp only [savedName, String.toList_append, List.append_assoc]

/-- The name of a saved diagram is none that the program gives to other files. -/
theorem savedName_ne (now : LocalTime) {name : String} (other : name.toList.head? ≠ some 'd') :
    savedName now ≠ name := by
  rintro rfl
  rw [savedName_letters] at other
  exact other rfl

theorem isFileName_savedName (now : LocalTime) : Path.IsFileName (savedName now) where
  nonempty := savedName_ne now (by decide)
  noSlash := by
    rw [savedName_letters]
    have noSlash := now.notMem_stamp (c := '/') (by decide) (by decide)
    simp [noSlash]
  noDot := savedName_ne now (by decide)
  noDots := savedName_ne now (by decide)

end Renderer

theorem Renderer.saveSvg_keeps (now : LocalTime) (folder : Option String) (svg own : String) (t : FileTree) :
    t.Keeps (Settings.file own) (saveSvg now folder svg t).2 := by
  unfold saveSvg
  cases folder with
  | none => exact .refl _ t
  | some folder =>
    dsimp only
    cases made : t.makeFolders folder with
    | error e => exact .refl _ t
    | ok t₁ =>
      dsimp only
      have before : t.Keeps (Settings.file own) t₁ := .of_makeFolders made
      cases written : t₁.writeText (Path.join folder (savedName now)) svg with
      | error e => exact before
      | ok t₂ =>
        exact before.trans (.of_writeText Settings.isFileName (isFileName_savedName now)
          (savedName_ne now (by decide)) written)

/-- A renderer leaves the settings file of a host as it is. -/
def Host.Spared (h : Host) (renderer : String) (t : FileTree) : Prop :=
  ∀ source ran, h.programs (h.environment ++ h.editor.environment) t renderer ["-Tsvg"]
    (Text.bytesOf source) = .ok ran → ran.files.find (Settings.file h.folder) = t.find (Settings.file h.folder)

theorem Settings.diagramRenderer_keeps {h : Host} {s : Settings} {t : FileTree}
    (spared : h.Spared s.renderer t) (source : String) :
    t.Keeps (file h.folder) (s.diagramRenderer h source t).2 := by
  unfold diagramRenderer Renderer.external
  cases run : h.programs (h.environment ++ h.editor.environment) t s.renderer ["-Tsvg"]
      (Text.bytesOf source) with
  | error e => cases e <;> exact .refl _ t
  | ok ran =>
    have rendered : t.Keeps (file h.folder) ran.files := by
      intro place entry _ found
      rw [spared source ran run, found]
    dsimp only
    split
    · have saved := Renderer.saveSvg_keeps h.now
        (if s.saveDiagrams then some (diagramsFolder h.folder) else none) (Text.lenient ran.output) h.folder ran.files
      generalize Renderer.saveSvg h.now (if s.saveDiagrams then some (diagramsFolder h.folder) else none)
        (Text.lenient ran.output) ran.files = result at saved ⊢
      obtain ⟨path, t'⟩ := result
      cases path <;> exact rendered.trans saved
    · exact rendered

theorem Preferences.setInFile_keeps (folder : String) (t : FileTree) (key value : String) :
    t.Keeps (Settings.file folder) (setInFile (file folder) t key value).2 := by
  unfold setInFile
  cases readAll (file folder) t with
  | error e => exact .refl _ t
  | ok table =>
    dsimp only
    cases write : writeAll (file folder) (Toml.insert key (.string value) table) t with
    | error e => exact .refl _ t
    | ok t' =>
      unfold writeAll at write
      cases made : t.makeParent (file folder) with
      | error e =>
        rw [made] at write
        cases write
      | ok t₁ =>
        rw [made] at write
        exact (FileTree.Keeps.of_makeParent made).trans
          (.of_writeText Settings.isFileName isFileName (by decide) write)

/-! ## What commands do under settings -/

/-- The requests of the program to the service at an address. -/
inductive Request.IsFor (base : String) : Request → Prop
  | compile (source : String) : IsFor base
    { method := .post, url := base ++ "/compile", contentType := some "text/plain", body := some source }
  | login (c : Credentials) : IsFor base
    { method := .post, url := base ++ "/login", contentType := some "application/json",
      body := some c.payload }
  | health : IsFor base { method := .get, url := base ++ "/" }

/-- A command keeps the file at a path and sends requests to the service at an address only. -/
structure Desk.Proceeds (path base : String) (d d' : Desk) : Prop where
  files : d.files.Keeps path d'.files
  requests : ∃ requests, d'.wire.sent = d.wire.sent ++ requests ∧ ∀ r ∈ requests, r.IsFor base

namespace Desk.Proceeds

variable {path base : String} {d d' d'' : Desk}

theorem refl (path base : String) (d : Desk) : d.Proceeds path base d :=
  ⟨.refl path d.files, [], by simp, nofun⟩

theorem trans (first : d.Proceeds path base d') (second : d'.Proceeds path base d'') :
    d.Proceeds path base d'' := by
  obtain ⟨requests, sent, own⟩ := first.requests
  obtain ⟨requests', sent', own'⟩ := second.requests
  refine ⟨first.files.trans second.files, requests ++ requests', ?_, ?_⟩
  · rw [sent', sent, List.append_assoc]
  · intro r there
    rcases List.mem_append.mp there with before | after
    · exact own r before
    · exact own' r after

theorem write (h : d.Proceeds path base d') (f : Transcript → Transcript) :
    d.Proceeds path base (d'.write f) :=
  ⟨h.files, h.requests⟩

theorem of_sent {r : Request} (isFor : r.IsFor base) (files : d.files.Keeps path d'.files)
    (sent : d'.wire.sent = d.wire.sent ++ [r]) : d.Proceeds path base d' :=
  ⟨files, [r], sent, by simpa using isFor⟩

theorem call {r : Request} (isFor : r.IsFor base) (d : Desk) : d.Proceeds path base (d.call r).2 :=
  of_sent isFor (.refl path d.files) rfl

theorem of_files {files : FileTree} (keeps : d.files.Keeps path files) :
    d.Proceeds path base { d with files } :=
  ⟨keeps, [], by simp, nofun⟩

end Desk.Proceeds

namespace Command

variable {h : Host} {s : Settings} {d : Desk}

theorem judge_keeps (spared : h.Spared s.renderer d.files) (endpoint : String) (delay : Nat) (outcome : Outcome)
    (p : Panes) : d.files.Keeps (Settings.file h.folder)
      (Session.judge (deskPresenter h s) endpoint delay outcome p d).2.2.2.files := by
  obtain same | ⟨source, rendered⟩ :=
    Session.judge_surroundings (deskPresenter h s) endpoint delay outcome p d
  · rw [same]
    exact .refl _ d.files
  · rw [rendered]
    exact Settings.diagramRenderer_keeps spared source

theorem compileAndShow_proceeds (spared : h.Spared s.renderer d.files) (file source : String) :
    d.Proceeds (Settings.file h.folder) s.baseUrl (compileAndShow h s file source d).2 := by
  obtain ⟨-, -, sent, -⟩ := compileAndShow_ends h s file source d
  refine .of_sent (.compile source) ?_ sent
  have judged : d.files.Keeps (Settings.file h.folder)
      (compileSource (deskPresenter h s) s source d).2.2.files := by
    rw [compileSource_eq]
    exact judge_keeps (d := (d.call (compilePost s source)).2) spared _ _ _ _
  unfold compileAndShow
  generalize compileSource (deskPresenter h s) s source d = compiled at judged ⊢
  obtain ⟨settlement, panes, after⟩ := compiled
  dsimp only
  split <;> exact judged

/-- A login changes no files. -/
theorem signIn_proceeds (s : Settings) (username password : String) (d : Desk) (path : String) :
    (signIn s username password d).2.files = d.files ∧
      d.Proceeds path s.baseUrl (signIn s username password d).2 := by
  by_cases unfilled : Text.trimmed username = "" ∨ password = ""
  · rw [signIn_of_unfilled s d unfilled]
    exact ⟨rfl, .refl path s.baseUrl d⟩
  · have filled : Text.trimmed username ≠ "" ∧ password ≠ "" := by simpa using unfilled
    have called : d.Proceeds path s.baseUrl (d.call (loginPost s username password)).2 :=
      .call (.login ⟨Text.trimmed username, password⟩) d
    rw [signIn_of_filled filled]
    cases (s.gate.conclude s.baseUrl (nextOutcome d 0 (s.baseUrl ++ "/login"))).result with
    | ok message =>
      dsimp only
      exact ⟨rfl, called.write _⟩
    | error e => exact ⟨rfl, called⟩

theorem compile_proceeds (spared : h.Spared s.renderer d.files) (file : String)
    (credentials : Option (String × String)) :
    d.Proceeds (Settings.file h.folder) s.baseUrl (compile h s file credentials d).2 := by
  unfold compile
  cases SourceFile.contents file d.files with
  | error e => exact .refl _ _ d
  | ok source =>
    cases credentials with
    | none => exact compileAndShow_proceeds spared file source
    | some given =>
      obtain ⟨username, password⟩ := given
      obtain ⟨same, signedIn⟩ := signIn_proceeds s username password d (Settings.file h.folder)
      dsimp only
      generalize signIn s username password d = result at same signedIn ⊢
      obtain ⟨outcome, d'⟩ := result
      cases outcome with
      | error e => exact signedIn
      | ok done =>
        dsimp only at same signedIn ⊢
        rw [← same] at spared
        exact signedIn.trans (compileAndShow_proceeds spared file source)

theorem health_proceeds (s : Settings) (d : Desk) (path : String) :
    d.Proceeds path s.baseUrl (health s d).2 := by
  have request : s.service.healthRequest.IsFor s.baseUrl := by
    rw [Service.healthRequest, Service.healthUrl, s.service_endpoint]
    exact .health
  have called : d.Proceeds path s.baseUrl (d.call s.service.healthRequest).2 := .call request d
  unfold health
  generalize d.call s.service.healthRequest = answered at called ⊢
  obtain ⟨outcome, d'⟩ := answered
  cases outcome with
  | error e => exact called
  | ok reply =>
    dsimp only at called ⊢
    split
    · dsimp only
      exact (called.write _).write _
    · dsimp only
      exact (called.write _).write _

theorem preferences_set (h : Host) :
    (preferences h).set = Preferences.setInFile (Preferences.file h.folder) := by
  simp only [preferences, Preferences.inFile]

theorem toggleTheme_proceeds (h : Host) (d : Desk) (base : String) :
    d.Proceeds (Settings.file h.folder) base (toggleTheme h d).2 := by
  unfold toggleTheme Theme.toggle
  dsimp only
  rw [preferences_set]
  generalize (Theme.load (preferences h) d.files).toggled.name = value
  have keeps := Preferences.setInFile_keeps h.folder d.files Theme.key value
  generalize Preferences.setInFile (Preferences.file h.folder) d.files Theme.key value = stored at keeps ⊢
  obtain ⟨result, files⟩ := stored
  cases result with
  | error e => exact .of_files keeps
  | ok done =>
    dsimp only
    exact (Desk.Proceeds.of_files keeps).write _

/-- Which files a change of a setting leaves behind does not depend on the wire, and nothing is sent. -/
theorem changeSetting_quiet (h : Host) (name value : String) (d : Desk) (wire : Wire) :
    (changeSetting h name value { d with wire }).2.files = (changeSetting h name value d).2.files ∧
      (changeSetting h name value { d with wire }).2.wire = wire := by
  unfold changeSetting
  cases Settings.load h.folder d.files with
  | mk loaded files =>
    cases loaded with
    | error e => exact ⟨rfl, rfl⟩
    | ok s =>
      dsimp only
      cases s.change name value with
      | mk s' fault =>
        cases fault with
        | some fault => exact ⟨rfl, rfl⟩
        | none =>
          dsimp only
          cases s'.save h.folder files <;> exact ⟨rfl, rfl⟩

end Command

/-! ## Calls of the program -/

/-- The renderer of the settings, if they can be loaded, leaves their file as it is. -/
def Host.SparesSettings (h : Host) (files : FileTree) : Prop :=
  ∀ s loaded, Settings.load h.folder files = (.ok s, loaded) → h.Spared s.renderer loaded

namespace Invocation

variable {h : Host} {s : Settings} {d : Desk} {i : Invocation} {files : FileTree} {t : Task}

section Tasks

variable (headless : ∀ source skipLogin, t ≠ .interact source skipLogin)
  (unchanging : ∀ name value, t ≠ .changeSetting name value)
include headless

theorem openLog_of_headless (h : Host) (files : FileTree) : openLog h t files = .ok files := by
  cases t with
  | interact source skipLogin => exact absurd rfl (headless source skipLogin)
  | _ => rfl

include unchanging

theorem carryOut_proceeds (spared : h.Spared s.renderer d.files) :
    d.Proceeds (Settings.file h.folder) s.baseUrl (carryOut h s t d).2 := by
  cases t with
  | interact source skipLogin => exact absurd rfl (headless source skipLogin)
  | changeSetting name value => exact absurd rfl (unchanging name value)
  | compile file credentials => exact Command.compile_proceeds spared file credentials
  | login username password => exact (Command.signIn_proceeds s username password d _).2
  | health => exact Command.health_proceeds s d _
  | toggleTheme => exact Command.toggleTheme_proceeds h d _
  | showTheme =>
    dsimp only [carryOut, Command.showTheme]
    exact (Desk.Proceeds.refl _ _ d).write _
  | showSettings =>
    dsimp only [carryOut, Command.showSettings]
    exact (Desk.Proceeds.refl _ _ d).write _
  | completions shell => exact .refl _ _ d

end Tasks

theorem resolveSettings_of_load {loaded : FileTree} (load : Settings.load h.folder files = (.ok s, loaded))
    (server : Option String) : ∃ result, resolveSettings h server files = (result, loaded) ∧
      ∀ s', result = .ok s' → s' = { s with serverUrl := server.getD s.serverUrl } := by
  unfold resolveSettings
  rw [load]
  cases server with
  | none => exact ⟨.ok s, rfl, fun _ same => (Except.ok.inj same).symm⟩
  | some url =>
    dsimp only
    cases ({ s with serverUrl := url } : Settings).fault? with
    | some fault => exact ⟨.error _, rfl, nofun⟩
    | none => exact ⟨.ok _, rfl, fun _ same => (Except.ok.inj same).symm⟩

theorem resolveSettings_of_error {e : DeskError} (load : Settings.load h.folder d.files = (.error e, files))
    (server : Option String) : resolveSettings h server d.files = (.error e, files) := by
  unfold resolveSettings
  rw [load]

/-- A task under settings leaves their file as loading left it, and with an address on the command line it
asks nobody else. -/
theorem prepareAndCarryOut_keeps (headless : ∀ source skipLogin, i.task ≠ .interact source skipLogin)
    (unchanging : ∀ name value, i.task ≠ .changeSetting name value) (spares : h.SparesSettings d.files) :
    (prepareAndCarryOut h i d).2.files.find (Settings.file h.folder) =
      (Settings.load h.folder d.files).2.find (Settings.file h.folder) ∧
    ∀ u, i.server = some u → ∃ requests,
      (prepareAndCarryOut h i d).2.wire.sent = d.wire.sent ++ requests ∧
        ∀ r ∈ requests, r.IsFor (Settings.withoutSlashes u) := by
  have silent : ∀ u, i.server = some u → ∃ requests, d.wire.sent = d.wire.sent ++ requests ∧
      ∀ r ∈ requests, r.IsFor (Settings.withoutSlashes u) :=
    fun _ _ => ⟨[], by simp, nofun⟩
  unfold prepareAndCarryOut
  rw [openLog_of_headless headless]
  cases load : Settings.load h.folder d.files with
  | mk result loaded =>
    cases result with
    | error e =>
      dsimp only
      rw [resolveSettings_of_error load]
      exact ⟨rfl, silent⟩
    | ok s =>
      dsimp only
      obtain ⟨resolved, same, own⟩ := resolveSettings_of_load load i.server
      rw [same]
      cases resolved with
      | error e => exact ⟨rfl, silent⟩
      | ok s' =>
        obtain rfl := own s' rfl
        have spared : h.Spared s.renderer ({ d with files := loaded } : Desk).files := spares s loaded load
        have proceeds := carryOut_proceeds (s := { s with serverUrl := i.server.getD s.serverUrl })
          headless unchanging spared
        obtain ⟨place, entry, noFolder, found⟩ := Settings.exists_find_of_load load
        refine ⟨?_, ?_⟩
        · dsimp only
          rw [proceeds.files place entry noFolder found, found]
        · intro u given
          have base : ({ s with serverUrl := i.server.getD s.serverUrl } : Settings).baseUrl =
              Settings.withoutSlashes u := by
            rw [Settings.baseUrl, given]
            rfl
          rw [← base]
          exact proceeds.requests

theorem run_of_underSettings (unchanging : ∀ name value, i.task ≠ .changeSetting name value)
    (working : ∀ shell, i.task ≠ .completions shell) (h : Host) (d : Desk) :
    i.run h d = prepareAndCarryOut h i d := by
  unfold run
  split
  · rename_i shell task
    exact absurd task (working shell)
  · rename_i name value task
    exact absurd task (unchanging name value)
  · rfl

/-- Two calls that differ in the address on the command line and in what comes over the wire leave the
settings file behind alike. -/
theorem run_with_server (headless : ∀ source skipLogin, i.task ≠ .interact source skipLogin)
    (spares : h.SparesSettings d.files) (u : String) (wire : Wire) :
    let overridden := (({ i with server := some u } : Invocation).run h { d with wire }).2
    overridden.files.find (Settings.file h.folder) = (i.run h d).2.files.find (Settings.file h.folder) ∧
    ∃ requests, overridden.wire.sent = wire.sent ++ requests ∧
      ∀ r ∈ requests, r.IsFor (Settings.withoutSlashes u) := by
  by_cases changing : ∃ name value, i.task = .changeSetting name value
  · obtain ⟨name, value, task⟩ := changing
    obtain ⟨files, sent⟩ := Command.changeSetting_quiet h name value d wire
    simp only [run, task]
    rw [files, sent]
    exact ⟨rfl, [], (List.append_nil _).symm, nofun⟩
  by_cases completing : ∃ shell, i.task = .completions shell
  · obtain ⟨shell, task⟩ := completing
    simp only [run, task, complete]
    cases Shell.ofName shell <;> exact ⟨rfl, [], (List.append_nil _).symm, nofun⟩
  · have unchanging : ∀ name value, i.task ≠ .changeSetting name value :=
      fun name value same => changing ⟨name, value, same⟩
    have working : ∀ shell, i.task ≠ .completions shell := fun shell same => completing ⟨shell, same⟩
    rw [run_of_underSettings unchanging working,
      run_of_underSettings (i := { i with server := some u }) unchanging working]
    obtain ⟨plain, -⟩ := prepareAndCarryOut_keeps headless unchanging spares
    obtain ⟨overridden, asks⟩ := prepareAndCarryOut_keeps (i := { i with server := some u })
      (d := { d with wire }) headless unchanging spares
    exact ⟨overridden.trans plain.symm, asks u rfl⟩

theorem runProgram_of_ofWords {words : List String} (read : ofWords words = .ok i) (h : Host) (d : Desk) :
    (runProgram (some h) words d).desk.files = (i.run h d).2.files ∧
      (runProgram (some h) words d).desk.wire = (i.run h d).2.wire := by
  unfold runProgram
  rw [read]
  dsimp only [Option.elim]
  cases i.run h d with
  | mk result d' => cases result <;> exact ⟨rfl, rfl⟩

/-- Where no home folder is known, nothing is sent and no file changes. -/
theorem runProgram_homeless (words : List String) (d : Desk) :
    (runProgram none words d).desk.files = d.files ∧ (runProgram none words d).desk.wire = d.wire := by
  unfold runProgram
  split
  · exact ⟨rfl, rfl⟩
  · exact ⟨rfl, rfl⟩
  · exact ⟨rfl, rfl⟩
  · rename_i i _
    have quiet : (i.runHomeless d).2.files = d.files ∧ (i.runHomeless d).2.wire = d.wire := by
      unfold runHomeless complete
      split
      · split <;> exact ⟨rfl, rfl⟩
      · exact ⟨rfl, rfl⟩
    dsimp only [Option.elim]
    generalize i.runHomeless d = ended at quiet ⊢
    obtain ⟨result, d'⟩ := ended
    cases result <;> exact quiet

/-- An address on the command line is for one call. In front of a command line without one it is
read as the only change. Whatever the address is, valid or not, the settings file ends as it does without it,
and all requests go to the address without the slashes at its end. The renderer of the settings is
a program of the host and must not write their file itself. -/
theorem server_for_one_call (h : Option Host) (d : Desk) {words : List String} {i : Invocation}
    (read : ofWords words = .ok i) (noServer : i.server = none)
    (headless : ∀ source skipLogin, i.task ≠ .interact source skipLogin)
    (spares : ∀ home ∈ h, home.SparesSettings d.files) (u : String) :
    ofWords (("--server=" ++ u) :: words) = .ok { i with server := some u } ∧
    ∀ words' wire, ofWords words' = .ok { i with server := some u } →
      let plain := runProgram h words d
      let overridden := runProgram h words' { d with wire }
      (∀ home ∈ h, overridden.desk.files.find (Settings.file home.folder) =
        plain.desk.files.find (Settings.file home.folder)) ∧
      ∃ requests, overridden.desk.wire.sent = wire.sent ++ requests ∧
        ∀ r ∈ requests, r.IsFor (String.ofList (u.toList.rdropWhile (· == '/'))) := by
  refine ⟨ofWords_server read noServer u, ?_⟩
  intro words' wire read' plain overridden
  cases h with
  | none =>
    obtain ⟨-, sent⟩ := runProgram_homeless words' { d with wire }
    exact ⟨nofun, [], (congrArg Wire.sent sent).trans (List.append_nil _).symm, nofun⟩
  | some home =>
    obtain ⟨plainFiles, -⟩ := runProgram_of_ofWords read home d
    obtain ⟨files, sent⟩ := runProgram_of_ofWords read' home { d with wire }
    obtain ⟨same, asks⟩ := run_with_server headless (spares home rfl) u wire
    have base : String.ofList (u.toList.rdropWhile (· == '/')) = Settings.withoutSlashes u := by
      rw [← String.toList_inj, String.toList_ofList, Settings.toList_withoutSlashes]
    refine ⟨?_, ?_⟩
    · rintro _ ⟨⟩
      rw [files, plainFiles, same]
    · rw [sent, base]
      exact asks

open Command

/-- Settings with a renderer that writes nothing. -/
def quietFile : String := "renderer = \"true\"\n"

theorem load_quietFile : Settings.load atHome.folder (keeping quietFile).files =
    (.ok { renderer := "true" }, (keeping quietFile).files) := by
  have parsed : (Settings.parse quietFile).toOption = some { renderer := "true" } := by decide +kernel
  have valid : ({ renderer := "true" } : Settings).fault? = none := by decide +kernel
  rw [(holds_keeping parsed).load, valid]

theorem run_true (source : String) : ∃ ran,
    atHome.programs (atHome.environment ++ atHome.editor.environment) (keeping quietFile).files "true" ["-Tsvg"]
      (Text.bytesOf source) = .ok ran ∧ ran.files = (keeping quietFile).files :=
  ⟨_, rfl, rfl⟩

theorem spares_quietFile : atHome.SparesSettings (keeping quietFile).files := by
  intro s loaded load
  rw [load_quietFile] at load
  cases load
  intro source ran run
  obtain ⟨ran', run', same⟩ := run_true source
  rw [run'] at run
  cases run
  rw [same]

theorem health_of_other_server :
    let u := "http://10.0.0.2:4567//"
    let d := keeping quietFile
    atHome.SparesSettings d.files ∧
    ofWords ["health"] = .ok ⟨none, false, .health⟩ ∧
    ofWords ["--server=" ++ u, "health"] = .ok ⟨some u, false, .health⟩ ∧
    (runProgram (some atHome) ["--server=" ++ u, "health"] d).desk.files.find (Settings.file atHome.folder) =
      (runProgram (some atHome) ["health"] d).desk.files.find (Settings.file atHome.folder) ∧
    (runProgram (some atHome) ["--server=" ++ u, "health"] d).desk.wire.sent =
      [{ method := .get, url := "http://10.0.0.2:4567/" }] := by
  intro u d
  have read : ofWords ["health"] = .ok ⟨none, false, .health⟩ := by rfl
  have spares : ∀ home ∈ some atHome, home.SparesSettings d.files := by
    rintro _ ⟨⟩
    exact spares_quietFile
  obtain ⟨front, forOne⟩ := server_for_one_call (some atHome) d read rfl nofun spares u
  have read' : ofWords ["--server=" ++ u, "health"] = .ok ⟨some u, false, .health⟩ := front
  obtain ⟨same, -⟩ := forOne _ d.wire read'
  refine ⟨spares_quietFile, read, read', same atHome rfl, ?_⟩
  have valid : ({ renderer := "true", serverUrl := u } : Settings).fault? = none := by decide +kernel
  have resolved : resolveSettings atHome (some u) d.files =
      (.ok { renderer := "true", serverUrl := u }, d.files) := by
    unfold resolveSettings
    rw [load_quietFile]
    dsimp only
    rw [valid]
  have ran : (⟨some u, false, .health⟩ : Invocation).run atHome d =
      Command.health { renderer := "true", serverUrl := u } d := by
    dsimp only [run, prepareAndCarryOut, openLog]
    rw [resolved]
    rfl
  have url : ({ renderer := "true", serverUrl := u } : Settings).service.healthUrl =
      "http://10.0.0.2:4567/" := by decide +kernel
  rw [(runProgram_of_ofWords read' atHome d).2, ran, ← url]
  rfl

end Invocation
end CompileDesk
