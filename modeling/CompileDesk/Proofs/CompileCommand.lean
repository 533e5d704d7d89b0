import CompileDesk.Proofs.HeadlessAgreement
import CompileDesk.Proofs.LoginRequest
import CompileDesk.Proofs.PrintedChannels
import CompileDesk.Proofs.ServiceAddress

/-!
# Courses of a compilation

A compilation from the command line can stop at the source file, at the login or at the answer to the
compile request. Each course says which requests were sent, what was printed and how the command ended;
every run of the command takes one of them. The source is sent only when it was read and nothing is in
its way, and the channels of results are printed only when the answer says that the program was compiled.
-/

namespace CompileDesk

/-- The panes show what a compilation produced, the diagram as it was answered to be rendered. -/
structure Panes.Shows (p : Panes) (answer : String → Except RenderError Rendered) (a : Artifacts) :
    Prop where
  assembly : p.assembly = a.assembly
  diagram : p.diagram = a.diagram.elim .empty fun source => Panes.diagramView source (answer source)
  symbols : p.symbols = SymbolRow.ofSymbols a.symbols
  status : p.status.map Status.said = some (.success, Session.successMessage)

theorem Panes.present_shows {σ : Type} (render : Renderer σ) (a : Artifacts) (s : σ) (time : LocalTime) :
    ((Panes.present render a {} s).1.withStatus .success Session.successMessage time).Shows
      (fun source => (render source s).1) a := by
  rw [present_eq]
  exact ⟨rfl, rfl, rfl, rfl⟩

/-- The source file is there and holds a text. -/
structure SourceFile.Holds (path : String) (t : FileTree) (text : String) : Prop where
  present : t.isFile path = true
  read : t.readText path = .ok text

theorem SourceFile.Holds.contents {path text : String} {t : FileTree} (h : Holds path t text) :
    SourceFile.contents path t = .ok text := by
  rw [SourceFile.contents, if_pos h.present, h.read]

namespace Command

/-- The login request for what was given as user name and password. -/
def loginPost (s : Settings) (username password : String) : Request where
  method := .post
  url := s.baseUrl ++ "/login"
  contentType := some "application/json"
  body := some (Credentials.payload ⟨Text.trimmed username, password⟩)

def compilePost (s : Settings) (source : String) : Request where
  method := .post
  url := s.baseUrl ++ "/compile"
  contentType := some "text/plain"
  body := some source

/-- What comes back from an address for the request with a number, counted from now on. -/
def nextOutcome (d : Desk) (n : Nat) (url : String) : Outcome :=
  (d.wire.answer (d.wire.sent.length + n)).outcome url

/-- What the renderer of the settings answers to the source of a diagram. -/
def rendering (h : Host) (s : Settings) (files : FileTree) (source : String) : Except RenderError Rendered :=
  (s.diagramRenderer h source files).1

/-- What is printed of a successful compilation. -/
def printedResults (p : Panes) : List Printed :=
  p.channels ++ [.line (Terminal.successText Session.successMessage)]

section Courses

variable (h : Host) (s : Settings) (file : String) (files : FileTree) (d : Desk)

/-- The line that tells how the compile request went, and how long it took. -/
def callLine (settlement : Settlement) : Printed :=
  .line (settledLine ("Compiling " ++ file) (h.clock 1 - h.clock 0) settlement)

/-- How what comes back for a compile request ends the command. -/
inductive Ends : Outcome → List Printed → Except DeskError Unit → Prop
  | unreachable (e : TransportError) :
    Ends (.error e) [callLine h file (.failed .unreachable)]
      (.error (.connectivity (Session.unreachableMessage s.baseUrl e.detail)))
  | malformed {reply : Reply} {fault : ReplyFault} (judged : Verdict.ofReply reply = .error fault) :
    Ends (.ok reply) [callLine h file (.failed .malformed)]
      (.error (.malformedResponse (Session.unreadableMessage fault)))
  | refused {reply : Reply} {message : String}
    (judged : Verdict.ofReply reply = .ok (.refused message)) :
    Ends (.ok reply) [callLine h file (.failed .compiler)]
      (.error (.compilation (Session.refusalMessage message)))
  | expired {reply : Reply} (judged : Verdict.ofReply reply = .ok .sessionExpired) :
    Ends (.ok reply) [callLine h file (.unauthorized s.sessionExpiryRedirect.toNat)]
      (.error .sessionExpired)
  | compiled {reply : Reply} {artifacts : Artifacts} {p : Panes}
    (judged : Verdict.ofReply reply = .ok (.compiled artifacts))
    (shown : p.Shows (rendering h s files) artifacts) :
    Ends (.ok reply) (callLine h file .succeeded :: printedResults p) (.ok ())

/-- The courses: the requests that are sent, what is printed and the end, with or without credentials. -/
inductive Course :
    Option (String × String) → List Request → List Printed → Except DeskError Unit → Prop
  | missing {credentials : Option (String × String)} (absent : d.files.isFile file = false) :
    Course credentials [] [] (.error (.sourceNotFound file))
  | unreadable {credentials : Option (String × String)} {cause : IoError}
    (present : d.files.isFile file = true) (read : d.files.readText file = .error cause) :
    Course credentials [] [] (.error (.io cause))
  | unfilled {username password source : String} (held : SourceFile.Holds file d.files source)
    (unfilled : Text.trimmed username = "" ∨ password = "") :
    Course (some (username, password)) [] [] (.error (.validation LoginOutcome.missingFields))
  | unanswered {username password source : String} {e : TransportError}
    (held : SourceFile.Holds file d.files source)
    (filled : Text.trimmed username ≠ "" ∧ password ≠ "")
    (login : nextOutcome d 0 (s.baseUrl ++ "/login") = .error e) :
    Course (some (username, password)) [loginPost s username password] []
      (.error (.connectivity (LoginGate.unreachableMessage s.baseUrl e.detail)))
  | rejected {username password source : String} {reply : Reply}
    (held : SourceFile.Holds file d.files source)
    (filled : Text.trimmed username ≠ "" ∧ password ≠ "")
    (login : nextOutcome d 0 (s.baseUrl ++ "/login") = .ok reply)
    (refused : ¬ (200 ≤ reply.status ∧ reply.status < 300)) :
    Course (some (username, password)) [loginPost s username password] []
      (.error (.loginRejected
        ((LoginGate.serverMessage? reply.body).getD LoginOutcome.defaultRejected)))
  | admitted {username password source : String} {reply : Reply} {printed : List Printed}
    {result : Except DeskError Unit} (held : SourceFile.Holds file d.files source)
    (filled : Text.trimmed username ≠ "" ∧ password ≠ "")
    (login : nextOutcome d 0 (s.baseUrl ++ "/login") = .ok reply)
    (accepted : 200 ≤ reply.status ∧ reply.status < 300)
    (ends : Ends h s file d.files (nextOutcome d 1 (s.baseUrl ++ "/compile")) printed result) :
    Course (some (username, password)) [loginPost s username password, compilePost s source]
      (.line (Terminal.successText
        ((LoginGate.serverMessage? reply.body).getD LoginOutcome.defaultAccepted)) :: printed)
      result
  | direct {source : String} {printed : List Printed} {result : Except DeskError Unit}
    (held : SourceFile.Holds file d.files source)
    (ends : Ends h s file d.files (nextOutcome d 0 (s.baseUrl ++ "/compile")) printed result) :
    Course none [compilePost s source] printed result

end Courses

variable {h : Host} {s : Settings} {file source username password : String} {d : Desk}

theorem service_compileRequest (s : Settings) (source : String) :
    s.service.compileRequest source = compilePost s source := by
  rw [Service.compileRequest, Service.compileUrl, s.service_endpoint]
  rfl

theorem service_loginRequest (s : Settings) (username password : String) :
    s.service.loginRequest ⟨Text.trimmed username, password⟩ = loginPost s username password := by
  rw [Service.loginRequest, Service.loginUrl, s.service_endpoint]
  rfl

/-! ## The compile request -/

/-- Judging what came back neither sends nor writes anything; rendering works on files. -/
theorem judge_quiet (h : Host) (s : Settings) (endpoint : String) (delay : Nat) (outcome : Outcome)
    (p : Panes) (d : Desk) :
    let after := (Session.judge (deskPresenter h s) endpoint delay outcome p d).2.2.2
    after.wire = d.wire ∧ after.transcript = d.transcript := by
  obtain same | ⟨source, rendered⟩ :=
    Session.judge_surroundings (deskPresenter h s) endpoint delay outcome p d
  · rw [same]
    exact ⟨rfl, rfl⟩
  · rw [rendered]
    exact ⟨rfl, rfl⟩

/-- The end follows from what came back; results are printed only of a compiled program. -/
theorem judge_ends (h : Host) (s : Settings) (file : String) (outcome : Outcome) (d : Desk) :
    let judged := Session.judge (deskPresenter h s) s.baseUrl s.sessionExpiryRedirect.toNat outcome {} d
    Ends h s file d.files outcome
      (callLine h file judged.1 :: if judged.1 = .succeeded then printedResults judged.2.2.1 else [])
      (settled judged.2.2.1 judged.1) := by
  cases outcome with
  | error e => exact .unreachable e
  | ok reply =>
    cases judged : Verdict.ofReply reply with
    | error fault =>
      simp only [Session.judge, judged]
      exact .malformed judged
    | ok verdict =>
      simp only [Session.judge, judged]
      cases verdict with
      | sessionExpired => exact .expired judged
      | refused message => exact .refused judged
      | compiled artifacts =>
        exact .compiled judged (Panes.present_shows (deskRenderer h s) artifacts d _)

theorem judge_said_of_succeeded {σ : Type} {presenter : Presenter σ} {endpoint : String} {delay : Nat}
    {outcome : Outcome} {p : Panes} {s : σ}
    (succeeded : (Session.judge presenter endpoint delay outcome p s).1 = .succeeded) :
    (Session.judge presenter endpoint delay outcome p s).2.2.1.status.map Status.said =
      some (.success, Session.successMessage) := by
  rw [Session.judge_settlement_eq_succeeded_iff] at succeeded
  obtain ⟨a, compiled⟩ := succeeded
  rw [Session.judge_of_compiled presenter endpoint delay compiled]
  rfl

/-- What came back for the one request is judged on panes that are empty. -/
theorem compileSource_eq (presenter : Presenter Desk) (s : Settings) (source : String) (d : Desk) :
    compileSource presenter s source d =
      let judged := Session.judge presenter s.baseUrl s.sessionExpiryRedirect.toNat
        (nextOutcome d 0 (s.baseUrl ++ "/compile")) {} (d.call (compilePost s source)).2
      (judged.1, judged.2.2.1, judged.2.2.2) := by
  have answered : (d.call (s.service.compileRequest source)).1 =
      nextOutcome d 0 (s.baseUrl ++ "/compile") := by
    rw [service_compileRequest]
    rfl
  have once := compileOnce_eq presenter s answered
  rw [s.service_endpoint, service_compileRequest] at once
  rw [compileSource, once]
  rfl

theorem compileSource_ends (h : Host) (s : Settings) (file source : String) (d : Desk) :
    let compiled := compileSource (deskPresenter h s) s source d
    Ends h s file d.files (nextOutcome d 0 (s.baseUrl ++ "/compile"))
      (callLine h file compiled.1 ::
        if compiled.1 = .succeeded then printedResults compiled.2.1 else [])
      (settled compiled.2.1 compiled.1) ∧
    compiled.2.2.wire.sent = d.wire.sent ++ [compilePost s source] ∧
    compiled.2.2.transcript = d.transcript ∧
    (compiled.1 = .succeeded →
      compiled.2.1.status.map Status.said = some (.success, Session.successMessage)) := by
  rw [compileSource_eq]
  obtain ⟨wire, transcript⟩ := judge_quiet h s s.baseUrl s.sessionExpiryRedirect.toNat
    (nextOutcome d 0 (s.baseUrl ++ "/compile")) {} (d.call (compilePost s source)).2
  exact ⟨judge_ends h s file _ (d.call (compilePost s source)).2, congrArg Wire.sent wire, transcript,
    judge_said_of_succeeded⟩

/-- A source is compiled with one request, and what comes back for it decides what is printed and the
end. -/
theorem compileAndShow_ends (h : Host) (s : Settings) (file source : String) (d : Desk) :
    ∃ printed,
      Ends h s file d.files (nextOutcome d 0 (s.baseUrl ++ "/compile")) printed
        (compileAndShow h s file source d).1 ∧
      (compileAndShow h s file source d).2.wire.sent = d.wire.sent ++ [compilePost s source] ∧
      (compileAndShow h s file source d).2.transcript = d.transcript.printing printed := by
  obtain ⟨ends, sent, transcript, said⟩ := compileSource_ends h s file source d
  unfold compileAndShow
  generalize compileSource (deskPresenter h s) s source d = compiled at ends sent transcript said ⊢
  obtain ⟨settlement, panes, after⟩ := compiled
  dsimp only at ends sent transcript said ⊢
  refine ⟨_, ends, ?_, ?_⟩
  · split <;> exact sent
  · by_cases succeeded : settlement = .succeeded
    · rw [if_pos succeeded, if_pos succeeded, ← transcript, ← List.singleton_append,
        Transcript.printing_append]
      change (after.transcript.line _).panes panes = _
      rw [Transcript.panes_eq _ (said succeeded), Transcript.line_eq]
      rfl
    · rw [if_neg succeeded, if_neg succeeded, ← transcript]
      exact Transcript.line_eq _ _

/-! ## The login -/

theorem signIn_of_unfilled (s : Settings) (d : Desk)
    (unfilled : Text.trimmed username = "" ∨ password = "") :
    signIn s username password d = (.error (.validation LoginOutcome.missingFields), d) := by
  simp only [signIn, LoginGate.attempt, LoginGate.prepare?_eq, if_pos unfilled]
  rfl

section Filled

variable (filled : Text.trimmed username ≠ "" ∧ password ≠ "")
include filled

/-- With both fields filled in one request is sent, and what comes back for it decides. -/
theorem signIn_of_filled (s : Settings) (d : Desk) : signIn s username password d =
    match (s.gate.conclude s.baseUrl (nextOutcome d 0 (s.baseUrl ++ "/login"))).result with
    | .ok message => (.ok (), (d.call (loginPost s username password)).2.write (·.success message))
    | .error e => (.error e, (d.call (loginPost s username password)).2) := by
  have unfilled : ¬ (Text.trimmed username = "" ∨ password = "") := by simpa using filled
  simp only [signIn, LoginGate.attempt, LoginGate.prepare?_eq, if_neg unfilled, service_loginRequest,
    s.service_endpoint]
  rfl

end Filled

/-! ## The whole command -/

section Courses

variable {credentials : Option (String × String)} {requests : List Request} {printed : List Printed}
  {result : Except DeskError Unit}

/-- The last request asks to compile the file, and what came back for it brings what was produced. -/
def AnsweredWith (s : Settings) (file : String) (d : Desk) (requests : List Request)
    (artifacts : Artifacts) : Prop :=
  ∃ before source, SourceFile.Holds file d.files source ∧
    requests = before ++ [compilePost s source] ∧
    (nextOutcome d before.length (s.baseUrl ++ "/compile")).Compiled artifacts

theorem answeredWith_append {artifacts : Artifacts} (held : SourceFile.Holds file d.files source)
    (before : List Request) : AnsweredWith s file d (before ++ [compilePost s source]) artifacts ↔
      (nextOutcome d before.length (s.baseUrl ++ "/compile")).Compiled artifacts := by
  constructor
  · rintro ⟨before', _, _, same, compiled⟩
    obtain rfl := (List.append_inj' same rfl).1
    exact compiled
  · intro compiled
    exact ⟨before, source, held, rfl, compiled⟩

theorem not_answeredWith_nil (artifacts : Artifacts) : ¬ AnsweredWith s file d [] artifacts := by
  rintro ⟨before, _, _, same, _⟩
  simp at same

theorem not_answeredWith_loginPost (artifacts : Artifacts) :
    ¬ AnsweredWith s file d [loginPost s username password] artifacts := by
  rintro ⟨before, source, _, same, _⟩
  rw [← List.nil_append [loginPost s username password]] at same
  have requests := List.singleton_inj.mp (List.append_inj' same rfl).2
  have types := congrArg Request.contentType requests
  simp [loginPost, compilePost] at types

/-- With a compile request a course ends as what came back for it, and else without success. -/
theorem Course.ends (course : Course h s file d credentials requests printed result) :
    (∃ outcome printed', Ends h s file d.files outcome printed' result ∧
      printed.filter Printed.isChannel = printed'.filter Printed.isChannel ∧
      ∀ artifacts, AnsweredWith s file d requests artifacts ↔ outcome.Compiled artifacts) ∨
    result ≠ .ok () ∧ printed = [] ∧ ∀ artifacts, ¬ AnsweredWith s file d requests artifacts := by
  cases course with
  | missing absent => exact .inr ⟨nofun, rfl, not_answeredWith_nil⟩
  | unreadable present read => exact .inr ⟨nofun, rfl, not_answeredWith_nil⟩
  | unfilled held unfilled => exact .inr ⟨nofun, rfl, not_answeredWith_nil⟩
  | unanswered held filled login => exact .inr ⟨nofun, rfl, not_answeredWith_loginPost⟩
  | rejected held filled login refused => exact .inr ⟨nofun, rfl, not_answeredWith_loginPost⟩
  | admitted held filled login accepted ends =>
    exact .inl ⟨_, _, ends, rfl, fun _ => answeredWith_append held [_]⟩
  | direct held ends => exact .inl ⟨_, _, ends, rfl, fun _ => answeredWith_append held []⟩

end Courses

end Command
end CompileDesk
