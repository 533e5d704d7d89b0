import CompileDesk.Canvas.Display
import CompileDesk.Canvas.Widget
import CompileDesk.Interactive.Loop

/-! # The screens

Each screen is painted on a canvas of the size of the terminal. Of the password only its length is
seen. What the terminal shows after some drawings depends on all of them since it was cleared.
-/

namespace CompileDesk.App

open Canvas

def statusColour : StatusKind → Colour
  | .info => .cyan
  | .success => .green
  | .warning => .yellow
  | .error => .red

def statusSpans : Option Status → List Span
  | none => []
  | some s =>
    [⟨s.time.timeOfDay ++ " ", .coloured .darkGray⟩, ⟨s.text, .coloured (statusColour s.kind)⟩]

def sourceStyle : Theme → Style
  | .light => { foreground := some .black, background := some .white }
  | .dark => { foreground := some .gray, background := some .black }

/-! ## The login screen -/

/-- What is shown in place of a secret: a star for each character. -/
def mask (secret : String) : String := Text.repeated (Text.width secret) '*'

def fieldStyle (form : LoginForm) (field : LoginField) : Style :=
  .coloured (if form.focus = field then .cyan else .darkGray)

def buttonStyle (form : LoginForm) : Style :=
  if form.focus = .button then
    { foreground := some .black, background := some .cyan, bold := true }
  else .coloured .cyan

def buttonLabel (form : LoginForm) : String :=
  if form.pending then " Signing in... " else " Sign in "

/-- The last line of the login screen. -/
def loginHelp : String := " Tab: next field | Enter: sign in | Esc: quit "

def drawLogin (form : LoginForm) (c : Canvas) : Canvas :=
  let box := c.area.centred 50 60
  let c := (c.clear box).frame box ⟨" mjc ─ sign in ", none, .coloured .cyan⟩
  let rows := box.framed.shrunk.rows [.exactly 3, .exactly 3, .exactly 1, .exactly 1, .atLeast 1]
  let c := c.framedParagraph (Rect.part rows 0) ⟨" Username ", none, fieldStyle form .username⟩ {} .cut
    (Line.ofText form.username)
  let c := c.framedParagraph (Rect.part rows 1) ⟨" Password ", none, fieldStyle form .password⟩ {} .cut
    (Line.ofText (mask form.password))
  let c := c.paragraph (Rect.part rows 2) {} .cut [⟨[⟨buttonLabel form, buttonStyle form⟩], {}⟩]
  let c := c.paragraph (Rect.part rows 4) {} (.wrap true) [⟨statusSpans form.message, {}⟩]
  c.paragraph ⟨0, c.height - 1, c.width, 1⟩ (.coloured .darkGray) .cut (Line.ofText loginHelp)

/-! ## The workspace -/

def lineNumber (n : Nat) : String :=
  let digits := Text.ofNat n
  Text.repeated (3 - Text.width digits) ' ' ++ digits ++ " "

def sourceLines (source : String) : List Line :=
  (Text.linesOf source).zipIdx.map fun (text, n) =>
    ⟨[⟨lineNumber (n + 1), .coloured .darkGray⟩, ⟨text, {}⟩], {}⟩

def accent : Style := { foreground := some .cyan, bold := true }

def svgSummary (path : Option String) (bytes : Nat) : String :=
  match path with
  | some path => "SVG (" ++ Text.ofNat bytes ++ " bytes) saved to " ++ path
  | none => "SVG rendered (" ++ Text.ofNat bytes ++ " bytes)"

def diagramLines : DiagramView → List Line
  | .empty => [.styled "No diagram." (.coloured .darkGray)]
  | .rendered path bytes edges =>
    .styled (svgSummary path bytes) (.coloured .green) :: .plain "" ::
      .styled (Text.ofNat edges.length ++ " edges") { bold := true } ::
      edges.map fun e => .plain ("  " ++ e.source ++ " → " ++ e.target)
  | .failed source reason =>
    .styled ("Diagram could not be rendered: " ++ reason) (.coloured .red) :: .plain "" ::
      (Text.linesOf source).map .plain

def symbolLine (row : SymbolRow) : TableRow :=
  ⟨row.cells, if row = .placeholder then .coloured .darkGray else {}⟩

/-- The shares of the columns of the symbol pane. -/
def symbolWidths : List Demand := [.share 30, .share 20, .share 30, .share 20]

def drawOutput (p : Panes) (r : Rect) (c : Canvas) : Canvas :=
  let f : Frame := ⟨" " ++ p.tab.name ++ " ", none, {}⟩
  match p.tab with
  | .assembly =>
    if p.assembly.isEmpty then
      c.framedParagraph r f (.coloured .darkGray) .cut [.plain "No assembly yet."]
    else c.framedParagraph r f {} .cut (Line.ofText p.assembly)
  | .diagram => c.framedParagraph r f {} (.wrap false) (diagramLines p.diagram)
  | .symbols => c.table r f symbolWidths ⟨SymbolRow.columns, accent⟩ (p.symbols.map symbolLine)

def triggerStyle (t : Trigger) : Style :=
  if t.enabled then { foreground := some .black, background := some .green, bold := true }
  else { foreground := some .black, background := some .darkGray }

/-- The last line of the workspace. -/
def workspaceHelp (redirecting : Bool) : String :=
  if redirecting then " Redirecting to the login screen... "
  else " F5/Ctrl+R: compile | e: edit | t: theme | Tab: next tab | q: quit "

def drawWorkspace (a : App) (c : Canvas) : Canvas :=
  let rows := c.area.rows [.exactly 3, .atLeast 5, .exactly 1, .exactly 1]
  let body := (Rect.part rows 1).columns 0 [.share 45, .share 55]
  let c := c.tabs (Rect.part rows 0) ⟨" mjc ─ " ++ a.endpoint ++ " ", none, {}⟩ (.coloured .white) accent
    (Tab.all.map Tab.name) a.panes.tab.index
  let c := c.framedParagraph (Rect.part body 0)
    ⟨" Source ", some (" " ++ a.theme.toggleLabel ++ " "), {}⟩ (sourceStyle a.editorTheme) .cut
    (sourceLines a.source)
  let c := drawOutput a.panes (Rect.part body 1) c
  let trigger : Span := ⟨" " ++ a.session.trigger.label ++ " ", triggerStyle a.session.trigger⟩
  let c := c.paragraph (Rect.part rows 2) {} .cut
    [⟨trigger :: ⟨" ", {}⟩ :: statusSpans a.panes.status, {}⟩]
  c.paragraph (Rect.part rows 3) (.coloured .darkGray) .cut (Line.ofText (workspaceHelp a.isRedirecting))

def draw (width height : Nat) (a : App) : Canvas :=
  match a.screen with
  | .login => drawLogin a.login (.blank width height)
  | .workspace => drawWorkspace a (.blank width height)

/-- What a terminal of a size shows after drawings, given in order. -/
def displayed (width height : Nat) (drawings : List Drawing) : Display :=
  drawings.foldl (fun display d =>
    (if d.cleared then .blank width height else display).refreshed (d.app.draw width height))
    (.blank width height)

end CompileDesk.App
