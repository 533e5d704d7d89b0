import CompileDesk.Main
import CompileDesk.Proofs.SessionHistory
import CompileDesk.Proofs.AppChanges
import CompileDesk.Proofs.WorkerRun
import CompileDesk.Proofs.OutstandingCalls
import CompileDesk.Proofs.AppRun
import CompileDesk.Proofs.NavigationSlot
import CompileDesk.Proofs.HeadlessAgreement
import CompileDesk.Proofs.SignIn
import CompileDesk.Proofs.SessionExpiry
import CompileDesk.Proofs.SettingsFile
import CompileDesk.Proofs.PreferencesFile
import CompileDesk.Proofs.ScreenChanges
import CompileDesk.Proofs.ReplyView
import CompileDesk.Proofs.ReplyReading
import CompileDesk.Proofs.PasswordSecrecy
import CompileDesk.Proofs.WorkspaceForm
import CompileDesk.Proofs.ServiceAddress
import CompileDesk.Proofs.SettingChanges
import CompileDesk.Proofs.CompileCommand
import CompileDesk.Proofs.ServerOverride
import CompileDesk.Proofs.Diagram.Chains
import CompileDesk.Proofs.Diagram.QuotedNames
import CompileDesk.Proofs.Diagram.ShownNames
import CompileDesk.Proofs.TableLayout
import CompileDesk.Proofs.ReplyClasses
import CompileDesk.Proofs.SymbolRows
import CompileDesk.Proofs.RefusedChanges
import CompileDesk.Proofs.ThemeCopies
import CompileDesk.Proofs.RendererIsolation
import CompileDesk.Proofs.ColumnNarrowing
import CompileDesk.Proofs.LoginRequest
import CompileDesk.Proofs.LoginReply
import CompileDesk.Proofs.ShownSettings
