import CompileDesk.Login.Gate
import CompileDesk.Proofs.Json.Texts
import CompileDesk.Service.Wire

/-!
# A login sends what was entered

A login sends one request if the user name is not blank and the password not empty, and none otherwise. The
body of the request is an object with the trimmed user name and the password as it was entered. It is
read as that object whatever characters they consist of; so different credentials have different bodies.
-/

namespace CompileDesk

theorem Text.trimmed_eq_empty_iff (s : String) : Text.trimmed s = "" ↔ Text.blank s = true := by
  have ended (l : List Char) : Text.trimEnd l = [] ↔ ∀ c ∈ l, Text.isBlank c = true := by
    simp [Text.trimEnd, List.dropWhile_eq_nil_iff]
  have empty : Text.trimmed s = "" ↔ Text.trim s.toList = [] := by
    rw [← String.toList_inj, Text.trimmed, String.toList_ofList]
    rfl
  rw [empty, Text.trim, ended, Text.blank, List.all_eq_true]
  constructor
  · intro rest c there
    rw [← List.takeWhile_append_dropWhile (p := Text.isBlank) (l := s.toList)] at there
    rcases List.mem_append.mp there with front | back
    · exact List.mem_takeWhile_imp front
    · exact rest c back
  · intro all c there
    exact all c (List.dropWhile_subset _ there)

namespace Credentials

def fields (c : Credentials) : List (String × Json) :=
  [("username", .string c.username), ("password", .string c.password)]

/-- The body of a login request is read as the credentials. -/
theorem parse_payload (c : Credentials) : Json.parse c.payload = .ok (.object c.fields) := by
  have spells : Json.Spells (.object c.fields) (Json.object c.fields).render := by
    apply Json.spells_render_object
    simp only [fields, List.forall_mem_cons]
    exact ⟨Json.spells_render_string _, Json.spells_render_string _, by simp⟩
  have shallow : (Json.object c.fields).nesting < Json.maxDepth := by
    simp only [fields, Json.nesting, Json.nestingOf]
    decide
  apply Json.Spells.parse _ shallow
  rwa [payload, String.toList_ofList]

theorem payload_inj {c c' : Credentials} : c.payload = c'.payload ↔ c = c' := by
  refine ⟨fun same => ?_, congrArg payload⟩
  have read : Json.parse c.payload = Json.parse c'.payload := congrArg Json.parse same
  rw [parse_payload, parse_payload] at read
  obtain ⟨username, password⟩ := c
  obtain ⟨username', password'⟩ := c'
  simpa [fields] using read

end Credentials

namespace LoginGate

variable (gate : LoginGate) (service : Service) {username password : String} (w : Wire)

theorem prepare?_eq (username password : String) : prepare? username password =
    if Text.trimmed username = "" ∨ password = "" then none
    else some ⟨Text.trimmed username, password⟩ := by
  simp [prepare?, Text.trimmed_eq_empty_iff]

def wireAfter (username password : String) : Wire :=
  (gate.attempt service.endpoint (fun credentials w => w.call (service.loginRequest credentials))
    username password w).2

/-- Both fields are filled in. -/
def Filled (username password : String) : Prop := Text.trimmed username ≠ "" ∧ password ≠ ""

theorem sent_of_filled (filled : Filled username password) :
    (gate.wireAfter service w username password).sent =
      w.sent ++ [service.loginRequest ⟨Text.trimmed username, password⟩] := by
  obtain ⟨named, worded⟩ := filled
  rw [wireAfter, attempt, prepare?_eq, if_neg (by simp [named, worded])]
  rfl

theorem sent_of_not_filled (h : ¬ Filled username password) :
    (gate.wireAfter service w username password).sent = w.sent := by
  have missing : Text.trimmed username = "" ∨ password = "" := by
    by_contra none
    exact h (not_or.mp none)
  rw [wireAfter, attempt, prepare?_eq, if_pos missing]

/-- The login sends this request and no other. -/
def Sends (username password : String) (r : Request) : Prop :=
  (gate.wireAfter service w username password).sent = w.sent ++ [r]

theorem sends_iff (r : Request) : gate.Sends service w username password r ↔
    Filled username password ∧ r = service.loginRequest ⟨Text.trimmed username, password⟩ := by
  by_cases filled : Filled username password
  · rw [Sends, gate.sent_of_filled service w filled]
    simp [filled, eq_comm]
  · rw [Sends, gate.sent_of_not_filled service w filled]
    simp [filled]

/-- A login sends exactly one request if both fields are filled in, and otherwise none. The body of the request
is read as the object of the trimmed user name and of the password as it is; so the bodies of two
logins are the same just when both of these are the same. -/
theorem request_tells_credentials (username password : String) :
    ((∃ r, gate.Sends service w username password r) ↔
      Text.trimmed username ≠ "" ∧ password ≠ "") ∧
    (¬ (Text.trimmed username ≠ "" ∧ password ≠ "") →
      (gate.wireAfter service w username password).sent = w.sent) ∧
    (∀ r, gate.Sends service w username password r →
      r.method = .post ∧ r.url = service.loginUrl ∧ ∃ body, r.body = some body ∧
        Json.parse body = .ok (.object
          [("username", .string (Text.trimmed username)), ("password", .string password)])) ∧
    ∀ (w' : Wire) (username' password' : String) (r r' : Request),
      gate.Sends service w username password r → gate.Sends service w' username' password' r' →
      (r.body = r'.body ↔ Text.trimmed username = Text.trimmed username' ∧ password = password') := by
  refine ⟨?_, gate.sent_of_not_filled service w, ?_, ?_⟩
  · simp only [sends_iff, exists_and_left, exists_eq, and_true]
    rfl
  · intro r sends
    obtain ⟨-, rfl⟩ := (gate.sends_iff service w r).mp sends
    exact ⟨rfl, rfl, _, rfl, Credentials.parse_payload _⟩
  · intro w' username' password' r r' sends sends'
    obtain ⟨-, rfl⟩ := (gate.sends_iff service w r).mp sends
    obtain ⟨-, rfl⟩ := (gate.sends_iff service w' r').mp sends'
    simp only [Service.loginRequest, Option.some.injEq, Credentials.payload_inj, Credentials.mk.injEq]

theorem request_tells_awkward_credentials :
    (Text.trimmed " \"q\\\t" ≠ "" ∧ "\u0001 é𝄞\" " ≠ "") ∧
    ∃ r body, Sends ⟨1000⟩ ⟨"http://host"⟩ (.scripted []) " \"q\\\t" "\u0001 é𝄞\" " r ∧ r.body = some body ∧
      Json.parse body =
        .ok (.object [("username", .string "\"q\\"), ("password", .string "\u0001 é𝄞\" ")]) := by
  have trimmed : Text.trimmed " \"q\\\t" = "\"q\\" := by decide +kernel
  have filled : Text.trimmed " \"q\\\t" ≠ "" ∧ "\u0001 é𝄞\" " ≠ "" := by
    rw [trimmed]
    decide
  obtain ⟨one, _, told, _⟩ := request_tells_credentials ⟨1000⟩ ⟨"http://host"⟩ (.scripted [])
    " \"q\\\t" "\u0001 é𝄞\" "
  obtain ⟨r, sends⟩ := one.mpr filled
  obtain ⟨-, -, body, sent, reads⟩ := told r sends
  rw [trimmed] at reads
  exact ⟨filled, r, body, sends, sent, reads⟩

end LoginGate
end CompileDesk
