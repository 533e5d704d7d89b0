import CompileDesk.Login.Gate
import CompileDesk.Proofs.Json.Records

/-!
# The message of a login reply

The body of a login reply is read as a record with one slot, for the message. If the body is an object that
has at most one field of that name, the message is what the object has there, provided that it is a text
and not blank; else there is none. The other fields of the object do not matter.
-/

namespace CompileDesk.LoginGate

variable {fields : List (String × Json)} {body : String}

/-- The message in an object, or the default. -/
def messageOr (default : String) (fields : List (String × Json)) : String :=
  match Json.field? fields "message" with
  | some (.string message) => if Text.blank message then default else message
  | _ => default

theorem contentOf_message (v : Json) :
    ((Json.slotContent? ⟨"message", true⟩ v).bind fun content => ([("message", content)].lookup "message").join) =
      v.asString? := by
  cases v <;> rfl

theorem serverMessage?_of_object (reads : Json.parse body = .ok (.object fields))
    (once : (fields.map (·.1)).count "message" ≤ 1) :
    serverMessage? body =
      ((Json.field? fields "message").bind Json.asString?).filter fun m => !Text.blank m := by
  rw [serverMessage?, Json.readRecord?_of_parse reads, slots, Json.field?_eq_getLast?]
  rw [← Json.length_valuesOf] at once
  match values : Json.valuesOf fields "message" with
  | [] =>
    rw [Json.gathered_of_absent values]
    rfl
  | [v] =>
    rw [Json.gathered_of_single values, Option.bind_map]
    exact congrArg (Option.filter _) (contentOf_message v)
  | v :: w :: more => simp [values] at once

theorem getD_serverMessage? (reads : Json.parse body = .ok (.object fields))
    (once : (fields.map (·.1)).count "message" ≤ 1) (default : String) :
    (serverMessage? body).getD default = messageOr default fields := by
  rw [serverMessage?_of_object reads once, messageOr]
  cases Json.field? fields "message" with
  | none => rfl
  | some v =>
    cases v with
    | string message => cases blank : Text.blank message <;> simp [Json.asString?, Option.filter, blank]
    | _ => rfl

/-- A login is judged by the status alone. Its message is the one in the object that the body is, if the object
has at most one field of that name; without such a text, or with a blank one, the default is shown. -/
theorem conclude_of_object (gate : LoginGate) (endpoint : String) (status : Nat)
    (reads : Json.parse body = .ok (.object fields))
    (once : (fields.map (·.1)).count "message" ≤ 1) :
    gate.conclude endpoint (.ok ⟨status, body⟩) =
      if 200 ≤ status ∧ status ≤ 299 then
        .accepted (messageOr "Signed in." fields) gate.redirectDelay
      else .rejected (messageOr "Invalid credentials." fields) := by
  have accepts : Reply.isSuccess ⟨status, body⟩ = true ↔ 200 ≤ status ∧ status ≤ 299 := by
    simp [Reply.isSuccess, Nat.lt_succ_iff]
  simp only [conclude, accepts, getD_serverMessage? reads once]
  rfl

def crowdedFields : List (String × Json) :=
  [("user", .object [("tags", .array [.bool true, .string "\"]\\", .null])]),
    ("message", .string " Hi\n"), ("Message", .bool false)]

def crowdedBody : String :=
  "\x7b\"user\":\x7b\"tags\": [true,\"\\\"]\\\\\",null]\x7d,\"message\" : \" Hi\\n\",\"Message\":false\x7d\n"

theorem conclude_crowdedBody :
    Json.parse crowdedBody = .ok (.object crowdedFields) ∧
      (crowdedFields.map (·.1)).count "message" ≤ 1 ∧
      conclude ⟨1000⟩ "http://host" (.ok ⟨204, crowdedBody⟩) = .accepted " Hi\n" 1000 ∧
      conclude ⟨1000⟩ "http://host" (.ok ⟨401, crowdedBody⟩) = .rejected " Hi\n" := by
  have reads : Json.parse crowdedBody = .ok (.object crowdedFields) := by cbv
  have once : (crowdedFields.map (·.1)).count "message" ≤ 1 := by decide
  refine ⟨reads, once, ?_, ?_⟩
  · rw [conclude_of_object ⟨1000⟩ "http://host" 204 reads once]
    decide +kernel
  · rw [conclude_of_object ⟨1000⟩ "http://host" 401 reads once]
    decide +kernel

end CompileDesk.LoginGate
