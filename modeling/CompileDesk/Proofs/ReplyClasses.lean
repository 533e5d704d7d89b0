import CompileDesk.Proofs.ReplyView
import CompileDesk.Proofs.SessionInvariant

/-!
# What a reply is taken for

The status 401 ends the session whatever the body says. Under every other status an object is taken for a success
or for a failure by its flag, or by the status where it has none, and a failure is told by the first of
two texts that is not blank. None of this looks at another field. Whatever comes back for the request in
flight, the user is told something, and of a failure just that text.
-/

namespace CompileDesk

theorem Text.blank_append_of_left {s : String} (h : blank s = false) (t : String) :
    blank (s ++ t) = false := by
  rw [blank, String.toList_append, List.all_append, Bool.and_eq_false_iff]
  exact .inl h

namespace Verdict

variable {fields : List (String × Json)} {status : Nat}

/-! ## Success and failure -/

/-- The statuses that tell success. -/
def IsSuccessStatus (status : Nat) : Prop := 200 ≤ status ∧ status ≤ 299

theorem isSuccess_iff (r : Reply) : r.isSuccess = true ↔ IsSuccessStatus r.status := by
  simp [Reply.isSuccess, IsSuccessStatus, Nat.lt_succ_iff]

/-- An object without a flag of success. -/
def Unflagged (fields : List (String × Json)) : Prop :=
  ∀ flag, Json.field? fields "success" ≠ some (.bool flag)

/-- An object that is taken for a success under a status. -/
inductive Succeeds (status : Nat) (fields : List (String × Json)) : Prop
  | flagged (flag : Json.field? fields "success" = some (.bool true))
  | unflagged (unflagged : Unflagged fields) (success : IsSuccessStatus status)

/-- An object that is taken for a failure under a status. -/
inductive Fails (status : Nat) (fields : List (String × Json)) : Prop
  | flagged (flag : Json.field? fields "success" = some (.bool false))
  | unflagged (unflagged : Unflagged fields) (failure : ¬ IsSuccessStatus status)

theorem reportsSuccess_of_flag {flag : Bool} (h : Json.field? fields "success" = some (.bool flag))
    (success : Bool) : reportsSuccess success fields = flag := by
  rw [reportsSuccess, h]

theorem reportsSuccess_of_unflagged (h : Unflagged fields) (success : Bool) :
    reportsSuccess success fields = success := by
  rw [reportsSuccess]
  split
  · rename_i flag found
    exact absurd found (h flag)
  · rfl

theorem Succeeds.reportsSuccess {r : Reply} (h : Succeeds r.status fields) :
    reportsSuccess r.isSuccess fields = true := by
  cases h with
  | flagged flag => exact reportsSuccess_of_flag flag _
  | unflagged unflagged success =>
    rw [reportsSuccess_of_unflagged unflagged]
    exact (isSuccess_iff r).mpr success

theorem Fails.reportsSuccess {r : Reply} (h : Fails r.status fields) :
    reportsSuccess r.isSuccess fields = false := by
  cases h with
  | flagged flag => exact reportsSuccess_of_flag flag _
  | unflagged unflagged failure =>
    rw [reportsSuccess_of_unflagged unflagged, Bool.eq_false_iff]
    exact fun success => failure ((isSuccess_iff r).mp success)

theorem succeeds_or_fails (status : Nat) (fields : List (String × Json)) :
    Succeeds status fields ∨ Fails status fields := by
  by_cases flagged : ∃ flag, Json.field? fields "success" = some (.bool flag)
  · obtain ⟨flag, found⟩ := flagged
    cases flag with
    | true => exact .inl (.flagged found)
    | false => exact .inr (.flagged found)
  · have unflagged : Unflagged fields := fun flag found => flagged ⟨flag, found⟩
    by_cases success : IsSuccessStatus status
    · exact .inl (.unflagged unflagged success)
    · exact .inr (.unflagged unflagged success)

/-! ## The text of a failure -/

/-- The object has a text under a name, and the text is not blank. -/
structure Tells (fields : List (String × Json)) (name text : String) : Prop where
  found : Json.field? fields name = some (.string text)
  notBlank : Text.blank text = false

/-- The text of a failure: the first of two fields that says something, or else the generic text. -/
inductive Reason (fields : List (String × Json)) : String → Prop
  | error {text : String} (told : Tells fields "error" text) : Reason fields text
  | message {text : String} (noError : ∀ other, ¬ Tells fields "error" other)
    (told : Tells fields "message" text) : Reason fields text
  | generic (noError : ∀ other, ¬ Tells fields "error" other)
    (noMessage : ∀ other, ¬ Tells fields "message" other) :
    Reason fields "The compiler service reported an error without details."

theorem message?_eq_some_iff (name text : String) :
    ReplyView.message? fields name = some text ↔ Tells fields name text := by
  rw [ReplyView.message?, Option.filter_eq_some_iff, ReplyView.text?]
  constructor
  · rintro ⟨found, notBlank⟩
    obtain ⟨v, there, isText⟩ := Option.bind_eq_some_iff.mp found
    cases v with
    | string s =>
      obtain rfl : s = text := Option.some.inj isText
      exact ⟨there, by simpa using notBlank⟩
    | _ => cases isText
  · rintro ⟨found, notBlank⟩
    rw [found, notBlank]
    exact ⟨rfl, rfl⟩

theorem message?_eq_none_iff (name : String) :
    ReplyView.message? fields name = none ↔ ∀ text, ¬ Tells fields name text := by
  simp only [← message?_eq_some_iff]
  exact Option.eq_none_iff_forall_ne_some

theorem refusalReason_reason (fields : List (String × Json)) : Reason fields (refusalReason fields) := by
  rw [ReplyView.refusalReason_eq]
  cases error : ReplyView.message? fields "error" with
  | some text => exact .error ((message?_eq_some_iff _ _).mp error)
  | none =>
    have noError := (message?_eq_none_iff _).mp error
    cases message : ReplyView.message? fields "message" with
    | some text => exact .message noError ((message?_eq_some_iff _ _).mp message)
    | none => exact .generic noError ((message?_eq_none_iff _).mp message)

theorem reason_iff {text : String} : Reason fields text ↔ refusalReason fields = text := by
  constructor
  · intro reason
    rw [ReplyView.refusalReason_eq]
    cases reason with
    | error told => rw [(message?_eq_some_iff _ _).mpr told, Option.some_or, Option.getD_some]
    | message noError told =>
      rw [(message?_eq_none_iff _).mpr noError, Option.none_or, (message?_eq_some_iff _ _).mpr told,
        Option.getD_some]
    | generic noError noMessage =>
      rw [(message?_eq_none_iff _).mpr noError, Option.none_or, (message?_eq_none_iff _).mpr noMessage]
      rfl
  · rintro rfl
    exact refusalReason_reason fields

theorem Reason.not_blank {text : String} (h : Reason fields text) : Text.blank text = false := by
  cases h with
  | error told => exact told.notBlank
  | message _ told => exact told.notBlank
  | generic => decide +kernel

/-! ## Verdicts -/

section Object

variable {r : Reply} (other : r.status ≠ 401) (reads : Json.parse r.body = .ok (.object fields))
include other reads

theorem ofReply_of_object : ofReply r = ofFields r.isSuccess fields := by
  have notExpired : (r.status == sessionExpiredStatus) = false := beq_false_of_ne other
  simp only [ofReply, notExpired, reads, Bool.false_eq_true, ↓reduceIte]

theorem ofReply_of_fails (fails : Fails r.status fields) :
    ofReply r = .ok (.refused (refusalReason fields)) := by
  rw [ofReply_of_object other reads, ofFields, fails.reportsSuccess]
  rfl

theorem ofReply_of_succeeds (succeeds : Succeeds r.status fields) :
    ofReply r = (symbolTable (Json.field? fields "symbolTable")).map fun symbols =>
      .compiled ⟨(firstText? fields ["asmCode", "asmResult"]).getD "",
        firstText? fields ["dotCode", "dotResult"], symbols⟩ := by
  rw [ofReply_of_object other reads, ofFields, succeeds.reportsSuccess]
  rfl

theorem Succeeds.ne_refused (succeeds : Succeeds r.status fields) (text : String) :
    ofReply r ≠ .ok (.refused text) := by
  rw [ofReply_of_succeeds other reads succeeds]
  cases symbolTable (Json.field? fields "symbolTable") <;> nofun

end Object

/-- A reply is a refusal exactly if its body is an object that is taken for a failure; the message is its
reason. -/
theorem ofReply_eq_refused_iff (r : Reply) (text : String) : ofReply r = .ok (.refused text) ↔
    r.status ≠ 401 ∧ ∃ fields, Json.parse r.body = .ok (.object fields) ∧ Fails r.status fields ∧
      Reason fields text := by
  constructor
  · intro refused
    have other : r.status ≠ 401 := by
      intro expired
      rw [(ofReply_eq_sessionExpired_iff r).mpr expired] at refused
      cases refused
    have notExpired : (r.status == sessionExpiredStatus) = false := beq_false_of_ne other
    refine ⟨other, ?_⟩
    cases reads : Json.parse r.body with
    | error detail => simp [ofReply, notExpired, reads] at refused
    | ok v =>
      cases v with
      | object fields =>
        rcases succeeds_or_fails r.status fields with succeeds | fails
        · exact absurd refused (succeeds.ne_refused other reads text)
        · refine ⟨fields, rfl, fails, reason_iff.mpr ?_⟩
          rw [ofReply_of_fails other reads fails] at refused
          cases refused
          rfl
      | _ => simp [ofReply, notExpired, reads] at refused
  · rintro ⟨other, fields, reads, fails, reason⟩
    rw [ofReply_of_fails other reads fails, reason_iff.mp reason]

end Verdict

namespace Session

variable {σ : Type}

theorem refusalMessage_of_not_blank {text : String} (h : Text.blank text = false) :
    refusalMessage text = text := by
  simp [refusalMessage, h]

theorem unreachableMessage_not_blank (endpoint detail : String) :
    Text.blank (unreachableMessage endpoint detail) = false := by
  have start : Text.blank "Could not connect to the compiler service at " = false := by decide +kernel
  have named := Text.blank_append_of_left start endpoint
  have asked := Text.blank_append_of_left named ". Is the server running? ("
  exact Text.blank_append_of_left (Text.blank_append_of_left asked detail) ")"

theorem unreadableMessage_not_blank (fault : ReplyFault) : Text.blank (unreadableMessage fault) = false := by
  have start : Text.blank "The compiler service returned an unreadable response: " = false := by
    decide +kernel
  exact Text.blank_append_of_left start fault.message

theorem expiredMessage_not_blank : Text.blank expiredMessage = false := by decide +kernel

theorem successMessage_not_blank : Text.blank successMessage = false := by decide +kernel

/-- Judging an outcome leaves a status that says something; that of a refusal is its message. -/
theorem judge_status (presenter : Presenter σ) (endpoint : String) (delay : Nat) (outcome : Outcome)
    (p : Panes) (s : σ) :
    ∃ status, (judge presenter endpoint delay outcome p s).2.2.1.status = some status ∧
      Text.blank status.text = false ∧
      ∀ r text, outcome = .ok r → Verdict.ofReply r = .ok (.refused text) → status.text = text := by
  cases outcome with
  | error e => exact ⟨_, rfl, unreachableMessage_not_blank endpoint e.detail, nofun⟩
  | ok r =>
    cases verdict : Verdict.ofReply r with
    | error fault =>
      simp only [judge, verdict]
      refine ⟨_, rfl, unreadableMessage_not_blank fault, ?_⟩
      rintro _ text ⟨⟩ refused
      simp [verdict] at refused
    | ok verdict' =>
      simp only [judge, verdict]
      cases verdict' with
      | sessionExpired =>
        refine ⟨_, rfl, expiredMessage_not_blank, ?_⟩
        rintro _ text ⟨⟩ refused
        simp [verdict] at refused
      | compiled artifacts =>
        refine ⟨_, rfl, successMessage_not_blank, ?_⟩
        rintro _ text ⟨⟩ refused
        simp [verdict] at refused
      | refused message =>
        obtain ⟨-, fields, -, -, reason⟩ := (Verdict.ofReply_eq_refused_iff r message).mp verdict
        have told := refusalMessage_of_not_blank reason.not_blank
        refine ⟨_, rfl, ?_, ?_⟩
        · change Text.blank (refusalMessage message) = false
          rw [told]
          exact reason.not_blank
        · rintro _ text ⟨⟩ refused
          rw [verdict] at refused
          cases refused
          exact told

/-- The session is over exactly under the status 401. Under another one, an object is refused exactly if it is
taken for a failure, whatever its other fields hold, with the reason that it gives. And whenever the request
in flight is settled, there is a status line that says something, after a refusal the reason. -/
theorem outcomes_classified_and_told (presenter : Presenter σ) (endpoint : String) (id : RequestId)
    (b : Bench σ) :
    (∀ r, Verdict.ofReply r = .ok .sessionExpired ↔ r.status = 401) ∧
    (∀ r fields, r.status ≠ 401 → Json.parse r.body = .ok (.object fields) →
      (Verdict.Fails r.status fields ↔
        ∃ text, Verdict.Reason fields text ∧ Verdict.ofReply r = .ok (.refused text))) ∧
    ∀ outcome, (settle presenter endpoint id outcome b).1 ≠ .stale →
      ∃ status, (settle presenter endpoint id outcome b).2.panes.status = some status ∧
        Text.blank status.text = false ∧
        ∀ r text, outcome = .ok r → Verdict.ofReply r = .ok (.refused text) → status.text = text := by
  refine ⟨Verdict.ofReply_eq_sessionExpired_iff, ?_, ?_⟩
  · intro r fields other reads
    constructor
    · intro fails
      exact ⟨_, Verdict.refusalReason_reason fields, Verdict.ofReply_of_fails other reads fails⟩
    · rintro ⟨text, -, refused⟩
      obtain ⟨-, fields', reads', fails, -⟩ := (Verdict.ofReply_eq_refused_iff r text).mp refused
      rw [reads] at reads'
      cases reads'
      exact fails
  · intro outcome current
    rw [Ne, settle_eq_stale_iff, Classical.not_not] at current
    rw [settle_of_eq presenter endpoint outcome current]
    exact judge_status presenter endpoint _ outcome _ _

def failedFields : List (String × Json) :=
  [("symbolTable", .array [.null]), ("success", .bool false), ("error", .string " \t"),
    ("message", .string "line 3: ; expected")]

def failedBody : String :=
  "\x7b\"symbolTable\":[null],\"success\":false,\"error\":\" \\t\",\"message\":\"line 3: ; expected\"\x7d"

/-- A failure under the status 200 with a blank text, a second text and a broken symbol table. -/
theorem failedBody_told :
    let b : Bench Unit := ⟨Session.submitted ⟨2000, .idle, none, .ready⟩ ⟨7⟩, {}, ()⟩
    let presenter : Presenter Unit :=
      ⟨.ofFunction fun _ => .error (.unavailable "dot"), fun _ => ⟨2000, 1, 2, 3, 4, 5, 678⟩⟩
    Verdict.ofReply ⟨200, failedBody⟩ = .ok (.refused "line 3: ; expected") ∧
      ∃ status, (settle presenter "" ⟨7⟩ (.ok ⟨200, failedBody⟩) b).2.panes.status = some status ∧
        status.text = "line 3: ; expected" := by
  intro b presenter
  obtain ⟨-, classified, told⟩ := outcomes_classified_and_told presenter "" ⟨7⟩ b
  have reads : Json.parse failedBody = .ok (.object failedFields) := by cbv
  have fails : Verdict.Fails 200 failedFields := .flagged rfl
  obtain ⟨text, reason, refused⟩ := (classified ⟨200, failedBody⟩ failedFields (by decide) reads).mp fails
  obtain rfl : "line 3: ; expected" = text := by
    rw [← Verdict.reason_iff.mp reason]
    rfl
  have current : (settle presenter "" ⟨7⟩ (.ok ⟨200, failedBody⟩) b).1 ≠ .stale := by
    rw [Ne, settle_eq_stale_iff, Classical.not_not]
    rfl
  obtain ⟨status, shown, -, same⟩ := told _ current
  exact ⟨refused, status, shown, same _ _ rfl refused⟩

end Session
end CompileDesk
