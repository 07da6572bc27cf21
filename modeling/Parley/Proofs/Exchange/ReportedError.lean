import Parley.Proofs.Exchange.Verdict
import Parley.Proofs.Json.Depth
import Parley.Proofs.Json.Writing
import Parley.Proofs.Wire.Encoding

/-!
# Errors that a server reports

The body of a whole reply may hold an error with a message, next to members of any kind.  It
is looked for after the whole body was checked.  So the exchange tells the message, whatever
the status, exactly if every other member that the client knows of has its shape, and if the
body is not nested too deeply and has no number that is too long.  Otherwise the message is
lost and the body counts as unreadable.
-/

namespace Parley

open Checked

namespace Reply

variable {found : List (String × Json)} {data : List Wire.Byte} {t : String}

theorem ofBytes_of_read (hbytes : Wire.Utf8.decode? data = some t)
    (hread : Json.read t = some (.object found)) : ofBytes data = ofMembers found := by
  rw [ofBytes, hbytes]
  dsimp only
  rw [decode, hread]
  rfl

theorem ofBytes_of_unread (hbytes : Wire.Utf8.decode? data = some t)
    (hread : Json.read t = none) : ofBytes data = fail .malformed := by
  rw [ofBytes, hbytes]
  dsimp only
  rw [decode, hread]

section Encoded

variable {s : List Char}

theorem ofBytes_encode (htext : Json.PaddedWithin Json.maxDigits (.object found) s)
    (hdepth : (Json.object found).nesting ≤ Json.maxDepth) :
    ofBytes (Wire.Utf8.encode s) = ofMembers found := by
  refine ofBytes_of_read (Wire.Utf8.decode?_encode s) ?_
  rw [Json.read, String.toList_ofList]
  exact Json.readWithin_padded htext hdepth

theorem ofBytes_encode_of_bad (htext : Json.Padded (.object found) s)
    (hbad : ¬(Json.PaddedWithin Json.maxDigits (.object found) s ∧
      (Json.object found).nesting ≤ Json.maxDepth)) :
    ofBytes (Wire.Utf8.encode s) = fail .malformed := by
  refine ofBytes_of_unread (Wire.Utf8.decode?_encode s) ?_
  rw [Json.read, String.toList_ofList]
  exact Json.readWithin_eq_none htext hbad

end Encoded

end Reply

namespace ReplyRun

section Sending

variable [Wire.Platform]
variable {config : Config} {messages : List Message} {request : SentRequest}
variable {status : Int} {contentType : Option String} {pieces : List (List Wire.Byte)}

/-- The failure that an answer is if its body cannot be read. -/
def misread (status : Int) (contentType : Option String) (data : List Wire.Byte)
    (problems : List Problem) : Failure :=
  if isSuccess status then .chat (unreadable problems) else refusal status contentType data

theorem refusal_ne_serverReported (status : Int) (contentType : Option String)
    (data : List Wire.Byte) (text : String) :
    refusal status contentType data ≠ .chat (.serverReported text) := by
  rw [refusal]
  split
  · rw [ChatFailure.ofStatus]
    split
    · exact fun h => ChatFailure.noConfusion (Failure.chat.inj h)
    · exact fun h => ChatFailure.noConfusion (Failure.chat.inj h)
  · exact Failure.noConfusion

theorem misread_ne_serverReported (status : Int) (contentType : Option String)
    (data : List Wire.Byte) (problems : List Problem) (text : String) :
    misread status contentType data problems ≠ .chat (.serverReported text) := by
  rw [misread]
  split
  · exact fun h => ChatFailure.noConfusion (Failure.chat.inj h)
  · exact refusal_ne_serverReported status contentType data text

section Sent

variable (hsent : (run config messages (.complete status contentType pieces)).request =
  some request)
include hsent

theorem outcome_complete_eq : (run config messages (.complete status contentType pieces)).outcome =
    judge status contentType pieces.flatten := by
  rw [outcome_run_of_sent hsent]
  exact ofAnswer_of_brings ⟨pieces, rfl, rfl⟩

theorem outcome_of_error {problems : List Problem}
    (hread : Reply.ofBytes pieces.flatten = .error problems) :
    (run config messages (.complete status contentType pieces)).outcome =
      .error (misread status contentType pieces.flatten problems) := by
  rw [outcome_complete_eq hsent, judge, hread, misread]
  dsimp only
  split
  · rfl
  · rfl

theorem outcome_of_reports {reply : Reply} {text : String}
    (hread : Reply.ofBytes pieces.flatten = .ok reply) (hreports : reply.Reports text) :
    (run config messages (.complete status contentType pieces)).outcome =
      .error (.chat (.serverReported ("server error: " ++ text))) := by
  rw [outcome_complete_eq hsent, judge, hread]
  dsimp only
  rw [Reply.reported?_eq_some_iff.mpr hreports]

/-- If a body reports an error in case it can be read, the exchange tells it exactly in this
case. -/
theorem outcome_of_passes_iff {text : String}
    (hreports : ∀ reply, Reply.ofBytes pieces.flatten = .ok reply → reply.Reports text) :
    let outcome := (run config messages (.complete status contentType pieces)).outcome
    (outcome = .error (.chat (.serverReported ("server error: " ++ text))) ↔
      Passes (Reply.ofBytes pieces.flatten)) ∧
    (¬Passes (Reply.ofBytes pieces.flatten) → ∃ problems,
      outcome = .error (misread status contentType pieces.flatten problems)) := by
  intro outcome
  cases hread : Reply.ofBytes pieces.flatten with
  | ok reply =>
      have houtcome := outcome_of_reports hsent hread (hreports reply hread)
      exact ⟨iff_of_true houtcome (passes_ok reply), fun hnot => absurd (passes_ok reply) hnot⟩
  | error problems =>
      have houtcome := outcome_of_error hsent hread
      refine ⟨iff_of_false ?_ (not_passes_error problems), fun _ => ⟨problems, houtcome⟩⟩
      intro hreported
      exact misread_ne_serverReported _ _ _ _ _
        (Except.error.inj (houtcome.symm.trans hreported))

/-- Whatever the status and the cuts of the body: if its text is read as an object that names
an error, in which a repeated name counts for the last time, then the exchange tells this error
exactly if all members have their shape.  If it is any text of such an object, it is also
needed that the text is not nested too deeply and that no number in it is too long.  In all
other cases the body counts as unreadable, as it does if its text is not read at all. -/
theorem outcome_names_iff :
    let outcome := (run config messages (.complete status contentType pieces)).outcome
    let reported (text : String) : Except Failure String :=
      .error (.chat (.serverReported ("server error: " ++ text)))
    let unread (problems : List Problem) : Except Failure String :=
      .error (misread status contentType pieces.flatten problems)
    (∀ t, Wire.Utf8.decode? pieces.flatten = some t →
      (Json.read t = none → ∃ problems, outcome = unread problems) ∧
      (∀ found text, Json.read t = some (.object found) → Reply.Names found text →
        (outcome = reported text ↔ Reply.Admissible found) ∧
        (¬Reply.Admissible found → ∃ problems, outcome = unread problems))) ∧
    (∀ s found text, pieces.flatten = Wire.Utf8.encode s → Json.Padded (.object found) s →
      Reply.Names found text →
      let legible := Reply.Admissible found ∧
        Json.PaddedWithin Json.maxDigits (.object found) s ∧
        (Json.object found).nesting ≤ Json.maxDepth
      (outcome = reported text ↔ legible) ∧
      (¬legible → ∃ problems, outcome = unread problems)) := by
  intro outcome reported unread
  refine ⟨?_, ?_⟩
  · intro t hbytes
    refine ⟨?_, ?_⟩
    · intro hunread
      exact ⟨_, outcome_of_error hsent (Reply.ofBytes_of_unread hbytes hunread)⟩
    · intro found text hread hnames
      have hmembers := Reply.ofBytes_of_read hbytes hread
      rw [← Reply.passes_ofMembers, ← hmembers]
      apply outcome_of_passes_iff hsent
      intro reply hreply
      exact Reply.reports_of_names hnames (hmembers.symm.trans hreply)
  · intro s found text hbytes htext hnames legible
    by_cases hgood : Json.PaddedWithin Json.maxDigits (.object found) s ∧
        (Json.object found).nesting ≤ Json.maxDepth
    · have hmembers := Reply.ofBytes_encode hgood.1 hgood.2
      rw [← hbytes] at hmembers
      have hlegible : legible ↔ Passes (Reply.ofBytes pieces.flatten) := by
        rw [hmembers, Reply.passes_ofMembers]
        exact and_iff_left hgood
      rw [hlegible]
      apply outcome_of_passes_iff hsent
      intro reply hreply
      exact Reply.reports_of_names hnames (hmembers.symm.trans hreply)
    · have hfailed := Reply.ofBytes_encode_of_bad htext hgood
      rw [← hbytes] at hfailed
      have houtcome := outcome_of_error hsent hfailed
      refine ⟨iff_of_false ?_ fun h => hgood h.2, fun _ => ⟨_, houtcome⟩⟩
      intro hreported
      exact misread_ne_serverReported _ _ _ _ _
        (Except.error.inj (houtcome.symm.trans hreported))

end Sent

end Sending

section Installed

attribute [local instance] Wire.Platform.installed

/-- The members of a body with an error, whose kind is of any type. -/
def errorMembers (kind : Json) : List (String × Json) :=
  [("error", .object [("message", .string "bad model"), ("type", kind)]), ("usage", .null)]

theorem names_errorMembers (kind : Json) : Reply.Names (errorMembers kind) "bad model" :=
  ⟨by decide, _, rfl, rfl⟩

theorem padded_errorMembers (kind : Json) (hkind : kind.IsPlain) (digits : Nat) :
    Json.PaddedWithin digits (.object (errorMembers kind))
      (Json.written (.object (errorMembers kind))) := by
  have hplain : Json.IsPlain (.object (errorMembers kind)) := by
    simp [errorMembers, Json.IsPlain, Json.HasPlainMembers, hkind]
  exact (Json.spelled_written hplain).padded

/-- A refusal with such a body. -/
def errorAnswer (kind : Json) : Answer :=
  .complete 400 none [Wire.Utf8.encode (Json.written (.object (errorMembers kind)))]

theorem isSome_request_errorAnswer (kind : Json) :
    (run (.defaults "k") [⟨.user, "hi"⟩] (errorAnswer kind)).request.isSome := by
  rw [request_run]
  decide +kernel

theorem outcome_names_iff_errorAnswer :
    (run (.defaults "k") [⟨.user, "hi"⟩] (errorAnswer (.string "x"))).request.isSome ∧
    (run (.defaults "k") [⟨.user, "hi"⟩] (errorAnswer (.string "x"))).outcome =
      .error (.chat (.serverReported "server error: bad model")) := by
  have hsome := isSome_request_errorAnswer (.string "x")
  obtain ⟨request, hsent⟩ := Option.isSome_iff_exists.mp hsome
  have hpadded := padded_errorMembers (.string "x") trivial Json.maxDigits
  have hadmissible : Reply.Admissible (errorMembers (.string "x")) := by
    refine ⟨?_, ?_, ?_⟩
    · simp [errorMembers, Json.member?]
    · simp [errorMembers, Json.member?]
    · intro value hvalue
      right
      refine ⟨_, (Option.some.inj hvalue).symm, ?_, ?_⟩
      · simp [Json.member?]
      · simp [Json.member?]
  obtain ⟨-, hany⟩ := outcome_names_iff hsent
  obtain ⟨hreported, -⟩ := hany _ _ _ List.flatten_singleton ⟨_, hpadded⟩
    (names_errorMembers _)
  exact ⟨hsome, hreported.mpr ⟨hadmissible, hpadded, by decide⟩⟩

/-- If the kind of the error is null, the message is lost. -/
theorem not_reported_nullKind :
    let body :=
      "\x7b\"error\":\x7b\"message\":\"bad model\",\"type\":null\x7d,\"usage\":null\x7d"
    let answer := Answer.complete 400 none [Wire.Utf8.encode body.toList]
    Json.Padded (.object (errorMembers .null)) body.toList ∧
    Reply.Names (errorMembers .null) "bad model" ∧
    (run (.defaults "k") [⟨.user, "hi"⟩] answer).request.isSome ∧
    (run (.defaults "k") [⟨.user, "hi"⟩] answer).outcome ≠
      .error (.chat (.serverReported "server error: bad model")) ∧
    (run (.defaults "k") [⟨.user, "hi"⟩] answer).outcome =
      .error (.chat (.serverStatus 400 body)) := by
  intro body answer
  have hwritten : Json.written (.object (errorMembers .null)) = body.toList := by decide +kernel
  have hsome := isSome_request_errorAnswer .null
  rw [errorAnswer, hwritten] at hsome
  obtain ⟨request, hsent⟩ := Option.isSome_iff_exists.mp hsome
  have houtcome : (run (.defaults "k") [⟨.user, "hi"⟩] answer).outcome =
      .error (.chat (.serverStatus 400 body)) := by
    have hunread : (Reply.ofBytes [Wire.Utf8.encode body.toList].flatten).toOption = none := by
      decide +kernel
    cases hread : Reply.ofBytes [Wire.Utf8.encode body.toList].flatten with
    | ok reply =>
        rw [hread] at hunread
        exact absurd hunread (Option.some_ne_none reply)
    | error problems =>
        have hmisread : misread 400 none [Wire.Utf8.encode body.toList].flatten problems =
            .chat (.serverStatus 400 body) := by
          rw [misread, if_neg (by decide)]
          decide +kernel
        rw [← hmisread]
        exact outcome_of_error hsent hread
  have hpadded : Json.Padded (.object (errorMembers .null)) body.toList :=
    hwritten ▸ ⟨0, padded_errorMembers .null trivial 0⟩
  refine ⟨hpadded, names_errorMembers _, hsome, ?_, houtcome⟩
  rw [houtcome]
  intro hsame
  exact ChatFailure.noConfusion (Failure.chat.inj (Except.error.inj hsame))

end Installed

end ReplyRun

end Parley
