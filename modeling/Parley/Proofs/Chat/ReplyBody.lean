import Parley.Chat.Reply
import Parley.Proofs.Record.Passing

/-!
# The body of a whole reply

What a whole reply says is the error that it reports, or the message of its first choice.
Before that is looked at, all members of the body have to have their shape: a member that the
client knows of may be left out, but one of another type spoils the body, whatever the other
members are.
-/

namespace Parley

open Checked

theorem nonEmpty?_eq_some_iff {found : Option String} {text : String} :
    nonEmpty? found = some text ↔ found = some text ∧ text ≠ "" := by
  cases found with
  | none => simp [nonEmpty?]
  | some s =>
      rw [nonEmpty?]
      split
      case isTrue hempty =>
          have hs : s = "" := String.isEmpty_iff.mp hempty
          subst hs
          simp [eq_comm]
      case isFalse hpresent =>
          have hs : s ≠ "" := fun hs => hpresent (String.isEmpty_iff.mpr hs)
          constructor
          · intro heq
            exact ⟨heq, Option.some.inj heq ▸ hs⟩
          · exact And.left

/-! ## What a reply says -/

namespace Reply

variable {reply : Reply} {text : String}

/-- A reply with an error that has a message. -/
def Reports (reply : Reply) (text : String) : Prop :=
  ∃ error, reply.error = some error ∧ error.message = text ∧ text ≠ ""

/-- A reply without an error, or with one that has no message. -/
def Quiet (reply : Reply) : Prop :=
  ∀ error, reply.error = some error → error.message = ""

/-- A reply whose first choice has a message. -/
def Holds (reply : Reply) (text : String) : Prop :=
  ∃ choice rest message, reply.choices = choice :: rest ∧ choice.message = some message ∧
    message.content = text

theorem reported?_eq_some_iff : reply.reported? = some text ↔ reply.Reports text := by
  rw [reported?, Option.bind_eq_some_iff, Reports]
  simp only [nonEmpty?_eq_some_iff, Option.some.injEq]

theorem reported?_eq_none_iff : reply.reported? = none ↔ reply.Quiet := by
  rw [Option.eq_none_iff_forall_ne_some]
  constructor
  · intro hnone error herror
    by_cases hempty : error.message = ""
    · exact hempty
    · exact absurd (reported?_eq_some_iff.mpr ⟨error, herror, rfl, hempty⟩) (hnone error.message)
  · intro hquiet text hsome
    obtain ⟨error, herror, hmessage, hpresent⟩ := reported?_eq_some_iff.mp hsome
    exact hpresent (hmessage.symm.trans (hquiet error herror))

theorem content?_eq_some_iff : reply.content? = some text ↔ reply.Holds text := by
  rw [content?, Holds]
  cases reply.choices with
  | nil => simp
  | cons choice rest => cases choice.message <;> simp

end Reply

/-! ## The shape of a reply -/

theorem Role.passes_check {value : Json} :
    Passes (check value) ↔ ∃ role : Role, value = .string role.name := by
  cases value with
  | string s =>
      constructor
      · intro hpasses
        rw [check, ofName?] at hpasses
        split at hpasses
        case isTrue huser => exact ⟨user, congrArg Json.string huser⟩
        split at hpasses
        case isTrue hassistant => exact ⟨assistant, congrArg Json.string hassistant⟩
        split at hpasses
        case isTrue hsystem => exact ⟨system, congrArg Json.string hsystem⟩
        case isFalse => exact absurd hpasses (not_passes_fail _)
      · rintro ⟨role, hrole⟩
        rw [Json.string.inj hrole, check, ofName?_name]
        exact passes_ok role
  | null | bool _ | integer _ | float _ | array _ | object _ => simp [check]

/-- The members of a message. -/
structure Message.Admissible (found : List (String × Json)) : Prop where
  role : ∃ role : Role, Json.member? "role" found = some (.string role.name)
  content : ∃ content, Json.member? "content" found = some (.string content)

/-- The members of a choice in a whole reply. -/
structure ReplyChoice.Admissible (found : List (String × Json)) : Prop where
  message : ∀ value, Json.member? "message" found = some value →
    value = .null ∨ ∃ members, value = .object members ∧ Message.Admissible members
  finishReason : ∀ value, Json.member? "finish_reason" found = some value →
    value = .null ∨ ∃ reason, value = .string reason

/-- The members of an error that the server reports. -/
structure ReplyError.Admissible (found : List (String × Json)) : Prop where
  message : ∀ value, Json.member? "message" found = some value → ∃ text, value = .string text
  kind : ∀ value, Json.member? "type" found = some value → ∃ kind, value = .string kind

/-- The members of a whole reply. -/
structure Reply.Admissible (found : List (String × Json)) : Prop where
  id : ∀ value, Json.member? "id" found = some value → ∃ id, value = .string id
  choices : ∀ value, Json.member? "choices" found = some value →
    ∃ items, value = .array items ∧
      ∀ item ∈ items, ∃ members, item = .object members ∧ ReplyChoice.Admissible members
  error : ∀ value, Json.member? "error" found = some value →
    value = .null ∨ ∃ members, value = .object members ∧ ReplyError.Admissible members

variable {found : List (String × Json)}

theorem Message.passes_check {value : Json} :
    Passes (check value) ↔ ∃ members, value = .object members ∧ Admissible members := by
  have hmembers (members : List (String × Json)) :
      Passes (ofMembers members) ↔ Admissible members := by
    rw [ofMembers, passes_both, passes_required, passes_required]
    simp only [Role.passes_check, passes_text]
    constructor
    · rintro ⟨⟨_, hrole, role, rfl⟩, _, hcontent, content, rfl⟩
      exact ⟨⟨role, hrole⟩, content, hcontent⟩
    · rintro ⟨⟨role, hrole⟩, content, hcontent⟩
      exact ⟨⟨_, hrole, role, rfl⟩, _, hcontent, content, rfl⟩
  have hobject : Passes (check value) ↔ Passes (Checked.object ofMembers value) := Iff.rfl
  rw [hobject, passes_object]
  simp only [hmembers]

theorem ReplyChoice.passes_ofMembers : Passes (ofMembers found) ↔ Admissible found := by
  rw [ofMembers, passes_both, passes_optional, optionalText, passes_optional]
  simp only [passes_nullable, Message.passes_check, passes_text]
  exact ⟨fun h => ⟨h.1, h.2⟩, fun h => ⟨h.message, h.finishReason⟩⟩

theorem ReplyError.passes_ofMembers : Passes (ofMembers found) ↔ Admissible found := by
  rw [ofMembers, passes_both, passes_optional, passes_optional]
  simp only [passes_text]
  exact ⟨fun h => ⟨h.1, h.2⟩, fun h => ⟨h.message, h.kind⟩⟩

/-- A reply can be made of members exactly if each of them that is there has its shape. -/
theorem Reply.passes_ofMembers : Passes (ofMembers found) ↔ Admissible found := by
  rw [ofMembers, passes_both, passes_both, passes_optional, passes_optional, passes_optional]
  simp only [passes_nullable, passes_items, passes_object, passes_text,
    ReplyChoice.passes_ofMembers, ReplyError.passes_ofMembers]
  exact ⟨fun h => ⟨h.1, h.2.1, h.2.2⟩, fun h => ⟨h.id, h.choices, h.error⟩⟩

/-! ## Members that name an error -/

namespace Reply

variable {reply : Reply} {text : String}

/-- Members with an error that has a message. -/
structure Names (found : List (String × Json)) (text : String) : Prop where
  present : text ≠ ""
  error : ∃ error, Json.member? "error" found = some (.object error) ∧
    Json.member? "message" error = some (.string text)

theorem reports_of_names (hnames : Names found text) (hreply : ofMembers found = .ok reply) :
    reply.Reports text := by
  obtain ⟨hpresent, members, hmembers, hmessage⟩ := hnames
  obtain ⟨id, rest, -, hrest, rfl⟩ := both_eq_ok hreply
  obtain ⟨choices, error, -, herror, rfl⟩ := both_eq_ok hrest
  have hchecked := under_eq_ok herror
  rw [hmembers] at hchecked
  change (ReplyError.ofMembers members).map some = .ok error at hchecked
  cases hmade : ReplyError.ofMembers members with
  | error problems =>
      rw [hmade] at hchecked
      exact absurd hchecked (by simp [Except.map])
  | ok made =>
      rw [hmade] at hchecked
      obtain ⟨message, kind, htext, -, rfl⟩ := both_eq_ok hmade
      have hsame := under_eq_ok htext
      rw [hmessage] at hsame
      exact ⟨_, (Except.ok.inj hchecked).symm, (Except.ok.inj hsame).symm, hpresent⟩

end Reply

end Parley
