import Parley.Exchange.Request
import Parley.Proofs.Json.Writing
import Parley.Proofs.Wire.Encoding
import Parley.Wire.Installed

/-!
# Bodies of requests

A request is sent as the bytes of its JSON text.  Only a request without a model or
without messages has no such bytes; those of any other request are read back as this
request, so requests that differ are sent as different bytes.
-/

namespace Parley

namespace Checked

theorem itemsFrom_map {α : Type} {check : Json → Checked α} {form : α → Json}
    (hcheck : ∀ a, check (form a) = .ok a) (index : Nat) (values : List α) :
    itemsFrom check index (values.map form) = .ok values := by
  induction values generalizing index with
  | nil => rfl
  | cons a others ih =>
      rw [List.map_cons, itemsFrom, hcheck, ih, under_ok, both_ok]

end Checked

namespace Message

theorem check_toJson (m : Message) : check m.toJson = .ok m := by
  have hrole : Role.check (.string m.role.name) = .ok m.role := by
    rw [Role.check, Role.ofName?_name]
    rfl
  rw [check, toJson, Checked.members]
  simp [ofMembers, Checked.required, Json.member?, hrole, Checked.text]

theorem isPlain_toJson (m : Message) : m.toJson.IsPlain := by
  simp [toJson, Json.IsPlain, Json.HasPlainMembers]

theorem nesting_toJson (m : Message) : m.toJson.nesting = 1 := by
  simp [toJson, Json.nesting, Json.nestingMembers]

end Message

namespace Request

/-! ## Requests without a body -/

/-- The problems of a request without a model or without messages. -/
def lacking (model : String) (messages : List Message) : List Problem :=
  (if model = "" then [⟨[.field "model"], .emptyText⟩] else []) ++
    if messages = [] then [⟨[.field "messages"], .emptyList⟩] else []

theorem ofFields_eq (model : String) (messages : List Message) (stream : Bool) :
    ofFields (.string model) messages (.bool stream) =
      if model = "" ∨ messages = [] then .error (lacking model messages)
      else .ok ⟨model, messages, stream⟩ := by
  have hmodel : Checked.nonEmptyText (.string model) =
      if model = "" then Checked.fail .emptyText else .ok model := by
    simp [Checked.nonEmptyText, Checked.text]
  have hmessages : Checked.nonEmptyList messages =
      if messages = [] then Checked.fail .emptyList else .ok messages := by
    simp [Checked.nonEmptyList]
  rw [ofFields, hmodel, hmessages, Checked.flag, lacking]
  by_cases hm : model = "" <;> by_cases hl : messages = [] <;>
    simp [hm, hl, Checked.fail, Checked.under, Checked.both, Problem.here, Problem.under]

/-! ## Bodies that are read back -/

theorem isPlain_toJson (r : Request) : r.toJson.IsPlain := by
  have hmessages (messages : List Message) : Json.ArePlain (messages.map Message.toJson) := by
    induction messages with
    | nil => trivial
    | cons m others ih => exact ⟨m.isPlain_toJson, ih⟩
  simp [toJson, Json.IsPlain, Json.HasPlainMembers, hmessages]

theorem nesting_toJson (r : Request) : r.toJson.nesting ≤ Json.maxDepth := by
  have hmessages (messages : List Message) :
      Json.nestingItems (messages.map Message.toJson) ≤ 1 := by
    induction messages with
    | nil => exact Nat.zero_le 1
    | cons m others ih =>
        rw [List.map_cons, Json.nestingItems, m.nesting_toJson]
        exact Nat.max_le.mpr ⟨Nat.le_refl 1, ih⟩
  have hitems := hmessages r.messages
  have harray : Json.nesting (.array (r.messages.map Message.toJson)) ≤ 2 := by
    rw [Json.nesting]
    split <;> omega
  have hmembers : Json.nestingMembers [("model", .string r.model),
      ("messages", .array (r.messages.map Message.toJson)), ("stream", .bool r.stream)] ≤ 2 := by
    simp only [Json.nestingMembers, Nat.max_le]
    exact ⟨Nat.zero_le 2, harray, Nat.zero_le 2, Nat.zero_le 2⟩
  rw [toJson, Json.nesting, if_neg (by simp), Json.maxDepth]
  omega

theorem decode_body {r : Request} (hmodel : r.model ≠ "") (hmessages : r.messages ≠ []) :
    decode r.body = .ok r := by
  have hread : Json.read r.body = some r.toJson :=
    Json.read_write r.isPlain_toJson r.nesting_toJson
  have hitems : checkMessages (.array (r.messages.map Message.toJson)) = .ok r.messages := by
    rw [checkMessages, Checked.items, Checked.itemsFrom_map Message.check_toJson]
    simp [Checked.nonEmptyList, hmessages]
  simp only [decode, hread, toJson, Checked.members]
  simp [ofMembers, Checked.required, Checked.optional, Json.member?, hitems,
    Checked.nonEmptyText, Checked.text, Checked.flag, hmodel]

/-! ## Bytes -/

/-- The bytes of the body that asks a model to continue a conversation. -/
def encodeBytes (model : String) (messages : List Message) (stream : Bool) :
    Checked (List Wire.Byte) :=
  (encode model messages stream).map fun body => Wire.Utf8.encode body.toList

/-- Reads the bytes of a body, which hold no fault. -/
def decodeBytes (data : List Wire.Byte) : Checked Request :=
  match Wire.Utf8.decode? data with
  | none => Checked.fail .malformed
  | some text => decode text

theorem encodeBytes_eq (model : String) (messages : List Message) (stream : Bool) :
    encodeBytes model messages stream =
      if model = "" ∨ messages = [] then .error (lacking model messages)
      else .ok (Wire.Utf8.encode (body ⟨model, messages, stream⟩).toList) := by
  rw [encodeBytes, encode, ofFields_eq]
  split <;> rfl

theorem decodeBytes_body {r : Request} (hmodel : r.model ≠ "") (hmessages : r.messages ≠ []) :
    decodeBytes (Wire.Utf8.encode r.body.toList) = .ok r := by
  rw [decodeBytes, Wire.Utf8.decode?_encode, String.ofList_toList]
  exact decode_body hmodel hmessages

theorem encodeBytes_eq_ok_iff {model : String} {messages : List Message} {stream : Bool}
    {data : List Wire.Byte} :
    encodeBytes model messages stream = .ok data ↔
      (model ≠ "" ∧ messages ≠ []) ∧
        Wire.Utf8.encode (body ⟨model, messages, stream⟩).toList = data := by
  rw [encodeBytes_eq]
  by_cases hlacking : model = "" ∨ messages = []
  · rw [if_pos hlacking]
    have hnot : ¬(model ≠ "" ∧ messages ≠ []) := by
      rintro ⟨hmodel, hmessages⟩
      exact hlacking.elim hmodel hmessages
    simp [hnot]
  · rw [if_neg hlacking]
    simp [not_or.mp hlacking]

theorem decodeBytes_of_encodeBytes {model : String} {messages : List Message} {stream : Bool}
    {data : List Wire.Byte} (hdata : encodeBytes model messages stream = .ok data) :
    decodeBytes data = .ok ⟨model, messages, stream⟩ := by
  obtain ⟨⟨hmodel, hmessages⟩, rfl⟩ := encodeBytes_eq_ok_iff.mp hdata
  exact decodeBytes_body hmodel hmessages

/-! ## The failure of an exchange -/

theorem sessionHeader_eq_error {config : Config} {failure : Failure}
    (hfailed : Exchange.sessionHeader config = .error failure) :
    ∃ fault, failure = .header fault := by
  rw [Exchange.sessionHeader] at hfailed
  split at hfailed
  · exact absurd hfailed (by simp)
  · split at hfailed
    · exact ⟨_, (Except.error.inj hfailed).symm⟩
    · exact absurd hfailed (by simp)

section Sending

variable [Wire.Platform]

theorem address_ne_unencodable (config : Config) (body text : String) (problems : List Problem) :
    Exchange.address config body ≠ .error (.chat (.unencodable text problems)) := by
  rw [Exchange.address]
  cases Wire.Target.ofAddress config.completionsUrl with
  | error error => simp
  | ok url =>
      cases hheader : Exchange.sessionHeader config with
      | error failure =>
          obtain ⟨fault, rfl⟩ := sessionHeader_eq_error hheader
          simp [Except.map]
      | ok key => simp [Except.map]

theorem start_unencodable_iff (config : Config) (messages : List Message) (stream : Bool) :
    (∃ text problems, (Exchange.start config messages stream).request =
        .error (.chat (.unencodable text problems))) ↔
      config.model = "" ∨ messages = [] := by
  rw [Exchange.start, encode, ofFields_eq]
  by_cases hlacking : config.model = "" ∨ messages = []
  · rw [if_pos hlacking]
    exact iff_of_true ⟨_, _, rfl⟩ hlacking
  · rw [if_neg hlacking]
    refine iff_of_false ?_ hlacking
    rintro ⟨text, problems, hfailed⟩
    exact address_ne_unencodable _ _ _ _ hfailed

/-- A request fails to be encoded exactly if its model or its messages are missing, with
a problem for each.  All others are read back from their bytes, and no two requests have
the same bytes. -/
theorem encodeBytes_lossless :
    (∀ model messages stream problems,
      encodeBytes model messages stream = .error problems ↔
        (model = "" ∨ messages = []) ∧ problems = lacking model messages) ∧
    (∀ config messages stream,
      (∃ text problems, (Exchange.start config messages stream).request =
          .error (.chat (.unencodable text problems))) ↔
        config.model = "" ∨ messages = []) ∧
    (∀ model messages stream, model ≠ "" → messages ≠ [] →
      ∃ data, encodeBytes model messages stream = .ok data ∧
        decodeBytes data = .ok ⟨model, messages, stream⟩) ∧
    (∀ (r r' : Request) (data : List Wire.Byte),
      encodeBytes r.model r.messages r.stream = .ok data →
        encodeBytes r'.model r'.messages r'.stream = .ok data → r = r') := by
  refine ⟨?_, start_unencodable_iff, ?_, ?_⟩
  · intro model messages stream problems
    rw [encodeBytes_eq]
    by_cases hlacking : model = "" ∨ messages = []
    · rw [if_pos hlacking]
      simp [hlacking, eq_comm]
    · rw [if_neg hlacking]
      simp [hlacking]
  · intro model messages stream hmodel hmessages
    have hdata := encodeBytes_eq_ok_iff.mpr
      ⟨⟨hmodel, hmessages⟩, rfl (a := Wire.Utf8.encode (body ⟨model, messages, stream⟩).toList)⟩
    exact ⟨_, hdata, decodeBytes_of_encodeBytes hdata⟩
  · intro r r' data hdata hdata'
    have hread := decodeBytes_of_encodeBytes hdata
    have hread' := decodeBytes_of_encodeBytes hdata'
    rw [hread] at hread'
    exact Except.ok.inj hread'

end Sending

section Installed

attribute [local instance] Wire.Platform.installed

theorem encodeBytes_lossless_escapes :
    "m" ≠ "" ∧ [Message.mk .system "\"\\\x01😀"] ≠ [] ∧
    (∃ data, encodeBytes "m" [⟨.system, "\"\\\x01😀"⟩] false = .ok data ∧
      decodeBytes data = .ok ⟨"m", [⟨.system, "\"\\\x01😀"⟩], false⟩) ∧
    encodeBytes "m" [⟨.user, "\\n"⟩] true ≠ encodeBytes "m" [⟨.user, "\n"⟩] true := by
  have hmodel : "m" ≠ "" := by decide
  obtain ⟨-, -, hback, hinjective⟩ := encodeBytes_lossless
  refine ⟨hmodel, List.cons_ne_nil _ _, hback _ _ _ hmodel (List.cons_ne_nil _ _), ?_⟩
  intro hsame
  obtain ⟨data, hdata, -⟩ := hback "m" [⟨.user, "\\n"⟩] true hmodel (List.cons_ne_nil _ _)
  have hequal := hinjective ⟨"m", [⟨.user, "\\n"⟩], true⟩ ⟨"m", [⟨.user, "\n"⟩], true⟩ data
    hdata (hsame ▸ hdata)
  exact absurd hequal (by decide)

end Installed

end Request

end Parley
