import Parley.Endpoint.Choice
import Parley.Proofs.CommandLine.SingleRequest
import Parley.Proofs.Endpoint.Settings

/-!
# Which settings prevail

A flag prevails over a variable of the environment, and the variable over the default; an
empty text that is given counts as given.  What prevails is accepted under conditions that are
stated here setting by setting, without the record that is checked in between.  The session
key of accepted settings is never empty, so every request carries it.
-/

namespace Parley

/-- A value that prevails: the flag if it is given, else the variable if it is set, else the
default. -/
inductive Prevails {α : Type} (flag setting : Option α) (default : α) : α → Prop
  | flag {value : α} (hflag : flag = some value) : Prevails flag setting default value
  | setting {value : α} (hflag : flag = none) (hsetting : setting = some value) :
      Prevails flag setting default value
  | default (hflag : flag = none) (hsetting : setting = none) :
      Prevails flag setting default default

theorem prevails_iff {α : Type} {flag setting : Option α} {default value : α} :
    Prevails flag setting default value ↔ flag.getD (setting.getD default) = value := by
  constructor
  · intro hvalue
    cases hvalue with
    | flag hflag => rw [hflag, Option.getD_some]
    | setting hflag hsetting => rw [hflag, hsetting, Option.getD_none, Option.getD_some]
    | default hflag hsetting => rw [hflag, hsetting, Option.getD_none, Option.getD_none]
  · intro hvalue
    cases hflag : flag with
    | some given =>
        rw [hflag, Option.getD_some] at hvalue
        exact .flag (congrArg some hvalue)
    | none =>
        rw [hflag, Option.getD_none] at hvalue
        cases hsetting : setting with
        | some given =>
            rw [hsetting, Option.getD_some] at hvalue
            exact .setting rfl (congrArg some hvalue)
        | none =>
            rw [hsetting, Option.getD_none] at hvalue
            rw [← hvalue]
            exact .default rfl rfl

/-! ## Checks of single settings -/

namespace Checked

theorem under_eq_ok_iff {α : Type} {step : PathStep} {outcome : Checked α} {a : α} :
    under step outcome = .ok a ↔ outcome = .ok a := by
  refine ⟨under_eq_ok, ?_⟩
  rintro rfl
  rfl

theorem nonEmptyText_string_iff {s t : String} :
    nonEmptyText (.string s) = .ok t ↔ s = t ∧ s ≠ "" := by
  have htext : nonEmptyText (.string s) = if s.isEmpty then fail .emptyText else .ok s := rfl
  rw [htext]
  split
  case isTrue hempty =>
      rw [String.isEmpty_iff] at hempty
      exact iff_of_false (by simp [fail]) fun h => h.2 hempty
  case isFalse hnonempty =>
      rw [String.isEmpty_iff] at hnonempty
      rw [Except.ok.injEq, and_iff_left hnonempty]

theorem positiveNumber_iff {value : Json} {x : Binary64} :
    positiveNumber value = .ok x ↔ number value = .ok x ∧ x.isPositive = true := by
  rw [positiveNumber]
  cases hnumber : number value with
  | error problems => exact iff_of_false (by simp) fun h => absurd h.1 (by simp)
  | ok y =>
      dsimp only
      split
      case isTrue hpositive =>
          constructor
          · intro hok
            rw [← Except.ok.inj hok]
            exact ⟨rfl, hpositive⟩
          · rintro ⟨hok, -⟩
            exact hok
      case isFalse hpositive =>
          refine iff_of_false (by simp [fail]) ?_
          rintro ⟨hok, hx⟩
          rw [← Except.ok.inj hok] at hx
          exact hpositive hx

end Checked

namespace Config

theorem checkUrl_string_iff {address url : String} :
    checkUrl (.string address) = .ok url ↔ Address.normalize address = .ok url := by
  refine ⟨?_, checkUrl_of_normalize⟩
  intro hok
  cases hnormal : Address.normalize address with
  | ok normal =>
      rw [checkUrl_of_normalize hnormal] at hok
      rw [Except.ok.inj hok]
  | error error =>
      rw [checkUrl_of_refused hnormal] at hok
      exact absurd hok (by simp [Checked.fail])

/-! ## The record of settings -/

/-- The four settings as the members of a record. -/
def record (server key model : String) (timeout : Json) : List (String × Json) :=
  [("base_url", .string server), ("session_key", .string key), ("model", .string model),
    ("timeout", timeout)]

theorem withKey_record (now : Int) (server key model : String) (timeout : Json) :
    withKey now (record server key model timeout) =
      record server
        (if key = "" then freshKey (if model = "" then defaultModel else model) now else key)
        model timeout := by
  have hmodel : keyModel (record server key model timeout) =
      if model = "" then defaultModel else model := by
    have hmember : keyModel (record server key model timeout) =
        if model.isEmpty then defaultModel else model := rfl
    rw [hmember]
    simp only [String.isEmpty_iff]
  have hgiven : (Json.member? "session_key" (record server key model timeout)).all
      Json.isBlankValue = key.isEmpty := rfl
  rw [withKey, hmodel, hgiven]
  by_cases hkey : key = ""
  · rw [if_pos (String.isEmpty_iff.mpr hkey), if_pos hkey]
    rfl
  · rw [if_neg (mt String.isEmpty_iff.mp hkey), if_neg hkey]

theorem check_record_iff {now : Int} {server key model : String} {timeout : Json}
    {config : Config} :
    check now (.object (record server key model timeout)) = .ok config ↔
      Address.normalize server = .ok config.baseUrl ∧
      (model = config.model ∧ model ≠ "") ∧
      (Checked.number timeout = .ok config.timeout ∧ config.timeout.isPositive = true) ∧
      config.sessionKey = if key = "" then freshKey model now else key := by
  have hmembers (shown : String) :
      ofMembers (record server shown model timeout) =
        Checked.both (fun url rest => ⟨url, rest.1, rest.2.1, rest.2.2⟩)
          (Checked.under (.field "base_url") (checkUrl (.string server)))
          (Checked.both Prod.mk (.ok shown)
            (Checked.both Prod.mk
              (Checked.under (.field "model") (Checked.nonEmptyText (.string model)))
              (Checked.under (.field "timeout") (Checked.positiveNumber timeout)))) := rfl
  have hcheck : check now (.object (record server key model timeout)) =
      ofMembers (withKey now (record server key model timeout)) := rfl
  rw [hcheck, withKey_record, hmembers]
  constructor
  · intro hok
    obtain ⟨url, others, hurl, hothers, rfl⟩ := Checked.both_eq_ok hok
    obtain ⟨shown, rest, hshown, hrest, rfl⟩ := Checked.both_eq_ok hothers
    obtain ⟨accepted, x, hmodel, htimeout, rfl⟩ := Checked.both_eq_ok hrest
    rw [Checked.under_eq_ok_iff, checkUrl_string_iff] at hurl
    rw [Checked.under_eq_ok_iff, Checked.nonEmptyText_string_iff] at hmodel
    rw [Checked.under_eq_ok_iff, Checked.positiveNumber_iff] at htimeout
    have hkey := (Except.ok.inj hshown).symm
    rw [if_neg hmodel.2] at hkey
    exact ⟨hurl, hmodel, htimeout, hkey⟩
  · rintro ⟨hurl, hmodel, htimeout, hkey⟩
    rw [if_neg hmodel.2, ← hkey, checkUrl_string_iff.mpr hurl,
      Checked.nonEmptyText_string_iff.mpr hmodel, Checked.positiveNumber_iff.mpr htimeout]
    rfl

/-! ## What is chosen -/

/-- Settings that are what prevails: the normal form of the server, a model that is not empty,
a timeout that is greater than zero, and the session key, or one that names this model and the
moment if it is empty.  The variable of the timeout is a text to be read. -/
structure IsChosen (flags : Flags) (environment : Environment) (now : Int) (config : Config) :
    Prop where
  server : ∃ server, Prevails flags.server (environment.get? serverVariable) defaultServer server ∧
    Address.normalize server = .ok config.baseUrl
  model : Prevails flags.model (environment.get? modelVariable) defaultModel config.model
  named : config.model ≠ ""
  timeout : Prevails (flags.timeout.map fun value => (Checked.number value).toOption)
    ((environment.get? timeoutVariable).map lenientNumber) (some defaultTimeout)
    (some config.timeout)
  positive : config.timeout.isPositive = true
  key : ∃ key, Prevails flags.session (environment.get? sessionVariable) "" key ∧
    config.sessionKey = if key = "" then "echo-" ++ config.model ++ "-" ++ toString now else key

variable {flags : Flags} {environment : Environment} {now : Int} {config : Config}

theorem chosenTimeout_iff {x : Binary64} :
    (∃ value, chosenTimeout flags environment = .ok value ∧ Checked.number value = .ok x) ↔
      Prevails (flags.timeout.map fun value => (Checked.number value).toOption)
        ((environment.get? timeoutVariable).map lenientNumber) (some defaultTimeout) (some x) := by
  rw [prevails_iff, chosenTimeout]
  cases flags.timeout with
  | some given =>
      constructor
      · rintro ⟨value, hvalue, hnumber⟩
        rw [Except.ok.inj hvalue, Option.map_some, Option.getD_some, hnumber]
        rfl
      · intro hread
        exact ⟨given, rfl, Checked.eq_ok_of_toOption hread⟩
  | none =>
      cases environment.get? timeoutVariable with
      | none =>
          constructor
          · rintro ⟨value, hvalue, hnumber⟩
            rw [← Except.ok.inj hvalue] at hnumber
            exact congrArg some (Except.ok.inj hnumber)
          · intro hdefault
            exact ⟨_, rfl, congrArg Except.ok (Option.some.inj hdefault)⟩
      | some text =>
          rw [Option.map_none, Option.getD_none, Option.map_some, Option.getD_some]
          dsimp only
          cases lenientNumber text with
          | none => simp
          | some y => simp [Checked.number]

theorem choose_eq_ok_iff_check :
    choose flags environment now = .ok config ↔
      ∃ timeout, chosenTimeout flags environment = .ok timeout ∧
        check now (chosen flags environment timeout) = .ok config := by
  rw [choose]
  cases chosenTimeout flags environment with
  | error error => simp
  | ok timeout =>
      dsimp only
      split
      case h_1 checked hchecked => simp [hchecked]
      case h_2 problems hproblems => simp [hproblems]

/-- The settings that are chosen are those that prevail. -/
theorem isChosen_iff : choose flags environment now = .ok config ↔
    IsChosen flags environment now config := by
  have hchosen (timeout : Json) : chosen flags environment timeout = .object
      (record (chosenText flags.server environment serverVariable defaultServer)
        (chosenText flags.session environment sessionVariable "")
        (chosenText flags.model environment modelVariable defaultModel) timeout) := rfl
  rw [choose_eq_ok_iff_check]
  constructor
  · rintro ⟨timeout, htimeout, hcheck⟩
    rw [hchosen, check_record_iff] at hcheck
    obtain ⟨hurl, ⟨hmodel, hnamed⟩, ⟨hnumber, hpositive⟩, hkey⟩ := hcheck
    rw [hmodel] at hkey hnamed
    exact ⟨⟨_, prevails_iff.mpr rfl, hurl⟩, prevails_iff.mpr hmodel, hnamed,
      chosenTimeout_iff.mp ⟨timeout, htimeout, hnumber⟩, hpositive, _, prevails_iff.mpr rfl, hkey⟩
  · rintro ⟨⟨server, hserver, hurl⟩, hmodel, hnamed, htimeout, hpositive, key, hkey, hshown⟩
    obtain ⟨timeout, hfound, hnumber⟩ := chosenTimeout_iff.mpr htimeout
    refine ⟨timeout, hfound, ?_⟩
    rw [hchosen, check_record_iff, chosenText, prevails_iff.mp hserver, chosenText,
      prevails_iff.mp hmodel, chosenText, prevails_iff.mp hkey]
    exact ⟨hurl, ⟨rfl, hnamed⟩, ⟨hnumber, hpositive⟩, hshown⟩

theorem IsChosen.sessionKey_ne_empty (h : IsChosen flags environment now config) :
    config.sessionKey ≠ "" := by
  obtain ⟨key, -, hshown⟩ := h.key
  rw [hshown]
  split
  case isTrue =>
      intro hempty
      have hlength := congrArg String.length hempty
      simp only [String.length_append, String.length_empty] at hlength
      have hecho : "echo-".length = 5 := rfl
      omega
  case isFalse hgiven => exact hgiven

end Config

/-! ## The header of requests -/

section Sending

variable [Wire.Platform]

namespace Exchange

variable {config : Config} {request : SentRequest}

theorem sessionKey_of_address {body : String} (hkey : config.sessionKey ≠ "")
    (haddress : address config body = .ok request) :
    request.sessionKey = some config.sessionKey := by
  rw [address] at haddress
  split at haddress
  case h_1 => exact absurd haddress (by simp)
  case h_2 url hurl =>
      rw [sessionHeader, if_neg (mt String.isEmpty_iff.mp hkey)] at haddress
      split at haddress
      case h_1 => exact absurd haddress (by simp [Except.map])
      case h_2 =>
          rw [← Except.ok.inj haddress]

theorem sessionKey_of_start {messages : List Message} {stream : Bool}
    (hkey : config.sessionKey ≠ "")
    (hstart : (start config messages stream).request = .ok request) :
    request.sessionKey = some config.sessionKey := by
  rw [start] at hstart
  split at hstart
  case h_1 => exact absurd hstart (by simp)
  case h_2 body hbody => exact sessionKey_of_address hkey hstart

end Exchange

/-- Settings are chosen exactly if they are what prevails, setting by setting.  Then the timeout
is a number, the session key is not empty, and every request that is sent carries it. -/
theorem Config.choose_eq_ok_iff (flags : Flags) (environment : Environment) (now : Int)
    (config : Config) :
    (choose flags environment now = .ok config ↔ IsChosen flags environment now config) ∧
    (choose flags environment now = .ok config →
      config.timeout ≠ .nan ∧ config.sessionKey ≠ "" ∧
      ∀ (messages : List Message) (answer : Answer) (request : SentRequest),
        (StreamRun.run config messages answer).request = some request ∨
          (ReplyRun.run config messages answer).request = some request →
        request.sessionKey = some config.sessionKey) := by
  refine ⟨isChosen_iff, ?_⟩
  intro hchoose
  have hchosen := isChosen_iff.mp hchoose
  have hkey := hchosen.sessionKey_ne_empty
  refine ⟨?_, hkey, ?_⟩
  · intro hnan
    have hpositive := hchosen.positive
    rw [hnan, Binary64.not_isPositive_nan] at hpositive
    cases hpositive
  · rintro messages answer request (hsent | hsent)
    · exact Exchange.sessionKey_of_start hkey (StreamRun.start_of_sent hsent)
    · exact Exchange.sessionKey_of_start hkey (ReplyRun.start_of_sent hsent)

end Sending

section Installed

attribute [local instance] Wire.Platform.installed

/-- An environment that sets every setting. -/
def Environment.full : Environment :=
  [("ECHOCTL_SERVER", " host:1/ "), ("ECHOCTL_SESSION", "other"), ("ECHOCTL_MODEL", "M"),
    ("ECHOCTL_TIMEOUT", " 1_0 ")]

/-- An empty session key is given by a flag, so the one of the environment does not count and a
key is made up. -/
theorem Config.choose_eq_ok_iff_emptyFlag :
    let flags : Flags := { session := some "" }
    let config : Config := ⟨"http://host:1", "echo-M-42", "M", Binary64.ofInt 10⟩
    choose flags Environment.full 42 = .ok config ∧ IsChosen flags Environment.full 42 config ∧
      config.timeout ≠ .nan ∧
      ∃ request, (StreamRun.run config [⟨.user, "hi"⟩] (.response 200 none [])).request =
          some request ∧ request.sessionKey = some "echo-M-42" := by
  intro flags config
  have hchoose : choose flags Environment.full 42 = .ok config := by decide +kernel
  obtain ⟨hiff, hchosen⟩ := choose_eq_ok_iff flags Environment.full 42 config
  obtain ⟨htimeout, -, hheader⟩ := hchosen hchoose
  have hsent : ∃ request, (StreamRun.run config [⟨.user, "hi"⟩]
      (.response 200 none [])).request = some request := by
    rw [← Option.isSome_iff_exists]
    decide +kernel
  obtain ⟨request, hrequest⟩ := hsent
  exact ⟨hchoose, hiff.mp hchoose, htimeout, request, hrequest,
    hheader _ _ request (Or.inl hrequest)⟩

end Installed

end Parley
