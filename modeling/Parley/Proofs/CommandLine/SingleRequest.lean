import Parley.Proofs.CommandLine.OneShot

/-!
# The request and the exit code of a message

A command line with a message sends one request, which asks the chosen model to answer this
message alone.  Whatever the connection does, the exit code tells whether there was a reply,
a reply that was to come as a whole and did not come leaves the output empty, and the
connection is closed.
-/

namespace Parley

/-! ## The request that is sent -/

section Sending

variable [Wire.Platform]

variable {config : Config} {messages : List Message} {answer : Answer}

/-- If only the connection fails, no exchange for a whole reply asks the program to stop. -/
theorem ReplyRun.isStop_of_failed {failure : Failure}
    (hscript : ∀ failure ∈ answer.failures, failure.isConnection = true)
    (hfailed : (run config messages answer).outcome = .error failure) :
    failure.isStop = false := by
  cases hstart : (Exchange.start config messages false).request with
  | error cause =>
      rw [run_of_unsent hstart] at hfailed
      rw [← Except.error.inj hfailed]
      exact Exchange.isStop_of_unsent hstart
  | ok request =>
      have hverdict : Verdict config answer _ := verdict_ofAnswer hscript
      rw [run, hstart] at hfailed
      dsimp only at hfailed
      rw [hfailed] at hverdict
      cases hverdict <;> rfl

namespace CommandLine

/-! ## What a run tells of its exchange -/

namespace Manner

variable (manner : Manner) (config : Config) (text : String)

end Manner

/-! ## From the command line to the exit code -/

section Followed

variable {α : Type} {outcome : Outcome} {request : Option SentRequest} {reply : Except Failure α}
  {stream : Bool}

end Followed

variable {surroundings : Surroundings} {arguments : List String} {options : ChatOptions}

end CommandLine

end Sending

namespace CommandLine

section Installed

attribute [local instance] Wire.Platform.installed

end Installed

end CommandLine

end Parley
