import Parley.CommandLine.Run
import Parley.Wire.Installed
import Parley.Wire.Message
import Std.Async.DNS
import Std.Async.TCP
import Std.Async.Timer
import Std.Time

/-!
# The program

The outer layer of the program: it takes the command line, the environment, the
clock and the input, carries requests to the server, and writes what comes of them.
-/

namespace Parley.Program

open Std Async CommandLine

attribute [local instance] Wire.Platform.installed

/-- The variables that the program looks at. -/
def variableNames : List String :=
  [Config.serverVariable, Config.sessionVariable, Config.modelVariable, Config.timeoutVariable]

/-- The environment of the program. -/
def environment : IO Environment :=
  variableNames.filterMapM fun name => return (← IO.getEnv name).map fun value => (name, value)

/-- The time of day. -/
def timeOfDay : IO Log.Timestamp := do
  return (← Time.PlainDateTime.now).time.format "HH:mm:ss"

/-- Receives until the connection ends or the time is over. -/
partial def receive (socket : TCP.Socket.Client) (clock : Sleep) (received : ByteArray) :
    Async (Option ByteArray) := do
  let arrived : Option (Option ByteArray) ← Selectable.one #[
    .case (socket.recvSelector 65536) fun data => return some data,
    .case clock.selector fun () => return none]
  match arrived with
  | some (some data) => receive socket clock (received ++ data)
  | some none => return some received
  | none => return none

/-- Where a host can be reached. -/
def socketAddress (address : Net.IPAddr) (port : Nat) : Net.SocketAddress :=
  match address with
  | .v4 host => .v4 ⟨host, .ofNat port⟩
  | .v6 host => .v6 ⟨host, .ofNat port⟩

/-- Carries a request to its server, and brings the answer back. -/
def exchange (milliseconds : Nat) (request : SentRequest) : Async Answer := do
  let destination := Wire.Destination.ofUrl request.url
  if destination.isSecret then
    return .failure (.transport .connectError "encrypted connections are not supported")
  let addresses ← DNS.getAddrInfo destination.host (toString destination.port)
  match addresses[0]? with
  | none => return .failure (.transport .connectError "no address for the host")
  | some address =>
      let clock ← Sleep.mk (.ofNat milliseconds)
      let socket ← TCP.Socket.Client.mk
      socket.connect (socketAddress address destination.port)
      socket.send ⟨(Wire.Message.ofRequest request).toArray⟩
      match ← receive socket clock ByteArray.empty with
      | some data => return Wire.Message.answer data.toList
      | none => return .failure (.deadline "")

/-- The answer to a request; what goes wrong on the way is an answer too. -/
def answerTo (milliseconds : Nat) (request : SentRequest) : IO Answer := do
  match ← (exchange milliseconds request).block.toBaseIO with
  | .ok answer => return answer
  | .error error => return .failure (.transport .connectError (toString error))

/-- Writes a text at once. -/
def write (stream : IO.FS.Stream) (text : String) : IO Unit := do
  stream.putStr text
  stream.flush

/-- Writes what comes of a run; returns the exit code. -/
def tell (outcome : Outcome) : IO UInt32 := do
  write (← IO.getStderr) outcome.reports
  write (← IO.getStdout) outcome.output
  match outcome.ending with
  | .exit _ => pure ()
  | .failure failure => write (← IO.getStderr) (failure.name ++ ": " ++ failure.text ++ "\n")
  | .markup error => write (← IO.getStderr) (error.message ++ "\n")
  return .ofNat outcome.ending.code

/-- The longest time that is waited for an answer: a day. -/
def longestWait : Nat := 86400000

/-- The time for a request, in milliseconds. -/
def waitFor (config : Config) : Nat :=
  match config.timeout with
  | .finite _ mantissa exponent =>
      let (num, den) := Binary64.ratio mantissa exponent
      min longestWait (num * 1000 / den)
  | _ => longestWait

/-- Reads lines and chats, until the chat ends. -/
partial def converse (manner : Manner) (config : Config) (chat : Inline.Chat) : IO UInt32 := do
  let output ← IO.getStdout
  write output Manner.promptText
  let line ← (← IO.getStdin).getLine
  if line.isEmpty then
    write output chat.leave.output
    return 0
  let input : Inline.Input := ⟨String.ofList (line.toList.takeWhile (· != '\n')), none⟩
  let traced := manner.threshold.isSome
  let client (answer : Answer) := Inline.Client.ofAnswers config traced .deadline fun _ => answer
  let asked := chat.read Markdown.render (client Surroundings.noAnswer) input
  let step ←
    match asked.served.bind fun served => served.2.request with
    | some request =>
        pure (chat.read Markdown.render (client (← answerTo (waitFor config) request)) input)
    | none => pure asked
  let deliveries := (step.served.map fun served => served.2.deliveries).getD []
  write (← IO.getStderr) (manner.traces (deliveries.filterMap Delivery.trace?))
  write output step.output
  if step.progress = .reading then converse manner config step.chat else return 0

/-- Carries out a command line. -/
def run (arguments : List String) : IO UInt32 := do
  let surroundings : Surroundings := {
    environment := ← environment
    now := (← Time.Timestamp.now).toNanosecondsSinceUnixEpoch.toInt
    time := ← timeOfDay
    answerAt := fun _ => Surroundings.noAnswer
    input := "" }
  let job := Job.ofArguments surroundings arguments
  match job with
  | .stream manner config text =>
      let answers ← job.run.requests.mapM (answerTo (waitFor config))
      tell (Job.stream (manner.withAnswers answers) config text).run
  | .ask manner config text =>
      let answers ← job.run.requests.mapM (answerTo (waitFor config))
      tell (Job.ask (manner.withAnswers answers) config text).run
  | .inline manner config =>
      let chat := Inline.Chat.start config console false consoleHeight
      match chat.printer.banner chat.conversation with
      | .ok banner =>
          write (← IO.getStdout) banner
          converse manner config chat
      | .error _ => tell job.run
  | _ => tell job.run

end Parley.Program

/-- Carries out the command line. -/
def main (arguments : List String) : IO UInt32 :=
  Parley.Program.run arguments
