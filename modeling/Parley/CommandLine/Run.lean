import Parley.CommandLine.Command
import Parley.CommandLine.Echo
import Parley.CommandLine.Outcome
import Parley.Exchange.Reply
import Parley.Inline.Chat
import Parley.Markdown.Drawing

/-!
# Running commands

A command line comes to a job: something to tell, one message to send, or an
interactive chat.  An interactive chat prints into the scrollback or takes the whole
screen; where there is no terminal, the whole screen is left as soon as it is drawn.
-/

namespace Parley.CommandLine

open Terminal

variable [Wire.Platform]

/-- The name of the program and its version. -/
def versionText : String :=
  "echoctl " ++ View.version ++ "\n"

/-- The report of a log level that is none. -/
def levelReport (word : String) : String :=
  "[red]Error: invalid log level '" ++ word ++ "' (choose from " ++
    String.intercalate ", " (Level.all.map Level.word) ++ ")[/red]"

/-- How a command is carried out: its surroundings, and the least level of the traces
that are shown. -/
structure Manner where
  surroundings : Surroundings
  threshold : Option Level

namespace Manner

/-- The manner in which the server gives some answers, and then none. -/
def withAnswers (manner : Manner) (answers : List Answer) : Manner :=
  { manner with surroundings := { manner.surroundings with
      answerAt := fun number => answers.getD number Surroundings.noAnswer } }

/-- The printed traces. -/
def traces (manner : Manner) (traces : List Trace) : String :=
  match manner.threshold with
  | some threshold =>
      String.join (traces.map (Log.print console manner.surroundings.time threshold))
  | none => ""

/-- Sends one message and writes the reply as it arrives. -/
def streamOnce (manner : Manner) (config : Config) (text : String) : Outcome :=
  let run := StreamRun.run config [⟨.user, text⟩] (manner.surroundings.answerAt 0)
  let outcome : Outcome := {
    ending := .exit 0
    output := String.join (run.deltas.map plainOutput)
    reports := manner.traces run.traces
    requests := run.request.toList
    connection := .opened }
  match run.outcome with
  | .ok _ => outcome.closing
  | .error failure => (outcome.failing failure).closing

/-- Sends one message and writes the whole reply. -/
def askOnce (manner : Manner) (config : Config) (text : String) : Outcome :=
  let run := ReplyRun.run config [⟨.user, text⟩] (manner.surroundings.answerAt 0)
  let outcome : Outcome := {
    ending := .exit 0
    reports := manner.traces run.traces
    requests := run.request.toList
    connection := .opened }
  match run.outcome with
  | .ok reply => { outcome with output := plainOutput (reply ++ "\n") }.closing
  | .error failure => (outcome.failing failure).closing

/-- The lines of the input; a line ends with a carriage return, a line feed, or both. -/
def inputLines : List Char → List Char → List String
  | [], [] => []
  | line, [] => [String.ofList line]
  | line, '\r' :: '\n' :: rest => String.ofList line :: inputLines [] rest
  | line, c :: rest =>
      if c = '\r' || c = '\n' then String.ofList line :: inputLines [] rest
      else inputLines (line ++ [c]) rest

/-- What is printed before a line is read. -/
def promptText : String := "> "

/-- Chats in the scrollback. -/
def chatInline (manner : Manner) (config : Config) : Outcome :=
  let traced := manner.threshold.isSome
  let chat := Inline.Chat.start config console false consoleHeight
  let client := Inline.Client.ofAnswers config traced .deadline manner.surroundings.answerAt
  let lines := inputLines [] manner.surroundings.input.toList
  match chat.run Markdown.render client (lines.map (Inline.Input.mk · none)) with
  | .error error => { ending := .markup error, connection := .closed }
  | .ok ⟨banner, steps⟩ =>
      let served := steps.filterMap fun step => step.served.map Prod.snd
      let outcome : Outcome := {
        ending := .exit 0
        output := banner ++ String.join (steps.map fun step => promptText ++ step.output)
        reports := manner.traces (served.flatMap fun s => s.deliveries.filterMap Delivery.trace?)
        requests := served.filterMap Inline.Served.request
        connection := .opened }
      match served.findSome? Inline.Served.stopped with
      | some failure => (outcome.failing failure).closing
      | none => outcome.closing

/-- Chats on the whole screen. -/
def chatOnScreen (config : Config) : Outcome :=
  let ending :=
    match View.banner config.model config.baseUrl config.sessionKey View.version with
    | .ok _ => .exit 0
    | .error error => .markup error
  { ending, output := goodbyeText, connection := .closed }

end Manner

/-- What a command line asks for, once everything about it is checked. -/
inductive Job
  /-- Nothing is left to do. -/
  | finished (outcome : Outcome)
  /-- One message is to be sent, and the reply written as it arrives. -/
  | stream (manner : Manner) (config : Config) (text : String)
  /-- One message is to be sent, and the whole reply written. -/
  | ask (manner : Manner) (config : Config) (text : String)
  | inline (manner : Manner) (config : Config)
  | screen (config : Config)

namespace Job

/-- A chat with the endpoint that is chosen. -/
def ofManner (manner : Manner) (options : ChatOptions) : Job :=
  match Config.choose options.flags manner.surroundings.environment manner.surroundings.now with
  | .error error => finished (.refused error.report)
  | .ok config =>
      if !options.text.isEmpty then
        if options.wholeReply then ask manner config options.text
        else stream manner config options.text
      else if options.inline then inline manner config
      else screen config

/-- A chat, unless its log level is none. -/
def ofOptions (surroundings : Surroundings) (options : ChatOptions) : Job :=
  match options.logLevel with
  | none => ofManner ⟨surroundings, none⟩ options
  | some word =>
      match Level.ofWord? word with
      | some level => ofManner ⟨surroundings, some level⟩ options
      | none => finished (.refused (levelReport word))

end Job

/-- The exit code for a command line that cannot be understood. -/
def usageCode : Nat := 2

/-- What is said about a command line that cannot be understood. -/
def usageReport (error : UsageError) : String :=
  "Usage: echoctl [OPTIONS] COMMAND [ARGS]...\nError: " ++ error.message ++ "\n"

/-- What is said about the commands and their options. -/
def helpText : String :=
  "Usage: echoctl [OPTIONS] COMMAND [ARGS]...\n\n" ++
  "Commands:\n" ++
  "  version  " ++ "Show the echoctl version.\n" ++
  "  chat     " ++ "Send one message, or start an interactive chat session.\n\n" ++
  "Options of chat: " ++ String.intercalate " " (chatOptions.map Prod.fst) ++ "\n"

namespace Job

/-- What a command line asks for. -/
def ofArguments (surroundings : Surroundings) (arguments : List String) : Job :=
  match Command.read arguments with
  | .error error => finished { ending := .exit usageCode, reports := usageReport error }
  | .ok .version => finished { ending := .exit 0, output := versionText }
  | .ok .help => finished { ending := .exit 0, output := helpText }
  | .ok (.chat options) => ofOptions surroundings options

/-- Carries out a job. -/
def run : Job → Outcome
  | finished outcome => outcome
  | stream manner config text => manner.streamOnce config text
  | ask manner config text => manner.askOnce config text
  | inline manner config => manner.chatInline config
  | screen config => Manner.chatOnScreen config

end Job

/-- Carries out a command line. -/
def run (surroundings : Surroundings) (arguments : List String) : Outcome :=
  (Job.ofArguments surroundings arguments).run

end Parley.CommandLine
