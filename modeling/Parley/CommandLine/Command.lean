import Parley.CommandLine.Options
import Parley.Endpoint.Choice

/-!
# Commands

The program knows two commands: one tells its version, the other chats.  The options
before a command tell the version too, or ask for help.
-/

namespace Parley.CommandLine

/-- How to chat. -/
structure ChatOptions where
  /-- The words of the message; without any, the chat is interactive. -/
  message : List String := []
  flags : Flags := {}
  /-- Whether an interactive chat prints into the scrollback. -/
  inline : Bool := false
  /-- Whether to wait for the whole reply instead of streaming it. -/
  wholeReply : Bool := false
  /-- The word for the least level of the traces that are shown. -/
  logLevel : Option String := none

/-- What the program is asked to do. -/
inductive Command
  | version
  | help
  | chat (options : ChatOptions)

/-- An option before the command. -/
inductive ProgramOption
  | version
  | help
  deriving Repr, DecidableEq

/-- An option of a chat. -/
inductive ChatOption
  | server (value : String)
  | session (value : String)
  | model (value : String)
  | timeout (value : String)
  | inline
  | wholeReply
  | logLevel (value : String)
  | help
  deriving Repr, DecidableEq

/-- The names of the options before the command. -/
def programOptions : OptionTable ProgramOption := [
  ("--version", .flag .version), ("-V", .flag .version), ("--help", .flag .help)]

/-- The names of the options of the command that tells the version. -/
def versionOptions : OptionTable Unit := [("--help", .flag ())]

/-- The names of the options of a chat. -/
def chatOptions : OptionTable ChatOption := [
  ("--server", .valued .server), ("--server-addr", .valued .server), ("-s", .valued .server),
  ("--session", .valued .session), ("--model", .valued .model), ("-m", .valued .model),
  ("--timeout", .valued .timeout), ("-t", .valued .timeout), ("--inline", .flag .inline),
  ("--no-stream", .flag .wholeReply), ("--log-level", .valued .logLevel),
  ("-l", .valued .logLevel), ("--help", .flag .help)]

namespace ChatOption

/-- The value of an option if it gives the timeout. -/
def timeout? : ChatOption → Option String
  | timeout value => some value
  | _ => none

end ChatOption

namespace ChatOptions

/-- Takes an option into account; a later option replaces an earlier one.  The
timeout is not text, and is read apart. -/
def add (options : ChatOptions) : ChatOption → ChatOptions
  | .server value => { options with flags := { options.flags with server := some value } }
  | .session value => { options with flags := { options.flags with session := some value } }
  | .model value => { options with flags := { options.flags with model := some value } }
  | .inline => { options with inline := true }
  | .wholeReply => { options with wholeReply := true }
  | .logLevel value => { options with logLevel := some value }
  | .timeout _ | .help => options

/-- The timeout that options give: the value of the last of them. -/
def timeout (options : List ChatOption) : Except UsageError (Option Json) :=
  match (options.filterMap ChatOption.timeout?).getLast? with
  | none => .ok none
  | some value =>
      match lenientNumber value with
      | some seconds => .ok (some (.float seconds))
      | none => .error (.unreadableValue "--timeout" value)

/-- How to chat according to a command line. -/
def ofWords (words : Words ChatOption) : Except UsageError ChatOptions :=
  (timeout words.options).map fun seconds =>
    let options := words.options.foldl add {}
    { options with message := words.arguments, flags := { options.flags with timeout := seconds } }

/-- The message to send once; it is empty if the chat is interactive. -/
def text (options : ChatOptions) : String :=
  String.intercalate " " options.message

end ChatOptions

namespace Command

/-- What an option before the command asks for. -/
def ofOption : ProgramOption → Command
  | .version => version
  | .help => help

/-- Reads what follows the command that tells the version. -/
def readVersion (arguments : List String) : Except UsageError Command :=
  match Words.read versionOptions true arguments with
  | .error error => .error error
  | .ok ⟨_ :: _, _⟩ => .ok help
  | .ok ⟨[], argument :: _⟩ => .error (.unwantedArgument argument)
  | .ok ⟨[], []⟩ => .ok version

/-- Reads what follows the command that chats. -/
def readChat (arguments : List String) : Except UsageError Command :=
  match Words.read chatOptions true arguments with
  | .error error => .error error
  | .ok words =>
      if words.options.contains .help then .ok help else (ChatOptions.ofWords words).map chat

/-- What is asked for where a command should stand, but stands none.  Behind the mark
that ends the options, options count again in this place. -/
def readOther (name : String) (rest : List String) : Except UsageError Command :=
  match Words.read programOptions false (name :: rest) with
  | .ok ⟨option :: _, _⟩ => .ok (ofOption option)
  | .ok ⟨[], _⟩ => .error (.unknownCommand name)
  | .error error => .error error

/-- Reads a command line.  The first option before the command decides. -/
def read (arguments : List String) : Except UsageError Command :=
  match Words.read programOptions false arguments with
  | .error error => .error error
  | .ok ⟨option :: _, _⟩ => .ok (ofOption option)
  | .ok ⟨[], []⟩ => .error .missingCommand
  | .ok ⟨[], name :: rest⟩ =>
      if name = "version" then readVersion rest
      else if name = "chat" then readChat rest
      else readOther name rest

end Command

end Parley.CommandLine
