/-!
# Options and arguments

A command line is a list of words.  A word that begins with a dash names options:
a long one by its name, which may carry a value after an equals sign, or short ones
by one character each, the last of which may carry a value.  A value that a word
does not carry is the next word, whatever that is.  All other words are arguments,
and so is everything after the mark that ends the options.
-/

namespace Parley.CommandLine

/-- Why a command line cannot be understood. -/
inductive UsageError
  | unknownOption (name : String)
  | missingValue (name : String)
  | unwantedValue (name : String)
  | unreadableValue (name value : String)
  | unwantedArgument (argument : String)
  | missingCommand
  | unknownCommand (name : String)
  deriving Repr, DecidableEq

namespace UsageError

/-- What is wrong. -/
def message : UsageError → String
  | unknownOption name => "No such option: " ++ name
  | missingValue name => "Option '" ++ name ++ "' requires an argument."
  | unwantedValue name => "Option '" ++ name ++ "' does not take a value."
  | unreadableValue name value =>
      "Invalid value for '" ++ name ++ "': '" ++ value ++ "' is not a valid float."
  | unwantedArgument argument => "Got unexpected extra argument (" ++ argument ++ ")"
  | missingCommand => "Missing command."
  | unknownCommand name => "No such command '" ++ name ++ "'."

end UsageError

/-- What an option stands for: something by itself, or something with a value. -/
inductive Meaning (α : Type)
  | flag (meaning : α)
  | valued (meaning : String → α)

/-- The options of a command by their names, dashes included. -/
abbrev OptionTable (α : Type) := List (String × Meaning α)

namespace OptionTable

/-- What the option with a name stands for. -/
def meaning? {α : Type} (table : OptionTable α) (name : String) : Option (Meaning α) :=
  (table.find? fun entry => entry.1 == name).map Prod.snd

end OptionTable

/-- The options in a word, and the one that still waits for its value. -/
structure WordOptions (α : Type) where
  options : List α
  waiting : Option (String × (String → α)) := none

/-- A command line taken apart. -/
structure Words (α : Type) where
  /-- The options in their order. -/
  options : List α
  arguments : List String
  deriving Repr, DecidableEq

/-- The mark that ends the options. -/
def endOfOptions : String := "--"

/-- Whether a word names options; a dash alone does not. -/
def namesOptions : List Char → Bool
  | '-' :: _ :: _ => true
  | _ => false

/-- Whether a word names a long option. -/
def isLong : List Char → Bool
  | '-' :: '-' :: _ => true
  | _ => false

/-- The option that a long word names. -/
def longOption {α : Type} (table : OptionTable α) (word : List Char) :
    Except UsageError (WordOptions α) :=
  let nameChars := word.takeWhile (· != '=')
  let name := String.ofList nameChars
  match table.meaning? name, word.drop nameChars.length with
  | none, _ => .error (.unknownOption name)
  | some (.flag option), [] => .ok ⟨[option], none⟩
  | some (.flag _), _ => .error (.unwantedValue name)
  | some (.valued option), [] => .ok ⟨[], some (name, option)⟩
  | some (.valued option), _ :: value => .ok ⟨[option (String.ofList value)], none⟩

/-- The options that the characters of a short word name. -/
def shortOptions {α : Type} (table : OptionTable α) :
    List Char → Except UsageError (WordOptions α)
  | [] => .ok ⟨[], none⟩
  | c :: rest =>
      let name := String.ofList ['-', c]
      match table.meaning? name with
      | none => .error (.unknownOption name)
      | some (.flag option) =>
          (shortOptions table rest).map fun found =>
            { found with options := option :: found.options }
      | some (.valued option) =>
          if rest.isEmpty then .ok ⟨[], some (name, option)⟩
          else .ok ⟨[option (String.ofList rest)], none⟩

/-- The options that a word names. -/
def wordOptions {α : Type} (table : OptionTable α) (word : List Char) :
    Except UsageError (WordOptions α) :=
  if isLong word then longOption table word else shortOptions table (word.drop 1)

namespace Words

/-- Puts options in front. -/
def withOptions {α : Type} (options : List α) (words : Words α) : Words α :=
  { words with options := options ++ words.options }

/-- Puts an argument in front. -/
def withArgument {α : Type} (argument : String) (words : Words α) : Words α :=
  { words with arguments := argument :: words.arguments }

/-- Takes a command line apart.  Unless options and arguments may be mixed, the first
argument ends the options. -/
def read {α : Type} (table : OptionTable α) (mixed : Bool) :
    List String → Except UsageError (Words α)
  | [] => .ok ⟨[], []⟩
  | word :: rest =>
      if word = endOfOptions then .ok ⟨[], rest⟩
      else if namesOptions word.toList then
        match wordOptions table word.toList with
        | .error error => .error error
        | .ok ⟨options, none⟩ => (read table mixed rest).map (withOptions options)
        | .ok ⟨options, some (name, option)⟩ =>
            match rest with
            | [] => .error (.missingValue name)
            | value :: after =>
                (read table mixed after).map (withOptions (options ++ [option value]))
      else if mixed then (read table mixed rest).map (withArgument word)
      else .ok ⟨[], word :: rest⟩

end Words

end Parley.CommandLine
