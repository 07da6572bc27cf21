import Mathlib.Data.List.Basic
import Parley.Proofs.Inline.Conduct
import Parley.Proofs.Terminal.Reading

/-!
# Lines of the inline mode

The inline mode reads lines up to the first command to quit, or to the end of the input.
Each question it reads makes it ask the client once, with what was said since the
conversation was last emptied.  How the turns end makes no difference to that: a turn is
over before the next line is read, and an error that it ends with is never sent.

The banner is printed before the first line is read.  Its values are taken for markup, so there
are settings with which no line is read at all.  A banner whose values hold no tag is printed, and
one that has a value whose first tag closes is not, unless the console is too narrow for values.
-/

namespace Parley.Inline

open Conversation (quits clears asks)
open Terminal

/-! ## What is read and what is said -/

def Input.quits (input : Input) : Bool :=
  Conversation.quits input.line

def Input.asks (input : Input) : Bool :=
  Conversation.asks input.line

/-- The lines that are read: up to the first command to quit, and that command too. -/
def consumed (inputs : List Input) : List Input :=
  inputs.takeWhile (fun input => !input.quits) ++ (inputs.find? Input.quits).toList

theorem consumed_of_quits {input : Input} (hquits : input.quits = true)
    (rest : List Input) : consumed (input :: rest) = [input] := by
  simp [consumed, hquits]

theorem consumed_of_not_quits {input : Input} (hquits : input.quits = false)
    (rest : List Input) : consumed (input :: rest) = input :: consumed rest := by
  simp [consumed, hquits]

/-- What was said: how often the client was asked, and the questions and kept replies since
the conversation was last emptied. -/
structure Account where
  calls : Nat
  messages : List Message

namespace Account

variable (conduct : Nat → List Message → Conduct)

def start : Account :=
  ⟨0, []⟩

/-- The messages with a question after them. -/
def asked (account : Account) (line : String) : List Message :=
  account.messages ++ [⟨.user, Text.stripText line⟩]

def take (account : Account) (line : String) : Account :=
  if clears line then ⟨account.calls, []⟩
  else if Conversation.asks line then
    let messages := account.asked line
    ⟨account.calls + 1, messages ++ (conduct account.calls messages).reply⟩
  else account

def takeAll (account : Account) (inputs : List Input) : Account :=
  inputs.foldl (fun account input => account.take conduct input.line) account

theorem take_of_clears (account : Account) {line : String} (hclears : clears line = true) :
    account.take conduct line = ⟨account.calls, []⟩ :=
  if_pos hclears

theorem take_of_asks (account : Account) {line : String}
    (hasks : Conversation.asks line = true) :
    account.take conduct line =
      ⟨account.calls + 1,
        account.asked line ++ (conduct account.calls (account.asked line)).reply⟩ := by
  rw [take, Conversation.clears_eq_false_of_asks hasks, hasks]
  rfl

theorem take_of_not_asks (account : Account) {line : String} (hclears : clears line = false)
    (hasks : Conversation.asks line = false) : account.take conduct line = account := by
  rw [take, hclears, hasks]
  rfl

end Account

/-! ## One line -/

namespace Chat

/-- What holds of a chat between two turns. -/
structure Keeps (chat : Chat) (account : Account) : Prop where
  idle : chat.conversation.streaming = false
  history : chat.conversation.history = account.messages
  turns : chat.turns = account.calls

variable (render : Renderer)

/-- The chat that is about to submit a line. -/
def prepared (chat : Chat) (input : Input) : Chat :=
  let console := { chat.printer.console with width := input.width.getD chat.printer.console.width }
  let printer := { chat.printer with console }
  let sized := chat.conversation.resize render printer.width chat.conversation.height
  { chat with conversation := sized.edit input.line, printer }

/-- The chat in which a question was submitted. -/
def asking (chat : Chat) (input : Input) : Chat :=
  let ready := chat.prepared render input
  { ready with conversation := ready.conversation.startTurn (Text.stripText input.line) }

/-- What is done after a submission. -/
def act (client : Client) (chat : Chat) (submitted : Conversation × Action) : Step :=
  let next := { chat with conversation := submitted.1 }
  match submitted.2 with
  | .quit => ⟨chat.printer.goodbye, none, next, .left⟩
  | .clear => ⟨chat.printer.cleared, none, next, .reading⟩
  | .startTurn => next.turn render client
  | _ => ⟨"", none, next, .reading⟩

theorem read_eq (client : Client) (chat : Chat) (input : Input) :
    chat.read render client input =
      (chat.prepared render input).act render client
        (chat.prepared render input).conversation.submit :=
  rfl

theorem sameTurn_prepared (chat : Chat) (input : Input) :
    chat.conversation.SameTurn (chat.prepared render input).conversation := by
  have hsized := Conversation.sameTurn_resize render chat.conversation
    (chat.prepared render input).printer.width chat.conversation.height
  have hedited := Conversation.sameTurn_edit (chat.conversation.resize render
    (chat.prepared render input).printer.width chat.conversation.height) input.line
  exact ⟨hedited.history.trans hsized.history, hedited.streaming.trans hsized.streaming,
    hedited.reply.trans hsized.reply⟩

section Idle

variable {chat : Chat} (hidle : chat.conversation.streaming = false) (input : Input)
include hidle

theorem streaming_prepared : (chat.prepared render input).conversation.streaming = false :=
  (sameTurn_prepared render chat input).streaming.trans hidle

theorem input_prepared : (chat.prepared render input).conversation.input = input.line := by
  have hsized := (Conversation.sameTurn_resize render chat.conversation
    (chat.prepared render input).printer.width chat.conversation.height).streaming.trans hidle
  exact congrArg Conversation.input (if_neg (Bool.eq_false_iff.mp hsized))

variable (client : Client)

theorem read_of_quits (hquits : quits input.line = true) :
    chat.read render client input =
      ⟨(chat.prepared render input).printer.goodbye, none, chat.prepared render input, .left⟩ := by
  have hsubmit := Conversation.submit_of_quits (streaming_prepared render hidle input)
    (by rw [input_prepared render hidle, hquits])
  rw [read_eq, hsubmit]
  rfl

theorem read_of_clears (hclears : clears input.line = true) :
    chat.read render client input =
      ⟨(chat.prepared render input).printer.cleared, none,
        { chat.prepared render input with
          conversation := (chat.prepared render input).conversation.clear }, .reading⟩ := by
  have hsubmit := Conversation.submit_of_clears (streaming_prepared render hidle input)
    (by rw [input_prepared render hidle, hclears])
  rw [read_eq, hsubmit]
  rfl

theorem read_of_asks (hasks : asks input.line = true) :
    chat.read render client input = (chat.asking render input).turn render client := by
  have hinput := input_prepared render hidle input
  have hsubmit := Conversation.submit_of_asks (streaming_prepared render hidle input)
    (by rw [hinput, hasks])
  rw [read_eq, hsubmit, hinput]
  rfl

theorem read_of_blank (hquits : quits input.line = false) (hclears : clears input.line = false)
    (hasks : asks input.line = false) :
    chat.read render client input = ⟨"", none, chat.prepared render input, .reading⟩ := by
  have hinput := input_prepared render hidle input
  have hsubmit := Conversation.submit_of_blank (streaming_prepared render hidle input)
    (by rw [hinput, hquits]) (by rw [hinput, hclears]) (by rw [hinput, hasks])
  rw [read_eq, hsubmit]
  rfl

end Idle

theorem turns_hearAll (chat : Chat) (events : List Event) :
    (chat.hearAll render events).2.turns = chat.turns := by
  induction events generalizing chat with
  | nil => rfl
  | cons event rest ih => exact ih (chat.hear render event).2

/-- A turn keeps what the client said, and nothing of an error. -/
theorem keeps_turn (chat : Chat) (hstreaming : chat.conversation.streaming = true)
    (hreply : chat.conversation.reply = "") (told : Conduct) :
    (chat.opened.hearAll render told.events).2.Keeps
      ⟨chat.turns + 1, chat.conversation.history ++ told.reply⟩ := by
  have hended := conversation_hearAll_events render chat.opened hstreaming told
  have hheard : chat.opened.conversation.reply ++ told.text = told.text := by
    rw [opened, hreply, String.empty_append]
  rw [hheard] at hended
  refine ⟨?_, ?_, turns_hearAll render chat.opened told.events⟩
  · rw [hended]
    rfl
  · rw [hended, Conversation.history_finish]
    rfl

/-- What reading a line comes to. -/
structure Reads (conduct : Nat → List Message → Conduct) (client : Client) (account : Account)
    (input : Input) (step : Step) : Prop where
  served : step.served =
    if input.asks then
      some (account.asked input.line, client account.calls (account.asked input.line))
    else none
  progress : step.progress = if input.quits then .left else .reading
  keeps : step.chat.Keeps (account.take conduct input.line)

theorem Reads.of_not_asks {conduct : Nat → List Message → Conduct} {client : Client}
    {account : Account} {input : Input} {step : Step} (hasks : asks input.line = false)
    (hstep : step.served = none ∧
      step.progress = (if input.quits then .left else .reading) ∧
      step.chat.Keeps (account.take conduct input.line)) :
    Reads conduct client account input step := by
  obtain ⟨hserved, hprogress, hkeeps⟩ := hstep
  refine ⟨?_, hprogress, hkeeps⟩
  rw [hserved, Input.asks, hasks]
  rfl

/-- A line is read between two turns, and no turn is going on when it has been read. -/
theorem Keeps.read {chat : Chat} {account : Account} (hkeeps : chat.Keeps account)
    (traced : Bool) (conduct : Nat → List Message → Conduct) (input : Input) :
    let client := Client.ofConduct traced conduct
    Reads conduct client account input (chat.read render client input) := by
  intro client
  obtain ⟨hidle, hhistory, hturns⟩ := hkeeps
  have hready := streaming_prepared render hidle input
  have hheld := (sameTurn_prepared render chat input).history.trans hhistory
  cases hasks : asks input.line with
  | true =>
      have hquits : input.quits = false := Conversation.quits_eq_false_of_asks hasks
      have hasked : (chat.asking render input).conversation.history = account.asked input.line :=
        congrArg (· ++ _) hheld
      have hcalls : (chat.asking render input).turns = account.calls := hturns
      have hturn := turn_ofConduct render (chat.asking render input) traced conduct
      have hlast := keeps_turn render (chat.asking render input) rfl rfl
        (conduct account.calls (account.asked input.line))
      rw [hasked, hcalls] at hturn hlast
      rw [read_of_asks render hidle input client hasks, hturn]
      refine ⟨(if_pos hasks).symm, ?_, ?_⟩
      · rw [hquits]
        rfl
      · rw [Account.take_of_asks conduct account hasks]
        exact hlast
  | false =>
      refine Reads.of_not_asks hasks ?_
      cases hclears : clears input.line with
      | true =>
          have hquits : input.quits = false := Conversation.quits_eq_false_of_clears hclears
          rw [read_of_clears render hidle input client hclears, hquits,
            Account.take_of_clears conduct account hclears]
          exact ⟨rfl, rfl, ⟨hready, rfl, hturns⟩⟩
      | false =>
          rw [Account.take_of_not_asks conduct account hclears hasks]
          cases hquits : quits input.line with
          | true =>
              rw [read_of_quits render hidle input client hquits]
              exact ⟨rfl, (if_pos hquits).symm, ⟨hready, hheld, hturns⟩⟩
          | false =>
              rw [read_of_blank render hidle input client hquits hclears hasks]
              exact ⟨rfl, (if_neg (ne_true_of_eq_false hquits)).symm, ⟨hready, hheld, hturns⟩⟩

/-! ## Runs -/

theorem readLines_cons (client : Client) (chat : Chat) (input : Input) (rest : List Input) :
    chat.readLines render client (input :: rest) =
      chat.read render client input ::
        if (chat.read render client input).progress = .reading then
          (chat.read render client input).chat.readLines render client rest
        else [] :=
  rfl

/-- What a run comes to: a step for each line that is read, and the end of the input if
none of them is a command to quit. -/
structure ReadsAll (conduct : Nat → List Message → Conduct) (client : Client)
    (account : Account) (inputs : List Input) (steps : List Step) (last : Chat) : Prop where
  length : steps.length = (consumed inputs).length
  reads : ∀ before input after, consumed inputs = before ++ input :: after →
    ∃ step, steps[before.length]? = some step ∧
      Reads conduct client (account.takeAll conduct before) input step
  idle : last.conversation.streaming = false

namespace ReadsAll

variable {conduct : Nat → List Message → Conduct} {client : Client} {account : Account}
variable {input : Input} {rest : List Input} {step : Step}

theorem nil {chat : Chat} (hidle : chat.conversation.streaming = false) :
    ReadsAll conduct client account [] [] chat := by
  refine ⟨rfl, ?_, hidle⟩
  intro before input after hsplit
  exact absurd hsplit.symm (List.append_ne_nil_of_right_ne_nil _ (List.cons_ne_nil _ _))

theorem of_quits (hquits : input.quits = true)
    (hread : Reads conduct client account input step) :
    ReadsAll conduct client account (input :: rest) [step] step.chat := by
  have hconsumed := consumed_of_quits hquits rest
  refine ⟨by rw [hconsumed]; rfl, ?_, hread.keeps.idle⟩
  intro before other after hsplit
  rw [hconsumed] at hsplit
  cases before with
  | nil =>
      obtain ⟨rfl, -⟩ := List.cons.inj hsplit
      exact ⟨step, rfl, hread⟩
  | cons first before =>
      obtain ⟨-, hnone⟩ := List.cons.inj hsplit
      exact absurd hnone.symm (List.append_ne_nil_of_right_ne_nil _ (List.cons_ne_nil _ _))

theorem cons {steps : List Step} {last : Chat} (hquits : input.quits = false)
    (hread : Reads conduct client account input step)
    (hrest : ReadsAll conduct client (account.take conduct input.line) rest steps last) :
    ReadsAll conduct client account (input :: rest) (step :: steps) last := by
  have hconsumed := consumed_of_not_quits hquits rest
  refine ⟨by rw [hconsumed, List.length_cons, List.length_cons, hrest.length], ?_, hrest.idle⟩
  intro before other after hsplit
  rw [hconsumed] at hsplit
  cases before with
  | nil =>
      obtain ⟨rfl, -⟩ := List.cons.inj hsplit
      exact ⟨step, rfl, hread⟩
  | cons first before =>
      obtain ⟨rfl, hlater⟩ := List.cons.inj hsplit
      exact hrest.reads before other after hlater

end ReadsAll

theorem Keeps.readLines {chat : Chat} {account : Account} (hkeeps : chat.Keeps account)
    (traced : Bool) (conduct : Nat → List Message → Conduct) (inputs : List Input) :
    let client := Client.ofConduct traced conduct
    ∃ steps last, ReadsAll conduct client account inputs steps last ∧
      chat.readLines render client inputs =
        steps ++ if inputs.any Input.quits then [] else [last.leave] := by
  intro client
  induction inputs generalizing chat account with
  | nil => exact ⟨[], chat, .nil hkeeps.idle, rfl⟩
  | cons input rest ih =>
      have hread := hkeeps.read render traced conduct input
      rw [readLines_cons, hread.progress]
      cases hquits : input.quits with
      | true => exact ⟨_, _, .of_quits hquits hread, by rw [List.any_cons, hquits]; rfl⟩
      | false =>
          obtain ⟨steps, last, hsteps, hrun⟩ := ih hread.keeps
          refine ⟨_, last, .cons hquits hread hsteps, ?_⟩
          rw [List.any_cons, hquits, Bool.false_or]
          exact congrArg _ hrun

/-- A chat that prints its banner and then reads lines. -/
def Begins (conduct : Nat → List Message → Conduct) (client : Client) (chat : Chat) : Prop :=
  ∃ banner, ∀ inputs, ∃ steps last, ReadsAll conduct client .start inputs steps last ∧
    chat.run render client inputs =
      .ok ⟨banner, steps ++ if inputs.any Input.quits then [] else [last.leave]⟩

theorem Keeps.begins {chat : Chat} (hkeeps : chat.Keeps .start) (traced : Bool)
    (conduct : Nat → List Message → Conduct)
    (hbanner : ∃ banner, chat.printer.banner chat.conversation = .ok banner) :
    chat.Begins render conduct (Client.ofConduct traced conduct) := by
  obtain ⟨banner, hprinted⟩ := hbanner
  refine ⟨banner, fun inputs => ?_⟩
  obtain ⟨steps, last, hsteps, hrun⟩ := hkeeps.readLines render traced conduct inputs
  refine ⟨steps, last, hsteps, ?_⟩
  rw [run, hprinted, ← hrun]
  rfl

end Chat

end Parley.Inline
