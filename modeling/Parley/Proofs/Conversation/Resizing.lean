import Parley.Proofs.Conversation.History

/-!
# Resizes

Replies are drawn again when the width changes, and only then.  As long as every reply
is drawn for the width at hand, this is the same as drawing all of them at every
resize, and then a resize can be put off: it commutes with every other event, and of
several resizes only the last one counts.  So a run is as good as the run without its
resizes, followed by one resize to the last size.
-/

namespace Parley

namespace Event

/-- The size that a resize brings. -/
def size? : Event → Option (Int × Int)
  | .resize width height => some (width, height)
  | _ => none

end Event

/-- What an entry has to be drawn as at a width: only replies are drawn. -/
def Entry.drawing (render : Renderer) (width : Int) (entry : Entry) : Option String :=
  match entry.speaker with
  | .assistant => some (render entry.raw width)
  | .user | .error => none

namespace Conversation

/-- All entries are drawn for the width at hand. -/
def IsDrawn (render : Renderer) (c : Conversation) : Prop :=
  ∀ entry ∈ c.entries, entry.drawn = entry.drawing render c.contentWidth

/-- The conversation at another size, with all replies drawn again. -/
def redrawn (render : Renderer) (c : Conversation) (width height : Int) : Conversation :=
  { c with
    width
    height
    entries := c.entries.map (redraw render (contentWidth { c with width })) }

/-- The conversation at another size, if there is one. -/
def fitted (render : Renderer) (c : Conversation) : Option (Int × Int) → Conversation
  | some (width, height) => c.redrawn render width height
  | none => c

/-! ## Lazy and eager resizes -/

theorem redraw_eq_self {render : Renderer} {width : Int} {entry : Entry}
    (hentry : entry.drawn = entry.drawing render width) :
    redraw render width entry = entry := by
  rcases entry with ⟨speaker, raw, drawn⟩
  cases speaker with
  | user => rfl
  | assistant =>
      change drawn = some (render raw width) at hentry
      rw [hentry]
      rfl
  | error => rfl

/-- While all is drawn, the replies may as well be drawn again at every resize. -/
theorem resize_eq_redrawn {render : Renderer} {c : Conversation} (hc : c.IsDrawn render)
    (width height : Int) : c.resize render width height = c.redrawn render width height := by
  rw [resize, redrawn]
  split
  case isTrue hwidth =>
      subst hwidth
      have hentries : c.entries.map (redraw render c.contentWidth) = c.entries :=
        (List.map_congr_left fun entry hentry => redraw_eq_self (hc entry hentry)).trans
          (List.map_id _)
      exact congrArg (fun entries => { c with height, entries }) hentries.symm
  case isFalse => rfl

theorem redraw_redraw (render : Renderer) (width before : Int) (entry : Entry) :
    redraw render width (redraw render before entry) = redraw render width entry := by
  rcases entry with ⟨speaker, raw, drawn⟩
  cases speaker <;> rfl

/-- Of two resizes the later one counts. -/
theorem redrawn_redrawn (render : Renderer) (c : Conversation)
    (width height before beforeHeight : Int) :
    (c.redrawn render before beforeHeight).redrawn render width height =
      c.redrawn render width height := by
  simp only [redrawn, List.map_map]
  have hredraw : ∀ inner outer : Int,
      redraw render outer ∘ redraw render inner = redraw render outer := by
    intro inner outer
    funext entry
    exact redraw_redraw render outer inner entry
  rw [hredraw]
  rfl

theorem drawn_redraw (render : Renderer) (width : Int) {entry : Entry} {before : Int}
    (hentry : entry.drawn = entry.drawing render before) :
    (redraw render width entry).drawn = (redraw render width entry).drawing render width := by
  rcases entry with ⟨speaker, raw, drawn⟩
  cases speaker with
  | user => exact hentry
  | assistant => rfl
  | error => exact hentry

theorem isDrawn_redrawn {render : Renderer} {c : Conversation} (hc : c.IsDrawn render)
    (width height : Int) : (c.redrawn render width height).IsDrawn render := by
  intro entry hmem
  obtain ⟨before, hbefore, rfl⟩ := List.mem_map.mp hmem
  exact drawn_redraw render _ (hc before hbefore)

theorem isDrawn_fitted {render : Renderer} {c : Conversation} (hc : c.IsDrawn render)
    (size : Option (Int × Int)) : (c.fitted render size).IsDrawn render := by
  cases size with
  | none => exact hc
  | some size => exact isDrawn_redrawn hc size.1 size.2

/-! ## Events keep what is drawn -/

theorem isDrawn_append {render : Renderer} {c after : Conversation} (hc : c.IsDrawn render)
    {added : List Entry} (hentries : after.entries = c.entries ++ added)
    (hwidth : after.width = c.width)
    (hadded : ∀ entry ∈ added, entry.drawn = entry.drawing render c.contentWidth) :
    after.IsDrawn render := by
  intro entry hmem
  rw [contentWidth, hwidth]
  rw [hentries] at hmem
  obtain hold | hnew := List.mem_append.mp hmem
  · exact hc entry hold
  · exact hadded entry hnew

theorem IsDrawn.of_same {render : Renderer} {c after : Conversation} (hc : c.IsDrawn render)
    (hentries : after.entries = c.entries) (hwidth : after.width = c.width) :
    after.IsDrawn render := by
  rw [← List.append_nil c.entries] at hentries
  exact isDrawn_append hc hentries hwidth (by simp)

theorem isDrawn_startTurn {render : Renderer} {c : Conversation} (hc : c.IsDrawn render)
    (content : String) : (c.startTurn content).IsDrawn render :=
  isDrawn_append hc rfl rfl (by simp [Entry.drawing])

theorem isDrawn_submit {render : Renderer} {c : Conversation} (hc : c.IsDrawn render) :
    c.submit.1.IsDrawn render := by
  obtain hnone | hquit | ⟨-, hclear⟩ | ⟨-, -, hstart⟩ := submit_cases c
  · rw [hnone]
    exact hc
  · rw [hquit]
    exact hc
  · rw [hclear]
    intro entry hmem
    exact absurd hmem List.not_mem_nil
  · rw [hstart]
    exact isDrawn_startTurn hc _

theorem isDrawn_commit {render : Renderer} {c : Conversation} (hc : c.IsDrawn render) :
    (c.commit render).IsDrawn render :=
  isDrawn_append hc rfl rfl (by simp [Entry.drawing])

theorem isDrawn_report {render : Renderer} {c : Conversation} (hc : c.IsDrawn render)
    (error : Failure) : (c.report error).IsDrawn render :=
  isDrawn_append hc rfl rfl (by simp [Entry.drawing])

theorem isDrawn_finish {render : Renderer} {c : Conversation} (hc : c.IsDrawn render)
    (error : Option Failure) (finishReason : Option String) :
    (c.finish render error finishReason).IsDrawn render := by
  have hkept :
      (if error.isNone || !c.reply.isEmpty then c.commit render else c).IsDrawn render := by
    split
    · exact isDrawn_commit hc
    · exact hc
  rw [finish]
  cases error with
  | none => exact hkept.of_same rfl rfl
  | some error => exact (isDrawn_report hkept error).of_same rfl rfl

theorem isDrawn_handle {render : Renderer} {c : Conversation} (hc : c.IsDrawn render)
    (event : Event) : (c.handle render event).1.IsDrawn render := by
  cases event with
  | edit text =>
      rw [handle, edit]
      split
      · exact hc
      · exact hc.of_same rfl rfl
  | submit => exact isDrawn_submit hc
  | resize width height =>
      rw [handle, resize_eq_redrawn hc]
      exact isDrawn_redrawn hc width height
  | delta text =>
      rw [handle, addDelta]
      split
      · exact hc.of_same rfl rfl
      · exact hc
  | done error result =>
      rw [handle]
      split
      · exact isDrawn_finish hc error _
      · exact hc
  | quit => exact hc

/-! ## A resize can be put off -/

section Redrawn

variable (render : Renderer) (c : Conversation) (width height : Int)

@[simp]
theorem streaming_redrawn : (c.redrawn render width height).streaming = c.streaming := rfl

@[simp]
theorem input_redrawn : (c.redrawn render width height).input = c.input := rfl

@[simp]
theorem reply_redrawn : (c.redrawn render width height).reply = c.reply := rfl

theorem edit_redrawn (text : String) :
    (c.redrawn render width height).edit text =
      (c.edit text).redrawn render width height := by
  rw [edit, edit, streaming_redrawn]
  by_cases hstreaming : c.streaming
  · rw [if_pos hstreaming, if_pos hstreaming]
  · rw [if_neg hstreaming, if_neg hstreaming]
    rfl

theorem addDelta_redrawn (text : String) :
    (c.redrawn render width height).addDelta text =
      (c.addDelta text).redrawn render width height := by
  rw [addDelta, addDelta, streaming_redrawn]
  by_cases hstreaming : c.streaming
  · rw [if_pos hstreaming, if_pos hstreaming]
    rfl
  · rw [if_neg hstreaming, if_neg hstreaming]

theorem startTurn_redrawn (content : String) :
    (c.redrawn render width height).startTurn content =
      (c.startTurn content).redrawn render width height := by
  simp only [startTurn, redrawn, List.map_append]
  rfl

theorem submit_redrawn :
    (c.redrawn render width height).submit =
      (c.submit.1.redrawn render width height, c.submit.2) := by
  simp only [submit]
  rw [streaming_redrawn, input_redrawn]
  by_cases hstreaming : c.streaming
  · rw [if_pos hstreaming, if_pos hstreaming]
  · rw [if_neg hstreaming, if_neg hstreaming]
    split
    · rfl
    · split
      · rfl
      · split
        · rfl
        · rw [startTurn_redrawn]

/-- A reply is drawn for the width at which it is committed, and a later resize draws it
again for the width at which it would have been committed. -/
theorem commit_redrawn :
    (c.redrawn render width height).commit render =
      (c.commit render).redrawn render width height := by
  simp only [commit, redrawn, List.map_append]
  rfl

theorem report_redrawn (error : Failure) :
    (c.redrawn render width height).report error =
      (c.report error).redrawn render width height := by
  simp only [report, redrawn, List.map_append]
  rfl

theorem finish_redrawn (error : Option Failure) (finishReason : Option String) :
    (c.redrawn render width height).finish render error finishReason =
      (c.finish render error finishReason).redrawn render width height := by
  have hkept : (if error.isNone || !c.reply.isEmpty then
        (c.redrawn render width height).commit render
      else c.redrawn render width height) =
      (if error.isNone || !c.reply.isEmpty then c.commit render else c).redrawn render
        width height := by
    rw [commit_redrawn]
    split <;> rfl
  simp only [finish]
  rw [reply_redrawn, hkept]
  cases error with
  | none => rfl
  | some error =>
      simp only [Option.elim_some, report_redrawn]
      rfl

/-- A resize commutes with every other event. -/
theorem handle_redrawn {event : Event} (hevent : event.size? = none) :
    (c.redrawn render width height).handle render event =
      ((c.handle render event).1.redrawn render width height,
        (c.handle render event).2) := by
  cases event with
  | edit text => rw [handle, handle, edit_redrawn, streaming_redrawn]
  | submit => exact submit_redrawn render c width height
  | resize width height => exact absurd hevent (Option.some_ne_none _)
  | delta text => rw [handle, handle, addDelta_redrawn, streaming_redrawn]
  | done error result =>
      rw [handle, handle, finish_redrawn, streaming_redrawn]
      split <;> rfl
  | quit => rfl

end Redrawn

theorem handle_fitted (render : Renderer) (c : Conversation) (size : Option (Int × Int))
    {event : Event} (hevent : event.size? = none) :
    (c.fitted render size).handle render event =
      ((c.handle render event).1.fitted render size, (c.handle render event).2) := by
  cases size with
  | none => rfl
  | some size => exact handle_redrawn render c size.1 size.2 hevent

/-! ## Runs -/

/-- The events other than resizes. -/
def withoutResizes (events : List Event) : List Event :=
  events.filter fun event => event.size?.isNone

/-- The size after events, given the size before them. -/
def lastSize (before : Option (Int × Int)) (events : List Event) : Option (Int × Int) :=
  (events.filterMap Event.size?).getLast?.or before

theorem withoutResizes_resize (width height : Int) (events : List Event) :
    withoutResizes (.resize width height :: events) = withoutResizes events := rfl

theorem withoutResizes_cons {event : Event} (hevent : event.size? = none)
    (events : List Event) :
    withoutResizes (event :: events) = event :: withoutResizes events :=
  List.filter_cons_of_pos (by rw [hevent]; rfl)

theorem lastSize_resize (before : Option (Int × Int)) (width height : Int)
    (events : List Event) :
    lastSize before (.resize width height :: events) =
      lastSize (some (width, height)) events := by
  simp only [lastSize, List.filterMap_cons, Event.size?]
  rw [List.getLast?_cons]
  cases (events.filterMap Event.size?).getLast? <;> rfl

theorem lastSize_cons {event : Event} (hevent : event.size? = none)
    (before : Option (Int × Int)) (events : List Event) :
    lastSize before (event :: events) = lastSize before events := by
  rw [lastSize, List.filterMap_cons_none hevent]
  rfl

/-- A run from a resized conversation reaches what the run without the resizes reaches,
fitted to the last size, and each event other than a resize has the same action in
both. -/
theorem handleAll_fitted {render : Renderer} {c : Conversation} (hc : c.IsDrawn render)
    (size : Option (Int × Int)) (events : List Event) :
    ((c.fitted render size).handleAll render events).1 =
        (c.handleAll render (withoutResizes events)).1.fitted render (lastSize size events) ∧
      (events.zip ((c.fitted render size).handleAll render events).2).filter
          (fun step => step.1.size?.isNone) =
        (withoutResizes events).zip (c.handleAll render (withoutResizes events)).2 := by
  induction events generalizing c size with
  | nil => exact ⟨rfl, rfl⟩
  | cons event rest ih =>
      cases hevent : event.size? with
      | some next =>
          obtain ⟨width, height, rfl⟩ : ∃ width height, event = .resize width height := by
            cases event <;> simp_all [Event.size?]
          have hresize : (c.fitted render size).resize render width height =
              c.fitted render (some (width, height)) := by
            rw [resize_eq_redrawn (isDrawn_fitted hc size)]
            cases size with
            | none => rfl
            | some size => exact redrawn_redrawn render c width height size.1 size.2
          have hrest := ih hc (some (width, height))
          rw [lastSize_resize, withoutResizes_resize]
          simp only [handleAll, handle, hresize]
          exact hrest
      | none =>
          have hrest := ih (isDrawn_handle hc event) size
          rw [lastSize_cons hevent, withoutResizes_cons hevent]
          simp only [handleAll, handle_fitted render c size hevent, List.zip_cons_cons]
          refine ⟨hrest.1, ?_⟩
          rw [List.filter_cons_of_pos (by rw [hevent]; rfl), hrest.2]

theorem isDrawn_handleAll {render : Renderer} {c : Conversation} (hc : c.IsDrawn render)
    (events : List Event) : (c.handleAll render events).1.IsDrawn render := by
  induction events generalizing c with
  | nil => exact hc
  | cons event rest ih => exact ih (isDrawn_handle hc event)

/-- A fresh conversation that handles events reaches what it reaches without the resizes,
resized once to the last size if there was one, and the events other than resizes have
the same actions.  So every reply is drawn for the width at hand, whatever the sizes
were on the way, and nothing else is drawn. -/
theorem handleAll_start_resizes (render : Renderer) (model sessionKey endpoint : String)
    (width height : Int) (events : List Event) :
    let fresh := start model sessionKey endpoint width height
    let run := fresh.handleAll render events
    let plain := fresh.handleAll render (withoutResizes events)
    run.1 =
        (match (events.filterMap Event.size?).getLast? with
        | some (lastWidth, lastHeight) => plain.1.resize render lastWidth lastHeight
        | none => plain.1) ∧
      run.2.length = events.length ∧
      plain.2.length = (withoutResizes events).length ∧
      (events.zip run.2).filter (fun step => step.1.size?.isNone) =
        (withoutResizes events).zip plain.2 ∧
      ∀ entry ∈ run.1.entries, entry.drawn =
        if entry.speaker = .assistant then some (render entry.raw (max (run.1.width - 2) 1))
        else none := by
  intro fresh run plain
  have hfresh : fresh.IsDrawn render := by
    intro entry hmem
    exact absurd hmem List.not_mem_nil
  have hplain : plain.1.IsDrawn render := isDrawn_handleAll hfresh (withoutResizes events)
  obtain ⟨hreached, hactions⟩ := handleAll_fitted hfresh none events
  refine ⟨?_, length_handleAll render fresh events,
    length_handleAll render fresh (withoutResizes events), hactions, ?_⟩
  · rw [lastSize, Option.or_none] at hreached
    refine hreached.trans ?_
    cases (events.filterMap Event.size?).getLast? with
    | none => rfl
    | some size => exact (resize_eq_redrawn hplain size.1 size.2).symm
  · intro entry hmem
    rw [isDrawn_handleAll hfresh events entry hmem, Entry.drawing]
    rcases entry with ⟨speaker, raw, drawn⟩
    cases speaker <;> rfl

/-- A reply that is committed at one width and shown at another, after a detour. -/
def resizedTurn : List Event :=
  [.edit "hi", .resize 40 10, .submit, .delta "yo", .done none none, .resize 60 10, .edit "x",
    .resize 40 12]

theorem handleAll_start_resizes_detour :
    let run := (start "m" "k" "e" 80 24).handleAll (fun text width => text ++ toString width)
      resizedTurn
    (⟨.assistant, "yo", some "yo38"⟩ : Entry) ∈ run.1.entries ∧
      (some "yo38" : Option String) = some ("yo" ++ toString (max (run.1.width - 2) 1)) := by
  intro run
  have hmem : (⟨.assistant, "yo", some "yo38"⟩ : Entry) ∈ run.1.entries := by decide +kernel
  obtain ⟨-, -, -, -, hdrawn⟩ := handleAll_start_resizes
    (fun text width => text ++ toString width) "m" "k" "e" 80 24 resizedTurn
  exact ⟨hmem, hdrawn _ hmem⟩

end Conversation

end Parley
