import Parley.Wire.Lines

/-!
# Lines of a text, whole or in pieces

A line cutter keeps what it has read of a line and holds a return back.  This
module reads the lines off a text directly and proves that a cutter finds these
lines, wherever the text was cut into pieces.  Before the end of the text is
known, it finds exactly the lines that are sure to have ended.
-/

namespace Parley.Wire

/-! ## The lines of a text -/

/-- Puts a character in front of the first line. -/
def growLine (c : Char) : List (List Char) → List (List Char)
  | [] => [[c]]
  | line :: rest => (c :: line) :: rest

/-- The lines of a text.  A return right before a line feed does not count, and
nothing stands after the last separator unless a character does. -/
def linesOf : List Char → List (List Char)
  | [] => []
  | c :: rest =>
      if c = '\r' ∧ rest.head? = some '\n' then linesOf rest
      else if isLineBreak c then [] :: linesOf rest
      else growLine c (linesOf rest)

/-- Whether the last line of a text may go on in a text after it: it lacks a
separator, or its return may still be followed by a line feed. -/
def goesOn (s : List Char) : Bool :=
  s.getLast?.any fun c => !isLineBreak c || c == '\r'

/-- The lines of a text that have ended, whatever comes after it. -/
def endedLines (s : List Char) : List (List Char) :=
  if goesOn s then (linesOf s).dropLast else linesOf s

theorem linesOf_cons_of_not_break {c : Char} (hc : isLineBreak c = false) (s : List Char) :
    linesOf (c :: s) = growLine c (linesOf s) := by
  have hreturn : c ≠ '\r' := by
    rintro rfl
    exact absurd hc (by decide)
  rw [linesOf, if_neg (fun h => hreturn h.1), if_neg (by simp [hc])]

theorem linesOf_cons_of_break {c : Char} (hc : isLineBreak c = true) (hreturn : c ≠ '\r')
    (s : List Char) : linesOf (c :: s) = [] :: linesOf s := by
  rw [linesOf, if_neg (fun h => hreturn h.1), if_pos hc]

theorem linesOf_return_of_ne {c : Char} (hc : c ≠ '\n') (s : List Char) :
    linesOf ('\r' :: c :: s) = [] :: linesOf (c :: s) := by
  rw [linesOf, if_neg (by simpa using hc), if_pos (by decide)]

theorem linesOf_return_feed (s : List Char) :
    linesOf ('\r' :: '\n' :: s) = [] :: linesOf s := by
  rw [linesOf, if_pos ⟨rfl, rfl⟩]
  exact linesOf_cons_of_break (by decide) (by decide) s

/-- Characters without a separator belong to the line that follows them. -/
theorem linesOf_append_of_not_break {a s line : List Char} {rest : List (List Char)}
    (ha : ∀ c ∈ a, isLineBreak c = false) (hs : linesOf s = line :: rest) :
    linesOf (a ++ s) = (a ++ line) :: rest := by
  induction a with
  | nil => exact hs
  | cons c tail ih =>
      rw [List.cons_append, linesOf_cons_of_not_break (ha c (by simp)),
        ih fun d hd => ha d (by simp [hd])]
      rfl

/-- Characters without a separator are one line. -/
theorem linesOf_of_not_break {a : List Char} (ha : ∀ c ∈ a, isLineBreak c = false) :
    linesOf a = if a.isEmpty then [] else [a] := by
  cases a with
  | nil => rfl
  | cons c rest =>
      induction rest generalizing c with
      | nil => exact linesOf_cons_of_not_break (ha c (by simp)) []
      | cons d tail ih =>
          rw [linesOf_cons_of_not_break (ha c (by simp)), ih d fun e he => ha e (by simp [he])]
          rfl

/-! ## A cutter between two pieces -/

namespace LineCutter

/-- What a cutter has read and not given out as a line. -/
def unread (cutter : LineCutter) : List Char :=
  cutter.pending.reverse ++ if cutter.held then ['\r'] else []

/-- No separator stands in the line under construction. -/
def Unbroken (cutter : LineCutter) : Prop :=
  ∀ c ∈ cutter.pending, isLineBreak c = false

theorem unbroken_start : start.Unbroken := by
  intro c hc
  exact absurd hc (by simp [start])

theorem feedAfter_cons (found : List String) (cutter : LineCutter) (c : Char) (s : List Char) :
    feedAfter found cutter (c :: s) =
      feedAfter ((step cutter c).1.reverse ++ found) (step cutter c).2 s := rfl

theorem feedAfter_eq (found : List String) (cutter : LineCutter) (s : List Char) :
    feedAfter found cutter s = (found.reverse ++ (cutter.feed s).1, (cutter.feed s).2) := by
  induction s generalizing found cutter with
  | nil => simp [feed, feedAfter]
  | cons c rest ih =>
      rw [feed, feedAfter_cons, feedAfter_cons, ih, ih ((step cutter c).1.reverse ++ [])]
      simp

@[simp]
theorem feed_nil (cutter : LineCutter) : cutter.feed [] = ([], cutter) := rfl

theorem feed_cons (cutter : LineCutter) (c : Char) (s : List Char) :
    cutter.feed (c :: s) =
      ((step cutter c).1 ++ ((step cutter c).2.feed s).1, ((step cutter c).2.feed s).2) := by
  rw [feed, feedAfter_cons, feedAfter_eq]
  simp

/-- Reading two pieces is reading the text that they form. -/
theorem feed_append (cutter : LineCutter) (a b : List Char) :
    cutter.feed (a ++ b) =
      ((cutter.feed a).1 ++ ((cutter.feed a).2.feed b).1, ((cutter.feed a).2.feed b).2) := by
  induction a generalizing cutter with
  | nil => simp
  | cons c rest ih => simp only [List.cons_append, feed_cons, ih, List.append_assoc]

/-! ## What a character does -/

theorem unbroken_push {pending : List Char} (hpending : ∀ c ∈ pending, isLineBreak c = false)
    (c : Char) : (push pending c).2.Unbroken := by
  rw [push]
  by_cases hreturn : c = '\r'
  · rw [if_pos hreturn]
    exact hpending
  · rw [if_neg hreturn]
    by_cases hbreak : isLineBreak c
    · rw [if_pos hbreak]
      exact unbroken_start
    · rw [if_neg hbreak]
      intro d hd
      rcases List.mem_cons.mp hd with rfl | hmem
      · exact Bool.eq_false_iff.mpr hbreak
      · exact hpending d hmem

theorem unbroken_step {cutter : LineCutter} (hcutter : cutter.Unbroken) (c : Char) :
    (step cutter c).2.Unbroken := by
  rw [step]
  by_cases hheld : cutter.held
  · rw [if_pos hheld]
    by_cases hfeed : c = '\n'
    · rw [if_pos hfeed]
      exact unbroken_start
    · rw [if_neg hfeed]
      exact unbroken_push (by simp) c
  · rw [if_neg hheld]
    exact unbroken_push hcutter c

/-- A character that follows no held return leaves the lines of the text as they are. -/
theorem linesOf_push {pending : List Char} (hpending : ∀ c ∈ pending, isLineBreak c = false)
    (c : Char) (s : List Char) :
    (linesOf (pending.reverse ++ c :: s)).map String.ofList =
      (push pending c).1 ++ (linesOf ((push pending c).2.unread ++ s)).map String.ofList := by
  have hreverse : ∀ d ∈ pending.reverse, isLineBreak d = false := by simpa using hpending
  rw [push]
  by_cases hreturn : c = '\r'
  · subst hreturn
    simp [unread]
  · rw [if_neg hreturn]
    by_cases hbreak : isLineBreak c
    · rw [if_pos hbreak,
        linesOf_append_of_not_break hreverse (linesOf_cons_of_break hbreak hreturn s)]
      simp [unread, start]
    · rw [if_neg hbreak]
      simp [unread]

theorem linesOf_step {cutter : LineCutter} (hcutter : cutter.Unbroken) (c : Char)
    (s : List Char) :
    (linesOf (cutter.unread ++ c :: s)).map String.ofList =
      (step cutter c).1 ++ (linesOf ((step cutter c).2.unread ++ s)).map String.ofList := by
  have hreverse : ∀ d ∈ cutter.pending.reverse, isLineBreak d = false := by
    simpa [Unbroken] using hcutter
  rw [step]
  by_cases hheld : cutter.held
  · rw [if_pos hheld, unread, if_pos hheld, List.append_assoc, List.singleton_append]
    by_cases hfeed : c = '\n'
    · subst hfeed
      rw [linesOf_append_of_not_break hreverse (linesOf_return_feed s)]
      simp [unread, start, line]
    · have hnone : ∀ d ∈ ([] : List Char), isLineBreak d = false := by simp
      have hpush := linesOf_push hnone c s
      rw [List.reverse_nil, List.nil_append] at hpush
      rw [if_neg hfeed, linesOf_append_of_not_break hreverse (linesOf_return_of_ne hfeed s)]
      simp [hpush, line]
  · rw [if_neg hheld, unread, if_neg hheld, List.append_nil]
    exact linesOf_push hcutter c s

/-- At the end of a text the last line is what was not given out. -/
theorem finish_eq {cutter : LineCutter} (hcutter : cutter.Unbroken) :
    cutter.finish = (linesOf cutter.unread).map String.ofList := by
  have hreverse : ∀ d ∈ cutter.pending.reverse, isLineBreak d = false := by
    simpa [Unbroken] using hcutter
  rw [finish, unread]
  by_cases hheld : cutter.held
  · have hlast : linesOf ['\r'] = [[]] := rfl
    rw [if_pos hheld, linesOf_append_of_not_break hreverse hlast]
    simp [hheld, line]
  · rw [if_neg hheld, List.append_nil, linesOf_of_not_break hreverse]
    by_cases hempty : cutter.pending = []
    · simp [hheld, hempty]
    · simp [hheld, hempty, line]

/-! ## What a text does -/

theorem unbroken_feed {cutter : LineCutter} (hcutter : cutter.Unbroken) (s : List Char) :
    (cutter.feed s).2.Unbroken := by
  induction s generalizing cutter with
  | nil => exact hcutter
  | cons c rest ih =>
      rw [feed_cons]
      exact ih (unbroken_step hcutter c)

/-- The lines given out, followed by those of what was kept, are the lines of the text. -/
theorem linesOf_feed {cutter : LineCutter} (hcutter : cutter.Unbroken) (s : List Char) :
    (linesOf (cutter.unread ++ s)).map String.ofList =
      (cutter.feed s).1 ++ (linesOf (cutter.feed s).2.unread).map String.ofList := by
  induction s generalizing cutter with
  | nil => simp
  | cons c rest ih =>
      rw [linesOf_step hcutter, ih (unbroken_step hcutter c), feed_cons, List.append_assoc]

/-! ## What is kept -/

theorem goesOn_push (pending : List Char) (c : Char) :
    goesOn (push pending c).2.unread = goesOn [c] := by
  rw [push]
  by_cases hreturn : c = '\r'
  · subst hreturn
    simp [unread, goesOn]
  · rw [if_neg hreturn]
    by_cases hbreak : isLineBreak c
    · simp [hbreak, hreturn, unread, start, goesOn]
    · simp [hbreak, unread, goesOn]

theorem goesOn_step (cutter : LineCutter) (c : Char) :
    goesOn (step cutter c).2.unread = goesOn [c] := by
  rw [step]
  by_cases hheld : cutter.held
  · rw [if_pos hheld]
    by_cases hfeed : c = '\n'
    · subst hfeed
      rw [if_pos rfl]
      rfl
    · rw [if_neg hfeed]
      exact goesOn_push [] c
  · rw [if_neg hheld]
    exact goesOn_push cutter.pending c

/-- Only the end of a text says whether its last line may go on. -/
theorem goesOn_feed (cutter : LineCutter) (s : List Char) :
    goesOn (cutter.feed s).2.unread = goesOn (cutter.unread ++ s) := by
  induction s generalizing cutter with
  | nil => simp
  | cons c rest ih =>
      rw [feed_cons, ih]
      cases rest with
      | nil =>
          rw [List.append_nil, goesOn_step]
          simp [goesOn]
      | cons d tail => simp [goesOn, List.getLast?_append, List.getLast?_cons]

theorem goesOn_unread {cutter : LineCutter} (hcutter : cutter.Unbroken) :
    goesOn cutter.unread = !cutter.unread.isEmpty := by
  rw [unread]
  by_cases hheld : cutter.held
  · simp [hheld, goesOn]
  · cases hpending : cutter.pending with
    | nil => simp [hheld, goesOn]
    | cons c rest =>
        have hc : isLineBreak c = false := hcutter c (by simp [hpending])
        simp [hheld, goesOn, hc]

/-- What was kept is at most one line. -/
theorem length_linesOf_unread {cutter : LineCutter} (hcutter : cutter.Unbroken) :
    (linesOf cutter.unread).length = if goesOn cutter.unread then 1 else 0 := by
  have hlength : ((linesOf cutter.unread).map String.ofList).length =
      cutter.finish.length := congrArg List.length (finish_eq hcutter).symm
  rw [List.length_map] at hlength
  rw [hlength, goesOn_unread hcutter, finish, unread]
  cases cutter.held <;> cases cutter.pending <;> simp

end LineCutter

/-! ## Texts -/

/-- A text that is read to its end has its own lines. -/
theorem splitLines_eq (s : List Char) : splitLines s = (linesOf s).map String.ofList := by
  have hkept := LineCutter.unbroken_feed LineCutter.unbroken_start s
  calc
    splitLines s =
        (LineCutter.start.feed s).1 ++ (LineCutter.start.feed s).2.finish := rfl
    _ = (LineCutter.start.feed s).1 ++
          (linesOf (LineCutter.start.feed s).2.unread).map String.ofList := by
      rw [LineCutter.finish_eq hkept]
    _ = (linesOf s).map String.ofList :=
      (LineCutter.linesOf_feed LineCutter.unbroken_start s).symm

/-- While more may come, a cutter gives out exactly the lines that have ended. -/
theorem feed_start (s : List Char) :
    (LineCutter.start.feed s).1 = (endedLines s).map String.ofList := by
  have hkept := LineCutter.unbroken_feed LineCutter.unbroken_start s
  have hlines : (linesOf s).map String.ofList = (LineCutter.start.feed s).1 ++
      (linesOf (LineCutter.start.feed s).2.unread).map String.ofList :=
    LineCutter.linesOf_feed LineCutter.unbroken_start s
  have hlength := LineCutter.length_linesOf_unread hkept
  have hgoes : goesOn (LineCutter.start.feed s).2.unread = goesOn s :=
    LineCutter.goesOn_feed LineCutter.start s
  rw [hgoes] at hlength
  rw [endedLines]
  by_cases hs : goesOn s
  · rw [if_pos hs] at hlength
    obtain ⟨last, hlast⟩ := List.length_eq_one_iff.mp hlength
    rw [if_pos hs, List.map_dropLast, hlines, hlast]
    simp
  · rw [if_neg hs] at hlength
    rw [if_neg hs, hlines, List.length_eq_zero_iff.mp hlength]
    simp

end Parley.Wire
