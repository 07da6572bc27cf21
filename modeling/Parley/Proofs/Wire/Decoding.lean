import Parley.Wire.Codec

/-!
# Bytes of a text, whole or in pieces

A decoder keeps the unfinished character between two pieces of a body.  Reading
the pieces one after the other therefore gives the same characters as reading
the bytes that they form.  This holds of UTF-8, and of every other codec that is steady.
-/

namespace Parley.Wire

namespace Utf8

theorem runAfter_cons (found : List Item) (state : State) (byte : Byte) (bytes : List Byte) :
    runAfter found state (byte :: bytes) =
      runAfter ((step state byte).1.reverse ++ found) (step state byte).2 bytes := rfl

theorem runAfter_eq (found : List Item) (state : State) (bytes : List Byte) :
    runAfter found state bytes = (found.reverse ++ (run state bytes).1, (run state bytes).2) := by
  induction bytes generalizing found state with
  | nil => simp [run, runAfter]
  | cons byte rest ih =>
      rw [run, runAfter_cons, runAfter_cons, ih, ih ((step state byte).1.reverse ++ [])]
      simp

@[simp]
theorem run_nil (state : State) : run state [] = ([], state) := rfl

theorem run_cons (state : State) (byte : Byte) (bytes : List Byte) :
    run state (byte :: bytes) =
      ((step state byte).1 ++ (run (step state byte).2 bytes).1,
        (run (step state byte).2 bytes).2) := by
  rw [run, runAfter_cons, runAfter_eq]
  simp

theorem run_append (state : State) (a b : List Byte) :
    run state (a ++ b) =
      ((run state a).1 ++ (run (run state a).2 b).1, (run (run state a).2 b).2) := by
  induction a generalizing state with
  | nil => simp
  | cons byte rest ih => simp only [List.cons_append, run_cons, ih, List.append_assoc]

end Utf8

namespace Codec

/-! ## Reading piece by piece -/

section Reading

variable {codec : Codec} {state next : codec.State} {data : List Byte} {text : List Char}
  {error : CodecError}

theorem readFrom_of_isEmpty (hempty : data.isEmpty = true) (rest : List (List Byte)) :
    codec.readFrom state (data :: rest) = codec.readFrom state rest := by
  rw [readFrom, if_pos hempty]

theorem readFrom_of_ok (hdata : data.isEmpty = false)
    (hfeed : codec.feed state data = .ok (text, next)) (rest : List (List Byte)) :
    codec.readFrom state (data :: rest) = (codec.readFrom next rest).map (text ++ ·) := by
  rw [readFrom, if_neg (by simp [hdata]), hfeed]
  rfl

theorem readFrom_of_error (hdata : data.isEmpty = false)
    (hfeed : codec.feed state data = .error error) (rest : List (List Byte)) :
    codec.readFrom state (data :: rest) = .error error := by
  rw [readFrom, if_neg (by simp [hdata]), hfeed]
  rfl

end Reading

/-- A codec that takes all bytes and does not mind where they are cut. -/
structure IsSteady (codec : Codec) : Prop where
  feed_nil : ∀ state, codec.feed state [] = .ok ([], state)
  feed_append : ∀ state a b, ∃ text next more last,
    codec.feed state a = .ok (text, next) ∧ codec.feed next b = .ok (more, last) ∧
      codec.feed state (a ++ b) = .ok (text ++ more, last)

theorem IsSteady.exists_feed {codec : Codec} (h : codec.IsSteady) (state : codec.State)
    (data : List Byte) : ∃ text next, codec.feed state data = .ok (text, next) := by
  obtain ⟨text, next, -, -, hfeed, -, -⟩ := h.feed_append state data []
  exact ⟨text, next, hfeed⟩

theorem IsSteady.of_feed_nil {codec : Codec} (h : codec.IsSteady) {state next : codec.State}
    {text : List Char} (hfeed : codec.feed state [] = .ok (text, next)) :
    text = [] ∧ next = state := by
  rw [h.feed_nil, Except.ok.injEq, Prod.mk.injEq] at hfeed
  exact ⟨hfeed.1.symm, hfeed.2.symm⟩

/-- A steady codec reads pieces as it reads the bytes that they form. -/
theorem IsSteady.readFrom_eq {codec : Codec} (h : codec.IsSteady) {state next : codec.State}
    {pieces : List (List Byte)} {text : List Char}
    (hfeed : codec.feed state pieces.flatten = .ok (text, next)) :
    codec.readFrom state pieces = (codec.finish next).map (text ++ ·) := by
  induction pieces generalizing state text with
  | nil =>
      obtain ⟨rfl, rfl⟩ := h.of_feed_nil hfeed
      cases hfinish : codec.finish next with
      | ok last => rw [readFrom, hfinish, Except.map, List.nil_append]
      | error error => exact hfinish
  | cons data rest ih =>
      cases hdata : data.isEmpty with
      | true =>
          rw [List.flatten_cons, List.isEmpty_iff.mp hdata, List.nil_append] at hfeed
          rw [readFrom_of_isEmpty hdata]
          exact ih hfeed
      | false =>
          obtain ⟨first, middle, more, last, hfirst, hmore, hboth⟩ :=
            h.feed_append state data rest.flatten
          rw [List.flatten_cons, hboth, Except.ok.injEq, Prod.mk.injEq] at hfeed
          obtain ⟨rfl, rfl⟩ := hfeed
          rw [readFrom_of_ok hdata hfirst, ih hmore]
          cases codec.finish last with
          | ok rest => simp [Except.map]
          | error error => rfl

/-! ## UTF-8 -/

theorem feed_utf8 (state : Utf8.State) (data : List Byte) :
    utf8.feed state data =
      .ok ((Utf8.run state data).1.map Utf8.shownItem, (Utf8.run state data).2) := rfl

theorem feed_utf8_append (state : Utf8.State) (a b : List Byte) :
    utf8.feed state (a ++ b) =
      .ok ((Utf8.run state a).1.map Utf8.shownItem ++
          (Utf8.run (Utf8.run state a).2 b).1.map Utf8.shownItem,
        (Utf8.run (Utf8.run state a).2 b).2) := by
  rw [feed_utf8, Utf8.run_append, List.map_append]

theorem isSteady_utf8 : utf8.IsSteady where
  feed_nil _ := rfl
  feed_append state a b := ⟨_, _, _, _, rfl, rfl, feed_utf8_append state a b⟩

/-- As UTF-8, every body can be read. -/
theorem read_utf8 (pieces : List (List Byte)) :
    utf8.read pieces = .ok (Utf8.decode pieces.flatten).toList := by
  have hread := isSteady_utf8.readFrom_eq (feed_utf8 .start pieces.flatten)
  have htext : (Utf8.decode pieces.flatten).toList =
      (Utf8.run .start pieces.flatten).1.map Utf8.shownItem ++
        (Utf8.finish (Utf8.run .start pieces.flatten).2).map Utf8.shownItem := by
    rw [Utf8.decode, String.toList_ofList, Utf8.items, List.map_append]
  rw [htext]
  exact hread

end Codec

end Parley.Wire
