import Parley.Exchange.Stream
import Parley.Proofs.Wire.Decoding

/-!
# What arrives of a body

A body arrives in pieces, and may break off between them.  A codec turns the pieces into text
and hands on what breaks the body off, unless it fails first: then its error breaks the text off.
-/

namespace Parley

namespace Arrival

variable {α : Type}

/-- Whether an arrival is a piece of the body. -/
def isPiece : Arrival α → Bool
  | piece _ => true
  | _ => false

/-- The bytes or characters that arrive before anything else happens. -/
def arrived : List (Arrival α) → List α
  | piece data :: rest => data ++ arrived rest
  | _ => []

theorem arrived_append_map_piece (pieces : List (List α)) (later : List (Arrival α)) :
    arrived (pieces.map piece ++ later) = pieces.flatten ++ arrived later := by
  induction pieces with
  | nil => rfl
  | cons data rest ih =>
      rw [List.map_cons, List.cons_append, arrived, ih, List.flatten_cons, List.append_assoc]

theorem arrived_map_piece (pieces : List (List α)) :
    arrived (pieces.map piece) = pieces.flatten := by
  have happend := arrived_append_map_piece pieces []
  rw [List.append_nil] at happend
  rw [happend]
  exact List.append_nil pieces.flatten

theorem dropWhile_map_piece_append (pieces : List (List α)) (later : List (Arrival α)) :
    (pieces.map piece ++ later).dropWhile isPiece = later.dropWhile isPiece := by
  induction pieces with
  | nil => rfl
  | cons data rest ih => exact ih

theorem dropWhile_map_piece (pieces : List (List α)) :
    (pieces.map piece).dropWhile isPiece = [] := by
  induction pieces with
  | nil => rfl
  | cons data rest ih => exact ih

/-! ## Where a body breaks off -/

def failure? : Arrival α → Option Failure
  | failure cause => some cause
  | _ => none

/-- The failure that breaks a body off.  When the server falls silent, the time runs
out. -/
def breakOff? : List (Arrival α) → Option Failure
  | [] => none
  | piece _ :: rest => breakOff? rest
  | failure cause :: _ => some cause
  | silence :: _ => some (.deadline "")

/-- A body that does not break off is a list of pieces. -/
theorem exists_pieces_of_breakOff?_eq_none {body : List (Arrival α)}
    (hbody : breakOff? body = none) :
    ∃ pieces : List (List α), body = pieces.map piece := by
  induction body with
  | nil => exact ⟨[], rfl⟩
  | cons arrival rest ih =>
      cases arrival with
      | piece data =>
          obtain ⟨pieces, hpieces⟩ := ih hbody
          exact ⟨data :: pieces, by rw [hpieces, List.map_cons]⟩
      | failure cause => exact absurd hbody (by simp [breakOff?])
      | silence => exact absurd hbody (by simp [breakOff?])

/-- A body breaks off with one of its failures, unless the time runs out. -/
theorem mem_failures_of_breakOff?_eq_some {body : List (Arrival α)} {broken : Failure}
    (hbody : breakOff? body = some broken) :
    broken ∈ body.filterMap failure? ∨ broken = .deadline "" := by
  induction body with
  | nil => exact absurd hbody (by simp [breakOff?])
  | cons arrival rest ih =>
      cases arrival with
      | piece data => simpa [failure?] using ih hbody
      | failure cause =>
          left
          have hcause : cause = broken := by simpa [breakOff?] using hbody
          simp [failure?, hcause]
      | silence =>
          right
          simpa [breakOff?, eq_comm] using hbody

/-- What stands where a body breaks off. -/
theorem dropWhile_of_breakOff?_eq_some {body : List (Arrival α)} {broken : Failure}
    (hbody : breakOff? body = some broken) :
    (∃ rest, body.dropWhile isPiece = failure broken :: rest) ∨
      (broken = .deadline "" ∧ ∃ rest, body.dropWhile isPiece = silence :: rest) := by
  induction body with
  | nil => exact absurd hbody (by simp [breakOff?])
  | cons arrival rest ih =>
      cases arrival with
      | piece data => exact ih hbody
      | failure cause =>
          left
          exact ⟨rest, by simpa [breakOff?, isPiece] using hbody⟩
      | silence =>
          right
          exact ⟨by simpa [breakOff?, eq_comm] using hbody, rest, rfl⟩

/-! ## Bodies that are decoded -/

section Decoded

variable {codec : Wire.Codec} {state : codec.State} {pieces : List (List Wire.Byte)}

theorem decodeFrom_of_isEmpty {data : List Wire.Byte} (hempty : data.isEmpty = true)
    (rest : List (Arrival Wire.Byte)) :
    decodeFrom codec state (piece data :: rest) = decodeFrom codec state rest := by
  rw [decodeFrom, if_pos hempty]

theorem decodeFrom_of_ok {data : List Wire.Byte} {text : List Char} {next : codec.State}
    (hdata : data.isEmpty = false) (hfeed : codec.feed state data = .ok (text, next))
    (rest : List (Arrival Wire.Byte)) :
    decodeFrom codec state (piece data :: rest) = piece text :: decodeFrom codec next rest := by
  rw [decodeFrom, if_neg (by simp [hdata]), hfeed]

theorem decodeFrom_of_error {data : List Wire.Byte} {error : Wire.CodecError}
    (hdata : data.isEmpty = false) (hfeed : codec.feed state data = .error error)
    (rest : List (Arrival Wire.Byte)) :
    decodeFrom codec state (piece data :: rest) = [failure (.undecodable error)] := by
  rw [decodeFrom, if_neg (by simp [hdata]), hfeed]

/-- Pieces whose text can be read arrive as pieces of this text. -/
theorem decodeFrom_of_readFrom {text : List Char}
    (hread : codec.readFrom state pieces = .ok text) :
    ∃ texts : List (List Char),
      decodeFrom codec state (pieces.map piece) = texts.map piece ∧ texts.flatten = text := by
  induction pieces generalizing state text with
  | nil =>
      have hfinish : codec.finish state = .ok text := hread
      exact ⟨[text], by rw [List.map_nil, decodeFrom, hfinish]; rfl, List.flatten_singleton⟩
  | cons data rest ih =>
      cases hdata : data.isEmpty with
      | true =>
          rw [Wire.Codec.readFrom_of_isEmpty hdata] at hread
          rw [List.map_cons, decodeFrom_of_isEmpty hdata]
          exact ih hread
      | false =>
          cases hfeed : codec.feed state data with
          | error error =>
              rw [Wire.Codec.readFrom_of_error hdata hfeed] at hread
              cases hread
          | ok fed =>
              rw [Wire.Codec.readFrom_of_ok hdata hfeed] at hread
              cases hmore : codec.readFrom fed.2 rest with
              | error error =>
                  rw [hmore] at hread
                  cases hread
              | ok more =>
                  rw [hmore] at hread
                  obtain ⟨texts, hdecode, hflatten⟩ := ih hmore
                  refine ⟨fed.1 :: texts, ?_, ?_⟩
                  · rw [List.map_cons, decodeFrom_of_ok hdata hfeed, hdecode, List.map_cons]
                  · rw [List.flatten_cons, hflatten]
                    exact Except.ok.inj hread

theorem decode_of_read {text : List Char} (hread : codec.read pieces = .ok text) :
    ∃ texts : List (List Char),
      decode codec (pieces.map piece) = texts.map piece ∧ texts.flatten = text := by
  rw [Wire.Codec.read] at hread
  rw [decode]
  cases hstart : codec.start with
  | error error =>
      rw [hstart] at hread
      cases hread
  | ok state =>
      rw [hstart] at hread
      exact decodeFrom_of_readFrom hread

/-- The text of some pieces that is read before it is known what follows them. -/
def openText (codec : Wire.Codec) (pieces : List (List Wire.Byte)) : List Char :=
  arrived (decode codec (pieces.map piece ++ [silence]))

theorem arrived_decodeFrom_append (state : codec.State) (pieces : List (List Wire.Byte))
    (later : List (Arrival Wire.Byte)) :
    arrived (decodeFrom codec state (pieces.map piece ++ [silence])) <+:
      arrived (decodeFrom codec state (pieces.map piece ++ later)) := by
  induction pieces generalizing state with
  | nil => exact List.nil_prefix
  | cons data rest ih =>
      rw [List.map_cons, List.cons_append, List.cons_append]
      cases hdata : data.isEmpty with
      | true =>
          rw [decodeFrom_of_isEmpty hdata, decodeFrom_of_isEmpty hdata]
          exact ih state
      | false =>
          cases hfeed : codec.feed state data with
          | error error =>
              have hsame :
                  decodeFrom codec state (piece data :: (rest.map piece ++ [silence])) =
                    decodeFrom codec state (piece data :: (rest.map piece ++ later)) := by
                rw [decodeFrom_of_error hdata hfeed, decodeFrom_of_error hdata hfeed]
              exact hsame ▸ List.prefix_rfl
          | ok fed =>
              rw [decodeFrom_of_ok hdata hfeed, decodeFrom_of_ok hdata hfeed, arrived, arrived,
                List.prefix_append_right_inj]
              exact ih fed.2

/-- What was read of some pieces remains so, whatever follows them. -/
theorem openText_isPrefix (codec : Wire.Codec) (pieces : List (List Wire.Byte))
    (later : List (Arrival Wire.Byte)) :
    openText codec pieces <+: arrived (decode codec (pieces.map piece ++ later)) := by
  rw [openText, decode, decode]
  cases codec.start with
  | error error => exact List.prefix_rfl
  | ok state => exact arrived_decodeFrom_append state pieces later

theorem mem_decodeFrom {cause : Failure} {state : codec.State} {body : List (Arrival Wire.Byte)}
    (hcause : cause ∈ (decodeFrom codec state body).filterMap failure?) :
    cause ∈ body.filterMap failure? ∨ ∃ error, cause = .undecodable error := by
  induction body generalizing state with
  | nil =>
      rw [decodeFrom] at hcause
      cases hfinish : codec.finish state with
      | error error =>
          rw [hfinish] at hcause
          exact .inr ⟨error, by simpa [failure?] using hcause⟩
      | ok last =>
          rw [hfinish] at hcause
          exact absurd hcause (by simp [failure?])
  | cons arrival rest ih =>
      cases arrival with
      | failure raised =>
          left
          have hraised : cause = raised := by simpa [decodeFrom, failure?] using hcause
          simp [failure?, hraised]
      | silence =>
          replace hcause : cause ∈ (decodeFrom codec state rest).filterMap failure? := hcause
          exact ih hcause
      | piece data =>
          cases hdata : data.isEmpty with
          | true =>
              rw [decodeFrom_of_isEmpty hdata] at hcause
              exact ih hcause
          | false =>
              cases hfeed : codec.feed state data with
              | error error =>
                  rw [decodeFrom_of_error hdata hfeed] at hcause
                  exact .inr ⟨error, by simpa [failure?] using hcause⟩
              | ok fed =>
                  rw [decodeFrom_of_ok hdata hfeed] at hcause
                  replace hcause : cause ∈ (decodeFrom codec fed.2 rest).filterMap failure? :=
                    hcause
                  exact ih hcause

/-- A decoded body fails as the body does, or because it cannot be decoded. -/
theorem mem_decode {cause : Failure} {body : List (Arrival Wire.Byte)}
    (hcause : cause ∈ (decode codec body).filterMap failure?) :
    cause ∈ body.filterMap failure? ∨ ∃ error, cause = .undecodable error := by
  rw [decode] at hcause
  cases hstart : codec.start with
  | error error =>
      rw [hstart] at hcause
      exact .inr ⟨error, by simpa [failure?] using hcause⟩
  | ok state =>
      rw [hstart] at hcause
      exact mem_decodeFrom hcause

end Decoded

end Arrival

end Parley
