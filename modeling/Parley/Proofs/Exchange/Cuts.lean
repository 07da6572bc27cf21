import Parley.Proofs.Exchange.Interruption

/-!
# Where a body is cut

The network cuts a body into pieces as it likes: inside a character, between a return
and its line feed, inside the mark of a data line or the text of a chunk, and some pieces
may be empty.  An exchange reads through all of that, as long as its codec does.  What it
shows, in which order, and how it ends depend on the bytes of the body and on what follows
them.
-/

namespace Parley

namespace Arrival

/-- Two bodies that differ only in where they are cut. -/
structure SameParts {α : Type} (body other : List (Arrival α)) : Prop where
  arrived : arrived body = arrived other
  later : body.dropWhile isPiece = other.dropWhile isPiece

theorem sameParts_cut {α : Type} {pieces others : List (List α)}
    (hparts : pieces.flatten = others.flatten) (later : List (Arrival α)) :
    SameParts (pieces.map piece ++ later) (others.map piece ++ later) where
  arrived := by rw [arrived_append_map_piece, arrived_append_map_piece, hparts]
  later := by rw [dropWhile_map_piece_append, dropWhile_map_piece_append]

/-- A steady codec decodes all bytes that arrive, and goes on from there. -/
theorem decodeFrom_of_isSteady {codec : Wire.Codec} (hsteady : codec.IsSteady)
    {state next : codec.State} {body : List (Arrival Wire.Byte)} {text : List Char}
    (hfeed : codec.feed state (arrived body) = .ok (text, next)) :
    let rest := decodeFrom codec next (body.dropWhile isPiece)
    arrived (decodeFrom codec state body) = text ++ arrived rest ∧
      (decodeFrom codec state body).dropWhile isPiece = rest.dropWhile isPiece := by
  induction body generalizing state text with
  | nil =>
      obtain ⟨rfl, rfl⟩ := hsteady.of_feed_nil hfeed
      exact ⟨rfl, rfl⟩
  | cons arrival rest ih =>
      cases arrival with
      | failure cause | silence =>
          obtain ⟨rfl, rfl⟩ := hsteady.of_feed_nil hfeed
          exact ⟨rfl, rfl⟩
      | piece data =>
          rw [arrived] at hfeed
          cases hdata : data.isEmpty with
          | true =>
              rw [List.isEmpty_iff.mp hdata, List.nil_append] at hfeed
              rw [decodeFrom_of_isEmpty hdata]
              exact ih hfeed
          | false =>
              obtain ⟨first, middle, more, last, hfirst, hmore, hboth⟩ :=
                hsteady.feed_append state data (arrived rest)
              rw [hboth, Except.ok.injEq, Prod.mk.injEq] at hfeed
              obtain ⟨rfl, rfl⟩ := hfeed
              obtain ⟨harrived, hlater⟩ := ih hmore
              rw [decodeFrom_of_ok hdata hfirst, arrived, harrived]
              exact ⟨(List.append_assoc first more _).symm, hlater⟩

theorem sameParts_decode {codec : Wire.Codec} (hsteady : codec.IsSteady)
    {body other : List (Arrival Wire.Byte)} (hsame : SameParts body other) :
    SameParts (decode codec body) (decode codec other) := by
  rw [decode, decode]
  cases codec.start with
  | error error => exact ⟨rfl, rfl⟩
  | ok state =>
      obtain ⟨text, next, hfeed⟩ := hsteady.exists_feed state (arrived body)
      obtain ⟨harrived, hlater⟩ := decodeFrom_of_isSteady hsteady hfeed
      rw [hsame.arrived] at hfeed
      obtain ⟨harrived', hlater'⟩ := decodeFrom_of_isSteady hsteady hfeed
      rw [hsame.later] at harrived hlater
      exact ⟨harrived.trans harrived'.symm, hlater.trans hlater'.symm⟩

end Arrival

/-- A refusal is collected as a whole. -/
theorem Collected.ofArrivals_congr {body other : List (Arrival Wire.Byte)}
    (hsame : Arrival.SameParts body other) (data : List Wire.Byte) :
    ofArrivals data body = ofArrivals data other := by
  rw [ofArrivals_eq data body, ofArrivals_eq data other, hsame.arrived, hsame.later]

namespace StreamState

/-- A reader, wherever it stands in a reply, hears the same of the same text. -/
theorem listen_congr {heard other : List (Arrival Char)} (hsame : Arrival.SameParts heard other)
    (config : Config) (reader : StreamReader) :
    listen config reader heard = listen config reader other := by
  rw [listen_eq config reader heard, listen_eq config reader other, hsame.arrived,
    hsame.later]

theorem ofAnswer_congr [Wire.Platform] {contentType : Option String}
    (hsteady : (Wire.Codec.ofContentType contentType).IsSteady)
    {body other : List (Arrival Wire.Byte)} (hsame : Arrival.SameParts body other)
    (config : Config) (status : Int) :
    ofAnswer config (.response status contentType body) =
      ofAnswer config (.response status contentType other) := by
  cases hstatus : isSuccess status with
  | true =>
      rw [ofAnswer_success hstatus, ofAnswer_success hstatus,
        listen_congr (Arrival.sameParts_decode hsteady hsame)]
  | false =>
      rw [ofAnswer_refusal hstatus, ofAnswer_refusal hstatus, listenRefused, listenRefused,
        Collected.ofArrivals_congr hsame]

end StreamState

namespace StreamRun

/-- Two cuts of the same bytes with the same end after them make the same exchange: the
same deltas and traces in the same order, and the same result or failure.  This holds of
every status, and whether the body ends, breaks off or falls silent after the bytes, if the
codec is steady, as that of UTF-8 is. -/
theorem run_cut [Wire.Platform] {pieces others : List (List Wire.Byte)}
    (hbytes : pieces.flatten = others.flatten) {contentType : Option String}
    (hsteady : (Wire.Codec.ofContentType contentType).IsSteady) (config : Config)
    (messages : List Message) (status : Int) (later : List (Arrival Wire.Byte)) :
    run config messages (.response status contentType (pieces.map Arrival.piece ++ later)) =
      run config messages
        (.response status contentType (others.map Arrival.piece ++ later)) := by
  have hanswer := StreamState.ofAnswer_congr hsteady (Arrival.sameParts_cut hbytes later) config
    status
  rw [run, run, hanswer]

section Installed

attribute [local instance] Wire.Platform.installed

/-- Pieces that are cut inside the mark of a data line, inside a character, and between a
return and its line feed, with an empty piece. -/
def scatteredPieces : List (List Wire.Byte) :=
  [Wire.Utf8.encode "da".toList,
    Wire.Utf8.encode "ta: \x7b\"choices\":[\x7b\"delta\":\x7b\"content\":\"H".toList,
    [0xC3], [], [0xA9], Wire.Utf8.encode "\"\x7d\x7d]\x7d\r".toList,
    Wire.Utf8.encode "\ndata: \x7b\"choi".toList]

theorem run_cut_scatteredPieces :
    let broken : List (Arrival Wire.Byte) := [.failure (.transport .readError "reset")]
    scatteredPieces.flatten = [scatteredPieces.flatten].flatten ∧
    (Wire.Codec.ofContentType none).IsSteady ∧
    run (.defaults "k") [⟨.user, "hi"⟩]
        (.response 200 none (scatteredPieces.map Arrival.piece ++ broken)) =
      run (.defaults "k") [⟨.user, "hi"⟩]
        (.response 200 none ([scatteredPieces.flatten].map Arrival.piece ++ broken)) ∧
    (run (.defaults "k") [⟨.user, "hi"⟩]
      (.response 200 none ([scatteredPieces.flatten].map Arrival.piece ++ broken))).deltas =
      ["Hé"] := by
  intro broken
  have hbytes : scatteredPieces.flatten = [scatteredPieces.flatten].flatten := by
    rw [List.flatten_singleton]
  have hsteady : (Wire.Codec.ofContentType none).IsSteady := Wire.Codec.isSteady_utf8
  refine ⟨hbytes, hsteady, run_cut hbytes hsteady _ _ _ broken, ?_⟩
  decide +kernel

end Installed

end StreamRun

end Parley
