import Parley.Wire.Utf8

/-!
# Codecs

The bytes of a body are read as characters by a codec, piece by piece.  A codec may fail
at any piece, and at the end.  Which codec a content type names, and how a host name with
characters beyond ASCII is written on the wire, depends on the platform.
-/

namespace Parley.Wire

/-- What goes wrong in a codec: the name of the error, and what it says. -/
structure CodecError where
  kind : String
  text : String
  deriving Repr, DecidableEq

/-- A way of reading bytes as characters.  Between two pieces its reader is in a state. -/
structure Codec where
  State : Type
  start : Except CodecError State
  feed : State → List Byte → Except CodecError (List Char × State)
  /-- What the end of the bytes still brings. -/
  finish : State → Except CodecError (List Char)

namespace Codec

/-- UTF-8, with faults shown. -/
def utf8 : Codec where
  State := Utf8.State
  start := .ok .start
  feed state data :=
    let (items, next) := Utf8.run state data
    .ok (items.map Utf8.shownItem, next)
  finish state := .ok ((Utf8.finish state).map Utf8.shownItem)

/-- Reads the rest of some pieces.  Empty pieces are passed over. -/
def readFrom (codec : Codec) (state : codec.State) :
    List (List Byte) → Except CodecError (List Char)
  | [] => codec.finish state
  | data :: rest =>
      if data.isEmpty then codec.readFrom state rest
      else do
        let (text, next) ← codec.feed state data
        let more ← codec.readFrom next rest
        return text ++ more

/-- The text of some pieces. -/
def read (codec : Codec) (pieces : List (List Byte)) : Except CodecError (List Char) := do
  codec.readFrom (← codec.start) pieces

/-- The text of a body that is there as a whole.  An empty one is not given to the codec. -/
def readWhole (codec : Codec) (data : List Byte) : Except CodecError String :=
  if data.isEmpty then .ok "" else (codec.read [data]).map String.ofList

end Codec

/-- What a program finds on the machine that it runs on. -/
class Platform where
  /-- The codec of the character set that a content type names, if it is known. -/
  codec? : String → Option Codec
  /-- The form on the wire of a host name with characters beyond ASCII, if it has one. -/
  hostName? : List Char → Option (List Char)

/-- The codec for a content type.  Where no character set is named, or none that is known,
a body is read as UTF-8. -/
def Codec.ofContentType [Platform] (contentType : Option String) : Codec :=
  (contentType.bind Platform.codec?).getD utf8

end Parley.Wire
