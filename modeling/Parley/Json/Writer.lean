import Parley.Json.Value

/-!
# Writing JSON

Values are written without white space.  In strings only the quotation mark,
the backslash and the control characters below the space are escaped, the
common controls by a letter and the others by their code.
-/

namespace Parley.Json

/-- A character inside a string. -/
def writtenChar (c : Char) : List Char :=
  if c = '"' || c = '\\' then ['\\', c]
  else if c = '\x08' then ['\\', 'b']
  else if c = '\x0c' then ['\\', 'f']
  else if c = '\n' then ['\\', 'n']
  else if c = '\r' then ['\\', 'r']
  else if c = '\t' then ['\\', 't']
  else if c.toNat < 0x20 then '\\' :: 'u' :: Text.hexDigits 4 c.toNat
  else [c]

/-- A string between quotation marks. -/
def writtenString (s : List Char) : List Char :=
  '"' :: (s.flatMap writtenChar ++ ['"'])

mutual

/-- The text of a value. -/
def written : Json → List Char
  | null => "null".toList
  | bool true => "true".toList
  | bool false => "false".toList
  | integer value => (toString value).toList
  | float value => value.shortest.toList
  | string value => writtenString value.toList
  | array items => '[' :: (writtenItems items ++ [']'])
  | object members => '{' :: (writtenMembers members ++ ['}'])

/-- The items of an array, separated by commas. -/
def writtenItems : List Json → List Char
  | [] => []
  | [item] => written item
  | item :: others => written item ++ ',' :: writtenItems others

/-- The members of an object, separated by commas. -/
def writtenMembers : List (String × Json) → List Char
  | [] => []
  | [(name, value)] => writtenString name.toList ++ ':' :: written value
  | (name, value) :: others =>
      writtenString name.toList ++ ':' :: written value ++ ',' :: writtenMembers others

end

/-- The text of a value. -/
def write (value : Json) : String :=
  String.ofList (written value)

end Parley.Json
