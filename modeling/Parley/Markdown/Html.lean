import Parley.Markdown.Character
import Parley.Text.Blank

/-!
# Raw HTML

Tags, comments and declarations are recognised so that they can be left out.
`tagLength?` measures one that stands inside a text, and `htmlStart?` tells which
kind of block a line begins.
-/

namespace Parley.Markdown

/-- The rest of a text after a given beginning. -/
def after? (lead s : List Char) : Option (List Char) :=
  if lead.isPrefixOf s then some (s.drop lead.length) else none

/-- The rest of a text after the first place of a mark. -/
def afterMark? (mark : List Char) : List Char → Option (List Char)
  | [] => none
  | c :: rest =>
      if mark.isPrefixOf (c :: rest) then some ((c :: rest).drop mark.length)
      else afterMark? mark rest

/-- The rest after blanks. -/
def skipBlanks (s : List Char) : List Char :=
  s.dropWhile Text.isBlank

/-- Whether a character may stand in the name of a tag after its first letter. -/
def isTagChar (c : Char) : Bool :=
  c.isAlphanum || c == '-'

/-- The rest after the name of a tag. -/
def afterTagName? (s : List Char) : Option (List Char) :=
  match s with
  | c :: rest => if c.isAlpha then some (rest.dropWhile isTagChar) else none
  | [] => none

/-- Whether a character may begin the name of an attribute. -/
def isAttributeStart (c : Char) : Bool :=
  c.isAlpha || c == '_' || c == ':'

/-- Whether a character may stand in the name of an attribute. -/
def isAttributeChar (c : Char) : Bool :=
  c.isAlphanum || c == ':' || c == '.' || c == '_' || c == '-'

/-- Whether a character may stand in a value without quotes. -/
def isBareChar (c : Char) : Bool :=
  !("\"'=<>\x60".toList.contains c) && 0x20 < c.toNat

/-- The rest after the value of an attribute. -/
def afterValue? (s : List Char) : Option (List Char) :=
  match s with
  | '"' :: rest => afterMark? ['"'] rest
  | '\'' :: rest => afterMark? ['\''] rest
  | c :: rest => if isBareChar c then some (rest.dropWhile isBareChar) else none
  | [] => none

/-- The rest after an attribute and the blanks before it. -/
def afterAttribute? (s : List Char) : Option (List Char) :=
  let start := skipBlanks s
  match start with
  | c :: rest =>
      if start.length < s.length && isAttributeStart c then
        let name := rest.dropWhile isAttributeChar
        match skipBlanks name with
        | '=' :: value => some ((afterValue? (skipBlanks value)).getD name)
        | _ => some name
      else none
  | [] => none

/-- The rest after all attributes; `fuel` bounds their number. -/
def afterAttributes : Nat → List Char → List Char
  | 0, s => s
  | fuel + 1, s =>
      match afterAttribute? s with
      | some rest => afterAttributes fuel rest
      | none => s

/-- The rest after an opening tag, given what follows its angle bracket. -/
def afterOpenTag? (s : List Char) : Option (List Char) :=
  (afterTagName? s).bind fun rest =>
    match skipBlanks (afterAttributes rest.length rest) with
    | '/' :: '>' :: rest => some rest
    | '>' :: rest => some rest
    | _ => none

/-- The rest after a closing tag, given what follows its angle bracket. -/
def afterCloseTag? (s : List Char) : Option (List Char) :=
  match s with
  | '/' :: rest =>
      (afterTagName? rest).bind fun rest =>
        match skipBlanks rest with
        | '>' :: rest => some rest
        | _ => none
  | _ => none

/-- The rest after a comment, given what follows its angle bracket. -/
def afterComment? (s : List Char) : Option (List Char) :=
  match s with
  | '!' :: '-' :: '-' :: '>' :: rest => some rest
  | '!' :: '-' :: '-' :: '-' :: '>' :: rest => some rest
  | '!' :: '-' :: '-' :: rest => afterMark? ['-', '-', '>'] rest
  | _ => none

/-- The rest after a declaration, given what follows its angle bracket. -/
def afterDeclaration? (s : List Char) : Option (List Char) :=
  match s with
  | '?' :: rest => afterMark? ['?', '>'] rest
  | '!' :: c :: rest => if c.isAlpha then afterMark? ['>'] rest else none
  | _ => none

/-- The rest after a section of plain characters, given what follows its angle
bracket. -/
def afterSection? (s : List Char) : Option (List Char) :=
  (after? "![CDATA[".toList s).bind (afterMark? [']', ']', '>'])

/-- The rest after raw HTML, given what follows its angle bracket. -/
def afterTag? (s : List Char) : Option (List Char) :=
  afterOpenTag? s <|> afterCloseTag? s <|> afterComment? s <|> afterDeclaration? s <|>
    afterSection? s

/-! ## Blocks -/

/-- A kind of HTML block: the text that ends it, or a blank line, and whether it may
end a paragraph. -/
structure HtmlKind where
  ends : List String
  interrupts : Bool
  deriving Repr, DecidableEq

/-- Names of tags whose content is kept as it is. -/
def verbatimTags : List String := ["script", "pre", "style", "textarea"]

/-- Names of tags that begin a block. -/
def blockTags : List String := [
  "address", "article", "aside", "base", "basefont", "blockquote", "body", "caption", "center",
  "col", "colgroup", "dd", "details", "dialog", "dir", "div", "dl", "dt", "fieldset", "figcaption",
  "figure", "footer", "form", "frame", "frameset", "h1", "h2", "h3", "h4", "h5", "h6", "head",
  "header", "hr", "html", "iframe", "legend", "li", "link", "main", "menu", "menuitem", "nav",
  "noframes", "ol", "optgroup", "option", "p", "param", "search", "section", "summary", "table",
  "tbody", "td", "tfoot", "th", "thead", "title", "tr", "track", "ul"]

/-- A text in lower case. -/
def lower (s : List Char) : List Char :=
  s.map Char.toLower

/-- Whether one of the names stands at the start of a text and what follows it is
fine. -/
def startsWithName (names : List String) (fine : List Char → Bool) (s : List Char) : Bool :=
  names.any fun name => (after? name.toList (lower s)).any fine

/-- Whether a name ends: at a blank, at an angle bracket, or with the line. -/
def nameEnds (s : List Char) : Bool :=
  match s with
  | [] => true
  | c :: _ => Text.isBlank c || c == '>'

/-- Whether a name ends, possibly at the end of an empty tag. -/
def blockNameEnds (s : List Char) : Bool :=
  nameEnds s || ['/', '>'].isPrefixOf s

/-- Whether a line holds one complete tag and nothing else. -/
def isLoneTag (s : List Char) : Bool :=
  (afterOpenTag? s <|> afterCloseTag? s).any fun rest => rest.all Text.isBlank

/-- The kind of HTML block that a line begins. -/
def htmlStart? (line : List Char) : Option HtmlKind :=
  match line with
  | '<' :: s =>
      if startsWithName verbatimTags nameEnds s then
        some ⟨verbatimTags.map fun name => "</" ++ name ++ ">", true⟩
      else if (after? "!--".toList s).isSome then some ⟨["-->"], true⟩
      else if s.head? = some '?' then some ⟨["?>"], true⟩
      else if (after? ['!'] s).any (fun rest => rest.head?.any Char.isUpper) then some ⟨[">"], true⟩
      else if (after? "![CDATA[".toList s).isSome then some ⟨["]]>"], true⟩
      else if startsWithName blockTags blockNameEnds ((after? ['/'] s).getD s) then some ⟨[], true⟩
      else if isLoneTag s then some ⟨[], false⟩
      else none
  | _ => none

/-- Whether a line ends an HTML block. -/
def HtmlKind.isEnd (kind : HtmlKind) (line : List Char) : Bool :=
  if kind.ends.isEmpty then line.isEmpty
  else kind.ends.any fun mark => (afterMark? mark.toList (lower line)).isSome

end Parley.Markdown
