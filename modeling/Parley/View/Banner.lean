import Parley.Terminal.Layout
import Parley.View.Palette

/-!
# The welcome banner

The banner is a panel with a title, a rule, and two columns: hints on the left,
the model, the server and the session on the right.  The values on the right are
read as markup.
-/

namespace Parley.View

open Terminal

/-- The version of the program. -/
def version : String := "0.1.0"

/-- The title of the banner. -/
def bannerTitle (version : String) : Styled :=
  Styled.join [
    Styled.ofString "Echoryn Chat" (.boldColored accentColor), Styled.ofString " ",
    Styled.ofString ("v" ++ version) (.colored mutedColor)]

/-- The hints of the banner. -/
def bannerTips : Styled :=
  Styled.join [
    Styled.ofString "Tips\n" (.boldColored accentColor),
    Styled.ofString "Type a message and press Enter to send\n",
    Styled.ofString "/clear  reset conversation\n",
    Styled.ofString "/quit   exit\n",
    Styled.ofString "Ctrl+C  exit"]

/-- The grid of labels and values. -/
def infoGrid (rows : List (String × Styled)) : Grid where
  columns := [{ style := .boldColored mutedColor }, {}]
  gap := 1
  expand := false
  rows := rows.map fun (label, value) =>
    [Drawing.ofStyled (Styled.ofString label), Drawing.ofStyled value]

/-- The grid with the hints and the values side by side. -/
def bodyGrid (info : Grid) : Grid where
  columns := [{ ratio := some 1 }, { ratio := some 1 }]
  gap := 2
  expand := true
  rows := [[Drawing.ofStyled bannerTips, info.drawing]]

/-- The grid with the title, a rule and the body below each other. -/
def layoutGrid (version : String) (body : Grid) : Grid where
  columns := [{}]
  gap := 0
  expand := true
  rows := [[Drawing.ofStyled (bannerTitle version)], [Drawing.rule (.colored mutedColor)],
    [body.drawing]]

/-- The panel around values that were read. -/
def bannerPanel (model server session : Styled) (version : String) : Drawing :=
  let info := infoGrid [("Model", model), ("Server", server), ("Session", session)]
  panel (.colored accentColor) (layoutGrid version (bodyGrid info)).drawing

/-- The banner. -/
def banner (model server sessionKey version : String) : Except MarkupError Drawing := do
  let model ← Markup.read model
  let server ← Markup.read server
  let session ← Markup.read (if sessionKey.isEmpty then "new" else sessionKey)
  return bannerPanel model server session version

/-- The narrowest console whose panel has room for anything between its borders. -/
def leastBannerWidth : Nat := 5

/-- Prints the banner.  Values for which there is no room are not read. -/
def printBanner (console : Console) (model server sessionKey version : String) :
    Except MarkupError String :=
  let drawn :=
    if console.width < leastBannerWidth then .ok (bannerPanel [] [] [] version)
    else banner model server sessionKey version
  drawn.map fun drawing => console.printLines (drawing.lines ⟨console.width, .ragged, .fold⟩)

end Parley.View
