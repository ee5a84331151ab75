import Tint.Style

/-!
# Terminal previews

Each classified token is written in the style of its class between control sequences; after it the
terminal's own look is set again.
-/

namespace Tint.Ansi

/-- A control sequence that sets attributes. -/
def sequence (attributes : String) : String :=
  "\x1b[" ++ attributes ++ "m"

/-- What switches a style on. -/
def enter (style : Style) : String :=
  let color := match style.foreground.paletteIndex? with
    | none => ""
    | some index => sequence ("38;5;" ++ toString index)
  color ++ (if style.bold then sequence "1" else "") ++ (if style.italic then sequence "3" else "")

/-- What switches every style off: the attributes and the colors each have a reset of their own. -/
def leave : String :=
  sequence "0" ++ sequence "0"

/-- Appends a token to a preview. -/
def appendToken (done : String) (token : Token) : String :=
  match token.tokenClass with
  | none => done ++ token.text
  | some tokenClass => done ++ enter tokenClass.style ++ token.text ++ leave

/-- The tokens as a preview. -/
def render (tokens : List Token) : String :=
  tokens.foldl appendToken ""

end Tint.Ansi
