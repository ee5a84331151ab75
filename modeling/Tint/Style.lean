import Tint.Token

/-!
# Terminal styles

The look of each class of tokens in a terminal preview: one of the sixteen terminal colors or the
terminal's own, with or without bold and italic.
-/

namespace Tint

/-- The terminal's own color and the sixteen of its palette. -/
inductive Color where
  | default
  | black | red | green | yellow | blue | magenta | cyan | white
  | brightBlack | brightRed | brightGreen | brightYellow | brightBlue | brightMagenta | brightCyan
  | brightWhite
  deriving DecidableEq, Repr

namespace Color

/-- The place of a color in the terminal's palette: the dark colors, then the bright ones.  The
terminal's own color has none. -/
def paletteIndex? : Color → Option Nat
  | default => none
  | black => some 0
  | red => some 1
  | green => some 2
  | yellow => some 3
  | blue => some 4
  | magenta => some 5
  | cyan => some 6
  | white => some 7
  | brightBlack => some 8
  | brightRed => some 9
  | brightGreen => some 10
  | brightYellow => some 11
  | brightBlue => some 12
  | brightMagenta => some 13
  | brightCyan => some 14
  | brightWhite => some 15

end Color

/-- How text looks in a terminal. -/
structure Style where
  foreground : Color := .default
  bold : Bool := false
  italic : Bool := false
  deriving DecidableEq, Repr

/-- Whether the style leaves the terminal's own look. -/
def Style.isDefault (style : Style) : Bool :=
  style == {}

/-- The look of a class in terminal previews. -/
def TokenClass.style : TokenClass → Style
  | comment => { foreground := .brightBlack, italic := true }
  | keyword => { foreground := .magenta, bold := true }
  | type => { foreground := .yellow }
  | function => { foreground := .blue }
  | builtin => { foreground := .brightCyan }
  | string => { foreground := .green }
  | number => { foreground := .cyan }
  | operator => { foreground := .brightWhite }
  | var => { foreground := .brightRed }
  | property => { foreground := .brightBlue }
  | tag => { foreground := .red }
  | attr => { foreground := .brightYellow }
  | decorator => { foreground := .brightMagenta }
  | punctuation => {}

end Tint
