import Tint.Ansi
import Tint.Proofs.Tokens

/-!
# What a terminal shows of a preview

A terminal receives a preview character by character.  It shows each character in the style that is
set, except for control sequences, which set the style of what comes behind them.

Of a preview it shows the text of the tokens, each in the style of its class and plain ones in its
own.  For this each token must leave the terminal as it found it: a color, bold or italic that is
not switched off would show in all tokens behind.
-/

namespace Tint

/-! ## Terminals -/

namespace Terminal

/-- A character on a terminal and how it looks. -/
structure Cell where
  char : Char
  style : Style
  deriving DecidableEq, Repr

/-- What a terminal takes the next character for. -/
inductive Mode where
  /-- Text to show. -/
  | text
  /-- What comes behind an escape character. -/
  | escape
  /-- A part of a control sequence, behind some parameters. -/
  | sequence (parameters : List Char)
  deriving DecidableEq, Repr

end Terminal

/-- A terminal with what it shows and the style of what it is to show next. -/
structure Terminal where
  cells : List Terminal.Cell := []
  style : Style := {}
  mode : Terminal.Mode := .text
  deriving DecidableEq, Repr

/-- The colors of a terminal's palette by number: eight dark ones, then their bright variants. -/
def Color.palette : List Color :=
  [black, red, green, yellow, blue, magenta, cyan, white, brightBlack, brightRed, brightGreen,
    brightYellow, brightBlue, brightMagenta, brightCyan, brightWhite]

namespace Terminal

/-- The number that decimal digits stand for. -/
def number (digits : List Char) : Nat :=
  digits.foldl (fun number digit => 10 * number + (digit.toNat - '0'.toNat)) 0

/-- The color that parameters select, by its number in the palette. -/
def selectedColor? (parameters : List Char) : Option Color :=
  (parameters.dropPrefix? "38;5;".toList).bind fun digits => Color.palette[number digits]?

/-- The style after a control sequence.  Parameters that mean nothing to the terminal leave it as it
is. -/
def select (style : Style) (parameters : List Char) : Style :=
  if parameters = ['0'] then {}
  else if parameters = ['1'] then { style with bold := true }
  else if parameters = ['3'] then { style with italic := true }
  else match selectedColor? parameters with
    | some color => { style with foreground := color }
    | none => style

/-- Whether a character is part of the parameters of a control sequence.  Any other one ends it. -/
def isParameter (c : Char) : Bool :=
  c.isDigit || c == ';'

/-- Takes one character.  Control sequences that end in `m` are those for the style. -/
def receive (terminal : Terminal) (c : Char) : Terminal :=
  match terminal.mode with
  | .text =>
      if c = '\x1b' then { terminal with mode := .escape }
      else { terminal with cells := terminal.cells ++ [⟨c, terminal.style⟩] }
  | .escape => { terminal with mode := if c = '[' then .sequence [] else .text }
  | .sequence parameters =>
      if isParameter c then { terminal with mode := .sequence (parameters ++ [c]) }
      else if c = 'm' then
        { terminal with mode := .text, style := select terminal.style parameters }
      else { terminal with mode := .text }

/-- Takes characters one after the other. -/
def receiveAll (terminal : Terminal) (text : List Char) : Terminal :=
  text.foldl receive terminal

/-- A terminal with its own style that has received some output. -/
def display (output : String) : Terminal :=
  receiveAll {} output.toList

/-! ## Text and control sequences -/

variable {cells : List Cell} {style : Style}

theorem receiveAll_append (terminal : Terminal) (text more : List Char) :
    terminal.receiveAll (text ++ more) = (terminal.receiveAll text).receiveAll more :=
  List.foldl_append

/-- Text without escape characters is shown in the style that is set. -/
theorem receiveAll_text {text : List Char} (noEscape : '\x1b' ∉ text) :
    receiveAll { cells, style } text =
      { cells := cells ++ text.map fun c => ⟨c, style⟩, style } := by
  induction text generalizing cells with
  | nil => simp [receiveAll]
  | cons c text ih =>
      have isText : c ≠ '\x1b' := (List.ne_of_not_mem_cons noEscape).symm
      have laterText : '\x1b' ∉ text := List.not_mem_of_not_mem_cons noEscape
      have first : receive { cells, style } c = { cells := cells ++ [⟨c, style⟩], style } := by
        simp [receive, isText]
      rw [receiveAll, List.foldl_cons, first, ← receiveAll, ih laterText]
      simp

/-- Parameters are gathered up to the end of their sequence. -/
theorem receiveAll_parameters {parameters : List Char} (gathered : List Char)
    (areParameters : parameters.all isParameter) :
    receiveAll { cells, style, mode := .sequence gathered } (parameters ++ ['m']) =
      { cells, style := select style (gathered ++ parameters) } := by
  induction parameters generalizing gathered with
  | nil => simp [receiveAll, receive, show isParameter 'm' = false by decide]
  | cons c parameters ih =>
      have ⟨isFirst, areLater⟩ : isParameter c = true ∧ parameters.all isParameter = true := by
        simpa using areParameters
      have first : receive { cells, style, mode := .sequence gathered } c =
          { cells, style, mode := .sequence (gathered ++ [c]) } := by
        simp [receive, isFirst]
      rw [List.cons_append, receiveAll, List.foldl_cons, first, ← receiveAll, ih _ areLater]
      simp

/-- A control sequence shows nothing and sets the style. -/
theorem receiveAll_sequence {parameters : String}
    (areParameters : parameters.toList.all isParameter) :
    receiveAll { cells, style } (Ansi.sequence parameters).toList =
      { cells, style := select style parameters.toList } := by
  have written : (Ansi.sequence parameters).toList =
      '\x1b' :: '[' :: (parameters.toList ++ ['m']) := by
    simp [Ansi.sequence]
  have started : receiveAll { cells, style } (Ansi.sequence parameters).toList =
      receiveAll { cells, style, mode := .sequence [] } (parameters.toList ++ ['m']) := by
    rw [written]
    rfl
  rw [started, receiveAll_parameters [] areParameters, List.nil_append]

/-! ## Styles -/

theorem eq_default_of_paletteIndex? {color : Color} (none : color.paletteIndex? = none) :
    color = .default := by
  cases color <;> first | rfl | cases none

/-- The palette has each color where previews ask for it. -/
theorem selectedColor?_paletteIndex? {color : Color} {index : Nat}
    (found : color.paletteIndex? = some index) :
    ("38;5;" ++ toString index).toList.all isParameter ∧
      selectedColor? ("38;5;" ++ toString index).toList = some color := by
  cases color <;> cases found <;> decide

theorem select_color {color : Color} {index : Nat} (found : color.paletteIndex? = some index) :
    select style ("38;5;" ++ toString index).toList = { style with foreground := color } := by
  have ⟨_, isColor⟩ := selectedColor?_paletteIndex? found
  have differ (c : Char) : ("38;5;" ++ toString index).toList ≠ [c] := by
    simp
  rw [select, if_neg (differ '0'), if_neg (differ '1'), if_neg (differ '3'), isColor]

/-- A style is switched on by its color, bold and italic, as far as it has them. -/
theorem enter_eq (style : Style) :
    Ansi.enter style =
      style.foreground.paletteIndex?.elim ""
          (fun index => Ansi.sequence ("38;5;" ++ toString index)) ++
        (if style.bold then Ansi.sequence "1" else "") ++
        (if style.italic then Ansi.sequence "3" else "") := by
  cases found : style.foreground.paletteIndex? <;> simp only [Ansi.enter, found, Option.elim]

/-- What switches a style on sets it on a terminal with its own style. -/
theorem receiveAll_enter (style : Style) :
    receiveAll { cells } (Ansi.enter style).toList = { cells, style } := by
  rw [enter_eq, String.toList_append, String.toList_append, receiveAll_append, receiveAll_append]
  have ⟨color, bold, italic⟩ := style
  have colored : receiveAll { cells }
      (color.paletteIndex?.elim ""
        fun index => Ansi.sequence ("38;5;" ++ toString index)).toList =
        { cells, style := { foreground := color } } := by
    cases found : color.paletteIndex? with
    | none =>
        rw [eq_default_of_paletteIndex? found]
        rfl
    | some index =>
        have areParameters := (selectedColor?_paletteIndex? found).1
        rw [Option.elim, receiveAll_sequence areParameters, select_color found]
  have emboldened : receiveAll { cells, style := { foreground := color } }
      (if bold then Ansi.sequence "1" else "").toList =
        { cells, style := { foreground := color, bold } } := by
    cases bold with
    | false => rfl
    | true => exact receiveAll_sequence (by decide)
  have slanted : receiveAll { cells, style := { foreground := color, bold } }
      (if italic then Ansi.sequence "3" else "").toList =
        { cells, style := { foreground := color, bold, italic } } := by
    cases italic with
    | false => rfl
    | true => exact receiveAll_sequence (by decide)
  rw [colored, emboldened, slanted]

/-- What switches styles off gives a terminal its own style back. -/
theorem receiveAll_leave : receiveAll { cells, style } Ansi.leave.toList = { cells } := by
  have reset (style : Style) :
      receiveAll { cells, style } (Ansi.sequence "0").toList = { cells } :=
    receiveAll_sequence (by decide)
  rw [Ansi.leave, String.toList_append, receiveAll_append, reset, reset]

end Terminal

/-! ## Previews -/

/-- The style of a token: that of its class, or the terminal's own for plain text. -/
def Token.style (token : Token) : Style :=
  match token.tokenClass with
  | none => {}
  | some tokenClass => tokenClass.style

/-- The characters of a token in its style. -/
def Token.cells (token : Token) : List Terminal.Cell :=
  token.text.toList.map fun c => ⟨c, token.style⟩

namespace Terminal

/-- A token is shown in its style, and the terminal has its own style again. -/
theorem display_appendToken {cells : List Cell} {done : String} (shown : display done = { cells })
    {token : Token} (noEscape : '\x1b' ∉ token.text.toList) :
    display (Ansi.appendToken done token) = { cells := cells ++ token.cells } := by
  rw [display] at shown ⊢
  rw [Ansi.appendToken]
  cases found : token.tokenClass with
  | none =>
      have own : token.style = {} := by simp [Token.style, found]
      rw [String.toList_append, receiveAll_append, shown, receiveAll_text noEscape, Token.cells,
        own]
  | some tokenClass =>
      have isStyle : token.style = tokenClass.style := by simp [Token.style, found]
      simp only [String.toList_append, receiveAll_append]
      rw [shown, receiveAll_enter, receiveAll_text noEscape, receiveAll_leave, Token.cells, isStyle]

/-- Tokens are shown behind what is shown already. -/
theorem display_foldl_appendToken {cells : List Cell} {done : String}
    (shown : display done = { cells }) {tokens : List Token}
    (noEscape : ∀ token ∈ tokens, '\x1b' ∉ token.text.toList) :
    display (tokens.foldl Ansi.appendToken done) =
      { cells := cells ++ tokens.flatMap Token.cells } := by
  induction tokens generalizing done cells with
  | nil => simpa using shown
  | cons token tokens ih =>
      have first := display_appendToken shown (noEscape token List.mem_cons_self)
      have later := ih first fun other member => noEscape other (List.mem_cons_of_mem token member)
      rw [List.foldl_cons, later, List.flatMap_cons, List.append_assoc]

/-- A terminal shows the text of the tokens of a preview, every character in the style of its token,
and ends up with its own style. -/
theorem display_render {tokens : List Token}
    (noEscape : ∀ token ∈ tokens, '\x1b' ∉ token.text.toList) :
    display (Ansi.render tokens) =
        { cells := tokens.flatMap Token.cells, style := {}, mode := .text } ∧
      (display (Ansi.render tokens)).cells.map (·.char) = Token.chars tokens := by
  have empty : display "" = { cells := [] } := rfl
  have shown : display (Ansi.render tokens) = { cells := tokens.flatMap Token.cells } :=
    display_foldl_appendToken empty noEscape
  constructor
  · exact shown
  · rw [shown, Token.chars, List.map_flatMap]
    apply List.flatMap_congr
    intro token _
    simp [Token.cells, Function.comp_def]

/-- A comment in italics, a bold keyword and a bracket without a style, next to plain text. -/
theorem display_render_styles :
    let tokens : List Token :=
      [.classified .comment "#", .plain "\n", .classified .keyword "if",
        .classified .punctuation "\x7B", .plain "é"]
    (∀ token ∈ tokens, '\x1b' ∉ token.text.toList) ∧
      display (Ansi.render tokens) =
        { cells :=
            [⟨'#', { foreground := .brightBlack, italic := true }⟩, ⟨'\n', {}⟩,
              ⟨'i', { foreground := .magenta, bold := true }⟩,
              ⟨'f', { foreground := .magenta, bold := true }⟩, ⟨'\x7B', {}⟩, ⟨'é', {}⟩],
          style := {}, mode := .text } ∧
      (display (Ansi.render tokens)).cells.map (·.char) = Token.chars tokens := by
  intro tokens
  have noEscape : ∀ token ∈ tokens, '\x1b' ∉ token.text.toList := by decide
  exact ⟨noEscape, display_render noEscape⟩

end Terminal

end Tint
