-- Text styles for a terminal: a foreground colour and a set of effects,
-- written as one ANSI escape before the text and a reset after it. The
-- effects come first in a fixed order, then the colour. A reset inside
-- the text is followed by the style again, so the style holds to the end.
import Typeahead.Text.Replace

namespace Typeahead.Terminal

/-- The foreground colours. -/
inductive Color where
  | black | red | green | yellow | blue | magenta | cyan | white
  | brightBlack | brightRed | brightGreen | brightYellow
  | brightBlue | brightMagenta | brightCyan | brightWhite
  deriving Repr, DecidableEq

/-- The code of a foreground colour. -/
def Color.code : Color → Nat
  | .black => 30 | .red => 31 | .green => 32 | .yellow => 33
  | .blue => 34 | .magenta => 35 | .cyan => 36 | .white => 37
  | .brightBlack => 90 | .brightRed => 91 | .brightGreen => 92 | .brightYellow => 93
  | .brightBlue => 94 | .brightMagenta => 95 | .brightCyan => 96 | .brightWhite => 97

/-- The effects, in the order their codes are written. -/
inductive Effect where
  | bold | dimmed | italic | underline | blink | reversed | hidden | strikethrough
  deriving Repr, DecidableEq

/-- The code of an effect. -/
def Effect.code : Effect → Nat
  | .bold => 1 | .dimmed => 2 | .italic => 3 | .underline => 4
  | .blink => 5 | .reversed => 7 | .hidden => 8 | .strikethrough => 9

/-- All effects in their written order. -/
def Effect.all : List Effect :=
  [.bold, .dimmed, .italic, .underline, .blink, .reversed, .hidden, .strikethrough]

/-- A style: a colour, if any, and the effects it has. -/
structure Style where
  color : Option Color
  effects : List Effect
  deriving Repr

/-- The escape character. -/
def esc : Char := Char.ofNat 27

/-- The sequence that ends every style. -/
def reset : String := String.ofList [esc, '[', '0', 'm']

/-- Whether a style changes nothing. -/
def Style.isPlain (s : Style) : Bool := s.color.isNone && s.effects.isEmpty

/-- The escape that starts a style. -/
def Style.opening (s : Style) : String :=
  let codes := (Effect.all.filter (fun e => s.effects.contains e)).map Effect.code ++
    (s.color.map Color.code).toList
  String.ofList [esc, '['] ++ ";".intercalate (codes.map toString) ++ "m"

/-- A text in a style; with colour off, or a plain style, the text alone. -/
def Style.paint (s : Style) (colorOn : Bool) (text : String) : String :=
  if !colorOn || s.isPlain then text
  else
    let inner := Text.replace reset.toList (reset ++ s.opening).toList text.toList
    s.opening ++ String.ofList inner ++ reset

/-- A style of one colour and some effects. -/
def Style.of (c : Color) (effects : List Effect) : Style := ⟨some c, effects⟩

/-- A style of effects only. -/
def Style.effectsOnly (effects : List Effect) : Style := ⟨none, effects⟩

end Typeahead.Terminal
