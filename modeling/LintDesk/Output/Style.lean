/-! # Colours on a terminal -/

namespace LintDesk.Output

inductive Colour where
  | red
  | yellow
  | blue
  | magenta
  | cyan
deriving DecidableEq, Repr

namespace Colour

/-- The number of the colour in a control sequence. -/
def code : Colour → String
  | red => "31"
  | yellow => "33"
  | blue => "34"
  | magenta => "35"
  | cyan => "36"

/-- A text in the colour. -/
def paint (c : Colour) (s : String) : String := "\x1b[" ++ c.code ++ "m" ++ s ++ "\x1b[39m"

end Colour

def bold (s : String) : String := "\x1b[1m" ++ s ++ "\x1b[0m"

/-- Whether output in the given mode is coloured: not when it is meant for machines, and not when
the reader has asked for no colour, be it with an empty text. -/
def usesColour (mode : String) (noColour : Option String) : Bool :=
  mode != "json" && noColour.isNone

/-- A text in bold and in a colour, if there are colours. -/
def strong (coloured : Bool) (c : Colour) (s : String) : String :=
  if coloured then bold (c.paint s) else s

/-- A text in a colour, if there are colours. -/
def tinted (coloured : Bool) (c : Colour) (s : String) : String :=
  if coloured then c.paint s else s

def emphasized (coloured : Bool) (s : String) : String := if coloured then bold s else s

/-! ## The marks before messages of the program itself -/

def errorMark (noColour : Option String) : String :=
  strong (usesColour "human" noColour) .red "error:"

def noteMark (noColour : Option String) : String :=
  strong (usesColour "human" noColour) .yellow "note:"

def infoMark (noColour : Option String) : String :=
  strong (usesColour "human" noColour) .blue "info:"

end LintDesk.Output
