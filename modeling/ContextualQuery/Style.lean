/-!
# Terminal styles

A styled text stands between the control sequences that switch a style on and the one that switches
every style off.
-/

namespace ContextualQuery

/-- A way to show a text on a terminal. -/
inductive Style where
  | header
  | subheader
  | dim
  | success
  | warning
  | failure
deriving DecidableEq, Repr

namespace Style

/-- The control sequence of a graphic rendition. -/
def sequence (rendition : String) : String := "\x1b[" ++ rendition ++ "m"

/-- The sequence that switches every style off. -/
def reset : String := sequence "0"

/-- The sequences that switch a style on: headers are bold and cyan, the other styles are bold, dim,
green, yellow and red. -/
def switchOn : Style → String
  | header => sequence "1" ++ sequence "36"
  | subheader => sequence "1"
  | dim => sequence "2"
  | success => sequence "32"
  | warning => sequence "33"
  | failure => sequence "31"

/-- A text in a style. -/
def apply (style : Style) (text : String) : String := style.switchOn ++ text ++ reset

end Style

end ContextualQuery
