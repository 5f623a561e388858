/-!
Styled text for terminals. A styled piece is its text between an escape that switches the style on
and one that switches it off, or just its text where colour is not wanted.
-/

namespace ChannelAccess

inductive Style where
  | heading
  | fieldName
  | time
  | clear
  | blocked
  | success
  | failure
  | deferral
  | error
  deriving DecidableEq, Repr

/-- The parameters of the escape that switches the style on. -/
def Style.code : Style → String
  | .heading => "1;4"
  | .fieldName => "1"
  | .time => "2"
  | .clear => "32"
  | .blocked => "33"
  | .success => "1;92"
  | .failure => "1;91"
  | .deferral => "1;94"
  | .error => "1;31"

structure Piece where
  style : Option Style := none
  text : String
  deriving DecidableEq, Repr

namespace Piece

def plain (text : String) : Piece := { text }

def styled (style : Style) (text : String) : Piece := { style := some style, text }

def render (colour : Bool) (piece : Piece) : String :=
  match colour, piece.style with
  | true, some style => "\x1b[" ++ style.code ++ "m" ++ piece.text ++ "\x1b[0m"
  | _, _ => piece.text

end Piece

structure Line where
  indented : Bool := false
  pieces : List Piece
  deriving DecidableEq, Repr

/-- The line with its line feed. -/
def Line.render (colour : Bool) (line : Line) : String :=
  (if line.indented then "  " else "") ++ String.join (line.pieces.map (Piece.render colour)) ++ "\n"

end ChannelAccess
