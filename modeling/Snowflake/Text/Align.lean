/-!
Texts set in a field of a given width. A text that is too long for its field stays whole.
-/

namespace Snowflake.Align

/-- The width of the widest field there is; widths are numbers of sixteen bits. -/
def maxWidth : Nat :=
  65535

def room (width : Nat) (s : String) : Nat :=
  width - s.length

def left (fill : Char) (width : Nat) (s : String) : String :=
  s ++ String.ofList (List.replicate (room width s) fill)

def right (fill : Char) (width : Nat) (s : String) : String :=
  String.ofList (List.replicate (room width s) fill) ++ s

/-- In the middle; of an odd number of fill characters the one over goes to the right. -/
def center (fill : Char) (width : Nat) (s : String) : String :=
  String.ofList (List.replicate (room width s / 2) fill) ++ s ++
    String.ofList (List.replicate (room width s - room width s / 2) fill)

end Snowflake.Align
