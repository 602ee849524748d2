/-!
# Sets of code points as boundaries

A set of code points is written as the increasing list of the points where membership changes: the
first point of an interval, then the first point after it, and so on. The tables of character classes
are stored in this form.
-/

namespace ContextualQuery.Text

/-- A point belongs to the set when an odd number of boundaries lie at or below it. -/
def covers : List Nat → Nat → Bool
  | [], _ => false
  | bound :: rest, point => if point < bound then false else !covers rest point

end ContextualQuery.Text
