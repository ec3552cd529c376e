/-!
# Cutting a sequence

A sequence cut at a mark, and one cut into lines.
-/

namespace OpcUa.Text

variable {α : Type} [BEq α]

/-- Cuts at the first `mark`, with `before` in reverse standing before the input. -/
def cutInto (mark before : List α) : List α → Option (List α × List α)
  | [] => if mark.isEmpty then some (before.reverse, []) else none
  | a :: rest =>
    if mark.isPrefixOf (a :: rest) then some (before.reverse, (a :: rest).drop mark.length)
    else cutInto mark (a :: before) rest

/-- What stands before and after the first `mark`. -/
def cutAt? (mark input : List α) : Option (List α × List α) :=
  cutInto mark [] input

/-- The lines of the input, after those of `done` and the start of a line, both in reverse. -/
def linesInto (stop : α) (done : List (List α)) (line : List α) : List α → List (List α)
  | [] => (if line.isEmpty then done else line.reverse :: done).reverse
  | a :: rest =>
    if a == stop then linesInto stop (line.reverse :: done) [] rest
    else linesInto stop done (a :: line) rest

/-- The parts that end in `stop`, without it, and what comes after the last one unless that is
nothing. -/
def lines (stop : α) (input : List α) : List (List α) :=
  linesInto stop [] [] input

end OpcUa.Text
