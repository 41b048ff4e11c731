import Dispatchers.Text.Split

namespace Dispatchers.Text

def dropReturn (line : List Char) : List Char :=
  if line.getLast? = some '\r' then line.dropLast else line

/-- Lines end at a line feed, which may follow a carriage return; an empty last line does not
count. -/
def lines (s : List Char) : List (List Char) :=
  let pieces := splitOn '\n' s
  let last := pieces.getLast?.getD []
  let ended := pieces.dropLast.map dropReturn
  if last = [] then ended else ended ++ [last]

end Dispatchers.Text
