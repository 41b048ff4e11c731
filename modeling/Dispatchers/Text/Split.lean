
namespace Dispatchers.Text

/-- The pieces between the characters that satisfy `sep`; there is always one more piece than such
characters. -/
def splitWhere (sep : Char → Bool) : List Char → List (List Char)
  | [] => [[]]
  | c :: r =>
    if sep c then [] :: splitWhere sep r
    else match splitWhere sep r with
      | [] => [[c]]
      | piece :: pieces => (c :: piece) :: pieces

def splitOn (sep : Char) (s : List Char) : List (List Char) :=
  splitWhere (· == sep) s

def joinWith (sep : Char) (pieces : List (List Char)) : List Char :=
  [sep].intercalate pieces

end Dispatchers.Text
