import Dispatchers.Text.Split

namespace Dispatchers.Path

abbrev Segment := List Char

/-- The segments kept so far, last first, after one more segment. At the top of a rooted path `..`
has nothing to remove and is dropped. -/
def keep (rooted : Bool) (kept : List Segment) (segment : Segment) : List Segment :=
  if segment = [] ∨ segment = ['.'] then kept
  else if segment = ['.', '.'] then
    match kept with
    | [] => if rooted then [] else [segment]
    | top :: below =>
      if top = ['.', '.'] then (if rooted then kept else segment :: kept) else below
  else segment :: kept

def cleanSegments (rooted : Bool) (path : List Char) : List Segment :=
  ((Text.splitOn '/' path).foldl (keep rooted) []).reverse

def cleanChars (path : List Char) : List Char :=
  let rooted := path.head? = some '/'
  let body := Text.joinWith '/' (cleanSegments rooted path)
  if rooted then '/' :: body
  else if body = [] then ['.']
  else body

/-- The shortest path that names the same place by its text; the empty path is `.`. -/
def clean (path : String) : String :=
  String.ofList (cleanChars path.toList)

/-- Joins the non-empty parts by slashes and cleans the result; without any the path is empty. -/
def join (parts : List String) : String :=
  let present := (parts.map String.toList).filter (· ≠ [])
  if present = [] then "" else String.ofList (cleanChars (Text.joinWith '/' present))

/-- The last segment of an import path, which names the package by default. -/
def lastSegment (path : String) : String :=
  String.ofList ((Text.splitOn '/' path.toList).getLast?.getD [])

end Dispatchers.Path
