import ChequeTeller.Url.Parser

/-!
URLs made from another one: a relative path resolved against it, segments appended to its path,
and a pair appended to its query. A URL that is no base stays as it is.
-/

namespace ChequeTeller.Url

/-- The URL of a relative path: its segments take the place of the base's last one, and nothing
is kept of the base's query and fragment. -/
def resolve (base : Url) (reference : String) : Url :=
  match base.path with
  | .rootless _ => base
  | .rooted segments =>
    let isFile := base.scheme = "file"
    let start := if isFile then shorten segments else segments.dropLast
    let walk :=
      (Walk.along isFile ⟨start, false⟩ (segmentsOf base.isSpecial reference.toList)).finish isFile
    { base with path := .rooted walk.segments, query := none, fragment := none }

/-- Without a trailing slash, that of the root apart. -/
def popIfEmpty (segments : List String) : List String :=
  match segments.getLast? with
  | some "" => if segments.length ≤ 1 then segments else segments.dropLast
  | _ => segments

/-- The segments with one more. The segments `.` and `..` are passed over; tabs and line breaks
are dropped from any other, and what is left is encoded, and walked along like any segment. -/
def appendSegment (isFile special : Bool) (segments : List String) (segment : String) :
    List String :=
  if segment = "." ∨ segment = ".." then segments
  else
    let kept := dropBreaks segment.toList
    let start := if segments = [""] then [] else segments
    ((Walk.step isFile ⟨start, false⟩ (Percent.encode (inSegmentSet special) kept) true).finish
      isFile).segments

def appendSegments (base : Url) (more : List String) : Url :=
  match base.path with
  | .rootless _ => base
  | .rooted segments =>
    let isFile := base.scheme = "file"
    { base with
      path := .rooted (more.foldl (appendSegment isFile base.isSpecial) (popIfEmpty segments)) }

/-! Pairs of a query. -/

/-- A blank is written as a plus sign; letters, digits and four marks stand for themselves. -/
def formChar (c : Char) : List Char :=
  if c = ' ' then ['+']
  else Percent.encodeChar (fun c => !(c.isAlphanum || ['*', '-', '.', '_'].contains c)) c

def formText (s : String) : String :=
  String.ofList (s.toList.flatMap formChar)

def appendPair (base : Url) (name value : String) : Url :=
  let pair := formText name ++ "=" ++ formText value
  let before :=
    match base.query with
    | none | some "" => ""
    | some query => query ++ "&"
  { base with query := some (before ++ pair) }

end ChequeTeller.Url
