import ChequeTeller.Url.Basic

/-!
Walking along a path. A segment of one dot stays where it is and one of two dots goes back, unless
the segment before it has the form of a drive letter. In file URLs a drive letter that comes first
ends in a colon, and takes the host's place, and a line break cuts it off from what follows.
-/

namespace ChequeTeller.Url

def isSingleDot (segment : String) : Bool :=
  ([".", "%2e", "%2E"] : List String).contains segment

def isDoubleDot (segment : String) : Bool :=
  (["..", "%2e%2e", "%2e%2E", "%2E%2e", "%2E%2E", "%2e.", "%2E.", ".%2e", ".%2E"] :
    List String).contains segment

/-- Tabs and line breaks, which do not count in URLs. -/
def isBreak (c : Char) : Bool :=
  c = '\t' || c = '\n' || c = '\r'

def dropBreaks (s : List Char) : List Char :=
  s.filter (!isBreak ·)

/-- A letter and a colon, or a bar in its place. -/
def isDriveLetter (segment : List Char) : Bool :=
  match segment with
  | [c, d] => c.isAlpha && (d = ':' || d = '|')
  | _ => false

/-- The path one step back. -/
def shorten (segments : List String) : List String :=
  match segments.getLast? with
  | some last => if isDriveLetter last.toList then segments else segments.dropLast
  | none => []

/-- A path being walked, and whether a drive letter has taken the host's place. -/
structure Walk where
  segments : List String
  hostless : Bool
  deriving DecidableEq

/-- One segment further; after the `last` one the path still ends in a segment. -/
def Walk.step (isFile : Bool) (w : Walk) (segment : String) (last : Bool) : Walk :=
  let stop := if last then [""] else []
  if isDoubleDot segment then { w with segments := shorten w.segments ++ stop }
  else if isSingleDot segment then { w with segments := w.segments ++ stop }
  else if isFile && w.segments = [] && isDriveLetter segment.toList then
    ⟨[String.ofList (segment.toList.take 1 ++ [':'])], true⟩
  else { w with segments := w.segments ++ [segment] }

/-- A letter and a colon, and what comes after the break that follows them. -/
def cutDrive? (segment : List Char) : Option (String × List Char) :=
  match Text.cut (· = ':') segment with
  | (before, some (c :: cs)) =>
    match dropBreaks before, dropBreaks cs with
    | [letter], rest =>
      if letter.isAlpha ∧ isBreak c ∧ rest ≠ [] then some (String.ofList [letter, ':'], rest)
      else none
    | _, _ => none
  | _ => none

/-- One segment further, as it was written. What a break cuts off a drive letter is kept even if
it is dots. -/
def Walk.stepWritten (isFile : Bool) (w : Walk) (segment : List Char) (last : Bool) : Walk :=
  match if isFile ∧ w.segments = [] then cutDrive? segment else none with
  | some (drive, rest) => { w with segments := [drive, Percent.encode inPathSet rest] }
  | none => w.step isFile (Percent.encode inPathSet (dropBreaks segment)) last

def Walk.along (isFile : Bool) (w : Walk) : List (List Char) → Walk
  | [] => w
  | [segment] => w.stepWritten isFile segment true
  | segment :: rest => (w.stepWritten isFile segment false).along isFile rest

/-- Without the empty segments at the front of others. -/
def dropEmptyFront : List String → List String
  | "" :: segment :: rest => dropEmptyFront (segment :: rest)
  | segments => segments

/-- The end of a walk; a file's path does not start with an empty segment. -/
def Walk.finish (isFile : Bool) (w : Walk) : Walk :=
  if isFile then { w with segments := dropEmptyFront w.segments } else w

def isSlash (special : Bool) (c : Char) : Bool :=
  c = '/' || (special && c = '\\')

/-- The segments of a text, as they were written, whose slash at the front has been read. -/
def segmentsOf (special : Bool) (s : List Char) : List (List Char) :=
  Text.split (isSlash special) s

end ChequeTeller.Url
