import ChequeTeller.Text.Split

/-!
Variables in text. A dollar sign and a name, or a name in braces, stands for the value of the
variable of that name. What names no variable that is set stays as it is, and values are not
looked into again.
-/

namespace ChequeTeller.Settings

abbrev Variables := String → Option String

/-- The variables of an environment, which is a list of entries: a name, an equals sign, and a
value. A name that holds an equals sign itself finds the end of a value. -/
def Variables.ofEntries (entries : List String) : Variables := fun name =>
  entries.findSome? fun entry => ((name ++ "=").toList.isPrefixOf? entry.toList).map String.ofList

def isNameChar (c : Char) : Bool :=
  c.isAlphanum || c = '_'

def valueOf? (vars : Variables) (name : List Char) : Option String :=
  if name = [] then none else vars (String.ofList name)

/-- What stands for a reference: its value, or else the reference. -/
def resolveOr (vars : Variables) (name written : List Char) : List Char :=
  match valueOf? vars name with
  | some value => value.toList
  | none => written

theorem length_cut_snd_le (p : Char → Bool) (s : List Char) :
    ((Text.cut p s).2.getD []).length ≤ s.length := by
  induction s with
  | nil => simp [Text.cut]
  | cons c cs ih =>
    unfold Text.cut
    split
    · simp
    · exact Nat.le_succ_of_le ih

theorem length_dropWhile_le (p : Char → Bool) (s : List Char) :
    (s.dropWhile p).length ≤ s.length := by
  induction s with
  | nil => simp
  | cons c cs ih =>
    rw [List.dropWhile_cons]
    split
    · exact Nat.le_succ_of_le ih
    · exact Nat.le_refl _

/-- A name in braces runs to the closing brace, or to the end of the text where there is none. -/
def expandChars (vars : Variables) (s : List Char) : List Char :=
  match s with
  | [] => []
  | '$' :: '\x7b' :: cs =>
    let name := (Text.cut (· = '\x7d') cs).1
    let after := (Text.cut (· = '\x7d') cs).2
    have := length_cut_snd_le (· = '\x7d') cs
    let closing := if after.isSome then ['\x7d'] else []
    resolveOr vars name ('$' :: '\x7b' :: (name ++ closing)) ++ expandChars vars (after.getD [])
  | '$' :: cs =>
    let name := cs.takeWhile isNameChar
    have := length_dropWhile_le isNameChar cs
    resolveOr vars name ('$' :: name) ++ expandChars vars (cs.dropWhile isNameChar)
  | c :: cs => c :: expandChars vars cs
termination_by s.length
decreasing_by
  · simp only [List.length_cons]
    omega
  · simp only [List.length_cons]
    omega
  · simp

def expand (vars : Variables) (text : String) : String :=
  String.ofList (expandChars vars text.toList)

end ChequeTeller.Settings
