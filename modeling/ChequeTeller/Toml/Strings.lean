import ChequeTeller.Text.Radix

/-!
Strings in TOML. They are written on one line or as a block, which may run over several, and
between double quotes, where a backslash escapes, or single ones, where nothing does.
-/

namespace ChequeTeller.Toml

/-- Tabs, and all characters but control characters. -/
def isPlain (c : Char) : Bool :=
  c = '\t' || (0x20 ≤ c.toNat && c.toNat ≠ 0x7F)

/-- What a backslash starts: a character, or a number of so many digits. -/
inductive Escape
  | char (c : Char)
  | number (digits : Nat)

def escape? (c : Char) : Option Escape :=
  if c = 'b' then some (.char '\x08')
  else if c = 't' then some (.char '\t')
  else if c = 'n' then some (.char '\n')
  else if c = 'f' then some (.char '\x0C')
  else if c = 'r' then some (.char '\r')
  else if c = '\x22' ∨ c = '\\' then some (.char c)
  else if c = 'u' then some (.number 4)
  else if c = 'U' then some (.number 8)
  else none

/-- The character of that number, surrogates and what lies beyond them apart. -/
def charOf? (n : Nat) : Option Char :=
  if n.isValidChar then some (Char.ofNat n) else none

/-- A quoted text and what follows its closing quote. -/
abbrev Quoted := Option (List Char × List Char)

def Quoted.cons (c : Char) (q : Quoted) : Quoted :=
  q.map fun (text, rest) => (c :: text, rest)

inductive LineState
  | plain
  | escaped
  | digits (missing value : Nat)

/-- The rest of a string on one line. -/
def lineRest (quote : Char) : LineState → List Char → Quoted
  | _, [] => none
  | .plain, c :: cs =>
    if c = quote then some ([], cs)
    else if c = '\\' ∧ quote = '\x22' then lineRest quote .escaped cs
    else if isPlain c then (lineRest quote .plain cs).cons c
    else none
  | .escaped, c :: cs =>
    match escape? c with
    | some (.char e) => (lineRest quote .plain cs).cons e
    | some (.number digits) => lineRest quote (.digits digits 0) cs
    | none => none
  | .digits missing value, c :: cs =>
    match Text.Radix.digit? 16 c with
    | none => none
    | some d =>
      match missing with
      | 0 | 1 => (charOf? (value * 16 + d)).bind fun e => (lineRest quote .plain cs).cons e
      | missing + 2 => lineRest quote (.digits (missing + 1) (value * 16 + d)) cs

inductive BlockState
  /-- After so many quotes in a row. -/
  | plain (quotes : Nat)
  /-- After a carriage return, which only a line feed may follow. -/
  | returned
  | escaped
  | digits (missing value : Nat)
  /-- After a backslash and blanks; the line must end. -/
  | lineEnding
  /-- After a backslash and the end of its line: blanks and line ends do not count. -/
  | folding
  | foldingReturned

/-- The text that a run of quotes closes, its first quotes being content. Three close a block, and
two more may stand before them. -/
def closeBlock (quote : Char) (quotes : Nat) (rest : List Char) : Quoted :=
  if 3 ≤ quotes ∧ quotes ≤ 5 then some (List.replicate (quotes - 3) quote, rest) else none

/-- Content after one or two quotes that close nothing. -/
def Quoted.afterQuotes (quote : Char) (quotes : Nat) (q : Quoted) : Quoted :=
  q.map fun (text, rest) => (List.replicate quotes quote ++ text, rest)

/-- The rest of a block. A line end in it is a line feed, however it is written. -/
def blockRest (quote : Char) : BlockState → List Char → Quoted
  | .plain quotes, [] => closeBlock quote quotes []
  | _, [] => none
  | .plain quotes, c :: cs =>
    if c = quote then blockRest quote (.plain (quotes + 1)) cs
    else if 3 ≤ quotes then closeBlock quote quotes (c :: cs)
    else
      Quoted.afterQuotes quote quotes <|
        if c = '\\' ∧ quote = '\x22' then blockRest quote .escaped cs
        else if c = '\n' then (blockRest quote (.plain 0) cs).cons '\n'
        else if c = '\r' then blockRest quote .returned cs
        else if isPlain c then (blockRest quote (.plain 0) cs).cons c
        else none
  | .returned, c :: cs =>
    if c = '\n' then (blockRest quote (.plain 0) cs).cons '\n' else none
  | .escaped, c :: cs =>
    if c = '\n' then blockRest quote .folding cs
    else if c = '\r' then blockRest quote .foldingReturned cs
    else if c = ' ' ∨ c = '\t' then blockRest quote .lineEnding cs
    else
      match escape? c with
      | some (.char e) => (blockRest quote (.plain 0) cs).cons e
      | some (.number digits) => blockRest quote (.digits digits 0) cs
      | none => none
  | .digits missing value, c :: cs =>
    match Text.Radix.digit? 16 c with
    | none => none
    | some d =>
      match missing with
      | 0 | 1 => (charOf? (value * 16 + d)).bind fun e => (blockRest quote (.plain 0) cs).cons e
      | missing + 2 => blockRest quote (.digits (missing + 1) (value * 16 + d)) cs
  | .lineEnding, c :: cs =>
    if c = '\n' then blockRest quote .folding cs
    else if c = '\r' then blockRest quote .foldingReturned cs
    else if c = ' ' ∨ c = '\t' then blockRest quote .lineEnding cs
    else none
  | .foldingReturned, c :: cs => if c = '\n' then blockRest quote .folding cs else none
  | .folding, c :: cs =>
    if c = ' ' ∨ c = '\t' ∨ c = '\n' then blockRest quote .folding cs
    else if c = '\r' then blockRest quote .foldingReturned cs
    else if c = quote then blockRest quote (.plain 1) cs
    else if c = '\\' ∧ quote = '\x22' then blockRest quote .escaped cs
    else if isPlain c then (blockRest quote (.plain 0) cs).cons c
    else none

/-- A block does not count a line end right after its opening quotes. -/
def dropLineEnd : List Char → List Char
  | '\n' :: cs | '\r' :: '\n' :: cs => cs
  | cs => cs

/-- A string of any form, of which the first quote has been read. -/
def readString (quote : Char) (s : List Char) : Quoted :=
  match s with
  | c :: d :: cs =>
    if c = quote ∧ d = quote then blockRest quote (.plain 0) (dropLineEnd cs)
    else lineRest quote .plain s
  | _ => lineRest quote .plain s

end ChequeTeller.Toml
