import Errata.Script.Fault
import Errata.Script.Literal
import Errata.Script.Number
import Errata.Text.Printable

/-!
# Tokens of a script

A script is divided into names, numbers, texts and symbols. The end of a line counts unless a bracket is
open, and so does a change of the indentation at the beginning of a line.
-/

namespace Errata.Script

/-- A token. A name is given as it is written, whether it is a keyword or not. -/
inductive Token where
  | name (s : String)
  | number (n : Number)
  | text (l : Literal)
  | symbol (s : String)
  | endOfLine
  | indent
  | dedent
  | endOfScript
  deriving DecidableEq, Repr

/-- A token with its line, and the number of brackets that are open behind it. -/
structure Located where
  token : Token
  line : Nat
  depth : Nat
  deriving DecidableEq, Repr

/-- The tokens of a script up to its end or to a fault. A script that ends within brackets has no last
token; the innermost open bracket is the first of `opened`. A fault is one of a token itself, or one of the
lines that only matters when it is reached. -/
structure Tokens where
  tokens : List Located
  fault : Option Fault
  faultIsOwn : Bool
  opened : List (Char × Nat)

namespace Tokens

/-- The symbols of more than one character, longer ones first. -/
def longSymbols : List String := [
  "**=", "//=", ">>=", "<<=", "...", "**", "//", ">>", "<<", "==", "!=", "<=", ">=", "->", "+=", "-=",
  "*=", "/=", "%=", "&=", "|=", "^=", "@=", ":=", "<>"]

/-- The distance between two tab stops of an indentation. -/
def tabStop : Nat := 8

/-- Where a line begins: in cells with tab stops, and in characters. -/
abbrev Column := Nat × Nat

/-- The column of the first character that is no blank, the lines that backslashes have joined before it, and
the text from there. Where lines are joined, the first column that is not zero counts. -/
def indentation (column : Column) (first breaks : Nat) : List Char → Column × Nat × List Char
  | ' ' :: cs => indentation (column.1 + 1, column.2 + 1) first breaks cs
  | '\t' :: cs => indentation ((column.1 / tabStop + 1) * tabStop, column.2 + 1) first breaks cs
  | '\x0c' :: cs => indentation (0, 0) first breaks cs
  | '\\' :: '\n' :: c :: cs =>
    indentation column (if first = 0 then column.1 else first) (breaks + 1) (c :: cs)
  | cs => (if first = 0 then column else (first, first), breaks, cs)

/-- Removes the indentations that a line has left, one dedent for each. -/
def leave (column : Column) : List Column → List Column × Nat
  | top :: rest => if column.1 < top.1 then ((leave column rest).1, (leave column rest).2 + 1) else (top :: rest, 0)
  | [] => ([], 0)

/-- The change of the indentation at a line, and the indentations that hold then. -/
def reindent (column : Column) (levels : List Column) (line : Nat) :
    Except Fault (List Token × List Column) :=
  let top := levels.head?.getD (0, 0)
  let tabs : Fault := ⟨.tabs, "inconsistent use of tabs and spaces in indentation", some line⟩
  if column.1 = top.1 then if column.2 = top.2 then .ok ([], levels) else .error tabs
  else if top.1 < column.1 then
    if column.2 ≤ top.2 then .error tabs else .ok ([.indent], column :: levels)
  else
    let (levels, count) := leave column levels
    let top := levels.head?.getD (0, 0)
    if column.1 ≠ top.1 then
      .error ⟨.indentation, "unindent does not match any outer indentation level", some line⟩
    else if column.2 ≠ top.2 then .error tabs
    else .ok (List.replicate count .dedent, levels)

/-- What follows a text that ends with a quote, and the lines that the text breaks. A text between single
quotes has to end in its line. The end of the last line breaks none. -/
def textEnd (quote : Char) (triple : Bool) (breaks : Nat) : List Char → Except Nat (List Char × Nat)
  | [] => .error breaks
  | ['\n'] => .error breaks
  | ['\\', '\n'] => .error breaks
  | '\\' :: '\n' :: cs => textEnd quote triple (breaks + 1) cs
  | '\\' :: _ :: cs => textEnd quote triple breaks cs
  | ['\\'] => .error breaks
  | c :: cs =>
    if c = quote then
      if !triple then .ok (cs, breaks)
      else if [quote, quote].isPrefixOf cs then .ok (cs.drop 2, breaks)
      else textEnd quote triple breaks cs
    else if c = '\n' then
      if triple then textEnd quote triple (breaks + 1) cs else .error breaks
    else textEnd quote triple breaks cs

/-- The words that may stand before a text, in lower case. -/
def textHeads : List String := ["", "b", "r", "u", "f", "br", "rb", "fr", "rf"]

/-- The word before a text, and the text from its quote on. -/
def textHead? (cs : List Char) : Option (List Char × List Char) :=
  let head := cs.takeWhile Char.isAlpha
  let rest := cs.drop head.length
  match rest with
  | c :: _ =>
    if (c = '"' || c = '\'') && textHeads.contains (String.ofList (head.map Char.toLower)) then
      some (head, rest)
    else none
  | [] => none

/-- The number of a character as it is told. -/
def codePoint (c : Char) : String :=
  let ds := (Nat.toDigits 16 c.toNat).map Char.toUpper
  "U+" ++ String.ofList (List.replicate (4 - ds.length) '0' ++ ds)

/-- The complaint about a character that no token holds. -/
def badCharacter (c : Char) : String :=
  if Text.isPrintable c then s!"invalid character '{c}' ({codePoint c})"
  else s!"invalid non-printable character {codePoint c}"

/-- The complaint about a name with a character that none may hold. -/
def badName? (cs : List Char) : Option String :=
  match cs with
  | c :: rest =>
    if !Text.isNameStart c then some (badCharacter c)
    else (rest.find? fun d => !Text.isNameTail d).map badCharacter
  | [] => none

/-- What the next token depends on: the number of lines, the line, the open brackets, the indentations, and whether the line
holds a token yet. -/
structure State where
  lines : Nat
  line : Nat
  opened : List (Char × Nat)
  levels : List Column
  fresh : Bool

/-- A token, with the state and the text behind it. -/
abbrev Step := List Located × State × List Char

/-- A symbol, which may open or close a bracket. -/
def symbol (st : State) (s : String) (rest : List Char) : Except Fault Step :=
  let step (opened : List (Char × Nat)) : Step :=
    ([⟨.symbol s, st.line, opened.length⟩], { st with opened := opened }, rest)
  let fault (complaint : String) : Except Fault Step := .error (.inLine complaint st.line)
  match s.toList with
  | [c] =>
    if c = '(' || c = '[' || c = '{' then
      if Literal.maxDepth ≤ st.opened.length then fault "too many nested parentheses"
      else .ok (step ((c, st.line) :: st.opened))
    else if c = ')' || c = ']' || c = '}' then
      match st.opened with
      | [] => fault s!"unmatched '{c}'"
      | (o, line) :: opened =>
        if Literal.closing o = c then .ok (step opened)
        else
          let place := if line = st.line then "" else s!" on line {line}"
          fault s!"closing parenthesis '{c}' does not match opening parenthesis '{o}'{place}"
    else .ok (step st.opened)
  | _ => .ok (step st.opened)

/-- The token at a character that is no blank. -/
def tokenAt (st : State) (c : Char) (cs : List Char) : Except Fault Step :=
  let one (t : Token) (rest : List Char) : Step := ([⟨t, st.line, st.opened.length⟩], st, rest)
  match textHead? (c :: cs) with
  | some (head, quoted) =>
    let quote := (quoted.head?).getD '"'
    let triple := [quote, quote, quote].isPrefixOf quoted
    match textEnd quote triple 0 (quoted.drop (if triple then 3 else 1)) with
    | .ok (rest, breaks) =>
      let written := quoted.take (quoted.length - rest.length)
      if Literal.marks head 'b' && written.any fun d => 0x80 ≤ d.toNat then
        .error (.inLine "bytes can only contain ASCII literal characters" st.line)
      else
        let ends := if triple then 3 else 1
        let body := (written.drop ends).take (written.length - 2 * ends)
        let token : Token := .text (.ofParts head body)
        .ok ([⟨token, st.line, st.opened.length⟩], { st with line := st.line + breaks }, rest)
    | .error breaks =>
      let name := if triple then "triple-quoted string" else "string"
      .error (.inLine s!"unterminated {name} literal (detected at line {st.line + breaks})" st.line)
  | none =>
    if Text.isNameStart c || 0x80 ≤ c.toNat then
      let word := (c :: cs).takeWhile fun d => Text.isNameTail d || 0x80 ≤ d.toNat
      match badName? word with
      | some complaint => .error (.inLine complaint st.line)
      | none => .ok (one (.name (String.ofList word)) (cs.drop (word.length - 1)))
    else if c.isDigit || (c = '.' && (cs.head?.map Char.isDigit).getD false) then
      match Number.read (c :: cs) with
      | .ok (n, rest) => .ok (one (.number n) rest)
      | .error complaint => .error (.inLine complaint st.line)
    else if !Text.isPrintable c then .error (.inLine (badCharacter c) st.line)
    else
      match longSymbols.find? fun s => s.toList.isPrefixOf (c :: cs) with
      | some s => symbol st s (cs.drop (s.length - 1))
      | none => symbol st (String.ofList [c]) cs

/-- The end of a script. -/
def finish (st : State) : Tokens :=
  if !st.opened.isEmpty then ⟨[], none, false, st.opened⟩
  else
    let close := if st.fresh then [] else [⟨.endOfLine, st.line, 0⟩]
    ⟨close ++ (st.levels.map fun _ => ⟨.dedent, st.lines, 0⟩) ++ [⟨.endOfScript, st.lines, 0⟩],
      none, false, []⟩

/-- A backslash has to end its line. -/
def noContinuation : String := "unexpected character after line continuation character"

/-- A script must not end with a backslash. -/
def endOfContinuation : String := "unexpected EOF while parsing"

/-- The complaints about a text that are about its lines. -/
def lineFaults : List String := [noContinuation, endOfContinuation]

/-- The next step in a script that has not ended. -/
def step (st : State) (c : Char) (cs : List Char) : Except Fault Step :=
  let skip (st : State) (rest : List Char) : Except Fault Step := .ok ([], st, rest)
  if c = '\n' then
    let next := { st with line := st.line + 1 }
    if st.fresh || !st.opened.isEmpty then skip next cs
    else .ok ([⟨.endOfLine, st.line, 0⟩], { next with fresh := true }, cs)
  else if c = '#' then skip st (cs.dropWhile (· ≠ '\n'))
  else if st.fresh && st.opened.isEmpty then
    let (column, breaks, rest) := indentation (0, 0) 0 0 (c :: cs)
    let st := { st with line := st.line + breaks }
    match rest with
    | [] => skip st []
    | d :: _ =>
      if d = '\n' || d = '#' then skip st rest
      else if d = '\\' then
        .error (.inLine (if rest.tail = ['\n'] then endOfContinuation else noContinuation) st.line)
      else do
        let (changes, levels) ← reindent column st.levels st.line
        return (changes.map fun t => ⟨t, st.line, 0⟩, { st with levels, fresh := false }, rest)
  else if c = ' ' || c = '\t' || c = '\x0c' then skip st cs
  else if c = '\\' then
    match cs with
    | '\n' :: d :: ds => skip { st with line := st.line + 1 } (d :: ds)
    | ['\n'] => .error (.inLine endOfContinuation st.line)
    | _ => .error (.inLine noContinuation st.line)
  else tokenAt st c cs

/-- The tokens of a text, with at most one step for a unit of fuel. -/
def readFrom : Nat → State → List Char → Tokens
  | _, st, [] => finish st
  | 0, st, _ => finish st
  | fuel + 1, st, c :: cs =>
    match step st c cs with
    | .error f => ⟨[], some f, f.kind == .text && !lineFaults.contains f.complaint, st.opened⟩
    | .ok (tokens, st, rest) =>
      let more := readFrom fuel st rest
      { more with tokens := tokens ++ more.tokens }

/-- A text with every end of a line in one writing. -/
def unifyLines : List Char → List Char
  | '\r' :: '\n' :: cs => '\n' :: unifyLines cs
  | '\r' :: cs => '\n' :: unifyLines cs
  | c :: cs => c :: unifyLines cs
  | [] => []

/-- The tokens of a script. -/
def read (cs : List Char) : Tokens :=
  let cs := unifyLines cs
  let lines := cs.count '\n' + if cs.isEmpty || cs.getLast? == some '\n' then 0 else 1
  readFrom (2 * cs.length + 1) ⟨lines, 1, [], [], true⟩ cs

end Tokens

end Errata.Script
