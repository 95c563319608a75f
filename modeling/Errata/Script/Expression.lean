import Errata.Script.Token
import Errata.Text.Normal
import Errata.Value.Basic

/-!
# Expressions of a script

An expression is a constant, a name, an attribute, a call, an item of another, a row of parts in brackets,
a function, a choice, or an operation on others. Reading says in the same words as the interpreter of such
scripts what is wrong with a text that is none.
-/

namespace Errata.Script

/-- An expression. A constant whose value is not followed, and a row, are given by the name of their type. What is
refused is told once the whole script can be read. -/
inductive Expression where
  | literal (v : Value)
  | constant (type : String)
  | formatted (parts : List Expression)
  | name (n : String)
  | member (of : Expression) (n : String)
  | call (f : Expression) (arguments : List Expression)
  | keyword (n : String) (e : Expression)
  | item (of : Expression) (index : Expression)
  | row (type : String) (parts : List Expression)
  | comprehension (type : String) (source : Expression)
  | comparison (symbols : List String) (parts : List Expression)
  | operation (symbol : String) (parts : List Expression)
  | choice (test yes no : Expression)
  | named (n : String) (e : Expression)
  | function (defaults : List Expression)
  | refused (complaint : String) (line : Nat)

instance : Inhabited Expression := ⟨.function []⟩

/-- The expression is a name alone. -/
def Expression.isName : Expression → Bool
  | .name _ => true
  | _ => false

/-- Why tokens are no expression: the first of the tokens that are left does not fit, or something better
is known. -/
inductive Mishap where
  | unexpected (rest : List Located)
  | told (complaint : String) (line : Nat)
  deriving Repr

/-- A reader of tokens gives what it has read and the tokens that are left. -/
abbrev Reader (α : Type) := List Located → Except Mishap (α × List Located)

/-- The words that are no names. -/
def keywords : List String := [
  "False", "None", "True", "and", "as", "assert", "async", "await", "break", "class", "continue", "def",
  "del", "elif", "else", "except", "finally", "for", "from", "global", "if", "import", "in", "is",
  "lambda", "nonlocal", "not", "or", "pass", "raise", "return", "try", "while", "with", "yield"]

/-- The names that are words of the language in some places. -/
def softKeywords : List String := ["_", "case", "match"]

/-- The names that once stood before their arguments without brackets. -/
def formerStatements : List String := ["print", "exec"]

namespace Reader

/-- The tokens begin with a symbol. -/
def atSymbol (s : String) : List Located → Bool
  | t :: _ => t.token = .symbol s
  | [] => false

/-- The tokens begin with a word. -/
def atWord (s : String) : List Located → Bool
  | t :: _ => t.token = .name s
  | [] => false

/-- The line of the first token. -/
def lineOf : List Located → Nat
  | t :: _ => t.line
  | [] => 0

/-- Reads a symbol. -/
def symbol (s : String) : Reader Unit := fun ts =>
  if atSymbol s ts then .ok ((), ts.tail) else .error (.unexpected ts)

/-- Reads a word. -/
def word (s : String) : Reader Unit := fun ts =>
  if atWord s ts then .ok ((), ts.tail) else .error (.unexpected ts)

/-- What a name is known as, however it is written. -/
def known (n : String) : String := String.ofList (Text.normalForm n.toList)

/-- Reads a name. -/
def name : Reader String := fun ts =>
  match ts with
  | ⟨.name n, _, _⟩ :: rest => if keywords.contains n then .error (.unexpected ts) else .ok (known n, rest)
  | _ => .error (.unexpected ts)

/-- An expression may begin with the token. -/
def beginsExpression (t : Token) : Bool :=
  match t with
  | .name n => !keywords.contains n || ["None", "True", "False", "not", "lambda", "await"].contains n
  | .number _ => true
  | .text _ => true
  | .symbol s => ["(", "[", "\x7b", "-", "+", "~", "..."].contains s
  | _ => false

/-- The constants that have a word. -/
def wordConstants : List (String × Value) := [("None", .null), ("True", .bool true), ("False", .bool false)]

/-- The type of the numbers of a kind. -/
def numberType : NumberKind → String
  | .whole => "int"
  | .floating => "float"
  | .imaginary => "complex"

/-- The infix operators that are symbols, weakest first; those of one row have the same strength. -/
def infixRows : List (List String) := [
  ["|"], ["^"], ["&"], ["<<", ">>"], ["+", "-"], ["*", "/", "//", "%", "@"]]

/-- The symbols that compare. -/
def comparisons : List String := ["==", "!=", "<", "<=", ">", ">="]

/-- Reads one of some symbols, and says which. -/
def symbolAmong? (ss : List String) (ts : List Located) : Option (String × List Located) :=
  match ts with
  | ⟨.symbol s, _, _⟩ :: rest => if ss.contains s then some (s, rest) else none
  | _ => none

/-- Reads one of some symbols. -/
def symbolOf? (ss : List String) (ts : List Located) : Option (List Located) :=
  (symbolAmong? ss ts).map Prod.snd

/-- Reads what compares, and says which. -/
def comparison? (ts : List Located) : Option (String × List Located) :=
  match symbolAmong? comparisons ts with
  | some found => some found
  | none =>
    if atWord "in" ts then some ("in", ts.tail)
    else if atWord "is" ts then
      if atWord "not" ts.tail then some ("is not", ts.tail.tail) else some ("is", ts.tail)
    else if atWord "not" ts && atWord "in" ts.tail then some ("not in", ts.tail.tail)
    else none

/-- Unpacks a row into another. -/
def unpackSymbol : String := "*"

/-- Unpacks a dictionary into another, or into keywords. -/
def unpackPairsSymbol : String := "**"

/-- Divides the bounds of a slice. -/
def sliceSymbol : String := ":"

/-- Joins the key and the value of an entry. -/
def entrySymbol : String := "=>"

/-- Gives the value of an expression to what has asked a generator for one. -/
def yieldSymbol : String := "yield"

/-- What an expression is called where it cannot be assigned to. -/
def assignee : Expression → String
  | .constant "ellipsis" => "ellipsis"
  | .constant _ => "literal"
  | .literal .null => "None"
  | .literal (.bool true) => "True"
  | .literal (.bool false) => "False"
  | .literal _ => "literal"
  | .formatted _ => "f-string expression"
  | .name _ => "name"
  | .member _ _ => "attribute"
  | .call _ _ => "function call"
  | .item _ _ => "subscript"
  | .row "dict" _ => "dict literal"
  | .row "set" _ => "set display"
  | .row type _ => type
  | .comprehension "dict" _ => "dict comprehension"
  | .comprehension "set" _ => "set comprehension"
  | .comprehension "list" _ => "list comprehension"
  | .comprehension _ _ => "generator expression"
  | .comparison _ _ => "comparison"
  | .operation "await" _ => "await expression"
  | .operation "yield" _ => "yield expression"
  | .operation _ _ => "expression"
  | .choice _ _ _ => "conditional expression"
  | .named _ _ => "named expression"
  | .keyword _ _ => "expression"
  | .refused _ _ => "expression"
  | .function _ => "lambda"

/-- The texts at the head. -/
def texts : List Located → List Literal × List Located
  | ⟨.text l, _, _⟩ :: rest => (l :: (texts rest).1, (texts rest).2)
  | ts => ([], ts)

/-- What adjacent texts are: their bytes, or their characters if these are known, and the expressions in them. -/
inductive Joined where
  | bytes (bs : List UInt8)
  | plain (cs? : Option (List Char))
  | formatted (parts : List Expression)

/-- The expression of adjacent texts. -/
def Joined.expression : Joined → Expression
  | bytes bs => .literal (.bytes bs)
  | plain (some cs) => .literal (.text (String.ofList cs))
  | plain none => .constant "str"
  | formatted parts => .formatted parts

/-- Adjacent texts are one, and are all of bytes or none. -/
def Joined.append : Joined → Joined → Except String Joined
  | bytes bs, bytes cs => .ok (bytes (bs ++ cs))
  | bytes _, _ => .error "cannot mix bytes and nonbytes literals"
  | _, bytes _ => .error "cannot mix bytes and nonbytes literals"
  | plain (some cs), plain (some ds) => .ok (plain (some (cs ++ ds)))
  | plain _, plain _ => .ok (plain none)
  | formatted es, formatted fs => .ok (formatted (es ++ fs))
  | formatted es, plain _ => .ok (formatted es)
  | plain _, formatted fs => .ok (formatted fs)

/-- Where a test is not followed by its alternative. -/
def noAlternative : String := "expected 'else' after 'if' expression"

/-- Where an expression follows another in brackets. -/
def noComma : String := "invalid syntax. Perhaps you forgot a comma?"

/-- Where an equals sign stands for a comparison. -/
def equalsForComparison : String := "invalid syntax. Maybe you meant '==' or ':=' instead of '='?"

/-- Complains, or only stops at the tokens that do not fit where no better complaint is looked for. -/
def tell (hints : Bool) (complaint : String) (place rest : List Located) : Except Mishap α :=
  .error (if hints then .told complaint (lineOf place) else .unexpected rest)

/-- The dictionary of some entries, or the comprehension that stands for one. -/
def dictionary : List Expression → Expression
  | [.comprehension type source] => .comprehension type source
  | entries => .row "dict" entries

/-- The fault of tokens that could not be read. A fault of a later token goes before one of their order,
and a bracket that stays open matters where the script ends or goes on below its line. -/
def fault (ts : Tokens) (m : Mishap) : Fault :=
  let unclosed (o : Char × Nat) : Fault := .inLine s!"'{o.1}' was never closed" o.2
  let later (line : Nat) (f : Fault) : Fault :=
    match ts.fault with
    | some g => if ts.faultIsOwn then g else f
    | none =>
      match ts.opened with
      | o :: _ => if o.2 < line then unclosed o else f
      | [] => f
  match m with
  | .told complaint line => later line (.inLine complaint line)
  | .unexpected [] =>
    match ts.fault, ts.opened with
    | some f, _ => f
    | none, o :: _ => unclosed o
    | none, [] => .plain 0
  | .unexpected (t :: _) =>
    match t.token with
    | .indent => ⟨.indentation, "unexpected indent", some t.line⟩
    | .dedent => ⟨.indentation, "unexpected unindent", some t.line⟩
    | _ => later t.line (.plain t.line)

/-- Reads tokens, and once more for a better complaint if they cannot be read. -/
def run (ts : Tokens) (read : Bool → List Located → Except Mishap α) : Except Fault α :=
  match read false ts.tokens with
  | .ok a => .ok a
  | .error (.told complaint line) => .error (fault ts (.told complaint line))
  | .error (.unexpected rest) =>
    .error <| fault ts <|
      match rest, read true ts.tokens with
      | _ :: _, .error (.told complaint line) => .told complaint line
      | _ :: _, .error (.unexpected []) => .unexpected []
      | rest, _ => .unexpected rest

mutual

/-- The first part of an expression that cannot be assigned to. -/
def obstacle? : Expression → Option Expression
  | .name _ => none
  | .member _ _ => none
  | .item _ _ => none
  | .row "list" parts => obstacleAmong? parts
  | .row "tuple" parts => obstacleAmong? parts
  | .operation "*" [e] => obstacle? e
  | e => some e

/-- The first part of some expressions that cannot be assigned to. -/
def obstacleAmong? : List Expression → Option Expression
  | [] => none
  | e :: es => (obstacle? e).or (obstacleAmong? es)

end

/-- What the arguments of a call have been so far: the keywords among them, and whether others were unpacked. -/
structure Given where
  keywords : List String
  pairs : Bool

/-- What the parameters of a function have been so far. -/
structure Shape where
  any : Bool
  hasDefault : Bool
  hasSlash : Bool
  hasStar : Bool
  hasPairs : Bool

/-- The parameters of a function: their names, each with its line, and what is evaluated where it is written. -/
abbrev Parameters := List (String × Nat) × List Expression

/-- No parameter yet. -/
def Shape.start : Shape := ⟨false, false, false, false, false⟩

/-- The complaint about a name that comes twice among parameters, with its line. -/
def repeatedParameter? : List (String × Nat) → Option (String × Nat)
  | [] => none
  | (n, _) :: ns =>
    match ns.find? fun m => m.1 = n with
    | some (_, line) => some (s!"duplicate argument '{n}' in function definition", line)
    | none => repeatedParameter? ns

/-- Names between brackets, divided by commas. -/
def namesInBrackets : Nat → List Located → Bool
  | 0, _ => false
  | fuel + 1, ts =>
    match name ts with
    | .ok (_, rest) => atSymbol ")" rest || (atSymbol "," rest && (atSymbol ")" rest.tail || namesInBrackets fuel rest.tail))
    | .error _ => false

mutual

/-- Reads an expression. With `hints`, better complaints are looked for. -/
def expression (hints : Bool) (fuel : Nat) : Reader Expression := fun ts =>
  match fuel with
  | 0 => .error (.unexpected ts)
  | fuel + 1 =>
    if atWord "lambda" ts then lambda hints fuel ts
    else do
      let (first, rest) ← disjunction hints fuel ts
      if atWord "if" rest then
        let (test, more) ← disjunction hints fuel rest.tail
        if atWord "else" more then
          let (no, more) ← expression hints fuel more.tail
          return (.choice test first no, more)
        else if more.isEmpty || atSymbol ":" more then throw (.unexpected more)
        else tell hints noAlternative ts more
      else
        adjacent hints fuel ts rest
        return (first, rest)

/-- Complains about an expression that follows another at once. -/
def adjacent (hints : Bool) (fuel : Nat) (ts rest : List Located) : Except Mishap Unit :=
  match fuel, rest with
  | fuel + 1, next :: _ =>
    if hints && beginsExpression next.token then
      let former := match ts with
        | ⟨.name n, _, _⟩ :: more => formerStatements.contains n && !atSymbol "(" more
        | _ => false
      let plain := match ts with
        | ⟨.name n, _, _⟩ :: ⟨.text _, _, _⟩ :: _ => !former || keywords.contains n
        | ⟨.name n, _, _⟩ :: _ => softKeywords.contains n
        | _ => false
      match expression false fuel rest with
      | .error (.unexpected []) => .error (.unexpected [])
      | .error _ => .ok ()
      | .ok (_, after) =>
        if former then
          let n := match ts with
            | ⟨.name n, _, _⟩ :: _ => n
            | _ => ""
          .error (.told s!"Missing parentheses in call to '{n}'. Did you mean {n}(...)?" (lineOf ts))
        else if after.isEmpty then .error (.unexpected [])
        else if plain then .ok ()
        else
          let used := rest.take (rest.length - after.length)
          match used.getLast? with
          | some last => if last.depth = 0 then .ok () else .error (.told noComma (lineOf ts))
          | none => .ok ()
    else .ok ()
  | _, _ => .ok ()

/-- Reads a function without a name. -/
def lambda (hints : Bool) (fuel : Nat) : Reader Expression := fun ts =>
  match fuel with
  | 0 => .error (.unexpected ts)
  | fuel + 1 => do
    let ((names, defaults), rest) ← parameters hints fuel true .start ts.tail
    let ((), rest) ← symbol ":" rest
    let (_, rest) ← expression hints fuel rest
    match repeatedParameter? names with
    | some (complaint, line) => return (.refused complaint line, rest)
    | none => return (.function defaults, rest)

/-- Reads the parameters of a function, up to what ends them. Those of a function without a name have no types. -/
def parameters (hints : Bool) (fuel : Nat) (isLambda : Bool) (sh : Shape) : Reader Parameters := fun ts =>
  match fuel with
  | 0 => .error (.unexpected ts)
  | fuel + 1 => do
    let ends (ts : List Located) : Bool := atSymbol (if isLambda then ":" else ")") ts
    if ends ts then return (([], []), ts)
    if sh.hasPairs then tell hints "arguments cannot follow var-keyword argument" ts ts
    let (sh, (names, es), rest) ←
      if atSymbol "/" ts then do
        if sh.hasStar then tell hints "/ must be ahead of *" ts ts
        if sh.hasSlash then tell hints "/ may appear only once" ts ts
        if !sh.any then
          if atSymbol "," ts.tail then tell hints "at least one argument must precede /" ts ts
          throw (.unexpected ts)
        pure ({ sh with hasSlash := true }, ([], []), ts.tail)
      else if atSymbol "*" ts && (atSymbol "," ts.tail || ends ts.tail) then do
        if sh.hasStar then
          if ends ts.tail then throw (.unexpected ts.tail)
          tell hints "* argument may appear only once" ts ts
        if ends ts.tail || ends ts.tail.tail || atSymbol "**" ts.tail.tail then
          tell hints "named arguments must follow bare *" ts ts
        pure ({ sh with hasStar := true }, ([], []), ts.tail)
      else do
        let mark? := (symbolAmong? [unpackSymbol, unpackPairsSymbol] ts).map Prod.fst
        let start := if mark?.isSome then ts.tail else ts
        if mark? = some unpackSymbol && sh.hasStar then tell hints "* argument may appear only once" ts ts
        if atSymbol "(" start && namesInBrackets fuel start.tail then
          let what := if isLambda then "Lambda expression" else "Function"
          tell hints s!"{what} parameters cannot be parenthesized" ts ts
        let (n, rest) ← name start
        let (types, rest) ←
          if atSymbol ":" rest && !isLambda then do
            let (e, rest) ← expression hints fuel rest.tail
            pure ([e], rest)
          else pure ([], rest)
        let (defaults, rest) ←
          if atSymbol "=" rest then do
            if mark? = some unpackSymbol then
              tell hints "var-positional argument cannot have default value" rest rest
            if mark? = some unpackPairsSymbol then
              tell hints "var-keyword argument cannot have default value" rest rest
            if atSymbol ")" rest.tail || atSymbol "," rest.tail then
              tell hints "expected default value expression" rest rest.tail
            let (e, rest) ← expression hints fuel rest.tail
            pure ([e], rest)
          else pure ([], rest)
        if mark?.isNone && defaults.isEmpty && sh.hasDefault && !sh.hasStar then
          tell hints "non-default argument follows default argument" ts rest
        let sh : Shape := {
          any := true
          hasDefault := sh.hasDefault || !defaults.isEmpty
          hasSlash := sh.hasSlash
          hasStar := sh.hasStar || mark? = some unpackSymbol
          hasPairs := mark? = some unpackPairsSymbol }
        pure (sh, ([(n, lineOf start)], defaults ++ types), rest)
    if atSymbol "," rest then
      let ((more, others), rest) ← parameters hints fuel isLambda sh rest.tail
      return ((names ++ more, es ++ others), rest)
    else return ((names, es), rest)

/-- Reads alternatives. -/
def disjunction (hints : Bool) (fuel : Nat) : Reader Expression := fun ts =>
  match fuel with
  | 0 => .error (.unexpected ts)
  | fuel + 1 => do
    let (first, rest) ← conjunction hints fuel ts
    if atWord "or" rest then
      let (second, rest) ← disjunction hints fuel rest.tail
      return (.operation "or" [first, second], rest)
    else return (first, rest)

/-- Reads conditions that hold together. -/
def conjunction (hints : Bool) (fuel : Nat) : Reader Expression := fun ts =>
  match fuel with
  | 0 => .error (.unexpected ts)
  | fuel + 1 => do
    let (first, rest) ← inversion hints fuel ts
    if atWord "and" rest then
      let (second, rest) ← conjunction hints fuel rest.tail
      return (.operation "and" [first, second], rest)
    else return (first, rest)

/-- Reads a condition that may be inverted. -/
def inversion (hints : Bool) (fuel : Nat) : Reader Expression := fun ts =>
  match fuel with
  | 0 => .error (.unexpected ts)
  | fuel + 1 =>
    if atWord "not" ts then do
      let (inner, rest) ← inversion hints fuel ts.tail
      return (.operation "not" [inner], rest)
    else comparison hints fuel ts

/-- Reads a comparison, which may go on. -/
def comparison (hints : Bool) (fuel : Nat) : Reader Expression := fun ts =>
  match fuel with
  | 0 => .error (.unexpected ts)
  | fuel + 1 => do
    let (first, rest) ← infixes hints fuel infixRows ts
    let (symbols, parts, rest) ← compared hints fuel rest
    return (if symbols.isEmpty then first else .comparison symbols (first :: parts), rest)

/-- Reads what an operand is compared with, and how. -/
def compared (hints : Bool) (fuel : Nat) (ts : List Located) :
    Except Mishap (List String × List Expression × List Located) :=
  match fuel, comparison? ts with
  | 0, _ => .error (.unexpected ts)
  | fuel + 1, some (symbol, rest) => do
    let (second, rest) ← infixes hints fuel infixRows rest
    let (symbols, parts, rest) ← compared hints fuel rest
    return (symbol :: symbols, second :: parts, rest)
  | _, none => .ok ([], [], ts)

/-- Reads operands between infix operators of some rows. -/
def infixes (hints : Bool) (fuel : Nat) (rows : List (List String)) : Reader Expression := fun ts =>
  match fuel, rows with
  | 0, _ => .error (.unexpected ts)
  | fuel + 1, [] => factor hints fuel ts
  | fuel + 1, row :: tighter => do
    let (first, rest) ← infixes hints fuel tighter ts
    infixed hints fuel row tighter first rest

/-- Reads the operands behind the first that infix operators of a row join to it. -/
def infixed (hints : Bool) (fuel : Nat) (row : List String) (tighter : List (List String)) (first : Expression) :
    Reader Expression := fun ts =>
  match fuel, symbolAmong? row ts with
  | 0, _ => .error (.unexpected ts)
  | fuel + 1, some (symbol, rest) => do
    let (second, rest) ← infixes hints fuel tighter rest
    infixed hints fuel row tighter (.operation symbol [first, second]) rest
  | _, none => .ok (first, ts)

/-- Reads an operand with its signs and its power. -/
def factor (hints : Bool) (fuel : Nat) : Reader Expression := fun ts =>
  match fuel with
  | 0 => .error (.unexpected ts)
  | fuel + 1 =>
    match symbolAmong? ["+", "-", "~"] ts with
    | some (symbol, rest) => do
      let (inner, rest) ← factor hints fuel rest
      return (.operation symbol [inner], rest)
    | none => do
      let (base, rest) ←
        if atWord "await" ts then do
          let (inner, rest) ← primary hints fuel ts.tail
          pure (.operation "await" [inner], rest)
        else primary hints fuel ts
      if atSymbol "**" rest then
        let (power, rest) ← factor hints fuel rest.tail
        return (.operation "**" [base, power], rest)
      else return (base, rest)

/-- Reads an operand with its attributes, calls and items. -/
def primary (hints : Bool) (fuel : Nat) : Reader Expression := fun ts =>
  match fuel with
  | 0 => .error (.unexpected ts)
  | fuel + 1 => do
    let (e, rest) ← atom hints fuel ts
    trailers hints fuel e rest

/-- Reads attributes, calls and items of an operand. -/
def trailers (hints : Bool) (fuel : Nat) (e : Expression) : Reader Expression := fun ts =>
  match fuel with
  | 0 => .error (.unexpected ts)
  | fuel + 1 =>
    if atSymbol "." ts then do
      let (n, rest) ← name ts.tail
      trailers hints fuel (.member e n) rest
    else if atSymbol "(" ts then do
      let (arguments, rest) ← arguments hints fuel ⟨[], false⟩ ts.tail
      trailers hints fuel (.call e arguments) rest
    else if atSymbol "[" ts then do
      let (index, rest) ← indices hints fuel ts.tail
      trailers hints fuel (.item e index) rest
    else return (e, ts)

/-- Reads the arguments of a call up to the bracket that closes them. -/
def arguments (hints : Bool) (fuel : Nat) (given : Given) : Reader (List Expression) := fun ts =>
  match fuel with
  | 0 => .error (.unexpected ts)
  | fuel + 1 => do
    if atSymbol ")" ts then return ([], ts.tail)
    if atSymbol unpackSymbol ts && given.pairs then
      tell hints "iterable argument unpacking follows keyword argument unpacking" ts ts
    let (argument, now, rest) ←
      match symbolAmong? [unpackSymbol, unpackPairsSymbol] ts with
      | some (symbol, rest) => do
        let (e, rest) ← expression hints fuel rest
        pure (.operation symbol [e], some { given with pairs := given.pairs || symbol = unpackPairsSymbol }, rest)
      | none =>
        match name ts with
        | .ok (n, rest) =>
          if atSymbol "=" rest && !atSymbol "=" rest.tail then do
            let (e, rest) ← expression hints fuel rest.tail
            let again := given.keywords.contains n
            let complaint := s!"keyword argument repeated: {n}"
            pure (if again then .refused complaint (lineOf ts) else .keyword n e,
              some { given with keywords := n :: given.keywords }, rest)
          else do
            let (e, rest) ← named hints fuel ts
            pure (e, none, rest)
        | .error _ => do
          let (e, rest) ← named hints fuel ts
          pure (e, none, rest)
    if atSymbol "=" rest then
      match argument with
      | .literal .null => tell hints s!"cannot assign to {assignee argument}" ts rest
      | .literal (.bool _) => tell hints s!"cannot assign to {assignee argument}" ts rest
      | _ => tell hints "expression cannot contain assignment, perhaps you meant \"==\"?" ts rest
    let generates := atWord "for" rest || atWord "async" rest
    let (argument, rest) ←
      if generates then do
        let (source, rest) ← clauses hints fuel rest
        pure (.comprehension "generator" source, rest)
      else pure (argument, rest)
    if rest.isEmpty then throw (.unexpected [])
    if generates && atSymbol "," rest then
      tell hints "Generator expression must be parenthesized" ts rest
    if now.isNone && given.pairs then
      tell hints "positional argument follows keyword argument unpacking" ts rest
    if now.isNone && !given.keywords.isEmpty then
      tell hints "positional argument follows keyword argument" ts rest
    if atSymbol "," rest then
      let (more, rest) ← arguments hints fuel (now.getD given) rest.tail
      return (argument :: more, rest)
    let ((), rest) ← symbol ")" rest
    return ([argument], rest)

/-- Reads an index up to the bracket that closes it. -/
def indices (hints : Bool) (fuel : Nat) : Reader Expression := fun ts =>
  match fuel with
  | 0 => .error (.unexpected ts)
  | fuel + 1 => do
    let (first, rest) ← slice hints fuel ts
    if atSymbol "," rest then
      if atSymbol "]" rest.tail then return (.row "tuple" [first], rest.tail.tail)
      let (more, rest) ← indices hints fuel rest.tail
      let parts := match more with
        | .row "tuple" parts => parts
        | e => [e]
      return (.row "tuple" (first :: parts), rest)
    let ((), rest) ← symbol "]" rest
    return (first, rest)

/-- Reads one index, or the bounds of a slice. -/
def slice (hints : Bool) (fuel : Nat) : Reader Expression := fun ts =>
  match fuel with
  | 0 => .error (.unexpected ts)
  | fuel + 1 => do
    let bound (ts : List Located) : Except Mishap (List Expression × List Located) := do
      if atSymbol ":" ts || atSymbol "]" ts || atSymbol "," ts then return ([], ts)
      let (e, rest) ← expression hints fuel ts
      return ([e], rest)
    match symbolOf? ["*"] ts with
    | some rest =>
      let (e, rest) ← infixes hints fuel infixRows rest
      return (.operation unpackSymbol [e], rest)
    | none =>
      let (first, rest) ←
        if atSymbol ":" ts then pure ([], ts)
        else do
          let (e, rest) ← named hints fuel ts
          pure ([e], rest)
      if atSymbol ":" rest then
        let (second, rest) ← bound rest.tail
        let (third, rest) ← if atSymbol ":" rest then bound rest.tail else pure ([], rest)
        return (.operation sliceSymbol (first ++ second ++ third), rest)
      else
        return (first.headD default, rest)

/-- Reads an expression that may be given a name. -/
def named (hints : Bool) (fuel : Nat) : Reader Expression := fun ts =>
  match fuel with
  | 0 => .error (.unexpected ts)
  | fuel + 1 =>
    match name ts with
    | .ok (n, rest) =>
      if atSymbol ":=" rest then do
        let (e, rest) ← expression hints fuel rest.tail
        return (.named n e, rest)
      else expression hints fuel ts
    | .error _ => expression hints fuel ts

/-- Reads a part of a row: one that is unpacked, or one that may be given a name. -/
def part (hints : Bool) (fuel : Nat) : Reader Expression := fun ts =>
  match fuel with
  | 0 => .error (.unexpected ts)
  | fuel + 1 =>
    if atSymbol "*" ts then do
      let (e, rest) ← infixes hints fuel infixRows ts.tail
      adjacent hints fuel ts.tail rest
      return (.operation unpackSymbol [e], rest)
    else do
      let (e, rest) ← named hints fuel ts
      equals hints fuel e ts rest
      return (e, rest)

/-- Complains about an equals sign behind a part. -/
def equals (hints : Bool) (fuel : Nat) (e : Expression) (ts rest : List Located) : Except Mishap Unit :=
  match fuel with
  | 0 => .ok ()
  | fuel + 1 =>
    if hints && atSymbol "=" rest then
      match infixes false fuel infixRows rest.tail with
      | .error (.unexpected []) => .error (.unexpected [])
      | .error _ => .ok ()
      | .ok (_, after) =>
        if after.isEmpty then .error (.unexpected [])
        else if atSymbol "=" after || atSymbol ":=" after then .ok ()
        else
          match e with
          | .name _ => .error (.told equalsForComparison (lineOf ts))
          | .row "list" _ => .ok ()
          | .row "tuple" _ => .ok ()
          | .comprehension "generator" _ => .ok ()
          | .literal .null => .ok ()
          | .literal (.bool _) => .ok ()
          | .choice _ _ _ => .ok ()
          | e =>
            .error (.told
              s!"cannot assign to {assignee e} here. Maybe you meant '==' instead of '='?" (lineOf ts))
    else .ok ()

/-- Reads the parts of a row up to the bracket that closes it. -/
def parts (hints : Bool) (fuel : Nat) (close : String) : Reader (List Expression) := fun ts =>
  match fuel with
  | 0 => .error (.unexpected ts)
  | fuel + 1 => do
    if atSymbol close ts then return ([], ts.tail)
    let (first, rest) ← part hints fuel ts
    if atSymbol "," rest then
      let (more, rest) ← parts hints fuel close rest.tail
      return (first :: more, rest)
    let ((), rest) ← symbol close rest
    return ([first], rest)

/-- Reads the clauses of a comprehension, and gives what the first goes through. -/
def clauses (hints : Bool) (fuel : Nat) : Reader Expression := fun ts =>
  match fuel with
  | 0 => .error (.unexpected ts)
  | fuel + 1 => do
    let start := if atWord "async" ts then ts.tail else ts
    let ((), rest) ← word "for" start
    let (_, rest) ← targets hints fuel rest
    let ((), rest) ← word "in" rest
    let (source, rest) ← disjunction hints fuel rest
    let rest ← conditions hints fuel rest
    if atWord "for" rest || atWord "async" rest then
      let (_, rest) ← clauses hints fuel rest
      return (source, rest)
    else return (source, rest)

/-- Reads the conditions of a clause. -/
def conditions (hints : Bool) (fuel : Nat) (ts : List Located) : Except Mishap (List Located) :=
  match fuel with
  | 0 => .error (.unexpected ts)
  | fuel + 1 =>
    if atWord "if" ts then do
      let (_, rest) ← disjunction hints fuel ts.tail
      conditions hints fuel rest
    else .ok ts

/-- Reads what a clause binds. -/
def targets (hints : Bool) (fuel : Nat) : Reader (List Expression) := fun ts =>
  match fuel with
  | 0 => .error (.unexpected ts)
  | fuel + 1 => do
    let (first, rest) ← infixes hints fuel infixRows ((symbolOf? ["*"] ts).getD ts)
    match obstacle? first with
    | some o => if rest.isEmpty then throw (.unexpected []) else tell hints s!"cannot assign to {assignee o}" ts ts
    | none => pure ()
    if atSymbol "," rest then
      if atWord "in" rest.tail then return ([first], rest.tail)
      let (more, rest) ← targets hints fuel rest.tail
      return (first :: more, rest)
    else return ([first], rest)

/-- Reads the pairs of a dictionary up to the bracket that closes it. -/
def pairs (hints : Bool) (fuel : Nat) : Reader (List Expression) := fun ts =>
  match fuel with
  | 0 => .error (.unexpected ts)
  | fuel + 1 => do
    if atSymbol "\x7d" ts then return ([], ts.tail)
    let (entry, rest) ←
      if atSymbol "**" ts then do
        let (e, rest) ← infixes hints fuel infixRows ts.tail
        pure (.operation unpackPairsSymbol [e], rest)
      else do
        let (key, rest) ← expression hints fuel ts
        if !atSymbol ":" rest then
          if rest.isEmpty then throw (.unexpected [])
          tell hints "':' expected after dictionary key" ts rest
        if atSymbol "\x7d" rest.tail || atSymbol "," rest.tail then
          tell hints "expression expected after dictionary key and ':'" rest rest.tail
        if atSymbol "*" rest.tail then
          tell hints "cannot use a starred expression in a dictionary value" rest rest.tail
        let (value, rest) ← expression hints fuel rest.tail
        pure (.operation entrySymbol [key, value], rest)
    let (entry, rest) ←
      if atWord "for" rest || atWord "async" rest then do
        let (source, rest) ← clauses hints fuel rest
        pure (.comprehension "dict" source, rest)
      else pure (entry, rest)
    if atSymbol "," rest then
      let (more, rest) ← pairs hints fuel rest.tail
      return (entry :: more, rest)
    let ((), rest) ← symbol "\x7d" rest
    return ([entry], rest)

/-- Reads what stands in round or square brackets. -/
def bracketed (hints : Bool) (fuel : Nat) (type close : String) : Reader Expression := fun ts =>
  match fuel with
  | 0 => .error (.unexpected ts)
  | fuel + 1 => do
    if atSymbol close ts then return (.row type [], ts.tail)
    if atWord "yield" ts && type = "tuple" then
      let (e, rest) ← yielded hints fuel ts.tail
      let ((), rest) ← symbol close rest
      return (e, rest)
    if atSymbol "**" ts && type = "tuple" then
      let (_, rest) ← infixes hints fuel infixRows ts.tail
      if atSymbol ")" rest then
        tell hints "cannot use double starred expression here" ts ts
      throw (.unexpected ts)
    let (first, rest) ← part hints fuel ts
    if atWord "for" rest || atWord "async" rest then
      let (source, rest) ← clauses hints fuel rest
      let ((), rest) ← symbol close rest
      return (.comprehension (if type = "tuple" then "generator" else type) source, rest)
    if atSymbol "," rest then
      let (more, rest) ← parts hints fuel close rest.tail
      return (.row type (first :: more), rest)
    let ((), rest) ← symbol close rest
    if type = "tuple" then
      if atSymbol "*" ts then tell hints "cannot use starred expression here" ts ts
      return (first, rest)
    return (.row type [first], rest)

/-- Reads what stands in braces. -/
def braced (hints : Bool) (fuel : Nat) : Reader Expression := fun ts =>
  match fuel with
  | 0 => .error (.unexpected ts)
  | fuel + 1 => do
    if atSymbol "\x7d" ts || atSymbol "**" ts then
      let (entries, rest) ← pairs hints fuel ts
      return (dictionary entries, rest)
    let (first, rest) ← part hints fuel ts
    if atSymbol ":" rest && !atSymbol "*" ts then
      let (entries, rest) ← pairs hints fuel ts
      return (dictionary entries, rest)
    if atWord "for" rest || atWord "async" rest then
      let (source, rest) ← clauses hints fuel rest
      let ((), rest) ← symbol "\x7d" rest
      return (.comprehension "set" source, rest)
    if atSymbol "," rest then
      let (more, rest) ← parts hints fuel "\x7d" rest.tail
      return (.row "set" (first :: more), rest)
    let ((), rest) ← symbol "\x7d" rest
    return (.row "set" [first], rest)

/-- Reads an operand. -/
def atom (hints : Bool) (fuel : Nat) : Reader Expression := fun ts =>
  match fuel, ts with
  | fuel + 1, t :: rest =>
    match t.token with
    | .name n =>
      match wordConstants.lookup n with
      | some v => .ok (.literal v, rest)
      | none => if keywords.contains n then .error (.unexpected ts) else .ok (.name (known n), rest)
    | .number n =>
      match n with
      | .whole n => .ok (.literal (.int n), rest)
      | .tooLong digits => .error (.told (Number.tooLongMessage digits) t.line)
      | .other kind => .ok (.constant (numberType kind), rest)
    | .text _ => do
      let (ls, behind) := texts ts
      if behind.isEmpty then throw (.unexpected [])
      let joined ← joinTexts hints fuel behind none (ls.zip (ts.map Located.line))
      return (joined.expression, behind)
    | .symbol s =>
      if s = "(" then bracketed hints fuel "tuple" ")" rest
      else if s = "[" then bracketed hints fuel "list" "]" rest
      else if s = "\x7b" then braced hints fuel rest
      else if s = "..." then .ok (.constant "ellipsis", rest)
      else .error (.unexpected ts)
    | _ => .error (.unexpected ts)
  | _, _ => .error (.unexpected ts)

/-- Joins adjacent texts, each with its line. What is wrong with them is told of what stands behind them. -/
def joinTexts (hints : Bool) (fuel : Nat) (behind : List Located) (before? : Option Joined)
    (ls : List (Literal × Nat)) : Except Mishap Joined :=
  match fuel, ls with
  | 0, _ => .error (.unexpected behind)
  | _, [] => .ok (before?.getD (.plain none))
  | fuel + 1, (l, line) :: rest => do
    let told {α : Type} (x : Except String α) : Except Mishap α := x.mapError fun s => .told s (lineOf behind)
    let next ←
      if l.isBytes then (told (Literal.decodeBytes l.isRaw l.body)).map Joined.bytes
      else if l.isFormatted then do
        let _ ← told ((before?.getD (.plain none)).append (.formatted []))
        let (parts, _) ← fields hints fuel behind 0 l.isRaw line l.body
        pure (Joined.formatted parts)
      else (told (Literal.decode l.isRaw l.body)).map Joined.plain
    let joined ← match before? with
      | some before => told (before.append next)
      | none => pure next
    joinTexts hints fuel behind (some joined) rest

/-- Reads the expressions in a text, up to its end or, in a layout, to the brace that ends it. Those in a layout may
have no layouts with expressions themselves. -/
def fields (hints : Bool) (fuel : Nat) (behind : List Located) (level : Nat) (isRaw : Bool) (line : Nat)
    (cs : List Char) : Except Mishap (List Expression × List Char) :=
  match fuel with
  | 0 => .error (.unexpected behind)
  | fuel + 1 => do
    let told {α : Type} (x : Except String α) : Except Mishap α := x.mapError fun s => .told s (lineOf behind)
    let lineAt (rest : List Char) : Nat := line + (cs.take (cs.length - rest.length)).count '\n'
    let (plain, again, rest) ← told (Literal.plain (level = 0) isRaw cs)
    let _ ← told (Literal.decode isRaw plain)
    if again then fields hints fuel behind level isRaw (lineAt rest) rest
    else
      match rest with
      | '\x7b' :: inner =>
        if 2 ≤ level then throw (.told "f-string: expressions nested too deeply" (lineOf behind))
        let (written, after) ← told (Literal.field inner)
        let e ← field fuel (lineAt rest) written
        let after ← told (Literal.shownAs after)
        let (layout, after) ←
          match after with
          | [':'] => throw (.told Literal.noEnd (lineOf behind))
          | ':' :: layout => fields hints fuel behind (level + 1) isRaw (lineAt layout) layout
          | after => pure ([], after)
        match after with
        | '\x7d' :: after =>
          let (more, end') ← fields hints fuel behind level isRaw (lineAt after) after
          return (e :: layout ++ more, end')
        | _ => throw (.told Literal.noEnd (lineOf behind))
      | rest =>
        if level ≠ 0 && rest.isEmpty then throw (.told Literal.noEnd (lineOf behind))
        return ([], rest)

/-- Reads an expression in a text, which begins in a line. It is read by itself, between brackets. -/
def field (fuel : Nat) (line : Nat) (written : List Char) : Except Mishap Expression :=
  match fuel with
  | 0 => .error (.unexpected [])
  | fuel + 1 =>
    let ts := Tokens.read ('(' :: written ++ [')'])
    match run ts fun hints tokens => expression hints fuel tokens with
    | .ok (e, _) => .ok e
    | .error f =>
      let complaint := if ts.fault = some f then f.complaint else "f-string: " ++ f.complaint
      .error (.told complaint (line + f.line.getD 1 - 1))

/-- Reads what a generator gives, behind its word. -/
def yielded (hints : Bool) (fuel : Nat) : Reader Expression := fun ts =>
  match fuel with
  | 0 => .error (.unexpected ts)
  | fuel + 1 => do
    if atWord "from" ts then
      let (e, rest) ← expression hints fuel ts.tail
      return (.operation yieldSymbol [e], rest)
    match ts with
    | t :: _ =>
      if beginsExpression t.token || t.token = .symbol "*" then
        let (e, rest) ← expressions hints fuel ((symbolOf? ["*"] ts).getD ts)
        return (.operation yieldSymbol [e], rest)
      else return (.operation yieldSymbol [], ts)
    | [] => throw (.unexpected [])

/-- Reads expressions divided by commas; more than one make a row. -/
def expressions (hints : Bool) (fuel : Nat) : Reader Expression := fun ts =>
  match fuel with
  | 0 => .error (.unexpected ts)
  | fuel + 1 => do
    let (first, rest) ← expression hints fuel ts
    if atSymbol "," rest then
      match rest.tail with
      | t :: _ =>
        if beginsExpression t.token then
          let (more, rest) ← expressions hints fuel rest.tail
          let parts := match more with
            | .row "tuple" parts => parts
            | e => [e]
          return (.row "tuple" (first :: parts), rest)
        else return (.row "tuple" [first], rest.tail)
      | [] => throw (.unexpected [])
    else return (first, rest)

end

/-- Enough fuel to read tokens. -/
def fuelFor (ts : List Located) : Nat := 40 * (ts.length + 1)

end Reader

namespace Expression

/-- A script with a null character. -/
def nullFault : Fault := ⟨.text, "source code string cannot contain null bytes", none⟩

/-- Reads a script that is one expression. -/
def read (cs : List Char) : Except Fault Expression :=
  if cs.contains '\x00' then .error nullFault
  else
    let ts := Tokens.read cs
    Reader.run ts fun hints tokens => do
      let (e, rest) ← Reader.expressions hints (Reader.fuelFor tokens) tokens
      match rest.dropWhile fun t => t.token = .endOfLine with
      | [⟨.endOfScript, _, _⟩] => return e
      | rest => throw (.unexpected rest)

end Expression

end Errata.Script
