import Errata.Script.Encoding
import Errata.Script.Expression

/-!
# Statements of a script

A script is a row of statements, some of which hold blocks of others. Where a statement stands matters, but only once
the whole script can be read.
-/

namespace Errata.Script

/-- A statement. An import may give another name to what it binds; an import from a package says how many
packages are left, the first of which is the one around the script. Of a function, what is evaluated where it is
written stands before its body. A block that is tried has handlers, which are statements of their own. -/
inductive Statement where
  | load (path : List String) (alias? : Option String)
  | take (leave : Nat) (path : List String) (names : List (String × String))
  | future (names : List (String × String)) (line : Nat)
  | takeAll (leave : Nat) (path : List String)
  | evaluate (e : Expression)
  | assign (targets : List Expression) (e : Expression)
  | annotate (target type : Expression) (e? : Option Expression)
  | update (target : Expression) (symbol : String) (e : Expression)
  | delete (target : Expression)
  | raise (e? cause? : Option Expression)
  | check (test : Expression) (message? : Option Expression)
  | define (name : String) (decorators written : List Expression) (body : List Statement)
  | cls (name : String) (decorators arguments : List Expression) (body : List Statement)
  | branch (test : Expression) (yes no : List Statement)
  | loop (source : Expression) (targets : List Expression) (body otherwise : List Statement)
  | resource (parts : List (Expression × Option Expression)) (body : List Statement)
  | select (subject : Expression) (cases : List Statement)
  | case (names : List String) (guard? : Option Expression) (body : List Statement)
  | attempt (body handlers otherwise always : List Statement)
  | handler (type? : Option Expression) (name? : Option String) (body : List Statement)
  | result (e? : Option Expression)
  | misplaced (complaint : String) (line : Nat)
  | other

instance : Inhabited Statement := ⟨.other⟩

namespace Statement

/-- What surrounds a statement. -/
structure Place where
  inModule : Bool
  inFunction : Bool
  inLoop : Bool

/-- A statement that nothing surrounds. -/
def Place.top : Place := ⟨true, false, false⟩

/-- A statement in a loop. -/
def Place.loop (p : Place) : Place := { p with inLoop := true }

/-- A statement in a function. -/
def Place.function : Place := ⟨false, true, false⟩

/-- A statement in a class. -/
def Place.cls : Place := ⟨false, false, false⟩

/-- The statement ends here. -/
def atEnd (ts : List Located) : Bool :=
  Reader.atSymbol ";" ts ||
    match ts with
    | t :: _ => t.token = .endOfLine
    | [] => false

mutual

/-- The names that an assignment to an expression binds. -/
def bound : Expression → List String
  | .name n => [n]
  | .row _ parts => boundAmong parts
  | .operation "*" parts => boundAmong parts
  | _ => []

/-- The names that an assignment to some expressions binds. -/
def boundAmong : List Expression → List String
  | [] => []
  | e :: es => bound e ++ boundAmong es

end

mutual

/-- Why an expression is refused once it can be read, with the line if it is another than that of its statement. What
asks a function around it for something is refused where there is none. Functions in it ask for themselves. -/
def objection? (inFunction : Bool) : Expression → Option (String × Option Nat)
  | .refused complaint line => some (complaint, some line)
  | .operation symbol parts =>
    if !inFunction && (symbol = "yield" || symbol = "await") then some (s!"'{symbol}' outside function", none)
    else objectionAmong? inFunction parts
  | .formatted parts => objectionAmong? inFunction parts
  | .member e _ => objection? inFunction e
  | .call f arguments => (objection? inFunction f).or (objectionAmong? inFunction arguments)
  | .keyword _ e => objection? inFunction e
  | .item e index => (objection? inFunction e).or (objection? inFunction index)
  | .row _ parts => objectionAmong? inFunction parts
  | .comprehension _ source => objection? inFunction source
  | .comparison _ parts => objectionAmong? inFunction parts
  | .choice test yes no =>
    (objection? inFunction test).or ((objection? inFunction yes).or (objection? inFunction no))
  | .named _ e => objection? inFunction e
  | .function defaults => objectionAmong? inFunction defaults
  | _ => none

/-- Why one of some expressions is refused. -/
def objectionAmong? (inFunction : Bool) : List Expression → Option (String × Option Nat)
  | [] => none
  | e :: es => (objection? inFunction e).or (objectionAmong? inFunction es)

end

/-- The symbols that assign the result of an operation. -/
def updateSymbols : List String := [
  "+=", "-=", "*=", "/=", "//=", "%=", "@=", "&=", "|=", "^=", ">>=", "<<=", "**="]

open Reader

/-- Reads parts divided by commas, at least one. -/
def divided (read : Reader α) : Nat → Reader (List α)
  | 0 => fun ts => .error (.unexpected ts)
  | fuel + 1 => fun ts => do
    let (first, rest) ← read ts
    if atSymbol "," rest then
      let (more, rest) ← divided read fuel rest.tail
      return (first :: more, rest)
    else return ([first], rest)

/-- Reads a name with parts behind dots. -/
def path : Nat → Reader (List String)
  | 0 => fun ts => .error (.unexpected ts)
  | fuel + 1 => fun ts => do
    let (first, rest) ← name ts
    if atSymbol "." rest then
      let (more, rest) ← path fuel rest.tail
      return (first :: more, rest)
    else return ([first], rest)

/-- Reads the other name that something is given. -/
def rename? : Reader (Option String) := fun ts =>
  if atWord "as" ts then (name ts.tail).map fun r => (some r.1, r.2) else .ok (none, ts)

/-- Reads an import of modules, behind its word. -/
def loads (fuel : Nat) : Reader (List Statement) :=
  divided (fun ts => do
    let (p, rest) ← path fuel ts
    let (alias?, rest) ← rename? rest
    return (load p alias?, rest)) fuel

/-- Reads a name that is taken from a module, with the name that it gets. -/
def taken : Reader (String × String) := fun ts => do
  let (n, rest) ← name ts
  let (alias?, rest) ← rename? rest
  return ((n, alias?.getD n), rest)

/-- Reads taken names up to the bracket that closes them. -/
def takenUpTo : Nat → Reader (List (String × String))
  | 0 => fun ts => .error (.unexpected ts)
  | fuel + 1 => fun ts => do
    let (first, rest) ← taken ts
    if atSymbol "," rest then
      if atSymbol ")" rest.tail then return ([first], rest.tail.tail)
      let (more, rest) ← takenUpTo fuel rest.tail
      return (first :: more, rest)
    let ((), rest) ← symbol ")" rest
    return ([first], rest)

/-- Reads taken names that no brackets hold. -/
def takenInLine (hints : Bool) : Nat → Reader (List (String × String))
  | 0 => fun ts => .error (.unexpected ts)
  | fuel + 1 => fun ts => do
    let (first, rest) ← taken ts
    if atSymbol "," rest then
      if atEnd rest.tail then
        tell hints "trailing comma not allowed without surrounding parentheses" ts rest.tail
      let (more, rest) ← takenInLine hints fuel rest.tail
      return (first :: more, rest)
    else return ([first], rest)

/-- Reads the dots before the path of a package, and counts them. -/
def dots : Nat → List Located → Nat × List Located
  | 0, ts => (0, ts)
  | fuel + 1, ts =>
    if atSymbol "." ts then ((dots fuel ts.tail).1 + 1, (dots fuel ts.tail).2)
    else if atSymbol "..." ts then ((dots fuel ts.tail).1 + 3, (dots fuel ts.tail).2)
    else (0, ts)

/-- Reads an import from a module, behind its word. -/
def takes (hints : Bool) (fuel : Nat) : Reader (List Statement) := fun ts => do
  let (leave, rest) := dots fuel ts
  let (p, rest) ← if leave ≠ 0 && atWord "import" rest then pure ([], rest) else path fuel rest
  let ((), rest) ← word "import" rest
  if atSymbol "*" rest then return ([takeAll leave p], rest.tail)
  let (names, rest) ←
    if atSymbol "(" rest then takenUpTo fuel rest.tail else takenInLine hints fuel rest
  return ([take leave p names], rest)

/-- Reads an expression that may be unpacked. -/
def starred (hints : Bool) (fuel : Nat) : Reader Expression := fun ts =>
  if atSymbol "*" ts then do
    let (e, rest) ← infixes hints fuel infixRows ts.tail
    return (.operation unpackSymbol [e], rest)
  else expression hints fuel ts

/-- Reads expressions divided by commas, each with the tokens where it begins; a comma at the end makes a
row too. -/
def parted (hints : Bool) : Nat → Reader (List (Expression × List Located) × Bool)
  | 0 => fun ts => .error (.unexpected ts)
  | fuel + 1 => fun ts => do
    let (first, rest) ← starred hints fuel ts
    if atSymbol "," rest then
      match rest.tail with
      | t :: _ =>
        if beginsExpression t.token || t.token = .symbol "*" then
          let ((more, _), rest) ← parted hints fuel rest.tail
          return (((first, ts) :: more, true), rest)
        else return (([(first, ts)], true), rest.tail)
      | [] => throw (.unexpected [])
    else return (([(first, ts)], false), rest)

/-- The expression that parts make. -/
def join (parts : List (Expression × List Located) × Bool) : Expression :=
  match parts with
  | ([(e, _)], false) => e
  | (es, _) => .row "tuple" (es.map Prod.fst)

/-- Reads expressions divided by commas. -/
def row (hints : Bool) (fuel : Nat) : Reader Expression := fun ts => do
  let (parts, rest) ← parted hints fuel ts
  return (join parts, rest)

/-- A statement that is only allowed in a function. -/
def functionOnly (p : Place) (complaint : String) (ts : List Located) (s : Statement) : Statement :=
  if p.inFunction then s else misplaced complaint (lineOf ts)

/-- A single part that is unpacked into no row. -/
def noRow : String := "can't use starred expression here"

/-- A part that is unpacked. -/
def isUnpacked : Expression → Bool
  | .operation "*" [_] => true
  | _ => false

/-- A statement with the values that it is made of. -/
def withValues (p : Place) (ts : List Located) (s : Statement) (es : List Expression) : Statement :=
  if es.any isUnpacked then misplaced noRow (lineOf ts)
  else
    match objectionAmong? p.inFunction es with
    | some (complaint, line?) => misplaced complaint (line?.getD (lineOf ts))
    | none => s

/-- Reads the value of a statement: an expression, or what a generator is given. -/
def value (hints : Bool) (fuel : Nat) : Reader Expression := fun ts =>
  if atWord "yield" ts then yielded hints fuel ts.tail else row hints fuel ts

/-- Complains about an equals sign behind the parts of a row. -/
def comparedParts (hints : Bool) (fuel : Nat) :
    List (Expression × List Located) → Except Mishap Unit
  | [] => .ok ()
  | (_, ts) :: parts => do
    match infixes false fuel infixRows ts with
    | .ok (e, rest) => equals hints fuel e ts rest
    | .error _ => pure ()
    comparedParts hints fuel parts

/-- Reads the targets and the value of an assignment, from its first equals sign on. -/
def assigned (p : Place) (hints : Bool) (fuel : Nat) (targets : List Expression) (last : Expression)
    (start : List Located) : Reader Statement := fun ts =>
  match fuel with
  | 0 => .error (.unexpected ts)
  | fuel + 1 => do
    match last with
    | .operation "yield" _ => tell hints "assignment to yield expression not possible" start ts
    | last =>
      match Reader.obstacle? last with
      | some o => tell hints s!"cannot assign to {assignee o}" start ts
      | none => pure ()
    let (v, rest) ← value hints fuel ts.tail
    if atSymbol "=" rest then assigned p hints fuel (targets ++ [last]) v ts.tail rest
    else return (withValues p ts.tail (assign (targets ++ [last]) v) [v], rest)

/-- Reads the annotation of a target, from its colon on. -/
def annotated (p : Place) (hints : Bool) (fuel : Nat) (target : Expression) (start : List Located) :
    Reader Statement := fun ts => do
  let single := match target with
    | .name _ => true
    | .member _ _ => true
    | .item _ _ => true
    | _ => false
  if !single then
    let _ ← expression hints fuel ts.tail
    match target with
    | .row "list" _ => tell hints "only single target (not list) can be annotated" start ts
    | .row "tuple" _ => tell hints "only single target (not tuple) can be annotated" start ts
    | _ => tell hints "illegal target for annotation" start ts
  let (type, rest) ← expression hints fuel ts.tail
  if atSymbol "=" rest then
    let (v, after) ← value hints fuel rest.tail
    return (withValues p rest.tail (annotate target type (some v)) [v], after)
  else return (annotate target type none, rest)

/-- Reads an assignment, or an expression that stands alone. -/
def assignment (p : Place) (hints : Bool) (fuel : Nat) : Reader Statement := fun ts => do
  if atWord "yield" ts then
    let (v, rest) ← value hints fuel ts
    if atSymbol "=" rest then assigned p hints fuel [] v rest rest
    else return (withValues p ts (evaluate v) [v], rest)
  else
    let (parts, rest) ← parted hints fuel ts
    let e := join parts
    if atSymbol "=" rest then
      if (Reader.obstacle? e).isSome then comparedParts hints fuel parts.1
      match e with
      | .operation "*" [_] =>
        let (_, rest) ← assigned p hints fuel [] e ts rest
        return (misplaced "starred assignment target must be in a list or tuple" (lineOf ts), rest)
      | _ => assigned p hints fuel [] e ts rest
    else if atSymbol ":" rest then annotated p hints fuel e ts rest
    else if atSymbol ":=" rest && !e.isName && parts.1.length = 1 then
      let _ ← expression hints fuel rest.tail
      tell hints s!"cannot use assignment expressions with {assignee e}" ts rest
    else
      match symbolAmong? updateSymbols rest with
      | some (symbol, behind) =>
        let (v, after) ← value hints fuel behind
        let updated (e : Expression) : Except Mishap (Statement × List Located) :=
          .ok (withValues p behind (update e (String.ofList (symbol.toList.take (symbol.length - 1))) v) [v], after)
        match e with
        | .name _ => updated e
        | .member _ _ => updated e
        | .item _ _ => updated e
        | e => tell hints s!"'{assignee e}' is an illegal expression for augmented assignment" ts rest
      | none => return (withValues p ts (evaluate e) [e], rest)

/-- The features that a script can ask for. -/
def features : List String := [
  "nested_scopes", "generators", "division", "absolute_import", "with_statement", "print_function",
  "unicode_literals", "barry_as_FLUFL", "generator_stop", "annotations"]

/-- A statement that asks for features. -/
def ofFuture (names : List (String × String)) (line : Nat) : Statement :=
  match names.find? fun n => !features.contains n.1 with
  | some (n, _) =>
    misplaced (if n = "braces" then "not a chance" else s!"future feature {n} is not defined") line
  | none => future names line

/-- Reads an expression that may be left out at the end of a statement. -/
def optional (read : Reader Expression) : Reader (Option Expression) := fun ts =>
  if atEnd ts then .ok (none, ts) else (read ts).map fun r => (some r.1, r.2)

/-- Reads an expression behind a mark, if the mark is there. -/
def behind (isThere : List Located → Bool) (read : Reader Expression) : Reader (Option Expression) := fun ts =>
  if isThere ts then (read ts.tail).map fun r => (some r.1, r.2) else .ok (none, ts)

/-- Reads a statement that holds no other. -/
def small (p : Place) (hints : Bool) (fuel : Nat) : Reader (List Statement) := fun ts =>
  let one (s : Statement) (rest : List Located) : Except Mishap (List Statement × List Located) :=
    .ok ([s], rest)
  if atWord "import" ts then loads fuel ts.tail
  else if atWord "from" ts then do
    let (ss, rest) ← takes hints fuel ts.tail
    match ss with
    | [take 0 ["__future__"] names] => one (ofFuture names (lineOf ts)) rest
    | [takeAll leave path] =>
      let complaint := "import * only allowed at module level"
      one (if p.inModule then takeAll leave path else misplaced complaint (lineOf ts)) rest
    | ss => return (ss, rest)
  else if atWord "pass" ts then one other ts.tail
  else if atWord "break" ts then
    one (if p.inLoop then other else misplaced "'break' outside loop" (lineOf ts)) ts.tail
  else if atWord "continue" ts then
    one (if p.inLoop then other else misplaced "'continue' not properly in loop" (lineOf ts)) ts.tail
  else if atWord "return" ts then do
    let (e?, rest) ← optional (row hints fuel) ts.tail
    one (functionOnly p "'return' outside function" ts (withValues p ts (result e?) e?.toList)) rest
  else if atWord "raise" ts then do
    let (e?, rest) ← optional (expression hints fuel) ts.tail
    let (cause?, rest) ←
      if e?.isSome then behind (atWord "from") (expression hints fuel) rest else pure (none, rest)
    one (withValues p ts (raise e? cause?) (e?.toList ++ cause?.toList)) rest
  else if atWord "global" ts then do
    let (_, rest) ← divided name fuel ts.tail
    one other rest
  else if atWord "nonlocal" ts then do
    let (_, rest) ← divided name fuel ts.tail
    one (functionOnly p "nonlocal declaration not allowed at module level" ts other) rest
  else if atWord "del" ts then do
    let (e, rest) ← row hints fuel ts.tail
    match e, Reader.obstacle? e with
    | .operation "*" [_], _ => tell hints "cannot delete starred" ts rest
    | _, some o => tell hints s!"cannot delete {assignee o}" ts rest
    | _, none => if atEnd rest then one (delete e) rest else throw (.unexpected rest)
  else if atWord "assert" ts then do
    let (e, rest) ← expression hints fuel ts.tail
    let (message?, rest) ← behind (atSymbol ",") (expression hints fuel) rest
    one (withValues p ts (check e message?) (e :: message?.toList)) rest
  else do
    let (s, rest) ← assignment p hints fuel ts
    one s rest

/-- Reads the statements of a line. -/
def line (p : Place) (hints : Bool) : Nat → Reader (List Statement)
  | 0 => fun ts => .error (.unexpected ts)
  | fuel + 1 => fun ts => do
    let (ss, rest) ← small p hints fuel ts
    let afterMark := if atSymbol ";" rest then rest.tail else rest
    match afterMark with
    | t :: more =>
      if t.token = .endOfLine then return (ss, more)
      else if atSymbol ";" rest then
        let (next, rest) ← line p hints fuel afterMark
        return (ss ++ next, rest)
      else throw (.unexpected rest)
    | [] => throw (.unexpected [])

/-- Reads the colon before a block. Some statements say at once that it is missing, others only where the
line ends. -/
def colon (hints forced : Bool) : Reader Unit := fun ts =>
  if atSymbol ":" ts then .ok ((), ts.tail)
  else if ts.isEmpty then .error (.unexpected [])
  else if forced then .error (.told "expected ':'" (lineOf ts))
  else if atEnd ts && !atSymbol ";" ts then tell hints "expected ':'" ts ts
  else .error (.unexpected ts)

/-- Reads a bracket that must be there. -/
def opening : Reader Unit := fun ts =>
  if atSymbol "(" ts then .ok ((), ts.tail)
  else if ts.isEmpty then .error (.unexpected [])
  else .error (.told "expected '('" (lineOf ts))

/-- Reads a resource of a statement that closes it, with the target that it is bound to. -/
def resourcePart (hints : Bool) (fuel : Nat) : Reader (Expression × Option Expression) := fun ts => do
  let (e, rest) ← expression hints fuel ts
  let (target?, after) ← behind (atWord "as") (infixes hints fuel infixRows) rest
  match target?.bind Reader.obstacle? with
  | some o => tell hints s!"cannot assign to {assignee o}" rest.tail rest
  | none => return ((e, target?), after)

/-- Reads resources in brackets. -/
def resourcesUpTo (hints : Bool) : Nat → Reader (List (Expression × Option Expression))
  | 0 => fun ts => .error (.unexpected ts)
  | fuel + 1 => fun ts => do
    let (first, rest) ← resourcePart hints fuel ts
    if atSymbol "," rest then
      if atSymbol ")" rest.tail then return ([first], rest.tail.tail)
      let (more, rest) ← resourcesUpTo hints fuel rest.tail
      return (first :: more, rest)
    else
      let ((), rest) ← symbol ")" rest
      return ([first], rest)

/-- Reads the resources of a statement. Those in brackets may have targets too. -/
def resources (hints : Bool) (fuel : Nat) : Reader (List (Expression × Option Expression)) := fun ts =>
  let plain := divided (resourcePart hints fuel) fuel ts
  if atSymbol "(" ts then
    match resourcesUpTo hints fuel ts.tail with
    | .ok (parts, rest) => if atSymbol ":" rest then .ok (parts, rest) else plain
    | .error _ => plain
  else plain

/-- Reads what an error handler is for, and the name that it gives the error. -/
def handled (hints : Bool) (fuel : Nat) : Reader (Option Expression × Option String) := fun ts => do
  if atSymbol ":" ts || atEnd ts then return ((none, none), ts)
  let (type, rest) ← expression hints fuel ((symbolOf? ["*"] ts).getD ts)
  if atSymbol "," rest then
    match row hints fuel rest.tail with
    | .ok (_, after) =>
      let named := if atWord "as" after then after.tail.tail else after
      if atSymbol ":" named then tell hints "multiple exception types must be parenthesized" ts rest
      else throw (.unexpected rest)
    | .error _ => throw (.unexpected rest)
  let (name?, rest) ← rename? rest
  return ((some type, name?), rest)

/-- What a pattern binds, and what it is called if it fits everything. -/
abbrev Pattern := List String × Option String

/-- Reads the sign and the number of a pattern, or a sum of two. -/
def patternNumber : Reader Unit := fun ts => do
  let start := if atSymbol "-" ts then ts.tail else ts
  match start with
  | ⟨.number _, _, _⟩ :: rest =>
    match symbolOf? ["+", "-"] rest with
    | some (⟨.number (.other .imaginary), _, _⟩ :: after) => return ((), after)
    | some after => throw (.unexpected after)
    | none => return ((), rest)
  | rest => throw (.unexpected rest)

mutual

/-- Reads the pattern of a case. -/
def patterns (hints : Bool) (fuel : Nat) : Reader Pattern := fun ts =>
  match fuel with
  | 0 => .error (.unexpected ts)
  | fuel + 1 => do
    let ((names, catches?), rest) ← starredPattern hints fuel ts
    if atSymbol "," rest then
      let (more, rest) ← patternsUpTo hints fuel rest.tail
      return ((names ++ more, none), rest)
    else if atSymbol "*" ts then throw (.unexpected rest)
    else return ((names, catches?), rest)

/-- Reads patterns divided by commas, as many as there are. -/
def patternsUpTo (hints : Bool) (fuel : Nat) : Reader (List String) := fun ts =>
  match fuel with
  | 0 => .error (.unexpected ts)
  | fuel + 1 => do
    if ["]", ")", ":"].any fun s => atSymbol s ts then return ([], ts)
    if atWord "if" ts then return ([], ts)
    let ((names, _), rest) ← starredPattern hints fuel ts
    if atSymbol "," rest then
      let (more, rest) ← patternsUpTo hints fuel rest.tail
      return (names ++ more, rest)
    else return (names, rest)

/-- Reads a pattern, or a name for all that is left. -/
def starredPattern (hints : Bool) (fuel : Nat) : Reader Pattern := fun ts =>
  match fuel with
  | 0 => .error (.unexpected ts)
  | fuel + 1 => do
    if atSymbol "*" ts then
      let (n, rest) ← name ts.tail
      return ((if n = "_" then [] else [n], none), rest)
    else pattern hints fuel ts

/-- Reads a pattern with its alternatives and its name. -/
def pattern (hints : Bool) (fuel : Nat) : Reader Pattern := fun ts =>
  match fuel with
  | 0 => .error (.unexpected ts)
  | fuel + 1 => do
    let ((names, catches?), rest) ← closedPattern hints fuel ts
    if atSymbol "|" rest then
      let ((_, others?), rest) ← pattern hints fuel rest.tail
      return ((names, others?), rest)
    else if atWord "as" rest then
      let (n, rest) ← name rest.tail
      return ((names ++ [n], catches?), rest)
    else return ((names, catches?), rest)

/-- Reads a pattern by itself. -/
def closedPattern (hints : Bool) (fuel : Nat) : Reader Pattern := fun ts =>
  match fuel, ts with
  | fuel + 1, t :: rest =>
    match t.token with
    | .name n =>
      if ["None", "True", "False"].contains n then .ok (([], none), rest)
      else do
        let (p, rest) ← path fuel ts
        if atSymbol "(" rest then
          let (names, rest) ← classPatterns hints fuel rest.tail
          return ((names, none), rest)
        else
          match p with
          | ["_"] => return (([], some "wildcard"), rest)
          | [n] => return (([n], some s!"name capture '{n}'"), rest)
          | _ => return (([], none), rest)
    | .text _ => do
      let (_, rest) ← atom hints fuel ts
      return (([], none), rest)
    | .symbol "(" => do
      if atSymbol ")" rest then return (([], none), rest.tail)
      let (found, rest) ← patterns hints fuel rest
      let ((), rest) ← symbol ")" rest
      return (found, rest)
    | .symbol "[" => do
      let (names, rest) ← patternsUpTo hints fuel rest
      let ((), rest) ← symbol "]" rest
      return ((names, none), rest)
    | .symbol "\x7b" => do
      let (names, rest) ← pairPatterns hints fuel rest
      return ((names, none), rest)
    | _ => do
      let ((), rest) ← patternNumber ts
      return (([], none), rest)
  | _, _ => .error (.unexpected ts)

/-- Reads the patterns of the attributes of an object, up to the bracket that closes them. -/
def classPatterns (hints : Bool) (fuel : Nat) : Reader (List String) := fun ts =>
  match fuel with
  | 0 => .error (.unexpected ts)
  | fuel + 1 => do
    if atSymbol ")" ts then return ([], ts.tail)
    let start := match name ts with
      | .ok (_, rest) => if atSymbol "=" rest then rest.tail else ts
      | .error _ => ts
    let ((names, _), rest) ← pattern hints fuel start
    if atSymbol "," rest then
      let (more, rest) ← classPatterns hints fuel rest.tail
      return (names ++ more, rest)
    else
      let ((), rest) ← symbol ")" rest
      return (names, rest)

/-- Reads the patterns of the entries of a dictionary, up to the bracket that closes them. -/
def pairPatterns (hints : Bool) (fuel : Nat) : Reader (List String) := fun ts =>
  match fuel with
  | 0 => .error (.unexpected ts)
  | fuel + 1 => do
    if atSymbol "\x7d" ts then return ([], ts.tail)
    let (names, rest) ←
      if atSymbol "**" ts then do
        let (n, rest) ← name ts.tail
        pure ([n], rest)
      else do
        let (_, rest) ← closedPattern hints fuel ts
        let ((), rest) ← symbol ":" rest
        let ((names, _), rest) ← pattern hints fuel rest
        pure (names, rest)
    if atSymbol "," rest then
      let (more, rest) ← pairPatterns hints fuel rest.tail
      return (names ++ more, rest)
    else
      let ((), rest) ← symbol "\x7d" rest
      return (names, rest)

end

/-- Reads a condition, which must not look like an assignment. -/
def test (hints : Bool) (fuel : Nat) : Reader Expression := fun ts => do
  let (e, rest) ← named hints fuel ts
  equals hints fuel e ts rest
  return (e, rest)

/-- What is said of a statement that gets no block. -/
def noBlock (what : String) (line : Nat) : String := s!"expected an indented block after {what} on line {line}"

/-- What a statement with a word is called. -/
def wordStatement (w : String) : String := s!"'{w}' statement"

/-- A selection begins here: what is selected by stands before a block of cases. -/
def isSelection (hints : Bool) (fuel : Nat) (ts : List Located) : Bool :=
  atWord "match" ts &&
    match row hints fuel ts.tail with
    | .ok (_, rest) =>
      match rest with
      | ⟨.symbol ":", _, _⟩ :: ⟨.endOfLine, _, _⟩ :: ⟨.indent, _, _⟩ :: inner => atWord "case" inner
      | _ => false
    | .error _ => false

/-- The statement that something is done as long as a condition holds. -/
def whileLoop (test : Expression) (body otherwise : List Statement) : Statement := loop test [] body otherwise

/-- What a function is marked with that gives nothing when it is called, but is run later. It counts as a decorator. -/
def asynchronous : Expression := .function []

mutual

/-- Reads statements up to the end of their block. -/
def block (p : Place) (hints : Bool) (fuel : Nat) : Reader (List Statement) := fun ts =>
  match fuel, ts with
  | fuel + 1, t :: _ =>
    if t.token = .dedent || t.token = .endOfScript then .ok ([], ts)
    else do
      let (ss, rest) ← statement p hints fuel ts
      let (more, rest) ← block p hints fuel rest
      return (ss ++ more, rest)
  | _, _ => .error (.unexpected ts)
termination_by structural fuel

/-- Reads the block of a statement, behind its colon: the rest of its line, or the lines that are indented
below it. -/
def body (p : Place) (hints : Bool) (fuel : Nat) (what : String) (start : Nat) :
    Reader (List Statement) := fun ts =>
  match fuel, ts with
  | fuel + 1, t :: rest =>
    if t.token = .endOfLine then
      match rest with
      | ⟨.indent, _, _⟩ :: inner => do
        let (ss, rest) ← block p hints fuel inner
        match rest with
        | ⟨.dedent, _, _⟩ :: rest => return (ss, rest)
        | rest => throw (.unexpected rest)
      | [] => .error (.unexpected [])
      | rest => tell hints (noBlock what start) rest rest
    else line p hints fuel ts
  | _, _ => .error (.unexpected ts)
termination_by structural fuel

/-- Reads the other cases of a statement: more conditions where they may stand, and what holds else. -/
def others (p : Place) (conditions hints : Bool) (fuel : Nat) : Reader (List Statement) := fun ts =>
  match fuel with
  | 0 => .error (.unexpected ts)
  | fuel + 1 => do
    if conditions && atWord "elif" ts then
      let (e, rest) ← test hints fuel ts.tail
      let ((), rest) ← colon hints false rest
      let (ss, rest) ← body p hints fuel (wordStatement "elif") (lineOf ts) rest
      let (more, rest) ← others p conditions hints fuel rest
      return ([withValues p ts (branch e ss more) [e]], rest)
    else if atWord "else" ts then
      let ((), rest) ← colon hints true ts.tail
      body p hints fuel (wordStatement "else") (lineOf ts) rest
    else return ([], ts)
termination_by structural fuel

/-- Reads the handlers of a block that is tried. Only the last one may be for everything. -/
def handlers (p : Place) (hints : Bool) (fuel : Nat) : Reader (List Statement) := fun ts =>
  match fuel with
  | 0 => .error (.unexpected ts)
  | fuel + 1 =>
    if atWord "except" ts then do
      let ((type?, name?), rest) ← handled hints fuel ts.tail
      let ((), rest) ← colon hints false rest
      let (ss, rest) ← body p hints fuel (wordStatement "except") (lineOf ts) rest
      let (more, rest) ← handlers p hints fuel rest
      let early := type?.isNone && !more.isEmpty
      let first := if early then misplaced "default 'except:' must be last" (lineOf ts) else handler type? name? ss
      return (first :: more, rest)
    else return ([], ts)
termination_by structural fuel

/-- Reads a block that is tried, behind its word, with its handlers. -/
def tried (p : Place) (hints : Bool) (fuel : Nat) (start : Nat) : Reader (List Statement) := fun ts =>
  match fuel with
  | 0 => .error (.unexpected ts)
  | fuel + 1 => do
    let ((), rest) ← colon hints true ts
    let (ss, rest) ← body p hints fuel (wordStatement "try") start rest
    if !atWord "except" rest && !atWord "finally" rest then
      if rest.isEmpty then throw (.unexpected [])
      tell hints "expected 'except' or 'finally' block" rest rest
    let handles := atWord "except" rest
    let (hs, rest) ← handlers p hints fuel rest
    let (es, rest) ← if handles then others p false hints fuel rest else pure ([], rest)
    if atWord "finally" rest then
      let ((), after) ← colon hints true rest.tail
      let (fs, after) ← body p hints fuel (wordStatement "finally") (lineOf rest) after
      return ([attempt ss hs es fs], after)
    else return ([attempt ss hs es []], rest)
termination_by structural fuel

/-- Reads a function, behind its word. -/
def function (p : Place) (hints : Bool) (fuel : Nat) (start : Nat) (decorators : List Expression) :
    Reader (List Statement) := fun ts =>
  match fuel with
  | 0 => .error (.unexpected ts)
  | fuel + 1 => do
    let (n, rest) ← name ts
    let ((), rest) ← opening rest
    let ((names, written), rest) ← parameters hints fuel false .start rest
    let ((), rest) ← symbol ")" rest
    let (type?, rest) ←
      if atSymbol "->" rest then
        match expression hints fuel rest.tail with
        | .ok (e, rest) => pure (some e, rest)
        | .error _ => pure (none, rest)
      else pure (none, rest)
    let ((), rest) ← colon hints true rest
    let (ss, rest) ← body .function hints fuel "function definition" start rest
    match repeatedParameter? names with
    | some (complaint, line) => return ([misplaced complaint line], rest)
    | none =>
      let written := written ++ type?.toList
      return ([withValues p ts (define n decorators written ss) (decorators ++ written)], rest)
termination_by structural fuel

/-- Reads a class, behind its word. -/
def classBody (p : Place) (hints : Bool) (fuel : Nat) (start : Nat) (decorators : List Expression) :
    Reader (List Statement) := fun ts =>
  match fuel with
  | 0 => .error (.unexpected ts)
  | fuel + 1 => do
    let (n, rest) ← name ts
    let (es, rest) ← if atSymbol "(" rest then arguments hints fuel ⟨[], false⟩ rest.tail else pure ([], rest)
    let ((), rest) ← colon hints false rest
    let (ss, rest) ← body .cls hints fuel "class definition" start rest
    return ([withValues p ts (cls n decorators es ss) (decorators ++ es.filter fun e => !isUnpacked e)], rest)
termination_by structural fuel

/-- Reads what stands below decorators. -/
def decorated (p : Place) (hints : Bool) (fuel : Nat) (decorators : List Expression) : Reader (List Statement) :=
  fun ts =>
  match fuel with
  | 0 => .error (.unexpected ts)
  | fuel + 1 => do
    if atSymbol "@" ts then
      let (e, rest) ← named hints fuel ts.tail
      match rest with
      | ⟨.endOfLine, _, _⟩ :: rest => decorated p hints fuel (decorators ++ [e]) rest
      | rest => throw (.unexpected rest)
    else if atWord "def" ts then function p hints fuel (lineOf ts) decorators ts.tail
    else if atWord "class" ts then classBody p hints fuel (lineOf ts) decorators ts.tail
    else if atWord "async" ts && atWord "def" ts.tail then
      function p hints fuel (lineOf ts) (decorators ++ [asynchronous]) ts.tail.tail
    else throw (.unexpected ts)
termination_by structural fuel

/-- Reads the cases of a selection. -/
def cases (p : Place) (hints : Bool) (fuel : Nat) : Reader (List Statement) := fun ts =>
  match fuel with
  | 0 => .error (.unexpected ts)
  | fuel + 1 =>
    if atWord "case" ts then do
      let ((names, catches?), rest) ← patterns hints fuel ts.tail
      let (guard?, rest) ← behind (atWord "if") (test hints fuel) rest
      let ((), rest) ← colon hints false rest
      let (ss, rest) ← body p hints fuel (wordStatement "case") (lineOf ts) rest
      let (more, rest) ← cases p hints fuel rest
      let first := withValues p ts (case names guard? ss) guard?.toList
      match catches? with
      | some what =>
        if guard?.isNone && !more.isEmpty then
          return (misplaced s!"{what} makes remaining patterns unreachable" (lineOf ts) :: more, rest)
        else return (first :: more, rest)
      | none => return (first :: more, rest)
    else return ([], ts)
termination_by structural fuel

/-- Reads a statement, or a line of small ones. -/
def statement (p : Place) (hints : Bool) (fuel : Nat) : Reader (List Statement) := fun ts =>
  match fuel with
  | 0 => .error (.unexpected ts)
  | fuel + 1 =>
    let start := lineOf ts
    if atWord "if" ts then do
      let (e, rest) ← test hints fuel ts.tail
      let ((), rest) ← colon hints false rest
      let (ss, rest) ← body p hints fuel (wordStatement "if") start rest
      let (more, rest) ← others p true hints fuel rest
      return ([withValues p ts (branch e ss more) [e]], rest)
    else if atWord "while" ts then do
      let (e, rest) ← test hints fuel ts.tail
      let ((), rest) ← colon hints false rest
      let (ss, rest) ← body p.loop hints fuel (wordStatement "while") start rest
      let (more, rest) ← others p false hints fuel rest
      return ([withValues p ts (whileLoop e ss more) [e]], rest)
    else if atWord "for" ts then do
      let (bound, rest) ← targets hints fuel ts.tail
      let ((), rest) ← word "in" rest
      let (e, rest) ← row hints fuel rest
      let ((), rest) ← colon hints false rest
      let (ss, rest) ← body p.loop hints fuel (wordStatement "for") start rest
      let (more, rest) ← others p false hints fuel rest
      return ([withValues p ts (loop e bound ss more) [e]], rest)
    else if atWord "with" ts then do
      let (parts, rest) ← resources hints fuel ts.tail
      let ((), rest) ← colon hints false rest
      let (ss, rest) ← body p hints fuel (wordStatement "with") start rest
      return ([withValues p ts (resource parts ss) (parts.map Prod.fst)], rest)
    else if isSelection hints fuel ts then do
      let (e, rest) ← row hints fuel ts.tail
      let ((), rest) ← symbol ":" rest
      let (ss, rest) ← cases p hints fuel (rest.drop 2)
      match rest with
      | ⟨.dedent, _, _⟩ :: rest => return ([withValues p ts (select e ss) [e]], rest)
      | rest => throw (.unexpected rest)
    else if atWord "try" ts then tried p hints fuel start ts.tail
    else if atWord "def" ts then function p hints fuel start [] ts.tail
    else if atWord "class" ts then classBody p hints fuel start [] ts.tail
    else if atSymbol "@" ts then decorated p hints fuel [] ts
    else if atWord "async" ts then
      let inner := ts.tail
      if atWord "def" inner then function p hints fuel start [asynchronous] inner.tail
      else if atWord "for" inner || atWord "with" inner then do
        let w := if atWord "for" inner then "for" else "with"
        let (ss, rest) ← statement p hints fuel inner
        if p.inFunction then return (ss, rest)
        else return (misplaced s!"'async {w}' outside async function" start :: ss, rest)
      else .error (.unexpected inner)
    else line p hints fuel ts
termination_by structural fuel

end

mutual

/-- The fault of the first statement that stands where it must not. -/
def misplacement? : Statement → Option Fault
  | misplaced complaint line => some (.inLine complaint line)
  | define _ _ _ body => misplacementAmong? body
  | cls _ _ _ body => misplacementAmong? body
  | branch _ yes no => (misplacementAmong? yes).or (misplacementAmong? no)
  | loop _ _ body otherwise => (misplacementAmong? body).or (misplacementAmong? otherwise)
  | resource _ body => misplacementAmong? body
  | select _ cases => misplacementAmong? cases
  | case _ _ body => misplacementAmong? body
  | future _ line => some (.inLine "from __future__ imports must occur at the beginning of the file" line)
  | attempt body handlers otherwise always =>
    (misplacementAmong? body).or ((misplacementAmong? handlers).or
      ((misplacementAmong? otherwise).or (misplacementAmong? always)))
  | handler _ _ body => misplacementAmong? body
  | _ => none

/-- The first such fault among some statements. -/
def misplacementAmong? : List Statement → Option Fault
  | [] => none
  | s :: ss => (misplacement? s).or (misplacementAmong? ss)

end

/-- The statements behind those that ask for features, which come first but for a description. -/
def behindFutures (ss : List Statement) : List Statement :=
  let isFuture : Statement → Bool
    | future _ _ => true
    | _ => false
  match ss with
  | evaluate (.literal (.text _)) :: rest => rest.dropWhile isFuture
  | ss => ss.dropWhile isFuture

end Statement

/-- The mark that may stand before a script. -/
def byteOrderMark : Char := Char.ofNat 0xfeff

/-- A script with the end of its last line. One that ends with both marks of a line end gets another line. -/
def closed (cs : List Char) : List Char :=
  let isClosed := match cs.reverse with
    | '\n' :: '\r' :: _ => false
    | '\n' :: _ => true
    | '\r' :: _ => true
    | _ => false
  if isClosed then cs else cs ++ ['\n']

/-- Reads a script. -/
def read (cs : List Char) : Except Fault (List Statement) := do
  let isMarked := cs.head? = some byteOrderMark
  let cs := if isMarked then cs.tail else cs
  if cs.contains '\x00' then throw Expression.nullFault
  let cs ← Encoding.decode isMarked (Text.splitOn (· = '\n') (Tokens.unifyLines cs)) cs
  let ts := Tokens.read (closed cs)
  let ss ← Reader.run ts fun hints tokens => do
    let (ss, rest) ← Statement.block .top hints (Reader.fuelFor tokens) tokens
    match rest with
    | [⟨.endOfScript, _, _⟩] => return ss
    | rest => throw (.unexpected rest)
  match Statement.misplacementAmong? (Statement.behindFutures ss) with
  | some f => throw f
  | none => return ss

end Errata.Script
