import Errata.Script.Expression
import Errata.Text.Blank
import Errata.Text.Quoted

/-!
# Handlers

A tag that begins with an at sign may name a handler: a dotted name, a list of arguments in brackets, or
both; or any other constant. Arguments and constants are expressions of a script, which have to be
readable.
-/

namespace Errata.Console

/-- Why the handler of a tag cannot be read. -/
structure HandlerFault where
  expression : String
  handler : String
  complaint : String
  deriving DecidableEq, Repr

/-- What went wrong, in words. -/
def HandlerFault.message (f : HandlerFault) : String :=
  s!"error parsing {Text.quoted f.expression} in {Text.quoted f.handler}; {f.complaint}"

namespace Handler

/-- A character of a dotted name. -/
def isNameChar (c : Char) : Bool := c = '.' || Text.isNameTail c

/-- The expression in a handler: its arguments if it is a name with arguments, nothing if it is only a
name, and else all of it. -/
def expression? (cs : List Char) : Option (List Char) :=
  let name := cs.takeWhile isNameChar
  let rest := cs.drop name.length
  match rest with
  | [] => none
  | c :: _ =>
    if c = '(' && rest.getLast? == some ')' && !rest.contains '\n' then some rest else some cs

/-- A handler can be read. -/
def check (handler : String) : Except HandlerFault Unit :=
  match expression? (Text.trimBy Text.isBlank handler.toList) with
  | none => .ok ()
  | some cs =>
    match Script.Expression.read (cs.dropWhile fun c => c = ' ' || c = '\t') with
    | .ok _ => .ok ()
    | .error f => .error ⟨String.ofList cs, handler, f.complaint⟩

end Handler

end Errata.Console
