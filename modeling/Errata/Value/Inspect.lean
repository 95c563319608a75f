import Errata.Text.Integer
import Errata.Text.Quoted
import Errata.Value.Basic

/-!
# How a value is shown

A value is inspected, which shows it as it would be written in a declaration, or printed, which shows
a text as itself and a failure as its message, or formatted, which prints it unless the class of an object
has its own way. A value cannot be shown that holds a number of too many digits or goes too deep.
-/

namespace Errata

/-- The items between two brackets, with commas. -/
def bracketed (left right : String) (items : List String) : String :=
  left ++ ", ".intercalate items ++ right

/-- A row of inspected arguments between parentheses; a single one keeps its comma. -/
def tupled : List String → String
  | [item] => "(" ++ item ++ ",)"
  | items => bracketed "(" ")" items

/-- A keyword with its inspected value. -/
def assigned (entry : String × String) : String := entry.1 ++ "=" ++ entry.2

/-- Why a value cannot be shown. -/
inductive InspectFault where
  | tooDeep
  | tooLong
  deriving DecidableEq, Repr

/-- What went wrong, in words. -/
def InspectFault.message : InspectFault → String
  | tooDeep => "maximum recursion depth exceeded while calling a Python object"
  | tooLong =>
    s!"Exceeds the limit ({Text.maxDigits} digits) for integer string conversion; " ++
      "use sys.set_int_max_str_digits() to increase the limit"

/-- The type of the fault. -/
def InspectFault.type : InspectFault → String
  | tooDeep => "RecursionError"
  | tooLong => "ValueError"

namespace Value

mutual

/-- A value as it would be written in a declaration. -/
def inspect : Value → String
  | null => "None"
  | bool true => "True"
  | bool false => "False"
  | int n => toString n
  | float x => x.text
  | text s => Text.quoted s
  | status h => s!"<HTTPStatus.{h.name}: {h.code}>"
  | disposition d => s!"<{d.shown}: {Text.quoted d.text}>"
  | list vs => bracketed "[" "]" (inspectAll vs)
  | tuple vs => tupled (inspectAll vs)
  | dict es => bracketed "\x7b" "\x7d" (inspectEntries es)
  | bytes bs => Text.quotedBytes bs
  | failure kind args => bracketed (kind.name ++ "(") ")" (inspectAll args)
  | detail v => "Detail(field=" ++ inspect v ++ ")"
  | object o => o.inspected
  | note args keywords =>
    bracketed "json_error(" ")" (inspectAll args ++ (inspectKeywords keywords).map assigned)

/-- The items of a row, inspected. -/
def inspectAll : List Value → List String
  | [] => []
  | v :: vs => inspect v :: inspectAll vs

/-- The entries of a dictionary, inspected. -/
def inspectEntries : List (Value × Value) → List String
  | [] => []
  | (k, v) :: es => (inspect k ++ ": " ++ inspect v) :: inspectEntries es

/-- The keywords of an annotation with their values inspected. -/
def inspectKeywords : List (String × Value) → List (String × String)
  | [] => []
  | (k, v) :: es => (k, inspect v) :: inspectKeywords es

end

/-- A step of an inspection, where some steps may still stand in each other. -/
def deeperBy (count levels : Nat) (rest : Nat → Option InspectFault) : Option InspectFault :=
  if levels < count then some .tooDeep else rest (levels - count)

/-- The number has too many digits to be written. -/
def isLong (n : Int) : Bool := Text.maxDigits < (Nat.toDigits 10 n.natAbs).length

/-- A number has too many digits from a power of ten on. -/
theorem isLong_iff {n : Int} : isLong n = true ↔ Nat.pow 10 Text.maxDigits ≤ n.natAbs := by
  have short := Nat.length_toDigits_le_iff (b := 10) (n := n.natAbs) (k := Text.maxDigits) (by decide) (by decide)
  rw [isLong, decide_eq_true_iff, ← Nat.not_le, short, Nat.not_lt, Nat.pow_eq]

mutual

/-- What keeps a value from being inspected, where some steps may still stand in each other. A record takes
more of them than a row. -/
def obstacle? (levels : Nat) : Value → Option InspectFault
  | int n => deeperBy 1 levels fun _ => if isLong n then some .tooLong else none
  | list vs => deeperBy 1 levels fun inner => obstacleAmong? inner vs
  | tuple vs => deeperBy 1 levels fun inner => obstacleAmong? inner vs
  | dict es => deeperBy 1 levels fun inner => obstacleInEntries? inner es
  | failure _ args => deeperBy 1 levels fun inner => obstacleAmong? inner args
  | detail v => deeperBy 4 levels fun inner => obstacle? inner v
  | note args keywords =>
    deeperBy 3 levels fun inner => (obstacleAmong? inner args).or (obstacleInKeywords? inner keywords)
  | _ => deeperBy 1 levels fun _ => none

/-- What keeps a row from being inspected. -/
def obstacleAmong? (levels : Nat) : List Value → Option InspectFault
  | [] => none
  | v :: vs => (obstacle? levels v).or (obstacleAmong? levels vs)

/-- What keeps the entries of a dictionary from being inspected. -/
def obstacleInEntries? (levels : Nat) : List (Value × Value) → Option InspectFault
  | [] => none
  | (k, v) :: es => ((obstacle? levels k).or (obstacle? levels v)).or (obstacleInEntries? levels es)

/-- What keeps keywords from being inspected. -/
def obstacleInKeywords? (levels : Nat) : List (String × Value) → Option InspectFault
  | [] => none
  | (_, v) :: es => (obstacle? levels v).or (obstacleInKeywords? levels es)

end

/-- How many steps of an inspection may stand in each other. -/
def maxInspectDepth : Nat := 985

/-- What keeps a value from being shown. -/
def unshown? (v : Value) : Option InspectFault := v.obstacle? maxInspectDepth

/-- A text about a value, unless the value cannot be shown. -/
def shownAs (v : Value) (text : String) : Except InspectFault String :=
  match v.unshown? with
  | some f => .error f
  | none => .ok text

/-- A value as it would be written in a declaration, unless it cannot be shown. -/
def inspect? (v : Value) : Except InspectFault String := v.shownAs v.inspect

/-- A value as it stands in prose. A failure is its argument, or all of them when there are several;
a failed key stays quoted. -/
def print : Value → String
  | text s => s
  | status h => toString h.code
  | disposition d => d.shown
  | failure _ [] => ""
  | failure .key [v] => v.inspect
  | failure _ [v] => v.print
  | failure _ args => (tuple args).inspect
  | detail v => "field=" ++ v.inspect
  | object o => o.printed
  | v => v.inspect

/-- A value as it stands inside a text that is put together: as in prose, unless its class says otherwise. -/
def format : Value → String
  | object o => o.formatted
  | v => v.print

/-- A value as it stands in prose, unless it cannot be shown. -/
def print? (v : Value) : Except InspectFault String := v.shownAs v.print

/-- A value as it stands inside a text that is put together, unless it cannot be shown. -/
def format? (v : Value) : Except InspectFault String := v.shownAs v.format

end Value

/-- An annotation as it would be written in a declaration. -/
def Annotation.inspect (a : Annotation) : String := a.toValue.inspect

end Errata
