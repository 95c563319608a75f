import Errata.Proofs.Json.RoundTrip
import Errata.Proofs.Text.CodePoint

/-!
# Which documents bytes can hold

The compact text of a document has the surrogates of the texts in the document, and no others
(`surrogates_compactChars`): nothing that is put around the texts is a surrogate, or makes one together with an end of
a text, and no escape takes one away. So bytes can hold the document just when they can hold each of its texts
(`isEncodable_compact_iff`). The induction follows the document; a part is looked at whatever follows it.
-/

namespace Errata.Json

open Text

mutual

/-- The texts of a document, those of its keys included. -/
def texts : Json → List String
  | str s => [s]
  | arr items => textsOfItems items
  | obj members => textsOfMembers members
  | _ => []

/-- The texts of a row. -/
def textsOfItems : List Json → List String
  | [] => []
  | j :: js => texts j ++ textsOfItems js

/-- The texts of the members of an object. -/
def textsOfMembers : List (String × Json) → List String
  | [] => []
  | (k, j) :: ms => k :: texts j ++ textsOfMembers ms

end

/-- The digits of a unit belong to no surrogate. -/
lemma isPlain_of_mem_hexDigits {w n : Nat} {c : Char} (member : c ∈ hexDigits w n) : IsPlain c := by
  have digits : ∀ m < 16, (hexDigit m).toNat < surrogateShift := by decide
  induction w generalizing n with
  | zero => cases member
  | succ w ih =>
    rw [hexDigits, List.mem_append, List.mem_singleton] at member
    obtain member | rfl := member
    · exact ih member
    · exact isPlain_of_lt (digits _ (Nat.mod_lt _ (by decide)))

/-- A character is written as it is, unless neither it nor its escape belongs to a surrogate. -/
lemma escapeChar_cases (c : Char) :
    escapeChar c = [c] ∨ IsPlain c ∧ escapeChar c ≠ [] ∧ ∀ d ∈ escapeChar c, IsPlain d := by
  have slash : IsPlain '\\' := isPlain_of_lt (by decide)
  unfold escapeChar
  cases short : shortEscape? c with
  | some e =>
    have ascii : c.toNat < surrogateShift ∧ e.toNat < surrogateShift := by
      unfold shortEscape? at short
      split_ifs at short
      all_goals subst_vars; cases short; decide
    refine .inr ⟨isPlain_of_lt ascii.1, List.cons_ne_nil _ _, ?_⟩
    exact List.forall_mem_cons.2 ⟨slash, List.forall_mem_singleton.2 (isPlain_of_lt ascii.2)⟩
  | none =>
    dsimp only
    split_ifs with control
    · refine .inr ⟨isPlain_of_lt (control.trans (by decide)), List.cons_ne_nil _ _, ?_⟩
      exact List.forall_mem_cons.2 ⟨slash, List.forall_mem_cons.2 ⟨isPlain_of_lt (by decide),
        fun _ member => isPlain_of_mem_hexDigits member⟩⟩
    · exact .inl rfl

/-- What a character is written as begins with the character itself or with a plain one. -/
lemma paired?_head_escapeChar {c d : Char} (alone : paired? c d = none) (cs : List Char) :
    ∀ e ∈ (escapeChar d ++ cs).head?, paired? c e = none := by
  intro e first
  obtain same | ⟨-, nonempty, plain⟩ := escapeChar_cases d
  · rw [same] at first
    cases first
    exact alone
  · rw [List.head?_append_of_ne_nil _ nonempty] at first
    exact paired?_of_isPlain c (plain e (List.mem_of_mem_head? first))

/-- A character that stands for itself adds no surrogate, however it is written. -/
lemma surrogates_escapeChar_append {c : Char} {cs : List Char} (alone : ∀ d ∈ cs.head?, paired? c d = none) :
    surrogates (escapeChar c ++ cs) = surrogates cs := by
  obtain same | ⟨-, -, plain⟩ := escapeChar_cases c
  · rw [same]
    exact surrogates_cons alone
  · exact surrogates_append_of_unmarked (fun d member => (plain d member).1) cs

/-- Two characters that stand for something together are written as they are. -/
lemma escapeChar_of_paired? {c d : Char} {n : Nat} (pair : paired? c d = some n) :
    escapeChar c = [c] ∧ escapeChar d = [d] := by
  constructor
  · obtain same | ⟨plain, -⟩ := escapeChar_cases c
    · exact same
    · rw [paired?_of_ne plain.1] at pair
      cases pair
  · obtain same | ⟨plain, -⟩ := escapeChar_cases d
    · exact same
    · rw [paired?_of_isPlain c plain] at pair
      cases pair

/-- Escapes neither make nor take a surrogate. -/
lemma surrogates_flatMap_escapeChar (cs : List Char) : surrogates (cs.flatMap escapeChar) = surrogates cs := by
  -- A text is taken apart as its code points are: one character stands for itself, or two for one.
  induction cs using codePoints.induct with
  | case1 => rfl
  | case2 c =>
    have last : ∀ d ∈ ([] : List Char).head?, paired? c d = none := fun d there => by cases there
    exact (surrogates_escapeChar_append last).trans (surrogates_cons last).symm
  | case3 c d cs n pair ih =>
    obtain ⟨first, second⟩ := escapeChar_of_paired? pair
    rw [List.flatMap_cons, List.flatMap_cons, first, second]
    show (codePoints (c :: d :: cs.flatMap escapeChar)).filter isSurrogate =
      (codePoints (c :: d :: cs)).filter isSurrogate
    rw [codePoints, codePoints, pair]
    dsimp only
    rw [List.filter_cons, List.filter_cons, ← surrogates, ih, surrogates]
  | case4 c d cs pair ih =>
    have alone : ∀ e ∈ (d :: cs).head?, paired? c e = none := fun _ same => Option.some.inj same ▸ pair
    have behind : ∀ e ∈ ((d :: cs).flatMap escapeChar).head?, paired? c e = none :=
      paired?_head_escapeChar pair (cs.flatMap escapeChar)
    rw [List.flatMap_cons, surrogates_escapeChar_append behind, ih, surrogates_cons alone]

/-- The surrogates of a text between quotes are those of the text. -/
lemma surrogates_quote (s : String) (rest : List Char) :
    surrogates (quote s ++ rest) = surrogates s.toList ++ surrogates rest := by
  have plain : IsPlain '"' := isPlain_of_lt (by decide)
  have text : quote s ++ rest = '"' :: (s.toList.flatMap escapeChar ++ '"' :: rest) := by simp [quote]
  rw [← surrogates_flatMap_escapeChar s.toList, text, surrogates_cons fun d _ => paired?_of_ne plain.1 d, surrogates,
    codePoints_append_cons plain, List.filter_append, List.filter_cons_of_neg (by decide)]
  rfl

/-- The text of a number has no surrogate. -/
lemma surrogates_numeral {cs : List Char} (numeral : Reader.IsNumeral cs) (rest : List Char) :
    surrogates (cs ++ rest) = surrogates rest := by
  refine surrogates_append_of_unmarked (fun c member same => ?_) rest
  have digit := numeral.all c member
  rw [same] at digit
  exact absurd digit (by decide)

/-- The text of a word has no surrogate either. -/
lemma surrogates_append_of_ascii {cs : List Char} (ascii : ∀ c ∈ cs, c.toNat < 0x80) (rest : List Char) :
    surrogates (cs ++ rest) = surrogates rest :=
  surrogates_append_of_unmarked (fun c member => (isPlain_of_lt ((ascii c member).trans (by decide))).1) rest

/-- Nor has a sign. -/
lemma surrogates_cons_of_ascii {c : Char} (ascii : c.toNat < 0x80) (rest : List Char) :
    surrogates (c :: rest) = surrogates rest :=
  surrogates_append_of_ascii (List.forall_mem_singleton.2 ascii) rest

mutual

/-- The compact text of a document has the surrogates of its texts. -/
lemma surrogates_compactChars : ∀ (j : Json) (rest : List Char),
    surrogates (compactChars j ++ rest) = (texts j).flatMap (fun s => surrogates s.toList) ++ surrogates rest
  | .null, rest => surrogates_append_of_ascii (by simp [compactChars]) rest
  | .bool b, rest => surrogates_append_of_ascii (by cases b <;> simp [compactChars, boolChars]) rest
  | .int n, rest => surrogates_numeral (Reader.isNumeral_intChars n) rest
  | .real d, rest => surrogates_numeral (Reader.isNumeral_of_parts? d.valid).1 rest
  | .str s, rest => by rw [compactChars, surrogates_quote, texts, List.flatMap_singleton]
  | .arr items, rest => by
    have inner := surrogates_compactItems items (']' :: rest)
    rw [surrogates_cons_of_ascii (c := ']') (by decide)] at inner
    rw [compactChars, texts, ← inner, List.cons_append, surrogates_cons_of_ascii (by decide), List.append_assoc]
    rfl
  | .obj members, rest => by
    have inner := surrogates_compactMembers members ('}' :: rest)
    rw [surrogates_cons_of_ascii (c := '}') (by decide)] at inner
    rw [compactChars, texts, ← inner, List.cons_append, surrogates_cons_of_ascii (by decide), List.append_assoc]
    rfl

/-- The items have the surrogates of their texts. -/
lemma surrogates_compactItems : ∀ (js : List Json) (rest : List Char),
    surrogates (compactItems js ++ rest) =
      (textsOfItems js).flatMap (fun s => surrogates s.toList) ++ surrogates rest
  | [], rest => rfl
  | [j], rest => by
    rw [compactItems, textsOfItems, textsOfItems, List.append_nil]
    exact surrogates_compactChars j rest
  | j :: k :: js, rest => by
    rw [compactItems, textsOfItems, List.append_assoc, surrogates_compactChars j, List.cons_append,
      surrogates_cons_of_ascii (by decide), surrogates_compactItems (k :: js), List.flatMap_append, List.append_assoc]
    exact List.cons_ne_nil k js

/-- The members have the surrogates of their texts. -/
lemma surrogates_compactMembers : ∀ (ms : List (String × Json)) (rest : List Char),
    surrogates (compactMembers ms ++ rest) =
      (textsOfMembers ms).flatMap (fun s => surrogates s.toList) ++ surrogates rest
  | [], rest => rfl
  | [(k, j)], rest => by
    rw [compactMembers, textsOfMembers, textsOfMembers, List.append_nil, List.append_assoc, surrogates_quote,
      List.cons_append, surrogates_cons_of_ascii (by decide), surrogates_compactChars j, List.flatMap_cons,
      List.append_assoc]
  | (k, j) :: m :: ms, rest => by
    rw [compactMembers, textsOfMembers, List.append_assoc, surrogates_quote, List.cons_append,
      surrogates_cons_of_ascii (by decide), List.append_assoc, surrogates_compactChars j, List.cons_append,
      surrogates_cons_of_ascii (by decide), surrogates_compactMembers (m :: ms), List.cons_append, List.flatMap_cons,
      List.flatMap_append, List.append_assoc, List.append_assoc]
    exact List.cons_ne_nil m ms

end

/-- Bytes can hold every text of the document. -/
def Sendable (j : Json) : Prop := ∀ s ∈ texts j, isEncodable s = true

/-- Bytes can hold the text of a document just when they can hold the texts in it. -/
theorem isEncodable_compact_iff (j : Json) : isEncodable j.compact = true ↔ j.Sendable := by
  have whole := surrogates_compactChars j []
  rw [List.append_nil] at whole
  rw [isEncodable_iff, compact, String.toList_ofList, whole]
  simp [Sendable, isEncodable_iff, surrogates, codePoints]

end Errata.Json
