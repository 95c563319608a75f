import Errata.Proofs.Json.Reader
import Mathlib.Data.List.TakeWhile

/-!
# Reading what was written

The compact text of a document is read as that document, in which members under one key are merged
(`read?_compact`). The induction follows the document; a part is read back whatever follows it, as long
as that cannot belong to a number (`Ends`). Texts, numbers and characters each have their own lemma.
-/

namespace Errata.Json

mutual

/-- The document in which no object has a key twice: the last member under a key counts. -/
def merged : Json → Json
  | arr items => arr (mergedItems items)
  | obj members => Reader.object (mergedMembers members)
  | j => j

/-- The items, each with its members merged. -/
def mergedItems : List Json → List Json
  | [] => []
  | j :: js => merged j :: mergedItems js

/-- The members, each with the members of its document merged. -/
def mergedMembers : List (String × Json) → List (String × Json)
  | [] => []
  | (k, j) :: ms => (k, merged j) :: mergedMembers ms

end

namespace Reader

/-! ## Tokens -/

/-- A character that is not blank is the next token. -/
lemma token?_cons {c : Char} (solid : isBlank c = false) (cs : List Char) :
    token? (c :: cs) = some (c, cs) := by
  simp [token?, solid]

/-- Another character comes than the one that has to. -/
lemma expect?_other {c d : Char} (solid : isBlank d = false) (other : d ≠ c) (cs : List Char) :
    expect? c (d :: cs) = none := by
  simp [expect?, token?_cons solid, other]

/-! ## Texts -/

/-- A hexadecimal digit is read back. -/
lemma hexValue?_hexDigit : ∀ d < 16, hexValue? (Text.hexDigit d) = some d := by
  decide

/-- A UTF-16 unit is read back. -/
lemma unit?_hexDigits {n : Nat} (small : n < 0x10000) (cs : List Char) :
    unit? (Text.hexDigits 4 n ++ cs) = some (n, cs) := by
  have digit (m : Nat) : hexValue? (Text.hexDigit (m % 16)) = some (m % 16) :=
    hexValue?_hexDigit _ (Nat.mod_lt _ (by decide))
  simp only [Text.hexDigits, List.nil_append, List.cons_append, unit?, digit, bind, Option.bind, pure,
    Option.some.injEq, Prod.mk.injEq, and_true]
  omega

/-- A character is read back from its escape, or from itself. -/
lemma char?_escapeChar (c : Char) (cs : List Char) : char? (escapeChar c ++ cs) = some (c, cs) := by
  unfold escapeChar
  cases short : shortEscape? c with
  | some e =>
    have back : e ≠ 'u' ∧ shortEscaped? e = some c := by
      unfold shortEscape? at short
      split_ifs at short
      all_goals subst_vars; cases short; decide
    simp [char?, back]
  | none =>
    have plain : c ≠ '\\' := by
      rintro rfl
      cases short
    by_cases control : c.toNat < 0x20
    · -- A control character lies below the surrogates, so that one escape is enough for it.
      have single : ¬(0xD800 ≤ c.toNat) ∧ ¬(0xDC00 ≤ c.toNat) := by omega
      simp [char?, control, escapeUnit, escaped?, unit?_hexDigits (show c.toNat < 0x10000 by omega),
        single, Char.ofNat_toNat]
    · simp [char?, control, plain]

/-- An escaped character is no quote. -/
lemma head?_escapeChar (c : Char) (cs : List Char) : (escapeChar c ++ cs).head? ≠ some '"' := by
  unfold escapeChar
  cases short : shortEscape? c with
  | some e => simp
  | none =>
    have plain : c ≠ '"' := by
      rintro rfl
      cases short
    by_cases control : c.toNat < 0x20
    · simp [control, escapeUnit]
    · simpa [control] using plain

/-- A text between quotes has at least as many characters as it is made of. -/
lemma length_le_flatMap_escapeChar (s : List Char) : s.length ≤ (s.flatMap escapeChar).length := by
  induction s with
  | nil => simp
  | cons c s ih =>
    have escaped : 1 ≤ (escapeChar c).length := by
      unfold escapeChar
      cases shortEscape? c with
      | some e => simp
      | none => split_ifs <;> simp [escapeUnit]
    rw [List.flatMap_cons, List.length_append, List.length_cons]
    omega

/-- The characters of a text are read back up to the quote that ends it. -/
lemma chars?_flatMap_escapeChar (s : List Char) {n : Nat} (enough : s.length < n) (cs : List Char) :
    chars? n (s.flatMap escapeChar ++ '"' :: cs) = some (s, cs) := by
  induction s generalizing n with
  | nil =>
    cases n with
    | zero => cases enough
    | succ n => simp [chars?]
  | cons c s ih =>
    cases n with
    | zero => cases enough
    | succ n =>
      -- No escape begins with a quote, so that the text does not end here.
      rw [List.flatMap_cons, List.append_assoc, chars?, if_neg (head?_escapeChar c _)]
      simp [char?_escapeChar, ih (Nat.lt_of_succ_lt_succ enough)]

/-- A text is read back from between its quotes. -/
lemma string?_flatMap_escapeChar (s : String) (cs : List Char) :
    string? (s.toList.flatMap escapeChar ++ '"' :: cs) = some (s, cs) := by
  have short := length_le_flatMap_escapeChar s.toList
  have enough : s.toList.length < (s.toList.flatMap escapeChar ++ '"' :: cs).length := by
    rw [List.length_append, List.length_cons]
    omega
  rw [string?, chars?_flatMap_escapeChar s.toList enough]
  simp

/-! ## Numbers -/

/-- The digits of a natural number do not begin with a zero, unless it is zero. -/
lemma head?_toDigits {n : Nat} (positive : 0 < n) : (Nat.toDigits 10 n).head? ≠ some '0' := by
  induction n using Nat.strongRecOn with
  | ind n ih =>
    rw [Nat.toDigits_eq_if (by decide)]
    split_ifs with small
    · have : ∀ m < 10, 0 < m → Nat.digitChar m ≠ '0' := by decide
      simpa using this n small positive
    · have smaller := ih (n / 10) (by omega) (by omega)
      obtain ⟨c, cs, e⟩ := List.exists_cons_of_ne_nil (Nat.toDigits_ne_nil (n := n / 10) (b := 10))
      rw [e] at smaller ⊢
      exact smaller

/-- The digits of a natural number are read back. -/
lemma natural?_toDigits (n : Nat) : natural? (Nat.toDigits 10 n) = some n := by
  have digits : ∀ c ∈ Nat.toDigits 10 n, c.isDigit = true := fun c member =>
    Nat.isDigit_of_mem_toDigits (by decide) (by decide) member
  have whole : Number.whole? (Nat.toDigits 10 n) = some (Nat.toDigits 10 n, []) := by
    have split : spanDigits (Nat.toDigits 10 n) = (Nat.toDigits 10 n, []) := by
      rw [spanDigits, List.takeWhile_eq_self_iff.2 digits, List.dropWhile_eq_nil_iff.2 digits]
    rw [Number.whole?, split]
    -- Zero is written with one digit; in any other number a zero at the head would be refused.
    rcases Nat.eq_zero_or_pos n with rfl | positive
    · rfl
    · cases e : Nat.toDigits 10 n with
      | nil => exact absurd e Nat.toDigits_ne_nil
      | cons c cs =>
        have nonzero : c ≠ '0' := by
          rintro rfl
          exact head?_toDigits positive (by rw [e]; rfl)
        split
        all_goals simp_all
  rw [natural?, whole]
  exact congrArg some Nat.ofDigitChars_ten_toDigits

/-- A whole number that is not negative is written with its digits. -/
lemma intChars_ofNat (n : Nat) : intChars (Int.ofNat n) = Nat.toDigits 10 n :=
  Nat.toList_repr

/-- A negative number is written with a sign. -/
lemma intChars_negSucc (n : Nat) : intChars (Int.negSucc n) = '-' :: Nat.toDigits 10 (n + 1) := by
  show (Int.repr (Int.negSucc n)).toList = _
  simp [Int.repr]

/-- A digit belongs to a number. -/
lemma isNumberChar_of_isDigit {c : Char} (digit : c.isDigit = true) : isNumberChar c = true := by
  simp [isNumberChar, digit]

/-- A text belongs to a number when what follows its digits does. -/
lemma all_of_spanDigits {cs : List Char} (rest : ∀ c ∈ (spanDigits cs).2, isNumberChar c = true) :
    ∀ c ∈ cs, isNumberChar c = true := by
  intro c member
  rw [← List.takeWhile_append_dropWhile (p := Char.isDigit) (l := cs), List.mem_append] at member
  rcases member with digit | member
  · exact isNumberChar_of_isDigit (List.mem_takeWhile_imp digit)
  · exact rest c member

/-- The digits before the point are all that there are at the head. -/
lemma eq_spanDigits_of_whole? {cs : List Char} {p : List Char × List Char}
    (read : Number.whole? cs = some p) : p = spanDigits cs ∧ p.1 ≠ [] := by
  unfold Number.whole? at read
  split at read
  · cases read
  · rename_i split
    cases read
    exact ⟨split.symm, by simp⟩
  · cases read
  · rename_i full _ _
    cases read
    exact ⟨rfl, fun empty => full _ (Prod.ext empty rfl)⟩

/-- What follows the whole digits belongs to a number when what follows the fraction does. -/
lemma all_of_fraction? {cs : List Char} {p : List Char × List Char}
    (read : Number.fraction? cs = some p) (rest : ∀ c ∈ p.2, isNumberChar c = true) :
    ∀ c ∈ cs, isNumberChar c = true := by
  unfold Number.fraction? at read
  split at read
  · rename_i cs
    have span : p = spanDigits cs := by
      split at read
      · cases read
      · cases read
        rfl
    subst span
    exact List.forall_mem_cons.2 ⟨rfl, all_of_spanDigits rest⟩
  · cases read
    exact rest

/-- An exponent belongs to a number. -/
lemma all_of_exponent? {cs : List Char} {n : Int} (read : Number.exponent? cs = some n) :
    ∀ c ∈ cs, isNumberChar c = true := by
  unfold Number.exponent? at read
  split at read
  · simp
  · rename_i sign cs
    split_ifs at read with bad plus minus
    all_goals
      simp only [Bool.or_eq_true, Bool.not_eq_true', not_or, Bool.not_eq_false] at bad
      have digits : ∀ c ∈ cs, isNumberChar c = true := fun c member =>
        isNumberChar_of_isDigit (List.all_eq_true.1 bad.2 c member)
      have signed : isNumberChar sign = true := by
        subst sign
        rfl
      exact List.forall_mem_cons.2 ⟨rfl, List.forall_mem_cons.2 ⟨signed, digits⟩⟩
  · cases read

/-- The text of a number that is not whole, without its sign: a digit stands at its head, and it is
not the text of a whole number. -/
lemma unsigned_of_parts {negative : Bool} {cs : List Char}
    (valid : (Number.unsignedParts? negative cs).isSome = true) :
    (∃ c, cs.head? = some c ∧ c.isDigit = true) ∧ (∀ c ∈ cs, isNumberChar c = true) ∧
      natural? cs = none := by
  obtain ⟨parts, read⟩ := Option.isSome_iff_exists.1 valid
  unfold Number.unsignedParts? at read
  obtain ⟨⟨whole, rest⟩, readWhole, read⟩ := Option.bind_eq_some_iff.1 read
  obtain ⟨span, digits⟩ := eq_spanDigits_of_whole? readWhole
  dsimp only at read
  split_ifs at read with last
  · cases read
  obtain ⟨⟨fraction, exponent⟩, readFraction, read⟩ := Option.bind_eq_some_iff.1 read
  obtain ⟨n, readExponent, read⟩ := Option.bind_eq_some_iff.1 read
  rw [spanDigits, Prod.mk.injEq] at span
  refine ⟨?_, ?_, ?_⟩
  · -- There are digits in front of the point, so that one of them is the head.
    cases cs with
    | nil => exact absurd span.1 digits
    | cons c cs =>
      refine ⟨c, rfl, ?_⟩
      by_contra other
      rw [List.takeWhile_cons_of_neg other] at span
      exact digits span.1
  · refine all_of_spanDigits ?_
    rw [spanDigits, ← span.2]
    exact all_of_fraction? readFraction (all_of_exponent? readExponent)
  · -- A whole number ends with its digits, and something follows them here.
    obtain ⟨d, rest, rfl⟩ := List.exists_cons_of_ne_nil (mt List.isEmpty_iff.2 last)
    rw [natural?, readWhole]

/-- The text of a number: a digit or a sign stands at its head, and it has nothing but what numbers
have. -/
structure IsNumeral (cs : List Char) : Prop where
  head : ∃ c, cs.head? = some c ∧ (c.isDigit = true ∨ c = '-')
  all : ∀ c ∈ cs, isNumberChar c = true

/-- Digits are the text of a number, with or without a sign. -/
lemma isNumeral_intChars (n : Int) : IsNumeral (intChars n) := by
  have digits (m : Nat) : ∀ c ∈ Nat.toDigits 10 m, c.isDigit = true := fun c member =>
    Nat.isDigit_of_mem_toDigits (by decide) (by decide) member
  have all (m : Nat) : ∀ c ∈ Nat.toDigits 10 m, isNumberChar c = true := fun c member =>
    isNumberChar_of_isDigit (digits m c member)
  cases n with
  | ofNat m =>
    rw [intChars_ofNat]
    obtain ⟨c, cs, e⟩ := List.exists_cons_of_ne_nil (Nat.toDigits_ne_nil (n := m) (b := 10))
    exact ⟨⟨c, by rw [e]; rfl, .inl (digits m c (by rw [e]; exact List.mem_cons_self))⟩, all m⟩
  | negSucc m =>
    rw [intChars_negSucc]
    exact ⟨⟨'-', rfl, .inr rfl⟩, List.forall_mem_cons.2 ⟨rfl, all _⟩⟩

/-- A text without a sign is read by its digits. -/
lemma whole?_of_head? {cs : List Char} (unsigned : cs.head? ≠ some '-') :
    whole? cs = (natural? cs).map Int.ofNat := by
  unfold whole?
  split
  · exact absurd rfl unsigned
  · rfl

/-- A whole number is read back. -/
lemma numeral?_intChars (n : Int) : numeral? (intChars n) = some (.int n) := by
  have read : whole? (intChars n) = some n := by
    cases n with
    | ofNat m =>
      rw [intChars_ofNat, whole?_of_head?, natural?_toDigits]
      · rfl
      · intro sign
        have := Nat.isDigit_of_mem_toDigits (by decide) (by decide) (List.mem_of_head? sign)
        cases this
    | negSucc m =>
      rw [intChars_negSucc]
      show (natural? (Nat.toDigits 10 (m + 1))).map _ = _
      rw [natural?_toDigits]
      rfl
  rw [numeral?, read]

/-- The text of a number that is not whole is one of a number, but not of a whole one. -/
lemma isNumeral_of_parts? {cs : List Char} (valid : (Number.parts? cs).isSome = true) :
    IsNumeral cs ∧ whole? cs = none := by
  unfold Number.parts? at valid
  split at valid
  · rename_i cs
    obtain ⟨-, all, other⟩ := unsigned_of_parts valid
    refine ⟨⟨⟨'-', rfl, .inr rfl⟩, List.forall_mem_cons.2 ⟨rfl, all⟩⟩, ?_⟩
    show (natural? cs).map _ = _
    rw [other]
    rfl
  · obtain ⟨⟨c, head, digit⟩, all, other⟩ := unsigned_of_parts valid
    refine ⟨⟨⟨c, head, .inl digit⟩, all⟩, ?_⟩
    have unsigned : c ≠ '-' := by
      rintro rfl
      cases digit
    rw [whole?_of_head? (by simpa [head] using unsigned), other]
    rfl

/-- A number that is not whole is read back. -/
lemma numeral?_decimal (d : Decimal) : numeral? d.chars = some (.real d) := by
  rw [numeral?, (isNumeral_of_parts? d.valid).2]
  exact dif_pos d.valid

/-- What follows cannot belong to a number. -/
def Ends (cs : List Char) : Prop := ∀ c, cs.head? = some c → isNumberChar c = false

/-- A number is read back whatever follows, if that cannot belong to it. -/
lemma number?_append {cs rest : List Char} {j : Json} (all : ∀ c ∈ cs, isNumberChar c = true)
    (value : numeral? cs = some j) (ends : Ends rest) : number? (cs ++ rest) = some (j, rest) := by
  have none : rest.takeWhile isNumberChar = [] ∧ rest.dropWhile isNumberChar = rest := by
    cases rest with
    | nil => simp
    | cons c rest => simp [ends c rfl]
  rw [number?, List.takeWhile_append_of_pos all, List.dropWhile_append_of_pos all, none.1, none.2,
    List.append_nil, value]
  rfl

/-! ## Documents -/

/-- The characters that are blank, or that something other than a number begins or ends with. -/
def marks : List Char := ['"', '[', ']', '{', 'n', 't', 'f', ' ', '\t', '\n', '\r']

/-- None of these characters stands at the head of a number. -/
lemma IsNumeral.unmarked {cs : List Char} (numeral : IsNumeral cs) :
    ∃ c cs', cs = c :: cs' ∧ ∀ d ∈ marks, d ≠ c := by
  obtain ⟨c, head, sign⟩ := numeral.head
  obtain ⟨cs', rfl⟩ := List.head?_eq_some_iff.1 head
  have plain : ∀ d ∈ marks, d.isDigit = false ∧ d ≠ '-' := by simp [marks]
  refine ⟨c, cs', rfl, ?_⟩
  rintro d special rfl
  obtain ⟨noDigit, noSign⟩ := plain _ special
  rcases sign with digit | same
  · rw [noDigit] at digit
    cases digit
  · exact noSign same

/-- A character that is none of these is not blank. -/
lemma isBlank_of_unmarked {c : Char} (other : ∀ d ∈ marks, d ≠ c) : isBlank c = false := by
  have solid : ∀ d ∈ [' ', '\t', '\n', '\r'], c ≠ d := fun d blank =>
    (other d (List.mem_of_mem_drop (i := 7) blank)).symm
  simp_all [isBlank]

/-- A number stands where a document may. -/
lemma document?_number {cs rest : List Char} {j : Json} (numeral : IsNumeral cs)
    (value : numeral? cs = some j) (ends : Ends rest) (n : Nat) :
    document? (n + 1) (cs ++ rest) = some (j, rest) := by
  obtain ⟨c, cs, rfl, other⟩ := numeral.unmarked
  have solid := isBlank_of_unmarked other
  have read := number?_append numeral.all value ends
  simp only [marks, List.forall_mem_cons, List.not_mem_nil, false_imp_iff, implies_true,
    and_true] at other
  have atom : atom? (c :: (cs ++ rest)) = some (j, rest) := by
    rw [atom?]
    simpa [other] using read
  rw [document?, List.cons_append, token?_cons solid]
  simpa [other, Ne.symm] using atom

/-- A character that no number has ends one. -/
lemma ends_cons {c : Char} (other : isNumberChar c = false) (cs : List Char) : Ends (c :: cs) := by
  rintro _ ⟨⟩
  exact other

/-- At the head of a document stands a character that is not blank and ends no list. -/
lemma exists_head_compactChars (j : Json) :
    ∃ c cs, compactChars j = c :: cs ∧ isBlank c = false ∧ c ≠ ']' := by
  have numeral {cs : List Char} (h : IsNumeral cs) :
      ∃ c cs', cs = c :: cs' ∧ isBlank c = false ∧ c ≠ ']' := by
    obtain ⟨c, cs', e, other⟩ := h.unmarked
    exact ⟨c, cs', e, isBlank_of_unmarked other, (other ']' (by decide)).symm⟩
  cases j with
  | null => exact ⟨'n', _, rfl, rfl, by decide⟩
  | bool b => cases b <;> exact ⟨_, _, rfl, rfl, by decide⟩
  | int n => exact numeral (isNumeral_intChars n)
  | real d => exact numeral (isNumeral_of_parts? d.valid).1
  | str s => exact ⟨'"', _, rfl, rfl, by decide⟩
  | arr items => exact ⟨'[', _, rfl, rfl, by decide⟩
  | obj members => exact ⟨'{', _, rfl, rfl, by decide⟩

/-- A list with items does not end before the first. -/
lemma expect?_compactItems (j : Json) (js : List Json) (cs : List Char) :
    expect? ']' (compactItems (j :: js) ++ cs) = none := by
  obtain ⟨c, head, e, solid, other⟩ := exists_head_compactChars j
  cases js <;> simp only [compactItems, e] <;> exact expect?_other solid other _

mutual

/-- A document is read back from its compact text, whatever follows. -/
lemma document?_compactChars : ∀ (j : Json) (n : Nat) (rest : List Char),
    (compactChars j).length ≤ n → Ends rest →
    document? n (compactChars j ++ rest) = some (merged j, rest)
  | .null, _ + 1, _, _, _ => rfl
  | .bool false, _ + 1, _, _, _ => rfl
  | .bool true, _ + 1, _, _, _ => rfl
  | .int m, n + 1, rest, _, ends =>
    document?_number (isNumeral_intChars m) (numeral?_intChars m) ends n
  | .real d, n + 1, rest, _, ends =>
    document?_number (isNumeral_of_parts? d.valid).1 (numeral?_decimal d) ends n
  | .str s, n + 1, rest, _, _ => by
    simp [compactChars, quote, document?, token?, isBlank, string?_flatMap_escapeChar, merged]
  | .arr [], n + 1, rest, _, _ => by
    simp [compactChars, compactItems, document?, token?, isBlank, expect?, merged, mergedItems]
  | .arr (j :: js), n + 1, rest, enough, _ => by
    have size : (compactItems (j :: js)).length < n := by
      simp only [compactChars, List.length_append, List.length_cons] at enough
      omega
    have items := items?_compactItems (j :: js) n rest size (by simp)
    have more := expect?_compactItems j js (']' :: rest)
    simp [compactChars, document?, token?, isBlank, more, items, merged]
  | .obj [], n + 1, rest, _, _ => by
    simp [compactChars, compactMembers, document?, token?, isBlank, expect?, merged, mergedMembers]
  | .obj ((k, j) :: ms), n + 1, rest, enough, _ => by
    have size : (compactMembers ((k, j) :: ms)).length < n := by
      simp only [compactChars, List.length_append, List.length_cons] at enough
      omega
    have members := members?_compactMembers ((k, j) :: ms) n rest size (by simp)
    have more : expect? '}' (compactMembers ((k, j) :: ms) ++ '}' :: rest) = none := by
      cases ms <;> simp [compactMembers, quote, expect?, token?, isBlank]
    simp [compactChars, document?, token?, isBlank, more, members, merged]
  | j, 0, rest, enough, _ => by
    obtain ⟨c, cs, e, -, -⟩ := exists_head_compactChars j
    rw [e] at enough
    cases enough

/-- The items of a list are read back up to its end. -/
lemma items?_compactItems : ∀ (js : List Json) (n : Nat) (rest : List Char),
    (compactItems js).length < n → js ≠ [] →
    items? n (compactItems js ++ ']' :: rest) = some (mergedItems js, rest)
  | [], _, _, _, empty => absurd rfl empty
  | [j], n + 1, rest, enough, _ => by
    have first := document?_compactChars j n (']' :: rest) (by
      simpa [compactItems, Nat.lt_succ_iff] using enough) (ends_cons rfl _)
    simp [compactItems, items?, first, token?, isBlank, mergedItems]
  | j :: k :: js, n + 1, rest, enough, _ => by
    have size : (compactChars j).length + 1 + (compactItems (k :: js)).length < n + 1 := by
      simp only [compactItems, List.length_append, List.length_cons] at enough ⊢
      omega
    have first := document?_compactChars j n (',' :: (compactItems (k :: js) ++ ']' :: rest))
      (by omega) (ends_cons rfl _)
    have others := items?_compactItems (k :: js) n rest (by omega) (by simp)
    simp [compactItems, items?, first, others, token?, isBlank, mergedItems]

/-- The members of an object are read back up to its end. -/
lemma members?_compactMembers : ∀ (ms : List (String × Json)) (n : Nat) (rest : List Char),
    (compactMembers ms).length < n → ms ≠ [] →
    members? n (compactMembers ms ++ '}' :: rest) = some (mergedMembers ms, rest)
  | [], _, _, _, empty => absurd rfl empty
  | [(k, j)], n + 1, rest, enough, _ => by
    have size : (compactChars j).length ≤ n := by
      simp only [compactMembers, List.length_append, List.length_cons] at enough
      omega
    have first := document?_compactChars j n ('}' :: rest) size (ends_cons rfl _)
    simp [compactMembers, quote, members?, string?_flatMap_escapeChar, first, token?, expect?, isBlank,
      mergedMembers]
  | (k, j) :: m :: ms, n + 1, rest, enough, _ => by
    have size : (compactChars j).length + 1 + (compactMembers (m :: ms)).length < n + 1 := by
      simp only [compactMembers, List.length_append, List.length_cons] at enough ⊢
      omega
    have first := document?_compactChars j n (',' :: (compactMembers (m :: ms) ++ '}' :: rest))
      (by omega) (ends_cons rfl _)
    have others := members?_compactMembers (m :: ms) n rest (by omega) (by simp)
    simp [compactMembers, quote, members?, string?_flatMap_escapeChar, first, others, token?, expect?,
      isBlank, mergedMembers]

end

end Reader

mutual

/-- Where no object has a key twice, nothing is merged. -/
lemma merged_of_wellFormed : ∀ {j : Json}, j.WellFormed → merged j = j
  | null, _ | bool _, _ | int _, _ | real _, _ | str _, _ => rfl
  | arr items, wf => by rw [merged, mergedItems_of_wellFormed wf]
  | obj members, ⟨nodup, wf⟩ => by
    rw [merged, mergedMembers_of_wellFormed wf, Reader.object, OrderedMap.entries_ofList nodup]

/-- Well-formed items stay as they are. -/
lemma mergedItems_of_wellFormed : ∀ {items : List Json}, WellFormedItems items → mergedItems items = items
  | [], _ => rfl
  | j :: items, ⟨wf, others⟩ => by
    rw [mergedItems, merged_of_wellFormed wf, mergedItems_of_wellFormed others]

/-- Well-formed members stay as they are. -/
lemma mergedMembers_of_wellFormed :
    ∀ {members : List (String × Json)}, WellFormedMembers members → mergedMembers members = members
  | [], _ => rfl
  | (k, j) :: members, ⟨wf, others⟩ => by
    rw [mergedMembers, merged_of_wellFormed wf, mergedMembers_of_wellFormed others]

end

/-- The compact text of a document is read as the document, with its members merged. -/
lemma read?_compact (j : Json) : read? (compact j) = some (merged j) := by
  have whole := Reader.document?_compactChars j (compactChars j).length [] le_rfl nofun
  rw [List.append_nil] at whole
  unfold read? compact
  rw [String.toList_ofList, whole]
  rfl

end Errata.Json
