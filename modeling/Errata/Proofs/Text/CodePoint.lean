import Errata.Text.Utf8
import Mathlib

/-!
# How code points are written

Every row of code points is read back from its text (`codePoints_flatMap_ofCodePoint`), so that no two rows have one
text. Where a text is put together of others, its code points are those of the parts, as long as no part ends with a
mark whose character begins the next one; a character that belongs to no surrogate keeps the parts apart
(`codePoints_append_cons`). The text can be written as bytes just when none of its code points is a surrogate
(`surrogateRun?_eq_none_iff`).
-/

namespace Errata.Text

lemma isSurrogate_eq_false_iff {n : Nat} : isSurrogate n = false ↔ n < 0xD800 ∨ 0xDFFF < n := by
  rw [isSurrogate, Bool.and_eq_false_iff, decide_eq_false_iff_not, decide_eq_false_iff_not, Nat.not_le, Nat.not_le]

/-- A character is no surrogate. -/
lemma isSurrogate_toNat (c : Char) : isSurrogate c.toNat = false := by
  have valid : c.toNat < 0xD800 ∨ 0xDFFF < c.toNat ∧ c.toNat < 0x110000 := c.valid
  rw [isSurrogate_eq_false_iff]
  omega

/-- The number of the character that has a number. -/
lemma toNat_ofNat {n : Nat} (small : n < 0x110000) (other : isSurrogate n = false) : (Char.ofNat n).toNat = n := by
  have valid : n.isValidChar := by
    rw [isSurrogate_eq_false_iff] at other
    rw [Nat.isValidChar]
    omega
  rw [Char.ofNat, dif_pos valid]
  rfl

/-- A character stands for itself where what follows it does not stand for something together with it. -/
lemma codePoints_cons {c : Char} {cs : List Char} (alone : ∀ d ∈ cs.head?, paired? c d = none) :
    codePoints (c :: cs) = c.toNat :: codePoints cs := by
  cases cs with
  | nil => rfl
  | cons d cs => rw [codePoints, alone d rfl]

/-- Only the mark stands for something together with another character. -/
lemma paired?_of_ne {c : Char} (unmarked : c ≠ mark) (d : Char) : paired? c d = none := if_pos unmarked

/-- The character of a surrogate. -/
lemma surrogate?_ofNat {n : Nat} (surrogate : isSurrogate n = true) :
    surrogate? (Char.ofNat (surrogateShift + n)) = some n ∧ Char.ofNat (surrogateShift + n) ≠ mark := by
  have range : 0xD800 ≤ n ∧ n ≤ 0xDFFF := by simpa [isSurrogate] using surrogate
  have number : (Char.ofNat (surrogateShift + n)).toNat = surrogateShift + n := by
    rw [surrogateShift]
    refine toNat_ofNat (by omega) (isSurrogate_eq_false_iff.2 (.inr ?_))
    omega
  constructor
  · rw [surrogate?, number, Nat.add_sub_cancel_left, surrogate]
    simp
  · intro same
    have last : mark.toNat = 0x10FFFF := by decide
    rw [same, last, surrogateShift] at number
    omega

/-- Code points are read back from their text. -/
theorem codePoints_flatMap_ofCodePoint (ns : List Nat) (valid : ∀ n ∈ ns, n < 0x110000) :
    codePoints (ns.flatMap ofCodePoint) = ns := by
  induction ns with
  | nil => rfl
  | cons n ns ih =>
    obtain ⟨small, valid⟩ := List.forall_mem_cons.1 valid
    rw [List.flatMap_cons, ofCodePoint]
    split_ifs with surrogate last
    · obtain ⟨found, other⟩ := surrogate?_ofNat surrogate
      have pair : paired? mark (Char.ofNat (surrogateShift + n)) = some n := by
        rw [paired?, if_neg (not_not_intro rfl), if_neg other, found]
      rw [List.cons_append, List.cons_append, List.nil_append, codePoints, pair, ih valid]
    · have pair : paired? mark mark = some mark.toNat := by
        rw [paired?, if_neg (not_not_intro rfl), if_pos rfl]
      rw [List.cons_append, List.cons_append, List.nil_append, codePoints, pair, ih valid, last]
    · have number := toNat_ofNat small (Bool.eq_false_iff.2 surrogate)
      have unmarked : Char.ofNat n ≠ mark := by
        intro same
        rw [same] at number
        exact last number.symm
      rw [List.cons_append, List.nil_append, codePoints_cons fun d _ => paired?_of_ne unmarked d, number, ih valid]

/-- The character belongs to no surrogate. -/
def IsPlain (c : Char) : Prop := c ≠ mark ∧ surrogate? c = none

/-- The characters that belong to surrogates are the last ones. -/
lemma isPlain_of_lt {c : Char} (small : c.toNat < surrogateShift) : IsPlain c := by
  constructor
  · rintro rfl
    exact absurd small (by decide)
  · rw [surrogate?, if_neg]
    rw [Bool.and_eq_true, decide_eq_true_eq, not_and]
    exact fun large => absurd small (Nat.not_lt.2 large)

/-- A plain character stands for nothing together with one before it. -/
lemma paired?_of_isPlain (c : Char) {d : Char} (plain : IsPlain d) : paired? c d = none := by
  rw [paired?, if_neg plain.1, plain.2]
  split_ifs <;> rfl

/-- A plain character keeps the code points before it and those behind it apart. -/
lemma codePoints_append_cons {c : Char} (plain : IsPlain c) (cs rest : List Char) :
    codePoints (cs ++ c :: rest) = codePoints cs ++ c.toNat :: codePoints rest := by
  have behind : codePoints (c :: rest) = c.toNat :: codePoints rest :=
    codePoints_cons fun d _ => paired?_of_ne plain.1 d
  induction cs using codePoints.induct with
  | case1 => exact behind
  | case2 d =>
    have alone : ∀ e ∈ (c :: rest).head?, paired? d e = none :=
      fun _ same => Option.some.inj same ▸ paired?_of_isPlain d plain
    exact (codePoints_cons alone).trans (congrArg _ behind)
  | case3 d e cs n pair ih =>
    rw [List.cons_append, List.cons_append, codePoints, codePoints, pair]
    exact congrArg _ ih
  | case4 d e cs pair ih =>
    rw [List.cons_append, List.cons_append, codePoints, codePoints, pair]
    exact congrArg _ ih

/-- The surrogates among the code points of a text. -/
def surrogates (cs : List Char) : List Nat := (codePoints cs).filter isSurrogate

/-- A text can be written as bytes when it has no surrogate. -/
lemma isEncodable_iff {s : String} : isEncodable s = true ↔ surrogates s.toList = [] := by
  rw [isEncodable, surrogates, List.filter_eq_nil_iff, List.all_eq_true]
  simp

/-- A character by itself is no surrogate. -/
lemma surrogates_cons {c : Char} {cs : List Char} (alone : ∀ d ∈ cs.head?, paired? c d = none) :
    surrogates (c :: cs) = surrogates cs := by
  rw [surrogates, codePoints_cons alone, List.filter_cons_of_neg (by simp [isSurrogate_toNat])]
  rfl

/-- Where there is no mark, there is no surrogate. -/
lemma surrogates_append_of_unmarked {cs : List Char} (unmarked : ∀ c ∈ cs, c ≠ mark) (rest : List Char) :
    surrogates (cs ++ rest) = surrogates rest := by
  induction cs with
  | nil => rfl
  | cons c cs ih =>
    obtain ⟨other, unmarked⟩ := List.forall_mem_cons.1 unmarked
    rw [List.cons_append, surrogates_cons fun d _ => paired?_of_ne other d, ih unmarked]

/-- A text stops at no surrogate just when bytes can hold it. -/
lemma surrogateRun?_eq_none_iff {s : String} : surrogateRun? s = none ↔ isEncodable s = true := by
  rw [surrogateRun?, isEncodable, Option.map_eq_none_iff, List.head?_eq_none_iff, List.all_eq_true,
    ← List.dropWhile_eq_nil_iff]
  have first := List.head?_dropWhile_not (fun n => !isSurrogate n) (codePoints s.toList)
  cases behind : (codePoints s.toList).dropWhile fun n => !isSurrogate n with
  | nil => simp
  | cons n rest =>
    rw [behind] at first
    have surrogate : isSurrogate n = true := by simpa using first
    simp [surrogate]

end Errata.Text
