import Errata.Text.Upper
import Mathlib.Tactic.Common

/-!
# Upper case twice

A text in upper case stays as it is (`upper_upper`). Both tables are closed: what a code point is moved to is moved
no further. For the expansions this is read off one by one. For the runs it is enough to compare their ends: the
places that one run moves to lie apart from the places that any run moves, or have the other parity.
-/

namespace Errata.Text

/-- A run moves the code point. -/
def covers (r : Nat × Nat × Nat × Int) (n : Nat) : Bool :=
  r.1 ≤ n && n ≤ r.2.1 && (n - r.1) % r.2.2.1 == 0

/-- A code point that neither table moves. -/
def isFixed (n : Nat) : Bool :=
  (upperExpansions.all fun e => n != e.1) && upperRuns.all fun r => !covers r n

/-- The first place that a run moves to. -/
def firstImage (r : Nat × Nat × Nat × Int) : Nat := (r.1 + r.2.2.2).toNat

/-- The last place that a run moves to. -/
def lastImage (r : Nat × Nat × Nat × Int) : Nat := (r.2.1 + r.2.2.2).toNat

/-- What the first run moves to, the second does not move. -/
def isApart (r s : Nat × Nat × Nat × Int) : Bool :=
  Nat.blt (lastImage r) s.1 || Nat.blt s.2.1 (firstImage r) ||
    (Nat.beq r.2.2.1 2 || Nat.beq r.1 r.2.1) && Nat.beq s.2.2.1 2 && Nat.beq ((firstImage r + s.1) % 2) 1

/-- What a run moves to are characters, and no expansions. -/
def isSettled (r : Nat × Nat × Nat × Int) : Bool :=
  decide (0 ≤ r.1 + r.2.2.2) && (Nat.blt (lastImage r) 0xD800 || Nat.blt 0xDFFF (firstImage r)) &&
    Nat.blt (lastImage r) 0x110000 &&
    upperExpansions.all fun e => Nat.blt e.1 (firstImage r) || Nat.blt (lastImage r) e.1

/-- The characters of an expansion are moved no further. -/
lemma isFixed_expansions :
    (upperExpansions.all fun e => e.2.all fun u => decide u.isValidChar && isFixed u) = true := by
  decide +kernel

lemma isSettled_runs : upperRuns.all isSettled = true := by
  decide +kernel

lemma isApart_runs : (upperRuns.all fun r => upperRuns.all (isApart r)) = true := by
  decide +kernel

/-- A character that neither table moves is its own upper case. -/
lemma upperChars_of_isFixed {c : Char} (fixed : isFixed c.toNat = true) : upperChars c = [c] := by
  obtain ⟨unexpanded, uncovered⟩ := Bool.and_eq_true_iff.1 fixed
  have expansion : upperExpansions.lookup c.toNat = none :=
    List.lookup_eq_none_iff.2 (List.all_eq_true.1 unexpanded)
  have run : upperRuns.find? (fun r => covers r c.toNat) = none := by
    rw [List.find?_eq_none]
    intro r member
    simpa using List.all_eq_true.1 uncovered r member
  unfold covers at run
  unfold upperChars
  rw [expansion]
  dsimp only
  rw [run]

/-- What a run moves to is moved no further. -/
lemma isFixed_of_covers {r : Nat × Nat × Nat × Int} {n : Nat} (listed : r ∈ upperRuns) (covered : covers r n = true) :
    (n + r.2.2.2).toNat.isValidChar ∧ isFixed (n + r.2.2.2).toNat = true := by
  have settled := List.all_eq_true.1 isSettled_runs r listed
  have apart := List.all_eq_true.1 (List.all_eq_true.1 isApart_runs r listed)
  simp only [isSettled, Bool.and_eq_true, Bool.or_eq_true, Nat.blt_eq, decide_eq_true_eq, List.all_eq_true]
    at settled
  simp only [covers, Bool.and_eq_true, decide_eq_true_eq, beq_iff_eq] at covered
  obtain ⟨⟨⟨start, outside⟩, bound⟩, unexpanded⟩ := settled
  obtain ⟨⟨least, most⟩, stride⟩ := covered
  have first : firstImage r ≤ (n + r.2.2.2).toNat := by unfold firstImage; omega
  have last : (n + r.2.2.2).toNat ≤ lastImage r := by unfold lastImage; omega
  constructor
  · show _ < 0xD800 ∨ 0xDFFF < _ ∧ _ < 0x110000
    omega
  · rw [isFixed, Bool.and_eq_true, List.all_eq_true, List.all_eq_true]
    constructor
    · intro e member
      rcases unexpanded e member with below | above
      · exact bne_iff_ne.2 (by omega)
      · exact bne_iff_ne.2 (by omega)
    · intro s member
      have parted := apart s member
      simp only [isApart, Bool.or_eq_true, Bool.and_eq_true, Nat.blt_eq] at parted
      rw [Bool.not_eq_true']
      by_contra taken
      rw [Bool.not_eq_false] at taken
      simp only [covers, Bool.and_eq_true, decide_eq_true_eq, beq_iff_eq] at taken
      obtain ⟨⟨least', most'⟩, stride'⟩ := taken
      rcases parted with (before | behind) | ⟨⟨steps, two⟩, parity⟩
      · omega
      · omega
      · -- The places that are moved to have one parity, and those that are moved have the other.
        rw [Nat.eq_of_beq_eq_true two] at stride'
        have parity := Nat.eq_of_beq_eq_true parity
        unfold firstImage at parity
        rcases steps with steps | single
        · rw [Nat.eq_of_beq_eq_true steps] at stride
          omega
        · have single := Nat.eq_of_beq_eq_true single
          omega

/-- A character that is made of the number of a fixed one is its own upper case. -/
lemma upperChars_ofNat {n : Nat} (valid : n.isValidChar) (fixed : isFixed n = true) :
    upperChars (Char.ofNat n) = [Char.ofNat n] := by
  refine upperChars_of_isFixed ?_
  have same : (Char.ofNat n).toNat = n := by
    rw [Char.ofNat, dif_pos valid]
    rfl
  rwa [same]

/-- What a character becomes in upper case stays as it is. -/
lemma upperChars_of_mem {c u : Char} (member : u ∈ upperChars c) : upperChars u = [u] := by
  unfold upperChars at member
  split at member
  · rename_i us expansion
    obtain ⟨n, there, rfl⟩ := List.mem_map.1 member
    obtain ⟨before, after, entries, -⟩ := List.lookup_eq_some_iff.1 expansion
    have listed : (c.toNat, us) ∈ upperExpansions := by simp [entries]
    have fixed := List.all_eq_true.1 (List.all_eq_true.1 isFixed_expansions _ listed) n there
    obtain ⟨valid, fixed⟩ := Bool.and_eq_true_iff.1 fixed
    exact upperChars_ofNat (of_decide_eq_true valid) fixed
  · rename_i unexpanded
    split at member
    · rename_i r found
      have covered : covers r c.toNat = true := (List.find?_some found :)
      obtain ⟨valid, fixed⟩ := isFixed_of_covers (List.mem_of_find?_eq_some found) covered
      rw [List.mem_singleton.1 member]
      exact upperChars_ofNat valid fixed
    · rename_i uncovered
      rw [List.mem_singleton.1 member]
      unfold upperChars
      rw [unexpanded, uncovered]

/-- A text in upper case stays as it is. -/
theorem upper_upper (s : String) : upper (upper s) = upper s := by
  have chars : (s.toList.flatMap upperChars).flatMap upperChars = s.toList.flatMap upperChars := by
    rw [List.flatMap_assoc]
    refine congrArg List.flatten (List.map_congr_left fun c _ => ?_)
    calc (upperChars c).flatMap upperChars = (upperChars c).flatMap fun u => [u] :=
          congrArg List.flatten (List.map_congr_left fun u member => upperChars_of_mem member)
      _ = upperChars c := List.flatMap_singleton' _
  rw [upper, upper, String.toList_ofList, chars]

end Errata.Text
