/-!
# Linearization

The order in which a class and its ancestors are searched. It merges the orders of the bases and the
order in which the bases were named: the next class is the head of the first list whose head stands in
no other list's tail. When no head qualifies there is no such order.
-/

namespace Errata.Linearization

variable {α : Type} [DecidableEq α]

/-- Removes a class from the head of a list. -/
def dropHead (c : α) : List α → List α
  | [] => []
  | d :: l => if d = c then l else d :: l

/-- Removes a class from the head of every list. -/
def advance (c : α) (ls : List (List α)) : List (List α) := ls.map (dropHead c)

theorem length_dropHead_le (c : α) (l : List α) : (dropHead c l).length ≤ l.length := by
  cases l with
  | nil => simp [dropHead]
  | cons d l => by_cases h : d = c <;> simp [dropHead, h]

/-- The head of a list, when it stands in no tail. -/
def goodHead? (ls : List (List α)) : List α → Option α
  | [] => none
  | c :: _ => if ls.all fun l => !l.tail.contains c then some c else none

/-- The next class of the order. -/
def candidate? (ls : List (List α)) : Option α := ls.findSome? (goodHead? ls)

theorem exists_head_of_candidate? {ls : List (List α)} {c : α} (h : candidate? ls = some c) :
    ∃ t, c :: t ∈ ls := by
  obtain ⟨l, hl, hc⟩ := List.exists_of_findSome?_eq_some h
  cases l with
  | nil => simp [goodHead?] at hc
  | cons d t =>
    simp only [goodHead?] at hc
    split at hc
    · cases hc
      exact ⟨t, hl⟩
    · cases hc

/-- The number of classes that are still to be ordered. -/
def weight (ls : List (List α)) : Nat := ls.flatten.length

theorem weight_advance_le (c : α) (ls : List (List α)) :
    weight (advance c ls) ≤ weight ls := by
  induction ls with
  | nil => simp [weight, advance]
  | cons l ls ih =>
    have := length_dropHead_le c l
    simp only [weight, advance, List.map_cons, List.flatten_cons, List.length_append] at ih ⊢
    omega

theorem weight_advance_lt {c : α} {t : List α} {ls : List (List α)} (h : c :: t ∈ ls) :
    weight (advance c ls) < weight ls := by
  induction ls with
  | nil => cases h
  | cons l ls ih =>
    have hl := length_dropHead_le c l
    have hs := weight_advance_le c ls
    simp only [weight, advance, List.map_cons, List.flatten_cons, List.length_append] at ih hs ⊢
    rcases List.mem_cons.1 h with rfl | h
    · simp only [dropHead, if_true, List.length_cons]
      omega
    · have := ih h
      omega

/-- Taking the next class leaves fewer to be ordered. -/
theorem weight_advance_lt_of_candidate? {ls : List (List α)} {c : α} (h : candidate? ls = some c) :
    weight (advance c ls) < weight ls := by
  obtain ⟨t, ht⟩ := exists_head_of_candidate? h
  exact weight_advance_lt ht

/-- Merges lists into one order, or says which heads are left when there is none. -/
def merge (ls : List (List α)) : Except (List α) (List α) :=
  match h : candidate? ls with
  | some c =>
    have := weight_advance_lt_of_candidate? h
    (merge (advance c ls)).map (c :: ·)
  | none => if ls.all List.isEmpty then .ok [] else .error (ls.filterMap List.head?).eraseDups
termination_by weight ls

end Errata.Linearization
