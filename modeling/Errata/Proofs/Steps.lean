import Mathlib

/-!
# Steps that may fail

A computation that may fail gives a result just when all of its steps do. For a list of steps, the results are
those of the entries, one after the other, and it is the first entry without one that stops it.
-/

namespace Errata

variable {ε α β : Type}

/-- The result of a computation is that of the rest with the result of its first step. -/
lemma bind_eq_ok_iff {x : Except ε α} {f : α → Except ε β} {b : β} :
    x >>= f = .ok b ↔ ∃ a, x = .ok a ∧ f a = .ok b := by
  cases x with
  | error e => exact ⟨nofun, fun ⟨_, success, _⟩ => nomatch success⟩
  | ok a => exact ⟨fun rest => ⟨a, rfl, rest⟩, fun ⟨_, success, rest⟩ => by cases success; exact rest⟩

/-- A computation gives a result just when its first step does, and then the rest. -/
lemma exists_bind_eq_ok_iff {x : Except ε α} {f : α → Except ε β} :
    (∃ b, x >>= f = .ok b) ↔ ∃ a, x = .ok a ∧ ∃ b, f a = .ok b := by
  cases x with
  | error e => simp [bind, Except.bind]
  | ok a => simp [bind, Except.bind]

/-- Changing the result changes nothing about there being one. -/
lemma exists_map_eq_ok_iff {x : Except ε α} {f : α → β} : (∃ b, x.map f = .ok b) ↔ ∃ a, x = .ok a := by
  cases x with
  | error e => simp [Except.map]
  | ok a => simp [Except.map]

/-- The results for a list are those for its entries, one after the other. -/
lemma mapM_eq_ok_iff {f : α → Except ε β} {xs : List α} {ys : List β} :
    xs.mapM f = .ok ys ↔ List.Forall₂ (fun x y => f x = .ok y) xs ys := by
  induction xs generalizing ys with
  | nil => cases ys <;> simp [pure, Except.pure]
  | cons x rest ih =>
    rw [List.mapM_cons, List.forall₂_cons_left_iff]
    cases first : f x with
    | error e => simp [bind, Except.bind]
    | ok y =>
      cases others : rest.mapM f with
      | error e => simp [bind, Except.bind, ← ih, others]
      | ok zs => simp [bind, Except.bind, pure, Except.pure, ← ih, others, eq_comm]

/-- There are results for a list just when there is one for every entry. -/
lemma exists_mapM_eq_ok_iff {f : α → Except ε β} {xs : List α} :
    (∃ ys, xs.mapM f = .ok ys) ↔ ∀ x ∈ xs, ∃ y, f x = .ok y := by
  induction xs with
  | nil => simpa using ⟨[], rfl⟩
  | cons x rest ih =>
    rw [List.mapM_cons, exists_bind_eq_ok_iff, List.forall_mem_cons, ← ih]
    constructor
    · rintro ⟨y, first, others⟩
      obtain ⟨ys, others, -⟩ := exists_bind_eq_ok_iff.1 others
      exact ⟨⟨y, first⟩, ys, others⟩
    · rintro ⟨⟨y, first⟩, ys, others⟩
      exact ⟨y, first, exists_bind_eq_ok_iff.2 ⟨ys, others, y :: ys, rfl⟩⟩

/-- A result for a list is that for one of its entries. -/
lemma mem_of_mapM_eq_ok {f : α → Except ε β} {xs : List α} {ys : List β} (made : xs.mapM f = .ok ys) {y : β} :
    y ∈ ys ↔ ∃ x ∈ xs, f x = .ok y := by
  have related := mapM_eq_ok_iff.1 made
  clear made
  induction related with
  | nil => simp
  | cons first _ ih =>
    refine (List.mem_cons.trans (or_congr_right ih)).trans ?_
    rw [List.exists_mem_cons_iff, first, Except.ok.injEq, eq_comm]

/-- A list is at fault for the first of its entries that is. -/
lemma exists_of_mapM_eq_error {f : α → Except ε β} {xs : List α} {e : ε} (failed : xs.mapM f = .error e) :
    ∃ before x after, xs = before ++ x :: after ∧ (∀ y ∈ before, ∃ z, f y = .ok z) ∧ f x = .error e := by
  induction xs with
  | nil => cases failed
  | cons x rest ih =>
    rw [List.mapM_cons] at failed
    cases first : f x with
    | error e' =>
      rw [first] at failed
      cases failed
      exact ⟨[], x, rest, rfl, nofun, first⟩
    | ok y =>
      cases others : rest.mapM f with
      | error e' =>
        rw [first, others] at failed
        cases failed
        obtain ⟨before, x', after, rfl, fine, failed⟩ := ih others
        exact ⟨x :: before, x', after, rfl, List.forall_mem_cons.2 ⟨⟨y, first⟩, fine⟩, failed⟩
      | ok ys =>
        rw [first, others] at failed
        cases failed

/-- Steps without results succeed just when every one of them does. -/
lemma forM_eq_ok_iff {f : α → Except ε Unit} {l : List α} : l.forM f = .ok () ↔ ∀ a ∈ l, f a = .ok () := by
  induction l with
  | nil => exact ⟨fun _ => nofun, fun _ => rfl⟩
  | cons a l ih =>
    show (f a >>= fun _ => l.forM f) = .ok () ↔ _
    rw [bind_eq_ok_iff, List.forall_mem_cons, ← ih]
    exact ⟨fun ⟨_, first, rest⟩ => ⟨first, rest⟩, fun ⟨first, rest⟩ => ⟨(), first, rest⟩⟩

section Filter

variable {p : α → Bool} {q : β → Bool} {l : List α}

/-- Steps that do nothing can be left out. -/
lemma forM_filter {f : α → Except ε Unit} (idle : ∀ a ∈ l, p a = false → f a = .ok ()) :
    (l.filter p).forM f = l.forM f := by
  induction l with
  | nil => rfl
  | cons a l ih =>
    have ih := ih fun b member => idle b (List.mem_cons_of_mem _ member)
    cases kept : p a with
    | true =>
      rw [List.filter_cons_of_pos kept]
      show (f a >>= fun _ => (l.filter p).forM f) = (f a >>= fun _ => l.forM f)
      rw [ih]
    | false =>
      rw [List.filter_cons_of_neg (by simp [kept]), ih]
      show l.forM f = (f a >>= fun _ => l.forM f)
      rw [idle a List.mem_cons_self kept]
      rfl

/-- Steps whose results are left out afterwards can be left out, where they give results. -/
lemma mapM_filter {f : α → Except ε β} (agree : ∀ a b, f a = .ok b → q b = p a)
    (spare : ∀ a ∈ l, p a = false → ∃ b, f a = .ok b) :
    (l.filter p).mapM f = (l.mapM f).map (List.filter q) := by
  induction l with
  | nil => rfl
  | cons a l ih =>
    have ih := ih fun b member => spare b (List.mem_cons_of_mem _ member)
    rw [List.mapM_cons]
    cases kept : p a with
    | true =>
      rw [List.filter_cons_of_pos kept, List.mapM_cons, ih]
      cases first : f a with
      | error e => rfl
      | ok b =>
        cases l.mapM f with
        | error e => rfl
        | ok bs =>
          show Except.ok (b :: bs.filter q) = .ok ((b :: bs).filter q)
          rw [List.filter_cons_of_pos ((agree a b first).trans kept)]
    | false =>
      obtain ⟨b, first⟩ := spare a List.mem_cons_self kept
      rw [List.filter_cons_of_neg (by simp [kept]), ih, first]
      cases l.mapM f with
      | error e => rfl
      | ok bs =>
        show Except.ok (bs.filter q) = .ok ((b :: bs).filter q)
        rw [List.filter_cons_of_neg (by simp [agree a b first, kept])]

end Filter

end Errata
