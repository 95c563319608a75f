import Errata.Class.Declaration
import Mathlib

/-!
# Members of the types of failures

A type holds members under the names in its row of the table and under no other (`mem_memberNames`). Of the types that
the root derives from, only that of all failures has members with public names (`failure_members`).
-/

namespace Errata.Script.TypeEntry

/-- The names under which a type holds something. -/
def memberNames (e : TypeEntry) : List String :=
  wordsOf e.methods ++ wordsOf e.operators ++ wordsOf e.functions ++
    (wordsOf e.data).map fun w => String.ofList ((Text.splitOn (· = ':') w.toList).headD [])

/-- A type holds nothing under any other name. -/
lemma mem_memberNames {e : TypeEntry} {name : String} {m : Member} (held : e.member? name = some m) :
    name ∈ e.memberNames := by
  simp only [memberNames, List.mem_append, or_assoc]
  unfold member? at held
  split_ifs at held with method operator function
  · exact .inl (by simpa using method)
  · exact .inr (.inl (by simpa using operator))
  · exact .inr (.inr (.inl (by simpa using function)))
  · obtain ⟨w, word, read⟩ := List.exists_of_findSome?_eq_some held
    split at read
    · rename_i n t v parts
      split_ifs at read with named
      refine .inr (.inr (.inr (List.mem_map.2 ⟨w, word, ?_⟩)))
      rw [parts]
      exact named
    · cases read

/-- The public names of a type. -/
def publicNames (type : String) : Option (List String) :=
  (find? type).map fun e => e.memberNames.filter fun name => !ClassDecl.isPrivate name

/-- Objects and exceptions have nothing by public names, and failures have three members. -/
lemma failure_members :
    publicNames "object" = some [] ∧ publicNames "Exception" = some [] ∧
      publicNames "BaseException" = some ["with_traceback", "add_note", "args"] ∧
      (find? "BaseException").map (fun e => (e.member? "with_traceback", e.member? "add_note", e.member? "args")) =
        some (some .method, some .method, some (.data "getset_descriptor" "tuple")) := by
  decide +kernel

end Errata.Script.TypeEntry
