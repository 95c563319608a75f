import Errata.Console.Table
import Errata.Proofs.Steps
import Mathlib

/-!
# Rendering

A text for the console is printed just when its markup can be read (`Renders`), and a table just when its title
and all of its cells can be (`Table.exists_printed_iff`). A text without tags always renders, also between the
tags of a colour (`renders_red`), whatever else stands in it; so a text without an opening bracket does.
-/

namespace Errata.Console

/-- A text has a plain text: its markup can be read. -/
def Renders (s : String) : Prop := ∃ cs, Markup.plain s = .ok cs

/-- A text is printed just when it renders. -/
lemma exists_printed_iff {s : String} : (∃ out, printed s = .ok out) ↔ Renders s := exists_map_eq_ok_iff

/-- A text renders just when it can be read and what was read can be shown. -/
lemma renders_iff {s : String} : Renders s ↔ ∃ m, Markup.read s = .ok m ∧ ∃ cs, m.shown = .ok cs :=
  exists_bind_eq_ok_iff

/-! ## Tables -/

namespace Table

variable {t : Table}

/-- Everything that is written in the cells of a table. -/
def cellTexts (t : Table) : List String := (t.head :: t.rows).flatten

/-- The columns of rows that are not longer than there are columns hold what the rows hold. -/
lemma exists_mem_columns_iff {α : Type} {count : Nat} {rows : List (List α)}
    (bound : ∀ row ∈ rows, row.length ≤ count) {x : α} :
    (∃ column ∈ columns count rows, x ∈ column) ↔ ∃ row ∈ rows, x ∈ row := by
  constructor
  · rintro ⟨column, there, member⟩
    obtain ⟨i, -, rfl⟩ := List.mem_map.1 there
    obtain ⟨row, listed, entry⟩ := List.mem_filterMap.1 member
    exact ⟨row, listed, List.mem_of_getElem? entry⟩
  · rintro ⟨row, listed, member⟩
    obtain ⟨i, entry⟩ := List.mem_iff_getElem?.1 member
    have inside : i < row.length := (List.getElem?_eq_some_iff.1 entry).1
    have small : i < count := Nat.lt_of_lt_of_le inside (bound row listed)
    exact ⟨_, List.mem_map_of_mem (List.mem_range.2 small), List.mem_filterMap.2 ⟨row, listed, entry⟩⟩

/-- A column has an entry for every row at most. -/
lemma length_le_of_mem_columns {α : Type} {count : Nat} {rows : List (List α)} {column : List α}
    (there : column ∈ columns count rows) : column.length ≤ rows.length := by
  obtain ⟨i, -, rfl⟩ := List.mem_map.1 there
  exact List.length_filterMap_le _ rows

/-- Once the cells of a table have been read, column by column, what was read stands in the rows that are
written. -/
lemma exists_mem_rows_iff (bound : ∀ row ∈ t.rows, row.length ≤ t.head.length)
    {marked : List (List Markup.Marked)} (all : t.markedColumns = .ok marked) {m : Markup.Marked} :
    (∃ row ∈ columns (t.rows.length + 1) marked, m ∈ row) ↔ ∃ s ∈ t.cellTexts, Markup.read s = .ok m := by
  have bound : ∀ row ∈ t.head :: t.rows, row.length ≤ t.head.length :=
    List.forall_mem_cons.2 ⟨Nat.le_refl _, bound⟩
  -- What was read of a column is as long as the column, so that all of it stands in the rows.
  have tall : ∀ column ∈ marked, column.length ≤ t.rows.length + 1 := by
    intro column there
    obtain ⟨source, listed, read⟩ := (mem_of_mapM_eq_ok all).1 there
    rw [← (mapM_eq_ok_iff.1 read).length_eq]
    exact length_le_of_mem_columns listed
  rw [exists_mem_columns_iff tall]
  constructor
  · rintro ⟨column, there, member⟩
    obtain ⟨source, listed, read⟩ := (mem_of_mapM_eq_ok all).1 there
    obtain ⟨s, cell, known⟩ := (mem_of_mapM_eq_ok read).1 member
    exact ⟨s, List.mem_flatten.2 ((exists_mem_columns_iff bound).1 ⟨source, listed, cell⟩), known⟩
  · rintro ⟨s, cell, known⟩
    obtain ⟨source, listed, cell⟩ := (exists_mem_columns_iff bound).2 (List.mem_flatten.1 cell)
    obtain ⟨column, read⟩ := exists_mapM_eq_ok_iff.1 ⟨marked, all⟩ source listed
    exact ⟨column, (mem_of_mapM_eq_ok all).2 ⟨source, listed, read⟩, (mem_of_mapM_eq_ok read).2 ⟨s, cell, known⟩⟩

/-- The cells of a table can be read, column by column, just when each of them can. -/
lemma exists_markedColumns_iff (bound : ∀ row ∈ t.rows, row.length ≤ t.head.length) :
    (∃ marked, t.markedColumns = .ok marked) ↔ ∀ s ∈ t.cellTexts, ∃ m, Markup.read s = .ok m := by
  have bound : ∀ row ∈ t.head :: t.rows, row.length ≤ t.head.length :=
    List.forall_mem_cons.2 ⟨Nat.le_refl _, bound⟩
  rw [markedColumns, exists_mapM_eq_ok_iff]
  constructor
  · intro all s cell
    obtain ⟨column, listed, cell⟩ := (exists_mem_columns_iff bound).2 (List.mem_flatten.1 cell)
    exact exists_mapM_eq_ok_iff.1 (all column listed) s cell
  · intro all column listed
    refine exists_mapM_eq_ok_iff.2 fun s cell => all s ?_
    exact List.mem_flatten.2 ((exists_mem_columns_iff bound).1 ⟨column, listed, cell⟩)

/-- A table is printed just when its title and all of its cells render. -/
lemma exists_printed_iff (bound : ∀ row ∈ t.rows, row.length ≤ t.head.length) :
    (∃ out, t.printed = .ok out) ↔ ∀ s ∈ t.title :: t.cellTexts, Renders s := by
  rw [printed, exists_map_eq_ok_iff, lines, exists_bind_eq_ok_iff, List.forall_mem_cons]
  constructor
  · rintro ⟨marked, all, rest⟩
    obtain ⟨title, plain, rest⟩ := exists_bind_eq_ok_iff.1 rest
    obtain ⟨rows, written, -⟩ := exists_bind_eq_ok_iff.1 rest
    refine ⟨⟨title, plain⟩, fun s cell => renders_iff.2 ?_⟩
    obtain ⟨m, known⟩ := (exists_markedColumns_iff bound).1 ⟨marked, all⟩ s cell
    obtain ⟨row, listed, member⟩ := (exists_mem_rows_iff bound all).2 ⟨s, cell, known⟩
    exact ⟨m, known, exists_mapM_eq_ok_iff.1 (exists_mapM_eq_ok_iff.1 ⟨rows, written⟩ row listed) m member⟩
  · rintro ⟨⟨title, plain⟩, cells⟩
    obtain ⟨marked, all⟩ := (exists_markedColumns_iff bound).2 fun s cell =>
      (renders_iff.1 (cells s cell)).imp fun m known => known.1
    obtain ⟨rows, written⟩ : ∃ rows,
        (columns (t.rows.length + 1) marked).mapM (·.mapM Markup.Marked.shown) = .ok rows := by
      refine exists_mapM_eq_ok_iff.2 fun row listed => exists_mapM_eq_ok_iff.2 fun m member => ?_
      obtain ⟨s, cell, known⟩ := (exists_mem_rows_iff bound all).1 ⟨row, listed, member⟩
      obtain ⟨m', known', shown⟩ := renders_iff.1 (cells s cell)
      rw [known] at known'
      cases known'
      exact shown
    exact ⟨marked, all, exists_bind_eq_ok_iff.2 ⟨title, plain,
      exists_bind_eq_ok_iff.2 ⟨rows, written, _, rfl⟩⟩⟩

end Table

/-! ## Texts without tags -/

/-- A word that is no keyword of styles and no attribute is a style of its own name, whether it names a colour or
is no style at all. -/
lemma Style.nameOf_word {w : List Char} {known : Bool} (alone : Text.words w = [w])
    (trimmed : Text.trimBy Text.isBlank w = w) (lowered : Text.lower w = w)
    (keyword : w ∉ [noneName.toList, "on".toList, "not".toList, "link".toList]) (unlisted : attribute? w = none)
    (colour : Colour.isColour w = .ok known) :
    nameOf w = .ok (String.ofList w) ∧ ∀ e, read w ≠ .error (.number e) := by
  simp only [List.mem_cons, List.not_mem_nil, or_false, not_or] at keyword
  obtain ⟨none, on, not, link⟩ := keyword
  have named : colourName w = if known then .ok (String.ofList w) else .error .unknown := by
    rw [colourName, lowered, colour]
    cases known <;> rfl
  have found : read w = if known then .ok ⟨[], some (String.ofList w), Option.none, Option.none⟩
      else .error .unknown := by
    rw [read, trimmed, if_neg none, alone]
    simp only [readWords, lowered, on, not, link, if_false, unlisted, named]
    cases known <;> rfl
  cases known with
  | true =>
    rw [if_pos rfl] at found
    have shown : name ⟨[], some (String.ofList w), Option.none, Option.none⟩ = String.ofList w := rfl
    rw [nameOf, found]
    exact ⟨congrArg Except.ok shown, nofun⟩
  | false =>
    rw [if_neg Bool.false_ne_true] at found
    rw [nameOf, found, trimmed, lowered]
    exact ⟨rfl, nofun⟩

/-- What the word `red` is to a style. -/
lemma Style.nameOf_red : nameOf "red".toList = .ok "red" ∧ ∀ e, read "red".toList ≠ .error (.number e) :=
  nameOf_word rfl rfl rfl (by decide) rfl rfl

namespace Markup

/-- No tag begins anywhere in a text. -/
def Tagless (cs : List Char) : Prop := ∀ rest, rest <:+ cs → tagAt? rest = none

/-- A text goes on behind its first run. -/
lemma drop_length_takeWhile (p : Char → Bool) (cs : List Char) :
    cs.drop (cs.takeWhile p).length = cs.dropWhile p := by
  have behind : (cs.takeWhile p ++ cs.dropWhile p).drop (cs.takeWhile p).length = cs.dropWhile p := List.drop_left
  rwa [List.takeWhile_append_dropWhile] at behind

/-- A bracket behind backslashes begins a tag where a body follows. -/
lemma tagAt?_replicate (k : Nat) (inner : List Char) :
    tagAt? (List.replicate k '\\' ++ '[' :: inner) = (tagBody? inner).map fun p => (k, p.1, p.2) := by
  have slashes : (List.replicate k '\\' ++ '[' :: inner).takeWhile (· = '\\') = List.replicate k '\\' := by
    rw [List.takeWhile_append_of_pos (by simp)]
    simp
  have behind : (List.replicate k '\\' ++ '[' :: inner).drop k = '[' :: inner :=
    List.drop_left' List.length_replicate
  simp only [tagAt?, slashes, List.length_replicate, behind]

/-- A tag begins in no other way. -/
lemma exists_of_tagAt?_eq_some {cs body rest : List Char} {k : Nat} (found : tagAt? cs = some (k, body, rest)) :
    ∃ inner, cs = List.replicate k '\\' ++ '[' :: inner ∧ tagBody? inner = some (body, rest) := by
  have slashes : cs.takeWhile (· = '\\') = List.replicate (cs.takeWhile (· = '\\')).length '\\' := by
    refine List.eq_replicate_iff.2 ⟨rfl, fun c member => ?_⟩
    simpa using List.mem_takeWhile_imp member
  have whole := List.takeWhile_append_dropWhile (p := (· = '\\')) (l := cs)
  simp only [tagAt?, drop_length_takeWhile] at found
  split at found
  · rename_i inner behind
    obtain ⟨⟨body', rest'⟩, here, same⟩ := Option.map_eq_some_iff.1 found
    cases same
    refine ⟨inner, ?_, here⟩
    rw [← slashes, ← behind, whole]
  · cases found

/-- The body of a tag ends before the next bracket opens. -/
lemma exists_tagBody?_of_append {cs t : List Char} {tag : List Char × List Char}
    (found : tagBody? (cs ++ '[' :: t) = some tag) : ∃ tag', tagBody? cs = some tag' := by
  cases cs with
  | nil => cases found
  | cons c cs =>
    simp only [List.cons_append, tagBody?, drop_length_takeWhile] at found ⊢
    split_ifs at found ⊢ with start
    rw [List.dropWhile_append] at found
    cases left : cs.dropWhile fun d => d ≠ '[' && d ≠ ']' with
    | nil =>
      rw [left] at found
      simp at found
    | cons d ds =>
      rw [left] at found
      by_cases closed : d = ']'
      · subst closed
        exact ⟨_, rfl⟩
      · simp [closed] at found

/-- Before the tag behind a text without tags there are at most backslashes. -/
lemma tagBody?_of_tagAt?_append {cs t body rest : List Char} {k : Nat} (none : tagAt? cs = none)
    (found : tagAt? (cs ++ '[' :: t) = some (k, body, rest)) :
    cs = List.replicate k '\\' ∧ tagBody? t = some (body, rest) := by
  obtain ⟨inner, whole, here⟩ := exists_of_tagAt?_eq_some found
  rcases List.append_eq_append_iff.1 whole with ⟨between, slashes, same⟩ | ⟨between, same, behind⟩
  · -- The bracket behind the text is that of the tag.
    cases between with
    | nil =>
      cases same
      rw [List.append_nil] at slashes
      exact ⟨slashes.symm, here⟩
    | cons c between =>
      have there : c ∈ List.replicate k '\\' := by
        rw [slashes]
        simp
      have slash : c = '\\' := List.eq_of_mem_replicate there
      cases same
      cases slash
  · cases between with
    | nil =>
      cases behind
      rw [List.append_nil] at same
      exact ⟨same, here⟩
    | cons c between =>
      -- The tag would begin in the text, and end there as well.
      cases behind
      obtain ⟨tag, inside⟩ := exists_tagBody?_of_append here
      rw [same, tagAt?_replicate, inside] at none
      cases none

/-- A text without a bracket has no tag. -/
lemma tagless_of_not_mem {cs : List Char} (free : '[' ∉ cs) : Tagless cs := by
  intro rest behind
  cases found : tagAt? rest with
  | none => rfl
  | some tag =>
    obtain ⟨inner, rfl, -⟩ := exists_of_tagAt?_eq_some found
    exact absurd (behind.subset (by simp)) free

/-- A text without tags is one part. -/
lemma partsFrom_of_tagless {cs : List Char} (tagless : Tagless cs) {fuel : Nat} (enough : cs.length < fuel)
    (before : List Char) (position : Nat) :
    partsFrom fuel before position cs = [.plain (before.reverse ++ cs)] := by
  induction cs generalizing fuel before position with
  | nil =>
    obtain ⟨fuel, rfl⟩ : ∃ n, fuel = n + 1 := ⟨fuel - 1, by simp at enough; omega⟩
    rw [partsFrom, List.append_nil]
  | cons c cs ih =>
    obtain ⟨fuel, rfl⟩ : ∃ n, fuel = n + 1 := ⟨fuel - 1, by simp at enough; omega⟩
    have none : tagAt? (c :: cs) = none := tagless _ List.suffix_rfl
    rw [partsFrom, none, ih (fun rest behind => tagless rest (behind.trans (List.suffix_cons c cs)))
      (by simpa using enough)]
    simp

/-- Where a text begins with a tag, its parts do. -/
lemma partsFrom_of_tag {cs body rest before : List Char} {k fuel position : Nat}
    (found : tagAt? cs = some (k, body, rest)) :
    partsFrom (fuel + 1) before position cs = .plain before.reverse :: .plain (List.replicate (k / 2) '\\') ::
      (if k % 2 = 1 then .plain ('[' :: body ++ [']']) else .tag body (position + k)) ::
      partsFrom fuel [] (position + k + body.length + 2) rest := by
  cases cs with
  | nil => cases found
  | cons c cs => rw [partsFrom, found]

/-- A text can be shown where no style of it has a number that is none. -/
lemma shown_eq {m : Marked} (numbers : ∀ style ∈ m.styles, ∀ e, Style.read style.toList ≠ .error (.number e)) :
    m.shown = .ok m.chars := by
  unfold Marked.shown
  split
  · rename_i e found
    obtain ⟨style, member, known⟩ := List.exists_of_findSome?_eq_some found
    split at known
    · rename_i number
      exact absurd number (numbers style member _)
    · cases known
  · rfl

section Red

variable {rest : List MarkupPart} {position : Nat}

/-- The parts can be read while some tags are open, and the tags that are closed or stay open have the given
styles. -/
def Reads (opened : List OpenTag) (parts : List MarkupPart) (styles : List String) : Prop :=
  ∃ m, readParts opened parts = .ok m ∧ m.styles = styles

/-- A plain part changes no style. -/
lemma Reads.plain {opened : List OpenTag} {styles : List String} (cs : List Char)
    (behind : Reads opened rest styles) : Reads opened (.plain cs :: rest) styles := by
  obtain ⟨m, read, same⟩ := behind
  refine ⟨⟨Emoji.place (unescape cs) ++ m.chars, m.styles⟩, ?_, same⟩
  rw [readParts, read]
  rfl

/-- Behind the last part, the tags that are still open count. -/
lemma Reads.last (opened : List OpenTag) (fuel position : Nat) :
    Reads opened (partsFrom (fuel + 1) [] position []) (opened.map OpenTag.style) := by
  rw [partsFrom]
  exact Reads.plain [] ⟨_, rfl, rfl⟩

/-- A fault behind a plain part is that of the whole. -/
lemma readParts_plain_eq_error {opened : List OpenTag} {e : MarkupFault} (cs : List Char)
    (failed : readParts opened rest = .error e) : readParts opened (.plain cs :: rest) = .error e := by
  rw [readParts, failed]
  rfl

/-- The tag `[red]` opens a style. -/
lemma readParts_red (opened : List OpenTag) :
    readParts opened (.tag "red".toList position :: rest) = readParts (⟨"red", none⟩ :: opened) rest := by
  have divided : divide "red".toList = ("red".toList, none) := rfl
  rw [readParts, divided]
  show (Except.mapError MarkupFault.number (Style.nameOf "red".toList) >>= _) = _
  rw [Style.nameOf_red.1]
  rfl

/-- The tag `[/red]` closes it. -/
lemma Reads.endRed {styles : List String} (behind : Reads [] rest styles) :
    Reads [⟨"red", none⟩] (.tag "/red".toList position :: rest) ("red" :: styles) := by
  obtain ⟨m, read, same⟩ := behind
  have divided : divide "/red".toList = ("/red".toList, none) := rfl
  have closes : closedBy "/red".toList "red".toList position [⟨"red", none⟩] = .ok (⟨"red", none⟩, []) := by
    have trimmed : Text.trimBy Text.isBlank "red".toList = "red".toList := rfl
    simp only [closedBy, trimmed, Style.nameOf_red.1]
    rfl
  refine ⟨⟨m.chars, "red" :: m.styles⟩, ?_, by rw [same]⟩
  rw [readParts, divided]
  show (closedBy "/red".toList "red".toList position [⟨"red", none⟩] >>= _) = _
  rw [closes]
  show (readParts [] rest >>= _) = _
  rw [read]
  rfl

/-- A text that ends with the closing tag can be read, also where a backslash takes the tag for itself. -/
lemma reads_endRed {cs : List Char} {k : Nat} (found : tagAt? cs = some (k, "/red".toList, [])) (fuel : Nat)
    (before : List Char) (position : Nat) :
    Reads [⟨"red", none⟩] (partsFrom (fuel + 2) before position cs) ["red"] := by
  rw [partsFrom_of_tag found]
  refine Reads.plain _ (Reads.plain _ ?_)
  split_ifs with odd
  · exact Reads.plain _ (Reads.last _ fuel _)
  · exact Reads.endRed (Reads.last [] fuel _)

/-- A text without tags can be read between the tags of a colour. -/
lemma reads_red {cs : List Char} (tagless : Tagless cs) {fuel : Nat} (enough : cs.length + 2 ≤ fuel)
    (before : List Char) (position : Nat) :
    Reads [⟨"red", none⟩] (partsFrom fuel before position (cs ++ "[/red]".toList)) ["red"] := by
  induction cs generalizing fuel before position with
  | nil =>
    obtain ⟨fuel, rfl⟩ : ∃ n, fuel = n + 2 := Nat.exists_eq_add_of_le' enough
    exact reads_endRed rfl fuel before position
  | cons c cs ih =>
    obtain ⟨fuel, rfl⟩ : ∃ n, fuel = n + 3 := Nat.exists_eq_add_of_le' (by simp at enough; omega)
    cases found : tagAt? (c :: cs ++ "[/red]".toList) with
    | none =>
      rw [List.cons_append] at found
      rw [List.cons_append, partsFrom, found]
      refine ih (fun rest behind => tagless rest (behind.trans (List.suffix_cons c cs))) ?_ (c :: before) (position + 1)
      simpa using enough
    | some tag =>
      obtain ⟨k, body, rest⟩ := tag
      obtain ⟨-, last⟩ := tagBody?_of_tagAt?_append (tagless _ List.suffix_rfl) found
      cases last
      exact reads_endRed found (fuel + 1) before position

end Red

end Markup

/-- A text without tags renders. -/
lemma renders_of_tagless {s : String} (tagless : Markup.Tagless s.toList) : Renders s := by
  refine renders_iff.2 ?_
  have parts : Markup.parts s.toList = [.plain s.toList] :=
    Markup.partsFrom_of_tagless tagless (Nat.lt_succ_self _) [] 0
  unfold Markup.read
  rw [parts]
  split_ifs <;> exact ⟨_, rfl, _, rfl⟩

/-- A text without tags renders in red. -/
lemma renders_red {s : String} (tagless : Markup.Tagless s.toList) : Renders ("[red]" ++ s ++ "[/red]") := by
  have whole : ("[red]" ++ s ++ "[/red]").toList = '[' :: ("red]".toList ++ (s.toList ++ "[/red]".toList)) := by
    rw [String.toList_append, String.toList_append, List.append_assoc]
    rfl
  have found : Markup.tagAt? ("[red]" ++ s ++ "[/red]").toList =
      some (0, "red".toList, s.toList ++ "[/red]".toList) := by
    rw [whole]
    rfl
  obtain ⟨m, read, styles⟩ : Markup.Reads [] (Markup.parts ("[red]" ++ s ++ "[/red]").toList) ["red"] := by
    rw [Markup.parts, Markup.partsFrom_of_tag found]
    refine .plain _ (.plain _ ?_)
    rw [Markup.Reads, if_neg (by decide), Markup.readParts_red]
    refine Markup.reads_red tagless ?_ [] _
    rw [whole]
    simp
  have bracket : ("[red]" ++ s ++ "[/red]").toList.contains '[' = true := by
    rw [whole]
    rfl
  have plain : Markup.read ("[red]" ++ s ++ "[/red]") =
      .ok { m with chars := m.chars.filter fun c => !Markup.isStripped c } := by
    unfold Markup.read
    rw [if_pos bracket, read]
    rfl
  refine renders_iff.2 ⟨_, plain, _, Markup.shown_eq fun style member => ?_⟩
  rw [styles] at member
  cases List.mem_singleton.1 member
  exact Style.nameOf_red.2

end Errata.Console
