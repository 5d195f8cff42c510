import TableGateway.Paging
import TableGateway.Proofs.Text.Word

/-!
# A single row

Narrowing a selection to a single row always puts a limit into it, and puts it there once. A window
keeps its order and its offset and gets a count of one. A fragment of SQL that mentions a limit is
left alone; any other one keeps all that stands in front of its last blanks and gets a limit behind
it. What is narrowed mentions a limit, so narrowing it again changes nothing.
-/

namespace TableGateway

open Numeric (digits)
open Text (HoldsWord IsPlainCapital exists_trimEnd_append getLast?_dropEndWhile hasWord_iff isBlank
  isWordChar spells_self trimEnd)

/-! ## The word -/

theorem isPlainCapital_limit : ∀ w ∈ "LIMIT".toList, IsPlainCapital w := by
  -- on the list of its letters: deciding the quantifier itself may run through all characters
  have letters : ("LIMIT".toList.all fun w => decide (IsPlainCapital w)) = true := by decide +kernel
  intro w mem
  exact of_decide_eq_true (List.all_eq_true.1 letters w mem)

theorem mentionsLimit_iff (sql : String) :
    mentionsLimit sql = true ↔ HoldsWord "LIMIT".toList sql.toList :=
  hasWord_iff isPlainCapital_limit (by simp) sql.toList

/-- Between spaces the word is a whole one, whatever stands around them. -/
theorem holdsWord_limit (front rest : List Char) :
    HoldsWord "LIMIT".toList (front ++ (" LIMIT ".toList ++ rest)) := by
  have word : HoldsWord "LIMIT".toList ((front ++ [' ']) ++ ("LIMIT".toList ++ (' ' :: rest))) :=
    (spells_self isPlainCapital_limit).holdsWord isPlainCapital_limit (by simp)
      (by rw [List.getLast?_concat]; rfl) rfl
  simpa using word

/-! ## Windows -/

namespace Window

theorem singleRow_singleRow (w : Window) : w.singleRow.singleRow = w.singleRow := by
  obtain ⟨order, pair, start, limit⟩ := w
  cases pair <;> rfl

theorem exists_limitText_singleRow (w : Window) :
    ∃ rest, w.singleRow.limitText = " LIMIT ".toList ++ rest := by
  obtain ⟨order, pair, start, limit⟩ := w
  rcases pair with - | ⟨offset, count⟩
  · cases start with
    | none => exact ⟨_, rfl⟩
    | some start => exact ⟨digits start ++ ", ".toList ++ digits 1, by simp [singleRow, limitText]⟩
  · exact ⟨digits offset ++ ", ".toList ++ digits 1, by simp [singleRow, limitText]⟩

theorem holdsWord_text_singleRow (w : Window) : HoldsWord "LIMIT".toList w.singleRow.text := by
  obtain ⟨rest, limits⟩ := w.exists_limitText_singleRow
  rw [text, limits]
  exact holdsWord_limit _ rest

end Window

/-! ## Fragments -/

theorem Text.HoldsWord.spaced {word text : List Char} (holds : HoldsWord word text) :
    HoldsWord word (spaced text) := by
  cases text with
  | nil => exact holds
  | cons c rest =>
      rw [TableGateway.spaced]
      split
      · exact holds
      · have behind : HoldsWord word ([' '] ++ c :: rest) := holds.behind rfl
        exact behind

namespace Paging

theorem singleRow_raw_of_mentions {sql : String} (mentions : HoldsWord "LIMIT".toList sql.toList) :
    (raw sql).singleRow = raw sql := by
  rw [singleRow, if_pos ((mentionsLimit_iff sql).2 mentions)]

theorem singleRow_raw {sql : String} (other : ¬HoldsWord "LIMIT".toList sql.toList) :
    (raw sql).singleRow = raw (String.ofList (trimEnd sql.toList ++ " LIMIT 1".toList)) := by
  rw [singleRow, if_neg (fun mentions => other ((mentionsLimit_iff sql).1 mentions))]

/-- A raw fragment is narrowed to one that mentions a limit. -/
theorem exists_singleRow_raw (sql : String) :
    ∃ narrowed, (raw sql).singleRow = raw narrowed ∧
      HoldsWord "LIMIT".toList narrowed.toList := by
  by_cases mentions : HoldsWord "LIMIT".toList sql.toList
  · exact ⟨sql, singleRow_raw_of_mentions mentions, mentions⟩
  · refine ⟨_, singleRow_raw mentions, ?_⟩
    rw [String.toList_ofList (l := trimEnd sql.toList ++ _)]
    exact holdsWord_limit (trimEnd sql.toList) ['1']

theorem singleRow_singleRow (p : Paging) : p.singleRow.singleRow = p.singleRow := by
  cases p with
  | unspecified => rfl
  | raw sql =>
      obtain ⟨narrowed, single, mentions⟩ := exists_singleRow_raw sql
      rw [single, singleRow_raw_of_mentions mentions]
  | window w => exact congrArg window w.singleRow_singleRow

theorem holdsWord_text_singleRow (p : Paging) : HoldsWord "LIMIT".toList p.singleRow.text := by
  cases p with
  | unspecified => exact Window.holdsWord_text_singleRow .first
  | raw sql =>
      obtain ⟨narrowed, single, mentions⟩ := exists_singleRow_raw sql
      rw [single, text]
      exact mentions.spaced
  | window w => exact w.holdsWord_text_singleRow

/-- Narrowing to a single row is done once and always limits. What is narrowed is not changed by
narrowing it again, and its text holds the word `LIMIT`. A window keeps its order, its start and the
offset of its pair, and its count is one. A fragment that holds the word `LIMIT` in whatever case is
kept; of any other one the last blanks are dropped, and ` LIMIT 1` is put behind what is kept. -/
theorem singleRow_limits (p : Paging) :
    p.singleRow.singleRow = p.singleRow ∧
    HoldsWord "LIMIT".toList p.singleRow.text ∧
    (∀ w, p = window w → ∃ single, p.singleRow = window single ∧
      single.orderBy = w.orderBy ∧ single.start = w.start ∧
      single.pair = w.pair.map (fun pair => (pair.1, 1)) ∧
      single.limit = if w.pair.isSome then w.limit else some 1) ∧
    ∀ sql, p = raw sql →
      (HoldsWord "LIMIT".toList sql.toList → p.singleRow = raw sql) ∧
      (¬HoldsWord "LIMIT".toList sql.toList →
        ∃ kept blanks, sql.toList = kept ++ blanks ∧ (∀ c ∈ blanks, isBlank c = true) ∧
          (∀ c, kept.getLast? = some c → isBlank c = false) ∧
          p.singleRow = raw (String.ofList (kept ++ " LIMIT 1".toList))) := by
  refine ⟨p.singleRow_singleRow, p.holdsWord_text_singleRow, ?_, ?_⟩
  · rintro ⟨order, pair, start, limit⟩ rfl
    refine ⟨_, rfl, ?_⟩
    cases pair <;> exact ⟨rfl, rfl, rfl, rfl⟩
  · rintro sql rfl
    refine ⟨singleRow_raw_of_mentions, fun other => ?_⟩
    obtain ⟨blanks, parts, blank⟩ := exists_trimEnd_append sql.toList
    exact ⟨trimEnd sql.toList, blanks, parts, blank, getLast?_dropEndWhile isBlank sql.toList,
      singleRow_raw other⟩

/-- A longer word, a limit in small letters and an empty fragment with a blank. -/
example :
    (raw "ORDER BY time_limit \u3000").singleRow = raw "ORDER BY time_limit LIMIT 1" ∧
      (raw "limit\t4").singleRow = raw "limit\t4" ∧ (raw " ").singleRow = raw " LIMIT 1" := by
  decide

end Paging

end TableGateway
