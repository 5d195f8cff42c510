import TableGateway.Paging
import TableGateway.Proofs.ReadBack.Numeral

/-!
# Windows read back

A reader of the `LIMIT` behind an ordering expression: one number alone is a count, and of two
numbers the first one is an offset. The ordering expression itself is taken as it is. The window of
a paging is read back with its numbers, but a `start` without a `limit` is read as a count.
-/

namespace TableGateway

open Numeric (digits)

namespace ReadBack

/-- Which of the rows of a selection are given: behind some first ones all, or so many. -/
structure Span where
  offset : Nat
  count : Option Nat
  deriving DecidableEq

def Span.rows {α : Type} (span : Span) (all : List α) : List α :=
  match span.count with
  | none => all.drop span.offset
  | some count => (all.drop span.offset).take count

/-- The first row that is given is the one behind the offset. -/
theorem Span.take_one_rows {α : Type} {span : Span} (some_row : span.count ≠ some 0) (all : List α) :
    (span.rows all).take 1 = (⟨span.offset, some 1⟩ : Span).rows all := by
  obtain ⟨offset, count⟩ := span
  cases count with
  | none => rfl
  | some count =>
      have positive : 1 ≤ count := Nat.one_le_iff_ne_zero.2 fun zero => some_row (congrArg some zero)
      change ((all.drop offset).take count).take 1 = (all.drop offset).take 1
      rw [List.take_take, Nat.min_eq_left positive]

/-! ## The reader -/

def readCount (text : List Char) : Option (Nat × List Char) :=
  (readDigits text).map fun read => (Nat.ofDigitChars 10 read.1 0, read.2)

/-- Reads a whole `LIMIT`. Without one all rows are given. -/
def readLimit (text : List Char) : Option Span :=
  if text = [] then some ⟨0, none⟩
  else do
    let text ← after? " LIMIT ".toList text
    let (number, text) ← readCount text
    if text = [] then return ⟨0, some number⟩
    let text ← after? ", ".toList text
    let (count, text) ← readCount text
    if text = [] then return ⟨number, some count⟩ else none

def orderText : Option String → List Char
  | some order => " ORDER BY ".toList ++ order.toList
  | none => []

def readPaging (order : Option String) (text : List Char) : Option Span :=
  (after? (orderText order) text).bind readLimit

/-! ## Numbers read back -/

theorem readCount_digits (n : Nat) {rest : List Char} (ends : DigitsOver rest) :
    readCount (digits n ++ rest) = some (n, rest) := by
  rw [readCount, readDigits_append (digits_ne_nil n) (fun _ => isDigit_digits) ends,
    Option.map_some, ofDigitChars_digits]

theorem readLimit_count (count : Nat) :
    readLimit (" LIMIT ".toList ++ digits count) = some ⟨0, some count⟩ := by
  have number : readCount (digits count ++ []) = some (count, []) :=
    readCount_digits count Next.nil
  rw [List.append_nil] at number
  rw [readLimit, if_neg (by simp), after?_append]
  simp [number]

theorem readLimit_pair (offset count : Nat) :
    readLimit (" LIMIT ".toList ++ digits offset ++ ", ".toList ++ digits count) =
      some ⟨offset, some count⟩ := by
  have first : readCount (digits offset ++ (", ".toList ++ digits count)) =
      some (offset, ", ".toList ++ digits count) :=
    readCount_digits offset (Next.cons _ rfl)
  have second : readCount (digits count ++ []) = some (count, []) :=
    readCount_digits count Next.nil
  rw [List.append_nil] at second
  simp only [List.append_assoc]
  rw [readLimit, if_neg (by simp), after?_append]
  simp only [Option.bind_eq_bind, Option.bind_some, first]
  rw [if_neg (by simp), after?_append]
  simp [second]

end ReadBack

open ReadBack (Span after?_append orderText readLimit readLimit_count readLimit_pair readPaging)

/-! ## What is described -/

def Window.span (w : Window) : Span :=
  match w.pair, w.start, w.limit with
  | some (offset, count), _, _ => ⟨offset, some count⟩
  | none, some start, some limit => ⟨start, some limit⟩
  | none, some number, none | none, none, some number => ⟨0, some number⟩
  | none, none, none => ⟨0, none⟩

theorem Window.readLimit_limitText (w : Window) : readLimit w.limitText = some w.span := by
  obtain ⟨order, pair, start, limit⟩ := w
  rcases pair with - | ⟨offset, count⟩
  · rcases start with - | start <;> rcases limit with - | limit
    · rfl
    · exact readLimit_count limit
    · exact readLimit_count start
    · exact readLimit_pair start limit
  · exact readLimit_pair offset count

theorem Window.text_eq (w : Window) : w.text = orderText w.orderBy ++ w.limitText := by
  unfold text orderText
  cases w.orderBy <;> rfl

namespace Paging

/-- Not a fragment of SQL. -/
def Plain (paging : Paging) : Prop :=
  ∀ sql, paging ≠ raw sql

/-- A `start` is all that is given of a window. -/
def StartsAlone (paging : Paging) (start : Nat) : Prop :=
  ∃ order, paging = window ⟨order, none, some start, none⟩

def order : Paging → Option String
  | window w => w.orderBy
  | _ => none

/-- The rows that a window describes, and all rows without one. -/
def span : Paging → Span
  | window w => w.span
  | _ => ⟨0, none⟩

variable {paging : Paging}

theorem Plain.singleRow (plain : paging.Plain) : paging.singleRow.Plain := by
  cases paging with
  | unspecified | window w => exact fun sql => Paging.noConfusion
  | raw sql => exact absurd rfl (plain sql)

theorem Plain.order_singleRow (plain : paging.Plain) : paging.singleRow.order = paging.order := by
  cases paging with
  | unspecified => rfl
  | raw sql => exact absurd rfl (plain sql)
  | window w =>
      obtain ⟨order, pair, start, limit⟩ := w
      cases pair <;> rfl

/-- Behind the ordering expression stands a `LIMIT` that describes the window. -/
theorem Plain.exists_text_eq (plain : paging.Plain) :
    ∃ limit, paging.text = orderText paging.order ++ limit ∧ readLimit limit = some paging.span := by
  cases paging with
  | unspecified => exact ⟨[], rfl, rfl⟩
  | raw sql => exact absurd rfl (plain sql)
  | window w => exact ⟨w.limitText, w.text_eq, w.readLimit_limitText⟩

theorem Plain.readPaging_text (plain : paging.Plain) :
    readPaging paging.order paging.text = some paging.span := by
  obtain ⟨limit, written, read⟩ := plain.exists_text_eq
  rw [readPaging, written, after?_append, Option.bind_some, read]

/-! ## The first row -/

theorem StartsAlone.span_eq {start : Nat} (alone : paging.StartsAlone start) :
    paging.span = ⟨0, some start⟩ ∧ paging.singleRow.span = ⟨start, some 1⟩ := by
  obtain ⟨order, rfl⟩ := alone
  exact ⟨rfl, rfl⟩

/-- The window of a single row has the offset of the whole, unless that is a `start` alone. -/
theorem Plain.span_singleRow (plain : paging.Plain) (offset : ∀ start, ¬paging.StartsAlone start) :
    paging.singleRow.span = ⟨paging.span.offset, some 1⟩ := by
  cases paging with
  | unspecified => rfl
  | raw sql => exact absurd rfl (plain sql)
  | window w =>
      obtain ⟨order, pair, start, limit⟩ := w
      rcases pair with - | ⟨offset, count⟩
      · rcases start with - | start <;> rcases limit with - | limit
        · rfl
        · rfl
        · exact absurd ⟨order, rfl⟩ (offset start)
        · rfl
      · rfl

/-- The single row is the first one of the window exactly where the window is not a `start` alone. -/
theorem Plain.rows_singleRow_iff {α : Type} [Inhabited α] (plain : paging.Plain)
    (some_row : paging.span.count ≠ some 0) :
    (∀ rows : List α, paging.singleRow.span.rows rows = (paging.span.rows rows).take 1) ↔
      ∀ start, ¬paging.StartsAlone start := by
  constructor
  · rintro first start alone
    obtain ⟨whole, single⟩ := alone.span_eq
    have here := first [default]
    rw [single, Span.take_one_rows some_row, whole] at here
    cases start with
    | zero => exact some_row (congrArg Span.count whole)
    | succ n => simp [Span.rows] at here
  · intro offset rows
    rw [Span.take_one_rows some_row, plain.span_singleRow offset]

end Paging

end TableGateway
