import TableGateway.Sql.Literal
import TableGateway.Proofs.ReadBack.Scan

/-!
# Quoted texts and names

Readers of what stands between marks: with the mark inside written twice, or with backslash
escapes. Both stop at the closing mark and at no mark before it, whatever the text holds, so a text
can neither end its literal early nor run on behind it. A name is read back from the parts it is
quoted in.
-/

namespace TableGateway.ReadBack

open Sql (Dialect backslashed enclosed identifier textLiteral)
open Text (double isBlank length_parts listed listed_parts parts parts_ne_nil substitute)

/-- Reads on from behind an opening mark to the closing one. The mark written twice stands for
itself. -/
def readEnclosed (mark : Char) : Reader (List Char)
  | [] => none
  | c :: rest =>
      if c ≠ mark then (readEnclosed mark rest).map (push c)
      else
        match rest with
        | [] => some ([], [])
        | d :: more =>
            if d = mark then (readEnclosed mark more).map (push mark) else some ([], d :: more)

def unescape? : Char → Option Char
  | '0' => some '\x00'
  | 'b' => some '\x08'
  | 't' => some '\t'
  | 'n' => some '\n'
  | 'r' => some '\r'
  | 'Z' => some '\x1a'
  | '\'' => some '\''
  | '"' => some '"'
  | '\\' => some '\\'
  | _ => none

def escapable : List Char :=
  ['\x00', '\x08', '\t', '\n', '\r', '\x1a', '\'', '"', '\\']

/-- Reads on from behind an opening single quote to the closing one. A backslash escapes the
character behind it, and the quote written twice stands for itself. -/
def readEscaped : Reader (List Char)
  | [] => none
  | '\\' :: rest =>
      match rest with
      | [] => none
      | c :: more =>
          match unescape? c with
          | some d => (readEscaped more).map (push d)
          | none => none
  | '\'' :: rest =>
      match rest with
      | '\'' :: more => (readEscaped more).map (push '\'')
      | _ => some ([], rest)
  | c :: rest => (readEscaped rest).map (push c)

def readString : Dialect → Reader (List Char)
  | .generic => readEnclosed '\''
  | .mysql => readEscaped

def readMarked (mark : Char) (text : List Char) : Option (List Char × List Char) :=
  match text with
  | [] => none
  | c :: rest => if c = mark then readEnclosed mark rest else none

/-- Reads the parts of a name: one between double quotes, or in MySQL those between backticks with
dots between them. -/
def readParts : Dialect → Reader (List (List Char))
  | .generic, text => (readMarked '"' text).map fun read => ([read.1], read.2)
  | .mysql, text => readSeparated (readMarked '`') ['.'] text

def readName (dialect : Dialect) (text : List Char) : Option (List Char × List Char) :=
  (readParts dialect text).map fun read => (listed ['.'] read.1, read.2)

def partCount : Dialect → List Char → Nat
  | .generic, _ => 1
  | .mysql, name => name.count '.' + 1

def StartsWithout (c : Char) (text : List Char) : Prop :=
  Next (· ≠ c) text

/-- Nothing, or a text that starts with a blank: what may stand behind a name. -/
def BlankNext (text : List Char) : Prop :=
  Next (isBlank · = true) text

theorem after?_of_startsWithout {c : Char} (word : List Char) {rest : List Char}
    (h : StartsWithout c rest) : after? (c :: word) rest = none := by
  cases rest with
  | nil => rfl
  | cons d rest => rw [after?, if_neg (h d rfl)]

theorem BlankNext.startsWithout {rest : List Char} (next : BlankNext rest) {c : Char}
    (h : isBlank c = false) : StartsWithout c rest := by
  refine next.mono ?_
  rintro d blank rfl
  rw [h] at blank
  exact Bool.noConfusion blank

theorem readEnclosed_double {mark : Char} {rest : List Char} (text : List Char)
    (closed : StartsWithout mark rest) :
    readEnclosed mark (double mark text ++ mark :: rest) = some (text, rest) := by
  induction text with
  | nil =>
      cases rest with
      | nil => simp [double, readEnclosed]
      | cons c rest =>
          have other : c ≠ mark := closed c rfl
          simp [double, readEnclosed, other]
  | cons c text ih =>
      rw [double] at ih ⊢
      by_cases h : c = mark
      · simp [substitute, readEnclosed, h, ih, push]
      · rw [substitute, if_neg h, List.append_assoc, List.singleton_append, readEnclosed.eq_def]
        simp [h, ih, push]

theorem readMarked_enclosed {mark : Char} {rest : List Char} (text : List Char)
    (closed : StartsWithout mark rest) :
    readMarked mark (enclosed mark text ++ rest) = some (text, rest) := by
  simpa [readMarked, enclosed] using readEnclosed_double text closed

theorem backslashed_of_not_mem {c : Char} (plain : c ∉ escapable) : backslashed c = [c] := by
  simp only [escapable, List.mem_cons, List.not_mem_nil, or_false, not_or] at plain
  obtain ⟨null, bell, tab, line, feed, stop, quote, double, slash⟩ := plain
  simp only [backslashed, null, bell, tab, line, feed, stop, quote, double, slash, if_false]

/-- A character is written as it is, or as a backslash and what the reader takes back for it. -/
theorem backslashed_cases (c : Char) :
    (backslashed c = [c] ∧ c ≠ '\\' ∧ c ≠ '\'') ∨
      ∃ code, backslashed c = ['\\', code] ∧ unescape? code = some c := by
  by_cases special : c ∈ escapable
  · right
    simp only [escapable, List.mem_cons, List.not_mem_nil, or_false] at special
    rcases special with rfl | rfl | rfl | rfl | rfl | rfl | rfl | rfl | rfl <;>
      exact ⟨_, rfl, rfl⟩
  · left
    refine ⟨backslashed_of_not_mem special, ?_, ?_⟩
    · rintro rfl
      exact special (by decide)
    · rintro rfl
      exact special (by decide)

theorem readEscaped_backslashed (c : Char) (rest : List Char) :
    readEscaped (backslashed c ++ rest) = (readEscaped rest).map (push c) := by
  rcases backslashed_cases c with ⟨plain, slash, quote⟩ | ⟨code, escaped, back⟩
  · rw [plain, List.singleton_append, readEscaped]
    · exact slash
    · exact quote
  · rw [escaped]
    simp [readEscaped, back]

theorem readEscaped_text {rest : List Char} (text : List Char)
    (closed : StartsWithout '\'' rest) :
    readEscaped (text.flatMap backslashed ++ '\'' :: rest) = some (text, rest) := by
  induction text with
  | nil =>
      cases rest with
      | nil => rfl
      | cons c rest =>
          have other : c ≠ '\'' := closed c rfl
          simp [readEscaped, other]
  | cons c text ih =>
      rw [List.flatMap_cons, List.append_assoc, readEscaped_backslashed, ih]
      rfl

theorem readString_textLiteral (dialect : Dialect) {rest : List Char} (text : List Char)
    (closed : StartsWithout '\'' rest) :
    ∃ body, textLiteral dialect text = '\'' :: body ∧
      readString dialect (body ++ rest) = some (text, rest) := by
  cases dialect with
  | generic =>
      refine ⟨_, rfl, ?_⟩
      simpa [readString] using readEnclosed_double text closed
  | mysql =>
      refine ⟨_, rfl, ?_⟩
      simpa [readString] using readEscaped_text text closed

theorem readParts_identifier (dialect : Dialect) (name : List Char) {rest : List Char}
    (next : BlankNext rest) :
    ∃ read, readParts dialect (identifier dialect name ++ rest) = some (read, rest) ∧
      listed ['.'] read = name ∧ read.length = partCount dialect name := by
  cases dialect with
  | generic =>
      have closed : StartsWithout '"' rest := next.startsWithout (by decide)
      have back := readMarked_enclosed name closed
      exact ⟨[name], by simp [readParts, identifier, back], rfl, rfl⟩
  | mysql =>
      refine ⟨parts '.' name, ?_, listed_parts '.' name, length_parts '.' name⟩
      have back : readSeparated (readMarked '`') ['.']
          (listed ['.'] ((parts '.' name).map (enclosed '`')) ++ rest) =
            some ((parts '.' name).map id, rest) :=
        readSeparated_listed (StartsWithout '`') (parts_ne_nil '.' name) (by simp)
          (fun part _ more closed => readMarked_enclosed part closed)
          (fun more => Next.cons more (by decide))
          (next.startsWithout (by decide))
          (after?_of_startsWithout [] (next.startsWithout (by decide)))
      simpa [readParts, identifier] using back

theorem readName_identifier (dialect : Dialect) (name : List Char) {rest : List Char}
    (next : BlankNext rest) :
    readName dialect (identifier dialect name ++ rest) = some (name, rest) := by
  obtain ⟨read, back, joined, _⟩ := readParts_identifier dialect name next
  simp [readName, back, joined]

end TableGateway.ReadBack
