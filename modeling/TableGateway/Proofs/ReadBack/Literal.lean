import TableGateway.Proofs.ReadBack.Number
import TableGateway.Proofs.ReadBack.Quoted
import TableGateway.Proofs.Text.Separated
import TableGateway.Sql.Literal

/-!
# Literals read back

A reader of SQL literals that knows the words, the numerals, the quotes of a dialect and the
parentheses of lists. Whatever a value holds, its literal ends where the value ends, and what the
reader takes off a text that starts with the literal is the content of the value.
-/

namespace TableGateway.ReadBack

open Calendar (Date Time Timestamp)
open Numeric (hexValue? paddedDigits)
open Sql (Dialect backslashed blobLiteral enclosed floatLiteral hexPair literal plainLiteral
  textLiteral)
open Text (comma double length_le_listed listed separated_eq_listed substitute)

/-- What a literal says. -/
inductive Literal where
  | null
  | boolean (b : Bool)
  | number (q : ℚ)
  | text (chars : List Char)
  | blob (octets : List UInt8)
  | list (items : List Literal)

/-- What the literal of a value has to say. -/
def content : Value → Literal
  | .null => .null
  | .boolean b => .boolean b
  | .int64 n => .number n.toInt
  | .uint64 n => .number n.toNat
  | .float64 x => if x.isFinite then .number (floatNumber x) else .null
  | .decimal d => .number (decimalNumber d)
  | .varchar text => .text text.toList
  | .blob octets => .blob octets
  | .date d => .text d.literal
  | .time t => .text t.literal
  | .timestamp t => .text t.literal
  | .uuid id => .text id.text
  | .list items => .list (items.map content)

/-! ## The reader -/

def readOctets : Reader (List UInt8)
  | [] => none
  | [c] => if c = '\'' then some ([], []) else none
  | c :: d :: rest =>
      if c = '\'' then some ([], d :: rest)
      else
        match hexValue? c, hexValue? d with
        | some high, some low => (readOctets rest).map (push (UInt8.ofNat (high * 16 + low)))
        | _, _ => none

/-- Reads a literal that is no list. Its first character says of which kind it is. -/
def readScalar (dialect : Dialect) : Reader Literal
  | [] => none
  | c :: rest =>
      if c = '\'' then (readString dialect rest).map fun read => (.text read.1, read.2)
      else if c = 'X' then
        ((after? ['\''] rest).bind readOctets).map fun read => (.blob read.1, read.2)
      else if c = 'N' then (after? "ULL".toList rest).map (.null, ·)
      else if c = 't' then (after? "rue".toList rest).map (.boolean true, ·)
      else if c = 'f' then (after? "alse".toList rest).map (.boolean false, ·)
      else (readNumber (c :: rest)).map fun read => (.number read.1, read.2)

def readItems (item : Reader Literal) (text : List Char) : Option (Literal × List Char) :=
  match after? [')'] text with
  | some rest => some (.list [], rest)
  | none => do
      let (items, text) ← readSeparated item comma text
      let rest ← after? [')'] text
      return (.list items, rest)

/-- Reads a literal with lists nested up to a depth. -/
def readLiteralWithin (dialect : Dialect) : Nat → Reader Literal
  | 0, text => readScalar dialect text
  | depth + 1, text =>
      match after? ['('] text with
      | some inner => readItems (readLiteralWithin dialect depth) inner
      | none => readScalar dialect text

/-- Reads a literal. A text cannot nest deeper than it is long. -/
def readLiteral (dialect : Dialect) (text : List Char) : Option (Literal × List Char) :=
  readLiteralWithin dialect text.length text

/-- Nothing, or a text that starts with a closing parenthesis, a comma or a space: what may stand
behind a literal. -/
def Boundary (text : List Char) : Prop :=
  Next (fun c => c = ')' ∨ c = ',' ∨ c = ' ') text

theorem Boundary.numberOver {rest : List Char} (boundary : Boundary rest) : NumberOver rest := by
  refine boundary.mono ?_
  rintro c (rfl | rfl | rfl) <;> decide

theorem Boundary.startsWithout {rest : List Char} (boundary : Boundary rest) :
    StartsWithout '\'' rest := by
  refine boundary.mono ?_
  rintro c (rfl | rfl | rfl) <;> decide

/-! ## Octets -/

theorem hexValue?_digitChar : ∀ d < 16, hexValue? (Nat.digitChar d).toUpper = some d := by
  decide

theorem readOctets_hexPair (octet : UInt8) (rest : List Char) :
    readOctets (hexPair octet ++ rest) = (readOctets rest).map (push octet) := by
  have high : octet.toNat / 16 < 16 := by
    have := octet.toNat_lt
    omega
  have low : octet.toNat % 16 < 16 := Nat.mod_lt _ (by decide)
  have unquoted : (Nat.digitChar (octet.toNat / 16)).toUpper ≠ '\'' := by
    intro quote
    have digit := hexValue?_digitChar _ high
    rw [quote, show hexValue? '\'' = none by decide] at digit
    cases digit
  have whole : octet.toNat / 16 * 16 + octet.toNat % 16 = octet.toNat := by omega
  simp only [hexPair, List.cons_append, List.nil_append, readOctets, unquoted, if_false,
    hexValue?_digitChar _ high, hexValue?_digitChar _ low, whole, UInt8.ofNat_toNat]

theorem readOctets_flatMap (octets : List UInt8) (rest : List Char) :
    readOctets (octets.flatMap hexPair ++ '\'' :: rest) = some (octets, rest) := by
  induction octets with
  | nil => cases rest <;> simp [readOctets]
  | cons octet octets ih =>
      rw [List.flatMap_cons, List.append_assoc, readOctets_hexPair, ih]
      rfl

/-! ## Texts that need no escape -/

/-- A text without a quote, a backslash or any other character that an escape stands for. -/
def Plain (text : List Char) : Prop :=
  ∀ c ∈ text, c ∉ escapable

theorem Plain.append {first second : List Char} (a : Plain first) (b : Plain second) :
    Plain (first ++ second) := by
  intro c mem
  rcases List.mem_append.1 mem with left | right
  · exact a c left
  · exact b c right

theorem Plain.cons {c : Char} {rest : List Char} (h : c ∉ escapable) (plain : Plain rest) :
    Plain (c :: rest) := by
  intro d mem
  rcases List.mem_cons.1 mem with rfl | behind
  · exact h
  · exact plain d behind

theorem not_mem_escapable_of_isDigit {c : Char} (digit : c.isDigit = true) : c ∉ escapable := by
  simp only [escapable, List.mem_cons, List.not_mem_nil, or_false, not_or]
  refine ⟨?_, ?_, ?_, ?_, ?_, ?_, ?_, ?_, ?_⟩ <;> rintro rfl <;> exact absurd digit (by decide)

theorem plain_paddedDigits (width n : Nat) : Plain (paddedDigits width n) :=
  fun _ mem => not_mem_escapable_of_isDigit (isDigit_paddedDigits mem)

theorem textLiteral_of_plain (dialect : Dialect) {text : List Char} (plain : Plain text) :
    textLiteral dialect text = plainLiteral text := by
  cases dialect with
  | generic =>
      have same : double '\'' text = text := by
        induction text with
        | nil => rfl
        | cons c rest ih =>
            have other : c ≠ '\'' := by
              rintro rfl
              exact plain '\'' (by simp) (by decide)
            have tail := ih fun d mem => plain d (List.mem_cons_of_mem _ mem)
            rw [double] at tail ⊢
            rw [substitute, if_neg other, tail, List.singleton_append]
      rw [textLiteral, enclosed, same, plainLiteral]
  | mysql =>
      have same : text.flatMap backslashed = text := by
        induction text with
        | nil => rfl
        | cons c rest ih =>
            have tail := ih fun d mem => plain d (List.mem_cons_of_mem _ mem)
            rw [List.flatMap_cons, backslashed_of_not_mem (plain c (by simp)), tail,
              List.singleton_append]
      rw [textLiteral, same, plainLiteral]

theorem plain_date (d : Date) : Plain d.literal := by
  have year : Plain (Calendar.yearText 3 4 d.year) := by
    unfold Calendar.yearText
    split
    · exact (plain_paddedDigits _ _).cons (by decide)
    · exact plain_paddedDigits _ _
  have monthDay : Plain d.monthDay :=
    ((plain_paddedDigits 2 d.month).cons (by decide)).append
      ((plain_paddedDigits 2 d.day).cons (by decide))
  exact year.append monthDay

theorem plain_time (t : Time) : Plain t.literal := by
  have fraction : Plain t.fraction := by
    unfold Time.fraction
    split
    · intro c mem
      cases mem
    · exact (plain_paddedDigits _ _).cons (by decide)
  have clock : Plain (paddedDigits 2 t.hour ++ ':' :: paddedDigits 2 t.minute ++
      ':' :: paddedDigits 2 t.second) :=
    ((plain_paddedDigits 2 t.hour).append ((plain_paddedDigits 2 t.minute).cons (by decide))).append
      ((plain_paddedDigits 2 t.second).cons (by decide))
  exact clock.append fraction

theorem plain_timestamp (t : Timestamp) : Plain t.literal :=
  (plain_date t.date).append ((plain_time t.time).cons (by decide))

theorem plain_hexDigits (id : Uuid) : Plain id.hexDigits := by
  intro c mem
  obtain ⟨i, -, rfl⟩ := List.mem_map.1 mem
  have digit : ∀ d < 16, Nat.digitChar d ∉ escapable := by decide
  exact digit _ (Nat.mod_lt _ (by decide))

theorem plain_uuid (id : Uuid) : Plain id.text := by
  have part {ds : List Char} (sub : ∀ c ∈ ds, c ∈ id.hexDigits) : Plain ds :=
    fun c mem => plain_hexDigits id c (sub c mem)
  have taken (n : Nat) : Plain (id.hexDigits.take n) := part fun _ => List.mem_of_mem_take
  have dropped (n : Nat) : Plain (id.hexDigits.drop n) := part fun _ => List.mem_of_mem_drop
  have middle (n : Nat) : Plain ((id.hexDigits.drop n).take 4) :=
    part fun _ mem => List.mem_of_mem_drop (List.mem_of_mem_take mem)
  exact ((((taken 8).append ((middle 8).cons (by decide))).append
    ((middle 12).cons (by decide))).append ((middle 16).cons (by decide))).append
      ((dropped 20).cons (by decide))

/-! ## Values read back -/

/-- A number is no text that starts like another kind of literal. -/
theorem readScalar_number (dialect : Dialect) {text rest : List Char} {q : ℚ}
    (written : Writes text q) (boundary : Boundary rest) :
    readScalar dialect (text ++ rest) = some (.number q, rest) := by
  have back := written.readNumber boundary.numberOver
  obtain ⟨c, more, rfl, start⟩ := written.exists_cons
  have kind : c ≠ '\'' ∧ c ≠ 'X' ∧ c ≠ 'N' ∧ c ≠ 't' ∧ c ≠ 'f' := by
    refine ⟨?_, ?_, ?_, ?_, ?_⟩ <;> rintro rfl <;> exact absurd start (by decide)
  obtain ⟨quote, hex, null, yes, no⟩ := kind
  rw [List.cons_append] at back ⊢
  rw [readScalar, if_neg quote, if_neg hex, if_neg null, if_neg yes, if_neg no, back]
  rfl

theorem readScalar_textLiteral (dialect : Dialect) (text : List Char) {rest : List Char}
    (boundary : Boundary rest) :
    readScalar dialect (textLiteral dialect text ++ rest) = some (.text text, rest) := by
  obtain ⟨body, shape, back⟩ := readString_textLiteral dialect text boundary.startsWithout
  rw [shape, List.cons_append, readScalar, if_pos rfl, back]
  rfl

theorem readScalar_plainLiteral (dialect : Dialect) {text rest : List Char} (plain : Plain text)
    (boundary : Boundary rest) :
    readScalar dialect (plainLiteral text ++ rest) = some (.text text, rest) := by
  rw [← textLiteral_of_plain dialect plain]
  exact readScalar_textLiteral dialect text boundary

theorem readScalar_literal (dialect : Dialect) {v : Value} {rest : List Char}
    (scalar : ∀ items, v ≠ .list items) (boundary : Boundary rest) :
    readScalar dialect (literal dialect v ++ rest) = some (content v, rest) := by
  cases v with
  | null => simp [literal, content, readScalar, after?]
  | boolean b => cases b <;> simp [literal, content, Value.boolText, readScalar, after?]
  | int64 n =>
      rw [literal, content]
      exact readScalar_number dialect (writes_integerText n.toInt) boundary
  | uint64 n =>
      rw [literal, content]
      exact readScalar_number dialect (writes_digits n.toNat) boundary
  | float64 x =>
      rw [literal, content, floatLiteral]
      split
      · next finite => exact readScalar_number dialect (writes_float finite) boundary
      · simp [readScalar, after?]
  | decimal d =>
      rw [literal, content]
      exact readScalar_number dialect (writes_decimal d) boundary
  | varchar text =>
      rw [literal, content]
      exact readScalar_textLiteral dialect text.toList boundary
  | blob octets =>
      have back := readOctets_flatMap octets rest
      simp [literal, content, blobLiteral, readScalar, after?, back]
  | date d =>
      rw [literal, content]
      exact readScalar_plainLiteral dialect (plain_date d) boundary
  | time t =>
      rw [literal, content]
      exact readScalar_plainLiteral dialect (plain_time t) boundary
  | timestamp t =>
      rw [literal, content]
      exact readScalar_plainLiteral dialect (plain_timestamp t) boundary
  | uuid id =>
      rw [literal, content]
      exact readScalar_plainLiteral dialect (plain_uuid id) boundary
  | list items => exact absurd rfl (scalar items)

theorem literal_ne_nil (dialect : Dialect) (v : Value) : literal dialect v ≠ [] := by
  by_cases scalar : ∀ items, v ≠ .list items
  · intro empty
    have back : readScalar dialect (literal dialect v ++ []) = some (content v, []) :=
      readScalar_literal dialect scalar Next.nil
    rw [empty] at back
    cases back
  · obtain ⟨items, rfl⟩ := by simpa using scalar
    simp [literal]

theorem literal_list (dialect : Dialect) (items : List Value) :
    literal dialect (.list items) =
      '(' :: (listed comma (items.map (literal dialect)) ++ [')']) := by
  have nonempty : ∀ text ∈ items.map (literal dialect), text ≠ [] := by
    intro text mem
    obtain ⟨item, -, rfl⟩ := List.mem_map.1 mem
    exact literal_ne_nil dialect item
  rw [literal, separated_eq_listed comma nonempty, List.cons_append]

theorem readScalar_open (dialect : Dialect) (rest : List Char) :
    readScalar dialect ('(' :: rest) = none := by
  simp [readScalar, readNumber, readSign, readDigits]

theorem readLiteralWithin_close (dialect : Dialect) (depth : Nat) (rest : List Char) :
    readLiteralWithin dialect depth (')' :: rest) = none := by
  cases depth <;> simp [readLiteralWithin, after?, readScalar, readNumber, readSign, readDigits]

theorem readItems_listed {dialect : Dialect} {depth : Nat} {items : List Value}
    {rest : List Char}
    (reads : ∀ item ∈ items, ∀ more, Boundary more →
      readLiteralWithin dialect depth (literal dialect item ++ more) = some (content item, more)) :
    readItems (readLiteralWithin dialect depth)
        (listed comma (items.map (literal dialect)) ++ ')' :: rest) =
      some (.list (items.map content), rest) := by
  by_cases empty : items = []
  · subst empty
    simp [readItems, after?]
  · have back : readSeparated (readLiteralWithin dialect depth) comma
        (listed comma (items.map (literal dialect)) ++ ')' :: rest) =
          some (items.map content, ')' :: rest) :=
      readSeparated_listed Boundary empty (by simp [comma]) reads
        (fun more => Next.cons (' ' :: more) (.inr (.inl rfl)))
        (Next.cons rest (.inl rfl)) (by simp [comma, after?])
    -- No item starts with the closing parenthesis, so these items are not taken for none.
    rw [readItems]
    split
    · next more closes =>
        rw [eq_append_of_after? closes, List.singleton_append, readSeparated,
          readLiteralWithin_close] at back
        cases back
    · simp [back, after?]

/-- Literals are read back with every depth that their length does not exceed. -/
theorem readLiteralWithin_literal (dialect : Dialect) (depth : Nat) (v : Value)
    {rest : List Char} (enough : (literal dialect v).length ≤ depth) (boundary : Boundary rest) :
    readLiteralWithin dialect depth (literal dialect v ++ rest) = some (content v, rest) := by
  -- A list is longer than each of its items, so one level less is enough for them.
  induction depth generalizing v rest with
  | zero =>
      have empty := List.length_eq_zero_iff.1 (Nat.le_zero.1 enough)
      exact absurd empty (literal_ne_nil dialect v)
  | succ depth ih =>
      by_cases scalar : ∀ items, v ≠ .list items
      · have back := readScalar_literal dialect scalar boundary
        rw [readLiteralWithin]
        split
        · next inner opens =>
            rw [eq_append_of_after? opens, List.singleton_append, readScalar_open] at back
            cases back
        · exact back
      · obtain ⟨items, rfl⟩ := by simpa using scalar
        rw [literal_list] at enough ⊢
        have reads : ∀ item ∈ items, ∀ more, Boundary more →
            readLiteralWithin dialect depth (literal dialect item ++ more) =
              some (content item, more) := by
          intro item mem more next
          have inside := length_le_listed comma (List.mem_map_of_mem (f := literal dialect) mem)
          refine ih item ?_ next
          simp only [List.length_cons, List.length_append, List.length_nil] at enough
          omega
        rw [List.cons_append, List.append_assoc, List.singleton_append, readLiteralWithin,
          show after? ['('] ('(' :: (listed comma (items.map (literal dialect)) ++ ')' :: rest)) =
            some (listed comma (items.map (literal dialect)) ++ ')' :: rest) from rfl, content]
        exact readItems_listed reads

/-- The literal of a value is read back whole, and nothing behind it: what the reader takes is the
content of the value, whatever the value holds and whatever may stand behind a literal. -/
theorem readLiteral_literal (dialect : Dialect) (v : Value) {rest : List Char}
    (boundary : Boundary rest) :
    readLiteral dialect (literal dialect v ++ rest) = some (content v, rest) :=
  readLiteralWithin_literal dialect _ v (by simp) boundary

/-- A list that holds a text full of punctuation, in front of what could be another clause. -/
theorem readLiteral_literal_punctuation :
    readLiteral .mysql
        (literal .mysql (.list [.varchar "\\') OR ('", .list [.int64 (-7), .null]]) ++
          ") AND (".toList) =
      some (.list [.text "\\') OR ('".toList, .list [.number (-7), .null]], ") AND (".toList) := by
  have back := readLiteral_literal .mysql
    (.list [.varchar "\\') OR ('", .list [.int64 (-7), .null]])
    (Next.cons " AND (".toList (.inl rfl))
  simpa [content] using back

end TableGateway.ReadBack
