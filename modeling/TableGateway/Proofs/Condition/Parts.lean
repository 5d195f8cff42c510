import TableGateway.Condition.Predicate

/-!
# Predicates from parts

A list of parts is decoded as an operator, a value and at most one conjunction. It gives the
predicate that is built by hand from the same words, where null and a blank text stand for `=` or
`AND`. A part that is no text, or whose text is not understood, is refused, and the operator is
looked at first.
-/

namespace TableGateway

open Text (isAllBlank)

variable {α : Type}

/-! ## Parts that stand for words -/

/-- A part that stands for a default: null or a text of blanks. -/
def isBlankPart : Value → Bool
  | .null => true
  | .varchar text => isAllBlank text
  | _ => false

/-- A place in a list of parts: the word that a blank part stands for there, how a word is
understood, and what a part is refused with. -/
structure Slot (α : Type) where
  default : String
  read? : String → Option α
  unsupported : String → ParameterError
  notText : Value → ParameterError
  reads_default : (read? default).isSome = true

namespace Slot

/-- The word that a part stands for. Only null and texts stand for one. -/
def word? (slot : Slot α) : Value → Option String
  | .null => some slot.default
  | .varchar text => some (if isAllBlank text then slot.default else text)
  | _ => none

def read (slot : Slot α) (word : String) : Except Failure α :=
  match slot.read? word with
  | some a => .ok a
  | none => .error (.invalidParameter (slot.unsupported word))

def ofPart (slot : Slot α) (part : Value) : Except Failure α :=
  match slot.word? part with
  | some word => slot.read word
  | none => .error (.invalidParameter (slot.notText part))

/-- A part is refused as neither null nor a text, or for a text that is neither blank nor
understood. -/
inductive Refuses (slot : Slot α) : Value → ParameterError → Prop where
  | notText {part : Value} (some_value : part ≠ .null) (other : part.text? = none) :
      Refuses slot part (slot.notText part)
  | unsupported {text : String} (some_word : isAllBlank text = false)
      (unread : slot.read? text = none) : Refuses slot (.varchar text) (slot.unsupported text)

variable (slot : Slot α)

theorem read_eq_ok_iff {word : String} {a : α} :
    slot.read word = .ok a ↔ slot.read? word = some a := by
  rw [read]
  cases slot.read? word <;> simp

theorem ofPart_eq_ok_iff {part : Value} {a : α} :
    slot.ofPart part = .ok a ↔ ∃ word, slot.word? part = some word ∧ slot.read word = .ok a := by
  rw [ofPart]
  cases slot.word? part <;> simp

theorem ofPart_of_blank {part : Value} (blank : isBlankPart part = true) :
    slot.ofPart part = slot.read slot.default := by
  cases part with
  | null => rfl
  | varchar text => rw [ofPart, word?, if_pos (show isAllBlank text = true from blank)]
  | _ => cases blank

/-- The default word is understood, so that only a word of the part itself is refused. -/
theorem ofPart_eq_error_iff {part : Value} {f : Failure} :
    slot.ofPart part = .error f ↔
      ∃ error, f = .invalidParameter error ∧ slot.Refuses part error := by
  obtain ⟨a, understood⟩ := Option.isSome_iff_exists.1 slot.reads_default
  have accepted : slot.read slot.default = .ok a := slot.read_eq_ok_iff.2 understood
  constructor
  · intro refused
    unfold ofPart word? at refused
    split at refused
    · next word stands =>
        split at stands
        · obtain rfl := Option.some.inj stands
          rw [accepted] at refused
          cases refused
        · next text =>
            obtain rfl := Option.some.inj stands
            split at refused
            · rw [accepted] at refused
              cases refused
            · next some_word =>
                unfold read at refused
                split at refused
                · cases refused
                · next unread =>
                    obtain rfl := Except.error.inj refused
                    exact ⟨_, rfl, .unsupported (Bool.eq_false_iff.2 some_word) unread⟩
        · cases stands
    · next stands =>
        obtain rfl := Except.error.inj refused
        refine ⟨_, rfl, .notText ?_ ?_⟩
        · rintro rfl
          cases stands
        · cases part <;> first | rfl | cases stands
  · rintro ⟨error, rfl, refuses⟩
    cases refuses with
    | notText some_value other =>
        cases part with
        | null => exact absurd rfl some_value
        | varchar text => cases other
        | _ => rfl
    | unsupported some_word unread => simp [ofPart, word?, read, some_word, unread]

theorem exists_ofPart_iff {part : Value} :
    (∃ a, slot.ofPart part = .ok a) ↔ ∀ error, ¬slot.Refuses part error := by
  constructor
  · rintro ⟨a, understood⟩ error refuses
    have refused := slot.ofPart_eq_error_iff.2 ⟨error, rfl, refuses⟩
    rw [understood] at refused
    cases refused
  · intro allowed
    cases meaning : slot.ofPart part with
    | ok a => exact ⟨a, rfl⟩
    | error f =>
        obtain ⟨error, -, refuses⟩ := slot.ofPart_eq_error_iff.1 meaning
        exact absurd refuses (allowed error)

end Slot

namespace Predicate

def operatorSlot : Slot Operator :=
  ⟨"=", Operator.read?, .unsupportedOperator, .operatorNotText, rfl⟩

def conjunctionSlot : Slot Conjunction :=
  ⟨"AND", Conjunction.read?, .unsupportedConjunction, .conjunctionNotText, rfl⟩

theorem readOperator_eq (word : String) : readOperator word = operatorSlot.read word := by
  rw [readOperator, Slot.read, show operatorSlot.read? = Operator.read? from rfl]
  cases Operator.read? word <;> rfl

theorem readConjunction_eq (word : String) :
    readConjunction word = conjunctionSlot.read word := by
  rw [readConjunction, Slot.read, show conjunctionSlot.read? = Conjunction.read? from rfl]
  cases Conjunction.read? word <;> rfl

theorem operatorOfPart_eq (part : Value) : operatorOfPart part = operatorSlot.ofPart part := by
  cases part with
  | varchar text =>
      rw [operatorOfPart, Slot.ofPart, Slot.word?, readOperator_eq]
      by_cases blank : isAllBlank text = true
      · rw [if_pos blank, if_pos blank]
        rfl
      · rw [if_neg blank, if_neg blank]
  | _ => rfl

theorem conjunctionOfPart_eq (part : Value) :
    conjunctionOfPart part = conjunctionSlot.ofPart part := by
  cases part with
  | varchar text =>
      rw [conjunctionOfPart, Slot.ofPart, Slot.word?, readConjunction_eq]
      by_cases blank : isAllBlank text = true
      · rw [if_pos blank, if_pos blank]
        rfl
      · rw [if_neg blank, if_neg blank]
  | _ => rfl

/-! ## The parts together -/

theorem ofParts_eq (operator value : Value) (last : Option Value) :
    ofParts (operator :: value :: last.toList) = do
      let o ← operatorSlot.ofPart operator
      let c ← conjunctionSlot.ofPart (last.getD .null)
      return compare o value c := by
  cases last with
  | none =>
      change (operatorOfPart operator).map _ = _
      rw [operatorOfPart_eq]
      cases operatorSlot.ofPart operator <;> rfl
  | some conjunction =>
      change (do
        let o ← operatorOfPart operator
        let c ← conjunctionOfPart conjunction
        return compare o value c) = _
      rw [operatorOfPart_eq, conjunctionOfPart_eq]
      rfl

theorem ofParts_eq_ok_iff {operator value : Value} {last : Option Value} {p : Predicate} :
    ofParts (operator :: value :: last.toList) = .ok p ↔
      ∃ o c, operatorSlot.ofPart operator = .ok o ∧
        conjunctionSlot.ofPart (last.getD .null) = .ok c ∧ p = compare o value c := by
  rw [ofParts_eq]
  cases operatorSlot.ofPart operator with
  | error f => exact iff_of_false nofun nofun
  | ok o =>
      cases conjunctionSlot.ofPart (last.getD .null) with
      | error f => exact iff_of_false nofun nofun
      | ok c => simp [bind, Except.bind, pure, Except.pure, eq_comm]

/-- The conjunction is looked at only behind an operator that is understood. -/
theorem ofParts_eq_error_iff {operator value : Value} {last : Option Value} {f : Failure} :
    ofParts (operator :: value :: last.toList) = .error f ↔
      operatorSlot.ofPart operator = .error f ∨
        (∃ o, operatorSlot.ofPart operator = .ok o) ∧
          conjunctionSlot.ofPart (last.getD .null) = .error f := by
  rw [ofParts_eq]
  cases operatorSlot.ofPart operator with
  | error other => simp [bind, Except.bind]
  | ok o =>
      cases conjunctionSlot.ofPart (last.getD .null) with
      | error other => simp [bind, Except.bind]
      | ok c => simp [bind, Except.bind, pure, Except.pure]

/-- The parts give the predicate that their words give by hand. -/
theorem ofParts_eq_built_iff {operator value : Value} {last : Option Value} {p : Predicate} :
    ofParts (operator :: value :: last.toList) = .ok p ↔
      ∃ word joining c, operatorSlot.word? operator = some word ∧
        conjunctionSlot.word? (last.getD .null) = some joining ∧
        readConjunction joining = .ok c ∧
        (ofText word value).map (fun built => built.withConjunction c) = .ok p := by
  rw [ofParts_eq_ok_iff]
  constructor
  · rintro ⟨o, c, meant, joins, rfl⟩
    obtain ⟨word, stands, understood⟩ := operatorSlot.ofPart_eq_ok_iff.1 meant
    obtain ⟨joining, stands_last, read⟩ := conjunctionSlot.ofPart_eq_ok_iff.1 joins
    refine ⟨word, joining, c, stands, stands_last, (readConjunction_eq joining).trans read, ?_⟩
    rw [ofText, readOperator_eq, understood]
    rfl
  · rintro ⟨word, joining, c, stands, stands_last, read, built⟩
    rw [readConjunction_eq] at read
    have joins := conjunctionSlot.ofPart_eq_ok_iff.2 ⟨joining, stands_last, read⟩
    rw [ofText, readOperator_eq] at built
    cases understood : operatorSlot.read word with
    | error f =>
        rw [understood] at built
        cases built
    | ok o =>
        rw [understood] at built
        have meant := operatorSlot.ofPart_eq_ok_iff.2 ⟨word, stands, understood⟩
        exact ⟨o, c, meant, joins, (Except.ok.inj built).symm⟩

/-- There are too few parts, or too many, or an operator and a value with at most one behind. -/
theorem parts_cases (parts : List Value) :
    (parts.length < 2 ∧ ofParts parts = .error (.invalidParameter .tooFewParts)) ∨
    (3 < parts.length ∧ ofParts parts = .error (.invalidParameter .tooManyParts)) ∨
    ∃ operator value last, parts = operator :: value :: Option.toList last :=
  match parts with
  | [] | [_] => .inl ⟨by simp, rfl⟩
  | [operator, value] => .inr (.inr ⟨operator, value, none, rfl⟩)
  | [operator, value, conjunction] => .inr (.inr ⟨operator, value, some conjunction, rfl⟩)
  | _ :: _ :: _ :: _ :: _ => .inr (.inl ⟨by simp, rfl⟩)

/-- A list of parts is a predicate built by hand. Fewer than two parts and more than three are
refused. Of two or three parts the first stands for an operator and the last for a conjunction, by a
default word where it is missing, null or blank, and they give the comparison that is built from
these words, with the value as it is: by default `=`, joined by `AND`. They are refused exactly where
one of them is neither null nor a text, or a text that is neither blank nor understood, and where
both are, for the operator. -/
theorem builds_parts (parts : List Value) :
    (parts.length < 2 ∧ ofParts parts = .error (.invalidParameter .tooFewParts)) ∨
    (3 < parts.length ∧ ofParts parts = .error (.invalidParameter .tooManyParts)) ∨
    ∃ operator value last, parts = operator :: value :: Option.toList last ∧
      (∀ p, ofParts parts = .ok p ↔
        ∃ word joining c, operatorSlot.word? operator = some word ∧
          conjunctionSlot.word? (last.getD .null) = some joining ∧
          readConjunction joining = .ok c ∧
          (ofText word value).map (fun built => built.withConjunction c) = .ok p) ∧
      (∀ p, ofParts parts = .ok p → ∃ o c, p = compare o value c ∧
        (isBlankPart operator = true → o = .equal) ∧
        (isBlankPart (last.getD .null) = true → c = .and)) ∧
      ∀ f, ofParts parts = .error f ↔
        ∃ error, f = .invalidParameter error ∧
          (operatorSlot.Refuses operator error ∨
            (∀ other, ¬operatorSlot.Refuses operator other) ∧
              conjunctionSlot.Refuses (last.getD .null) error) := by
  rcases parts_cases parts with few | many | ⟨operator, value, last, rfl⟩
  · exact .inl few
  · exact .inr (.inl many)
  refine .inr (.inr ⟨operator, value, last, rfl, fun p => ofParts_eq_built_iff, ?_, ?_⟩)
  · intro p gives
    obtain ⟨o, c, meant, joins, rfl⟩ := ofParts_eq_ok_iff.1 gives
    refine ⟨o, c, rfl, fun blank => ?_, fun blank => ?_⟩
    · exact (Except.ok.inj ((operatorSlot.ofPart_of_blank blank).symm.trans meant)).symm
    · exact (Except.ok.inj ((conjunctionSlot.ofPart_of_blank blank).symm.trans joins)).symm
  · intro f
    rw [ofParts_eq_error_iff, Slot.ofPart_eq_error_iff, Slot.ofPart_eq_error_iff,
      Slot.exists_ofPart_iff]
    constructor
    · rintro (⟨error, rfl, refuses⟩ | ⟨allowed, error, rfl, refuses⟩)
      · exact ⟨error, rfl, .inl refuses⟩
      · exact ⟨error, rfl, .inr ⟨allowed, refuses⟩⟩
    · rintro ⟨error, rfl, refuses | ⟨allowed, refuses⟩⟩
      · exact .inl ⟨error, rfl, refuses⟩
      · exact .inr ⟨allowed, error, rfl, refuses⟩

/-- A blank operator and a conjunction between blanks, around a value that is itself a list. -/
example :
    ofParts [.varchar "\u3000", .list [.varchar "=", .null], .varchar " oR\u00a0"] =
      .ok (compare .equal (.list [.varchar "=", .null]) .or) := by
  rfl

/-- Of two parts that are refused the operator is told. -/
example :
    ofParts [.varchar "< =", .null, .boolean true] =
      .error (.invalidParameter (.unsupportedOperator "< =")) := by
  rfl

end Predicate

end TableGateway
