import TableGateway.Proofs.Template.Pieces

/-!
# The loop that fills a template

Each round looks for the next question mark, copies the text in front of it, and writes the
placeholder that starts there with the next value. What is written is put behind the text and only
what is left of the template is looked at, so no round depends on the text of a value. Each round
takes one placeholder, and so the loop ends behind the last one.
-/

namespace TableGateway.Sql

/-- How far a template is filled: the text, and what is left of the template and of the values. -/
structure Filling where
  out : List Char
  rest : List Char
  values : List Value

namespace Filling

variable (dialect : Dialect)

def put (s : Filling) (hole : Piece) (rest : List Char) : Filling :=
  ⟨s.out ++ s.rest.takeWhile (· != '?') ++ hole.filled dialect s.values.head?, rest, s.values.tail⟩

/-- A round of the loop, if a question mark is left. -/
def round? (s : Filling) : Option Filling :=
  match s.rest.dropWhile (· != '?') with
  | [] => none
  | '?' :: '?' :: rest => some (s.put dialect .name rest)
  | _ :: rest => some (s.put dialect .value rest)

inductive Rounds : Nat → Filling → Filling → Prop
  | refl (s : Filling) : Rounds 0 s s
  | next {n : Nat} {s t u : Filling} (round : s.round? dialect = some t) (more : Rounds n t u) :
      Rounds (n + 1) s u

variable {dialect}

/-! ## One round -/

/-- A text is copied by the round that takes the placeholder behind it. -/
theorem round?_text {cs : List Char} (plain : '?' ∉ cs) (out rest : List Char)
    (values : List Value) :
    round? dialect ⟨out, cs ++ rest, values⟩ = round? dialect ⟨out ++ cs, rest, values⟩ := by
  have others : ∀ c ∈ cs, (c != '?') = true := by
    intro c mem
    rw [bne_iff_ne]
    rintro rfl
    exact plain mem
  rw [round?, round?, List.dropWhile_append_of_pos others]
  simp only [put, List.takeWhile_append_of_pos others, List.append_assoc]

theorem round?_name (out rest : List Char) (values : List Value) :
    round? dialect ⟨out, '?' :: '?' :: rest, values⟩ =
      some ⟨out ++ Piece.name.filled dialect values.head?, rest, values.tail⟩ := by
  simp [round?, put]

theorem round?_value {rest : List Char} (single : rest.head? ≠ some '?') (out : List Char)
    (values : List Value) :
    round? dialect ⟨out, '?' :: rest, values⟩ =
      some ⟨out ++ Piece.value.filled dialect values.head?, rest, values.tail⟩ := by
  cases rest with
  | nil => simp [round?, put]
  | cons c rest =>
      have other : c ≠ '?' := fun same => single (congrArg some same)
      simp [round?, put, other]

theorem round?_plain {rest : List Char} (plain : '?' ∉ rest) (out : List Char)
    (values : List Value) : round? dialect ⟨out, rest, values⟩ = none := by
  rw [← List.append_nil rest, round?_text plain]
  rfl

/-- What is ahead of a round: no question mark, the placeholder of a name or that of a literal. -/
inductive Ahead : List Char → Prop
  | plain {rest : List Char} (plain : '?' ∉ rest) : Ahead rest
  | name {front : List Char} (plain : '?' ∉ front) (behind : List Char) :
      Ahead (front ++ '?' :: '?' :: behind)
  | value {front behind : List Char} (plain : '?' ∉ front) (single : behind.head? ≠ some '?') :
      Ahead (front ++ '?' :: behind)

theorem ahead (rest : List Char) : Ahead rest := by
  by_cases mem : '?' ∈ rest
  · obtain ⟨front, behind, rfl, plain⟩ := List.eq_append_cons_of_mem mem
    by_cases double : behind.head? = some '?'
    · obtain ⟨behind, rfl⟩ := List.head?_eq_some_iff.1 double
      exact .name plain behind
    · exact .value plain double
  · exact .plain mem

/-- What some rounds keep and how far they lead: the text only grows, the rest of the template is an
end of what it was, each round takes a value, and filling what is left gives the same text. -/
structure Advances (dialect : Dialect) (n : Nat) (s t : Filling) : Prop where
  fill_eq : t.out ++ fill dialect t.rest t.values = s.out ++ fill dialect s.rest s.values
  out : s.out <+: t.out
  rest : t.rest <:+ s.rest
  length : t.rest.length + n ≤ s.rest.length
  values : t.values = s.values.drop n

/-- The round that takes a placeholder behind a text. -/
theorem advances_of_hole {out front behind : List Char} {values : List Value} (hole : Piece)
    (some_char : hole.spelling ≠ [])
    (filled : fill dialect (front ++ (hole.spelling ++ behind)) values =
      front ++ (hole.filled dialect values.head? ++ fill dialect behind values.tail)) :
    Advances dialect 1 ⟨out, front ++ (hole.spelling ++ behind), values⟩
      ⟨out ++ front ++ hole.filled dialect values.head?, behind, values.tail⟩ where
  fill_eq := by
    rw [filled]
    simp only [List.append_assoc]
  out := by
    rw [List.append_assoc]
    exact List.prefix_append _ _
  rest := by
    rw [← List.append_assoc]
    exact List.suffix_append _ _
  length := by
    have := List.length_pos_iff.2 some_char
    simp only [List.length_append]
    omega
  values := List.drop_one.symm

theorem advances_of_round {s t : Filling} (round : s.round? dialect = some t) :
    Advances dialect 1 s t := by
  obtain ⟨out, rest, values⟩ := s
  cases ahead rest with
  | plain plain =>
      rw [round?_plain plain] at round
      cases round
  | name plain behind =>
      rw [round?_text plain, round?_name] at round
      cases round
      exact advances_of_hole .name (List.cons_ne_nil _ _)
        ((fill_text dialect plain _ values).trans (congrArg _ (fill_name dialect behind values)))
  | value plain single =>
      rw [round?_text plain, round?_value single] at round
      cases round
      exact advances_of_hole .value (List.cons_ne_nil _ _)
        ((fill_text dialect plain _ values).trans (congrArg _ (fill_value dialect single values)))

/-! ## All rounds -/

theorem Rounds.advances {n : Nat} {s t : Filling} (rounds : Rounds dialect n s t) :
    Advances dialect n s t := by
  induction rounds with
  | refl s => exact ⟨rfl, List.prefix_rfl, List.suffix_rfl, Nat.le_refl _, rfl⟩
  | @next n s t u round more ih =>
      have first := advances_of_round round
      constructor
      · exact ih.fill_eq.trans first.fill_eq
      · exact first.out.trans ih.out
      · exact ih.rest.trans first.rest
      · have := ih.length
        have := first.length
        omega
      · rw [ih.values, first.values, List.drop_drop, Nat.add_comm]

theorem fill_of_round?_eq_none {s : Filling} (ended : s.round? dialect = none) :
    fill dialect s.rest s.values = s.rest := by
  obtain ⟨out, rest, values⟩ := s
  cases ahead rest with
  | plain plain =>
      change fill dialect rest values = rest
      rw [← List.append_nil rest, fill_text dialect plain]
      rfl
  | name plain behind =>
      rw [round?_text plain, round?_name] at ended
      cases ended
  | value plain single =>
      rw [round?_text plain, round?_value single] at ended
      cases ended

/-- As many rounds as there are placeholders lead to the end of the loop. -/
theorem exists_rounds {rest : List Char} {pieces : List Piece} (splits : Splits rest pieces)
    (out : List Char) (values : List Value) :
    ∃ last, Rounds dialect (holes pieces) ⟨out, rest, values⟩ last ∧
      last.round? dialect = none := by
  induction splits generalizing out values with
  | done => exact ⟨_, .refl _, rfl⟩
  | @text cs rest behind some_char plain stops tail ih =>
      obtain ⟨last, rounds, ended⟩ := ih (out ++ cs) values
      rw [holes_cons_text]
      -- a text takes no round of its own: the first one, if there is one, copies it
      generalize holes behind = rounds_left at rounds ⊢
      cases rounds with
      | refl => exact ⟨_, .refl _, (round?_text plain out rest values).trans ended⟩
      | next round more =>
          exact ⟨last, .next ((round?_text plain out rest values).trans round) more, ended⟩
  | @name rest behind tail ih =>
      obtain ⟨last, rounds, ended⟩ :=
        ih (out ++ Piece.name.filled dialect values.head?) values.tail
      rw [holes_cons_of_isHole rfl]
      exact ⟨last, .next (round?_name out rest values) rounds, ended⟩
  | @value rest behind single tail ih =>
      obtain ⟨last, rounds, ended⟩ :=
        ih (out ++ Piece.value.filled dialect values.head?) values.tail
      rw [holes_cons_of_isHole rfl]
      exact ⟨last, .next (round?_value single out values) rounds, ended⟩

end Filling

/-! ## Templates -/

/-- Filling a template. A template falls into text and placeholders from left to right in one way,
and what is written is its pieces in order: a text as it is, and a placeholder as the value that has
as many values in front of it as the placeholder has others, or as it stands when there is no such
value. Values behind the last one that is taken are not looked at. Whatever is written for the first
pieces, the rest of the template is filled with the values that are left. The loop makes a round for
each placeholder and ends; whenever it looks for a placeholder it looks at an end of the template,
with the values that the rounds before have not taken, and what is written stays in front. -/
theorem fill_pieces (dialect : Dialect) (template : List Char) (values : List Value) :
    ∃ pieces, (∀ others, Splits template others ↔ others = pieces) ∧
      pieces.flatMap Piece.spelling = template ∧
      fill dialect template values = filledWith dialect values pieces ∧
      fill dialect template (values.take (holes pieces)) = fill dialect template values ∧
      (∀ n, fill dialect template values =
        filledWith dialect values (pieces.take n) ++
          fill dialect ((pieces.drop n).flatMap Piece.spelling)
            (values.drop (holes (pieces.take n)))) ∧
      (∃ last, Filling.Rounds dialect (holes pieces) ⟨[], template, values⟩ last ∧
        last.round? dialect = none ∧ last.out ++ last.rest = fill dialect template values) ∧
      ∀ n reached, Filling.Rounds dialect n ⟨[], template, values⟩ reached →
        reached.out <+: fill dialect template values ∧ reached.rest <:+ template ∧
          reached.values = values.drop n := by
  have splits := splits_pieces template
  refine ⟨pieces template, fun others => splits_iff, splits.flatMap_spelling,
    splits.fill_eq dialect values, ?_, splits.fill_eq_append dialect values, ?_, ?_⟩
  · rw [splits.fill_eq, splits.fill_eq, filledWith_take]
  · obtain ⟨last, rounds, ended⟩ := Filling.exists_rounds splits [] values
    refine ⟨last, rounds, ended, ?_⟩
    rw [← Filling.fill_of_round?_eq_none ended]
    exact rounds.advances.fill_eq
  · intro n reached rounds
    have advances := rounds.advances
    exact ⟨⟨_, advances.fill_eq⟩, advances.rest, advances.values⟩

end TableGateway.Sql
