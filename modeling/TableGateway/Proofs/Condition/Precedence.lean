import Mathlib.Data.List.SplitLengths
import TableGateway.Proofs.Condition.Chain

/-!
# What joined clauses mean

The clauses of a condition are written one behind the other with `AND` and `OR` between them and no
parentheses around more than one of them, so a database groups them by precedence. An `OR` joins
what stands behind it to everything in front of it. An `AND` joins its clause to the clauses in front
of it back to the last `OR` and no further: it restricts all that stands before it only where no
`OR` does.
-/

namespace TableGateway

open Sql (Dialect clauseText joinedClauses whereClauses whereText)
open Text (listed)

/-! ## The reader -/

namespace ReadBack

def readConjoined (dialect : Dialect) : Reader (List Comparison) :=
  readSeparated (readComparison dialect) " AND ".toList

/-- Reads a whole `WHERE` by precedence: groups with `OR` between them, and in a group clauses with
`AND` between them. -/
def readGroups (dialect : Dialect) (text : List Char) : Option (List (List Comparison)) := do
  let text ← after? " WHERE ".toList text
  let (groups, rest) ← readSeparated (readConjoined dialect) " OR ".toList text
  if rest = [] then return groups else none

/-- The truth of a whole `WHERE` for truth values of its clauses in order: all clauses of a group
hold. -/
def truth (dialect : Dialect) (text : List Char) (values : List Bool) : Option Bool :=
  (readGroups dialect text).map fun groups =>
    ((groups.map List.length).splitLengths values).any fun group => group.all id

end ReadBack

open ReadBack (after? after?_append declared readComparison_clauseText readConjoined readGroups
  readSeparated readSeparated_listed truth)

/-! ## Joining by hand -/

def Conjunction.join : Conjunction → Bool → Bool → Bool
  | and, before, value => before && value
  | or, before, value => before || value

/-- Joins each truth value to everything before it. -/
def leftToRight (first : Bool) (more : List (Conjunction × Bool)) : Bool :=
  more.foldl (fun before clause => clause.1.join before clause.2) first

/-- Joins truth values where `AND` binds tighter than `OR`, behind the value of a group that has
begun. -/
def tightly (group : Bool) : List (Conjunction × Bool) → Bool
  | [] => group
  | (.and, value) :: rest => tightly (group && value) rest
  | (.or, value) :: rest => group || tightly value rest

/-- No `AND` behind an `OR`. -/
def AndsFirst (words : List Conjunction) : Prop :=
  words.Pairwise fun before behind => before = .or → behind = .or

/-! ### Where the two agree -/

theorem leftToRight_of_or {more : List (Conjunction × Bool)} (ors : ∀ clause ∈ more, clause.1 = .or)
    (before : Bool) : leftToRight before more = (before || more.any Prod.snd) := by
  induction more generalizing before with
  | nil => simp [leftToRight]
  | cons clause rest ih =>
      obtain ⟨word, value⟩ := clause
      obtain ⟨rfl, behind⟩ := List.forall_mem_cons.1 ors
      rw [List.any_cons, ← Bool.or_assoc, ← ih behind]
      rfl

theorem tightly_of_or {more : List (Conjunction × Bool)} (ors : ∀ clause ∈ more, clause.1 = .or)
    (group : Bool) : tightly group more = (group || more.any Prod.snd) := by
  induction more generalizing group with
  | nil => simp [tightly]
  | cons clause rest ih =>
      obtain ⟨word, value⟩ := clause
      obtain ⟨rfl, behind⟩ := List.forall_mem_cons.1 ors
      rw [tightly, ih behind, List.any_cons]

/-- Where everything behind a true value is false, only an `AND` is heard. -/
theorem leftToRight_replicate_false (before : Bool) (words : List Conjunction) :
    leftToRight before (words.zip (List.replicate words.length false)) =
      (before && words.all (· = .or)) := by
  induction words generalizing before with
  | nil => simp [leftToRight]
  | cons word rest ih =>
      change leftToRight (word.join before false) (rest.zip (List.replicate rest.length false)) = _
      rw [ih]
      cases word <;> simp [Conjunction.join]

/-- Precedence is joining from left to right exactly where no `AND` stands behind an `OR`. -/
theorem tightly_eq_leftToRight_iff (words : List Conjunction) :
    (∀ value values, values.length = words.length →
      tightly value (words.zip values) = leftToRight value (words.zip values)) ↔
      AndsFirst words := by
  induction words with
  | nil => exact iff_of_true (fun value values _ => rfl) .nil
  | cons word rest ih =>
      cases word with
      | and =>
          constructor
          · intro same
            refine List.pairwise_cons.2 ⟨fun _ _ => nofun, ih.1 ?_⟩
            intro value values length
            have here := same value (true :: values) (congrArg Nat.succ length)
            simpa [tightly, leftToRight, Conjunction.join] using here
          · intro ordered value values length
            obtain ⟨next, values, rfl⟩ := List.exists_cons_of_length_eq_add_one length
            exact ih.2 (List.pairwise_cons.1 ordered).2 (value && next) values (Nat.succ.inj length)
      | or =>
          constructor
          · intro same
            have here := same true (List.replicate (rest.length + 1) false) (by simp)
            have ors : ∀ other ∈ rest, other = .or := by
              have heard := leftToRight_replicate_false true (.or :: rest)
              rw [List.length_cons] at heard
              rw [heard] at here
              simpa [tightly, List.replicate_succ] using here
            refine List.pairwise_cons.2 ⟨fun other mem _ => ors other mem, ?_⟩
            exact List.pairwise_of_forall_mem_list fun _ _ other mem _ => ors other mem
          · intro ordered value values _
            have ors : ∀ clause ∈ (Conjunction.or :: rest).zip values, clause.1 = .or := by
              intro clause mem
              rcases List.mem_cons.1 (List.of_mem_zip mem).1 with first | behind
              · exact first
              · exact (List.pairwise_cons.1 ordered).1 _ behind rfl
            rw [tightly_of_or ors, leftToRight_of_or ors]

/-- A last `AND` restricts everything before it exactly where there is no `OR`. -/
theorem tightly_append_false_iff (words : List Conjunction) :
    (∀ (value : Bool) (values : List Bool), values.length = words.length →
      tightly value ((words ++ [Conjunction.and]).zip (values ++ [false])) = false) ↔
      ∀ word ∈ words, word = .and := by
  induction words with
  | nil =>
      refine iff_of_true ?_ nofun
      intro value values length
      obtain rfl := List.length_eq_zero_iff.1 length
      exact Bool.and_false value
  | cons word rest ih =>
      rw [List.forall_mem_cons, ← ih]
      cases word with
      | and =>
          simp only [true_and]
          constructor
          · intro restricts value values length
            have here := restricts value (true :: values) (congrArg Nat.succ length)
            simpa [tightly] using here
          · intro restricts value values length
            obtain ⟨next, values, rfl⟩ := List.exists_cons_of_length_eq_add_one length
            exact restricts (value && next) values (Nat.succ.inj length)
      | or =>
          refine iff_of_false ?_ (fun both => Conjunction.noConfusion both.1)
          intro restricts
          have here := restricts true (List.replicate (rest.length + 1) false) (by simp)
          simp [tightly, List.replicate_succ] at here

/-! ## Groups -/

variable {α β : Type}

/-- The groups of a sequence, of which one has begun: an `OR` begins the next one. -/
def groupsFrom (group : List α) : List (Conjunction × α) → List (List α)
  | [] => [group]
  | (.and, item) :: rest => groupsFrom (group ++ [item]) rest
  | (.or, item) :: rest => group :: groupsFrom [item] rest

theorem groupsFrom_ne_nil (group : List α) (more : List (Conjunction × α)) :
    groupsFrom group more ≠ [] := by
  induction more generalizing group with
  | nil => exact List.cons_ne_nil _ _
  | cons joined rest ih =>
      obtain ⟨word, item⟩ := joined
      cases word with
      | and => exact ih _
      | or => exact List.cons_ne_nil _ _

theorem ne_nil_of_mem_groupsFrom {group : List α} (begun : group ≠ [])
    {more : List (Conjunction × α)} : ∀ other ∈ groupsFrom group more, other ≠ [] := by
  induction more generalizing group with
  | nil => exact fun other mem => List.mem_singleton.1 mem ▸ begun
  | cons joined rest ih =>
      obtain ⟨word, item⟩ := joined
      cases word with
      | and => exact ih (by simp)
      | or => exact List.forall_mem_cons.2 ⟨begun, ih (List.cons_ne_nil _ _)⟩

/-- Values for a sequence are cut as the sequence is. -/
theorem splitLengths_groupsFrom {group : List α} {more : List (Conjunction × α)}
    {begun values : List β} (enough : begun.length = group.length)
    (length : values.length = more.length) :
    ((groupsFrom group more).map List.length).splitLengths (begun ++ values) =
      groupsFrom begun ((more.map Prod.fst).zip values) := by
  induction more generalizing group begun values with
  | nil =>
      obtain rfl := List.length_eq_zero_iff.1 length
      simp [groupsFrom, ← enough]
  | cons joined rest ih =>
      obtain ⟨word, item⟩ := joined
      obtain ⟨value, values, rfl⟩ := List.exists_cons_of_length_eq_add_one length
      have fewer : values.length = rest.length := Nat.succ.inj length
      cases word with
      | and =>
          have longer : (begun ++ [value]).length = (group ++ [item]).length := by simp [enough]
          have behind := ih longer fewer
          rw [List.append_assoc] at behind
          exact behind
      | or =>
          have started : [value].length = [item].length := rfl
          have behind := ih started fewer
          rw [groupsFrom, List.map_cons, List.splitLengths_cons, ← enough, List.take_left,
            List.drop_left]
          exact congrArg (begun :: ·) behind

/-- Groups that are joined by `OR` have the value that precedence gives the whole. -/
theorem any_groupsFrom (group : List Bool) (more : List (Conjunction × Bool)) :
    ((groupsFrom group more).any fun group => group.all id) = tightly (group.all id) more := by
  induction more generalizing group with
  | nil => simp [groupsFrom, tightly]
  | cons joined rest ih =>
      obtain ⟨word, value⟩ := joined
      cases word with
      | and => simp [groupsFrom, tightly, ih]
      | or => simp [groupsFrom, tightly, ih]

/-! ## Groups of clauses read back -/

def worded (items : List Clause) : List (Conjunction × Clause) :=
  items.map fun clause => (clause.2.conjunction, clause)

def words (items : List Clause) : List Conjunction :=
  items.map fun clause => clause.2.conjunction

theorem length_words (items : List Clause) : (words items).length = items.length :=
  List.length_map _

def groupText (dialect : Dialect) (group : List Clause) : List Char :=
  listed " AND ".toList (group.map (clauseText dialect))

theorem listed_concat {separator last : List Char} {items : List (List Char)}
    (some_item : items ≠ []) :
    listed separator (items ++ [last]) = listed separator items ++ separator ++ last := by
  obtain ⟨first, rest, rfl⟩ := List.exists_cons_of_ne_nil some_item
  rw [List.cons_append, Text.listed_cons, Text.listed_cons]
  simp

theorem listed_cons_of_ne_nil {separator first : List Char} {items : List (List Char)}
    (some_item : items ≠ []) :
    listed separator (first :: items) = first ++ separator ++ listed separator items := by
  obtain ⟨next, rest, rfl⟩ := List.exists_cons_of_ne_nil some_item
  simp [listed]

theorem listed_groupsFrom (dialect : Dialect) {group : List Clause} (begun : group ≠ [])
    (more : List Clause) :
    listed " OR ".toList ((groupsFrom group (worded more)).map (groupText dialect)) =
      groupText dialect group ++ joinedClauses dialect more := by
  induction more generalizing group with
  | nil => simp [worded, groupsFrom, joinedClauses]
  | cons clause rest ih =>
      cases word : clause.2.conjunction with
      | and =>
          have joined : worded (clause :: rest) = (.and, clause) :: worded rest := by
            rw [worded, List.map_cons, word]
            rfl
          rw [joined, groupsFrom, ih (by simp), joinedClauses, word, groupText, List.map_append,
            List.map_singleton, listed_concat (by simpa using begun), groupText]
          simp [Conjunction.spelling]
      | or =>
          have joined : worded (clause :: rest) = (.or, clause) :: worded rest := by
            rw [worded, List.map_cons, word]
            rfl
          rw [joined, groupsFrom, List.map_cons,
            listed_cons_of_ne_nil (by simpa using groupsFrom_ne_nil [clause] (worded rest)),
            ih (List.cons_ne_nil _ _), joinedClauses, word]
          simp [groupText, Conjunction.spelling]

section Reading

variable (dialect : Dialect)

/-- A group is read back up to a text that does not go on with `AND`. -/
theorem readConjoined_groupText {group : List Clause} (some_clause : group ≠ []) {rest : List Char}
    (ends : after? " AND ".toList rest = none) :
    readConjoined dialect (groupText dialect group ++ rest) = some (group.map declared, rest) :=
  readSeparated_listed (fun _ => True) some_clause (by simp)
    (fun clause _ more _ => readComparison_clauseText dialect clause more) (fun _ => trivial) trivial
    ends

theorem readGroups_whereClauses (first : Clause) (more : List Clause) :
    readGroups dialect (whereClauses dialect (first :: more)) =
      some ((groupsFrom [first] (worded more)).map (List.map declared)) := by
  have groups : readSeparated (readConjoined dialect) " OR ".toList
      (listed " OR ".toList ((groupsFrom [first] (worded more)).map (groupText dialect)) ++ []) =
        some ((groupsFrom [first] (worded more)).map (List.map declared), []) :=
    readSeparated_listed (fun text => after? " AND ".toList text = none)
      (groupsFrom_ne_nil [first] (worded more)) (by simp)
      (fun group mem _ ends =>
        readConjoined_groupText dialect (ne_nil_of_mem_groupsFrom (List.cons_ne_nil _ _) group mem)
          ends)
      (fun _ => rfl) rfl rfl
  have written : whereClauses dialect (first :: more) =
      " WHERE ".toList ++ (groupText dialect [first] ++ joinedClauses dialect more) :=
    List.append_assoc ..
  rw [List.append_nil, listed_groupsFrom dialect (List.cons_ne_nil _ _)] at groups
  rw [written, readGroups, after?_append]
  simp only [Option.bind_eq_bind, Option.bind_some, groups]
  rfl

/-- A sequence of clauses means what its words mean by precedence. -/
theorem truth_whereClauses (first : Clause) (more : List Clause) (value : Bool)
    {values : List Bool} (length : values.length = more.length) :
    truth dialect (whereClauses dialect (first :: more)) (value :: values) =
      some (tightly value ((words more).zip values)) := by
  have cut : ((groupsFrom [first] (worded more)).map List.length).splitLengths ([value] ++ values) =
      groupsFrom [value] (((worded more).map Prod.fst).zip values) :=
    splitLengths_groupsFrom rfl (by simpa [worded] using length)
  have fronts : (worded more).map Prod.fst = words more := by simp [worded, words]
  have lengths : ((groupsFrom [first] (worded more)).map (List.map declared)).map List.length =
      (groupsFrom [first] (worded more)).map List.length := by
    simp
  rw [truth, readGroups_whereClauses, Option.map_some, lengths]
  change some ((List.splitLengths _ ([value] ++ values)).any _) = _
  rw [cut, fronts, any_groupsFrom]
  simp

end Reading

/-- What a sequence of clauses means. The text of clauses, however they were declared, has the truth
value that precedence gives them: an `OR` joins what stands behind it to all that stands before it,
an `AND` joins its clause to the clauses before it back to the last `OR`, and the conjunction of the
first clause does not count. For every truth assignment this is to join each clause to everything
before it exactly where no `AND` stands behind an `OR`. A last clause joined by `AND` keeps every
row out that does not satisfy it exactly where no other clause behind the first is joined by
`OR`. -/
theorem truth_of_clauses (dialect : Dialect) (pk : PrimaryKey) {condition : Condition} {first : Clause}
    {more : List Clause} (clauses : condition.clauses = first :: more) :
    ∃ text, whereText dialect pk condition = .ok text ∧
      (∀ value values, values.length = more.length →
        truth dialect text (value :: values) = some (tightly value ((words more).zip values))) ∧
      ((∀ value values, values.length = more.length →
        truth dialect text (value :: values) = some (leftToRight value ((words more).zip values))) ↔
          AndsFirst (words more)) ∧
      ∀ field predicate, predicate.conjunction = .and →
        ∃ longer, whereText dialect pk (condition.and field predicate) = .ok longer ∧
          ((∀ value values, values.length = more.length →
            truth dialect longer (value :: (values ++ [false])) = some false) ↔
              ∀ clause ∈ more, clause.2.conjunction = .and) := by
  have fits : ¬condition.GivesWay := by
    intro replaced
    rw [Condition.clauses_of_givesWay replaced] at clauses
    cases clauses
  have written : whereText dialect pk condition = .ok (whereClauses dialect (first :: more)) := by
    rw [Condition.whereText_of_clauses fits, clauses]
  refine ⟨_, written, ?_, ?_, ?_⟩
  · intro value values length
    exact truth_whereClauses dialect first more value length
  · have agrees := tightly_eq_leftToRight_iff (words more)
    rw [length_words] at agrees
    refine Iff.trans (forall₃_congr fun value values length => ?_) agrees
    rw [truth_whereClauses dialect first more value length, Option.some_inj]
  · intro field predicate last
    have longer : whereText dialect pk (condition.and field predicate) =
        .ok (whereClauses dialect (first :: (more ++ [(field, predicate)]))) := by
      rw [Condition.and, clauses]
      rfl
    have ending : words (more ++ [(field, predicate)]) = words more ++ [.and] := by
      simp [words, last]
    have restricts := tightly_append_false_iff (words more)
    rw [length_words] at restricts
    refine ⟨_, longer, ?_⟩
    refine Iff.trans (forall₃_congr fun value values length => ?_)
      (restricts.trans List.forall_mem_map)
    have enough : (values ++ [false]).length = (more ++ [(field, predicate)]).length := by
      simp [length]
    rw [truth_whereClauses dialect first _ value enough, ending, Option.some_inj]

/-- An `OR` behind an `AND` joins from left to right. -/
theorem truth_of_and_or :
    ∃ text, whereText .generic (.single "id")
        (.list [("a", .equals (.int64 1)), ("b", .equals (.int64 2)),
          ("c", .compare .equal (.int64 3) .or)]) = .ok text ∧
      ∀ value values, values.length = 2 → truth .generic text (value :: values) =
        some (leftToRight value ([Conjunction.and, Conjunction.or].zip values)) := by
  have clauses : (Condition.list [("a", .equals (.int64 1)), ("b", .equals (.int64 2)),
      ("c", .compare .equal (.int64 3) .or)]).clauses =
        ("a", .equals (.int64 1)) :: [("b", .equals (.int64 2)),
          ("c", .compare .equal (.int64 3) .or)] := rfl
  obtain ⟨text, written, -, joins, -⟩ := truth_of_clauses .generic (.single "id") clauses
  refine ⟨text, written, joins.2 ?_⟩
  simp [words, AndsFirst, Predicate.conjunction]

/-- An `AND` behind an `OR` lets a row through that does not satisfy its clause. -/
theorem exists_and_behind_or :
    ∃ text, whereText .generic (.single "id")
        (.list [("a", .equals (.int64 1)), ("b", .compare .equal (.int64 2) .or),
          ("c", .equals (.int64 3))]) = .ok text ∧
      truth .generic text [true, false, false] = some true ∧
      leftToRight true ([Conjunction.or, Conjunction.and].zip [false, false]) = false :=
  ⟨_, rfl, truth_whereClauses .generic _ _ true rfl, rfl⟩

end TableGateway
