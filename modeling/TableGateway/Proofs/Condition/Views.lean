import TableGateway.Key.Resolve
import TableGateway.Proofs.ReadBack.Clause

/-!
# The views of a condition

A condition is compiled to a text, which says what rows a statement is about, and gives a record of
the fields that it mentions, which is what an update checks. A key value, its record and what the
key resolves to are three ways to write one condition. All of these agree: the record is that of the
clauses in the text, and nothing is mentioned where nothing can be written.
-/

namespace TableGateway

open ReadBack (declared readClauses readClauses_whereClauses)
open Sql (Dialect Where whereClauses whereOf whereText)

namespace Condition

/-- The condition asks for the row with a key, by a value or by a raw text that looks like one. -/
def AsksForKey : Condition → Prop
  | key _ => True
  | raw sql => isKeyShaped sql = true
  | everything | keyed _ | list _ => False

/-- A record has the fields of some clauses in the order in which they first appear, each with the
value of the last clause on it. -/
structure Mentions (items : List Clause) (record : Record) : Prop where
  fields : record.keys = (items.map Prod.fst).eraseDups
  values : ∀ field,
    record.get? field = (items.reverse.find? fun clause => clause.1 = field).map (·.2.value)

structure Shows (dialect : Dialect) (pk : PrimaryKey) (condition : Condition) (text : List Char)
    (record : Record) : Prop where
  text : whereText dialect pk condition = .ok text
  record : condition.filterRecord pk = record

/-! ## The record of clauses -/

def recordOf (items : List Clause) : Record :=
  OrderedMap.ofList (items.map fun clause => (clause.1, clause.2.value))

theorem mentions_recordOf (items : List Clause) : Mentions items (recordOf items) := by
  constructor
  · rw [recordOf, OrderedMap.keys_ofList, List.map_map]
    rfl
  · intro field
    rw [recordOf, OrderedMap.get?_ofList, ← List.map_reverse, List.find?_map, Option.map_map]
    rfl

/-- Clauses on distinct fields have a record with their values in place. -/
theorem recordOf_entries (clauses : OrderedMap Predicate) :
    recordOf clauses.entries = clauses.map Predicate.value := by
  have distinct := (clauses.map Predicate.value).nodup
  have same : (recordOf clauses.entries).entries = (clauses.map Predicate.value).entries :=
    OrderedMap.entries_ofList distinct
  cases recorded : recordOf clauses.entries
  rw [recorded] at same
  subst same
  rfl

/-! ## What is written for a condition -/

/-- What may be written for a condition, with the record that goes with it. -/
inductive Written (pk : PrimaryKey) : Condition → Except Failure Where → Record → Prop where
  | refused {condition : Condition} (composite : pk.isComposite = true)
      (asks : condition.AsksForKey) :
      Written pk condition (.error (.invalidCall .compositeKeyInput)) ∅
  | clauses {condition : Condition} (fits : ¬(pk.isComposite = true ∧ condition.AsksForKey))
      (items : List Clause) : Written pk condition (.ok (.clauses items)) (recordOf items)
  | fragment {sql : String} (other : isKeyShaped sql = false) :
      Written pk (.raw sql) (.ok (.fragment sql.toList)) ∅

/-- A value is written as equality with the key field, if the key is a single one. -/
theorem written_keyClause (pk : PrimaryKey) {condition : Condition} (value : Value)
    (asks : condition.AsksForKey) :
    Written pk condition ((Sql.keyClause pk value).map fun clause => .clauses [clause])
      (keyRecord value pk) := by
  cases pk with
  | single field => exact .clauses (fun ⟨composite, _⟩ => Bool.noConfusion composite) [_]
  | composite fields => exact .refused rfl asks

theorem written (pk : PrimaryKey) (condition : Condition) :
    Written pk condition (whereOf pk condition) (condition.filterRecord pk) := by
  cases condition with
  | everything =>
      refine .clauses ?_ []
      exact And.right
  | key value => exact written_keyClause pk value trivial
  | raw sql =>
      rw [whereOf, filterRecord]
      by_cases empty : sql.isEmpty = true
      · have other : ¬isKeyShaped sql = true := by simp [isKeyShaped, empty]
        rw [if_pos empty, if_neg other]
        refine .clauses ?_ []
        exact fun asks => other asks.2
      · rw [if_neg empty]
        by_cases shaped : isKeyShaped sql = true
        · rw [if_pos shaped, if_pos shaped]
          exact written_keyClause pk _ shaped
        · rw [if_neg shaped, if_neg shaped]
          exact .fragment (Bool.eq_false_iff.2 shaped)
  | keyed clauses =>
      rw [whereOf, filterRecord, ← recordOf_entries]
      refine .clauses ?_ _
      exact And.right
  | list clauses =>
      refine .clauses ?_ _
      exact And.right

theorem whereText_eq_error_iff {dialect : Dialect} {pk : PrimaryKey} {condition : Condition}
    {f : Failure} :
    whereText dialect pk condition = .error f ↔
      (pk.isComposite = true ∧ condition.AsksForKey) ∧ f = .invalidCall .compositeKeyInput := by
  have ways := written pk condition
  rw [whereText]
  generalize whereOf pk condition = compiled at ways
  generalize condition.filterRecord pk = record at ways
  cases ways with
  | refused composite asks => simp [Except.map, composite, asks, eq_comm]
  | clauses fits items => simp [Except.map, fits]
  | fragment other => simp [Except.map, AsksForKey, other]

/-! ## One condition written in several ways -/

section Key

variable {dialect : Dialect} {field : String} {v : Value}

theorem resolve_ofValue (scalar : v.isScalar = true) :
    (PrimaryKey.single field).resolve (.ofValue v) = .ok (OrderedMap.singleton field v) := by
  cases v with
  | null | list items => cases scalar
  | _ => rfl

theorem shows_key :
    (key v).Shows dialect (.single field) (whereClauses dialect [(field, .equals v)])
      (OrderedMap.singleton field v) :=
  ⟨rfl, rfl⟩

theorem shows_ofRecord_singleton :
    (ofRecord (OrderedMap.singleton field v)).Shows dialect (.single field)
      (whereClauses dialect [(field, .equals v)]) (OrderedMap.singleton field v) :=
  ⟨rfl, rfl⟩

theorem shows_raw {s : String} (shaped : isKeyShaped s = true) :
    (raw s).Shows dialect (.single field)
      (whereClauses dialect [(field, .equals (.varchar s))])
      (OrderedMap.singleton field (.varchar s)) := by
  have some_text : s.isEmpty = false := by
    cases empty : s.isEmpty with
    | true => simp [isKeyShaped, empty] at shaped
    | false => rfl
  have compiled : whereOf (.single field) (raw s) =
      .ok (.clauses [(field, .equals (.varchar s))]) := by
    simp [whereOf, some_text, shaped, Sql.keyClause, Except.map]
  constructor
  · rw [whereText, compiled]
    rfl
  · rw [filterRecord, if_pos shaped]
    rfl

end Key

/-- All views of a condition agree. It is compiled unless it asks for the row with a key that is
composite, and then it mentions nothing. Otherwise its text is read back as clauses, and its record
has their fields with the values of the last ones; or it is a raw fragment and mentions nothing. For
a single key field a scalar value, its record, what it resolves to and, if it is a text that looks
like a key, the raw text are one condition. -/
theorem views_agree (dialect : Dialect) (pk : PrimaryKey) (condition : Condition) :
    (∀ f, whereText dialect pk condition = .error f ↔
      (pk.isComposite = true ∧ condition.AsksForKey) ∧ f = .invalidCall .compositeKeyInput) ∧
    (pk.isComposite = true ∧ condition.AsksForKey → condition.filterRecord pk = ∅) ∧
    (∀ text, whereText dialect pk condition = .ok text →
      (∃ items, whereOf pk condition = .ok (.clauses items) ∧
        readClauses dialect text = some (items.map declared) ∧
        Mentions items (condition.filterRecord pk)) ∨
      ∃ sql, condition = .raw sql ∧ isKeyShaped sql = false ∧
        text = " WHERE ".toList ++ sql.toList ∧ condition.filterRecord pk = ∅) ∧
    ∀ field v, pk = .single field → v.isScalar = true →
      ∃ text record, pk.resolve (.ofValue v) = .ok record ∧
        (key v).Shows dialect pk text record ∧
        (ofRecord (OrderedMap.singleton field v)).Shows dialect pk text record ∧
        (ofRecord record).Shows dialect pk text record ∧
        ∀ s, v = .varchar s → isKeyShaped s = true → (raw s).Shows dialect pk text record := by
  have ways := written pk condition
  refine ⟨fun f => whereText_eq_error_iff, ?_, ?_, ?_⟩
  · intro refused
    generalize whereOf pk condition = compiled at ways
    generalize condition.filterRecord pk = record at ways ⊢
    cases ways with
    | refused composite asks => rfl
    | clauses fits items => exact absurd refused fits
    | fragment other => rfl
  · intro text compiled
    rw [whereText] at compiled
    generalize whereOf pk condition = written at ways compiled ⊢
    generalize condition.filterRecord pk = record at ways ⊢
    cases ways with
    | refused composite asks => cases compiled
    | clauses fits items =>
        obtain rfl : whereClauses dialect items = text := Except.ok.inj compiled
        exact .inl ⟨items, rfl, readClauses_whereClauses dialect items, mentions_recordOf items⟩
    | @fragment sql other =>
        obtain rfl : " WHERE ".toList ++ sql.toList = text := Except.ok.inj compiled
        exact .inr ⟨sql, rfl, other, rfl, rfl⟩
  · rintro field v rfl scalar
    refine ⟨_, _, resolve_ofValue scalar, shows_key, shows_ofRecord_singleton,
      shows_ofRecord_singleton, ?_⟩
    rintro s rfl shaped
    exact shows_raw shaped

/-- Of a field that is compared twice the last value is mentioned, at the place of the first, and not
as the search widens it. A raw text that looks like a key is mentioned as the key. -/
theorem views_agree_repeated_field :
    let pk := PrimaryKey.single "id"
    let items : List Clause := [("name", .compare .like (.varchar "Ada") .and),
      ("age", .equals (.int64 36)), ("name", .compare .like (.varchar "Grace") .or)]
    (∃ text, whereText .mysql pk (list items) = .ok text ∧
      readClauses .mysql text = some (items.map declared) ∧
      ((list items).filterRecord pk).keys = ["name", "age"] ∧
      ((list items).filterRecord pk).get? "name" = some (.varchar "Grace")) ∧
    ∃ text record, (key (.varchar "abc-42")).Shows .mysql pk text record ∧
      (raw "abc-42").Shows .mysql pk text record := by
  intro pk items
  obtain ⟨-, -, reads, alike⟩ := views_agree .mysql pk (list items)
  constructor
  · obtain ⟨text, compiled⟩ : ∃ text, whereText .mysql pk (list items) = .ok text := ⟨_, rfl⟩
    rcases reads text compiled with ⟨_, ⟨⟩, read, mentions⟩ | ⟨sql, same, -⟩
    · exact ⟨text, compiled, read, mentions.fields, mentions.values "name"⟩
    · cases same
  · obtain ⟨text, record, -, by_key, -, -, by_text⟩ := alike "id" (.varchar "abc-42") rfl rfl
    exact ⟨text, record, by_key, by_text "abc-42" rfl (by decide)⟩

end Condition

end TableGateway
