import TableGateway.Proofs.Gateway.Write
import TableGateway.Proofs.ReadBack.Clause

/-!
# Writes to every row

A condition without a clause is written as nothing, so the statement behind it is about every row.
`update` and `remove` ask the condition for clauses and warn before they write it. The two agree for
every condition: the log has the warning, once, exactly when the statement that is sent ends with
its assignments or with its table.
-/

namespace TableGateway

open ReadBack (Said SetsSome assigned eq_nil_or_prefix_of_whereText readStatement said
  whereClauses_eq_nil_iff)
open Sql (Dialect Statement Where whereOf whereText)

variable {α : Type}

/-! ## Conditions that are written as nothing -/

theorem text_eq_nil_iff {dialect : Dialect} {w : Where} :
    w.text dialect = [] ↔ w = .clauses [] := by
  cases w with
  | clauses items =>
      change Sql.whereClauses dialect items = [] ↔ _
      rw [whereClauses_eq_nil_iff, Where.clauses.injEq]
  | fragment sql =>
      change " WHERE ".toList ++ sql = [] ↔ _
      simp

/-- A condition asks for nothing to be written exactly when it has no clause. A raw text that looks
like a key is not empty, and a key is a clause or does not fit. -/
theorem whereOf_eq_nil_iff {key : PrimaryKey} {condition : Condition} :
    whereOf key condition = .ok (.clauses []) ↔ condition.isEmpty = true := by
  cases condition with
  | everything => exact iff_of_true rfl rfl
  | key value => cases key <;> simp [whereOf, Sql.keyClause, Except.map, Condition.isEmpty]
  | raw sql =>
      rw [whereOf, Condition.isEmpty]
      cases sql.isEmpty with
      | true => exact iff_of_true rfl rfl
      | false =>
          cases isKeyShaped sql with
          | true => cases key <;> simp [Sql.keyClause, Except.map]
          | false => simp
  | keyed clauses => simp [whereOf, Condition.isEmpty, OrderedMap.isEmpty]
  | list clauses => simp [whereOf, Condition.isEmpty]

theorem whereText_eq_nil_iff {dialect : Dialect} {key : PrimaryKey} {condition : Condition} :
    whereText dialect key condition = .ok [] ↔ condition.isEmpty = true := by
  have unwritten : whereOf key condition = .ok (.clauses []) ↔ condition.isEmpty = true :=
    whereOf_eq_nil_iff
  rw [← unwritten, whereText]
  cases whereOf key condition with
  | error f => simp [Except.map]
  | ok w => simp [Except.map, text_eq_nil_iff]

/-! ## The warning -/

theorem Notice.text_nonFinite_ne {line : String} (start : line.toList.head? ≠ some 'N')
    (x : Numeric.Binary64) : (nonFinite x).text ≠ line := by
  rintro rfl
  apply start
  change ("Non finite float " ++ String.ofList (x.text .plain) ++
    " is written as NULL").toList.head? = _
  simp

/-- The warnings of a call are those that it announces, and those about its numbers. -/
theorem Ran.lines_warn {ran : Ran α} {before announced behind : List Notice}
    {numbers : List Numeric.Binary64} (checks : ∀ notice ∈ before, notice.level = .debug)
    (warns : ∀ notice ∈ announced, notice.level = .warn)
    (calm : ∀ notice ∈ behind, notice.level ≠ .warn)
    (told : ran.notices = before ++ (announced ++ (numbers.map .nonFinite ++ behind))) :
    ran.lines .warn =
      announced.map Notice.text ++ numbers.map fun x => (Notice.nonFinite x).text := by
  have first : before.filter (fun notice => notice.level = .warn) = [] := by
    rw [List.filter_eq_nil_iff]
    intro notice mem
    simp [checks notice mem]
  have second : announced.filter (fun notice => notice.level = .warn) = announced := by
    rw [List.filter_eq_self]
    intro notice mem
    simp [warns notice mem]
  have third : (numbers.map Notice.nonFinite).filter (fun notice => notice.level = .warn) =
      numbers.map Notice.nonFinite := by
    rw [List.filter_eq_self]
    intro notice mem
    simp [level_nonFinite mem]
  have fourth : behind.filter (fun notice => notice.level = .warn) = [] := by
    rw [List.filter_eq_nil_iff]
    intro notice mem
    simp [calm notice mem]
  rw [lines, told, List.filter_append, List.filter_append, List.filter_append, first, second,
    third, fourth]
  simp

namespace Operation

/-- What a call sends is read back as the parts that it has to say, and behind them stands nothing,
and then the log warns with the line once, or a `WHERE`, and then it never does. Nor does it when
nothing is sent. -/
structure Announces (op : Operation α) (t : Table) (session : Session)
    (parts : List Char → Said) (line : String) : Prop where
  sent : ∀ text ∈ op.sent t session, ∃ rest,
    readStatement t.backend.dialect text.toList = some (parts rest) ∧
      (rest = [] ∧ ((op.run t session).lines .warn).count line = 1 ∨
        " WHERE ".toList <+: rest ∧ line ∉ (op.run t session).lines .warn)
  unsent : op.sent t session = [] → line ∉ (op.run t session).lines .warn

variable {op : Operation α} {t : Table} {session : Session} {parts : List Char → Said}
  {before announced : List Notice} {s : Statement} {f : QueryResult → α}

/-- A call whose checks refuse it sends nothing and does not warn. -/
theorem Announces.of_refused {line : String} (checks : ∀ notice ∈ before, notice.level = .debug)
    {ending : Ending α} (ran : op.run t session = ⟨ending, session, before⟩) :
    op.Announces t session parts line := by
  have unsent : op.sent t session = [] := sent_eq (congrArg Ran.session ran)
  refine ⟨by simp [unsent], fun _ => ?_⟩
  rw [ran, Ran.lines, List.filter_eq_nil_iff.2]
  · exact nofun
  · intro notice mem
    simp [checks notice mem]

/-- The call ends, behind its checks, with a statement that is announced, written and sent. -/
def EndsWith (op : Operation α) (t : Table) (session : Session) (before announced : List Notice)
    (s : Statement) (f : QueryResult → α) : Prop :=
  op.run t session =
    ((Program.reportAll announced
      (t.perform s >>= fun result => pure (f result))).run session).after before

theorem EndsWith.sent_eq (ends : op.EndsWith t session before announced s f) :
    op.sent t session =
      match s.text t.backend.dialect t.config.table t.config.primaryKey with
      | .ok text => [text]
      | .error _ => [] := by
  rw [EndsWith, t.run_effect] at ends
  cases written : s.text t.backend.dialect t.config.table t.config.primaryKey with
  | error g | ok text =>
      rw [written] at ends
      exact Operation.sent_eq (congrArg Ran.session ends)

theorem EndsWith.lines_warn (ends : op.EndsWith t session before announced s f)
    (checks : ∀ notice ∈ before, notice.level = .debug)
    (warns : ∀ notice ∈ announced, notice.level = .warn) :
    ∃ numbers : List Numeric.Binary64, (op.run t session).lines .warn =
      announced.map Notice.text ++ numbers.map fun x => (Notice.nonFinite x).text := by
  rw [EndsWith, t.run_effect] at ends
  cases written : s.text t.backend.dialect t.config.table t.config.primaryKey with
  | error g =>
      rw [written] at ends
      have told := congrArg Ran.notices ends
      rw [← List.append_nil (s.notices _)] at told
      have calm : ∀ notice ∈ ([] : List Notice), notice.level ≠ .warn := nofun
      exact ⟨_, Ran.lines_warn checks warns calm told⟩
  | ok text =>
      rw [written] at ends
      refine ⟨_, Ran.lines_warn checks warns ?_ (congrArg Ran.notices ends)⟩
      intro notice mem
      rcases List.mem_cons.1 mem with rfl | answered
      · exact nofun
      · cases answer : session.reply with
        | failure message =>
            rw [answer] at answered
            rw [List.mem_singleton.1 answered]
            exact nofun
        | _ =>
            rw [answer] at answered
            cases answered

/-- A call that asks the condition of its statement for clauses, and has a warning when there are
none, announces the statement. -/
theorem EndsWith.announces {notice : Notice}
    (ends : op.EndsWith t session before (if s.condition.isEmpty then [notice] else []) s f)
    (checks : ∀ notice ∈ before, notice.level = .debug) (warns : notice.level = .warn)
    (start : notice.text.toList.head? ≠ some 'N') (complete : SetsSome s)
    (spelled : ∀ suffix, said t.config.table suffix s = parts suffix) :
    op.Announces t session parts notice.text := by
  have sent := ends.sent_eq
  -- Only the announcement can be the line: what is told of a number starts in another way.
  have others (numbers : List Numeric.Binary64) :
      notice.text ∉ numbers.map fun x => (Notice.nonFinite x).text := by
    rintro mem
    obtain ⟨x, -, same⟩ := List.mem_map.1 mem
    exact Notice.text_nonFinite_ne start x same
  cases empty : s.condition.isEmpty with
  | true =>
      rw [empty] at ends
      obtain ⟨numbers, lines⟩ := ends.lines_warn checks (by simpa using warns)
      have compiled : whereText t.backend.dialect t.config.primaryKey s.condition = .ok [] :=
        whereText_eq_nil_iff.2 empty
      have written := text_eq_ok_iff.2 ⟨[], compiled, rfl⟩
      rw [written] at sent
      refine ⟨?_, by simp [sent]⟩
      intro text mem
      obtain rfl := List.mem_singleton.1 (sent ▸ mem)
      obtain ⟨suffix, same, read⟩ := Table.readStatement_of_text complete written
      obtain rfl : [] = suffix := Except.ok.inj (compiled.symm.trans same)
      refine ⟨[], read.trans (congrArg some (spelled [])), .inl ⟨rfl, ?_⟩⟩
      simp [lines, List.count_eq_zero.2 (others numbers)]
  | false =>
      rw [empty] at ends
      obtain ⟨numbers, lines⟩ := ends.lines_warn checks nofun
      have unwarned : notice.text ∉ (op.run t session).lines .warn := by
        rw [lines]
        exact others numbers
      refine ⟨?_, fun _ => unwarned⟩
      intro text mem
      have written : s.text t.backend.dialect t.config.table t.config.primaryKey = .ok text := by
        cases written : s.text t.backend.dialect t.config.table t.config.primaryKey with
        | error g => simp [sent, written] at mem
        | ok other => simp_all
      obtain ⟨suffix, compiled, read⟩ := Table.readStatement_of_text complete written
      refine ⟨suffix, read.trans (congrArg some (spelled suffix)), .inr ⟨?_, unwarned⟩⟩
      rcases eq_nil_or_prefix_of_whereText compiled with rfl | begins
      · rw [whereText_eq_nil_iff.1 compiled] at empty
        cases empty
      · exact begins

/-- Every row is written to in the open. A condition has no clause exactly when nothing is written
for it, and so an `UPDATE` or a `DELETE` that `update` or `remove` sends ends with its assignments
or its table exactly when the call warns that it is about every row, which it does once. -/
theorem announces_every_row (t : Table) (session : Session) :
    (∀ dialect key condition,
      whereText dialect key condition = .ok [] ↔ condition.isEmpty = true) ∧
    (∀ condition data requested, (update condition data requested).Announces t session
      (.update t.config.table.toList ((t.kept data).entries.map assigned))
      ("Updating every row of `" ++ t.config.table ++ "`")) ∧
    ∀ condition, (remove condition).Announces t session (.delete t.config.table.toList)
      ("Deleting every row of `" ++ t.config.table ++ "`") := by
  refine ⟨fun dialect key condition => whereText_eq_nil_iff, ?_, ?_⟩
  · intro condition data requested
    have start : ("Updating every row of `" ++ t.config.table ++ "`").toList.head? ≠ some 'N' := by
      simp
    obtain ⟨before, checks, ran⟩ := t.run_write (condition.filterRecord t.config.primaryKey) data
      requested (fun fields => Program.reportAll
        (if condition.isEmpty then [.updatingEveryRow t.config.table] else [])
        (t.perform (.update fields condition) >>= fun result => pure result.toAffected)) session
    cases refused : t.refusal? (condition.filterRecord t.config.primaryKey) data requested with
    | some g =>
        rw [refused] at ran
        exact .of_refused checks ran
    | none =>
        rw [refused] at ran
        have ends : (update condition data requested).EndsWith t session before _
            (.update (t.kept data) condition) _ := ran
        exact ends.announces checks rfl start (Table.kept_ne_nil refused) fun suffix => rfl
  · intro condition
    have start : ("Deleting every row of `" ++ t.config.table ++ "`").toList.head? ≠ some 'N' := by
      simp
    have ends : (remove condition).EndsWith t session []
        (if condition.isEmpty then [.deletingEveryRow t.config.table] else [])
        (.delete condition) QueryResult.toAffected := rfl
    exact ends.announces nofun rfl start trivial fun suffix => rfl

end Operation

end TableGateway
