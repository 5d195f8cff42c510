import Mathlib.Data.List.Nodup
import TableGateway.Proofs.Gateway.Refusal
import TableGateway.Proofs.ReadBack.Statement

/-!
# What a write sends

`insert`, `update` and `replace` write records. Whatever a call asks to be checked, and whatever the
driver answers, the statements that write set exactly the fields of the record that the table lets
be written, in the order of the record. What is sent is looked at as text, by the reader of
statements.
-/

namespace TableGateway

open Program (ofCheck)
open ReadBack (Literal Said SetsSome assigned readStatement said)
open Sql (Statement whereText)

variable {α : Type}

/-! ## What is sent -/

def Operation.sent (op : Operation α) (t : Table) (session : Session) : List String :=
  (op.program t).sent session

theorem Operation.sent_eq {op : Operation α} {t : Table} {session : Session} {sent : List String}
    (received : (op.run t session).session = sent.foldl Session.execute session) :
    op.sent t session = sent :=
  Program.sent_eq received

theorem text_eq_ok_iff {t : Table} {s : Statement} {text : String} :
    s.text t.backend.dialect t.config.table t.config.primaryKey = .ok text ↔
      ∃ suffix, whereText t.backend.dialect t.config.primaryKey s.condition = .ok suffix ∧
        text = String.ofList (s.head t.backend.dialect t.config.table ++ suffix ++ s.tail) := by
  rw [Statement.text, Statement.chars]
  cases whereText t.backend.dialect t.config.primaryKey s.condition with
  | error f => simp [Except.map]
  | ok suffix => simp [Except.map, eq_comm]

namespace Table

/-! ## The run of a write -/

/-- The entries of a record whose fields the table lets be written. -/
def kept (t : Table) (data : Record) : Record :=
  data.filter fun field _ => t.config.constraints.contains field

theorem writable_eq (t : Table) (data : Record) :
    t.writable data =
      if (t.kept data).isEmpty then .error (.invalidParameter (.noWritableFields t.config.table))
      else .ok (t.kept data) := rfl

/-- What is not refused has a field that can be written. -/
theorem kept_ne_nil {t : Table} {checked data : Record} {requested : Option RequestedConstraints}
    (allowed : t.refusal? checked data requested = none) : (t.kept data).entries ≠ [] := by
  intro nothing
  have refused :
      t.writable data = .error (.invalidParameter (.noWritableFields t.config.table)) := by
    rw [writable_eq, OrderedMap.isEmpty, nothing]
    rfl
  rw [refusal?, refused] at allowed
  cases violated : t.violations? checked requested <;> rw [violated] at allowed <;> cases allowed

/-- A write goes on with the fields that can be written, or is refused. Its checks report nothing
of the level of a warning. -/
theorem run_write (t : Table) (checked data : Record) (requested : Option RequestedConstraints)
    (next : Record → Program α) (session : Session) :
    ∃ notices, (∀ notice ∈ notices, notice.level = .debug) ∧
      (t.validate checked requested >>= fun _ =>
          ofCheck (t.writable data) >>= next).run session =
        match t.refusal? checked data requested with
        | some f => ⟨.outcome (.error (.failure f)), session, notices⟩
        | none => ((next (t.kept data)).run session).after notices := by
  obtain ⟨notices, calm, validated⟩ := t.run_validate checked requested session
  refine ⟨notices, calm, ?_⟩
  rw [Program.run_bind, validated, refusal?]
  cases t.violations? checked requested with
  | some violations => rfl
  | none =>
      rw [writable_eq]
      cases (t.kept data).isEmpty with
      | true => simp [Ran.andThen, Ran.after, Program.fault, Program.run]
      | false => rfl

/-- A write whose checks pass sends its statement, when that is written, and gives on what the
driver answers. -/
theorem run_write_perform (t : Table) (checked data : Record)
    (requested : Option RequestedConstraints) (s : Record → Statement) (announced : List Notice)
    (f : QueryResult → α) (session : Session) :
    ∃ notices, (t.validate checked requested >>= fun _ =>
        ofCheck (t.writable data) >>= fun fields => Program.reportAll announced
          (t.perform (s fields) >>= fun result => pure (f result))).run session =
      match t.refusal? checked data requested with
      | some g => ⟨.outcome (.error (.failure g)), session, notices⟩
      | none =>
          match (s (t.kept data)).text t.backend.dialect t.config.table t.config.primaryKey with
          | .ok text =>
              ⟨.outcome (session.reply.outcome.map f), session.execute text, notices⟩
          | .error g => ⟨.outcome (.error (.failure g)), session, notices⟩ := by
  obtain ⟨before, -, checks⟩ := t.run_write checked data requested (fun fields =>
    Program.reportAll announced (t.perform (s fields) >>= fun result => pure (f result))) session
  rw [checks]
  cases t.refusal? checked data requested with
  | some g => exact ⟨before, rfl⟩
  | none =>
      simp only [t.run_effect]
      cases (s (t.kept data)).text t.backend.dialect t.config.table t.config.primaryKey <;>
        exact ⟨_, rfl⟩

theorem run_insert (t : Table) (data : Record) (requested : Option RequestedConstraints)
    {text : String} (written : (Statement.insert (t.kept data)).text t.backend.dialect
      t.config.table t.config.primaryKey = .ok text) (session : Session) :
    ∃ notices, (t.insert data requested).run session =
      match t.refusal? data data requested with
      | some f => ⟨.outcome (.error (.failure f)), session, notices⟩
      | none =>
          ⟨.outcome (session.reply.outcome.map QueryResult.toAffected), session.execute text,
            notices⟩ := by
  obtain ⟨notices, ran⟩ := t.run_write_perform data data requested .insert []
    QueryResult.toAffected session
  rw [written] at ran
  exact ⟨notices, ran⟩

theorem run_update (t : Table) (condition : Condition) (data : Record)
    (requested : Option RequestedConstraints) (session : Session) :
    ∃ notices, (t.update condition data requested).run session =
      match t.refusal? (condition.filterRecord t.config.primaryKey) data requested with
      | some f => ⟨.outcome (.error (.failure f)), session, notices⟩
      | none =>
          match (Statement.update (t.kept data) condition).text t.backend.dialect t.config.table
              t.config.primaryKey with
          | .ok text =>
              ⟨.outcome (session.reply.outcome.map QueryResult.toAffected), session.execute text,
                notices⟩
          | .error f => ⟨.outcome (.error (.failure f)), session, notices⟩ :=
  t.run_write_perform _ data requested (.update · condition) _ QueryResult.toAffected session

/-! ## The write of `replace` -/

def routed (t : Table) (key data : Record) : Option Row → Statement
  | some _ => .update (t.kept data) (.ofRecord key)
  | none => .insert (t.kept data)

def replacedBy : Option Row → Affected → Replaced
  | some _ => .updated
  | none => .inserted

/-- The write of `replace` is always written. -/
theorem exists_routed (t : Table) (key data : Record) (existing : Option Row) :
    ∃ text, (t.routed key data existing).text t.backend.dialect t.config.table
      t.config.primaryKey = .ok text := by
  cases existing <;> exact ⟨_, rfl⟩

theorem run_route (t : Table) (key data : Record) (requested : Option RequestedConstraints)
    (existing : Option Row) {text : String}
    (written : (t.routed key data existing).text t.backend.dialect t.config.table
      t.config.primaryKey = .ok text) (session : Session) :
    ∃ notices, (t.route key data requested existing).run session =
      match t.refusal? (if existing.isSome then key else data) data requested with
      | some f => ⟨.outcome (.error (.failure f)), session, notices⟩
      | none =>
          ⟨.outcome (session.reply.outcome.map fun result =>
            replacedBy existing result.toAffected), session.execute text, notices⟩ := by
  cases existing with
  | none =>
      obtain ⟨notices, ran⟩ := t.run_insert data requested written session
      rw [route, Program.run_bind, ran, Option.isSome_none, if_neg Bool.false_ne_true]
      cases t.refusal? data data requested with
      | some f => exact ⟨_, rfl⟩
      | none => cases session.reply <;> exact ⟨_, rfl⟩
  | some row =>
      obtain ⟨notices, ran⟩ := t.run_update (.ofRecord key) data requested session
      rw [routed] at written
      rw [filterRecord_ofRecord, written] at ran
      rw [route, Program.run_bind, ran, Option.isSome_some, if_pos rfl]
      cases t.refusal? key data requested with
      | some f => exact ⟨_, rfl⟩
      | none => cases session.reply <;> exact ⟨_, rfl⟩

theorem run_replace_of_error (t : Table) {data : Record} {f : Failure}
    (requested : Option RequestedConstraints)
    (refused : t.config.primaryKey.resolve (.record data) = .error f) (session : Session) :
    (t.replace data requested).run session = ⟨.outcome (.error (.failure f)), session, []⟩ := by
  rw [replace_eq, refused, Program.ofCheck_error_bind]
  rfl

/-- Behind its probe `replace` sends at most its write: exactly when the probe is answered and the
checks of the write pass. What it gives then is what the driver answers to the write. -/
theorem run_replace_cases (t : Table) {data key : Record} {probe : String}
    (requested : Option RequestedConstraints)
    (resolved : t.config.primaryKey.resolve (.record data) = .ok key)
    (written : t.Probe key probe) (session : Session) :
    let ran := (t.replace data requested).run session
    (∃ result text, session.reply = .result result ∧
      t.refusal? (if result.toRows.head?.isSome then key else data) data requested = none ∧
      (t.routed key data result.toRows.head?).text t.backend.dialect t.config.table
        t.config.primaryKey = .ok text ∧
      ran.session = (session.execute probe).execute text ∧
      ran.ending = .outcome ((session.execute probe).reply.outcome.map fun answer =>
        replacedBy result.toRows.head? answer.toAffected)) ∨
    ((∀ result, session.reply = .result result →
        t.refusal? (if result.toRows.head?.isSome then key else data) data requested ≠ none) ∧
      ran.session = session.execute probe ∧ ∃ fault, ran.ending = .outcome (.error fault)) := by
  obtain ⟨before, ran⟩ := t.run_replace requested resolved written session
  intro whole
  rw [show whole = _ from ran]
  cases session.reply with
  | result result =>
      obtain ⟨text, routed⟩ := t.exists_routed key data result.toRows.head?
      obtain ⟨behind, write⟩ := t.run_route key data requested result.toRows.head? routed
        (session.execute probe)
      cases refused : t.refusal? (if result.toRows.head?.isSome then key else data) data
          requested with
      | none =>
          rw [refused] at write
          refine .inl ⟨result, text, rfl, refused, routed, ?_, ?_⟩
          · exact congrArg Ran.session write
          · exact congrArg Ran.ending write
      | some f =>
          rw [refused] at write
          refine .inr ⟨?_, congrArg Ran.session write, _, congrArg Ran.ending write⟩
          intro other same
          obtain rfl : result = other := by injection same
          rw [refused]
          exact Option.some_ne_none f
  | failure message => exact .inr ⟨nofun, rfl, _, rfl⟩
  | lost => exact .inr ⟨nofun, rfl, _, rfl⟩

end Table

/-! ## What is assigned -/

/-- The fields that a text sets, with their literals, when it is an `INSERT` or an `UPDATE`. -/
def assignments? (dialect : Sql.Dialect) (text : String) : Option (List (List Char × Literal)) :=
  (readStatement dialect text.toList).bind Said.assignments?

def Operation.data? : Operation α → Option Record
  | insert data _ | update _ data _ | replace data _ => some data
  | _ => none

/-- The operation gets as far as its write: nothing refuses the write, its condition is written,
and the probe of `replace` is answered. -/
def Operation.ReachesWrite (t : Table) (reply : Reply QueryResult) : Operation α → Prop
  | insert data requested => t.refusal? data data requested = none
  | update condition data requested =>
      t.refusal? (condition.filterRecord t.config.primaryKey) data requested = none ∧
        ∃ suffix, whereText t.backend.dialect t.config.primaryKey condition = .ok suffix
  | replace data requested =>
      ∃ key result, t.config.primaryKey.resolve (.record data) = .ok key ∧
        reply = .result result ∧
        t.refusal? (if result.toRows.head?.isSome then key else data) data requested = none
  | _ => False

namespace Table

variable {t : Table} {data : Record} {text : String}

theorem readStatement_of_text {s : Statement} (complete : SetsSome s)
    (written : s.text t.backend.dialect t.config.table t.config.primaryKey = .ok text) :
    ∃ suffix, whereText t.backend.dialect t.config.primaryKey s.condition = .ok suffix ∧
      readStatement t.backend.dialect text.toList = some (said t.config.table suffix s) := by
  obtain ⟨suffix, compiled, rfl⟩ := text_eq_ok_iff.1 written
  refine ⟨suffix, compiled, ?_⟩
  rw [String.toList_ofList]
  exact ReadBack.readStatement_head t.backend.dialect t.config.table t.config.primaryKey complete
    compiled

/-- The text sets nothing but fields of the data that can be written, and all of these: in the order
of the data, each once, with the values of the data, and at least one. -/
def Keeps (t : Table) (data : Record) (text : String) : Prop :=
  (readStatement t.backend.dialect text.toList).isSome ∧
    ∀ fields, assignments? t.backend.dialect text = some fields →
      fields =
          (data.entries.filter fun entry => t.config.constraints.contains entry.1).map assigned ∧
        (fields.map Prod.fst).Nodup ∧ fields ≠ []

theorem nodup_assigned (t : Table) (data : Record) :
    (((t.kept data).entries.map assigned).map Prod.fst).Nodup := by
  have names : ((t.kept data).entries.map assigned).map Prod.fst =
      ((t.kept data).entries.map Prod.fst).map String.toList := by
    simp only [List.map_map]
    rfl
  rw [names]
  exact (t.kept data).nodup.map fun _ _ => String.toList_inj.1

/-- The text is an `INSERT` or an `UPDATE` of the fields that can be written, of which there are
some. -/
def WritesKept (t : Table) (data : Record) (text : String) : Prop :=
  (t.kept data).entries ≠ [] ∧
    ∃ s : Statement, s.text t.backend.dialect t.config.table t.config.primaryKey = .ok text ∧
      (s = .insert (t.kept data) ∨ ∃ condition, s = .update (t.kept data) condition)

theorem WritesKept.keeps (write : t.WritesKept data text) :
    t.Keeps data text ∧ (assignments? t.backend.dialect text).isSome := by
  obtain ⟨some_field, s, written, sets⟩ := write
  have complete : SetsSome s := by
    rcases sets with rfl | ⟨condition, rfl⟩ <;> exact some_field
  obtain ⟨suffix, -, read⟩ := readStatement_of_text complete written
  have set : assignments? t.backend.dialect text = some ((t.kept data).entries.map assigned) := by
    rw [assignments?, read]
    rcases sets with rfl | ⟨condition, rfl⟩ <;> rfl
  refine ⟨⟨by rw [read]; rfl, ?_⟩, by rw [set]; rfl⟩
  intro fields same
  obtain rfl : (t.kept data).entries.map assigned = fields := Option.some.inj (set.symm.trans same)
  exact ⟨rfl, t.nodup_assigned data, by simpa using some_field⟩

/-- A probe is read back as a `SELECT`, which sets nothing. -/
theorem Probe.sets_nothing {key : Record} (probe : t.Probe key text) :
    (readStatement t.backend.dialect text.toList).isSome ∧
      assignments? t.backend.dialect text = none := by
  obtain ⟨suffix, -, read⟩ := readStatement_of_text
    (s := .select (.ofRecord key) (.window .first)) trivial probe
  rw [assignments?, read]
  exact ⟨rfl, rfl⟩

theorem Probe.keeps {key : Record} (probe : t.Probe key text) : t.Keeps data text := by
  obtain ⟨reads, none⟩ := probe.sets_nothing
  refine ⟨reads, ?_⟩
  intro fields same
  rw [none] at same
  cases same

end Table

namespace Operation

variable {t : Table} {session : Session} {data : Record}

/-- The operation sends probes and then, if it gets that far, a write of the fields that can be
written. -/
def SendsKept (op : Operation α) (t : Table) (session : Session) (data : Record) : Prop :=
  ∃ probes writes, op.sent t session = probes ++ writes ∧
    (∀ text ∈ probes, ∃ key, t.Probe key text) ∧
    (∀ text ∈ writes, t.WritesKept data text) ∧
    (writes ≠ [] ↔ op.ReachesWrite t session.reply)

theorem SendsKept.keeps {op : Operation α} (sends : op.SendsKept t session data) :
    (∀ text ∈ op.sent t session, t.Keeps data text) ∧
      ((∃ text ∈ op.sent t session, (assignments? t.backend.dialect text).isSome) ↔
        op.ReachesWrite t session.reply) := by
  obtain ⟨probes, writes, sent, probed, written, reaches⟩ := sends
  rw [sent, ← reaches]
  constructor
  · intro text mem
    rcases List.mem_append.1 mem with mem | mem
    · obtain ⟨key, probe⟩ := probed text mem
      exact probe.keeps
    · exact (written text mem).keeps.1
  · constructor
    · rintro ⟨text, mem, sets⟩ rfl
      obtain ⟨key, probe⟩ := probed text (by simpa using mem)
      rw [probe.sets_nothing.2] at sets
      cases sets
    · intro some_write
      obtain ⟨text, mem⟩ := List.exists_mem_of_ne_nil writes some_write
      exact ⟨text, List.mem_append_right probes mem, (written text mem).keeps.2⟩

/-- Nothing is sent in front of the write that is not reached. -/
theorem SendsKept.of_probes {op : Operation α} {probes : List String}
    (sent : op.sent t session = probes) (probed : ∀ text ∈ probes, ∃ key, t.Probe key text)
    (misses : ¬op.ReachesWrite t session.reply) : op.SendsKept t session data :=
  ⟨probes, [], sent.trans (List.append_nil probes).symm, probed, nofun,
    iff_of_false (fun some_write => some_write rfl) misses⟩

theorem SendsKept.of_write {op : Operation α} {probes : List String} {text : String}
    (sent : op.sent t session = probes ++ [text])
    (probed : ∀ text ∈ probes, ∃ key, t.Probe key text) (write : t.WritesKept data text)
    (reaches : op.ReachesWrite t session.reply) : op.SendsKept t session data :=
  ⟨probes, [text], sent, probed, fun _ mem => List.mem_singleton.1 mem ▸ write,
    iff_of_true (List.cons_ne_nil _ _) reaches⟩

theorem sendsKept_insert (t : Table) (data : Record) (requested : Option RequestedConstraints)
    (session : Session) : (insert data requested).SendsKept t session data := by
  obtain ⟨text, written⟩ : ∃ text, (Statement.insert (t.kept data)).text t.backend.dialect
    t.config.table t.config.primaryKey = .ok text := ⟨_, rfl⟩
  obtain ⟨notices, ran⟩ := t.run_insert data requested written session
  cases refused : t.refusal? data data requested with
  | some f =>
      rw [refused] at ran
      have sent : (insert data requested).sent t session = [] := sent_eq (congrArg Ran.session ran)
      exact .of_probes sent nofun (by simp [ReachesWrite, refused])
  | none =>
      rw [refused] at ran
      have sent : (insert data requested).sent t session = [] ++ [text] :=
        sent_eq (congrArg Ran.session ran)
      exact .of_write sent nofun ⟨Table.kept_ne_nil refused, _, written, .inl rfl⟩ refused

theorem sendsKept_update (t : Table) (condition : Condition) (data : Record)
    (requested : Option RequestedConstraints) (session : Session) :
    (update condition data requested).SendsKept t session data := by
  obtain ⟨notices, ran⟩ := t.run_update condition data requested session
  cases refused : t.refusal? (condition.filterRecord t.config.primaryKey) data requested with
  | some f =>
      rw [refused] at ran
      have sent : (update condition data requested).sent t session = [] :=
        sent_eq (congrArg Ran.session ran)
      exact .of_probes sent nofun (by simp [ReachesWrite, refused])
  | none =>
      rw [refused] at ran
      cases written : (Statement.update (t.kept data) condition).text t.backend.dialect
          t.config.table t.config.primaryKey with
      | error f =>
          rw [written] at ran
          have sent : (update condition data requested).sent t session = [] :=
            sent_eq (congrArg Ran.session ran)
          refine .of_probes sent nofun ?_
          rintro ⟨-, suffix, compiled⟩
          rw [text_eq_ok_iff.2 ⟨suffix, compiled, rfl⟩] at written
          cases written
      | ok text =>
          rw [written] at ran
          have sent : (update condition data requested).sent t session = [] ++ [text] :=
            sent_eq (congrArg Ran.session ran)
          obtain ⟨suffix, compiled, -⟩ := text_eq_ok_iff.1 written
          exact .of_write sent nofun
            ⟨Table.kept_ne_nil refused, _, written, .inr ⟨condition, rfl⟩⟩
            ⟨refused, suffix, compiled⟩

/-- With a key `replace` sends its probe, and exactly when it gets that far its write. What it gives
then is what the driver answers to the write. -/
theorem sent_replace {key : Record} {probe : String} (requested : Option RequestedConstraints)
    (resolved : t.config.primaryKey.resolve (.record data) = .ok key)
    (looked : t.Probe key probe) (session : Session) :
    ((replace data requested).ReachesWrite t session.reply ∧ (t.kept data).entries ≠ [] ∧
      ∃ result write, session.reply = .result result ∧
        (t.routed key data result.toRows.head?).text t.backend.dialect t.config.table
          t.config.primaryKey = .ok write ∧
        (replace data requested).sent t session = [probe] ++ [write] ∧
        ((replace data requested).run t session).ending =
          .outcome ((session.execute probe).reply.outcome.map fun answer =>
            Table.replacedBy result.toRows.head? answer.toAffected)) ∨
    (¬(replace data requested).ReachesWrite t session.reply ∧
      (replace data requested).sent t session = [probe] ∧
      ∃ fault, ((replace data requested).run t session).ending = .outcome (.error fault)) := by
  rcases t.run_replace_cases requested resolved looked session with
    ⟨result, write, answered, allowed, written, after, ended⟩ | ⟨misses, after, failed⟩
  · have sent : (replace data requested).sent t session = [probe] ++ [write] := sent_eq after
    exact .inl ⟨⟨key, result, resolved, answered, allowed⟩, Table.kept_ne_nil allowed, result,
      write, answered, written, sent, ended⟩
  · have sent : (replace data requested).sent t session = [probe] := sent_eq after
    refine .inr ⟨?_, sent, failed⟩
    rintro ⟨other, result, found, answered, allowed⟩
    obtain rfl : key = other := Except.ok.inj (resolved.symm.trans found)
    exact misses result answered allowed

theorem sent_replace_of_error {f : Failure} (requested : Option RequestedConstraints)
    (refused : t.config.primaryKey.resolve (.record data) = .error f) (session : Session) :
    (replace data requested).sent t session = [] :=
  sent_eq (congrArg Ran.session (t.run_replace_of_error requested refused session))

theorem sendsKept_replace (t : Table) (data : Record) (requested : Option RequestedConstraints)
    (session : Session) : (replace data requested).SendsKept t session data := by
  cases resolved : t.config.primaryKey.resolve (.record data) with
  | error f =>
      exact .of_probes (sent_replace_of_error requested resolved session) nofun
        (by simp [ReachesWrite, resolved])
  | ok key =>
      obtain ⟨probe, looked⟩ := t.exists_probe key
      have probed : ∀ text ∈ [probe], ∃ key, t.Probe key text :=
        fun text mem => ⟨key, List.mem_singleton.1 mem ▸ looked⟩
      rcases sent_replace requested resolved looked session with
        ⟨reaches, some_field, result, write, -, written, sent, -⟩ | ⟨misses, sent, -⟩
      · refine .of_write sent probed ⟨some_field, _, written, ?_⟩ reaches
        cases result.toRows.head? with
        | none => exact .inl rfl
        | some row => exact .inr ⟨_, rfl⟩
      · exact .of_probes sent probed misses

/-- Every `INSERT` and every `UPDATE` that `insert`, `update` or `replace` sends sets exactly the
fields of the data that the table lets be written, whatever the call asks to be checked. Such a
statement is sent exactly when nothing refuses it. -/
theorem keeps_of_mem_sent (t : Table) (op : Operation α) {data : Record}
    (writes : op.data? = some data) (session : Session) :
    (∀ text ∈ op.sent t session, t.Keeps data text) ∧
      ((∃ text ∈ op.sent t session, (assignments? t.backend.dialect text).isSome) ↔
        op.ReachesWrite t session.reply) := by
  cases op with
  | insert given requested =>
      obtain rfl : given = data := Option.some.inj writes
      exact (sendsKept_insert t given requested session).keeps
  | update condition given requested =>
      obtain rfl : given = data := Option.some.inj writes
      exact (sendsKept_update t condition given requested session).keeps
  | replace given requested =>
      obtain rfl : given = data := Option.some.inj writes
      exact (sendsKept_replace t given requested session).keeps
  | _ => cases writes

/-- A field that only the call names a constraint for is not written. -/
theorem insert_ignores_merged_field :
    let op := insert
      (OrderedMap.ofList [("id", .int64 8), ("name", .varchar "Ada"), ("admin", .boolean true)])
      (some (.merge (OrderedMap.singleton "admin" .free)))
    ∃ text ∈ op.sent .users .fresh,
      assignments? Table.users.backend.dialect text =
        some [("name".toList, .text "Ada".toList)] := by
  obtain ⟨keeps, reaches⟩ := keeps_of_mem_sent .users (insert
    (OrderedMap.ofList [("id", .int64 8), ("name", .varchar "Ada"), ("admin", .boolean true)])
    (some (.merge (OrderedMap.singleton "admin" .free)))) rfl .fresh
  obtain ⟨text, sent, sets⟩ := reaches.2 rfl
  obtain ⟨fields, set⟩ := Option.isSome_iff_exists.1 sets
  refine ⟨text, sent, ?_⟩
  rw [set, ((keeps text sent).2 fields set).1]
  have allowed : ((OrderedMap.ofList [("id", Value.int64 8), ("name", .varchar "Ada"),
      ("admin", .boolean true)]).entries.filter fun entry =>
        Table.users.config.constraints.contains entry.1) = [("name", .varchar "Ada")] := by
    rfl
  rw [allowed]
  simp [assigned, ReadBack.content]

end Operation

end TableGateway
