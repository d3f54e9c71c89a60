import BoundSql.Proofs.Exchange
/-!
# Results — what a call gives

A call fails on its shape exactly when it has no statement.  With a statement, what it gives is told by the answers of
the database: a failure of the database itself (`Raises`), a reported outcome (`Reports`) or a first row (`Fetches`),
one equivalence for each kind of result.  An error that comes after the shape was accepted carries the whole text that
was prepared.
-/
namespace BoundSql

namespace Call

variable (c : Call) (db : Database) (s : Statement)

/-- The database rejects the statement, or raises the reason when it is asked for rows. -/
def Raises (reason : String) : Prop :=
  db.prepare s.sql = .error reason ∨
  db.prepare s.sql = .ok () ∧
    (c.lastRequest = .first ∧ db.first s.sql s.values = .error reason ∨
      c.lastRequest = .all ∧ db.all s.sql s.values = .error reason)

/-- The database takes the statement and reports the outcome when it is asked for all rows. -/
def Reports (o : Outcome) : Prop :=
  c.lastRequest = .all ∧ db.prepare s.sql = .ok () ∧ db.all s.sql s.values = .ok o

/-- The database takes the statement and gives the row, or none, when it is asked for the first. -/
def Fetches (row : Option Row) : Prop :=
  c.lastRequest = .first ∧ db.prepare s.sql = .ok () ∧ db.first s.sql s.values = .ok row

variable {c db s} {qs : List Request} {result : Except Error Answer}

theorem Exchanged.database_iff (h : c.Exchanged db s qs result) (reason sql : String) :
    result = .error (.database reason sql) ↔ sql = s.sql ∧ c.Raises db s reason := by
  cases h with
  | rejected hp => simp [Raises, hp, eq_comm, and_comm]
  | firstRaised hc hp h => simp [Raises, hp, hc, h, eq_comm, and_comm]
  | row hc hp h => simp [Raises, hp, hc, h]
  | allRaised hc hp h => simp [Raises, hp, hc, h, eq_comm, and_comm]
  | unsuccessful hc hp h ho => simp [Raises, hp, hc, h]
  | rows hc hp h ho => simp [Raises, hp, hc, h]

theorem Exchanged.unsuccessful_iff (h : c.Exchanged db s qs result) (reason sql : String) :
    result = .error (.unsuccessful reason sql) ↔
      sql = s.sql ∧ ∃ o, c.Reports db s o ∧ o.success = false ∧ reason = o.error.getD "unknown error" := by
  cases h with
  | rejected hp => simp [Reports, hp]
  | firstRaised hc hp h => simp [Reports, hc]
  | row hc hp h => simp [Reports, hc]
  | allRaised hc hp h => simp [Reports, h]
  | @unsuccessful o hc hp h ho =>
    constructor
    · intro he
      cases he
      exact ⟨rfl, o, ⟨hc, hp, h⟩, ho, rfl⟩
    · rintro ⟨rfl, o', ⟨-, -, h'⟩, -, rfl⟩
      cases h.symm.trans h'
      rfl
  | rows hc hp h ho => simp [Reports, h, ho]

theorem Exchanged.rows_iff (h : c.Exchanged db s qs result) (rows : List Row) :
    result = .ok (.rows rows) ↔ ∃ o, c.Reports db s o ∧ o.success = true ∧ rows = o.rows := by
  cases h with
  | rejected hp => simp [Reports, hp]
  | firstRaised hc hp h => simp [Reports, hc]
  | row hc hp h => simp [Reports, hc]
  | allRaised hc hp h => simp [Reports, h]
  | unsuccessful hc hp h ho => simp [Reports, h, ho]
  | @rows o hc hp h ho =>
    constructor
    · intro he
      cases he
      exact ⟨o, ⟨hc, hp, h⟩, ho, rfl⟩
    · rintro ⟨o', ⟨-, -, h'⟩, -, rfl⟩
      cases h.symm.trans h'
      rfl

theorem Exchanged.row_iff (h : c.Exchanged db s qs result) (row : Option Row) :
    result = .ok (.row row) ↔ c.Fetches db s row := by
  cases h with
  | rejected hp => simp [Fetches, hp]
  | firstRaised hc hp h => simp [Fetches, h]
  | row hc hp h => simp [Fetches, hp, hc, h]
  | allRaised hc hp h => simp [Fetches, hc]
  | unsuccessful hc hp h ho => simp [Fetches, hc]
  | rows hc hp h ho => simp [Fetches, hc]

end Call

theorem Error.count_kinds (e : Error) : [e.isShape, e.isUnsuccessful, e.isDatabase].count true = 1 := by
  cases e <;> rfl

/-- **What a call gives.**  It runs the statement of its command or the one that it is given.  It fails on its shape
exactly with the fault of its command, and then nothing was asked.  With a statement it fails as the database does, or
is told that an outcome is no success, or gives exactly the rows of a success, or exactly the first row or its absence.
Who asks for the first row is never told of an unsuccessful outcome.  Every error is of exactly one kind, and one that
comes from the database carries and ends with the whole text that was prepared, however the configuration cuts what is
logged. -/
theorem Call.result_by_answers (config : LogConfig) (db : Database) (c : Call) :
    let r := c.run config db
    c.RunsItsOwn ∧
    (∀ fault, r.result = .error (.shape fault) ↔ c.statement = .error fault) ∧
    (∀ fault, r.result = .error (.shape fault) → (Error.shape fault).sql? = none ∧ r.requests = []) ∧
    (∀ s, c.statement = .ok s →
      (∀ reason sql, r.result = .error (.database reason sql) ↔ sql = s.sql ∧ c.Raises db s reason) ∧
      (∀ reason sql, r.result = .error (.unsuccessful reason sql) ↔
        sql = s.sql ∧ ∃ o, c.Reports db s o ∧ o.success = false ∧ reason = o.error.getD "unknown error") ∧
      (∀ rows, r.result = .ok (.rows rows) ↔ ∃ o, c.Reports db s o ∧ o.success = true ∧ rows = o.rows) ∧
      (∀ row, r.result = .ok (.row row) ↔ c.Fetches db s row)) ∧
    ((∃ table row, c = .command (.insert table row)) ∨ (∃ s, c = .first s) →
      ∀ reason sql, r.result ≠ .error (.unsuccessful reason sql)) ∧
    ∀ e, r.result = .error e →
      [e.isShape, e.isUnsuccessful, e.isDatabase].count true = 1 ∧
      (e.isShape = false → ∃ reason sql, .prepare sql ∈ r.requests ∧ e.sql? = some sql ∧
        e.message = reason ++ "; query: " ++ sql ∧
        (e = .database reason sql ∧ e.source? = some reason ∨ e = .unsuccessful reason sql)) := by
  intro r
  refine ⟨c.runsItsOwn, ?_⟩
  cases hs : c.statement with
  | error fault =>
    have hr : r = .framed (.error (.shape fault)) [] [] [] := Call.run_of_fault hs config db
    rw [hr, Report.requests_framed, Report.result_framed]
    refine ⟨by simp, fun _ _ => ⟨rfl, rfl⟩, fun s h => (by cases h), fun _ _ _ h => (by cases h), ?_⟩
    intro e he
    cases he
    exact ⟨rfl, fun h => by cases h⟩
  | ok s =>
    have hr := Call.run_of_statement hs config db
    have hx := c.exchanged db s
    have hresult : r.result = (c.exchange db s).result := by
      rw [show r = _ from hr, Report.result_framed]
    have hrequests : r.requests = (c.exchange db s).requests := by
      rw [show r = _ from hr, Report.requests_framed]
    rw [hresult, hrequests]
    refine ⟨?_, ?_, ?_, ?_, ?_⟩
    · intro fault
      constructor
      · intro he
        obtain ⟨reason, h | h⟩ := hx.error_carries_sql he <;> cases h
      · intro h
        cases h
    · intro fault he
      obtain ⟨reason, h | h⟩ := hx.error_carries_sql he <;> cases h
    · intro s' h
      cases h
      exact ⟨hx.database_iff, hx.unsuccessful_iff, hx.rows_iff, hx.row_iff⟩
    · intro hfirst reason sql he
      obtain ⟨-, o, ⟨hall, -⟩, -⟩ := (hx.unsuccessful_iff reason sql).1 he
      rcases hfirst with ⟨table, row, rfl⟩ | ⟨s, rfl⟩ <;> cases hall
    · intro e he
      refine ⟨e.count_kinds, fun _ => ?_⟩
      obtain ⟨reason, rfl | rfl⟩ := hx.error_carries_sql he
      · exact ⟨reason, s.sql, hx.prepare_mem, rfl, rfl, .inl ⟨rfl, rfl⟩⟩
      · exact ⟨reason, s.sql, hx.prepare_mem, rfl, rfl, .inr rfl⟩

/-- Only the success of an outcome counts: without it the rows are lost, and with it a reason says nothing. -/
theorem Call.result_by_success_alone :
    let s : Statement := ⟨"SELECT 1;", []⟩
    let lost : Outcome := { rows := [.empty], success := false }
    let kept : Outcome := { rows := [.empty], success := true, error := some "late" }
    ((Call.all s).run {} (.answering lost)).result = .error (.unsuccessful "unknown error" "SELECT 1;") ∧
    ((Call.all s).run {} (.answering kept)).result = .ok (.rows [.empty]) := by
  intro s lost kept
  have hlost := (result_by_answers {} (.answering lost) (.all s)).2.2.2.1 s rfl
  have hkept := (result_by_answers {} (.answering kept) (.all s)).2.2.2.1 s rfl
  exact ⟨(hlost.2.1 _ _).2 ⟨rfl, lost, ⟨rfl, rfl, rfl⟩, rfl, rfl⟩,
    (hkept.2.2.1 _).2 ⟨kept, ⟨rfl, rfl, rfl⟩, rfl, rfl⟩⟩

end BoundSql
