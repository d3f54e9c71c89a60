import BoundSql.Call
/-!
# Exchange — one call against one database

A call runs the statement of its command or the one that it is given (`Call.runsItsOwn`).  Without a statement it asks
nothing and logs nothing.  With one it ends in one of six ways (`Exchanged`), by what the database says to it; its
report is the requests of that ending between two lists of events (`run_of_fault`, `run_of_statement`).  So a call goes
by the answers to it (`run_congr`).
-/
namespace BoundSql

/-! ## Reports between two logs -/

namespace Action

theorem filterMap_event?_log (es : List LogEvent) : (es.map log).filterMap event? = es := by
  rw [List.filterMap_map]
  exact List.filterMap_some

theorem filterMap_request?_request (qs : List Request) : (qs.map request).filterMap request? = qs := by
  rw [List.filterMap_map]
  exact List.filterMap_some

theorem filterMap_request?_log (es : List LogEvent) : (es.map log).filterMap request? = [] := by
  refine List.filterMap_eq_nil_iff.2 (fun a ha => ?_)
  obtain ⟨e, -, rfl⟩ := List.mem_map.1 ha
  rfl

theorem filterMap_event?_request (qs : List Request) : (qs.map request).filterMap event? = [] := by
  refine List.filterMap_eq_nil_iff.2 (fun a ha => ?_)
  obtain ⟨q, -, rfl⟩ := List.mem_map.1 ha
  rfl

end Action

namespace Report

variable {α : Type}

/-- The report of requests, with the events that are logged before and after them. -/
def framed (result : Except Error α) (before : List LogEvent) (requests : List Request) (after : List LogEvent) :
    Report α :=
  ⟨result, before.map .log ++ requests.map .request ++ after.map .log⟩

variable (result : Except Error α) (before after : List LogEvent) (qs : List Request)

@[simp] theorem result_framed : (framed result before qs after).result = result := rfl

@[simp] theorem requests_framed : (framed result before qs after).requests = qs := by
  simp only [requests, framed, List.filterMap_append, Action.filterMap_request?_log,
    Action.filterMap_request?_request, List.nil_append, List.append_nil]

@[simp] theorem events_framed : (framed result before qs after).events = before ++ after := by
  simp only [events, framed, List.filterMap_append, Action.filterMap_event?_log,
    Action.filterMap_event?_request, List.append_nil]

end Report

/-- What is logged about a statement before it runs. -/
def LogConfig.announcement (config : LogConfig) (s : Statement) : LogEvent :=
  .statement config.level (.ofSql s.sql) s.values.length (config.shorten s.sql)

/-- What is logged about a statement after it ran. -/
def Statement.failures {α : Type} (s : Statement) : Except Error α → List LogEvent
  | .ok _ => []
  | .error e => [.failure (.ofSql s.sql) e.message]

theorem Report.logged_framed {α : Type} (config : LogConfig) (s : Statement) (result : Except Error α)
    (qs : List Request) :
    (framed result [] qs []).logged config s = framed result [config.announcement s] qs (s.failures result) := by
  cases result <;> simp [framed, logged, LogConfig.announcement, Statement.failures]

namespace Database

variable {db db' : Database} {s : Statement}

theorem bound_of_error {reason : String} (hp : db.prepare s.sql = .error reason) :
    db.bound s = ⟨.error (.database reason s.sql), [.request (.prepare s.sql)]⟩ := by
  rw [bound, preparing, hp]
  rfl

theorem bound_of_ok (hp : db.prepare s.sql = .ok ()) :
    db.bound s = ⟨.ok s, [.request (.prepare s.sql), .request (.bind s.values)]⟩ := by
  rw [bound, preparing, hp]
  rfl

/-- What is asked of a database next does not matter when it rejects the statement. -/
theorem bound_bind_congr {α : Type} {next next' : Statement → Report α} (hp : db.prepare s.sql = db'.prepare s.sql)
    (h : db.prepare s.sql = .ok () → next s = next' s) : db.bound s >>= next = db'.bound s >>= next' := by
  cases hq : db.prepare s.sql with
  | error reason =>
    rw [bound_of_error hq, bound_of_error (hp.symm.trans hq), Report.error_bind, Report.error_bind]
  | ok _ => rw [bound_of_ok hq, bound_of_ok (hp.symm.trans hq), Report.ok_bind, Report.ok_bind, h hq]

end Database

namespace Call

/-- **What a call runs**: a command its own statement, and any other call the statement that it is given. -/
structure RunsItsOwn (c : Call) : Prop where
  of_command : ∀ cmd, c = .command cmd → c.statement = cmd.statement
  of_all : ∀ s, c = .all s → c.statement = .ok s
  of_first : ∀ s, c = .first s → c.statement = .ok s

theorem runsItsOwn (c : Call) : c.RunsItsOwn where
  of_command := by
    rintro cmd rfl
    rfl
  of_all := by
    rintro s rfl
    rfl
  of_first := by
    rintro s rfl
    rfl

/-! ## Endings -/

/-- The request with which a call asks for its rows. -/
def lastRequest : Call → Request
  | command (.insert ..) => .first
  | first _ => .first
  | _ => .all

theorem asksFirst_eq_true_iff (c : Call) : c.asksFirst = true ↔ c.lastRequest = .first := by
  rcases c with (_ | _ | _ | _ | _) | _ | _ <;> simp [asksFirst, lastRequest]

theorem asksFirst_eq_false_iff (c : Call) : c.asksFirst = false ↔ c.lastRequest = .all := by
  rcases c with (_ | _ | _ | _ | _) | _ | _ <;> simp [asksFirst, lastRequest]

/-- **The six endings of a statement that a call runs**: the requests that were made, and the result. -/
inductive Exchanged (c : Call) (db : Database) (s : Statement) : List Request → Except Error Answer → Prop
  | rejected {reason : String} (hp : db.prepare s.sql = .error reason) :
    Exchanged c db s [.prepare s.sql] (.error (.database reason s.sql))
  | firstRaised {reason : String} (hc : c.lastRequest = .first) (hp : db.prepare s.sql = .ok ())
      (h : db.first s.sql s.values = .error reason) :
    Exchanged c db s [.prepare s.sql, .bind s.values, .first] (.error (.database reason s.sql))
  | row {row : Option Row} (hc : c.lastRequest = .first) (hp : db.prepare s.sql = .ok ())
      (h : db.first s.sql s.values = .ok row) :
    Exchanged c db s [.prepare s.sql, .bind s.values, .first] (.ok (.row row))
  | allRaised {reason : String} (hc : c.lastRequest = .all) (hp : db.prepare s.sql = .ok ())
      (h : db.all s.sql s.values = .error reason) :
    Exchanged c db s [.prepare s.sql, .bind s.values, .all] (.error (.database reason s.sql))
  | unsuccessful {o : Outcome} (hc : c.lastRequest = .all) (hp : db.prepare s.sql = .ok ())
      (h : db.all s.sql s.values = .ok o) (ho : o.success = false) :
    Exchanged c db s [.prepare s.sql, .bind s.values, .all]
      (.error (.unsuccessful (o.error.getD "unknown error") s.sql))
  | rows {o : Outcome} (hc : c.lastRequest = .all) (hp : db.prepare s.sql = .ok ())
      (h : db.all s.sql s.values = .ok o) (ho : o.success = true) :
    Exchanged c db s [.prepare s.sql, .bind s.values, .all] (.ok (.rows o.rows))

section Exchanged

variable {c : Call} {db : Database} {s : Statement} {qs : List Request} {result : Except Error Answer}

theorem Exchanged.requests_of_rejected (h : c.Exchanged db s qs result) {reason : String}
    (hp : db.prepare s.sql = .error reason) : qs = [.prepare s.sql] := by
  cases h with
  | rejected => rfl
  | firstRaised _ hp' | row _ hp' | allRaised _ hp' | unsuccessful _ hp' | rows _ hp' => cases hp'.symm.trans hp

theorem Exchanged.requests_of_taken (h : c.Exchanged db s qs result) (hp : db.prepare s.sql = .ok ()) :
    qs = [.prepare s.sql, .bind s.values, c.lastRequest] := by
  cases h with
  | rejected hp' => cases hp'.symm.trans hp
  | firstRaised hc | row hc | allRaised hc | unsuccessful hc | rows hc => rw [hc]

theorem Exchanged.prepare_mem (h : c.Exchanged db s qs result) : .prepare s.sql ∈ qs := by
  cases h <;> exact List.mem_cons_self

/-- An error of an exchange is no fault of shape, and carries the text that was prepared. -/
theorem Exchanged.error_carries_sql (h : c.Exchanged db s qs result) {e : Error} (he : result = .error e) :
    ∃ reason, e = .database reason s.sql ∨ e = .unsuccessful reason s.sql := by
  cases h with
  | rejected | firstRaised | allRaised =>
    cases he
    exact ⟨_, .inl rfl⟩
  | unsuccessful =>
    cases he
    exact ⟨_, .inr rfl⟩
  | row | rows => cases he

end Exchanged

/-- The exchange of a call about its statement, without what is logged. -/
def exchange (c : Call) (db : Database) (s : Statement) : Report Answer :=
  if c.asksFirst then Answer.row <$> db.runFirst s else Answer.rows <$> db.runAll s

theorem exchanged_first {c : Call} (hc : c.lastRequest = .first) (db : Database) (s : Statement) :
    ∃ qs result, c.Exchanged db s qs result ∧ Answer.row <$> db.runFirst s = .framed result [] qs [] := by
  unfold Database.runFirst
  cases hp : db.prepare s.sql with
  | error reason =>
    refine ⟨_, _, .rejected hp, ?_⟩
    rw [Database.bound_of_error hp, Report.error_bind]
    rfl
  | ok _ =>
    rw [Database.bound_of_ok hp, Report.ok_bind, Database.askingFirst]
    cases h : db.first s.sql s.values with
    | error reason => exact ⟨_, _, .firstRaised hc hp h, rfl⟩
    | ok row => exact ⟨_, _, .row hc hp h, rfl⟩

theorem exchanged_all {c : Call} (hc : c.lastRequest = .all) (db : Database) (s : Statement) :
    ∃ qs result, c.Exchanged db s qs result ∧ Answer.rows <$> db.runAll s = .framed result [] qs [] := by
  unfold Database.runAll
  cases hp : db.prepare s.sql with
  | error reason =>
    refine ⟨_, _, .rejected hp, ?_⟩
    rw [Database.bound_of_error hp, Report.error_bind]
    rfl
  | ok _ =>
    rw [Database.bound_of_ok hp, Report.ok_bind, Database.askingAll]
    cases h : db.all s.sql s.values with
    | error reason => exact ⟨_, _, .allRaised hc hp h, rfl⟩
    | ok o =>
      -- nothing is asked after the outcome, which alone tells the result
      have hall : (Report.asking .all s.sql (.ok o) >>= fun outcome => .ofResult (outcome.rowsOf s.sql)) =
          ⟨o.rowsOf s.sql, [.request .all]⟩ := rfl
      rw [hall]
      by_cases ho : o.success = true
      · refine ⟨_, _, .rows hc hp h ho, ?_⟩
        rw [Outcome.rowsOf, if_pos ho]
        rfl
      · refine ⟨_, _, .unsuccessful hc hp h (Bool.eq_false_iff.2 ho), ?_⟩
        rw [Outcome.rowsOf, if_neg ho]
        rfl

theorem exists_exchanged (c : Call) (db : Database) (s : Statement) :
    ∃ qs result, c.Exchanged db s qs result ∧ c.exchange db s = .framed result [] qs [] := by
  unfold exchange
  cases hc : c.asksFirst with
  | true => exact exchanged_first (c.asksFirst_eq_true_iff.1 hc) db s
  | false => exact exchanged_all (c.asksFirst_eq_false_iff.1 hc) db s

theorem exchanged (c : Call) (db : Database) (s : Statement) :
    c.Exchanged db s (c.exchange db s).requests (c.exchange db s).result := by
  obtain ⟨qs, result, h, heq⟩ := c.exists_exchanged db s
  rw [heq, Report.requests_framed]
  exact h

/-- Two databases say the same to a call: whether they take its statement and, if so, what it gives. -/
def SameAnswers (c : Call) (db db' : Database) : Prop :=
  ∀ s, c.statement = .ok s → db.prepare s.sql = db'.prepare s.sql ∧
    (db.prepare s.sql = .ok () →
      (c.lastRequest = .first → db.first s.sql s.values = db'.first s.sql s.values) ∧
      (c.lastRequest = .all → db.all s.sql s.values = db'.all s.sql s.values))

theorem exchange_congr {c : Call} {db db' : Database} {s : Statement} (hs : c.statement = .ok s)
    (h : c.SameAnswers db db') : c.exchange db s = c.exchange db' s := by
  obtain ⟨hp, hrest⟩ := h s hs
  unfold exchange
  cases hc : c.asksFirst with
  | true =>
    refine congrArg (Answer.row <$> ·) (Database.bound_bind_congr hp fun htaken => ?_)
    rw [Database.askingFirst, Database.askingFirst, (hrest htaken).1 (c.asksFirst_eq_true_iff.1 hc)]
  | false =>
    refine congrArg (Answer.rows <$> ·) (Database.bound_bind_congr hp fun htaken => ?_)
    rw [Database.askingAll, Database.askingAll, (hrest htaken).2 (c.asksFirst_eq_false_iff.1 hc)]

/-! ## The report of a call -/

variable {c : Call}

/-- Only a query gives a warning, and a query always has a statement. -/
theorem warnings_of_fault {fault : ShapeFault} (h : c.statement = .error fault) : c.warnings = [] := by
  rcases c with (_ | _ | ⟨table, q⟩ | _ | _) | _ | _
  case command.select => cases h
  all_goals rfl

theorem run_of_fault {fault : ShapeFault} (h : c.statement = .error fault) (config : LogConfig) (db : Database) :
    c.run config db = .framed (.error (.shape fault)) [] [] [] := by
  simp only [run, h, warnings_of_fault h]
  rfl

theorem run_of_statement {s : Statement} (h : c.statement = .ok s) (config : LogConfig) (db : Database) :
    c.run config db = .framed (c.exchange db s).result (c.warnings ++ [config.announcement s])
      (c.exchange db s).requests (s.failures (c.exchange db s).result) := by
  have hrun : c.run config db =
      ⟨(c.exchange db s).result, c.warnings.map .log ++ ((c.exchange db s).logged config s).actions⟩ := by
    simp only [run, h]
    rfl
  obtain ⟨qs, result, -, heq⟩ := c.exists_exchanged db s
  rw [hrun, heq, Report.requests_framed, Report.result_framed, Report.logged_framed]
  simp only [Report.framed, List.map_append, List.append_assoc]

theorem run_congr (config : LogConfig) {db db' : Database} (h : c.SameAnswers db db') :
    c.run config db = c.run config db' := by
  cases hs : c.statement with
  | error fault => rw [run_of_fault hs, run_of_fault hs]
  | ok s => rw [run_of_statement hs, run_of_statement hs, exchange_congr hs h]

end Call
end BoundSql
