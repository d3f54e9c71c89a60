import BoundSql.Proofs.Turns
/-!
# Configuration — what a configuration changes

Two sessions that make the same calls, with the same answers, have the same results and the same requests, however each
is configured and whenever that changes (`Session.configuration_only_logs`).  Their events differ only in the level and
the text of what is logged about a statement, and not even there for calls that go by the default configuration.
-/
namespace BoundSql

/-- Events that differ at most in what a configuration decides. -/
inductive LogEvent.SameButConfig : LogEvent → LogEvent → Prop
  | refl (e : LogEvent) : SameButConfig e e
  | statement (l l' : LogLevel) (kind : StatementKind) (valueCount : Nat) (sql sql' : String) :
    SameButConfig (.statement l kind valueCount sql) (.statement l' kind valueCount sql')

/-- Reports that differ at most in what a configuration decides. -/
structure Report.SameButConfig (r r' : Report Answer) : Prop where
  result : r.result = r'.result
  requests : r.requests = r'.requests
  events : List.Forall₂ LogEvent.SameButConfig r.events r'.events

/-- The same call on the same route, with the same answers. -/
structure Turn.Matches (t u : Turn) : Prop where
  route : t.route = u.route
  call : t.call = u.call
  answers : t.call.SameAnswers t.database u.database

theorem LogEvent.forall₂_sameButConfig (es : List LogEvent) : List.Forall₂ SameButConfig es es :=
  List.forall₂_same.2 (fun e _ => .refl e)

theorem Call.run_sameButConfig (c : Call) (config config' : LogConfig) (db : Database) :
    (c.run config db).SameButConfig (c.run config' db) := by
  cases h : c.statement with
  | error fault =>
    rw [run_of_fault h, run_of_fault h]
    exact ⟨rfl, rfl, LogEvent.forall₂_sameButConfig _⟩
  | ok s =>
    rw [run_of_statement h, run_of_statement h]
    refine ⟨rfl, by rw [Report.requests_framed, Report.requests_framed], ?_⟩
    rw [Report.events_framed, Report.events_framed]
    -- only the announcement between the warnings and the failure goes by the configuration
    exact List.rel_append (List.rel_append (LogEvent.forall₂_sameButConfig _) (.cons (.statement ..) .nil))
      (LogEvent.forall₂_sameButConfig _)

theorem Turn.Matches.report_sameButConfig {t u : Turn} (h : t.Matches u) : t.report.SameButConfig u.report := by
  rw [Turn.report, Turn.report, ← h.call, ← Call.run_congr u.config h.answers]
  exact t.call.run_sameButConfig t.config u.config t.database

namespace Session

theorem config_of_standalone : ∀ (s : Session) (steps : List Step),
    ∀ t ∈ s.turns steps, t.route = .standalone → t.config = {}
  | _, [], _, ht, _ => by cases ht
  | s, ⟨d, .configure settings⟩ :: rest, t, ht, hr =>
    config_of_standalone ⟨.ofSettings settings, d.getD s.database⟩ rest t ht hr
  | s, ⟨d, .call route c⟩ :: rest, t, ht, hr => by
    rcases List.mem_cons.1 ht with rfl | ht
    · cases hr
      rfl
    · exact config_of_standalone ⟨s.config, d.getD s.database⟩ rest t ht hr

theorem run_standalone (d : Option Database) (c : Call) (post : List Step) : ∀ (s : Session) (pre : List Step),
    (s.run (pre ++ ⟨d, .call .standalone c⟩ :: post))[pre.length]? =
      (s.run (pre ++ ⟨none, .configure []⟩ :: ⟨d, .call .client c⟩ :: post))[pre.length + 1]?
  | _, [] => rfl
  | s, st :: pre => run_standalone d c post (s.step st).1 pre

/-- **A configuration changes only what is logged.**  Two sessions whose turns match give the same results and make the
same requests, turn by turn, whatever configurations they meet; their events are as many and differ at most in the level
and the text logged about a statement, and a standalone call has the very same report.  A standalone call is a
client's call under the default configuration. -/
theorem configuration_only_logs (s s' : Session) (steps others : List Step)
    (h : List.Forall₂ Turn.Matches (s.turns steps) (s'.turns others)) :
    List.Forall₂ Report.SameButConfig (s.reports steps) (s'.reports others) ∧
    (∀ (i : Nat) (t : Turn), (s.turns steps)[i]? = some t → t.route = .standalone →
      (s.reports steps)[i]? = (s'.reports others)[i]?) ∧
    ∀ (pre post : List Step) (d : Option Database) (c : Call),
      (s.run (pre ++ ⟨d, .call .standalone c⟩ :: post))[pre.length]? =
        (s.run (pre ++ ⟨none, .configure []⟩ :: ⟨d, .call .client c⟩ :: post))[pre.length + 1]? := by
  refine ⟨?_, ?_, fun pre post d c => run_standalone d c post s pre⟩
  · rw [reports_eq, reports_eq, List.forall₂_map_left_iff, List.forall₂_map_right_iff]
    exact h.imp (fun _ _ hm => hm.report_sameButConfig)
  · intro i t ht hroute
    obtain ⟨u, hu, hm⟩ := exists_of_forall₂ h ht
    have htc : t.config = {} := s.config_of_standalone steps t (List.mem_of_getElem? ht) hroute
    have huc : u.config = {} := s'.config_of_standalone others u (List.mem_of_getElem? hu) (hm.route ▸ hroute)
    rw [getElem?_reports, getElem?_reports, ht, hu, Option.map_some, Option.map_some, Turn.report, Turn.report, htc,
      huc, ← hm.call, Call.run_congr _ hm.answers]

/-- Configurations that are set at other points and cut the text differently change the log, and only the log. -/
theorem sameButConfig_of_settings_apart :
    let call : Call := .all ⟨"SELECT 'é'", []⟩
    let insert : Call := .command (.insert "t" ⟨[⟨"a", .null⟩]⟩)
    let s : Session := { config := { level := .error, maxLength := none } }
    let steps : List Step := [⟨some (.failing "down"), .configure [.level .trace, .maxLength 0]⟩,
      ⟨none, .call .client call⟩, ⟨some .echo, .call .standalone insert⟩]
    let others : List Step := [⟨some (.failing "down"), .call .client call⟩, ⟨none, .configure [.noTruncation]⟩,
      ⟨some .echo, .call .standalone insert⟩]
    List.Forall₂ Turn.Matches (s.turns steps) (s.turns others) ∧
    List.Forall₂ Report.SameButConfig (s.reports steps) (s.reports others) ∧
    (s.reports steps)[1]? = (s.reports others)[1]? ∧
    (s.reports steps).map Report.events ≠ (s.reports others).map Report.events := by
  intro call insert s steps others
  have hsame : ∀ (c : Call) (db : Database), c.SameAnswers db db :=
    fun c db st _ => ⟨rfl, fun _ => ⟨fun _ => rfl, fun _ => rfl⟩⟩
  have h : List.Forall₂ Turn.Matches (s.turns steps) (s.turns others) :=
    .cons ⟨rfl, rfl, hsame _ _⟩ (.cons ⟨rfl, rfl, hsame _ _⟩ .nil)
  obtain ⟨hreports, hstandalone, -⟩ := configuration_only_logs s s steps others h
  exact ⟨h, hreports, hstandalone 1 _ rfl rfl, by decide⟩

end Session
end BoundSql
