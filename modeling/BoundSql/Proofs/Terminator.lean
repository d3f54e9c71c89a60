import BoundSql.Proofs.Accounting
import BoundSql.Proofs.Erasure
/-!
# Terminator — where a statement ends

Every statement is closed by the terminator (`Command.exists_eq_append_terminator`).  Each of its other semicolons
stands in a text that is written as it is given (`Command.givenTexts`), and none in a keyword, a separator or a marker
(`Command.occurrences_semicolon`).  So a statement whose texts have no semicolon has one only, which is its last
character (`Command.terminated_once`).
-/
namespace BoundSql

open Fragment (verbatim)

theorem Clause.occurrences_semicolon_text (d : Clause) : occurrences ';' d.text = occurrences ';' d.key := by
  unfold Clause.text
  by_cases hraw : d.isRaw = true
  · rw [if_pos hraw]
  · have hnone : occurrences ';' " = ?" = 0 := by decide
    rw [if_neg hraw, occurrences_append, hnone, Nat.add_zero]

theorem Statement.append_returningRows (f : Fragment) :
    f ++ returningRows = f ++ verbatim " RETURNING *" ++ terminator := (Fragment.append_assoc ..).symm

namespace Command

/-- All texts of a command that stand in its statement as they are given. -/
def givenTexts (c : Command) : List String := c.writtenTexts ++ c.writtenClauses.map Clause.key

/-- **The terminator closes every statement**, after the changed rows are asked for or without them. -/
theorem exists_eq_append_terminator {c : Command} {s : Statement} (hs : c.statement = .ok s) :
    ∃ body : Fragment, s = body ++ Statement.terminator := by
  cases c with
  | insert table row =>
    obtain ⟨-, rfl⟩ := (Insert.one_eq_ok_iff table row s).1 hs
    exact ⟨_, Statement.append_returningRows _⟩
  | insertMany table rows =>
    obtain ⟨first, rest, -, -, -, rfl⟩ := (Insert.many_eq_ok_iff table rows s).1 hs
    exact ⟨_, Statement.append_returningRows _⟩
  | select table q =>
    cases hs
    exact ⟨_, rfl⟩
  | update table changes filter =>
    obtain ⟨-, rfl⟩ := (Update.statement_eq_ok_iff table changes filter s).1 hs
    exact ⟨_, Statement.append_returningRows _⟩
  | delete table filter =>
    cases hs
    exact ⟨_, Statement.append_returningRows _⟩

/-- **The account of the semicolons**: one that ends the statement, and those of the texts that are given. -/
theorem occurrences_semicolon {c : Command} {s : Statement} (hs : c.statement = .ok s) :
    occurrences ';' s.sql = 1 + (c.givenTexts.map (occurrences ';')).sum := by
  obtain ⟨n, -, hsigns⟩ := exists_occurrences hs
  have hsql := hsigns ';' (.inr rfl)
  -- the values that come with names are written as markers, so however many there are they add nothing
  have hmarker : occurrences ';' "?" = 0 := by decide
  have hend : occurrences ';' ";" = 1 := by decide
  have hgiven : (c.givenTexts.map (occurrences ';')).sum = (c.writtenTexts.map (occurrences ';')).sum
      + (c.writtenClauses.map fun d => occurrences ';' d.text).sum := by
    simp only [Clause.occurrences_semicolon_text]
    rw [givenTexts, List.map_append, List.map_map, List.sum_append_nat]
    rfl
  rw [hmarker, hend, Nat.mul_zero] at hsql
  omega

/-- **A statement is terminated once.**  It ends with a semicolon, and has one more than the texts that stand in it as
they are given; before its end it has none exactly when no given text has one.  This does not depend on values, since
commands that differ only in these have the same text, nor on a condition on groups without a grouping. -/
theorem terminated_once {c : Command} {s : Statement} (hs : c.statement = .ok s) :
    (∃ body, s.sql = body ++ ";" ∧ (';' ∉ body.toList ↔ ∀ t ∈ c.givenTexts, ';' ∉ t.toList)) ∧
    occurrences ';' s.sql = 1 + (c.givenTexts.map (occurrences ';')).sum ∧
    (∀ d : Command, d.erased = c.erased → d.statement.map Fragment.sql = .ok s.sql) ∧
    ∀ table q having, c = select table q → q.groupBy = none →
      (select table { q with having }).statement = .ok s := by
  have hcount := occurrences_semicolon hs
  refine ⟨?_, hcount, fun d hd => ?_, fun _ _ => statement_of_ungrouped hs⟩
  · obtain ⟨body, rfl⟩ := exists_eq_append_terminator hs
    refine ⟨body.sql, rfl, ?_⟩
    have hbody : occurrences ';' body.sql = (c.givenTexts.map (occurrences ';')).sum := by
      have hend : occurrences ';' Statement.terminator.sql = 1 := by decide
      rw [Fragment.sql_append, occurrences_append, hend] at hcount
      omega
    rw [← occurrences_eq_zero_iff, hbody, List.sum_eq_zero_iff_forall_eq_nat, List.forall_mem_map]
    simp only [occurrences_eq_zero_iff]
  · rw [← d.sql_erased, hd, c.sql_erased, hs]
    rfl

/-- The semicolons of an expression, of a name and of a key are written; those of a value, of a name that its
expression already has and of the condition on groups are not. -/
theorem terminated_once_of_given_semicolons :
    let filter (v : Value) : Filter := .any [.empty, ⟨[⟨"x > ?;", .integer 1⟩, ⟨"Name", v⟩]⟩]
    let q (v : Value) : Select := {
      projection := .named [⟨"a;b", "a;b"⟩, ⟨"b", "c;"⟩]
      filter := some (filter v)
      having := some (.all ⟨[⟨"count(*) > ?;", .integer 2⟩]⟩) }
    let s : Statement := ⟨"SELECT a;b, b AS c; FROM men WHERE (x > ?; AND Name = ?);", [.integer 1, .text "';"]⟩
    let row : Row := ⟨[⟨"Name", .text ";"⟩]⟩
    (select "men" (q (.text "';"))).statement = .ok s ∧ occurrences ';' s.sql = 1 + 3 ∧
    (select "men" (q .null)).statement.map Fragment.sql = .ok s.sql ∧
    (select "men" { q (.text "';") with having := none }).statement = .ok s ∧
    ∃ t body, (insertMany "men" [row, row]).statement = .ok t ∧ t.sql = body ++ ";" ∧ ';' ∉ body.toList := by
  intro filter q s row
  have hs : (select "men" (q (.text "';"))).statement = .ok s := by decide
  obtain ⟨-, hcount, hvalues, hhaving⟩ := terminated_once hs
  have ht : (insertMany "men" [row, row]).statement =
      .ok ⟨"INSERT INTO men (Name) VALUES (?),(?) RETURNING *;", [.text ";", .text ";"]⟩ := by decide
  obtain ⟨⟨body, hbody, hnone⟩, -, -, -⟩ := terminated_once ht
  refine ⟨hs, hcount, hvalues _ rfl, hhaving "men" _ none rfl rfl, _, body, ht, hbody, hnone.2 ?_⟩
  decide

end Command
end BoundSql
