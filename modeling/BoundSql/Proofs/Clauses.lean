import BoundSql.Filter
/-!
# Clauses — what a filter is made of

A clause has a text, which holds a marker, and one value.  The text of a conjunction is that of its clauses, and the
values of a filter are those of its clauses in order (`values_fragment`).  No clause is without text, so a filter is
without text exactly when it has no clause (`isEmpty_fragment`).
-/
namespace BoundSql

open Fragment (marker verbatim join)

namespace Fragment

theorem isEmpty_append (f g : Fragment) : (f ++ g).isEmpty = (f.isEmpty && g.isEmpty) := by
  rw [Bool.eq_iff_iff]
  simp [isEmpty]

theorem isEmpty_join (s : String) : ∀ (fs : List Fragment), (∀ f ∈ fs, f.isEmpty = false) →
    (join s fs).isEmpty = fs.isEmpty
  | [], _ => rfl
  | [f], h => by
    rw [join_singleton, h f (by simp)]
    rfl
  | f :: g :: fs, h => by
    rw [join_cons_cons, isEmpty_append, isEmpty_append, h f (by simp)]
    rfl

end Fragment

namespace Clause

/-- The text of a clause: a key with its own marker, or a column compared with a marker. -/
def text (c : Clause) : String := if c.isRaw then c.key else c.key ++ " = ?"

theorem isRaw_iff (c : Clause) : c.isRaw = true ↔ marker ∈ c.key.toList := by
  simp [isRaw]

theorem fragment_eq (c : Clause) : c.fragment = ⟨c.text, [c.value]⟩ := by
  unfold fragment text
  split
  · rfl
  · ext1
    · simp [Fragment.bound, marker, String.append_assoc]
    · rfl

theorem marker_mem_text (c : Clause) : marker ∈ c.text.toList := by
  unfold text
  split
  · rename_i h
    exact c.isRaw_iff.1 h
  · simp [marker]

theorem isEmpty_fragment (c : Clause) : c.fragment.isEmpty = false := by
  rw [fragment_eq, Fragment.isEmpty]
  have h := c.marker_mem_text
  by_cases he : c.text = ""
  · rw [he] at h
    cases h
  · simpa using he

end Clause

namespace Conjunction

theorem sql_fragment (c : Conjunction) : c.fragment.sql = " AND ".intercalate (c.clauses.map Clause.text) := by
  simp [fragment, Clause.fragment_eq, Function.comp_def]

theorem values_fragment (c : Conjunction) : c.fragment.values = c.clauses.map Clause.value := by
  rw [fragment, Fragment.values_join, List.flatMap_map, List.map_eq_flatMap]
  simp [Clause.fragment_eq]

theorem isEmpty_iff (c : Conjunction) : c.isEmpty = true ↔ c.clauses = [] := List.isEmpty_iff

end Conjunction

namespace Filter

def clauses : Filter → List Clause
  | all c => c.clauses
  | any cs => cs.flatMap Conjunction.clauses

def clausesOf (filter : Option Filter) : List Clause := filter.elim [] clauses

/-- The conjunctions that have a clause; only these are written. -/
def inhabited (cs : List Conjunction) : List Conjunction := cs.filter fun c => !c.isEmpty

theorem mem_inhabited {cs : List Conjunction} {c : Conjunction} :
    c ∈ inhabited cs ↔ c ∈ cs ∧ c.clauses ≠ [] := by
  rw [inhabited, List.mem_filter, Bool.not_eq_true', ← Bool.not_eq_true, c.isEmpty_iff]

theorem flatMap_inhabited (cs : List Conjunction) :
    (inhabited cs).flatMap Conjunction.clauses = cs.flatMap Conjunction.clauses := by
  induction cs with
  | nil => rfl
  | cons c cs ih =>
    by_cases h : c.isEmpty = true
    · have he : c.clauses = [] := c.isEmpty_iff.1 h
      simp [inhabited, h, he, ← ih]
    · simp [inhabited, h, ← ih]

theorem inhabited_eq_nil_iff (cs : List Conjunction) : inhabited cs = [] ↔ cs.flatMap Conjunction.clauses = [] := by
  simp [inhabited, Conjunction.isEmpty_iff]

theorem fragment_any (cs : List Conjunction) :
    (any cs).fragment = join " OR " ((inhabited cs).map fun c => c.fragment.parenthesized) := rfl

theorem sql_fragment_any (cs : List Conjunction) : (any cs).fragment.sql =
    " OR ".intercalate ((inhabited cs).map fun c => "(" ++ c.fragment.sql ++ ")") := by
  rw [fragment_any, Fragment.sql_join, List.map_map]
  rfl

/-- **The values of a filter are those of its clauses**, in order. -/
theorem values_fragment (f : Filter) : f.fragment.values = f.clauses.map Clause.value := by
  cases f with
  | all c => exact c.values_fragment
  | any cs =>
    rw [clauses, ← flatMap_inhabited, List.map_flatMap]
    simp [fragment, inhabited, List.flatMap_map, Fragment.parenthesized, Conjunction.values_fragment]

/-- **A filter is without text exactly when it has no clause.** -/
theorem isEmpty_fragment (f : Filter) : f.fragment.isEmpty = f.clauses.isEmpty := by
  cases f with
  | all c =>
    refine (Fragment.isEmpty_join _ _ (fun g hg => ?_)).trans ?_
    · obtain ⟨d, -, rfl⟩ := List.mem_map.1 hg
      exact d.isEmpty_fragment
    · simp [clauses]
  | any cs =>
    refine (Fragment.isEmpty_join _ _ (fun g hg => ?_)).trans ?_
    · obtain ⟨d, -, rfl⟩ := List.mem_map.1 hg
      rfl
    · rw [Bool.eq_iff_iff, List.isEmpty_iff, List.isEmpty_iff, List.map_eq_nil_iff]
      exact inhabited_eq_nil_iff cs

theorem clause_some (keyword : String) (f : Filter) : clause keyword (some f) =
    if f.clauses = [] then .empty else verbatim (" " ++ keyword ++ " ") ++ f.fragment := by
  simp only [clause, Fragment.clause, isEmpty_fragment, List.isEmpty_iff]

theorem values_clause (keyword : String) (filter : Option Filter) :
    (clause keyword filter).values = (clausesOf filter).map Clause.value := by
  cases filter with
  | none => rfl
  | some f =>
    rw [clause_some, clausesOf, Option.elim_some]
    by_cases he : f.clauses = []
    · rw [if_pos he, he]
      rfl
    · rw [if_neg he, Fragment.values_append, Fragment.values_verbatim, f.values_fragment, List.nil_append]

end Filter
end BoundSql
