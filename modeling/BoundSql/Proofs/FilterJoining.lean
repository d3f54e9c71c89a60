import BoundSql.Proofs.Clauses
import Mathlib.Data.List.Induction
/-!
# FilterJoining — filters are joined from parts

Fragments that have text are joined by writing them one after another, with the separator before each but the first,
or before each that is written behind some text: both ways give the join (`Fragment.foldl_index`,
`Fragment.foldl_buffer`).  So the fragment of a filter made of two parts is that of the one and that of the other
(`Fragment.join_append`), and a conjunction without a clause leaves no trace (`Filter.fragment_composes`).
-/
namespace BoundSql

open Fragment (verbatim join)

/-! ## Joined fragments -/

namespace Fragment

/-- Two fragments one after another, with a separator between them if both have text. -/
def glue (s : String) (f g : Fragment) : Fragment :=
  ⟨if f.isEmpty then g.sql else if g.isEmpty then f.sql else f.sql ++ s ++ g.sql, f.values ++ g.values⟩

theorem join_append_of_ne_nil {s : String} {fs gs : List Fragment} (hf : fs ≠ []) (hg : gs ≠ []) :
    join s (fs ++ gs) = join s fs ++ verbatim s ++ join s gs := by
  have hsql : s.intercalate (fs.map sql ++ gs.map sql) = s.intercalate (fs.map sql) ++ s ++ s.intercalate (gs.map sql) :=
    String.intercalate_append_of_ne_nil (by simpa using hf) (by simpa using hg)
  ext1 <;> simp [hsql]

theorem join_append {s : String} {fs gs : List Fragment} (hf : ∀ f ∈ fs, f.isEmpty = false)
    (hg : ∀ g ∈ gs, g.isEmpty = false) : join s (fs ++ gs) = glue s (join s fs) (join s gs) := by
  unfold glue
  rw [isEmpty_join s fs hf, isEmpty_join s gs hg]
  by_cases hfn : fs = []
  · subst hfn
    ext1 <;> simp [empty]
  · by_cases hgn : gs = []
    · subst hgn
      ext1 <;> simp [hfn, empty]
    · rw [join_append_of_ne_nil hfn hgn]
      ext1 <;> simp [hfn, hgn]

section Loops

variable {α : Type} {part : α → Fragment} (s : String)

/-- Parts are joined by writing the separator before each but the first. -/
theorem foldl_index (l : List α) :
    l.zipIdx.foldl (fun buffer a => (if a.2 = 0 then buffer else buffer ++ verbatim s) ++ part a.1) empty =
      join s (l.map part) := by
  induction l using List.reverseRecOn with
  | nil => simp
  | append_singleton l a ih =>
    rw [List.zipIdx_append, List.foldl_append, ih, List.map_append]
    by_cases hl : l = []
    · simp [hl]
    · rw [join_append_of_ne_nil (by simpa using hl) (by simp)]
      simp [hl]

/-- Parts that have text are joined by writing the separator wherever there is some text before it. -/
theorem foldl_buffer (h : ∀ a, (part a).isEmpty = false) (l : List α) :
    l.foldl (fun buffer a => (if buffer.isEmpty then buffer else buffer ++ verbatim s) ++ part a) empty =
      join s (l.map part) := by
  induction l using List.reverseRecOn with
  | nil => simp
  | append_singleton l a ih =>
    have hparts : ∀ f ∈ l.map part, f.isEmpty = false := List.forall_mem_map.2 fun a _ => h a
    rw [List.foldl_append, ih, List.map_append, List.foldl_cons, List.foldl_nil, isEmpty_join s _ hparts]
    by_cases hl : l = []
    · simp [hl]
    · rw [join_append_of_ne_nil (by simpa using hl) (by simp)]
      simp [hl]

end Loops
end Fragment

/-! ## Filters -/

/-- The clauses written one after another, each but the first behind an `AND`. -/
def Conjunction.accumulated (c : Conjunction) : Fragment :=
  c.clauses.zipIdx.foldl (fun buffer d => (if d.2 = 0 then buffer else buffer ++ verbatim " AND ") ++ d.1.fragment)
    .empty

theorem Conjunction.accumulated_eq (c : Conjunction) : c.accumulated = c.fragment :=
  Fragment.foldl_index " AND " c.clauses

theorem Conjunction.isEmpty_fragment_of_mem {c : Conjunction} {f : Fragment} (h : f ∈ c.clauses.map Clause.fragment) :
    f.isEmpty = false := by
  obtain ⟨d, -, rfl⟩ := List.mem_map.1 h
  exact d.isEmpty_fragment

theorem Conjunction.isEmpty_parenthesized (c : Conjunction) : c.fragment.parenthesized.isEmpty = false := by
  unfold Fragment.parenthesized
  rw [Fragment.isEmpty_append, Fragment.isEmpty_append]
  rfl

namespace Filter

/-- The conjunctions that have a clause written one after another, with an `OR` wherever there is some text before. -/
def accumulated : Filter → Fragment
  | all c => c.accumulated
  | any cs => (inhabited cs).foldl
      (fun buffer c => (if buffer.isEmpty then buffer else buffer ++ verbatim " OR ") ++ c.accumulated.parenthesized)
      .empty

theorem accumulated_eq (f : Filter) : f.accumulated = f.fragment := by
  cases f with
  | all c => exact c.accumulated_eq
  | any cs =>
    simp only [accumulated, Conjunction.accumulated_eq]
    exact Fragment.foldl_buffer " OR " Conjunction.isEmpty_parenthesized (inhabited cs)

theorem clauseCount_eq (f : Filter) : f.clauseCount = f.clauses.length := by
  cases f <;> rfl

theorem inhabited_append (cs ds : List Conjunction) : inhabited (cs ++ ds) = inhabited cs ++ inhabited ds :=
  List.filter_append ..

theorem fragment_any_congr {cs ds : List Conjunction} (h : inhabited cs = inhabited ds) :
    (any cs).fragment = (any ds).fragment := by
  rw [fragment_any, fragment_any, h]

theorem fragment_all_append (c d : Conjunction) :
    (all ⟨c.clauses ++ d.clauses⟩).fragment = .glue " AND " (all c).fragment (all d).fragment := by
  show join " AND " ((c.clauses ++ d.clauses).map Clause.fragment) = _
  rw [List.map_append]
  exact Fragment.join_append (fun _ => Conjunction.isEmpty_fragment_of_mem)
    (fun _ => Conjunction.isEmpty_fragment_of_mem)

theorem fragment_any_append (cs ds : List Conjunction) :
    (any (cs ++ ds)).fragment = .glue " OR " (any cs).fragment (any ds).fragment := by
  have hparts : ∀ es : List Conjunction, ∀ f ∈ (inhabited es).map fun c => c.fragment.parenthesized,
      f.isEmpty = false := fun es => List.forall_mem_map.2 fun c _ => c.isEmpty_parenthesized
  rw [fragment_any, inhabited_append, List.map_append]
  exact Fragment.join_append (hparts cs) (hparts ds)

/-- **The fragment of a filter follows its parts.**  A conjunction is written as its clause texts joined by `AND`, a
disjunction as its conjunctions that have a clause, each between parentheses, joined by `OR`; writing one after another
gives the same.  The values are those of the clauses in order, one for each, and there is text exactly when there is a
clause.  Conjunctions without a clause may be put in or left out anywhere, and the fragment of two filters put together
is glued from theirs. -/
theorem fragment_composes :
    (∀ c : Conjunction, (all c).fragment.sql = " AND ".intercalate (c.clauses.map Clause.text)) ∧
    (∀ cs, (any cs).fragment.sql =
      " OR ".intercalate ((inhabited cs).map fun c => "(" ++ (all c).fragment.sql ++ ")")) ∧
    (∀ f : Filter, f.accumulated = f.fragment ∧ f.fragment.values = f.clauses.map Clause.value ∧
      f.fragment.values.length = f.clauseCount ∧ (f.fragment.isEmpty = true ↔ f.clauseCount = 0) ∧
      (f.fragment.isEmpty = true ↔ f.fragment.values = [])) ∧
    (∀ cs ds, inhabited cs = inhabited ds → (any cs).fragment = (any ds).fragment) ∧
    (∀ cs ds, (any (cs ++ .empty :: ds)).fragment = (any (cs ++ ds)).fragment) ∧
    (∀ c d : Conjunction,
      (all ⟨c.clauses ++ d.clauses⟩).fragment = .glue " AND " (all c).fragment (all d).fragment) ∧
    ∀ cs ds, (any (cs ++ ds)).fragment = .glue " OR " (any cs).fragment (any ds).fragment := by
  refine ⟨Conjunction.sql_fragment, sql_fragment_any, fun f => ⟨f.accumulated_eq, f.values_fragment, ?_, ?_, ?_⟩,
    fun cs ds => fragment_any_congr, fun cs ds => fragment_any_congr ?_, fragment_all_append, fragment_any_append⟩
  · rw [f.values_fragment, List.length_map, f.clauseCount_eq]
  · rw [f.isEmpty_fragment, List.isEmpty_iff, f.clauseCount_eq, List.length_eq_zero_iff]
  · rw [f.isEmpty_fragment, List.isEmpty_iff, f.values_fragment, List.map_eq_nil_iff]
  · rw [inhabited_append, inhabited_append]
    rfl

/-- Conjunctions without a clause come first, between and last; the clause with an empty name is written, though. -/
theorem fragment_composes_around_empty :
    let named : Conjunction := ⟨[⟨"Name", .text "X"⟩, ⟨"Age > ?", .integer 31⟩]⟩
    let nameless : Conjunction := ⟨[⟨"", .null⟩]⟩
    let cs := [.empty, named, .empty, .empty, nameless, .empty]
    inhabited cs = inhabited [named, nameless] ∧ (any cs).fragment = (any [named, nameless]).fragment ∧
    (any cs).fragment = ⟨"(Name = ? AND Age > ?) OR ( = ?)", [.text "X", .integer 31, .null]⟩ ∧
    (any cs).fragment = .glue " OR " (any [.empty, named]).fragment (any [.empty, .empty, nameless, .empty]).fragment := by
  intro named nameless cs
  have hsame : inhabited cs = inhabited [named, nameless] := by decide
  obtain ⟨-, -, -, hcongr, -, -, happend⟩ := fragment_composes
  exact ⟨hsame, hcongr _ _ hsame, by decide, happend [.empty, named] [.empty, .empty, nameless, .empty]⟩

end Filter
end BoundSql
