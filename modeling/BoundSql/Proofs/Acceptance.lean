import BoundSql.Proofs.Statements
import Mathlib.Data.List.Nodup
import Mathlib.Data.List.Perm.Subperm
import Mathlib.Data.Set.Finite.Basic
/-!
# Acceptance — which rows one statement inserts

`Insert.many` has four outcomes (`many_cases`).  It takes rows that have the columns of the first in any order
(`SameColumns`), and it also takes rows that it misreads (`Misread`): as many columns, and every name of the first row
among them, but not each as often.  Rows can be misread exactly when the first row repeats a name
(`exists_misread_iff`).
-/
namespace BoundSql

/-- As many elements, among them those of a list without repetition, are those of that list in another order. -/
theorem perm_of_length_eq_of_subset {α : Type} {l others : List α} (hnd : l.Nodup) (hlen : others.length = l.length)
    (hsub : l ⊆ others) : others.Perm l :=
  ((List.subperm_of_subset hnd hsub).perm_of_length_le (Nat.le_of_eq hlen)).symm

namespace Row

theorem contains_iff (r : Row) (name : String) : r.contains name = true ↔ name ∈ r.names := by
  simp [contains, get?, names]

theorem fits_iff (r : Row) (names : List String) :
    r.fits names = true ↔ r.names.length = names.length ∧ names ⊆ r.names := by
  unfold fits
  rw [Bool.and_eq_true, List.all_eq_true, beq_iff_eq]
  simp only [contains_iff, size, Row.names, List.length_map]
  rfl

theorem names_eq_nil_iff (r : Row) : r.names = [] ↔ r.columns = [] := List.map_eq_nil_iff

theorem fits_names_self (r : Row) : r.fits r.names = true := (r.fits_iff _).2 ⟨rfl, List.Subset.refl _⟩

/-- A row that fits a name holds a value under it. -/
theorem get?_of_fits {r : Row} {names : List String} (h : r.fits names = true) {name : String} (hn : name ∈ names) :
    ∃ v, r.get? name = some v :=
  Option.isSome_iff_exists.1 ((r.contains_iff name).2 ((r.fits_iff names).1 h |>.2 hn))

end Row

namespace Insert

/-- The names that several rows are inserted under. -/
def columnNames : List Row → List String
  | [] => []
  | first :: _ => first.names

/-- Looking for a misfit from an index on finds none, as every row fits, or the earliest with its index. -/
theorem find?_misfit (names : List String) : ∀ (rows : List Row) (k : Nat),
    (((rows.zipIdx k).find? fun r => !r.1.fits names) = none ∧ ∀ row ∈ rows, row.fits names = true) ∨
    ∃ pre row post, rows = pre ++ row :: post ∧ (∀ r ∈ pre, r.fits names = true) ∧ row.fits names = false ∧
      ((rows.zipIdx k).find? fun r => !r.1.fits names) = some (row, k + pre.length)
  | [], k => .inl ⟨rfl, fun _ h => by cases h⟩
  | row :: rows, k => by
    cases h : row.fits names with
    | false => exact .inr ⟨[], row, rows, rfl, fun _ hr => (by cases hr), h, by simp [h]⟩
    | true =>
      have hstep : ((row :: rows).zipIdx k).find? (fun r => !r.1.fits names) =
          (rows.zipIdx (k + 1)).find? fun r => !r.1.fits names := by
        simp [h]
      rw [hstep]
      rcases find?_misfit names rows (k + 1) with ⟨hnone, hall⟩ | ⟨pre, bad, post, rfl, hpre, hbad, hsome⟩
      · exact .inl ⟨hnone, List.forall_mem_cons.2 ⟨h, hall⟩⟩
      · refine .inr ⟨row :: pre, bad, post, rfl, List.forall_mem_cons.2 ⟨h, hpre⟩, hbad, ?_⟩
        rw [hsome, List.length_cons, Nat.add_assoc, Nat.add_comm 1]

/-- **The four outcomes of inserting rows**: none are given, the first has no column, the earliest that does not fit the
names of the first is told with its index, or all are inserted under those names. -/
theorem many_cases (table : String) (rows : List Row) :
    (rows = [] ∧ many table rows = .error (.noRows table)) ∨
    (∃ first rest, rows = first :: rest ∧ first.columns = [] ∧
      many table rows = .error (.firstRowEmpty table)) ∨
    (∃ first pre row post, rows = first :: (pre ++ row :: post) ∧ first.columns ≠ [] ∧
      (∀ r ∈ pre, r.fits first.names = true) ∧ row.fits first.names = false ∧
      many table rows = .error (.columnsDiffer table (1 + pre.length) row.names first.names)) ∨
    (∃ first rest, rows = first :: rest ∧ first.columns ≠ [] ∧ (∀ r ∈ rest, r.fits first.names = true) ∧
      many table rows = .ok (statement table first.names (rows.map (·.valuesUnder first.names)))) := by
  cases rows with
  | nil => exact .inl ⟨rfl, rfl⟩
  | cons first rest =>
    refine .inr ?_
    by_cases hf : first.columns = []
    · refine .inl ⟨first, rest, rfl, hf, ?_⟩
      rw [many, if_pos (first.isEmpty_iff.2 hf)]
    · refine .inr ?_
      have hfirst : ¬ first.isEmpty = true := fun h => hf (first.isEmpty_iff.1 h)
      rcases find?_misfit first.names rest 1 with ⟨hnone, hall⟩ | ⟨pre, row, post, rfl, hpre, hrow, hsome⟩
      · refine .inr ⟨first, rest, rfl, hf, hall, ?_⟩
        rw [many, if_neg hfirst, misfit?, hnone]
      · refine .inl ⟨first, pre, row, post, rfl, hf, hpre, hrow, ?_⟩
        rw [many, if_neg hfirst, misfit?, hsome]

/-- **Rows are inserted exactly when the first has a column and every later one fits its names.** -/
theorem many_eq_ok_iff (table : String) (rows : List Row) (s : Statement) :
    many table rows = .ok s ↔ ∃ first rest, rows = first :: rest ∧ first.columns ≠ [] ∧
      (∀ r ∈ rest, r.fits first.names = true) ∧
      s = statement table first.names (rows.map (·.valuesUnder first.names)) := by
  rcases many_cases table rows with ⟨rfl, h⟩ | ⟨first, rest, rfl, he, h⟩ | ⟨first, pre, row, post, rfl, -, -, hrow, h⟩ |
    ⟨first, rest, rfl, hne, hfits, h⟩ <;> rw [h]
  · constructor
    · intro hs
      cases hs
    · rintro ⟨_, _, hs, -⟩
      cases hs
  · constructor
    · intro hs
      cases hs
    · rintro ⟨_, _, hs, hne, -⟩
      cases hs
      exact absurd he hne
  · constructor
    · intro hs
      cases hs
    · rintro ⟨_, _, hs, -, hfits, -⟩
      cases hs
      rw [hfits row (by simp)] at hrow
      cases hrow
  · constructor
    · intro hs
      cases hs
      exact ⟨first, rest, rfl, hne, hfits, rfl⟩
    · rintro ⟨_, _, hs, -, -, rfl⟩
      cases hs
      rfl

/-- There is a first row, it has a column, and every later row has its column names, in any order and each as often. -/
def SameColumns : List Row → Prop
  | [] => False
  | first :: rest => first.columns ≠ [] ∧ ∀ row ∈ rest, row.names.Perm first.names

/-- Every later row has as many columns as the first and a column for each of its names, but one of them does not have
the same names equally often. -/
def Misread : List Row → Prop
  | [] => False
  | first :: rest => first.columns ≠ [] ∧
    (∀ row ∈ rest, row.names.length = first.names.length ∧ first.names ⊆ row.names) ∧
    ∃ row ∈ rest, ¬ row.names.Perm first.names

theorem not_misread_of_sameColumns : ∀ {rows : List Row}, SameColumns rows → ¬ Misread rows
  | [], h, _ => h
  | _ :: _, h, hm => by
    obtain ⟨row, hrow, hperm⟩ := hm.2.2
    exact hperm (h.2 row hrow)

/-- The rows that are inserted are those with the columns of the first, and those that are misread. -/
theorem exists_many_eq_ok_iff (table : String) (rows : List Row) :
    (∃ s, many table rows = .ok s) ↔ SameColumns rows ∨ Misread rows := by
  simp only [many_eq_ok_iff, Row.fits_iff]
  constructor
  · rintro ⟨_, first, rest, rfl, hne, hfits, -⟩
    by_cases hperm : ∀ row ∈ rest, row.names.Perm first.names
    · exact .inl ⟨hne, hperm⟩
    · refine .inr ⟨hne, hfits, ?_⟩
      simpa using hperm
  · cases rows with
    | nil => rintro (h | h) <;> cases h
    | cons first rest =>
      rintro (⟨hne, hperm⟩ | ⟨hne, hfits, -⟩)
      · refine ⟨_, first, rest, rfl, hne, fun row hrow => ?_, rfl⟩
        exact ⟨(hperm row hrow).length_eq, (hperm row hrow).symm.subset⟩
      · exact ⟨_, first, rest, rfl, hne, hfits, rfl⟩

/-- **Later rows can be misread exactly when the first row repeats a name.**  A new name in the place of one of the
repeated ones is not noticed. -/
theorem exists_misread_iff (first : Row) : (∃ rest, Misread (first :: rest)) ↔ ¬ first.names.Nodup := by
  constructor
  · rintro ⟨rest, -, hfits, row, hrow, hperm⟩ hnd
    exact hperm (perm_of_length_eq_of_subset hnd (hfits row hrow).1 (hfits row hrow).2)
  · intro hnd
    obtain ⟨name, hname⟩ : ∃ name, 1 < first.names.count name := by
      simpa [List.nodup_iff_count_le_one] using hnd
    have hmem : name ∈ first.names := List.count_pos_iff.1 (by omega)
    obtain ⟨fresh, hfresh⟩ : ∃ s, s ∉ first.names := first.names.finite_toSet.exists_notMem
    -- it takes the place of one occurrence, so the name is still there
    let row : Row := ⟨(fresh :: first.names.erase name).map fun n => ⟨n, .null⟩⟩
    have hnames : row.names = fresh :: first.names.erase name := by
      simp [row, Row.names, Function.comp_def]
    refine ⟨[row], fun he => ?_, ?_, row, by simp, fun hperm => ?_⟩
    · rw [← first.names_eq_nil_iff] at he
      rw [he] at hmem
      cases hmem
    · simp only [List.mem_singleton, forall_eq]
      rw [hnames]
      constructor
      · have := List.length_pos_of_mem hmem
        rw [List.length_cons, List.length_erase_of_mem hmem]
        omega
      · intro n hn
        refine List.mem_cons_of_mem _ ?_
        by_cases h : n = name
        · subst h
          exact List.count_pos_iff.1 (by rw [List.count_erase_self]; omega)
        · exact (List.mem_erase_of_ne h).2 hn
    · exact hfresh (hperm.subset (by rw [hnames]; exact List.mem_cons_self))

/-- **When inserting rows keeps to the columns of the first row.**  Rows are inserted when they have the columns of the
first, and when they are misread; otherwise they are refused with a fault.  So the rule holds for given rows unless they
are misread, and whatever follows a first row exactly when its names are pairwise distinct. -/
theorem many_ok_iff_sameColumns_iff (table : String) (rows : List Row) :
    ((∃ s, many table rows = .ok s) ↔ SameColumns rows ∨ Misread rows) ∧
    ((∃ fault, many table rows = .error fault) ↔ ¬ (SameColumns rows ∨ Misread rows)) ∧
    (((∃ s, many table rows = .ok s) ↔ SameColumns rows) ↔ ¬ Misread rows) ∧
    (∀ first, (∀ rest, (∃ s, many table (first :: rest) = .ok s) ↔ SameColumns (first :: rest)) ↔
      first.names.Nodup) := by
  have hagree : ∀ rows, ((∃ s, many table rows = .ok s) ↔ SameColumns rows) ↔ ¬ Misread rows := by
    intro rows
    rw [exists_many_eq_ok_iff]
    constructor
    · intro h hm
      exact not_misread_of_sameColumns (h.1 (.inr hm)) hm
    · intro h
      exact or_iff_left h
  refine ⟨exists_many_eq_ok_iff table rows, ?_, hagree rows, fun first => ?_⟩
  · rw [← exists_many_eq_ok_iff table rows]
    cases many table rows <;> simp
  · simp only [hagree]
    rw [← not_exists, exists_misread_iff, Classical.not_not]

/-- **A row with another name in the place of a repeated one is inserted.**  Its value under that name is lost, and its
value under the repeated name is bound twice. -/
theorem many_ok_of_misread :
    many "t" [⟨[⟨"a", .integer 1⟩, ⟨"a", .integer 2⟩]⟩, ⟨[⟨"a", .integer 3⟩, ⟨"b", .integer 4⟩]⟩] =
      .ok ⟨"INSERT INTO t (a,a) VALUES (?,?),(?,?) RETURNING *;",
        [.integer 1, .integer 1, .integer 3, .integer 3]⟩ ∧
    ¬ SameColumns [⟨[⟨"a", .integer 1⟩, ⟨"a", .integer 2⟩]⟩, ⟨[⟨"a", .integer 3⟩, ⟨"b", .integer 4⟩]⟩] := by
  refine ⟨by decide, fun h => ?_⟩
  have hperm := h.2 ⟨[⟨"a", .integer 3⟩, ⟨"b", .integer 4⟩]⟩ (by simp)
  have hb : "b" ∈ ["a", "a"] := hperm.subset (by decide)
  revert hb
  decide

end Insert
end BoundSql
