import Mathlib.Algebra.Ring.Nat
/-!
# Occurrences — how often a character stands in a text

Occurrences add up over appended texts, and over joined texts when the separator has none (`occurrences_intercalate`,
`occurrences_intercalate_parts`).
-/
namespace BoundSql

def occurrences (c : Char) (s : String) : Nat := s.toList.count c

theorem occurrences_eq_zero_iff {c : Char} {s : String} : occurrences c s = 0 ↔ c ∉ s.toList := List.count_eq_zero

theorem occurrences_append (c : Char) (s t : String) : occurrences c (s ++ t) = occurrences c s + occurrences c t := by
  rw [occurrences, String.toList_append, List.count_append]
  rfl

theorem occurrences_intercalate {c : Char} {s : String} (hs : occurrences c s = 0) : ∀ (l : List String),
    occurrences c (s.intercalate l) = (l.map (occurrences c)).sum
  | [] => by
    rw [String.intercalate_nil]
    rfl
  | [t] => by
    rw [String.intercalate_singleton, List.map_singleton, List.sum_singleton]
  | t :: u :: l => by
    rw [String.intercalate_cons_cons, occurrences_append, occurrences_append, hs, Nat.add_zero,
      occurrences_intercalate hs (u :: l)]
    exact List.sum_cons.symm

/-- Joined texts, each of which has the occurrences of its parts, have those of all parts. -/
theorem occurrences_intercalate_parts {α β : Type} {c : Char} {s : String} (hs : occurrences c s = 0)
    {text : α → String} {parts : α → List β} {weight : β → Nat}
    (h : ∀ a, occurrences c (text a) = ((parts a).map weight).sum) (l : List α) :
    occurrences c (s.intercalate (l.map text)) = ((l.flatMap parts).map weight).sum := by
  rw [occurrences_intercalate hs]
  induction l with
  | nil => rfl
  | cons a l ih =>
    rw [List.map_cons, List.map_cons, List.sum_cons, List.flatMap_cons, List.map_append, List.sum_append_nat, h a, ih]

theorem not_mem_intercalate {c : Char} {s : String} (hs : c ∉ s.toList) (l : List String)
    (h : ∀ t ∈ l, c ∉ t.toList) : c ∉ (s.intercalate l).toList := by
  rw [← occurrences_eq_zero_iff, occurrences_intercalate (occurrences_eq_zero_iff.2 hs),
    List.sum_eq_zero_iff_forall_eq_nat]
  intro n hn
  obtain ⟨t, ht, rfl⟩ := List.mem_map.1 hn
  exact occurrences_eq_zero_iff.2 (h t ht)

end BoundSql
