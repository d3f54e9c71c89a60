import BoundSql.Fragment
import BoundSql.Proofs.Occurrences
/-!
# Filling — values in the place of their markers

`fillMarkers` reads a text once, from left to right, and puts the next of the given texts in the place of each marker;
what it puts in is not read again.  It succeeds exactly when there are as many texts as markers
(`isSome_fillMarkers`).  `Fills write f t` says that the values of `f`, written by `write`, fill the markers of `f` and
give `t`; it goes along with appending and joining (`Fills.append`, `Fills.join`).
-/
namespace BoundSql

def Unmarked (s : String) : Prop := Fragment.marker ∉ s.toList

instance (s : String) : Decidable (Unmarked s) := inferInstanceAs (Decidable (Fragment.marker ∉ s.toList))

theorem unmarked_append {s t : String} : Unmarked (s ++ t) ↔ Unmarked s ∧ Unmarked t := by
  simp [Unmarked]

theorem unmarked_intercalate {s : String} (hs : Unmarked s) (l : List String) (h : ∀ t ∈ l, Unmarked t) :
    Unmarked (s.intercalate l) := not_mem_intercalate hs l h

namespace Fragment

/-- The text with the given texts in the place of its markers, in order, if there are as many of them as markers. -/
def fillMarkers : List Char → List String → Option (List Char)
  | [], [] => some []
  | [], _ :: _ => none
  | c :: s, ts =>
    if c = marker then
      match ts with
      | [] => none
      | t :: ts => (fillMarkers s ts).map (t.toList ++ ·)
    else (fillMarkers s ts).map (c :: ·)

/-- The text of a fragment with its values, as `write` writes them, in the place of their markers. -/
def filled? (write : Value → String) (f : Fragment) : Option String :=
  (fillMarkers f.sql.toList (f.values.map write)).map String.ofList

/-- **The values of a fragment fill its markers** and give a text. -/
def Fills (write : Value → String) (f : Fragment) (t : String) : Prop := f.filled? write = some t

theorem fillMarkers_marker (s : List Char) (t : String) (ts : List String) :
    fillMarkers (marker :: s) (t :: ts) = (fillMarkers s ts).map (t.toList ++ ·) := by
  simp [fillMarkers]

theorem fillMarkers_of_ne {c : Char} (h : c ≠ marker) (s : List Char) (ts : List String) :
    fillMarkers (c :: s) ts = (fillMarkers s ts).map (c :: ·) := by
  cases ts <;> simp [fillMarkers, h]

/-- **Filling succeeds exactly when there are as many texts as markers.** -/
theorem isSome_fillMarkers : ∀ (s : List Char) (ts : List String),
    (fillMarkers s ts).isSome = true ↔ ts.length = s.count marker
  | [], [] => by simp [fillMarkers]
  | [], t :: ts => by simp [fillMarkers]
  | c :: s, ts => by
    by_cases hc : c = marker
    · subst hc
      cases ts with
      | nil => simp [fillMarkers]
      | cons t ts =>
        rw [fillMarkers_marker, Option.isSome_map, isSome_fillMarkers s ts]
        simp
    · rw [fillMarkers_of_ne hc, Option.isSome_map, isSome_fillMarkers s ts, List.count_cons_of_ne hc]

/-- **Filling goes piece by piece.** -/
theorem fillMarkers_append {s s' : List Char} {ts ts' : List String} {r r' : List Char}
    (h' : fillMarkers s' ts' = some r') :
    fillMarkers s ts = some r → fillMarkers (s ++ s') (ts ++ ts') = some (r ++ r') := by
  induction s generalizing ts r with
  | nil =>
    intro h
    cases ts with
    | nil =>
      cases h
      exact h'
    | cons t ts => cases h
  | cons c s ih =>
    intro h
    by_cases hc : c = marker
    · subst hc
      -- the marker takes the first text, which is never of the second piece
      cases ts with
      | nil => simp [fillMarkers] at h
      | cons t ts =>
        rw [fillMarkers_marker] at h
        obtain ⟨q, hq, rfl⟩ := Option.map_eq_some_iff.1 h
        rw [List.cons_append, List.cons_append, fillMarkers_marker, ih hq]
        simp
    · rw [fillMarkers_of_ne hc] at h
      obtain ⟨q, hq, rfl⟩ := Option.map_eq_some_iff.1 h
      rw [List.cons_append, fillMarkers_of_ne hc, ih hq]
      rfl

theorem fillMarkers_of_not_mem : ∀ (s : List Char), marker ∉ s → fillMarkers s [] = some s
  | [], _ => rfl
  | c :: s, h => by
    have hc : c ≠ marker := fun he => h (he ▸ List.mem_cons_self)
    rw [fillMarkers_of_ne hc, fillMarkers_of_not_mem s (fun hm => h (List.mem_cons_of_mem c hm))]
    rfl

namespace Fills

variable {write : Value → String} {f g : Fragment} {t u : String}

theorem count_eq (h : Fills write f t) : f.markerCount = f.values.length := by
  have hs : (fillMarkers f.sql.toList (f.values.map write)).isSome = true := by
    obtain ⟨r, hr, -⟩ := Option.map_eq_some_iff.1 h
    rw [hr]
    rfl
  rw [isSome_fillMarkers, List.length_map] at hs
  exact hs.symm

theorem empty : Fills write Fragment.empty "" := rfl

theorem verbatim {s : String} (h : Unmarked s) : Fills write (Fragment.verbatim s) s := by
  unfold Fills filled?
  rw [values_verbatim, sql_verbatim, List.map_nil, fillMarkers_of_not_mem _ h]
  simp

theorem bound (v : Value) : Fills write (Fragment.bound v) (write v) := by
  simp [Fills, filled?, Fragment.bound, fillMarkers]

theorem append (hf : Fills write f t) (hg : Fills write g u) : Fills write (f ++ g) (t ++ u) := by
  obtain ⟨r, hr, rfl⟩ := Option.map_eq_some_iff.1 hf
  obtain ⟨q, hq, rfl⟩ := Option.map_eq_some_iff.1 hg
  unfold Fills filled?
  rw [sql_append, values_append, String.toList_append, List.map_append, fillMarkers_append hq hr]
  simp

/-- Joined fragments are filled one by one. -/
theorem join {α : Type} {fragment : α → Fragment} {text : α → String} {s : String} (hs : Unmarked s) :
    ∀ (l : List α), (∀ a ∈ l, Fills write (fragment a) (text a)) →
      Fills write (Fragment.join s (l.map fragment)) (s.intercalate (l.map text))
  | [], _ => by
    simpa using empty
  | [a], h => by
    simpa using h a (by simp)
  | a :: b :: l, h => by
    have ih := join hs (b :: l) (fun c hc => h c (List.mem_cons_of_mem a hc))
    rw [List.map_cons, List.map_cons, List.map_cons, List.map_cons, join_cons_cons, String.intercalate_cons_cons]
    exact ((h a (by simp)).append (verbatim hs)).append ih

theorem parenthesized (hf : Fills write f t) : Fills write f.parenthesized ("(" ++ t ++ ")") :=
  ((verbatim (by decide)).append hf).append (verbatim (by decide))

end Fills
end Fragment
end BoundSql
