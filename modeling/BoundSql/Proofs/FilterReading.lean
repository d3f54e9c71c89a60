import BoundSql.Proofs.Clauses
import BoundSql.Proofs.Reading
/-!
# FilterReading — a filter is read back from its text

The text of a filter, read as a formula, is the conjunction of its clause texts, or one group of them for each
conjunction of a disjunction that has a clause; its values belong to the atoms in their order.  So two filters are
written as one fragment exactly when they are normalized to the same (`fragment_reads_back`).
-/
namespace BoundSql

open Fragment (marker)

/-! ## The formula of a filter -/

/-- A clause whose text can be told from the syntax around it: it has no parenthesis, and none of its words is a
connective. -/
structure Clause.IsLegible (c : Clause) : Prop where
  noOpening : '(' ∉ c.text.toList
  noClosing : ')' ∉ c.text.toList
  noBoth : "AND".toList ∉ c.text.toList.splitOn ' '
  noEither : "OR".toList ∉ c.text.toList.splitOn ' '

instance (c : Clause) : Decidable c.IsLegible :=
  decidable_of_iff ('(' ∉ c.text.toList ∧ ')' ∉ c.text.toList ∧ "AND".toList ∉ c.text.toList.splitOn ' ' ∧
      "OR".toList ∉ c.text.toList.splitOn ' ')
    ⟨fun ⟨ho, hc, hb, he⟩ => ⟨ho, hc, hb, he⟩, fun ⟨ho, hc, hb, he⟩ => ⟨ho, hc, hb, he⟩⟩

def Clause.normalized (c : Clause) : Clause := ⟨c.text, c.value⟩

namespace Conjunction

def texts (c : Conjunction) : List String := c.clauses.map Clause.text

def normalized (c : Conjunction) : Conjunction := ⟨c.clauses.map Clause.normalized⟩

end Conjunction

namespace Filter

def IsLegible (f : Filter) : Prop := f.clauses ≠ [] ∧ ∀ c ∈ f.clauses, c.IsLegible

instance (f : Filter) : Decidable f.IsLegible :=
  inferInstanceAs (Decidable (f.clauses ≠ [] ∧ ∀ c ∈ f.clauses, c.IsLegible))

/-- What a filter says: its clauses joined by `AND`, or a group of them for each conjunction with a clause. -/
def formula : Filter → Formula
  | all c => [c.texts.map .atom]
  | any cs => (inhabited cs).map fun c => [.group [c.texts.map .atom]]

/-- The filter without conjunctions that have no clause, each key replaced by the text of its clause. -/
def normalized : Filter → Filter
  | all c => all c.normalized
  | any cs => any ((inhabited cs).map Conjunction.normalized)

end Filter

/-! ## Reading -/

/-- A word that is not empty stands around every character that is no space. -/
theorem exists_word_ne_nil {c : Char} (hc : c ≠ ' ') : ∀ (s : List Char), c ∈ s → ∃ w ∈ s.splitOn ' ', w ≠ []
  | [], h => by cases h
  | d :: s, h => by
    rw [List.splitOn_cons_eq_if_modifyHead]
    by_cases hd : d = ' '
    · subst hd
      have hs : c ∈ s := (List.mem_cons.1 h).resolve_left hc
      obtain ⟨w, hw, hne⟩ := exists_word_ne_nil hc s hs
      rw [if_pos (by decide)]
      exact ⟨w, List.mem_cons_of_mem _ hw, hne⟩
    · rw [if_neg (by simpa using hd)]
      cases hws : s.splitOn ' ' with
      | nil => exact absurd hws (List.splitOn_ne_nil ' ' s)
      | cons w ws => exact ⟨d :: w, by simp, List.cons_ne_nil d w⟩

theorem Clause.IsLegible.isAtom {c : Clause} (h : c.IsLegible) : IsAtom c.text where
  noOpening := h.noOpening
  noClosing := h.noClosing
  noBoth := h.noBoth
  noEither := h.noEither
  hasWord := exists_word_ne_nil (by decide) _ c.marker_mem_text

namespace Filter

theorem isAtom_of_mem_texts {f : Filter} (h : f.IsLegible) {c : Conjunction}
    (hc : ∀ d ∈ c.clauses, d ∈ f.clauses) : ∀ t ∈ c.texts, IsAtom t := by
  intro t ht
  obtain ⟨d, hd, rfl⟩ := List.mem_map.1 ht
  exact (h.2 d (hc d hd)).isAtom

theorem formula_any (cs : List Conjunction) : (any cs).formula =
    ((inhabited cs).map Conjunction.texts).map fun ts => [.group [ts.map .atom]] := by
  rw [formula, List.map_map]
  rfl

theorem sql_fragment_groups (cs : List Conjunction) : (any cs).fragment.sql =
    " OR ".intercalate (((inhabited cs).map Conjunction.texts).map Token.groupText) := by
  simp [sql_fragment_any, Function.comp_def, Token.groupText, Conjunction.sql_fragment, Conjunction.texts]

theorem read?_fragment {f : Filter} (h : f.IsLegible) : Formula.read? f.fragment.sql = some f.formula := by
  cases f with
  | all c =>
    rw [fragment, c.sql_fragment]
    refine Formula.read?_conjunction ?_ (isAtom_of_mem_texts h fun d hd => hd)
    exact fun he => h.1 (List.map_eq_nil_iff.1 he)
  | any cs =>
    rw [sql_fragment_groups, formula_any]
    refine Formula.read?_disjunction ?_ ?_ ?_
    · intro he
      exact h.1 ((inhabited_eq_nil_iff cs).1 (List.map_eq_nil_iff.1 he))
    · intro ts hts he
      obtain ⟨c, hc, rfl⟩ := List.mem_map.1 hts
      exact (mem_inhabited.1 hc).2 (List.map_eq_nil_iff.1 he)
    · intro ts hts
      obtain ⟨c, hc, rfl⟩ := List.mem_map.1 hts
      refine isAtom_of_mem_texts h (fun d hd => ?_)
      exact List.mem_flatMap.2 ⟨c, (mem_inhabited.1 hc).1, hd⟩

theorem atoms_formula (f : Filter) : f.formula.atoms = f.clauses.map Clause.text := by
  cases f with
  | all c => exact Formula.atoms_conjunction c.texts
  | any cs =>
    rw [formula_any, Formula.atoms_disjunction, clauses, ← flatMap_inhabited, List.map_flatMap, List.flatMap_def]
    rfl

end Filter

/-! ## Normal forms -/

theorem Clause.text_normalized (c : Clause) : c.normalized.text = c.text :=
  if_pos (c.normalized.isRaw_iff.2 c.marker_mem_text)

theorem Clause.fragment_normalized (c : Clause) : c.normalized.fragment = c.fragment := by
  rw [fragment_eq, fragment_eq, text_normalized]
  rfl

theorem Conjunction.fragment_normalized (c : Conjunction) : c.normalized.fragment = c.fragment := by
  unfold fragment normalized
  rw [List.map_map]
  congr 1
  exact List.map_congr_left (fun d _ => d.fragment_normalized)

/-- Clauses with the same texts and the same values are normalized to the same. -/
theorem map_normalized_eq : ∀ (cs ds : List Clause), cs.map Clause.text = ds.map Clause.text →
    cs.map Clause.value = ds.map Clause.value → cs.map Clause.normalized = ds.map Clause.normalized
  | [], [], _, _ => rfl
  | [], _ :: _, ht, _ => by cases ht
  | _ :: _, [], ht, _ => by cases ht
  | c :: cs, d :: ds, ht, hv => by
    rw [List.map_cons, List.map_cons, List.cons.injEq] at ht hv
    have hhead : c.normalized = d.normalized := by
      rw [Clause.normalized, Clause.normalized, ht.1, hv.1]
    rw [List.map_cons, List.map_cons, hhead, map_normalized_eq cs ds ht.2 hv.2]

/-- Where the texts say which values belong to which conjunction, all values together are enough. -/
theorem Conjunction.map_normalized_eq : ∀ (cs ds : List Conjunction), cs.map texts = ds.map texts →
    (cs.flatMap clauses).map Clause.value = (ds.flatMap clauses).map Clause.value →
    cs.map normalized = ds.map normalized
  | [], [], _, _ => rfl
  | [], _ :: _, ht, _ => by cases ht
  | _ :: _, [], ht, _ => by cases ht
  | c :: cs, d :: ds, ht, hv => by
    rw [List.map_cons, List.map_cons, List.cons.injEq] at ht
    rw [List.flatMap_cons, List.flatMap_cons, List.map_append, List.map_append] at hv
    have hlen : (c.clauses.map Clause.value).length = (d.clauses.map Clause.value).length := by
      have := congrArg List.length ht.1
      simpa [texts] using this
    obtain ⟨hc, hcs⟩ := List.append_inj hv hlen
    have hhead : c.normalized = d.normalized :=
      congrArg Conjunction.mk (BoundSql.map_normalized_eq c.clauses d.clauses ht.1 hc)
    rw [List.map_cons, List.map_cons, hhead, map_normalized_eq cs ds ht.2 hcs]

namespace Filter

theorem fragment_normalized (f : Filter) : f.normalized.fragment = f.fragment := by
  cases f with
  | all c => exact c.fragment_normalized
  | any cs =>
    have hall : inhabited ((inhabited cs).map Conjunction.normalized) = (inhabited cs).map Conjunction.normalized := by
      refine List.filter_eq_self.2 (fun c hc => ?_)
      obtain ⟨d, hd, rfl⟩ := List.mem_map.1 hc
      simpa [Conjunction.isEmpty, Conjunction.normalized] using (mem_inhabited.1 hd).2
    rw [normalized, fragment_any, fragment_any, hall, List.map_map]
    congr 1
    refine List.map_congr_left (fun c _ => ?_)
    rw [Function.comp_apply, c.fragment_normalized]

/-- A conjunction is not read as a disjunction of groups. -/
theorem formula_all_ne_any (c : Conjunction) (ds : List Conjunction) : (all c).formula ≠ (any ds).formula := by
  intro h
  rw [formula, formula] at h
  cases hds : inhabited ds with
  | nil =>
    rw [hds] at h
    cases h
  | cons d ds' =>
    rw [hds, List.map_cons, List.cons.injEq] at h
    cases ht : c.texts with
    | nil =>
      rw [ht] at h
      cases h.1
    | cons t ts =>
      rw [ht] at h
      cases h.1

/-- What a filter says, with its values, is its normal form. -/
theorem normalized_eq_of_formula_eq {f g : Filter} (hformula : f.formula = g.formula)
    (hvalues : f.clauses.map Clause.value = g.clauses.map Clause.value) : f.normalized = g.normalized := by
  cases f with
  | all c =>
    cases g with
    | all d =>
      have ht : c.texts = d.texts := by
        rw [← Formula.atoms_conjunction c.texts, ← Formula.atoms_conjunction d.texts]
        exact congrArg Formula.atoms hformula
      have hclauses := map_normalized_eq c.clauses d.clauses ht hvalues
      exact congrArg (fun cs => all ⟨cs⟩) hclauses
    | any ds => exact absurd hformula (formula_all_ne_any c ds)
  | any cs =>
    cases g with
    | all d => exact absurd hformula.symm (formula_all_ne_any d cs)
    | any ds =>
      -- the atoms alone do not tell where one conjunction ends and the next begins
      have ht : (inhabited cs).map Conjunction.texts = (inhabited ds).map Conjunction.texts := by
        have hatoms : ∀ es : List Conjunction,
            (any es).formula.map Factor.atomsOfAll = (inhabited es).map Conjunction.texts := by
          intro es
          rw [formula, List.map_map]
          refine List.map_congr_left (fun c _ => ?_)
          simp [Factor.atomsOfAll, Factor.atoms, Formula.atoms_conjunction]
        rw [← hatoms, ← hatoms, hformula]
      rw [clauses, clauses, ← flatMap_inhabited cs, ← flatMap_inhabited ds] at hvalues
      exact congrArg any (Conjunction.map_normalized_eq _ _ ht hvalues)

/-- **A filter is read back from its fragment.**  Its text is read, as a whole, as what the filter says; its values,
paired with the atoms in their order, give each clause its own value; and two filters are written as one fragment
exactly when they are normalized to the same. -/
theorem fragment_reads_back {f g : Filter} (hf : f.IsLegible) (hg : g.IsLegible) :
    Formula.read? f.fragment.sql = some f.formula ∧
    f.formula.atoms.length = f.fragment.values.length ∧
    f.formula.atoms.zip f.fragment.values = f.clauses.map (fun c => (c.text, c.value)) ∧
    (f.fragment = g.fragment ↔ f.normalized = g.normalized) := by
  refine ⟨read?_fragment hf, ?_, ?_, ?_⟩
  · rw [f.atoms_formula, f.values_fragment, List.length_map, List.length_map]
  · rw [f.atoms_formula, f.values_fragment, List.zip_map']
  · constructor
    · intro h
      have hread : some f.formula = some g.formula := by
        rw [← read?_fragment hf, ← read?_fragment hg, h]
      have hvalues : f.clauses.map Clause.value = g.clauses.map Clause.value := by
        rw [← f.values_fragment, ← g.values_fragment, h]
      exact normalized_eq_of_formula_eq (Option.some.inj hread) hvalues
    · intro h
      rw [← f.fragment_normalized, ← g.fragment_normalized, h]

/-- A column with a marker of its own and one without are written alike, and a conjunction without a clause is not
written at all.  A column without a name leaves a blank at the beginning of its atom. -/
theorem fragment_reads_back_of_groups :
    let f := any [⟨[⟨"Name", .text "X"⟩, ⟨"Age > ?", .integer 31⟩]⟩, ⟨[]⟩, ⟨[⟨"", .null⟩]⟩]
    let g := any [⟨[⟨"Name = ?", .text "X"⟩, ⟨"Age > ?", .integer 31⟩]⟩, ⟨[⟨" = ?", .null⟩]⟩, ⟨[]⟩]
    f.IsLegible ∧ g.IsLegible ∧
    Formula.read? "(Name = ? AND Age > ?) OR ( = ?)" =
      some [[.group [[.atom "Name = ?", .atom "Age > ?"]]], [.group [[.atom " = ?"]]]] ∧
    f.formula.atoms.zip f.fragment.values =
      [("Name = ?", .text "X"), ("Age > ?", .integer 31), (" = ?", .null)] ∧
    f.fragment = g.fragment := by
  intro f g
  have hf : f.IsLegible := by decide
  have hg : g.IsLegible := by decide
  have hsql : f.fragment.sql = "(Name = ? AND Age > ?) OR ( = ?)" := by decide
  obtain ⟨hread, -, hzip, hiff⟩ := fragment_reads_back hf hg
  rw [hsql] at hread
  exact ⟨hf, hg, hread, hzip, hiff.2 (by decide)⟩

end Filter
end BoundSql
