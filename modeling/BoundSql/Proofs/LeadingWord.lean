import BoundSql.Proofs.SelectText
import BoundSql.Proofs.Statements
import Mathlib
/-!
# LeadingWord — the kind of a statement is its first word

A text begins with a word when there is white space, the word in any case, and then no further letter
(`Text.BeginsWith`).  Only the letters A to Z count, in both cases, and all white space of Unicode.  The four kinds are
told by their words in this sense, and every other text is of none of them.  So neither white space in front nor the
case of letters nor what comes behind the word makes a difference, and every command gives statements of its own kind
(`StatementKind.told_by_leading_word`).
-/
namespace BoundSql

namespace Text

/-- The same text but for the case of the letters A to Z. -/
def EqIgnoringCase (s t : String) : Prop := s.toList.map Char.toLower = t.toList.map Char.toLower

instance (s t : String) : Decidable (EqIgnoringCase s t) :=
  inferInstanceAs (Decidable (s.toList.map Char.toLower = t.toList.map Char.toLower))

def Blank (s : String) : Prop := ∀ c ∈ s.toList, isBlank c = true

instance (s : String) : Decidable (Blank s) := List.decidableBAll (isBlank · = true) s.toList

def Letters (s : String) : Prop := ∀ c ∈ s.toList, c.isAlpha = true

instance (s : String) : Decidable (Letters s) := List.decidableBAll (Char.isAlpha · = true) s.toList

/-- A text that does not go on with a letter. -/
def EndsWord (s : String) : Prop := s.toList.head?.any Char.isAlpha = false

instance (s : String) : Decidable (EndsWord s) := inferInstanceAs (Decidable (_ = false))

/-- **A text begins with a word**: white space, the word in any case, and then no further letter. -/
def BeginsWith (word sql : String) : Prop :=
  ∃ w k r, sql = w ++ k ++ r ∧ Blank w ∧ EqIgnoringCase k word ∧ EndsWord r

/-! ## Letters and white space -/

theorem isAlpha_iff (c : Char) :
    c.isAlpha = true ↔ 65 ≤ c.toNat ∧ c.toNat ≤ 90 ∨ 97 ≤ c.toNat ∧ c.toNat ≤ 122 := by
  simp [Char.isAlpha, Char.isUpper, Char.isLower, UInt32.le_iff_toNat_le]

theorem not_isBlank_of_isAlpha {c : Char} (h : c.isAlpha = true) : isBlank c = false := by
  rw [isAlpha_iff] at h
  rw [Bool.eq_false_iff]
  intro hb
  simp only [isBlank, blankRanges, List.any_cons, List.any_nil, Bool.or_eq_true, Bool.and_eq_true, decide_eq_true_eq,
    Bool.false_eq_true, or_false] at hb
  omega

theorem isBlank_toLower (c : Char) : isBlank c.toLower = isBlank c := by
  by_cases h : c.isUpper = true
  · have hc : c.isAlpha = true := by simp [Char.isAlpha, h]
    have hl : c.toLower.isAlpha = true := by rw [Char.isAlpha_toLower_eq_isAlpha, hc]
    rw [not_isBlank_of_isAlpha hc, not_isBlank_of_isAlpha hl]
  · rw [Char.toLower_eq_of_not_isUpper h]

theorem EqIgnoringCase.letters {k word : String} (h : EqIgnoringCase k word) (hword : Letters word) : Letters k := by
  intro c hc
  have hmem : c.toLower ∈ word.toList.map Char.toLower := h ▸ List.mem_map_of_mem hc
  obtain ⟨d, hd, hdc⟩ := List.mem_map.1 hmem
  rw [← Char.isAlpha_toLower_eq_isAlpha, ← hdc, Char.isAlpha_toLower_eq_isAlpha]
  exact hword d hd

end Text

open Text (isBlank EqIgnoringCase Blank Letters EndsWord BeginsWith)

namespace StatementKind

def word? : StatementKind → Option String
  | select => some "select"
  | insert => some "insert"
  | update => some "update"
  | delete => some "delete"
  | other => none

theorem letters_of_word? {kind : StatementKind} {word : String} (h : kind.word? = some word) :
    Letters word ∧ word ≠ "" ∧ word.toList.map Char.toLower = word.toList := by
  cases kind with
  | other => cases h
  | _ =>
    cases h
    exact ⟨by decide, by decide, rfl⟩

theorem ofKeyword_of_word? {kind : StatementKind} {word : String} (h : kind.word? = some word) :
    ofKeyword word.toList = kind := by
  cases kind with
  | other => cases h
  | _ =>
    cases h
    rfl

theorem word?_ofKeyword {k : List Char} {word : String} (h : (ofKeyword k).word? = some word) : k = word.toList := by
  unfold ofKeyword at h
  split at h
  · cases h
    assumption
  split at h
  · cases h
    assumption
  split at h
  · cases h
    assumption
  split at h
  · cases h
    assumption
  · cases h

theorem ofKeyword_eq_iff {kind : StatementKind} {word : String} (h : kind.word? = some word) (k : List Char) :
    ofKeyword k = kind ↔ k = word.toList := by
  constructor
  · rintro rfl
    exact word?_ofKeyword h
  · rintro rfl
    exact ofKeyword_of_word? h

/-! ## The keyword of a text -/

theorem keyword_append {w k r : String} (hw : Blank w) (hk : Letters k) (hne : k ≠ "") (hr : EndsWord r) :
    keyword (w ++ k ++ r).toList = k.toList.map Char.toLower := by
  have hdrop : (w ++ k ++ r).toList.dropWhile isBlank = k.toList ++ r.toList := by
    rw [String.toList_append, String.toList_append, List.append_assoc, List.dropWhile_append_of_pos hw]
    cases hc : k.toList with
    | nil => exact absurd (String.toList_eq_nil_iff.1 hc) hne
    | cons c cs =>
      have hletter : c.isAlpha = true := hk c (by simp [hc])
      rw [List.cons_append, List.dropWhile_cons_of_neg (by simp [Text.not_isBlank_of_isAlpha hletter])]
  have htake : (k.toList ++ r.toList).takeWhile Char.isAlpha = k.toList := by
    rw [List.takeWhile_append_of_pos hk]
    cases hc : r.toList with
    | nil => exact List.append_nil _
    | cons c cs =>
      have hother : c.isAlpha = false := by simpa [EndsWord, hc] using hr
      rw [List.takeWhile_cons_of_neg (by simp [hother]), List.append_nil]
  rw [keyword, hdrop, htake]

/-- Every text has white space, letters and a rest, and its keyword is the letters. -/
theorem exists_keyword (sql : String) : ∃ w k r, sql = w ++ k ++ r ∧ Blank w ∧ Letters k ∧ EndsWord r ∧
    keyword sql.toList = k.toList.map Char.toLower := by
  let rest := sql.toList.dropWhile isBlank
  refine ⟨.ofList (sql.toList.takeWhile isBlank), .ofList (rest.takeWhile Char.isAlpha),
    .ofList (rest.dropWhile Char.isAlpha), ?_, ?_, ?_, ?_, ?_⟩
  · rw [← String.ofList_append, ← String.ofList_append, List.append_assoc, List.takeWhile_append_dropWhile,
      List.takeWhile_append_dropWhile, String.ofList_toList]
  · intro c hc
    rw [String.toList_ofList] at hc
    exact List.mem_takeWhile_imp hc
  · intro c hc
    rw [String.toList_ofList] at hc
    exact List.mem_takeWhile_imp hc
  · have h := List.head?_dropWhile_not Char.isAlpha rest
    unfold EndsWord
    rw [String.toList_ofList]
    cases hc : (rest.dropWhile Char.isAlpha).head? with
    | none => rfl
    | some c => simpa [hc] using h
  · rw [String.toList_ofList]
    rfl

theorem keyword_toLower (s : List Char) : keyword (s.map Char.toLower) = keyword s := by
  have hblank : isBlank ∘ Char.toLower = isBlank := funext Text.isBlank_toLower
  have halpha : Char.isAlpha ∘ Char.toLower = Char.isAlpha := funext Char.isAlpha_toLower_eq_isAlpha
  have hlower : Char.toLower ∘ Char.toLower = Char.toLower := funext Char.toLower_toLower_eq_toLower
  rw [keyword, List.dropWhile_map, hblank, List.takeWhile_map, halpha, List.map_map, hlower]
  rfl

/-- **A statement is of a kind exactly when it begins with the word of the kind.** -/
theorem ofSql_eq_iff {kind : StatementKind} {word : String} (h : kind.word? = some word) (sql : String) :
    ofSql sql = kind ↔ BeginsWith word sql := by
  obtain ⟨hletters, hne, hlower⟩ := letters_of_word? h
  rw [ofSql, ofKeyword_eq_iff h]
  constructor
  · intro hk
    obtain ⟨w, k, r, hsql, hw, -, hr, hkey⟩ := exists_keyword sql
    refine ⟨w, k, r, hsql, hw, ?_, hr⟩
    rw [EqIgnoringCase, ← hkey, hk, hlower]
  · rintro ⟨w, k, r, rfl, hw, hk, hr⟩
    have hkne : k ≠ "" := by
      rintro rfl
      exact hne (by simpa [EqIgnoringCase] using hk.symm)
    rw [keyword_append hw (hk.letters hletters) hkne hr, ← hlower]
    exact hk

theorem ofSql_eq_other_iff (sql : String) :
    ofSql sql = other ↔ ∀ kind word, word? kind = some word → ¬ BeginsWith word sql := by
  constructor
  · intro h kind word hword hbegins
    rw [← ofSql_eq_iff hword, h] at hbegins
    subst hbegins
    cases hword
  · intro h
    by_contra hne
    obtain ⟨word, hword⟩ : ∃ word, (ofSql sql).word? = some word := by
      cases hk : ofSql sql with
      | other => exact absurd hk hne
      | _ => exact ⟨_, rfl⟩
    exact h _ word hword ((ofSql_eq_iff hword sql).1 rfl)

end StatementKind

/-! ## Commands -/

namespace Command

def kind : Command → StatementKind
  | insert .. => .insert
  | insertMany .. => .insert
  | select .. => .select
  | update .. => .update
  | delete .. => .delete

def verb : Command → String
  | insert .. => "INSERT"
  | insertMany .. => "INSERT"
  | select .. => "SELECT"
  | update .. => "UPDATE"
  | delete .. => "DELETE"

theorem word?_kind (c : Command) : ∃ word, c.kind.word? = some word ∧ EqIgnoringCase c.verb word := by
  cases c with
  | insert | insertMany => exact ⟨"insert", rfl, show EqIgnoringCase "INSERT" "insert" by decide⟩
  | select => exact ⟨"select", rfl, show EqIgnoringCase "SELECT" "select" by decide⟩
  | update => exact ⟨"update", rfl, show EqIgnoringCase "UPDATE" "update" by decide⟩
  | delete => exact ⟨"delete", rfl, show EqIgnoringCase "DELETE" "delete" by decide⟩

theorem exists_sql_eq_verb {c : Command} {s : Statement} (h : c.statement = .ok s) :
    ∃ rest, s.sql = c.verb ++ (" " ++ rest) := by
  have hinsert : ∀ table names tuples, ∃ rest,
      (Insert.statement table names tuples).sql = "INSERT" ++ (" " ++ rest) := by
    intro table names tuples
    refine ⟨"INTO " ++ (table ++ (" (" ++ (",".intercalate names ++ (") VALUES "
      ++ (",".intercalate (tuples.map fun t => (Insert.tuple t).sql) ++ " RETURNING *;"))))), ?_⟩
    rw [Insert.sql_statement]
    simp only [String.append_assoc]
    rfl
  cases c with
  | insert table row =>
    obtain ⟨-, rfl⟩ := (Insert.one_eq_ok_iff table row s).1 h
    exact hinsert table _ _
  | insertMany table rows =>
    obtain ⟨first, rest, -, -, -, rfl⟩ := (Insert.many_eq_ok_iff table rows s).1 h
    exact hinsert table _ _
  | select table q =>
    cases h
    refine ⟨q.projection.sql ++ (" FROM " ++ (table ++ (Filter.clauseText "WHERE" q.filter
      ++ (q.groupBy.elim "" (fun e => " GROUP BY " ++ e ++ Filter.clauseText "HAVING" q.having) ++ ";")))), ?_⟩
    rw [Select.sql_statement]
    simp only [String.append_assoc]
    rfl
  | update table changes filter =>
    obtain ⟨-, rfl⟩ := (Update.statement_eq_ok_iff table changes filter s).1 h
    refine ⟨table ++ (" SET " ++ (changes.assignments.sql ++ ((Filter.clause "WHERE" filter).sql ++ " RETURNING *;"))), ?_⟩
    simp only [Fragment.sql_append, Fragment.sql_verbatim, Statement.returningRows, Statement.terminator,
      String.append_assoc]
    rfl
  | delete table filter =>
    cases h
    refine ⟨"FROM " ++ (table ++ ((Filter.clause "WHERE" filter).sql ++ " RETURNING *;")), ?_⟩
    simp only [Delete.statement, Fragment.sql_append, Fragment.sql_verbatim, Statement.returningRows,
      Statement.terminator, String.append_assoc]
    rfl

theorem ofSql_statement {c : Command} {s : Statement} (h : c.statement = .ok s) : StatementKind.ofSql s.sql = c.kind := by
  obtain ⟨word, hword, hverb⟩ := c.word?_kind
  obtain ⟨rest, hsql⟩ := exists_sql_eq_verb h
  refine (StatementKind.ofSql_eq_iff hword s.sql).2 ⟨"", c.verb, " " ++ rest, ?_, ?_, hverb, ?_⟩
  · rw [String.empty_append]
    exact hsql
  · intro d hd
    cases hd
  · rw [EndsWord, String.toList_append]
    rfl

end Command

/-! ## The kind of a text -/

namespace StatementKind

/-- **A kind is told by the leading word.**  A text is of a kind exactly when it begins with the word of the kind, and
of none of them when it begins with no such word.  White space in front makes no difference, nor does the case of
letters, nor what comes after the character that ends the first word.  The statements of every command are of its kind.
-/
theorem told_by_leading_word :
    (∀ sql kind word, word? kind = some word → (ofSql sql = kind ↔ BeginsWith word sql)) ∧
    (∀ sql, ofSql sql = other ↔ ∀ kind word, word? kind = some word → ¬ BeginsWith word sql) ∧
    (∀ w sql, Blank w → ofSql (w ++ sql) = ofSql sql) ∧
    (∀ sql sql', EqIgnoringCase sql sql' → ofSql sql = ofSql sql') ∧
    (∀ (w k : String) (c : Char) (t t' : String), Blank w → Letters k → k ≠ "" → c.isAlpha = false →
      ofSql (w ++ k ++ (.singleton c ++ t)) = ofSql (w ++ k ++ (.singleton c ++ t'))) ∧
    ∀ (c : Command) s, c.statement = .ok s → ofSql s.sql = c.kind := by
  refine ⟨fun sql kind word hword => ofSql_eq_iff hword sql, ofSql_eq_other_iff, fun w sql hw => ?_,
    fun sql sql' h => ?_, fun w k c t t' hw hk hne hc => ?_, fun c s => Command.ofSql_statement⟩
  · rw [ofSql, ofSql, keyword, keyword, String.toList_append, List.dropWhile_append_of_pos hw]
  · rw [ofSql, ofSql, ← keyword_toLower, ← keyword_toLower sql'.toList, h]
  · have hr : ∀ t : String, EndsWord (.singleton c ++ t) := by
      intro t
      simpa [EndsWord] using hc
    rw [ofSql, ofSql, keyword_append hw hk hne (hr t), keyword_append hw hk hne (hr t')]

/-- The text begins with an ideographic space, and the word ends at a letter that is not one of A to Z. -/
theorem told_by_leading_word_of_mixed_case :
    let sql := "\u3000\n sEleCTé 1"
    let longer := "selects"
    BeginsWith "select" sql ∧ ofSql sql = select ∧ Blank "\u2028\t" ∧ ofSql ("\u2028\t" ++ sql) = select ∧
    EqIgnoringCase "\u3000\n SElectÉ 1" "\u3000\n seLECTÉ 1" ∧
    ofSql "\u3000\n SElectÉ 1" = ofSql "\u3000\n seLECTÉ 1" ∧
    ofSql "  update(t" = ofSql "  update(" ∧
    (∀ kind word, word? kind = some word → ¬ BeginsWith word longer) ∧ ofSql longer = other ∧
    ofSql "DELETE FROM men RETURNING *;" = delete := by
  intro sql longer
  obtain ⟨hkind, hother, hblank, hcase, hrest, hcommand⟩ := told_by_leading_word
  have hbegins : BeginsWith "select" sql :=
    ⟨"\u3000\n ", "sEleCT", "é 1", by decide, by decide, by decide, by decide⟩
  have hsql : ofSql sql = select := (hkind sql select "select" rfl).2 hbegins
  have hw : Blank "\u2028\t" := by decide
  have heq : EqIgnoringCase "\u3000\n SElectÉ 1" "\u3000\n seLECTÉ 1" := by decide
  have hlonger : ofSql longer = other := by decide
  exact ⟨hbegins, hsql, hw, (hblank _ sql hw).trans hsql, heq, hcase _ _ heq,
    hrest "  " "update" '(' "t" "" (by decide) (by decide) (by decide) (by decide),
    (hother longer).1 hlonger, hlonger, hcommand (.delete "men" none) _ rfl⟩

end StatementKind
end BoundSql
