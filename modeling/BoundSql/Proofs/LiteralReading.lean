import BoundSql.Proofs.Numerals
/-!
# LiteralReading — a literal is read back as its value

A text between quotes ends at the first quote that is not written twice (`Text.unquoted?`), and what is read there is
exactly what was quoted, whatever follows (`Text.unquoted?_eq_some_iff`).  The other forms of a literal cannot be taken
for a quoted text, nor for one another: a keyword, hexadecimal digits between quotes after an `X`, and decimal digits.
So every value but a real is read back from its literal (`Value.literal_reads_back`).
-/
namespace BoundSql

namespace Text

/-! ## Quoted texts -/

/-- The text up to the closing quote, and what comes behind that. -/
def enclosed? : List Char → Option (List Char × List Char)
  | '\'' :: '\'' :: t => (enclosed? t).map fun r => ('\'' :: r.1, r.2)
  | '\'' :: t => some ([], t)
  | c :: t => (enclosed? t).map fun r => (c :: r.1, r.2)
  | [] => none

/-- A quoted text at the beginning, and what comes behind it. -/
def unquoted? : List Char → Option (List Char × List Char)
  | '\'' :: t => enclosed? t
  | _ => none

theorem doubleQuotes_cons (c : Char) (s : List Char) :
    doubleQuotes (c :: s) = (if c = quoteMark then [quoteMark, quoteMark] else [c]) ++ doubleQuotes s := rfl

theorem enclosed?_quote (t : List Char) : enclosed? (quoteMark :: quoteMark :: t) =
    (enclosed? t).map fun r => (quoteMark :: r.1, r.2) := by
  rw [quoteMark, enclosed?]

theorem enclosed?_closing {rest : List Char} (h : rest.head? ≠ some quoteMark) :
    enclosed? (quoteMark :: rest) = some ([], rest) := by
  rw [quoteMark, enclosed?]
  rintro t rfl
  exact h rfl

theorem enclosed?_of_ne {c : Char} (h : c ≠ quoteMark) (t : List Char) :
    enclosed? (c :: t) = (enclosed? t).map fun r => (c :: r.1, r.2) := by
  rw [enclosed?]
  · exact fun _ hc _ => h hc
  · exact h

theorem enclosed?_doubleQuotes (s : List Char) {rest : List Char} (h : rest.head? ≠ some quoteMark) :
    enclosed? (doubleQuotes s ++ quoteMark :: rest) = some (s, rest) := by
  induction s with
  | nil => exact enclosed?_closing h
  | cons c s ih =>
    rw [doubleQuotes_cons, List.append_assoc]
    by_cases hc : c = quoteMark
    · rw [if_pos hc, hc, List.cons_append, List.singleton_append, enclosed?_quote, ih]
      rfl
    · rw [if_neg hc, List.singleton_append, enclosed?_of_ne hc, ih]
      rfl

theorem eq_of_enclosed? {t s rest : List Char} (h : enclosed? t = some (s, rest)) :
    t = doubleQuotes s ++ quoteMark :: rest ∧ rest.head? ≠ some quoteMark := by
  fun_induction enclosed? t generalizing s rest with
  | case1 t ih =>
    obtain ⟨⟨s, rest⟩, hs, hr⟩ := Option.map_eq_some_iff.1 h
    cases hr
    obtain ⟨rfl, hrest⟩ := ih hs
    exact ⟨rfl, hrest⟩
  | case2 t hne =>
    cases h
    refine ⟨rfl, fun hq => ?_⟩
    obtain ⟨u, rfl⟩ := List.head?_eq_some_iff.1 hq
    exact hne u rfl
  | case3 c t hquote hne ih =>
    obtain ⟨⟨s, rest⟩, hs, hr⟩ := Option.map_eq_some_iff.1 h
    cases hr
    obtain ⟨rfl, hrest⟩ := ih hs
    refine ⟨?_, hrest⟩
    rw [doubleQuotes_cons, if_neg (show c ≠ quoteMark from hne)]
    rfl
  | case4 => cases h

/-- **A quoted text is read exactly where it stands**, and no further, if no quote follows. -/
theorem unquoted?_eq_some_iff (t s rest : List Char) :
    unquoted? t = some (s, rest) ↔ t = quoted s ++ rest ∧ rest.head? ≠ some quoteMark := by
  have hform : quoted s ++ rest = quoteMark :: (doubleQuotes s ++ quoteMark :: rest) := by
    simp [quoted]
  rw [hform]
  constructor
  · intro h
    unfold unquoted? at h
    split at h
    · obtain ⟨rfl, hrest⟩ := eq_of_enclosed? h
      exact ⟨rfl, hrest⟩
    · cases h
  · rintro ⟨rfl, hrest⟩
    exact enclosed?_doubleQuotes s hrest

end Text

namespace Value

/-! ## Literals -/

/-- The value that a literal stands for: `NULL`, a text between quotes, hexadecimal digits between quotes after an `X`,
or decimal digits, perhaps after a minus sign. -/
def ofLiteralChars? : List Char → Option Value
  | ['N', 'U', 'L', 'L'] => some .null
  | 'X' :: t =>
    match Text.unquoted? t with
    | some (digits, []) => (Text.bytes? digits).map .blob
    | _ => none
  | '\'' :: t =>
    match Text.enclosed? t with
    | some (content, []) => some (.text (.ofList content))
    | _ => none
  | t => (Decimal.toInt? t).bind ofInt?

def ofLiteral? (s : String) : Option Value := ofLiteralChars? s.toList

theorem unquoted?_quoted (s : List Char) : Text.unquoted? (Text.quoted s) = some (s, []) :=
  (Text.unquoted?_eq_some_iff _ _ _).2 ⟨(List.append_nil _).symm, by simp⟩

theorem ofLiteralChars?_text (s : String) : ofLiteralChars? (text s).literalChars = some (text s) := by
  have hread : Text.enclosed? (Text.doubleQuotes s.toList ++ [Text.quoteMark]) = some (s.toList, []) :=
    unquoted?_quoted s.toList
  show ofLiteralChars? ('\'' :: (Text.doubleQuotes s.toList ++ [Text.quoteMark])) = _
  rw [ofLiteralChars?, hread]
  simp

theorem ofLiteralChars?_blob (bytes : List UInt8) : ofLiteralChars? (blob bytes).literalChars = some (blob bytes) := by
  rw [literalChars, ofLiteralChars?, unquoted?_quoted]
  show (Text.bytes? (Text.hex bytes)).map blob = _
  rw [Text.bytes?_hex]
  rfl

theorem ofLiteralChars?_integer (i : Int64) : ofLiteralChars? (integer i).literalChars = some (integer i) := by
  have hint : (Decimal.toInt? (Decimal.ofInt i.toInt)).bind ofInt? = some (integer i) := by
    rw [Decimal.toInt?_ofInt, Option.bind_some, ofInt?_toInt]
  have hhead : ∀ c t, Decimal.ofInt i.toInt = c :: t → c ≠ 'N' ∧ c ≠ 'X' ∧ c ≠ '\'' := by
    intro c t hc
    rcases Decimal.mem_ofInt (hc ▸ List.mem_cons_self : c ∈ Decimal.ofInt i.toInt) with rfl | hdigit
    · decide
    · refine ⟨?_, ?_, ?_⟩ <;> rintro rfl <;> revert hdigit <;> decide
  rw [literalChars]
  unfold ofLiteralChars?
  split
  · rename_i h
    exact absurd rfl (hhead _ _ h).1
  · rename_i h
    exact absurd rfl (hhead _ _ h).2.1
  · rename_i h
    exact absurd rfl (hhead _ _ h).2.2
  · exact hint

theorem ofLiteral?_literal {v : Value} (h : v.isReal = false) : ofLiteral? v.literal = some v := by
  unfold ofLiteral? literal
  rw [String.toList_ofList]
  cases v with
  | null => rfl
  | integer i => exact ofLiteralChars?_integer i
  | real x => cases h
  | text s => exact ofLiteralChars?_text s
  | blob bytes => exact ofLiteralChars?_blob bytes

/-- **A literal stands for one value.**  Every value but a real is read back from its literal, so no two of them share
one; and the literal of a text is read exactly where it stands, whatever follows that does not continue it with a
quote. -/
theorem literal_reads_back :
    (∀ v : Value, v.isReal = false → ofLiteral? v.literal = some v) ∧
    (∀ v w : Value, v.isReal = false → w.isReal = false → v.literal = w.literal → v = w) ∧
    ∀ s suffix : String, Text.unquoted? ((text s).literal ++ suffix).toList = some (s.toList, suffix.toList) ↔
      suffix.toList.head? ≠ some '\'' := by
  refine ⟨fun v hv => ofLiteral?_literal hv, fun v w hv hw h => ?_, fun s suffix => ?_⟩
  · have hread := ofLiteral?_literal hv
    rw [h, ofLiteral?_literal hw] at hread
    exact (Option.some.inj hread).symm
  · have hform : ((text s).literal ++ suffix).toList = Text.quoted s.toList ++ suffix.toList := by
      rw [String.toList_append, literal, String.toList_ofList]
      rfl
    rw [Text.unquoted?_eq_some_iff, hform, and_iff_right rfl]
    rfl

/-- A text that begins and ends with quotes, the least integer, and a text that reads like the literal of a blob. -/
theorem literal_reads_back_of_quotes :
    (text "'it'''s'").literal = "'''it''''''s'''" ∧
    ofLiteral? "'''it''''''s'''" = some (text "'it'''s'") ∧
    ofLiteral? "-9223372036854775808" = some (integer (-9223372036854775808)) ∧
    (text "X'0A'").literal ≠ (blob [10]).literal ∧
    Text.unquoted? ((text "it's").literal ++ " OR '1'").toList = some ("it's".toList, " OR '1'".toList) := by
  have hquotes : (text "'it'''s'").literal = "'''it''''''s'''" := by decide +kernel
  have hleast : (integer (-9223372036854775808)).literal = "-9223372036854775808" := by decide +kernel
  refine ⟨hquotes, ?_, ?_, fun h => ?_, ?_⟩
  · rw [← hquotes]
    exact literal_reads_back.1 _ rfl
  · rw [← hleast]
    exact literal_reads_back.1 _ rfl
  · cases literal_reads_back.2.1 (text "X'0A'") (blob [10]) rfl rfl h
  · exact (literal_reads_back.2.2 "it's" " OR '1'").2 (by decide)

end Value
end BoundSql
