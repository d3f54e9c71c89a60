import BoundSql.Json.Printer
import BoundSql.Proofs.Numerals
import Mathlib.Data.List.TakeWhile
/-!
# JsonTokens — the tokens of a JSON text

The grammar of JSON up to tokens.  A text is scanned character by character (`step`, `scan`): the six marks of
structure, blanks between tokens, strings with their escapes and surrogate pairs, and bare words, which are the three
names and numbers.  The compact text of a document is scanned into the tokens of the document (`scan_write`), if the
document has no decimals (`Exact`): those have several spellings.
-/
namespace BoundSql
namespace Json

/-- A mark of structure, a string, or a value that is written as a bare word. -/
inductive Token where
  | openArray
  | closeArray
  | openObject
  | closeObject
  | comma
  | colon
  | string (s : String)
  | word (j : Json)

/-! ## Words -/

def isExponentMark (c : Char) : Bool := c == 'e' || c == 'E'

/-- The digits behind a decimal point, of which there is at least one if there is a point. -/
def places? : List Char → Option (List Char)
  | [] => some []
  | '.' :: digits => (Decimal.ofDigits? digits).map fun _ => digits
  | _ => none

/-- The power of ten behind an exponent mark, with either sign or none. -/
def exponent? : List Char → Option Int
  | [] => some 0
  | _ :: '+' :: digits => (Decimal.ofDigits? digits).map fun n => (n : Int)
  | _ :: s => Decimal.toInt? s

/-- A number without a sign.  The first of several digits before the point is not a zero; without a point and an
exponent the number is an integer. -/
def magnitude? (negative : Bool) (s : List Char) : Option Json :=
  let whole := s.takeWhile Char.isDigit
  let rest := s.dropWhile Char.isDigit
  if whole.head? = some '0' ∧ whole ≠ ['0'] then none
  else if rest = [] then (Decimal.ofDigits? whole).map fun (n : Nat) => .integer (if negative then -n else n)
  else do
    let _ ← Decimal.ofDigits? whole
    let places ← places? (rest.takeWhile fun c => !isExponentMark c)
    let exponent ← exponent? (rest.dropWhile fun c => !isExponentMark c)
    let n ← Decimal.ofDigits? (whole ++ places)
    return .decimal negative ⟨n, exponent - places.length⟩

def word? : List Char → Option Json
  | ['n', 'u', 'l', 'l'] => some .null
  | ['t', 'r', 'u', 'e'] => some (.boolean true)
  | ['f', 'a', 'l', 's', 'e'] => some (.boolean false)
  | '-' :: s => magnitude? true s
  | s => magnitude? false s

/-! ## Strings -/

/-- A part of a string: a character as it stands or by its letter, or the number of a UTF-16 code unit. -/
inductive Piece where
  | char (c : Char)
  | unit (n : Nat)

def unescape? : Char → Option Char
  | '"' => some '"'
  | '\\' => some '\\'
  | '/' => some '/'
  | 'b' => some '\x08'
  | 't' => some '\t'
  | 'n' => some '\n'
  | 'f' => some '\x0c'
  | 'r' => some '\r'
  | _ => none

def surrogates? (high low : Nat) : Option Char :=
  if 0xD800 ≤ high ∧ high < 0xDC00 ∧ 0xDC00 ≤ low ∧ low < 0xE000 then
    some (.ofNat (0x10000 + (high - 0xD800) * 0x400 + (low - 0xDC00)))
  else none

/-- The characters of a string.  A surrogate stands with the other of its pair or not at all. -/
def characters? : List Piece → Option (List Char)
  | [] => some []
  | .char c :: pieces => (characters? pieces).map (c :: ·)
  | .unit n :: pieces =>
    if n.isValidChar then (characters? pieces).map (Char.ofNat n :: ·)
    else
      match pieces with
      | .unit low :: behind => (surrogates? n low).bind fun c => (characters? behind).map (c :: ·)
      | _ => none

/-! ## Scanning -/

def mark? : Char → Option Token
  | '[' => some .openArray
  | ']' => some .closeArray
  | '\x7b' => some .openObject
  | '\x7d' => some .closeObject
  | ',' => some .comma
  | ':' => some .colon
  | _ => none

def isSpace (c : Char) : Bool := c == ' ' || c == '\t' || c == '\n' || c == '\r'

/-- Where the scanner stands: outside strings, with the bare word so far; in a string, with its pieces so far; there
behind a backslash; or there before some of the four digits of a code unit, with the number of those so far. -/
inductive Mode where
  | bare (word : List Char)
  | string (pieces : List Piece)
  | escape (pieces : List Piece)
  | unit (pieces : List Piece) (missing n : Nat)

/-- The token of a bare word that has ended, none if no word was begun. -/
def wordTokens? (word : List Char) : Option (List Token) :=
  if word = [] then some [] else (word? word).map fun j => [.word j]

/-- The tokens that end with the next character, and where the scanner stands behind it. -/
def step : Mode → Char → Option (List Token × Mode)
  | .bare word, c =>
    match mark? c with
    | some mark => (wordTokens? word).map fun tokens => (tokens ++ [mark], .bare [])
    | none =>
      if c = '"' then (wordTokens? word).map fun tokens => (tokens, .string [])
      else if isSpace c then (wordTokens? word).map fun tokens => (tokens, .bare [])
      else some ([], .bare (word ++ [c]))
  | .string pieces, c =>
    if c = '"' then (characters? pieces).map fun s => ([.string (.ofList s)], .bare [])
    else if c = '\\' then some ([], .escape pieces)
    else if c.toNat < 0x20 then none
    else some ([], .string (pieces ++ [.char c]))
  | .escape pieces, c =>
    if c = 'u' then some ([], .unit pieces 3 0)
    else (unescape? c).map fun e => ([], .string (pieces ++ [.char e]))
  | .unit pieces missing n, c =>
    (Text.hexValue? c.toUpper).map fun d =>
      match missing with
      | 0 => ([], .string (pieces ++ [.unit (16 * n + d)]))
      | missing + 1 => ([], .unit pieces missing (16 * n + d))

def finish? : Mode → Option (List Token)
  | .bare word => wordTokens? word
  | _ => none

def scan : Mode → List Char → Option (List Token)
  | mode, [] => finish? mode
  | mode, c :: s => (step mode c).bind fun next => (scan next.2 s).map (next.1 ++ ·)

/-! ## Scanning what was written -/

mutual

def tokens : Json → List Token
  | array items => .openArray :: (itemTokens items ++ [.closeArray])
  | object members => .openObject :: (memberTokens members ++ [.closeObject])
  | string s => [.string s]
  | j => [.word j]

def itemTokens : List Json → List Token
  | [] => []
  | [item] => tokens item
  | item :: next :: rest => tokens item ++ .comma :: itemTokens (next :: rest)

def memberTokens : List (String × Json) → List Token
  | [] => []
  | [(name, value)] => .string name :: .colon :: tokens value
  | (name, value) :: next :: rest =>
    .string name :: .colon :: (tokens value ++ .comma :: memberTokens (next :: rest))

end

/-- A document without decimals. -/
inductive Exact : Json → Prop where
  | null : Exact .null
  | boolean (b : Bool) : Exact (.boolean b)
  | integer (n : Int) : Exact (.integer n)
  | string (s : String) : Exact (.string s)
  | array {items : List Json} (h : ∀ item ∈ items, Exact item) : Exact (.array items)
  | object {members : List (String × Json)} (h : ∀ member ∈ members, Exact member.2) : Exact (.object members)

theorem scan_of_step {mode next : Mode} {c : Char} {ts : List Token} (h : step mode c = some (ts, next))
    (s : List Char) : scan mode (c :: s) = (scan next s).map (ts ++ ·) := by
  rw [scan, h, Option.bind_some]

theorem scan_of_silent_step {mode next : Mode} {c : Char} (h : step mode c = some ([], next)) (s : List Char) :
    scan mode (c :: s) = scan next s := by
  rw [scan_of_step h]
  exact Option.map_id_apply

theorem scan_mark {c : Char} {mark : Token} (h : mark? c = some mark) (s : List Char) :
    scan (.bare []) (c :: s) = (scan (.bare []) s).map (mark :: ·) := by
  have hstep : step (.bare []) c = some ([mark], .bare []) := by
    simp [step, h, wordTokens?]
  exact scan_of_step hstep s

/-! ### Strings -/

def piece (c : Char) : Piece :=
  if escapeLetter c = none ∧ c.toNat < 0x20 then .unit c.toNat else .char c

theorem unescape?_of_escapeLetter {c letter : Char} (h : escapeLetter c = some letter) :
    unescape? letter = some c := by
  unfold escapeLetter at h
  split at h <;> cases h <;> rfl

theorem step_digit {d : Nat} (hd : d < 16) (pieces : List Piece) (missing n : Nat) :
    step (.unit pieces (missing + 1) n) (Nat.digitChar d) = some ([], .unit pieces missing (16 * n + d)) := by
  have hvalue : Text.hexValue? (Nat.digitChar d).toUpper = some d := Text.hexValue?_hexDigit d hd
  rw [step, hvalue]
  rfl

theorem step_last_digit {d : Nat} (hd : d < 16) (pieces : List Piece) (n : Nat) :
    step (.unit pieces 0 n) (Nat.digitChar d) = some ([], .string (pieces ++ [.unit (16 * n + d)])) := by
  have hvalue : Text.hexValue? (Nat.digitChar d).toUpper = some d := Text.hexValue?_hexDigit d hd
  rw [step, hvalue]
  rfl

theorem scan_escape (pieces : List Piece) (c : Char) (s : List Char) :
    scan (.string pieces) (escape c ++ s) = scan (.string (pieces ++ [piece c])) s := by
  have hbackslash : step (.string pieces) '\\' = some ([], .escape pieces) := rfl
  -- a character is written by its letter, by its number, or as it stands
  unfold escape
  split
  · rename_i letter hletter
    have hpiece : piece c = .char c := by simp [piece, hletter]
    have hstep : step (.escape pieces) letter = some ([], .string (pieces ++ [.char c])) := by
      have hread := unescape?_of_escapeLetter hletter
      have hu : letter ≠ 'u' := by
        rintro rfl
        cases hread
      rw [step, if_neg hu, hread]
      rfl
    rw [List.cons_append, List.singleton_append, scan_of_silent_step hbackslash, scan_of_silent_step hstep, hpiece]
  · rename_i hletter
    split
    · rename_i hcontrol
      have hpiece : piece c = .unit c.toNat := if_pos ⟨hletter, hcontrol⟩
      have hu : step (.escape pieces) 'u' = some ([], .unit pieces 3 0) := rfl
      have hhigh := step_digit (d := c.toNat / 16) (by omega) pieces 0 0
      have hlow := step_last_digit (d := c.toNat % 16) (by omega) pieces (16 * 0 + c.toNat / 16)
      have hcode : 16 * (16 * 0 + c.toNat / 16) + c.toNat % 16 = c.toNat := by omega
      have hzero := fun missing => step_digit (d := 0) (by decide) pieces missing 0
      rw [hpiece]
      show scan (.string pieces) ('\\' :: 'u' :: Nat.digitChar 0 :: Nat.digitChar 0 ::
        Nat.digitChar (c.toNat / 16) :: Nat.digitChar (c.toNat % 16) :: s) = _
      rw [scan_of_silent_step hbackslash, scan_of_silent_step hu, scan_of_silent_step (hzero 2),
        scan_of_silent_step (hzero 1), scan_of_silent_step hhigh, scan_of_silent_step hlow, hcode]
    · rename_i hcontrol
      have hpiece : piece c = .char c := if_neg fun h => hcontrol h.2
      have hstep : step (.string pieces) c = some ([], .string (pieces ++ [.char c])) := by
        have hquote : c ≠ '"' := by
          rintro rfl
          cases hletter
        have hslash : c ≠ '\\' := by
          rintro rfl
          cases hletter
        rw [step, if_neg hquote, if_neg hslash, if_neg hcontrol]
      rw [List.singleton_append, scan_of_silent_step hstep, hpiece]

theorem scan_escapes (pieces : List Piece) (s rest : List Char) :
    scan (.string pieces) (s.flatMap escape ++ rest) = scan (.string (pieces ++ s.map piece)) rest := by
  induction s generalizing pieces with
  | nil => simp
  | cons c s ih =>
    rw [List.flatMap_cons, List.append_assoc, scan_escape, ih, List.map_cons, List.append_assoc,
      List.singleton_append]

theorem characters?_unit {n : Nat} (h : n.isValidChar) (pieces : List Piece) :
    characters? (.unit n :: pieces) = (characters? pieces).map (Char.ofNat n :: ·) := by
  rw [characters?.eq_def]
  exact if_pos h

theorem characters?_pieces (s : List Char) : characters? (s.map piece) = some s := by
  induction s with
  | nil => rfl
  | cons c s ih =>
    rw [List.map_cons, piece]
    split
    · rw [characters?_unit (n := c.toNat) c.valid, ih, Option.map_some, Char.ofNat_toNat]
    · rw [characters?, ih, Option.map_some]

theorem scan_writeString (s : String) (rest : List Char) :
    scan (.bare []) (writeString s ++ rest) = (scan (.bare []) rest).map (.string s :: ·) := by
  have hopen : step (.bare []) '"' = some ([], .string []) := rfl
  have hclose : step (.string (s.toList.map piece)) '"' = some ([.string s], .bare []) := by
    rw [step, if_pos rfl, characters?_pieces, Option.map_some, String.ofList_toList]
  have hform : writeString s ++ rest = '"' :: (s.toList.flatMap escape ++ '"' :: rest) := by
    simp [writeString]
  rw [hform, scan_of_silent_step hopen, scan_escapes, List.nil_append, scan_of_step hclose]
  rfl

/-! ### Words -/

/-- A text before which a bare word ends. -/
def EndsWord (rest : List Char) : Prop := ∀ c ∈ rest.head?, (mark? c).isSome = true

def isWordChar (c : Char) : Bool := (mark? c).isNone && c != '"' && !isSpace c

theorem step_wordChar {c : Char} (h : isWordChar c = true) (word : List Char) :
    step (.bare word) c = some ([], .bare (word ++ [c])) := by
  simp only [isWordChar, Bool.and_eq_true, Option.isNone_iff_eq_none, bne_iff_ne, Bool.not_eq_true'] at h
  obtain ⟨⟨hmark, hquote⟩, hspace⟩ := h
  simp [step, hmark, hquote, hspace]

theorem scan_wordChars (word s rest : List Char) (h : ∀ c ∈ s, isWordChar c = true) :
    scan (.bare word) (s ++ rest) = scan (.bare (word ++ s)) rest := by
  induction s generalizing word with
  | nil => simp
  | cons c s ih =>
    rw [List.cons_append, scan_of_silent_step (step_wordChar (h c List.mem_cons_self) word),
      ih _ fun d hd => h d (List.mem_cons_of_mem c hd), List.append_assoc, List.singleton_append]

theorem scan_word {s rest : List Char} {j : Json} (hchars : s.all isWordChar = true) (hword : word? s = some j)
    (hrest : EndsWord rest) : scan (.bare []) (s ++ rest) = (scan (.bare []) rest).map (.word j :: ·) := by
  have hne : s ≠ [] := by
    rintro rfl
    cases hword
  have htokens : wordTokens? s = some [.word j] := by
    rw [wordTokens?, if_neg hne, hword, Option.map_some]
  rw [scan_wordChars [] s rest (List.all_eq_true.1 hchars), List.nil_append]
  cases rest with
  | nil =>
    show wordTokens? s = (wordTokens? []).map _
    rw [htokens]
    rfl
  | cons c rest =>
    obtain ⟨mark, hmark⟩ := Option.isSome_iff_exists.1 (hrest c rfl)
    have hstep : step (.bare s) c = some ([.word j, mark], .bare []) := by
      simp [step, hmark, htokens]
    rw [scan_of_step hstep, scan_mark hmark, Option.map_map]
    rfl

theorem isWordChar_of_isDigit {c : Char} (h : c.isDigit = true) : isWordChar c = true := by
  have hmark : mark? c = none := by
    unfold mark?
    split <;> first | rfl | exact absurd h (by decide)
  have hquote : c ≠ '"' := by
    rintro rfl
    exact absurd h (by decide)
  have hspace : isSpace c = false := by
    simp only [isSpace, Bool.or_eq_false_iff, beq_eq_false_iff_ne]
    refine ⟨⟨⟨?_, ?_⟩, ?_⟩, ?_⟩ <;> rintro rfl <;> exact absurd h (by decide)
  simp [isWordChar, hmark, hquote, hspace]

theorem magnitude?_toDigits (negative : Bool) (n : Nat) :
    magnitude? negative (Nat.toDigits 10 n) = some (.integer (if negative then -n else n)) := by
  have hdigits := Decimal.isDigit_toDigits n
  have hzero : ¬((Nat.toDigits 10 n).head? = some '0' ∧ Nat.toDigits 10 n ≠ ['0']) := by
    rintro ⟨hhead, hne⟩
    by_cases hn : n = 0
    · subst hn
      exact hne rfl
    · exact Decimal.head?_toDigits hn hhead
  unfold magnitude?
  rw [List.takeWhile_eq_self_iff.2 hdigits, List.dropWhile_eq_nil_iff.2 hdigits, if_neg hzero, if_pos rfl,
    Decimal.ofDigits?_toDigits, Option.map_some]

theorem word?_of_digits {s : List Char} (h : ∀ c ∈ s, c.isDigit = true) : word? s = magnitude? false s := by
  unfold word?
  split
  · exact absurd (h 'n' (by simp)) (by decide)
  · exact absurd (h 't' (by simp)) (by decide)
  · exact absurd (h 'f' (by simp)) (by decide)
  · exact absurd (h '-' (by simp)) (by decide)
  · rfl

theorem word?_ofInt (n : Int) : word? (Decimal.ofInt n) = some (.integer n) := by
  cases n with
  | ofNat n =>
    rw [Decimal.ofInt, word?_of_digits (Decimal.isDigit_toDigits n), magnitude?_toDigits]
    rfl
  | negSucc n =>
    rw [Decimal.ofInt, word?, magnitude?_toDigits]
    rfl

theorem isWordChar_of_mem_ofInt {n : Int} {c : Char} (h : c ∈ Decimal.ofInt n) : isWordChar c = true := by
  rcases Decimal.mem_ofInt h with rfl | hdigit
  · rfl
  · exact isWordChar_of_isDigit hdigit

/-! ### Documents -/

/-- Scanning the text of a document gives its tokens, and goes on behind it.  A number has no end of its own: what is
behind it must not go on with a digit. -/
def Scans (j : Json) : Prop :=
  ∀ rest, EndsWord rest → scan (.bare []) (j.write ++ rest) = (scan (.bare []) rest).map (j.tokens ++ ·)

theorem endsWord_nil : EndsWord [] := by
  rintro c ⟨⟩

theorem endsWord_mark {c : Char} (h : (mark? c).isSome = true) (s : List Char) : EndsWord (c :: s) := by
  rintro d ⟨⟩
  exact h

theorem scan_writeItems {items : List Json} (h : ∀ item ∈ items, item.Scans) {rest : List Char}
    (hrest : EndsWord rest) :
    scan (.bare []) (writeItems items ++ rest) = (scan (.bare []) rest).map (itemTokens items ++ ·) := by
  induction items with
  | nil => exact Option.map_id_apply.symm
  | cons item items ih =>
    cases items with
    | nil => exact h item List.mem_cons_self rest hrest
    | cons next items =>
      have hitems := ih fun j hj => h j (List.mem_cons_of_mem item hj)
      rw [writeItems, List.append_assoc, List.cons_append, h item List.mem_cons_self _ (endsWord_mark rfl _),
        scan_mark (rfl : mark? ',' = some .comma), hitems]
      simp [itemTokens, Function.comp_def]

theorem scan_writeMembers {members : List (String × Json)} (h : ∀ member ∈ members, member.2.Scans) {rest : List Char}
    (hrest : EndsWord rest) :
    scan (.bare []) (writeMembers members ++ rest) = (scan (.bare []) rest).map (memberTokens members ++ ·) := by
  induction members with
  | nil => exact Option.map_id_apply.symm
  | cons member members ih =>
    obtain ⟨name, value⟩ := member
    have hvalue := h (name, value) List.mem_cons_self
    cases members with
    | nil =>
      rw [writeMembers, List.append_assoc, List.cons_append, scan_writeString,
        scan_mark (rfl : mark? ':' = some .colon), hvalue rest hrest]
      simp [memberTokens, Function.comp_def]
    | cons next members =>
      have hmembers := ih fun j hj => h j (List.mem_cons_of_mem (name, value) hj)
      rw [writeMembers, List.append_assoc, List.cons_append, List.append_assoc, List.cons_append, scan_writeString,
        scan_mark (rfl : mark? ':' = some .colon), hvalue _ (endsWord_mark rfl _),
        scan_mark (rfl : mark? ',' = some .comma), hmembers]
      simp [memberTokens, Function.comp_def]

theorem Exact.scans {j : Json} (h : j.Exact) : j.Scans := by
  induction h with
  | null => exact fun rest hrest => scan_word rfl rfl hrest
  | boolean b => cases b <;> exact fun rest hrest => scan_word rfl rfl hrest
  | integer n =>
    have hchars := List.all_eq_true.2 fun c hc => isWordChar_of_mem_ofInt (n := n) (c := c) hc
    exact fun rest hrest => scan_word hchars (word?_ofInt n) hrest
  | string s => exact fun rest _ => scan_writeString s rest
  | array _ ih =>
    intro rest _
    rw [write, tokens, List.cons_append, List.append_assoc, List.singleton_append,
      scan_mark (rfl : mark? '[' = some .openArray), scan_writeItems ih (endsWord_mark rfl _),
      scan_mark (rfl : mark? ']' = some .closeArray)]
    simp [Function.comp_def]
  | object _ ih =>
    intro rest _
    rw [write, tokens, List.cons_append, List.append_assoc, List.singleton_append,
      scan_mark (rfl : mark? '\x7b' = some .openObject), scan_writeMembers ih (endsWord_mark rfl _),
      scan_mark (rfl : mark? '\x7d' = some .closeObject)]
    simp [Function.comp_def]

/-- **The text of an exact document is scanned into the document's tokens.** -/
theorem Exact.scan_write {j : Json} (h : j.Exact) : scan (.bare []) j.write = some j.tokens := by
  have hscan := h.scans [] endsWord_nil
  rw [List.append_nil] at hscan
  rw [hscan]
  show some (j.tokens ++ []) = _
  rw [List.append_nil]

end Json
end BoundSql
