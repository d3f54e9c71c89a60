import BoundSql.Log
import Mathlib.Data.String.Basic
/-!
# Shortening — how much of a statement is logged

Logged SQL is whole, or the longest initial part of whole characters that fits the bytes allowed, and three dots
(`LogConfig.shorten_eq_longest`).  The bytes tell the same: a search back from the last byte allowed ends at the first
boundary of characters that it meets, where that part ends (`Text.lastBoundary_eq`), so the bytes before it can be cut
out as a text (`Text.slice?_lastBoundary`).
-/
namespace BoundSql

namespace Text

/-! ## The longest part that fits -/

theorem takeBytes_prefix (n : Nat) (s : List Char) : takeBytes n s <+: s := by
  induction s generalizing n with
  | nil => exact List.prefix_rfl
  | cons c s ih =>
    unfold takeBytes
    split
    · exact (List.prefix_cons_inj c).2 (ih _)
    · exact List.nil_prefix

theorem utf8Len_takeBytes_le (n : Nat) (s : List Char) : String.utf8Len (takeBytes n s) ≤ n := by
  induction s generalizing n with
  | nil => simp [takeBytes]
  | cons c s ih =>
    unfold takeBytes
    split
    · have := ih (n - c.utf8Size)
      simp only [String.utf8Len_cons]
      omega
    · simp

/-- The character at which the part stops does not fit any more. -/
theorem lt_utf8Len_takeBytes (n : Nat) {s t : List Char} {c : Char} (h : s = takeBytes n s ++ c :: t) :
    n < String.utf8Len (takeBytes n s) + c.utf8Size := by
  induction s generalizing n with
  | nil => simp [takeBytes] at h
  | cons d s ih =>
    unfold takeBytes at h ⊢
    split at h
    · next fits =>
      have := ih (n - d.utf8Size) (List.cons.inj h).2
      rw [if_pos fits, String.utf8Len_cons]
      omega
    · next full =>
      rw [if_neg full]
      obtain ⟨rfl, rfl⟩ := List.cons.inj h
      simpa using full

/-- The longest initial part of a text that fits a count of bytes: every other one that fits is a part of it. -/
structure IsLongestFitting (n : Nat) (s p : String) : Prop where
  initial : ∃ rest, s = p ++ rest
  fits : p.utf8ByteSize ≤ n
  longest : ∀ q rest, s = q ++ rest → q.utf8ByteSize ≤ n → ∃ more, p = q ++ more

theorem isLongestFitting_takeBytes (n : Nat) (s : String) :
    IsLongestFitting n s (String.ofList (takeBytes n s.toList)) where
  initial := by
    obtain ⟨t, ht⟩ := takeBytes_prefix n s.toList
    refine ⟨String.ofList t, ?_⟩
    rw [← String.ofList_append, ht, String.ofList_toList]
  fits := by
    rw [String.utf8ByteSize_ofList]
    exact utf8Len_takeBytes_le n s.toList
  longest := by
    intro q rest hq hfits
    have hsplit : s.toList = q.toList ++ rest.toList := by
      rw [hq, String.toList_append]
    have hpart : takeBytes n s.toList <+: s.toList := takeBytes_prefix n s.toList
    rcases List.prefix_or_prefix_of_prefix ⟨rest.toList, hsplit.symm⟩ hpart with ⟨t, ht⟩ | ⟨t, ht⟩
    · exact ⟨String.ofList t, by rw [← ht, String.ofList_append, String.ofList_toList]⟩
    · cases t with
      | nil =>
        refine ⟨"", ?_⟩
        rw [List.append_nil] at ht
        rw [ht, String.ofList_toList, String.append_empty]
      | cons c t =>
        -- `q` goes on where the part stops, with a character that does not fit any more
        rw [← ht, List.append_assoc, List.cons_append] at hsplit
        have hfull := lt_utf8Len_takeBytes n hsplit
        have hsize : q.utf8ByteSize =
            String.utf8Len (takeBytes n s.toList) + (String.utf8Len t + c.utf8Size) := by
          rw [← String.utf8Len_toList, ← ht, String.utf8Len_append, String.utf8Len_cons]
        omega

theorem le_utf8ByteSize_takeBytes {n : Nat} {s : String} (h : n < s.utf8ByteSize) :
    n ≤ (String.ofList (takeBytes n s.toList)).utf8ByteSize + 3 := by
  obtain ⟨t, ht⟩ := takeBytes_prefix n s.toList
  have hsize : String.utf8Len (takeBytes n s.toList) + String.utf8Len t = s.utf8ByteSize := by
    rw [← String.utf8Len_append, ht, String.utf8Len_toList]
  have hle := utf8Len_takeBytes_le n s.toList
  rw [String.utf8ByteSize_ofList]
  cases t with
  | nil =>
    rw [String.utf8Len_nil] at hsize
    omega
  | cons c t =>
    have hfull := lt_utf8Len_takeBytes n ht.symm
    have hfour := c.utf8Size_le_four
    omega

/-! ## The search for a boundary -/

/-- The last boundary of characters in a text that is not behind a byte: the search goes back one byte at a time, and
stops at the latest before the first byte. -/
def lastBoundary (s : String) : Nat → Nat
  | 0 => 0
  | n + 1 => if String.Pos.Raw.isValid s ⟨n + 1⟩ then n + 1 else lastBoundary s n

/-- The first bytes of a text, if they are a text themselves. -/
def slice? (s : String) (n : Nat) : Option String :=
  if h : String.Pos.Raw.IsValid s ⟨n⟩ then some (.ofByteArray (s.toByteArray.extract 0 n) h.isValidUTF8_extract_zero)
  else none

theorem isValid_iff (s : String) (n : Nat) :
    String.Pos.Raw.IsValid s ⟨n⟩ ↔ ∃ p rest, s = p ++ rest ∧ p.utf8ByteSize = n := by
  rw [String.Pos.Raw.isValid_iff_exists_append]
  simp only [String.Pos.Raw.ext_iff, String.byteIdx_rawEndPos]
  exact exists_congr fun p => exists_congr fun rest => and_congr_right fun _ => eq_comm

theorem slice?_append (p rest : String) : slice? (p ++ rest) p.utf8ByteSize = some p := by
  unfold slice?
  rw [dif_pos ((isValid_iff _ _).2 ⟨p, rest, rfl, rfl⟩)]
  simp only [Option.some.injEq, ← String.toByteArray_inj, String.toByteArray_append]
  exact ByteArray.extract_append_eq_left rfl

theorem lastBoundary_le (s : String) (n : Nat) : lastBoundary s n ≤ n := by
  induction n with
  | zero => exact Nat.le_refl 0
  | succ n ih =>
    unfold lastBoundary
    split <;> omega

theorem isValid_lastBoundary (s : String) (n : Nat) : String.Pos.Raw.IsValid s ⟨lastBoundary s n⟩ := by
  induction n with
  | zero => exact String.Pos.Raw.isValid_zero
  | succ n ih =>
    unfold lastBoundary
    split
    · rename_i h
      exact String.Pos.Raw.isValid_eq_true_iff.1 h
    · exact ih

theorem le_lastBoundary {s : String} {m : Nat} (hm : String.Pos.Raw.IsValid s ⟨m⟩) {n : Nat} (h : m ≤ n) :
    m ≤ lastBoundary s n := by
  induction n with
  | zero => exact h
  | succ n ih =>
    unfold lastBoundary
    split
    · exact h
    · rename_i hn
      have hne : m ≠ n + 1 := by
        rintro rfl
        exact hn (String.Pos.Raw.isValid_eq_true_iff.2 hm)
      exact ih (by omega)

/-- **The search ends where the longest part that fits does.** -/
theorem lastBoundary_eq {n : Nat} {s p : String} (h : IsLongestFitting n s p) : lastBoundary s n = p.utf8ByteSize := by
  apply Nat.le_antisymm
  · obtain ⟨q, rest, hq, hsize⟩ := (isValid_iff s _).1 (isValid_lastBoundary s n)
    obtain ⟨more, rfl⟩ := h.longest q rest hq (hsize ▸ lastBoundary_le s n)
    rw [← hsize, String.utf8ByteSize_append]
    omega
  · obtain ⟨rest, hs⟩ := h.initial
    exact le_lastBoundary ((isValid_iff s _).2 ⟨p, rest, hs, rfl⟩) h.fits

theorem slice?_lastBoundary {n : Nat} {s p : String} (h : IsLongestFitting n s p) :
    slice? s (lastBoundary s n) = some p := by
  obtain ⟨rest, rfl⟩ := h.initial
  rw [lastBoundary_eq h, slice?_append]

end Text

namespace LogConfig

/-- **SQL is logged whole, or as its longest initial part that fits.**  It is whole without a bound, and when it has no
more bytes than the bound.  Otherwise it is the longest initial part of whole characters that has no more bytes, and
three dots.  The search back from the bound ends at the end of that part, at most three bytes before the bound, and what
is before can be cut out. -/
theorem shorten_eq_longest (c : LogConfig) (sql : String) :
    (c.maxLength = none → c.shorten sql = sql) ∧
    ∀ n, c.maxLength = some n →
      (sql.utf8ByteSize ≤ n → c.shorten sql = sql) ∧
      (n < sql.utf8ByteSize → ∃ p, c.shorten sql = p ++ "..." ∧ Text.IsLongestFitting n sql p ∧
        Text.slice? sql (Text.lastBoundary sql n) = some p ∧ Text.lastBoundary sql n = p.utf8ByteSize ∧
        n ≤ p.utf8ByteSize + 3) := by
  refine ⟨fun hnone => ?_, fun n hn => ⟨fun hle => ?_, fun hlt => ?_⟩⟩
  · simp only [shorten, hnone]
  · simp only [shorten, hn, if_pos hle]
  · have hp := Text.isLongestFitting_takeBytes n sql
    refine ⟨_, ?_, hp, Text.slice?_lastBoundary hp, Text.lastBoundary_eq hp, Text.le_utf8ByteSize_takeBytes hlt⟩
    simp only [shorten, hn, if_neg (Nat.not_le.2 hlt)]

/-- A bound inside the euro sign, which has three bytes, cuts before it. -/
theorem shorten_inside_character :
    let c : LogConfig := { maxLength := some 4 }
    c.maxLength = some 4 ∧ 4 < "é€;".utf8ByteSize ∧ c.shorten "é€;" = "é..." ∧
    Text.IsLongestFitting 4 "é€;" "é" ∧ Text.slice? "é€;" (Text.lastBoundary "é€;" 4) = some "é" ∧
    Text.lastBoundary "é€;" 4 = 2 := by
  intro c
  have hlt : 4 < "é€;".utf8ByteSize := by decide
  have hshort : c.shorten "é€;" = "é..." := by decide
  obtain ⟨p, hp, hlongest, hslice, hboundary, -⟩ := ((shorten_eq_longest c "é€;").2 4 rfl).2 hlt
  have hpe : p = "é" := by
    have heq : p ++ "..." = "é" ++ "..." := hp.symm.trans hshort
    exact (String.append_left_inj "...").1 heq
  subst hpe
  exact ⟨rfl, hlt, hshort, hlongest, hslice, hboundary⟩

end LogConfig
end BoundSql
