import BoundSql.Proofs.Occurrences
/-!
# Reading — a text as a boolean formula

A text is cut at its parentheses into stretches, and a stretch at its spaces into words.  The words `AND` and `OR` are
connectives; a maximal run of other words is one atom, with the spaces inside it.  The tokens are read one by one
(`Reader.step`): a parenthesis opens or closes a frame, `AND` goes on with the last disjunct of the frame and `OR`
begins the next, so `AND` binds tighter.  A text is read when the whole of it makes one formula (`Formula.read?`).
Atoms joined by `AND`, and groups of these joined by `OR`, are read as what they were joined from
(`Formula.read?_conjunction`, `Formula.read?_disjunction`).
-/
namespace BoundSql

/-- What `AND` joins: an atom, or the disjunction of conjunctions between two parentheses. -/
inductive Factor where
  | atom (text : String)
  | group (disjuncts : List (List Factor))

abbrev Formula := List (List Factor)

mutual

def Factor.atoms : Factor → List String
  | .atom t => [t]
  | .group disjuncts => Formula.atoms disjuncts

def Factor.atomsOfAll : List Factor → List String
  | [] => []
  | x :: xs => x.atoms ++ Factor.atomsOfAll xs

def Formula.atoms : Formula → List String
  | [] => []
  | xs :: rest => Factor.atomsOfAll xs ++ Formula.atoms rest

end

theorem Factor.atomsOfAll_map_atom : ∀ (ts : List String), Factor.atomsOfAll (ts.map .atom) = ts
  | [] => rfl
  | t :: ts => by
    rw [List.map_cons, atomsOfAll, atomsOfAll_map_atom ts]
    rfl

namespace Formula

theorem atoms_conjunction (ts : List String) : atoms [ts.map .atom] = ts := by
  rw [atoms, Factor.atomsOfAll_map_atom]
  exact List.append_nil ts

theorem atoms_disjunction : ∀ (groups : List (List String)),
    atoms (groups.map fun ts => [.group [ts.map .atom]]) = groups.flatten
  | [] => rfl
  | ts :: groups => by
    rw [List.map_cons, atoms, atoms_disjunction groups, Factor.atomsOfAll, Factor.atoms, atoms_conjunction,
      Factor.atomsOfAll, List.append_nil]
    rfl

end Formula

/-! ## Tokens -/

inductive Token where
  | opening
  | closing
  | both
  | either
  | atom (text : String)
deriving DecidableEq

namespace Token

/-- The words of a text, which are separated by single spaces and may be empty. -/
def words (s : List Char) : List (List Char) := s.splitOn ' '

def bothWord : List Char := "AND".toList

def eitherWord : List Char := "OR".toList

/-- A run of words is an atom if one of them is not empty. -/
def ofRun (run : List (List Char)) : List Token :=
  if run.all List.isEmpty then [] else [atom (String.ofList ([' '].intercalate run))]

/-- The tokens of words, of which the run has been seen since the last connective. -/
def ofWords : List (List Char) → List (List Char) → List Token
  | run, [] => ofRun run
  | run, w :: ws =>
    if w = bothWord then ofRun run ++ both :: ofWords [] ws
    else if w = eitherWord then ofRun run ++ either :: ofWords [] ws
    else ofWords (run ++ [w]) ws

/-- The tokens of a text, of which the stretch has been seen since the last parenthesis. -/
def scan : List Char → List Char → List Token
  | stretch, [] => ofWords [] (words stretch)
  | stretch, c :: s =>
    if c = '(' then ofWords [] (words stretch) ++ opening :: scan [] s
    else if c = ')' then ofWords [] (words stretch) ++ closing :: scan [] s
    else scan (stretch ++ [c]) s

end Token

/-! ## Readers -/

/-- The formula in progress between two parentheses. -/
structure Frame where
  /-- The disjuncts before the last. -/
  disjuncts : List (List Factor) := []
  /-- The factors of the last disjunct. -/
  factors : List Factor := []

namespace Frame

def add (f : Frame) (x : Factor) : Frame := { f with factors := f.factors ++ [x] }

def turn (f : Frame) : Frame := ⟨f.disjuncts ++ [f.factors], []⟩

def formula (f : Frame) : Formula := f.disjuncts ++ [f.factors]

end Frame

structure Reader where
  /-- The frames of the parentheses around, from the inside out. -/
  enclosing : List Frame := []
  frame : Frame := {}
  /-- Whether the last token ended a factor. -/
  complete : Bool := false

namespace Reader

/-- The reader after a token: a factor begins where none has just ended, and all else goes after a factor. -/
def step (r : Reader) : Token → Option Reader
  | .atom t => if r.complete then none else some { r with frame := r.frame.add (.atom t), complete := true }
  | .opening => if r.complete then none else some ⟨r.frame :: r.enclosing, {}, false⟩
  | .both => if r.complete then some { r with complete := false } else none
  | .either => if r.complete then some { r with frame := r.frame.turn, complete := false } else none
  | .closing =>
    match r.complete, r.enclosing with
    | true, f :: fs => some ⟨fs, f.add (.group r.frame.formula), true⟩
    | _, _ => none

/-- The formula of a reader that has come to an end outside all parentheses. -/
def result? (r : Reader) : Option Formula :=
  if r.complete && r.enclosing.isEmpty then some r.frame.formula else none

def run (ts : List Token) (r : Reader) : Option Reader := ts.foldlM step r

end Reader

def Formula.read? (s : String) : Option Formula := (Reader.run (Token.scan [] s.toList) {}).bind Reader.result?

/-! ## Reading atoms -/

/-- A text that is one atom: it has no parenthesis, none of its words is a connective, and one of them is not
empty. -/
structure IsAtom (t : String) : Prop where
  noOpening : '(' ∉ t.toList
  noClosing : ')' ∉ t.toList
  noBoth : Token.bothWord ∉ Token.words t.toList
  noEither : Token.eitherWord ∉ Token.words t.toList
  hasWord : ∃ w ∈ Token.words t.toList, w ≠ []

namespace Token

theorem words_append_blank (s t : List Char) : words (s ++ ' ' :: t) = words s ++ words t :=
  List.splitOn_append_cons_self s t

theorem ofRun_words {t : String} (h : IsAtom t) : ofRun (words t.toList) = [atom t] := by
  obtain ⟨w, hw, hne⟩ := h.hasWord
  unfold ofRun
  rw [if_neg, words, List.intercalate_splitOn, String.ofList_toList]
  intro hall
  exact hne (List.isEmpty_iff.1 (List.all_eq_true.1 hall w hw))

/-- Words that are no connectives are added to the run. -/
theorem ofWords_append : ∀ (ws run rest : List (List Char)), bothWord ∉ ws → eitherWord ∉ ws →
    ofWords run (ws ++ rest) = ofWords (run ++ ws) rest
  | [], run, rest, _, _ => by
    rw [List.nil_append, List.append_nil]
  | w :: ws, run, rest, hb, he => by
    rw [List.mem_cons, not_or] at hb he
    rw [List.cons_append, ofWords, if_neg (Ne.symm hb.1), if_neg (Ne.symm he.1),
      ofWords_append ws (run ++ [w]) rest hb.2 he.2, List.append_assoc]
    rfl

theorem ofWords_atom {t : String} (h : IsAtom t) : ofWords [] (words t.toList) = [atom t] := by
  have hw := ofWords_append (words t.toList) [] [] h.noBoth h.noEither
  rw [List.append_nil] at hw
  rw [hw]
  exact ofRun_words h

theorem ofWords_atom_both {t : String} (h : IsAtom t) (s : List Char) :
    ofWords [] (words (t.toList ++ " AND ".toList ++ s)) = atom t :: both :: ofWords [] (words s) := by
  have hs : t.toList ++ " AND ".toList ++ s = t.toList ++ ' ' :: (bothWord ++ ' ' :: s) := by
    rw [List.append_assoc]
    rfl
  rw [hs, words_append_blank, words_append_blank, ofWords_append _ _ _ h.noBoth h.noEither]
  have hb : words bothWord = [bothWord] := by rfl
  rw [hb, List.nil_append, List.singleton_append, ofWords, if_pos rfl, ofRun_words h]
  rfl

/-- A stretch goes on to the next parenthesis. -/
theorem scan_append : ∀ (t p s : List Char), '(' ∉ t → ')' ∉ t → scan p (t ++ s) = scan (p ++ t) s
  | [], p, s, _, _ => by
    rw [List.nil_append, List.append_nil]
  | c :: t, p, s, ho, hc => by
    rw [List.mem_cons, not_or] at ho hc
    rw [List.cons_append, scan, if_neg (Ne.symm ho.1), if_neg (Ne.symm hc.1), scan_append t (p ++ [c]) s ho.2 hc.2,
      List.append_assoc]
    rfl

def ofAtoms : List String → List Token
  | [] => []
  | [t] => [atom t]
  | t :: u :: ts => atom t :: both :: ofAtoms (u :: ts)

theorem ofWords_conjunction : ∀ (ts : List String), (∀ t ∈ ts, IsAtom t) →
    ofWords [] (words (" AND ".intercalate ts).toList) = ofAtoms ts
  | [], _ => rfl
  | [t], h => by
    rw [String.intercalate_singleton]
    exact ofWords_atom (h t (by simp))
  | t :: u :: ts, h => by
    rw [String.intercalate_cons_cons, String.toList_append, String.toList_append, ofWords_atom_both (h t (by simp)),
      ofWords_conjunction (u :: ts) (fun v hv => h v (List.mem_cons_of_mem t hv))]
    rfl

theorem scan_conjunction {ts : List String} (h : ∀ t ∈ ts, IsAtom t) (s : List Char) :
    scan [] ((" AND ".intercalate ts).toList ++ s) = scan (" AND ".intercalate ts).toList s :=
  scan_append _ [] s (not_mem_intercalate (by decide) ts fun t ht => (h t ht).noOpening)
    (not_mem_intercalate (by decide) ts fun t ht => (h t ht).noClosing)

/-! ## Reading groups -/

def groupText (ts : List String) : String := "(" ++ " AND ".intercalate ts ++ ")"

def ofGroups : List (List String) → List Token
  | [] => []
  | [ts] => opening :: (ofAtoms ts ++ [closing])
  | ts :: us :: rest => opening :: (ofAtoms ts ++ closing :: either :: ofGroups (us :: rest))

theorem scan_group {ts : List String} (h : ∀ t ∈ ts, IsAtom t) (s : List Char) :
    scan [] ((groupText ts).toList ++ s) = opening :: (ofAtoms ts ++ closing :: scan [] s) := by
  have hs : (groupText ts).toList ++ s = '(' :: ((" AND ".intercalate ts).toList ++ ')' :: s) := by
    simp [groupText]
  have hopen : scan [] ((groupText ts).toList ++ s) =
      opening :: scan [] ((" AND ".intercalate ts).toList ++ ')' :: s) := by
    rw [hs]
    rfl
  have hclose : scan (" AND ".intercalate ts).toList (')' :: s) = ofAtoms ts ++ closing :: scan [] s := by
    rw [← ofWords_conjunction ts h]
    rfl
  rw [hopen, scan_conjunction h, hclose]

/-- The connective between two groups touches neither. -/
theorem scan_either (ts : List String) (s : List Char) :
    scan [] (" OR ".toList ++ ((groupText ts).toList ++ s)) = either :: scan [] ((groupText ts).toList ++ s) := by
  have hs : (groupText ts).toList ++ s = '(' :: ((" AND ".intercalate ts).toList ++ ')' :: s) := by
    simp [groupText]
  rw [hs]
  rfl

theorem scan_disjunction : ∀ (groups : List (List String)), (∀ ts ∈ groups, ∀ t ∈ ts, IsAtom t) →
    scan [] (" OR ".intercalate (groups.map groupText)).toList = ofGroups groups
  | [], _ => rfl
  | [ts], h => by
    have hs := scan_group (h ts (by simp)) []
    rw [List.append_nil] at hs
    rw [List.map_singleton, String.intercalate_singleton, hs]
    rfl
  | ts :: us :: rest, h => by
    have ih := scan_disjunction (us :: rest) (fun vs hvs => h vs (List.mem_cons_of_mem ts hvs))
    -- the rest begins with the parenthesis of a group, which is what ends the stretch of the `OR`
    obtain ⟨s, hs⟩ : ∃ s, (" OR ".intercalate ((us :: rest).map groupText)).toList = (groupText us).toList ++ s := by
      cases rest with
      | nil => exact ⟨[], by simp⟩
      | cons vs rest =>
        refine ⟨" OR ".toList ++ (" OR ".intercalate ((vs :: rest).map groupText)).toList, ?_⟩
        rw [List.map_cons, List.map_cons, String.intercalate_cons_cons, String.toList_append, String.toList_append,
          List.append_assoc]
    rw [List.map_cons, List.map_cons, String.intercalate_cons_cons, String.toList_append, String.toList_append,
      List.append_assoc, scan_group (h ts (by simp)), ← List.map_cons, hs, scan_either, ← hs, ih]
    rfl

end Token

namespace Reader

theorem run_append (ts us : List Token) (r : Reader) : run (ts ++ us) r = (run ts r).bind (run us) := by
  unfold run
  rw [List.foldlM_append]
  rfl

/-- **What atoms do to a reader**: they become the next factors. -/
theorem run_ofAtoms (es : List Frame) (ds : List (List Factor)) : ∀ (ts : List String) (fs : List Factor), ts ≠ [] →
    run (Token.ofAtoms ts) ⟨es, ⟨ds, fs⟩, false⟩ = some ⟨es, ⟨ds, fs ++ ts.map .atom⟩, true⟩
  | [], _, h => absurd rfl h
  | [t], fs, _ => rfl
  | t :: u :: ts, fs, _ => by
    have hstep : run (Token.ofAtoms (t :: u :: ts)) ⟨es, ⟨ds, fs⟩, false⟩ =
        run (Token.ofAtoms (u :: ts)) ⟨es, ⟨ds, fs ++ [.atom t]⟩, false⟩ := rfl
    rw [hstep, run_ofAtoms es ds (u :: ts) (fs ++ [Factor.atom t]) (List.cons_ne_nil u ts), List.append_assoc]
    rfl

/-- **What a group does to a reader** at the beginning of a disjunct: it becomes its factor. -/
theorem run_group (es : List Frame) (ds : List (List Factor)) {ts : List String} (h : ts ≠ []) (us : List Token) :
    run (.opening :: (Token.ofAtoms ts ++ .closing :: us)) ⟨es, ⟨ds, []⟩, false⟩ =
      run us ⟨es, ⟨ds, [.group [ts.map .atom]]⟩, true⟩ := by
  have hopen : run (.opening :: (Token.ofAtoms ts ++ .closing :: us)) ⟨es, ⟨ds, []⟩, false⟩ =
      run (Token.ofAtoms ts ++ .closing :: us) ⟨⟨ds, []⟩ :: es, ⟨[], []⟩, false⟩ := rfl
  rw [hopen, run_append, run_ofAtoms _ _ ts [] h]
  rfl

/-- **What a disjunction of groups does to a reader**: each group is a disjunct. -/
theorem run_ofGroups : ∀ (groups : List (List String)) (ds : List (List Factor)), groups ≠ [] →
    (∀ ts ∈ groups, ts ≠ []) → (run (Token.ofGroups groups) ⟨[], ⟨ds, []⟩, false⟩).bind result? =
      some (ds ++ groups.map fun ts => [.group [ts.map .atom]])
  | [], _, h, _ => absurd rfl h
  | [ts], ds, _, h => by
    rw [Token.ofGroups, run_group [] ds (h ts (by simp))]
    rfl
  | ts :: us :: rest, ds, _, h => by
    have hturn : run (.either :: Token.ofGroups (us :: rest)) ⟨[], ⟨ds, [.group [ts.map .atom]]⟩, true⟩ =
        run (Token.ofGroups (us :: rest)) ⟨[], ⟨ds ++ [[.group [ts.map .atom]]], []⟩, false⟩ := rfl
    rw [Token.ofGroups, run_group [] ds (h ts (by simp)), hturn, run_ofGroups (us :: rest) _ (List.cons_ne_nil us rest)
      (fun vs hvs => h vs (List.mem_cons_of_mem ts hvs)), List.append_assoc]
    rfl

end Reader

namespace Formula

/-- **Atoms joined by `AND` are read as their conjunction.** -/
theorem read?_conjunction {ts : List String} (hne : ts ≠ []) (h : ∀ t ∈ ts, IsAtom t) :
    read? (" AND ".intercalate ts) = some [ts.map .atom] := by
  have hscan := Token.scan_conjunction h []
  rw [List.append_nil] at hscan
  unfold read?
  rw [hscan, Token.scan, Token.ofWords_conjunction ts h]
  exact congrArg (Option.bind · Reader.result?) (Reader.run_ofAtoms [] [] ts [] hne)

/-- **Groups joined by `OR` are read as their disjunction.** -/
theorem read?_disjunction {groups : List (List String)} (hne : groups ≠ []) (hall : ∀ ts ∈ groups, ts ≠ [])
    (h : ∀ ts ∈ groups, ∀ t ∈ ts, IsAtom t) :
    read? (" OR ".intercalate (groups.map Token.groupText)) = some (groups.map fun ts => [.group [ts.map .atom]]) := by
  unfold read?
  rw [Token.scan_disjunction groups h]
  exact Reader.run_ofGroups groups [] hne hall

example : read? "a AND b OR (c OR d ) AND  e" =
    some [[.atom "a", .atom "b"], [.group [[.atom "c"], [.atom "d "]], .atom " e"]] := by rfl

example : read? "a AND OR b" = none := by rfl

end Formula
end BoundSql
