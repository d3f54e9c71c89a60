import BoundSql.Proofs.JsonTokens
import BoundSql.Row.Json
/-!
# JsonReading — rows are read back from their JSON text

The rest of the grammar of JSON: `readValue` and `readRest` put the tokens of a text together, with the arrays and
objects that are still open on a stack.  Members stay in their order, repeated names too.  A document without decimals
is read back from its text (`Json.Exact.parse?_render`), and a row without reals from its document
(`Row.ofJson?_toJson`); so the text of rows gives back the rows (`Row.json_reads_back`).
-/
namespace BoundSql

namespace Json

/-- What is open around a value: an array with the items before it, or an object with the members before it and the
value's own name. -/
inductive Frame where
  | items (before : List Json)
  | members (before : List (String × Json)) (name : String)

mutual

/-- Reads on where a value begins, or where an array ends that has no items. -/
def readValue : List Frame → List Token → Option Json
  | frames, .string s :: ts => readRest frames (.string s) ts
  | frames, .word j :: ts => readRest frames j ts
  | frames, .openArray :: ts => readValue (.items [] :: frames) ts
  | .items [] :: frames, .closeArray :: ts => readRest frames (.array []) ts
  | frames, .openObject :: .closeObject :: ts => readRest frames (.object []) ts
  | frames, .openObject :: .string name :: .colon :: ts => readValue (.members [] name :: frames) ts
  | _, _ => none

def readRest : List Frame → Json → List Token → Option Json
  | [], j, [] => some j
  | .items before :: frames, j, .comma :: ts => readValue (.items (before ++ [j]) :: frames) ts
  | .items before :: frames, j, .closeArray :: ts => readRest frames (.array (before ++ [j])) ts
  | .members before name :: frames, j, .comma :: .string next :: .colon :: ts =>
    readValue (.members (before ++ [(name, j)]) next :: frames) ts
  | .members before name :: frames, j, .closeObject :: ts => readRest frames (.object (before ++ [(name, j)])) ts
  | _, _, _ => none

end

/-- The document that a text stands for, if it is JSON. -/
def parse? (s : String) : Option Json := (scan (.bare []) s.toList).bind (readValue [])

/-- Reading the tokens of a document gives it, and goes on behind it. -/
def Reads (j : Json) : Prop := ∀ frames ts, readValue frames (j.tokens ++ ts) = readRest frames j ts

theorem readValue_itemTokens {item : Json} {items : List Json} (h : ∀ j ∈ item :: items, j.Reads) (before : List Json)
    (frames : List Frame) (ts : List Token) :
    readValue (.items before :: frames) (itemTokens (item :: items) ++ .closeArray :: ts) =
      readRest frames (.array (before ++ item :: items)) ts := by
  induction items generalizing item before with
  | nil => rw [itemTokens, h item List.mem_cons_self, readRest]
  | cons next items ih =>
    have hitems := @ih next (fun j hj => h j (List.mem_cons_of_mem item hj)) (before ++ [item])
    rw [itemTokens, List.append_assoc, List.cons_append, h item List.mem_cons_self, readRest, hitems,
      List.append_assoc, List.singleton_append]

theorem readValue_memberTokens {name : String} {value : Json} {members : List (String × Json)}
    (h : ∀ member ∈ (name, value) :: members, member.2.Reads) (before : List (String × Json)) (frames : List Frame)
    (ts : List Token) :
    ∃ us, memberTokens ((name, value) :: members) ++ .closeObject :: ts = .string name :: .colon :: us ∧
      readValue (.members before name :: frames) us =
        readRest frames (.object (before ++ (name, value) :: members)) ts := by
  induction members generalizing name value before with
  | nil =>
    refine ⟨value.tokens ++ .closeObject :: ts, rfl, ?_⟩
    rw [h (name, value) List.mem_cons_self, readRest]
  | cons next members ih =>
    obtain ⟨us, hus, hread⟩ := @ih next.1 next.2 (fun j hj => h j (List.mem_cons_of_mem (name, value) hj))
      (before ++ [(name, value)])
    refine ⟨value.tokens ++ .comma :: (memberTokens (next :: members) ++ .closeObject :: ts), ?_, ?_⟩
    · simp [memberTokens]
    · rw [h (name, value) List.mem_cons_self, hus, readRest, hread, List.append_assoc, List.singleton_append]

theorem Exact.reads {j : Json} (h : j.Exact) : j.Reads := by
  induction h with
  | null | boolean | integer | string => exact fun _ _ => rfl
  | @array items _ ih =>
    intro frames ts
    rw [tokens, List.cons_append, List.append_assoc, List.singleton_append, readValue]
    cases items with
    | nil => rfl
    | cons item items => exact readValue_itemTokens ih [] frames ts
  | @object members _ ih =>
    intro frames ts
    rw [tokens, List.cons_append, List.append_assoc, List.singleton_append]
    cases members with
    | nil => rfl
    | cons member members =>
      obtain ⟨us, hus, hread⟩ := readValue_memberTokens ih [] frames ts
      rw [hus, readValue, hread, List.nil_append]

/-- **A document without decimals is read back from its text.** -/
theorem Exact.parse?_render {j : Json} (h : j.Exact) : parse? j.render = some j := by
  have hread := h.reads [] []
  rw [List.append_nil, readRest] at hread
  rw [parse?, render, String.toList_ofList, h.scan_write, Option.bind_some, hread]

theorem Exact.eq_of_render {j k : Json} (hj : j.Exact) (hk : k.Exact) (h : j.render = k.render) : j = k := by
  have hread := hj.parse?_render
  rw [h, hk.parse?_render] at hread
  exact (Option.some.inj hread).symm

/-- Blanks, escapes in either case, surrogate pairs, exponents and repeated names are JSON. -/
example : ((parse? "[ \"\\u00E9\\/\\ud83D\\uDE00\", \x7b\"a\":1,\n\"a\":-0.5e+3 \x7d ]").map render) =
    some "[\"é/😀\",\x7b\"a\":1,\"a\":-500.0\x7d]" := by decide +kernel

/-- A trailing comma, a leading zero and a lone surrogate are not. -/
example : ∀ s ∈ ["[1,]", "\x7b\"a\":1,\x7d", "01", "\"\\uD83D\"", "[1 2]", ""], (parse? s).isNone = true := by
  decide +kernel

end Json

/-! ## Rows -/

/-- What reads single elements back reads a list of them back. -/
theorem mapM_map_eq_some {α β : Type} {write : α → β} {read? : β → Option α} {l : List α}
    (h : ∀ a ∈ l, read? (write a) = some a) : (l.map write).mapM read? = some l := by
  induction l with
  | nil => rfl
  | cons a l ih =>
    rw [List.map_cons, List.mapM_cons, h a List.mem_cons_self, ih fun b hb => h b (List.mem_cons_of_mem a hb)]
    rfl

namespace Value

def byteOfJson? : Json → Option UInt8
  | .integer n => if 0 ≤ n ∧ n < 256 then some (.ofNat n.toNat) else none
  | _ => none

/-- The value that a document stands for: null, an integer of 64 bits, a string, or an array of bytes. -/
def ofJson? : Json → Option Value
  | .null => some .null
  | .integer n => ofInt? n
  | .string s => some (.text s)
  | .array items => (items.mapM byteOfJson?).map .blob
  | _ => none

theorem byteOfJson?_integer (b : UInt8) : byteOfJson? (.integer b.toNat) = some b := by
  have hb : b.toNat < 256 := b.toNat_lt
  rw [byteOfJson?, if_pos (by omega), Int.toNat_natCast, UInt8.ofNat_toNat]

theorem ofJson?_toJson {v : Value} (h : v.isReal = false) : ofJson? v.toJson = some v := by
  cases v with
  | null => rfl
  | integer i => exact ofInt?_toInt i
  | real x => cases h
  | text s => rfl
  | blob bytes =>
    rw [toJson, ofJson?, mapM_map_eq_some fun b _ => byteOfJson?_integer b]
    rfl

theorem exact_toJson {v : Value} (h : v.isReal = false) : v.toJson.Exact := by
  cases v with
  | null => exact .null
  | integer i => exact .integer _
  | real x => cases h
  | text s => exact .string s
  | blob bytes =>
    refine .array fun item hitem => ?_
    obtain ⟨b, _, rfl⟩ := List.mem_map.1 hitem
    exact .integer _

end Value

namespace Row

def hasReal (r : Row) : Bool := r.columns.any fun c => c.value.isReal

def columnOfMember? (member : String × Json) : Option Column :=
  (Value.ofJson? member.2).map fun v => ⟨member.1, v⟩

/-- The row that an object stands for, with one column a member. -/
def ofJson? : Json → Option Row
  | .object members => (members.mapM columnOfMember?).map Row.mk
  | _ => none

def listOfJson? : Json → Option (List Row)
  | .array items => items.mapM ofJson?
  | _ => none

theorem isReal_of_hasReal {r : Row} (h : r.hasReal = false) : ∀ c ∈ r.columns, c.value.isReal = false :=
  fun c hc => Bool.eq_false_iff.2 (List.any_eq_false.1 h c hc)

theorem ofJson?_toJson {r : Row} (h : r.hasReal = false) : ofJson? r.toJson = some r := by
  have hcolumn : ∀ c ∈ r.columns, columnOfMember? (c.name, c.value.toJson) = some c := by
    intro c hc
    rw [columnOfMember?, Value.ofJson?_toJson (isReal_of_hasReal h c hc)]
    rfl
  rw [toJson, ofJson?, mapM_map_eq_some hcolumn]
  rfl

theorem listOfJson?_listToJson {rows : List Row} (h : ∀ r ∈ rows, r.hasReal = false) :
    listOfJson? (listToJson rows) = some rows :=
  mapM_map_eq_some fun r hr => ofJson?_toJson (h r hr)

theorem exact_toJson {r : Row} (h : r.hasReal = false) : r.toJson.Exact := by
  refine .object fun member hmember => ?_
  obtain ⟨c, hc, rfl⟩ := List.mem_map.1 hmember
  exact Value.exact_toJson (isReal_of_hasReal h c hc)

theorem exact_listToJson {rows : List Row} (h : ∀ r ∈ rows, r.hasReal = false) : (listToJson rows).Exact := by
  refine .array fun item hitem => ?_
  obtain ⟨r, hr, rfl⟩ := List.mem_map.1 hitem
  exact exact_toJson (h r hr)

/-- **JSON loses nothing of rows without reals.**  The text of a list of rows, and of one row, is JSON; it stands for
the document that was written, and that for the rows.  So different rows have different texts. -/
theorem json_reads_back :
    (∀ rows : List Row, (∀ r ∈ rows, r.hasReal = false) →
      Json.parse? (listToJson rows).render = some (listToJson rows) ∧ listOfJson? (listToJson rows) = some rows) ∧
    (∀ r : Row, r.hasReal = false → Json.parse? r.toJson.render = some r.toJson ∧ ofJson? r.toJson = some r) ∧
    (∀ rows rows' : List Row, (∀ r ∈ rows, r.hasReal = false) → (∀ r ∈ rows', r.hasReal = false) →
      (listToJson rows).render = (listToJson rows').render → rows = rows') ∧
    ∀ r r' : Row, r.hasReal = false → r'.hasReal = false → r.toJson.render = r'.toJson.render → r = r' := by
  refine ⟨fun rows h => ⟨(exact_listToJson h).parse?_render, listOfJson?_listToJson h⟩,
    fun r h => ⟨(exact_toJson h).parse?_render, ofJson?_toJson h⟩, fun rows rows' h h' htext => ?_,
    fun r r' h h' htext => ?_⟩
  · have hdoc := (exact_listToJson h).eq_of_render (exact_listToJson h') htext
    have hrows := listOfJson?_listToJson h
    rw [hdoc, listOfJson?_listToJson h'] at hrows
    exact (Option.some.inj hrows).symm
  · have hdoc := (exact_toJson h).eq_of_render (exact_toJson h') htext
    have hrow := ofJson?_toJson h
    rw [hdoc, ofJson?_toJson h'] at hrow
    exact (Option.some.inj hrow).symm

/-- A repeated name, names and texts that end with a backslash, a quote or a control character, no bytes, no columns. -/
theorem json_reads_back_of_escapes :
    let rows : List Row :=
      [⟨[⟨"a\"", .text "\\"⟩, ⟨"a\"", .text "\"\x01"⟩, ⟨"", .blob []⟩, ⟨"n", .integer (-5)⟩]⟩, ⟨[]⟩]
    let text := "[\x7b\"a\\\"\":\"\\\\\",\"a\\\"\":\"\\\"\\u0001\",\"\":[],\"n\":-5\x7d,\x7b\x7d]"
    let row : Row := ⟨[⟨"t", .text "null"⟩, ⟨"u", .null⟩]⟩
    let swapped : Row := ⟨[⟨"u", .null⟩, ⟨"t", .text "null"⟩]⟩
    (listToJson rows).render = text ∧ (Json.parse? text).bind listOfJson? = some rows ∧
    row.toJson.render = "\x7b\"t\":\"null\",\"u\":null\x7d" ∧
    (Json.parse? "\x7b\"t\":\"null\",\"u\":null\x7d").bind ofJson? = some row ∧
    row.toJson.render ≠ swapped.toJson.render ∧
    (listToJson [⟨[⟨"b", .blob []⟩]⟩]).render ≠ (listToJson [⟨[⟨"b", .text "[]"⟩]⟩]).render := by
  intro rows text row swapped
  have hlist : (listToJson rows).render = text := by decide +kernel
  have hone : row.toJson.render = "\x7b\"t\":\"null\",\"u\":null\x7d" := by decide +kernel
  obtain ⟨hread, hback⟩ := json_reads_back.1 rows (by decide)
  obtain ⟨hreadOne, hbackOne⟩ := json_reads_back.2.1 row rfl
  refine ⟨hlist, ?_, hone, ?_, fun h => ?_, fun h => ?_⟩
  · rw [← hlist, hread]
    exact hback
  · rw [← hone, hreadOne]
    exact hbackOne
  · exact absurd (json_reads_back.2.2.2 row swapped rfl rfl h) (by decide)
  · exact absurd (json_reads_back.2.2.1 _ _ (by decide) (by decide) h) (by decide)

end Row
end BoundSql
