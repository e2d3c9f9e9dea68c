import CollisionMonitor.Lib.Collections
import CollisionMonitor.Lib.JsonText
import Mathlib.Data.List.TakeWhile
import Mathlib.Data.String.Basic

set_option relaxedAutoImplicit false
set_option autoImplicit false

/-!
# JSON values and their texts

How Python's `json` writes a value with sorted keys and without spaces, and how it reads a text. A
float is a text, and `mapFloats` replaces the text that was read by the text that is written for its
value. What was written is read back, up to the order of the keys, so two values have the same text
iff they are identical up to the order of the keys. An integer, a float and a Boolean are never
identical, though Python may call them equal.

Three things are left out of reading: a string with an escape of a lone surrogate, which is not a
string of characters, is not read, and there is no limit on the nesting of a value or on the digits
of an integer.

## Main definitions

* `Json` — values; the members of an object are in the order of insertion.
* `Json.dumps`, `Json.loads` — writing and reading.
* `Json.canonical` — a value with sorted keys.
* `Json.mapFloats`, `Json.RewritesFloats` — the value whose floats are those that were read.
* `Json.WellFormed` — floats have the texts of floats, and the keys of an object differ.

## Main results

* `Json.loads_dumps` — the round trip.
* `Json.dumps_eq_iff` — the text determines the value.
* `Json.wellFormed_loads` — what is read is well formed.
* `Json.printable_write` — a text has no control characters.
-/

/-- A JSON value. -/
inductive Json
  | null
  | bool (b : Bool)
  | int (n : ℤ)
  | float (text : List Char)
  | str (s : String)
  | arr (items : List Json)
  | obj (members : List (String × Json))

namespace Json

open JsonText

/-! ## Writing -/

/-- A string with its quotes. -/
def writeString (s : String) : List Char := '\"' :: (escape s.toList ++ ['\"'])

/-- Texts joined by commas. -/
def join : List (List Char) → List Char
  | [] => []
  | [text] => text
  | text :: texts => text ++ ',' :: join texts

mutual

/-- The text of a value, without spaces. -/
def write : Json → List Char
  | .null => "null".toList
  | .bool true => "true".toList
  | .bool false => "false".toList
  | .int n => writeInt n
  | .float text => text
  | .str s => writeString s
  | .arr items => '[' :: (join (writeItems items) ++ [']'])
  | .obj members => '{' :: (join (writeMembers members) ++ ['}'])

/-- The texts of items. -/
def writeItems : List Json → List (List Char)
  | [] => []
  | item :: items => write item :: writeItems items

/-- The texts of members. -/
def writeMembers : List (String × Json) → List (List Char)
  | [] => []
  | (key, value) :: members => (writeString key ++ ':' :: write value) :: writeMembers members

end

mutual

/-- The value with sorted keys. -/
def canonical : Json → Json
  | .arr items => .arr (canonicalItems items)
  | .obj members => .obj (sortedBy Prod.fst (canonicalMembers members))
  | value => value

/-- The items with sorted keys. -/
def canonicalItems : List Json → List Json
  | [] => []
  | item :: items => canonical item :: canonicalItems items

/-- The members with sorted keys inside. -/
def canonicalMembers : List (String × Json) → List (String × Json)
  | [] => []
  | (key, value) :: members => (key, canonical value) :: canonicalMembers members

end

/-- `json.dumps(value, sort_keys=True, separators=(",", ":"))`. -/
def dumps (value : Json) : List Char := write (canonical value)

mutual

/-- The value with the texts of its floats replaced. -/
def mapFloats (f : List Char → List Char) : Json → Json
  | .float text => .float (f text)
  | .arr items => .arr (mapFloatsItems f items)
  | .obj members => .obj (mapFloatsMembers f members)
  | value => value

/-- The items with the texts of their floats replaced. -/
def mapFloatsItems (f : List Char → List Char) : List Json → List Json
  | [] => []
  | item :: items => mapFloats f item :: mapFloatsItems f items

/-- The members with the texts of their floats replaced. -/
def mapFloatsMembers (f : List Char → List Char) : List (String × Json) → List (String × Json)
  | [] => []
  | (key, value) :: members => (key, mapFloats f value) :: mapFloatsMembers f members

end

/-! ## Reading -/

/-- White space between tokens. -/
def isSpace (c : Char) : Bool := c ∈ [' ', '\t', '\n', '\r']

/-- The text after its leading white space. -/
def skipSpace (text : List Char) : List Char := text.dropWhile isSpace

/-- The constants. -/
def words : List (List Char × Json) :=
  [("null".toList, .null), ("true".toList, .bool true), ("false".toList, .bool false),
    ("NaN".toList, .float "NaN".toList), ("Infinity".toList, .float "Infinity".toList),
    ("-Infinity".toList, .float "-Infinity".toList)]

/-- Read a constant. -/
def scanWord (text : List Char) : Option (Json × List Char) :=
  words.findSome? fun word =>
    if word.1.isPrefixOf text then some (word.2, text.drop word.1.length) else none

/-- Read a number. -/
def scanNumber (text : List Char) : Option (Json × List Char) :=
  let token := text.takeWhile isNumberChar
  let rest := text.dropWhile isNumberChar
  if isIntText token then some (.int (intValue token), rest)
  else if isFloatText token then some (.float token, rest)
  else none

/-- Set a key of a dictionary: a new key comes last, and one that is there keeps its place. -/
def setItem (members : List (String × Json)) (member : String × Json) : List (String × Json) :=
  if member.1 ∈ members.map Prod.fst then
    members.map fun other => if other.1 = member.1 then member else other
  else members ++ [member]

/-- `dict(pairs)`. -/
def dictOf (pairs : List (String × Json)) : List (String × Json) := pairs.foldl setItem []

mutual

/-- Read a value, with a bound on the steps. -/
def scanValue : ℕ → List Char → Option (Json × List Char)
  | 0, _ => none
  | fuel + 1, text => match skipSpace text with
    | '\"' :: rest =>
      (scanString (rest.length + 1) rest).map fun p => (.str (String.ofList p.1), p.2)
    | '[' :: rest => match skipSpace rest with
      | ']' :: rest => some (.arr [], rest)
      | rest => (scanItems fuel rest).map fun p => (.arr p.1, p.2)
    | '{' :: rest => match skipSpace rest with
      | '}' :: rest => some (.obj [], rest)
      | rest => (scanMembers fuel rest).map fun p => (.obj (dictOf p.1), p.2)
    | text => (scanWord text).or (scanNumber text)

/-- Read items up to the end of their array. -/
def scanItems : ℕ → List Char → Option (List Json × List Char)
  | 0, _ => none
  | fuel + 1, text => do
    let (item, rest) ← scanValue fuel text
    match skipSpace rest with
    | ',' :: rest => (scanItems fuel rest).map fun p => (item :: p.1, p.2)
    | ']' :: rest => some ([item], rest)
    | _ => none

/-- Read members up to the end of their object. -/
def scanMembers : ℕ → List Char → Option (List (String × Json) × List Char)
  | 0, _ => none
  | fuel + 1, text => match skipSpace text with
    | '\"' :: rest => do
      let (key, rest) ← scanString (rest.length + 1) rest
      match skipSpace rest with
      | ':' :: rest => do
        let (value, rest) ← scanValue fuel rest
        match skipSpace rest with
        | ',' :: rest =>
          (scanMembers fuel rest).map fun p => ((String.ofList key, value) :: p.1, p.2)
        | '}' :: rest => some ([(String.ofList key, value)], rest)
        | _ => none
      | _ => none
    | _ => none

end

/-- `json.loads`. -/
def loads (text : List Char) : Option Json := do
  let (value, rest) ← scanValue (2 * text.length) text
  if skipSpace rest = [] then some value else none

/-! ## Reading back -/

/-- The texts of floats. -/
def IsFloat (text : List Char) : Prop :=
  text ∈ ["NaN".toList, "Infinity".toList, "-Infinity".toList] ∨
    (∀ c ∈ text, isNumberChar c = true) ∧ isIntText text = false ∧ isFloatText text = true

/-- Floats have the texts of floats, and the keys of an object differ. -/
inductive WellFormed : Json → Prop
  | null : WellFormed .null
  | bool (b : Bool) : WellFormed (.bool b)
  | int (n : ℤ) : WellFormed (.int n)
  | float {text : List Char} (h : IsFloat text) : WellFormed (.float text)
  | str (s : String) : WellFormed (.str s)
  | arr {items : List Json} (h : ∀ item ∈ items, WellFormed item) : WellFormed (.arr items)
  | obj {members : List (String × Json)} (hkeys : (members.map Prod.fst).Nodup)
      (h : ∀ member ∈ members, WellFormed member.2) : WellFormed (.obj members)

/-- Every string of the value, keys aside, has the property. -/
inductive AllStrings (P : String → Prop) : Json → Prop
  | null : AllStrings P .null
  | bool (b : Bool) : AllStrings P (.bool b)
  | int (n : ℤ) : AllStrings P (.int n)
  | float (text : List Char) : AllStrings P (.float text)
  | str {s : String} (h : P s) : AllStrings P (.str s)
  | arr {items : List Json} (h : ∀ item ∈ items, AllStrings P item) : AllStrings P (.arr items)
  | obj {members : List (String × Json)} (h : ∀ member ∈ members, AllStrings P member.2) :
      AllStrings P (.obj members)

/-- A text at which a number ends. -/
def Stops (rest : List Char) : Prop := ∀ c ∈ rest.head?, isNumberChar c = false

section RoundTrip

variable {text token rest : List Char} {c : Char} {fuel : ℕ}

/-- A text that starts otherwise has no leading white space. -/
lemma skipSpace_cons (hc : isSpace c = false) : skipSpace (c :: text) = c :: text := by
  simp [skipSpace, hc]

/-- A constant or a number starts with another character than strings and containers. -/
lemma scanValue_scalar (hspace : isSpace c = false) (hc : c ∉ ['\"', '[', '{']) :
    scanValue (fuel + 1) (c :: text) = (scanWord (c :: text)).or (scanNumber (c :: text)) := by
  simp only [List.mem_cons, List.not_mem_nil, or_false, not_or] at hc
  obtain ⟨hquote, harr, hobj⟩ := hc
  rw [scanValue, skipSpace_cons hspace]
  split
  · next heq => exact absurd (List.cons.inj heq).1 hquote
  · next heq => exact absurd (List.cons.inj heq).1 harr
  · next heq => exact absurd (List.cons.inj heq).1 hobj
  · rfl

/-- The token of a number is what stands before its end. -/
lemma scanNumber_append (htoken : ∀ c ∈ token, isNumberChar c = true) (hstop : Stops rest) :
    scanNumber (token ++ rest) =
      if isIntText token then some (.int (intValue token), rest)
      else if isFloatText token then some (.float token, rest) else none := by
  have hend : rest.takeWhile isNumberChar = [] ∧ rest.dropWhile isNumberChar = rest := by
    cases rest with
    | nil => exact ⟨rfl, rfl⟩
    | cons c rest => simp [hstop c (by simp)]
  rw [scanNumber, List.takeWhile_append_of_pos htoken, List.dropWhile_append_of_pos htoken,
    hend.1, hend.2, List.append_nil]

/-- A number starts with a digit, perhaps after its sign. -/
lemma head_number (h : isIntText token = true ∨ isFloatText token = true) :
    ∃ d digits, d.isDigit = true ∧ (token = d :: digits ∨ token = '-' :: d :: digits) := by
  have hunsigned : ∃ d digits, d.isDigit = true ∧ unsigned token = d :: digits := by
    rcases h with h | h
    · unfold isIntText at h
      cases htext : unsigned token with
      | nil => simp [htext, isNatText] at h
      | cons d digits =>
        rw [htext] at h
        simp only [isNatText, Bool.and_eq_true] at h
        exact ⟨d, digits, h.1.1, rfl⟩
    · simp only [isFloatText, Bool.and_eq_true] at h
      have hdigits := h.1.1.1
      cases htext : unsigned token with
      | nil => simp [htext, isNatText] at hdigits
      | cons d digits =>
        refine ⟨d, digits, ?_, rfl⟩
        by_contra hd
        simp [htext, hd, isNatText] at hdigits
  obtain ⟨d, digits, hd, heq⟩ := hunsigned
  refine ⟨d, digits, hd, ?_⟩
  unfold unsigned at heq
  split at heq
  · exact .inr (by rw [heq])
  · exact .inl heq

/-- A character that is no digit differs from one that is. -/
lemma ne_digit (hc : c.isDigit = true) (c' : Char) (hc' : c'.isDigit = false) : c' ≠ c := by
  rintro rfl
  rw [hc] at hc'
  cases hc'

/-- A digit is not white space. -/
lemma isSpace_digit (hc : c.isDigit = true) : isSpace c = false := by
  simp [isSpace, (ne_digit hc ' ' rfl).symm, (ne_digit hc '\t' rfl).symm,
    (ne_digit hc '\n' rfl).symm, (ne_digit hc '\r' rfl).symm]

/-- A number is not a constant. -/
lemma scanWord_eq_none {digits : List Char} (hc : c.isDigit = true)
    (htext : text = c :: digits ∨ text = '-' :: c :: digits) : scanWord text = none := by
  have hnot : ∀ word ∈ words, ¬ word.1 <+: text := by
    rcases htext with rfl | rfl
    · simp [words, List.cons_prefix_cons, ne_digit hc 'n' rfl, ne_digit hc 't' rfl,
        ne_digit hc 'f' rfl, ne_digit hc 'N' rfl, ne_digit hc 'I' rfl, ne_digit hc '-' rfl]
    · simp [words, List.cons_prefix_cons, ne_digit hc 'I' rfl]
  refine List.findSome?_eq_none_iff.mpr fun word hword => if_neg ?_
  rw [List.isPrefixOf_iff_prefix]
  exact hnot word hword

/-- **A number** is read up to its end. -/
lemma scanValue_number (hnumber : isIntText token = true ∨ isFloatText token = true)
    (htoken : ∀ c ∈ token, isNumberChar c = true) (hstop : Stops rest) :
    scanValue (fuel + 1) (token ++ rest) =
      if isIntText token then some (.int (intValue token), rest)
      else some (.float token, rest) := by
  have hscalar : scanValue (fuel + 1) (token ++ rest) = scanNumber (token ++ rest) := by
    obtain ⟨d, digits, hd, rfl | rfl⟩ := head_number hnumber
    · have hhead : d ∉ ['\"', '[', '{'] := by
        simp [(ne_digit hd '\"' rfl).symm, (ne_digit hd '[' rfl).symm, (ne_digit hd '{' rfl).symm]
      rw [List.cons_append, scanValue_scalar (isSpace_digit hd) hhead]
      rw [scanWord_eq_none hd (.inl rfl), Option.none_or]
    · rw [List.cons_append, List.cons_append, scanValue_scalar rfl (by decide)]
      rw [scanWord_eq_none hd (.inr rfl), Option.none_or]
  rw [hscalar, scanNumber_append htoken hstop]
  split_ifs with hint hfloat
  · rfl
  · rfl
  · exact absurd hnumber (by simp [hint, hfloat])

/-- **A string** is read up to its closing quote. -/
lemma scanString_writeString (s : String) (rest : List Char) :
    scanString ((escape s.toList ++ '\"' :: rest).length + 1) (escape s.toList ++ '\"' :: rest) =
      some (s.toList, rest) := by
  apply scanString_escape
  have hlength := length_le_escape s.toList
  rw [List.length_append]
  omega

/-- **A constant** is read whatever follows. -/
lemma scanValue_word {word : List Char × Json} (h : word ∈ words) (fuel : ℕ) (rest : List Char) :
    scanValue (fuel + 1) (word.1 ++ rest) = some (word.2, rest) := by
  simp only [words, List.mem_cons, List.not_mem_nil, or_false] at h
  rcases h with rfl | rfl | rfl | rfl | rfl | rfl
  all_goals rfl

/-- A text starts neither with a space nor with the end of an array. -/
lemma head_write {value : Json} (h : value.WellFormed) :
    ∃ c text, write value = c :: text ∧ isSpace c = false ∧ c ≠ ']' := by
  have hnumber : ∀ token, isIntText token = true ∨ isFloatText token = true →
      ∃ c text, token = c :: text ∧ isSpace c = false ∧ c ≠ ']' := by
    intro token htoken
    obtain ⟨d, digits, hd, rfl | rfl⟩ := head_number htoken
    · exact ⟨d, digits, rfl, isSpace_digit hd, (ne_digit hd ']' rfl).symm⟩
    · exact ⟨'-', d :: digits, rfl, rfl, by decide⟩
  cases h with
  | null => exact ⟨'n', "ull".toList, rfl, rfl, by decide⟩
  | bool b =>
    cases b with
    | true => exact ⟨'t', "rue".toList, rfl, rfl, by decide⟩
    | false => exact ⟨'f', "alse".toList, rfl, rfl, by decide⟩
  | int n => exact hnumber _ (.inl (intValue_writeInt n).1)
  | @float text hfloat =>
    rcases hfloat with hword | ⟨-, -, hfloat⟩
    · simp only [List.mem_cons, List.not_mem_nil, or_false] at hword
      rcases hword with rfl | rfl | rfl
      · exact ⟨'N', "aN".toList, rfl, rfl, by decide⟩
      · exact ⟨'I', "nfinity".toList, rfl, rfl, by decide⟩
      · exact ⟨'-', "Infinity".toList, rfl, rfl, by decide⟩
    · exact hnumber _ (.inr hfloat)
  | str s => exact ⟨_, _, rfl, rfl, by decide⟩
  | arr => exact ⟨_, _, rfl, rfl, by decide⟩
  | obj => exact ⟨_, _, rfl, rfl, by decide⟩

/-- Pairs with new and different keys are appended. -/
lemma foldl_setItem {members pairs : List (String × Json)}
    (h : ((members ++ pairs).map Prod.fst).Nodup) :
    pairs.foldl setItem members = members ++ pairs := by
  induction pairs generalizing members with
  | nil => simp
  | cons pair pairs ih =>
    have hnew : pair.1 ∉ members.map Prod.fst := by
      rw [List.map_append, List.map_cons] at h
      intro hin
      exact (List.disjoint_of_nodup_append h) hin List.mem_cons_self
    rw [List.foldl_cons, setItem, if_neg hnew, ih (by simpa using h), List.append_assoc]
    rfl

/-- Pairs with different keys are the members of their dictionary. -/
lemma dictOf_eq_self {pairs : List (String × Json)} (h : (pairs.map Prod.fst).Nodup) :
    dictOf pairs = pairs := foldl_setItem h

/-- A number ends at a character that is not one of a number. -/
lemma stops_of_notMem (hc : isNumberChar c = false) : Stops (c :: rest) := by
  intro c' hc'
  rw [← Option.some.inj hc']
  exact hc

/-! The text of a value is read with two steps for each of its characters. -/

/-- Values are read from their texts with so many steps. -/
def ReadsValues (fuel : ℕ) : Prop := ∀ value rest, value.WellFormed →
  2 * (write value).length ≤ fuel → Stops rest →
    scanValue fuel (write value ++ rest) = some (value, rest)

/-- Items are read up to the end of their array. -/
def ReadsItems (fuel : ℕ) : Prop := ∀ item items rest, (∀ i ∈ item :: items, i.WellFormed) →
  2 * (join (writeItems (item :: items))).length < fuel →
    scanItems fuel (join (writeItems (item :: items)) ++ ']' :: rest) = some (item :: items, rest)

/-- Members are read up to the end of their object. -/
def ReadsMembers (fuel : ℕ) : Prop := ∀ member members rest,
  (∀ m ∈ member :: members, m.2.WellFormed) →
    2 * (join (writeMembers (member :: members))).length < fuel →
      scanMembers fuel (join (writeMembers (member :: members)) ++ '}' :: rest) =
        some (member :: members, rest)

/-- Items need one step more than their first value and the rest. -/
lemma readsItems_succ (hvalues : ReadsValues fuel) (hitems : ReadsItems fuel) :
    ReadsItems (fuel + 1) := by
  intro item items rest hwell hfuel
  have hitem := hwell item List.mem_cons_self
  cases items with
  | nil =>
    simp only [writeItems, join] at hfuel ⊢
    have hvalue := hvalues item (']' :: rest) hitem (by omega) (stops_of_notMem rfl)
    rw [scanItems, hvalue]
    rfl
  | cons next items =>
    simp only [writeItems, join, List.length_append, List.length_cons] at hfuel
    have hvalue := hvalues item (',' :: (join (writeItems (next :: items)) ++ ']' :: rest)) hitem
      (by omega) (stops_of_notMem rfl)
    have hrest := hitems next items rest (fun i hi => hwell i (List.mem_cons_of_mem _ hi))
      (by simp only [writeItems]; omega)
    rw [show join (writeItems (item :: next :: items)) ++ ']' :: rest =
      write item ++ ',' :: (join (writeItems (next :: items)) ++ ']' :: rest) by
        simp [writeItems, join], scanItems, hvalue]
    change (scanItems fuel _).map _ = _
    rw [hrest]
    rfl

/-- Members need one step more than their first value and the rest.

**Proof sketch.** After the key and its colon (`hkey`) the value is read, and by its first character
the rest is the end of the object or another member. -/
lemma readsMembers_succ (hvalues : ReadsValues fuel) (hmembers : ReadsMembers fuel) :
    ReadsMembers (fuel + 1) := by
  rintro ⟨key, value⟩ members rest hwell hfuel
  have hmember : value.WellFormed := hwell (key, value) List.mem_cons_self
  -- the key and its colon
  have hkey : ∀ text, scanMembers (fuel + 1) (writeString key ++ ':' :: text) = (do
      let (value, rest) ← scanValue fuel text
      match skipSpace rest with
      | ',' :: rest => (scanMembers fuel rest).map fun p => ((key, value) :: p.1, p.2)
      | '}' :: rest => some ([(key, value)], rest)
      | _ => none) := by
    intro text
    have hstring := scanString_writeString key (':' :: text)
    rw [writeString, List.cons_append, List.append_assoc, List.singleton_append, scanMembers,
      skipSpace_cons rfl]
    simp only [hstring, Option.bind_eq_bind, Option.bind_some, skipSpace_cons (c := ':') rfl,
      String.ofList_toList]
  cases members with
  | nil =>
    simp only [writeMembers, join, List.length_append, List.length_cons] at hfuel ⊢
    have hvalue := hvalues value ('}' :: rest) hmember (by omega) (stops_of_notMem rfl)
    rw [List.append_assoc, List.cons_append, hkey, hvalue]
    rfl
  | cons next members =>
    simp only [writeMembers, join, List.length_append, List.length_cons] at hfuel
    have hvalue := hvalues value (',' :: (join (writeMembers (next :: members)) ++ '}' :: rest))
      hmember (by omega) (stops_of_notMem rfl)
    have hrest := hmembers next members rest (fun m hm => hwell m (List.mem_cons_of_mem _ hm))
      (by simp only [writeMembers]; omega)
    rw [show join (writeMembers ((key, value) :: next :: members)) ++ '}' :: rest =
      writeString key ++ ':' :: (write value ++ ',' ::
        (join (writeMembers (next :: members)) ++ '}' :: rest)) by simp [writeMembers, join],
      hkey, hvalue]
    change (scanMembers fuel _).map _ = _
    rw [hrest]
    rfl

/-- A value needs one step more than what it contains.

**Proof sketch.** By cases on the value. Words and numbers are told by their first characters. An
array that is not empty starts with the first character of an item, which is no closing bracket, and
an object with a quotation mark. -/
lemma readsValues_succ (hitems : ReadsItems fuel) (hmembers : ReadsMembers fuel) :
    ReadsValues (fuel + 1) := by
  intro value rest hwell hfuel hstop
  have hword : ∀ word ∈ words, scanValue (fuel + 1) (word.1 ++ rest) = some (word.2, rest) :=
    fun word hin => scanValue_word hin fuel rest
  cases hwell with
  | null => exact hword ("null".toList, .null) (by simp [words])
  | bool b =>
    cases b with
    | true => exact hword ("true".toList, .bool true) (by simp [words])
    | false => exact hword ("false".toList, .bool false) (by simp [words])
  | int n =>
    obtain ⟨hint, hvalue, hchars⟩ := intValue_writeInt n
    rw [write, scanValue_number (.inl hint) hchars hstop, if_pos hint, hvalue]
  | @float text h =>
    rcases h with hin | ⟨hchars, hint, hfloat⟩
    · exact hword (text, .float text) (by simpa [words] using hin)
    · rw [write, scanValue_number (.inr hfloat) hchars hstop, if_neg (by simp [hint])]
  | str s =>
    rw [write, writeString, List.cons_append, List.append_assoc, List.singleton_append, scanValue,
      skipSpace_cons rfl]
    simp only [scanString_writeString, Option.map_some, String.ofList_toList]
  | @arr items h =>
    cases items with
    | nil => rfl
    | cons item items =>
      simp only [write, List.length_cons, List.length_append, List.length_nil] at hfuel
      have hrest := hitems item items rest h (by omega)
      -- the first item tells the array from an empty one
      obtain ⟨c, text, htext, hspace, hne⟩ := head_write (h item List.mem_cons_self)
      obtain ⟨tail, htail⟩ : ∃ tail, join (writeItems (item :: items)) = c :: tail := by
        cases items <;> exact ⟨_, by rw [writeItems, htext]; rfl⟩
      rw [htail, List.cons_append] at hrest
      rw [write, htail, List.cons_append, List.append_assoc, List.cons_append,
        List.singleton_append, scanValue, skipSpace_cons rfl]
      simp only [skipSpace_cons hspace]
      split
      · next heq => exact absurd (List.cons.inj heq).1 hne
      · rw [hrest]
        rfl
  | @obj members hkeys h =>
    cases members with
    | nil => rfl
    | cons member members =>
      simp only [write, List.length_cons, List.length_append, List.length_nil] at hfuel
      have hrest := hmembers member members rest h (by omega)
      obtain ⟨tail, htail⟩ : ∃ tail, join (writeMembers (member :: members)) = '\"' :: tail := by
        cases members <;> exact ⟨_, by rw [writeMembers, writeString]; rfl⟩
      rw [htail, List.cons_append] at hrest
      rw [write, htail, List.cons_append, List.append_assoc, List.cons_append,
        List.singleton_append, scanValue, skipSpace_cons rfl]
      simp only [skipSpace_cons (c := '\"') rfl]
      change (scanMembers fuel _).map _ = _
      rw [hrest, Option.map_some, dictOf_eq_self hkeys]

/-- **Reading back**, whatever follows the text. -/
lemma reads (fuel : ℕ) : ReadsValues fuel ∧ ReadsItems fuel ∧ ReadsMembers fuel := by
  induction fuel with
  | zero =>
    refine ⟨fun value rest hwell hfuel _ => ?_, fun _ _ _ _ h => absurd h (Nat.not_lt_zero _),
      fun _ _ _ _ h => absurd h (Nat.not_lt_zero _)⟩
    obtain ⟨c, text, htext, -⟩ := head_write hwell
    rw [htext, List.length_cons] at hfuel
    omega
  | succ fuel ih =>
    obtain ⟨hvalues, hitems, hmembers⟩ := ih
    exact ⟨readsValues_succ hitems hmembers, readsItems_succ hvalues hitems,
      readsMembers_succ hvalues hmembers⟩

/-- **The round trip**: a value is read from its text. -/
theorem loads_write {value : Json} (h : value.WellFormed) : loads (write value) = some value := by
  have hread := (reads _).1 value [] h (Nat.le_refl _) (fun c hc => by simp at hc)
  rw [List.append_nil] at hread
  rw [loads, hread]
  rfl

/-! ## Sorted keys -/

/-- Items are sorted inside one by one. -/
lemma canonicalItems_eq_map (items : List Json) : canonicalItems items = items.map canonical := by
  induction items with
  | nil => rfl
  | cons item items ih => rw [canonicalItems, ih, List.map_cons]

/-- Members are sorted inside one by one. -/
lemma canonicalMembers_eq_map (members : List (String × Json)) :
    canonicalMembers members = members.map fun member => (member.1, canonical member.2) := by
  induction members with
  | nil => rfl
  | cons member members ih => rw [canonicalMembers, ih, List.map_cons]

/-- That keeps the keys. -/
lemma keys_canonicalMembers (members : List (String × Json)) :
    (canonicalMembers members).map Prod.fst = members.map Prod.fst := by
  rw [canonicalMembers_eq_map, List.map_map]
  rfl

/-- The members of a value with sorted keys. -/
lemma mem_canonical {members : List (String × Json)} {member : String × Json} :
    member ∈ sortedBy Prod.fst (canonicalMembers members) ↔
      ∃ m ∈ members, (m.1, canonical m.2) = member := by
  rw [mem_sortedBy, canonicalMembers_eq_map, List.mem_map]

/-- A well-formed value stays so when its keys are sorted. -/
lemma WellFormed.canonical {value : Json} (h : value.WellFormed) : value.canonical.WellFormed := by
  induction h with
  | null => exact .null
  | bool b => exact .bool b
  | int n => exact .int n
  | float h => exact .float h
  | str s => exact .str s
  | @arr items h ih =>
    rw [Json.canonical, canonicalItems_eq_map]
    refine .arr fun item hitem => ?_
    obtain ⟨i, hi, rfl⟩ := List.mem_map.mp hitem
    exact ih i hi
  | @obj members hkeys h ih =>
    rw [Json.canonical]
    refine .obj ?_ fun member hmember => ?_
    · rw [((sortedBy_perm Prod.fst _).map Prod.fst).nodup_iff, keys_canonicalMembers]
      exact hkeys
    · obtain ⟨m, hm, rfl⟩ := mem_canonical.mp hmember
      exact ih m hm

/-- Sorting the keys again changes nothing. -/
lemma canonical_canonical {value : Json} (h : value.WellFormed) :
    value.canonical.canonical = value.canonical := by
  induction h with
  | null => rfl
  | bool b => rfl
  | int n => rfl
  | float h => rfl
  | str s => rfl
  | @arr items h ih =>
    simp only [Json.canonical, canonicalItems_eq_map, List.map_map]
    congr 1
    exact List.map_congr_left ih
  | @obj members hkeys h ih =>
    have hsame : canonicalMembers (sortedBy Prod.fst (canonicalMembers members)) =
        sortedBy Prod.fst (canonicalMembers members) := by
      rw [canonicalMembers_eq_map (sortedBy _ _)]
      refine (List.map_congr_left fun member hmember => ?_).trans (List.map_id _)
      obtain ⟨m, hm, rfl⟩ := mem_canonical.mp hmember
      rw [ih m hm]
      rfl
    rw [Json.canonical, Json.canonical, hsame, sortedBy_eq_self _ (pairwise_sortedBy _ _)]

/-- With different keys, what is found at a key is the member with it. -/
lemma lookup_eq_some {members : List (String × Json)} (hkeys : (members.map Prod.fst).Nodup)
    {key : String} {value : Json} : members.lookup key = some value ↔ (key, value) ∈ members := by
  induction members with
  | nil => simp
  | cons member members ih =>
    obtain ⟨k, v⟩ := member
    rw [List.map_cons, List.nodup_cons] at hkeys
    by_cases hkey : key = k
    · subst hkey
      have hnot : (key, value) ∉ members := fun hin =>
        hkeys.1 (List.mem_map.mpr ⟨(key, value), hin, rfl⟩)
      simp [hnot, eq_comm]
    · have hbeq : (key == k) = false := by simpa using hkey
      simp [List.lookup_cons, hbeq, ih hkeys.2, hkey]

/-- The keys of a well-formed object differ. -/
lemma keys_nodup {members : List (String × Json)} (h : (obj members).WellFormed) :
    (members.map Prod.fst).Nodup := by
  cases h with
  | obj hkeys _ => exact hkeys

/-- Sorting the keys keeps what is at each key. -/
lemma lookup_canonical {members : List (String × Json)} (hkeys : (members.map Prod.fst).Nodup)
    (key : String) : (sortedBy Prod.fst (canonicalMembers members)).lookup key =
      (members.lookup key).map canonical := by
  have hsorted : ((sortedBy Prod.fst (canonicalMembers members)).map Prod.fst).Nodup := by
    rw [((sortedBy_perm Prod.fst _).map Prod.fst).nodup_iff, keys_canonicalMembers]
    exact hkeys
  ext value
  rw [lookup_eq_some hsorted, mem_canonical, Option.map_eq_some_iff]
  constructor
  · rintro ⟨⟨k, v⟩, hm, heq⟩
    obtain ⟨rfl, rfl⟩ := Prod.mk.inj heq
    exact ⟨v, (lookup_eq_some hkeys).mpr hm, rfl⟩
  · rintro ⟨v, hlookup, rfl⟩
    exact ⟨(key, v), (lookup_eq_some hkeys).mp hlookup, rfl⟩

/-! ## Floats -/

/-- What `float` and then `float.__repr__` do to the text of a float: the result is the text of a
float, and is left as it is. -/
structure RewritesFloats (f : List Char → List Char) : Prop where
  isFloat : ∀ {text}, IsFloat text → IsFloat (f text)
  idempotent : ∀ {text}, IsFloat text → f (f text) = f text

section Floats

variable {f : List Char → List Char} {value : Json}

/-- The texts of items are replaced one by one. -/
lemma mapFloatsItems_eq_map (f : List Char → List Char) (items : List Json) :
    mapFloatsItems f items = items.map (mapFloats f) := by
  induction items with
  | nil => rfl
  | cons item items ih => rw [mapFloatsItems, ih, List.map_cons]

/-- The texts of members are replaced one by one. -/
lemma mapFloatsMembers_eq_map (f : List Char → List Char) (members : List (String × Json)) :
    mapFloatsMembers f members = members.map fun member => (member.1, mapFloats f member.2) := by
  induction members with
  | nil => rfl
  | cons member members ih => rw [mapFloatsMembers, ih, List.map_cons]

/-- That keeps the keys. -/
lemma keys_mapFloatsMembers (f : List Char → List Char) (members : List (String × Json)) :
    (mapFloatsMembers f members).map Prod.fst = members.map Prod.fst := by
  rw [mapFloatsMembers_eq_map, List.map_map]
  rfl

/-- A well-formed value stays so. -/
lemma WellFormed.mapFloats (hf : RewritesFloats f) (h : value.WellFormed) :
    (value.mapFloats f).WellFormed := by
  induction h with
  | null => exact .null
  | bool b => exact .bool b
  | int n => exact .int n
  | float h => exact .float (hf.isFloat h)
  | str s => exact .str s
  | @arr items h ih =>
    rw [Json.mapFloats, mapFloatsItems_eq_map]
    exact .arr (List.forall_mem_map.mpr ih)
  | @obj members hkeys h ih =>
    rw [Json.mapFloats]
    refine .obj ?_ ?_
    · rwa [keys_mapFloatsMembers]
    · rw [mapFloatsMembers_eq_map]
      exact List.forall_mem_map.mpr ih

/-- Replacing the texts again changes nothing. -/
lemma mapFloats_mapFloats (hf : RewritesFloats f) (h : value.WellFormed) :
    (value.mapFloats f).mapFloats f = value.mapFloats f := by
  induction h with
  | null => rfl
  | bool b => rfl
  | int n => rfl
  | float h => exact congrArg Json.float (hf.idempotent h)
  | str s => rfl
  | @arr items h ih =>
    simp only [Json.mapFloats, mapFloatsItems_eq_map, List.map_map]
    exact congrArg Json.arr (List.map_congr_left ih)
  | @obj members hkeys h ih =>
    simp only [Json.mapFloats, mapFloatsMembers_eq_map, List.map_map]
    refine congrArg Json.obj (List.map_congr_left fun member hmember => ?_)
    exact congrArg (Prod.mk member.1) (ih member hmember)

/-- Sorting the keys and replacing the texts of floats do not interfere. -/
lemma canonical_mapFloats (h : value.WellFormed) :
    (value.mapFloats f).canonical = value.canonical.mapFloats f := by
  induction h with
  | null => rfl
  | bool b => rfl
  | int n => rfl
  | float h => rfl
  | str s => rfl
  | @arr items h ih =>
    simp only [Json.mapFloats, Json.canonical, mapFloatsItems_eq_map, canonicalItems_eq_map,
      List.map_map]
    exact congrArg Json.arr (List.map_congr_left ih)
  | @obj members hkeys h ih =>
    have hmembers : canonicalMembers (mapFloatsMembers f members) =
        mapFloatsMembers f (canonicalMembers members) := by
      simp only [mapFloatsMembers_eq_map, canonicalMembers_eq_map, List.map_map]
      exact List.map_congr_left fun member hmember =>
        congrArg (Prod.mk member.1) (ih member hmember)
    simp only [Json.mapFloats, Json.canonical, hmembers]
    rw [mapFloatsMembers_eq_map, mapFloatsMembers_eq_map]
    exact congrArg Json.obj (sortedBy_map _ _ fun _ => rfl)

end Floats

/-- **The round trip** with sorted keys. -/
theorem loads_dumps {value : Json} (h : value.WellFormed) :
    loads (dumps value) = some value.canonical := loads_write h.canonical

/-- **The text determines the value**, up to the order of keys. -/
theorem dumps_eq_iff {value other : Json} (h : value.WellFormed) (hother : other.WellFormed) :
    dumps value = dumps other ↔ value.canonical = other.canonical := by
  constructor
  · intro heq
    have hloads := loads_dumps h
    rw [heq, loads_dumps hother] at hloads
    exact (Option.some.inj hloads).symm
  · intro heq
    rw [dumps, dumps, heq]

/-! ## What is accepted -/

/-- The keys after one is set. -/
lemma keys_setItem (members : List (String × Json)) (member : String × Json) :
    (setItem members member).map Prod.fst =
      if member.1 ∈ members.map Prod.fst then members.map Prod.fst
      else members.map Prod.fst ++ [member.1] := by
  unfold setItem
  split_ifs with hin
  · rw [List.map_map]
    refine List.map_congr_left fun other _ => ?_
    by_cases hkey : other.1 = member.1
    · simp [hkey]
    · simp [hkey]
  · simp

/-- The members after one is set. -/
lemma mem_setItem {members : List (String × Json)} {member m : String × Json}
    (h : m ∈ setItem members member) : m ∈ members ∨ m = member := by
  unfold setItem at h
  split_ifs at h
  · obtain ⟨other, hother, rfl⟩ := List.mem_map.mp h
    by_cases hkey : other.1 = member.1
    · exact .inr (if_pos hkey)
    · exact .inl (by rwa [if_neg hkey])
  · simpa using h

/-- Setting keys one after another keeps them different and adds nothing else. -/
lemma foldl_setItem_spec {members pairs : List (String × Json)}
    (hkeys : (members.map Prod.fst).Nodup) :
    ((pairs.foldl setItem members).map Prod.fst).Nodup ∧
      ∀ m ∈ pairs.foldl setItem members, m ∈ members ∨ m ∈ pairs := by
  induction pairs generalizing members with
  | nil => exact ⟨hkeys, fun m hm => .inl hm⟩
  | cons pair pairs ih =>
    have hset : ((setItem members pair).map Prod.fst).Nodup := by
      rw [keys_setItem]
      split_ifs with hin
      · exact hkeys
      · simpa using hkeys.concat hin
    obtain ⟨hnodup, hmem⟩ := ih hset
    refine ⟨hnodup, fun m hm => ?_⟩
    rcases hmem m hm with hin | hin
    · rcases mem_setItem hin with hin | rfl
      · exact .inl hin
      · exact .inr List.mem_cons_self
    · exact .inr (List.mem_cons_of_mem _ hin)

/-- The members of a dictionary are among the pairs, and their keys differ. -/
lemma dictOf_spec (pairs : List (String × Json)) :
    ((dictOf pairs).map Prod.fst).Nodup ∧ ∀ m ∈ dictOf pairs, m ∈ pairs := by
  obtain ⟨hnodup, hmem⟩ : ((dictOf pairs).map Prod.fst).Nodup ∧
      ∀ m ∈ dictOf pairs, m ∈ [] ∨ m ∈ pairs := foldl_setItem_spec List.nodup_nil
  exact ⟨hnodup, fun m hm => (hmem m hm).resolve_left List.not_mem_nil⟩

/-- A constant is well formed. -/
lemma wellFormed_scanWord {value : Json} (h : scanWord text = some (value, rest)) :
    value.WellFormed := by
  obtain ⟨word, hword, h⟩ := List.exists_of_findSome?_eq_some h
  split_ifs at h
  obtain ⟨rfl, -⟩ := Prod.mk.inj (Option.some.inj h)
  simp only [words, List.mem_cons, List.not_mem_nil, or_false] at hword
  rcases hword with rfl | rfl | rfl | rfl | rfl | rfl
  · exact .null
  · exact .bool true
  · exact .bool false
  all_goals exact .float (.inl (by simp))

/-- So is a number. -/
lemma wellFormed_scanNumber {value : Json} (h : scanNumber text = some (value, rest)) :
    value.WellFormed := by
  dsimp only [scanNumber] at h
  split_ifs at h with hint hfloat
  · obtain ⟨rfl, -⟩ := Prod.mk.inj (Option.some.inj h)
    exact .int _
  · obtain ⟨rfl, -⟩ := Prod.mk.inj (Option.some.inj h)
    refine .float (.inr ⟨fun c hc => List.mem_takeWhile_imp hc, ?_, hfloat⟩)
    simpa using hint

/-- **What is read** with a bound on the steps is well formed.

**Proof sketch.** By induction on the bound, for values, items and members at once, along the cases
of the reader. An object has distinct keys because `dictOf` keeps one member of each. -/
lemma wellFormed_scan (fuel : ℕ) :
    (∀ text value rest, scanValue fuel text = some (value, rest) → value.WellFormed) ∧
      (∀ text items rest, scanItems fuel text = some (items, rest) →
        ∀ item ∈ items, item.WellFormed) ∧
      ∀ text members rest, scanMembers fuel text = some (members, rest) →
        ∀ member ∈ members, member.2.WellFormed := by
  induction fuel with
  | zero =>
    refine ⟨fun _ _ _ h => ?_, fun _ _ _ h => ?_, fun _ _ _ h => ?_⟩
    all_goals cases h
  | succ fuel ih =>
    obtain ⟨hvalues, hitems, hmembers⟩ := ih
    refine ⟨fun text value rest h => ?_, fun text items rest h => ?_, fun text members rest h => ?_⟩
    · rw [scanValue] at h
      split at h
      · obtain ⟨p, -, hp⟩ := Option.map_eq_some_iff.mp h
        obtain ⟨rfl, -⟩ := Prod.mk.inj hp
        exact .str _
      · split at h
        · obtain ⟨rfl, -⟩ := Prod.mk.inj (Option.some.inj h)
          exact .arr (by simp)
        · obtain ⟨p, hscan, hp⟩ := Option.map_eq_some_iff.mp h
          obtain ⟨rfl, -⟩ := Prod.mk.inj hp
          exact .arr (hitems _ _ _ hscan)
      · split at h
        · obtain ⟨rfl, -⟩ := Prod.mk.inj (Option.some.inj h)
          exact .obj List.nodup_nil (by simp)
        · obtain ⟨p, hscan, hp⟩ := Option.map_eq_some_iff.mp h
          obtain ⟨rfl, -⟩ := Prod.mk.inj hp
          obtain ⟨hkeys, hmem⟩ := dictOf_spec p.1
          exact .obj hkeys fun m hm => hmembers _ _ _ hscan m (hmem m hm)
      · rcases Option.or_eq_some_iff.mp h with hword | ⟨-, hnumber⟩
        · exact wellFormed_scanWord hword
        · exact wellFormed_scanNumber hnumber
    · obtain ⟨⟨item, after⟩, hitem, h⟩ := Option.bind_eq_some_iff.mp h
      have hwell := hvalues _ _ _ hitem
      dsimp only at h
      split at h
      · obtain ⟨p, hscan, hp⟩ := Option.map_eq_some_iff.mp h
        obtain ⟨rfl, -⟩ := Prod.mk.inj hp
        exact List.forall_mem_cons.mpr ⟨hwell, hitems _ _ _ hscan⟩
      · obtain ⟨rfl, -⟩ := Prod.mk.inj (Option.some.inj h)
        exact List.forall_mem_singleton.mpr hwell
      · cases h
    · rw [scanMembers] at h
      split at h
      · obtain ⟨⟨key, after⟩, -, h⟩ := Option.bind_eq_some_iff.mp h
        dsimp only at h
        split at h
        · obtain ⟨⟨value, after⟩, hvalue, h⟩ := Option.bind_eq_some_iff.mp h
          have hwell := hvalues _ _ _ hvalue
          dsimp only at h
          split at h
          · obtain ⟨p, hscan, hp⟩ := Option.map_eq_some_iff.mp h
            obtain ⟨rfl, -⟩ := Prod.mk.inj hp
            exact List.forall_mem_cons.mpr ⟨hwell, hmembers _ _ _ hscan⟩
          · obtain ⟨rfl, -⟩ := Prod.mk.inj (Option.some.inj h)
            exact List.forall_mem_singleton.mpr hwell
          · cases h
        · cases h
      · cases h

/-- **What is accepted is well formed.** -/
theorem wellFormed_loads {value : Json} (h : loads text = some value) : value.WellFormed := by
  obtain ⟨⟨found, rest⟩, hscan, h⟩ := Option.bind_eq_some_iff.mp h
  dsimp only at h
  split_ifs at h
  obtain rfl := Option.some.inj h
  exact (wellFormed_scan _).1 _ _ _ hscan

/-! ## Printable texts -/

/-- The characters of numbers are printable. -/
lemma printable_isNumberChar (h : isNumberChar c = true) : Printable c := by
  simp only [isNumberChar, Char.isDigit, Bool.or_eq_true, Bool.and_eq_true, decide_eq_true_eq] at h
  rcases h with ⟨hle, hge⟩ | hin
  · have hle : 48 ≤ c.toNat := hle
    have hge : c.toNat ≤ 57 := hge
    exact ⟨by omega, by omega⟩
  · simp only [List.mem_cons, List.not_mem_nil, or_false] at hin
    rcases hin with rfl | rfl | rfl | rfl | rfl
    all_goals exact ⟨by decide, by decide⟩

/-- The text of a string is printable. -/
lemma printable_writeString (s : String) : ∀ c ∈ writeString s, Printable c := by
  have hquote : Printable '\"' := by decide
  intro c hc
  simp only [writeString, List.mem_cons, List.mem_append, List.not_mem_nil, or_false] at hc
  rcases hc with rfl | hc | rfl
  · exact hquote
  · obtain ⟨c', -, hc⟩ := List.mem_flatMap.mp hc
    exact printable_escapeChar c' c hc
  · exact hquote

/-- Printable texts are joined to one. -/
lemma printable_join {texts : List (List Char)} (h : ∀ text ∈ texts, ∀ c ∈ text, Printable c) :
    ∀ c ∈ join texts, Printable c := by
  induction texts with
  | nil => simp [join]
  | cons text texts ih =>
    have hrest := ih fun t ht => h t (List.mem_cons_of_mem _ ht)
    have htext := h text List.mem_cons_self
    cases texts with
    | nil => exact htext
    | cons next texts =>
      intro c hc
      rw [join, List.mem_append, List.mem_cons] at hc
      · rcases hc with hc | rfl | hc
        · exact htext c hc
        · decide
        · exact hrest c hc
      · exact List.cons_ne_nil _ _

/-- Items are written one by one. -/
lemma writeItems_eq_map (items : List Json) : writeItems items = items.map write := by
  induction items with
  | nil => rfl
  | cons item items ih => rw [writeItems, ih, List.map_cons]

/-- Members are written one by one. -/
lemma writeMembers_eq_map (members : List (String × Json)) :
    writeMembers members = members.map fun m => writeString m.1 ++ ':' :: write m.2 := by
  induction members with
  | nil => rfl
  | cons member members ih => rw [writeMembers, ih, List.map_cons]

/-- A container's text is printable if the texts in it are. -/
lemma printable_enclosed {opening closing : Char} {texts : List (List Char)}
    (hopening : Printable opening) (hclosing : Printable closing)
    (h : ∀ text ∈ texts, ∀ c ∈ text, Printable c) :
    ∀ c ∈ opening :: (join texts ++ [closing]), Printable c := by
  intro c hc
  simp only [List.mem_cons, List.mem_append, List.not_mem_nil, or_false] at hc
  rcases hc with rfl | hc | rfl
  · exact hopening
  · exact printable_join h c hc
  · exact hclosing

/-- **A text is printable** ASCII: it has no line breaks.

**Proof sketch.** By induction on the value; the words are finitely many, and numbers and strings
are written in printable characters. -/
theorem printable_write {value : Json} (h : value.WellFormed) :
    ∀ c ∈ write value, Printable c := by
  have hall : (words.all fun word => word.1.all fun c => decide (Printable c)) = true := by decide
  have hwords : ∀ word ∈ words, ∀ c ∈ word.1, Printable c := fun word hword c hc =>
    of_decide_eq_true (List.all_eq_true.mp (List.all_eq_true.mp hall word hword) c hc)
  induction h with
  | null => exact hwords ("null".toList, .null) (by simp [words])
  | bool b =>
    cases b with
    | true => exact hwords ("true".toList, .bool true) (by simp [words])
    | false => exact hwords ("false".toList, .bool false) (by simp [words])
  | int n => exact fun c hc => printable_isNumberChar ((intValue_writeInt n).2.2 c hc)
  | @float text h =>
    rcases h with hin | ⟨hchars, -⟩
    · exact hwords (text, .float text) (by simpa [words] using hin)
    · exact fun c hc => printable_isNumberChar (hchars c hc)
  | str s => exact printable_writeString s
  | @arr items h ih =>
    rw [write, writeItems_eq_map]
    exact printable_enclosed (by decide) (by decide) (List.forall_mem_map.mpr ih)
  | @obj members hkeys h ih =>
    rw [write, writeMembers_eq_map]
    refine printable_enclosed (by decide) (by decide) (List.forall_mem_map.mpr fun m hm c hc => ?_)
    rw [List.mem_append, List.mem_cons] at hc
    rcases hc with hc | rfl | hc
    · exact printable_writeString m.1 c hc
    · decide
    · exact ih m hm c hc

end RoundTrip

end Json
