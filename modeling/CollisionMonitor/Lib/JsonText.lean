import Mathlib.Data.Nat.Digits.Lemmas
import Mathlib.Tactic

set_option relaxedAutoImplicit false
set_option autoImplicit false

/-!
# Strings and numbers in JSON texts

How Python's `json` writes strings and integers, with every character that is not printable ASCII
escaped, and how it reads strings and numbers.

## Main definitions

* `JsonText.escapeChar`, `JsonText.scanString` — writing and reading strings.
* `JsonText.writeInt`, `JsonText.intValue` — writing and reading integers.
* `JsonText.isIntText`, `JsonText.isFloatText` — the texts that are read as numbers.

## Main results

* `JsonText.scanString_escape` — a string that was written is read back.
* `JsonText.intValue_writeInt` — an integer that was written is read back.
-/

namespace JsonText

/-! ## Strings -/

/-- The characters that are escaped by a letter, with their letters. -/
def shortEscapes : List (Char × Char) :=
  [('\"', '\"'), ('\\', '\\'), ('\n', 'n'), ('\r', 'r'), ('\t', 't'), (Char.ofNat 12, 'f'),
    (Char.ofNat 8, 'b')]

/-- A printable ASCII character, from the space to the tilde. -/
def Printable (c : Char) : Prop := 32 ≤ c.toNat ∧ c.toNat ≤ 126

/-- Whether a character is printable can be decided. -/
instance decidablePrintable : DecidablePred Printable := fun _ =>
  inferInstanceAs (Decidable (_ ∧ _))

/-- A hexadecimal digit in lower case. -/
def hexDigit (n : ℕ) : Char := "0123456789abcdef".toList.getD n '0'

/-- `"{0:04x}".format(n)`. -/
def hex4 (n : ℕ) : List Char :=
  [hexDigit (n / 4096 % 16), hexDigit (n / 256 % 16), hexDigit (n / 16 % 16), hexDigit (n % 16)]

/-- What is written for a character: itself if it is printable, a short escape, or its code; a
character beyond the basic plane is written as a surrogate pair. -/
def escapeChar (c : Char) : List Char :=
  match shortEscapes.lookup c with
  | some letter => ['\\', letter]
  | none =>
    if Printable c then [c]
    else if c.toNat < 0x10000 then '\\' :: 'u' :: hex4 c.toNat
    else '\\' :: 'u' :: hex4 (0xd800 + (c.toNat - 0x10000) / 1024) ++
      '\\' :: 'u' :: hex4 (0xdc00 + (c.toNat - 0x10000) % 1024)

/-- What is written between the quotes of a string. -/
def escape (s : List Char) : List Char := s.flatMap escapeChar

/-- The value of a hexadecimal digit. -/
def hexValue (c : Char) : Option ℕ :=
  if '0' ≤ c ∧ c ≤ '9' then some (c.toNat - 48)
  else if 'a' ≤ c ∧ c ≤ 'f' then some (c.toNat - 87)
  else if 'A' ≤ c ∧ c ≤ 'F' then some (c.toNat - 55)
  else none

/-- `_decode_uXXXX`. -/
def scanHex4 : List Char → Option (ℕ × List Char)
  | a :: b :: c :: d :: rest => do
    let a ← hexValue a
    let b ← hexValue b
    let c ← hexValue c
    let d ← hexValue d
    return (((a * 16 + b) * 16 + c) * 16 + d, rest)
  | _ => none

/-- The character with a code; a surrogate alone is none. -/
def charOf (n : ℕ) : Option Char := if n.isValidChar then some (Char.ofNat n) else none

/-- The second half of a surrogate pair. -/
def scanLowSurrogate (high : ℕ) : List Char → Option (Char × List Char)
  | '\\' :: 'u' :: text => do
    let (low, rest) ← scanHex4 text
    guard (0xdc00 ≤ low ∧ low ≤ 0xdfff)
    let c ← charOf (0x10000 + (high - 0xd800) * 1024 + (low - 0xdc00))
    return (c, rest)
  | _ => none

/-- The character of an escape, after the backslash. -/
def scanEscape : List Char → Option (Char × List Char)
  | [] => none
  | letter :: text =>
    if letter = 'u' then do
      let (n, rest) ← scanHex4 text
      if 0xd800 ≤ n ∧ n ≤ 0xdbff then scanLowSurrogate n rest
      else (charOf n).map fun c => (c, rest)
    else if letter = '/' then some ('/', text)
    else (shortEscapes.find? fun e => e.2 = letter).map fun e => (e.1, text)

/-- `py_scanstring`, after the opening quote, with a bound on the number of characters. -/
def scanString : ℕ → List Char → Option (List Char × List Char)
  | 0, _ => none
  | _ + 1, [] => none
  | fuel + 1, c :: text =>
    if c = '\"' then some ([], text)
    else if c = '\\' then do
      let (c, rest) ← scanEscape text
      let (s, rest) ← scanString fuel rest
      return (c :: s, rest)
    -- control characters must be escaped
    else if c.toNat < 32 then none
    else do
      let (s, rest) ← scanString fuel text
      return (c :: s, rest)

section Strings

variable {c : Char} {s rest : List Char} {fuel n : ℕ}

/-- A letter that is found is the letter of a short escape. -/
lemma mem_of_lookup {letter : Char} (h : shortEscapes.lookup c = some letter) :
    (c, letter) ∈ shortEscapes := by
  obtain ⟨before, after, heq, -⟩ := List.lookup_eq_some_iff.mp h
  rw [heq]
  exact List.mem_append_right _ List.mem_cons_self

/-- A hexadecimal digit is read back. -/
lemma hexValue_hexDigit : ∀ d < 16, hexValue (hexDigit d) = some d := by decide

/-- It is printable. -/
lemma printable_hexDigit : ∀ d < 16, Printable (hexDigit d) := by decide

/-- Four hexadecimal digits are read back. -/
lemma scanHex4_hex4 (hn : n < 65536) (rest : List Char) :
    scanHex4 (hex4 n ++ rest) = some (n, rest) := by
  have hvalue : ((n / 4096 % 16 * 16 + n / 256 % 16) * 16 + n / 16 % 16) * 16 + n % 16 = n := by
    omega
  simp only [hex4, List.cons_append, List.nil_append, scanHex4]
  rw [hexValue_hexDigit _ (Nat.mod_lt _ (by omega)), hexValue_hexDigit _ (Nat.mod_lt _ (by omega)),
    hexValue_hexDigit _ (Nat.mod_lt _ (by omega)), hexValue_hexDigit _ (Nat.mod_lt _ (by omega))]
  simp [hvalue]

/-- A character is found under its code. -/
lemma charOf_toNat (c : Char) : charOf c.toNat = some c := by
  unfold charOf
  rw [if_pos (show c.toNat.isValidChar from c.valid), Char.ofNat_toNat]

/-- The codes of characters leave out the surrogates. -/
lemma toNat_bounds (c : Char) : c.toNat < 0xd800 ∨ 0xdfff < c.toNat ∧ c.toNat < 0x110000 := c.valid

/-- An escaped code is read back. -/
lemma scanEscape_code (hc : c.toNat < 0x10000) (rest : List Char) :
    scanEscape ('u' :: (hex4 c.toNat ++ rest)) = some (c, rest) := by
  have hnot : ¬ (0xd800 ≤ c.toNat ∧ c.toNat ≤ 0xdbff) := by
    have hbounds := toNat_bounds c
    omega
  simp [scanEscape, scanHex4_hex4 hc, hnot, charOf_toNat]

/-- An escaped surrogate pair is read back. -/
lemma scanEscape_pair {high low : ℕ} (hhigh : 0xd800 ≤ high ∧ high ≤ 0xdbff)
    (hlow : 0xdc00 ≤ low ∧ low ≤ 0xdfff)
    (hcode : 0x10000 + (high - 0xd800) * 1024 + (low - 0xdc00) = c.toNat) (rest : List Char) :
    scanEscape ('u' :: (hex4 high ++ '\\' :: 'u' :: (hex4 low ++ rest))) = some (c, rest) := by
  have hfirst := scanHex4_hex4 (n := high) (by omega) ('\\' :: 'u' :: (hex4 low ++ rest))
  have hsecond := scanHex4_hex4 (n := low) (by omega) rest
  simp [scanEscape, hfirst, hhigh, scanLowSurrogate, hsecond, hlow, hcode, charOf_toNat]

/-- **One character** that was written is read back.

**Proof sketch.** By the cases of the writer: a short escape, a printable character, one code unit,
or a pair of them. -/
lemma scanString_escapeChar (c : Char) (fuel : ℕ) (rest : List Char) :
    scanString (fuel + 1) (escapeChar c ++ rest) =
      (scanString fuel rest).map fun p => (c :: p.1, p.2) := by
  have hescape : ∀ text rest, scanEscape text = some (c, rest) →
      scanString (fuel + 1) ('\\' :: text) =
        (scanString fuel rest).map fun p => (c :: p.1, p.2) := by
    intro text rest h
    simp only [scanString, h, Option.bind_eq_bind, Option.bind_some]
    cases scanString fuel rest <;> rfl
  unfold escapeChar
  split
  · next letter hletter =>
    apply hescape
    have hmem := mem_of_lookup hletter
    simp only [shortEscapes, List.mem_cons, Prod.mk.injEq, List.not_mem_nil, or_false] at hmem
    rcases hmem with ⟨rfl, rfl⟩ | ⟨rfl, rfl⟩ | ⟨rfl, rfl⟩ | ⟨rfl, rfl⟩ | ⟨rfl, rfl⟩ | ⟨rfl, rfl⟩ |
      ⟨rfl, rfl⟩
    all_goals rfl
  · next hnone =>
    split_ifs with hprintable hplane
    · have hquote : c ≠ '\"' := by
        rintro rfl
        exact absurd hnone (by decide)
      have hbackslash : c ≠ '\\' := by
        rintro rfl
        exact absurd hnone (by decide)
      simp only [List.cons_append, List.nil_append, scanString, if_neg hquote, if_neg hbackslash,
        if_neg hprintable.1.not_gt, Option.bind_eq_bind]
      cases scanString fuel rest <;> rfl
    · exact hescape _ _ (scanEscape_code hplane rest)
    · have hbounds := toNat_bounds c
      have hlow : (c.toNat - 0x10000) % 1024 < 1024 := Nat.mod_lt _ (by omega)
      rw [List.append_assoc]
      apply hescape
      apply scanEscape_pair <;> omega

/-- **A string** that was written is read back, up to its closing quote. -/
theorem scanString_escape (hfuel : s.length < fuel) (rest : List Char) :
    scanString fuel (escape s ++ '\"' :: rest) = some (s, rest) := by
  induction s generalizing fuel with
  | nil =>
    obtain ⟨fuel, rfl⟩ := Nat.exists_eq_add_one_of_ne_zero (Nat.ne_of_gt hfuel)
    rfl
  | cons c s ih =>
    obtain ⟨fuel, rfl⟩ := Nat.exists_eq_add_one_of_ne_zero (Nat.ne_zero_of_lt hfuel)
    rw [escape, List.flatMap_cons, List.append_assoc, scanString_escapeChar,
      show s.flatMap escapeChar = escape s from rfl, ih (by simpa using hfuel)]
    rfl

/-- Every character writes at least one. -/
lemma length_le_escape (s : List Char) : s.length ≤ (escape s).length := by
  induction s with
  | nil => exact Nat.le_refl 0
  | cons c s ih =>
    have hc : 1 ≤ (escapeChar c).length := by
      unfold escapeChar
      split
      · simp
      · split_ifs <;> simp
    rw [escape, List.flatMap_cons, List.length_append, List.length_cons,
      show s.flatMap escapeChar = escape s from rfl]
    omega

/-- Four hexadecimal digits are printable. -/
lemma printable_hex4 (n : ℕ) : ∀ c ∈ hex4 n, Printable c := by
  intro c hc
  simp only [hex4, List.mem_cons, List.not_mem_nil, or_false] at hc
  rcases hc with rfl | rfl | rfl | rfl
  all_goals exact printable_hexDigit _ (Nat.mod_lt _ (by omega))

/-- Everything that is written is printable. -/
lemma printable_escapeChar (c : Char) : ∀ c' ∈ escapeChar c, Printable c' := by
  have hcode : ∀ n, ∀ c' ∈ '\\' :: 'u' :: hex4 n, Printable c' := by
    intro n c' hc'
    rcases List.mem_cons.mp hc' with rfl | hc'
    · exact ⟨by decide, by decide⟩
    rcases List.mem_cons.mp hc' with rfl | hc'
    · exact ⟨by decide, by decide⟩
    · exact printable_hex4 n c' hc'
  unfold escapeChar
  split
  · next letter hletter =>
    have hall : ∀ e ∈ shortEscapes, Printable '\\' ∧ Printable e.2 := by decide
    obtain ⟨hbackslash, hprintable⟩ := hall _ (mem_of_lookup hletter)
    intro c' hc'
    rcases List.mem_cons.mp hc' with rfl | hc'
    · exact hbackslash
    · rw [List.mem_singleton.mp hc']
      exact hprintable
  · split_ifs with hprintable hplane
    · intro c' hc'
      rw [List.mem_singleton.mp hc']
      exact hprintable
    · exact hcode _
    · intro c' hc'
      rcases List.mem_append.mp hc' with hc' | hc'
      · exact hcode _ c' hc'
      · exact hcode _ c' hc'

end Strings

/-! ## Numbers -/

/-- The digits of a number. -/
def natDigits (n : ℕ) : List Char :=
  if n = 0 then ['0'] else (Nat.digits 10 n).reverse.map fun d => Char.ofNat (48 + d)

/-- `int.__repr__`. -/
def writeInt : ℤ → List Char
  | .ofNat n => natDigits n
  | .negSucc n => '-' :: natDigits (n + 1)

/-- The value of a text of digits. -/
def natValue (digits : List Char) : ℕ := digits.foldl (fun n c => n * 10 + (c.toNat - 48)) 0

/-- A character of a number. -/
def isNumberChar (c : Char) : Bool := c.isDigit || c ∈ ['-', '+', '.', 'e', 'E']

/-- Digits without a leading zero. -/
def isNatText : List Char → Bool
  | [] => false
  | c :: digits => c.isDigit && digits.all Char.isDigit && (c != '0' || digits.isEmpty)

/-- A text without its sign. -/
def unsigned : List Char → List Char
  | '-' :: text => text
  | text => text

/-- The value of a text of digits with an optional sign. -/
def intValue (text : List Char) : ℤ :=
  if text.head? = some '-' then -natValue (unsigned text) else natValue (unsigned text)

/-- The texts that are read as integers. -/
def isIntText (text : List Char) : Bool := isNatText (unsigned text)

/-- The fraction of a number, if there is one. -/
def isFraction : List Char → Bool
  | [] => true
  | c :: digits => c == '.' && !digits.isEmpty && digits.all Char.isDigit

/-- The exponent of a number, if there is one. -/
def isExponent : List Char → Bool
  | [] => true
  | _ :: '+' :: digits => !digits.isEmpty && digits.all Char.isDigit
  | _ :: '-' :: digits => !digits.isEmpty && digits.all Char.isDigit
  | _ :: digits => !digits.isEmpty && digits.all Char.isDigit

/-- The texts that are read as floats. -/
def isFloatText (text : List Char) : Bool :=
  let rest := (unsigned text).dropWhile Char.isDigit
  isNatText ((unsigned text).takeWhile Char.isDigit) && !rest.isEmpty &&
    isFraction (rest.takeWhile fun c => c ∉ ['e', 'E']) &&
      isExponent (rest.dropWhile fun c => c ∉ ['e', 'E'])

section Numbers

variable {c : Char} {n : ℕ}

/-- The ten digits, their values, and which of them is zero. -/
lemma digitChar_spec : ∀ d < 10, (Char.ofNat (48 + d)).isDigit = true ∧
    (Char.ofNat (48 + d)).toNat - 48 = d ∧ (d ≠ 0 → Char.ofNat (48 + d) ≠ '0') := by decide

/-- A number is written with digits. -/
lemma isDigit_of_mem_natDigits (hc : c ∈ natDigits n) : c.isDigit = true := by
  unfold natDigits at hc
  split_ifs at hc
  · rw [List.mem_singleton.mp hc]
    rfl
  · obtain ⟨d, hd, rfl⟩ := List.mem_map.mp hc
    exact (digitChar_spec d (Nat.digits_lt_base (by omega) (List.mem_reverse.mp hd))).1

/-- It has no leading zero. -/
lemma isNatText_natDigits (n : ℕ) : isNatText (natDigits n) = true := by
  have hall : ∀ c ∈ natDigits n, c.isDigit = true := fun c => isDigit_of_mem_natDigits
  unfold natDigits at hall ⊢
  split_ifs at hall ⊢ with hn
  · rfl
  · have hne : Nat.digits 10 n ≠ [] := Nat.digits_ne_nil_iff_ne_zero.mpr hn
    have hlast := Nat.getLast_digit_ne_zero 10 hn
    have hlt : (Nat.digits 10 n).getLast hne < 10 :=
      Nat.digits_lt_base (by omega) (List.getLast_mem hne)
    have hzero := (digitChar_spec _ hlt).2.2 hlast
    rw [← List.dropLast_append_getLast hne, List.reverse_append, List.map_append] at hall ⊢
    simp only [List.reverse_singleton, List.map_cons, List.map_nil, List.cons_append,
      List.nil_append, List.forall_mem_cons, isNatText] at hall ⊢
    rw [hall.1, List.all_eq_true.mpr hall.2, bne_iff_ne.mpr hzero]
    rfl

/-- It is read back. -/
lemma natValue_natDigits (n : ℕ) : natValue (natDigits n) = n := by
  have hvalue : ∀ l : List ℕ, (∀ d ∈ l, d < 10) →
      natValue (l.reverse.map fun d => Char.ofNat (48 + d)) = Nat.ofDigits 10 l := by
    intro l hl
    induction l with
    | nil => rfl
    | cons d l ih =>
      have hd := (digitChar_spec d (hl d List.mem_cons_self)).2.1
      have hrest := ih fun d hd => hl d (List.mem_cons_of_mem _ hd)
      simp only [natValue, List.reverse_cons, List.map_append, List.foldl_append, List.map_cons,
        List.map_nil, List.foldl_cons, List.foldl_nil, Nat.ofDigits_cons] at hrest ⊢
      rw [hrest, hd]
      omega
  unfold natDigits
  split_ifs with hn
  · rw [hn]
    rfl
  · rw [hvalue _ fun d hd => Nat.digits_lt_base (by omega) hd, Nat.ofDigits_digits]

/-- A text of digits has no sign. -/
lemma unsigned_natDigits (n : ℕ) :
    unsigned (natDigits n) = natDigits n ∧ (natDigits n).head? ≠ some '-' := by
  have hsign : '-' ∉ natDigits n := fun hin => absurd (isDigit_of_mem_natDigits hin) (by decide)
  cases htext : natDigits n with
  | nil => exact ⟨rfl, by simp⟩
  | cons c digits =>
    rw [htext] at hsign
    have hne : c ≠ '-' := fun heq => hsign (heq ▸ List.mem_cons_self)
    exact ⟨by simp [unsigned, hne], by simpa using hne⟩

/-- **An integer** that was written is read as an integer, with its value. -/
theorem intValue_writeInt (n : ℤ) :
    isIntText (writeInt n) = true ∧ intValue (writeInt n) = n ∧
      ∀ c ∈ writeInt n, isNumberChar c = true := by
  have hdigits : ∀ n, ∀ c ∈ natDigits n, isNumberChar c = true := fun n c hc => by
    simp [isNumberChar, isDigit_of_mem_natDigits hc]
  cases n with
  | ofNat n =>
    refine ⟨?_, ?_, hdigits n⟩
    · rw [writeInt, isIntText, (unsigned_natDigits n).1]
      exact isNatText_natDigits n
    · rw [writeInt, intValue, if_neg (unsigned_natDigits n).2, (unsigned_natDigits n).1,
        natValue_natDigits]
      rfl
  | negSucc n =>
    refine ⟨isNatText_natDigits (n + 1), ?_, ?_⟩
    · change -(natValue (natDigits (n + 1)) : ℤ) = _
      rw [natValue_natDigits]
      rfl
    · intro c hc
      rcases List.mem_cons.mp hc with rfl | hc
      · rfl
      · exact hdigits _ c hc

end Numbers

end JsonText
