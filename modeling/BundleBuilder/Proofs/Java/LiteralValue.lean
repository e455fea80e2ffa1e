import BundleBuilder.Java.Literal
import Mathlib.Algebra.Group.Nat.Even
import Mathlib.Data.List.Induction

/-!
# What string literals stand for

A compiler reads a string literal in two phases. The first one translates Unicode escapes: a backslash
begins one if an even number of backslashes stands directly before it and the letter `u` behind it.
The second one takes off the quotation marks and replaces escape sequences such as `\n`. What results
is a sequence of UTF-16 code units.

The literal of a text stands for the code units of that text, is written on one line and has no
unescaped quotation mark between its ends (`stringLiteral_value`). Hence different texts have different
literals. The reader here knows all escapes of the language, not only those that are written.

Characters are written independently of each other, so it is enough to look at one of them in front of
any rest: both phases pass over what is written for it and leave its code units in front of what the
rest stands for (`Denotes`), and it ends outside an escape sequence (`IsBalanced`).
-/

set_option autoImplicit false

namespace BundleBuilder.Java

/-! ## Code units -/

/-- A UTF-16 code unit, by its number. -/
abbrev CodeUnit := Nat

/-- The code units of a character: one in the basic plane, a pair of surrogates above it. -/
def utf16 (c : Char) : List CodeUnit :=
  if c.toNat < 0x10000 then [c.toNat]
  else [0xD800 + (c.toNat - 0x10000) / 0x400, 0xDC00 + (c.toNat - 0x10000) % 0x400]

/-- The code units of a text. -/
def codeUnits (text : String) : List CodeUnit := text.toList.flatMap utf16

theorem utf16_of_lt {c : Char} (h : c.toNat < 0x10000) : utf16 c = [c.toNat] := if_pos h

theorem utf16_of_not_lt {c : Char} (h : ¬ c.toNat < 0x10000) :
    utf16 c = [0xD800 + (c.toNat - 0x10000) / 0x400, 0xDC00 + (c.toNat - 0x10000) % 0x400] :=
  if_neg h

/-- A character is no surrogate and at most U+10FFFF. -/
theorem toNat_range (c : Char) :
    c.toNat < 0xD800 ∨ 0xDFFF < c.toNat ∧ c.toNat < 0x110000 := c.valid

/-- The first characters of two texts with the same code units are the same. -/
theorem utf16_append_inj {c d : Char} {rest other : List CodeUnit}
    (h : utf16 c ++ rest = utf16 d ++ other) : c = d ∧ rest = other := by
  have hc := toNat_range c
  have hd := toNat_range d
  by_cases hlow : c.toNat < 0x10000
  · by_cases hother : d.toNat < 0x10000
    · rw [utf16_of_lt hlow, utf16_of_lt hother] at h
      obtain ⟨hsame, hrest⟩ := List.cons.inj h
      exact ⟨Char.toNat_inj.1 hsame, hrest⟩
    · rw [utf16_of_lt hlow, utf16_of_not_lt hother] at h
      have hhead : c.toNat = 0xD800 + (d.toNat - 0x10000) / 0x400 := (List.cons.inj h).1
      omega
  · by_cases hother : d.toNat < 0x10000
    · rw [utf16_of_not_lt hlow, utf16_of_lt hother] at h
      have hhead : 0xD800 + (c.toNat - 0x10000) / 0x400 = d.toNat := (List.cons.inj h).1
      omega
    · rw [utf16_of_not_lt hlow, utf16_of_not_lt hother] at h
      obtain ⟨hleading, htail⟩ := List.cons.inj h
      obtain ⟨htrailing, hrest⟩ := List.cons.inj htail
      have hquotient : (c.toNat - 0x10000) / 0x400 = (d.toNat - 0x10000) / 0x400 :=
        Nat.add_left_cancel hleading
      have hremainder : (c.toNat - 0x10000) % 0x400 = (d.toNat - 0x10000) % 0x400 :=
        Nat.add_left_cancel htrailing
      refine ⟨Char.toNat_inj.1 ?_, hrest⟩
      omega

theorem utf16_ne_nil (c : Char) : utf16 c ≠ [] := by
  rw [utf16]
  split <;> simp

theorem codeUnits_inj {text other : String} : codeUnits text = codeUnits other ↔ text = other := by
  refine ⟨fun h => String.toList_inj.1 ?_, fun h => h ▸ rfl⟩
  rw [codeUnits, codeUnits] at h
  generalize text.toList = chars, other.toList = others at h ⊢
  induction chars generalizing others with
  | nil =>
    cases others with
    | nil => rfl
    | cons d others => simp [utf16_ne_nil] at h
  | cons c chars ih =>
    cases others with
    | nil => simp [utf16_ne_nil] at h
    | cons d others =>
      obtain ⟨rfl, hrest⟩ := utf16_append_inj h
      rw [ih _ hrest]

/-! ## The first phase: Unicode escapes -/

/-- The value of a hexadecimal digit. -/
def hexValue? (c : Char) : Option Nat :=
  if '0' ≤ c ∧ c ≤ '9' then some (c.toNat - 48)
  else if 'a' ≤ c ∧ c ≤ 'f' then some (c.toNat - 87)
  else if 'A' ≤ c ∧ c ≤ 'F' then some (c.toNat - 55)
  else none

/-- Reads the four digits of a Unicode escape. -/
def readUnit? : List Char → Option (CodeUnit × List Char)
  | a :: b :: c :: d :: rest =>
    match hexValue? a, hexValue? b, hexValue? c, hexValue? d with
    | some a, some b, some c, some d => some (((a * 16 + b) * 16 + c) * 16 + d, rest)
    | _, _, _, _ => none
  | _ => none

theorem length_lt_of_readUnit? {text rest : List Char} {unit : CodeUnit}
    (h : readUnit? text = some (unit, rest)) : rest.length < text.length := by
  unfold readUnit? at h
  split at h
  · split at h
    · obtain ⟨-, rfl⟩ := Prod.mk.inj (Option.some.inj h)
      simp only [List.length_cons]
      omega
    · cases h
  · cases h

/-- Translates the Unicode escapes of a text, where `even` says whether an even number of backslashes
stands directly before it. The letter `u` may be repeated; without four digits behind it there is an
error. -/
def translate (even : Bool) : List Char → Option (List CodeUnit)
  | [] => some []
  | c :: rest =>
    if c = '\\' then
      if even = true ∧ rest.head? = some 'u' then
        match _hread : readUnit? (rest.dropWhile (· == 'u')) with
        | none => none
        | some (unit, after) => (translate true after).map (unit :: ·)
      else (translate (!even) rest).map (c.toNat :: ·)
    else (translate true rest).map (utf16 c ++ ·)
termination_by text => text.length
decreasing_by
  · have hread := length_lt_of_readUnit? _hread
    have hdrop := (List.dropWhile_sublist (· == 'u') (l := rest)).length_le
    simp only [List.length_cons]
    omega
  · exact Nat.lt_succ_self _
  · exact Nat.lt_succ_self _

/-! ## The second phase: escape sequences -/

/-- The escape sequences of a backslash and one letter, with the characters that they stand for. -/
def letterEscapes : List (Char × Char) :=
  [('b', '\x08'), ('s', ' '), ('t', '\t'), ('n', '\n'), ('f', '\x0c'), ('r', '\r'), ('"', '"'),
    ('\x27', '\x27'), ('\\', '\\')]

/-- What a letter behind a backslash stands for. -/
def letterValue? (unit : CodeUnit) : Option CodeUnit :=
  (letterEscapes.find? fun entry => entry.1.toNat == unit).map (·.2.toNat)

/-- The value of an octal digit. -/
def octalValue? (unit : CodeUnit) : Option Nat :=
  if 48 ≤ unit ∧ unit ≤ 55 then some (unit - 48) else none

/-- Reads the further digits of an octal escape, at most as many as given. -/
def readOctal (value : Nat) : (most : Nat) → List CodeUnit → CodeUnit × List CodeUnit
  | most + 1, unit :: rest =>
    match octalValue? unit with
    | some digit => readOctal (8 * value + digit) most rest
    | none => (value, unit :: rest)
  | _, rest => (value, rest)

/-- Reads an escape sequence behind its backslash: a letter, or up to three octal digits of a number
below 256. -/
def readEscape? : List CodeUnit → Option (CodeUnit × List CodeUnit)
  | [] => none
  | unit :: rest =>
    match letterValue? unit, octalValue? unit with
    | some value, _ => some (value, rest)
    | none, some digit => some (readOctal digit (if digit ≤ 3 then 2 else 1) rest)
    | none, none => none

theorem length_readOctal_le (value most : Nat) (units : List CodeUnit) :
    (readOctal value most units).2.length ≤ units.length := by
  induction most generalizing value units with
  | zero => cases units <;> simp [readOctal]
  | succ most ih =>
    cases units with
    | nil => simp [readOctal]
    | cons unit rest =>
      rw [readOctal]
      split
      · next digit _ =>
        have hrest := ih (8 * value + digit) rest
        simp only [List.length_cons]
        omega
      · simp

theorem length_lt_of_readEscape? {units after : List CodeUnit} {value : CodeUnit}
    (h : readEscape? units = some (value, after)) : after.length < units.length := by
  cases units with
  | nil => cases h
  | cons unit rest =>
    rw [readEscape?] at h
    split at h
    · obtain ⟨-, rfl⟩ := Prod.mk.inj (Option.some.inj h)
      simp
    · next digit _ _ =>
      have hrest := length_readOctal_le digit (if digit ≤ 3 then 2 else 1) rest
      rw [Option.some.inj h] at hrest
      exact Nat.lt_succ_of_le hrest
    · cases h

/-- Reads what stands behind the opening quotation mark, up to the closing one, which must be the
end. A line break is an error. -/
def readBody : List CodeUnit → Option (List CodeUnit)
  | [] => none
  | unit :: rest =>
    if unit = '"'.toNat then if rest = [] then some [] else none
    else if unit = '\n'.toNat ∨ unit = '\r'.toNat then none
    else if unit = '\\'.toNat then
      match _hread : readEscape? rest with
      | none => none
      | some (value, after) => (readBody after).map (value :: ·)
    else (readBody rest).map (unit :: ·)
termination_by units => units.length
decreasing_by
  · have hread := length_lt_of_readEscape? _hread
    simp only [List.length_cons]
    omega
  · exact Nat.lt_succ_self _

/-- The code units of the string that a literal stands for, if it is one. -/
def literalValue? (literal : String) : Option (List CodeUnit) :=
  match translate true literal.toList with
  | some (unit :: body) => if unit = '"'.toNat then readBody body else none
  | _ => none

/-! ## How characters are written -/

/-- The characters that are written as a backslash and a letter. -/
def writtenLetters : List (Char × Char) :=
  [('"', '"'), ('\\', '\\'), ('\n', 'n'), ('\r', 'r'), ('\t', 't')]

/-- The three ways to write a character: by a letter, by its number, or as it is. -/
inductive IsWrittenAs : Char → List Char → Prop where
  | letter {c letter : Char} : (c, letter) ∈ writtenLetters → IsWrittenAs c ['\\', letter]
  | number {c : Char} : c.toNat < 32 → c ≠ '\n' → c ≠ '\r' →
      IsWrittenAs c ('\\' :: 'u' :: hexDigits c.toNat)
  | self {c : Char} : 32 ≤ c.toNat → c ≠ '"' → c ≠ '\\' → IsWrittenAs c [c]

theorem isWrittenAs_escapeChar (c : Char) : IsWrittenAs c (escapeChar c) := by
  unfold escapeChar
  split
  · next h => exact .letter (by simp [writtenLetters, h])
  split
  · next h => exact .letter (by simp [writtenLetters, h])
  split
  · next h => exact .letter (by simp [writtenLetters, h])
  split
  · next h => exact .letter (by simp [writtenLetters, h])
  split
  · next h => exact .letter (by simp [writtenLetters, h])
  split
  · next hfeed hreturn _ hcontrol => exact .number hcontrol hfeed hreturn
  · next hquote hbackslash _ _ _ hprintable =>
    exact .self (Nat.le_of_not_lt hprintable) hquote hbackslash

/-- A letter behind a backslash begins no Unicode escape, breaks no line, and is read as what it is
written for. -/
theorem writtenLetter_spec {c letter : Char} (h : (c, letter) ∈ writtenLetters) :
    letter ∉ ['u', '\n', '\r'] ∧ letter.toNat < 0x10000 ∧
      letterValue? letter.toNat = some c.toNat ∧ c.toNat < 0x10000 := by
  have hall : ∀ entry ∈ writtenLetters, entry.2 ∉ ['u', '\n', '\r'] ∧ entry.2.toNat < 0x10000 ∧
      letterValue? entry.2.toNat = some entry.1.toNat ∧ entry.1.toNat < 0x10000 := by decide
  exact hall _ h

/-- A hexadecimal digit has its value, and it is no character with a meaning of its own. -/
theorem hexDigit_spec {value : Nat} (h : value < 16) :
    hexValue? (hexDigit value) = some value ∧ hexDigit value ∉ ['u', '"', '\\', '\n', '\r'] := by
  have hall : ∀ value < 16, hexValue? (hexDigit value) = some value ∧
      hexDigit value ∉ ['u', '"', '\\', '\n', '\r'] := by decide
  exact hall value h

theorem exists_of_mem_hexDigits {value : Nat} {c : Char} (h : c ∈ hexDigits value) :
    ∃ digit < 16, c = hexDigit digit := by
  simp only [hexDigits, List.mem_cons, List.not_mem_nil, or_false] at h
  rcases h with rfl | rfl | rfl | rfl
  all_goals exact ⟨_, Nat.mod_lt _ (by decide), rfl⟩

theorem not_mem_hexDigits {c : Char} (h : c ∈ ['u', '"', '\\', '\n', '\r']) (value : Nat) :
    c ∉ hexDigits value := by
  intro hmem
  obtain ⟨digit, hdigit, rfl⟩ := exists_of_mem_hexDigits hmem
  exact (hexDigit_spec hdigit).2 h

/-- Nothing that is written breaks the line. -/
theorem not_mem_escapeChar {c lineBreak : Char} (h : lineBreak ∈ ['\n', '\r']) :
    lineBreak ∉ escapeChar c := by
  have hwritten := isWrittenAs_escapeChar c
  generalize escapeChar c = written at hwritten ⊢
  cases hwritten with
  | letter hletter =>
    have hplain := (writtenLetter_spec hletter).1
    rw [List.mem_cons, List.mem_singleton]
    rintro (rfl | rfl)
    · exact absurd h (by decide)
    · exact hplain (List.mem_cons_of_mem _ h)
  | number =>
    have hdigits := not_mem_hexDigits (List.mem_append_right ['u', '"', '\\'] h) c.toNat
    simp only [List.mem_cons, List.not_mem_nil, or_false] at h
    rcases h with rfl | rfl <;> simp [hdigits]
  | self hprintable =>
    rw [List.mem_singleton]
    rintro rfl
    simp only [List.mem_cons, List.not_mem_nil, or_false] at h
    rcases h with rfl | rfl <;> revert hprintable <;> decide

/-! ## Unescaped quotation marks -/

/-- The number of backslashes at the end of a text. -/
def backslashesAtEnd (text : List Char) : Nat := (text.reverse.takeWhile (· == '\\')).length

/-- A quotation mark stands at a position, with an even number of backslashes directly before it. -/
def IsUnescapedQuote (text : List Char) (position : Nat) : Prop :=
  text[position]? = some '"' ∧ Even (backslashesAtEnd (text.take position))

theorem backslashesAtEnd_concat (text : List Char) :
    backslashesAtEnd (text ++ ['\\']) = backslashesAtEnd text + 1 := by
  simp [backslashesAtEnd]

theorem backslashesAtEnd_concat_of_ne {c : Char} (h : c ≠ '\\') (text : List Char) :
    backslashesAtEnd (text ++ [c]) = 0 := by
  simp [backslashesAtEnd, h]

/-- An even number of backslashes in front changes nothing about the parity. -/
theorem even_backslashesAtEnd_append {front : List Char} (h : Even (backslashesAtEnd front))
    (back : List Char) :
    Even (backslashesAtEnd (front ++ back)) ↔ Even (backslashesAtEnd back) := by
  induction back using List.reverseRecOn with
  | nil =>
    rw [List.append_nil]
    exact iff_of_true h (by decide)
  | append_singleton back c ih =>
    rw [← List.append_assoc]
    by_cases hc : c = '\\'
    · rw [hc, backslashesAtEnd_concat, backslashesAtEnd_concat, Nat.even_add_one, Nat.even_add_one,
        ih]
    · rw [backslashesAtEnd_concat_of_ne hc, backslashesAtEnd_concat_of_ne hc]

/-- What follows is not escaped, and neither is a quotation mark inside unescaped. -/
structure IsBalanced (text : List Char) : Prop where
  closed : Even (backslashesAtEnd text)
  quoteless : ∀ front back, text = front ++ '"' :: back → ¬ Even (backslashesAtEnd front)

theorem IsBalanced.nil : IsBalanced [] where
  closed := by decide
  quoteless front back h := by simp at h

theorem IsBalanced.append {first second : List Char} (hfirst : IsBalanced first)
    (hsecond : IsBalanced second) : IsBalanced (first ++ second) where
  closed := (even_backslashesAtEnd_append hfirst.closed second).2 hsecond.closed
  quoteless front back h := by
    rcases List.append_eq_append_iff.1 h with ⟨middle, rfl, hback⟩ | ⟨middle, hfront, hback⟩
    · rw [even_backslashesAtEnd_append hfirst.closed]
      exact hsecond.quoteless middle back hback
    · cases middle with
      | nil =>
        rw [List.append_nil] at hfront
        rw [← hfront, ← List.append_nil first, even_backslashesAtEnd_append hfirst.closed]
        exact hsecond.quoteless [] back hback.symm
      | cons c middle =>
        obtain ⟨rfl, -⟩ := List.cons.inj hback
        exact hfirst.quoteless front middle hfront

/-- A text without quotation marks is balanced if it does not end in a backslash. -/
theorem IsBalanced.of_not_mem (text : List Char) {c : Char} (hquote : '"' ∉ text ++ [c])
    (hc : c ≠ '\\') : IsBalanced (text ++ [c]) where
  closed := by
    rw [backslashesAtEnd_concat_of_ne hc]
    exact Even.zero
  quoteless front back h := absurd (h ▸ List.mem_append_right front List.mem_cons_self) hquote

/-- A backslash with its letter is balanced: only the letter can be a quotation mark. -/
theorem isBalanced_letter {c letter : Char} (h : (c, letter) ∈ writtenLetters) :
    IsBalanced ['\\', letter] where
  closed := by
    simp only [writtenLetters, List.mem_cons, Prod.mk.injEq, List.not_mem_nil, or_false] at h
    rcases h with ⟨-, rfl⟩ | ⟨-, rfl⟩ | ⟨-, rfl⟩ | ⟨-, rfl⟩ | ⟨-, rfl⟩ <;> decide
  quoteless front back h := by
    cases front with
    | nil => cases h
    | cons first front =>
      obtain ⟨rfl, htail⟩ := List.cons.inj h
      cases front with
      | nil => decide
      | cons second front => simp at htail

/-- What is written for a character is balanced. -/
theorem isBalanced_escapeChar (c : Char) : IsBalanced (escapeChar c) := by
  have hwritten := isWrittenAs_escapeChar c
  generalize escapeChar c = written at hwritten ⊢
  cases hwritten with
  | letter hletter => exact isBalanced_letter hletter
  | number =>
    have hquote := not_mem_hexDigits (c := '"') (by decide) c.toNat
    have hlast := (hexDigit_spec (Nat.mod_lt c.toNat (by decide : 0 < 16))).2
    apply IsBalanced.of_not_mem ['\\', 'u', hexDigit (c.toNat / 4096 % 16),
      hexDigit (c.toNat / 256 % 16), hexDigit (c.toNat / 16 % 16)]
    · simpa [hexDigits] using hquote
    · simp_all
  | self _ hquote hbackslash =>
    apply IsBalanced.of_not_mem [] _ hbackslash
    simpa using hquote.symm

theorem isBalanced_flatMap (chars : List Char) : IsBalanced (chars.flatMap escapeChar) := by
  induction chars with
  | nil => exact .nil
  | cons c chars ih =>
    rw [List.flatMap_cons]
    exact (isBalanced_escapeChar c).append ih

/-- Around a balanced text, only the two marks at the ends are unescaped. -/
theorem IsBalanced.isUnescapedQuote_iff {body : List Char} (h : IsBalanced body) (position : Nat) :
    IsUnescapedQuote ('"' :: body ++ ['"']) position ↔
      position = 0 ∨ position = body.length + 1 := by
  have hstart : ∀ text, Even (backslashesAtEnd ('"' :: text)) ↔ Even (backslashesAtEnd text) :=
    even_backslashesAtEnd_append (by decide : Even (backslashesAtEnd ['"']))
  rw [IsUnescapedQuote]
  constructor
  · rintro ⟨hmark, heven⟩
    by_contra hends
    rw [not_or] at hends
    obtain ⟨before, rfl⟩ : ∃ before, position = before + 1 := ⟨position - 1, by omega⟩
    rw [List.cons_append, List.getElem?_cons_succ] at hmark
    have hbefore : before < body.length := by
      have hlength := (List.getElem?_eq_some_iff.1 hmark).1
      rw [List.length_append, List.length_singleton] at hlength
      omega
    rw [List.getElem?_append_left hbefore] at hmark
    obtain ⟨_, hquote⟩ := List.getElem?_eq_some_iff.1 hmark
    -- The mark splits the body, and what is in front of it there ends in an odd number.
    have hsplit : body = body.take before ++ '"' :: body.drop (before + 1) := by
      rw [← hquote, List.getElem_cons_drop, List.take_append_drop]
    have htake : ('"' :: (body ++ ['"'])).take (before + 1) = '"' :: body.take before := by
      rw [List.take_succ_cons, List.take_append_of_le_length (Nat.le_of_lt hbefore)]
    rw [List.cons_append, htake, hstart] at heven
    exact h.quoteless _ _ hsplit heven
  · rintro (rfl | rfl)
    · rw [List.take_zero]
      exact ⟨rfl, Even.zero⟩
    · have htake : ('"' :: body ++ ['"']).take (body.length + 1) = '"' :: body := by simp
      rw [htake, hstart]
      exact ⟨by simp, h.closed⟩

/-! ## Reading what is written -/

theorem readUnit?_hexDigits {value : Nat} (h : value < 0x10000) (rest : List Char) :
    readUnit? (hexDigits value ++ rest) = some (value, rest) := by
  have hdigit : ∀ part, hexValue? (hexDigit (part % 16)) = some (part % 16) := fun part =>
    (hexDigit_spec (Nat.mod_lt part (by decide))).1
  rw [hexDigits]
  simp only [List.cons_append, List.nil_append, readUnit?, hdigit]
  have hvalue : ((value / 4096 % 16 * 16 + value / 256 % 16) * 16 + value / 16 % 16) * 16
      + value % 16 = value := by
    omega
  rw [hvalue]

theorem translate_of_ne {c : Char} (h : c ≠ '\\') (even : Bool) (rest : List Char) :
    translate even (c :: rest) = (translate true rest).map (utf16 c ++ ·) := by
  rw [translate, if_neg h]

/-- A Unicode escape becomes its code unit. -/
theorem translate_number {value : Nat} (h : value < 0x10000) (rest : List Char) :
    translate true ('\\' :: 'u' :: hexDigits value ++ rest) =
      (translate true rest).map (value :: ·) := by
  have hread : readUnit? (('u' :: (hexDigits value ++ rest)).dropWhile (· == 'u')) =
      some (value, rest) := by
    have hfirst := (hexDigit_spec (Nat.mod_lt (value / 4096) (by decide : 0 < 16))).2
    rw [← readUnit?_hexDigits h]
    simp_all [hexDigits]
  rw [List.cons_append, List.cons_append, translate, if_pos rfl, if_pos ⟨rfl, rfl⟩]
  split
  · next hnone => cases hread.symm.trans hnone
  · next unit after hsome =>
    obtain ⟨rfl, rfl⟩ := Prod.mk.inj (Option.some.inj (hread.symm.trans hsome))
    rfl

/-- A backslash stays in front of a letter, and a second one does not begin an escape. -/
theorem translate_letter {c letter : Char} (h : (c, letter) ∈ writtenLetters) (rest : List Char) :
    translate true ('\\' :: letter :: rest) =
      (translate true rest).map ([92, letter.toNat] ++ ·) := by
  have hfirst : translate true ('\\' :: letter :: rest) =
      (translate false (letter :: rest)).map (92 :: ·) := by
    rw [translate, if_pos rfl, if_neg]
    · rfl
    · rintro ⟨-, hmark⟩
      obtain rfl : letter = 'u' := Option.some.inj hmark
      exact (writtenLetter_spec h).1 List.mem_cons_self
  have hsecond : translate false (letter :: rest) =
      (translate true rest).map (letter.toNat :: ·) := by
    rw [translate]
    split
    · rw [if_neg (by simp)]
      rfl
    · rw [utf16_of_lt (writtenLetter_spec h).2.1]
      rfl
  rw [hfirst, hsecond, Option.map_map]
  rfl

/-- The characters that a string may hold only in an escaped form. -/
def specialChars : List Char := ['"', '\n', '\r', '\\']

/-- The code units of any other character stand for themselves. -/
theorem readBody_utf16 {c : Char} (h : c ∉ specialChars) (rest : List CodeUnit) :
    readBody (utf16 c ++ rest) = (readBody rest).map (utf16 c ++ ·) := by
  have hplain : ∀ (unit : CodeUnit) (rest : List CodeUnit),
      unit ∉ specialChars.map Char.toNat → readBody (unit :: rest) = (readBody rest).map (unit :: ·) := by
    intro unit rest hunit
    simp only [specialChars, List.map_cons, List.map_nil, List.mem_cons, List.not_mem_nil,
      or_false, not_or] at hunit
    obtain ⟨hquote, hfeed, hreturn, hbackslash⟩ := hunit
    rw [readBody, if_neg hquote, if_neg (not_or.2 ⟨hfeed, hreturn⟩), if_neg hbackslash]
  by_cases hlow : c.toNat < 0x10000
  · rw [utf16_of_lt hlow]
    apply hplain
    rw [List.mem_map]
    rintro ⟨special, hspecial, hsame⟩
    exact h (Char.toNat_inj.1 hsame ▸ hspecial)
  · -- Surrogates are larger than any of them.
    have hlarge : ∀ unit : CodeUnit, 0xD800 ≤ unit → unit ∉ specialChars.map Char.toNat := by
      intro unit hunit hmem
      obtain ⟨special, hspecial, rfl⟩ := List.mem_map.1 hmem
      have hsmall : ∀ special ∈ specialChars, special.toNat < 0xD800 := by simp [specialChars]
      exact absurd (hsmall special hspecial) (Nat.not_lt.2 hunit)
    rw [utf16_of_not_lt hlow]
    simp only [List.cons_append, List.nil_append]
    rw [hplain _ _ (hlarge _ (Nat.le_add_right_of_le (Nat.le_refl _))),
      hplain _ _ (hlarge _ (Nat.le_add_right_of_le (by decide))), Option.map_map]
    rfl

/-- An escape sequence stands for the character that is written by it. -/
theorem readBody_letter {c letter : Char} (h : (c, letter) ∈ writtenLetters)
    (rest : List CodeUnit) :
    readBody ([92, letter.toNat] ++ rest) = (readBody rest).map (c.toNat :: ·) := by
  have hread : readEscape? (letter.toNat :: rest) = some (c.toNat, rest) := by
    rw [readEscape?, (writtenLetter_spec h).2.2.1]
  rw [List.cons_append, List.cons_append, List.nil_append, readBody, if_neg (by decide),
    if_neg (by decide), if_pos (by decide)]
  split
  · next hnone => cases hread.symm.trans hnone
  · next value after hsome =>
    obtain ⟨rfl, rfl⟩ := Prod.mk.inj (Option.some.inj (hread.symm.trans hsome))
    rfl

/-- Both phases pass over a part of a literal and leave its code units, whatever follows. -/
def Denotes (written : List Char) (units : List CodeUnit) : Prop :=
  ∃ middle, (∀ rest, translate true (written ++ rest) = (translate true rest).map (middle ++ ·)) ∧
    ∀ rest, readBody (middle ++ rest) = (readBody rest).map (units ++ ·)

theorem Denotes.nil : Denotes [] [] :=
  ⟨[], fun _ => by simp, fun _ => by simp⟩

theorem Denotes.append {first second : List Char} {units more : List CodeUnit}
    (hfirst : Denotes first units) (hsecond : Denotes second more) :
    Denotes (first ++ second) (units ++ more) := by
  obtain ⟨middle, htranslate, hread⟩ := hfirst
  obtain ⟨further, htranslate', hread'⟩ := hsecond
  refine ⟨middle ++ further, fun rest => ?_, fun rest => ?_⟩
  · rw [List.append_assoc, htranslate, htranslate', Option.map_map]
    simp [Function.comp_def]
  · rw [List.append_assoc, hread, hread', Option.map_map]
    simp [Function.comp_def]

/-- What is written for a character denotes that character. -/
theorem denotes_escapeChar (c : Char) : Denotes (escapeChar c) (utf16 c) := by
  have hwritten := isWrittenAs_escapeChar c
  generalize escapeChar c = written at hwritten ⊢
  cases hwritten with
  | @letter letter hletter =>
    rw [utf16_of_lt (writtenLetter_spec hletter).2.2.2]
    exact ⟨[92, letter.toNat], translate_letter hletter, readBody_letter hletter⟩
  | number hcontrol hfeed hreturn =>
    have hbasic : c.toNat < 0x10000 := Nat.lt_trans hcontrol (by decide)
    refine ⟨utf16 c, fun rest => ?_, readBody_utf16 ?_⟩
    · rw [utf16_of_lt hbasic]
      exact translate_number hbasic rest
    · simp only [specialChars, List.mem_cons, List.not_mem_nil, or_false, not_or]
      refine ⟨?_, hfeed, hreturn, ?_⟩ <;> rintro rfl <;> revert hcontrol <;> decide
  | self hprintable hquote hbackslash =>
    refine ⟨utf16 c, translate_of_ne hbackslash true, readBody_utf16 ?_⟩
    simp only [specialChars, List.mem_cons, List.not_mem_nil, or_false, not_or]
    refine ⟨hquote, ?_, ?_, hbackslash⟩ <;> rintro rfl <;> revert hprintable <;> decide

theorem denotes_flatMap (chars : List Char) :
    Denotes (chars.flatMap escapeChar) (chars.flatMap utf16) := by
  induction chars with
  | nil => exact .nil
  | cons c chars ih =>
    rw [List.flatMap_cons, List.flatMap_cons]
    exact (denotes_escapeChar c).append ih

/-- A literal between its quotation marks has the value that is denoted there. -/
theorem Denotes.literalValue? {written : List Char} {units : List CodeUnit}
    (h : Denotes written units) :
    literalValue? (String.ofList ('"' :: written ++ ['"'])) = some units := by
  obtain ⟨middle, htranslate, hread⟩ := h
  have hquote : utf16 '"' = ['"'.toNat] := by decide
  have hend : translate true ['"'] = some ['"'.toNat] := by
    rw [translate_of_ne (by decide), translate]
    rfl
  have hclose : readBody ['"'.toNat] = some [] := by
    rw [readBody, if_pos rfl, if_pos rfl]
  rw [Java.literalValue?, String.toList_ofList, List.cons_append, translate_of_ne (by decide),
    htranslate, hend]
  simp only [Option.map_some, hquote, List.cons_append, List.nil_append, if_pos]
  rw [hread, hclose, Option.map_some, List.append_nil]

/-! ## The literal of a text -/

/-- The literal of a text is written on one line, has no unescaped quotation mark except at its ends,
and stands for exactly that text. Different texts have different literals. -/
theorem stringLiteral_value (text : String) :
    ('\n' ∉ (stringLiteral text).toList ∧ '\r' ∉ (stringLiteral text).toList) ∧
    (∀ position, IsUnescapedQuote (stringLiteral text).toList position ↔
      position = 0 ∨ position + 1 = (stringLiteral text).toList.length) ∧
    literalValue? (stringLiteral text) = some (codeUnits text) ∧
    ∀ other, stringLiteral text = stringLiteral other ↔ text = other := by
  have hvalue : ∀ text, literalValue? (stringLiteral text) = some (codeUnits text) := fun text =>
    (denotes_flatMap text.toList).literalValue?
  have hlist : (stringLiteral text).toList = '"' :: text.toList.flatMap escapeChar ++ ['"'] :=
    String.toList_ofList
  have hline : ∀ lineBreak ∈ ['\n', '\r'], lineBreak ∉ (stringLiteral text).toList := by
    intro lineBreak hbreak hmem
    have hquote : lineBreak ≠ '"' := by
      rintro rfl
      revert hbreak
      decide
    rw [hlist, List.cons_append, List.mem_cons, List.mem_append, List.mem_singleton,
      List.mem_flatMap] at hmem
    rcases hmem with hfirst | ⟨c, -, hwritten⟩ | hlast
    · exact hquote hfirst
    · exact not_mem_escapeChar hbreak hwritten
    · exact hquote hlast
  refine ⟨⟨hline _ (by decide), hline _ (by decide)⟩, fun position => ?_, hvalue text,
    fun other => ⟨fun hsame => ?_, fun hsame => hsame ▸ rfl⟩⟩
  · rw [hlist, (isBalanced_flatMap text.toList).isUnescapedQuote_iff]
    simp only [List.length_append, List.length_cons, List.length_nil]
    omega
  · have hunits : some (codeUnits text) = some (codeUnits other) := by
      rw [← hvalue text, hsame, hvalue other]
    exact codeUnits_inj.1 (Option.some.inj hunits)

/-- The reader knows more than is written: numbers of characters, and an escaped backslash in front of
the letter `u`. -/
example : literalValue? "\"\\\\u0041\\u0041\\101\"" = some (codeUnits "\\u0041AA") := by cbv

end BundleBuilder.Java
