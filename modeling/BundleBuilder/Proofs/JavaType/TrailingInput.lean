import BundleBuilder.Proofs.JavaType.Recognition
import Mathlib.Data.List.Basic

/-!
# Where trailing input begins

A text that goes on behind a type is refused with the offset at which it goes on. Everything before
that offset is a type, and the character there decides the rest: whatever text follows the character,
the fault is the same (`trailingInput_ends_longest_type`).

This is so because neither the lexer nor the reader looks far ahead. The lexemes in front of a place
where a lexeme begins do not depend on what follows its first character (`lexFrom_cut`). What the
reader has read it reads again in front of anything at which it stops as well, with any budget that is
enough (`TypeLocal`). At the end of a type it goes on for marks only, so it stops at the end of a text,
at every word, and at a mark if it stopped at that mark before (`StopsLike`).
-/

set_option autoImplicit false

namespace BundleBuilder.JavaType

/-! ## Lexemes up to a character -/

theorem utf8Length_append (first second : List Char) :
    utf8Length (first ++ second) = utf8Length first + utf8Length second := by
  induction first with
  | nil => exact (Nat.zero_add _).symm
  | cons c first ih => rw [List.cons_append, utf8Length, utf8Length, ih, Nat.add_assoc]

theorem utf8ByteSize_ofList (chars : List Char) :
    (String.ofList chars).utf8ByteSize = utf8Length chars := by
  induction chars with
  | nil => rfl
  | cons c chars ih =>
    rw [String.ofList_cons, String.utf8ByteSize_append, String.utf8ByteSize_singleton, ih, utf8Length]

/-- Lexemes begin with a mark only if other ones begin with the same mark. -/
def StopsLike (rest other : List Lexeme) : Prop :=
  ∀ symbol, Avoids [.mark symbol] rest → Avoids [.mark symbol] other

theorem stopsLike_nil (rest : List Lexeme) : StopsLike rest [] := by
  intro symbol _ lexeme hhead
  cases hhead

theorem stopsLike_word (rest more : List Lexeme) {next : Lexeme} {word : String}
    (hword : next.token = .word word) : StopsLike rest (next :: more) := by
  intro symbol _
  exact avoids_cons (by simp [hword])

theorem stopsLike_of_token_eq {next other : Lexeme} (rest more : List Lexeme)
    (htoken : other.token = next.token) : StopsLike (next :: rest) (other :: more) := by
  intro symbol havoids
  exact avoids_cons (htoken ▸ havoids next rfl)

theorem StopsLike.avoids {rest other : List Lexeme} (h : StopsLike rest other)
    {front : List Lexeme} {symbol : Char} (havoids : Avoids [.mark symbol] (front ++ rest)) :
    Avoids [.mark symbol] (front ++ other) := by
  cases front with
  | nil => exact h symbol havoids
  | cons first front => exact avoids_cons (havoids first rfl)

/-- The first lexeme of a text without white space in front is decided by the first character, as far
as it is a mark. -/
theorem exists_lexeme (offset : Nat) {c : Char} (hspace : Text.isWhiteSpace c = false)
    (text : List Char) :
    ∃ next rest, lexFrom offset (c :: text) = next :: rest ∧ next.offset = offset ∧
      ((Text.isIdentifierStart c = true ∧ ∃ word, next.token = .word word) ∨
        (Text.isIdentifierStart c = false ∧ next.token = .mark c)) := by
  cases hstart : Text.isIdentifierStart c with
  | true => exact ⟨_, _, lexFrom_word offset hstart, rfl, .inl ⟨rfl, _, rfl⟩⟩
  | false => exact ⟨_, _, lexFrom_mark offset hspace hstart, rfl, .inr ⟨rfl, rfl⟩⟩

/-- A place in a text where a lexeme begins: the lexemes in front of it are those of the text in front
of it, whatever the text goes on with behind the first character of the lexeme. -/
structure CutAt (offset : Nat) (text : List Char) (front : List Lexeme) (next : Lexeme)
    (rest : List Lexeme) (before : List Char) (c : Char) (after : List Char) : Prop where
  text_eq : text = before ++ c :: after
  offset_eq : next.offset = offset + utf8Length before
  not_space : Text.isWhiteSpace c = false
  lexemes_before : lexFrom offset before = front
  lexemes_with (other : List Char) : ∃ otherNext otherRest,
    lexFrom offset (before ++ c :: other) = front ++ otherNext :: otherRest ∧
      otherNext.offset = next.offset ∧ StopsLike (next :: rest) (otherNext :: otherRest)

/-- A cut in front of the whole text. -/
theorem CutAt.start {offset : Nat} {c : Char} {text : List Char} {next : Lexeme} {rest : List Lexeme}
    (hspace : Text.isWhiteSpace c = false) (h : lexFrom offset (c :: text) = next :: rest) :
    CutAt offset (c :: text) [] next rest [] c text := by
  obtain ⟨first, more, hlexemes, hoffset, hkind⟩ := exists_lexeme offset hspace text
  rw [h] at hlexemes
  obtain ⟨rfl, rfl⟩ := List.cons.inj hlexemes
  refine ⟨rfl, hoffset, hspace, by rw [lexFrom], fun other => ?_⟩
  obtain ⟨otherNext, otherRest, hother, hotherOffset, hotherKind⟩ :=
    exists_lexeme offset hspace other
  refine ⟨otherNext, otherRest, hother, hotherOffset.trans hoffset.symm, ?_⟩
  rcases hotherKind with ⟨-, word, hword⟩ | ⟨hstart, hmark⟩
  · exact stopsLike_word _ _ hword
  · rcases hkind with ⟨hword, -⟩ | ⟨-, hsame⟩
    · rw [hstart] at hword
      cases hword
    · exact stopsLike_of_token_eq _ _ (hmark.trans hsame.symm)

/-- Whether a word ends at a text is decided by the text's first character. -/
theorem EndsWord.cut {before after : List Char} {c : Char} (h : EndsWord (before ++ c :: after)) :
    EndsWord before ∧ ∀ other, EndsWord (before ++ c :: other) := by
  cases before with
  | nil => exact ⟨fun _ hhead => Option.not_mem_none _ hhead |>.elim, fun _ => h⟩
  | cons first before => exact ⟨h, fun _ => h⟩

/-- A text can be cut in front of each of its lexemes. -/
theorem lexFrom_cut {offset : Nat} {text : List Char} (front : List Lexeme) {next : Lexeme}
    {rest : List Lexeme} (h : lexFrom offset text = front ++ next :: rest) :
    ∃ before c after, CutAt offset text front next rest before c after := by
  induction offset, text using lexFrom.induct generalizing front with
  | case1 offset =>
    rw [lexFrom] at h
    cases front <;> cases h
  | case2 offset c text hspace ih =>
    rw [lexFrom_space offset hspace] at h
    obtain ⟨before, d, after, hcut⟩ := ih front h
    refine ⟨c :: before, d, after, ?_, ?_, hcut.not_space, ?_, fun other => ?_⟩
    · rw [hcut.text_eq, List.cons_append]
    · rw [hcut.offset_eq, utf8Length, Nat.add_assoc]
    · rw [lexFrom_space offset hspace, hcut.lexemes_before]
    · rw [List.cons_append, lexFrom_space offset hspace]
      exact hcut.lexemes_with other
  | case3 offset c text hspace hstart tail ih =>
    cases front with
    | nil => exact ⟨[], c, text, .start (by simpa using hspace) h⟩
    | cons first front =>
      rw [lexFrom_word offset hstart, List.cons_append] at h
      obtain ⟨rfl, hmore⟩ := List.cons.inj h
      obtain ⟨before, d, after, hcut⟩ := ih front hmore
      -- The word ends where the text is cut or before, so it is the same word in every text.
      have hends := endsWord_dropWhile text
      rw [hcut.text_eq] at hends
      have hpart : ∀ c ∈ tail, Text.isIdentifierPart c = true :=
        List.all_eq_true.1 List.all_takeWhile
      have hlexemes {more : List Char} (hmore : EndsWord more) :
          lexFrom offset (c :: (tail ++ more)) = ⟨.word (String.ofList (c :: tail)), offset⟩
            :: lexFrom (offset + utf8Length (c :: tail)) more := by
        obtain ⟨htake, hdrop⟩ := takeWhile_append_of_endsWord hpart hmore
        rw [lexFrom_word offset hstart, htake, hdrop]
      refine ⟨c :: (tail ++ before), d, after, ?_, ?_, hcut.not_space, ?_, fun other => ?_⟩
      · rw [List.cons_append, List.append_assoc, ← hcut.text_eq,
          List.takeWhile_append_dropWhile]
      · rw [hcut.offset_eq, ← List.cons_append, utf8Length_append, Nat.add_assoc]
      · rw [hlexemes hends.cut.1, hcut.lexemes_before]
      · obtain ⟨otherNext, otherRest, hother, hboth⟩ := hcut.lexemes_with other
        refine ⟨otherNext, otherRest, ?_, hboth⟩
        rw [List.cons_append, List.append_assoc, hlexemes (hends.cut.2 other), hother, List.cons_append]
  | case4 offset c text hspace hstart ih =>
    have hnoSpace : Text.isWhiteSpace c = false := by simpa using hspace
    have hmark (more : List Char) :
        lexFrom offset (c :: more) = ⟨.mark c, offset⟩ :: lexFrom (offset + c.utf8Size) more :=
      lexFrom_mark offset hnoSpace (by simpa using hstart)
    cases front with
    | nil => exact ⟨[], c, text, .start hnoSpace h⟩
    | cons first front =>
      rw [hmark, List.cons_append] at h
      obtain ⟨rfl, hmore⟩ := List.cons.inj h
      obtain ⟨before, d, after, hcut⟩ := ih front hmore
      refine ⟨c :: before, d, after, ?_, ?_, hcut.not_space, ?_, fun other => ?_⟩
      · rw [hcut.text_eq, List.cons_append]
      · rw [hcut.offset_eq, utf8Length, Nat.add_assoc]
      · rw [hmark, hcut.lexemes_before]
      · obtain ⟨otherNext, otherRest, hother, hboth⟩ := hcut.lexemes_with other
        refine ⟨otherNext, otherRest, ?_, hboth⟩
        rw [List.cons_append, hmark, hother, List.cons_append]

/-! ## What is read again -/

theorem avoids_of_not_cons {token : Token} {lexemes : List Lexeme}
    (h : ∀ offset more, lexemes = ⟨token, offset⟩ :: more → False) : Avoids [token] lexemes := by
  intro lexeme hhead hmem
  obtain ⟨more, rfl⟩ := List.head?_eq_some_iff.1 hhead
  exact h lexeme.offset more (by rw [← List.mem_singleton.1 hmem])

/-- A name is read again in front of everything but a dot. -/
theorem readName_local {lexemes : List Lexeme} :
    ∀ {rest : List Lexeme} {name : String}, readName lexemes = .ok (name, rest) →
      ∃ word offset front, lexemes = ⟨.word word, offset⟩ :: front ++ rest ∧
        Avoids [.mark '.'] rest ∧ ∀ other, Avoids [.mark '.'] other →
          readName (⟨.word word, offset⟩ :: front ++ other) = .ok (name, other) := by
  induction lexemes using readName.induct with
  | case1 word offset dotOffset tail more after hmore ih =>
    intro rest name h
    rw [readName, hmore] at h
    obtain ⟨rfl, rfl⟩ := Prod.mk.inj (Except.ok.inj h)
    obtain ⟨next, nextOffset, front, rfl, havoids, hagain⟩ := ih hmore
    refine ⟨word, offset, ⟨.mark '.', dotOffset⟩ :: ⟨.word next, nextOffset⟩ :: front, rfl, havoids,
      fun other hother => ?_⟩
    have hname := hagain other hother
    rw [List.cons_append] at hname
    simp only [List.cons_append, readName, hname]
  | case2 word offset dotOffset tail fault hfault ih =>
    intro rest name h
    rw [readName, hfault] at h
    cases h
  | case3 word offset tail hnodot =>
    intro rest name h
    rw [readName] at h
    · obtain ⟨rfl, rfl⟩ := Prod.mk.inj (Except.ok.inj h)
      refine ⟨word, offset, [], rfl, avoids_of_not_cons hnodot, fun other hother => ?_⟩
      rw [List.singleton_append, readName]
      exact hother.not_cons List.mem_cons_self
    · exact hnodot
  | case4 lexemes hqualified hword =>
    intro rest name h
    rw [readName] at h
    · cases h
    · exact hqualified
    · exact hword

/-- Dimensions are read again in front of everything but an opening bracket. -/
theorem readDimensions_local {element : JavaType} {lexemes : List Lexeme} :
    ∀ {rest : List Lexeme} {type : JavaType}, readDimensions element lexemes = .ok (type, rest) →
      Avoids [.mark '['] rest ∧ ∃ front, lexemes = front ++ rest ∧
        ∀ other, Avoids [.mark '['] other →
          readDimensions element (front ++ other) = .ok (type, other) := by
  induction element, lexemes using readDimensions.induct with
  | case1 offset closeOffset tail =>
    intro rest type h
    rw [readDimensions, if_pos rfl] at h
    cases h
  | case2 element offset closeOffset tail hvoid ih =>
    intro rest type h
    rw [readDimensions, if_neg hvoid] at h
    obtain ⟨havoids, front, rfl, hagain⟩ := ih h
    refine ⟨havoids, ⟨.mark '[', offset⟩ :: ⟨.mark ']', closeOffset⟩ :: front, rfl,
      fun other hother => ?_⟩
    rw [List.cons_append, List.cons_append, readDimensions, if_neg hvoid]
    exact hagain other hother
  | case3 element offset tail hclose =>
    intro rest type h
    rw [readDimensions] at h
    · cases h
    · exact hclose
  | case4 element lexemes hpair hopen =>
    intro rest type h
    rw [readDimensions] at h
    · obtain ⟨rfl, rfl⟩ := Prod.mk.inj (Except.ok.inj h)
      refine ⟨avoids_of_not_cons hopen, [], rfl, fun other hother => ?_⟩
      have hnone : ∀ openOffset tail, other = ⟨.mark '[', openOffset⟩ :: tail → False :=
        hother.not_cons List.mem_cons_self
      rw [List.nil_append, readDimensions]
      · exact fun openOffset closeOffset tail heq => hnone openOffset _ heq
      · exact hnone
    · exact hpair
    · exact hopen

/-- What was read as a type is read again in front of everything that stops the reader likewise. -/
def TypeLocal (budget : Nat) : Prop :=
  ∀ {voidAllowed : Bool} {lexemes rest : List Lexeme} {type : JavaType},
    readType budget voidAllowed lexemes = .ok (type, rest) →
      ∃ word offset front, lexemes = ⟨.word word, offset⟩ :: front ++ rest ∧
        ∀ other, StopsLike rest other → ∀ enough > front.length,
          readType enough voidAllowed (⟨.word word, offset⟩ :: front ++ other) = .ok (type, other)

/-- What was read as type arguments, with the closing bracket, is read again in front of everything. -/
def ArgumentsLocal (budget : Nat) : Prop :=
  ∀ {lexemes rest : List Lexeme} {types : List JavaType},
    readArguments budget lexemes = .ok (types, rest) →
      ∃ front, lexemes = front ++ rest ∧
        ∀ other, ∀ enough > front.length, readArguments enough (front ++ other) = .ok (types, other)

/-- What was read as a type argument is read again in front of the same mark. -/
def ArgumentLocal (budget : Nat) : Prop :=
  ∀ {lexemes rest : List Lexeme} {next : Lexeme} {type : JavaType},
    (next.token = .mark ',' ∨ next.token = .mark '>') →
    readArgument budget lexemes = .ok (type, next :: rest) →
      ∃ front, lexemes = front ++ next :: rest ∧
        ∀ again other, again.token = next.token → ∀ enough > front.length,
          readArgument enough (front ++ again :: other) = .ok (type, again :: other)

theorem typeLocal_succ {budget : Nat} (harguments : ArgumentsLocal budget) :
    TypeLocal (budget + 1) := by
  intro voidAllowed lexemes rest type h
  obtain ⟨name, tail, hname, hcases⟩ := readType_cases h
  obtain ⟨word, offset, nameFront, rfl, hdotless, hnameAgain⟩ := readName_local hname
  -- Where only dimensions follow the name, the reader sees no more of the rest than its first mark.
  have hbare {element : JavaType} (hread : readDimensions element tail = .ok (type, rest))
      (hstep : ∀ {lexemes more : List Lexeme}, readName lexemes = .ok (name, more) →
        (Avoids [.mark '<'] tail → Avoids [.mark '<'] more) →
        ∀ budget, readType (budget + 1) voidAllowed lexemes = readDimensions element more) :
      ∃ word' offset' front, ⟨.word word, offset⟩ :: nameFront ++ tail =
          ⟨.word word', offset'⟩ :: front ++ rest ∧
        ∀ other, StopsLike rest other → ∀ enough > front.length,
          readType enough voidAllowed (⟨.word word', offset'⟩ :: front ++ other) =
            .ok (type, other) := by
    obtain ⟨hclosed, front, rfl, hagain⟩ := readDimensions_local hread
    refine ⟨word, offset, nameFront ++ front, by simp, fun other hother enough henough => ?_⟩
    obtain ⟨budget, rfl⟩ : ∃ less, enough = less + 1 := ⟨enough - 1, by omega⟩
    have hnameOther := hnameAgain (front ++ other) (hother.avoids hdotless)
    rw [← List.cons_append, List.append_assoc, hstep hnameOther hother.avoids]
    exact hagain other (hother _ hclosed)
  rcases hcases with ⟨kind, hkind, hread⟩ | ⟨rfl, rfl, hread⟩ |
    ⟨hkeyword, hvoid, ⟨openOffset, inner, args, after, rfl, hargs, hread⟩ | ⟨hplain, hread⟩⟩
  · exact hbare hread fun hname _ budget => readType_keyword hname hkind budget _
  · exact hbare hread fun hname _ budget => readType_void hname budget
  · obtain ⟨argsFront, rfl, hargsAgain⟩ := harguments hargs
    obtain ⟨hclosed, front, rfl, hagain⟩ := readDimensions_local hread
    refine ⟨word, offset, nameFront ++ ⟨.mark '<', openOffset⟩ :: (argsFront ++ front), by simp,
      fun other hother enough henough => ?_⟩
    simp only [List.length_append, List.length_cons] at henough
    obtain ⟨budget, rfl⟩ : ∃ less, enough = less + 1 := ⟨enough - 1, by omega⟩
    have hnameOther := hnameAgain (⟨.mark '<', openOffset⟩ :: (argsFront ++ (front ++ other)))
      (avoids_cons (by simp))
    have hargsOther := hargsAgain (front ++ other) budget (by omega)
    have hread := readType_generic hnameOther hkeyword hvoid hargsOther voidAllowed
    rw [hagain other (hother _ hclosed)] at hread
    simpa using hread
  · exact hbare hread fun hname hsame budget =>
      readType_plain hname hkeyword hvoid (hsame (avoids_of_not_cons hplain)) budget _

theorem argumentsLocal_succ {budget : Nat} (hargument : ArgumentLocal budget)
    (harguments : ArgumentsLocal budget) : ArgumentsLocal (budget + 1) := by
  intro lexemes rest types h
  rcases readArguments_cases h with
    ⟨type, offset, inner, more, hfirst, hmore, rfl⟩ | ⟨type, offset, hfirst, rfl⟩
  · obtain ⟨argFront, rfl, hagain⟩ := hargument (.inl rfl) hfirst
    obtain ⟨moreFront, rfl, hmoreAgain⟩ := harguments hmore
    refine ⟨argFront ++ ⟨.mark ',', offset⟩ :: moreFront, by simp, fun other enough henough => ?_⟩
    simp only [List.length_append, List.length_cons] at henough
    obtain ⟨budget, rfl⟩ : ∃ less, enough = less + 1 := ⟨enough - 1, by omega⟩
    have hfirstOther := hagain ⟨.mark ',', offset⟩ (moreFront ++ other) rfl budget (by omega)
    have hmoreOther := hmoreAgain other budget (by omega)
    rw [List.append_assoc, List.cons_append]
    simp only [readArguments, hfirstOther, hmoreOther]
  · obtain ⟨argFront, rfl, hagain⟩ := hargument (.inr rfl) hfirst
    refine ⟨argFront ++ [⟨.mark '>', offset⟩], by simp, fun other enough henough => ?_⟩
    simp only [List.length_append, List.length_cons, List.length_nil] at henough
    obtain ⟨budget, rfl⟩ : ∃ less, enough = less + 1 := ⟨enough - 1, by omega⟩
    have hfirstOther := hagain ⟨.mark '>', offset⟩ other rfl budget (by omega)
    rw [List.append_assoc, List.singleton_append]
    simp only [readArguments, hfirstOther]

theorem argumentLocal_succ {budget : Nat} (htype : TypeLocal budget) :
    ArgumentLocal (budget + 1) := by
  intro lexemes rest next type hnext h
  rcases readArgument_cases h with ⟨offset, rfl, rfl⟩ |
    ⟨offset, wordOffset, inner, bound, rfl, hbound, rfl⟩ |
    ⟨offset, wordOffset, inner, bound, rfl, hbound, rfl⟩ | ⟨hplain, hprimitive⟩
  · refine ⟨[⟨.mark '?', offset⟩], rfl, fun again other hagain enough henough => ?_⟩
    obtain ⟨budget, rfl⟩ : ∃ less, enough = less + 1 := ⟨enough - 1, by omega⟩
    obtain ⟨token, againOffset⟩ := again
    rw [List.singleton_append]
    rcases hnext with hcomma | hclose
    · obtain rfl : token = .mark ',' := hagain.trans hcomma
      rw [readArgument]
    · obtain rfl : token = .mark '>' := hagain.trans hclose
      rw [readArgument]
  · obtain ⟨word, boundOffset, front, rfl, hboundAgain⟩ := htype hbound
    refine ⟨⟨.mark '?', offset⟩ :: ⟨.word "extends", wordOffset⟩ :: ⟨.word word, boundOffset⟩ ::
      front, rfl, fun again other hagain enough henough => ?_⟩
    simp only [List.length_cons] at henough
    obtain ⟨budget, rfl⟩ : ∃ less, enough = less + 1 := ⟨enough - 1, by omega⟩
    have hboundOther := hboundAgain (again :: other) (stopsLike_of_token_eq _ _ hagain) budget
      (by omega)
    rw [List.cons_append, List.cons_append, readArgument, if_pos rfl, hboundOther]
  · obtain ⟨word, boundOffset, front, rfl, hboundAgain⟩ := htype hbound
    refine ⟨⟨.mark '?', offset⟩ :: ⟨.word "super", wordOffset⟩ :: ⟨.word word, boundOffset⟩ ::
      front, rfl, fun again other hagain enough henough => ?_⟩
    simp only [List.length_cons] at henough
    obtain ⟨budget, rfl⟩ : ∃ less, enough = less + 1 := ⟨enough - 1, by omega⟩
    have hboundOther := hboundAgain (again :: other) (stopsLike_of_token_eq _ _ hagain) budget
      (by omega)
    rw [List.cons_append, List.cons_append, readArgument, if_neg (by decide), if_pos rfl,
      hboundOther]
  · obtain ⟨word, offset, front, rfl, htypeAgain⟩ := htype hplain
    refine ⟨⟨.word word, offset⟩ :: front, rfl, fun again other hagain enough henough => ?_⟩
    simp only [List.length_cons] at henough
    obtain ⟨budget, rfl⟩ : ∃ less, enough = less + 1 := ⟨enough - 1, by omega⟩
    have htypeOther := htypeAgain (again :: other) (stopsLike_of_token_eq _ _ hagain) budget
      (by omega)
    have hword : ∀ markOffset inner,
        ⟨.word word, offset⟩ :: front ++ again :: other = ⟨.mark '?', markOffset⟩ :: inner → False := by
      intro markOffset inner heq
      cases heq
    rw [readArgument_plain hword, htypeOther]
    dsimp only
    rw [hprimitive]
    rfl

/-- Whatever is read is read again in front of everything that stops the reader likewise. -/
theorem reading_local (budget : Nat) :
    TypeLocal budget ∧ ArgumentsLocal budget ∧ ArgumentLocal budget := by
  induction budget with
  | zero =>
    refine ⟨?_, ?_, ?_⟩
    · intro voidAllowed lexemes rest type h
      rw [readType] at h
      cases h
    · intro lexemes rest types h
      rw [readArguments] at h
      cases h
    · intro lexemes rest next type _ h
      rw [readArgument] at h
      cases h
  | succ budget ih =>
    obtain ⟨htype, harguments, hargument⟩ := ih
    exact ⟨typeLocal_succ harguments, argumentsLocal_succ hargument harguments,
      argumentLocal_succ htype⟩

/-! ## Faults of the reader -/

/-- A reading does not complain of trailing input: what follows is no business of the reader. -/
def FaultsInside {α : Type} (reading : Reading α) : Prop :=
  ∀ position, reading ≠ .error (.trailingInput position)

theorem FaultsInside.ok {α : Type} (read : α × List Lexeme) :
    FaultsInside (.ok read : Reading α) := by
  intro position h
  cases h

/-- A fault that is handed on. -/
theorem FaultsInside.error {α β : Type} {reading : Reading α} (h : FaultsInside reading)
    {fault : Fault} (hfault : reading = .error fault) : FaultsInside (.error fault : Reading β) := by
  intro position heq
  rw [Except.error.inj heq] at hfault
  exact h position hfault

theorem readName_faultsInside (lexemes : List Lexeme) : FaultsInside (readName lexemes) := by
  induction lexemes using readName.induct with
  | case1 word offset dotOffset tail more after hmore ih =>
    rw [readName, hmore]
    exact .ok _
  | case2 word offset dotOffset tail fault hfault ih =>
    rw [readName, hfault]
    exact ih.error hfault
  | case3 word offset tail hnodot =>
    rw [readName]
    · exact .ok _
    · exact hnodot
  | case4 lexemes hqualified hword =>
    rw [readName]
    · rintro _ ⟨⟩
    · exact hqualified
    · exact hword

theorem readDimensions_faultsInside (element : JavaType) (lexemes : List Lexeme) :
    FaultsInside (readDimensions element lexemes) := by
  induction element, lexemes using readDimensions.induct with
  | case1 offset closeOffset tail =>
    rw [readDimensions, if_pos rfl]
    rintro _ ⟨⟩
  | case2 element offset closeOffset tail hvoid ih =>
    rw [readDimensions, if_neg hvoid]
    exact ih
  | case3 element offset tail hclose =>
    rw [readDimensions]
    · rintro _ ⟨⟩
    · exact hclose
  | case4 element lexemes hpair hopen =>
    rw [readDimensions]
    · exact .ok _
    · exact hpair
    · exact hopen

theorem readType_faultsInside {budget : Nat}
    (harguments : ∀ lexemes, FaultsInside (readArguments budget lexemes)) (voidAllowed : Bool)
    (lexemes : List Lexeme) : FaultsInside (readType (budget + 1) voidAllowed lexemes) := by
  rw [readType]
  split
  · next fault hfault => exact (readName_faultsInside lexemes).error hfault
  · split
    · exact readDimensions_faultsInside _ _
    · split
      · split
        · exact readDimensions_faultsInside _ _
        · rintro _ ⟨⟩
      · split
        · split
          · next fault hfault => exact (harguments _).error hfault
          · exact readDimensions_faultsInside _ _
        · exact readDimensions_faultsInside _ _

theorem readArguments_faultsInside {budget : Nat}
    (hargument : ∀ lexemes, FaultsInside (readArgument budget lexemes))
    (harguments : ∀ lexemes, FaultsInside (readArguments budget lexemes)) (lexemes : List Lexeme) :
    FaultsInside (readArguments (budget + 1) lexemes) := by
  rw [readArguments]
  split
  · next fault hfault => exact (hargument lexemes).error hfault
  · split
    · next fault hfault => exact (harguments _).error hfault
    · exact .ok _
  · exact .ok _
  · rintro _ ⟨⟩

theorem readArgument_faultsInside {budget : Nat}
    (htype : ∀ voidAllowed lexemes, FaultsInside (readType budget voidAllowed lexemes))
    (lexemes : List Lexeme) : FaultsInside (readArgument (budget + 1) lexemes) := by
  rw [readArgument.eq_def]
  split
  · rintro _ ⟨⟩
  · next heq =>
    cases heq
    split
    · exact .ok _
    · exact .ok _
    · split
      · split
        · next fault hfault => exact (htype false _).error hfault
        · exact .ok _
      · split
        · split
          · next fault hfault => exact (htype false _).error hfault
          · exact .ok _
        · rintro _ ⟨⟩
    · rintro _ ⟨⟩
  · next heq _ =>
    cases heq
    split
    · next fault hfault => exact (htype false _).error hfault
    · split
      · rintro _ ⟨⟩
      · exact .ok _

theorem reading_faultsInside (budget : Nat) :
    (∀ voidAllowed lexemes, FaultsInside (readType budget voidAllowed lexemes)) ∧
      (∀ lexemes, FaultsInside (readArguments budget lexemes)) ∧
      ∀ lexemes, FaultsInside (readArgument budget lexemes) := by
  induction budget with
  | zero =>
    refine ⟨fun voidAllowed lexemes => ?_, fun lexemes => ?_, fun lexemes => ?_⟩
    · rw [readType]
      rintro _ ⟨⟩
    · rw [readArguments]
      rintro _ ⟨⟩
    · rw [readArgument]
      rintro _ ⟨⟩
  | succ budget ih =>
    obtain ⟨htype, harguments, hargument⟩ := ih
    exact ⟨readType_faultsInside harguments, readArguments_faultsInside hargument harguments,
      readArgument_faultsInside htype⟩

/-! ## Whole texts -/

/-- Trailing input is what follows a type that was read. -/
theorem ofLexemes_eq_trailingInput_iff {lexemes : List Lexeme} {position : Nat} :
    ofLexemes lexemes = .error (.trailingInput position) ↔
      ∃ type next rest, readType (readingBudget lexemes) true lexemes = .ok (type, next :: rest) ∧
        next.offset = position := by
  rw [ofLexemes]
  constructor
  · intro h
    split at h
    · next fault hfault =>
      rw [Except.error.inj h] at hfault
      exact absurd hfault ((reading_faultsInside _).1 _ _ _)
    · cases h
    · next type next rest hread =>
      exact ⟨type, next, rest, hread, Fault.trailingInput.inj (Except.error.inj h)⟩
  · rintro ⟨type, next, rest, hread, rfl⟩
    rw [hread]

theorem parse_eq_error_iff {text input : String} {fault : Fault} :
    parse text = .error ⟨input, fault⟩ ↔ input = text ∧ ofLexemes (lex text) = .error fault := by
  rw [parse]
  cases ofLexemes (lex text) with
  | error found => simp [eq_comm]
  | ok type => simp

/-- Behind a type, lexemes are cut so that the front is a type, and everything that begins like the
rest is trailing input again. -/
theorem ofLexemes_cut {lexemes : List Lexeme} {position : Nat}
    (h : ofLexemes lexemes = .error (.trailingInput position)) :
    ∃ front next rest, lexemes = front ++ next :: rest ∧ next.offset = position ∧ front ≠ [] ∧
      (∃ type, ofLexemes front = .ok type) ∧
      ∀ again other, StopsLike (next :: rest) (again :: other) →
        ofLexemes (front ++ again :: other) = .error (.trailingInput again.offset) := by
  obtain ⟨type, next, rest, hread, hposition⟩ := ofLexemes_eq_trailingInput_iff.1 h
  obtain ⟨word, offset, front, rfl, hagain⟩ := (reading_local _).1 hread
  refine ⟨⟨.word word, offset⟩ :: front, next, rest, rfl, hposition, List.cons_ne_nil _ _,
    ⟨type, ?_⟩, fun again other hstops => ?_⟩
  · have hfront := hagain [] (stopsLike_nil _) (readingBudget (⟨.word word, offset⟩ :: front))
      (by rw [readingBudget, List.length_cons]; omega)
    rw [List.append_nil] at hfront
    rw [ofLexemes, hfront]
  · have hother := hagain (again :: other) hstops
      (readingBudget (⟨.word word, offset⟩ :: front ++ again :: other))
      (by rw [readingBudget, List.cons_append, List.length_cons, List.length_append]; omega)
    exact ofLexemes_eq_trailingInput_iff.2 ⟨type, again, other, hother, rfl⟩

theorem utf8Length_pos {chars : List Char} (h : chars ≠ []) : 0 < utf8Length chars := by
  cases chars with
  | nil => exact absurd rfl h
  | cons c chars =>
    rw [utf8Length]
    exact Nat.add_pos_left c.utf8Size_pos _

/-- Of two beginnings of a text, the longer one goes on as the text does behind the shorter one. -/
theorem exists_append_of_longer {before after first second : List Char} {c : Char}
    (h : before ++ c :: after = first ++ second) (hlonger : utf8Length before < utf8Length first) :
    ∃ more, first = before ++ c :: more := by
  rcases List.append_eq_append_iff.1 h with ⟨between, rfl, hrest⟩ | ⟨between, rfl, -⟩
  · cases between with
    | nil =>
      rw [List.append_nil] at hlonger
      exact absurd hlonger (Nat.lt_irrefl _)
    | cons d between =>
      obtain ⟨rfl, -⟩ := List.cons.inj hrest
      exact ⟨between, rfl⟩
  · rw [utf8Length_append] at hlonger
    omega

/-- The offset of trailing input is the end of the longest type with which a text begins. It lies
between two characters of the text, and no white space follows it; what stands before it is a type, and
a text that begins with this and the next character is refused for the same reason at the same place,
so no longer beginning of the text is a type. -/
theorem trailingInput_ends_longest_type (text : String) (position : Nat)
    (h : parse text = .error ⟨text, .trailingInput position⟩) :
    ∃ start c more, text = start ++ String.singleton c ++ more ∧
      start.utf8ByteSize = position ∧ 0 < position ∧ position < text.utf8ByteSize ∧
      Text.isWhiteSpace c = false ∧ (∃ type, parse start = .ok type) ∧
      (∀ other, parse (start ++ String.singleton c ++ other) =
        .error ⟨start ++ String.singleton c ++ other, .trailingInput position⟩) ∧
      ∀ longer others, text = longer ++ others → position < longer.utf8ByteSize →
        ∀ type, parse longer ≠ .ok type := by
  -- First the lexemes are cut behind the type, then the text is cut at the same place.
  obtain ⟨-, hfault⟩ := parse_eq_error_iff.1 h
  obtain ⟨front, next, rest, hlexemes, hoffset, hnonempty, ⟨type, htype⟩, hagain⟩ :=
    ofLexemes_cut hfault
  obtain ⟨before, c, after, hcut⟩ := lexFrom_cut front hlexemes
  have hposition : utf8Length before = position := by
    rw [← hoffset, hcut.offset_eq, Nat.zero_add]
  have hbefore : before ≠ [] := by
    rintro rfl
    rw [← hcut.lexemes_before, lexFrom] at hnonempty
    exact hnonempty rfl
  have hchars (other : String) : (String.ofList before ++ String.singleton c ++ other).toList =
      before ++ c :: other.toList := by
    simp
  have htext : text = String.ofList before ++ String.singleton c ++ String.ofList after := by
    apply String.toList_injective
    rw [hchars, String.toList_ofList, hcut.text_eq]
  have hrefused (other : String) : parse (String.ofList before ++ String.singleton c ++ other) =
      .error ⟨String.ofList before ++ String.singleton c ++ other, .trailingInput position⟩ := by
    obtain ⟨again, others, hother, hsame, hstops⟩ := hcut.lexemes_with other.toList
    rw [parse_eq_error_iff, lex, hchars, hother, hagain again others hstops, hsame, hoffset]
    exact ⟨rfl, rfl⟩
  refine ⟨String.ofList before, c, String.ofList after, htext, ?_, ?_, ?_, hcut.not_space,
    ⟨type, ?_⟩, hrefused, fun longer others hlonger hsize read hread => ?_⟩
  · rw [utf8ByteSize_ofList, hposition]
  · rw [← hposition]
    exact utf8Length_pos hbefore
  · rw [htext, String.utf8ByteSize_append, String.utf8ByteSize_append, String.utf8ByteSize_singleton,
      utf8ByteSize_ofList, hposition]
    have hwide := c.utf8Size_pos
    omega
  · rw [parse_eq_ok_iff_lexemes, lex, String.toList_ofList, hcut.lexemes_before, htype]
  · -- A longer beginning has the character at the offset, so it is refused as well.
    have hsplit : before ++ c :: after = longer.toList ++ others.toList := by
      rw [← hcut.text_eq, hlonger, String.toList_append]
    have hlength : utf8Length before < utf8Length longer.toList := by
      rw [hposition, ← utf8ByteSize_ofList, String.ofList_toList]
      exact hsize
    obtain ⟨more, hmore⟩ := exists_append_of_longer hsplit hlength
    have heq : longer = String.ofList before ++ String.singleton c ++ String.ofList more := by
      apply String.toList_injective
      rw [hchars, String.toList_ofList, hmore]
    rw [heq, hrefused] at hread
    cases hread

/-- A name with type arguments takes no further dot. Some of the characters in front of it take two
bytes, and the blank counts as well. -/
theorem trailingInput_ends_longest_type_dot :
    parse "Füße<Öl> .ä" = .error ⟨"Füße<Öl> .ä", .trailingInput 12⟩ ∧
    ∃ start c, start.utf8ByteSize = 12 ∧ (∃ type, parse start = .ok type) ∧
      parse (start ++ String.singleton c ++ "Größe[]") =
        .error ⟨start ++ String.singleton c ++ "Größe[]", .trailingInput 12⟩ := by
  have hrefused : parse "Füße<Öl> .ä" = .error ⟨"Füße<Öl> .ä", .trailingInput 12⟩ := by
    decide +kernel
  obtain ⟨start, c, -, -, hsize, -, -, -, htype, hagain, -⟩ :=
    trailingInput_ends_longest_type _ _ hrefused
  exact ⟨hrefused, start, c, hsize, htype, hagain "Größe[]"⟩

end BundleBuilder.JavaType
