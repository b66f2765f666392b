import Mathlib.Logic.Basic
import SessionProbe.Json.Skip
import SessionProbe.Proofs.Json.Scan
import SessionProbe.Proofs.Text.Utf8

set_option autoImplicit false

/-!
Strings. `string` reads what a string means; a string that means nothing is refused. Going past a
string asks for less, that its form be right.
-/

namespace SessionProbe.Json

open Text (hexDigit? hexNumber?)
open Text.Utf8 (toNat_ofNat_of_isValidChar)

/-! ### Hexadecimal digits -/

theorem IsHexDigit.lt {c : Char} {n : Nat} (digit : IsHexDigit c n) : n < 16 := by
  rcases digit with lower | upper
  · exact (List.getElem?_eq_some_iff.mp lower).1
  · exact (List.getElem?_eq_some_iff.mp upper).1

/-- The characters of a stretch are those of the numbers in it. -/
theorem exists_offset {c low high : Char} (between : low ≤ c ∧ c ≤ high) :
    ∃ m, m < high.toNat + 1 - low.toNat ∧ c = Char.ofNat (low.toNat + m) := by
  have least : low.toNat ≤ c.toNat := UInt32.le_iff_toNat_le.mp between.1
  have most : c.toNat ≤ high.toNat := UInt32.le_iff_toNat_le.mp between.2
  refine ⟨c.toNat - low.toNat, by omega, ?_⟩
  rw [Nat.add_sub_cancel' least, Char.ofNat_toNat]

theorem isHexDigit_of_hexDigit? {c : Char} {n : Nat} (read : hexDigit? c = some n) :
    IsHexDigit c n := by
  have numbers : ∀ m < 10, IsHexDigit (Char.ofNat (48 + m)) ((Char.ofNat (48 + m)).toNat - 48) := by
    unfold IsHexDigit
    decide
  have lower : ∀ m < 6,
      IsHexDigit (Char.ofNat (97 + m)) ((Char.ofNat (97 + m)).toNat - 97 + 10) := by
    unfold IsHexDigit
    decide
  have upper : ∀ m < 6,
      IsHexDigit (Char.ofNat (65 + m)) ((Char.ofNat (65 + m)).toNat - 65 + 10) := by
    unfold IsHexDigit
    decide
  unfold hexDigit? at read
  split at read
  · rename_i digit
    obtain ⟨m, small, rfl⟩ := exists_offset ((isDigit_iff c).mp digit)
    cases read
    exact numbers m small
  · split at read
    · rename_i letter
      obtain ⟨m, small, rfl⟩ := exists_offset letter
      cases read
      exact lower m small
    · split at read
      · rename_i letter
        obtain ⟨m, small, rfl⟩ := exists_offset letter
        cases read
        exact upper m small
      · cases read

theorem hexDigit?_eq_some_iff {c : Char} {n : Nat} : hexDigit? c = some n ↔ IsHexDigit c n := by
  refine ⟨isHexDigit_of_hexDigit?, ?_⟩
  rintro (lower | upper)
  · obtain ⟨bound, rfl⟩ := List.getElem?_eq_some_iff.mp lower
    revert n
    decide
  · obtain ⟨bound, rfl⟩ := List.getElem?_eq_some_iff.mp upper
    revert n
    decide

theorem hexNumber?_four (c₁ c₂ c₃ c₄ : Char) (n : Nat) :
    hexNumber? [c₁, c₂, c₃, c₄] = some n ↔
      ∃ n₁ n₂ n₃ n₄, hexDigit? c₁ = some n₁ ∧ hexDigit? c₂ = some n₂ ∧ hexDigit? c₃ = some n₃ ∧
        hexDigit? c₄ = some n₄ ∧ 16 * (16 * (16 * n₁ + n₂) + n₃) + n₄ = n := by
  simp [hexNumber?, Option.bind_eq_some_iff]

theorem gives_hexEscape {n : Nat} {text rest : List Char} (unit : Unit16 n text rest) :
    Gives hexEscape text n rest := by
  cases unit with
  | @digits c₁ c₂ c₃ c₄ n₁ n₂ n₃ n₄ first second third fourth =>
      have number := (hexNumber?_four c₁ c₂ c₃ c₄ _).mpr ⟨n₁, n₂, n₃, n₄,
        hexDigit?_eq_some_iff.mpr first, hexDigit?_eq_some_iff.mpr second,
        hexDigit?_eq_some_iff.mpr third, hexDigit?_eq_some_iff.mpr fourth, rfl⟩
      intro place
      refine ⟨place + 4, ?_⟩
      unfold hexEscape
      rw [List.take_succ_cons, List.take_succ_cons, List.take_succ_cons, List.take_succ_cons,
        List.take_zero, number]
      rfl

theorem Reads.unit16 {n : Nat} {text rest : List Char} (reads : Reads hexEscape text n rest) :
    Unit16 n text rest := by
  obtain ⟨place, next, run⟩ := reads
  unfold hexEscape at run
  split at run
  · rename_i found number
    split at run
    · rename_i long
      obtain ⟨c₁, c₂, c₃, c₄, behind, rfl⟩ :
          ∃ c₁ c₂ c₃ c₄ behind, text = c₁ :: c₂ :: c₃ :: c₄ :: behind := by
        rcases text with _ | ⟨c₁, _ | ⟨c₂, _ | ⟨c₃, _ | ⟨c₄, behind⟩⟩⟩⟩ <;> simp at long ⊢
      cases run
      obtain ⟨n₁, n₂, n₃, n₄, first, second, third, fourth, rfl⟩ :=
        (hexNumber?_four c₁ c₂ c₃ c₄ n).mp number
      exact .digits (hexDigit?_eq_some_iff.mp first) (hexDigit?_eq_some_iff.mp second)
        (hexDigit?_eq_some_iff.mp third) (hexDigit?_eq_some_iff.mp fourth) _
    · cases run
  · dsimp only at run
    split at run <;> cases run

/-! ### Escapes -/

theorem shortEscape?_eq_some_iff {letter c : Char} :
    shortEscape? letter = some c ↔ (letter, c) ∈ shortForms := by
  unfold shortEscape? shortForms
  split <;> simp_all [eq_comm]

theorem u_not_short (c : Char) : ('u', c) ∉ shortForms := by
  intro member
  cases shortEscape?_eq_some_iff.mpr member

theorem gives_secondHalf (c : Char) (text : List Char) :
    Gives (secondHalf c) (c :: text) () text := by
  refine (gives_peek _).bind ?_
  dsimp only [List.head?_cons]
  rw [if_pos rfl]
  exact gives_skip c text

theorem Reads.of_secondHalf {c : Char} {nothing : Unit} {text rest : List Char}
    (reads : Reads (secondHalf c) text nothing rest) : text = c :: rest := by
  have next := reads.after (gives_peek text)
  cases text with
  | nil => exact absurd next (fails_fail _ _).not_reads
  | cons first text =>
      dsimp only [List.head?_cons] at next
      by_cases same : first = c
      · rw [if_pos same] at next
        rw [same, next.of_skip]
      · rw [if_neg same] at next
        exact absurd next (fails_fail _ _).not_reads

theorem isLeadingSurrogate_iff (n : Nat) :
    isLeadingSurrogate n = true ↔ 0xD800 ≤ n ∧ n ≤ 0xDBFF := by
  simp [isLeadingSurrogate]

theorem isTrailingSurrogate_iff (n : Nat) :
    isTrailingSurrogate n = true ↔ 0xDC00 ≤ n ∧ n ≤ 0xDFFF := by
  simp [isTrailingSurrogate]

theorem Unit16.lt {n : Nat} {text rest : List Char} (unit : Unit16 n text rest) :
    n < 0x10000 := by
  cases unit with
  | digits first second third fourth =>
      have bounds := And.intro first.lt (And.intro second.lt (And.intro third.lt fourth.lt))
      omega

theorem Unit16.length_eq {n : Nat} {text rest : List Char} (unit : Unit16 n text rest) :
    text.length = rest.length + 4 := by
  cases unit
  rfl

theorem gives_unicodeEscape {c : Char} {text rest : List Char}
    (unit : Unit16 c.toNat text rest) : Gives unicodeEscape text c rest := by
  refine (gives_hexEscape unit).bind ?_
  have valid : c.toNat < 0xD800 ∨ 0xDFFF < c.toNat := c.valid.imp_right And.left
  rw [if_neg (by rw [isTrailingSurrogate_iff]; omega),
    if_neg (by rw [isLeadingSurrogate_iff]; omega), Char.ofNat_toNat]
  exact gives_pure c rest

theorem gives_unicodeEscape_pair {c : Char} {high low : Nat} {text middle rest : List Char}
    (leading : 0xD800 ≤ high ∧ high ≤ 0xDBFF) (trailing : 0xDC00 ≤ low ∧ low ≤ 0xDFFF)
    (first : Unit16 high text ('\\' :: 'u' :: middle)) (second : Unit16 low middle rest)
    (paired : c.toNat = (high - 0xD800) * 0x400 + (low - 0xDC00) + 0x10000) :
    Gives unicodeEscape text c rest := by
  refine (gives_hexEscape first).bind ?_
  rw [if_neg (by rw [isTrailingSurrogate_iff]; omega),
    if_pos ((isLeadingSurrogate_iff high).mpr leading)]
  refine (gives_secondHalf _ _).bind ((gives_secondHalf _ _).bind ?_)
  refine (gives_hexEscape second).bind ?_
  rw [if_pos ((isTrailingSurrogate_iff low).mpr trailing), ← paired, Char.ofNat_toNat]
  exact gives_pure c rest

theorem gives_escape {c : Char} {text rest : List Char} (escaped : Escape c text rest) :
    Gives escape text c rest := by
  refine (gives_peek _).bind ?_
  cases escaped with
  | @short letter _ listed =>
      have ordinary : letter ≠ 'u' := by
        rintro rfl
        exact u_not_short c listed
      dsimp only [List.head?_cons]
      rw [if_neg ordinary, shortEscape?_eq_some_iff.mpr listed]
      exact (gives_skip _ _).bind (gives_pure c rest)
  | unit unit => exact (gives_skip _ _).bind (gives_unicodeEscape unit)
  | pair leading trailing first second paired =>
      exact (gives_skip _ _).bind (gives_unicodeEscape_pair leading trailing first second paired)

theorem Reads.unicodeEscape {c : Char} {text rest : List Char}
    (reads : Reads unicodeEscape text c rest) : Escape c ('u' :: text) rest := by
  obtain ⟨first, middle, unit, next⟩ := reads.bind
  have lead := unit.unit16
  by_cases late : isTrailingSurrogate first = true
  · rw [if_pos late] at next
    exact absurd next (fails_failHere _ _).not_reads
  · rw [if_neg late] at next
    by_cases early : isLeadingSurrogate first = true
    · rw [if_pos early] at next
      obtain ⟨_, behind, backslash, next⟩ := next.bind
      obtain ⟨_, behind', letter, next⟩ := next.bind
      obtain ⟨second, last, unit, next⟩ := next.bind
      rw [backslash.of_secondHalf, letter.of_secondHalf] at lead
      by_cases partner : isTrailingSurrogate second = true
      · rw [if_pos partner] at next
        obtain ⟨same, rfl⟩ := next.of_pure
        have leading := (isLeadingSurrogate_iff first).mp early
        have trailing := (isTrailingSurrogate_iff second).mp partner
        rw [same]
        exact .pair leading trailing lead unit.unit16
          (toNat_ofNat_of_isValidChar (Or.inr ⟨by omega, by omega⟩))
      · rw [if_neg partner] at next
        exact absurd next (fails_failHere _ _).not_reads
    · rw [if_neg early] at next
      obtain ⟨rfl, rfl⟩ := next.of_pure
      have small := lead.lt
      rw [isTrailingSurrogate_iff] at late
      rw [isLeadingSurrogate_iff] at early
      have same : (Char.ofNat first).toNat = first := by
        apply toNat_ofNat_of_isValidChar
        unfold Nat.isValidChar
        omega
      apply Escape.unit
      rw [same]
      exact lead

theorem Reads.escape {c : Char} {text rest : List Char} (reads : Reads escape text c rest) :
    Escape c text rest := by
  have next := reads.after (gives_peek text)
  cases text with
  | nil => exact absurd next (fails_fail _ _).not_reads
  | cons letter text =>
      dsimp only [List.head?_cons] at next
      by_cases unicode : letter = 'u'
      · rw [if_pos unicode] at next
        subst unicode
        exact (next.after (gives_skip _ _)).unicodeEscape
      · rw [if_neg unicode] at next
        cases short : shortEscape? letter with
        | none =>
            rw [short] at next
            exact absurd next (fails_fail _ _).not_reads
        | some meant =>
            rw [short] at next
            obtain ⟨rfl, rfl⟩ := (next.after (gives_skip _ _)).of_pure
            exact .short (shortEscape?_eq_some_iff.mp short) _

theorem gives_skipEscape {text rest : List Char} (form : EscapeForm text rest) :
    Gives skipEscape text () rest := by
  refine (gives_peek _).bind ?_
  cases form with
  | @short letter c listed =>
      have ordinary : letter ≠ 'u' := by
        rintro rfl
        exact u_not_short c listed
      have known : (shortEscape? letter).isSome = true := by
        rw [shortEscape?_eq_some_iff.mpr listed]
        rfl
      dsimp only [List.head?_cons]
      rw [if_neg ordinary, if_pos known]
      exact gives_skip _ _
  | unit unit =>
      exact (gives_skip _ _).bind ((gives_hexEscape unit).bind (gives_pure _ _))

theorem Reads.skipEscape {nothing : Unit} {text rest : List Char}
    (reads : Reads skipEscape text nothing rest) : EscapeForm text rest := by
  have next := reads.after (gives_peek text)
  cases text with
  | nil => exact absurd next (fails_fail _ _).not_reads
  | cons letter text =>
      dsimp only [List.head?_cons] at next
      by_cases unicode : letter = 'u'
      · rw [if_pos unicode] at next
        subst unicode
        obtain ⟨n, middle, unit, next⟩ := (next.after (gives_skip _ _)).bind
        rw [next.of_pure.2]
        exact .unit unit.unit16
      · rw [if_neg unicode] at next
        by_cases known : (shortEscape? letter).isSome = true
        · rw [if_pos known] at next
          obtain ⟨c, short⟩ := Option.isSome_iff_exists.mp known
          rw [next.of_skip]
          exact .short (shortEscape?_eq_some_iff.mp short) _
        · rw [if_neg known] at next
          exact absurd next (fails_fail _ _).not_reads

/-! ### What strings mean -/

theorem isPlain_iff {c : Char} :
    IsPlain c ↔ c ≠ '"' ∧ c ≠ '\\' ∧ isControl c = false := by
  simp [IsPlain, isControl, and_comm, and_assoc]

theorem Escape.length_lt {c : Char} {text rest : List Char} (escaped : Escape c text rest) :
    rest.length < text.length := by
  cases escaped with
  | short listed => exact Nat.lt_succ_self _
  | unit unit =>
      have length := unit.length_eq
      rw [List.length_cons]
      omega
  | pair leading trailing first second paired =>
      have length := first.length_eq
      have behind := second.length_eq
      simp only [List.length_cons] at length ⊢
      omega

theorem gives_stringRest {meant text rest : List Char} (spelled : Spells meant text rest)
    {fuel : Nat} (enough : text.length < fuel) : Gives (stringRest fuel) text meant rest := by
  induction spelled generalizing fuel with
  | close rest =>
      cases fuel with
      | zero => cases enough
      | succ fuel =>
          refine (gives_peek _).bind ?_
          dsimp only [List.head?_cons]
          rw [if_pos rfl]
          exact (gives_skip _ _).bind (gives_pure _ _)
  | plain plain _ ih =>
      cases fuel with
      | zero => cases enough
      | succ fuel =>
          obtain ⟨noQuote, noEscape, noControl⟩ := isPlain_iff.mp plain
          refine (gives_peek _).bind ?_
          dsimp only [List.head?_cons]
          rw [if_neg noQuote, if_neg noEscape, noControl, if_neg Bool.false_ne_true]
          exact (gives_skip _ _).bind ((ih (Nat.lt_of_succ_lt_succ enough)).bind (gives_pure _ _))
  | escape escaped _ ih =>
      cases fuel with
      | zero => cases enough
      | succ fuel =>
          have shorter := escaped.length_lt
          refine (gives_peek _).bind ?_
          dsimp only [List.head?_cons]
          rw [if_neg (by decide), if_pos rfl]
          refine (gives_skip _ _).bind ((gives_escape escaped).bind ?_)
          exact (ih (by simp only [List.length_cons] at enough; omega)).bind (gives_pure _ _)

theorem Reads.spells {fuel : Nat} {meant text rest : List Char}
    (reads : Reads (stringRest fuel) text meant rest) : Spells meant text rest := by
  induction fuel generalizing meant text with
  | zero => exact absurd reads (fails_fail _ _).not_reads
  | succ fuel ih =>
      have next := reads.after (gives_peek text)
      cases text with
      | nil => exact absurd next (fails_fail _ _).not_reads
      | cons c text =>
          dsimp only [List.head?_cons] at next
          by_cases quote : c = '"'
          · rw [if_pos quote] at next
            obtain ⟨rfl, rfl⟩ := (next.after (gives_skip _ _)).of_pure
            subst quote
            exact .close _
          · rw [if_neg quote] at next
            by_cases backslash : c = '\\'
            · rw [if_pos backslash] at next
              obtain ⟨first, middle, escaped, next⟩ := (next.after (gives_skip _ _)).bind
              obtain ⟨others, behind, behindReads, next⟩ := next.bind
              obtain ⟨rfl, rfl⟩ := next.of_pure
              subst backslash
              exact .escape escaped.escape (ih behindReads)
            · rw [if_neg backslash] at next
              cases control : isControl c with
              | true =>
                  rw [control, if_pos rfl] at next
                  exact absurd next (fails_fail _ _).not_reads
              | false =>
                  rw [control, if_neg Bool.false_ne_true] at next
                  obtain ⟨others, behind, behindReads, next⟩ := (next.after (gives_skip _ _)).bind
                  obtain ⟨rfl, rfl⟩ := next.of_pure
                  exact .plain (isPlain_iff.mpr ⟨quote, backslash, control⟩) (ih behindReads)

theorem gives_string {meant text rest : List Char} (spelled : Spells meant text rest) :
    Gives string text (String.ofList meant) rest := by
  apply Gives.after_get
  intro place
  exact (gives_stringRest spelled (Nat.lt_succ_self _)).bind (gives_pure _ _)

theorem Reads.string {text rest : List Char} {said : String} (reads : Reads string text said rest) :
    Means (some said) text rest := by
  obtain ⟨place, next⟩ := reads.after_get
  obtain ⟨meant, middle, spelled, next⟩ := next.bind
  obtain ⟨rfl, rfl⟩ := next.of_pure
  exact .text spelled.spells

theorem string_means {said : Option String} {text rest : List Char}
    (means : Means said text rest) : Ends string text said rest := by
  cases means with
  | text spelled => exact gives_string spelled
  | nothing quotation unpaired =>
      refine fails_of_not_reads fun value behind reads => ?_
      cases reads.string with
      | text spelled => exact unpaired _ _ spelled

/-! ### Going past strings -/

theorem EscapeForm.length_lt {text rest : List Char} (form : EscapeForm text rest) :
    rest.length < text.length := by
  cases form with
  | short listed => exact Nat.lt_succ_self _
  | unit unit =>
      have length := unit.length_eq
      rw [List.length_cons]
      omega

theorem gives_skipStringRest {text rest : List Char} (quotation : Quotation text rest)
    {fuel : Nat} (enough : text.length < fuel) : Gives (skipStringRest fuel) text () rest := by
  induction quotation generalizing fuel with
  | close rest =>
      cases fuel with
      | zero => cases enough
      | succ fuel =>
          refine (gives_peek _).bind ?_
          dsimp only [List.head?_cons]
          rw [if_pos rfl]
          exact gives_skip _ _
  | plain plain _ ih =>
      cases fuel with
      | zero => cases enough
      | succ fuel =>
          obtain ⟨noQuote, noEscape, noControl⟩ := isPlain_iff.mp plain
          refine (gives_peek _).bind ?_
          dsimp only [List.head?_cons]
          rw [if_neg noQuote, if_neg noEscape, noControl, if_neg Bool.false_ne_true]
          exact (gives_skip _ _).bind (ih (Nat.lt_of_succ_lt_succ enough))
  | escape form _ ih =>
      cases fuel with
      | zero => cases enough
      | succ fuel =>
          have shorter := form.length_lt
          refine (gives_peek _).bind ?_
          dsimp only [List.head?_cons]
          rw [if_neg (by decide), if_pos rfl]
          refine (gives_skip _ _).bind ((gives_skipEscape form).bind ?_)
          exact ih (by simp only [List.length_cons] at enough; omega)

theorem Reads.skipStringRest {fuel : Nat} {nothing : Unit} {text rest : List Char}
    (reads : Reads (skipStringRest fuel) text nothing rest) : Quotation text rest := by
  induction fuel generalizing text with
  | zero => exact absurd reads (fails_fail _ _).not_reads
  | succ fuel ih =>
      have next := reads.after (gives_peek text)
      cases text with
      | nil => exact absurd next (fails_fail _ _).not_reads
      | cons c text =>
          dsimp only [List.head?_cons] at next
          by_cases quote : c = '"'
          · rw [if_pos quote] at next
            rw [next.of_skip, quote]
            exact .close _
          · rw [if_neg quote] at next
            by_cases backslash : c = '\\'
            · rw [if_pos backslash] at next
              obtain ⟨_, middle, skipped, next⟩ := (next.after (gives_skip _ _)).bind
              rw [backslash]
              exact .escape skipped.skipEscape (ih next)
            · rw [if_neg backslash] at next
              cases control : isControl c with
              | true =>
                  rw [control, if_pos rfl] at next
                  exact absurd next (fails_failHere _ _).not_reads
              | false =>
                  rw [control, if_neg Bool.false_ne_true] at next
                  exact .plain (isPlain_iff.mpr ⟨quote, backslash, control⟩)
                    (ih (next.after (gives_skip _ _)))

theorem gives_skipString {text rest : List Char} (quotation : Quotation text rest) :
    Gives skipString text () rest :=
  Gives.after_get fun _ => gives_skipStringRest quotation (Nat.lt_succ_self _)

theorem Spells.quotation {meant text rest : List Char} (spelled : Spells meant text rest) :
    Quotation text rest := by
  induction spelled with
  | close rest => exact .close rest
  | plain plain _ ih => exact .plain plain ih
  | escape escaped _ ih =>
      cases escaped with
      | short listed => exact .escape (.short listed _) ih
      | unit unit => exact .escape (.unit unit) ih
      | pair leading trailing first second paired =>
          exact .escape (.unit first) (.escape (.unit second) ih)

theorem Means.quotation {said : Option String} {text rest : List Char}
    (means : Means said text rest) : Quotation text rest := by
  cases means with
  | text spelled => exact spelled.quotation
  | nothing quotation unpaired => exact quotation

theorem Quotation.exists_means {text rest : List Char} (quotation : Quotation text rest) :
    ∃ said, Means said text rest := by
  by_cases spelled : ∃ meant behind, Spells meant text behind
  · obtain ⟨meant, behind, here⟩ := spelled
    -- A string has one end, where going past it stops.
    have ends := (gives_skipString here.quotation).reads.unique (gives_skipString quotation)
    rw [← ends.2]
    exact ⟨_, .text here⟩
  · exact ⟨none, .nothing quotation fun meant behind here => spelled ⟨meant, behind, here⟩⟩

theorem Reads.skipString {nothing : Unit} {text rest : List Char}
    (reads : Reads skipString text nothing rest) : ∃ said, Means said text rest := by
  obtain ⟨place, next⟩ := reads.after_get
  exact next.skipStringRest.exists_means

end SessionProbe.Json
