import SessionProbe.Proofs.Text.Digits
import SessionProbe.Text.Quoted

set_option autoImplicit false

/-!
Quoted texts. `quoted_append_inj` tells a text from its quotation, whatever stands behind the
closing quote.
-/

namespace SessionProbe.Text

/-- The characters with a short escape, each with the letter behind its backslash. -/
def shortEscapes : List (Char × Char) :=
  [('\x00', '0'), ('\t', 't'), ('\n', 'n'), ('\r', 'r'), ('"', '"'), ('\\', '\\')]

/-- The ways to write a character between quotes. -/
inductive Spells (c : Char) : List Char → Prop
  | plain (notQuote : c ≠ '"') (notBackslash : c ≠ '\\') : Spells c [c]
  | short {letter : Char} (listed : (c, letter) ∈ shortEscapes) : Spells c ['\\', letter]
  | number :
      Spells c ('\\' :: 'u' :: '\x7b' :: ((hexadecimal c.toNat).toList ++ ['\x7d']))

theorem spells_quotedChar (c : Char) : Spells c (quotedChar c).toList := by
  unfold quotedChar
  split
  · exact .short (by decide)
  · exact .short (by decide)
  · exact .short (by decide)
  · exact .short (by decide)
  · exact .short (by decide)
  · exact .short (by decide)
  · rename_i notQuote notBackslash
    split
    · rw [String.toList_append, String.toList_append]
      exact .number
    · rw [String.toList_singleton]
      exact .plain notQuote notBackslash

theorem Spells.head_ne_quote {c : Char} {text : List Char} (spelled : Spells c text) :
    ∃ first rest, text = first :: rest ∧ first ≠ '"' := by
  cases spelled with
  | plain notQuote notBackslash => exact ⟨_, _, rfl, notQuote⟩
  | short listed => exact ⟨_, _, rfl, by decide⟩
  | number => exact ⟨_, _, rfl, by decide⟩

theorem shortEscapes_ne_u {c letter : Char} (listed : (c, letter) ∈ shortEscapes) :
    letter ≠ 'u' := by
  have each : ∀ escape ∈ shortEscapes, escape.2 ≠ 'u' := by decide
  exact each _ listed

theorem shortEscapes_inj {c c' letter : Char} (listed : (c, letter) ∈ shortEscapes)
    (listed' : (c', letter) ∈ shortEscapes) : c = c' := by
  have each : ∀ escape ∈ shortEscapes, ∀ other ∈ shortEscapes, escape.2 = other.2 →
      escape.1 = other.1 := by decide
  exact each _ listed _ listed' rfl

theorem Spells.append_inj {c c' : Char} {text text' rest rest' : List Char}
    (spelled : Spells c text) (spelled' : Spells c' text')
    (same : text ++ rest = text' ++ rest') : c = c' ∧ rest = rest' := by
  cases spelled with
  | plain notQuote notBackslash =>
      cases spelled' with
      | plain => exact List.cons.inj same
      | short => exact absurd (List.cons.inj same).1 notBackslash
      | number => exact absurd (List.cons.inj same).1 notBackslash
  | short listed =>
      cases spelled' with
      | plain notQuote notBackslash => exact absurd (List.cons.inj same).1.symm notBackslash
      | short listed' =>
          cases same
          exact ⟨shortEscapes_inj listed listed', rfl⟩
      | number =>
          cases same
          exact absurd rfl (shortEscapes_ne_u listed)
  | number =>
      cases spelled' with
      | plain notQuote notBackslash => exact absurd (List.cons.inj same).1.symm notBackslash
      | short listed' =>
          cases same
          exact absurd rfl (shortEscapes_ne_u listed')
      | number =>
          simp only [List.cons_append, List.append_assoc, List.nil_append, List.cons.injEq,
            true_and] at same
          have closes (text : List Char) :
              ∀ brace ∈ ('\x7d' :: text).head?, (hexDigit? brace).isSome = false := by
            rintro brace ⟨⟩
            decide
          obtain ⟨numbers, rests⟩ := hexadecimal_append_inj (closes rest) (closes rest') same
          exact ⟨Char.toNat_inj.mp numbers, (List.cons.inj rests).2⟩

theorem toList_quoted (text : String) :
    (quoted text).toList = '"' :: (text.toList.flatMap (fun c => (quotedChar c).toList) ++ ['"']) := by
  simp [quoted, String.toList_join, List.flatMap_map]

/-- The characters in front of the closing quote are told one by one. -/
theorem quotedChars_append_inj {chars chars' rest rest' : List Char}
    (same : chars.flatMap (fun c => (quotedChar c).toList) ++ '"' :: rest =
      chars'.flatMap (fun c => (quotedChar c).toList) ++ '"' :: rest') :
    chars = chars' ∧ rest = rest' := by
  induction chars generalizing chars' with
  | nil =>
      cases chars' with
      | nil => exact ⟨rfl, (List.cons.inj same).2⟩
      | cons c' others' =>
          obtain ⟨first, behind, shape, other⟩ := (spells_quotedChar c').head_ne_quote
          rw [List.flatMap_cons, shape] at same
          exact absurd (List.cons.inj same).1.symm other
  | cons c others ih =>
      cases chars' with
      | nil =>
          obtain ⟨first, behind, shape, other⟩ := (spells_quotedChar c).head_ne_quote
          rw [List.flatMap_cons, shape] at same
          exact absurd (List.cons.inj same).1 other
      | cons c' others' =>
          rw [List.flatMap_cons, List.flatMap_cons, List.append_assoc, List.append_assoc] at same
          obtain ⟨rfl, behind⟩ := (spells_quotedChar c).append_inj (spells_quotedChar c') same
          obtain ⟨rfl, rests⟩ := ih behind
          exact ⟨rfl, rests⟩

theorem quoted_append_inj {text text' : String} {rest rest' : List Char}
    (same : (quoted text).toList ++ rest = (quoted text').toList ++ rest') :
    text = text' ∧ rest = rest' := by
  simp only [toList_quoted, List.cons_append, List.append_assoc, List.nil_append, List.cons.injEq,
    true_and] at same
  obtain ⟨chars, rests⟩ := quotedChars_append_inj same
  exact ⟨String.toList_injective chars, rests⟩

end SessionProbe.Text
