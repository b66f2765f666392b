import SessionProbe.Proofs.Settings.File

set_option autoImplicit false

/-!
Options survive being written. Each character is spelled by what is written for it, so a written
text is an object of the grammar in either layout, and its one member holds the filter.
-/

namespace SessionProbe.Settings

open Json Text

theorem isHexDigit_digitChar {n : Nat} (small : n < 16) : IsHexDigit (Nat.digitChar n) n := by
  unfold IsHexDigit
  revert n
  decide

/-- A control character is written as its number, of which the upper half is zero. -/
theorem unit16_control {n : Nat} (control : n < 0x20) (rest : List Char) :
    Unit16 n ('0' :: '0' :: Nat.digitChar (n / 16) :: Nat.digitChar (n % 16) :: rest) rest := by
  have zero : IsHexDigit '0' 0 := .inl rfl
  have upper : IsHexDigit (Nat.digitChar (n / 16)) (n / 16) := isHexDigit_digitChar (by omega)
  have lower : IsHexDigit (Nat.digitChar (n % 16)) (n % 16) := isHexDigit_digitChar (by omega)
  have unit := Unit16.digits zero zero upper lower rest
  have number : 16 * (16 * (16 * 0 + 0) + n / 16) + n % 16 = n := by omega
  rwa [number] at unit

theorem spells_writtenChar (c : Char) {meant text rest : List Char}
    (others : Spells meant text rest) : Spells (c :: meant) (writtenChar c ++ text) rest := by
  unfold writtenChar
  split
  -- Seven characters have a letter of their own.
  iterate 7
    exact .escape (.short (by decide) text) others
  rename_i noQuote noBackslash _ _ _ _ _
  cases control : isControl c with
  | true =>
      rw [if_pos rfl]
      exact .escape (.unit (unit16_control (of_decide_eq_true control) text)) others
  | false =>
      rw [if_neg Bool.false_ne_true]
      exact .plain (isPlain_iff.mpr ⟨noQuote, noBackslash, control⟩) others

theorem spells_written (meant rest : List Char) :
    Spells meant (meant.flatMap writtenChar ++ '"' :: rest) rest := by
  induction meant with
  | nil => exact .close rest
  | cons c meant ih =>
      rw [List.flatMap_cons, List.append_assoc]
      exact spells_writtenChar c ih

theorem means_written (text : String) (rest : List Char) :
    Means (some text) (text.toList.flatMap writtenChar ++ '"' :: rest) rest := by
  have spelled := Means.text (spells_written text.toList rest)
  rwa [String.ofList_toList] at spelled

theorem toList_writtenString_append (text : String) (rest : List Char) :
    (writtenString text).toList ++ rest =
      '"' :: (text.toList.flatMap writtenChar ++ '"' :: rest) := by
  simp [writtenString]

theorem member_written (filter : String) (rest : List Char) {gap : List Char}
    (before : Blanks gap ((writtenString filter).toList ++ rest)) :
    Form (.member ⟨some logFilterKey, some filter⟩)
      ((writtenString logFilterKey).toList ++ ':' :: gap) rest := by
  rw [toList_writtenString_append] at before ⊢
  have value := Form.string (means_written filter rest)
  exact .member (means_written logFilterKey _) (.none _) before value

theorem isObject_compact (options : Options) :
    IsObject [⟨some logFilterKey, some options.logFilter⟩] options.compact.toList := by
  have layout : options.compact.toList = '\x7b' :: ((writtenString logFilterKey).toList ++
      ':' :: ((writtenString options.logFilter).toList ++ ['\x7d'])) := by
    simp [Options.compact]
  rw [layout]
  have member := member_written options.logFilter ['\x7d'] (.none _)
  exact ⟨_, [], .none _, .object (.none _) (.lastMember member (.none _)), .none []⟩

theorem isObject_pretty (options : Options) :
    IsObject [⟨some logFilterKey, some options.logFilter⟩] options.pretty.toList := by
  have layout : options.pretty.toList = '\x7b' :: '\n' :: ' ' :: ' ' ::
      ((writtenString logFilterKey).toList ++
        ':' :: ' ' :: ((writtenString options.logFilter).toList ++ ['\n', '\x7d'])) := by
    simp [Options.pretty]
  rw [layout]
  have blank (text : List Char) : Blanks (' ' :: text) text := .more (.inl rfl) (.none text)
  have line {text rest : List Char} (blanks : Blanks text rest) : Blanks ('\n' :: text) rest :=
    .more (.inr (.inr (.inl rfl))) blanks
  have member := member_written options.logFilter ['\n', '\x7d'] (blank _)
  have indent (text : List Char) : Blanks ('\n' :: ' ' :: ' ' :: text) text :=
    line ((blank _).trans (blank _))
  exact ⟨_, [], .none _, .object (indent _) (.lastMember member (line (.none _))), .none []⟩

/-- A text gives back the options, and so does any settings file that holds it. -/
structure Options.KeptIn (options : Options) (text : String) : Prop where
  parsed : Options.parse text = .ok options
  loaded (path : String) :
    load path (.octets (Utf8.encode text)) = { options, path, problem := none }

theorem Options.keptIn_of_isObject {options : Options} {text : String}
    (form : IsObject [⟨some logFilterKey, some options.logFilter⟩] text.toList) :
    options.KeptIn text := by
  have told : settled [⟨some logFilterKey, some options.logFilter⟩] = some options := rfl
  have parsed := parse_of_settled form told
  refine ⟨parsed, fun path => ?_⟩
  rw [load, options_of_parse path parsed]

/-- Every filter, whatever stands in it, comes back from either layout. -/
theorem Options.kept_when_written (options : Options) :
    options.KeptIn options.compact ∧ options.KeptIn options.pretty :=
  ⟨keptIn_of_isObject (isObject_compact options), keptIn_of_isObject (isObject_pretty options)⟩

end SessionProbe.Settings
