import SessionProbe.Journal.Filter
import SessionProbe.Proofs.Journal.Directive

set_option autoImplicit false

/-!
When the choice of a log filter crashes the program. The directives of the environment are read up to
the first that is refused, those of the settings all, and a crash at any of them ends the program.
-/

namespace SessionProbe.Journal.Filter

variable {check : ValueCheck}

/-- Directives are read one after the other, and the first that is not read meets a mishap. -/
inductive Meets (check : ValueCheck) (mishap : Mishap) : List (List Char) → Prop
  | here {text : List Char} {rest : List (List Char)}
      (failed : Directive.parse check text = .error mishap) : Meets check mishap (text :: rest)
  | later {text : List Char} {rest : List (List Char)} {directive : Directive}
      (read : Directive.parse check text = .ok directive) (behind : Meets check mishap rest) :
      Meets check mishap (text :: rest)

/-- The choice between the filter of the environment and the one in the settings crashes. -/
inductive Crashes (check : ValueCheck) (settings : String) : (environment : Option String) → Prop
  | environment {given : String} (crashed : Meets check .crash (texts given)) :
      Crashes check settings (some given)
  /-- The settings count if there is no other filter, or a directive of it is refused. -/
  | settings {environment : Option String} {text : List Char}
      (unread : ∀ given, environment = some given →
        ∃ fault, Meets check (.refused fault) (texts given))
      (among : text ∈ texts settings) (crashed : Directive.parse check text = .error .crash) :
      Crashes check settings environment

theorem meets_cons_iff {mishap : Mishap} {text : List Char} {rest : List (List Char)} :
    Meets check mishap (text :: rest) ↔ Directive.parse check text = .error mishap ∨
      ∃ directive, Directive.parse check text = .ok directive ∧ Meets check mishap rest := by
  constructor
  · intro meets
    cases meets with
    | here failed => exact .inl failed
    | later read behind => exact .inr ⟨_, read, behind⟩
  · rintro (failed | ⟨directive, read, behind⟩)
    · exact .here failed
    · exact .later read behind

theorem Meets.exists_mem {mishap : Mishap} {listed : List (List Char)}
    (meets : Meets check mishap listed) :
    ∃ text ∈ listed, Directive.parse check text = .error mishap := by
  induction meets with
  | here failed => exact ⟨_, List.mem_cons_self, failed⟩
  | later _ _ ih =>
      obtain ⟨text, among, failed⟩ := ih
      exact ⟨text, List.mem_cons_of_mem _ among, failed⟩

theorem bind_eq_error_iff {ε α β : Type} {result : Except ε α} {next : α → Except ε β} {error : ε} :
    (result >>= next) = .error error ↔
      result = .error error ∨ ∃ value, result = .ok value ∧ next value = .error error := by
  cases result with
  | error other =>
      constructor
      · intro failed
        exact .inl (congrArg _ (Except.error.inj failed))
      · rintro (same | ⟨value, read, _⟩)
        · exact congrArg _ (Except.error.inj same)
        · cases read
  | ok value =>
      constructor
      · intro failed
        exact .inr ⟨value, rfl, failed⟩
      · rintro (same | ⟨value', read, failed⟩)
        · cases same
        · cases read
          exact failed

theorem mapM_eq_error_iff {mishap : Mishap} {listed : List (List Char)} :
    listed.mapM (Directive.parse check) = .error mishap ↔ Meets check mishap listed := by
  induction listed with
  | nil =>
      constructor
      · intro failed
        cases failed
      · intro meets
        cases meets
  | cons text rest ih =>
      simp only [List.mapM_cons, bind_eq_error_iff, ih, meets_cons_iff, pure, Except.pure,
        reduceCtorEq, and_false, exists_false, or_false]

theorem parse_eq_error_iff {mishap : Mishap} {text : String} :
    parse check text = .error mishap ↔ Meets check mishap (texts text) := by
  simp only [parse, bind_eq_error_iff, mapM_eq_error_iff, pure, Except.pure, reduceCtorEq,
    and_false, exists_false, or_false]

theorem readable_filter_eq_none_iff {listed : List (List Char)} :
    (readable check listed).filter = none ↔
      ∃ text ∈ listed, Directive.parse check text = .error .crash := by
  induction listed with
  | nil => simp [readable]
  | cons text rest ih =>
      rw [readable]
      cases first : Directive.parse check text with
      | ok directive => simp [ih, first]
      | error mishap =>
          cases mishap with
          | refused fault => simp [ih, first]
          | crash => simp [first]

/-- The choice crashes just when a directive does that is read for it. -/
theorem choose_filter_eq_none_iff {environment : Option String} {settings : String} :
    (choose check environment settings).filter = none ↔ Crashes check settings environment := by
  unfold choose
  cases environment with
  | none =>
      refine readable_filter_eq_none_iff.trans ⟨?_, ?_⟩
      · rintro ⟨text, among, crashed⟩
        exact .settings nofun among crashed
      · rintro (_ | ⟨_, among, crashed⟩)
        exact ⟨_, among, crashed⟩
  | some given =>
      rw [Option.map_some]
      cases read : parse check given with
      | ok filter =>
          refine ⟨nofun, ?_⟩
          rintro (crashed | ⟨unread, _, _⟩)
          · cases read.symm.trans (parse_eq_error_iff.mpr crashed)
          · obtain ⟨fault, refused⟩ := unread given rfl
            cases read.symm.trans (parse_eq_error_iff.mpr refused)
      | error mishap =>
          have meets := parse_eq_error_iff.mp read
          cases mishap with
          | crash => exact ⟨fun _ => .environment meets, fun _ => rfl⟩
          | refused fault =>
              refine readable_filter_eq_none_iff.trans ⟨?_, ?_⟩
              · rintro ⟨text, among, crashed⟩
                exact .settings (by rintro _ ⟨rfl⟩; exact ⟨fault, meets⟩) among crashed
              · rintro (crashed | ⟨_, among, crashed⟩)
                · cases read.symm.trans (parse_eq_error_iff.mpr crashed)
                · exact ⟨_, among, crashed⟩

theorem complaint_of_mem_readable {listed : List (List Char)} {line : String}
    (complained : line ∈ (readable check listed).complaints) :
    ∃ text ∈ listed, ∃ fault, Directive.parse check text = .error (.refused fault) ∧
      line = complaint text fault := by
  induction listed with
  | nil => cases complained
  | cons text rest ih =>
      have later (among : line ∈ (readable check rest).complaints) :
          ∃ text' ∈ text :: rest, ∃ fault,
            Directive.parse check text' = .error (.refused fault) ∧ line = complaint text' fault := by
        obtain ⟨text', member, refused⟩ := ih among
        exact ⟨text', List.mem_cons_of_mem text member, refused⟩
      rw [readable] at complained
      cases first : Directive.parse check text with
      | ok directive =>
          rw [first] at complained
          exact later complained
      | error mishap =>
          rw [first] at complained
          cases mishap with
          | refused fault =>
              rcases List.mem_cons.mp complained with rfl | among
              · exact ⟨text, List.mem_cons_self, fault, first, rfl⟩
              · exact later among
          | crash => cases complained

/-- Each complaint is about a directive of the settings, and says why it is refused. -/
theorem complaint_of_mem {environment : Option String} {settings line : String}
    (complained : line ∈ (choose check environment settings).complaints) :
    ∃ text ∈ texts settings, ∃ fault, Directive.parse check text = .error (.refused fault) ∧
      line = complaint text fault := by
  unfold choose at complained
  split at complained
  · cases complained
  · cases complained
  · exact complaint_of_mem_readable complained
  · exact complaint_of_mem_readable complained

/-- A filter crashes only over a directive with a blank in front and a character outside ASCII. -/
theorem Crashes.needs {environment : Option String} {settings : String}
    (crashes : Crashes check settings environment) :
    ∃ given, (environment = some given ∨ given = settings) ∧ ∃ text ∈ texts given,
      (∃ c ∈ text.head?, Text.isBlank c = true) ∧ ∃ c ∈ text, 0x80 ≤ c.toNat := by
  cases crashes with
  | environment crashed =>
      obtain ⟨text, among, failed⟩ := crashed.exists_mem
      exact ⟨_, .inl rfl, text, among, Directive.crash_needs failed⟩
  | settings _ among crashed =>
      exact ⟨settings, .inr rfl, _, among, Directive.crash_needs crashed⟩

end SessionProbe.Journal.Filter
