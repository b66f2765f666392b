import SessionProbe.Proofs.Settings.Options
import SessionProbe.Proofs.Text.Decoding
import SessionProbe.Settings.File

set_option autoImplicit false

/-!
Loading settings from any file. `LoadLaw` says which filter is in force and what is reported, by
what is found at the path: nothing, no text, a text that is no JSON, or an object with its members.
-/

namespace SessionProbe.Settings

open Json Text

/-- A filter is in force, and there is nothing to report. -/
structure Loaded.Quiet (loaded : Loaded) (filter : String) : Prop where
  logFilter : loaded.options.logFilter = filter
  report : loaded.report = []

/-- The default filter is in force, and one warning is reported. -/
structure Loaded.Refused (loaded : Loaded) (start : String) : Prop where
  logFilter : loaded.options.logFilter = "warn"
  report : ∃ reason,
    loaded.report = [{ level := .warn, topic := .settings, message := start ++ reason }]

structure LoadLaw (path : String) (file : File) (loaded : Loaded) : Prop where
  missing : file = .missing → loaded.Quiet "warn"
  unreadable (problem : String) : file = .unreadable problem →
    loaded.Refused s!"Failed to read settings {path}: "
  noText (content : List UInt8) : file = .octets content → (∀ text, Utf8.encode text ≠ content) →
    loaded.Refused s!"Failed to read settings {path}: "
  noJson (text : String) : file = .octets (Utf8.encode text) → ¬IsText text.toList →
    loaded.Refused s!"Failed to parse settings {path}: "
  /-- An object whose names can all be told counts by the members that are named as the filter. -/
  object (text : String) (listed : List Member) : file = .octets (Utf8.encode text) →
    IsObject listed text.toList → (∀ member ∈ listed, member.name ≠ none) →
    match filters listed with
    | [] => loaded.Quiet "warn"
    | [⟨_, some filter⟩] => loaded.Quiet filter
    | [⟨_, none⟩] | _ :: _ :: _ => loaded.Refused s!"Failed to parse settings {path}: "
  illegible (text : String) (listed : List Member) : file = .octets (Utf8.encode text) →
    IsObject listed text.toList → (∃ member ∈ listed, member.name = none) →
    loaded.Refused s!"Failed to parse settings {path}: "
  /-- Whatever the file holds, a problem is never passed over and leaves no filter half read. -/
  always : (∃ filter, loaded.Quiet filter) ∨
    loaded.Refused s!"Failed to read settings {path}: " ∨
    loaded.Refused s!"Failed to parse settings {path}: "

section Loading

variable {path text : String} {file : File} {options : Options}

theorem quiet_of_options (found : file.options path = .ok options) :
    (load path file).Quiet options.logFilter := by
  unfold load
  rw [found]
  exact ⟨rfl, rfl⟩

theorem refused_of_options {start reason : String}
    (failed : file.options path = .error (start ++ reason)) : (load path file).Refused start := by
  unfold load
  rw [failed]
  exact ⟨rfl, reason, rfl⟩

theorem options_of_parse (path : String) (parsed : Options.parse text = .ok options) :
    File.options (.octets (Utf8.encode text)) path = .ok options := by
  simp only [File.options, Utf8.decode_encode, parsed]

theorem quiet_of_parse (parsed : Options.parse text = .ok options) :
    (load path (.octets (Utf8.encode text))).Quiet options.logFilter :=
  quiet_of_options (options_of_parse path parsed)

theorem refused_of_parse {fault : Fault} (failed : Options.parse text = .error fault) :
    (load path (.octets (Utf8.encode text))).Refused s!"Failed to parse settings {path}: " := by
  have told : File.options (.octets (Utf8.encode text)) path =
      .error (s!"Failed to parse settings {path}: " ++ fault.message text) := by
    simp only [File.options, Utf8.decode_encode, failed]
  exact refused_of_options told

theorem refused_of_unreadable (problem : String) :
    (load path (.unreadable problem)).Refused s!"Failed to read settings {path}: " :=
  refused_of_options rfl

theorem refused_of_noText {content : List UInt8} (noText : ∀ text, Utf8.encode text ≠ content) :
    (load path (.octets content)).Refused s!"Failed to read settings {path}: " := by
  have failed : File.options (.octets content) path =
      .error (s!"Failed to read settings {path}: " ++ "stream did not contain valid UTF-8") := by
    rw [File.options]
    cases read : Utf8.decode content with
    | ok text => exact absurd (Utf8.encode_of_decode read) (noText text)
    | error fault =>
        have cut : ": stream did not contain valid UTF-8" =
            ": " ++ "stream did not contain valid UTF-8" := rfl
        exact congrArg Except.error ((congrArg _ cut).trans String.append_assoc.symm)
  exact refused_of_options failed

end Loading

theorem parse_noJson {text : String} (noJson : ¬IsText text.toList) :
    ∃ fault, Options.parse text = .error fault := by
  unfold Options.parse
  cases run : document { text := text.toList, place := 0 } with
  | error fault rest => exact ⟨fault, rfl⟩
  | ok options rest => exact absurd (Reads.document ⟨0, rest.place, run⟩) noJson

theorem parse_of_settled {text : String} {listed : List Member} {options : Options}
    (form : IsObject listed text.toList) (told : settled listed = some options) :
    Options.parse text = .ok options := by
  have ends := document_ends form
  rw [told] at ends
  obtain ⟨place, run⟩ := ends 0
  rw [Options.parse, run]

theorem parse_of_unsettled {text : String} {listed : List Member}
    (form : IsObject listed text.toList) (untold : settled listed = none) :
    ∃ fault, Options.parse text = .error fault := by
  have ends := document_ends form
  rw [untold] at ends
  obtain ⟨fault, rest, run⟩ := ends 0
  exact ⟨fault, by rw [Options.parse, run]⟩

/-- Whatever a path leads to, one of four things comes of it. -/
theorem load_always (path : String) (file : File) :
    (∃ filter, (load path file).Quiet filter) ∨
      (load path file).Refused s!"Failed to read settings {path}: " ∨
      (load path file).Refused s!"Failed to parse settings {path}: " := by
  cases file with
  | missing => exact .inl ⟨"warn", rfl, rfl⟩
  | unreadable problem => exact .inr (.inl (refused_of_unreadable problem))
  | octets content =>
      by_cases isText : ∃ text, Utf8.encode text = content
      · obtain ⟨text, rfl⟩ := isText
        cases parsed : Options.parse text with
        | ok options => exact .inl ⟨_, quiet_of_parse parsed⟩
        | error fault => exact .inr (.inr (refused_of_parse parsed))
      · exact .inr (.inl (refused_of_noText (not_exists.mp isText)))

theorem load_object {path text : String} {listed : List Member}
    (form : IsObject listed text.toList) (legible : ∀ member ∈ listed, member.name ≠ none) :
    match filters listed with
    | [] => (load path (.octets (Utf8.encode text))).Quiet "warn"
    | [⟨_, some filter⟩] => (load path (.octets (Utf8.encode text))).Quiet filter
    | [⟨_, none⟩] | _ :: _ :: _ =>
        (load path (.octets (Utf8.encode text))).Refused
          s!"Failed to parse settings {path}: " := by
  split
  · rename_i unset
    exact quiet_of_parse (parse_of_settled form (settled_none legible unset))
  · rename_i name filter sole
    exact quiet_of_parse (parse_of_settled form (settled_one legible sole))
  · rename_i name sole
    obtain ⟨fault, failed⟩ := parse_of_unsettled form (settled_one legible sole)
    exact refused_of_parse failed
  · rename_i first second others several
    obtain ⟨fault, failed⟩ := parse_of_unsettled form (settled_several legible several)
    exact refused_of_parse failed

end SessionProbe.Settings
