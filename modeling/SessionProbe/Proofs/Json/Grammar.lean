set_option autoImplicit false

/-!
The grammar of JSON. Each rule takes a stretch off the front of a text: `Digits text rest` says that
`text` is a row of digits with `rest` behind it. The rule for objects also lists the members, each
with the text that its name stands for and the text that its value stands for, if that is a string.
-/

namespace SessionProbe.Json

/-- What may stand between the parts: blanks, tabs and the two line ends. -/
inductive Blanks : List Char → List Char → Prop
  | none (text : List Char) : Blanks text text
  | more {c : Char} {text rest : List Char} (blank : c = ' ' ∨ c = '\t' ∨ c = '\n' ∨ c = '\r')
      (others : Blanks text rest) : Blanks (c :: text) rest

/-! ### Numbers -/

inductive Digits : List Char → List Char → Prop
  | last {c : Char} (digit : '0' ≤ c ∧ c ≤ '9') (rest : List Char) : Digits (c :: rest) rest
  | more {c : Char} {text rest : List Char} (digit : '0' ≤ c ∧ c ≤ '9')
      (others : Digits text rest) : Digits (c :: text) rest

/-- Only the number zero begins with the digit zero. -/
inductive Whole : List Char → List Char → Prop
  | zero (rest : List Char) : Whole ('0' :: rest) rest
  | digits {c : Char} {text rest : List Char} (first : c ≠ '0') (digits : Digits (c :: text) rest) :
      Whole (c :: text) rest

inductive Fraction : List Char → List Char → Prop
  | none (text : List Char) : Fraction text text
  | digits {text rest : List Char} (digits : Digits text rest) : Fraction ('.' :: text) rest

inductive Exponent : List Char → List Char → Prop
  | none (text : List Char) : Exponent text text
  | unsigned {mark : Char} {text rest : List Char} (marked : mark = 'e' ∨ mark = 'E')
      (digits : Digits text rest) : Exponent (mark :: text) rest
  | signed {mark sign : Char} {text rest : List Char} (marked : mark = 'e' ∨ mark = 'E')
      (signed : sign = '+' ∨ sign = '-') (digits : Digits text rest) :
      Exponent (mark :: sign :: text) rest

inductive Unsigned : List Char → List Char → Prop
  | parts {text middle behind rest : List Char} (whole : Whole text middle)
      (fraction : Fraction middle behind) (exponent : Exponent behind rest) : Unsigned text rest

inductive Numeral : List Char → List Char → Prop
  | positive {text rest : List Char} (magnitude : Unsigned text rest) : Numeral text rest
  | negative {text rest : List Char} (magnitude : Unsigned text rest) : Numeral ('-' :: text) rest

/-! ### Strings -/

/-- The letters that stand for a character behind a backslash. -/
def shortForms : List (Char × Char) :=
  [('"', '"'), ('\\', '\\'), ('/', '/'), ('b', '\x08'), ('f', '\x0c'), ('n', '\n'), ('r', '\r'),
    ('t', '\t')]

/-- Whether a character is the hexadecimal digit of a number, of either case. -/
def IsHexDigit (c : Char) (n : Nat) : Prop :=
  "0123456789abcdef".toList[n]? = some c ∨ "0123456789ABCDEF".toList[n]? = some c

/-- Four hexadecimal digits in front of a text, and the number that they write. -/
inductive Unit16 : Nat → List Char → List Char → Prop
  | digits {c₁ c₂ c₃ c₄ : Char} {n₁ n₂ n₃ n₄ : Nat} (first : IsHexDigit c₁ n₁)
      (second : IsHexDigit c₂ n₂) (third : IsHexDigit c₃ n₃) (fourth : IsHexDigit c₄ n₄)
      (rest : List Char) :
      Unit16 (16 * (16 * (16 * n₁ + n₂) + n₃) + n₄) (c₁ :: c₂ :: c₃ :: c₄ :: rest) rest

def IsPlain (c : Char) : Prop :=
  0x20 ≤ c.toNat ∧ c ≠ '"' ∧ c ≠ '\\'

instance (c : Char) : Decidable (IsPlain c) :=
  inferInstanceAs (Decidable (_ ∧ _ ∧ _))

/-- The form of an escape, behind its backslash. -/
inductive EscapeForm : List Char → List Char → Prop
  | short {letter c : Char} (listed : (letter, c) ∈ shortForms) (rest : List Char) :
      EscapeForm (letter :: rest) rest
  | unit {n : Nat} {text rest : List Char} (unit : Unit16 n text rest) :
      EscapeForm ('u' :: text) rest

/-- The character that an escape stands for. One outside the basic plane is written as a pair of
units, of which neither counts alone. -/
inductive Escape : Char → List Char → List Char → Prop
  | short {letter c : Char} (listed : (letter, c) ∈ shortForms) (rest : List Char) :
      Escape c (letter :: rest) rest
  | unit {c : Char} {text rest : List Char} (unit : Unit16 c.toNat text rest) :
      Escape c ('u' :: text) rest
  | pair {c : Char} {high low : Nat} {text middle rest : List Char}
      (leading : 0xD800 ≤ high ∧ high ≤ 0xDBFF) (trailing : 0xDC00 ≤ low ∧ low ≤ 0xDFFF)
      (first : Unit16 high text ('\\' :: 'u' :: middle)) (second : Unit16 low middle rest)
      (paired : c.toNat = (high - 0xD800) * 0x400 + (low - 0xDC00) + 0x10000) :
      Escape c ('u' :: text) rest

/-- What stands in a string, and its last quote. -/
inductive Quotation : List Char → List Char → Prop
  | close (rest : List Char) : Quotation ('"' :: rest) rest
  | plain {c : Char} {text rest : List Char} (plain : IsPlain c) (others : Quotation text rest) :
      Quotation (c :: text) rest
  | escape {text middle rest : List Char} (form : EscapeForm text middle)
      (others : Quotation middle rest) : Quotation ('\\' :: text) rest

/-- The characters that a string stands for, told from what stands in it and its last quote. -/
inductive Spells : List Char → List Char → List Char → Prop
  | close (rest : List Char) : Spells [] ('"' :: rest) rest
  | plain {c : Char} {meant text rest : List Char} (plain : IsPlain c)
      (others : Spells meant text rest) : Spells (c :: meant) (c :: text) rest
  | escape {c : Char} {meant text middle rest : List Char} (escape : Escape c text middle)
      (others : Spells meant middle rest) : Spells (c :: meant) ('\\' :: text) rest

theorem Spells.plains (letters : List Char) {meant text rest : List Char}
    (plain : letters.all (fun c => IsPlain c) = true) (others : Spells meant text rest) :
    Spells (letters ++ meant) (letters ++ text) rest := by
  induction letters with
  | nil => exact others
  | cons c letters ih =>
      obtain ⟨first, later⟩ := Bool.and_eq_true_iff.mp plain
      exact .plain (of_decide_eq_true first) (ih later)

/-- What a string means, behind its first quote: nothing if a unit in it lacks its partner. -/
inductive Means : Option String → List Char → List Char → Prop
  | text {meant text rest : List Char} (spelled : Spells meant text rest) :
      Means (some (String.ofList meant)) text rest
  | nothing {text rest : List Char} (quotation : Quotation text rest)
      (unpaired : ∀ meant behind, ¬Spells meant text behind) : Means none text rest

/-! ### Values -/

/-- The name of a member and its value, each as the text that it stands for. A value that is no
string stands for none. -/
structure Member where
  name : Option String
  value : Option String
deriving DecidableEq

/-- The parts of a text that lie inside each other. -/
inductive Part
  /-- A value, with what it means if it is a string. -/
  | value (said : Option String)
  | object (listed : List Member)
  /-- The values of a list from the first on, and the end of the list. -/
  | items
  | member (member : Member)
  /-- The members of an object from the first on, and the end of the object. -/
  | members (listed : List Member)

inductive Form : Part → List Char → List Char → Prop
  | null (rest : List Char) : Form (.value none) ('n' :: 'u' :: 'l' :: 'l' :: rest) rest
  | true (rest : List Char) : Form (.value none) ('t' :: 'r' :: 'u' :: 'e' :: rest) rest
  | false (rest : List Char) : Form (.value none) ('f' :: 'a' :: 'l' :: 's' :: 'e' :: rest) rest
  | number {text rest : List Char} (numeral : Numeral text rest) : Form (.value none) text rest
  | string {said : Option String} {text rest : List Char} (means : Means said text rest) :
      Form (.value said) ('"' :: text) rest
  | emptyList {text rest : List Char} (close : Blanks text (']' :: rest)) :
      Form (.value none) ('[' :: text) rest
  | list {text start rest : List Char} (before : Blanks text start)
      (items : Form .items start rest) : Form (.value none) ('[' :: text) rest
  | map {listed : List Member} {text rest : List Char} (object : Form (.object listed) text rest) :
      Form (.value none) text rest
  | emptyObject {text rest : List Char} (close : Blanks text ('\x7d' :: rest)) :
      Form (.object []) ('\x7b' :: text) rest
  | object {listed : List Member} {text start rest : List Char} (before : Blanks text start)
      (members : Form (.members listed) start rest) : Form (.object listed) ('\x7b' :: text) rest
  | lastItem {said : Option String} {text behind rest : List Char}
      (value : Form (.value said) text behind) (close : Blanks behind (']' :: rest)) :
      Form .items text rest
  | nextItem {said : Option String} {text behind next start rest : List Char}
      (value : Form (.value said) text behind) (comma : Blanks behind (',' :: next))
      (before : Blanks next start) (others : Form .items start rest) : Form .items text rest
  | member {name said : Option String} {key behind next start rest : List Char}
      (named : Means name key behind) (colon : Blanks behind (':' :: next))
      (before : Blanks next start) (value : Form (.value said) start rest) :
      Form (.member ⟨name, said⟩) ('"' :: key) rest
  | lastMember {member : Member} {text behind rest : List Char}
      (here : Form (.member member) text behind) (close : Blanks behind ('\x7d' :: rest)) :
      Form (.members [member]) text rest
  | nextMember {member : Member} {listed : List Member} {text behind next start rest : List Char}
      (here : Form (.member member) text behind) (comma : Blanks behind (',' :: next))
      (before : Blanks next start) (others : Form (.members listed) start rest) :
      Form (.members (member :: listed)) text rest

/-- Whether a text is a JSON text: a value between blanks. -/
def IsText (text : List Char) : Prop :=
  ∃ said start behind, Blanks text start ∧ Form (.value said) start behind ∧ Blanks behind []

/-- Whether a text is a JSON object with the members listed. -/
def IsObject (listed : List Member) (text : List Char) : Prop :=
  ∃ start behind, Blanks text start ∧ Form (.object listed) start behind ∧ Blanks behind []

end SessionProbe.Json
