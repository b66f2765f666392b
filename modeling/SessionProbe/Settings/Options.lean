import SessionProbe.Json.Number
import SessionProbe.Json.Skip

set_option autoImplicit false

/-!
What can be set: the log filter. Options are read from a JSON object, of which members other than
the filter are skipped, or from a JSON list of at most the filter, and they are written as an
object.
-/

namespace SessionProbe.Settings

open Json

/-- The filter in the absence of another. -/
def defaultLogFilter : String := "warn"

structure Options where
  /-- What the log shows unless the environment says otherwise. -/
  logFilter : String := defaultLogFilter
deriving Repr, DecidableEq, Inhabited

/-- The member that holds the log filter. -/
def logFilterKey : String := "log_filter"

/-- Read a value that is not what is wanted, as far as it has to be read to be told. -/
def unwanted {α : Type} (expected : String) : Scan α := do
  let unexpected (found : Found) : Scan α := failHere (.unexpected found expected)
  match ← peek with
  | some 'n' =>
    skip
    word ['u', 'l', 'l']
    unexpected .null
  | some 't' =>
    skip
    word ['r', 'u', 'e']
    unexpected (.boolean true)
  | some 'f' =>
    skip
    word ['a', 'l', 's', 'e']
    unexpected (.boolean false)
  | some '-' =>
    skip
    unexpected (← number true).toFound
  | some '"' =>
    skip
    unexpected (.string (← string))
  | some '[' => unexpected .sequence
  | some '\x7b' => unexpected .map
  | some c => if c.isDigit then unexpected (← number false).toFound else fail .expectedValue
  | none => fail .expectedValue

def wantedString : Scan String := do
  match ← peekPastBlanks with
  | none => fail .endInValue
  | some '"' =>
    skip
    string
  | some _ => unwanted "a string"

def colon : Scan Unit := do
  match ← peekPastBlanks with
  | none => fail .endInObject
  | some ':' => skip
  | some _ => fail .expectedColon

/-- A second filter is noticed at its key and reported behind what follows the key: behind blanks,
and behind a brace if it comes next. -/
def repeatedFilter {α : Type} : Scan α := do
  if (← peekPastBlanks) = some '\x7d' then
    skip
  failHere (.repeatedField logFilterKey)

/-- Read members from a key on, behind its first quote, with the filter found so far. -/
def members : (fuel : Nat) → (found : Option String) → Scan (Option String)
  | 0, _ => fail .endInObject
  | fuel + 1, found => do
    let key ← string
    let found ←
      if key = logFilterKey then do
        if found.isSome then
          repeatedFilter
        colon
        some <$> wantedString
      else do
        colon
        skipValue
        pure found
    match ← peekPastBlanks with
    | none => fail .endInObject
    | some c =>
      if c = '\x7d' then
        skip
        return found
      else if c = ',' then
        skip
        match ← peekPastBlanks with
        | none => fail .endInValue
        | some '"' =>
          skip
          members fuel found
        | some '\x7d' => fail .trailingComma
        | some _ => fail .keyNotString
      else
        fail .expectedObjectEnd

def object : Scan Options := do
  match ← peekPastBlanks with
  | none => fail .endInObject
  | some '\x7d' =>
    skip
    return {}
  | some '"' =>
    skip
    let rest ← get
    match ← members (rest.text.length + 1) none with
    | some logFilter => return { logFilter }
    | none => return {}
  | some _ => fail .keyNotString

def list : Scan Options := do
  match ← peekPastBlanks with
  | none => fail .endInList
  | some ']' =>
    skip
    return {}
  | some _ =>
    let logFilter ← wantedString
    match ← peekPastBlanks with
    | none => fail .endInList
    | some ']' =>
      skip
      return { logFilter }
    | some ',' =>
      skip
      if (← peekPastBlanks) = some ']' then
        fail .trailingComma
      else
        fail .trailingCharacters
    | some _ => fail .trailingCharacters

/-- Read options and nothing behind them. -/
def document : Scan Options := do
  let options ←
    match ← peekPastBlanks with
    | none => fail .endInValue
    | some '[' =>
      skip
      list
    | some '\x7b' =>
      skip
      object
    | some _ => unwanted "struct AppSettings"
  match ← peekPastBlanks with
  | none => return options
  | some _ => fail .trailingCharacters

def Options.parse (text : String) : Except Json.Fault Options :=
  match document { text := text.toList, place := 0 } with
  | .ok options _ => .ok options
  | .error fault _ => .error fault

/-- A character as it stands in a JSON string. -/
def writtenChar (c : Char) : List Char :=
  match c with
  | '"' => ['\\', '"']
  | '\\' => ['\\', '\\']
  | '\x08' => ['\\', 'b']
  | '\x0c' => ['\\', 'f']
  | '\n' => ['\\', 'n']
  | '\r' => ['\\', 'r']
  | '\t' => ['\\', 't']
  | _ =>
    if isControl c then
      ['\\', 'u', '0', '0', Nat.digitChar (c.toNat / 16), Nat.digitChar (c.toNat % 16)]
    else
      [c]

def writtenString (text : String) : String :=
  String.ofList ('"' :: text.toList.flatMap writtenChar ++ ['"'])

/-- The options on one line. -/
def Options.compact (options : Options) : String :=
  "\x7b" ++ writtenString logFilterKey ++ ":" ++ writtenString options.logFilter ++ "\x7d"

/-- The options with a line for each. -/
def Options.pretty (options : Options) : String :=
  "\x7b\n  " ++ writtenString logFilterKey ++ ": " ++ writtenString options.logFilter ++ "\n\x7d"

end SessionProbe.Settings
