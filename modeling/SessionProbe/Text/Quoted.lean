import SessionProbe.Text.GraphemeExtend
import SessionProbe.Text.Hexadecimal
import SessionProbe.Text.Unprintable

set_option autoImplicit false

/-!
Quoted text: a text between double quotes in which every character can be seen. Quote and
backslash are escaped, four controls have a short form, and every other character that has no
visible form or would attach itself to its neighbour is written as its number.
-/

namespace SessionProbe.Text

def quotedChar (c : Char) : String :=
  match c with
  | '\x00' => "\\0"
  | '\t' => "\\t"
  | '\n' => "\\n"
  | '\r' => "\\r"
  | '"' => "\\\""
  | '\\' => "\\\\"
  | _ =>
    if isGraphemeExtend c || isUnprintable c then
      "\\u\x7b" ++ hexadecimal c.toNat ++ "\x7d"
    else
      String.singleton c

def quoted (text : String) : String :=
  "\"" ++ String.join (text.toList.map quotedChar) ++ "\""

end SessionProbe.Text
