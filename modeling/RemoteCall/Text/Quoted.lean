import RemoteCall.Text.Invisible
/-!
# Quoted texts

How a text from outside is shown inside a message: between double quotes, so that its ends
are visible, with quotes and backslashes escaped and with every character that has no glyph
of its own written as its code point.
-/

namespace RemoteCall.Text

/-- The hexadecimal digits of a number, lower case, without leading zeros. -/
def hexadecimal (n : Nat) : String :=
  String.ofList (Nat.toDigits 16 n)

/-- A number as hexadecimal digits, filled with zeros on the left up to a width. -/
def paddedHexadecimal (width n : Nat) : String :=
  let digits := Nat.toDigits 16 n
  String.ofList (List.replicate (width - digits.length) '0' ++ digits)

/-- How one character stands inside a quoted text. -/
def quoteChar (c : Char) : String :=
  match c with
  | '\x00' => "\\0"
  | '\t' => "\\t"
  | '\n' => "\\n"
  | '\r' => "\\r"
  | '"' => "\\\""
  | '\\' => "\\\\"
  | c =>
    if isInvisible c then "\\u\x7b" ++ hexadecimal c.toNat ++ "\x7d" else c.toString

/-- A text between double quotes, with the characters that would not show escaped. -/
def quote (s : String) : String :=
  "\"" ++ String.join (s.toList.map quoteChar) ++ "\""

end RemoteCall.Text
