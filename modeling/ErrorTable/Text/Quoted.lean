/-
Quoted texts, as a log line shows a value that may hold anything.

A quoted text stands between double quotes. Inside, a quote and a backslash get a
backslash in front, the common control characters get their one-letter names, and any
other character that would not show is written by its code point. What is between the
quotes therefore never holds a line feed.
-/
import ErrorTable.Text.Unprintable

namespace ErrorTable.Text

/-- A code point in braces, in lower-case hexadecimal digits. -/
def codePoint (c : Char) : List Char :=
  "\\u\x7b".toList ++ Nat.toDigits 16 c.toNat ++ ['\x7d']

/-- A character as it is written between quotes. -/
def escape (c : Char) : List Char :=
  match c with
  | '"' => ['\\', '"']
  | '\\' => ['\\', '\\']
  | '\t' => ['\\', 't']
  | '\r' => ['\\', 'r']
  | '\n' => ['\\', 'n']
  | '\x00' => ['\\', '0']
  | c => if isUnprintable c then codePoint c else [c]

/-- A text between double quotes. -/
def quote (text : String) : String :=
  String.ofList ('"' :: text.toList.flatMap escape ++ ['"'])

end ErrorTable.Text
