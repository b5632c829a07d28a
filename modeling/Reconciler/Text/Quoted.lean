import Reconciler.Text.Unprintable

namespace Reconciler.Text

/-!
# Quoted text in messages

Messages show a text between double quotes, so that blanks at its ends and
characters without a shape of their own can be seen.

* `escape` — the spelling of one character;
* `quote` — a whole text, quotes included.
-/

/-- How a character is written between the quotes: the quote and the backslash
    after a backslash, NUL, tab and the line ends by a letter, other unprintable
    characters as `\u` with their code point in lower-case hexadecimal. -/
def escape (c : Char) : List Char :=
  match c with
  | '\x00' => ['\\', '0']
  | '\t' => ['\\', 't']
  | '\r' => ['\\', 'r']
  | '\n' => ['\\', 'n']
  | '"' => ['\\', '"']
  | '\\' => ['\\', '\\']
  | c =>
    if isUnprintable c then
      ['\\', 'u', '\x7b'] ++ Nat.toDigits 16 c.toNat ++ ['\x7d']
    else [c]

/-- A text between double quotes, with the characters of `escape`. -/
def quote (s : String) : String :=
  String.ofList ('"' :: s.toList.flatMap escape ++ ['"'])

example : quote "a\tb\"c" = "\"a\\tb\\\"c\"" := by decide +kernel
example : quote "e\u0301\u00a0'" = "\"e\\u\x7b301\x7d\\u\x7ba0\x7d'\"" := by decide +kernel

end Reconciler.Text
