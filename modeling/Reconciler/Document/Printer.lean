import Reconciler.Document.Basic

namespace Reconciler.Document

/-!
# Documents as text

* `quoteChars` — a string between quotes, with its escapes;
* `print` — a document in compact form, members in their order.
-/

/-- The spelling of a character inside a quoted string: quotes, backslashes and
    control characters are escaped. -/
def escapeChar (c : Char) : List Char :=
  match c with
  | '"' => ['\\', '"']
  | '\\' => ['\\', '\\']
  | '\x08' => ['\\', 'b']
  | '\x0c' => ['\\', 'f']
  | '\n' => ['\\', 'n']
  | '\r' => ['\\', 'r']
  | '\t' => ['\\', 't']
  | c =>
    if c.toNat < 0x20 then
      ['\\', 'u', '0', '0', Nat.digitChar (c.toNat / 16), Nat.digitChar (c.toNat % 16)]
    else [c]

/-- A string between quotes. -/
def quoteChars (s : String) : List Char :=
  '"' :: s.toList.flatMap escapeChar ++ ['"']

mutual

/-- The compact text of a document, in front of `rest`. -/
def printOnto (rest : List Char) : Document → List Char
  | null => ['n', 'u', 'l', 'l'] ++ rest
  | bool true => ['t', 'r', 'u', 'e'] ++ rest
  | bool false => ['f', 'a', 'l', 's', 'e'] ++ rest
  | num n => n.text ++ rest
  | str s => quoteChars s ++ rest
  | arr [] => '[' :: ']' :: rest
  | arr (x :: xs) => '[' :: printOnto (printItemsOnto (']' :: rest) xs) x
  | obj [] => '\x7b' :: '\x7d' :: rest
  | obj ((k, x) :: xs) =>
    '\x7b' :: quoteChars k ++ ':' :: printOnto (printMembersOnto ('\x7d' :: rest) xs) x
termination_by structural d => d

/-- The items after the first, each after a comma. -/
def printItemsOnto (rest : List Char) : List Document → List Char
  | [] => rest
  | x :: xs => ',' :: printOnto (printItemsOnto rest xs) x
termination_by structural xs => xs

/-- The members after the first, each after a comma. -/
def printMembersOnto (rest : List Char) : List (String × Document) → List Char
  | [] => rest
  | (k, x) :: xs => ',' :: quoteChars k ++ ':' :: printOnto (printMembersOnto rest xs) x
termination_by structural xs => xs

end

/-- The compact text of a document. -/
def print (d : Document) : String :=
  String.ofList (printOnto [] d)

end Reconciler.Document
