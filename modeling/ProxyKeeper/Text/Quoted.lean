import ProxyKeeper.Text.Printable

/-!
Text in double quotes, as diagnostics show it. A quote, a backslash, a tab and the line ends are
escaped by a letter; every other character that is not printable, or that would combine with the
one before it, is escaped by its code point in hexadecimal.
-/

namespace ProxyKeeper.Text

/-- The lower-case hexadecimal digits of a number, without leading zeros. -/
def hexDigits (n : Nat) : List Char := Nat.toDigits 16 n

/-- One character of a quoted text. -/
def quoteChar (c : Char) : List Char :=
  match c with
  | '\x00' => ['\\', '0']
  | '\t' => ['\\', 't']
  | '\n' => ['\\', 'n']
  | '\r' => ['\\', 'r']
  | '"' => ['\\', '"']
  | '\\' => ['\\', '\\']
  | c =>
    if isPrintable c && !extendsGrapheme c then [c]
    else ['\\', 'u', '\x7b'] ++ hexDigits c.toNat ++ ['\x7d']

/-- The text between double quotes. -/
def quoted (s : String) : String :=
  .ofList ('"' :: s.toList.flatMap quoteChar ++ ['"'])

/-- One character between single quotes. -/
def quotedChar (c : Char) : String :=
  let inner := if c = '"' then ['"'] else if c = '\'' then ['\\', '\''] else quoteChar c
  .ofList ('\'' :: inner ++ ['\''])

end ProxyKeeper.Text
