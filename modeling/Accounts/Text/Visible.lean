import Accounts.Text.Unprintable

/-!
# Accounts.Text.Visible — texts in which every character can be seen

`quoteVisible` puts a text between double quotes on one line: characters without a mark of their
own are shown by their number, the commonest of them by a letter.
-/

namespace Accounts.Text

/-- A character as it stands in a text whose every character can be seen. -/
def showVisible (c : Char) : List Char :=
  match c with
  | '\x00' => ['\\', '0']
  | '\t' => ['\\', 't']
  | '\n' => ['\\', 'n']
  | '\r' => ['\\', 'r']
  | '"' => ['\\', '"']
  | '\\' => ['\\', '\\']
  | c =>
    if isUnprintable c then ['\\', 'u', '\x7b'] ++ Nat.toDigits 16 c.toNat ++ ['\x7d'] else [c]

/-- A text between double quotes, every character of which can be seen. -/
def quoteVisible (s : String) : String :=
  String.ofList ('"' :: s.toList.flatMap showVisible ++ ['"'])

end Accounts.Text
