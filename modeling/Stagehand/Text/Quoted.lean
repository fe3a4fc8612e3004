import Stagehand.Text.CodeRange
import Stagehand.Text.Quoted.Table
/-!
# Quoted text

The written form of a text between double quotes. A tab, a line feed, a carriage return, a NUL, a
double quote and a backslash have short escapes; every other character that is not shown raw is
written as its code point in braces; all else stands for itself. A list of texts is written in
brackets with a comma and a space between the items. No raw line break survives quoting.
-/

namespace Stagehand.Text.Quoted

/-- Hexadecimal digits of a number, in lower case. -/
def hexDigits (n : Nat) : List Char :=
  Nat.toDigits 16 n

/-- The escape that names a code point. -/
def escapeCode (c : Char) : List Char :=
  '\\' :: 'u' :: '\x7b' :: (hexDigits c.toNat ++ ['\x7d'])

/-- The written form of a character inside quotes. -/
def ofChar (c : Char) : List Char :=
  if c = '\x00' then ['\\', '0']
  else if c = '\t' then ['\\', 't']
  else if c = '\r' then ['\\', 'r']
  else if c = '\n' then ['\\', 'n']
  else if c = '\\' then ['\\', '\\']
  else if c = '"' then ['\\', '"']
  else if inRanges hiddenRanges c then escapeCode c
  else [c]

/-- The written form of a text. -/
def ofChars (cs : List Char) : List Char :=
  '"' :: (cs.flatMap ofChar ++ ['"'])

/-- The written forms of several texts with separators between them. -/
def ofItems : List (List Char) → List Char
  | [] => []
  | [cs] => ofChars cs
  | cs :: rest => ofChars cs ++ ',' :: ' ' :: ofItems rest

end Quoted

/-- A list of texts in its written form. -/
def quotedList (items : List String) : String :=
  String.ofList ('[' :: (Quoted.ofItems (items.map String.toList) ++ [']']))

end Stagehand.Text
