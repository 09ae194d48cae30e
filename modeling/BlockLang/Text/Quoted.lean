import BlockLang.Text.DefaultIgnorable
import BlockLang.Text.GraphemeExtend
import BlockLang.Text.Unprintable

/-!
# Quoted text

A quoted text stands between double quotes. Quotes, backslashes and the four common control
characters have short escapes; every other character without a form of its own is written as its
code point in hexadecimal.
-/

namespace BlockLang.Text

/-- The halfwidth voiced and semi-voiced sound marks extend the grapheme before them, but they are
letters that take a cell of their own. -/
def isHalfwidthSoundMark (c : Char) : Bool := c == '\uff9e' || c == '\uff9f'

/-- A character has no form of its own when it is unprintable, is shown as nothing, or extends a
grapheme without being a letter. -/
def isFormless (c : Char) : Bool :=
  if 0x20 ≤ c.toNat && c.toNat ≤ 0x7e then false
  else
    isUnprintable c || isDefaultIgnorable c || (isGraphemeExtend c && !isHalfwidthSoundMark c)

/-- The code point of a character in lowercase hexadecimal, in braces after a backslash and `u`. -/
def codePointEscape (c : Char) : List Char :=
  ['\\', 'u', '\x7b'] ++ Nat.toDigits 16 c.toNat ++ ['\x7d']

/-- The written form of one character inside quotes. -/
def quotedChar (c : Char) : List Char :=
  if c = '"' then ['\\', '"']
  else if c = '\\' then ['\\', '\\']
  else if c = '\n' then ['\\', 'n']
  else if c = '\r' then ['\\', 'r']
  else if c = '\t' then ['\\', 't']
  else if c = '\x00' then ['\\', '0']
  else if isFormless c then codePointEscape c
  else [c]

example : quotedChar '\u0301' = ['\\', 'u', '\x7b', '3', '0', '1', '\x7d'] := by
  simp only [quotedChar, isFormless, isUnprintable, isDefaultIgnorable, isGraphemeExtend,
    inRanges_eq_any_toList]
  decide +kernel

example : quotedChar '\uff9e' = ['\uff9e'] := by
  simp only [quotedChar, isFormless, isUnprintable, isDefaultIgnorable, isGraphemeExtend,
    inRanges_eq_any_toList]
  decide +kernel

/-- A text between double quotes, with its characters escaped where they need it. -/
def quoted (text : String) : String :=
  String.ofList ('"' :: (text.toList.flatMap quotedChar ++ ['"']))

example : quoted "a\"b\\\n" = "\"a\\\"b\\\\\\n\"" := by decide +kernel

end BlockLang.Text
