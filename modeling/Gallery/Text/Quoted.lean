import Gallery.Text.Quoted.Unassigned
import Gallery.Text.Quoted.Unseen

/-!
# Quoted text for messages

A text is shown between double quotes.  The quote, the backslash and the common
controls have short escapes; a character that would not be seen is shown by its
number in hexadecimal.
-/

namespace Gallery.Text

/-- Whether a quoted text shows the character by its number. -/
def isEscaped (c : Char) : Bool :=
  isInvisible c || isAttachedMark c || isUnassigned c

def hexDigits (code : Nat) : List Char :=
  Nat.toDigits 16 code

def quotedChar (c : Char) : List Char :=
  if c = '"' then ['\\', '"']
  else if c = '\\' then ['\\', '\\']
  else if c = '\n' then ['\\', 'n']
  else if c = '\t' then ['\\', 't']
  else if c = '\r' then ['\\', 'r']
  else if c = '\x00' then ['\\', '0']
  else if isEscaped c then ['\\', 'u', '\x7b'] ++ hexDigits c.toNat ++ ['\x7d']
  else [c]

def quoted (text : String) : String :=
  String.ofList (['"'] ++ text.toList.flatMap quotedChar ++ ['"'])

end Gallery.Text
