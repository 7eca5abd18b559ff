import DocMapper.Text.Hex
import DocMapper.Text.Unprintable

/-!
# Quoted text

Text between double quotes, as diagnostics show it. Quotes and backslashes are escaped, the four
common controls have letters, and a character without a visible form is shown by its code point.
-/

namespace DocMapper.Text

/-- How a character is written between quotes. -/
def escape (c : Char) : List Char :=
  match c.toNat with
  | 0x00 => ['\x5c', '0']
  | 0x09 => ['\x5c', 't']
  | 0x0A => ['\x5c', 'n']
  | 0x0D => ['\x5c', 'r']
  | 0x22 => ['\x5c', '\x22']
  | 0x5C => ['\x5c', '\x5c']
  | n =>
    if isUnprintable c then ['\x5c', 'u', '\x7b'] ++ (Hex.ofNat n).toList ++ ['\x7d'] else [c]

def quoted (text : String) : String :=
  String.ofList (['\x22'] ++ text.toList.flatMap escape ++ ['\x22'])

end DocMapper.Text
