import Dialer.Unicode.CodeTable

/-!
# Scripts

The scripts that decide where some punctuation may stand in a domain label (Unicode 15.1).
-/

namespace Dialer.Unicode

/-- The scripts that contextual rules name. -/
inductive Script
  | greek
  | hebrew
  | hiragana
  | katakana
  | han

/-- The characters of Greek. -/
def greek : CodeSet := .read "
370-373 375-377 37A-37D 37F 384 386 388-38A 38C 38E-3A1 3A3-3E1 3F0-3FF 1D26-1D2A 1D5D-1D61
1D66-1D6A 1DBF 1F00-1F15 1F18-1F1D 1F20-1F45 1F48-1F4D 1F50-1F57 1F59 1F5B 1F5D 1F5F-1F7D
1F80-1FB4 1FB6-1FC4 1FC6-1FD3 1FD6-1FDB 1FDD-1FEF 1FF2-1FF4 1FF6-1FFE 2126 AB65 10140-1018E 101A0
1D200-1D245"

/-- The characters of Hebrew. -/
def hebrew : CodeSet := .read "
591-5C7 5D0-5EA 5EF-5F4 FB1D-FB36 FB38-FB3C FB3E FB40-FB41 FB43-FB44 FB46-FB4F"

/-- The characters of Hiragana. -/
def hiragana : CodeSet := .read "
3041-3096 309D-309F 1B001-1B11F 1B132 1B150-1B152 1F200"

/-- The characters of Katakana. -/
def katakana : CodeSet := .read "
30A1-30FA 30FD-30FF 31F0-31FF 32D0-32FE 3300-3357 FF66-FF6F FF71-FF9D 1AFF0-1AFF3 1AFF5-1AFFB
1AFFD-1AFFE 1B000 1B120-1B122 1B155 1B164-1B167"

/-- The characters of Han. -/
def han : CodeSet := .read "
2E80-2E99 2E9B-2EF3 2F00-2FD5 3005 3007 3021-3029 3038-303B 3400-4DBF 4E00-9FFF F900-FA6D
FA70-FAD9 16FE2-16FE3 16FF0-16FF1 20000-2A6DF 2A700-2B739 2B740-2B81D 2B820-2CEA1 2CEB0-2EBE0
2EBF0-2EE5D 2F800-2FA1D 30000-3134A 31350-323AF"

/-- The characters of a script. -/
def Script.members : Script → CodeSet
  | greek => Unicode.greek
  | hebrew => Unicode.hebrew
  | hiragana => Unicode.hiragana
  | katakana => Unicode.katakana
  | han => Unicode.han

end Dialer.Unicode
