import StylePrune.Text.Ranges

/-!
# Scripts

The code points of the writing systems that a pattern may name.
-/

namespace StylePrune

namespace Text

inductive Script
  | latin
  | greek
  | cyrillic
  | armenian
  | hebrew
  | arabic
  | devanagari
  | thai
  | hangul
  | hiragana
  | katakana
  | han
  deriving BEq, DecidableEq, Repr

namespace Script

def latinRanges : Ranges :=
  Ranges.ofLines
    ["41-5A 61-7A AA BA C0-D6 D8-F6 F8-2AF 1D00-1D25 1D62-1D65 1D6B-1D77 1D79-1D9A 1E00-1EFF",
    "2090-209C 212A-212B 2160-2188 271D 2C60-2C7C 2C7E-2C7F A722-A76F A771-A787 A78B-A7CA",
    "A7D0-A7D1 A7D3 A7D5-A7D9 A7F5-A7F7 A7FA-A7FF AB30-AB5A AB60-AB64 AB66-AB68 FB00-FB06",
    "FF21-FF3A FF41-FF5A 1DF00-1DF1E"]

def greekRanges : Ranges :=
  Ranges.ofLines
    ["370-377 37A-37D 37F 384 386 388-38A 38C 38E-3A1 3A3-3E1 3F0-3FF 1D26-1D2A 1D66-1D6A",
    "1DBF 1F00-1F15 1F18-1F1D 1F20-1F45 1F48-1F4D 1F50-1F57 1F59 1F5B 1F5D 1F5F-1F7D",
    "1F80-1FB4 1FB6-1FC4 1FC6-1FD3 1FD6-1FDB 1FDD-1FEF 1FF2-1FF4 1FF6-1FFE 2126 AB65",
    "10140-1018D 101A0 1D200-1D241 1D245"]

def cyrillicRanges : Ranges :=
  Ranges.ofLines
    ["400-52F 1C80-1C88 1D2B 1D78 2DE0-2DFF A640-A672 A674-A69B A69E-A69F FE2E-FE2F"]

def armenianRanges : Ranges :=
  Ranges.ofLines
    ["531-556 559-58A 58F FB13-FB17"]

def hebrewRanges : Ranges :=
  Ranges.ofLines
    ["591-5C7 5D0-5EA 5EF-5F4 FB1D-FB36 FB38-FB3C FB3E FB40-FB41 FB43-FB44 FB46-FB4F"]

def arabicRanges : Ranges :=
  Ranges.ofLines
    ["600-605 608 60D-61A 61C-61E 620-63F 641-65F 66A-6EF 6FA-6FF 750-77F 870-88E 890-891",
    "898-8FF FB50-FBC2 FBD3-FD3D FD40-FD8F FD92-FDC7 FDCF FDF0-FDFB FDFD-FDFF FE70-FE74",
    "FE76-FEFC 1EE00-1EE03 1EE05-1EE1F 1EE21-1EE22 1EE24 1EE27 1EE29-1EE32 1EE34-1EE37",
    "1EE39 1EE3B 1EE42 1EE47 1EE49 1EE4B 1EE4D-1EE4F 1EE51-1EE52 1EE54 1EE57 1EE59 1EE5B",
    "1EE5D 1EE5F 1EE61-1EE62 1EE64 1EE67-1EE6A 1EE6C-1EE72 1EE74-1EE77 1EE79-1EE7C 1EE7E",
    "1EE80-1EE89 1EE8B-1EE9B 1EEA1-1EEA3 1EEA5-1EEA9 1EEAB-1EEBB 1EEF0-1EEF1"]

def devanagariRanges : Ranges :=
  Ranges.ofLines
    ["900-963 966-97F A8F2-A8FF"]

def thaiRanges : Ranges :=
  Ranges.ofLines
    ["E01-E3A E40-E5B"]

def hangulRanges : Ranges :=
  Ranges.ofLines
    ["1100-11FF 3131-318E A960-A97C AC00-D7A3 D7B0-D7C6 D7CB-D7FB"]

def hiraganaRanges : Ranges :=
  Ranges.ofLines
    ["3041-3096 309D-309F 1B001 1B11F 1B150-1B152"]

def katakanaRanges : Ranges :=
  Ranges.ofLines
    ["30A1-30FA 30FD-30FF 31F0-31FF FF66-FF6F FF71-FF9D 1AFF0-1AFF3 1AFF5-1AFFB 1AFFD-1AFFE",
    "1B000 1B120-1B122 1B164-1B167"]

def hanRanges : Ranges :=
  Ranges.ofLines
    ["2E80-2E99 2E9B-2EF3 2F00-2FD5 3005 3007 3021-3029 3038-303B 3400-4DBF 4E00-9FFF",
    "F900-FA6D FA70-FAD9 20000-2A6DF 2A700-2B738 2B740-2B81D 2B820-2CEA1 2CEB0-2EBE0",
    "2F800-2FA1D 30000-3134A"]

def ranges : Script → Ranges
  | latin => latinRanges
  | greek => greekRanges
  | cyrillic => cyrillicRanges
  | armenian => armenianRanges
  | hebrew => hebrewRanges
  | arabic => arabicRanges
  | devanagari => devanagariRanges
  | thai => thaiRanges
  | hangul => hangulRanges
  | hiragana => hiraganaRanges
  | katakana => katakanaRanges
  | han => hanRanges

def all : List Script := [
  .latin, .greek, .cyrillic, .armenian, .hebrew, .arabic, .devanagari, .thai, .hangul,
  .hiragana, .katakana, .han]

def names : Script → List String
  | latin => ["latin", "latn"]
  | greek => ["greek", "grek"]
  | cyrillic => ["cyrillic", "cyrl"]
  | armenian => ["armenian", "armn"]
  | hebrew => ["hebrew", "hebr"]
  | arabic => ["arabic", "arab"]
  | devanagari => ["devanagari", "deva"]
  | thai => ["thai"]
  | hangul => ["hangul", "hang"]
  | hiragana => ["hiragana", "hira"]
  | katakana => ["katakana", "kana"]
  | han => ["han", "hani"]

end Script

end Text

end StylePrune
