import PatternMachine.CodeSet

/-!
# Characters with boundary rules of their own

The boundaries of grapheme clusters, words and sentences mostly follow from other properties.
The lists here are the exceptions. Ranges are those of Unicode 16.0.
-/

namespace PatternMachine.Unicode

/-- Characters of scripts that need a dictionary to find words. -/
def complexContext : CodeSet :=
  ⟨[⟨0xE01, 0xE3A⟩, ⟨0xE40, 0xE4E⟩, ⟨0xE81, 0xE82⟩, ⟨0xE84, 0xE84⟩, ⟨0xE86, 0xE8A⟩, ⟨0xE8C, 0xEA3⟩,
    ⟨0xEA5, 0xEA5⟩, ⟨0xEA7, 0xEBD⟩, ⟨0xEC0, 0xEC4⟩, ⟨0xEC6, 0xEC6⟩, ⟨0xEC8, 0xECE⟩, ⟨0xEDC, 0xEDF⟩,
    ⟨0x1000, 0x103F⟩, ⟨0x1050, 0x108F⟩, ⟨0x109A, 0x109F⟩, ⟨0x1780, 0x17D3⟩, ⟨0x17D7, 0x17D7⟩,
    ⟨0x17DC, 0x17DD⟩, ⟨0x1950, 0x196D⟩, ⟨0x1970, 0x1974⟩, ⟨0x1980, 0x19AB⟩, ⟨0x19B0, 0x19C9⟩,
    ⟨0x19DA, 0x19DA⟩, ⟨0x19DE, 0x19DF⟩, ⟨0x1A20, 0x1A5E⟩, ⟨0x1A60, 0x1A7C⟩, ⟨0x1AA0, 0x1AAD⟩,
    ⟨0xA9E0, 0xA9EF⟩, ⟨0xA9FA, 0xA9FE⟩, ⟨0xAA60, 0xAAC2⟩, ⟨0xAADB, 0xAADF⟩, ⟨0x11700, 0x1171A⟩,
    ⟨0x1171D, 0x1172B⟩, ⟨0x1173A, 0x1173B⟩, ⟨0x1173F, 0x11746⟩]⟩

/-- Letters and signs that belong to the cluster behind them. -/
def prependedLetter : CodeSet :=
  ⟨[⟨0xD4E, 0xD4E⟩, ⟨0x111C2, 0x111C3⟩, ⟨0x113D1, 0x113D1⟩, ⟨0x1193F, 0x1193F⟩, ⟨0x11941, 0x11941⟩,
    ⟨0x11A3A, 0x11A3A⟩, ⟨0x11A84, 0x11A89⟩, ⟨0x11D46, 0x11D46⟩, ⟨0x11F02, 0x11F02⟩]⟩

/-- Spacing marks that start clusters of their own. -/
def unspacedMark : CodeSet :=
  ⟨[⟨0x102B, 0x102C⟩, ⟨0x1038, 0x1038⟩, ⟨0x1062, 0x1064⟩, ⟨0x1067, 0x106D⟩, ⟨0x1083, 0x1083⟩,
    ⟨0x1087, 0x108C⟩, ⟨0x108F, 0x108F⟩, ⟨0x109A, 0x109C⟩, ⟨0x1A61, 0x1A61⟩, ⟨0x1A63, 0x1A64⟩,
    ⟨0xAA7B, 0xAA7B⟩, ⟨0xAA7D, 0xAA7D⟩, ⟨0x11720, 0x11721⟩]⟩

/-- Signs that make words like letters although they are not alphabetic. -/
def wordSign : CodeSet :=
  ⟨[⟨0x2C2, 0x2C5⟩, ⟨0x2D2, 0x2D7⟩, ⟨0x2DE, 0x2DF⟩, ⟨0x2E5, 0x2EB⟩, ⟨0x2ED, 0x2ED⟩, ⟨0x2EF, 0x2FF⟩,
    ⟨0x55A, 0x55C⟩, ⟨0x55E, 0x55E⟩, ⟨0x58A, 0x58A⟩, ⟨0x5F3, 0x5F3⟩, ⟨0x70F, 0x70F⟩,
    ⟨0xA708, 0xA716⟩, ⟨0xA720, 0xA721⟩, ⟨0xA789, 0xA78A⟩, ⟨0xAB5B, 0xAB5B⟩]⟩

/-- Marks that may stand between two letters of a word. -/
def midLetter : CodeSet :=
  ⟨[⟨0x3A, 0x3A⟩, ⟨0xB7, 0xB7⟩, ⟨0x387, 0x387⟩, ⟨0x55F, 0x55F⟩, ⟨0x5F4, 0x5F4⟩, ⟨0x2027, 0x2027⟩,
    ⟨0xFE13, 0xFE13⟩, ⟨0xFE55, 0xFE55⟩, ⟨0xFF1A, 0xFF1A⟩]⟩

/-- Marks that may stand between two digits of a number. -/
def midNumber : CodeSet :=
  ⟨[⟨0x2C, 0x2C⟩, ⟨0x3B, 0x3B⟩, ⟨0x37E, 0x37E⟩, ⟨0x589, 0x589⟩, ⟨0x60C, 0x60D⟩, ⟨0x66C, 0x66C⟩,
    ⟨0x7F8, 0x7F8⟩, ⟨0x2044, 0x2044⟩, ⟨0xFE50, 0xFE50⟩, ⟨0xFE54, 0xFE54⟩, ⟨0xFF0C, 0xFF0C⟩,
    ⟨0xFF1B, 0xFF1B⟩]⟩

/-- Marks that may stand both between letters and between digits. -/
def midBoth : CodeSet :=
  ⟨[⟨0x2E, 0x2E⟩, ⟨0x2018, 0x2019⟩, ⟨0x2024, 0x2024⟩, ⟨0xFE52, 0xFE52⟩, ⟨0xFF07, 0xFF07⟩,
    ⟨0xFF0E, 0xFF0E⟩]⟩

/-- Marks that continue a sentence behind its terminator. -/
def sentenceContinue : CodeSet :=
  ⟨[⟨0x2C, 0x2D⟩, ⟨0x3A, 0x3B⟩, ⟨0x37E, 0x37E⟩, ⟨0x55D, 0x55D⟩, ⟨0x60C, 0x60D⟩, ⟨0x7F8, 0x7F8⟩,
    ⟨0x1802, 0x1802⟩, ⟨0x1808, 0x1808⟩, ⟨0x2013, 0x2014⟩, ⟨0x3001, 0x3001⟩, ⟨0xFE10, 0xFE11⟩,
    ⟨0xFE13, 0xFE14⟩, ⟨0xFE31, 0xFE32⟩, ⟨0xFE50, 0xFE51⟩, ⟨0xFE54, 0xFE55⟩, ⟨0xFE58, 0xFE58⟩,
    ⟨0xFE63, 0xFE63⟩, ⟨0xFF0C, 0xFF0D⟩, ⟨0xFF1A, 0xFF1B⟩, ⟨0xFF64, 0xFF64⟩]⟩

/-- Full stops, which need not end a sentence. -/
def ambiguousStop : CodeSet :=
  ⟨[⟨0x2E, 0x2E⟩, ⟨0x2024, 0x2024⟩, ⟨0xFE52, 0xFE52⟩, ⟨0xFF0E, 0xFF0E⟩]⟩

/-- Spaces and joiners without a width. -/
def zeroWidth : CodeSet :=
  ⟨[⟨0x200B, 0x200D⟩]⟩

/-- Signs that several scripts share and that words of Katakana contain. -/
def kanaSign : CodeSet :=
  ⟨[⟨0x3031, 0x3035⟩, ⟨0x309B, 0x309C⟩, ⟨0x30A0, 0x30A0⟩, ⟨0x30FC, 0x30FC⟩, ⟨0xFF70, 0xFF70⟩]⟩

/-- Capitals of Georgian, which do not mark the start of a sentence. -/
def georgianCapital : CodeSet :=
  ⟨[⟨0x1C90, 0x1CBA⟩, ⟨0x1CBD, 0x1CBF⟩]⟩

/-- Quotation marks outside of the categories of brackets and quotes. -/
def closingQuote : CodeSet :=
  ⟨[⟨0x22, 0x22⟩, ⟨0x27, 0x27⟩, ⟨0x275B, 0x2760⟩, ⟨0x2E00, 0x2E01⟩, ⟨0x2E06, 0x2E08⟩,
    ⟨0x2E0B, 0x2E0B⟩, ⟨0x1F676, 0x1F678⟩]⟩

end PatternMachine.Unicode
