import PatternMachine.CodeSet

/-!
# Listed properties

Properties that are given by a list of characters, and not derived from others.
Ranges are those of Unicode 16.0.
-/

namespace PatternMachine.Unicode

/-- Property `ASCII_Hex_Digit`. -/
def asciiHexDigit : CodeSet :=
  ⟨[⟨0x30, 0x39⟩, ⟨0x41, 0x46⟩, ⟨0x61, 0x66⟩]⟩

/-- Property `Bidi_Control`. -/
def bidiControl : CodeSet :=
  ⟨[⟨0x61C, 0x61C⟩, ⟨0x200E, 0x200F⟩, ⟨0x202A, 0x202E⟩, ⟨0x2066, 0x2069⟩]⟩

/-- Property `Bidi_Mirrored`. -/
def bidiMirrored : CodeSet :=
  ⟨[⟨0x28, 0x29⟩, ⟨0x3C, 0x3C⟩, ⟨0x3E, 0x3E⟩, ⟨0x5B, 0x5B⟩, ⟨0x5D, 0x5D⟩, ⟨0x7B, 0x7B⟩,
    ⟨0x7D, 0x7D⟩, ⟨0xAB, 0xAB⟩, ⟨0xBB, 0xBB⟩, ⟨0xF3A, 0xF3D⟩, ⟨0x169B, 0x169C⟩, ⟨0x2039, 0x203A⟩,
    ⟨0x2045, 0x2046⟩, ⟨0x207D, 0x207E⟩, ⟨0x208D, 0x208E⟩, ⟨0x2140, 0x2140⟩, ⟨0x2201, 0x2204⟩,
    ⟨0x2208, 0x220D⟩, ⟨0x2211, 0x2211⟩, ⟨0x2215, 0x2216⟩, ⟨0x221A, 0x221D⟩, ⟨0x221F, 0x2222⟩,
    ⟨0x2224, 0x2224⟩, ⟨0x2226, 0x2226⟩, ⟨0x222B, 0x2233⟩, ⟨0x2239, 0x2239⟩, ⟨0x223B, 0x224C⟩,
    ⟨0x2252, 0x2255⟩, ⟨0x225F, 0x2260⟩, ⟨0x2262, 0x2262⟩, ⟨0x2264, 0x226B⟩, ⟨0x226D, 0x228C⟩,
    ⟨0x228F, 0x2292⟩, ⟨0x2298, 0x2298⟩, ⟨0x22A2, 0x22A3⟩, ⟨0x22A6, 0x22B8⟩, ⟨0x22BE, 0x22BF⟩,
    ⟨0x22C9, 0x22CD⟩, ⟨0x22D0, 0x22D1⟩, ⟨0x22D6, 0x22ED⟩, ⟨0x22F0, 0x22FF⟩, ⟨0x2308, 0x230B⟩,
    ⟨0x2320, 0x2321⟩, ⟨0x2329, 0x232A⟩, ⟨0x2768, 0x2775⟩, ⟨0x27C0, 0x27C0⟩, ⟨0x27C3, 0x27C6⟩,
    ⟨0x27C8, 0x27C9⟩, ⟨0x27CB, 0x27CD⟩, ⟨0x27D3, 0x27D6⟩, ⟨0x27DC, 0x27DE⟩, ⟨0x27E2, 0x27EF⟩,
    ⟨0x2983, 0x2998⟩, ⟨0x299B, 0x29A0⟩, ⟨0x29A2, 0x29AF⟩, ⟨0x29B8, 0x29B8⟩, ⟨0x29C0, 0x29C5⟩,
    ⟨0x29C9, 0x29C9⟩, ⟨0x29CE, 0x29D2⟩, ⟨0x29D4, 0x29D5⟩, ⟨0x29D8, 0x29DC⟩, ⟨0x29E1, 0x29E1⟩,
    ⟨0x29E3, 0x29E5⟩, ⟨0x29E8, 0x29E9⟩, ⟨0x29F4, 0x29F9⟩, ⟨0x29FC, 0x29FD⟩, ⟨0x2A0A, 0x2A1C⟩,
    ⟨0x2A1E, 0x2A21⟩, ⟨0x2A24, 0x2A24⟩, ⟨0x2A26, 0x2A26⟩, ⟨0x2A29, 0x2A29⟩, ⟨0x2A2B, 0x2A2E⟩,
    ⟨0x2A34, 0x2A35⟩, ⟨0x2A3C, 0x2A3E⟩, ⟨0x2A57, 0x2A58⟩, ⟨0x2A64, 0x2A65⟩, ⟨0x2A6A, 0x2A6D⟩,
    ⟨0x2A6F, 0x2A70⟩, ⟨0x2A73, 0x2A74⟩, ⟨0x2A79, 0x2AA3⟩, ⟨0x2AA6, 0x2AAD⟩, ⟨0x2AAF, 0x2AD6⟩,
    ⟨0x2ADC, 0x2ADC⟩, ⟨0x2ADE, 0x2ADE⟩, ⟨0x2AE2, 0x2AE6⟩, ⟨0x2AEC, 0x2AEE⟩, ⟨0x2AF3, 0x2AF3⟩,
    ⟨0x2AF7, 0x2AFB⟩, ⟨0x2AFD, 0x2AFD⟩, ⟨0x2BFE, 0x2BFE⟩, ⟨0x2E02, 0x2E05⟩, ⟨0x2E09, 0x2E0A⟩,
    ⟨0x2E0C, 0x2E0D⟩, ⟨0x2E1C, 0x2E1D⟩, ⟨0x2E20, 0x2E29⟩, ⟨0x2E55, 0x2E5C⟩, ⟨0x3008, 0x3011⟩,
    ⟨0x3014, 0x301B⟩, ⟨0xFE59, 0xFE5E⟩, ⟨0xFE64, 0xFE65⟩, ⟨0xFF08, 0xFF09⟩, ⟨0xFF1C, 0xFF1C⟩,
    ⟨0xFF1E, 0xFF1E⟩, ⟨0xFF3B, 0xFF3B⟩, ⟨0xFF3D, 0xFF3D⟩, ⟨0xFF5B, 0xFF5B⟩, ⟨0xFF5D, 0xFF5D⟩,
    ⟨0xFF5F, 0xFF60⟩, ⟨0xFF62, 0xFF63⟩, ⟨0x1D6DB, 0x1D6DB⟩, ⟨0x1D715, 0x1D715⟩, ⟨0x1D74F, 0x1D74F⟩,
    ⟨0x1D789, 0x1D789⟩, ⟨0x1D7C3, 0x1D7C3⟩]⟩

/-- Property `Dash`. -/
def dash : CodeSet :=
  ⟨[⟨0x2D, 0x2D⟩, ⟨0x58A, 0x58A⟩, ⟨0x5BE, 0x5BE⟩, ⟨0x1400, 0x1400⟩, ⟨0x1806, 0x1806⟩,
    ⟨0x2010, 0x2015⟩, ⟨0x2053, 0x2053⟩, ⟨0x207B, 0x207B⟩, ⟨0x208B, 0x208B⟩, ⟨0x2212, 0x2212⟩,
    ⟨0x2E17, 0x2E17⟩, ⟨0x2E1A, 0x2E1A⟩, ⟨0x2E3A, 0x2E3B⟩, ⟨0x2E40, 0x2E40⟩, ⟨0x2E5D, 0x2E5D⟩,
    ⟨0x301C, 0x301C⟩, ⟨0x3030, 0x3030⟩, ⟨0x30A0, 0x30A0⟩, ⟨0xFE31, 0xFE32⟩, ⟨0xFE58, 0xFE58⟩,
    ⟨0xFE63, 0xFE63⟩, ⟨0xFF0D, 0xFF0D⟩, ⟨0x10D6E, 0x10D6E⟩, ⟨0x10EAD, 0x10EAD⟩]⟩

/-- Property `Deprecated`. -/
def deprecated : CodeSet :=
  ⟨[⟨0x149, 0x149⟩, ⟨0x673, 0x673⟩, ⟨0xF77, 0xF77⟩, ⟨0xF79, 0xF79⟩, ⟨0x17A3, 0x17A4⟩,
    ⟨0x206A, 0x206F⟩, ⟨0x2329, 0x232A⟩, ⟨0xE0001, 0xE0001⟩]⟩

/-- Property `Diacritic`. -/
def diacritic : CodeSet :=
  ⟨[⟨0x5E, 0x5E⟩, ⟨0x60, 0x60⟩, ⟨0xA8, 0xA8⟩, ⟨0xAF, 0xAF⟩, ⟨0xB4, 0xB4⟩, ⟨0xB7, 0xB8⟩,
    ⟨0x2B0, 0x34E⟩, ⟨0x350, 0x357⟩, ⟨0x35D, 0x362⟩, ⟨0x374, 0x375⟩, ⟨0x37A, 0x37A⟩, ⟨0x384, 0x385⟩,
    ⟨0x483, 0x487⟩, ⟨0x559, 0x559⟩, ⟨0x591, 0x5A1⟩, ⟨0x5A3, 0x5BD⟩, ⟨0x5BF, 0x5BF⟩, ⟨0x5C1, 0x5C2⟩,
    ⟨0x5C4, 0x5C4⟩, ⟨0x64B, 0x652⟩, ⟨0x657, 0x658⟩, ⟨0x6DF, 0x6E0⟩, ⟨0x6E5, 0x6E6⟩, ⟨0x6EA, 0x6EC⟩,
    ⟨0x730, 0x74A⟩, ⟨0x7A6, 0x7B0⟩, ⟨0x7EB, 0x7F5⟩, ⟨0x818, 0x819⟩, ⟨0x898, 0x89F⟩, ⟨0x8C9, 0x8D2⟩,
    ⟨0x8E3, 0x8FE⟩, ⟨0x93C, 0x93C⟩, ⟨0x94D, 0x94D⟩, ⟨0x951, 0x954⟩, ⟨0x971, 0x971⟩, ⟨0x9BC, 0x9BC⟩,
    ⟨0x9CD, 0x9CD⟩, ⟨0xA3C, 0xA3C⟩, ⟨0xA4D, 0xA4D⟩, ⟨0xABC, 0xABC⟩, ⟨0xACD, 0xACD⟩, ⟨0xAFD, 0xAFF⟩,
    ⟨0xB3C, 0xB3C⟩, ⟨0xB4D, 0xB4D⟩, ⟨0xB55, 0xB55⟩, ⟨0xBCD, 0xBCD⟩, ⟨0xC3C, 0xC3C⟩, ⟨0xC4D, 0xC4D⟩,
    ⟨0xCBC, 0xCBC⟩, ⟨0xCCD, 0xCCD⟩, ⟨0xD3B, 0xD3C⟩, ⟨0xD4D, 0xD4D⟩, ⟨0xDCA, 0xDCA⟩, ⟨0xE3A, 0xE3A⟩,
    ⟨0xE47, 0xE4C⟩, ⟨0xE4E, 0xE4E⟩, ⟨0xEBA, 0xEBA⟩, ⟨0xEC8, 0xECC⟩, ⟨0xF18, 0xF19⟩, ⟨0xF35, 0xF35⟩,
    ⟨0xF37, 0xF37⟩, ⟨0xF39, 0xF39⟩, ⟨0xF3E, 0xF3F⟩, ⟨0xF82, 0xF84⟩, ⟨0xF86, 0xF87⟩, ⟨0xFC6, 0xFC6⟩,
    ⟨0x1037, 0x1037⟩, ⟨0x1039, 0x103A⟩, ⟨0x1063, 0x1064⟩, ⟨0x1069, 0x106D⟩, ⟨0x1087, 0x108D⟩,
    ⟨0x108F, 0x108F⟩, ⟨0x109A, 0x109B⟩, ⟨0x135D, 0x135F⟩, ⟨0x1714, 0x1715⟩, ⟨0x1734, 0x1734⟩,
    ⟨0x17C9, 0x17D3⟩, ⟨0x17DD, 0x17DD⟩, ⟨0x1939, 0x193B⟩, ⟨0x1A60, 0x1A60⟩, ⟨0x1A75, 0x1A7C⟩,
    ⟨0x1A7F, 0x1A7F⟩, ⟨0x1AB0, 0x1ABE⟩, ⟨0x1AC1, 0x1ACB⟩, ⟨0x1B34, 0x1B34⟩, ⟨0x1B44, 0x1B44⟩,
    ⟨0x1B6B, 0x1B73⟩, ⟨0x1BAA, 0x1BAB⟩, ⟨0x1BE6, 0x1BE6⟩, ⟨0x1BF2, 0x1BF3⟩, ⟨0x1C36, 0x1C37⟩,
    ⟨0x1C78, 0x1C7D⟩, ⟨0x1CD0, 0x1CE8⟩, ⟨0x1CED, 0x1CED⟩, ⟨0x1CF4, 0x1CF4⟩, ⟨0x1CF7, 0x1CF9⟩,
    ⟨0x1D2C, 0x1D6A⟩, ⟨0x1DC4, 0x1DCF⟩, ⟨0x1DF5, 0x1DFF⟩, ⟨0x1FBD, 0x1FBD⟩, ⟨0x1FBF, 0x1FC1⟩,
    ⟨0x1FCD, 0x1FCF⟩, ⟨0x1FDD, 0x1FDF⟩, ⟨0x1FED, 0x1FEF⟩, ⟨0x1FFD, 0x1FFE⟩, ⟨0x2CEF, 0x2CF1⟩,
    ⟨0x2E2F, 0x2E2F⟩, ⟨0x302A, 0x302F⟩, ⟨0x3099, 0x309C⟩, ⟨0x30FC, 0x30FC⟩, ⟨0xA66F, 0xA66F⟩,
    ⟨0xA67C, 0xA67D⟩, ⟨0xA67F, 0xA67F⟩, ⟨0xA69C, 0xA69D⟩, ⟨0xA6F0, 0xA6F1⟩, ⟨0xA700, 0xA721⟩,
    ⟨0xA788, 0xA78A⟩, ⟨0xA7F8, 0xA7F9⟩, ⟨0xA806, 0xA806⟩, ⟨0xA82C, 0xA82C⟩, ⟨0xA8C4, 0xA8C4⟩,
    ⟨0xA8E0, 0xA8F1⟩, ⟨0xA92B, 0xA92E⟩, ⟨0xA953, 0xA953⟩, ⟨0xA9B3, 0xA9B3⟩, ⟨0xA9C0, 0xA9C0⟩,
    ⟨0xA9E5, 0xA9E5⟩, ⟨0xAA7B, 0xAA7D⟩, ⟨0xAABF, 0xAAC2⟩, ⟨0xAAF6, 0xAAF6⟩, ⟨0xAB5B, 0xAB5F⟩,
    ⟨0xAB69, 0xAB6B⟩, ⟨0xABEC, 0xABED⟩, ⟨0xFB1E, 0xFB1E⟩, ⟨0xFE20, 0xFE2F⟩, ⟨0xFF3E, 0xFF3E⟩,
    ⟨0xFF40, 0xFF40⟩, ⟨0xFF70, 0xFF70⟩, ⟨0xFF9E, 0xFF9F⟩, ⟨0xFFE3, 0xFFE3⟩, ⟨0x102E0, 0x102E0⟩,
    ⟨0x10780, 0x10785⟩, ⟨0x10787, 0x107B0⟩, ⟨0x107B2, 0x107BA⟩, ⟨0x10A38, 0x10A3A⟩,
    ⟨0x10A3F, 0x10A3F⟩, ⟨0x10AE5, 0x10AE6⟩, ⟨0x10D22, 0x10D27⟩, ⟨0x10D4E, 0x10D4E⟩,
    ⟨0x10D69, 0x10D6D⟩, ⟨0x10EFD, 0x10EFF⟩, ⟨0x10F46, 0x10F50⟩, ⟨0x10F82, 0x10F85⟩,
    ⟨0x11046, 0x11046⟩, ⟨0x11070, 0x11070⟩, ⟨0x110B9, 0x110BA⟩, ⟨0x11133, 0x11134⟩,
    ⟨0x11173, 0x11173⟩, ⟨0x111C0, 0x111C0⟩, ⟨0x111CA, 0x111CC⟩, ⟨0x11235, 0x11236⟩,
    ⟨0x112E9, 0x112EA⟩, ⟨0x1133B, 0x1133C⟩, ⟨0x1134D, 0x1134D⟩, ⟨0x11366, 0x1136C⟩,
    ⟨0x11370, 0x11374⟩, ⟨0x113CE, 0x113D0⟩, ⟨0x113D2, 0x113D3⟩, ⟨0x113E1, 0x113E2⟩,
    ⟨0x11442, 0x11442⟩, ⟨0x11446, 0x11446⟩, ⟨0x114C2, 0x114C3⟩, ⟨0x115BF, 0x115C0⟩,
    ⟨0x1163F, 0x1163F⟩, ⟨0x116B6, 0x116B7⟩, ⟨0x1172B, 0x1172B⟩, ⟨0x11839, 0x1183A⟩,
    ⟨0x1193D, 0x1193E⟩, ⟨0x11943, 0x11943⟩, ⟨0x119E0, 0x119E0⟩, ⟨0x11A34, 0x11A34⟩,
    ⟨0x11A47, 0x11A47⟩, ⟨0x11A99, 0x11A99⟩, ⟨0x11C3F, 0x11C3F⟩, ⟨0x11D42, 0x11D42⟩,
    ⟨0x11D44, 0x11D45⟩, ⟨0x11D97, 0x11D97⟩, ⟨0x11F41, 0x11F42⟩, ⟨0x11F5A, 0x11F5A⟩,
    ⟨0x13447, 0x13455⟩, ⟨0x1612F, 0x1612F⟩, ⟨0x16AF0, 0x16AF4⟩, ⟨0x16B30, 0x16B36⟩,
    ⟨0x16D6B, 0x16D6C⟩, ⟨0x16F8F, 0x16F9F⟩, ⟨0x16FF0, 0x16FF1⟩, ⟨0x1AFF0, 0x1AFF3⟩,
    ⟨0x1AFF5, 0x1AFFB⟩, ⟨0x1AFFD, 0x1AFFE⟩, ⟨0x1CF00, 0x1CF2D⟩, ⟨0x1CF30, 0x1CF46⟩,
    ⟨0x1D167, 0x1D169⟩, ⟨0x1D16D, 0x1D172⟩, ⟨0x1D17B, 0x1D182⟩, ⟨0x1D185, 0x1D18B⟩,
    ⟨0x1D1AA, 0x1D1AD⟩, ⟨0x1E030, 0x1E06D⟩, ⟨0x1E130, 0x1E136⟩, ⟨0x1E2AE, 0x1E2AE⟩,
    ⟨0x1E2EC, 0x1E2EF⟩, ⟨0x1E5EE, 0x1E5EF⟩, ⟨0x1E8D0, 0x1E8D6⟩, ⟨0x1E944, 0x1E946⟩,
    ⟨0x1E948, 0x1E94A⟩]⟩

/-- Property `Extender`. -/
def extender : CodeSet :=
  ⟨[⟨0xB7, 0xB7⟩, ⟨0x2D0, 0x2D1⟩, ⟨0x640, 0x640⟩, ⟨0x7FA, 0x7FA⟩, ⟨0xA71, 0xA71⟩, ⟨0xAFB, 0xAFB⟩,
    ⟨0xB55, 0xB55⟩, ⟨0xE46, 0xE46⟩, ⟨0xEC6, 0xEC6⟩, ⟨0x180A, 0x180A⟩, ⟨0x1843, 0x1843⟩,
    ⟨0x1AA7, 0x1AA7⟩, ⟨0x1C36, 0x1C36⟩, ⟨0x1C7B, 0x1C7B⟩, ⟨0x3005, 0x3005⟩, ⟨0x3031, 0x3035⟩,
    ⟨0x309D, 0x309E⟩, ⟨0x30FC, 0x30FE⟩, ⟨0xA015, 0xA015⟩, ⟨0xA60C, 0xA60C⟩, ⟨0xA9CF, 0xA9CF⟩,
    ⟨0xA9E6, 0xA9E6⟩, ⟨0xAA70, 0xAA70⟩, ⟨0xAADD, 0xAADD⟩, ⟨0xAAF3, 0xAAF4⟩, ⟨0xFF70, 0xFF70⟩,
    ⟨0x10781, 0x10782⟩, ⟨0x10D4E, 0x10D4E⟩, ⟨0x10D6A, 0x10D6A⟩, ⟨0x10D6F, 0x10D6F⟩,
    ⟨0x11237, 0x11237⟩, ⟨0x1135D, 0x1135D⟩, ⟨0x113D2, 0x113D3⟩, ⟨0x115C6, 0x115C8⟩,
    ⟨0x11A98, 0x11A98⟩, ⟨0x16B42, 0x16B43⟩, ⟨0x16FE0, 0x16FE1⟩, ⟨0x16FE3, 0x16FE3⟩,
    ⟨0x1E13C, 0x1E13D⟩, ⟨0x1E5EF, 0x1E5EF⟩, ⟨0x1E944, 0x1E946⟩]⟩

/-- Property `Grapheme_Link`. -/
def graphemeLink : CodeSet :=
  ⟨[⟨0x94D, 0x94D⟩, ⟨0x9CD, 0x9CD⟩, ⟨0xA4D, 0xA4D⟩, ⟨0xACD, 0xACD⟩, ⟨0xB4D, 0xB4D⟩, ⟨0xBCD, 0xBCD⟩,
    ⟨0xC4D, 0xC4D⟩, ⟨0xCCD, 0xCCD⟩, ⟨0xD3B, 0xD3C⟩, ⟨0xD4D, 0xD4D⟩, ⟨0xDCA, 0xDCA⟩, ⟨0xE3A, 0xE3A⟩,
    ⟨0xEBA, 0xEBA⟩, ⟨0xF84, 0xF84⟩, ⟨0x1039, 0x103A⟩, ⟨0x1714, 0x1715⟩, ⟨0x1734, 0x1734⟩,
    ⟨0x17D2, 0x17D2⟩, ⟨0x1A60, 0x1A60⟩, ⟨0x1B44, 0x1B44⟩, ⟨0x1BAA, 0x1BAB⟩, ⟨0x1BF2, 0x1BF3⟩,
    ⟨0x2D7F, 0x2D7F⟩, ⟨0xA806, 0xA806⟩, ⟨0xA82C, 0xA82C⟩, ⟨0xA8C4, 0xA8C4⟩, ⟨0xA953, 0xA953⟩,
    ⟨0xA9C0, 0xA9C0⟩, ⟨0xAAF6, 0xAAF6⟩, ⟨0xABED, 0xABED⟩, ⟨0x10A3F, 0x10A3F⟩, ⟨0x11046, 0x11046⟩,
    ⟨0x11070, 0x11070⟩, ⟨0x1107F, 0x1107F⟩, ⟨0x110B9, 0x110B9⟩, ⟨0x11133, 0x11134⟩,
    ⟨0x111C0, 0x111C0⟩, ⟨0x11235, 0x11235⟩, ⟨0x112EA, 0x112EA⟩, ⟨0x1134D, 0x1134D⟩,
    ⟨0x113CE, 0x113D0⟩, ⟨0x11442, 0x11442⟩, ⟨0x114C2, 0x114C2⟩, ⟨0x115BF, 0x115BF⟩,
    ⟨0x1163F, 0x1163F⟩, ⟨0x116B6, 0x116B6⟩, ⟨0x1172B, 0x1172B⟩, ⟨0x11839, 0x11839⟩,
    ⟨0x1193D, 0x1193E⟩, ⟨0x119E0, 0x119E0⟩, ⟨0x11A34, 0x11A34⟩, ⟨0x11A47, 0x11A47⟩,
    ⟨0x11A99, 0x11A99⟩, ⟨0x11C3F, 0x11C3F⟩, ⟨0x11D44, 0x11D45⟩, ⟨0x11D97, 0x11D97⟩,
    ⟨0x11F41, 0x11F42⟩, ⟨0x1612F, 0x1612F⟩]⟩

/-- Property `Hex_Digit`. -/
def hexDigit : CodeSet :=
  ⟨[⟨0x30, 0x39⟩, ⟨0x41, 0x46⟩, ⟨0x61, 0x66⟩, ⟨0xFF10, 0xFF19⟩, ⟨0xFF21, 0xFF26⟩, ⟨0xFF41, 0xFF46⟩]⟩

/-- Property `Hyphen`. -/
def hyphen : CodeSet :=
  ⟨[⟨0x2D, 0x2D⟩, ⟨0xAD, 0xAD⟩, ⟨0x58A, 0x58A⟩, ⟨0x1806, 0x1806⟩, ⟨0x2010, 0x2011⟩,
    ⟨0x2E17, 0x2E17⟩, ⟨0x30FB, 0x30FB⟩, ⟨0xFE63, 0xFE63⟩, ⟨0xFF0D, 0xFF0D⟩, ⟨0xFF65, 0xFF65⟩]⟩

/-- Property `IDS_Binary_Operator`. -/
def idsBinaryOperator : CodeSet :=
  ⟨[⟨0x2FF0, 0x2FF1⟩, ⟨0x2FF4, 0x2FFD⟩, ⟨0x31EF, 0x31EF⟩]⟩

/-- Property `IDS_Trinary_Operator`. -/
def idsTrinaryOperator : CodeSet :=
  ⟨[⟨0x2FF2, 0x2FF3⟩]⟩

/-- Property `IDS_Unary_Operator`. -/
def idsUnaryOperator : CodeSet :=
  ⟨[⟨0x2FFE, 0x2FFF⟩]⟩

/-- Property `ID_Compat_Math_Start`. -/
def idCompatMathStart : CodeSet :=
  ⟨[⟨0x2202, 0x2202⟩, ⟨0x2207, 0x2207⟩, ⟨0x221E, 0x221E⟩, ⟨0x1D6C1, 0x1D6C1⟩, ⟨0x1D6DB, 0x1D6DB⟩,
    ⟨0x1D6FB, 0x1D6FB⟩, ⟨0x1D715, 0x1D715⟩, ⟨0x1D735, 0x1D735⟩, ⟨0x1D74F, 0x1D74F⟩,
    ⟨0x1D76F, 0x1D76F⟩, ⟨0x1D789, 0x1D789⟩, ⟨0x1D7A9, 0x1D7A9⟩, ⟨0x1D7C3, 0x1D7C3⟩]⟩

/-- Property `ID_Compat_Math_Continue`. -/
def idCompatMathContinue : CodeSet :=
  ⟨[⟨0xB2, 0xB3⟩, ⟨0xB9, 0xB9⟩, ⟨0x2070, 0x2070⟩, ⟨0x2074, 0x207E⟩, ⟨0x2080, 0x208E⟩,
    ⟨0x2202, 0x2202⟩, ⟨0x2207, 0x2207⟩, ⟨0x221E, 0x221E⟩, ⟨0x1D6C1, 0x1D6C1⟩, ⟨0x1D6DB, 0x1D6DB⟩,
    ⟨0x1D6FB, 0x1D6FB⟩, ⟨0x1D715, 0x1D715⟩, ⟨0x1D735, 0x1D735⟩, ⟨0x1D74F, 0x1D74F⟩,
    ⟨0x1D76F, 0x1D76F⟩, ⟨0x1D789, 0x1D789⟩, ⟨0x1D7A9, 0x1D7A9⟩, ⟨0x1D7C3, 0x1D7C3⟩]⟩

/-- Property `Ideographic`. -/
def ideographic : CodeSet :=
  ⟨[⟨0x3006, 0x3007⟩, ⟨0x3021, 0x3029⟩, ⟨0x3038, 0x303A⟩, ⟨0x3400, 0x4DBF⟩, ⟨0x4E00, 0x9FFF⟩,
    ⟨0xF900, 0xFA6D⟩, ⟨0xFA70, 0xFAD9⟩, ⟨0x16FE4, 0x16FE4⟩, ⟨0x17000, 0x187F7⟩, ⟨0x18800, 0x18CD5⟩,
    ⟨0x18CFF, 0x18D08⟩, ⟨0x1B170, 0x1B2FB⟩, ⟨0x20000, 0x2A6DF⟩, ⟨0x2A700, 0x2B739⟩,
    ⟨0x2B740, 0x2B81D⟩, ⟨0x2B820, 0x2CEA1⟩, ⟨0x2CEB0, 0x2EBE0⟩, ⟨0x2EBF0, 0x2EE5D⟩,
    ⟨0x2F800, 0x2FA1D⟩, ⟨0x30000, 0x3134A⟩, ⟨0x31350, 0x323AF⟩]⟩

/-- Property `Join_Control`. -/
def joinControl : CodeSet :=
  ⟨[⟨0x200C, 0x200D⟩]⟩

/-- Property `Logical_Order_Exception`. -/
def logicalOrderException : CodeSet :=
  ⟨[⟨0xE40, 0xE44⟩, ⟨0xEC0, 0xEC4⟩, ⟨0x19B5, 0x19B7⟩, ⟨0x19BA, 0x19BA⟩, ⟨0xAAB5, 0xAAB6⟩,
    ⟨0xAAB9, 0xAAB9⟩, ⟨0xAABB, 0xAABC⟩]⟩

/-- Property `Modifier_Combining_Mark`. -/
def modifierCombiningMark : CodeSet :=
  ⟨[⟨0x654, 0x655⟩, ⟨0x658, 0x658⟩, ⟨0x6DC, 0x6DC⟩, ⟨0x6E3, 0x6E3⟩, ⟨0x6E7, 0x6E8⟩, ⟨0x8CA, 0x8CB⟩,
    ⟨0x8CD, 0x8CF⟩, ⟨0x8D3, 0x8D3⟩, ⟨0x8F3, 0x8F3⟩]⟩

/-- Property `Noncharacter_Code_Point`. -/
def noncharacter : CodeSet :=
  ⟨[⟨0xFDD0, 0xFDEF⟩, ⟨0xFFFE, 0xFFFF⟩, ⟨0x1FFFE, 0x1FFFF⟩, ⟨0x2FFFE, 0x2FFFF⟩, ⟨0x3FFFE, 0x3FFFF⟩,
    ⟨0x4FFFE, 0x4FFFF⟩, ⟨0x5FFFE, 0x5FFFF⟩, ⟨0x6FFFE, 0x6FFFF⟩, ⟨0x7FFFE, 0x7FFFF⟩,
    ⟨0x8FFFE, 0x8FFFF⟩, ⟨0x9FFFE, 0x9FFFF⟩, ⟨0xAFFFE, 0xAFFFF⟩, ⟨0xBFFFE, 0xBFFFF⟩,
    ⟨0xCFFFE, 0xCFFFF⟩, ⟨0xDFFFE, 0xDFFFF⟩, ⟨0xEFFFE, 0xEFFFF⟩, ⟨0xFFFFE, 0xFFFFF⟩,
    ⟨0x10FFFE, 0x10FFFF⟩]⟩

/-- Property `Pattern_Syntax`. -/
def patternSyntax : CodeSet :=
  ⟨[⟨0x21, 0x2F⟩, ⟨0x3A, 0x40⟩, ⟨0x5B, 0x5E⟩, ⟨0x60, 0x60⟩, ⟨0x7B, 0x7E⟩, ⟨0xA1, 0xA7⟩,
    ⟨0xA9, 0xA9⟩, ⟨0xAB, 0xAC⟩, ⟨0xAE, 0xAE⟩, ⟨0xB0, 0xB1⟩, ⟨0xB6, 0xB6⟩, ⟨0xBB, 0xBB⟩,
    ⟨0xBF, 0xBF⟩, ⟨0xD7, 0xD7⟩, ⟨0xF7, 0xF7⟩, ⟨0x2010, 0x2027⟩, ⟨0x2030, 0x203E⟩, ⟨0x2041, 0x2053⟩,
    ⟨0x2055, 0x205E⟩, ⟨0x2190, 0x245F⟩, ⟨0x2500, 0x2775⟩, ⟨0x2794, 0x2BFF⟩, ⟨0x2E00, 0x2E7F⟩,
    ⟨0x3001, 0x3003⟩, ⟨0x3008, 0x3020⟩, ⟨0x3030, 0x3030⟩, ⟨0xFD3E, 0xFD3F⟩, ⟨0xFE45, 0xFE46⟩]⟩

/-- Property `Pattern_White_Space`. -/
def patternWhiteSpace : CodeSet :=
  ⟨[⟨0x9, 0xD⟩, ⟨0x20, 0x20⟩, ⟨0x85, 0x85⟩, ⟨0x200E, 0x200F⟩, ⟨0x2028, 0x2029⟩]⟩

/-- Property `Prepended_Concatenation_Mark`. -/
def prependedConcatenationMark : CodeSet :=
  ⟨[⟨0x600, 0x605⟩, ⟨0x6DD, 0x6DD⟩, ⟨0x70F, 0x70F⟩, ⟨0x890, 0x891⟩, ⟨0x8E2, 0x8E2⟩,
    ⟨0x110BD, 0x110BD⟩, ⟨0x110CD, 0x110CD⟩]⟩

/-- Property `Quotation_Mark`. -/
def quotationMark : CodeSet :=
  ⟨[⟨0x22, 0x22⟩, ⟨0x27, 0x27⟩, ⟨0xAB, 0xAB⟩, ⟨0xBB, 0xBB⟩, ⟨0x2018, 0x201F⟩, ⟨0x2039, 0x203A⟩,
    ⟨0x2E42, 0x2E42⟩, ⟨0x300C, 0x300F⟩, ⟨0x301D, 0x301F⟩, ⟨0xFE41, 0xFE44⟩, ⟨0xFF02, 0xFF02⟩,
    ⟨0xFF07, 0xFF07⟩, ⟨0xFF62, 0xFF63⟩]⟩

/-- Property `Radical`. -/
def radical : CodeSet :=
  ⟨[⟨0x2E80, 0x2E99⟩, ⟨0x2E9B, 0x2EF3⟩, ⟨0x2F00, 0x2FD5⟩]⟩

/-- Property `Regional_Indicator`. -/
def regionalIndicator : CodeSet :=
  ⟨[⟨0x1F1E6, 0x1F1FF⟩]⟩

/-- Property `Sentence_Terminal`. -/
def sentenceTerminal : CodeSet :=
  ⟨[⟨0x21, 0x21⟩, ⟨0x2E, 0x2E⟩, ⟨0x3F, 0x3F⟩, ⟨0x589, 0x589⟩, ⟨0x61D, 0x61F⟩, ⟨0x6D4, 0x6D4⟩,
    ⟨0x700, 0x702⟩, ⟨0x7F9, 0x7F9⟩, ⟨0x837, 0x837⟩, ⟨0x839, 0x839⟩, ⟨0x83D, 0x83E⟩, ⟨0x964, 0x965⟩,
    ⟨0x104A, 0x104B⟩, ⟨0x1362, 0x1362⟩, ⟨0x1367, 0x1368⟩, ⟨0x166E, 0x166E⟩, ⟨0x1735, 0x1736⟩,
    ⟨0x17D4, 0x17D5⟩, ⟨0x1803, 0x1803⟩, ⟨0x1809, 0x1809⟩, ⟨0x1944, 0x1945⟩, ⟨0x1AA8, 0x1AAB⟩,
    ⟨0x1B4E, 0x1B4F⟩, ⟨0x1B5A, 0x1B5B⟩, ⟨0x1B5E, 0x1B5F⟩, ⟨0x1B7D, 0x1B7F⟩, ⟨0x1C3B, 0x1C3C⟩,
    ⟨0x1C7E, 0x1C7F⟩, ⟨0x2024, 0x2024⟩, ⟨0x203C, 0x203D⟩, ⟨0x2047, 0x2049⟩, ⟨0x2CF9, 0x2CFB⟩,
    ⟨0x2E2E, 0x2E2E⟩, ⟨0x2E3C, 0x2E3C⟩, ⟨0x2E53, 0x2E54⟩, ⟨0x3002, 0x3002⟩, ⟨0xA4FF, 0xA4FF⟩,
    ⟨0xA60E, 0xA60F⟩, ⟨0xA6F3, 0xA6F3⟩, ⟨0xA6F7, 0xA6F7⟩, ⟨0xA876, 0xA877⟩, ⟨0xA8CE, 0xA8CF⟩,
    ⟨0xA92F, 0xA92F⟩, ⟨0xA9C8, 0xA9C9⟩, ⟨0xAA5D, 0xAA5F⟩, ⟨0xAAF0, 0xAAF1⟩, ⟨0xABEB, 0xABEB⟩,
    ⟨0xFE12, 0xFE12⟩, ⟨0xFE15, 0xFE16⟩, ⟨0xFE52, 0xFE52⟩, ⟨0xFE56, 0xFE57⟩, ⟨0xFF01, 0xFF01⟩,
    ⟨0xFF0E, 0xFF0E⟩, ⟨0xFF1F, 0xFF1F⟩, ⟨0xFF61, 0xFF61⟩, ⟨0x10A56, 0x10A57⟩, ⟨0x10F55, 0x10F59⟩,
    ⟨0x10F86, 0x10F89⟩, ⟨0x11047, 0x11048⟩, ⟨0x110BE, 0x110C1⟩, ⟨0x11141, 0x11143⟩,
    ⟨0x111C5, 0x111C6⟩, ⟨0x111CD, 0x111CD⟩, ⟨0x111DE, 0x111DF⟩, ⟨0x11238, 0x11239⟩,
    ⟨0x1123B, 0x1123C⟩, ⟨0x112A9, 0x112A9⟩, ⟨0x113D4, 0x113D5⟩, ⟨0x1144B, 0x1144C⟩,
    ⟨0x115C2, 0x115C3⟩, ⟨0x115C9, 0x115D7⟩, ⟨0x11641, 0x11642⟩, ⟨0x1173C, 0x1173E⟩,
    ⟨0x11944, 0x11944⟩, ⟨0x11946, 0x11946⟩, ⟨0x11A42, 0x11A43⟩, ⟨0x11A9B, 0x11A9C⟩,
    ⟨0x11C41, 0x11C42⟩, ⟨0x11EF7, 0x11EF8⟩, ⟨0x11F43, 0x11F44⟩, ⟨0x16A6E, 0x16A6F⟩,
    ⟨0x16AF5, 0x16AF5⟩, ⟨0x16B37, 0x16B38⟩, ⟨0x16B44, 0x16B44⟩, ⟨0x16D6E, 0x16D6F⟩,
    ⟨0x16E98, 0x16E98⟩, ⟨0x1BC9F, 0x1BC9F⟩, ⟨0x1DA88, 0x1DA88⟩]⟩

/-- Property `Soft_Dotted`. -/
def softDotted : CodeSet :=
  ⟨[⟨0x69, 0x6A⟩, ⟨0x12F, 0x12F⟩, ⟨0x249, 0x249⟩, ⟨0x268, 0x268⟩, ⟨0x29D, 0x29D⟩, ⟨0x2B2, 0x2B2⟩,
    ⟨0x3F3, 0x3F3⟩, ⟨0x456, 0x456⟩, ⟨0x458, 0x458⟩, ⟨0x1D62, 0x1D62⟩, ⟨0x1D96, 0x1D96⟩,
    ⟨0x1DA4, 0x1DA4⟩, ⟨0x1DA8, 0x1DA8⟩, ⟨0x1E2D, 0x1E2D⟩, ⟨0x1ECB, 0x1ECB⟩, ⟨0x2071, 0x2071⟩,
    ⟨0x2148, 0x2149⟩, ⟨0x2C7C, 0x2C7C⟩, ⟨0x1D422, 0x1D423⟩, ⟨0x1D456, 0x1D457⟩, ⟨0x1D48A, 0x1D48B⟩,
    ⟨0x1D4BE, 0x1D4BF⟩, ⟨0x1D4F2, 0x1D4F3⟩, ⟨0x1D526, 0x1D527⟩, ⟨0x1D55A, 0x1D55B⟩,
    ⟨0x1D58E, 0x1D58F⟩, ⟨0x1D5C2, 0x1D5C3⟩, ⟨0x1D5F6, 0x1D5F7⟩, ⟨0x1D62A, 0x1D62B⟩,
    ⟨0x1D65E, 0x1D65F⟩, ⟨0x1D692, 0x1D693⟩, ⟨0x1DF1A, 0x1DF1A⟩, ⟨0x1E04C, 0x1E04D⟩,
    ⟨0x1E068, 0x1E068⟩]⟩

/-- Property `Terminal_Punctuation`. -/
def terminalPunctuation : CodeSet :=
  ⟨[⟨0x21, 0x21⟩, ⟨0x2C, 0x2C⟩, ⟨0x2E, 0x2E⟩, ⟨0x3A, 0x3B⟩, ⟨0x3F, 0x3F⟩, ⟨0x37E, 0x37E⟩,
    ⟨0x387, 0x387⟩, ⟨0x589, 0x589⟩, ⟨0x5C3, 0x5C3⟩, ⟨0x60C, 0x60C⟩, ⟨0x61B, 0x61B⟩, ⟨0x61D, 0x61F⟩,
    ⟨0x6D4, 0x6D4⟩, ⟨0x700, 0x70A⟩, ⟨0x70C, 0x70C⟩, ⟨0x7F8, 0x7F9⟩, ⟨0x830, 0x835⟩, ⟨0x837, 0x83E⟩,
    ⟨0x85E, 0x85E⟩, ⟨0x964, 0x965⟩, ⟨0xE5A, 0xE5B⟩, ⟨0xF08, 0xF08⟩, ⟨0xF0D, 0xF12⟩,
    ⟨0x104A, 0x104B⟩, ⟨0x1361, 0x1368⟩, ⟨0x166E, 0x166E⟩, ⟨0x16EB, 0x16ED⟩, ⟨0x1735, 0x1736⟩,
    ⟨0x17D4, 0x17D6⟩, ⟨0x17DA, 0x17DA⟩, ⟨0x1802, 0x1805⟩, ⟨0x1808, 0x1809⟩, ⟨0x1944, 0x1945⟩,
    ⟨0x1AA8, 0x1AAB⟩, ⟨0x1B4E, 0x1B4F⟩, ⟨0x1B5A, 0x1B5B⟩, ⟨0x1B5D, 0x1B5F⟩, ⟨0x1B7D, 0x1B7F⟩,
    ⟨0x1C3B, 0x1C3F⟩, ⟨0x1C7E, 0x1C7F⟩, ⟨0x2024, 0x2024⟩, ⟨0x203C, 0x203D⟩, ⟨0x2047, 0x2049⟩,
    ⟨0x2CF9, 0x2CFB⟩, ⟨0x2E2E, 0x2E2E⟩, ⟨0x2E3C, 0x2E3C⟩, ⟨0x2E41, 0x2E41⟩, ⟨0x2E4C, 0x2E4C⟩,
    ⟨0x2E4E, 0x2E4F⟩, ⟨0x2E53, 0x2E54⟩, ⟨0x3001, 0x3002⟩, ⟨0xA4FE, 0xA4FF⟩, ⟨0xA60D, 0xA60F⟩,
    ⟨0xA6F3, 0xA6F7⟩, ⟨0xA876, 0xA877⟩, ⟨0xA8CE, 0xA8CF⟩, ⟨0xA92F, 0xA92F⟩, ⟨0xA9C7, 0xA9C9⟩,
    ⟨0xAA5D, 0xAA5F⟩, ⟨0xAADF, 0xAADF⟩, ⟨0xAAF0, 0xAAF1⟩, ⟨0xABEB, 0xABEB⟩, ⟨0xFE12, 0xFE12⟩,
    ⟨0xFE15, 0xFE16⟩, ⟨0xFE50, 0xFE52⟩, ⟨0xFE54, 0xFE57⟩, ⟨0xFF01, 0xFF01⟩, ⟨0xFF0C, 0xFF0C⟩,
    ⟨0xFF0E, 0xFF0E⟩, ⟨0xFF1A, 0xFF1B⟩, ⟨0xFF1F, 0xFF1F⟩, ⟨0xFF61, 0xFF61⟩, ⟨0xFF64, 0xFF64⟩,
    ⟨0x1039F, 0x1039F⟩, ⟨0x103D0, 0x103D0⟩, ⟨0x10857, 0x10857⟩, ⟨0x1091F, 0x1091F⟩,
    ⟨0x10A56, 0x10A57⟩, ⟨0x10AF0, 0x10AF5⟩, ⟨0x10B3A, 0x10B3F⟩, ⟨0x10B99, 0x10B9C⟩,
    ⟨0x10F55, 0x10F59⟩, ⟨0x10F86, 0x10F89⟩, ⟨0x11047, 0x1104D⟩, ⟨0x110BE, 0x110C1⟩,
    ⟨0x11141, 0x11143⟩, ⟨0x111C5, 0x111C6⟩, ⟨0x111CD, 0x111CD⟩, ⟨0x111DE, 0x111DF⟩,
    ⟨0x11238, 0x1123C⟩, ⟨0x112A9, 0x112A9⟩, ⟨0x113D4, 0x113D5⟩, ⟨0x1144B, 0x1144D⟩,
    ⟨0x1145A, 0x1145B⟩, ⟨0x115C2, 0x115C5⟩, ⟨0x115C9, 0x115D7⟩, ⟨0x11641, 0x11642⟩,
    ⟨0x1173C, 0x1173E⟩, ⟨0x11944, 0x11944⟩, ⟨0x11946, 0x11946⟩, ⟨0x11A42, 0x11A43⟩,
    ⟨0x11A9B, 0x11A9C⟩, ⟨0x11AA1, 0x11AA2⟩, ⟨0x11C41, 0x11C43⟩, ⟨0x11C71, 0x11C71⟩,
    ⟨0x11EF7, 0x11EF8⟩, ⟨0x11F43, 0x11F44⟩, ⟨0x12470, 0x12474⟩, ⟨0x16A6E, 0x16A6F⟩,
    ⟨0x16AF5, 0x16AF5⟩, ⟨0x16B37, 0x16B39⟩, ⟨0x16B44, 0x16B44⟩, ⟨0x16D6E, 0x16D6F⟩,
    ⟨0x16E97, 0x16E98⟩, ⟨0x1BC9F, 0x1BC9F⟩, ⟨0x1DA87, 0x1DA8A⟩]⟩

/-- Property `Unified_Ideograph`. -/
def unifiedIdeograph : CodeSet :=
  ⟨[⟨0x3400, 0x4DBF⟩, ⟨0x4E00, 0x9FFF⟩, ⟨0xFA0E, 0xFA0F⟩, ⟨0xFA11, 0xFA11⟩, ⟨0xFA13, 0xFA14⟩,
    ⟨0xFA1F, 0xFA1F⟩, ⟨0xFA21, 0xFA21⟩, ⟨0xFA23, 0xFA24⟩, ⟨0xFA27, 0xFA29⟩, ⟨0x20000, 0x2A6DF⟩,
    ⟨0x2A700, 0x2B739⟩, ⟨0x2B740, 0x2B81D⟩, ⟨0x2B820, 0x2CEA1⟩, ⟨0x2CEB0, 0x2EBE0⟩,
    ⟨0x2EBF0, 0x2EE5D⟩, ⟨0x30000, 0x3134A⟩, ⟨0x31350, 0x323AF⟩]⟩

/-- Property `Variation_Selector`. -/
def variationSelector : CodeSet :=
  ⟨[⟨0x180B, 0x180D⟩, ⟨0x180F, 0x180F⟩, ⟨0xFE00, 0xFE0F⟩, ⟨0xE0100, 0xE01EF⟩]⟩

/-- Property `White_Space`. -/
def whiteSpace : CodeSet :=
  ⟨[⟨0x9, 0xD⟩, ⟨0x20, 0x20⟩, ⟨0x85, 0x85⟩, ⟨0xA0, 0xA0⟩, ⟨0x1680, 0x1680⟩, ⟨0x2000, 0x200A⟩,
    ⟨0x2028, 0x2029⟩, ⟨0x202F, 0x202F⟩, ⟨0x205F, 0x205F⟩, ⟨0x3000, 0x3000⟩]⟩

end PatternMachine.Unicode
