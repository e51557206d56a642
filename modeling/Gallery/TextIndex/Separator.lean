import Gallery.Text.Ranges

/-!
# Separators of the text index

Tokens end at blanks, controls, punctuation, symbols and marks.  The index keeps
to an early edition of the character tables; a character that the edition does
not know separates nothing.  The basic Latin block is not listed.
-/

namespace Gallery.TextIndex

open Gallery.Text

def separatorsBelow1000 : List (Nat × Nat) :=
  [(0x0080, 0x00A9), (0x00AB, 0x00B1), (0x00B4, 0x00B4), (0x00B6, 0x00B8), (0x00BB, 0x00BB),
   (0x00BF, 0x00BF), (0x00D7, 0x00D7), (0x00F7, 0x00F7), (0x02C2, 0x02C5), (0x02D2, 0x02DF),
   (0x02E5, 0x02EB), (0x02ED, 0x02ED), (0x02EF, 0x036F), (0x0375, 0x0375), (0x037E, 0x037E),
   (0x0384, 0x0385), (0x0387, 0x0387), (0x03F6, 0x03F6), (0x0482, 0x0489), (0x055A, 0x055F),
   (0x0589, 0x058A), (0x058F, 0x058F), (0x0591, 0x05C7), (0x05F3, 0x05F4), (0x0600, 0x0604),
   (0x0606, 0x061B), (0x061E, 0x061F), (0x064B, 0x065F), (0x066A, 0x066D), (0x0670, 0x0670),
   (0x06D4, 0x06D4), (0x06D6, 0x06E4), (0x06E7, 0x06ED), (0x06FD, 0x06FE), (0x0700, 0x070D),
   (0x070F, 0x070F), (0x0711, 0x0711), (0x0730, 0x074A), (0x07A6, 0x07B0), (0x07EB, 0x07F3),
   (0x07F6, 0x07F9), (0x0816, 0x0819), (0x081B, 0x0823), (0x0825, 0x0827), (0x0829, 0x082D),
   (0x0830, 0x083E), (0x0859, 0x085B), (0x085E, 0x085E), (0x08E4, 0x08FE), (0x0900, 0x0903),
   (0x093A, 0x093C), (0x093E, 0x094F), (0x0951, 0x0957), (0x0962, 0x0965), (0x0970, 0x0970),
   (0x0981, 0x0983), (0x09BC, 0x09BC), (0x09BE, 0x09C4), (0x09C7, 0x09C8), (0x09CB, 0x09CD),
   (0x09D7, 0x09D7), (0x09E2, 0x09E3), (0x09F2, 0x09F3), (0x09FA, 0x09FB), (0x0A01, 0x0A03),
   (0x0A3C, 0x0A3C), (0x0A3E, 0x0A42), (0x0A47, 0x0A48), (0x0A4B, 0x0A4D), (0x0A51, 0x0A51),
   (0x0A70, 0x0A71), (0x0A75, 0x0A75), (0x0A81, 0x0A83), (0x0ABC, 0x0ABC), (0x0ABE, 0x0AC5),
   (0x0AC7, 0x0AC9), (0x0ACB, 0x0ACD), (0x0AE2, 0x0AE3), (0x0AF0, 0x0AF1), (0x0B01, 0x0B03),
   (0x0B3C, 0x0B3C), (0x0B3E, 0x0B44), (0x0B47, 0x0B48), (0x0B4B, 0x0B4D), (0x0B56, 0x0B57),
   (0x0B62, 0x0B63), (0x0B70, 0x0B70), (0x0B82, 0x0B82), (0x0BBE, 0x0BC2), (0x0BC6, 0x0BC8),
   (0x0BCA, 0x0BCD), (0x0BD7, 0x0BD7), (0x0BF3, 0x0BFA), (0x0C01, 0x0C03), (0x0C3E, 0x0C44),
   (0x0C46, 0x0C48), (0x0C4A, 0x0C4D), (0x0C55, 0x0C56), (0x0C62, 0x0C63), (0x0C7F, 0x0C7F),
   (0x0C82, 0x0C83), (0x0CBC, 0x0CBC), (0x0CBE, 0x0CC4), (0x0CC6, 0x0CC8), (0x0CCA, 0x0CCD),
   (0x0CD5, 0x0CD6), (0x0CE2, 0x0CE3), (0x0D02, 0x0D03), (0x0D3E, 0x0D44), (0x0D46, 0x0D48),
   (0x0D4A, 0x0D4D), (0x0D57, 0x0D57), (0x0D62, 0x0D63), (0x0D79, 0x0D79), (0x0D82, 0x0D83),
   (0x0DCA, 0x0DCA), (0x0DCF, 0x0DD4), (0x0DD6, 0x0DD6), (0x0DD8, 0x0DDF), (0x0DF2, 0x0DF4),
   (0x0E31, 0x0E31), (0x0E34, 0x0E3A), (0x0E3F, 0x0E3F), (0x0E47, 0x0E4F), (0x0E5A, 0x0E5B),
   (0x0EB1, 0x0EB1), (0x0EB4, 0x0EB9), (0x0EBB, 0x0EBC), (0x0EC8, 0x0ECD), (0x0F01, 0x0F1F),
   (0x0F34, 0x0F3F), (0x0F71, 0x0F87), (0x0F8D, 0x0F97), (0x0F99, 0x0FBC), (0x0FBE, 0x0FCC),
   (0x0FCE, 0x0FDA)]

def separatorsBelow3000 : List (Nat × Nat) :=
  [(0x102B, 0x103E), (0x104A, 0x104F), (0x1056, 0x1059), (0x105E, 0x1060), (0x1062, 0x1064),
   (0x1067, 0x106D), (0x1071, 0x1074), (0x1082, 0x108D), (0x108F, 0x108F), (0x109A, 0x109F),
   (0x10FB, 0x10FB), (0x135D, 0x1368), (0x1390, 0x1399), (0x1400, 0x1400), (0x166D, 0x166E),
   (0x1680, 0x1680), (0x169B, 0x169C), (0x16EB, 0x16ED), (0x1712, 0x1714), (0x1732, 0x1736),
   (0x1752, 0x1753), (0x1772, 0x1773), (0x17B4, 0x17D6), (0x17D8, 0x17DB), (0x17DD, 0x17DD),
   (0x1800, 0x180E), (0x18A9, 0x18A9), (0x1920, 0x192B), (0x1930, 0x193B), (0x1940, 0x1940),
   (0x1944, 0x1945), (0x19B0, 0x19C0), (0x19C8, 0x19C9), (0x19DE, 0x19FF), (0x1A17, 0x1A1B),
   (0x1A1E, 0x1A1F), (0x1A55, 0x1A5E), (0x1A60, 0x1A7C), (0x1A7F, 0x1A7F), (0x1AA0, 0x1AA6),
   (0x1AA8, 0x1AAD), (0x1B00, 0x1B04), (0x1B34, 0x1B44), (0x1B5A, 0x1B7C), (0x1B80, 0x1B82),
   (0x1BA1, 0x1BAD), (0x1BE6, 0x1BF3), (0x1BFC, 0x1BFF), (0x1C24, 0x1C37), (0x1C3B, 0x1C3F),
   (0x1C7E, 0x1C7F), (0x1CC0, 0x1CC7), (0x1CD0, 0x1CE8), (0x1CED, 0x1CED), (0x1CF2, 0x1CF4),
   (0x1DC0, 0x1DE6), (0x1DFC, 0x1DFF), (0x1FBD, 0x1FBD), (0x1FBF, 0x1FC1), (0x1FCD, 0x1FCF),
   (0x1FDD, 0x1FDF), (0x1FED, 0x1FEF), (0x1FFD, 0x1FFE), (0x2000, 0x2064), (0x206A, 0x206F),
   (0x207A, 0x207E), (0x208A, 0x208E), (0x20A0, 0x20B9), (0x20D0, 0x20F0), (0x2100, 0x2101),
   (0x2103, 0x2106), (0x2108, 0x2109), (0x2114, 0x2114), (0x2116, 0x2118), (0x211E, 0x2123),
   (0x2125, 0x2125), (0x2127, 0x2127), (0x2129, 0x2129), (0x212E, 0x212E), (0x213A, 0x213B),
   (0x2140, 0x2144), (0x214A, 0x214D), (0x214F, 0x214F), (0x2190, 0x23F3), (0x2400, 0x2426),
   (0x2440, 0x244A), (0x249C, 0x24E9), (0x2500, 0x26FF), (0x2701, 0x2775), (0x2794, 0x2B4C),
   (0x2B50, 0x2B59), (0x2CE5, 0x2CEA), (0x2CEF, 0x2CF1), (0x2CF9, 0x2CFC), (0x2CFE, 0x2CFF),
   (0x2D70, 0x2D70), (0x2D7F, 0x2D7F), (0x2DE0, 0x2E2E), (0x2E30, 0x2E3B), (0x2E80, 0x2E99),
   (0x2E9B, 0x2EF3), (0x2F00, 0x2FD5), (0x2FF0, 0x2FFB)]

def separatorsFrom3000 : List (Nat × Nat) :=
  [(0x3000, 0x3004), (0x3008, 0x3020), (0x302A, 0x3030), (0x3036, 0x3037), (0x303D, 0x303F),
   (0x3099, 0x309C), (0x30A0, 0x30A0), (0x30FB, 0x30FB), (0x3190, 0x3191), (0x3196, 0x319F),
   (0x31C0, 0x31E3), (0x3200, 0x321E), (0x322A, 0x3247), (0x3250, 0x3250), (0x3260, 0x327F),
   (0x328A, 0x32B0), (0x32C0, 0x32FE), (0x3300, 0x33FF), (0x4DC0, 0x4DFF), (0xA490, 0xA4C6),
   (0xA4FE, 0xA4FF), (0xA60D, 0xA60F), (0xA66F, 0xA67E), (0xA69F, 0xA69F), (0xA6F0, 0xA6F7),
   (0xA700, 0xA716), (0xA720, 0xA721), (0xA789, 0xA78A), (0xA802, 0xA802), (0xA806, 0xA806),
   (0xA80B, 0xA80B), (0xA823, 0xA82B), (0xA836, 0xA839), (0xA874, 0xA877), (0xA880, 0xA881),
   (0xA8B4, 0xA8C4), (0xA8CE, 0xA8CF), (0xA8E0, 0xA8F1), (0xA8F8, 0xA8FA), (0xA926, 0xA92F),
   (0xA947, 0xA953), (0xA95F, 0xA95F), (0xA980, 0xA983), (0xA9B3, 0xA9CD), (0xA9DE, 0xA9DF),
   (0xAA29, 0xAA36), (0xAA43, 0xAA43), (0xAA4C, 0xAA4D), (0xAA5C, 0xAA5F), (0xAA77, 0xAA79),
   (0xAA7B, 0xAA7B), (0xAAB0, 0xAAB0), (0xAAB2, 0xAAB4), (0xAAB7, 0xAAB8), (0xAABE, 0xAABF),
   (0xAAC1, 0xAAC1), (0xAADE, 0xAADF), (0xAAEB, 0xAAF1), (0xAAF5, 0xAAF6), (0xABE3, 0xABED),
   (0xFB1E, 0xFB1E), (0xFB29, 0xFB29), (0xFBB2, 0xFBC1), (0xFD3E, 0xFD3F), (0xFDFC, 0xFDFD),
   (0xFE00, 0xFE19), (0xFE20, 0xFE26), (0xFE30, 0xFE52), (0xFE54, 0xFE66), (0xFE68, 0xFE6B),
   (0xFEFF, 0xFEFF), (0xFF01, 0xFF0F), (0xFF1A, 0xFF20), (0xFF3B, 0xFF40), (0xFF5B, 0xFF65),
   (0xFFE0, 0xFFE6), (0xFFE8, 0xFFEE), (0xFFF9, 0xFFFF), (0x10100, 0x10102), (0x10137, 0x1013F),
   (0x10179, 0x10189), (0x10190, 0x1019B), (0x101D0, 0x101FD), (0x1039F, 0x1039F),
   (0x103D0, 0x103D0), (0x10857, 0x10857), (0x1091F, 0x1091F), (0x1093F, 0x1093F),
   (0x10A01, 0x10A03), (0x10A05, 0x10A06), (0x10A0C, 0x10A0F), (0x10A38, 0x10A3A),
   (0x10A3F, 0x10A3F), (0x10A50, 0x10A58), (0x10A7F, 0x10A7F), (0x10B39, 0x10B3F),
   (0x11000, 0x11002), (0x11038, 0x1104D), (0x11080, 0x11082), (0x110B0, 0x110C1),
   (0x11100, 0x11102), (0x11127, 0x11134), (0x11140, 0x11143), (0x11180, 0x11182),
   (0x111B3, 0x111C0), (0x111C5, 0x111C8), (0x116AB, 0x116B7), (0x12470, 0x12473),
   (0x16F51, 0x16F7E), (0x16F8F, 0x16F92), (0x1D000, 0x1D0F5), (0x1D100, 0x1D126),
   (0x1D129, 0x1D1DD), (0x1D200, 0x1D245), (0x1D300, 0x1D356), (0x1D6C1, 0x1D6C1),
   (0x1D6DB, 0x1D6DB), (0x1D6FB, 0x1D6FB), (0x1D715, 0x1D715), (0x1D735, 0x1D735),
   (0x1D74F, 0x1D74F), (0x1D76F, 0x1D76F), (0x1D789, 0x1D789), (0x1D7A9, 0x1D7A9),
   (0x1D7C3, 0x1D7C3), (0x1EEF0, 0x1EEF1), (0x1F000, 0x1F02B), (0x1F030, 0x1F093),
   (0x1F0A0, 0x1F0AE), (0x1F0B1, 0x1F0BE), (0x1F0C1, 0x1F0CF), (0x1F0D1, 0x1F0DF),
   (0x1F110, 0x1F12E), (0x1F130, 0x1F16B), (0x1F170, 0x1F19A), (0x1F1E6, 0x1F202),
   (0x1F210, 0x1F23A), (0x1F240, 0x1F248), (0x1F250, 0x1F251), (0x1F300, 0x1F320),
   (0x1F330, 0x1F335), (0x1F337, 0x1F37C), (0x1F380, 0x1F393), (0x1F3A0, 0x1F3C4),
   (0x1F3C6, 0x1F3CA), (0x1F3E0, 0x1F3F0), (0x1F400, 0x1F43E), (0x1F440, 0x1F440),
   (0x1F442, 0x1F4F7), (0x1F4F9, 0x1F4FC), (0x1F500, 0x1F53D), (0x1F540, 0x1F543),
   (0x1F550, 0x1F567), (0x1F5FB, 0x1F640), (0x1F645, 0x1F64F), (0x1F680, 0x1F6C5),
   (0x1F700, 0x1F773), (0xE0001, 0xE0001), (0xE0020, 0xE007F), (0xE0100, 0xE01EF)]

/-- A separator outside the basic Latin block. -/
def isSeparator (c : Char) : Bool :=
  inRanges separatorsBelow1000 c.toNat || inRanges separatorsBelow3000 c.toNat ||
    inRanges separatorsFrom3000 c.toNat

end Gallery.TextIndex
