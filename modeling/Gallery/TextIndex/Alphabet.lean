import Gallery.Text.Lowercase.Table
import Gallery.Text.Ranges

/-!
# Folded forms of letters

The text index folds case and drops the marks of Latin letters.  Folding agrees
with lower-casing but for a few letters that have two lower-case forms, and for
letters that got a lower case after the index's edition of the character tables,
which stay as they are.  A Latin letter with one mark is folded to the bare
letter; with two marks it is kept.
-/

namespace Gallery.TextIndex

open Gallery.Text

/-- Marks that belong to the token of the letter before them. -/
def markRanges : List (Nat × Nat) :=
  [(0x0300, 0x0304), (0x0306, 0x030C), (0x030F, 0x030F), (0x0311, 0x0311),
   (0x031B, 0x031B), (0x0323, 0x0328), (0x032D, 0x032E), (0x0330, 0x0331)]

/-- Letters that are folded to themselves though they have a lower case. -/
def unfoldedRanges : List (Nat × Nat) :=
  [(0x037F, 0x037F), (0x0528, 0x0528), (0x052A, 0x052A), (0x052C, 0x052C),
   (0x052E, 0x052E), (0x13A0, 0x13F5), (0x1C89, 0x1C89), (0x1C90, 0x1CBA),
   (0x1CBD, 0x1CBF), (0x2C2F, 0x2C2F), (0xA698, 0xA698), (0xA69A, 0xA69A),
   (0xA796, 0xA796), (0xA798, 0xA798), (0xA79A, 0xA79A), (0xA79C, 0xA79C),
   (0xA79E, 0xA79E), (0xA7AB, 0xA7AE), (0xA7B0, 0xA7B4), (0xA7B6, 0xA7B6),
   (0xA7B8, 0xA7B8), (0xA7BA, 0xA7BA), (0xA7BC, 0xA7BC), (0xA7BE, 0xA7BE),
   (0xA7C0, 0xA7C0), (0xA7C2, 0xA7C2), (0xA7C4, 0xA7C7), (0xA7C9, 0xA7C9),
   (0xA7CB, 0xA7CC), (0xA7CE, 0xA7CE), (0xA7D0, 0xA7D0), (0xA7D2, 0xA7D2),
   (0xA7D4, 0xA7D4), (0xA7D6, 0xA7D6), (0xA7D8, 0xA7D8), (0xA7DA, 0xA7DA),
   (0xA7DC, 0xA7DC), (0xA7F5, 0xA7F5), (0x104B0, 0x104D3), (0x10570, 0x1057A),
   (0x1057C, 0x1058A), (0x1058C, 0x10592), (0x10594, 0x10595), (0x10C80, 0x10CB2),
   (0x10D50, 0x10D65), (0x118A0, 0x118BF), (0x16E40, 0x16E5F), (0x16EA0, 0x16EB8),
   (0x1E900, 0x1E921)]

/-- Letters whose folded form differs from their lower case. -/
def secondForms : List (Nat × Nat) :=
  [(0x00B5, 0x03BC), (0x017F, 0x0073), (0x03C2, 0x03C3), (0x03D0, 0x03B2),
   (0x03D1, 0x03B8), (0x03D5, 0x03C6), (0x03D6, 0x03C0), (0x03F0, 0x03BA),
   (0x03F1, 0x03C1), (0x03F5, 0x03B5), (0x1E9B, 0x1E61), (0x1FBE, 0x03B9)]

/-- Ranges of lower-case Latin letters with one mark, and the bare letter. -/
def markedLetters : List (Nat × Nat × Char) :=
  [(0x00E0, 0x00E5, 'a'), (0x00E7, 0x00E7, 'c'), (0x00E8, 0x00EB, 'e'),
   (0x00EC, 0x00EF, 'i'), (0x00F1, 0x00F1, 'n'), (0x00F2, 0x00F6, 'o'),
   (0x00F9, 0x00FC, 'u'), (0x00FD, 0x00FD, 'y'), (0x00FF, 0x00FF, 'y'),
   (0x0101, 0x0105, 'a'), (0x0107, 0x010D, 'c'), (0x010F, 0x010F, 'd'),
   (0x0113, 0x0119, 'e'), (0x011B, 0x011B, 'e'), (0x011D, 0x0123, 'g'),
   (0x0125, 0x0125, 'h'), (0x0129, 0x0130, 'i'), (0x0135, 0x0135, 'j'),
   (0x0137, 0x0137, 'k'), (0x013A, 0x013E, 'l'), (0x0144, 0x0148, 'n'),
   (0x014D, 0x0151, 'o'), (0x0155, 0x0159, 'r'), (0x015B, 0x0161, 's'),
   (0x0163, 0x0165, 't'), (0x0169, 0x016F, 'u'), (0x0171, 0x0173, 'u'),
   (0x0175, 0x0175, 'w'), (0x0177, 0x0177, 'y'), (0x017A, 0x017E, 'z'),
   (0x01A1, 0x01A1, 'o'), (0x01B0, 0x01B0, 'u'), (0x01CE, 0x01CE, 'a'),
   (0x01D0, 0x01D0, 'i'), (0x01D2, 0x01D2, 'o'), (0x01D4, 0x01D4, 'u'),
   (0x01E7, 0x01E7, 'g'), (0x01E9, 0x01E9, 'k'), (0x01EB, 0x01EB, 'o'),
   (0x01F0, 0x01F0, 'j'), (0x01F5, 0x01F5, 'g'), (0x01F9, 0x01F9, 'n'),
   (0x0201, 0x0203, 'a'), (0x0205, 0x0207, 'e'), (0x0209, 0x020B, 'i'),
   (0x020D, 0x020F, 'o'), (0x0211, 0x0213, 'r'), (0x0215, 0x0217, 'u'),
   (0x0219, 0x0219, 's'), (0x021B, 0x021B, 't'), (0x021F, 0x021F, 'h'),
   (0x0227, 0x0227, 'a'), (0x0229, 0x0229, 'e'), (0x022F, 0x022F, 'o'),
   (0x0233, 0x0233, 'y'), (0x1E01, 0x1E01, 'a'), (0x1E03, 0x1E07, 'b'),
   (0x1E0B, 0x1E11, 'd'), (0x1E13, 0x1E13, 'd'), (0x1E19, 0x1E1B, 'e'),
   (0x1E1F, 0x1E1F, 'f'), (0x1E21, 0x1E21, 'g'), (0x1E23, 0x1E29, 'h'),
   (0x1E2B, 0x1E2B, 'h'), (0x1E2D, 0x1E2D, 'i'), (0x1E31, 0x1E35, 'k'),
   (0x1E37, 0x1E37, 'l'), (0x1E3B, 0x1E3D, 'l'), (0x1E3F, 0x1E43, 'm'),
   (0x1E45, 0x1E4B, 'n'), (0x1E55, 0x1E57, 'p'), (0x1E59, 0x1E5B, 'r'),
   (0x1E5F, 0x1E5F, 'r'), (0x1E61, 0x1E63, 's'), (0x1E6B, 0x1E71, 't'),
   (0x1E73, 0x1E77, 'u'), (0x1E7D, 0x1E7F, 'v'), (0x1E81, 0x1E87, 'w'),
   (0x1E89, 0x1E89, 'w'), (0x1E8B, 0x1E8D, 'x'), (0x1E8F, 0x1E8F, 'y'),
   (0x1E91, 0x1E95, 'z'), (0x1E96, 0x1E96, 'h'), (0x1E97, 0x1E97, 't'),
   (0x1E98, 0x1E98, 'w'), (0x1E99, 0x1E99, 'y'), (0x1EA1, 0x1EA3, 'a'),
   (0x1EB9, 0x1EBD, 'e'), (0x1EC9, 0x1ECB, 'i'), (0x1ECD, 0x1ECF, 'o'),
   (0x1EE5, 0x1EE7, 'u'), (0x1EF3, 0x1EF9, 'y')]

end Gallery.TextIndex
