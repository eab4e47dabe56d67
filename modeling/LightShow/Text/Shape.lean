import LightShow.Text.Mark

/-!
Characters that show no shape of their own: controls, format marks, spaces other than the
common one, separators of lines, fillers, private characters, marks that join the character
before them, and codes that stand for no character.
-/

namespace LightShow.Text

/-- Controls, format marks, spaces, separators, fillers and private characters. The ranges may
    run over unassigned codes. -/
def hiddenRanges : List (Nat × Nat) :=
  [(0x0, 0x1F), (0x7F, 0xA0), (0xAD, 0xAD), (0x600, 0x605), (0x61C, 0x61C), (0x6DD, 0x6DD),
    (0x70F, 0x70F), (0x890, 0x891), (0x8E2, 0x8E2), (0x115F, 0x1160), (0x1680, 0x1680),
    (0x180E, 0x180E), (0x2000, 0x200B), (0x200D, 0x200F), (0x2028, 0x202F), (0x205F, 0x206F),
    (0x3000, 0x3000), (0x3164, 0x3164), (0xE000, 0xF8FF), (0xFEFF, 0xFEFF), (0xFFA0, 0xFFA0),
    (0xFFF9, 0xFFFB), (0x110BD, 0x110BD), (0x110CD, 0x110CD), (0x13430, 0x1343F),
    (0x1BCA0, 0x1BCA3), (0x1D173, 0x1D17A), (0xE0001, 0xE0001), (0xF0000, 0x10FFFD)]

def isShapeless (c : Char) : Bool :=
  inRanges hiddenRanges c || isMark c || isUnassigned c

end LightShow.Text
