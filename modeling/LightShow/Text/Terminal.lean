import LightShow.Text.Hexadecimal

/-!
Text that is safe to show on a terminal: the controls that terminals obey are written by their
codes.
-/

namespace LightShow.Text

def terminalChar (c : Char) : List Char :=
  match c with
  | '\x07' => ['\\', 'x', '0', '7']
  | '\x08' => ['\\', 'x', '0', '8']
  | '\x0c' => ['\\', 'x', '0', 'c']
  | '\x1b' => ['\\', 'x', '1', 'b']
  | '\x7f' => ['\\', 'x', '7', 'f']
  | c =>
    if '\u0080' ≤ c ∧ c ≤ '\u009f' then ['\\', 'u', '\x7b'] ++ hexadecimal c.toNat ++ ['\x7d']
    else [c]

def forTerminal (text : String) : String := String.ofList (text.toList.flatMap terminalChar)

end LightShow.Text
