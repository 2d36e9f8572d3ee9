import Raft.Foundation.JsValue

/-!
# Lengths in UTF-8

The number of bytes of a text in UTF-8.  A surrogate pair takes four bytes, a
lone surrogate is written as the replacement character.
-/

namespace Raft.Foundation

def utf8UnitLength (unit : CodeUnit) : Nat :=
  if unit.val < 0x80 then 1 else if unit.val < 0x800 then 2 else 3

def utf8Length : JsString → Nat
  | [] => 0
  | [unit] => utf8UnitLength unit
  | unit :: next :: rest =>
      if isHighSurrogate unit && isLowSurrogate next then 4 + utf8Length rest
      else utf8UnitLength unit + utf8Length (next :: rest)

end Raft.Foundation
