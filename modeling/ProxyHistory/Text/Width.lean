import ProxyHistory.Text.CharClass
import ProxyHistory.Text.Width.Ranges

/-!
# Width of text

The number of columns that a text takes when it is shown in a grid. Ideographs and pictographs take
two columns, and so does a sequence that is drawn as one pictograph.
-/

namespace ProxyHistory.Text

namespace Width

/-- Characters that take no column although they are not drawn as part of the one before them. -/
def isHidden (c : Char) : Bool :=
  let code := c.toNat
  code < 0x20 || (0x7F ≤ code && code < 0xA0) || inRanges ignorableRanges code ||
    (0x1160 ≤ code && code ≤ 0x11FF) || (0xD7B0 ≤ code && code ≤ 0xD7FB) ||
    [0x0605, 0x070F, 0x0890, 0x0891, 0x08E2, 0x0CC0, 0x0CC7, 0x0CC8, 0x0CCA, 0x0CCB, 0x1B3B, 0x1B3D,
      0x1B43, 0xA8FA].contains code

/-- The number of columns of a character. -/
def ofChar (c : Char) : Nat :=
  if c.toNat < 0x7F ∧ 0x20 ≤ c.toNat then 1
  else if c = '\u115F' then 2
  else if isHidden c ∨ extendsGrapheme c then 0
  else if inRanges wideRanges c.toNat then 2
  else 1

/-- Whether a character is a skin tone. -/
def isTone (c : Char) : Bool :=
  0x1F3FB ≤ c.toNat && c.toNat ≤ 0x1F3FF

/-- What follows a pictograph in front: one that takes a tone and its tone, a symbol and the
selector for its pictograph, or a character that is a pictograph on its own. -/
def afterPictograph? : Text → Option Text
  | [] => none
  | [c] => if inRanges pictographRanges c.toNat then some [] else none
  | c :: next :: rest =>
      if inRanges tonedRanges c.toNat ∧ isTone next then some rest
      else if inRanges symbolRanges c.toNat ∧ next = '\uFE0F' then some rest
      else if inRanges pictographRanges c.toNat then
        if next = '\uFE0F' then some rest else some (next :: rest)
      else none

/-- What follows the pictographs that are joined to the one before. The first argument bounds their
number. -/
def afterJoined : Nat → Text → Text
  | fuel + 1, '\u200D' :: rest =>
      match afterPictograph? rest with
      | some rest => afterJoined fuel rest
      | none => '\u200D' :: rest
  | _, text => text

/-- The number of columns of a text. The first argument bounds its length. -/
def count : Nat → Text → Nat
  | 0, _ | _, [] => 0
  | fuel + 1, c :: rest =>
      match afterPictograph? (c :: rest) with
      | some rest => 2 + count fuel (afterJoined rest.length rest)
      | none => ofChar c + count fuel rest

end Width

/-- The number of columns of a text. -/
def width (text : Text) : Nat :=
  if text.all (·.toNat < 0x80) then (text.filter fun c => 0x20 ≤ c.toNat && c.toNat ≠ 0x7F).length
  else Width.count text.length text

end ProxyHistory.Text
