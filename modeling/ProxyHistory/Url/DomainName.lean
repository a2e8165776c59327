import ProxyHistory.Text.CharClass
import ProxyHistory.Text.Normal
import ProxyHistory.Url.DomainName.Mappings
import ProxyHistory.Url.DomainName.Properties
import ProxyHistory.Url.Punycode

/-!
# Domain names

The ASCII form of a domain name. Its characters are mapped and composed, and each label that is not
ASCII then is encoded. Labels have to keep the rules on joiners and on the direction of writing;
their length, their hyphens and empty labels are free.
-/

namespace ProxyHistory.DomainName

open Text (inRanges)

/-- What becomes of a character; none if it may not occur. -/
def mapChar? (c : Char) : Option Text :=
  let code := c.toNat
  if code < 0x80 then some [c.toLower]
  else if inRanges keptRanges code then some [c]
  else if inRanges ignoredRanges code then some []
  else
    match expansions.lookup code with
    | some codes => some (codes.map Char.ofNat)
    | none =>
        replacedRuns.findSome? fun (first, last, stride, target) =>
          if first ≤ code && code ≤ last && (code - first) % stride == 0 then
            some [Char.ofNat (target + (code - first))]
          else
            none

/-- The ASCII characters that a domain name may not hold. -/
def isForbidden (c : Char) : Bool :=
  c.toNat ≤ 0x20 || c.toNat == 0x7F || "%#/:<>?@[\\]^|".toList.contains c

/-- Whether a joiner may stand between the text before it, read backwards, and the text after it: it
may follow a virama, and one that parts letters may also stand between letters that would join. -/
def joinerFits (joiner : Char) (before after : Text) : Bool :=
  let afterVirama := before.head?.any (Text.Normal.combiningClass · == 9)
  let passedOver (c : Char) := inRanges transparentRanges c.toNat
  let joinsTo (ranges : List (Nat × Nat)) (text : Text) :=
    (text.dropWhile passedOver).head?.any fun c =>
      inRanges ranges c.toNat || inRanges joinsBothRanges c.toNat
  afterVirama ||
    (joiner == '\u200C' && joinsTo joinsLeftRanges before && joinsTo joinsRightRanges after)

/-- Whether every joiner of a label may stand where it stands. The first argument is the text
before, read backwards. -/
def joinersFit (before : Text) : Text → Bool
  | [] => true
  | c :: rest =>
      (if c == '\u200C' || c == '\u200D' then joinerFits c before rest else true) &&
        joinersFit (c :: before) rest

/-- Whether the characters of a label that is not ASCII may make up a label. -/
def isValidLabel (label : Text) : Bool :=
  Text.normalize label == label &&
    !label.head?.any (inRanges markRanges ·.toNat) &&
    label.all (fun c => if c.toNat < 0x80 then !c.isUpper else inRanges keptRanges c.toNat) &&
    joinersFit [] label

/-- Whether a character is written from right to left, or counts as if it were. -/
def isRightToLeft (c : Char) : Bool :=
  inRanges rightToLeftRanges c.toNat || inRanges arabicNumberRanges c.toNat

/-- Whether a label keeps to one direction of writing. -/
def keepsDirection (label : Text) : Bool :=
  let holds (ranges : List (Nat × Nat)) (c : Char) := inRanges ranges c.toNat
  let isNeutral (c : Char) := holds neutralRanges c || holds nonspacingRanges c
  let isOther (c : Char) := !isRightToLeft c && !holds europeanNumberRanges c && !isNeutral c
  let last? := (label.reverse.dropWhile (holds nonspacingRanges)).head?
  match label with
  | [] => true
  | first :: _ =>
      if holds rightToLeftRanges first then
        label.all (!isOther ·) &&
          last?.any (fun c => isRightToLeft c || holds europeanNumberRanges c) &&
          !(label.any (holds europeanNumberRanges) && label.any (holds arabicNumberRanges))
      else
        isOther first && label.all (!isRightToLeft ·) &&
          last?.any (fun c => isOther c || holds europeanNumberRanges c)

/-- What a label that is encoded starts with. -/
def encodedMark : Text := "xn--".toList

/-- The characters that a mapped label stands for; none if they make up no label. -/
def readLabel? (label : Text) : Option Text :=
  if encodedMark.isPrefixOf label then
    match Punycode.decode? (label.drop encodedMark.length) with
    | some decoded =>
        if label.all (·.toNat < 0x80) && decoded.any (0x80 ≤ ·.toNat) && isValidLabel decoded then
          some decoded
        else
          none
    | none => none
  else if label.all (·.toNat < 0x80) || isValidLabel label then
    some label
  else
    none

/-- The ASCII form of a label. -/
def encodeLabel (label : Text) : Text :=
  if label.all (·.toNat < 0x80) then label else encodedMark ++ Punycode.encode label

/-- The ASCII form of a domain name; none if there is none. -/
def toAscii? (name : Text) : Option Text := do
  let mapped ← name.mapM mapChar?
  let labels ← ((Text.normalize mapped.flatten).splitOn '.').mapM readLabel?
  if labels.any (·.any isForbidden) then
    none
  else if labels.any (·.any isRightToLeft) && !labels.all keepsDirection then
    none
  else
    some (List.intercalate ['.'] (labels.map encodeLabel))

end ProxyHistory.DomainName
