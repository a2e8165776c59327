import ProxyHistory.Text.Utf8
import ProxyHistory.Url.Address
import ProxyHistory.Url.DomainName
import ProxyHistory.Url.Percent

/-!
# Hosts

What stands for the host of a URL: an address in brackets, a domain name or an address of numbers,
or, where the scheme gives no meaning to it, any text without certain characters.
-/

namespace ProxyHistory

/-- Why a text is no absolute URL. -/
inductive UrlError
  | emptyHost
  | invalidDomainName
  | invalidPort
  | invalidShortAddress
  | invalidLongAddress
  | invalidHostCharacter
  /-- The text does not start with a scheme. -/
  | relative
  deriving DecidableEq, Repr

/-- The error in words. -/
def UrlError.message : UrlError → Text
  | .emptyHost => "empty host".toList
  | .invalidDomainName => "invalid international domain name".toList
  | .invalidPort => "invalid port number".toList
  | .invalidShortAddress => "invalid IPv4 address".toList
  | .invalidLongAddress => "invalid IPv6 address".toList
  | .invalidHostCharacter => "invalid domain character".toList
  | .relative => "relative URL without a base".toList

namespace Host

/-- An address in brackets. -/
def readBracketed (text : Text) : Except UrlError Text :=
  if text.getLast? = some ']' then
    match Address.readLong? (text.drop 1).dropLast with
    | some pieces => .ok ('[' :: Address.writeLong pieces ++ [']'])
    | none => .error .invalidLongAddress
  else
    .error .invalidLongAddress

/-- A domain name or an address. -/
def read (text : Text) : Except UrlError Text :=
  if text.head? = some '[' then
    readBracketed text
  else
    match (Text.decode? (Percent.decode (Text.encode text))).bind DomainName.toAscii? with
    | none => .error .invalidDomainName
    | some name =>
        if name.isEmpty then
          .error .emptyHost
        else if Address.endsInNumber name then
          match Address.readShort? name with
          | some address => .ok (Address.writeShort address)
          | none => .error .invalidShortAddress
        else
          .ok name

/-- The characters that the host of a scheme without rules for it may not hold. -/
def isForbidden (c : Char) : Bool :=
  "\x00\t\n\r #/:<>?@[\\]^|".toList.contains c

/-- A host without meaning, which may be empty. -/
def readOpaque (text : Text) : Except UrlError Text :=
  if text.head? = some '[' then
    readBracketed text
  else if text.any isForbidden then
    .error .invalidHostCharacter
  else
    .ok (Percent.encode Percent.inControls text)

end Host

end ProxyHistory
