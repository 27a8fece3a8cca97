import FlowConsole.Text.Utf8
import FlowConsole.Url.Address
import FlowConsole.Url.Label

/-!
# Hosts

The host of a web address is a domain name or a numeric address. A domain name is folded and
composed, and cut at its full stops into labels; it is written in its ASCII form, which is the
labels in ASCII. Other schemes keep the host as it is.
-/

namespace FlowConsole.Url

/-! ### Domain names -/

/-- An ASCII character that no domain name has. -/
def isDomainForbidden (c : Char) : Bool :=
  c.toNat ≤ 0x20 || c.toNat == 0x7F || "%#/:<>?@[\\]^|".toList.contains c

/-- The labels of a domain name. -/
def domainLabels? (domain : List Char) : Option (List Label) := do
  let folded ← fold? domain
  let text := Text.composed folded
  guard (!text.any isDomainForbidden)
  let labels ← (Text.pieces '.' text).mapM Label.ofText?
  let isBidi := labels.any fun l => hasRightToLeft l.text
  guard (!isBidi || labels.all fun l => keepsDirection l.text)
  some labels

/-- The ASCII form of a domain name. -/
def asciiDomain? (domain : List Char) : Option (List Char) :=
  (domainLabels? domain).map fun labels => Text.joinPieces '.' (labels.map (·.ascii))

/-! ### Hosts -/

/-- An address of version 6 between brackets. -/
def bracketed (cs : List Char) : Except Error (List Char) :=
  if cs.getLast? = some ']' then
    ((ipv6? cs.dropLast).map renderIpv6).elim (.error .invalidIpv6) .ok
  else .error .invalidIpv6

/-- The host of a web address. -/
def webHost (cs : List Char) : Except Error (List Char) :=
  match cs with
  | '[' :: inner => bracketed inner
  | _ =>
    match Utf8.decode (Percent.decode (Utf8.encode (String.ofList cs))) with
    | .error _ => .error .invalidDomain
    | .ok decoded =>
      match asciiDomain? decoded.toList with
      | none => .error .invalidDomain
      | some domain =>
        if domain.isEmpty then .error .emptyHost
        else if endsInNumber domain then
          ((ipv4? domain).map renderIpv4).elim (.error .invalidIpv4) .ok
        else .ok domain

/-- A character that no host has. -/
def isHostForbidden (c : Char) : Bool :=
  "\x00\t\n\r #/:<>?@[\\]^|".toList.contains c

/-- The host of an address of another scheme. -/
def otherHost (cs : List Char) : Except Error (List Char) :=
  match cs with
  | '[' :: inner => bracketed inner
  | _ =>
    if cs.any isHostForbidden then .error .invalidHostCharacter
    else .ok (Percent.encode isControl cs)

end FlowConsole.Url
