import LintBridge.Domain.Name
import LintBridge.Text.Quoted
import LintBridge.Uri.IpAddress
import LintBridge.Uri.Percent

/-!
# Hosts

A host is named, or told by its number.  Under the well-known schemes a name is one of a
domain, and is brought to its plain form; under any other it stays as it is.
-/

set_option autoImplicit false

namespace LintBridge.Uri

inductive HostFault where
  | noName
  | badCharacter
  | badName
  | badV4
  | badV6
  deriving DecidableEq, Repr

inductive HostAddress where
  | name (text : String)
  | v4 (address : IpV4)
  | v6 (address : IpV6)
  deriving DecidableEq, Repr

namespace HostAddress

def text : HostAddress → String
  | name text => text
  | v4 address => address.text
  | v6 address => "[" ++ address.text ++ "]"

def describe : HostAddress → String
  | name text => "Domain(" ++ Text.quoted text ++ ")"
  | v4 address => "Ipv4(" ++ address.text ++ ")"
  | v6 address => "Ipv6(" ++ address.describe ++ ")"

def isBreaker (c : Char) : Bool :=
  "\x00\t\n\r #/:<>?@[\\]^|".toList.contains c

def isNameBreaker (c : Char) : Bool :=
  isBreaker c || c.toNat < 0x20 || c = '%' || c = '\x7f'

def readV6 (inner : List Char) : Except HostFault HostAddress :=
  match inner.reverse with
  | ']' :: reversed =>
      match IpV6.read? reversed.reverse with
      | some address => .ok (v6 address)
      | none => .error .badV6
  | _ => .error .badV6

def readDomain (text : List Char) : Except HostFault HostAddress :=
  match Domain.plainName? (Text.decodeLossy (decode text)).toList with
  | none => .error .badName
  | some plain =>
      if plain.any isNameBreaker then .error .badName
      else if plain.isEmpty then .error .noName
      else if IpV4.endsInNumber plain then
        match IpV4.read? plain with
        | some address => .ok (v4 address)
        | none => .error .badV4
      else .ok (name (String.ofList plain))

def readFree (text : List Char) : Except HostFault HostAddress :=
  if text.any isBreaker then .error .badCharacter
  else .ok (name (String.ofList (encode [] text)))

def read (wellKnown : Bool) (text : List Char) : Except HostFault HostAddress :=
  match text with
  | '[' :: inner => readV6 inner
  | _ => if wellKnown then readDomain text else readFree text

end HostAddress

end LintBridge.Uri
