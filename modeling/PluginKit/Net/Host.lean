import PluginKit.Net.Escape
import PluginKit.Net.Label
import PluginKit.Text.Digit
import PluginKit.Text.Lines
import PluginKit.Text.Lower

/-!
Hosts: names, and addresses in the two notations of numbers.
-/

namespace PluginKit.Net

inductive HostFault where
  | address4 (host : List Char)
  | address6 (host : List Char)
  | name (host : List Char)
  deriving DecidableEq

def HostFault.message : HostFault → String
  | .address4 host => "Invalid IPv4 address: " ++ LabelFault.shown host
  | .address6 host => "Invalid IPv6 address: " ++ LabelFault.shown host
  | .name host => "Invalid IDNA hostname: " ++ LabelFault.shown host

/-! ## Four numbers -/

def looksNumeric (host : List Char) : Bool :=
  let runs := Text.splitAt '.' host
  runs.length = 4 && runs.all fun run => !run.isEmpty && run.all Text.isAsciiDigit

def isOctet (s : List Char) : Bool :=
  !s.isEmpty && s.all Text.isAsciiDigit && s.length ≤ 3 && (s = ['0'] || s.head? ≠ some '0') &&
    Text.decimalValue s ≤ 255

def isAddress4 (s : List Char) : Bool :=
  let octets := Text.splitAt '.' s
  octets.length = 4 && octets.all isOctet

/-! ## Eight groups -/

def isGroup (s : List Char) : Bool :=
  !s.isEmpty && s.length ≤ 4 && s.all fun c => (Text.hexValue? c).isSome

def groups? (s : List Char) : Option (List (List Char)) :=
  let parts := Text.splitAt ':' s
  let last := parts.getLast?.getD []
  if parts.length < 3 then none
  else if last.contains '.' then
    if isAddress4 last then some (parts.dropLast ++ [['0'], ['0']]) else none
  else some parts

/-- Whether groups make an address: eight of them, or fewer with one gap. A group is empty in the gap, and
beside a gap at either end. -/
def fillAddress (parts : List (List Char)) : Bool :=
  let inner := parts.tail.dropLast
  let before := inner.takeWhile fun part => !part.isEmpty
  if before.length = inner.length then parts.length = 8 && parts.all isGroup
  else
    let after := inner.drop (before.length + 1)
    let ends := fun (outer : List Char) (inside : List (List Char)) =>
      if outer.isEmpty then inside.isEmpty else isGroup outer && inside.all isGroup
    let size := fun (outer : List Char) (inside : List (List Char)) =>
      if outer.isEmpty then 0 else inside.length + 1
    let first := parts.head?.getD []
    let last := parts.getLast?.getD []
    parts.length ≤ 9 && ends first before && ends last after && size first before + size last after ≤ 7

def isAddress6 (s : List Char) : Bool :=
  let zone := s.dropWhile (· ≠ '%')
  (zone.isEmpty || (zone.length ≠ 1 && !zone.tail.contains '%')) &&
    ((groups? (s.takeWhile (· ≠ '%'))).map fillAddress).getD false

/-! ## Hosts -/

def writeHost (host : List Char) : Except HostFault (List Char) :=
  if host.isEmpty then .ok []
  else if looksNumeric host then if isAddress4 host then .ok host else .error (.address4 host)
  else if host.head? = some '[' && host.getLast? = some ']' && 2 ≤ host.length then
    let address := host.tail.dropLast
    if isAddress6 address then .ok address else .error (.address6 host)
  else if isPlain host then .ok (escape isHostChar (host.map Char.toLower))
  else match writeDomain (Text.lower host) with
    | .ok name => .ok name
    | .error _ => .error (.name host)

end PluginKit.Net
