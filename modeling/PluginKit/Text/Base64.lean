/-!
Bytes as groups of four characters out of sixty-four. Reading skips every other character; it ends at the
padding of a group, and without padding it must end with a whole group.
-/

namespace PluginKit.Base64

def letters : List Char :=
  "ABCDEFGHIJKLMNOPQRSTUVWXYZabcdefghijklmnopqrstuvwxyz0123456789+/".toList

def letter (n : Nat) : Char := letters.getD n '='

def sextet? (c : Char) : Option Nat := letters.findIdx? (· = c)

def pad : Char := '='

def encode : List UInt8 → List Char
  | [] => []
  | [a] =>
    let n := a.toNat * 16
    [letter (n / 64), letter (n % 64), pad, pad]
  | [a, b] =>
    let n := (a.toNat * 256 + b.toNat) * 4
    [letter (n / 4096), letter (n / 64 % 64), letter (n % 64), pad]
  | a :: b :: c :: rest =>
    let n := (a.toNat * 256 + b.toNat) * 256 + c.toNat
    letter (n / 262144) :: letter (n / 4096 % 64) :: letter (n / 64 % 64) :: letter (n % 64) ::
      encode rest

structure Group where
  sextets : List Nat
  pads : Nat

def Group.empty : Group := ⟨[], 0⟩

def Group.bytes (g : Group) : List UInt8 :=
  match g.sextets with
  | [a, b] => [UInt8.ofNat (a * 4 + b / 16)]
  | [a, b, c] => [UInt8.ofNat (a * 4 + b / 16), UInt8.ofNat (b % 16 * 16 + c / 4)]
  | [a, b, c, d] =>
    [UInt8.ofNat (a * 4 + b / 16), UInt8.ofNat (b % 16 * 16 + c / 4), UInt8.ofNat (c % 4 * 64 + d)]
  | _ => []

def decodeFrom? : Group → List Char → Option (List UInt8)
  | g, [] => if g.sextets.isEmpty then some [] else none
  | g, c :: rest =>
    if c = pad then
      let pads := if 2 ≤ g.sextets.length then g.pads + 1 else g.pads
      if 2 ≤ g.sextets.length && 4 ≤ g.sextets.length + pads then some g.bytes
      else decodeFrom? { g with pads := pads } rest
    else match sextet? c with
      | none => decodeFrom? g rest
      | some n =>
        let sextets := g.sextets ++ [n]
        if sextets.length = 4 then
          (decodeFrom? .empty rest).map (Group.bytes ⟨sextets, 0⟩ ++ ·)
        else decodeFrom? ⟨sextets, 0⟩ rest

def decode? (s : List Char) : Option (List UInt8) := decodeFrom? .empty s

end PluginKit.Base64
