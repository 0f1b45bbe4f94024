import PluginKit.Text.Surrogate

/-!
Labels in ASCII letters: the plain characters of a label first, then the places of all others as numbers
in a notation whose digits adapt to what was written before.
-/

namespace PluginKit.Net.Punycode

def digitChar (d : Nat) : Char :=
  if d < 26 then Char.ofNat ('a'.toNat + d) else Char.ofNat ('0'.toNat + d - 26)

def digitValue? (c : Char) : Option Nat :=
  if 'a' ≤ c && c ≤ 'z' then some (c.toNat - 'a'.toNat)
  else if 'A' ≤ c && c ≤ 'Z' then some (c.toNat - 'A'.toNat)
  else if '0' ≤ c && c ≤ '9' then some (c.toNat - '0'.toNat + 26)
  else none

def threshold (place bias : Nat) : Nat :=
  if place ≤ bias then 1 else if bias + 26 ≤ place then 26 else place - bias

theorem threshold_pos (place bias : Nat) : 1 ≤ threshold place bias := by
  unfold threshold
  split
  · omega
  · split <;> omega

def scaled (delta bias : Nat) : Nat :=
  if 455 < delta then scaled (delta / 35) (bias + 36) else bias + 36 * delta / (delta + 38)
termination_by delta
decreasing_by exact Nat.div_lt_self (by omega) (by omega)

def adapt (delta : Nat) (first : Bool) (count : Nat) : Nat :=
  let damped := if first then delta / 700 else delta / 2
  scaled (damped + damped / count) 0

/-! ## Writing -/

def digits (bias place n : Nat) : List Char :=
  let t := threshold place bias
  if n < t then [digitChar n]
  else digitChar (t + (n - t) % (36 - t)) :: digits bias (place + 36) ((n - t) / (36 - t))
termination_by n
decreasing_by
  have := threshold_pos place bias
  have := Nat.div_le_self (n - threshold place bias) (36 - threshold place bias)
  omega

structure Writer where
  written : List Char
  delta : Nat
  bias : Nat
  count : Nat

def Writer.pass (plain code : Nat) (w : Writer) (c : Char) : Writer :=
  if c.toNat < code then { w with delta := w.delta + 1 }
  else if c.toNat = code then
    { written := w.written ++ digits w.bias 36 w.delta, delta := 0,
      bias := adapt w.delta (w.count = plain) (w.count + 1), count := w.count + 1 }
  else w

def Writer.places (label : List Char) (plain : Nat) : List Nat → Nat → Writer → Writer
  | [], _, w => w
  | code :: rest, start, w =>
    let passed := label.foldl (pass plain code)
      { w with delta := w.delta + (code - start) * (w.count + 1) }
    places label plain rest (code + 1) { passed with delta := passed.delta + 1 }

def encode (label : List Char) : List Char :=
  let plain := label.filter fun c => c.toNat < 0x80
  let codes := ((label.filter fun c => 0x80 ≤ c.toNat).map Char.toNat).mergeSort.eraseDups
  plain ++ (if plain.isEmpty then [] else ['-']) ++
    (Writer.places label plain.length codes 0x80 ⟨[], 0, 72, plain.length⟩).written

/-! ## Reading -/

def number? (bias place weight n : Nat) : List Char → Option (Nat × List Char)
  | [] => none
  | c :: rest =>
    match digitValue? c with
    | none => none
    | some d =>
      let t := threshold place bias
      if d < t then some (n + d * weight, rest)
      else number? bias (place + 36) (weight * (36 - t)) (n + d * weight) rest

theorem length_number? {bias place weight n : Nat} {s : List Char} {found : Nat × List Char}
    (h : number? bias place weight n s = some found) : found.2.length < s.length := by
  induction s generalizing place weight n with
  | nil => simp [number?] at h
  | cons c rest ih =>
    rw [number?] at h
    split at h
    · simp at h
    · dsimp only at h
      split at h
      · obtain rfl := Option.some.inj h
        simp
      · have := ih h
        simp only [List.length_cons]
        omega

def insertFrom (first : Bool) (bias code place : Nat) (label : List Nat) (s : List Char) :
    Option (List Nat) :=
  if s.isEmpty then some label
  else match h : number? bias 36 1 0 s with
    | none => none
    | some (delta, rest) =>
      let room := label.length + 1
      let next := code + (place + delta) / room
      if 0x10ffff < next then none
      else
        have := length_number? h
        let index := (place + delta) % room
        insertFrom false (adapt delta first room) next (index + 1)
          (label.insertIdx index next) rest
termination_by s.length

def decode? (s : List Char) : Option (List Char) :=
  let tail := (s.reverse.takeWhile (· ≠ '-')).reverse
  let plain := (s.take (s.length - tail.length - 1)).map Char.toNat
  (insertFrom true 72 0x80 0 plain tail).map fun codes => codes.flatMap Text.charsOfCode

end PluginKit.Net.Punycode
