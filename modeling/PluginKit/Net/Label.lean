import PluginKit.Net.LabelTable
import PluginKit.Net.Punycode
import PluginKit.Text.Composed
import PluginKit.Text.Printable

/-!
Labels of host names in any script. What a label may hold depends on its characters, on their neighbours
and on the direction they are written in. Domains are written in ASCII letters, and read back from them.
-/

namespace PluginKit.Net

open Text

inductive LabelFault where
  | emptyLabel
  | emptyDomain
  | labelTooLong
  | domainTooLong
  | notComposed
  | innerHyphens
  | outerHyphen
  | initialMark
  | character (position : Nat) (label : List Char)
  | context (position : Nat) (label : List Char)
  | joiner (position : Nat) (label : List Char)
  | unknownDirection (label : List Char) (position : Nat)
  | firstDirection (label : List Char)
  | wrongDirection (position : Nat) (rightToLeft : Bool)
  | mixedNumbers
  | lastDirection
  | nothingEncoded
  | trailingHyphen
  | badEncoding
  | otherEncoding
  deriving DecidableEq

namespace LabelFault

def codeText (position : Nat) (label : List Char) : String :=
  let n := (codes label).getD (position - 1) 0
  let width := if n < 0x10000 then 4 else if n < 0x100000 then 5 else 6
  "U+" ++ String.ofList ((hex width n).map Char.toUpper)

def shown (label : List Char) : String := quoted (String.ofList label)

def message : LabelFault → String
  | .emptyLabel => "Empty Label"
  | .emptyDomain => "Empty domain"
  | .labelTooLong => "Label too long"
  | .domainTooLong => "Domain too long"
  | .notComposed => "Label must be in Normalization Form C"
  | .innerHyphens => "Label has disallowed hyphens in 3rd and 4th position"
  | .outerHyphen => "Label must not start or end with a hyphen"
  | .initialMark => "Label begins with an illegal combining character"
  | .character position label =>
    "Codepoint " ++ codeText position label ++ " at position " ++ toString position ++ " of " ++
      shown label ++ " not allowed"
  | .context position label =>
    "Codepoint " ++ codeText position label ++ " not allowed at position " ++ toString position ++
      " in " ++ shown label
  | .joiner position label =>
    "Joiner " ++ codeText position label ++ " not allowed at position " ++ toString position ++
      " in " ++ shown label
  | .unknownDirection label position =>
    "Unknown directionality in label " ++ shown label ++ " at position " ++ toString position
  | .firstDirection label =>
    "First codepoint in label " ++ shown label ++ " must be directionality L, R or AL"
  | .wrongDirection position rightToLeft =>
    "Invalid direction for codepoint at position " ++ toString position ++ " in a " ++
      (if rightToLeft then "right-to-left" else "left-to-right") ++ " label"
  | .mixedNumbers => "Can not mix numeral types in a right-to-left label"
  | .lastDirection => "Label ends with illegal codepoint directionality"
  | .nothingEncoded => "Malformed A-label, no Punycode eligible content found"
  | .trailingHyphen => "A-label must not end with a hyphen"
  | .badEncoding => "Invalid A-label"
  | .otherEncoding => "A-label is not the canonical Punycode encoding of its U-label"

end LabelFault

/-! ## Neighbours -/

def isVirama (c : Char) : Bool := markClass c = 9

def nearestJoins (kinds : List Ranges) (s : List Char) : Bool :=
  match s.dropWhile transparent.has with
  | c :: _ => kinds.any fun kind => kind.has c
  | [] => false

def joinerFits (c : Char) (before after : List Char) : Bool :=
  (before.head?.map isVirama).getD false ||
    (c.toNat = 0x200c && nearestJoins [joinsAfter, joinsBoth] before &&
      nearestJoins [joinsBefore, joinsBoth] after)

def isArabicDigit (c : Char) : Bool := 0x660 ≤ c.toNat && c.toNat ≤ 0x669

def isExtendedArabicDigit (c : Char) : Bool := 0x6f0 ≤ c.toNat && c.toNat ≤ 0x6f9

def contextFits? (label : List Char) (c : Char) (before after : List Char) : Option Bool :=
  let next (p : Char → Bool) := (after.head?.map p).getD false
  let last (p : Char → Bool) := (before.head?.map p).getD false
  if c.toNat = 0xb7 then some (last (· = 'l') && next (· = 'l'))
  else if c.toNat = 0x375 then some (next greek.has)
  else if c.toNat = 0x5f3 || c.toNat = 0x5f4 then some (last hebrew.has)
  else if c.toNat = 0x30fb then
    some (label.any fun d => d ≠ c && (hiragana.has d || katakana.has d || han.has d))
  else if isArabicDigit c then some (!label.any isExtendedArabicDigit)
  else if isExtendedArabicDigit c then some (!label.any isArabicDigit)
  else none

def checkCharacters (label before : List Char) : List Char → Except LabelFault Unit
  | [] => .ok ()
  | c :: after =>
    let position := before.length + 1
    if isPermitted c then checkCharacters label (c :: before) after
    else if isJoiner c then
      if joinerFits c before after then checkCharacters label (c :: before) after
      else .error (.joiner position label)
    else match contextFits? label c before after with
      | some true => checkCharacters label (c :: before) after
      | some false => .error (.context position label)
      | none => .error (.character position label)

/-! ## Direction -/

namespace Direction

def isRightToLeft (d : Direction) : Bool := d = .right || d = .arabic

def isNumeral (d : Direction) : Bool := d = .number || d = .arabicNumber

def fits (rightToLeft : Bool) (d : Direction) : Bool :=
  d ≠ .misplaced && d ≠ .unknown &&
    if rightToLeft then d ≠ .left else d ≠ .right && d ≠ .arabic && d ≠ .arabicNumber

def ends (rightToLeft : Bool) (d : Direction) : Bool :=
  if rightToLeft then isRightToLeft d || isNumeral d else d = .left || d = .number

def check (rightToLeft : Bool) (position : Nat) (numeral : Option Direction) (ending : Bool) :
    List Direction → Except LabelFault Unit
  | [] => if ending then .ok () else .error .lastDirection
  | d :: rest =>
    let ending := if ends rightToLeft d then true else ending && d = .mark
    if !fits rightToLeft d then .error (.wrongDirection position rightToLeft)
    else if rightToLeft && isNumeral d then
      if numeral.getD d = d then check rightToLeft (position + 1) (some d) ending rest
      else .error .mixedNumbers
    else check rightToLeft (position + 1) numeral ending rest

end Direction

def checkDirections (label : List Char) : Except LabelFault Unit :=
  let directions := (label.filter (· ≠ standInMark)).map direction
  let known := directions.takeWhile (· ≠ .unknown)
  if known.length < directions.length then .error (.unknownDirection label (known.length + 1))
  else if !directions.any fun d => d.isRightToLeft || d = .arabicNumber then .ok ()
  else match directions.head? with
    | some .left => Direction.check false 1 none false directions
    | some .right | some .arabic => Direction.check true 1 none false directions
    | _ => .error (.firstDirection label)

/-! ## Labels -/

def domainLimit : Nat := 253

def labelLimit : Nat := 63

def checkLabel (label : List Char) : Except LabelFault Unit := do
  let bare := label.filter (· ≠ standInMark)
  if bare.isEmpty then throw .emptyLabel
  if domainLimit + 1 < bare.length then throw .labelTooLong
  if !isComposed bare then throw .notComposed
  if (bare.drop 2).take 2 = ['-', '-'] then throw .innerHyphens
  if bare.head? = some '-' || bare.getLast? = some '-' then throw .outerHyphen
  if (bare.head?.map marks.has).getD false then throw .initialMark
  checkDirections label
  checkCharacters label [] bare

def encodedMark : List Char := ['x', 'n', '-', '-']

def isPlain (s : List Char) : Bool := s.all fun c => c.toNat < 0x80

def readLabel (label : List Char) : Except LabelFault (List Char) := do
  if !isPlain label then
    checkLabel label
    return label
  let lowered := label.map Char.toLower
  if !encodedMark.isPrefixOf lowered then
    checkLabel lowered
    return lowered
  let code := lowered.drop encodedMark.length
  if code.isEmpty then throw .nothingEncoded
  if code.getLast? = some '-' then throw .trailingHyphen
  match Punycode.decode? code with
  | none => throw .badEncoding
  | some found =>
    checkLabel found
    if Punycode.encode found ≠ code then throw .otherEncoding
    return found

def writeLabel (label : List Char) : Except LabelFault (List Char) := do
  if isPlain label then
    let _ ← readLabel label
    if labelLimit < label.length then throw .labelTooLong
    return label
  checkLabel label
  let code := encodedMark ++ Punycode.encode label
  if labelLimit < code.length then throw .labelTooLong
  return code

/-! ## Domains -/

def isDot (c : Char) : Bool := c = '.' || c.toNat = 0x3002 || c.toNat = 0xff0e || c.toNat = 0xff61

def labels (domain : List Char) : Except LabelFault (List (List Char) × Bool) :=
  if domainLimit + 1 < size domain then .error .domainTooLong
  else
    let all := domain.splitOnP isDot
    if all = [[]] then .error .emptyDomain
    else if all.getLast? = some [] then .ok (all.dropLast, true)
    else .ok (all, false)

def joinLabels (labels : List (List Char)) (dotted : Bool) : List Char :=
  List.intercalate ['.'] (if dotted then labels ++ [[]] else labels)

def writeDomain (domain : List Char) : Except LabelFault (List Char) := do
  let (parts, dotted) ← labels domain
  let written := joinLabels (← parts.mapM writeLabel) dotted
  if (if dotted then domainLimit + 1 else domainLimit) < written.length then throw .domainTooLong
  return written

def readDomain (domain : List Char) : Except LabelFault (List Char) := do
  let (parts, dotted) ← labels domain
  return joinLabels (← parts.mapM readLabel) dotted

end PluginKit.Net
