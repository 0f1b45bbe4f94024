import PluginKit.Text.Lines
import PluginKit.Text.Utf8

/-!
Text files that are read piece by piece. Bytes are taken in chunks, as many as the piece that is being read
seems to need, and each chunk is decoded together with the unfinished character before it. A fault comes up
only when the piece is asked for that needs the faulty chunk; positions count from the bytes that are decoded
together.
-/

namespace PluginKit.Text

def pieceSize : Nat := 4096

def chunkSize : Nat := 8192

structure Stream where
  text : List Char
  fault : Option Utf8.Fault

/-- The bytes that are left, the unfinished character before them and whether a return waits for what follows
it, the text so far, and how many bytes made how many characters in the last chunk. -/
structure Feed where
  rest : List UInt8
  unfinished : List UInt8
  waiting : Bool
  text : Array Char
  bytesPer : Nat × Nat

namespace Feed

def request (f : Feed) : Nat :=
  let missing := pieceSize - f.text.size % pieceSize
  let (bytes, chars) := f.bytesPer
  max chunkSize (if bytes ≤ chars then missing else bytes * missing / chars)

def startsSurrogate : List UInt8 → Bool
  | [0xed, b] => 0xa0 ≤ b && b ≤ 0xbf
  | _ => false

def decodeChunk (final : Bool) (data : List UInt8) : Except Utf8.Fault (List Char × List UInt8) :=
  match Utf8.faultFrom? 0 0 data with
  | none => (Utf8.decode data).map fun s => (s.toList, [])
  | some fault =>
    let isOpen := fault.reason = .unexpectedEnd || startsSurrogate (data.drop fault.position)
    if isOpen && !final then
      (Utf8.decode (data.take fault.position)).map fun s => (s.toList, data.drop fault.position)
    else .error fault

def foldLines (final waiting : Bool) (s : List Char) : List Char × Bool :=
  let all := if waiting then '\r' :: s else s
  if !final && all.getLast? = some '\r' then (universalNewlines all.dropLast, true)
  else (universalNewlines all, false)

def run : Nat → Feed → Stream
  | 0, f => ⟨f.text.toList, none⟩
  | steps + 1, f =>
    let chunk := f.rest.take f.request
    match decodeChunk chunk.isEmpty (f.unfinished ++ chunk) with
    | .error fault => ⟨f.text.toList.take (f.text.size / pieceSize * pieceSize), some fault⟩
    | .ok (chars, unfinished) =>
      let (found, waiting) := foldLines chunk.isEmpty f.waiting chars
      let text := f.text ++ found
      if chunk.isEmpty then ⟨text.toList, none⟩
      else run steps ⟨f.rest.drop f.request, unfinished, waiting, text, (chunk.length, found.length)⟩

end Feed

def Stream.ofBytes (data : List UInt8) : Stream :=
  Feed.run (data.length + 1) ⟨data, [], false, #[], (0, 0)⟩

end PluginKit.Text
