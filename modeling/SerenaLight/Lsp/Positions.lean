/-
**Source snapshots and their positions** (`lsp/positions.py`).

- `FileSnapshot` is one decoded file: its bytes, its text and the byte-order mark, with the proof that
  the text encodes to the bytes. The line tables are functions of the text.
- `PositionMapper` converts between LSP positions, decoded-text offsets and byte offsets, at exact
  boundaries only.
- `PublicPositionRenderer.position` is the public form of an LSP position.
-/

import Mathlib
import SerenaLight.Foundation.Json

namespace SerenaLight.Lsp

open Foundation

abbrev Bytes := List UInt8

/-- A Python string, one character for a code point. -/
abbrev Text := List Char

/-- `text.encode("utf-8")`. -/
def encode (text : Text) : Bytes := text.flatMap String.utf8EncodeChar

/-- `payload.decode("utf-8")`, strict. -/
def decode (payload : Bytes) : Option Text :=
  (ByteArray.utf8Decode? ⟨payload.toArray⟩).map Array.toList

/-- Decoding loses nothing. -/
theorem encode_decode {payload : Bytes} {text : Text} (decoded : decode payload = some text) :
    encode text = payload := by
  unfold decode at decoded
  obtain ⟨characters, found, rfl⟩ := Option.map_eq_some_iff.mp decoded
  have some : (ByteArray.utf8Decode? ⟨payload.toArray⟩).isSome := by rw [found]; rfl
  have back := ByteArray.utf8Encode_get_utf8Decode? (h := some)
  simp only [found, Option.get_some, List.utf8Encode] at back
  have data := congrArg ByteArray.data back
  rw [List.data_toByteArray] at data
  exact congrArg Array.toList data

inductive PositionEncoding where
  | utf8
  | utf16
  | utf32
  deriving DecidableEq, Repr

/-- Why a position is refused. -/
inductive PositionError where
  | malformedUtf8
  | lineOutside (line : Int)
  | negativeCharacter
  | pastLineEnd
  | newline
  | textOutside
  | byteOutside
  | splitsCodePoint
  deriving DecidableEq, Repr

/-- A zero-based line and character. -/
structure LspPosition where
  line : Int
  character : Int
  deriving DecidableEq, Repr

/-! ### Snapshots -/

/-- A line break of a text: where the line's content ends, and where the next line starts. -/
structure LineBreak where
  contentEnd : Nat
  lineEnd : Nat
  ending : Text
  deriving DecidableEq, Repr

/-- The scan over the text: CRLF, LF and a bare CR each end a line. -/
def lineBreaks (index : Nat) : Text → List LineBreak
  | [] => []
  | '\r' :: '\n' :: rest => ⟨index, index + 2, ['\r', '\n']⟩ :: lineBreaks (index + 2) rest
  | '\n' :: rest => ⟨index, index + 1, ['\n']⟩ :: lineBreaks (index + 1) rest
  | '\r' :: rest => ⟨index, index + 1, ['\r']⟩ :: lineBreaks (index + 1) rest
  | _ :: rest => lineBreaks (index + 1) rest

/-- A decoded file. The byte-order mark is part of the bytes and not of the text. -/
structure FileSnapshot where
  rawBytes : Bytes
  text : Text
  bom : Bytes
  encoded : bom ++ encode text = rawBytes
  deriving DecidableEq

namespace FileSnapshot

def utf8Bom : Bytes := [0xef, 0xbb, 0xbf]

/-- The byte-order mark at the start of a file, if there is one. -/
def leadingBom (rawBytes : Bytes) : Bytes := if utf8Bom.isPrefixOf rawBytes then utf8Bom else []

theorem leadingBom_append (rawBytes : Bytes) :
    leadingBom rawBytes ++ rawBytes.drop (leadingBom rawBytes).length = rawBytes := by
  unfold leadingBom
  by_cases marked : utf8Bom.isPrefixOf rawBytes
  · rw [if_pos marked]
    obtain ⟨rest, rfl⟩ := List.isPrefixOf_iff_prefix.mp marked
    rw [List.drop_left]
  · rw [if_neg marked]
    rfl

/-- `FileSnapshot.from_bytes`. -/
def fromBytes (rawBytes : Bytes) : Except PositionError FileSnapshot :=
  let bom := leadingBom rawBytes
  match decoded : decode (rawBytes.drop bom.length) with
  | none => .error .malformedUtf8
  | some text =>
    .ok ⟨rawBytes, text, bom, by rw [encode_decode decoded]; exact leadingBom_append rawBytes⟩

theorem rawBytes_of_fromBytes {rawBytes : Bytes} {snapshot : FileSnapshot}
    (taken : fromBytes rawBytes = .ok snapshot) : snapshot.rawBytes = rawBytes := by
  unfold fromBytes at taken
  dsimp only at taken
  split at taken
  · cases taken
  · cases taken
    rfl

def lineEndings (self : FileSnapshot) : List Text :=
  (lineBreaks 0 self.text).map LineBreak.ending

/-- Each line's start and the end of its content. -/
def lines (self : FileSnapshot) : List (Nat × Nat) :=
  let breaks := lineBreaks 0 self.text
  (0 :: breaks.map LineBreak.lineEnd).zip
    (breaks.map LineBreak.contentEnd ++ [self.text.length])

/-- `_text_to_byte[offset]`. -/
def textToByte (self : FileSnapshot) (offset : Nat) : Nat :=
  self.bom.length + (encode (self.text.take offset)).length

/-- `text[start:stop]`. -/
def slice (self : FileSnapshot) (start stop : Nat) : Text :=
  (self.text.take stop).drop start

end FileSnapshot

/-! ### Positions -/

/-- Conversions at exact boundaries of one snapshot. -/
structure PositionMapper where
  snapshot : FileSnapshot
  encoding : PositionEncoding

namespace PositionMapper

/-- The code units of a character. -/
def units (self : PositionMapper) (character : Char) : Nat :=
  match self.encoding with
  | .utf8 => (String.utf8EncodeChar character).length
  | .utf16 => if character.toNat > 0xFFFF then 2 else 1
  | .utf32 => 1

/-- The scan of a line's content for the boundary `character` code units in. -/
def seek (self : PositionMapper) (character : Int) (offset seen : Nat) :
    Text → Except PositionError Nat
  | [] => if seen = character then .ok offset else .error .pastLineEnd
  | next :: rest =>
    if seen = character then .ok offset
    else self.seek character (offset + 1) (seen + self.units next) rest

/-- `lsp_to_text_offset`. -/
def lspToTextOffset (self : PositionMapper) (position : LspPosition) : Except PositionError Nat :=
  if position.line < 0 then .error (.lineOutside position.line)
  else
    match self.snapshot.lines[position.line.toNat]? with
    | none => .error (.lineOutside position.line)
    | some (start, stop) =>
      if position.character < 0 then .error .negativeCharacter
      else self.seek position.character start 0 (self.snapshot.slice start stop)

/-- `text_offset_to_lsp`: a newline character has no position. -/
def textOffsetToLsp (self : PositionMapper) (offset : Nat) : Except PositionError LspPosition :=
  if offset > self.snapshot.text.length then .error .textOutside
  else
    -- `bisect_right` on the line starts, which ascend
    let started := self.snapshot.lines.takeWhile fun line => line.1 ≤ offset
    match started.getLast? with
    | none => .error .textOutside
    | some (start, stop) =>
      if offset > stop then .error .newline
      else .ok ⟨(started.length - 1 : Nat),
        (((self.snapshot.slice start offset).map self.units).sum : Nat)⟩

/-- `text_offset_to_byte_offset`. -/
def textOffsetToByteOffset (self : PositionMapper) (offset : Nat) : Except PositionError Nat :=
  if offset > self.snapshot.text.length then .error .textOutside
  else .ok (self.snapshot.textToByte offset)

/-- `byte_offset_to_text_offset`: the index of the byte offset in `_text_to_byte`. -/
def byteOffsetToTextOffset (self : PositionMapper) (offset : Int) : Except PositionError Nat :=
  if offset < 0 ∨ offset > self.snapshot.rawBytes.length then .error .byteOutside
  else
    match (List.range (self.snapshot.text.length + 1)).find?
        fun index => (self.snapshot.textToByte index : Int) = offset with
    | some index => .ok index
    | none => .error .splitsCodePoint

end PositionMapper

/-- A public position: decoded-text coordinates and the byte offset of the same boundary. -/
structure SourcePosition where
  line : Int
  column : Int
  textOffset : Nat
  byteOffset : Nat
  deriving DecidableEq, Repr

structure SourceRange where
  start : SourcePosition
  stop : SourcePosition
  deriving DecidableEq, Repr

namespace PublicPositionRenderer

/-- `PublicPositionRenderer.position`. -/
def position (mapper : PositionMapper) (position : LspPosition) :
    Except PositionError SourcePosition := do
  let textOffset ← mapper.lspToTextOffset position
  let lineStart := (mapper.snapshot.lines[position.line.toNat]?.map Prod.fst).getD 0
  let byteOffset ← mapper.textOffsetToByteOffset textOffset
  return ⟨position.line, (textOffset : Int) - lineStart, textOffset, byteOffset⟩

/-- `PublicPositionRenderer.range`. -/
def range (mapper : PositionMapper) (start stop : LspPosition) :
    Except PositionError SourceRange := do
  return ⟨← position mapper start, ← position mapper stop⟩

/-- `PublicPositionRenderer.text`. -/
def text (mapper : PositionMapper) (start stop : LspPosition) : Except PositionError Text := do
  let startOffset ← mapper.lspToTextOffset start
  let stopOffset ← mapper.lspToTextOffset stop
  return mapper.snapshot.slice startOffset stopOffset

end PublicPositionRenderer

end SerenaLight.Lsp
