/-
**What a replacement decodes to.**

`_replacement_bytes` splices bytes, and the law is about the decoded text. A file whose line endings
are all of one kind is the image of a text without carriage returns under `expand`, and so is every
piece of it that is cut outside a CR-LF pair.

* `expand_of_uniform`, `uniform_expand`: line endings of one kind are those of such an image.
* `expand_cut`: a cut outside a pair cuts the text it comes from.
* `Respects`: what the replacement has to keep.
* `replacement_respects_iff`: **it keeps that exactly if the file has a byte-order mark or the new
  text does not start with its character.**
-/

import SerenaLight.Lsp.PositionLaws
import SerenaLight.Tools.Editing

set_option linter.unusedSectionVars false

namespace SerenaLight.Tools

open Foundation Fallible Lsp

/-! ### Line endings of one kind -/

/-- The two line endings of an editable file. -/
def IsNewline (newline : Text) : Prop := newline = ['\n'] ∨ newline = ['\r', '\n']

/-- Each line feed becomes the line ending. -/
def expand (newline : Text) (plain : Text) : Text :=
  plain.flatMap fun character => if character = '\n' then newline else [character]

theorem expand_append (newline first second : Text) :
    expand newline (first ++ second) = expand newline first ++ expand newline second :=
  List.flatMap_append

/-- Every line ending of the text is of this kind. -/
def Uniform (newline text : Text) : Prop :=
  ∀ ending ∈ (lineBreaks 0 text).map LineBreak.ending, ending = newline

theorem endings_shift (index other : Nat) (text : Text) :
    (lineBreaks index text).map LineBreak.ending = (lineBreaks other text).map LineBreak.ending := by
  induction index, text using lineBreaks.induct generalizing other <;> grind [lineBreaks]

theorem endings_cons {character : Char} {rest : Text} (noFeed : character ≠ '\n')
    (noReturn : character ≠ '\r') :
    (lineBreaks 0 (character :: rest)).map LineBreak.ending =
      (lineBreaks 0 rest).map LineBreak.ending := by
  rw [lineBreaks.eq_5 _ _ _ (fun _ same => (noReturn same).elim) noFeed noReturn]
  exact endings_shift _ _ rest

theorem uniform_expand {newline : Text} (kind : IsNewline newline) {plain : Text}
    (noReturn : '\r' ∉ plain) : Uniform newline (expand newline plain) := by
  induction plain with
  | nil => simp [Uniform, expand, lineBreaks]
  | cons character rest ih =>
    have noReturns : character ≠ '\r' ∧ '\r' ∉ rest := by grind
    have later := ih noReturns.2
    by_cases feed : character = '\n'
    · subst feed
      obtain rfl | rfl := kind <;>
        grind [Uniform, expand, lineBreaks, endings_shift]
    · have first : expand newline (character :: rest) = character :: expand newline rest := by
        simp [expand, feed]
      rw [first, Uniform, endings_cons feed noReturns.1]
      exact later

/-- A text with line endings of one kind only is the image of its lines joined by line feeds. -/
theorem expand_of_uniform {newline : Text} (kind : IsNewline newline) (index : Nat) {text : Text}
    (uniform : ∀ ending ∈ (lineBreaks index text).map LineBreak.ending, ending = newline) :
    ∃ plain, '\r' ∉ plain ∧ text = expand newline plain := by
  -- the induction follows the scan: each line ending it finds is the one kind
  induction index, text using lineBreaks.induct with
  | case1 => exact ⟨[], by simp, rfl⟩
  | case2 index rest ih =>
    rw [lineBreaks] at uniform
    obtain ⟨plain, noReturn, rfl⟩ := ih fun ending found => uniform ending (.tail _ found)
    have same : ['\r', '\n'] = newline := uniform _ (.head _)
    subst same
    exact ⟨'\n' :: plain, by simpa using noReturn, by simp [expand]⟩
  | case3 index rest ih =>
    rw [lineBreaks] at uniform
    obtain ⟨plain, noReturn, rfl⟩ := ih fun ending found => uniform ending (.tail _ found)
    have same : ['\n'] = newline := uniform _ (.head _)
    subst same
    exact ⟨'\n' :: plain, by simpa using noReturn, by simp [expand]⟩
  | case4 index rest notPair ih =>
    rw [lineBreaks.eq_4 _ _ notPair] at uniform
    have same : ['\r'] = newline := uniform _ (.head _)
    subst same
    exact absurd kind (by simp [IsNewline])
  | case5 index character rest notPair noFeed noReturn ih =>
    rw [lineBreaks.eq_5 _ _ _ notPair noFeed noReturn] at uniform
    obtain ⟨plain, noReturns, rfl⟩ := ih uniform
    have other : character ≠ '\n' := noFeed
    exact ⟨character :: plain, by grind, by simp [expand, other]⟩

/-- **The cut.** A boundary outside a CR-LF pair is one of the text the image comes from. -/
theorem expand_cut {newline : Text} (kind : IsNewline newline) {plain : Text} {offset : Nat}
    (outside : ¬InsidePair (expand newline plain) offset) :
    ∃ before after, plain = before ++ after ∧
      (expand newline plain).take offset = expand newline before ∧
      (expand newline plain).drop offset = expand newline after := by
  induction plain generalizing offset with
  | nil => exact ⟨[], [], rfl, by simp [expand], by simp [expand]⟩
  | cons character rest ih =>
    have whole : expand newline (character :: rest) =
        (if character = '\n' then newline else [character]) ++ expand newline rest := rfl
    have later : ∀ gap, ¬InsidePair (expand newline rest) gap → ∃ before after,
        character :: rest = before ++ after ∧
        (expand newline (character :: rest)).take
          ((if character = '\n' then newline else [character]).length + gap) =
            expand newline before ∧
        (expand newline (character :: rest)).drop
          ((if character = '\n' then newline else [character]).length + gap) =
            expand newline after := by
      intro gap outsideRest
      obtain ⟨before, after, rfl, taken, dropped⟩ := ih outsideRest
      refine ⟨character :: before, after, rfl, ?_, ?_⟩
      · rw [whole, List.take_length_add_append, taken]
        rfl
      · rw [whole, List.drop_length_add_append, dropped]
    cases offset with
    | zero => exact ⟨[], character :: rest, rfl, rfl, rfl⟩
    | succ gap =>
      by_cases pair : character = '\n' ∧ newline = ['\r', '\n']
      · obtain ⟨rfl, rfl⟩ := pair
        cases gap with
        | zero => exact absurd ⟨Nat.one_pos, rfl, rfl⟩ outside
        | succ gap =>
          have moved := later gap fun inside => outside (by
            rw [whole]
            exact (insidePair_cons (by omega)).mpr ((insidePair_cons inside.1).mpr inside))
          rw [show gap + 1 + 1 = 2 + gap by omega]
          exact moved
      · have single : (if character = '\n' then newline else [character]) = [character] := by
          obtain rfl | rfl := kind <;> grind
        rw [single] at later whole
        have moved := later gap fun inside => outside (by
          rw [whole]
          exact (insidePair_cons inside.1).mpr inside)
        rw [Nat.add_comm]
        exact moved

/-! ### The body -/

/-- `str.replace` twice leaves no carriage return. -/
def plainBody (body : Body) : Body :=
  (joinCrLf body).map fun character => if character = some '\r' then some '\n' else character

theorem noReturn_plainBody (body : Body) : some '\r' ∉ plainBody body := by
  intro found
  obtain ⟨character, _, same⟩ := List.mem_map.mp found
  grind

theorem plainBody_eq_nil {body : Body} : plainBody body = [] ↔ body = [] := by
  unfold plainBody
  cases body using joinCrLf.induct <;> simp [joinCrLf]

theorem head_plainBody (body : Body) :
    (plainBody body).head? = some (some bomCharacter) ↔ body.head? = some (some bomCharacter) := by
  unfold plainBody
  induction body using joinCrLf.induct <;> simp [joinCrLf, bomCharacter]
  grind

theorem mapM_id_eq_some {body : Body} {text : Text} :
    body.mapM id = some text ↔ body = text.map some := by
  induction body generalizing text with
  | nil => cases text <;> simp
  | cons character rest ih =>
    have step : (character :: rest).mapM id = some text ↔
        ∃ first, character = some first ∧ ∃ later, rest = later.map some ∧ first :: later = text := by
      simp [List.mapM_cons, Option.bind_eq_some_iff, ih]
    rw [step]
    constructor
    · rintro ⟨first, rfl, later, rfl, rfl⟩
      rfl
    · intro same
      cases text with
      | nil => exact nomatch same
      | cons first later =>
        obtain ⟨rfl, rfl⟩ := List.cons.inj same
        exact ⟨first, rfl, later, rfl, rfl⟩

/-- The normalised body is the image of the plain one. -/
theorem expand_of_normalizeBody {newline : Text} {plain : Body} {normalized : Text}
    (same : plain.flatMap (fun character =>
      if character = some '\n' then newline.map some else [character]) = normalized.map some) :
    ∃ text, plain = text.map some ∧ normalized = expand newline text := by
  induction plain generalizing normalized with
  | nil => exact ⟨[], rfl, by simpa [expand] using same.symm⟩
  | cons character rest ih =>
    rw [List.flatMap_cons] at same
    obtain ⟨first, later, rfl, firstSame, laterSame⟩ := List.map_eq_append_iff.mp same.symm
    obtain ⟨text, rfl, rfl⟩ := ih laterSame.symm
    by_cases feed : character = some '\n'
    · subst feed
      rw [if_pos rfl] at firstSame
      have := List.map_injective_iff.mpr (Option.some_injective _) firstSame
      exact ⟨'\n' :: text, rfl, by simp [expand, this]⟩
    · rw [if_neg feed] at firstSame
      obtain ⟨letter, rfl, rfl⟩ : ∃ letter, first = [letter] ∧ character = some letter := by
        cases first with
        | nil => simp at firstSame
        | cons letter more => cases more <;> simp_all
      have other : letter ≠ '\n' := fun same => feed (congrArg some same)
      exact ⟨letter :: text, rfl, by simp [expand, other]⟩

/-! ### The bytes -/

section Bytes

variable (snapshot : FileSnapshot)

theorem encode_cut (offset : Nat) : snapshot.rawBytes =
    (snapshot.bom ++ encode (snapshot.text.take offset)) ++ encode (snapshot.text.drop offset) := by
  rw [List.append_assoc, ← encode_append, List.take_append_drop, snapshot.encoded]

theorem take_textToByte (offset : Nat) : snapshot.rawBytes.take (snapshot.textToByte offset) =
    snapshot.bom ++ encode (snapshot.text.take offset) := by
  conv_lhs => rw [encode_cut snapshot offset]
  exact List.take_left' (by rw [List.length_append]; rfl)

theorem drop_textToByte (offset : Nat) : snapshot.rawBytes.drop (snapshot.textToByte offset) =
    encode (snapshot.text.drop offset) := by
  conv_lhs => rw [encode_cut snapshot offset]
  exact List.drop_left' (by rw [List.length_append]; rfl)

end Bytes

/-- A rendered range: two boundaries in order, each with its byte offset. -/
theorem sourceRange_eq_ok {mapper : PositionMapper} {range : Range} {source : SourceRange}
    (placed : sourceRange mapper range = .ok source) :
    mapper.Placed range.start source.start.textOffset ∧
      mapper.Placed range.stop source.stop.textOffset ∧
      source.start.byteOffset = mapper.snapshot.textToByte source.start.textOffset ∧
      source.stop.byteOffset = mapper.snapshot.textToByte source.stop.textOffset := by
  have rendered : ∀ {position point}, PublicPositionRenderer.position mapper position = .ok point →
      mapper.Placed position point.textOffset ∧
        point.byteOffset = mapper.snapshot.textToByte point.textOffset := by
    intro position point found
    obtain ⟨offset, mapped, found⟩ := bind_eq_ok.mp found
    obtain ⟨byte, bytes, found⟩ := bind_eq_ok.mp found
    cases found
    exact ⟨PositionMapper.lspToTextOffset_eq_ok.mp mapped,
      (PositionMapper.textOffsetToByteOffset_eq_ok.mp bytes).2.symm⟩
  obtain ⟨start, first, placed⟩ := bind_eq_ok.mp placed
  obtain ⟨stop, last, placed⟩ := bind_eq_ok.mp placed
  cases placed
  exact ⟨(rendered first).1, (rendered last).1, (rendered first).2, (rendered last).2⟩

/-- A boundary with a position is outside every CR-LF pair. -/
theorem outside_of_placed {mapper : PositionMapper} {position : LspPosition} {offset : Nat}
    (placed : mapper.Placed position offset) : ¬InsidePair mapper.snapshot.text offset :=
  ((mapper.lossless.domain offset).mp
    ⟨position, PositionMapper.textOffsetToLsp_eq_ok.mpr placed⟩).2

theorem newlineContract_eq_some {snapshot : FileSnapshot} {newline : Text}
    (contract : newlineContract snapshot = some newline) :
    IsNewline newline ∧ (∀ ending ∈ snapshot.lineEndings, ending = newline) ∧
      (snapshot.lineEndings = [] → newline = ['\n']) := by
  unfold newlineContract at contract
  split at contract
  · next feeds =>
    cases contract
    exact ⟨.inl rfl, by simpa [FileSnapshot.lineEndings] using feeds, fun _ => rfl⟩
  · next notFeeds =>
    split at contract
    · next pairs =>
      cases contract
      refine ⟨.inr rfl, by simpa [FileSnapshot.lineEndings] using pairs, fun none => ?_⟩
      rw [none] at notFeeds
      exact absurd rfl notFeeds
    · exact nomatch contract

theorem noReturn_of_plainBody {body : Body} {text : Text} (plain : plainBody body = text.map some) :
    '\r' ∉ text := by
  intro found
  exact noReturn_plainBody body (plain ▸ List.mem_map_of_mem found)

/-- Pieces of a uniform text around a normalised one make a uniform text. -/
theorem uniform_splice {newline text between : Text} {start stop : Nat} (kind : IsNewline newline)
    (uniform : Uniform newline text) (startOutside : ¬InsidePair text start)
    (stopOutside : ¬InsidePair text stop) (noReturn : '\r' ∉ between) :
    Uniform newline (text.take start ++ expand newline between ++ text.drop stop) := by
  obtain ⟨plain, plainNoReturn, rfl⟩ := expand_of_uniform kind 0 uniform
  obtain ⟨before, _, startCut, taken, -⟩ := expand_cut kind startOutside
  obtain ⟨_, after, stopCut, -, dropped⟩ := expand_cut kind stopOutside
  rw [taken, dropped, ← expand_append, ← expand_append]
  refine uniform_expand kind ?_
  have first : '\r' ∉ before := fun found => plainNoReturn (by rw [startCut]; simp [found])
  have last : '\r' ∉ after := fun found => plainNoReturn (by rw [stopCut]; simp [found])
  simp [first, last, noReturn]

/-! ### The law -/

/-- What a replacement of `text[start:stop]` by a body keeps: the mark, the rest of the text, and
the file's kind of line ending, a line feed if it had none. -/
def Respects (snapshot : FileSnapshot) (body : Body) (start stop : Nat) (replacement : Bytes) :
    Prop :=
  ∃ newline normalized after,
    (∀ ending ∈ snapshot.lineEndings, ending = newline) ∧
    (snapshot.lineEndings = [] → newline = ['\n']) ∧
    normalizeBody newline body = normalized.map some ∧
    FileSnapshot.fromBytes replacement = .ok after ∧
    after.bom = snapshot.bom ∧
    start ≤ stop ∧ after.text = snapshot.text.take start ++ normalized ++ snapshot.text.drop stop ∧
    ∀ ending ∈ after.lineEndings, ending = newline

/-- The first character of the new text, before its line endings are normalised. -/
def newHead (snapshot : FileSnapshot) (body : Body) (start stop : Nat) : Option (Option Char) :=
  ((snapshot.text.take start).map some ++ body ++ (snapshot.text.drop stop).map some).head?

theorem head_expand {newline : Text} (kind : IsNewline newline) (plain : Text) :
    (expand newline plain).head? = some bomCharacter ↔ plain.head? = some bomCharacter := by
  cases plain with
  | nil => rfl
  | cons character rest =>
    by_cases feed : character = '\n'
    · subst feed
      obtain rfl | rfl := kind <;> simp [expand, bomCharacter]
    · simp [expand, feed]

/-- Normalising the body does not make or lose a leading mark. -/
theorem newHead_iff {snapshot : FileSnapshot} {body : Body} {start stop : Nat} {newline text : Text}
    (kind : IsNewline newline) (plain : plainBody body = text.map some) :
    newHead snapshot body start stop = some (some bomCharacter) ↔
      (snapshot.text.take start ++ expand newline text ++ snapshot.text.drop stop).head? =
        some bomCharacter := by
  have bodyHead := head_plainBody body
  have imageHead := head_expand kind text
  have emptied : body = [] ↔ text = [] := by
    rw [← plainBody_eq_nil, plain, List.map_eq_nil_iff]
  have unexpanded : expand newline text = [] ↔ text = [] := by
    obtain rfl | rfl := kind <;> cases text <;> simp [expand] <;> split <;> simp
  unfold newHead
  cases snapshot.text.take start with
  | cons character rest => simp
  | nil =>
    cases body with
    | nil => simp [emptied.mp rfl, expand]
    | cons first more =>
      have someText : expand newline text ≠ [] := by simp [unexpanded, ← emptied]
      rw [plain] at bodyHead
      obtain ⟨letter, letters, image⟩ := List.exists_cons_of_ne_nil someText
      rw [image] at imageHead
      simp only [List.map_nil, List.nil_append, List.cons_append, List.head?_cons, image] at *
      rw [imageHead, ← bodyHead]
      cases text <;> simp

/-- **A replacement keeps the mark, the rest of the text and the line endings exactly if the file
has a byte-order mark or its new text does not start with the character of one.** -/
theorem replacement_respects_iff {rawBytes : Bytes} {snapshot : FileSnapshot}
    (taken : FileSnapshot.fromBytes rawBytes = .ok snapshot) {encoding : PositionEncoding}
    {range : Range} {source : SourceRange}
    (placed : sourceRange ⟨snapshot, encoding⟩ range = .ok source) {body : Body}
    {replacement : Bytes}
    (built : replacementBytes snapshot body source.start.byteOffset source.stop.byteOffset =
      some replacement) :
    Respects snapshot body source.start.textOffset source.stop.textOffset replacement ↔
      (snapshot.bom = [] → newHead snapshot body source.start.textOffset source.stop.textOffset ≠
        some (some bomCharacter)) := by
  obtain ⟨startPlaced, stopPlaced, startByte, stopByte⟩ := sourceRange_eq_ok placed
  obtain ⟨newline, encoded, contract, encodes, rfl⟩ := replacementBytes_eq_some built
  obtain ⟨kind, uniform, feeds⟩ := newlineContract_eq_some contract
  obtain ⟨normalized, mapped, rfl⟩ := Option.map_eq_some_iff.mp encodes
  have normal := mapM_id_eq_some.mp mapped
  obtain ⟨text, plain, rfl⟩ := @expand_of_normalizeBody _ (plainBody body) _ normal
  have ordered : source.start.textOffset ≤ source.stop.textOffset := by
    by_contra reversed
    exact range.ordered ((stopPlaced.lt_iff startPlaced).mpr (Nat.lt_of_not_le reversed))
  have newEndings := uniform_splice kind uniform (outside_of_placed startPlaced)
    (outside_of_placed stopPlaced) (noReturn_of_plainBody plain)
  rw [startByte, stopByte, take_textToByte, drop_textToByte, List.append_assoc, List.append_assoc,
    ← encode_append, ← encode_append, ← List.append_assoc, Ne, newHead_iff kind plain]
  dsimp only at newEndings ⊢
  generalize newText : snapshot.text.take source.start.textOffset ++ expand newline text ++
    snapshot.text.drop source.stop.textOffset = new at newEndings ⊢
  constructor
  · rintro ⟨_, _, after, -, -, -, read, sameBom, -⟩ unmarked starts
    rw [FileSnapshot.bom_of_fromBytes read, unmarked, List.nil_append, FileSnapshot.leadingBom,
      if_pos (List.isPrefixOf_iff_prefix.mpr ((utf8Bom_prefix_iff new).mpr starts))] at sameBom
    cases sameBom
  · intro condition
    obtain ⟨after, read, sameText, sameBom⟩ : ∃ after,
        FileSnapshot.fromBytes (snapshot.bom ++ encode new) = .ok after ∧ after.text = new ∧
          after.bom = snapshot.bom := by
      have marks := FileSnapshot.bom_of_fromBytes taken
      unfold FileSnapshot.leadingBom at marks
      split at marks
      · rw [marks]
        exact FileSnapshot.fromBytes_marked new
      · rw [marks]
        exact FileSnapshot.fromBytes_unmarked (condition marks)
    refine ⟨newline, _, after, uniform, feeds, normal, read, sameBom, ordered, ?_, ?_⟩
    · rw [sameText, newText]
    · rw [FileSnapshot.lineEndings, sameText]
      exact newEndings

section Instances

/-- The file `x=1`, and the whole of it as a range. -/
def assignment : FileSnapshot := ⟨[120, 61, 49], ['x', '=', '1'], [], by decide⟩

def assignmentRange : Range := ⟨⟨0, 0⟩, ⟨0, 3⟩, by decide, by decide⟩

def assignmentSource : SourceRange := ⟨⟨0, 0, 0, 0⟩, ⟨0, 3, 3, 3⟩⟩

theorem assignment_taken : FileSnapshot.fromBytes [120, 61, 49] = .ok assignment := rfl

theorem assignment_placed (encoding : PositionEncoding) :
    sourceRange ⟨assignment, encoding⟩ assignmentRange = .ok assignmentSource := by
  cases encoding <;> rfl

/-- The body `y` in the place of `x=1`. -/
theorem replacement_respects_assignment :
    Respects assignment [some 'y'] 0 3 [121] :=
  (replacement_respects_iff assignment_taken (assignment_placed .utf16)
    (by decide +kernel : replacementBytes assignment [some 'y'] 0 3 = some [121])).mpr
      (by decide +kernel)

/-- A body that starts with U+FEFF, at the start of a file without a mark, becomes its mark. -/
theorem replacement_becomes_mark :
    FileSnapshot.fromBytes [120, 61, 49] = .ok assignment ∧
    sourceRange ⟨assignment, .utf16⟩ assignmentRange = .ok assignmentSource ∧
    replacementBytes assignment [some bomCharacter, some 'y'] 0 3 = some [0xef, 0xbb, 0xbf, 121] ∧
    ¬Respects assignment [some bomCharacter, some 'y'] 0 3 [0xef, 0xbb, 0xbf, 121] := by
  refine ⟨assignment_taken, assignment_placed .utf16, by decide +kernel, ?_⟩
  rintro ⟨_, _, after, -, -, -, read, sameBom, -⟩
  rw [FileSnapshot.bom_of_fromBytes read] at sameBom
  exact absurd sameBom (by decide)

end Instances

end SerenaLight.Tools
