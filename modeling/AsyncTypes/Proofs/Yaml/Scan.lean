import AsyncTypes.Proofs.Number.Numeral
import AsyncTypes.Proofs.Text.Reading
import AsyncTypes.Yaml.Token
import Mathlib.Algebra.Group.Nat.Defs

/-!
# Scanning a YAML text

What the scanners of a YAML text can come to.  A scanner leaves a place further on in the text,
or finds no token, or meets an escape of a double-quoted scalar whose code is beyond all
characters.  No other fault is possible before the tokens are put together.
-/

namespace AsyncTypes.Yaml

open Text (ReadsWithin)

/-! ## What a text is to blame for -/

/-- The text has an escape of eight hexadecimal digits for which there is no character. -/
def HasStrayCode (text : List Char) (fault : Fault) : Prop :=
  ∃ digits code, '\\' :: 'U' :: digits <:+: text ∧ digits.length = 8 ∧
    Json.hexNumber? digits = some code ∧ characterOf code = .error fault

/-- A text without tokens is malformed, and one with a stray code is refused for that. -/
def tokenBlame (text : List Char) (fault : Fault) : Prop :=
  fault = .malformed .token ∨ HasStrayCode text fault

/-- A scanner keeps to a text. -/
abbrev Scans {α : Type} (text : List Char) (result : Except Fault (α × Place)) : Prop :=
  ReadsWithin tokenBlame (fun found => found.2.rest) text result

variable {α β : Type} {left : α → List Char} {text : List Char} {place next : Place}

theorem readsWithin_noToken : ReadsWithin tokenBlame left text noToken :=
  .inl rfl

@[simp]
theorem noToken_bind (next : α → Except Fault β) : (noToken >>= next) = noToken :=
  rfl

/-! ## Places further on -/

namespace Place

theorem advance_suffix (behind : place.rest <:+ text) : place.advance.rest <:+ text := by
  rw [rest_advance]
  exact (List.tail_suffix _).trans behind

theorem skip_suffix (count : Nat) (behind : place.rest <:+ text) :
    (place.skip count).rest <:+ text := by
  rw [rest_skip]
  exact (List.drop_suffix _ _).trans behind

theorem span_suffix (test : Char → Bool) (behind : place.rest <:+ text) :
    (place.span test).2.rest <:+ text :=
  skip_suffix _ behind

theorem skipWhile_suffix (test : Char → Bool) (behind : place.rest <:+ text) :
    (place.skipWhile test).rest <:+ text :=
  span_suffix test behind

theorem skipSpaces_suffix (behind : place.rest <:+ text) : place.skipSpaces.rest <:+ text :=
  skipWhile_suffix _ behind

theorem skipComment_suffix (behind : place.rest <:+ text) : place.skipComment.rest <:+ text := by
  rw [skipComment]
  split
  · exact skipWhile_suffix _ behind
  · exact behind

theorem skipIndent_suffix (indent : Nat) (behind : place.rest <:+ text) :
    (place.skipIndent indent).rest <:+ text :=
  skip_suffix _ behind

theorem lineBreak?_suffix {c : Char} (found : place.lineBreak? = some (c, next))
    (behind : place.rest <:+ text) : next.rest <:+ text := by
  rw [lineBreak?] at found
  split at found
  · cases found
    exact skip_suffix 2 behind
  · split at found
    · cases found
      exact advance_suffix behind
    · split at found
      · cases found
        exact advance_suffix behind
      · cases found
  · cases found

theorem finishLine_reads (behind : place.rest <:+ text) :
    ReadsWithin tokenBlame Place.rest text place.finishLine := by
  have finish := skipComment_suffix (skipSpaces_suffix behind)
  rw [finishLine]
  split
  · cases ends : place.skipSpaces.skipComment.lineBreak? with
    | none => simpa [ends] using finish
    | some found => simpa [ends] using lineBreak?_suffix ends finish
  · exact readsWithin_noToken

/-! ## Anchors, tags and directives -/

theorem anchorName_scans (behind : place.rest <:+ text) : Scans text place.anchorName := by
  rw [anchorName]
  dsimp only
  split
  · exact span_suffix _ (advance_suffix behind)
  · exact readsWithin_noToken

end Place

theorem escapedBytes_scans (budget : Nat) (done : List UInt8) (behind : place.rest <:+ text) :
    Scans text (escapedBytes budget done place) := by
  induction budget generalizing done place with
  | zero => exact behind
  | succ budget ih =>
      rw [escapedBytes]
      split
      · split
        · exact ih _ (Place.skip_suffix 3 behind)
        · exact readsWithin_noToken
      · exact readsWithin_noToken
      · exact behind

theorem tagTextFrom_scans (budget : Nat) (done : List Char) (behind : place.rest <:+ text) :
    Scans text (tagTextFrom budget done place) := by
  induction budget generalizing done place with
  | zero => exact behind
  | succ budget ih =>
      rw [tagTextFrom]
      split
      · exact behind
      · split
        · refine (escapedBytes_scans _ _ behind).bind fun (bytes, next) further => ?_
          dsimp only
          split
          · exact ih _ further
          · exact readsWithin_noToken
        · split
          · exact ih _ (Place.advance_suffix behind)
          · exact behind

namespace Place

theorem tagText_scans (behind : place.rest <:+ text) : Scans text place.tagText := by
  refine (tagTextFrom_scans _ _ behind).bind fun (found, after) further => ?_
  dsimp only
  split
  · exact readsWithin_noToken
  · exact further

theorem tagHandle_scans (behind : place.rest <:+ text) : Scans text place.tagHandle := by
  have word := span_suffix isWordCharacter (advance_suffix behind)
  rw [tagHandle]
  split
  · exact readsWithin_noToken
  · split
    · exact advance_suffix behind
    · dsimp only
      split
      · exact advance_suffix word
      · exact readsWithin_noToken

/-- What was read of a tag counts when a space follows. -/
theorem atSpace_scans {found : α} (behind : place.rest <:+ text) :
    Scans text (if atSpace place.rest then .ok (found, place) else noToken) := by
  split
  · exact behind
  · exact readsWithin_noToken

theorem tag_scans (behind : place.rest <:+ text) : Scans text place.tag := by
  have inside := advance_suffix behind
  simp only [tag, noToken_bind, pure_bind]
  split
  · refine (tagText_scans (advance_suffix inside)).bind fun (found, after) further => ?_
    dsimp only
    split
    · exact atSpace_scans (advance_suffix further)
    · exact readsWithin_noToken
  · split
    · exact atSpace_scans inside
    · split
      · refine (tagHandle_scans behind).bind fun (handle, after) further => ?_
        refine (tagText_scans further).bind fun (found, finish) further => ?_
        exact atSpace_scans further
      · refine (tagText_scans inside).bind fun (found, after) further => ?_
        exact atSpace_scans further

theorem versionNumber_scans (behind : place.rest <:+ text) : Scans text place.versionNumber := by
  have after := span_suffix Char.isDigit behind
  rw [versionNumber]
  dsimp only
  split
  · exact readsWithin_noToken
  · exact after

theorem versionDirective_scans (behind : place.rest <:+ text) :
    Scans text place.versionDirective := by
  refine (versionNumber_scans (skipSpaces_suffix behind)).bind fun (major, point) further => ?_
  dsimp only
  split
  · exact readsWithin_noToken
  · refine (versionNumber_scans (advance_suffix further)).bind fun (minor, after) further => ?_
    exact atSpace_scans further

theorem handleDirective_scans (behind : place.rest <:+ text) :
    Scans text place.handleDirective := by
  refine (tagHandle_scans (skipSpaces_suffix behind)).bind fun (handle, gap) further => ?_
  dsimp only
  split
  · exact readsWithin_noToken
  · refine (tagText_scans (skipSpaces_suffix further)).bind fun (meaning, after) further => ?_
    exact atSpace_scans further

theorem directive_scans (behind : place.rest <:+ text) : Scans text place.directive := by
  have after := span_suffix isWordCharacter (advance_suffix behind)
  have finished : ∀ (directive : Directive) (finish : Place), finish.rest <:+ text →
      Scans text (do return (directive, ← finish.finishLine)) := fun _ _ further =>
    (finishLine_reads further).bind fun _ rest => rest
  simp only [directive, noToken_bind, pure_bind]
  split
  · exact readsWithin_noToken
  · split
    · exact (versionDirective_scans after).bind fun found => finished found.1 found.2
    · split
      · exact (handleDirective_scans after).bind fun found => finished found.1 found.2
      · exact finished .other _ (skipWhile_suffix _ after)

end Place

/-! ## Quoted scalars -/

/-- Hexadecimal digits spell a number below the power of sixteen for their count. -/
theorem hexNumber?_lt {digits : List Char} {code : Nat}
    (read : Json.hexNumber? digits = some code) :
    code < 16 ^ digits.length := by
  have from_total : ∀ (digits : List Char) (total code : Nat),
      digits.foldlM (fun total c => (Json.hexValue? c).map (total * 16 + ·)) total = some code →
        code < (total + 1) * 16 ^ digits.length := by
    intro digits
    induction digits with
    | nil =>
        intro total code read
        cases read
        simp
    | cons c rest ih =>
        intro total code read
        rw [List.foldlM_cons] at read
        obtain ⟨next, here, later⟩ := Option.bind_eq_some_iff.mp read
        obtain ⟨value, valued, rfl⟩ := Option.map_eq_some_iff.mp here
        have below := Json.hexValue?_lt valued
        calc code < (total * 16 + value + 1) * 16 ^ rest.length := ih _ _ later
          _ ≤ ((total + 1) * 16) * 16 ^ rest.length := Nat.mul_le_mul_right _ (by omega)
          _ = (total + 1) * 16 ^ (c :: rest).length := by
            rw [List.length_cons, Nat.pow_succ, Nat.mul_assoc, Nat.mul_comm 16]
  simpa using from_total digits 0 code read

/-- Every code of two or four digits has a character, so a code without one takes eight. -/
theorem eq_of_characterOf_error {letter : Char} {width code : Nat} {fault : Fault}
    (wide : escapeWidth? letter = some width) (below : code < 16 ^ width)
    (refused : characterOf code = .error fault) : letter = 'U' ∧ width = 8 := by
  have beyond : 0x10ffff < code := by
    rw [characterOf] at refused
    split at refused
    · omega
    · split at refused
      · assumption
      · split at refused <;> cases refused
  unfold escapeWidth? at wide
  split at wide
  · cases wide
    omega
  · cases wide
    omega
  · cases wide
    exact ⟨rfl, rfl⟩
  · cases wide

theorem codeEscape_scans {letter : Char} {width : Nat} (wide : escapeWidth? letter = some width)
    (behind : '\\' :: letter :: place.rest <:+ text) : Scans text (codeEscape width place) := by
  have start : place.rest <:+ text :=
    ((List.suffix_cons _ _).trans (List.suffix_cons _ _)).trans behind
  rw [codeEscape]
  split
  · next code read =>
      split
      · next length =>
          cases reached : characterOf code with
          | ok c => exact Place.skip_suffix width start
          | error fault =>
              have below := hexNumber?_lt read
              rw [length] at below
              obtain ⟨rfl, rfl⟩ : letter = 'U' ∧ width = 8 :=
                eq_of_characterOf_error wide below reached
              refine .inr ⟨place.rest.take 8, code, ?_, length, read, reached⟩
              have inside : '\\' :: 'U' :: place.rest.take 8 <+: '\\' :: 'U' :: place.rest := by
                simpa using List.take_prefix 8 place.rest
              exact inside.isInfix.trans behind.isInfix
      · exact readsWithin_noToken
  · exact readsWithin_noToken

theorem quotedBreaks_scans (budget : Nat) (done : List Char) (behind : place.rest <:+ text) :
    Scans text (quotedBreaks budget done place) := by
  induction budget generalizing done place with
  | zero => exact behind
  | succ budget ih =>
      have after := Place.skipWhile_suffix (fun c => c == ' ' || c == '\t') behind
      rw [quotedBreaks]
      split
      · exact readsWithin_noToken
      · dsimp only
        split
        · next c next ends => exact ih _ (Place.lineBreak?_suffix ends after)
        · exact after

theorem quotedGap_scans (behind : place.rest <:+ text) : Scans text (quotedGap place) := by
  have after := Place.span_suffix (fun c => c == ' ' || c == '\t') behind
  rw [quotedGap]
  dsimp only
  split
  · next c next ends =>
      exact (quotedBreaks_scans _ _ (Place.lineBreak?_suffix ends after)).bind fun _ rest => rest
  · exact after

theorem quotedEscape_scans (behind : '\\' :: place.rest <:+ text) :
    Scans text (quotedEscape place) := by
  have start : place.rest <:+ text := (List.suffix_cons _ _).trans behind
  rw [quotedEscape]
  split
  · exact readsWithin_noToken
  · next c first =>
      split
      · exact Place.advance_suffix start
      · next width _ wide =>
          have rest : place.rest = c :: place.advance.rest := by
            rw [Place.rest_advance]
            exact (List.eq_cons_of_mem_head? first)
          exact (codeEscape_scans wide (rest ▸ behind)).bind fun _ further => further
      · split
        · next ends => exact quotedBreaks_scans _ _ (Place.lineBreak?_suffix ends start)
        · exact readsWithin_noToken

theorem quotedFrom_scans (double : Bool) (budget : Nat) (done : List Char)
    (behind : place.rest <:+ text) : Scans text (quotedFrom double budget done place) := by
  induction budget generalizing done place with
  | zero => exact readsWithin_noToken
  | succ budget ih =>
      have next := Place.advance_suffix behind
      rw [quotedFrom]
      split
      · exact readsWithin_noToken
      · next c rest start =>
          split
          · refine (quotedGap_scans behind).bind fun (found, after) further => ?_
            dsimp only
            split
            · exact readsWithin_noToken
            · exact ih _ further
          · split
            · split
              · exact next
              · split
                · next slash =>
                    have escape : '\\' :: place.advance.rest <:+ text := by
                      rw [Place.rest_advance, start, ← beq_iff_eq.mp slash]
                      exact start ▸ behind
                    exact (quotedEscape_scans escape).bind fun (found, after) further =>
                      ih _ further
                · exact ih _ next
            · split
              · split
                · exact ih _ (Place.skip_suffix 2 behind)
                · exact next
              · exact ih _ next

theorem Place.quoted_scans (double : Bool) (behind : place.rest <:+ text) :
    Scans text (place.quoted double) :=
  quotedFrom_scans double _ [] (advance_suffix behind)

/-! ## Block scalars -/

theorem indentDigit?_reads {γ : Type} {left : γ → List Char} {next : Option Nat → Except Fault γ}
    (place : Place) (goesOn : ∀ indent, ReadsWithin tokenBlame left text (next indent)) :
    ReadsWithin tokenBlame left text
      ((place.next?.map indentDigit?).getD (.ok none) >>= next) := by
  cases place.next? with
  | none => exact goesOn none
  | some c =>
      rw [Option.map_some, Option.getD_some, indentDigit?]
      split
      · exact readsWithin_noToken
      · split
        · exact goesOn _
        · exact goesOn none

theorem blockHeader_scans (behind : place.rest <:+ text) : Scans text (blockHeader place) := by
  have next := Place.advance_suffix behind
  simp only [blockHeader, pure_bind]
  split
  · refine indentDigit?_reads place.advance fun indent => Place.atSpace_scans ?_
    split
    · exact Place.skip_suffix 2 behind
    · exact next
  · refine indentDigit?_reads place fun indent => ?_
    split
    · exact Place.atSpace_scans behind
    · split
      · exact Place.atSpace_scans (Place.skip_suffix 2 behind)
      · exact Place.atSpace_scans next

theorem blockIndent_suffix (budget : Nat) (done : List Char) (widest : Nat)
    (behind : place.rest <:+ text) :
    (blockIndent budget done widest place).2.2.rest <:+ text := by
  induction budget generalizing done widest place with
  | zero => exact behind
  | succ budget ih =>
      rw [blockIndent]
      split
      · exact ih _ _ (Place.advance_suffix behind)
      · split
        · next ends => exact ih _ _ (Place.lineBreak?_suffix ends behind)
        · exact behind

theorem blockBreaks_suffix (indent budget : Nat) (done : List Char)
    (behind : place.rest <:+ text) :
    (blockBreaks indent budget done place).2.rest <:+ text := by
  induction budget generalizing done place with
  | zero => exact behind
  | succ budget ih =>
      have inside := Place.skipIndent_suffix indent behind
      rw [blockBreaks]
      split
      · next ends => exact ih _ (Place.lineBreak?_suffix ends inside)
      · exact inside

theorem blockLines_suffix (folded : Bool) (indent budget : Nat) (done lastBreak breaks : List Char)
    (behind : place.rest <:+ text) :
    (blockLines folded indent budget done lastBreak breaks place).place.rest <:+ text := by
  induction budget generalizing done lastBreak breaks place with
  | zero => exact behind
  | succ budget ih =>
      have finish := Place.span_suffix (fun c => !isBreak c) behind
      have breaks_suffix : ∀ {after : Place}, after.rest <:+ text →
          (blockBreaks indent after.rest.length [] after).2.rest <:+ text := fun further =>
        blockBreaks_suffix indent _ [] further
      rw [blockLines]
      split
      · cases ends : (place.span (!isBreak ·)).2.lineBreak? with
        | none =>
            have next := breaks_suffix finish
            simp only [ends]
            split
            · exact ih _ _ _ next
            · exact next
        | some found =>
            have next := breaks_suffix (Place.lineBreak?_suffix ends finish)
            simp only [ends]
            split
            · exact ih _ _ _ next
            · exact next
      · exact behind

theorem Place.block_scans (folded : Bool) (least : Nat) (behind : place.rest <:+ text) :
    Scans text (place.block folded least) := by
  refine (blockHeader_scans (advance_suffix behind)).bind fun (header, after) further => ?_
  refine (finishLine_reads further).bind fun body further => ?_
  cases header.indent with
  | none =>
      have first := blockIndent_suffix (body.rest.length + 1) [] 0 further
      exact blockLines_suffix _ _ _ _ _ _ first
  | some width =>
      have first := blockBreaks_suffix (least + width - 1) (body.rest.length + 1) [] further
      exact blockLines_suffix _ _ _ _ _ _ first

/-! ## Plain scalars -/

theorem plainBreaks_suffix (budget : Nat) (done : List Char) (behind : place.rest <:+ text) :
    (plainBreaks budget done place).2.rest <:+ text := by
  induction budget generalizing done place with
  | zero => exact behind
  | succ budget ih =>
      rw [plainBreaks]
      split
      · exact ih _ (Place.advance_suffix behind)
      · split
        · exact behind
        · next ends =>
            have further := Place.lineBreak?_suffix ends behind
            split
            · exact further
            · exact ih _ further

theorem plainGap_suffix (behind : place.rest <:+ text) : (plainGap place).place.rest <:+ text := by
  have after := Place.span_suffix (· == ' ') behind
  rw [plainGap]
  dsimp only
  split
  · exact after
  · next ends =>
      have further := Place.lineBreak?_suffix ends after
      split
      · exact further
      · exact plainBreaks_suffix _ _ further

theorem plainFrom_suffix (inFlow : Bool) (indent budget : Nat) (done gap : List Char)
    (endsLine : Bool) (behind : place.rest <:+ text) :
    (plainFrom inFlow indent budget done gap endsLine place).place.rest <:+ text := by
  induction budget generalizing done gap endsLine place with
  | zero => exact behind
  | succ budget ih =>
      rw [plainFrom]
      split
      · exact behind
      · have further := plainGap_suffix
          (Place.skip_suffix (plainLength inFlow place.rest) behind)
        dsimp only
        split
        · exact further
        · exact further
        · split
          · exact further
          · exact ih _ _ _ further

end AsyncTypes.Yaml
