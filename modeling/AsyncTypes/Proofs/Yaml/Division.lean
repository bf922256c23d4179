import AsyncTypes.Proofs.Yaml.Scan

/-!
# Faults of the division into tokens

A step of the division scans a token, marks a key, or opens and closes blocks.  Only the scanning
goes on in the text; all other steps stay at their place, or find that a key is misplaced.
-/

namespace AsyncTypes.Yaml

open Text (ReadsWithin)

variable {text : List Char}

namespace Lexer

variable {lexer : Lexer}

/-- A step of the division keeps to a text. -/
abbrev Divides (text : List Char) (result : Except Fault Lexer) : Prop :=
  ReadsWithin tokenBlame (fun found => found.place.rest) text result

/-! ## Steps that stay at a place -/

@[simp]
theorem place_emit (lexer : Lexer) (token : Token) : (lexer.emit token).place = lexer.place :=
  rfl

@[simp]
theorem place_allowKeys (lexer : Lexer) (allowed : Bool) :
    (lexer.allowKeys allowed).place = lexer.place :=
  rfl

@[simp]
theorem place_withCurrent (lexer : Lexer) (candidate : Option Candidate) :
    (lexer.withCurrent candidate).place = lexer.place := by
  rw [withCurrent]
  split <;> rfl

@[simp]
theorem place_closeBlocks (lexer : Lexer) (inside : Nat → Bool) :
    (lexer.closeBlocks inside).place = lexer.place := by
  rw [closeBlocks]
  split <;> rfl

@[simp]
theorem place_openBlock (lexer : Lexer) (token : Token) (column : Nat) :
    (lexer.openBlock token column).place = lexer.place := by
  rw [openBlock]
  split <;> rfl

@[simp]
theorem place_markKey (lexer : Lexer) (candidate : Candidate) :
    (lexer.markKey candidate).place = lexer.place := by
  rw [markKey]
  dsimp only
  split <;> rfl

@[simp]
theorem place_skip (lexer : Lexer) (count : Nat) :
    (lexer.skip count).place = lexer.place.skip count :=
  rfl

/-! ## Steps that may fail -/

theorem closeStale_divides (behind : lexer.place.rest <:+ text) :
    Divides text lexer.closeStale := by
  rw [closeStale]
  dsimp only
  split
  · exact readsWithin_noToken
  · exact behind

theorem closeCurrent_divides (behind : lexer.place.rest <:+ text) :
    Divides text lexer.closeCurrent := by
  rw [closeCurrent]
  split
  · exact readsWithin_noToken
  · simpa using behind

theorem propose_divides (behind : lexer.place.rest <:+ text) : Divides text lexer.propose := by
  rw [propose]
  split
  · refine (closeCurrent_divides behind).bind fun closed further => ?_
    simpa using further
  · exact behind

theorem finish_divides (behind : lexer.place.rest <:+ text) : Divides text lexer.finish :=
  (closeCurrent_divides (by simpa using behind)).bind fun _ further => further

theorem directive_divides (behind : lexer.place.rest <:+ text) : Divides text lexer.directive := by
  refine (closeCurrent_divides (by simpa using behind)).bind fun closed further => ?_
  exact (Place.directive_scans further).bind fun _ further => further

theorem marker_divides (token : Token) (behind : lexer.place.rest <:+ text) :
    Divides text (lexer.marker token) :=
  (closeCurrent_divides (by simpa using behind)).bind fun _ further =>
    Place.skip_suffix 3 further

theorem openBracket_divides (token : Token) (behind : lexer.place.rest <:+ text) :
    Divides text (lexer.openBracket token) :=
  (propose_divides behind).bind fun _ further => Place.skip_suffix 1 further

theorem closeBracket_divides (token : Token) (behind : lexer.place.rest <:+ text) :
    Divides text (lexer.closeBracket token) :=
  (closeCurrent_divides behind).bind fun _ further => Place.skip_suffix 1 further

theorem flowEntry_divides (behind : lexer.place.rest <:+ text) : Divides text lexer.flowEntry :=
  (closeCurrent_divides behind).bind fun _ further => Place.skip_suffix 1 further

theorem blockEntry_divides (behind : lexer.place.rest <:+ text) :
    Divides text lexer.blockEntry := by
  simp only [blockEntry, noToken_bind]
  split
  · exact readsWithin_noToken
  · exact (closeCurrent_divides (by simpa using behind)).bind fun _ further =>
      Place.skip_suffix 1 further

theorem keyMark_divides (behind : lexer.place.rest <:+ text) : Divides text lexer.keyMark := by
  simp only [keyMark, noToken_bind]
  split
  · exact readsWithin_noToken
  · exact (closeCurrent_divides (by simpa using behind)).bind fun _ further =>
      Place.skip_suffix 1 further

theorem valueMark_divides (behind : lexer.place.rest <:+ text) : Divides text lexer.valueMark := by
  have next := Place.skip_suffix 1 behind
  simp only [valueMark, noToken_bind]
  split
  · simpa using next
  · split
    · exact readsWithin_noToken
    · simpa using next

theorem keyToken_divides {α : Type} {scan : Place → Except Fault (α × Place)}
    (token : α → Token) (scans : ∀ {place : Place}, place.rest <:+ text → Scans text (scan place))
    (behind : lexer.place.rest <:+ text) : Divides text (lexer.keyToken scan token) := by
  refine (propose_divides behind).bind fun proposed further => ?_
  exact (scans further).bind fun _ further => further

theorem blockScalar_divides (folded : Bool) (behind : lexer.place.rest <:+ text) :
    Divides text (lexer.blockScalar folded) := by
  refine (closeCurrent_divides behind).bind fun closed further => ?_
  exact (Place.block_scans folded _ further).bind fun _ further => further

theorem plainScalar_divides (behind : lexer.place.rest <:+ text) :
    Divides text lexer.plainScalar :=
  (propose_divides behind).bind fun _ further => plainFrom_suffix _ _ _ _ _ _ further

/-- Every kind of token keeps to the text that is left. -/
theorem token_divides (behind : lexer.place.rest <:+ text) : Divides text lexer.token := by
  unfold token
  split
  · exact finish_divides behind
  · refine .ite (directive_divides behind) ?_
    refine .ite (marker_divides _ behind) ?_
    refine .ite (openBracket_divides _ behind) ?_
    refine .ite (openBracket_divides _ behind) ?_
    refine .ite (closeBracket_divides _ behind) ?_
    refine .ite (closeBracket_divides _ behind) ?_
    refine .ite (flowEntry_divides behind) ?_
    refine .ite (blockEntry_divides behind) ?_
    refine .ite (keyMark_divides behind) ?_
    refine .ite (valueMark_divides behind) ?_
    refine .ite (keyToken_divides _ Place.anchorName_scans behind) ?_
    refine .ite (keyToken_divides _ Place.anchorName_scans behind) ?_
    refine .ite (keyToken_divides _ Place.tag_scans behind) ?_
    refine .ite (blockScalar_divides false behind) ?_
    refine .ite (blockScalar_divides true behind) ?_
    refine .ite (keyToken_divides _ (Place.quoted_scans false) behind) ?_
    refine .ite (keyToken_divides _ (Place.quoted_scans true) behind) ?_
    exact .ite (plainScalar_divides behind) readsWithin_noToken

theorem skipToToken_suffix (budget : Nat) (behind : lexer.place.rest <:+ text) :
    (skipToToken budget lexer).place.rest <:+ text := by
  induction budget generalizing lexer with
  | zero => exact behind
  | succ budget ih =>
      have finish := Place.skipComment_suffix (Place.skipSpaces_suffix behind)
      rw [skipToToken]
      split
      · next ends => exact ih (Place.lineBreak?_suffix ends finish)
      · exact finish

theorem skipByteOrderMark_suffix (behind : lexer.place.rest <:+ text) :
    lexer.skipByteOrderMark.place.rest <:+ text := by
  rw [skipByteOrderMark]
  split
  · exact Place.skip_suffix 1 behind
  · exact behind

theorem next_divides (behind : lexer.place.rest <:+ text) : Divides text lexer.next := by
  refine (closeStale_divides (skipToToken_suffix _ (skipByteOrderMark_suffix behind))).bind
    fun closed further => ?_
  refine (token_divides (by simpa using further)).bind fun after further => ?_
  split
  · exact further
  · exact closeStale_divides further

/-- The invariant of a run: what is left is an end of the text. -/
theorem fault_run (budget : Nat) (behind : lexer.place.rest <:+ text) {fault : Fault}
    (met : (run budget lexer).fault = some fault) :
    fault = .malformed .token ∨ HasStrayCode text fault := by
  induction budget generalizing lexer with
  | zero => cases met
  | succ budget ih =>
      have step := next_divides behind
      rw [run] at met
      split at met
      · next refused =>
          cases met
          rw [refused] at step
          exact step
      · next after advanced =>
          rw [advanced] at step
          split at met
          · cases met
          · exact ih step met

end Lexer

/-- The division of a text meets no fault but a malformed token or a stray code. -/
theorem Tokens.fault_ofText {fault : Fault} (met : (Tokens.ofText text).fault = some fault) :
    fault = .malformed .token ∨ HasStrayCode text fault :=
  Lexer.fault_run _ (List.suffix_refl text) met

end AsyncTypes.Yaml
