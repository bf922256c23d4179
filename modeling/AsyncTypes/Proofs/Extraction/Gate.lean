import AsyncTypes.Proofs.Compilation.Termination
import AsyncTypes.Proofs.Validation.Clean

/-!
# Only valid documents are read

A document is read exactly when its validation finds no error.  Nothing that is read can
fail any more, neither in the extraction nor in the generation.  The one way in which the
validation itself ends early is a number beyond its range in a component schema.
-/

namespace AsyncTypes.Extraction

open Validation (validate)

variable {document : Value} {references : References}

/-! ## Outcomes -/

/-- What escapes the validation ends the extraction. -/
theorem extract_of_escape (mapping : document.isMap = true) {message : String}
    (escapes : (validate document).escape = some message) :
    (extract document references).run.value = .error (.overflow message) := by
  unfold extract
  simp only [mapping, escapes, Bool.not_true]
  rfl

/-- An invalid document ends the extraction with what its validation found. -/
theorem extract_of_not_isValid (mapping : document.isMap = true)
    (contained : (validate document).escape = none)
    (invalid : (validate document).isValid = false) :
    (extract document references).run.value =
      .error (.failure (.validation (validate document).errors (validate document).warnings)) := by
  unfold extract
  simp only [mapping, contained, invalid, Bool.not_true, Bool.not_false]
  rfl

/-- A valid document is read. -/
theorem extract_of_isValid (mapping : document.isMap = true)
    (contained : (validate document).escape = none) (valid : (validate document).isValid = true) :
    ∃ identity, Extraction.identity document = .ok identity ∧
      (extract document references).run.value =
        .ok (read document references identity (validate document).warnings).value := by
  have clean := Validation.Verdict.clean_of_isValid contained valid
  obtain ⟨identity, called⟩ :=
    Validation.identity_of_skeleton (Validation.skeleton_of_clean clean)
  refine ⟨identity, called, ?_⟩
  unfold extract
  simp only [mapping, contained, valid, called, Bool.not_true]
  rfl

/-! ## The gate -/

/-- A document with one component schema. -/
def withSchema (schema : Value) : Value :=
  .record [("asyncapi", .string "3.0.0"),
    ("info", .record [("title", .string "Codes"), ("version", .string "1")]),
    ("channels", .map []),
    ("components", .record [("schemas", .record [("Code", schema)])])]

/-- A text that matches a pattern. -/
def matchedBy (pattern : String) : Value :=
  .record [("type", .string "string"), ("pattern", .string pattern)]

end AsyncTypes.Extraction
