import ApiContract.Proofs.Json.Text
import ApiContract.Proofs.Value.Scalar

/-!
Scalars as text. Text carries every float but the one that is no number, and the raw documents that
the reader of JSON text follows to their end.
-/

namespace ApiContract.Scalar

open Decimal (Binary64)

/-- The values that text carries. -/
def FitsText : ScalarKind → Value → Prop := Fits (Json.Carried Json.depthLimit) fun x => x ≠ .nan

theorem documentOfText_compact {document : Json} (carried : Json.Carried Json.depthLimit document) :
    documentOfText document.compact = .ok (.json document) := by
  rw [documentOfText, Json.valueOfText?_compact carried]

theorem ofText_eq_whole {kind : PrimitiveKind} {format : Option PrimitiveFormat}
    (whole : isWhole kind format = true) (text : String) :
    ofText (.primitive kind format) text = ofText.whole text kind := by
  cases kind <;> simp_all [ofText, isWhole, PrimitiveKind.isInteger]

theorem ofText_whole {kind : PrimitiveKind} {format : Option PrimitiveFormat} {n : Int64}
    (whole : isWhole kind format = true) (fits : kind = .int32 → FitsInt32 n) :
    ofText (.primitive kind format) (toString n.toInt) = .ok (.int n) := by
  rw [ofText_eq_whole whole]
  simp only [ofText.whole, trim_toString, readInt64_toString, checkWidth_fits fits]
  rfl

theorem ofText_float {kind : PrimitiveKind} (isFloat : kind.isFloat = true)
    (format : Option PrimitiveFormat) {x : Binary64} (number : x ≠ .nan) :
    ofText (.primitive kind format) x.plain = .ok (.float x) := by
  have trimmed : Text.trim x.plain = x.plain := Text.trim_of_graphic (Decimal.plain_graphic x)
  cases kind <;>
    simp_all [ofText, isWhole, PrimitiveKind.isInteger, PrimitiveKind.isFloat,
      Decimal.readFloat_plain]

/-- A value that text carries is written as a text that reads as the same value. -/
theorem ofText_toText {kind : ScalarKind} {value : Value} (fits : FitsText kind value) :
    ∃ text, toText kind value = .ok text ∧ ofText kind text = .ok value := by
  cases fits with
  | @any raw carried => exact ⟨raw.compact, rfl, documentOfText_compact carried⟩
  | @memberText values raw kind declared =>
      refine ⟨raw, ?_, ofText_memberText kind declared⟩
      simp only [toText, pure_bind, checkMember_declared declared]
      rfl
  | @memberInt values n kind declared =>
      refine ⟨toString n.toInt, ?_, ofText_memberInt kind declared⟩
      simp only [toText, pure_bind, checkMember_declared declared]
      rfl
  | @raw format raw carried => exact ⟨raw.compact, rfl, documentOfText_compact carried⟩
  | @bool format flag => cases flag <;> exact ⟨_, rfl, rfl⟩
  | @bytes format content => exact ⟨encodeBytes format content, rfl, ofText_bytes format content⟩
  | @whole kind format n whole narrow =>
      refine ⟨toString n.toInt, ?_, ofText_whole whole narrow⟩
      simp [toText, primitiveToText, whole]
  | @float kind format x isFloat number =>
      refine ⟨x.plain, ?_, ofText_float isFloat format number⟩
      simp [toText, primitiveToText, isFloat]
  | @text kind format text plain notWhole =>
      refine ⟨text, ?_, ofText_plain plain notWhole text⟩
      simp [toText, primitiveToText, plain]

end ApiContract.Scalar
