import ApiContract.Proofs.Decimal.Digits
import ApiContract.Proofs.Results
import ApiContract.Proofs.Text.Base64
import ApiContract.Value.Scalar

/-!
Scalars that are read back as they were written. A kind fixes the shape of its values: a whole
number, a float, bytes, a text, a member of an enum or a raw document. `Fits` names the values of
that shape; JSON asks for more of a float than text does.
-/

namespace ApiContract.Scalar

open Decimal (Binary64)

/-- The enum takes the raw text. -/
def Declared (values : EnumValues) (raw : String) : Prop :=
  values.extensible = true ∨ raw ∈ values.values

instance (values : EnumValues) (raw : String) : Decidable (Declared values raw) :=
  inferInstanceAs (Decidable (_ ∨ _))

def FitsInt32 (n : Int64) : Prop := -0x80000000 ≤ n.toInt ∧ n.toInt ≤ 0x7FFFFFFF

/-- The values of a kind, given the raw documents and the floats that its carrier takes. -/
inductive Fits (document : Json → Prop) (float : Binary64 → Prop) : ScalarKind → Value → Prop
  | any {raw : Json} : document raw → Fits document float .any (.json raw)
  | memberText {values : EnumValues} {raw : String} : values.underlying.isInteger = false →
      Declared values raw → Fits document float (.enumeration values) (.string raw)
  | memberInt {values : EnumValues} {n : Int64} : values.underlying.isInteger = true →
      Declared values (toString n.toInt) → Fits document float (.enumeration values) (.int n)
  | raw {format : Option PrimitiveFormat} {raw : Json} : document raw →
      Fits document float (.primitive .any format) (.json raw)
  | bool {format : Option PrimitiveFormat} {flag : Bool} :
      Fits document float (.primitive .boolean format) (.bool flag)
  | bytes {format : Option PrimitiveFormat} {content : List UInt8} :
      Fits document float (.primitive .bytes format) (.bytes content)
  | whole {kind : PrimitiveKind} {format : Option PrimitiveFormat} {n : Int64} :
      isWhole kind format = true → (kind = .int32 → FitsInt32 n) →
      Fits document float (.primitive kind format) (.int n)
  | float {kind : PrimitiveKind} {format : Option PrimitiveFormat} {x : Binary64} :
      kind.isFloat = true → float x → Fits document float (.primitive kind format) (.float x)
  | text {kind : PrimitiveKind} {format : Option PrimitiveFormat} {text : String} :
      isPlainText kind = true → isWhole kind format = false →
      Fits document float (.primitive kind format) (.string text)

/-- The values that JSON carries: any raw document, and finite floats. -/
def FitsJson : ScalarKind → Value → Prop := Fits (fun _ => True) fun x => x.isFinite = true

theorem checkMember_declared {values : EnumValues} {raw : String} (declared : Declared values raw) :
    checkMember values raw = .ok () := by
  rcases declared with extensible | member
  · simp [checkMember, extensible]
  · simp [checkMember, member]

theorem checkWidth_fits {kind : PrimitiveKind} {n : Int64} (fits : kind = .int32 → FitsInt32 n) :
    checkWidth kind n = .ok n := by
  rw [checkWidth, if_neg]
  rintro ⟨narrow, outside⟩
  exact outside (fits narrow)

theorem int64?_toInt (n : Int64) : int64? n.toInt = some n := by
  have low := n.minValue_le_toInt
  have high := n.toInt_le
  rw [int64?, if_pos, Int64.ofInt_toInt]
  constructor
  · simpa [Int64.minValue] using low
  · simpa [Int64.maxValue] using high

theorem int64?_eq_some {n : Int} {narrow : Int64} (read : int64? n = some narrow) :
    narrow.toInt = n := by
  rw [int64?] at read
  split at read
  next range =>
    cases read
    rw [Int64.toInt_ofInt_of_le] <;> omega
  next => cases read

theorem checkWidth_eq_ok {kind : PrimitiveKind} {n narrow : Int64}
    (checked : checkWidth kind n = .ok narrow) : narrow = n ∧ (kind = .int32 → FitsInt32 n) := by
  rw [checkWidth] at checked
  split at checked
  next => cases checked
  next inside =>
    cases checked
    refine ⟨rfl, fun isNarrow => ?_⟩
    by_contra outside
    exact inside ⟨isNarrow, outside⟩

theorem checkMember_eq_ok {values : EnumValues} {raw : String}
    (checked : checkMember values raw = .ok ()) : Declared values raw := by
  rw [checkMember] at checked
  split at checked
  next holds => simpa [Declared] using holds
  next => cases checked

theorem readInt64_toString (n : Int64) : readInt64 (toString n.toInt) = some n := by
  rw [readInt64, Decimal.readInt_toString, Option.bind_some, int64?_toInt]

theorem trim_toString (n : Int) : Text.trim (toString n) = toString n := by
  apply Text.trim_of_graphic
  rw [Decimal.toList_toString_int]
  exact Decimal.intChars_graphic n

theorem trimPadding_urlSafe (bytes : List UInt8) :
    trimPadding (Text.Base64.encode .urlSafe bytes) = Text.Base64.encode .urlSafe bytes := by
  have bare := Text.Base64.encodeBytes_urlSafe_ne bytes
  rw [trimPadding, Text.Base64.encode, String.toList_ofList]
  cases reversed : (Text.Base64.encodeBytes .urlSafe bytes).reverse with
  | nil => simp_all
  | cons c rest =>
      have member : c ∈ Text.Base64.encodeBytes .urlSafe bytes := by
        rw [← List.mem_reverse, reversed]
        exact List.mem_cons_self
      have kept : (c == '=') = false := beq_false_of_ne (bare c member)
      rw [List.dropWhile_cons, kept, if_neg (by simp), ← reversed, List.reverse_reverse]

theorem decodeBytes_encodeBytes (format : Option PrimitiveFormat) (bytes : List UInt8) :
    decodeBytes format (Text.trim (encodeBytes format bytes)) = .ok bytes := by
  have trimmed : Text.trim (encodeBytes format bytes) = encodeBytes format bytes := by
    apply Text.trim_of_graphic
    rw [encodeBytes, Text.Base64.encode, String.toList_ofList]
    exact Text.Base64.encodeBytes_graphic _ bytes
  rw [trimmed, decodeBytes, encodeBytes]
  cases alphabet : base64 format with
  | standard => simp [Text.Base64.decode?_encode]
  | urlSafe => simp [trimPadding_urlSafe, Text.Base64.decode?_encode]

/-! Reading the text of a member, of bytes and of plain text. -/

theorem ofText_memberText {values : EnumValues} {raw : String}
    (kind : values.underlying.isInteger = false) (declared : Declared values raw) :
    ofText (.enumeration values) raw = .ok (.string raw) := by
  simp only [ofText, checkMember_declared declared, kind]
  rfl

theorem ofText_memberInt {values : EnumValues} {n : Int64}
    (kind : values.underlying.isInteger = true) (declared : Declared values (toString n.toInt)) :
    ofText (.enumeration values) (toString n.toInt) = .ok (.int n) := by
  simp only [ofText, checkMember_declared declared, kind, ofText.whole, trim_toString,
    readInt64_toString]
  rfl

theorem ofText_bytes (format : Option PrimitiveFormat) (bytes : List UInt8) :
    ofText (.primitive .bytes format) (encodeBytes format bytes) = .ok (.bytes bytes) := by
  simp [ofText, decodeBytes_encodeBytes, Except.map]

theorem ofText_plain {kind : PrimitiveKind} {format : Option PrimitiveFormat}
    (plain : isPlainText kind = true) (notWhole : isWhole kind format = false) (text : String) :
    ofText (.primitive kind format) text = .ok (.string text) := by
  cases kind <;> simp_all [ofText, isPlainText, PrimitiveKind.isFloat]

/-- A value of the shape of its kind is written as a document that reads as the same value. The
document is null only for the raw document null. -/
theorem ofJson_toJson {kind : ScalarKind} {value : Value} (fits : FitsJson kind value) :
    ∃ document, toJson kind value = .ok document ∧ ofJson kind document = .ok value ∧
      (document = .null → value = .json .null) := by
  cases fits with
  | @any raw _ => exact ⟨raw, rfl, rfl, fun null => by rw [null]⟩
  | @memberText values raw kind declared =>
      refine ⟨.string raw, ?_, ofText_memberText kind declared, fun null => by cases null⟩
      simp only [toJson, toText, pure_bind, checkMember_declared declared, kind]
      rfl
  | @memberInt values n kind declared =>
      refine ⟨.int n.toInt, ?_, ofText_memberInt kind declared, fun null => by cases null⟩
      simp only [toJson, toText, pure_bind, checkMember_declared declared, kind, ok_bind,
        reduceIte, readInt64_toString]
      rfl
  | @raw format raw _ => exact ⟨raw, rfl, rfl, fun null => by rw [null]⟩
  | @bool format flag => exact ⟨.bool flag, rfl, rfl, fun null => by cases null⟩
  | @bytes format content =>
      exact ⟨.string (encodeBytes format content), rfl, ofText_bytes format content,
        fun null => by cases null⟩
  | @whole kind format n whole narrow =>
      refine ⟨.int n.toInt, ?_, ?_, fun null => by cases null⟩
      · simp [toJson, whole, checkWidth_fits narrow, Except.map]
      · cases kind <;>
          simp_all [ofJson, isWhole, PrimitiveKind.isInteger, int64?_toInt, checkWidth_fits,
            Except.map]
  | @float kind format x isFloat finite =>
      refine ⟨.float x, by simp [toJson, isFloat, finite], ?_, fun null => by cases null⟩
      cases kind <;> simp_all [ofJson, isWhole, PrimitiveKind.isInteger, PrimitiveKind.isFloat]
  | @text kind format text plain notWhole =>
      refine ⟨.string text, ?_, ?_, fun null => by cases null⟩
      · simp [toJson, toJson.asText, toText, primitiveToText, plain, Except.map]
      · have read := ofText_plain plain notWhole text
        cases kind <;> simp_all [ofJson, isPlainText, PrimitiveKind.isFloat]

end ApiContract.Scalar
