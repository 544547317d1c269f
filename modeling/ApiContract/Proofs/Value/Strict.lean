import ApiContract.Proofs.Value.ScalarText
import ApiContract.Proofs.Xml.Parse

/-!
What the writer of a scalar takes, its reader takes as well, but for a few values that the writer
alone is lenient with. They are excluded by name here, once for each of the two carried forms.
-/

namespace ApiContract

namespace Decimal

/-- A whole number is read as some float, the nearest. -/
theorem readFloat_int (n : Int) : ∃ x, readFloat (toString n) = some x := by
  have layout := toDigits_layout n.natAbs
  by_cases negative : n < 0
  · refine ⟨_, readFloat_pointed true layout ?_⟩
    rw [toList_toString_int, intChars, if_pos negative]
    rfl
  · refine ⟨_, readFloat_pointed false layout ?_⟩
    rw [toList_toString_int, intChars, if_neg negative]
    rfl

theorem isDigit_of_isBlank {c : Char} (blank : Text.isBlank c = true) : isDigit c = false := by
  by_contra digit
  have visible := Text.isBlank_of_graphic (graphic_of_isDigit (by simpa using digit))
  rw [blank] at visible
  cases visible

end Decimal

namespace Json

/-- Blanks spell no number. -/
theorem readNumber_blank {chars : List Char} (blanks : ∀ c ∈ chars, Text.isBlank c = true) :
    readNumber chars = none := by
  have nothing : chars.takeWhile Decimal.isDigit = [] := by
    cases chars with
    | nil => rfl
    | cons c rest => simp [Decimal.isDigit_of_isBlank (blanks c List.mem_cons_self)]
  rw [readNumber.eq_def]
  split
  next => exact absurd (blanks '-' List.mem_cons_self) (by decide)
  next => simp [readMagnitude, nothing]

/-- Blanks spell no document. -/
theorem valueOfText?_blank {text : String} (blank : Xml.isBlankText text = true) :
    valueOfText? text = none := by
  have blanks : ∀ c ∈ skipSpace text.toList, Text.isBlank c = true := fun c member =>
    List.all_eq_true.mp blank c ((List.dropWhile_sublist _).subset member)
  have nothing : ∀ room fuel, readNode room fuel text.toList = none := by
    intro room fuel
    cases fuel with
    | zero => rw [readNode]
    | succ fuel =>
        rw [readNode]
        generalize skipSpace text.toList = chars at blanks
        -- Each way to open a document but a number shows a character that is no blank.
        split
        next => exact absurd (blanks 'n' List.mem_cons_self) (by decide)
        next => exact absurd (blanks 't' List.mem_cons_self) (by decide)
        next => exact absurd (blanks 'f' List.mem_cons_self) (by decide)
        next => exact absurd (blanks '"' List.mem_cons_self) (by decide)
        next => exact absurd (blanks '[' List.mem_cons_self) (by decide)
        next => exact absurd (blanks '\x7b' List.mem_cons_self) (by decide)
        next => exact readNumber_blank blanks
  rw [valueOfText?, ofText?, nodeOfText?, nothing]
  rfl

end Json

namespace Scalar

open Decimal (Binary64)

/-- The text that a value is written as, for each kind of scalar. -/
inductive Spelled : ScalarKind → Value → String → Prop
  | raw {document : Json} : Spelled .any (.json document) document.compact
  | rawText {text : String} : Spelled .any (.string text) text
  | memberText {values : EnumValues} {raw : String} : Declared values raw →
      Spelled (.enumeration values) (.string raw) raw
  | memberInt {values : EnumValues} {n : Int64} : Declared values (toString n.toInt) →
      Spelled (.enumeration values) (.int n) (toString n.toInt)
  | bool {format : Option PrimitiveFormat} {flag : Bool} :
      Spelled (.primitive .boolean format) (.bool flag) (boolText flag)
  | bytes {format : Option PrimitiveFormat} {content : List UInt8} :
      Spelled (.primitive .bytes format) (.bytes content) (encodeBytes format content)
  | int {kind : PrimitiveKind} {format : Option PrimitiveFormat} {n : Int64} :
      (isWhole kind format || kind.isFloat) = true →
      Spelled (.primitive kind format) (.int n) (toString n.toInt)
  | float {kind : PrimitiveKind} {format : Option PrimitiveFormat} {x : Binary64} :
      kind.isFloat = true → Spelled (.primitive kind format) (.float x) x.plain
  | plain {kind : PrimitiveKind} {format : Option PrimitiveFormat} {text : String} :
      isPlainText kind = true → Spelled (.primitive kind format) (.string text) text
  | document {format : Option PrimitiveFormat} {document : Json} :
      Spelled (.primitive .any format) (.json document) document.compact

theorem spelled_of_primitive {kind : PrimitiveKind} {format : Option PrimitiveFormat} {value : Value}
    {text : String} (written : primitiveToText kind format value = .ok text) :
    Spelled (.primitive kind format) value text := by
  unfold primitiveToText primitiveToText.refuse at written
  split at written
  next =>
    split at written
    next same => subst same; cases written; exact .bool
    next => cases written
  next =>
    split at written
    next same => subst same; cases written; exact .bytes
    next => cases written
  next =>
    split at written
    next counts => cases written; exact .int counts
    next => cases written
  next =>
    split at written
    next isFloat => cases written; exact .float isFloat
    next => cases written
  next =>
    split at written
    next plain => cases written; exact .plain plain
    next => cases written
  next =>
    split at written
    next same => subst same; cases written; exact .document
    next => cases written
  next => cases written

theorem spelled_of_toText {kind : ScalarKind} {value : Value} {text : String}
    (written : toText kind value = .ok text) : Spelled kind value text := by
  cases kind with
  | primitive kind format => exact spelled_of_primitive written
  | enumeration values =>
      cases value with
      | string raw =>
          change checkMember values raw >>= (fun _ => pure raw) = .ok text at written
          obtain ⟨_, checked, same⟩ := bind_eq_ok written
          cases same
          exact .memberText (checkMember_eq_ok checked)
      | int n =>
          change checkMember values (toString n.toInt) >>= (fun _ => pure (toString n.toInt)) = .ok text
            at written
          obtain ⟨_, checked, same⟩ := bind_eq_ok written
          cases same
          exact .memberInt (checkMember_eq_ok checked)
      | _ => cases written
  | any =>
      cases value <;> cases written
      · exact .rawText
      · exact .raw

/-! JSON. -/

/-- What only the writer is lenient with: a text for seconds, and a text for a whole-number member
of a closed enum that is not declared as the number is written. -/
def StrictJson : ScalarKind → Value → Prop
  | .primitive .dateTime (some .unixTime), .string _ => False
  | .enumeration values, .string text => values.underlying.isInteger = true →
      ∀ n, readInt64 text = some n → Declared values (toString n.toInt)
  | _, _ => True

/-- The one kind whose plain text is a number is that of seconds. -/
theorem notWhole_of_plain {kind : PrimitiveKind} {format : Option PrimitiveFormat}
    (plain : isPlainText kind = true) (notSeconds : kind = .dateTime → format ≠ some .unixTime) :
    isWhole kind format = false := by
  cases kind <;> simp_all [isWhole, isPlainText, PrimitiveKind.isInteger]

theorem notSeconds_of_json {kind : PrimitiveKind} {format : Option PrimitiveFormat} {text : String}
    (strict : StrictJson (.primitive kind format) (.string text)) :
    kind = .dateTime → format ≠ some .unixTime := by
  rintro rfl rfl
  exact strict

/-- A member that is written is read, as a number where the enum counts. -/
theorem ofJson_member {values : EnumValues} {value : Value} {document : Json}
    (strict : StrictJson (.enumeration values) value)
    (written : toJson (.enumeration values) value = .ok document) :
    ∃ read, ofJson (.enumeration values) document = .ok read := by
  simp only [toJson] at written
  obtain ⟨raw, spelled, rest⟩ := bind_eq_ok written
  split at rest
  next whole =>
    split at rest
    next n number =>
      cases rest
      have declared : Declared values (toString n.toInt) := by
        cases spelled_of_toText spelled with
        | memberText _ => exact strict whole n number
        | memberInt declared =>
            rw [readInt64_toString] at number
            cases number
            exact declared
      exact ⟨.int n, ofText_memberInt whole declared⟩
    next => cases rest
  next notWhole =>
    cases rest
    have declared : Declared values raw := by
      cases spelled_of_toText spelled with
      | memberText declared => exact declared
      | memberInt declared => exact declared
    exact ⟨.string raw, ofText_memberText (by simpa using notWhole) declared⟩

/-- The document that a value is written as, for each kind of primitive. -/
inductive Carries : PrimitiveKind → Option PrimitiveFormat → Value → Json → Prop
  | bool {format : Option PrimitiveFormat} {flag : Bool} : Carries .boolean format (.bool flag) (.bool flag)
  | whole {kind : PrimitiveKind} {format : Option PrimitiveFormat} {n : Int64} :
      isWhole kind format = true → (kind = .int32 → FitsInt32 n) →
      Carries kind format (.int n) (.int n.toInt)
  | count {kind : PrimitiveKind} {format : Option PrimitiveFormat} {n : Int64} :
      kind.isFloat = true → Carries kind format (.int n) (.int n.toInt)
  | float {kind : PrimitiveKind} {format : Option PrimitiveFormat} {x : Binary64} :
      kind.isFloat = true → Carries kind format (.float x) (.float x)
  | raw {format : Option PrimitiveFormat} {document : Json} :
      Carries .any format (.json document) document
  | bytes {format : Option PrimitiveFormat} {content : List UInt8} :
      Carries .bytes format (.bytes content) (.string (encodeBytes format content))
  | plain {kind : PrimitiveKind} {format : Option PrimitiveFormat} {text : String} :
      isPlainText kind = true → Carries kind format (.string text) (.string text)

theorem carries_of_toJson {kind : PrimitiveKind} {format : Option PrimitiveFormat} {value : Value}
    {document : Json} (written : toJson (.primitive kind format) value = .ok document) :
    Carries kind format value document := by
  unfold toJson toJson.asText at written
  simp only at written
  split at written
  next flag =>
    split at written
    next same => subst same; cases written; exact .bool
    next other =>
      obtain ⟨text, spelled, same⟩ := map_eq_ok written
      cases spelled_of_toText spelled
      exact absurd rfl other
  next n =>
    split at written
    next whole =>
      obtain ⟨n', width, same⟩ := map_eq_ok written
      obtain ⟨equal, fits⟩ := checkWidth_eq_ok width
      subst same equal
      exact .whole whole fits
    next notWhole =>
      split at written
      next isFloat => cases written; exact .count isFloat
      next notFloat =>
        obtain ⟨text, spelled, same⟩ := map_eq_ok written
        cases spelled_of_toText spelled with
        | int counts => simp_all
  next x =>
    split at written
    next isFloat =>
      split at written
      next => cases written; exact .float isFloat
      next => cases written
    next notFloat =>
      obtain ⟨text, spelled, same⟩ := map_eq_ok written
      cases spelled_of_toText spelled with
      | float isFloat => exact absurd isFloat notFloat
  next raw =>
    split at written
    next same => subst same; cases written; exact .raw
    next other =>
      obtain ⟨text, spelled, same⟩ := map_eq_ok written
      cases spelled_of_toText spelled
      exact absurd rfl other
  -- All other values are carried as their texts, and only two kinds have those.
  next notFlag notInt notFloat notRaw =>
    obtain ⟨text, spelled, same⟩ := map_eq_ok written
    subst same
    cases spelled_of_toText spelled with
    | bytes => exact .bytes
    | plain plain => exact .plain plain
    | bool => exact absurd rfl (notFlag _)
    | int => exact absurd rfl (notInt _)
    | float => exact absurd rfl (notFloat _)
    | document => exact absurd rfl (notRaw _)

/-- What is written into a document is read from it. -/
theorem ofJson_of_toJson {kind : ScalarKind} {value : Value} {document : Json}
    (strict : StrictJson kind value) (written : toJson kind value = .ok document) :
    ∃ read, ofJson kind document = .ok read := by
  cases kind with
  | any => exact ⟨_, rfl⟩
  | enumeration values => exact ofJson_member strict written
  | primitive kind format =>
      cases carries_of_toJson written with
      | bool => exact ⟨_, rfl⟩
      | raw => exact ⟨_, rfl⟩
      | bytes => exact ⟨_, ofText_bytes format _⟩
      | @whole _ _ n whole fits =>
          refine ⟨.int n, ?_⟩
          cases kind <;>
            simp_all [ofJson, isWhole, PrimitiveKind.isInteger, int64?_toInt, checkWidth_fits, Except.map]
      | @count _ _ n isFloat =>
          refine ⟨.float (.ofInt n.toInt), ?_⟩
          cases kind <;> simp_all [ofJson, isWhole, PrimitiveKind.isInteger, PrimitiveKind.isFloat]
      | @float _ _ x isFloat =>
          refine ⟨.float x, ?_⟩
          cases kind <;> simp_all [ofJson, isWhole, PrimitiveKind.isInteger, PrimitiveKind.isFloat]
      | @plain _ _ text plain =>
          have notWhole := notWhole_of_plain plain (notSeconds_of_json strict)
          refine ⟨.string text, ?_⟩
          have read := ofText_plain plain notWhole text
          cases kind <;> simp_all [ofJson, isPlainText, PrimitiveKind.isFloat]

theorem declared_of_ofText {values : EnumValues} {text : String} {value : Value}
    (read : ofText (.enumeration values) text = .ok value) : Declared values text := by
  simp only [ofText] at read
  obtain ⟨_, checked, -⟩ := bind_eq_ok read
  exact checkMember_eq_ok checked

/-- Nothing is excluded but what the reader refuses. -/
theorem ofJson_toJson_iff {kind : ScalarKind} {value : Value} {document : Json}
    (written : toJson kind value = .ok document) :
    (∃ read, ofJson kind document = .ok read) ↔ StrictJson kind value := by
  refine ⟨fun ⟨read, accepted⟩ => ?_, fun strict => ofJson_of_toJson strict written⟩
  unfold StrictJson
  split
  next text =>
    cases carries_of_toJson written
    cases accepted
  next values text =>
    intro whole n number
    simp only [toJson, whole, if_true] at written
    obtain ⟨raw, spelled, rest⟩ := bind_eq_ok written
    cases spelled_of_toText spelled
    rw [number] at rest
    cases rest
    exact declared_of_ofText accepted
  next => trivial

/-- Null is written for itself only. -/
theorem raw_of_toJson {kind : ScalarKind} {value : Value} (written : toJson kind value = .ok .null) :
    value = .json .null := by
  cases kind with
  | any => cases value <;> cases written; rfl
  | primitive kind format => cases carries_of_toJson written; rfl
  | enumeration values =>
      simp only [toJson] at written
      obtain ⟨raw, -, rest⟩ := bind_eq_ok written
      split at rest
      next => split at rest <;> cases rest
      next => cases rest

/-! Text. -/

/-- What only the writer of texts is lenient with: a text for seconds or for a whole-number member
that spells no number, a number beyond its kind, and what the reader of JSON text does not follow. -/
def StrictText : ScalarKind → Value → Prop
  | .primitive .dateTime (some .unixTime), .string text => (readInt64 (Text.trim text)).isSome
  | .primitive .int32 _, .int n => FitsInt32 n
  | .enumeration values, .string text => values.underlying.isInteger = true →
      (readInt64 (Text.trim text)).isSome
  | .any, .string text => (Json.valueOfText? text).isSome
  | .any, .json document => Json.Carried Json.depthLimit document
  | .primitive .any _, .json document => Json.Carried Json.depthLimit document
  | _, _ => True

theorem ofText_strictPlain {kind : PrimitiveKind} {format : Option PrimitiveFormat} {text : String}
    (plain : isPlainText kind = true) (strict : StrictText (.primitive kind format) (.string text)) :
    ∃ read, ofText (.primitive kind format) text = .ok read := by
  by_cases seconds : kind = .dateTime ∧ format = some .unixTime
  · obtain ⟨rfl, rfl⟩ := seconds
    obtain ⟨n, number⟩ := Option.isSome_iff_exists.mp strict
    have width : checkWidth .dateTime n = .ok n := checkWidth_fits nofun
    refine ⟨.int n, ?_⟩
    rw [ofText_eq_whole rfl]
    simp only [ofText.whole, number, width]
    rfl
  · have notWhole := notWhole_of_plain plain fun same other => seconds ⟨same, other⟩
    exact ⟨_, ofText_plain plain notWhole text⟩

theorem ofText_strictMember {values : EnumValues} {text : String} (declared : Declared values text)
    (strict : StrictText (.enumeration values) (.string text)) :
    ∃ read, ofText (.enumeration values) text = .ok read := by
  cases whole : values.underlying.isInteger with
  | false => exact ⟨_, ofText_memberText whole declared⟩
  | true =>
      obtain ⟨n, number⟩ := Option.isSome_iff_exists.mp (strict whole)
      have width : checkWidth .int64 n = .ok n := checkWidth_fits nofun
      refine ⟨.int n, ?_⟩
      simp only [ofText, checkMember_declared declared, whole, ofText.whole, number, width]
      rfl

theorem ofText_number {kind : PrimitiveKind} (isFloat : kind.isFloat = true)
    (format : Option PrimitiveFormat) {text : String} {x : Binary64}
    (number : Decimal.readFloat (Text.trim text) = some x) :
    ofText (.primitive kind format) text = .ok (.float x) := by
  cases kind <;> simp_all [ofText, isWhole, PrimitiveKind.isInteger, PrimitiveKind.isFloat]

theorem ofText_float_any {kind : PrimitiveKind} (isFloat : kind.isFloat = true)
    (format : Option PrimitiveFormat) (x : Binary64) :
    ∃ read, ofText (.primitive kind format) x.plain = .ok read := by
  by_cases number : x = .nan
  · subst number
    have word : Decimal.readFloat (Text.trim Binary64.nan.plain) = some .nan := by decide
    exact ⟨_, ofText_number isFloat format word⟩
  · exact ⟨.float x, ofText_float isFloat format number⟩

/-- What is written as a text is read from it. -/
theorem ofText_of_toText {kind : ScalarKind} {value : Value} {text : String}
    (strict : StrictText kind value) (written : toText kind value = .ok text) :
    ∃ read, ofText kind text = .ok read := by
  cases spelled_of_toText written with
  | raw => exact ⟨_, documentOfText_compact strict⟩
  | rawText =>
      obtain ⟨document, spelled⟩ := Option.isSome_iff_exists.mp strict
      exact ⟨.json document, by rw [ofText, documentOfText, spelled]⟩
  | memberText declared => exact ofText_strictMember declared strict
  | @memberInt values n declared =>
      cases whole : values.underlying.isInteger with
      | false => exact ⟨_, ofText_memberText whole declared⟩
      | true => exact ⟨_, ofText_memberInt whole declared⟩
  | @bool _ flag => cases flag <;> exact ⟨_, rfl⟩
  | bytes => exact ⟨_, ofText_bytes _ _⟩
  | @int kind format n counts =>
      cases whole : isWhole kind format with
      | true =>
          refine ⟨.int n, ofText_whole whole ?_⟩
          rintro rfl
          exact strict
      | false =>
          -- A number that is not whole is a float, which the text of a whole number spells as well.
          obtain ⟨x, number⟩ := Decimal.readFloat_int n.toInt
          rw [← trim_toString] at number
          exact ⟨_, ofText_number (by simpa [whole] using counts) format number⟩
  | float isFloat => exact ofText_float_any isFloat _ _
  | plain plain => exact ofText_strictPlain plain strict
  | document => exact ⟨_, documentOfText_compact strict⟩

theorem number_of_whole {text : String} {kind : PrimitiveKind} {value : Value}
    (read : ofText.whole text kind = .ok value) :
    ∃ n, readInt64 (Text.trim text) = some n ∧ checkWidth kind n = .ok n := by
  rw [ofText.whole] at read
  split at read
  next n number =>
    obtain ⟨narrow, width, -⟩ := map_eq_ok read
    obtain ⟨rfl, -⟩ := checkWidth_eq_ok width
    exact ⟨narrow, number, width⟩
  next => cases read

/-- Raw documents apart, nothing is excluded but what the reader refuses. -/
theorem ofText_toText_iff {kind : ScalarKind} {value : Value} {text : String}
    (written : toText kind value = .ok text) (notRaw : ∀ raw, value ≠ .json raw) :
    (∃ read, ofText kind text = .ok read) ↔ StrictText kind value := by
  refine ⟨fun ⟨read, accepted⟩ => ?_, fun strict => ofText_of_toText strict written⟩
  unfold StrictText
  split
  next spelled =>
    cases spelled_of_toText written
    rw [ofText_eq_whole rfl] at accepted
    obtain ⟨n, number, -⟩ := number_of_whole accepted
    rw [number]
    rfl
  next format n =>
    cases spelled_of_toText written
    rw [ofText_eq_whole rfl] at accepted
    obtain ⟨m, number, width⟩ := number_of_whole accepted
    rw [trim_toString, readInt64_toString] at number
    cases number
    exact (checkWidth_eq_ok width).2 rfl
  next values spelled =>
    intro whole
    cases spelled_of_toText written
    simp only [ofText, whole, if_true] at accepted
    obtain ⟨_, -, counted⟩ := bind_eq_ok accepted
    obtain ⟨n, number, -⟩ := number_of_whole counted
    rw [number]
    rfl
  next spelled =>
    cases spelled_of_toText written
    simp only [ofText, documentOfText] at accepted
    split at accepted
    next document found =>
      rw [found]
      rfl
    next => cases accepted
  next => exact absurd rfl (notRaw _)
  next => exact absurd rfl (notRaw _)
  next => trivial

theorem not_blank_of_graphic {text : String} (graphic : ∀ c ∈ text.toList, Text.IsGraphic c)
    (some : text ≠ "") : Xml.isBlankText text = false := by
  cases chars : text.toList with
  | nil => exact absurd (String.toList_eq_nil_iff.mp chars) some
  | cons c rest =>
      have visible := Text.isBlank_of_graphic (graphic c (chars ▸ List.mem_cons_self))
      simp [Xml.isBlankText, chars, visible]

theorem trim_blank {text : String} (blank : Xml.isBlankText text = true) : Text.trim text = "" := by
  have gone : Text.trimStart text.toList = [] := by
    rw [Text.trimStart, List.dropWhile_eq_nil_iff]
    exact List.all_eq_true.mp blank
  rw [Text.trim, gone]
  rfl

/-- Where blank text is dropped, the empty text is read in its place; only an enum can refuse it. -/
theorem ofText_dropped {kind : ScalarKind} {value : Value} {text : String}
    (strict : StrictText kind value) (written : toText kind value = .ok text) (some : text ≠ "")
    (blank : Xml.isBlankText text = true)
    (declared : ∀ values, kind = .enumeration values → value = .string text → Declared values "") :
    ∃ read, ofText kind "" = .ok read := by
  -- A text that shows a character is not blank, so only texts that are taken as they are can be.
  have visible : (∀ c ∈ text.toList, Text.IsGraphic c) → False := fun graphic => by
    rw [not_blank_of_graphic graphic some] at blank
    cases blank
  have noDocument := Json.valueOfText?_blank blank
  cases spelled_of_toText written with
  | raw =>
      rw [Json.valueOfText?_compact strict] at noDocument
      cases noDocument
  | rawText =>
      rw [StrictText, noDocument] at strict
      cases strict
  | @memberText values _ _ =>
      cases whole : values.underlying.isInteger with
      | false => exact ⟨_, ofText_memberText whole (declared values rfl rfl)⟩
      | true =>
          have number := strict whole
          rw [trim_blank blank] at number
          cases number
  | @memberInt values n _ =>
      rw [Decimal.toList_toString_int] at visible
      exact (visible (Decimal.intChars_graphic _)).elim
  | @bool _ flag => cases flag <;> cases blank
  | bytes =>
      rw [encodeBytes, Text.Base64.encode, String.toList_ofList] at visible
      exact (visible (Text.Base64.encodeBytes_graphic _ _)).elim
  | int =>
      rw [Decimal.toList_toString_int] at visible
      exact (visible (Decimal.intChars_graphic _)).elim
  | float => exact (visible (Decimal.plain_graphic _)).elim
  | @plain kind format text plain =>
      refine ⟨_, ofText_plain plain (notWhole_of_plain plain ?_) ""⟩
      rintro rfl rfl
      rw [StrictText, trim_blank blank] at strict
      cases strict
  | document =>
      rw [Json.valueOfText?_compact strict] at noDocument
      cases noDocument

end Scalar

end ApiContract
