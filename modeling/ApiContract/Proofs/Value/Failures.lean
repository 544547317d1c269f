import ApiContract.Proofs.Results
import ApiContract.Value.Scalar

/-!
The ways in which a computation can fail. A scalar fails because of the value or the document it is
given; the one text that has a form of its own is raw JSON.
-/

namespace ApiContract

section FailsOnly
variable {ε α β : Type} {ways more : ε → Prop}

/-- A result that, if it is an error, is one of the given ones. -/
def FailsOnly (ways : ε → Prop) : Except ε α → Prop
  | .ok _ => True
  | .error e => ways e

theorem FailsOnly.of_error {r : Except ε α} {e : ε} (only : FailsOnly ways r)
    (failed : r = .error e) : ways e := by
  rw [failed] at only
  exact only

theorem FailsOnly.weaken {r : Except ε α} (only : FailsOnly ways r) (wider : ∀ e, ways e → more e) :
    FailsOnly more r := by
  cases r with
  | ok a => trivial
  | error e => exact wider e only

theorem FailsOnly.bind {r : Except ε α} {f : α → Except ε β} (first : FailsOnly ways r)
    (next : ∀ a, r = .ok a → FailsOnly ways (f a)) : FailsOnly ways (r >>= f) := by
  cases r with
  | ok a => exact next a rfl
  | error e => exact first

theorem FailsOnly.map {r : Except ε α} (only : FailsOnly ways r) (f : α → β) :
    FailsOnly ways (r.map f) := by
  cases r with
  | ok a => trivial
  | error e => exact only

theorem failsOnly_mapM {f : α → Except ε β} (items : List α)
    (each : ∀ item ∈ items, FailsOnly ways (f item)) : FailsOnly ways (items.mapM f) := by
  induction items with
  | nil => trivial
  | cons item rest ih =>
      rw [List.mapM_cons]
      apply (each item List.mem_cons_self).bind
      intro first _
      apply (ih fun other member => each other (List.mem_cons_of_mem _ member)).bind
      intro others _
      trivial

end FailsOnly

namespace ValueError

/-- The failure lies in what is written or read, not in its plan and not in the form of a text. -/
def OfValue : ValueError → Prop
  | json _ | xml _ | model _ => False
  | _ => True

/-- As before, and nothing was cut off. -/
def OfContent : ValueError → Prop
  | json _ | xml _ | model _ | endless => False
  | _ => True

theorem OfContent.ofValue {e : ValueError} (ofContent : e.OfContent) : e.OfValue := by
  cases e <;> trivial

/-- The failure lies in the value or document, or a text is no JSON. -/
def OfText (e : ValueError) : Prop := e.OfValue ∨ e = .json malformed

end ValueError

theorem FailsOnly.ofValue {α : Type} {r : Except ValueError α} (only : FailsOnly ValueError.OfContent r) :
    FailsOnly ValueError.OfValue r :=
  only.weaken fun _ => ValueError.OfContent.ofValue

namespace Scalar

theorem checkMember_failsOnly (values : EnumValues) (raw : String) :
    FailsOnly ValueError.OfContent (checkMember values raw) := by
  rw [checkMember]
  split <;> trivial

theorem checkWidth_failsOnly (kind : PrimitiveKind) (n : Int64) :
    FailsOnly ValueError.OfContent (checkWidth kind n) := by
  rw [checkWidth]
  split <;> trivial

theorem decodeBytes_failsOnly (format : Option PrimitiveFormat) (text : String) :
    FailsOnly ValueError.OfContent (decodeBytes format text) := by
  rw [decodeBytes]
  split <;> trivial

theorem whole_failsOnly (text : String) (kind : PrimitiveKind) :
    FailsOnly ValueError.OfContent (ofText.whole text kind) := by
  rw [ofText.whole]
  split
  next => exact (checkWidth_failsOnly kind _).map _
  next => trivial

/-- Kinds that are carried as raw JSON. -/
def IsRaw : ScalarKind → Prop
  | .any | .primitive .any _ => True
  | _ => False

theorem ofText_failsOnly_of_not_raw {kind : ScalarKind} (other : ¬IsRaw kind) (text : String) :
    FailsOnly ValueError.OfContent (ofText kind text) := by
  rw [ofText.eq_def]
  split
  next values =>
    apply (checkMember_failsOnly values text).bind
    intro _ _
    split
    next => simp only [whole_failsOnly]
    next => trivial
  next => exact absurd trivial other
  next =>
    dsimp only
    split
    next => trivial
    next => split <;> trivial
  next format => exact (decodeBytes_failsOnly format _).map _
  next => exact absurd trivial other
  next kind format _ _ _ =>
    split
    next => simp only [whole_failsOnly]
    next =>
      split
      next => split <;> trivial
      next => trivial

/-- A JSON value of raw JSON stands for itself, so no text is parsed. -/
theorem ofJson_failsOnly (kind : ScalarKind) (document : Json) :
    FailsOnly ValueError.OfContent (ofJson kind document) := by
  rw [ofJson.eq_def]
  dsimp only
  split
  next => trivial
  next values =>
    have member := @ofText_failsOnly_of_not_raw (.enumeration values) id
    split
    next text => exact member text
    next n => exact member _
    next x => exact member _
    next => trivial
  next => split <;> trivial
  next => trivial
  next kind format _ notRaw =>
    have other : ¬IsRaw (.primitive kind format) := by
      intro raw
      cases kind with
      | any => exact notRaw rfl
      | _ => exact raw
    split
    next =>
      split
      next =>
        split
        next => exact (checkWidth_failsOnly kind _).map _
        next => trivial
      next => trivial
    next =>
      split
      next => split <;> trivial
      next =>
        split
        next text => exact ofText_failsOnly_of_not_raw other text
        next => trivial

end Scalar

end ApiContract
