import ApiContract.Code.Grammar.Statement
import ApiContract.Code.Tree.Reader

/-!
Types of the generated language as texts. A framework schema names its type by such a text; its code
is written as the grammar of types has it, and other texts are refused.
-/

namespace ApiContract

/-- The rules of the grammar, which go down at most so many levels. -/
def Grammar.rules : Nat → Rules
  | 0 => .none
  | depth + 1 =>
      let inner := rules depth
      { type := Grammar.type inner
        bound := Grammar.bound inner
        expression := Grammar.expression inner
        operand := Grammar.operand inner
        following := fun structures lowest left => do
          Grammar.following inner structures lowest ((← Rule.ahead).length + 1) left
        statementExpression := Grammar.statementExpression inner
        pattern := Grammar.pattern inner
        statements := do Grammar.statements inner ((← Rule.ahead).length + 1)
        item := Grammar.item inner
        fields := Grammar.namedFields inner
        imported := Grammar.imported inner }

namespace TypePath

/-- The code of a type, if the text spells one. Between two characters of the text the grammar goes
down by few levels. -/
def ofText? (text : String) : Option Code := do
  let trees ← Tree.ofText? text
  let rules := Grammar.rules (8 * (text.length + 1))
  let (_, reading) ← (rules.type true).run ⟨trees, [], false⟩
  if reading.ahead.isEmpty then some reading.written.reverse else none

end TypePath

end ApiContract
