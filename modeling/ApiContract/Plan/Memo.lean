import ApiContract.Failure
import ApiContract.Plan.Basic
import ApiContract.Types.Basic

/-!
Computations that remember. Resolved types and wire plans are kept in two tables for one run. A
computation asks the tables one question at a time: it looks an entry up, or it keeps an entry
unless the key has one already. Written as a tree of such questions, a computation can be run on
its own, or step by step between the steps of others.
-/

namespace ApiContract

structure TypeKey where
  schema : SchemaId
  nullable : Bool
  deriving DecidableEq, Repr

structure PlanKey where
  schema : SchemaId
  format : WireFormat
  deriving DecidableEq, Repr

/-- The tables of one run. -/
structure Memo where
  types : List (TypeKey × TypeUse) := []
  plans : List (PlanKey × WirePlan) := []
  deriving DecidableEq, Inhabited

namespace Memo

def type? (memo : Memo) (key : TypeKey) : Option TypeUse := memo.types.lookup key

def plan? (memo : Memo) (key : PlanKey) : Option WirePlan := memo.plans.lookup key

/-- Keeps an entry unless the key has one; gives the entry that the table holds afterwards. -/
def keepType (memo : Memo) (key : TypeKey) (value : TypeUse) : TypeUse × Memo :=
  match memo.type? key with
  | some kept => (kept, memo)
  | none => (value, { memo with types := (key, value) :: memo.types })

def keepPlan (memo : Memo) (key : PlanKey) (value : WirePlan) : WirePlan × Memo :=
  match memo.plan? key with
  | some kept => (kept, memo)
  | none => (value, { memo with plans := (key, value) :: memo.plans })

end Memo

/-- A computation over the tables, with its result at the leaves. -/
inductive Planning (ε α : Type) where
  | done (result : Except ε α)
  | findType (key : TypeKey) (next : Option TypeUse → Planning ε α)
  | keepType (key : TypeKey) (value : TypeUse) (next : TypeUse → Planning ε α)
  | findPlan (key : PlanKey) (next : Option WirePlan → Planning ε α)
  | keepPlan (key : PlanKey) (value : WirePlan) (next : WirePlan → Planning ε α)

namespace Planning

protected def bind : Planning ε α → (α → Planning ε β) → Planning ε β
  | done (.ok a), f => f a
  | done (.error e), _ => done (.error e)
  | findType key next, f => findType key fun found => (next found).bind f
  | keepType key value next, f => keepType key value fun kept => (next kept).bind f
  | findPlan key next, f => findPlan key fun found => (next found).bind f
  | keepPlan key value next, f => keepPlan key value fun kept => (next kept).bind f

instance : Monad (Planning ε) where
  pure a := done (.ok a)
  bind := Planning.bind

/-- The same computation with its errors mapped. -/
def mapError (f : ε → ε') : Planning ε α → Planning ε' α
  | done (.ok a) => done (.ok a)
  | done (.error e) => done (.error (f e))
  | findType key next => findType key fun found => (next found).mapError f
  | keepType key value next => keepType key value fun kept => (next kept).mapError f
  | findPlan key next => findPlan key fun found => (next found).mapError f
  | keepPlan key value next => keepPlan key value fun kept => (next kept).mapError f

/-- The same computation with its result, good or bad, as the value. -/
def attempt : Planning ε α → Planning ε' (Except ε α)
  | done result => done (.ok result)
  | findType key next => findType key fun found => (next found).attempt
  | keepType key value next => keepType key value fun kept => (next kept).attempt
  | findPlan key next => findPlan key fun found => (next found).attempt
  | keepPlan key value next => keepPlan key value fun kept => (next kept).attempt

def fail (e : ε) : Planning ε α := done (.error e)

/-- A computation that asks nothing. -/
def lift (result : Except ε α) : Planning ε α := done result

instance : MonadLift (Except ε) (Planning ε) where
  monadLift := lift

/-- Runs a computation to its end with no other in between. -/
def run : Planning ε α → Memo → Except ε α × Memo
  | done result, memo => (result, memo)
  | findType key next, memo => (next (memo.type? key)).run memo
  | keepType key value next, memo =>
      let (kept, memo) := memo.keepType key value
      (next kept).run memo
  | findPlan key next, memo => (next (memo.plan? key)).run memo
  | keepPlan key value next, memo =>
      let (kept, memo) := memo.keepPlan key value
      (next kept).run memo

/-- Asks the tables one question; a finished computation stays as it is. -/
def step : Planning ε α → Memo → Planning ε α × Memo
  | done result, memo => (done result, memo)
  | findType key next, memo => (next (memo.type? key), memo)
  | keepType key value next, memo =>
      let (kept, memo) := memo.keepType key value
      (next kept, memo)
  | findPlan key next, memo => (next (memo.plan? key), memo)
  | keepPlan key value next, memo =>
      let (kept, memo) := memo.keepPlan key value
      (next kept, memo)

end Planning

end ApiContract
