import Compendium.Context

/-!
# Shared contexts

A context that is extended by nothing is shared with its parent, not copied.  Each half of a
`SharedContext` carries a mark, and two halves with one mark are the same object; a half gets a
mark of its own from a supply whenever something is added to it.
-/

namespace Compendium

/-- A context whose halves are marked. -/
structure SharedContext where
  context : Context
  patternsMark : Nat
  rulesMark : Nat

namespace SharedContext

/-- A context of its own, with the two marks that follow `supply`. -/
def fresh (supply : Nat) (context : Context) : SharedContext × Nat :=
  (⟨context, supply, supply + 1⟩, supply + 2)

/-- The context followed by a contribution, and the supply that is left.  A half to which
nothing is added keeps its mark. -/
def extended (s : SharedContext) (supply : Nat) (contribution : Context) :
    SharedContext × Nat :=
  (⟨s.context.extended contribution,
    if contribution.patterns.isEmpty then s.patternsMark else supply,
    if contribution.rules.isEmpty then s.rulesMark else supply + 1⟩, supply + 2)

/-- Whether both halves of two contexts are the same objects. -/
def sharesWith (s t : SharedContext) : Bool :=
  s.patternsMark = t.patternsMark && s.rulesMark = t.rulesMark

end SharedContext

end Compendium
