namespace Dataflow.Lineage

variable {α : Type}

def ancestors (parent : α → Option α) : Nat → α → List α
  | 0, node => [node]
  | bound + 1, node =>
      match parent node with
      | none => [node]
      | some above => node :: ancestors parent bound above

@[simp] theorem head?_ancestors (parent : α → Option α) (bound : Nat) (node : α) :
    (ancestors parent bound node).head? = some node := by
  cases bound with
  | zero => rfl
  | succ bound => cases h : parent node <;> simp [ancestors, h]

def descendants (children : α → List α) : Nat → α → List α
  | 0, node => [node]
  | bound + 1, node => node :: (children node).flatMap (descendants children bound)

@[simp] theorem head?_descendants (children : α → List α) (bound : Nat) (node : α) :
    (descendants children bound node).head? = some node := by
  cases bound <;> rfl

end Dataflow.Lineage
