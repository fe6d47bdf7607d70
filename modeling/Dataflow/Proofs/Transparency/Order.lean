import Dataflow.Proofs.Replay.Position
import Dataflow.Proofs.Transparency.Reference

namespace Dataflow

theorem Context.Laid.systemOrdered {c₀ c : Context} {s : System} (h : Laid c₀ s.declarations c)
    (fresh : c₀.IsFresh) : s.Ordered c.graph := by
  intro i j e e' found found' reached
  obtain ⟨m, d, foundEnd, -, same, later⟩ :=
    h.reached_position (d := .entry i e) fresh (System.entry_position found) rfl reached
  have ticket : _ = (System.Declaration.entry j e').ticket := same
  obtain rfl := h.position_unique foundEnd (System.entry_position found') ticket
  exact Nat.le_of_add_le_add_left later

end Dataflow
