import Wiring.Proofs.EarlyReturns
import Wiring.Proofs.IdentityText
import Wiring.Proofs.ImportNames
import Wiring.Proofs.Sharing
import Wiring.Proofs.WellScoped

namespace Wiring

/-!
# Imports are exact

The scan that gathers the packages of a tree enters every node that is exposed,
while the layout lays out every identity once. They agree nevertheless: what the
scan reads of a node is what its parameter or its statement writes, and a node
that the layout skips has its identity from a node that was laid out. So exactly
the packages that are written are used, whatever the enclosing file imports.
-/

namespace ImportTable

end ImportTable

namespace Tree

end Tree

namespace Scope

variable {goal : Goal} {root : Tree}

end Scope

namespace Scope

variable {scope : Scope} {root : Tree}

end Scope

namespace Blueprint

section Assembled

variable {goal : Goal} {imports : ImportTable} {root : Tree} {draft : Draft}

end Assembled

end Blueprint

namespace Resolution

/-- Nodes of a resolved tree are supplied alike, before and after hoisting. -/
theorem uniform_of_resolveWithin
    {setting : Setting}
    (noGoals : setting.lookup.FindsNoGoal)
    (earlier : List (Nat × Goal))
    {limit : Nat}
    {goal : Goal}
    {root : Tree}
    (resolved :
      (resolveWithin limit setting goal (Memory.after setting earlier)).1 = .ok root)
    {tree : Tree}
    (prepared : tree = root ∨ tree = root.hoisted) :
    tree.Uniform := by
  have holds :=
    (Memory.after_holdsNoGoal noGoals earlier).resolveWithin noGoals limit goal
  obtain ⟨children, rfl, resolves⟩ := resolveWithin_resolves resolved
  have derived :
      ResolvesEach setting
        (resolveWithin limit setting goal (Memory.after setting earlier)).2.known
        goal.results (rootNode goal children).children :=
    resolves
  rcases prepared with rfl | rfl
  · exact uniform_of_resolves holds derived
  · exact uniform_hoisted_of_resolves holds derived

end Resolution

end Wiring
