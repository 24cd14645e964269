import TopDown.Grammar.Nullable

namespace TopDown.Grammar

variable (g : Grammar)

/-- The non-terminals of a sequence up to the first symbol that is not nullable. -/
def leadingNonTerminals (nullable : Array Bool) : List Symbol → List Nat
  | .nonTerminal id :: rest =>
    id :: if isKnown nullable id then leadingNonTerminals nullable rest else []
  | _ => []

def leftCorners (nullable : Array Bool) (id : Nat) : List Nat :=
  ((g.alternativesOf id).flatMap (leadingNonTerminals nullable)).eraseDups

namespace LeftRecursion

inductive Mark where
  | fresh | active | done
  deriving DecidableEq, Repr

/-- The marks of the rules, and the cycles found so far, latest first. -/
structure Search where
  marks : Array Mark
  cycles : List (List Nat)
  deriving DecidableEq, Repr

namespace Search

def mark (search : Search) (id : Nat) : Mark :=
  search.marks.getD id .done

def setMark (search : Search) (id : Nat) (mark : Mark) : Search :=
  { search with marks := search.marks.setIfInBounds id mark }

def addCycle (search : Search) (path : List Nat) (id : Nat) : Search :=
  { search with cycles := (id :: (id :: path.takeWhile (· != id)).reverse) :: search.cycles }

end Search

/--
Follows the left corners of `id` in depth first order, where `path` leads from the root of the
search to `id`, latest first. The rules on a path differ, so their number bounds the depth.
-/
def visit (corners : Nat → List Nat) : Nat → Nat → List Nat → Search → Search
  | 0, _, _, search => search
  | depth + 1, id, path, search =>
    let path := id :: path
    let search := (corners id).foldl (fun search next ↦
      match search.mark next with
      | .fresh => visit corners depth next path search
      | .active => search.addCycle path next
      | .done => search) (search.setMark id .active)
    search.setMark id .done

end LeftRecursion

/-- The cycles that a depth first search along left corners closes, in the order of finding. -/
def leftRecursiveCycles : List (List Nat) :=
  let nullable := g.nullable
  let corners := Array.ofFn fun id : Fin g.rules.size ↦ g.leftCorners nullable id
  let search := g.nonTerminals.foldl (fun search id ↦
    match search.mark id with
    | .fresh => LeftRecursion.visit (corners.getD · []) g.rules.size id [] search
    | _ => search) (⟨Array.replicate g.rules.size .fresh, []⟩ : LeftRecursion.Search)
  search.cycles.reverse

end TopDown.Grammar
