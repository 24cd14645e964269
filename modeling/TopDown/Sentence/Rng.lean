namespace TopDown.Sentence

structure Rng where
  state : UInt64
  deriving DecidableEq, Repr

namespace Rng

def defaultState : UInt64 := 0x853c49e6748fea9b

/-- The state is never zero, which the shifts would not leave again. -/
def ofSeed (seed : Option UInt64) : Rng :=
  match seed with
  | none => ⟨defaultState⟩
  | some seed => if seed = 0 then ⟨defaultState⟩ else ⟨seed⟩

def advance (x : UInt64) : UInt64 :=
  let x := x ^^^ (x <<< 13)
  let x := x ^^^ (x >>> 7)
  x ^^^ (x <<< 17)

def next (rng : Rng) : UInt64 × Rng :=
  let state := advance rng.state
  (state, ⟨state⟩)

def below (rng : Rng) (bound : Nat) : Nat × Rng :=
  let (word, rng) := rng.next
  (word.toNat % bound, rng)

end Rng

end TopDown.Sentence
