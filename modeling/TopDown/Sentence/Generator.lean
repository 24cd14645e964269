import TopDown.Sentence.Height
import TopDown.Sentence.Rng

namespace TopDown.Sentence

/-- Tokens that are tried for a pattern without tokens of its own. -/
def fallbackSamples : List String :=
  ["a", "x", "id", "abc", "a1", "a_b", "A", "Word", "0", "1", "42", "0.5", "3.14", "_"]

def defaultMaxDepth : Nat := 8

structure Generator where
  grammar : Grammar
  /-- From this depth on only alternatives of the least height are chosen. -/
  maxDepth : Nat := defaultMaxDepth
  seed : Option UInt64 := none
  heights : Array (Option Nat) := grammar.heights
  samples : List (Nat × String) := []

namespace Generator

variable (gen : Generator)

def withSample (terminal token : String) : Generator :=
  match gen.grammar.symbol? terminal with
  | some (.terminal id) => { gen with samples := gen.samples ++ [(id, token)] }
  | _ => gen

def candidates (alternatives : List (List Symbol)) (depth : Nat) : List Nat :=
  let heights := alternatives.map (Grammar.alternativeHeight? gen.heights)
  let indexed := heights.zipIdx
  if gen.maxDepth ≤ depth then
    match (heights.filterMap id).min? with
    | none => []
    | some least => (indexed.filter fun h ↦ h.1 == some least).map (·.2)
  else (indexed.filter fun h ↦ h.1.isSome).map (·.2)

def sample (id : Nat) (rng : Rng) : Option String × Rng :=
  match gen.samples.filterMap fun s ↦ if s.1 = id then some s.2 else none with
  | [] =>
    match gen.grammar.terminals[id]? with
    | some (.literal text) => (some text, rng)
    | some (.pattern p) => (fallbackSamples.find? p.accepts, rng)
    | none => (none, rng)
  | samples =>
    let (i, rng) := rng.below samples.length
    (samples[i]?, rng)

/-- Applies `f` to the symbols from left to right until it fails, and joins the tokens. -/
def expandAll (f : Symbol → Rng → Option (List String) × Rng) :
    List Symbol → Rng → Option (List String) × Rng
  | [], rng => (some [], rng)
  | symbol :: symbols, rng =>
    match f symbol rng with
    | (none, rng) => (none, rng)
    | (some tokens, rng) =>
      match expandAll f symbols rng with
      | (none, rng) => (none, rng)
      | (some more, rng) => (some (tokens ++ more), rng)

/-- A sentence of the non-terminal `id`; `fuel` bounds the levels of its derivation tree. -/
def expand : Nat → Nat → Nat → Rng → Option (List String) × Rng
  | 0, _, _, rng => (none, rng)
  | fuel + 1, depth, id, rng =>
    let alternatives := gen.grammar.alternativesOf id
    match gen.candidates alternatives depth with
    | [] => (none, rng)
    | candidates =>
      let (i, rng) := rng.below candidates.length
      let chosen := alternatives.getD (candidates.getD i 0) []
      expandAll (fun symbol rng ↦
        match symbol with
        | .nonTerminal inner => expand fuel (depth + 1) inner rng
        | .terminal terminal =>
          let (token, rng) := gen.sample terminal rng
          (token.map ([·]), rng)
        | .endMarker => (some [], rng)) chosen rng

/-- Below `maxDepth` a tree goes down at most as many levels as there are rules. -/
def fuel : Nat :=
  gen.maxDepth + gen.grammar.rules.size + 1

def sentence (rng : Rng) : Option (List String) × Rng :=
  gen.expand gen.fuel 0 gen.grammar.entryPoint rng

def generate : Option (List String) :=
  (gen.sentence (.ofSeed gen.seed)).1

def sentences : Nat → Rng → List (List String)
  | 0, _ => []
  | n + 1, rng =>
    let (tokens, rng) := gen.sentence rng
    tokens.toList ++ sentences n rng

def generateMany (n : Nat) : List (List String) :=
  gen.sentences n (.ofSeed gen.seed)

end Generator

end TopDown.Sentence
