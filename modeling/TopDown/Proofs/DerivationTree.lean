import TopDown.Proofs.Derivation

namespace TopDown

open TopDown.Symbol (terminalsOf terminalsOf_append terminalsOf_cons_nonTerminal)

/-- A row of derivation trees, one for each symbol of a sequence, with tokens at the leaves. -/
inductive Forest
  | nil
  | leaf (terminal : Nat) (token : String) (others : Forest)
  | node (id : Nat) (children others : Forest)

namespace Forest

def roots : Forest → List Symbol
  | nil => []
  | leaf terminal _ others => .terminal terminal :: others.roots
  | node id _ others => .nonTerminal id :: others.roots

def terminals : Forest → List Nat
  | nil => []
  | leaf terminal _ others => terminal :: others.terminals
  | node _ children others => children.terminals ++ others.terminals

def tokens : Forest → List String
  | nil => []
  | leaf _ token others => token :: others.tokens
  | node _ children others => children.tokens ++ others.tokens

def height : Forest → Nat
  | nil => 0
  | leaf _ _ others => others.height
  | node _ children others => max (children.height + 1) others.height

def Follows (g : Grammar) : Forest → Prop
  | nil => True
  | leaf _ _ others => others.Follows g
  | node id children others =>
    children.roots ∈ g.alternativesOf id ∧ children.Follows g ∧ others.Follows g

variable {g : Grammar} {f : Forest} {xs ys : List Symbol} {m : List Symbol} {k : List Nat}

theorem Follows.divide (h : f.Follows g) (hr : f.roots = xs ++ ys) :
    ∃ f₁ f₂ : Forest, f₁.Follows g ∧ f₁.roots = xs ∧ f₂.Follows g ∧ f₂.roots = ys ∧
      f.terminals = f₁.terminals ++ f₂.terminals := by
  induction f generalizing xs with
  | nil =>
    obtain ⟨rfl, rfl⟩ := List.append_eq_nil_iff.mp hr.symm
    exact ⟨nil, nil, h, rfl, h, rfl, rfl⟩
  | leaf terminal token others ih =>
    cases xs with
    | nil => exact ⟨nil, leaf terminal token others, trivial, rfl, h, hr, rfl⟩
    | cons x xs =>
      obtain ⟨rfl, hrest⟩ := List.cons.inj hr
      obtain ⟨f₁, f₂, h₁, rfl, h₂, hr₂, ht⟩ := ih h hrest
      refine ⟨leaf terminal token f₁, f₂, h₁, rfl, h₂, hr₂, ?_⟩
      rw [terminals, terminals, ht, List.cons_append]
  | node id children others _ ih =>
    cases xs with
    | nil => exact ⟨nil, node id children others, trivial, rfl, h, hr, rfl⟩
    | cons x xs =>
      obtain ⟨rfl, hrest⟩ := List.cons.inj hr
      obtain ⟨hc, hf, ho⟩ := h
      obtain ⟨f₁, f₂, h₁, rfl, h₂, hr₂, ht⟩ := ih ho hrest
      refine ⟨node id children f₁, f₂, ⟨hc, hf, h₁⟩, rfl, h₂, hr₂, ?_⟩
      rw [terminals, terminals, ht, List.append_assoc]

theorem Follows.exists_replays (h : f.Follows g) :
    ∃ m k, Replays g m k f.roots [] ∧ terminalsOf m = f.terminals := by
  induction f with
  | nil => exact ⟨[], [], .nil [], rfl⟩
  | leaf terminal token others ih =>
    obtain ⟨m, k, hr, ht⟩ := ih h
    exact ⟨_, k, .terminal terminal hr, congrArg (terminal :: ·) ht⟩
  | node id children others ihc iho =>
    obtain ⟨hc, hf, ho⟩ := h
    obtain ⟨m, k, hr, ht⟩ := ihc hf
    obtain ⟨m', k', hr', ht'⟩ := iho ho
    obtain ⟨i, hi⟩ := List.mem_iff_getElem?.mp hc
    refine ⟨.nonTerminal id :: (m ++ m'), i :: (k ++ k'),
      .nonTerminal hi ((hr.frame others.roots).trans hr'), ?_⟩
    rw [terminalsOf_cons_nonTerminal, terminalsOf_append, ht, ht', terminals]

theorem exists_of_replays (h : Replays g m k xs []) :
    ∃ f : Forest, f.Follows g ∧ f.roots = xs ∧ f.terminals = terminalsOf m := by
  generalize hz : ([] : List Symbol) = zs at h
  induction h with
  | nil xs => exact ⟨nil, trivial, hz, rfl⟩
  | terminal id rest ih =>
    obtain ⟨f, hf, rfl, ht⟩ := ih hz
    exact ⟨leaf id "" f, hf, rfl, congrArg (id :: ·) ht⟩
  | @nonTerminal id i alternative m xs ys k ha rest ih =>
    obtain ⟨f, hf, hr, ht⟩ := ih hz
    obtain ⟨f₁, f₂, h₁, rfl, h₂, rfl, hd⟩ := hf.divide hr
    refine ⟨node id f₁ f₂, ⟨List.mem_of_getElem? ha, h₁, h₂⟩, rfl, ?_⟩
    rw [terminalsOf_cons_nonTerminal, ← ht, hd, terminals]

theorem derives_iff {w : List Nat} :
    g.Derives xs (w.map .terminal) ↔
      ∃ f : Forest, f.Follows g ∧ f.roots = xs ∧ f.terminals = w := by
  rw [Grammar.derives_iff_exists_replays]
  constructor
  · intro h
    obtain ⟨m, k, hr, rfl⟩ := h
    exact exists_of_replays hr
  · intro h
    obtain ⟨f, hf, rfl, rfl⟩ := h
    exact hf.exists_replays

end Forest

end TopDown
