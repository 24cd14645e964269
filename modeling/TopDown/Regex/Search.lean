import TopDown.Regex.Basic

namespace TopDown.Regex

abbrev EndTable := Array (Thunk (List Nat))

namespace EndTable

def ofFn (size : Nat) (f : Nat → List Nat) : EndTable :=
  ((List.range (size + 1)).map fun i ↦ Thunk.mk fun _ ↦ f i).toArray

def ends (table : EndTable) (i : Nat) : List Nat :=
  (table[i]?.map Thunk.get).getD []

def atMost (size : Nat) (step : Nat → List Nat) (greedy : Bool) : Nat → EndTable
  | 0 => ofFn size fun i ↦ [i]
  | n + 1 =>
    let fewer := atMost size step greedy n
    ofFn size fun i ↦ (prefer greedy ((step i).flatMap fewer.ends) [i]).eraseDups

def oneOrMoreAux (size : Nat) (step : Nat → List Nat) (greedy : Bool) :
    Nat → List (Thunk (List Nat))
  | 0 => []
  | n + 1 =>
    let later := oneOrMoreAux size step greedy n
    let i := size - n
    (Thunk.mk fun _ ↦
      ((step i).flatMap fun e ↦
        prefer greedy (if i < e then (later[e - i - 1]?.map Thunk.get).getD [] else [])
          [e]).eraseDups) :: later

def oneOrMore (size : Nat) (step : Nat → List Nat) (greedy : Bool) : EndTable :=
  (oneOrMoreAux size step greedy (size + 1)).toArray

end EndTable

def table (s : Text) : Regex → EndTable
  | .empty => .ofFn s.size fun i ↦ [i]
  | .set cs => .ofFn s.size fun i ↦ if s[i]?.any cs.contains then [i + 1] else []
  | .look l word => .ofFn s.size fun i ↦ if l.holds word s i then [i] else []
  | .seq a b =>
    let first := table s a
    let second := table s b
    .ofFn s.size fun i ↦ ((first.ends i).flatMap second.ends).eraseDups
  | .alt a b =>
    let first := table s a
    let second := table s b
    .ofFn s.size fun i ↦ (first.ends i ++ second.ends i).eraseDups
  | .repetition a ⟨min, some max, greedy⟩ =>
    let step := (table s a).ends
    let more := EndTable.atMost s.size step greedy (max - min)
    .ofFn s.size fun i ↦ ((exactly step min [i]).flatMap more.ends).eraseDups
  | .repetition a ⟨0, none, greedy⟩ =>
    let more := EndTable.oneOrMore s.size (table s a).ends greedy
    .ofFn s.size fun i ↦ (prefer greedy (more.ends i) [i]).eraseDups
  | .repetition a ⟨min + 1, none, greedy⟩ =>
    let step := (table s a).ends
    let more := EndTable.oneOrMore s.size step greedy
    .ofFn s.size fun i ↦ ((exactly step min [i]).flatMap more.ends).eraseDups

structure Span where
  start : Nat
  stop : Nat
  deriving DecidableEq, Repr

def Span.isEmpty (span : Span) : Bool :=
  span.start == span.stop

def Span.text (span : Span) (s : Text) : String :=
  String.ofList (s.extract span.start span.stop).toList

namespace EndTable

def find? (table : EndTable) (start : Nat) : Option Span :=
  (List.range' start (table.size - start)).findSome? fun i ↦
    (table.ends i).head?.map fun e ↦ ⟨i, e⟩

/-- The match that follows one which ended at `start`, where no second empty one may end. -/
def findNext? (table : EndTable) (start : Nat) : Option Span :=
  match table.find? start with
  | some span => if span.stop = start then table.find? (start + 1) else some span
  | none => none

def findAfter (table : EndTable) (start : Nat) : List Span :=
  match table.findNext? start with
  | some span =>
    if start < span.stop ∧ span.stop < table.size then span :: findAfter table span.stop
    else [span]
  | none => []
termination_by table.size - start

def findAll (table : EndTable) : List Span :=
  match table.find? 0 with
  | some span => span :: table.findAfter span.stop
  | none => []

end EndTable

def isMatch (r : Regex) (s : Text) : Bool :=
  ((r.table s).find? 0).isSome

/-- The matches in `s` from left to right, none of which overlaps the one before it. -/
def findAll (r : Regex) (s : Text) : List Span :=
  (r.table s).findAll

end TopDown.Regex
