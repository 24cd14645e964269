import TopDown.Json.Error

namespace TopDown.Json

def isBlank (c : Char) : Bool :=
  c == ' ' || c == '\n' || c == '\t' || c == '\r'

def skipBlanks (cs : List Char) : List Char :=
  cs.dropWhile isBlank

def expect : List Char → List Char → Except Error (List Char)
  | [], cs => .ok cs
  | _ :: _, [] => .error .unfinished
  | w :: word, c :: cs => if w = c then expect word cs else .error .malformed

def hexValue? (c : Char) : Option Nat :=
  if c.isDigit then some (c.toNat - '0'.toNat)
  else if 'a' ≤ c ∧ c ≤ 'f' then some (c.toNat - 'a'.toNat + 10)
  else if 'A' ≤ c ∧ c ≤ 'F' then some (c.toNat - 'A'.toNat + 10)
  else none

/-- Four hexadecimal digits; a text of less than four bytes ends too early. -/
def hexUnit (cs : List Char) : Except Error (Nat × List Char) :=
  match cs with
  | a :: b :: c :: d :: rest =>
    match hexValue? a, hexValue? b, hexValue? c, hexValue? d with
    | some a, some b, some c, some d => .ok (16 * (16 * (16 * a + b) + c) + d, rest)
    | _, _, _, _ => .error .malformed
  | _ => .error (if cs.foldl (fun n c ↦ n + c.utf8Size) 0 < 4 then .unfinished else .malformed)

def isHighSurrogate (n : Nat) : Bool :=
  0xd800 ≤ n && n ≤ 0xdbff

def isLowSurrogate (n : Nat) : Bool :=
  0xdc00 ≤ n && n ≤ 0xdfff

/-- The character after `\u`; those beyond 16 bits are written as two surrogates. -/
def unicodeEscape (cs : List Char) : Except Error (Char × List Char) :=
  match hexUnit cs with
  | .error e => .error e
  | .ok (high, rest) =>
    if isLowSurrogate high then .error .malformed
    else if !isHighSurrogate high then .ok (Char.ofNat high, rest)
    else match expect ['\\', 'u'] rest with
      | .error e => .error e
      | .ok rest =>
        match hexUnit rest with
        | .error e => .error e
        | .ok (low, rest) =>
          if isLowSurrogate low then
            .ok (Char.ofNat (0x10000 + 0x400 * (high - 0xd800) + (low - 0xdc00)), rest)
          else .error .malformed

def escape : List Char → Except Error (Char × List Char)
  | [] => .error .unfinished
  | '"' :: cs => .ok ('"', cs)
  | '\\' :: cs => .ok ('\\', cs)
  | '/' :: cs => .ok ('/', cs)
  | 'b' :: cs => .ok ('\x08', cs)
  | 'f' :: cs => .ok ('\x0c', cs)
  | 'n' :: cs => .ok ('\n', cs)
  | 'r' :: cs => .ok ('\r', cs)
  | 't' :: cs => .ok ('\t', cs)
  | 'u' :: cs => unicodeEscape cs
  | _ :: _ => .error .malformed

def stringChar : List Char → Except Error (Option Char × List Char)
  | [] => .error .unfinished
  | '"' :: cs => .ok (none, cs)
  | '\\' :: cs => (escape cs).map fun r ↦ (some r.1, r.2)
  | c :: cs => if c < ' ' then .error .malformed else .ok (some c, cs)

theorem expect_length {word cs rest : List Char} (h : expect word cs = .ok rest) :
    rest.length ≤ cs.length := by
  induction word generalizing cs with
  | nil =>
    cases h
    exact Nat.le_refl _
  | cons w word ih =>
    cases cs with
    | nil => cases h
    | cons c cs =>
      rw [expect] at h
      split at h
      · exact Nat.le_succ_of_le (ih h)
      · cases h

theorem hexUnit_length {cs rest : List Char} {n : Nat} (h : hexUnit cs = .ok (n, rest)) :
    rest.length < cs.length := by
  unfold hexUnit at h
  split at h
  · split at h
    · simp only [Except.ok.injEq, Prod.mk.injEq] at h
      simp only [← h.2, List.length_cons]
      omega
    · cases h
  · cases h

theorem unicodeEscape_length {cs rest : List Char} {c : Char}
    (h : unicodeEscape cs = .ok (c, rest)) : rest.length < cs.length := by
  unfold unicodeEscape at h
  split at h
  · cases h
  · next hhigh =>
    have := hexUnit_length hhigh
    split at h
    · cases h
    · split at h
      · simp only [Except.ok.injEq, Prod.mk.injEq] at h
        exact h.2 ▸ this
      · split at h
        · cases h
        · next hexpect =>
          have := expect_length hexpect
          split at h
          · cases h
          · next hlow =>
            have := hexUnit_length hlow
            split at h
            · simp only [Except.ok.injEq, Prod.mk.injEq] at h
              have := h.2
              subst this
              omega
            · cases h

theorem escape_length {cs rest : List Char} {c : Char} (h : escape cs = .ok (c, rest)) :
    rest.length < cs.length := by
  unfold escape at h
  split at h
  case h_10 => exact Nat.lt_succ_of_lt (unicodeEscape_length h)
  all_goals simp only [Except.ok.injEq, Prod.mk.injEq, reduceCtorEq] at h
  all_goals exact h.2 ▸ Nat.lt_succ_self _

theorem stringChar_length {cs rest : List Char} {c : Option Char}
    (h : stringChar cs = .ok (c, rest)) : rest.length < cs.length := by
  unfold stringChar at h
  split at h
  · cases h
  · simp only [Except.ok.injEq, Prod.mk.injEq] at h
    exact h.2 ▸ Nat.lt_succ_self _
  · next cs =>
    cases hescape : escape cs with
    | error e =>
      rw [hescape] at h
      cases h
    | ok r =>
      simp only [hescape, Except.map, Except.ok.injEq, Prod.mk.injEq] at h
      exact h.2 ▸ Nat.lt_succ_of_lt (escape_length hescape)
  · split at h
    · cases h
    · simp only [Except.ok.injEq, Prod.mk.injEq] at h
      exact h.2 ▸ Nat.lt_succ_self _

def stringTail (cs : List Char) : Except Error (List Char × List Char) :=
  match _h : stringChar cs with
  | .error e => .error e
  | .ok (none, rest) => .ok ([], rest)
  | .ok (some c, rest) => (stringTail rest).map fun r ↦ (c :: r.1, r.2)
termination_by cs.length
decreasing_by exact stringChar_length _h

end TopDown.Json
