import CypherFragments.Json.Reader.Basic

/-!
# Reading arrays and objects

The readers start after the opening bracket. What the items and members hold is left to readers of
their own.
-/

set_option autoImplicit false

namespace CypherFragments.Json.Reader

variable {α κ σ : Type}

/-- The start of the next item of an array, or `none` at its end. -/
def nextItem (first : Bool) (s : List Char) : Except Fault (Option (Tail s)) :=
  match skipBlank s with
  | ⟨[], _⟩ => .error .truncated
  | ⟨c :: r, h⟩ =>
    if c = ']' then .ok none
    else if first then .ok (some ⟨c :: r, h⟩)
    else if c = ',' then
      match skipBlank r with
      | ⟨[], _⟩ => .error .truncated
      | ⟨d :: t, h'⟩ =>
        if d = ']' then .error .malformed
        else .ok (some ((Rest.after r h).toTail.trans ⟨d :: t, h'⟩))
    else .error .malformed

/-- The closing bracket of an array. -/
def closeArray (s : List Char) : Except Fault (Rest s) :=
  match skipBlank s with
  | ⟨[], _⟩ => .error .truncated
  | ⟨c :: r, h⟩ => if c = ']' then .ok (.after r h) else .error .malformed

/-- The items of an array, and its closing bracket. -/
def items (item : Reader α) (first : Bool) (s : List Char) : Except Fault (List α × Rest s) := do
  match ← nextItem first s with
  | none =>
    let r ← closeArray s
    return ([], r)
  | some t =>
    let (x, r) ← item t.1
    let (xs, u) ← items item false r.1
    return (x :: xs, (Rest.ofTail t r).trans u)
termination_by s.length
decreasing_by exact Nat.lt_of_lt_of_le r.2 t.2

/-- The next item of an array of fixed length, or `absent` at its end. -/
def item (absent : Except Fault α) (read : Reader α) (first : Bool) (s : List Char) :
    Except Fault (α × Tail s) := do
  match ← nextItem first s with
  | none => return (← absent, .all s)
  | some t =>
    let (x, r) ← read t.1
    return (x, (Rest.ofTail t r).toTail)

/-- The opening quote of the next key of an object, or `none` at its end. -/
def nextKey (first : Bool) (s : List Char) : Except Fault (Option (Rest s)) :=
  match skipBlank s with
  | ⟨[], _⟩ => .error .truncated
  | ⟨c :: r, h⟩ =>
    if c = '\x7d' then .ok none
    else if first then
      if c = '"' then .ok (some (.after r h)) else .error .malformed
    else if c = ',' then
      match skipBlank r with
      | ⟨[], _⟩ => .error .truncated
      | ⟨d :: t, h'⟩ =>
        if d = '"' then .ok (some ((Rest.after r h).trans (.after t h'))) else .error .malformed
    else .error .malformed

/-- The colon between a key and its value. -/
def colon (s : List Char) : Except Fault (Rest s) :=
  match skipBlank s with
  | ⟨[], _⟩ => .error .truncated
  | ⟨c :: r, h⟩ => if c = ':' then .ok (.after r h) else .error .malformed

/-- The closing brace of an object. -/
def closeObject (s : List Char) : Except Fault (Rest s) :=
  match skipBlank s with
  | ⟨[], _⟩ => .error .truncated
  | ⟨c :: r, h⟩ => if c = '\x7d' then .ok (.after r h) else .error .malformed

/-- The members of an object, and its closing brace. `step` is told the key and what has been read
so far before it reads the value. -/
def members (key : Reader κ) (step : κ → σ → Except Fault (Reader σ)) (acc : σ) (first : Bool)
    (s : List Char) : Except Fault (σ × Rest s) := do
  match ← nextKey first s with
  | none =>
    let r ← closeObject s
    return (acc, r)
  | some t =>
    let (k, r) ← key t.1
    let read ← step k acc
    let c ← colon r.1
    let (acc, v) ← read c.1
    let (acc, u) ← members key step acc false v.1
    return (acc, (((t.trans r).trans c).trans v).trans u)
termination_by s.length
decreasing_by exact Nat.lt_trans v.2 (Nat.lt_trans c.2 (Nat.lt_trans r.2 t.2))

end CypherFragments.Json.Reader
