import TagSearch.Proofs.Sql.Grammar

/-!
# Reading SQL from the left

`operand` and `behind` read lexemes from left to right and keep what is unfinished on a stack: left
operands that wait for their right ones, and open parentheses.  An operand is joined to the waiting
ones as soon as an operator that does not bind more tightly follows.

Derived lexemes can be read in no other way (`Derives.read`): reading them leaves their last operand
and a pile of waiting ones that `Pending` joins to the derived phrase.  So the lexemes determine the
phrase, and a text is at most one condition (`Reads.unique`).
-/

namespace TagSearch.Sql

/-- What waits on the stack of a reader. -/
inductive Frame where
  | joining (p : Phrase) (k : Connective)
  | opened (call : Call)

/-- Joins an operand to the waiting ones whose operators have at least a given level. -/
def reduce? (n : Nat) (q : Phrase) : List Frame → Option (Phrase × List Frame)
  | .joining p k :: stack =>
    if n ≤ k.level then (k.join? p q).bind fun r => reduce? n r stack
    else some (q, .joining p k :: stack)
  | stack => some (q, stack)

/-- The stack behind an operator. -/
def shift? (k : Connective) (q : Phrase) (stack : List Frame) : Option (List Frame) :=
  (reduce? k.level q stack).map fun (p, stack) => .joining p k :: stack

/-- The phrase and the stack behind an ending. -/
def leave? (ending : Ending) (q : Phrase) (stack : List Frame) : Option (Phrase × List Frame) :=
  match reduce? 0 q stack with
  | some (p, .opened call :: stack) => (close? call ending p).map fun r => (r, stack)
  | _ => none

/-- The phrase and the stack behind a test for null. -/
def test? (q : Phrase) (stack : List Frame) : Option (Phrase × List Frame) :=
  match reduce? 2 q stack with
  | some (.value s, stack) => some (.condition (.present s), stack)
  | _ => none

/-- The phrase at the end of the lexemes. -/
def finish? (q : Phrase) (stack : List Frame) : Option Phrase :=
  match reduce? 0 q stack with
  | some (p, []) => some p
  | _ => none

mutual

/-- Reads lexemes that begin with an operand. -/
def operand (stack : List Frame) : List Lexeme → Option Phrase
  | .opening :: rest => operand (.opened .group :: stack) rest
  | .keyword .length :: .opening :: rest => operand (.opened .length :: stack) rest
  | .keyword .lower :: .opening :: rest => operand (.opened .lower :: stack) rest
  | .keyword .date :: .opening :: rest => operand (.opened .date :: stack) rest
  | .keyword .replace :: .opening :: rest => operand (.opened .replace :: stack) rest
  | .keyword .cast :: .opening :: rest => operand (.opened .cast :: stack) rest
  | .column c :: rest => behind (.value (.column c)) stack rest
  | .number n :: rest => behind (.value (.number n)) stack rest
  | .parameter v :: rest => behind (.value (.parameter v)) stack rest
  | _ => none

/-- Reads lexemes behind an operand. -/
def behind (q : Phrase) (stack : List Frame) : List Lexeme → Option Phrase
  | [] => finish? q stack
  | .keyword .or :: rest => (shift? .or q stack).bind fun stack => operand stack rest
  | .keyword .and :: rest => (shift? .and q stack).bind fun stack => operand stack rest
  | .comparison c :: rest => (shift? (.compare c) q stack).bind fun stack => operand stack rest
  | .keyword .like :: rest => (shift? (.like false) q stack).bind fun stack => operand stack rest
  | .keyword .not :: .keyword .like :: rest =>
    (shift? (.like true) q stack).bind fun stack => operand stack rest
  | .plus :: rest => (shift? .plus q stack).bind fun stack => operand stack rest
  | .minus :: rest => (shift? .minus q stack).bind fun stack => operand stack rest
  | .slash :: rest => (shift? .slash q stack).bind fun stack => operand stack rest
  | .keyword .is :: .keyword .not :: .keyword .null :: rest =>
    (test? q stack).bind fun (p, stack) => behind p stack rest
  | .closing :: rest => (leave? .plain q stack).bind fun (p, stack) => behind p stack rest
  | .comma :: .text "," :: .comma :: .text "" :: .closing :: rest =>
    (leave? .commas q stack).bind fun (p, stack) => behind p stack rest
  | .keyword .as :: .keyword .real :: .closing :: rest =>
    (leave? .real q stack).bind fun (p, stack) => behind p stack rest
  | .keyword .as :: .keyword .text :: .closing :: rest =>
    (leave? .text q stack).bind fun (p, stack) => behind p stack rest
  | _ => none

end

theorem operand_atom {l : Lexeme} {s : Scalar Value} (h : l.atom? = some s) (stack : List Frame)
    (rest : List Lexeme) : operand stack (l :: rest) = behind (.value s) stack rest := by
  cases l <;> cases h <;> simp [operand]

theorem operand_call (call : Call) (stack : List Frame) (rest : List Lexeme) :
    operand stack (call.lexemes ++ rest) = operand (.opened call :: stack) rest := by
  cases call <;> simp [Call.lexemes, operand]

theorem behind_connective (k : Connective) (q : Phrase) (stack : List Frame) (rest : List Lexeme) :
    behind q stack (k.lexemes ++ rest) =
      (shift? k q stack).bind fun stack => operand stack rest := by
  cases k with
  | like negated => cases negated <;> simp [Connective.lexemes, behind]
  | _ => simp [Connective.lexemes, behind]

theorem behind_ending (ending : Ending) (q : Phrase) (stack : List Frame) (rest : List Lexeme) :
    behind q stack (ending.lexemes ++ rest) =
      (leave? ending q stack).bind fun (p, stack) => behind p stack rest := by
  cases ending <;> simp [Ending.lexemes, behind]

theorem behind_isNotNull (q : Phrase) (stack : List Frame) (rest : List Lexeme) :
    behind q stack (isNotNull ++ rest) =
      (test? q stack).bind fun (p, stack) => behind p stack rest := by
  simp [isNotNull, behind]

/-! ## What waits -/

/-- Operands wait, with operators of at least a level, to be joined with a last operand to a
phrase. -/
inductive Pending (n : Nat) : Phrase → List Frame → Phrase → Prop where
  | done {q : Phrase} : Pending n q [] q
  | joined {p q r s : Phrase} {k : Connective} {frames : List Frame} (hk : n ≤ k.level)
      (h : k.join? p q = some r) (more : Pending n r frames s) :
      Pending n q (.joining p k :: frames) s

/-- What waits on top of a stack has an operator below a level, or is a parenthesis. -/
def Below (n : Nat) : List Frame → Prop
  | .joining _ k :: _ => k.level < n
  | _ => True

theorem Below.of_le {m n : Nat} {stack : List Frame} (hmn : m ≤ n) (h : Below m stack) :
    Below n stack := by
  unfold Below at h ⊢
  split at h
  · omega
  · trivial

namespace Pending

variable {m n : Nat} {p q r s : Phrase} {frames : List Frame}

theorem of_le (hmn : m ≤ n) (h : Pending n q frames s) : Pending m q frames s := by
  induction h with
  | done => exact .done
  | joined hk h _ ih => exact .joined (Nat.le_trans hmn hk) h ih

theorem snoc {k : Connective} (h : Pending m q frames r) (hm : n ≤ m) (hk : n ≤ k.level)
    (hs : k.join? p r = some s) : Pending n q (frames ++ [.joining p k]) s := by
  induction h with
  | done => exact .joined hk hs .done
  | joined hk' h _ ih => exact .joined (Nat.le_trans hm hk') h (ih hs)

/-- A lower operator joins everything that waits above a stack. -/
theorem reduce {stack : List Frame} (h : Pending n q frames s) (hs : Below n stack) :
    reduce? n q (frames ++ stack) = some (s, stack) := by
  induction h with
  | done =>
    cases stack with
    | nil => rfl
    | cons frame stack =>
      cases frame with
      | opened call => rfl
      | joining p k =>
        have hk : ¬n ≤ k.level := by
          unfold Below at hs
          omega
        simp [reduce?, hk]
  | joined hk h _ ih =>
    rw [List.cons_append, reduce?, if_pos hk, h]
    exact ih

end Pending

/-! ## Derivations are read -/

/-- Reading lexemes leaves a last operand and waiting ones with operators of at least a level, which
join to a phrase. -/
def Leaves (n : Nat) (ls : List Lexeme) (s : Phrase) : Prop :=
  ∃ q frames, Pending n q frames s ∧
    ∀ stack, Below n stack → ∀ rest,
      operand stack (ls ++ rest) = behind q (frames ++ stack) rest

theorem Leaves.of_operand {n : Nat} {ls : List Lexeme} {s : Phrase}
    (h : ∀ stack, Below n stack → ∀ rest, operand stack (ls ++ rest) = behind s stack rest) :
    Leaves n ls s := ⟨s, [], .done, h⟩

theorem Leaves.of_le {m n : Nat} {ls : List Lexeme} {s : Phrase} (hmn : m ≤ n)
    (h : Leaves n ls s) : Leaves m ls s := by
  obtain ⟨q, frames, hp, hr⟩ := h
  exact ⟨q, frames, hp.of_le hmn, fun stack hs => hr stack (hs.of_le hmn)⟩

theorem Leaves.closed {call : Call} {ending : Ending} {ls : List Lexeme} {p s : Phrase}
    (inside : Leaves 0 ls p) (h : close? call ending p = some s) :
    Leaves 6 (call.lexemes ++ ls ++ ending.lexemes) s := by
  obtain ⟨q, frames, hp, hr⟩ := inside
  apply Leaves.of_operand
  intro stack _ rest
  have hopen : Below 0 (.opened call :: stack) := trivial
  have hleave : leave? ending q (frames ++ .opened call :: stack) = some (s, stack) := by
    unfold leave?
    rw [hp.reduce hopen]
    simp [h]
  rw [List.append_assoc, List.append_assoc, operand_call, hr _ hopen, behind_ending, hleave]
  rfl

theorem Leaves.joined {k : Connective} {before rest : List Lexeme} {p r s : Phrase}
    (left : Leaves k.level before p) (right : Leaves (k.level + 1) rest r)
    (h : k.join? p r = some s) : Leaves k.level (before ++ k.lexemes ++ rest) s := by
  obtain ⟨q, frames, hp, hl⟩ := left
  obtain ⟨q', frames', hp', hr⟩ := right
  -- The operator joins all that the left operand has left waiting, and nothing below it.
  refine ⟨q', frames' ++ [.joining p k], hp'.snoc (by omega) (Nat.le_refl _) h, ?_⟩
  intro stack hs more
  have hshift : shift? k q (frames ++ stack) = some (.joining p k :: stack) := by
    unfold shift?
    rw [hp.reduce hs]
    rfl
  have hbelow : Below (k.level + 1) (.joining p k :: stack) := Nat.lt_succ_self _
  rw [List.append_assoc, List.append_assoc, hl _ hs, behind_connective, hshift]
  rw [Option.bind_some, hr _ hbelow, List.append_assoc]
  rfl

theorem Leaves.present {ls : List Lexeme} {s : Scalar Value} (h : Leaves 2 ls (.value s)) :
    Leaves 2 (ls ++ isNotNull) (.condition (.present s)) := by
  obtain ⟨q, frames, hp, hr⟩ := h
  apply Leaves.of_operand
  intro stack hs rest
  have htest : test? q (frames ++ stack) = some (.condition (.present s), stack) := by
    unfold test?
    rw [hp.reduce hs]
  rw [List.append_assoc, hr _ hs, behind_isNotNull, htest]
  rfl

theorem Derives.leaves {n : Nat} {ls : List Lexeme} {p : Phrase} (h : Derives n ls p) :
    Leaves n ls p := by
  induction h with
  | atom h => exact .of_operand fun stack _ rest => operand_atom h stack rest
  | closed _ h ih => exact ih.closed h
  | joined _ _ h ihl ihr => exact ihl.joined ihr h
  | present _ ih => exact ih.present
  | rise _ ih => exact ih.of_le (Nat.le_succ _)

/-- The reader finds the phrase that is derived. -/
theorem Derives.read {ls : List Lexeme} {p : Phrase} (h : Derives 0 ls p) :
    operand [] ls = some p := by
  obtain ⟨q, frames, hp, hr⟩ := h.leaves
  have hbelow : Below 0 [] := trivial
  have hread := hr [] hbelow []
  have hreduce := hp.reduce hbelow
  rw [List.append_nil] at hread hreduce
  rw [hread, List.append_nil, behind, finish?, hreduce]

/-- A text is at most one condition. -/
theorem Reads.unique {text : String} {params : List Value} {c d : Condition Value}
    (hc : Reads text params c) (hd : Reads text params d) : c = d := by
  obtain ⟨ls, hlex, hc⟩ := hc
  obtain ⟨ls', hlex', hd⟩ := hd
  obtain rfl : ls = ls' := Option.some.inj (hlex.symm.trans hlex')
  have h := Option.some.inj (hc.read.symm.trans hd.read)
  exact Phrase.condition.inj h

/-- AND binds more tightly than OR, on either side of it. -/
example (c : Column) (v : Value) :
    operand [] [.number 1, .comparison .eq, .number 1, .keyword .and, .column c, .comparison .eq,
      .parameter v, .keyword .or, .number 1, .comparison .eq, .number 1] =
    some (.condition (.any [
      .all [.compare .eq (.number 1) (.number 1), .compare .eq (.column c) (.parameter v)],
      .compare .eq (.number 1) (.number 1)])) := by rfl

end TagSearch.Sql
