import CrateAtlas.Grammar.Rule

/-!
# Productions

A rule with choices and repetitions stands for a set of *productions*, plain sequences of steps.
This file takes a grammar apart:

* `Rule.lift` replaces each repetition by a hidden rule of its own, one for each distinct body,
  which calls itself on the left;
* `Rule.alternatives` lists the sequences of steps that a rule allows, each step with the marks
  that surround it;
* `Grammar.productions` lists the productions of every rule that is not inlined, with the inlined
  ones put in place.

**Precedence along a sequence.**  A step carries the precedence of the innermost mark around it.
Where a mark ends before the end of the sequence, its last step falls back to the surrounding
precedence, because what follows is no longer under the mark.
-/

set_option autoImplicit false

namespace CrateAtlas.Grammar

variable {τ : Type}

/-- A token or the name of a rule. -/
inductive Symbol (τ : Type) where
  | token (t : τ)
  | rule (name : String)
deriving BEq

/-- The marks around a place in a rule. -/
structure Marks where
  rank : Option Int
  assoc : Option Assoc
  field : Option String
  kind : Option String
deriving BEq

/-- One step of a production: a symbol and the marks around it. -/
structure Step (τ : Type) where
  symbol : Symbol τ
  marks : Marks
deriving BEq

/-! ## Repetitions -/

/-- The hidden rule that stands for the repetition with the given number. -/
def repetitionName (n : Nat) : String := "_repetition" ++ toString n

/-- Replaces each repetition by a call of a hidden rule.  The state lists the bodies of the
repetitions seen so far; equal bodies share one rule. -/
def Rule.lift [BEq τ] : Rule τ → StateM (Array (Rule τ)) (Rule τ)
  | .blank => pure .blank
  | .token t => pure (.token t)
  | .call name => pure (.call name)
  | .seq a b => do return .seq (← a.lift) (← b.lift)
  | .choice a b => do return .choice (← a.lift) (← b.lift)
  | .ranked r a body => do return .ranked r a (← body.lift)
  | .field name body => do return .field name (← body.lift)
  | .named kind body => do return .named kind (← body.lift)
  | .plus body => do
    let body ← body.lift
    let seen ← get
    match seen.idxOf? body with
    | some n => return .call (repetitionName n)
    | none =>
      set (seen.push body)
      return .call (repetitionName seen.size)

/-- The rules of a grammar without repetitions: the given ones, then one for each repetition. -/
def liftedRules [BEq τ] (g : Grammar τ) : List (String × Rule τ) :=
  let lifted := (g.rules.mapM fun named : String × Rule τ => do
    return (named.1, ← named.2.lift)).run #[]
  lifted.1 ++ lifted.2.toList.zipIdx.map fun (body, n) =>
    (repetitionName n, .choice (.seq (.call (repetitionName n)) body) body)

/-! ## Alternatives -/

/-- Lets the last step fall back to the surrounding precedence. -/
def leaveRank (outer : Marks) (assoc : Option Assoc) : List (Step τ) → List (Step τ)
  | [] => []
  | [s] =>
    [{ s with marks := { s.marks with
        rank := outer.rank
        assoc := if assoc.isSome then outer.assoc else s.marks.assoc } }]
  | s :: t :: rest => s :: leaveRank outer assoc (t :: rest)

/-- The sequences of steps that a rule allows under the given marks.  `last` says that nothing
follows the rule in its sequence. -/
def Rule.alternatives (m : Marks) (last : Bool) : Rule τ → List (List (Step τ))
  | .blank => [[]]
  | .token t => [[⟨.token t, m⟩]]
  | .call name => [[⟨.rule name, m⟩]]
  | .seq a b =>
    (a.alternatives m false).flatMap fun x => (b.alternatives m last).map (x ++ ·)
  | .choice a b => a.alternatives m last ++ b.alternatives m last
  | .plus body => body.alternatives m last
  | .field name body => body.alternatives { m with field := some name } last
  | .named kind body => body.alternatives { m with kind := some kind } last
  | .ranked r a body =>
    let inner := body.alternatives
      { m with rank := some r, assoc := if a.isSome then a else m.assoc } last
    if last then inner else inner.map (leaveRank m a)

/-- No marks at all. -/
def Marks.none : Marks := ⟨Option.none, Option.none, Option.none, Option.none⟩

/-- The elements of a list, each at its first place only. -/
def distinct {α : Type} [BEq α] (xs : List α) : List α :=
  (xs.foldl (fun acc x => if acc.contains x then acc else acc.push x) #[]).toList

/-! ## Putting inlined rules in place -/

/-- The marks of the last step of an inlined sequence: its own precedence, or else that of the
step it replaces. -/
def inheritRank (outer : Marks) : List (Step τ) → List (Step τ)
  | [] => []
  | [s] =>
    [{ s with marks := { s.marks with
        rank := s.marks.rank.or outer.rank
        assoc := s.marks.assoc.or outer.assoc } }]
  | s :: t :: rest => s :: inheritRank outer (t :: rest)

/-- The step of an inlined sequence, filed and named as the step it replaces is. -/
def inheritMarks (outer : Marks) (s : Step τ) : Step τ :=
  { s with marks := { s.marks with
      field := s.marks.field.or outer.field
      kind := s.marks.kind.or outer.kind } }

/-- The sequences that arise from one sequence when the calls of inlined rules are replaced by
their alternatives, to the given depth of nesting. -/
def inline (bodies : String → Option (List (List (Step τ)))) :
    Nat → List (Step τ) → List (List (Step τ))
  | 0, steps => [steps]
  | depth + 1, steps =>
    let heads (s : Step τ) : List (List (Step τ)) :=
      match s.symbol with
      | .token _ => [[s]]
      | .rule name =>
        match bodies name with
        | some alts =>
          alts.flatMap fun alt =>
            inline bodies depth ((inheritRank s.marks alt).map (inheritMarks s.marks))
        | none => [[s]]
    steps.foldr (fun s tails => (heads s).flatMap fun head => tails.map (head ++ ·)) [[]]

/-- A production: the rule it belongs to and its steps. -/
structure Production (τ : Type) where
  head : String
  steps : List (Step τ)

/-- The productions of a grammar. -/
def productions [BEq τ] (g : Grammar τ) : List (Production τ) :=
  let alternatives := g.liftedRules.map fun (name, r) => (name, r.alternatives Marks.none true)
  let bodies := fun name => if g.inlined.contains name then alternatives.lookup name else none
  alternatives.flatMap fun (name, alts) =>
    if g.inlined.contains name then []
    else (distinct (alts.flatMap (inline bodies g.inlined.length))).map fun steps => ⟨name, steps⟩

end CrateAtlas.Grammar
