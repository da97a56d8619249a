import ScanRules.RuleSet
import ScanRules.Scanner

/-!
# Building scanners

A builder collects rules one by one. A rule whose pattern does not compile is refused and leaves the
builder as it was.

- `Role`: what a rule is for.
- `Builder`, `Builder.declare`: the rules so far, and how one more is added. `Builder.add`,
  `Builder.addWith`, `Builder.ignore` and `Builder.ignoreWith` are its special cases.
- `Builder.addRuleSet`: adds the rules of a set until one is refused.
- `Builder.build`: the scanner.
-/

namespace ScanRules

/-- What a rule is for: to make tokens, or to pass over text. -/
inductive Role where
  | token
  | ignored
  deriving DecidableEq, Repr

/-- The rules collected so far. -/
structure Builder (S : Type) where
  rules : List (Rule S) := []
  ignored : List (Rule S) := []

namespace Builder

variable {S : Type}

/-- The builder without rules. -/
def empty : Builder S := {}

/-- The builder with one more rule. -/
def insert (b : Builder S) : Role → Rule S → Builder S
  | .token, r => { b with rules := b.rules ++ [r] }
  | .ignored, r => { b with ignored := b.ignored ++ [r] }

/-- The event of adding one more rule. -/
def inserted (b : Builder S) : Role → Rule S → Event S
  | .token, r => .added b.rules.length r
  | .ignored, r => .addedIgnored b.ignored.length r

/-- Adds a rule. Ignored rules have no names. -/
def declare (role : Role) (name pattern : String) (options : RuleOptions S) (b : Builder S) :
    Outcome S (Builder S) (Except Error Unit) :=
  let name := match role with
    | .token => name
    | .ignored => ""
  match Rule.make name pattern options with
  | .error e => ⟨.error e, b, []⟩
  | .ok r => ⟨.ok (), b.insert role r, [.compiled r.pattern, b.inserted role r]⟩

/-- Adds a rule that makes tokens. -/
def addWith (name pattern : String) (options : RuleOptions S) (b : Builder S) :
    Outcome S (Builder S) (Except Error Unit) :=
  b.declare .token name pattern options

/-- Adds a rule that makes tokens in every state and leaves the stack alone. -/
def add (name pattern : String) (b : Builder S) : Outcome S (Builder S) (Except Error Unit) :=
  b.addWith name pattern {}

/-- Adds a rule whose matches are passed over. -/
def ignoreWith (pattern : String) (options : RuleOptions S) (b : Builder S) :
    Outcome S (Builder S) (Except Error Unit) :=
  b.declare .ignored "" pattern options

/-- Adds a rule whose matches are passed over in every state and leave the stack alone. -/
def ignore (pattern : String) (b : Builder S) : Outcome S (Builder S) (Except Error Unit) :=
  b.ignoreWith pattern {}

/-- Adds a rule that is written down. -/
def addSpec (entry : Role × RuleSpec S) (b : Builder S) :
    Outcome S (Builder S) (Except Error Unit) :=
  b.declare entry.1 entry.2.name entry.2.pattern entry.2.toRuleOptions

/-- The rules of a set with their roles, in the order in which they are added. -/
def entries (set : RuleSet S) : List (Role × RuleSpec S) :=
  set.rules.map (.token, ·) ++ set.ignored.map (.ignored, ·)

/-- Adds the rules of a set. If one is refused, the rules before it stay. -/
def addRuleSet (set : RuleSet S) (b : Builder S) : Outcome S (Builder S) (Except Error Unit) :=
  Outcome.forEach addSpec (entries set) b

/-- The scanner with the rules collected. -/
def scanner (b : Builder S) : Scanner S := { rules := b.rules, ignored := b.ignored }

/-- Makes the scanner. -/
def build (b : Builder S) : Outcome S (Builder S) (Scanner S) :=
  ⟨b.scanner, b, [.building b.rules.length b.ignored.length]⟩

end Builder

end ScanRules
