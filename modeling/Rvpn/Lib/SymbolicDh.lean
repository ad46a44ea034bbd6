import Mathlib

/-! Symbolic Diffie-Hellman with ideal key derivation; what an attacker can build is an inductive relation. -/

namespace SymbolicDh

variable {Name Tag : Type}

/-- How often each secret scalar occurs in the product, negative for its inverse. -/
abbrev Exponent (Name : Type) := Name → Int

/-- `zero` is what multiplying a point of small order gives. -/
inductive Term (Name Tag : Type) where
  | zero
  | element (exponent : Exponent Name)
  | derived (tag : Tag) (inputs : List (Term Name Tag))

/-- An attacker: the secret scalars it knows, and terms it has been given. -/
structure Attacker (Name Tag : Type) where
  knows : Name → Prop
  given : Term Name Tag → Prop

def degree (hidden : Finset Name) (exponent : Exponent Name) : Int := ∑ x ∈ hidden, exponent x

variable {attacker : Attacker Name Tag} {hidden : Finset Name}

theorem degree_add (first second : Exponent Name) :
    degree hidden (first + second) = degree hidden first + degree hidden second :=
  Finset.sum_add_distrib

theorem degree_sub (first second : Exponent Name) :
    degree hidden (first - second) = degree hidden first - degree hidden second :=
  Finset.sum_sub_distrib _ _

variable [DecidableEq Name]

def scalar (x : Name) : Exponent Name := Pi.single x 1

/-- What the attacker can build: it sees every public key, multiplies and divides exponents
by the scalars it knows, and derives keys. -/
inductive Derivable (attacker : Attacker Name Tag) : Term Name Tag → Prop where
  | given {term : Term Name Tag} (held : attacker.given term) : Derivable attacker term
  | zero : Derivable attacker .zero
  | base : Derivable attacker (.element 0)
  | publicKey (x : Name) : Derivable attacker (.element (scalar x))
  | raise {exponent : Exponent Name} {x : Name} (built : Derivable attacker (.element exponent))
      (known : attacker.knows x) : Derivable attacker (.element (exponent + scalar x))
  | lower {exponent : Exponent Name} {x : Name} (built : Derivable attacker (.element exponent))
      (known : attacker.knows x) : Derivable attacker (.element (exponent - scalar x))
  | derive (tag : Tag) {inputs : List (Term Name Tag)}
      (built : ∀ input ∈ inputs, Derivable attacker input) : Derivable attacker (.derived tag inputs)

theorem degree_scalar (x : Name) : degree hidden (scalar x) = if x ∈ hidden then 1 else 0 :=
  Finset.sum_pi_single' _ _ _

theorem Derivable.degree_le_one (built : Derivable attacker (.element exponent))
    (unknown : ∀ x ∈ hidden, ¬ attacker.knows x)
    (withheld : ∀ exponent, attacker.given (.element exponent) → degree hidden exponent ≤ 1) :
    degree hidden exponent ≤ 1 := by
  generalize formed : Term.element exponent = term at built
  induction built generalizing exponent with
  | given held =>
    subst formed
    exact withheld exponent held
  | zero => cases formed
  | base =>
    cases formed
    simp [degree]
  | publicKey x =>
    cases formed
    rw [degree_scalar]
    split <;> decide
  | @raise exponent x _ known ih =>
    cases formed
    have visible : x ∉ hidden := fun member => unknown x member known
    rw [degree_add, degree_scalar, if_neg visible, add_zero]
    exact ih rfl
  | @lower exponent x _ known ih =>
    cases formed
    have visible : x ∉ hidden := fun member => unknown x member known
    rw [degree_sub, degree_scalar, if_neg visible, sub_zero]
    exact ih rfl
  | derive => cases formed

theorem Derivable.inputs {tag : Tag} {inputs : List (Term Name Tag)}
    (built : Derivable attacker (.derived tag inputs)) :
    attacker.given (.derived tag inputs) ∨ ∀ input ∈ inputs, Derivable attacker input := by
  cases built with
  | given held => exact .inl held
  | derive _ parts => exact .inr parts

end SymbolicDh
