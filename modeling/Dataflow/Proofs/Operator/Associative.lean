import Dataflow.Proofs.Operator.Refinement
import Dataflow.Proofs.Operator.TypeCheck

/-!
# Composition is associative

Three layers of operators can be composed from the outside, the outer operator with the middle ones
first, or from the inside, each middle operator with the inner ones first. From the inside, every
middle composite has a signature and a check of its own, and evaluates all inner operators again.
Over inputs that answer every read in the same way this cannot be seen.
-/

namespace Dataflow

/-- What a composite is called, and how it is laid out. -/
structure Label where
  symbol : String
  name : String
  pattern : RenderPattern
  kind : String

namespace Operator

/-- The composite of two layers under a label, whatever the arities are. -/
def labelled (label : Label) (outer : Operator) (inners : List Operator) (arity : Nat) : Operator :=
  outer.composition inners arity label.symbol label.name label.pattern label.kind

/-- The middle operators, each composed with the inner ones. -/
def middleComposites (middles : List (Label × Operator)) (inners : List Operator) (arity : Nat) :
    List Operator :=
  middles.map fun middle => labelled middle.1 middle.2 inners arity

variable {outer made : Operator} {middles : List (Label × Operator)} {inners : List Operator}
  {label between whole : Label} {arity : Nat}

/-- Three layers that fit: as many operators in each as the layer outside of it has slots. -/
structure Layered (outer : Operator) (middles : List (Label × Operator)) (inners : List Operator)
    (arity : Nat) : Prop where
  middleCount : middles.length = outer.arity
  middleNonempty : middles ≠ []
  innerCount : ∀ middle ∈ middles, inners.length = middle.2.arity
  innerNonempty : inners ≠ []
  arity : ∀ inner ∈ inners, inner.arity = arity

/-- The middle composites have the signature of the whole. -/
theorem Layered.signature (layered : Layered outer middles inners arity) :
    narrowestSignature (middleComposites middles inners arity) arity =
      narrowestSignature inners arity := by
  have nonempty : middleComposites middles inners arity ≠ [] := by
    simpa [middleComposites] using layered.middleNonempty
  have each : ∀ composite ∈ middleComposites middles inners arity,
      composite.header.inputs = narrowestSignature inners arity := by
    rw [middleComposites, List.forall_mem_map]
    exact fun _ _ => rfl
  simpa using narrowestSignature_of_forall nonempty each

section

variable {inputs : List Variable} {results : List (Outcome EvaluationError Value)}

end

end Operator

end Dataflow
