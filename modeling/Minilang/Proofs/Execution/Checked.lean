import Minilang.Code.Generator
import Minilang.Proofs.Typing.Widening

/-!
# Code for checked trees

The casts that a check adds stand inside operators, and operators are refused
before anything inside them is looked at. All that generation does look at is
left as it was: for a checked tree it gives what it gives for the tree that was
read, code or refusal. The main statement is `Node.generate_eq_of_check_ok`.
-/

namespace Minilang

open Node

variable {scopes : Scopes}

/-- The code for a value is the same. An operator is refused with or without
casts inside. -/
theorem Widens.generateValue_eq {node checked : Node} {operators : List Node}
    (widens : Widens scopes node checked operators) :
    checked.generateValue = node.generateValue := by
  cases widens <;> rfl

mutual

/-- A statement has the same code as before, or is refused as before. -/
theorem Widens.generateStatement_eq {node checked : Node}
    {operators : List Node} :
    Widens scopes node checked operators →
    checked.generateStatement = node.generateStatement
  | .statements items => by
      rw [generateStatement, generateStatement, items.generateStatements_eq]
  | .initialized value => by
      rw [generateStatement, generateStatement, value.generateValue_eq]
  | .assignment target value => by
      cases target with
      | reference =>
          rw [generateStatement, generateStatement, value.generateValue_eq]
      | _ => rfl
  | .literal | .reference | .uninitialized => rfl
  -- These are refused for what they are, whatever stands inside them.
  | .call _ | .kept _ _ _ _ _ | .widened _ _ _ _ | .cast _ | .conditional _ _
  | .alternative _ _ _ | .loop _ _ | .print _ | .function _ _ => rfl

theorem WidensAll.generateStatements_eq {nodes others operators : List Node} :
    WidensAll scopes nodes others operators →
    generateStatements others = generateStatements nodes
  | .nil => rfl
  | .cons node nodes => by
      rw [generateStatements, generateStatements, node.generateStatement_eq,
        nodes.generateStatements_eq]

end

/-- Generation gives the same for a tree and for what a check makes of it: the
same instructions at the same places, or the same refusal at the same place. -/
theorem Node.generate_eq_of_check_ok {node checked : Node} {type : DataType}
    {warnings later : List Warning}
    (success : (node.check scopes).run warnings = .ok (checked, type) later) :
    checked.generate = node.generate := by
  obtain ⟨_, widens, _⟩ := widens_of_check_ok node success
  rw [generate, generate, widens.generateStatement_eq]

theorem Node.generate_eq_of_check_ok_cast :
    let two := Node.literal (.integer "2") ⟨"f.code", 2, 1⟩
    let half := Node.literal (.float "0.5") ⟨"f.code", 2, 5⟩
    let node := Node.statements
      [.declaration .float "a" (some half) ⟨"f.code", 1, 1⟩,
        .binary .multiply two half ⟨"f.code", 2, 3⟩] ⟨"f.code", 1, 1⟩
    let checked := Node.statements
      [.declaration .float "a" (some half) ⟨"f.code", 1, 1⟩,
        .binary .multiply (.cast .float two two.position) half ⟨"f.code", 2, 3⟩]
          ⟨"f.code", 1, 1⟩
    (∃ later, (node.check .initial).run [] = .ok (checked, .untyped) later) ∧
      node.generate = .error ⟨.notSupported "Binary", ⟨"f.code", 2, 3⟩⟩ ∧
      checked.generate = node.generate := by
  intro two half node checked
  have success : ∃ later, (node.check .initial).run [] = .ok (checked, .untyped)
      later := ⟨_, rfl⟩
  obtain ⟨later, run⟩ := success
  exact ⟨⟨later, run⟩, rfl, generate_eq_of_check_ok run⟩

end Minilang
