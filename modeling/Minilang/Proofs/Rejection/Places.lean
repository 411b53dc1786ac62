import Minilang.Code.Generator
import Minilang.Proofs.Rejection.Statement
import Minilang.Proofs.Typing.Failing
import Minilang.Proofs.Typing.Form

/-!
# Where a program is rejected

A reading is rejected where the cursor rests. A check is rejected at the place
of a construct, and so is the generation of code. At the places of constructs
the cursor rested when they were read, and a cast that the check adds has the
place of its operand. So each rejection of a source has a place where the cursor
rests: `restsAt_of_rejects`.
-/

namespace Minilang

open Steps

namespace Node

variable {told : Position → Prop}

/-- If the generation of code is refused, then its place is as told. -/
abbrev RefusesAt {α : Type} (told : Position → Prop)
    (step : Generate α) : Prop :=
  FailsOnly (fun diagnostic => told diagnostic.position) step

theorem refusesAt_emit {opcode : Opcode} {place : Position} :
    RefusesAt told (Generate.emit opcode place) := by
  intro generator diagnostic later failed
  cases failed

theorem refusesAt_refuse {node : Node} (own : told node.position) :
    RefusesAt told (Generate.refuse node) :=
  failsOnly_throw own

theorem refusesAt_generateValue {node : Node} (own : told node.position) :
    RefusesAt told node.generateValue := by
  cases node with
  | literal | reference => exact refusesAt_emit
  | _ => exact refusesAt_refuse own

mutual

/-- The generation of code for a statement is refused at the place of a
construct in it. -/
theorem refusesAt_generateStatement : (node : Node) →
    node.Throughout (fun part => told part.position) →
    RefusesAt told node.generateStatement
  | .statements items _, places => by
      rw [generateStatement]
      exact refusesAt_generateStatements items fun _ member =>
        places.child member
  | .declaration _ _ none _, _ => by
      rw [generateStatement]
      exact failsOnly_pure ()
  | .declaration type name (some value) position, places => by
      have inValue : told value.position :=
        (places.child (by simp [children])).self
      rw [generateStatement]
      exact (refusesAt_generateValue inValue).bind fun _ => refusesAt_emit
  | .assignment target value position, places => by
      have inTarget : told target.position :=
        (places.child (by simp [children])).self
      have inValue : told value.position :=
        (places.child (by simp [children])).self
      cases target with
      | reference =>
          rw [generateStatement]
          exact (refusesAt_generateValue inValue).bind fun _ => refusesAt_emit
      | _ =>
          rw [generateStatement]
          · exact refusesAt_refuse inTarget
          all_goals simp
  | .literal _ _, places | .reference _ _ _, places | .call _ _ _ _, places
  | .binary _ _ _ _, places | .cast _ _ _, places => by
      rw [generateStatement]
      · exact (refusesAt_generateValue places.self).bind fun _ => refusesAt_emit
      all_goals simp
  | .conditional _ _ _ _, places | .loop _ _ _, places | .print _ _, places
  | .function _ _ _ _ _, places => by
      rw [generateStatement]
      · exact refusesAt_refuse places.self
      all_goals simp

/-- By induction on the trees, as only the construct that is refused is
named. -/
theorem refusesAt_generateStatements : (nodes : List Node) →
    (∀ node ∈ nodes, node.Throughout fun part => told part.position) →
    RefusesAt told (generateStatements nodes)
  | [], _ => by
      rw [generateStatements]
      exact failsOnly_pure ()
  | node :: nodes, places => by
      rw [generateStatements]
      exact (refusesAt_generateStatement node
        (places node List.mem_cons_self)).bind fun _ =>
        refusesAt_generateStatements nodes fun _ member =>
          places _ (List.mem_cons_of_mem _ member)

end

end Node

/-- Casts that are added have the places of their operands. -/
theorem Widens.throughout_restsIn {origin : Cursor} {scopes : Scopes}
    {node checked : Node} {operators : List Node}
    (widens : Widens scopes node checked operators)
    (rest : node.Throughout (Node.RestsIn origin)) :
    checked.Throughout (Node.RestsIn origin) := by
  refine widens.throughout (fun _ own => own) ?_ rest
  intro node checked operators widens own
  cases widens <;> exact own

namespace Program

variable {source file : String} {program : Program} {diagnostic : Diagnostic}

/-- The source is rejected with the diagnostic: when it is compiled, or when
code is generated for the program that it is compiled to. -/
inductive Rejects (source file : String) (diagnostic : Diagnostic) : Prop where
  | compiling {warnings later : List Warning} :
      (compile source file).run warnings =
        .error (.diagnostic diagnostic) later →
      Rejects source file diagnostic
  | generating {warnings later : List Warning} {program : Program} :
      (compile source file).run warnings = .ok program later →
      program.root.generate = .error diagnostic →
      Rejects source file diagnostic

/-- Each way of being refused names a cursor that rests. -/
theorem restsAt_of_refuses {origin : Parser} {cursor : Cursor}
    {scopes : Array Scope}
    (refuses : Grammar.Refuses (.origin source file) origin
      diagnostic cursor scopes) :
    (Cursor.origin source file).RestsAt diagnostic.position := by
  cases refuses with
  | text rests | expression rests | behindProgram rests | type rests
  | identifier rests | number rests | string rests | declaration rests =>
      exact ⟨_, rests, rfl⟩

/-- A check of what was read is rejected at the place of a construct, and a
reading where the cursor rests. -/
theorem restsAt_of_compile {warnings later : List Warning}
    (rejected : (compile source file).run warnings =
      .error (.diagnostic diagnostic) later) :
    (Cursor.origin source file).RestsAt diagnostic.position := by
  have fails : FailsOnly (fun failure => ∀ diagnostic,
      failure = .diagnostic diagnostic →
      (Cursor.origin source file).RestsAt diagnostic.position)
        (compile source file) := by
    rw [compile]
    cases result : parse source file with
    | ok program =>
        refine (Node.failsOnly_check program.root fun part within =>
          ⟨?_, ?_⟩).bind fun checked =>
          failsOnly_pure _
        · intro cause diagnostic same
          cases same
          exact restsIn_of_parse result part within
        · intro name scope fault mentions failed diagnostic same
          cases same
    | error failure =>
        apply failsOnly_throw
        intro diagnostic same
        rw [same] at result
        obtain ⟨_, _, refuses⟩ := refuses_of_parse result
        exact restsAt_of_refuses refuses
  exact fails warnings _ later rejected diagnostic rfl

/-- Each construct of a compiled program has a place where the cursor rests. -/
theorem restsIn_of_compile {warnings later : List Warning}
    (success : (compile source file).run warnings = .ok program later) :
    program.root.Throughout (Node.RestsIn (.origin source file)) := by
  obtain ⟨parsed, _, read, checked, _⟩ := compile_ok.1 success
  obtain ⟨_, widens, _⟩ := Node.widens_of_check_ok parsed.root checked
  exact widens.throughout_restsIn (restsIn_of_parse read)

/-- Each rejection of a source has a place where the cursor rests. -/
theorem restsAt_of_rejects (rejects : Rejects source file diagnostic) :
    (Cursor.origin source file).RestsAt diagnostic.position := by
  cases rejects with
  | compiling rejected => exact restsAt_of_compile rejected
  | @generating _ _ program success refused =>
      have rest := restsIn_of_compile success
      rw [Node.generate] at refused
      cases result : (Node.generateStatement program.root).run .empty with
      | ok _ _ =>
          rw [result] at refused
          cases refused
      | error other later =>
          rw [result] at refused
          cases refused
          exact Node.refusesAt_generateStatement program.root rest _
            _ later result

/-- In a source that is not too long, 32 bits are enough for the places where
the cursor rests. -/
theorem isCounted_of_restsAt {position : Position}
    (short : source.length + 1 < UInt32.size)
    (rests : (Cursor.origin source file).RestsAt position) :
    position.IsCounted := by
  obtain ⟨cursor, rests, rfl⟩ := rests
  obtain ⟨before, split, place⟩ := rests.reaches.split_source
  have whole : (before ++ cursor.rest).length ≤ source.length := by
    rw [split, ← String.length_toList]
    exact List.length_filter_le _ _
  rw [List.length_append] at whole
  rw [place]
  exact Position.isCounted_after file (by omega)

end Program

end Minilang
