import Minilang.Code.Generator
import Minilang.Proofs.Rejection.Places
import Minilang.Proofs.Scoping.Compiled
import Minilang.Proofs.Soundness.Checking
import Minilang.Proofs.Soundness.Reading
import Minilang.Proofs.Soundness.Registers

/-!
# Compilation that never comes to a fault

Whatever the source is, it is compiled or rejected with a diagnostic. The main
statement, `Program.never_faults`, says so of the whole and of each of its
parts: of the scopes, of the steps by which the source is read, of the registers
in which a machine keeps the cursor, and of the questions that the check asks
the scopes.
-/

namespace Minilang.Program

open Steps Grammar

variable {source file : String}

theorem isSound_start (source file : String) :
    (Parser.start source file).IsSound (.origin source file) where
  reaches := by
    rw [Parser.start, Cursor.start_eq]
    exact Cursor.reaches_skipTrivia _
  isOpen := by simp [Parser.start, Scopes.initial]
  exist := by simp [Parser.start, Scopes.initial]

theorem parse_ne_fault (fault : Fault) :
    parse source file ≠ .error (.fault fault) := by
  intro faults
  have never : Parse.NeverFaults read :=
    Parse.neverFaults_of_agrees fun _ => Likeness.listsAlike_read
  rw [parse] at faults
  split at faults
  · cases faults
  · rename_i failure stop failed
    cases faults
    exact never _ 0 .empty ⟨rfl, rfl⟩ fault stop failed

/-- Faults of the reading are excluded by the soundness of its states, and those
of the check by the scopes that the tree carries. -/
theorem neverFaults_compile (source file : String) :
    Check.NeverFaults (compile source file) := by
  rw [compile]
  split
  · rename_i program success
    apply (Node.neverFaults_check program.root (exists_of_parse success)).bind
    intro checked
    exact Check.neverFaults_pure _
  · rename_i failure failed
    intro warnings fault later faults
    cases faults
    exact parse_ne_fault fault failed

/-- No source of fewer characters than 32 bits can count comes to a fault. The
outermost scope can be created, and reading begins in a sound state. Each step
of the grammar leads from a sound state to a sound state, with success or with a
diagnostic. A machine that keeps the cursor in registers takes the source only
where a character begins, and its counts are not exhausted. Each number of a
scope that a tree carries belongs to a scope, and 32 bits are enough for each
place that a tree or a diagnostic carries. So the source is compiled, and then
there is code for it or a diagnostic, or it is rejected with a diagnostic. -/
theorem never_faults (source file : String)
    (short : source.length + 1 < UInt32.size) :
    (Scopes.empty.createGlobal = .ok (Parser.start source file).scopes ∧
      (Parser.start source file).IsSound (.origin source file)) ∧
    (∀ {α : Type} (entry : Entry α) (start : Parser),
      start.IsSound (.origin source file) →
      (last (entry.step.run start)).IsSound (.origin source file) ∧
        ∀ fault stop, entry.step.run start ≠ .error (.fault fault) stop) ∧
    (∀ count, ∃ registers,
      Registers.bumps? (sourceText source) count = some registers ∧
      registers.Keeps (sourceText source)
        ((Cursor.origin source file).drop count)) ∧
    (∀ program, parse source file = .ok program →
      program.root.ScopesExist program.scopes) ∧
    ((∀ program, parse source file = .ok program →
        program.root.Throughout fun node => node.position.IsCounted) ∧
      (∀ program warnings later,
        (compile source file).run warnings = .ok program later →
        program.root.Throughout fun node => node.position.IsCounted) ∧
      ∀ diagnostic, Rejects source file diagnostic →
        diagnostic.position.IsCounted) ∧
    ∀ warnings,
      (∃ program later, (compile source file).run warnings = .ok program later ∧
        ((∃ code, program.root.generate = .ok code) ∨
          ∃ diagnostic, program.root.generate = .error diagnostic)) ∨
      ∃ diagnostic later,
        (compile source file).run warnings =
          .error (.diagnostic diagnostic) later := by
  have shortText : (sourceText source).length + 1 < UInt32.size :=
    Nat.lt_of_le_of_lt (Nat.succ_le_succ (length_sourceText_le source)) short
  refine ⟨⟨Scopes.createGlobal_empty, isSound_start source file⟩, ?_, ?_, ?_,
    ⟨?_, ?_, ?_⟩, ?_⟩
  · intro α entry start sound
    exact entry.isSound sound
  · intro count
    exact Registers.keeps_bumps shortText file count
  · intro program success
    exact exists_of_parse success
  · intro program success part within
    exact isCounted_of_restsAt short (restsIn_of_parse success part within)
  · intro program warnings later success part within
    exact isCounted_of_restsAt short (restsIn_of_compile success part within)
  · intro diagnostic rejects
    exact isCounted_of_restsAt short (restsAt_of_rejects rejects)
  · intro warnings
    cases result : (compile source file).run warnings with
    | ok program later =>
        refine Or.inl ⟨program, later, rfl, ?_⟩
        cases generated : program.root.generate with
        | ok code => exact Or.inl ⟨code, rfl⟩
        | error diagnostic => exact Or.inr ⟨diagnostic, rfl⟩
    | error failure later =>
        cases failure with
        | diagnostic diagnostic => exact Or.inr ⟨diagnostic, later, rfl⟩
        | fault fault =>
            exact absurd result
              (neverFaults_compile source file warnings fault later)

/-- The quoted letters take two bytes each. There is a name in the outermost
scope, and no code yet for a branch. -/
def letters : String :=
  "int x if x < 2 \x7b print \"äöü\" \x7d"

theorem never_faults_letters :
    letters.length + 1 < UInt32.size ∧
      (∃ registers, Registers.bumps? (sourceText letters) 25 = some registers ∧
        registers.Keeps (sourceText letters)
          ((Cursor.origin letters "f.code").drop 25)) ∧
      (last ((Entry.step .statementList).run (.start letters "f.code"))).IsSound
        (.origin letters "f.code") ∧
      (∃ program, parse letters "f.code" = .ok program ∧
        program.root.ScopesExist program.scopes ∧
        program.root.Throughout fun node => node.position.IsCounted) ∧
      ∃ program later, (compile letters "f.code").run [] = .ok program later ∧
        ((∃ code, program.root.generate = .ok code) ∨
          ∃ diagnostic, program.root.generate = .error diagnostic) := by
  have short : letters.length + 1 < UInt32.size := by decide
  obtain ⟨⟨_, sound⟩, steps, machine, exist, ⟨counted, _, _⟩, ends⟩ :=
    never_faults letters "f.code" short
  have succeeds : succeeded ((compile letters "f.code").run []) = true := by
    decide +kernel
  refine ⟨short, machine 25, (steps .statementList _ sound).1, ?_, ?_⟩
  · obtain ⟨_, _, success⟩ := exists_ok_of_succeeded succeeds
    obtain ⟨program, _, read, _⟩ := compile_ok.1 success
    exact ⟨program, read, exist program read, counted program read⟩
  · rcases ends [] with compiled | ⟨_, _, rejected⟩
    · exact compiled
    · rw [rejected] at succeeds
      cases succeeds

end Minilang.Program
