import Downstream.Failure
import Downstream.Proofs.Text.Halves

/-!
Failures by their kinds: a root that cannot be used and a directory without files are told apart
from everything else.
-/
namespace Downstream.Failure

open Text

theorem configValueKind_ne (failure : Yaml.Failure) :
    configValueKind failure ≠ .invalidRoot ∧ configValueKind failure ≠ .noCodeFiles ∧
      configValueKind failure ≠ .analysis := by
  cases failure <;> simp [configValueKind]

theorem registry_kind_ne (error : RegistryError) :
    (registry error).kind ≠ .invalidRoot ∧ (registry error).kind ≠ .noCodeFiles ∧
      (registry error).kind ≠ .analysis := by
  cases error <;> simp [kind]

theorem unusablePath_kind_ne (error : FileSystem.PathError) :
    (unusablePath error).kind ≠ .invalidRoot ∧ (unusablePath error).kind ≠ .noCodeFiles ∧
      (unusablePath error).kind ≠ .analysis := by
  cases error <;> simp [kind]

theorem kind_eq_invalidRoot_iff {failure : Failure} :
    failure.kind = .invalidRoot ↔ ∃ error, failure = .root error := by
  cases failure with
  | configValue failure => simp [kind, configValueKind_ne]
  | registry error => simp [registry_kind_ne]
  | unusablePath error => simp [unusablePath_kind_ne]
  | _ => simp [kind]

theorem kind_eq_noCodeFiles_iff {failure : Failure} :
    failure.kind = .noCodeFiles ↔ ∃ skipped, failure = .noCodeFiles skipped := by
  cases failure with
  | configValue failure => simp [kind, configValueKind_ne]
  | registry error => simp [registry_kind_ne]
  | unusablePath error => simp [unusablePath_kind_ne]
  | _ => simp [kind]

theorem noHalf_noCodeFiles (skipped : Nat) : NoHalf (noCodeFiles skipped).message.toList := by
  unfold message
  cases skipped with
  | zero =>
    simp only [String.toList_append, noHalf_append]
    decide
  | succ skipped =>
    simp only [String.toList_append, noHalf_append, noHalf_toString_nat]
    decide

end Downstream.Failure
