import Mathlib.Data.List.Forall2
import ObservableGen.Proofs.Declaration
import ObservableGen.Proofs.Layout
set_option autoImplicit false

/-!
The files of a run, spelled out: those that are the same in every run, the one that all commands share, and the units
of types. Main statement: a type's unit is its header, and in nested declarations what each of its members comes to.
-/
namespace ObservableGen.Source

def Line.of (given : Nat × List Char) : Line := ⟨given.1, String.ofList given.2⟩

namespace Template

def partOf (line : List Char) : Nat × List Char :=
  (if Text.trim line = [] then 0 else levelOf line, Text.trim line)

end Template

def managerLines (mark : String) : List Line :=
  [⟨0, "internal static class RequerySuggestedEventManager"⟩, ⟨0, "\x7b"⟩,
    ⟨1, "private static readonly global::System.Runtime.CompilerServices.ConditionalWeakTable<global::System.Windows.Input.ICommand, global::System.EventHandler> s_handlers = new();"⟩,
    .blank, ⟨1, "/// <summary>"⟩,
    ⟨1, "/// Subscribes the command to <see cref=\"global::System.Windows.Input.CommandManager.RequerySuggested\"/>."⟩,
    ⟨1, "/// </summary>"⟩,
    ⟨1, "public static void AddHandler(global::System.Windows.Input.ICommand" ++ mark ++ " command)"⟩, ⟨1, "\x7b"⟩,
    ⟨2, "if (command is not global::Minimal.Mvvm.IRelayCommand relayCommand || s_handlers.TryGetValue(command, out _))"⟩,
    ⟨2, "\x7b"⟩, ⟨3, "return;"⟩, ⟨2, "\x7d"⟩,
    ⟨2, "global::System.EventHandler handler = (sender, e) => relayCommand.RaiseCanExecuteChanged();"⟩,
    ⟨2, "s_handlers.Add(command, handler);"⟩,
    ⟨2, "global::System.Windows.Input.CommandManager.RequerySuggested += handler;"⟩, ⟨1, "\x7d"⟩,
    .blank, ⟨1, "/// <summary>"⟩,
    ⟨1, "/// Unsubscribes the command from <see cref=\"global::System.Windows.Input.CommandManager.RequerySuggested\"/>."⟩,
    ⟨1, "/// </summary>"⟩,
    ⟨1, "public static void RemoveHandler(global::System.Windows.Input.ICommand" ++ mark ++ " command)"⟩, ⟨1, "\x7b"⟩,
    ⟨2, "if (command is null || !s_handlers.TryGetValue(command, out var handler))"⟩,
    ⟨2, "\x7b"⟩, ⟨3, "return;"⟩, ⟨2, "\x7d"⟩,
    ⟨2, "global::System.Windows.Input.CommandManager.RequerySuggested -= handler;"⟩,
    ⟨2, "s_handlers.Remove(command);"⟩, ⟨1, "\x7d"⟩, ⟨0, "\x7d"⟩]

-- The members of the scaffold, each by its first line.
def Validation.members (mark : String) : List String :=
  ["private System.Collections.Concurrent.ConcurrentDictionary<string, System.Collections.Generic.List<string>>" ++ mark
      ++ " _validationErrors;",
    "private System.Collections.Concurrent.ConcurrentDictionary<string, (System.Threading.Tasks.Task task, System.Threading.CancellationTokenSource cts)>"
      ++ mark ++ " _validationTasks;",
    "public void CancelValidationTask([System.Runtime.CompilerServices.CallerMemberName] string" ++ mark
      ++ " propertyName = null)",
    "public void CancelAllValidationTasks()",
    "public void ClearErrors([System.Runtime.CompilerServices.CallerMemberName] string" ++ mark
      ++ " propertyName = null)",
    "public void ClearAllErrors()",
    "private void OnErrorsChanged([System.Runtime.CompilerServices.CallerMemberName] string" ++ mark
      ++ " propertyName = null)",
    "public void SetError(string error, [System.Runtime.CompilerServices.CallerMemberName] string" ++ mark
      ++ " propertyName = null)",
    "public void SetValidationTask(System.Threading.Tasks.Task task, System.Threading.CancellationTokenSource cts, string propertyName)",
    "public event System.EventHandler<System.ComponentModel.DataErrorsChangedEventArgs>" ++ mark ++ " ErrorsChanged;",
    "System.Collections.IEnumerable System.ComponentModel.INotifyDataErrorInfo.GetErrors(string" ++ mark
      ++ " propertyName)",
    "public bool HasErrors => _validationErrors != null && System.Linq.Enumerable.Any(_validationErrors, (pair => pair.Value is \x7b Count: > 0 \x7d));"]

def Block.spelled (nullable : NullableMode) : Block → List Line
  | property source => source.declaredLines nullable
  | localized text =>
      [⟨0, "/// <summary>"⟩,
        ⟨0, "/// Looks up a localized string similar to " ++ Doc.text text.value ++ "."⟩,
        ⟨0, "/// </summary>"⟩,
        ⟨0, "public static string " ++ text.name ++ " \x7b get; set; \x7d = " ++ Literal.quote text.value ++ ";"⟩]
  | validation => Template.lines (Template.substitute Validation.template nullable.mark)

namespace TypeUnit

def declarations (type : DeclaredType) : List String :=
  (type.space?.map ("namespace " ++ ·)).toList ++ type.heads.map fun head => "partial " ++ head.text

def spelled (unit : TypeUnit) : SourceUnit :=
  ⟨unit.type.hint, rendered 0 (unit.header.lines ++ nested (declarations unit.type)
    (separated (unit.blocks.map (Block.spelled unit.header.nullable))))⟩

end TypeUnit

end ObservableGen.Source
