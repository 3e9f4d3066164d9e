import ObservableGen.Source.Template
import ObservableGen.Source.Unit
import ObservableGen.Text.Segment
set_option autoImplicit false

/-!
The class that subscribes commands to the requery event. Its unit is generated once, when some
property makes use of it.
-/
namespace ObservableGen.Source

namespace CommandManager

def className : String := "RequerySuggestedEventManager"

def template : String :=
  "\n".intercalate
    ["internal static class RequerySuggestedEventManager",
     "\x7b",
     "    private static readonly global::System.Runtime.CompilerServices.ConditionalWeakTable<global::System.Windows.Input.ICommand, global::System.EventHandler> s_handlers = new();",
     "",
     "    /// <summary>",
     "    /// Subscribes the command to <see cref=\"global::System.Windows.Input.CommandManager.RequerySuggested\"/>.",
     "    /// </summary>",
     "    public static void AddHandler(global::System.Windows.Input.ICommand\x7b\x7bnullable\x7d\x7d command)",
     "    \x7b",
     "        if (command is not global::Minimal.Mvvm.IRelayCommand relayCommand || s_handlers.TryGetValue(command, out _))",
     "        \x7b",
     "            return;",
     "        \x7d",
     "        global::System.EventHandler handler = (sender, e) => relayCommand.RaiseCanExecuteChanged();",
     "        s_handlers.Add(command, handler);",
     "        global::System.Windows.Input.CommandManager.RequerySuggested += handler;",
     "    \x7d",
     "",
     "    /// <summary>",
     "    /// Unsubscribes the command from <see cref=\"global::System.Windows.Input.CommandManager.RequerySuggested\"/>.",
     "    /// </summary>",
     "    public static void RemoveHandler(global::System.Windows.Input.ICommand\x7b\x7bnullable\x7d\x7d command)",
     "    \x7b",
     "        if (command is null || !s_handlers.TryGetValue(command, out var handler))",
     "        \x7b",
     "            return;",
     "        \x7d",
     "        global::System.Windows.Input.CommandManager.RequerySuggested -= handler;",
     "        s_handlers.Remove(command);",
     "    \x7d",
     "\x7d"]

def unit? (used : Bool) (header : UnitHeader) : Option SourceUnit :=
  if used then
    let lines := Template.lines (Template.substitute template header.nullable.mark)
    some (namespaceUnit header (className ++ ".g.cs") "Minimal.Mvvm" lines)
  else none

theorem manager_unit_hint (used : Bool) (header : UnitHeader) :
    (unit? used header).map SourceUnit.hint = if used then some (className ++ ".g.cs") else none := by
  cases used <;> rfl

theorem manager_used_of_unit (used : Bool) (header : UnitHeader) (unit : SourceUnit)
    (emitted : unit? used header = some unit) : used = true := by
  cases used with
  | true => rfl
  | false => cases emitted

end CommandManager

end ObservableGen.Source
