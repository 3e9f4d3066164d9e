import ObservableGen.Source.Template
import ObservableGen.Text.Segment
set_option autoImplicit false

/-!
The members that keep the validation errors of a class: one fixed text, but for the nullable mark.
-/
namespace ObservableGen.Source

namespace Validation

def template : String :=
  "\n".intercalate
    ["private System.Collections.Concurrent.ConcurrentDictionary<string, System.Collections.Generic.List<string>>\x7b\x7bnullable\x7d\x7d _validationErrors;",
     "private System.Collections.Concurrent.ConcurrentDictionary<string, (System.Threading.Tasks.Task task, System.Threading.CancellationTokenSource cts)>\x7b\x7bnullable\x7d\x7d _validationTasks;",
     "",
     "#region Generated methods for INotifyDataErrorInfo validation",
     "",
     "/// <summary>",
     "/// Cancels the validation task for the specified property.",
     "/// </summary>",
     "/// <param name=\"propertyName\">",
     "/// The name of the property. This parameter may be set by the compiler if called from within a property setter,",
     "/// or it should be specified explicitly.",
     "/// </param>",
     "public void CancelValidationTask([System.Runtime.CompilerServices.CallerMemberName] string\x7b\x7bnullable\x7d\x7d propertyName = null)",
     "\x7b",
     "    if (propertyName is not \x7b Length: > 0 \x7d || _validationTasks is null || !_validationTasks.TryRemove(propertyName, out var validation))",
     "    \x7b",
     "        return;",
     "    \x7d",
     "    var (task, cts) = validation;",
     "    try",
     "    \x7b",
     "        if (!task.IsCompleted)",
     "        \x7b",
     "            cts.Cancel();",
     "        \x7d",
     "    \x7d",
     "    catch (System.ObjectDisposedException)",
     "    \x7b",
     "        //do nothing",
     "    \x7d",
     "\x7d",
     "",
     "/// <summary>",
     "/// Cancels all ongoing validation tasks.",
     "/// </summary>",
     "/// <remarks>",
     "/// It is recommended to call this method during the uninitialization or disposal of the model/object",
     "/// to ensure that no lingering validation tasks remain active.",
     "/// </remarks>",
     "public void CancelAllValidationTasks()",
     "\x7b",
     "    if (_validationTasks == null)",
     "    \x7b",
     "        return;",
     "    \x7d",
     "    System.Collections.Generic.List<System.AggregateException>\x7b\x7bnullable\x7d\x7d exceptions = null;",
     "    foreach (var pair in _validationTasks)",
     "    \x7b",
     "        var (task, cts) = pair.Value;",
     "        try",
     "        \x7b",
     "            if (!task.IsCompleted)",
     "            \x7b",
     "                cts.Cancel();",
     "            \x7d",
     "        \x7d",
     "        catch (System.ObjectDisposedException)",
     "        \x7b",
     "            //do nothing",
     "        \x7d",
     "        catch (System.AggregateException ex)",
     "        \x7b",
     "            (exceptions ??= []).Add(ex);",
     "        \x7d",
     "    \x7d",
     "    _validationTasks.Clear();",
     "    if (exceptions is not null)",
     "    \x7b",
     "        throw new System.AggregateException(exceptions);",
     "    \x7d",
     "\x7d",
     "",
     "/// <summary>",
     "/// Clears validation errors for the specified property.",
     "/// </summary>",
     "/// <param name=\"propertyName\">",
     "/// The name of the property. This parameter may be set by the compiler if called from within a property setter,",
     "/// or it should be specified explicitly.",
     "/// </param>",
     "public void ClearErrors([System.Runtime.CompilerServices.CallerMemberName] string\x7b\x7bnullable\x7d\x7d propertyName = null)",
     "\x7b",
     "    if (propertyName is not \x7b Length: > 0 \x7d || _validationErrors is null || !_validationErrors.TryGetValue(propertyName, out var errors)) return;",
     "    errors.Clear();",
     "    OnErrorsChanged(propertyName);",
     "\x7d",
     "",
     "/// <summary>",
     "/// Clears all validation errors for all properties.",
     "/// </summary>",
     "public void ClearAllErrors()",
     "\x7b",
     "    if (_validationErrors is not \x7b Count: > 0 \x7d) return;",
     "    foreach (var pair in _validationErrors)",
     "    \x7b",
     "        ClearErrors(pair.Key);",
     "    \x7d",
     "    OnErrorsChanged(null);",
     "\x7d",
     "",
     "/// <summary>",
     "/// Triggers the <see cref=\"ErrorsChanged\"/> event for the specified property.",
     "/// </summary>",
     "/// <param name=\"propertyName\">",
     "/// The name of the property. This parameter may be set by the compiler if called from within a property setter,",
     "/// or it should be specified explicitly.",
     "/// </param>",
     "private void OnErrorsChanged([System.Runtime.CompilerServices.CallerMemberName] string\x7b\x7bnullable\x7d\x7d propertyName = null)",
     "\x7b",
     "    ErrorsChanged?.Invoke(this, new System.ComponentModel.DataErrorsChangedEventArgs(propertyName));",
     "\x7d",
     "",
     "/// <summary>",
     "/// Sets an error message for the specified property.",
     "/// </summary>",
     "/// <param name=\"error\">The error message.</param>",
     "/// <param name=\"propertyName\">",
     "/// The name of the property. This parameter may be set by the compiler if called from within a property setter,",
     "/// or it should be specified explicitly.",
     "/// </param>",
     "public void SetError(string error, [System.Runtime.CompilerServices.CallerMemberName] string\x7b\x7bnullable\x7d\x7d propertyName = null)",
     "\x7b",
     "    if (propertyName is not \x7b Length: > 0 \x7d)",
     "    \x7b",
     "        return;",
     "    \x7d",
     "",
     "    (_validationErrors ??= []).AddOrUpdate(",
     "        propertyName,",
     "        addValueFactory: key => [error],",
     "        updateValueFactory: (key, errors) =>",
     "        \x7b",
     "            errors.Add(error);",
     "            return errors;",
     "        \x7d);",
     "",
     "    OnErrorsChanged(propertyName);",
     "\x7d",
     "",
     "/// <summary>",
     "/// Sets a validation task for the specified property.",
     "/// </summary>",
     "/// <param name=\"task\">The validation task.</param>",
     "/// <param name=\"cts\">The cancellation token source for the task.</param>",
     "/// <param name=\"propertyName\">",
     "/// The name of the property. This parameter may be set by the compiler if called from within a property setter,",
     "/// or it should be specified explicitly.",
     "/// </param>",
     "public void SetValidationTask(System.Threading.Tasks.Task task, System.Threading.CancellationTokenSource cts, string propertyName)",
     "\x7b",
     "    if (propertyName is not \x7b Length: > 0 \x7d)",
     "    \x7b",
     "        return;",
     "    \x7d",
     "",
     "    if (_validationTasks?.TryRemove(propertyName, out var oldValidation) == true)",
     "    \x7b",
     "        var (_, oldCts) = oldValidation;",
     "        try",
     "        \x7b",
     "            oldCts.Cancel();",
     "        \x7d",
     "        catch (System.ObjectDisposedException)",
     "        \x7b",
     "            //do nothing",
     "        \x7d",
     "    \x7d",
     "",
     "    (_validationTasks ??= [])[propertyName] = (task, cts);",
     "\x7d",
     "",
     "#endregion",
     "",
     "#region INotifyDataErrorInfo",
     "",
     "/// <summary>",
     "/// Occurs when the validation errors have changed for a property or for the entire object.",
     "/// </summary>",
     "public event System.EventHandler<System.ComponentModel.DataErrorsChangedEventArgs>\x7b\x7bnullable\x7d\x7d ErrorsChanged;",
     "",
     "System.Collections.IEnumerable System.ComponentModel.INotifyDataErrorInfo.GetErrors(string\x7b\x7bnullable\x7d\x7d propertyName)",
     "\x7b",
     "    if (propertyName is not \x7b Length: > 0 \x7d || _validationErrors is null || !_validationErrors.TryGetValue(propertyName, out var errors))",
     "    \x7b",
     "        return System.Array.Empty<string>();",
     "    \x7d",
     "    return errors;",
     "\x7d",
     "",
     "/// <summary>",
     "/// Gets a value that indicates whether the entity has validation errors.",
     "/// </summary>",
     "public bool HasErrors => _validationErrors != null && System.Linq.Enumerable.Any(_validationErrors, (pair => pair.Value is \x7b Count: > 0 \x7d));",
     "",
     "#endregion"]

def lines (nullable : String) : List Line :=
  Template.lines (Template.substitute template nullable)

end Validation

end ObservableGen.Source
