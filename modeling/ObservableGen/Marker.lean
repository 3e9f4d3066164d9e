import ObservableGen.Compilation.TypeName
set_option autoImplicit false

/-!
The attribute classes that steer generation, and the three of them that mark what to generate.
-/
namespace ObservableGen

namespace AttributeClass

def notify : TypeName := ⟨"Minimal.Mvvm.NotifyAttribute"⟩

def alsoNotify : TypeName := ⟨"Minimal.Mvvm.AlsoNotifyAttribute"⟩

def customAttribute : TypeName := ⟨"Minimal.Mvvm.CustomAttributeAttribute"⟩

def localize : TypeName := ⟨"Minimal.Mvvm.LocalizeAttribute"⟩

def notifyDataErrorInfo : TypeName := ⟨"Minimal.Mvvm.NotifyDataErrorInfoAttribute"⟩

end AttributeClass

inductive Marker where
  | notify
  | localize
  | notifyDataErrorInfo
deriving DecidableEq, Repr, Inhabited

namespace Marker

def className : Marker → TypeName
  | notify => AttributeClass.notify
  | localize => AttributeClass.localize
  | notifyDataErrorInfo => AttributeClass.notifyDataErrorInfo

def ofClass? (name : TypeName) : Option Marker :=
  [notify, localize, notifyDataErrorInfo].find? fun marker => marker.className == name

def display : Marker → String
  | notify => "Notify"
  | localize => "Localize"
  | notifyDataErrorInfo => "NotifyDataErrorInfo"

def isTypeLevel : Marker → Bool
  | notify => false
  | localize | notifyDataErrorInfo => true

end Marker

end ObservableGen
